import Upkeep.Files.Path

/-!
# Layouts

A layout says where the source tables are in the two trees, by which lines they start and end, and
how OpenSSL names its macros.
-/

namespace Upkeep

structure Layout where
  tableFile : Path
  /-- beginning of the line that opens the preference table -/
  tableStart : Text
  /-- beginning of the trimmed line that closes the preference table -/
  tableEnd : Text
  suitesFile : Path
  /-- piece of the line that opens the suite array -/
  suitesMarker : Text
  /-- beginning of the line that closes the suite array -/
  suitesEnd : Text
  defaultsFile : Path
  /-- beginning of the names of the preferences that are kept -/
  prefNamespace : Text
  protocolHeader : Path
  includeDir : Path
  /-- headers to scan, in order -/
  headers : List Text
  /-- beginning of an OpenSSL id that is shortened to `0x` -/
  hexPrefix : Text
  idMarker : Text
  /-- what stands for `idMarker` in the name of the matching text macro -/
  textMarker : Text
deriving DecidableEq, Repr

namespace Layout

def standard : Layout where
  tableFile := "security/manager/ssl/nsNSSComponent.cpp".toList
  tableStart := "static const CipherPref sCipherPrefs[]".toList
  tableEnd := "\x7b nullptr, 0\x7d".toList
  suitesFile := "security/nss/lib/ssl/ssl3con.c".toList
  suitesMarker := "ssl3CipherSuiteCfg cipherSuites[".toList
  suitesEnd := "\x7d;".toList
  defaultsFile := "netwerk/base/security-prefs.js".toList
  prefNamespace := "security.ssl3".toList
  protocolHeader := "security/nss/lib/ssl/sslproto.h".toList
  includeDir := "include/openssl".toList
  headers := ["ssl3.h".toList, "ssl.h".toList, "ssl2.h".toList, "ssl23.h".toList, "tls1.h".toList]
  hexPrefix := "0x0300".toList
  idMarker := "_CK_".toList
  textMarker := "_TXT_".toList

def headerPaths (l : Layout) (root : Path) : List Path :=
  l.headers.map fun h => (root.join l.includeDir).join h

end Layout

end Upkeep
