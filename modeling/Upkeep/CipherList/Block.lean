import Upkeep.Text.Basic

/-!
# Blocks

The generated file has one block for each cipher.  A block names the cipher twice, once for
compilers that know the macro and once for those that do not.
-/

namespace Upkeep

structure Block where
  /-- the protocol identifier in lower case -/
  hex : Text
  /-- the OpenSSL text macro, or the suite itself where there is none -/
  macroName : Text
  unnamed : Bool
deriving DecidableEq, Repr

namespace Block

def lines (b : Block) : List Text :=
  (if b.unnamed then ["/* No openssl macro found for ".toList ++ b.hex ++ " */".toList] else []) ++
  ["#ifdef ".toList ++ b.macroName,
    "    CIPHER(".toList ++ b.hex ++ ", ".toList ++ b.macroName ++ ")".toList,
    "#else".toList,
    "   XCIPHER(".toList ++ b.hex ++ ", ".toList ++ b.macroName ++ ")".toList,
    "#endif".toList]

/-- the block as text, without a line feed at its end -/
def text (b : Block) : Text := ['\n'].intercalate b.lines

end Block

end Upkeep
