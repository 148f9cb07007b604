import Upkeep.Failure
import Upkeep.Files.Disk
import Upkeep.Layout
import Upkeep.Toml.Document

/-!
# Layout files

A layout file is a TOML document that overrides fields of the standard layout.  A field that it
names must have the right type; keys that name no field are passed over.  Of a text that describes
no layout a heading is said and then, after a colon, the words of the reader.
-/

namespace Upkeep

open Toml

namespace Layout

/-! ## fields -/

structure TextField where
  key : String
  get : Layout → Text
  set : Layout → Text → Layout
  set_get : ∀ l, set l (get l) = l

/-- the fields in the order in which a layout file is searched for them -/
def textFields : List TextField :=
  [⟨"cipher_prefs_file", tableFile, fun l v => { l with tableFile := v }, fun _ => rfl⟩,
    ⟨"cipher_prefs_start", tableStart, fun l v => { l with tableStart := v }, fun _ => rfl⟩,
    ⟨"cipher_prefs_end", tableEnd, fun l v => { l with tableEnd := v }, fun _ => rfl⟩,
    ⟨"cipher_suites_file", suitesFile, fun l v => { l with suitesFile := v }, fun _ => rfl⟩,
    ⟨"cipher_suites_marker", suitesMarker, fun l v => { l with suitesMarker := v }, fun _ => rfl⟩,
    ⟨"cipher_suites_end", suitesEnd, fun l v => { l with suitesEnd := v }, fun _ => rfl⟩,
    ⟨"prefs_file", defaultsFile, fun l v => { l with defaultsFile := v }, fun _ => rfl⟩,
    ⟨"pref_namespace", prefNamespace, fun l v => { l with prefNamespace := v }, fun _ => rfl⟩,
    ⟨"proto_header", protocolHeader, fun l v => { l with protocolHeader := v }, fun _ => rfl⟩,
    ⟨"openssl_include_dir", includeDir, fun l v => { l with includeDir := v }, fun _ => rfl⟩,
    ⟨"openssl_hex_prefix", hexPrefix, fun l v => { l with hexPrefix := v }, fun _ => rfl⟩,
    ⟨"openssl_id_marker", idMarker, fun l v => { l with idMarker := v }, fun _ => rfl⟩,
    ⟨"openssl_text_marker", textMarker, fun l v => { l with textMarker := v }, fun _ => rfl⟩]

def headersKey : String := "openssl_headers"

def asText? : Value → Option Text
  | .string t => some t
  | _ => none

def asTexts? : Value → Option (List Text)
  | .array vs => vs.mapM asText?
  | _ => none

def override (t : Table) (l : Layout) (f : TextField) : Option Layout :=
  match t.lookup f.key.toList with
  | none => some l
  | some v => (asText? v).map (f.set l)

def overrideHeaders (t : Table) (l : Layout) : Option Layout :=
  match t.lookup headersKey.toList with
  | none => some l
  | some v => (asTexts? v).map fun hs => { l with headers := hs }

def ofTable (t : Table) : Option Layout := do
  let l ← textFields.foldlM (override t) standard
  overrideHeaders t l

/-! ## files -/

def parse (t : Text) : Option Layout := (Toml.parse t).bind ofTable

def parseMessage : Text := "Failed to parse layout".toList

/-- the reader's words on a text that describes no layout: they tell a fault of the document from one
of a field, and give no place -/
def complaint (t : Text) : Text :=
  match Toml.parse t with
  | none => "the text is no TOML document".toList
  | some _ => "a field has a value of another type".toList

def load (disk : Disk) (path : Path) : Run Layout := do
  let t ← Run.ofExcept ((disk.readText path).mapError (.unreadable path))
  match parse t with
  | none => throw (.badLayout path (parseMessage ++ ": ".toList ++ complaint t))
  | some l => do
    Run.note (.layoutLoaded path)
    pure l

end Layout

end Upkeep
