import Upkeep.Toml.Scalar
import Upkeep.Toml.Table

/-!
# TOML documents

A document is a sequence of statements, each on lines of its own: `key = value` pairs and the
headers of tables.  `parse` reads the statements and builds the table that they describe; it has no
answer for a text that is no document.
-/

namespace Upkeep.Toml

/-! ## white space and comments -/

def skipBlank (t : Text) : Text := t.dropWhile isBlank

/-- what follows a comment, which reaches to the end of its line; without one nothing is skipped -/
def comment? (t : Text) : Option Text :=
  match t with
  | '#' :: r =>
    let rest := r.dropWhile fun c => !isControl c
    match rest with
    | [] => some []
    | _ => (newline? rest).map fun _ => rest
  | _ => some t

/-- what follows white space, comments and line ends; `fuel` bounds the number of lines -/
def skipLines? : Nat → Text → Option Text
  | 0, _ => none
  | fuel + 1, t => do
    let t ← comment? (skipBlank t)
    match newline? t with
    | some r => skipLines? fuel r
    | none => pure t

def gap? (t : Text) : Option Text := skipLines? (t.length + 1) t

def lineEnd? (t : Text) : Option Text := do
  let t ← comment? (skipBlank t)
  match t with
  | [] => pure []
  | _ => newline? t

/-! ## keys -/

def isKeyChar (c : Char) : Bool :=
  isDigit c || ('a' ≤ c && c ≤ 'z') || ('A' ≤ c && c ≤ 'Z') || c == '_' || c == '-'

def name? (t : Text) : Option (Text × Text) :=
  match t.takeWhile isKeyChar with
  | [] => line? t
  | c :: n => some (c :: n, t.dropWhile isKeyChar)

def names? : Nat → Text → Option (List Text × Text)
  | 0, _ => none
  | fuel + 1, t => do
    let (n, t) ← name? (skipBlank t)
    match Text.after? ['.'] (skipBlank t) with
    | none => pure ([n], skipBlank t)
    | some t => do
      let (ns, t) ← names? fuel t
      pure (n :: ns, t)

def maxNames : Nat := 80

def key? (t : Text) : Option (List Text × Text) := do
  let (names, t) ← names? (t.length + 1) t
  if names.length ≤ maxNames then pure (names, t) else none

/-! ## values -/

/-- the items of a sequence up to the bracket `close`, with commas between them; a comma may follow
the last one -/
def items? {α : Type} (close : Char) (item : Text → Option (α × Text)) :
    Nat → Text → Option (List α × Text)
  | 0, _ => none
  | fuel + 1, t => do
    let t ← gap? t
    match Text.after? [close] t with
    | some r => pure ([], r)
    | none => do
      let (x, t) ← item t
      let t ← gap? t
      match Text.after? [','] t with
      | some t => do
        let (xs, t) ← items? close item fuel t
        pure (x :: xs, t)
      | none => do
        let t ← Text.after? [close] t
        pure ([x], t)

/-- a key and its value, read by `value`; `space?` passes over what may stand around the sign
between them -/
def pair? (space? : Text → Option Text) (value : Text → Option (Value × Text)) (t : Text) :
    Option ((List Text × Value) × Text) := do
  let (key, t) ← key? t
  let t ← Text.after? ['='] (← space? t)
  let (v, t) ← value (← space? t)
  pure ((key, v), t)

/-- a value in which brackets are nested at most `depth` deep; between braces line ends and comments
may stand wherever blanks may, but not inside a key -/
def value? : Nat → Text → Option (Value × Text)
  | 0, t =>
    match string? t with
    | some (s, r) => some (.string s, r)
    | none => scalar? t
  | depth + 1, t =>
    match t with
    | '[' :: r => (items? ']' (value? depth) (r.length + 1) r).map fun x => (.array x.1, x.2)
    | '{' :: r => do
      let (ps, t) ← items? '}' (pair? gap? (value? depth)) (r.length + 1) r
      let entries ← Table.enterAll [] ps
      pure (.table .inline entries, t)
    | _ =>
      match string? t with
      | some (s, r) => some (.string s, r)
      | none => scalar? t

def maxDepth : Nat := 80

/-! ## statements -/

inductive Statement where
  | pair (key : List Text) (value : Value)
  /-- the header of a table; `shared` headers collect tables -/
  | header (shared : Bool) (key : List Text)

def header? (t : Text) : Option (Statement × Text) :=
  match Text.after? ['[', '['] t with
  | some t => do
    let (key, t) ← key? t
    let t ← Text.after? [']', ']'] t
    pure (.header true key, t)
  | none => do
    let (key, t) ← key? (← Text.after? ['['] t)
    let t ← Text.after? [']'] t
    pure (.header false key, t)

def statement? (t : Text) : Option (Statement × Text) :=
  match t with
  | '[' :: _ => header? t
  | _ => (pair? (some ∘ skipBlank) (value? maxDepth) t).map fun x => (.pair x.1.1 x.1.2, x.2)

def statements? : Nat → Text → Option (List Statement)
  | 0, _ => none
  | fuel + 1, t => do
    let t ← gap? t
    match t with
    | [] => pure []
    | _ => do
      let (s, t) ← statement? t
      let ss ← statements? fuel (← lineEnd? t)
      pure (s :: ss)

/-! ## the table of a document -/

def leadingPairs : List Statement → List (List Text × Value) × List Statement
  | .pair k v :: rest => ((k, v) :: (leadingPairs rest).1, (leadingPairs rest).2)
  | ss => ([], ss)

def build? : Nat → Table → List Statement → Option Table
  | _, t, [] => some t
  | 0, _, _ :: _ => none
  | fuel + 1, t, .pair k v :: rest => (t.enter k v).bind (build? fuel · rest)
  | fuel + 1, t, .header shared k :: rest =>
    let fill := fun u : Table => u.enterAll (leadingPairs rest).1
    (if shared then t.addToTables k fill else t.addTable k fill).bind
      (build? fuel · (leadingPairs rest).2)

def skipMark (t : Text) : Text :=
  match t with
  | c :: r => if c.toNat = 0xFEFF then r else t
  | [] => []

def parse (t : Text) : Option Table := do
  let t := skipMark t
  let ss ← statements? (t.length + 1) t
  build? (ss.length + 1) [] ss

end Upkeep.Toml
