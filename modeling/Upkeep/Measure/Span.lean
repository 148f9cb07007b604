import Upkeep.Notice
import Upkeep.Text.Lines

/-!
# Function spans

Functions of a C file are found by the lines that start in the first column: a signature opens a
span, a line that begins with an opening brace restarts its count, and a line that begins with a
closing brace ends it.  Braces are not balanced, and a span that is still open at the end of the
file is no function.
-/

namespace Upkeep

/-- a function and the number of its lines, from the opening brace (or from the signature, where
there is no such line) to the closing brace -/
structure Span where
  name : Text
  lineCount : Nat
deriving DecidableEq, Repr

namespace Span

/-! ## signatures -/

/-- macros whose calls look like signatures -/
def macroNames : List Text :=
  ["MOCK_IMPL".toList, "MOCK_DECL".toList, "HANDLE_DECL".toList, "ENABLE_GCC_WARNINGS".toList,
    "ENABLE_GCC_WARNING".toList, "DUMMY_TYPECHECK_INSTANCE".toList, "DISABLE_GCC_WARNING".toList,
    "DISABLE_GCC_WARNINGS".toList]

def isNameStart (c : Char) : Bool := ('a' ≤ c && c ≤ 'z') || ('A' ≤ c && c ≤ 'Z') || c == '_'

def isNameChar (c : Char) : Bool := isNameStart c || ('0' ≤ c && c ≤ '9')

/-- the identifier in the first column that is followed, with or without a comma, by an opening
parenthesis -/
def called? (t : Text) : Option Text :=
  match t with
  | [] => none
  | c :: cs =>
    if isNameStart c then
      match cs.dropWhile isNameChar with
      | '(' :: _ => some (c :: cs.takeWhile isNameChar)
      | ',' :: '(' :: _ => some (c :: cs.takeWhile isNameChar)
      | _ => none
    else none

def signature? (t : Text) : Option Text := (called? t).filter (· ∉ macroNames)

/-! ## the scanner -/

inductive Open where
  | outside
  | signature (name : Text) (start : Nat)
  | body (name : Text) (start : Nat)
deriving DecidableEq, Repr

structure Scanner where
  span : Open
  lineNumber : Nat
deriving DecidableEq, Repr

namespace Scanner

def new : Scanner := ⟨.outside, 0⟩

def feed (s : Scanner) (line : Text) : Scanner × Option Span :=
  let n := s.lineNumber + 1
  match s.span with
  | .outside =>
    match signature? line with
    | some name => (⟨.signature name n, n⟩, none)
    | none => (⟨.outside, n⟩, none)
  | .signature name start =>
    if line.head? = some '{' then (⟨.body name n, n⟩, none)
    else if line.head? = some '}' then (⟨.outside, n⟩, some ⟨name, n - start + 1⟩)
    else (⟨.signature name start, n⟩, none)
  | .body name start =>
    if line.head? = some '}' then (⟨.outside, n⟩, some ⟨name, n - start + 1⟩)
    else (⟨.body name start, n⟩, none)

def notices (s : Scanner) (line : Text) : List Notice :=
  match s.span, called? line with
  | .outside, some name => if name ∈ macroNames then [.macroIgnored name] else []
  | _, _ => []

def feedAll (s : Scanner) : List Text → Noted (List (Option Span))
  | [] => pure []
  | t :: ts => do
    Noted.noteAll (s.notices t)
    let answers ← feedAll (s.feed t).1 ts
    pure ((s.feed t).2 :: answers)

/-- the functions of a file and the faults of its bad lines, in order; a bad line is not counted -/
def items (s : Scanner) : List Line → Noted (List (Except IoFault Span))
  | [] => pure []
  | .error e :: rest => do pure (.error e :: (← items s rest))
  | .ok t :: rest => do
    Noted.noteAll (s.notices t)
    let found ← items (s.feed t).1 rest
    pure ((s.feed t).2.toList.map .ok ++ found)

end Scanner

def ofLines (ls : List Line) : Noted (List (Except IoFault Span)) := Scanner.new.items ls

end Span

end Upkeep
