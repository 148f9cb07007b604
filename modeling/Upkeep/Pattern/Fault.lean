import Upkeep.Text.Basic

/-!
# Faults in the text of a pattern

A fault has a kind and a place, and some have an earlier place that they clash with.  A report shows
the text with both places underlined, and says what is wrong.
-/

namespace Upkeep.Pattern

/-- a stretch of the text of a pattern, by positions; the end does not belong to it -/
structure Place where
  start : Nat
  stop : Nat
deriving DecidableEq, Repr

def Place.at (n : Nat) : Place := ⟨n, n + 1⟩

def Place.before (n : Nat) : Place := ⟨n, n⟩

inductive FaultKind where
  | classEscapeInvalid | classRangeInvalid | classRangeLiteral | classUnclosed
  | decimalInvalid
  | escapeHexEmpty | escapeHexInvalid | escapeHexInvalidDigit | escapeUnexpectedEnd
  | escapeUnrecognized
  | flagDanglingNegation | flagDuplicate | flagRepeatedNegation | flagUnexpectedEnd
  | flagUnrecognized
  | groupNameDuplicate | groupNameEmpty | groupNameInvalid | groupNameUnexpectedEnd
  | groupUnclosed | groupUnopened
  | nestedTooDeep (limit : Nat)
  | repetitionCountInvalid | repetitionCountEmpty | repetitionCountUnclosed | repetitionMissing
  | wordEdgeUnclosed | wordEdgeUnrecognized | wordEdgeUnexpectedEnd
  | categoryInvalid | backreference | lookAround
  | unicodeNotAllowed | invalidUtf8 | propertyNotFound | propertyValueNotFound
deriving DecidableEq, Repr

def FaultKind.message : FaultKind → String
  | classEscapeInvalid => "invalid escape sequence found in character class"
  | classRangeInvalid => "invalid character class range, the start must be <= the end"
  | classRangeLiteral => "invalid range boundary, must be a literal"
  | classUnclosed => "unclosed character class"
  | decimalInvalid => "decimal literal invalid"
  | escapeHexEmpty => "hexadecimal literal empty"
  | escapeHexInvalid => "hexadecimal literal is not a Unicode scalar value"
  | escapeHexInvalidDigit => "invalid hexadecimal digit"
  | escapeUnexpectedEnd => "incomplete escape sequence, reached end of pattern prematurely"
  | escapeUnrecognized => "unrecognized escape sequence"
  | flagDanglingNegation => "dangling flag negation operator"
  | flagDuplicate => "duplicate flag"
  | flagRepeatedNegation => "flag negation operator repeated"
  | flagUnexpectedEnd => "expected flag but got end of regex"
  | flagUnrecognized => "unrecognized flag"
  | groupNameDuplicate => "duplicate capture group name"
  | groupNameEmpty => "empty capture group name"
  | groupNameInvalid => "invalid capture group character"
  | groupNameUnexpectedEnd => "unclosed capture group name"
  | groupUnclosed => "unclosed group"
  | groupUnopened => "unopened group"
  | nestedTooDeep limit =>
    "exceed the maximum number of nested parentheses/brackets (" ++ toString limit ++ ")"
  | repetitionCountInvalid => "invalid repetition count range, the start must be <= the end"
  | repetitionCountEmpty => "repetition quantifier expects a valid decimal"
  | repetitionCountUnclosed => "unclosed counted repetition"
  | repetitionMissing => "repetition operator missing expression"
  | wordEdgeUnclosed =>
    "special word boundary assertion is either unclosed or contains an invalid character"
  | wordEdgeUnrecognized => "unrecognized special word boundary assertion, " ++
    "valid choices are: start, end, start-half or end-half"
  | wordEdgeUnexpectedEnd => "found either the beginning of a special word boundary or a bounded " ++
    "repetition on a \\b with an opening brace, but no closing brace"
  | categoryInvalid => "invalid Unicode character class"
  | backreference => "backreferences are not supported"
  | lookAround => "look-around, including look-ahead and look-behind, is not supported"
  | unicodeNotAllowed => "Unicode not allowed here"
  | invalidUtf8 => "pattern can match invalid UTF-8"
  | propertyNotFound => "Unicode property not found"
  | propertyValueNotFound => "Unicode property value not found"

structure Fault where
  kind : FaultKind
  place : Place
  earlier : Option Place
deriving DecidableEq, Repr

namespace Fault

/-! ## lines and columns -/

/-- the lines of the text, without their ends; a carriage return in front of a line feed belongs
to the end of the line -/
def lines (t : Text) : List Text := go [] t
where
  go (held : Text) : Text → List Text
    | [] => if held.isEmpty then [] else [held.reverse]
    | c :: cs =>
      if c = '\n' then
        (match held with
          | '\r' :: line => line.reverse
          | line => line.reverse) :: go [] cs
      else go (c :: held) cs

/-- how many lines lie before a position -/
def lineOf (t : Text) (n : Nat) : Nat := (t.take n).count '\n'

/-- how many characters of its line lie before a position -/
def columnOf (t : Text) (n : Nat) : Nat := ((t.take n).reverse.takeWhile (· ≠ '\n')).length

def inOneLine (t : Text) (p : Place) : Bool := lineOf t p.start == lineOf t p.stop

/-! ## the report -/

def places (f : Fault) : List Place :=
  match f.earlier with
  | none => [f.place]
  | some e =>
    if e.start < f.place.start ∨ (e.start = f.place.start ∧ e.stop ≤ f.place.stop) then [e, f.place]
    else [f.place, e]

/-- carets under places of a line, given by their columns, where `done` columns are written -/
def underline (done : Nat) : List (Nat × Nat) → Text
  | [] => []
  | (a, b) :: rest =>
    let blanks := a - done
    let carets := max 1 (b - a)
    List.replicate blanks ' ' ++ List.replicate carets '^' ++
      underline (done + blanks + carets) rest

def padded (width n : Nat) : Text :=
  let digits := (toString n).toList
  List.replicate (width - digits.length) ' ' ++ digits

/-- the text of the pattern with the places underlined; `width` is that of the line numbers, which
are left out if it is zero -/
def notated (t : Text) (width : Nat) (ps : List Place) : Text :=
  (lines t).zipIdx.flatMap fun (line, i) =>
    let margin := if width = 0 then "    ".toList else padded width (i + 1) ++ ": ".toList
    let here := (ps.filter fun p => inOneLine t p && lineOf t p.start == i).map fun p =>
      (columnOf t p.start, columnOf t p.stop)
    margin ++ line ++ ['\n'] ++
      (if here.isEmpty then []
      else List.replicate margin.length ' ' ++ underline 0 here ++ ['\n'])

def stretch (t : Text) (p : Place) : String :=
  "on line " ++ toString (lineOf t p.start + 1) ++ " (column " ++
    toString (columnOf t p.start + 1) ++ ") through line " ++ toString (lineOf t p.stop + 1) ++
    " (column " ++ toString (columnOf t p.stop) ++ ")\n"

def report (t : Text) (f : Fault) : Text :=
  let ps := f.places
  let tail := "error: ".toList ++ f.kind.message.toList
  "regex parse error:\n".toList ++
    if t.contains '\n' then
      let count := (lines t).length + if t.getLast? = some '\n' then 1 else 0
      let width := if count ≤ 1 then 0 else (toString count).length
      let rule := List.replicate 79 '~' ++ ['\n']
      rule ++ notated t width ps ++ rule ++
        (ps.filter fun p => !inOneLine t p).flatMap (fun p => (stretch t p).toList) ++ tail
    else notated t 0 ps ++ tail

end Fault

end Upkeep.Pattern
