import Upkeep.Toml.Quoted
import Upkeep.Toml.Value

/-!
# TOML words

Values that are written without quotes or brackets: truth values, integers, floats, dates and times.
A reader takes a whole word, or answers that the word is none of its kind.
-/

namespace Upkeep.Toml

/-! ## digits -/

def isDigit (c : Char) : Bool := '0' ≤ c && c ≤ '9'

/-- digits with single underscores between them, without the underscores -/
def grouped? (ok : Char → Bool) : Text → Option Text
  | [] => none
  | [c] => if ok c then some [c] else none
  | c :: d :: r =>
    if ok c then
      if d = '_' then (grouped? ok r).map (c :: ·) else (grouped? ok (d :: r)).map (c :: ·)
    else none

def number (base : Nat) (digits : Text) : Nat :=
  digits.foldl (fun n c => base * n + (Text.hexDigit? c).getD 0) 0

def cut (stop : Char → Bool) (t : Text) : Text × Option Text :=
  match t.dropWhile (fun c => !stop c) with
  | [] => (t, none)
  | _ :: r => (t.takeWhile (fun c => !stop c), some r)

def sign (t : Text) : Bool × Text :=
  match t with
  | c :: r => if c = '-' then (true, r) else if c = '+' then (false, r) else (false, t)
  | [] => (false, [])

/-- decimal digits that do not begin with a zero, or a zero alone -/
def plain? (t : Text) : Option Text :=
  (grouped? isDigit t).filter fun ds => ds.length = 1 || ds.head? != some '0'

/-! ## integers -/

/-- the digits of a base other than ten, behind the letter of the base -/
def inBase? (base : Nat) (t : Text) : Option Nat :=
  (grouped? (fun c => (Text.hexDigit? c).any (· < base)) t).map (number base)

/-- an integer of at most 128 bits -/
def integer? (t : Text) : Option Int := do
  let n : Int ←
    match t with
    | '0' :: 'x' :: r => (inBase? 16 r).map Int.ofNat
    | '0' :: 'o' :: r => (inBase? 8 r).map Int.ofNat
    | '0' :: 'b' :: r => (inBase? 2 r).map Int.ofNat
    | _ => (plain? (sign t).2).map fun ds =>
      if (sign t).1 then -(number 10 ds : Int) else (number 10 ds : Int)
  if -(Nat.pow 2 127 : Int) ≤ n ∧ n < (Nat.pow 2 128 : Int) then some n else none

/-! ## floats -/

/-- `m * 10 ^ e` rounds to a finite binary64 number; the bound lies half-way between the greatest
one and the next power of two -/
def isFinite (m : Nat) (e : Int) : Bool :=
  let size : Int := (Nat.toDigits 10 m).length + e
  if m == 0 || size ≤ 300 then true
  else if 310 < size then false
  else
    let bound := Nat.pow 2 1024 - Nat.pow 2 970
    if 0 ≤ e then m * Nat.pow 10 e.toNat < bound else m < bound * Nat.pow 10 (-e).toNat

def float? (t : Text) : Option Unit :=
  let body := (sign t).2
  if body = "inf".toList || body = "nan".toList then some ()
  else do
    let (mantissa, exponent) := cut (fun c => c == 'e' || c == 'E') body
    let (whole, fraction) := cut (· == '.') mantissa
    let whole ← plain? whole
    let fraction ←
      match fraction with
      | none => some []
      | some f => grouped? isDigit f
    let e : Int ←
      match exponent with
      | none => if fraction.isEmpty then none else some 0
      | some e => (grouped? isDigit (sign e).2).map fun ds =>
        if (sign e).1 then -(number 10 ds : Int) else (number 10 ds : Int)
    if isFinite (number 10 (whole ++ fraction)) (e - fraction.length) then some () else none

/-! ## dates and times -/

def field? (n lo hi : Nat) (t : Text) : Option (Nat × Text) :=
  let ds := t.take n
  if ds.length = n ∧ ds.all isDigit ∧ lo ≤ number 10 ds ∧ number 10 ds ≤ hi then
    some (number 10 ds, t.drop n)
  else none

def daysIn (year month : Nat) : Nat :=
  if month = 2 then
    if year % 4 = 0 ∧ (year % 100 ≠ 0 ∨ year % 400 = 0) then 29 else 28
  else if month = 4 ∨ month = 6 ∨ month = 9 ∨ month = 11 then 30
  else 31

def date? (t : Text) : Option Text := do
  let (year, t) ← field? 4 0 9999 t
  let (month, t) ← field? 2 1 12 (← Text.after? ['-'] t)
  let (_, t) ← field? 2 1 (daysIn year month) (← Text.after? ['-'] t)
  pure t

/-- what follows the fraction of a second, if there is one; it has at least one digit -/
def fraction? (t : Text) : Option Text :=
  match Text.after? ['.'] t with
  | none => some t
  | some r => if (r.takeWhile isDigit).isEmpty then none else some (r.dropWhile isDigit)

def clock? (t : Text) : Option Text := do
  let (_, t) ← field? 2 0 23 t
  let (_, t) ← field? 2 0 59 (← Text.after? [':'] t)
  match Text.after? [':'] t with
  | none => pure t
  | some t => do
    let (_, t) ← field? 2 0 60 t
    fraction? t

def offset? (t : Text) : Option Text :=
  match t with
  | [] => some []
  | c :: r =>
    if c = 'Z' ∨ c = 'z' then some r
    else if c = '+' ∨ c = '-' then do
      let (_, t) ← field? 2 0 23 r
      let (_, t) ← field? 2 0 59 (← Text.after? [':'] t)
      pure t
    else none

def moment? (t : Text) : Option Unit := do
  let rest ←
    match date? t with
    | none => clock? t
    | some [] => some []
    | some (c :: r) => if c = 'T' ∨ c = 't' ∨ c = ' ' then (clock? r).bind offset? else none
  if rest.isEmpty then some () else none

/-! ## words -/

def isWordChar (c : Char) : Bool :=
  isDigit c || ('a' ≤ c && c ≤ 'z') || ('A' ≤ c && c ≤ 'Z') || c == '_' || c == '+' || c == '-' ||
    c == '.' || c == ':'

def ofWord? (t : Text) : Option Value :=
  if t = "true".toList then some (.boolean true)
  else if t = "false".toList then some (.boolean false)
  else
    match integer? t with
    | some n => some (.integer n)
    | none =>
      if (float? t).isSome then some (.float t)
      else if (moment? t).isSome then some (.moment t)
      else none

/-- the word at the front; a space between a date and a time belongs to it -/
def word (t : Text) : Text × Text :=
  let w := t.takeWhile isWordChar
  let rest := t.dropWhile isWordChar
  if date? w == some [] then
    match rest with
    | ' ' :: c :: r =>
      if isDigit c then
        (w ++ ' ' :: (c :: r).takeWhile isWordChar, (c :: r).dropWhile isWordChar)
      else (w, rest)
    | _ => (w, rest)
  else (w, rest)

def scalar? (t : Text) : Option (Value × Text) :=
  (ofWord? (word t).1).map (·, (word t).2)

end Upkeep.Toml
