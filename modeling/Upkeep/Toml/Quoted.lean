import Upkeep.Text.Hex

/-!
# TOML strings

Four kinds: with escapes or literal, on one line or over several.  Each reader starts behind the
opening quotes and gives the string with what follows the closing quotes.
-/

namespace Upkeep.Toml

/-! ## characters -/

/-- a control character that may stand nowhere but at the end of a line -/
def isControl (c : Char) : Bool := (c.toNat < 0x20 && c != '\t') || c.toNat == 0x7F

def isBlank (c : Char) : Bool := c == ' ' || c == '\t'

def escape? (c : Char) : Option Char :=
  if c = 'b' then some (Char.ofNat 0x08)
  else if c = 't' then some '\t'
  else if c = 'n' then some '\n'
  else if c = 'f' then some (Char.ofNat 0x0C)
  else if c = 'r' then some '\r'
  else if c = 'e' then some (Char.ofNat 0x1B)
  else if c = '"' then some '"'
  else if c = '\\' then some '\\'
  else none

def push (c : Option Char) (x : Option (Text × Text)) : Option (Text × Text) :=
  match c, x with
  | some c, some (s, rest) => some (c :: s, rest)
  | _, _ => none

/-! ## on one line -/

def basic? : Text → Option (Text × Text)
  | [] => none
  | c :: r =>
    if c = '"' then some ([], r)
    else if c = '\\' then
      match r with
      | [] => none
      | e :: r =>
        if e = 'x' then
          match r with
          | c1 :: c2 :: r => push (Text.hexChar? [c1, c2]) (basic? r)
          | _ => none
        else if e = 'u' then
          match r with
          | c1 :: c2 :: c3 :: c4 :: r => push (Text.hexChar? [c1, c2, c3, c4]) (basic? r)
          | _ => none
        else if e = 'U' then
          match r with
          | c1 :: c2 :: c3 :: c4 :: c5 :: c6 :: c7 :: c8 :: r =>
            push (Text.hexChar? [c1, c2, c3, c4, c5, c6, c7, c8]) (basic? r)
          | _ => none
        else push (escape? e) (basic? r)
    else if isControl c then none
    else push (some c) (basic? r)

def literal? : Text → Option (Text × Text)
  | [] => none
  | c :: r =>
    if c = '\'' then some ([], r)
    else if isControl c then none
    else push (some c) (literal? r)

/-! ## over several lines

A line end belongs to the string as it is written.  -/

def newline? : Text → Option Text
  | [] => none
  | c :: r =>
    if c = '\n' then some r
    else if c = '\r' then
      match r with
      | [] => none
      | d :: r => if d = '\n' then some r else none
    else none

def endsLine (t : Text) : Bool := (newline? (t.dropWhile isBlank)).isSome

/-- the end of a string at `q` behind its third quote: up to two more quotes belong to the string -/
def closing (q : Char) (t : Text) : Text × Text :=
  match t with
  | a :: b :: r =>
    if a = q then (if b = q then ([q, q], r) else ([q], b :: r)) else ([], t)
  | [a] => if a = q then ([q], []) else ([], t)
  | [] => ([], [])

/-- the rest of a string with escapes over several lines; after a backslash at the end of a line
the string goes on at the next character that is not white space (`skipping`) -/
def longBasic? (skipping : Bool) : Text → Option (Text × Text)
  | [] => none
  | c :: r =>
    if skipping && (isBlank c || c == '\n') then longBasic? true r
    else if c = '\r' then
      match r with
      | [] => none
      | d :: r =>
        if d = '\n' then
          if skipping then longBasic? true r
          else push (some '\r') (push (some '\n') (longBasic? false r))
        else none
    else if c = '\n' then push (some '\n') (longBasic? false r)
    else if c = '"' then
      match r with
      | a :: b :: r' =>
        if a = '"' ∧ b = '"' then some (closing '"' r') else push (some '"') (longBasic? false r)
      | _ => push (some '"') (longBasic? false r)
    else if c = '\\' then
      if endsLine r then longBasic? true r
      else
        match r with
        | [] => none
        | e :: r =>
          if e = 'x' then
            match r with
            | c1 :: c2 :: r => push (Text.hexChar? [c1, c2]) (longBasic? false r)
            | _ => none
          else if e = 'u' then
            match r with
            | c1 :: c2 :: c3 :: c4 :: r => push (Text.hexChar? [c1, c2, c3, c4]) (longBasic? false r)
            | _ => none
          else if e = 'U' then
            match r with
            | c1 :: c2 :: c3 :: c4 :: c5 :: c6 :: c7 :: c8 :: r =>
              push (Text.hexChar? [c1, c2, c3, c4, c5, c6, c7, c8]) (longBasic? false r)
            | _ => none
          else push (escape? e) (longBasic? false r)
    else if isControl c then none
    else push (some c) (longBasic? false r)

def longLiteral? : Text → Option (Text × Text)
  | [] => none
  | c :: r =>
    if c = '\r' then
      match r with
      | [] => none
      | d :: r => if d = '\n' then push (some '\r') (push (some '\n') (longLiteral? r)) else none
    else if c = '\n' then push (some '\n') (longLiteral? r)
    else if c = '\'' then
      match r with
      | a :: b :: r' =>
        if a = '\'' ∧ b = '\'' then some (closing '\'' r') else push (some '\'') (longLiteral? r)
      | _ => push (some '\'') (longLiteral? r)
    else if isControl c then none
    else push (some c) (longLiteral? r)

/-! ## any string -/

def line? : Text → Option (Text × Text)
  | [] => none
  | c :: r => if c = '"' then basic? r else if c = '\'' then literal? r else none

/-- a string with its opening quotes; a line end directly behind three quotes is dropped -/
def string? (t : Text) : Option (Text × Text) :=
  match Text.after? ['"', '"', '"'] t with
  | some r => longBasic? false ((newline? r).getD r)
  | none =>
    match Text.after? ['\'', '\'', '\''] t with
    | some r => longLiteral? ((newline? r).getD r)
    | none => line? t

end Upkeep.Toml
