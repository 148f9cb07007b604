import Upkeep.Text.Basic

/-!
# TOML values

A document is a table of values under keys.  Tables remember how they came about, because that
decides what may still be added to them.
-/

namespace Upkeep.Toml

/-- how a table came about -/
inductive Form where
  | header
  /-- as a name on the way to another header -/
  | implied
  | dotted
  /-- between braces; nothing can be added to it -/
  | inline
deriving DecidableEq, Repr

inductive Value where
  | string (text : Text)
  | integer (n : Int)
  | float (literal : Text)
  | boolean (b : Bool)
  | moment (literal : Text)
  | array (items : List Value)
  | table (form : Form) (entries : List (Text × Value))
  /-- tables that share a header, the last one first -/
  | tables (items : List (List (Text × Value)))

abbrev Table := List (Text × Value)

end Upkeep.Toml
