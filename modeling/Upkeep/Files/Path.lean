import Upkeep.Text.Basic

/-!
# Paths

A path is a text.  Joining puts one path under another and normalizes nothing.
-/

namespace Upkeep

abbrev Path := Text

namespace Path

def isAbsolute (p : Path) : Bool := p.head? == some '/'

/-- `q` under `p`: an absolute `q` stands alone, else one slash is between the two unless `p` is
empty or has it already -/
def join (p q : Path) : Path :=
  if isAbsolute q then q
  else if p.isEmpty || p.getLast? == some '/' then p ++ q
  else p ++ '/' :: q

def components (p : Path) : List Text := go [] p
where
  /-- `held` is the name begun, back to front -/
  go (held : Text) : Text → List Text
    | [] => [held.reverse]
    | c :: cs => if c = '/' then held.reverse :: go [] cs else go (c :: held) cs

end Path

end Upkeep
