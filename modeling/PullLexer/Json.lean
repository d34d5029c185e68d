import PullLexer.Numeric.Binary64
/-!
# JSON values

The values that lexemes and events are written as and configurations are read from. Whole numbers
and floating-point numbers are distinct, and an object keeps its members in the order they are
written.
-/

namespace PullLexer

inductive Json
  | null
  | bool (b : Bool)
  | int (n : Int)
  | float (x : Binary64)
  | str (s : String)
  | arr (elements : List Json)
  | obj (members : List (String × Json))
deriving Inhabited

namespace Json

/-- A number if `x` is finite; infinities and not-a-number have no JSON number. -/
def ofBinary64 (x : Binary64) : Json :=
  if x.isFinite then .float x else .null

def ofStrings (texts : List String) : Json := .arr (texts.map .str)

def ofOption {α : Type} (write : α → Json) : Option α → Json
  | none => .null
  | some a => write a

end Json

end PullLexer
