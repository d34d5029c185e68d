/-!
# Positions in a source

Lines and columns count from 1, in lines and code points; the offset counts UTF-8 bytes from 0.
-/

namespace PullLexer

structure Position where
  line : Nat
  column : Nat
  byteOffset : Nat
deriving DecidableEq, Repr

namespace Position

def start : Position := ⟨1, 1, 0⟩

/-- The position after the character `c`: a newline opens the next line, all else the next
column. -/
def afterChar (p : Position) (c : Char) : Position where
  line := if c = '\n' then p.line + 1 else p.line
  column := if c = '\n' then 1 else p.column + 1
  byteOffset := p.byteOffset + c.utf8Size

/-- The position after each character of a text in turn, the position before it first. -/
def trail (p : Position) : List Char → List Position
  | [] => [p]
  | c :: text => p :: (p.afterChar c).trail text

/-- The position after a whole text. -/
def after (p : Position) (text : List Char) : Position :=
  text.foldl afterChar p

theorem after_cons (p : Position) (c : Char) (text : List Char) :
    p.after (c :: text) = (p.afterChar c).after text := rfl

theorem after_append (p : Position) (s t : List Char) :
    p.after (s ++ t) = (p.after s).after t :=
  List.foldl_append

end Position

/-- Where an identifier stands: a file and a line of it. -/
structure Coord where
  filename : String
  line : Nat
deriving DecidableEq, Repr

/-- The file and the line with a colon between. -/
def Coord.text (c : Coord) : String :=
  c.filename ++ ":" ++ toString c.line

end PullLexer
