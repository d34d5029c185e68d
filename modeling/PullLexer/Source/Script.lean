import PullLexer.Source
/-!
# Scripts

A source given cell by cell. Each cell says which character is shown, which one is taken and on
which line it stands, so that a script can show one character and hand out another, or none.
-/

namespace PullLexer

structure Cell where
  shown : Option Char
  taken : Option Char
  line : Nat
deriving DecidableEq, Repr

/-- The cells that have not been used up yet, and the number of those that have. -/
structure Script where
  filename : String
  index : Nat
  rest : List Cell
deriving DecidableEq, Repr

namespace Script

def ofCells (filename : String) (cells : List Cell) : Script := ⟨filename, 0, cells⟩

def peek (s : Script) : Option Char := s.rest.head?.bind Cell.shown

/-- Uses up a cell, also one that hands out no character; past the last cell nothing changes. -/
def next (s : Script) : Option Char × Script :=
  match s.rest with
  | [] => (none, s)
  | cell :: rest => (cell.taken, ⟨s.filename, s.index + 1, rest⟩)

/-- The line of the next cell; past the last cell there is none, and the line is 0. -/
def line (s : Script) : Nat := (s.rest.head?.map Cell.line).getD 0

instance : Source Script where
  peek := peek
  next := next
  filename := filename
  line := line
  position s := ⟨s.line, s.index + 1, s.index⟩
  remaining s := s.rest.length
  progress s := by
    unfold next peek
    cases s.rest with
    | nil => exact .inr ⟨rfl, rfl⟩
    | cons cell rest => exact .inl (Nat.lt_succ_self _)

end Script

end PullLexer
