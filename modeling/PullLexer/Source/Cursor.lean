import PullLexer.Source
/-!
# Cursors

A source held in memory: the text that has not been taken yet, and the position reached. It can be
kept whole as well, and what is left of it be found by the byte offset of the position.
-/

namespace PullLexer

structure Cursor where
  filename : String
  position : Position
  rest : List Char
deriving DecidableEq, Repr

namespace Cursor

/-- A cursor at the start of a text. -/
def ofString (filename source : String) : Cursor := ⟨filename, .start, source.toList⟩

/-- The text that has not been taken yet. -/
def restText (s : Cursor) : String := String.ofList s.rest

def next (s : Cursor) : Option Char × Cursor :=
  match s.rest with
  | [] => (none, s)
  | c :: rest => (some c, ⟨s.filename, s.position.afterChar c, rest⟩)

instance : Source Cursor where
  peek s := s.rest.head?
  next := next
  filename := filename
  line s := s.position.line
  position := position
  remaining s := s.rest.length
  progress s := by
    unfold next
    cases s.rest with
    | nil => exact .inr ⟨rfl, rfl⟩
    | cons c rest => exact .inl (Nat.lt_succ_self _)

/-- The cursor after `n` more characters, or at the end of the text if there are fewer. -/
def drop (s : Cursor) (n : Nat) : Cursor :=
  ⟨s.filename, s.position.after (s.rest.take n), s.rest.drop n⟩

theorem peek_eq (s : Cursor) : Source.peek s = s.rest.head? := rfl

theorem next_eq (s : Cursor) : Source.next s = (s.rest.head?, s.drop 1) := by
  obtain ⟨filename, position, rest⟩ := s
  cases rest <;> rfl

theorem position_drop (s : Cursor) (n : Nat) :
    (s.drop n).position = s.position.after (s.rest.take n) := rfl

end Cursor

/-- A reader that holds the whole source, and reads at the byte offset of its position. -/
structure SliceReader where
  filename : String
  source : String
  position : Position

namespace SliceReader

def ofString (filename source : String) : SliceReader := ⟨filename, source, .start⟩

/-- The text from the byte offset on. There is none if the offset falls inside a character or behind
the end of the source. -/
def restText? (s : SliceReader) : Option String :=
  if valid : String.Pos.Raw.IsValid s.source ⟨s.position.byteOffset⟩ then
    some (s.source.sliceFrom (s.source.pos _ valid)).copy
  else none

def peek? (s : SliceReader) : Option (Option Char) := s.restText?.map (·.toList.head?)

def next? (s : SliceReader) : Option (Option Char × SliceReader) :=
  s.peek?.map fun
    | none => (none, s)
    | some c => (some c, { s with position := s.position.afterChar c })

end SliceReader

end PullLexer
