import PullLexer.Scan.Lexeme
/-!
# Streams of lexemes

A stream reads lexemes from a source on demand. It can be asked to show the next lexeme, to
deliver it, to say whether there is one, and to iterate, which stops for good at the first error
it meets. One slot holds a lexeme that has been read to be shown and is still to be delivered.
-/

namespace PullLexer

open Source

structure LexemeStream (σ : Type) where
  input : σ
  config : Config
  slot : Option Lexeme := none
  /-- Set once iterating has met an error. -/
  stopped : Bool := false

/-- What an operation on a stream gives: its answer, the stream after it, and the events on the
way. -/
structure Reply (α σ : Type) where
  answer : α
  stream : LexemeStream σ
  events : List Event

namespace LexemeStream

variable {σ : Type} [Source σ]

def ofSource (input : σ) (config : Config) : LexemeStream σ := { input, config }

/-- The lexeme that is left in the slot when a read was made to show it. -/
def shownSlot : Except LexError (Option Lexeme) → Option Lexeme
  | .ok lexeme => lexeme
  | .error _ => none

/-- Shows the next lexeme and keeps it in the slot. -/
def peek (s : LexemeStream σ) : Reply (Except LexError (Option Lexeme)) σ :=
  match s.slot with
  | some lexeme => ⟨.ok (some lexeme), s, []⟩
  | none =>
    let reading := Reading.lexeme s.config s.input
    ⟨reading.result, { s with input := reading.rest, slot := shownSlot reading.result },
      reading.events⟩

/-- Delivers the next lexeme; at the end of the source there is none. -/
def next (s : LexemeStream σ) : Reply (Except LexError (Option Lexeme)) σ :=
  match s.slot with
  | some lexeme => ⟨.ok (some lexeme), { s with slot := none }, []⟩
  | none =>
    let reading := Reading.lexeme s.config s.input
    ⟨reading.result, { s with input := reading.rest }, reading.events⟩

def eof (s : LexemeStream σ) : Reply (Except LexError Bool) σ :=
  let shown := s.peek
  ⟨shown.answer.map Option.isNone, shown.stream, shown.events⟩

def isError {α : Type} : Except LexError α → Bool
  | .ok _ => false
  | .error _ => true

/-- Delivers the next lexeme until an error has been met in this way; from then on there is none. -/
def iterate (s : LexemeStream σ) : Reply (Except LexError (Option Lexeme)) σ :=
  if s.stopped then ⟨.ok none, s, []⟩
  else
    let delivered := s.next
    { delivered with
      stream := { delivered.stream with stopped := isError delivered.answer } }

/-- A fault at the position the input has reached. -/
def report (s : LexemeStream σ) (fault : Fault) : LexError := Source.report s.input fault

/-- A bound on the lexemes still to come: what remains of the input, and the slot. -/
def weight (s : LexemeStream σ) : Nat := remaining s.input + s.slot.toList.length

theorem weight_next_lt {s : LexemeStream σ} {lexeme : Lexeme}
    (delivered : s.next.answer = .ok (some lexeme)) : s.next.stream.weight < s.weight := by
  obtain ⟨input, config, slot, stopped⟩ := s
  cases slot with
  | some held => exact Nat.lt_succ_self _
  | none => exact Reading.remaining_lexeme_lt delivered

theorem weight_peek_le (s : LexemeStream σ) : s.peek.stream.weight ≤ s.weight := by
  obtain ⟨input, config, slot, stopped⟩ := s
  cases slot with
  | some held => exact Nat.le_refl _
  | none =>
    have le := Reading.remaining_lexeme_le config input
    cases h : (Reading.lexeme config input).result with
    | error e => simpa [weight, peek, h, shownSlot] using le
    | ok lexeme? =>
      cases lexeme? with
      | none => simpa [weight, peek, h, shownSlot] using le
      | some lexeme =>
        have lt := Reading.remaining_lexeme_lt h
        simpa [weight, peek, h, shownSlot, Nat.succ_le_iff] using lt

theorem weight_iterate_lt {s : LexemeStream σ} {lexeme : Lexeme}
    (delivered : s.iterate.answer = .ok (some lexeme)) : s.iterate.stream.weight < s.weight := by
  unfold iterate at delivered ⊢
  by_cases h : s.stopped
  · rw [if_pos h] at delivered; exact absurd delivered (by simp)
  · rw [if_neg h] at delivered ⊢; exact weight_next_lt delivered

end LexemeStream

end PullLexer
