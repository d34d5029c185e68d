import PullLexer.Phase
import PullLexer.Source
/-!
# Runs and readings

Taking characters for as long as the one that is shown is allowed. What is allowed may depend on
what was shown before. A run collects the characters that are taken and ends early where none is.
What is made of them is a reading. Events are part of it, so that a read needs nothing but its
source.
-/

namespace PullLexer

open Source

/-- The characters taken, the state of the rule that allowed them, and the source after them. -/
structure Run (β σ : Type) where
  text : List Char
  state : β
  rest : σ

namespace Run

variable {σ : Type} [Source σ] {β : Type}

/-- Takes a run by a rule that refuses a shown character or gives the next state; `taken` are the
characters so far, the last one first. -/
def takeBy (rule : β → Char → Option β) (state : β) (input : σ) (taken : List Char) : Run β σ :=
  match _shown : peek input with
  | none => ⟨taken.reverse, state, input⟩
  | some c =>
    match rule state c with
    | none => ⟨taken.reverse, state, input⟩
    | some state =>
      match (next input).1 with
      | none => ⟨taken.reverse, state, (next input).2⟩
      | some given => takeBy rule state (next input).2 (given :: taken)
termination_by remaining input
decreasing_by exact remaining_next_lt_of_peek _shown

/-- Takes characters for as long as those shown satisfy `p`. -/
def takeWhile (p : Char → Bool) (input : σ) : Run Unit σ :=
  takeBy (fun _ c => if p c then some () else none) () input []

private theorem remaining_takeBy_le (rule : β → Char → Option β) (state : β) (input : σ)
    (taken : List Char) : remaining (takeBy rule state input taken).rest ≤ remaining input := by
  fun_induction takeBy rule state input taken with
  | case1 => exact Nat.le_refl _
  | case2 => exact Nat.le_refl _
  | case3 => exact remaining_next_le _
  | case4 _ input _ _ _ _ _ _ _ ih => exact Nat.le_trans ih (remaining_next_le input)

theorem remaining_takeBy_lt {rule : β → Char → Option β} {state : β} {input : σ} {c : Char}
    (taken : List Char) (shown : peek input = some c) (allowed : (rule state c).isSome) :
    remaining (takeBy rule state input taken).rest < remaining input := by
  obtain ⟨state', hrule⟩ := Option.isSome_iff_exists.1 allowed
  have hlt := remaining_next_lt_of_peek shown
  rw [takeBy]
  split
  · rename_i h; rw [shown] at h; exact absurd h (by simp)
  · rename_i c' h
    obtain rfl : c = c' := by rw [shown] at h; exact Option.some.inj h
    rw [hrule]
    dsimp only
    split
    · exact hlt
    · exact Nat.lt_of_le_of_lt (remaining_takeBy_le _ _ _ _) hlt

theorem remaining_takeWhile_le (p : Char → Bool) (input : σ) :
    remaining (takeWhile p input).rest ≤ remaining input :=
  remaining_takeBy_le _ _ _ _

theorem remaining_takeWhile_lt {p : Char → Bool} {input : σ} {c : Char}
    (shown : peek input = some c) (allowed : p c = true) :
    remaining (takeWhile p input).rest < remaining input :=
  remaining_takeBy_lt _ shown (by simp only [allowed, if_true, Option.isSome_some])

end Run

/-- A result or an error, the source after it, and the events on the way. -/
structure Reading (α σ : Type) where
  result : Except LexError α
  rest : σ
  events : List Event

end PullLexer
