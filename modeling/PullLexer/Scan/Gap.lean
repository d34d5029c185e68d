import PullLexer.CharClass
import PullLexer.Scan.Run
/-!
# Gaps

What stands between lexemes: blanks, and comments from a number sign to the end of its line.
-/

namespace PullLexer

open Source

/-- The lines on which the comments of a gap start, and the source after the gap. -/
structure Gap (σ : Type) where
  comments : List Nat
  rest : σ

namespace Gap

variable {σ : Type} [Source σ]

/-- The source after the blanks that come next. -/
def pastBlanks (input : σ) : σ := (Run.takeWhile CharClass.blank.holds input).rest

/-- The source after the line that comes next, with its newline. -/
def pastLine (input : σ) : σ := (next (Run.takeWhile (· != '\n') input).rest).2

theorem remaining_pastBlanks_le (input : σ) : remaining (pastBlanks input) ≤ remaining input :=
  Run.remaining_takeWhile_le _ _

theorem remaining_pastLine_lt {input : σ} (shown : peek input = some '#') :
    remaining (pastLine input) < remaining input :=
  Nat.lt_of_le_of_lt (remaining_next_le _) (Run.remaining_takeWhile_lt shown (by decide))

/-- Skips comments and the blanks after each; `comments` are the lines of those before, the last one
first. -/
def skipAfter (comments : List Nat) (input : σ) : Gap σ :=
  if _shown : peek input = some '#' then
    skipAfter (line input :: comments) (pastBlanks (pastLine input))
  else ⟨comments.reverse, input⟩
termination_by remaining input
decreasing_by exact Nat.lt_of_le_of_lt (remaining_pastBlanks_le _) (remaining_pastLine_lt _shown)

/-- Skips the blanks and the comments that come next. -/
def skip (input : σ) : Gap σ := skipAfter [] (pastBlanks input)

/-- Looks past a gap: whether an opening parenthesis follows it, and the source after the gap. -/
def callAhead (input : σ) : Bool × σ :=
  let ahead := (skip input).rest
  (peek ahead == some '(', ahead)

private theorem remaining_skipAfter_le (comments : List Nat) (input : σ) :
    remaining (skipAfter comments input).rest ≤ remaining input := by
  fun_induction skipAfter comments input with
  | case1 _ input shown ih =>
    exact Nat.le_trans ih (Nat.le_trans (remaining_pastBlanks_le _)
      (Nat.le_of_lt (remaining_pastLine_lt shown)))
  | case2 => exact Nat.le_refl _

theorem remaining_skip_le (input : σ) : remaining (skip input).rest ≤ remaining input :=
  Nat.le_trans (remaining_skipAfter_le _ _) (remaining_pastBlanks_le input)

end Gap

end PullLexer
