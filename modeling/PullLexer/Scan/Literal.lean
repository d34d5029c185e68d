import PullLexer.CharClass
import PullLexer.Scan.Run
/-!
# Number and string literals

A number is a run of digits with at most one point. A string literal runs from its opening quote
to the next quote that no backslash cancels; a backslash stands for the character after it. A
string that is open at the end of the source is an error or keeps what it holds, as the
configuration says.
-/

namespace PullLexer

open Source

variable {σ : Type} [Source σ]

/-- Allows digits and one point; the state tells whether a point has been shown. -/
def Number.rule (hasPoint : Bool) (c : Char) : Option Bool :=
  if c = '.' then (if hasPoint then none else some true)
  else if CharClass.digit.holds c then some hasPoint
  else none

/-- The quote that opens and closes a string literal. -/
def stringQuote : Char := '\x22'

/-- What a string literal holds, whether a quote closed it, and the source after it. -/
structure Body (σ : Type) where
  text : List Char
  closed : Bool
  rest : σ

/-- Reads on in a string literal, just after a backslash if `escaped`; `taken` is what it holds so
far, the last character first. -/
def Body.take (input : σ) (escaped : Bool) (taken : List Char) : Body σ :=
  match _given : (next input).1 with
  | none => ⟨taken.reverse, false, (next input).2⟩
  | some c =>
    if escaped then take (next input).2 false (c :: taken)
    else if c = '\\' then take (next input).2 true taken
    else if c = stringQuote then ⟨taken.reverse, true, (next input).2⟩
    else take (next input).2 false (c :: taken)
termination_by remaining input
decreasing_by all_goals exact remaining_next_lt_of_next _given

private theorem Body.remaining_take_le (input : σ) (escaped : Bool) (taken : List Char) :
    remaining (take input escaped taken).rest ≤ remaining input := by
  fun_induction take input escaped taken with
  | case1 => exact remaining_next_le _
  | case2 _ input _ _ ih => exact Nat.le_trans ih (remaining_next_le _)
  | case3 input _ _ _ _ ih => exact Nat.le_trans ih (remaining_next_le input)
  | case4 => exact remaining_next_le _
  | case5 input _ _ _ _ _ _ _ ih => exact Nat.le_trans ih (remaining_next_le input)

namespace Reading

/-- Reads a number that starts with the next character. -/
def number (input : σ) : Reading Lexeme σ :=
  let run := Run.takeBy Number.rule false input []
  match Number.read? run.state run.text with
  | some n => ⟨.ok (.token (.num n)), run.rest, []⟩
  | none =>
    let text := String.ofList run.text
    ⟨.error (report run.rest (.invalidNumber text)), run.rest, [.malformedNumber text]⟩

/-- Reads a string literal whose opening quote comes next. -/
def string (strict : Bool) (input : σ) : Reading Lexeme σ :=
  let body := Body.take (next input).2 false []
  let literal := Lexeme.token (.str (String.ofList body.text))
  if body.closed then ⟨.ok literal, body.rest, []⟩
  else if strict then ⟨.error (report body.rest .unterminatedString), body.rest, []⟩
  else ⟨.ok literal, body.rest, [.keptPartialString (line body.rest)]⟩

theorem rest_number (input : σ) :
    (number input).rest = (Run.takeBy Number.rule false input []).rest := by
  unfold number
  dsimp only
  split <;> rfl

theorem rest_string (strict : Bool) (input : σ) :
    (string strict input).rest = (Body.take (next input).2 false []).rest := by
  unfold string
  dsimp only
  split
  · rfl
  · split <;> rfl

theorem remaining_number_lt {input : σ} {c : Char} (shown : peek input = some c)
    (digit : CharClass.digit.holds c = true) :
    remaining (number input).rest < remaining input := by
  rw [rest_number]
  refine Run.remaining_takeBy_lt [] shown ?_
  unfold Number.rule
  rw [if_pos digit]
  split <;> rfl

theorem remaining_string_lt {input : σ} {c : Char} (strict : Bool) (shown : peek input = some c) :
    remaining (string strict input).rest < remaining input := by
  rw [rest_string]
  exact Nat.lt_of_le_of_lt (Body.remaining_take_le _ _ _) (remaining_next_lt_of_peek shown)

end Reading

end PullLexer
