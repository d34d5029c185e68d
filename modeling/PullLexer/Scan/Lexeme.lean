import PullLexer.Scan.Literal
import PullLexer.Vocabulary
/-!
# Reading a lexeme

A read skips the gap before it and lets the first character that is left decide: end of the
source, a literal, a word, punctuation, an operator, or an error that leaves the character where
it is. A read that delivers a lexeme uses up some of the source.
-/

namespace PullLexer.Reading

open Source

variable {σ : Type} [Source σ]

/-- One punctuation character, the one that is shown. -/
def punc (c : Char) (input : σ) : Reading Lexeme σ :=
  ⟨.ok (.token (.punc c.toString)), (next input).2, []⟩

/-- A run of operator characters. -/
def operator (input : σ) : Reading Lexeme σ :=
  let run := Run.takeWhile CharClass.op.holds input
  ⟨.ok (.token (.op (String.ofList run.text))), run.rest, []⟩

/-- Refuses a character and leaves it. -/
def refusal (c : Char) (input : σ) : Reading Lexeme σ :=
  let error := report input (.invalidChar c)
  ⟨.error error, input, [.rejected error]⟩

/-- Reads what starts with the shown character `c`. -/
def starting (config : Config) (c : Char) (input : σ) : Reading Lexeme σ :=
  if c = stringQuote then string config.strictStrings input
  else if CharClass.digit.holds c then number input
  else if CharClass.idStart.holds c then word config.identifierMode input
  else if CharClass.punc.holds c then punc c input
  else if CharClass.op.holds c then operator input
  else refusal c input

/-- The event of a read that delivers a lexeme. -/
def delivery : Except LexError Lexeme → List Event
  | .ok lexeme => [.produced lexeme]
  | .error _ => []

/-- Reads the next lexeme; at the end of the source there is none. Each comment on the way is a turn
with an event of its own. -/
def lexeme (config : Config) (input : σ) : Reading (Option Lexeme) σ :=
  let gap := Gap.skip input
  let turns := gap.comments.map (Event.scanning '#')
  match peek gap.rest with
  | none => ⟨.ok none, gap.rest, turns ++ [.reachedEnd]⟩
  | some c =>
    let reading := starting config c gap.rest
    ⟨reading.result.map some, reading.rest,
      turns ++ .scanning c (line gap.rest) :: (reading.events ++ delivery reading.result)⟩

theorem starting_progress {config : Config} {c : Char} {input : σ} (shown : peek input = some c)
    {reading : Reading Lexeme σ} (h : starting config c input = reading) :
    remaining reading.rest < remaining input ∨ reading = refusal c input := by
  unfold starting at h
  split at h
  · exact .inl (h ▸ remaining_string_lt _ shown)
  split at h
  · rename_i digit; exact .inl (h ▸ remaining_number_lt shown digit)
  split at h
  · rename_i start; exact .inl (h ▸ remaining_word_lt _ shown start)
  split at h
  · exact .inl (h ▸ remaining_next_lt_of_peek shown)
  split at h
  · rename_i op; exact .inl (h ▸ Run.remaining_takeWhile_lt shown op)
  · exact .inr h.symm

private theorem remaining_starting_lt {config : Config} {c : Char} {input : σ} {delivered : Lexeme}
    (shown : peek input = some c) (h : (starting config c input).result = .ok delivered) :
    remaining (starting config c input).rest < remaining input := by
  rcases starting_progress shown rfl with hlt | hrefusal
  · exact hlt
  · rw [hrefusal] at h; exact absurd h (by simp [refusal])

private theorem remaining_starting_le (config : Config) {c : Char} {input : σ}
    (shown : peek input = some c) :
    remaining (starting config c input).rest ≤ remaining input := by
  rcases starting_progress shown (rfl : starting config c input = _) with hlt | hrefusal
  · exact Nat.le_of_lt hlt
  · exact Nat.le_of_eq (congrArg (fun reading => remaining reading.rest) hrefusal)

/-- A read that delivers a lexeme uses up some of the source. -/
theorem remaining_lexeme_lt {config : Config} {input : σ} {delivered : Lexeme}
    (h : (lexeme config input).result = .ok (some delivered)) :
    remaining (lexeme config input).rest < remaining input := by
  unfold lexeme at h ⊢
  dsimp only at h ⊢
  split at h
  · exact absurd h (by simp)
  · rename_i c shown
    refine Nat.lt_of_lt_of_le ?_ (Gap.remaining_skip_le input)
    cases hr : (starting config c (Gap.skip input).rest).result with
    | ok l => exact remaining_starting_lt shown hr
    | error e => rw [hr] at h; exact absurd h (by simp [Except.map])

theorem remaining_lexeme_le (config : Config) (input : σ) :
    remaining (lexeme config input).rest ≤ remaining input := by
  unfold lexeme
  dsimp only
  split
  · exact Gap.remaining_skip_le input
  · rename_i c shown
    exact Nat.le_trans (remaining_starting_le _ shown) (Gap.remaining_skip_le input)

end PullLexer.Reading
