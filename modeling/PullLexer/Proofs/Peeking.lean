import PullLexer.Proofs.Pulling
/-!
# Looking twice

Showing the next lexeme a second time moves nothing and shows the same, be it a lexeme, the end or
a stray character. One outcome is not kept: the read that finds a string literal open has used up
the source, and where the error was shown, the end is shown next.
-/

namespace PullLexer

namespace Reading

private theorem lexeme_of_used_up {config : Config} {s : Cursor} (h : s.rest = []) :
    (lexeme config s).result = .ok none ∧ (lexeme config s).rest = s := by
  have hpeek : Source.peek s = none := by simp [Source.peek, h]
  have hstay := Gap.skip_of_none hpeek
  have hpeek' : Source.peek (Gap.skip s).rest = none := by rw [hstay, hpeek]
  rw [(lexeme_of_end hpeek').1, (lexeme_of_end hpeek').2, hstay]
  exact ⟨rfl, rfl⟩

/-- What is read after `result` when that delivered nothing: the same, but the end after a string
literal that is open. -/
def again : Except LexError (Option Lexeme) → Except LexError (Option Lexeme)
  | .error ⟨.unterminatedString, _, _⟩ => .ok none
  | result => result

private theorem again_of_stray {e : LexError} (he : e.fault ≠ .unterminatedString) :
    again (.error e) = .error e := by
  obtain ⟨fault, filename, position⟩ := e
  cases fault with
  | unterminatedString => exact absurd rfl he
  | invalidChar c => rfl
  | invalidNumber text => rfl

private theorem again_of_open {e : LexError} (he : e.fault = .unterminatedString) :
    again (.error e) = .ok none := by
  obtain ⟨fault, filename, position⟩ := e
  obtain rfl : fault = .unterminatedString := he
  rfl

private theorem again_eq_self_iff {result : Except LexError (Option Lexeme)} :
    again result = result ↔ ¬ ∃ e, result = .error e ∧ e.fault = .unterminatedString := by
  cases result with
  | ok l? => exact iff_of_true rfl (by simp)
  | error e =>
    by_cases he : e.fault = .unterminatedString
    · rw [again_of_open he]
      exact iff_of_false (by simp) (not_not_intro ⟨e, rfl, he⟩)
    · rw [again_of_stray he]
      simp [he]

theorem again_ne_lexeme {result : Except LexError (Option Lexeme)}
    (h : ∀ l, result ≠ .ok (some l)) (l : Lexeme) : again result ≠ .ok (some l) := by
  unfold again
  split
  · simp
  · exact h l

theorem lexeme_again {config : Config} {s : Cursor}
    (h : ∀ l, (lexeme config s).result ≠ .ok (some l)) :
    (lexeme config (lexeme config s).rest).result = again (lexeme config s).result ∧
      (lexeme config (lexeme config s).rest).rest = (lexeme config s).rest := by
  cases hread : (lexeme config s).result with
  | ok l? =>
    cases l? with
    | some l => exact absurd hread (h l)
    | none => exact lexeme_end_again hread
  | error e =>
    by_cases he : e.fault = .unterminatedString
    · rw [again_of_open he]
      exact lexeme_of_used_up (rest_of_open he hread)
    · rw [again_of_stray he]
      exact lexeme_stray_again he hread

end Reading

namespace LexemeStream

theorem shownSlot_eq_none_iff {result : Except LexError (Option Lexeme)} :
    shownSlot result = none ↔ ∀ l, result ≠ .ok (some l) := by
  cases result with
  | error e => simp [shownSlot]
  | ok l? => cases l? <;> simp [shownSlot]

theorem peek_peek (s : LexemeStream Cursor) :
    s.peek.stream.peek.answer = Reading.again s.peek.answer ∧
      s.peek.stream.peek.stream = s.peek.stream := by
  obtain ⟨input, config, slot, stopped⟩ := s
  cases slot with
  | some l => exact ⟨rfl, rfl⟩
  | none =>
    by_cases hread : ∃ l, (Reading.lexeme config input).result = .ok (some l)
    · obtain ⟨l, hl⟩ := hread
      simp [peek, hl, shownSlot, Reading.again]
    · have hnone : ∀ l, (Reading.lexeme config input).result ≠ .ok (some l) := by simpa using hread
      have hslot := shownSlot_eq_none_iff.2 hnone
      have hslot' := shownSlot_eq_none_iff.2 (Reading.again_ne_lexeme hnone)
      obtain ⟨hresult, hrest⟩ := Reading.lexeme_again hnone
      simp only [peek, hslot, hresult, hrest, hslot', and_self]

theorem peek_after_peek (s : LexemeStream Cursor) :
    s.peek.stream.peek.stream = s.peek.stream ∧
      s.peek.stream.peek.answer = Reading.again s.peek.answer ∧
      s.peek.stream.eof.answer = (Reading.again s.peek.answer).map Option.isNone ∧
      (s.peek.stream.peek.answer = s.peek.answer ↔
        ¬ ∃ e, s.peek.answer = .error e ∧ e.fault = .unterminatedString) := by
  obtain ⟨hanswer, hstream⟩ := peek_peek s
  refine ⟨hstream, hanswer, congrArg (Except.map Option.isNone) hanswer, ?_⟩
  rw [hanswer]
  exact Reading.again_eq_self_iff

/-- A string literal that has to be closed is reported open by the first look only; the second look
takes the source for one that has come to its end. -/
theorem peek_after_peek_differs :
    let s := LexemeStream.ofText ⟨.fragments, true⟩ "a.HC" "\x22abc"
    s.peek.answer = .error ⟨.unterminatedString, "a.HC", ⟨1, 5, 4⟩⟩ ∧
      s.peek.stream.peek.answer = .ok none ∧ s.peek.stream.eof.answer = .ok true ∧
      s.peek.stream.peek.answer ≠ s.peek.answer := by
  intro s
  have hfirst : s.peek.answer = .error ⟨.unterminatedString, "a.HC", ⟨1, 5, 4⟩⟩ := by
    have hrow : s.deliveries = ⟨[], some ⟨.unterminatedString, "a.HC", ⟨1, 5, 4⟩⟩⟩ := by
      decide +kernel
    rw [peek_answer, next_answer, hrow]
    rfl
  have hsecond : s.peek.stream.peek.answer = .ok none := by
    have hrow : s.peek.stream.deliveries = ⟨[], none⟩ := by decide +kernel
    rw [peek_answer, next_answer, hrow]
    rfl
  refine ⟨hfirst, hsecond, congrArg (Except.map Option.isNone) hsecond, ?_⟩
  rw [hfirst, hsecond]
  simp

end LexemeStream

end PullLexer
