import PullLexer.Proofs.Peeking
import PullLexer.Proofs.Progress
/-!
# After the first error

The first error that a stream over a text gives, however it is pulled, comes after its last lexeme:
what is left of the text is nothing, or starts with a character that every later read refuses again.
Iterating stops for good at an error of its own, and at no other.
-/

namespace PullLexer

/-- One of these calls was to iterate and was answered by an error. -/
def Pull.IterationFailed (calls : List Pull) (answers : List PullAnswer) : Prop :=
  ∃ e, (Pull.iterate, PullAnswer.lexeme (.error e)) ∈ calls.zip answers

private theorem Pull.iterationFailed_cons {p : Pull} {calls : List Pull} {a : PullAnswer}
    {answers : List PullAnswer} :
    IterationFailed (p :: calls) (a :: answers) ↔
      (p = .iterate ∧ ∃ e, a = .lexeme (.error e)) ∨ IterationFailed calls answers := by
  simp only [IterationFailed, List.zip_cons_cons, List.mem_cons, Prod.mk.injEq, exists_or,
    exists_and_left, eq_comm]

private theorem Pull.stopsAt_iff {p : Pull} {result : Except LexError (Option Lexeme)} :
    p.stopsAt result = true ↔ p = .iterate ∧ ∃ e, p.answerOf result = .lexeme (.error e) := by
  cases p <;> cases result <;> simp [stopsAt, answerOf, LexemeStream.isError]

namespace LexemeStream

section AnySource

variable {σ : Type} [Source σ] {s : LexemeStream σ}

private theorem stopped_pull {p : Pull} :
    (s.pull p).stream.stopped = true ↔
      s.stopped = true ∨ p = .iterate ∧ ∃ e, (s.pull p).answer = .lexeme (.error e) := by
  have hpulled := s.pulled p
  generalize s.pull p = reply at hpulled
  cases hpulled with
  | read _ _ _ => rw [Bool.or_eq_true, Pull.stopsAt_iff]
  | held _ _ => cases p <;> simp [Pull.answerOf]
  | stopped hstopped => simp [hstopped]

theorem stopped_after (s : LexemeStream σ) (calls : List Pull) :
    (s.after calls).stopped = true ↔
      s.stopped = true ∨ Pull.IterationFailed calls (s.answers calls) := by
  induction calls generalizing s with
  | nil => simp [after, Pull.IterationFailed]
  | cons p calls ih =>
    rw [answers_cons, Pull.iterationFailed_cons, after, ih, stopped_pull, or_assoc]

end AnySource

section InMemory

variable {s : LexemeStream Cursor}

/-- No lexeme is held, and none is there to be read. -/
structure Spent (s : LexemeStream Cursor) : Prop where
  slot : s.slot = none
  read : ∀ l, (Reading.lexeme s.config s.input).result ≠ .ok (some l)

private theorem spent_of_error {p : Pull} {e : LexError} (h : (s.pull p).answer.error? = some e) :
    s.Spent := by
  obtain ⟨hslot, hread⟩ := lexeme_of_next_error (next_of_pull_error h)
  exact ⟨hslot, by simp [hread]⟩

theorem Spent.pull (h : s.Spent) (p : Pull) :
    (s.pull p).stream.Spent ∧ (s.pull p).answer.tellsLexeme = false := by
  have hpulled := s.pulled p
  generalize s.pull p = reply at hpulled
  cases hpulled with
  | read _ _ hreading =>
    subst hreading
    obtain ⟨hagain, -⟩ := Reading.lexeme_again h.read
    have hslot := shownSlot_eq_none_iff.2 h.read
    refine ⟨⟨?_, ?_⟩, ?_⟩
    · rw [hslot]
      cases p <;> rfl
    · rw [hagain]
      exact Reading.again_ne_lexeme h.read
    · rw [Bool.eq_false_iff]
      intro htells
      obtain ⟨l, hl⟩ := Pull.tellsLexeme_answerOf htells
      exact h.read l hl
  | held _ hslot => simp [h.slot] at hslot
  | stopped _ => exact ⟨h, rfl⟩

theorem Spent.answers (h : s.Spent) (calls : List Pull) :
    ∀ a ∈ s.answers calls, a.tellsLexeme = false := by
  induction calls generalizing s with
  | nil => simp [LexemeStream.answers, pulls, replies]
  | cons p calls ih =>
    obtain ⟨hspent, hfirst⟩ := h.pull p
    rw [answers_cons, List.forall_mem_cons]
    exact ⟨hfirst, ih hspent⟩

theorem answers_pairwise (s : LexemeStream Cursor) (calls : List Pull) :
    (s.answers calls).Pairwise fun a b => a.error? ≠ none → b.tellsLexeme = false := by
  induction calls generalizing s with
  | nil => exact .nil
  | cons p calls ih =>
    rw [answers_cons, List.pairwise_cons]
    refine ⟨?_, ih _⟩
    intro b hb hfailed
    -- The stream was spent before the pull that failed, and no pull changes that.
    obtain ⟨e, he⟩ := Option.ne_none_iff_exists'.1 hfailed
    exact ((spent_of_error he).pull p).1.answers calls b hb

/-- What errors do to a stream while it is pulled in this way, and where that has led. -/
structure EndsAtError (s : LexemeStream Cursor) (calls : List Pull) : Prop where
  /-- After an error no lexeme is delivered or shown, and the end is not said to be yet to come. -/
  silent : (s.answers calls).Pairwise fun a b => a.error? ≠ none → b.tellsLexeme = false
  /-- Iterating gives none after an error of its own, and where asking for the next lexeme does. -/
  none_iff : (s.after calls).iterate.answer = .ok none ↔
    Pull.IterationFailed calls (s.answers calls) ∨ (s.after calls).next.answer = .ok none
  /-- Errors that were met in any other way do not keep iterating from what asking for the next
  lexeme does. -/
  running : ¬ Pull.IterationFailed calls (s.answers calls) →
    (s.after calls).iterate.answer = (s.after calls).next.answer ∧
      (s.after calls).iterate.stream =
        { (s.after calls).next.stream with stopped := isError (s.after calls).next.answer }
  /-- Iterating that has stopped moves nothing. -/
  halted : Pull.IterationFailed calls (s.answers calls) →
    (s.after calls).iterate.stream = s.after calls
  /-- From here on, iterating gives a run of lexemes, at most one error, and then none. -/
  drained : ∃ row : Row, ∀ n, (s.after calls).answers (List.replicate n .iterate) =
    row.iterated.takeD n (.lexeme (.ok none))

private theorem endsAtError (hs : s.stopped = false) (calls : List Pull) : s.EndsAtError calls := by
  have hstopped : (s.after calls).stopped = true ↔
      Pull.IterationFailed calls (s.answers calls) := by
    simp [stopped_after, hs]
  have hrunning (h : ¬ Pull.IterationFailed calls (s.answers calls)) :=
    iterate_of_running (s := s.after calls) (Bool.eq_false_iff.2 (mt hstopped.1 h))
  refine ⟨answers_pairwise s calls, ?_, hrunning, ?_, ⟨_, (s.after calls).drains.answers_eq⟩⟩
  · by_cases h : Pull.IterationFailed calls (s.answers calls)
    · simp [iterate_of_stopped (hstopped.2 h), h]
    · rw [(hrunning h).1]
      simp [h]
  · intro h
    rw [iterate_of_stopped (hstopped.2 h)]

end InMemory

end LexemeStream

/-- The first error ends the scan of a text, in whatever order it is pulled. Iterating a new stream
gives a run of lexemes and at most one error, and scanning the text as a whole gives these lexemes,
or that error. -/
theorem first_error_ends_scan (config : Config) (filename source : String) (calls : List Pull) :
    (LexemeStream.ofText config filename source).EndsAtError calls ∧
      ∃ row : Row,
        (∀ n, (LexemeStream.ofText config filename source).answers (List.replicate n .iterate) =
          row.iterated.takeD n (.lexeme (.ok none))) ∧
        scanText config filename source = row.result :=
  ⟨LexemeStream.endsAtError rfl calls,
    _, (LexemeStream.ofText config filename source).drains.answers_eq, rfl⟩

end PullLexer
