import PullLexer.Proofs.Logs
/-!
# Reads in turn

However a stream is pulled, its input goes through reads alone, one after the other. What they find,
in this order, is what the stream has delivered and what it holds, so that whatever reads in turn
keep is kept by every row of pulls.
-/

namespace PullLexer

variable {σ : Type} [Source σ]

/-- Reads made one after the other, with their results and the source after the last one. -/
inductive ReadsInTurn (config : Config) :
    σ → List (Except LexError (Option Lexeme)) → σ → Prop
  | nil {input : σ} : ReadsInTurn config input [] input
  | read {input last : σ} {results : List (Except LexError (Option Lexeme))} :
      ReadsInTurn config (Reading.lexeme config input).rest results last →
      ReadsInTurn config input ((Reading.lexeme config input).result :: results) last

private theorem ReadsInTurn.append {config : Config} {input between last : σ}
    {results results' : List (Except LexError (Option Lexeme))}
    (h : ReadsInTurn config input results between) (h' : ReadsInTurn config between results' last) :
    ReadsInTurn config input (results ++ results') last := by
  induction h with
  | nil => exact h'
  | read _ ih => exact .read (ih h')

namespace LexemeStream

/-- The result of the read that a pull makes. It makes none if a lexeme is held, or if it iterates
and iterating has stopped. -/
def read? (s : LexemeStream σ) (p : Pull) : Option (Except LexError (Option Lexeme)) :=
  if s.slot.isSome = true ∨ p = .iterate ∧ s.stopped = true then none
  else some (Reading.lexeme s.config s.input).result

/-- The results of the reads that a row of pulls makes, in their order. -/
def reads (s : LexemeStream σ) : List Pull → List (Except LexError (Option Lexeme))
  | [] => []
  | p :: calls => (s.read? p).toList ++ (s.pull p).stream.reads calls

theorem pull_reads (s : LexemeStream σ) (p : Pull) :
    ReadsInTurn s.config s.input (s.read? p).toList (s.pull p).stream.input ∧
      s.slot.toList ++ (s.read? p).toList.filterMap shownSlot =
        (p.given? (s.pull p).answer).toList ++ (s.pull p).stream.slot.toList := by
  have hpulled := s.pulled p
  generalize s.pull p = reply at hpulled
  cases hpulled with
  | read hrunning hslot hreading =>
    subst hreading
    have hread : s.read? p = some (Reading.lexeme s.config s.input).result := by
      simpa [read?, hslot] using hrunning
    rw [hread, hslot, Pull.given_or_left]
    exact ⟨.read .nil, by cases h : shownSlot (Reading.lexeme s.config s.input).result <;> simp [h]⟩
  | @held _ l _ hslot =>
    have hread : s.read? p = none := by simp [read?, hslot]
    rw [hread, hslot]
    exact ⟨.nil, (Pull.given_or_left p (.ok (some l))).symm⟩
  | stopped hstopped =>
    have hread : s.read? .iterate = none := by simp [read?, hstopped]
    rw [hread]
    exact ⟨.nil, List.append_nil _⟩

theorem after_reads (s : LexemeStream σ) (calls : List Pull) :
    ReadsInTurn s.config s.input (s.reads calls) (s.after calls).input ∧
      s.slot.toList ++ (s.reads calls).filterMap shownSlot =
        Pull.given calls (s.answers calls) ++ (s.after calls).slot.toList := by
  induction calls generalizing s with
  | nil => exact ⟨.nil, List.append_nil _⟩
  | cons p calls ih =>
    obtain ⟨hread, hslot⟩ := s.pull_reads p
    obtain ⟨hreads, hlast⟩ := ih (s.pull p).stream
    rw [config_pull] at hreads
    refine ⟨hread.append hreads, ?_⟩
    rw [reads, List.filterMap_append, ← List.append_assoc, hslot, List.append_assoc, hlast,
      ← List.append_assoc, answers_cons, Pull.given_cons]
    rfl

private theorem config_after (s : LexemeStream σ) (calls : List Pull) :
    (s.after calls).config = s.config := by
  induction calls generalizing s with
  | nil => rfl
  | cons p calls ih => exact (ih _).trans config_pull

private theorem given_iterate {s : LexemeStream σ} {result : Except LexError (Option Lexeme)}
    (h : s.iterate.answer = result) (n : Nat) :
    Pull.given (List.replicate (n + 1) .iterate) (s.answers (List.replicate (n + 1) .iterate)) =
      (shownSlot result).toList ++ Pull.given (List.replicate n .iterate)
        (s.iterate.stream.answers (List.replicate n .iterate)) := by
  have hfirst : (s.pull .iterate).answer = .lexeme result := congrArg PullAnswer.lexeme h
  rw [List.replicate_succ, answers_cons, Pull.given_cons, hfirst]
  cases result <;> rfl

private theorem Drains.given_eq {s last : LexemeStream σ} {ls : List Lexeme}
    {failure : Option LexError} (h : Drains s ls failure last) :
    Pull.given (List.replicate (ls.length + 1) .iterate)
      (s.answers (List.replicate (ls.length + 1) .iterate)) = ls := by
  induction h with
  | lexeme hl _ ih =>
    rw [List.length_cons, given_iterate hl, ih]
    rfl
  | finish hend => exact given_iterate hend 0
  | error he => exact given_iterate he 0

private theorem drained_reads (s : LexemeStream σ) (calls : List Pull) :
    ∃ results, ReadsInTurn s.config s.input results (s.after calls).drain.stream.input ∧
      s.slot.toList ++ results.filterMap shownSlot =
        Pull.given calls (s.answers calls) ++ (s.after calls).drain.lexemes ++
          (s.after calls).drain.stream.slot.toList := by
  obtain ⟨hreads, hgiven⟩ := s.after_reads calls
  have hdrains := (s.after calls).drains
  obtain ⟨hreads', hgiven'⟩ := (s.after calls).after_reads
    (List.replicate ((s.after calls).drain.lexemes.length + 1) .iterate)
  rw [config_after, hdrains.after_eq] at hreads'
  rw [hdrains.given_eq, hdrains.after_eq] at hgiven'
  refine ⟨_, hreads.append hreads', ?_⟩
  rw [List.filterMap_append, ← List.append_assoc, hgiven, List.append_assoc, hgiven',
    List.append_assoc]

/-- What the reads of a new stream find, through pulls and the draining after them, is what is
delivered and what is held in the end. -/
theorem ofSource_reads (config : Config) (input : σ) (calls : List Pull) :
    ∃ results,
      ReadsInTurn config input results ((ofSource input config).after calls).drain.stream.input ∧
      results.filterMap shownSlot =
        Pull.given calls ((ofSource input config).answers calls) ++
          ((ofSource input config).after calls).drain.lexemes ++
          ((ofSource input config).after calls).drain.stream.slot.toList :=
  (ofSource input config).drained_reads calls

end LexemeStream

end PullLexer
