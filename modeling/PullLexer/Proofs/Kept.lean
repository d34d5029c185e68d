import PullLexer.LexemeStream.Session
import PullLexer.Proofs.Gaps
/-!
# What taking a character keeps

A read does nothing to its source but take characters from it. Whatever each taken character keeps
is kept by every reader, every pull and every row of pulls, whether or not the characters that are
shown are those that are taken. A reader goes on after a character that it was shown or given; what
only such a character keeps is kept as long as the reader goes on.

A pull makes one read, or gives what is held, or does nothing at all; what it answers, leaves and
reports in each case is said here once, for all invariants of a stream.
-/

namespace PullLexer

/-- Taking a character keeps `P` if it was shown or is handed out, and keeps `Q` in any case. Where
`Q` holds and a character is shown, `P` holds. -/
structure Source.Keeps {σ : Type} [Source σ] (P Q : σ → Prop) : Prop where
  shown : ∀ {s}, P s → peek s ≠ none → P (next s).2
  given : ∀ {s}, P s → (next s).1 ≠ none → P (next s).2
  last : ∀ {s}, P s → Q (next s).2
  weaken : ∀ {s}, P s → Q s
  resume : ∀ {s}, Q s → peek s ≠ none → P s

section Readers

variable {σ : Type} [Source σ] {P Q : σ → Prop} {input : σ}

theorem Source.Keeps.of_next (h : ∀ s, P s → P (next s).2) : Source.Keeps P P where
  shown := by
    intro s hs _
    exact h s hs
  given := by
    intro s hs _
    exact h s hs
  last := by
    intro s hs
    exact h s hs
  weaken := by
    intro s hs
    exact hs
  resume := by
    intro s hs _
    exact hs

theorem Source.Keeps.takeBy (h : Source.Keeps P Q) {β : Type} (rule : β → Char → Option β)
    (state : β) (taken : List Char) (hP : P input) :
    P (Run.takeBy rule state input taken).rest := by
  fun_induction Run.takeBy rule state input taken with
  | case1 => exact hP
  | case2 => exact hP
  | case3 _ _ _ _ hshown => exact h.shown hP (by simp [hshown])
  | case4 _ _ _ _ hshown _ _ _ _ ih => exact ih (h.shown hP (by simp [hshown]))

private theorem Source.Keeps.takeWhile (h : Source.Keeps P Q) (p : Char → Bool) (hP : P input) :
    P (Run.takeWhile p input).rest :=
  h.takeBy _ _ _ hP

theorem Source.Keeps.body (h : Source.Keeps P Q) (escaped : Bool) (taken : List Char)
    (hP : P input) : Q (Body.take input escaped taken).rest := by
  fun_induction Body.take input escaped taken with
  | case1 => exact h.last hP
  | case2 _ _ _ hgiven ih => exact ih (h.given hP (by simp [hgiven]))
  | case3 _ _ _ _ hgiven ih => exact ih (h.given hP (by simp [hgiven]))
  | case4 => exact h.last hP
  | case5 _ _ _ _ hgiven _ _ _ ih => exact ih (h.given hP (by simp [hgiven]))

theorem Source.Keeps.pastBlanks (h : Source.Keeps P Q) (hQ : Q input) :
    Q (Gap.pastBlanks input) := by
  by_cases hshown : Source.peek input = none
  · rwa [Gap.pastBlanks_of_stop (by simp [hshown])]
  · exact h.weaken (h.takeWhile _ (h.resume hQ hshown))

private theorem Source.Keeps.pastLine (h : Source.Keeps P Q) (hP : P input) :
    Q (Gap.pastLine input) :=
  h.last (h.takeWhile _ hP)

theorem Source.Keeps.skipAfter (h : Source.Keeps P Q) (comments : List Nat) (hQ : Q input) :
    Q (Gap.skipAfter comments input).rest := by
  fun_induction Gap.skipAfter comments input with
  | case1 _ _ hshown ih =>
    have hP := h.resume hQ (by simp [hshown])
    exact ih (h.pastBlanks (h.pastLine hP))
  | case2 => exact hQ

theorem Source.Keeps.skip (h : Source.Keeps P Q) (hQ : Q input) : Q (Gap.skip input).rest :=
  h.skipAfter [] (h.pastBlanks hQ)

theorem Source.Keeps.word (h : Source.Keeps P Q) (mode : IdentifierMode)
    (hQ : Q (Run.takeWhile CharClass.id.holds input).rest) : Q (Reading.word mode input).rest := by
  unfold Reading.word
  dsimp only
  split
  · exact hQ
  split
  · exact hQ
  cases mode with
  | plain => exact hQ
  | fragments => exact h.skip hQ

private theorem Source.Keeps.starting (h : Source.Keeps P Q) (config : Config) (c : Char)
    (hshown : Source.peek input ≠ none) (hP : P input) :
    Q (Reading.starting config c input).rest := by
  unfold Reading.starting
  split
  · rw [Reading.rest_string]
    exact h.body _ _ (h.shown hP hshown)
  split
  · rw [Reading.rest_number]
    exact h.weaken (h.takeBy _ _ _ hP)
  split
  · exact h.word _ (h.weaken (h.takeWhile _ hP))
  split
  · exact h.last hP
  split
  · exact h.weaken (h.takeWhile _ hP)
  · exact h.weaken hP

theorem Source.Keeps.lexeme (h : Source.Keeps P Q) (config : Config)
    (hQ : Q (Gap.skip input).rest) : Q (Reading.lexeme config input).rest := by
  unfold Reading.lexeme
  dsimp only
  split
  · exact hQ
  · rename_i c hc
    have hshown : Source.peek (Gap.skip input).rest ≠ none := by simp [hc]
    exact h.starting config c hshown (h.resume hQ hshown)

end Readers

/-- The answer to a pull when this comes next. -/
def Pull.answerOf : Pull → Except LexError (Option Lexeme) → PullAnswer
  | .eof, result => .atEnd (result.map Option.isNone)
  | _, result => .lexeme result

/-- What a pull leaves in the slot of a lexeme that it has shown or given out. -/
def Pull.leaves : Pull → Option Lexeme → Option Lexeme
  | .peek, shown | .eof, shown => shown
  | .next, _ | .iterate, _ => none

/-- Whether a pull with this result stops iterating. -/
def Pull.stopsAt : Pull → Except LexError (Option Lexeme) → Bool
  | .iterate, result => LexemeStream.isError result
  | _, _ => false

namespace LexemeStream

variable {σ : Type} [Source σ]

/-- The stream after a row of pulls. -/
def after (s : LexemeStream σ) : List Pull → LexemeStream σ
  | [] => s
  | p :: calls => (s.pull p).stream.after calls

/-- All that a pull can do: make one read, because the slot is empty; give out or show what the slot
holds; or, once iterating has stopped, nothing. -/
inductive Pulled (s : LexemeStream σ) : Pull → Reply PullAnswer σ → Prop
  | read {p : Pull} {reading : Reading (Option Lexeme) σ} :
      (p = .iterate → s.stopped = false) → s.slot = none →
      Reading.lexeme s.config s.input = reading →
      Pulled s p ⟨p.answerOf reading.result,
        ⟨reading.rest, s.config, p.leaves (shownSlot reading.result),
          s.stopped || p.stopsAt reading.result⟩, reading.events⟩
  | held {p : Pull} {l : Lexeme} : (p = .iterate → s.stopped = false) → s.slot = some l →
      Pulled s p ⟨p.answerOf (.ok (some l)), { s with slot := p.leaves (some l) }, []⟩
  | stopped : s.stopped = true → Pulled s .iterate ⟨.lexeme (.ok none), s, []⟩

theorem pulled (s : LexemeStream σ) (p : Pull) : Pulled s p (s.pull p) := by
  by_cases hstopped : p = .iterate ∧ s.stopped = true
  · obtain ⟨rfl, hstopped⟩ := hstopped
    have hpull : s.pull .iterate = ⟨.lexeme (.ok none), s, []⟩ := by simp [pull, iterate, hstopped]
    rw [hpull]
    exact .stopped hstopped
  · have hrunning : p = .iterate → s.stopped = false := by simpa using hstopped
    obtain ⟨input, config, slot, stopped⟩ := s
    cases slot with
    | none =>
      have hread := Pulled.read hrunning rfl rfl
      generalize hreading : Reading.lexeme config input = reading at hread
      have hpull : (⟨input, config, none, stopped⟩ : LexemeStream σ).pull p =
          ⟨p.answerOf reading.result,
            ⟨reading.rest, config, p.leaves (shownSlot reading.result),
              stopped || p.stopsAt reading.result⟩, reading.events⟩ := by
        cases p <;> simp_all [pull, peek, next, eof, iterate, Pull.answerOf, Pull.leaves,
          Pull.stopsAt]
      rw [hpull]
      exact hread
    | some l =>
      have hpull : (⟨input, config, some l, stopped⟩ : LexemeStream σ).pull p =
          ⟨p.answerOf (.ok (some l)), ⟨input, config, p.leaves (some l), stopped⟩, []⟩ := by
        cases p <;> simp_all [pull, peek, next, eof, iterate, Pull.answerOf, Pull.leaves,
          isError, Except.map]
      rw [hpull]
      exact .held hrunning rfl

/-- A pull makes one read, because the slot is empty, and answers with its result; or it leaves the
input where it is, and answers with what was held or none. -/
theorem pull_cases (s : LexemeStream σ) (p : Pull) :
    (s.slot = none ∧ (s.pull p).stream.input = (Reading.lexeme s.config s.input).rest ∧
        (s.pull p).answer = p.answerOf (Reading.lexeme s.config s.input).result) ∨
      ((s.pull p).stream.input = s.input ∧ ∃ held, (s.slot = none → held = none) ∧
        (s.pull p).answer = p.answerOf (.ok held)) := by
  have hpulled := s.pulled p
  generalize s.pull p = reply at hpulled
  cases hpulled with
  | read _ hslot hreading =>
    subst hreading
    exact .inl ⟨hslot, rfl, rfl⟩
  | @held _ l _ hslot =>
    refine .inr ⟨rfl, some l, ?_, rfl⟩
    intro hnone
    rw [hslot] at hnone
    exact absurd hnone (by simp)
  | stopped _ => exact .inr ⟨rfl, none, fun _ => rfl, rfl⟩

variable {P Q : σ → Prop} {s : LexemeStream σ}

theorem pull_keeps (h : Source.Keeps P Q) (hQ : Q s.input) (p : Pull) :
    Q (s.pull p).stream.input := by
  rcases pull_cases s p with ⟨-, hread, -⟩ | ⟨hstay, -⟩
  · rw [hread]
    exact h.lexeme _ (h.skip hQ)
  · rwa [hstay]

theorem after_keeps (h : Source.Keeps P Q) (hQ : Q s.input) (calls : List Pull) :
    Q (s.after calls).input := by
  induction calls generalizing s with
  | nil => exact hQ
  | cons p calls ih => exact ih (pull_keeps h hQ p)

end LexemeStream

end PullLexer
