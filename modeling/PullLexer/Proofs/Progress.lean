import Mathlib.Data.List.TakeDrop
import PullLexer.Proofs.Limited
import PullLexer.Proofs.Pulling
import PullLexer.Source.Script
/-!
# Progress

No pull takes its input back, and a read that finds a lexeme or a malformed number takes it further,
also where the characters that are shown are not those that are handed out. So a stream delivers no
more lexemes than its input has characters, and iterating comes to an end.
-/

namespace PullLexer

theorem Reading.lexeme_progress {σ : Type} [Source σ] (config : Config) (input : σ) :
    Source.remaining (lexeme config input).rest < Source.remaining input ∨
      (lexeme config input).result = .ok none ∨
        ∃ e c, (lexeme config input).result = .error e ∧ e.fault = .invalidChar c := by
  have hskip := Gap.remaining_skip_le input
  cases hshown : Source.peek (Gap.skip input).rest with
  | none => exact .inr (.inl (lexeme_of_end hshown).1)
  | some c =>
    obtain ⟨hresult, hrest⟩ : (lexeme config input).result = _ ∧ (lexeme config input).rest = _ :=
      lexeme_of_start hshown
    rcases starting_progress hshown (rfl : starting config c _ = _) with hlt | hrefusal
    · left
      rw [hrest]
      exact Nat.lt_of_lt_of_le hlt hskip
    · right; right
      rw [hresult, hrefusal]
      exact ⟨_, c, rfl, rfl⟩

/-- What has been used up of a source, counted by `place`, and what remains make up `total`. -/
def Source.MakesUp {σ : Type} [Source σ] (place : σ → Nat) (total : Nat) (input : σ) : Prop :=
  place input + remaining input = total

/-- What iterating gives for a row: its lexemes, and at most one error. -/
def Row.iterated (row : Row) : List PullAnswer :=
  row.lexemes.map (fun l => .lexeme (.ok (some l))) ++
    row.failure.toList.map (fun e => .lexeme (.error e))

/-- Whether an answer tells of a lexeme. -/
def PullAnswer.tellsLexeme : PullAnswer → Bool
  | .lexeme (.ok (some _)) | .atEnd (.ok false) => true
  | _ => false

namespace Pull

variable {p : Pull} {result : Except LexError (Option Lexeme)}

theorem tellsLexeme_answerOf (h : (p.answerOf result).tellsLexeme = true) :
    ∃ l, result = .ok (some l) := by
  rcases result with e | _ | l
  · cases p <;> simp [answerOf, PullAnswer.tellsLexeme, Except.map] at h
  · cases p <;> simp [answerOf, PullAnswer.tellsLexeme, Except.map] at h
  · exact ⟨l, rfl⟩

theorem error?_answerOf {e : LexError} (h : (p.answerOf result).error? = some e) :
    result = .error e := by
  cases result with
  | ok shown => cases p <;> simp [answerOf, PullAnswer.error?, Except.map] at h
  | error e' => cases p <;> simpa [answerOf, PullAnswer.error?, Except.map] using h

theorem error?_answerOf_eq_none (h : (p.answerOf result).error? = none) :
    ∃ l?, result = .ok l? := by
  cases result with
  | ok l? => exact ⟨l?, rfl⟩
  | error e => cases p <;> simp [answerOf, PullAnswer.error?, Except.map] at h

end Pull

namespace LexemeStream

variable {σ : Type} [Source σ]

/-- How a pull takes its input on, where `place` counts what has been used up of `total`. -/
structure Advances (place : σ → Nat) (total : Nat) (s : LexemeStream σ) (p : Pull) : Prop where
  /-- It returns when all that is left has been taken, at the latest. -/
  returns : s.ReturnsWithin (total - place s.input + 1) p
  forward : place s.input ≤ place (s.pull p).stream.input
  /-- The end is not passed. -/
  whole : Source.MakesUp place total (s.pull p).stream.input
  /-- With an empty slot, a lexeme can only have been read. -/
  lexeme : s.slot = none → (s.pull p).answer.tellsLexeme = true →
    place s.input < place (s.pull p).stream.input
  number : ∀ e text, (s.pull p).answer.error? = some e → e.fault = .invalidNumber text →
    place s.input < place (s.pull p).stream.input

section Pulls

variable {s : LexemeStream σ} {p : Pull}

private theorem remaining_pull_le (s : LexemeStream σ) (p : Pull) :
    Source.remaining (s.pull p).stream.input ≤ Source.remaining s.input := by
  rcases pull_cases s p with ⟨-, hinput, -⟩ | ⟨hinput, -⟩
  · rw [hinput]
    exact Reading.remaining_lexeme_le _ _
  · exact Nat.le_of_eq (congrArg Source.remaining hinput)

private theorem remaining_pull_lt_of_lexeme (hslot : s.slot = none)
    (h : (s.pull p).answer.tellsLexeme = true) :
    Source.remaining (s.pull p).stream.input < Source.remaining s.input := by
  rcases pull_cases s p with ⟨-, hinput, hanswer⟩ | ⟨-, held, hheld, hanswer⟩
  · rw [hanswer] at h
    obtain ⟨l, hl⟩ := Pull.tellsLexeme_answerOf h
    rw [hinput]
    exact Reading.remaining_lexeme_lt hl
  · rw [hanswer, hheld hslot] at h
    obtain ⟨l, hl⟩ := Pull.tellsLexeme_answerOf h
    simp at hl

private theorem remaining_pull_lt_of_number {e : LexError} {text : String}
    (h : (s.pull p).answer.error? = some e) (hfault : e.fault = .invalidNumber text) :
    Source.remaining (s.pull p).stream.input < Source.remaining s.input := by
  rcases pull_cases s p with ⟨-, hinput, hanswer⟩ | ⟨-, held, -, hanswer⟩
  · rw [hanswer] at h
    have hresult := Pull.error?_answerOf h
    rw [hinput]
    rcases Reading.lexeme_progress s.config s.input with hlt | hnone | ⟨e', c, he', hc⟩
    · exact hlt
    · rw [hresult] at hnone
      simp at hnone
    · obtain rfl : e = e' := by simpa [hresult] using he'
      rw [hfault] at hc
      simp at hc
  · rw [hanswer] at h
    simpa using Pull.error?_answerOf h

/-- A digit that is shown and not handed out is used up. -/
example :
    let script := Script.ofCells "a.HC" [⟨some '1', none, 1⟩]
    let reply := (ofSource script .plain).pull .next
    reply.answer.error? = some ⟨.invalidNumber "", "a.HC", ⟨0, 2, 1⟩⟩ ∧
      reply.stream.input.index = 1 := by decide +kernel

theorem pull_advances {place : σ → Nat} {total : Nat}
    (hkeeps : Source.Keeps (Source.MakesUp place total) (Source.MakesUp place total))
    (hs : Source.MakesUp place total s.input) (p : Pull) : s.Advances place total p := by
  have hwhole := pull_keeps hkeeps hs p
  have hbefore : place s.input + Source.remaining s.input = total := hs
  have hafter : place (s.pull p).stream.input + Source.remaining (s.pull p).stream.input = total :=
    hwhole
  have further (h : Source.remaining (s.pull p).stream.input < Source.remaining s.input) :
      place s.input < place (s.pull p).stream.input := by omega
  refine ⟨?_, ?_, hwhole, ?_, ?_⟩
  · have hleft : total - place s.input = Source.remaining s.input := by omega
    rw [hleft]
    exact pull_returns s p
  · have hle := remaining_pull_le s p
    omega
  · intro hslot hlexeme
    exact further (remaining_pull_lt_of_lexeme hslot hlexeme)
  · intro e text he hfault
    exact further (remaining_pull_lt_of_number he hfault)

end Pulls

section Iterating

/-- Iterating `s` gives the lexemes, and then the error or the end, where it leaves the last
stream. -/
inductive Drains : LexemeStream σ → List Lexeme → Option LexError → LexemeStream σ → Prop
  | lexeme {s last : LexemeStream σ} {l : Lexeme} {ls : List Lexeme} {failure : Option LexError} :
      s.iterate.answer = .ok (some l) → Drains s.iterate.stream ls failure last →
        Drains s (l :: ls) failure last
  | finish {s : LexemeStream σ} : s.iterate.answer = .ok none → Drains s [] none s.iterate.stream
  | error {s : LexemeStream σ} {e : LexError} :
      s.iterate.answer = .error e → Drains s [] (some e) s.iterate.stream

variable {s : LexemeStream σ}

private theorem exists_drains (lexemes : List Lexeme) (events : List Event)
    (s : LexemeStream σ) :
    ∃ ls, (s.drainAfter lexemes events).lexemes = lexemes.reverse ++ ls ∧
      Drains s ls (s.drainAfter lexemes events).failure (s.drainAfter lexemes events).stream := by
  fun_induction drainAfter lexemes events s with
  | case1 lexemes events s l h ih =>
    obtain ⟨ls, hls, hdrains⟩ := ih
    exact ⟨l :: ls, by simp [hls], .lexeme h hdrains⟩
  | case2 lexemes events s h => exact ⟨[], by simp, .finish h⟩
  | case3 lexemes events s e h => exact ⟨[], by simp, .error h⟩

theorem drains (s : LexemeStream σ) : Drains s s.drain.lexemes s.drain.failure s.drain.stream := by
  obtain ⟨ls, hls, hdrains⟩ := exists_drains [] [] s
  rw [List.reverse_nil, List.nil_append] at hls
  rwa [← hls] at hdrains

theorem iterate_of_stopped (h : s.stopped = true) : s.iterate = ⟨.ok none, s, []⟩ := by
  simp [iterate, h]

private theorem iterate_none_again (h : s.iterate.answer = .ok none) :
    s.iterate.stream.iterate.answer = .ok none := by
  cases hstopped : s.stopped with
  | true =>
    have hstay := iterate_of_stopped hstopped
    rw [hstay]
    exact h
  | false =>
    obtain ⟨hanswer, hstream⟩ := iterate_of_running hstopped
    have hnext := hanswer.symm.trans h
    have hrunning : s.iterate.stream.stopped = false := by simp [hstream, hnext, isError]
    have hrest : s.iterate.stream.deliveries = s.deliveries := by
      rw [hstream, deliveries_stopped, deliveries_next hnext]
      rfl
    rw [(iterate_of_running hrunning).1, next_answer, hrest, ← next_answer, hnext]

private theorem iterate_after_error {e : LexError} (h : s.iterate.answer = .error e) :
    s.iterate.stream.iterate.answer = .ok none := by
  have hstopped : s.iterate.stream.stopped = true := by
    cases hstopped : s.stopped with
    | true =>
      rw [iterate_of_stopped hstopped] at h
      simp at h
    | false =>
      obtain ⟨hanswer, hstream⟩ := iterate_of_running hstopped
      simp [hstream, ← hanswer, h, isError]
  rw [iterate_of_stopped hstopped]

private theorem Drains.length_le_weight {ls : List Lexeme} {failure : Option LexError}
    {last : LexemeStream σ} (h : Drains s ls failure last) : ls.length ≤ s.weight := by
  induction h with
  | lexeme hl _ ih =>
    have hlt := weight_iterate_lt hl
    rw [List.length_cons]
    omega
  | finish => exact Nat.zero_le _
  | error => exact Nat.zero_le _

theorem Drains.after_eq {ls : List Lexeme} {failure : Option LexError} {last : LexemeStream σ}
    (h : Drains s ls failure last) :
    s.after (List.replicate (ls.length + 1) .iterate) = last := by
  induction h with
  | lexeme _ _ ih => exact ih
  | finish => rfl
  | error => rfl

private theorem answers_of_iterate_none (h : s.iterate.answer = .ok none) (n : Nat) :
    s.answers (List.replicate n .iterate) = List.replicate n (.lexeme (.ok none)) := by
  induction n generalizing s with
  | zero => rfl
  | succ n ih =>
    have hfirst : (s.pull .iterate).answer = .lexeme (.ok none) := congrArg PullAnswer.lexeme h
    rw [List.replicate_succ, answers_cons, List.replicate_succ, hfirst]
    exact congrArg _ (ih (iterate_none_again h))

theorem Drains.answers_eq {ls : List Lexeme} {failure : Option LexError} {last : LexemeStream σ}
    (h : Drains s ls failure last) (n : Nat) :
    s.answers (List.replicate n .iterate) =
      (Row.mk ls failure).iterated.takeD n (.lexeme (.ok none)) := by
  induction h generalizing n with
  | @lexeme s last l ls failure hl _ ih =>
    cases n with
    | zero => rfl
    | succ n =>
      have hfirst : (s.pull .iterate).answer = .lexeme (.ok (some l)) :=
        congrArg PullAnswer.lexeme hl
      rw [List.replicate_succ, answers_cons, hfirst]
      exact congrArg _ (ih n)
  | @finish s hend =>
    rw [answers_of_iterate_none hend]
    exact (List.takeD_nil _ _).symm
  | @error s e he =>
    cases n with
    | zero => rfl
    | succ n =>
      have hfirst : (s.pull .iterate).answer = .lexeme (.error e) := congrArg PullAnswer.lexeme he
      rw [List.replicate_succ, answers_cons, hfirst]
      refine congrArg _ ((answers_of_iterate_none (iterate_after_error he) n).trans ?_)
      exact (List.takeD_nil _ _).symm

end Iterating

section Weight

variable {s : LexemeStream σ}

private theorem weight_next_le (s : LexemeStream σ) : s.next.stream.weight ≤ s.weight := by
  obtain ⟨input, config, slot, stopped⟩ := s
  cases slot with
  | some held => exact Nat.le_succ _
  | none => exact Reading.remaining_lexeme_le config input

private theorem weight_pull_le (s : LexemeStream σ) (p : Pull) :
    (s.pull p).stream.weight ≤ s.weight := by
  cases p with
  | peek => exact weight_peek_le s
  | next => exact weight_next_le s
  | eof => exact weight_peek_le s
  | iterate =>
    cases hstopped : s.stopped with
    | true =>
      have hstay : (s.pull .iterate).stream = s :=
        congrArg Reply.stream (iterate_of_stopped hstopped)
      exact Nat.le_of_eq (congrArg weight hstay)
    | false =>
      have hnext : (s.pull .iterate).stream = _ := (iterate_of_running hstopped).2
      rw [hnext]
      exact weight_next_le s

private theorem weight_after_le (s : LexemeStream σ) (calls : List Pull) :
    (s.after calls).weight ≤ s.weight := by
  induction calls generalizing s with
  | nil => exact Nat.le_refl _
  | cons p calls ih => exact Nat.le_trans (ih _) (weight_pull_le s p)

end Weight

/-- Draining ends: iterating gives at most `total` lexemes, then at most one error, and none from
then on; to drain is to iterate until the first time that no lexeme comes. -/
structure DrainsWithin (total : Nat) (s : LexemeStream σ) : Prop where
  lexemes : s.drain.lexemes.length ≤ total
  answers : ∀ n, s.answers (List.replicate n .iterate) =
    (Row.mk s.drain.lexemes s.drain.failure).iterated.takeD n (.lexeme (.ok none))
  stream : s.drain.stream = s.after (List.replicate (s.drain.lexemes.length + 1) .iterate)

private theorem drainsWithin {s : LexemeStream σ} {total : Nat} (h : s.weight ≤ total) :
    s.DrainsWithin total where
  lexemes := Nat.le_trans s.drains.length_le_weight h
  answers := s.drains.answers_eq
  stream := s.drains.after_eq.symm

/-- All pulls advance the input, and draining ends. -/
structure Progresses (place : σ → Nat) (total : Nat) (s : LexemeStream σ) : Prop where
  pull : ∀ p, s.Advances place total p
  drain : s.DrainsWithin total

/-- A new stream progresses after any row of pulls. -/
theorem after_progresses {place : σ → Nat} {total : Nat}
    (hkeeps : Source.Keeps (Source.MakesUp place total) (Source.MakesUp place total))
    {input : σ} (hinput : Source.MakesUp place total input) (config : Config)
    (calls : List Pull) : ((ofSource input config).after calls).Progresses place total where
  pull := by
    intro p
    exact pull_advances hkeeps (after_keeps hkeeps hinput calls) p
  drain := by
    apply drainsWithin
    calc ((ofSource input config).after calls).weight
        ≤ (ofSource input config).weight := weight_after_le _ _
      _ = Source.remaining input := rfl
      _ ≤ place input + Source.remaining input := Nat.le_add_left _ _
      _ = total := hinput

end LexemeStream

/-- How many characters of a text have been taken. -/
def Cursor.index (source : String) (s : Cursor) : Nat := source.length - s.rest.length

private theorem Script.index_kept (total : Nat) :
    Source.Keeps (Source.MakesUp Script.index total) (Source.MakesUp Script.index total) := by
  apply Source.Keeps.of_next
  rintro ⟨filename, index, rest⟩ h
  cases rest with
  | nil => exact h
  | cons cell rest =>
    change index + (rest.length + 1) = total at h
    change index + 1 + rest.length = total
    omega

private theorem Cursor.index_kept (source : String) :
    Source.Keeps (Source.MakesUp (Cursor.index source) source.length)
      (Source.MakesUp (Cursor.index source) source.length) := by
  apply Source.Keeps.of_next
  rintro ⟨filename, p, rest⟩ h
  cases rest with
  | nil => exact h
  | cons c rest =>
    change source.length - (rest.length + 1) + (rest.length + 1) = source.length at h
    change source.length - rest.length + rest.length = source.length
    omega

/-- Every pull returns and advances its input, and draining ends, after any row of pulls: over every
script, whatever its cells show and hand out, and over every text. -/
theorem pulls_progress (config : Config) (filename : String) (calls : List Pull) :
    (∀ cells : List Cell,
      ((LexemeStream.ofSource (Script.ofCells filename cells) config).after calls).Progresses
        Script.index cells.length) ∧
    ∀ source : String,
      ((LexemeStream.ofText config filename source).after calls).Progresses
        (Cursor.index source) source.length := by
  constructor
  · intro cells
    have hstart : Source.MakesUp Script.index cells.length (Script.ofCells filename cells) :=
      Nat.zero_add _
    exact LexemeStream.after_progresses (Script.index_kept _) hstart config calls
  · intro source
    have hstart : Source.MakesUp (Cursor.index source) source.length
        (Cursor.ofString filename source) := by
      change source.length - source.toList.length + source.toList.length = source.length
      rw [String.length_toList]
      omega
    exact LexemeStream.after_progresses (Cursor.index_kept source) hstart config calls

end PullLexer
