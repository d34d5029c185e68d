import Mathlib.Data.List.Basic
import PullLexer.Proofs.Kept
/-!
# Sources in step

All that a scan learns from its source is what the source shows, what it hands out and, where a
character is shown, the coordinate. Two sources that agree on these, and go on agreeing when a
character is taken from each, are scanned alike. They need not agree for ever: a scan that has not
taken the first source past the part in which they agree cannot tell them apart.
-/

namespace PullLexer

open Source

/-- The same result, or errors that are alike in the sense of `E`. -/
inductive SameUpTo (E : LexError → LexError → Prop) {α : Type} :
    Except LexError α → Except LexError α → Prop
  | ok (a : α) : SameUpTo E (.ok a) (.ok a)
  | error {e e' : LexError} : E e e' → SameUpTo E (.error e) (.error e')

private theorem SameUpTo.map {E : LexError → LexError → Prop} {α β : Type} (f : α → β)
    {r r' : Except LexError α} (h : SameUpTo E r r') : SameUpTo E (r.map f) (r'.map f) := by
  cases h with
  | ok a => exact .ok (f a)
  | error he => exact .error he

section InStep

variable {σ τ : Type} [Source σ] [Source τ]

/-- Sources that are related by `R` agree, and stay related when a character is taken from each
unless that takes the first one past what they have in common. Errors found there are related by
`E`. -/
structure Source.InStep (R : σ → τ → Prop) (E : LexError → LexError → Prop) (Past : σ → Prop) :
    Prop where
  peek : ∀ {s t}, R s t → Source.peek s = Source.peek t
  given : ∀ {s t}, R s t → (Source.next s).1 = (Source.next t).1
  next : ∀ {s t}, R s t → Past (Source.next s).2 ∨ R (Source.next s).2 (Source.next t).2
  coord : ∀ {s t}, R s t → Source.peek s ≠ none → Source.coord s = Source.coord t
  report : ∀ {s t}, R s t → ∀ fault, E (Source.report s fault) (Source.report t fault)
  past : Source.Keeps Past Past

variable {R : σ → τ → Prop} {E : LexError → LexError → Prop} {Past : σ → Prop} {s : σ} {t : τ}

private theorem takeBy_eq_match {β : Type} (rule : β → Char → Option β) (state : β) (input : τ)
    (taken : List Char) :
    Run.takeBy rule state input taken =
      match Source.peek input with
      | none => ⟨taken.reverse, state, input⟩
      | some c =>
        match rule state c with
        | none => ⟨taken.reverse, state, input⟩
        | some state =>
          match (Source.next input).1 with
          | none => ⟨taken.reverse, state, (Source.next input).2⟩
          | some given => Run.takeBy rule state (Source.next input).2 (given :: taken) := by
  rw [Run.takeBy]
  split
  · rename_i h
    simp only [h]
  · rename_i c h
    exact h ▸ rfl

private theorem bodyTake_eq_match (input : τ) (escaped : Bool) (taken : List Char) :
    Body.take input escaped taken =
      match (Source.next input).1 with
      | none => ⟨taken.reverse, false, (Source.next input).2⟩
      | some c =>
        if escaped then Body.take (Source.next input).2 false (c :: taken)
        else if c = '\\' then Body.take (Source.next input).2 true taken
        else if c = stringQuote then ⟨taken.reverse, true, (Source.next input).2⟩
        else Body.take (Source.next input).2 false (c :: taken) := by
  rw [Body.take]
  split
  · rename_i h
    simp only [h]
  · rename_i c h
    simp only [h]

private theorem Run.takeBy_inStep (h : Source.InStep R E Past) {β : Type}
    (rule : β → Char → Option β) (state : β) (taken : List Char) (hst : R s t) :
    Past (takeBy rule state s taken).rest ∨ ∃ rest, R (takeBy rule state s taken).rest rest ∧
      takeBy rule state t taken =
        ⟨(takeBy rule state s taken).text, (takeBy rule state s taken).state, rest⟩ := by
  fun_induction takeBy rule state s taken generalizing t with
  | case1 state s taken hend =>
    refine .inr ⟨t, hst, ?_⟩
    rw [takeBy_eq_match, ← h.peek hst, hend]
  | case2 state s taken c hshown hrule =>
    refine .inr ⟨t, hst, ?_⟩
    rw [takeBy_eq_match, ← h.peek hst, hshown]
    simp only [hrule]
  | case3 state s taken c hshown state' hrule hgiven =>
    refine (h.next hst).imp_right fun hrest => ⟨_, hrest, ?_⟩
    rw [takeBy_eq_match, ← h.peek hst, ← h.given hst, hshown]
    simp only [hrule, hgiven]
  | case4 state s taken c hshown state' hrule given hgiven ih =>
    rcases h.next hst with hpast | hrest
    · exact .inl (h.past.takeBy _ _ _ hpast)
    · rw [takeBy_eq_match rule state t, ← h.peek hst, ← h.given hst, hshown]
      simp only [hrule, hgiven]
      exact ih hrest

private theorem Run.takeWhile_inStep (h : Source.InStep R E Past) (p : Char → Bool) (hst : R s t) :
    Past (takeWhile p s).rest ∨ ∃ rest, R (takeWhile p s).rest rest ∧
      takeWhile p t = ⟨(takeWhile p s).text, (), rest⟩ :=
  takeBy_inStep h _ _ _ hst

private theorem Body.take_inStep (h : Source.InStep R E Past) (escaped : Bool) (taken : List Char)
    (hst : R s t) :
    Past (take s escaped taken).rest ∨ ∃ rest, R (take s escaped taken).rest rest ∧
      take t escaped taken =
        ⟨(take s escaped taken).text, (take s escaped taken).closed, rest⟩ := by
  fun_induction take s escaped taken generalizing t with
  | case1 s escaped taken hgiven =>
    refine (h.next hst).imp_right fun hrest => ⟨_, hrest, ?_⟩
    rw [bodyTake_eq_match, ← h.given hst, hgiven]
  | case2 taken s c hgiven ih =>
    rcases h.next hst with hpast | hrest
    · exact .inl (h.past.body _ _ hpast)
    · rw [bodyTake_eq_match t, ← h.given hst, hgiven]
      exact ih hrest
  | case3 s escaped taken hescaped hgiven ih =>
    rcases h.next hst with hpast | hrest
    · exact .inl (h.past.body _ _ hpast)
    · rw [bodyTake_eq_match t, ← h.given hst, hgiven]
      simp only [hescaped, Bool.false_eq_true, ↓reduceIte]
      exact ih hrest
  | case4 s escaped taken hescaped hgiven hslash =>
    refine (h.next hst).imp_right fun hrest => ⟨_, hrest, ?_⟩
    rw [bodyTake_eq_match, ← h.given hst, hgiven]
    simp only [hescaped, hslash, Bool.false_eq_true, ↓reduceIte]
  | case5 s escaped taken c hgiven hescaped hslash hquote ih =>
    rcases h.next hst with hpast | hrest
    · exact .inl (h.past.body _ _ hpast)
    · rw [bodyTake_eq_match t, ← h.given hst, hgiven]
      simp only [hescaped, hslash, hquote, Bool.false_eq_true, ↓reduceIte]
      exact ih hrest

namespace Gap

private theorem pastBlanks_inStep (h : Source.InStep R E Past) (hst : R s t) :
    Past (pastBlanks s) ∨ R (pastBlanks s) (pastBlanks t) := by
  rcases Run.takeWhile_inStep h CharClass.blank.holds hst with hpast | ⟨rest, hrest, hrun⟩
  · exact .inl hpast
  · rw [pastBlanks, pastBlanks, hrun]
    exact .inr hrest

private theorem pastLine_inStep (h : Source.InStep R E Past) (hst : R s t) :
    Past (pastLine s) ∨ R (pastLine s) (pastLine t) := by
  rcases Run.takeWhile_inStep h (· != '\n') hst with hpast | ⟨rest, hrest, hrun⟩
  · exact .inl (h.past.last hpast)
  · rw [pastLine, pastLine, hrun]
    exact h.next hrest

private theorem skipAfter_eq_ite (comments : List Nat) (input : τ) :
    skipAfter comments input =
      if peek input = some '#' then skipAfter (line input :: comments) (pastBlanks (pastLine input))
      else ⟨comments.reverse, input⟩ := by
  rw [skipAfter]
  rfl

private theorem skipAfter_inStep (h : Source.InStep R E Past) (comments : List Nat)
    (hst : R s t) :
    Past (skipAfter comments s).rest ∨ ∃ rest, R (skipAfter comments s).rest rest ∧
      skipAfter comments t = ⟨(skipAfter comments s).comments, rest⟩ := by
  fun_induction skipAfter comments s generalizing t with
  | case1 comments s hshown ih =>
    rcases pastLine_inStep h hst with hpast | hline
    · exact .inl (h.past.skipAfter _ (h.past.pastBlanks hpast))
    rcases pastBlanks_inStep h hline with hpast | hblanks
    · exact .inl (h.past.skipAfter _ hpast)
    have hcoord := h.coord hst (by simp [hshown])
    have hlines : line s = line t := congrArg Coord.line hcoord
    rw [skipAfter_eq_ite _ t, ← h.peek hst, if_pos hshown, ← hlines]
    exact ih hblanks
  | case2 comments s hshown =>
    refine .inr ⟨t, hst, ?_⟩
    rw [skipAfter_eq_ite, ← h.peek hst, if_neg hshown]

private theorem skip_inStep (h : Source.InStep R E Past) (hst : R s t) :
    Past (skip s).rest ∨ ∃ rest, R (skip s).rest rest ∧ skip t = ⟨(skip s).comments, rest⟩ := by
  rcases pastBlanks_inStep h hst with hpast | hblanks
  · exact .inl (h.past.skipAfter _ hpast)
  · exact skipAfter_inStep h [] hblanks

end Gap

namespace Reading

/-- Results that are alike, and sources after them that are related. -/
structure Alike (R : σ → τ → Prop) (E : LexError → LexError → Prop) {α : Type}
    (reading : Reading α σ) (reading' : Reading α τ) : Prop where
  result : SameUpTo E reading.result reading'.result
  rest : R reading.rest reading'.rest

private theorem number_inStep (h : Source.InStep R E Past) (hst : R s t) :
    Past (number s).rest ∨ Alike R E (number s) (number t) := by
  rw [rest_number]
  rcases Run.takeBy_inStep h Number.rule false [] hst with hpast | ⟨rest, hrest, hrun⟩
  · exact .inl hpast
  right
  unfold number
  rw [hrun]
  dsimp only
  cases Number.read? (Run.takeBy Number.rule false s []).state
      (Run.takeBy Number.rule false s []).text with
  | some n => exact ⟨.ok _, hrest⟩
  | none => exact ⟨.error (h.report hrest _), hrest⟩

private theorem string_inStep (h : Source.InStep R E Past) (strict : Bool) (hst : R s t) :
    Past (string strict s).rest ∨ Alike R E (string strict s) (string strict t) := by
  rw [rest_string]
  rcases h.next hst with hpast | hopened
  · exact .inl (h.past.body _ _ hpast)
  rcases Body.take_inStep h false [] hopened with hpast | ⟨rest, hrest, hbody⟩
  · exact .inl hpast
  right
  unfold string
  rw [hbody]
  dsimp only
  cases (Body.take (Source.next s).2 false []).closed with
  | true => exact ⟨.ok _, hrest⟩
  | false =>
    cases strict with
    | true => exact ⟨.error (h.report hrest _), hrest⟩
    | false => exact ⟨.ok _, hrest⟩

private theorem word_inStep (h : Source.InStep R E Past) (mode : IdentifierMode) (hst : R s t)
    (hshown : peek s ≠ none) :
    Past (word mode s).rest ∨ Alike R E (word mode s) (word mode t) := by
  have hcoord := h.coord hst hshown
  rcases Run.takeWhile_inStep h CharClass.id.holds hst with hpast | ⟨rest, hrest, hrun⟩
  · exact .inl (h.past.word mode hpast)
  unfold word
  rw [hrun]
  dsimp only
  split
  · exact .inr ⟨.ok _, hrest⟩
  split
  · exact .inr ⟨.ok _, hrest⟩
  cases mode with
  | plain =>
    right
    rw [← hcoord]
    exact ⟨.ok _, hrest⟩
  | fragments =>
    refine (Gap.skip_inStep h hrest).imp_right ?_
    rintro ⟨ahead, hahead, hskip⟩
    dsimp only [Gap.callAhead]
    rw [hskip, ← hcoord, ← h.peek hahead]
    exact ⟨.ok _, hahead⟩

private theorem starting_inStep (h : Source.InStep R E Past) (config : Config) {c : Char}
    (hst : R s t) (hshown : peek s = some c) :
    Past (starting config c s).rest ∨ Alike R E (starting config c s) (starting config c t) := by
  unfold starting
  split
  · exact string_inStep h _ hst
  split
  · exact number_inStep h hst
  split
  · exact word_inStep h _ hst (by simp [hshown])
  split
  · exact (h.next hst).imp_right fun hrest => ⟨.ok _, hrest⟩
  split
  · refine (Run.takeWhile_inStep h CharClass.op.holds hst).imp_right ?_
    rintro ⟨rest, hrest, hrun⟩
    unfold operator
    rw [hrun]
    exact ⟨.ok _, hrest⟩
  · exact .inr ⟨.error (h.report hst _), hst⟩

/-- From sources in step the same lexeme is read, or the same fault found. -/
theorem lexeme_inStep (h : Source.InStep R E Past) (config : Config) (hst : R s t) :
    Past (lexeme config s).rest ∨ Alike R E (lexeme config s) (lexeme config t) := by
  rcases Gap.skip_inStep h hst with hpast | ⟨rest, hrest, hskip⟩
  · exact .inl (h.past.lexeme config hpast)
  unfold lexeme
  rw [hskip]
  dsimp only
  rw [← h.peek hrest]
  cases hshown : Source.peek (Gap.skip s).rest with
  | none => exact .inr ⟨.ok _, hrest⟩
  | some c =>
    refine (starting_inStep h config hrest hshown).imp_right ?_
    intro hread
    exact ⟨hread.result.map some, hread.rest⟩

end Reading

end InStep

/-- The same answer, or errors that are alike in the sense of `E`. -/
inductive PullAnswer.SameUpTo (E : LexError → LexError → Prop) : PullAnswer → PullAnswer → Prop
  | lexeme {r r' : Except LexError (Option Lexeme)} :
      PullLexer.SameUpTo E r r' → SameUpTo E (.lexeme r) (.lexeme r')
  | atEnd {r r' : Except LexError Bool} :
      PullLexer.SameUpTo E r r' → SameUpTo E (.atEnd r) (.atEnd r')

theorem PullAnswer.SameUpTo.eq {a a' : PullAnswer} (h : SameUpTo Eq a a') : a = a' := by
  rcases h with (_ | rfl) | (_ | rfl) <;> rfl

section Streams

variable {σ τ : Type} [Source σ] [Source τ]

/-- Streams that differ in their inputs only, and these are related by `R`. -/
structure LexemeStream.Alike (R : σ → τ → Prop) (s : LexemeStream σ) (t : LexemeStream τ) :
    Prop where
  input : R s.input t.input
  config : t.config = s.config
  slot : t.slot = s.slot
  stopped : t.stopped = s.stopped

/-- Answers related by `A`, and streams after them that are alike. -/
structure Reply.Alike (R : σ → τ → Prop) {α : Type} (A : α → α → Prop) (reply : Reply α σ)
    (reply' : Reply α τ) : Prop where
  answer : A reply.answer reply'.answer
  stream : LexemeStream.Alike R reply.stream reply'.stream

namespace LexemeStream

variable {R : σ → τ → Prop} {E : LexError → LexError → Prop} {Past : σ → Prop}
  {s : LexemeStream σ} {t : LexemeStream τ}

private theorem shownSlot_of_sameUpTo {r r' : Except LexError (Option Lexeme)}
    (h : SameUpTo E r r') : shownSlot r' = shownSlot r := by
  cases h <;> rfl

private theorem isError_of_sameUpTo {α : Type} {r r' : Except LexError α} (h : SameUpTo E r r') :
    isError r' = isError r := by
  cases h <;> rfl

private theorem peek_inStep (h : Source.InStep R E Past) (hst : Alike R s t) :
    Past s.peek.stream.input ∨ Reply.Alike R (SameUpTo E) s.peek t.peek := by
  unfold peek
  rw [hst.slot]
  cases hslot : s.slot with
  | some held => exact .inr ⟨.ok _, hst⟩
  | none =>
    dsimp only
    rw [hst.config]
    refine (Reading.lexeme_inStep h s.config hst.input).imp_right ?_
    intro hread
    exact ⟨hread.result, hread.rest, rfl, shownSlot_of_sameUpTo hread.result, hst.stopped⟩

private theorem next_inStep (h : Source.InStep R E Past) (hst : Alike R s t) :
    Past s.next.stream.input ∨ Reply.Alike R (SameUpTo E) s.next t.next := by
  unfold next
  rw [hst.slot]
  cases hslot : s.slot with
  | some held => exact .inr ⟨.ok _, hst.input, hst.config, rfl, hst.stopped⟩
  | none =>
    dsimp only
    rw [hst.config]
    refine (Reading.lexeme_inStep h s.config hst.input).imp_right ?_
    intro hread
    exact ⟨hread.result, hread.rest, rfl, rfl, hst.stopped⟩

private theorem iterate_inStep (h : Source.InStep R E Past) (hst : Alike R s t) :
    Past s.iterate.stream.input ∨ Reply.Alike R (SameUpTo E) s.iterate t.iterate := by
  unfold iterate
  rw [hst.stopped]
  split
  · exact .inr ⟨.ok _, hst⟩
  · refine (next_inStep h hst).imp_right ?_
    intro hnext
    exact ⟨hnext.answer, hnext.stream.input, hnext.stream.config, hnext.stream.slot,
      isError_of_sameUpTo hnext.answer⟩

theorem pull_inStep (h : Source.InStep R E Past) (hst : Alike R s t) (p : Pull) :
    Past (s.pull p).stream.input ∨
      Reply.Alike R (PullAnswer.SameUpTo E) (s.pull p) (t.pull p) := by
  cases p with
  | peek => exact (peek_inStep h hst).imp_right fun hr => ⟨.lexeme hr.answer, hr.stream⟩
  | next => exact (next_inStep h hst).imp_right fun hr => ⟨.lexeme hr.answer, hr.stream⟩
  | eof => exact (peek_inStep h hst).imp_right fun hr => ⟨.atEnd (hr.answer.map _), hr.stream⟩
  | iterate => exact (iterate_inStep h hst).imp_right fun hr => ⟨.lexeme hr.answer, hr.stream⟩

/-- A row of pulls that does not take the first source past what the two have in common is answered
alike. -/
theorem pulls_inStep (h : Source.InStep R E Past) (hst : Alike R s t) (calls : List Pull)
    (hend : ¬ Past (s.after calls).input) :
    List.Forall₂ (Reply.Alike R (PullAnswer.SameUpTo E)) (s.pulls calls) (t.pulls calls) ∧
      Alike R (s.after calls) (t.after calls) := by
  induction calls generalizing s t with
  | nil => exact ⟨.nil, hst⟩
  | cons p calls ih =>
    rcases pull_inStep h hst p with hpast | hreply
    · exact absurd (after_keeps h.past hpast calls) hend
    · obtain ⟨hreplies, hlast⟩ := ih hreply.stream hend
      exact ⟨.cons hreply hreplies, hlast⟩

omit [Source σ] [Source τ] in
theorem answers_eq_of_alike {replies : List (Reply PullAnswer σ)}
    {replies' : List (Reply PullAnswer τ)}
    (h : List.Forall₂ (Reply.Alike R (PullAnswer.SameUpTo Eq)) replies replies') :
    replies'.map Reply.answer = replies.map Reply.answer := by
  induction h with
  | nil => rfl
  | cons hreply _ ih => rw [List.map_cons, List.map_cons, ih, hreply.answer.eq]

end LexemeStream

end Streams

end PullLexer
