import PullLexer.Proofs.Deliveries
/-!
# Looking past a gap

Whether an opening parenthesis comes next is found by looking past the gap before it. The look takes
the longest gap that comes next and nothing else, it tells what the next read gives, and it changes
neither the result of that read nor where the read ends: what a read skips first has been skipped
already.
-/

namespace PullLexer

/-- A beginning of the text that is a gap. The end of the text may end the last comment of the gap
in place of a newline. -/
def IsGapOf (text g : List Char) : Prop := IsGap g ∨ IsLastGap g ∧ g = text

private theorem IsLastGap.ne_append {text g r : List Char} {c : Char} (h : IsLastGap text)
    (hg : IsGap g) (hc : startsGap c = false) : text ≠ g ++ c :: r := by
  rintro rfl
  have hlast := Gap.skip_lastGap h "" .start
  rw [Gap.skip_gap hg "" .start (by simpa using hc)] at hlast
  exact absurd (congrArg Cursor.rest hlast) (by simp)

private theorem longest_gap_of_stop {g r : List Char} {c : Char} (hg : IsGap g)
    (hc : startsGap c = false) : Longest (IsGapOf (g ++ c :: r)) g (c :: r) := by
  refine ⟨.inl hg, ?_⟩
  intro u hu hgap
  rcases hgap with hclosed | ⟨hlast, htext⟩
  · obtain ⟨v, hv⟩ := hu
    rcases exists_gap v with hend | ⟨h, d, w, rfl, hh, hd⟩
    · exact absurd hv ((hend.append hclosed).ne_append hg hc)
    · -- Both gaps end before a character that starts none, the longer one with `h` at its end.
      have hsplit : g ++ c :: r = (u ++ h) ++ d :: w := by simpa using hv.symm
      obtain ⟨hsame, -⟩ := hg.append_inj (hclosed.append hh) (by simpa using hc)
        (by simpa using hd) hsplit
      rw [hsame, List.length_append]
      exact Nat.le_add_right _ _
  · exact absurd htext (hlast.ne_append hg hc)

private theorem longest_lastGap {g : List Char} (hg : IsLastGap g) : Longest (IsGapOf g) g [] := by
  refine ⟨.inr ⟨hg, rfl⟩, ?_⟩
  intro u hu _
  rw [List.append_nil] at hu
  exact hu.length_le

/-- Skipping takes the longest gap, and nothing behind it. -/
theorem Gap.skip_longest (s : Cursor) :
    ∃ g r, s.rest = g ++ r ∧ Longest (IsGapOf s.rest) g r ∧
      (skip s).rest = ⟨s.filename, s.position.after g, r⟩ := by
  obtain ⟨filename, p, text⟩ := s
  rcases exists_gap text with hlast | ⟨g, c, r, rfl, hg, hc⟩
  · exact ⟨text, [], (List.append_nil text).symm, longest_lastGap hlast,
      skip_lastGap hlast filename p⟩
  · exact ⟨g, c :: r, rfl, longest_gap_of_stop hg hc,
      skip_gap hg filename p (by simpa using hc)⟩

/-- A parenthesis that is seen behind the gap is what a read gives. -/
theorem Gap.callAhead_iff {σ : Type} [Source σ] (config : Config) (input : σ) :
    (callAhead input).1 = true ↔
      (Reading.lexeme config input).result = .ok (some (.token (.punc "("))) := by
  have hseen : (callAhead input).1 = true ↔ Source.peek (skip input).rest = some '(' := by
    simp [callAhead]
  rw [hseen]
  constructor
  · intro hpeek
    rw [(Reading.lexeme_of_start hpeek).1, Reading.starting_punc _ _ (by decide +kernel)]
    rfl
  · intro hread
    cases hpeek : Source.peek (skip input).rest with
    | none =>
      rw [(Reading.lexeme_of_end hpeek).1] at hread
      exact absurd hread (by simp)
    | some c =>
      have hpunc := Reading.isPunc_of_starting (Reading.starting_of_lexeme hpeek hread)
      have hc : c = '(' := by simpa [Lexeme.isPunc, Lexeme.token?, Token.isPunc] using hpunc
      rw [hc]

namespace LexemeStream

/-- Looks past the gap that comes next, whatever the slot holds: whether an opening parenthesis
follows, and the stream behind the gap. -/
def callAhead {σ : Type} [Source σ] (s : LexemeStream σ) : Reply Bool σ :=
  ⟨(Gap.callAhead s.input).1, { s with input := (Gap.callAhead s.input).2 }, []⟩

/-- A look past the gap tells exactly whether the next lexeme is an opening parenthesis. It takes
the longest gap, leaves the slot empty, and the next lexeme is delivered as if there had been no
look, with the same stream after it. -/
theorem callAhead_transparent {s : LexemeStream Cursor} (hslot : s.slot = none) :
    (s.callAhead.answer = true ↔ s.next.answer = .ok (some (.token (.punc "(")))) ∧
      (∃ g r, s.input.rest = g ++ r ∧ Longest (IsGapOf s.input.rest) g r ∧
        s.callAhead.stream.input = ⟨s.input.filename, s.input.position.after g, r⟩) ∧
      s.callAhead.stream.slot = none ∧
      s.callAhead.stream.next.answer = s.next.answer ∧
      s.callAhead.stream.next.stream = s.next.stream := by
  obtain ⟨input, config, slot, stopped⟩ := s
  obtain rfl : slot = none := hslot
  obtain ⟨hresult, hrest⟩ := Reading.lexeme_skip config input
  refine ⟨Gap.callAhead_iff config input, Gap.skip_longest input, rfl, hresult, ?_⟩
  exact congrArg (fun input => (⟨input, config, none, stopped⟩ : LexemeStream Cursor)) hrest

/-- The parenthesis in a comment is looked past and the one behind it is found, in the middle of a
source and after iterating has stopped. -/
theorem callAhead_transparent_past_comment :
    let input : Cursor := ⟨"a.HC", ⟨3, 2, 40⟩, " #(\n_(\x22".toList⟩
    let s : LexemeStream Cursor := ⟨input, ⟨.plain, true⟩, none, true⟩
    s.slot = none ∧ s.callAhead.answer = true ∧
      s.next.answer = .ok (some (.token (.punc "("))) ∧
      (∃ g r, s.input.rest = g ++ r ∧ Longest (IsGapOf s.input.rest) g r ∧
        s.callAhead.stream.input = ⟨s.input.filename, s.input.position.after g, r⟩) ∧
      s.callAhead.stream.slot = none ∧
      s.callAhead.stream.next.answer = s.next.answer ∧
      s.callAhead.stream.next.stream = s.next.stream := by
  intro input s
  have hlook : s.callAhead.answer = true := by decide +kernel
  obtain ⟨htells, hrest⟩ := callAhead_transparent (s := s) rfl
  exact ⟨rfl, hlook, htells.1 hlook, hrest⟩

end LexemeStream

end PullLexer
