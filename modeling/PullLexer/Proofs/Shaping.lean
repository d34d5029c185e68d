import PullLexer.Proofs.Grammar
import PullLexer.LexemeStream.Reshape
/-!
# Shaping identifiers

Looking past the gap behind an identifier tells what comparing the next lexeme tells. So a scan
that shapes identifiers delivers what a scan that does not would, with each identifier shaped by
the lexeme after it, and a reader that shapes identifiers itself finds the same fragments.
-/

namespace PullLexer

/-- A lexeme that stands before `following`, shaped if it is an identifier. -/
def shapeBefore (following : Option Lexeme) : Lexeme → Lexeme
  | .token (.ident name coord) =>
    .fragment (.ofIdentifier name coord (LexemeStream.isOpening following))
  | l => l

/-- Shapes each identifier of a row by the lexeme right after it. -/
def shapeAll : List Lexeme → List Lexeme
  | [] => []
  | l :: ls => shapeBefore ls.head? l :: shapeAll ls

namespace Row

def shaped (row : Row) : Row := ⟨shapeAll row.lexemes, row.failure⟩

private theorem shaped_cons (l : Lexeme) (row : Row) :
    (row.cons l).shaped = row.shaped.cons (shapeBefore row.lexemes.head? l) := rfl

/-- The fragments among the lexemes, or the error after them. -/
def fragments (row : Row) : Except LexError (List Fragment) :=
  row.result.map (·.filterMap Lexeme.fragment?)

private theorem fragments_cons (l : Lexeme) (row : Row) :
    (row.cons l).fragments = row.fragments.map (l.fragment?.toList ++ ·) := by
  obtain ⟨lexemes, failure⟩ := row
  cases failure <;> cases l <;>
    simp [fragments, result, cons, Except.map, Lexeme.fragment?, List.filterMap_cons]

end Row

section

variable {σ : Type} [Source σ] (config : Config)

theorem callAhead_eq (input : σ) :
    (Gap.callAhead input).1 = LexemeStream.isOpening (rowFrom config input).lexemes.head? := by
  cases hpeek : Source.peek (Gap.skip input).rest with
  | none =>
    rw [rowFrom_of_end (Reading.lexeme_of_end hpeek).1]
    simp [Gap.callAhead, hpeek, LexemeStream.isOpening]
  | some c =>
    have hread : (Reading.lexeme config input).result = _ := (Reading.lexeme_of_start hpeek).1
    cases hstart : (Reading.starting config c (Gap.skip input).rest).result with
    | error e =>
      have hc : c ≠ '(' := by
        rintro rfl
        rw [Reading.starting_punc _ _ (by decide +kernel)] at hstart
        simp [Reading.punc] at hstart
      rw [hstart] at hread
      rw [rowFrom_of_error hread]
      simpa [Gap.callAhead, hpeek, LexemeStream.isOpening] using hc
    | ok l =>
      rw [hstart] at hread
      rw [rowFrom_of_lexeme hread]
      have hpunc := Reading.isPunc_of_starting hstart
      simp [Gap.callAhead, hpeek, LexemeStream.isOpening, Row.cons, hpunc]

theorem rowFrom_skip (s : Cursor) : rowFrom config (Gap.skip s).rest = rowFrom config s := by
  obtain ⟨hresult, hrest⟩ := Reading.lexeme_skip config s
  exact rowFrom_congr hresult (congrArg (rowFrom config) hrest)

end

/-- Shaping while scanning is shaping what was scanned without. -/
theorem rowFrom_fragments (strict : Bool) (s : Cursor) :
    rowFrom ⟨.fragments, strict⟩ s = (rowFrom ⟨.plain, strict⟩ s).shaped := by
  -- On what remains of the source: each lexeme uses some of it up.
  induction hn : Source.remaining s using Nat.strongRecOn generalizing s with
  | ind n ih =>
    by_cases hident : ∃ name coord,
        (Reading.lexeme ⟨.plain, strict⟩ s).result = .ok (some (.token (.ident name coord)))
    · obtain ⟨name, coord, hplain⟩ := hident
      have hlt := hn ▸ Reading.remaining_lexeme_lt hplain
      have hfragments := Reading.lexeme_fragments_of_ident hplain
      have hrest : rowFrom ⟨.fragments, strict⟩ (Reading.lexeme ⟨.fragments, strict⟩ s).rest =
          rowFrom ⟨.fragments, strict⟩ (Reading.lexeme ⟨.plain, strict⟩ s).rest := by
        rw [hfragments.2]
        exact rowFrom_skip _ _
      rw [rowFrom_of_lexeme hplain, rowFrom_of_lexeme hfragments.1, hrest, ih _ hlt _ rfl,
        callAhead_eq ⟨.plain, strict⟩, Row.shaped_cons]
      rfl
    · have hne : ∀ name coord, (Reading.lexeme ⟨.plain, strict⟩ s).result ≠
          .ok (some (.token (.ident name coord))) := by
        intro name coord h
        exact hident ⟨name, coord, h⟩
      obtain ⟨hresult, hrest⟩ := Reading.lexeme_fragments_of_not_ident hne
      cases h : (Reading.lexeme ⟨.plain, strict⟩ s).result with
      | error e =>
        rw [rowFrom_of_error h, rowFrom_of_error (hresult.trans h)]
        rfl
      | ok l? =>
        cases l? with
        | none =>
          rw [rowFrom_of_end h, rowFrom_of_end (hresult.trans h)]
          rfl
        | some l =>
          have hlt := hn ▸ Reading.remaining_lexeme_lt h
          rw [rowFrom_of_lexeme h, rowFrom_of_lexeme (hresult.trans h), hrest, ih _ hlt _ rfl]
          have hl (following : Option Lexeme) : shapeBefore following l = l := by
            unfold shapeBefore
            split
            · rename_i name coord
              exact absurd h (hne name coord)
            · rfl
          rw [Row.shaped_cons, hl]

namespace LexemeStream

variable {σ : Type} [Source σ]

private theorem identifier?_eq_some_iff {l : Lexeme} {name : String} {coord : Coord} :
    identifier? l = some (name, coord) ↔ l = .token (.ident name coord) := by
  unfold identifier?
  split
  · simp
  · rename_i h
    simp only [reduceCtorEq, false_iff]
    exact h name coord

private theorem shapeBefore_of_not_ident {l : Lexeme} (h : identifier? l = none)
    (following : Option Lexeme) : shapeBefore following l = l := by
  unfold shapeBefore
  split
  · simp [identifier?] at h
  · rfl

private theorem shown_eq_head {s : LexemeStream σ} {shown : Option Lexeme}
    (h : s.peek.answer = .ok shown) : shown = s.deliveries.lexemes.head? := by
  have hnext : s.next.answer = .ok shown := (peek_answer s).symm.trans h
  cases shown with
  | none =>
    rw [deliveries_of_end hnext]
    rfl
  | some l =>
    rw [deliveries_of_lexeme hnext]
    rfl

private theorem tokens_next {s : LexemeStream σ} {l : Lexeme} (h : s.next.answer = .ok (some l))
    (hs : ∀ l ∈ s.deliveries.lexemes, ∃ tok, l = .token tok) :
    ∀ l ∈ s.next.stream.deliveries.lexemes, ∃ tok, l = .token tok := by
  intro l' hl'
  apply hs
  rw [deliveries_of_lexeme h]
  exact List.mem_cons_of_mem _ hl'

/-- A reader that shapes the identifiers of a stream of tokens finds the fragments of the shaped
row, or the error after it. -/
theorem reshapeAfter_eq (s : LexemeStream σ) (fragments : List Fragment)
    (hs : ∀ l ∈ s.deliveries.lexemes, ∃ tok, l = .token tok) :
    s.reshapeAfter fragments = s.deliveries.shaped.fragments.map (fragments.reverse ++ ·) := by
  fun_induction reshapeAfter fragments s with
  | case1 fragments s e h =>
    rw [deliveries_of_error h]
    rfl
  | case2 fragments s h =>
    rw [deliveries_of_end h]
    simp [Row.shaped, shapeAll, Row.fragments, Row.result, Except.map]
  | case3 fragments s l h hident ih =>
    obtain ⟨tok, rfl⟩ : ∃ tok, l = .token tok := hs l (by simp [deliveries_of_lexeme h, Row.cons])
    rw [ih (tokens_next h hs), deliveries_of_lexeme h, Row.shaped_cons, Row.fragments_cons,
      shapeBefore_of_not_ident hident]
    cases s.next.stream.deliveries.shaped.fragments <;> rfl
  | case4 fragments s l h name coord hident e hpeek =>
    rw [deliveries_of_lexeme h, deliveries_of_error ((peek_answer _).symm.trans hpeek)]
    rfl
  | case5 fragments s l h name coord hident shown hpeek fragment ih =>
    obtain rfl := identifier?_eq_some_iff.1 hident
    have hkept := deliveries_peek hpeek
    have htokens := tokens_next h hs
    rw [← hkept] at htokens
    rw [ih htokens, hkept, deliveries_of_lexeme h, Row.shaped_cons, Row.fragments_cons,
      ← shown_eq_head hpeek]
    cases s.next.stream.deliveries.shaped.fragments with
    | error e => rfl
    | ok fs => simp [Except.map, shapeBefore, Lexeme.fragment?, fragment]

end LexemeStream

/-- A scan that shapes identifiers delivers what one that does not delivers, each identifier shaped
by the lexeme right after it, with the same error at the end. A reader that shapes the identifiers
of the other scan itself finds the same fragments, or the same error. -/
theorem fragments_refine_plain (filename source : String) (strict : Bool) :
    (LexemeStream.ofText ⟨.fragments, strict⟩ filename source).drain.lexemes =
        shapeAll (LexemeStream.ofText ⟨.plain, strict⟩ filename source).drain.lexemes ∧
      (LexemeStream.ofText ⟨.fragments, strict⟩ filename source).drain.failure =
        (LexemeStream.ofText ⟨.plain, strict⟩ filename source).drain.failure ∧
      (LexemeStream.ofText ⟨.plain, strict⟩ filename source).reshape =
        (scanText ⟨.fragments, strict⟩ filename source).map (·.filterMap Lexeme.fragment?) := by
  have hplain := drain_ofText ⟨.plain, strict⟩ filename source
  have hfragments := drain_ofText ⟨.fragments, strict⟩ filename source
  have hrow := rowFrom_fragments strict (Cursor.ofString filename source)
  refine ⟨?_, ?_, ?_⟩
  · rw [hfragments.1, hplain.1, hrow]
    rfl
  · rw [hfragments.2, hplain.2, hrow]
    rfl
  · have htokens : ∀ l ∈ (LexemeStream.ofText ⟨.plain, strict⟩ filename source).deliveries.lexemes,
        ∃ tok, l = .token tok := (rowFrom_eq_iff_scans.1 rfl).tokens
    rw [LexemeStream.reshape, LexemeStream.reshapeAfter_eq _ _ htokens, scanText_eq, hrow]
    show (rowFrom ⟨.plain, strict⟩ (Cursor.ofString filename source)).shaped.fragments.map _ =
      (rowFrom ⟨.plain, strict⟩ (Cursor.ofString filename source)).shaped.fragments
    cases (rowFrom ⟨.plain, strict⟩ (Cursor.ofString filename source)).shaped.fragments <;> rfl

end PullLexer
