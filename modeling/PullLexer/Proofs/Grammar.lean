import PullLexer.Proofs.Deliveries
/-!
# The grammar of a source

A source is a row of tokens with a gap before each, and ends in a gap unless it goes wrong. A scan
that delivers identifiers as tokens gives exactly the tokens that the source spells in this way,
with the error that stops it, so that each source spells one row.
-/

namespace PullLexer

/-- From the position `p` on, the text spells the tokens and then ends with the failure. -/
inductive Scans (strict : Bool) (filename : String) :
    Position → List Char → List Lexeme → Option LexError → Prop
  | ends {p : Position} {tail : List Char} {failure : Option LexError} :
      Ends strict filename p tail failure → Scans strict filename p tail [] failure
  | token {p : Position} {g t r : List Char} {tok : Token} {ls : List Lexeme}
      {failure : Option LexError} : IsGap g →
      Spells strict ⟨filename, (p.after g).line⟩ t r tok →
      Scans strict filename (p.after (g ++ t)) r ls failure →
      Scans strict filename p (g ++ (t ++ r)) (.token tok :: ls) failure

section

variable {strict : Bool} {filename : String} {p : Position} {text : List Char}
  {ls : List Lexeme} {failure : Option LexError}

theorem rowFrom_of_scans (h : Scans strict filename p text ls failure) :
    rowFrom ⟨.plain, strict⟩ (⟨filename, p, text⟩ : Cursor) = ⟨ls, failure⟩ := by
  induction h with
  | @ends p tail failure h =>
    have hread := Reading.lexeme_ends h .plain
    cases failure with
    | none => exact rowFrom_of_end hread
    | some e => exact rowFrom_of_error hread
  | token hg ht _ ih =>
    obtain ⟨hresult, hrest⟩ := Reading.lexeme_token hg ht
    rw [rowFrom_of_lexeme hresult, hrest, ih]
    rfl

theorem exists_scans (strict : Bool) (filename : String) (p : Position) (text : List Char) :
    ∃ ls failure, Scans strict filename p text ls failure := by
  -- On the length of the text: what spells a token is not empty.
  induction hn : text.length using Nat.strongRecOn generalizing p text with
  | ind n ih =>
    rcases exists_read strict filename p text with
      ⟨g, t, r, tok, rfl, hg, ht⟩ | ⟨failure, hends⟩
    · obtain ⟨c, u, rfl, -⟩ := ht.head
      have hlt : r.length < n := by
        simp only [← hn, List.length_append, List.length_cons]
        omega
      obtain ⟨ls, failure, h⟩ := ih _ hlt (p.after (g ++ c :: u)) r rfl
      exact ⟨_, failure, .token hg ht h⟩
    · exact ⟨[], failure, .ends hends⟩

theorem rowFrom_eq_iff_scans :
    rowFrom ⟨.plain, strict⟩ (⟨filename, p, text⟩ : Cursor) = ⟨ls, failure⟩ ↔
      Scans strict filename p text ls failure := by
  constructor
  · intro h
    obtain ⟨ls', failure', hscans⟩ := exists_scans strict filename p text
    have heq := (rowFrom_of_scans hscans).symm.trans h
    obtain ⟨rfl, rfl⟩ : ls' = ls ∧ failure' = failure := by simpa using heq
    exact hscans
  · exact rowFrom_of_scans

/-- A text spells one row only. -/
theorem Scans.unique {ls' : List Lexeme} {failure' : Option LexError}
    (h : Scans strict filename p text ls failure) (h' : Scans strict filename p text ls' failure') :
    ls = ls' ∧ failure = failure' := by
  simpa using (rowFrom_of_scans h).symm.trans (rowFrom_of_scans h')

theorem Scans.tokens (h : Scans strict filename p text ls failure) :
    ∀ l ∈ ls, ∃ tok, l = .token tok := by
  induction h with
  | ends _ => simp
  | @token _ _ _ _ tok _ _ _ _ _ ih =>
    intro l hl
    rcases List.mem_cons.1 hl with rfl | hl
    · exact ⟨tok, rfl⟩
    · exact ih l hl

theorem Scans.graft_of {S : Bool → Prop} {Q : Char → Prop}
    (hspells : ∀ {strict' : Bool} {coord : Coord} {t r r' : List Char} {tok : Token}, S strict' →
      Spells strict coord t r tok → (∀ d ∈ r'.head?, d ∈ r.head? ∨ Q d) →
      Spells strict' coord t r' tok)
    (h : Scans strict filename p text ls failure) :
    ∃ q tail, text = q ++ tail ∧ Ends strict filename (p.after q) tail failure ∧
      ∀ strict' tail' ls' failure', S strict' → (∀ d ∈ tail'.head?, d ∈ tail.head? ∨ Q d) →
        Scans strict' filename (p.after q) tail' ls' failure' →
        Scans strict' filename p (q ++ tail') (ls ++ ls') failure' := by
  -- `S` tells in which modes the tokens are spelled as before, `Q` which characters may come next
  -- instead.
  induction h with
  | @ends p tail failure h =>
    refine ⟨[], tail, rfl, h, ?_⟩
    intro strict' tail' ls' failure' _ _ hscans
    exact hscans
  | @token p g t r tok ls failure hg ht _ ih =>
    obtain ⟨q, tail, rfl, hends, hgraft⟩ := ih
    refine ⟨g ++ (t ++ q), tail, by simp, ?_, ?_⟩
    · rwa [← List.append_assoc, Position.after_append]
    · intro strict' tail' ls' failure' hstrict hhead hscans
      -- Only the last token sees what the end was exchanged for.
      have hspelled : Spells strict' ⟨filename, (p.after g).line⟩ t (q ++ tail') tok := by
        apply hspells hstrict ht
        cases q with
        | nil => exact hhead
        | cons d q => exact fun e he => .inl he
      rw [← List.append_assoc g, Position.after_append] at hscans
      have hrest := hgraft strict' tail' ls' failure' hstrict hhead hscans
      simpa using Scans.token hg hspelled hrest

/-- The end of a text can be exchanged for any text that starts no differently: the tokens before
it are spelled as they were, and those of the other text follow. -/
theorem Scans.graft (h : Scans strict filename p text ls failure) :
    ∃ q tail, text = q ++ tail ∧ Ends strict filename (p.after q) tail failure ∧
      ∀ tail' ls' failure', (∀ d ∈ tail'.head?, d ∈ tail.head?) →
        Scans strict filename (p.after q) tail' ls' failure' →
        Scans strict filename p (q ++ tail') (ls ++ ls') failure' := by
  have hspells {strict' : Bool} {coord : Coord} {t r r' : List Char} {tok : Token}
      (hstrict : strict' = strict) (ht : Spells strict coord t r tok)
      (hr : ∀ d ∈ r'.head?, d ∈ r.head? ∨ False) : Spells strict' coord t r' tok := by
    subst hstrict
    exact ht.of_head fun d hd => (hr d hd).resolve_right id
  obtain ⟨q, tail, htext, hends, hgraft⟩ := h.graft_of (S := (· = strict)) hspells
  refine ⟨q, tail, htext, hends, ?_⟩
  intro tail' ls' failure' hhead
  exact hgraft strict tail' ls' failure' rfl fun d hd => .inl (hhead d hd)

end

/-- A scan that delivers identifiers as tokens accepts exactly the sources that are written as
gaps and spelled tokens in turn, and gives the tokens in their order. -/
theorem scanText_plain_eq_ok_iff (filename source : String) (strict : Bool) (ls : List Lexeme) :
    scanText ⟨.plain, strict⟩ filename source = .ok ls ↔
      Scans strict filename .start source.toList ls none := by
  rw [scanText_eq, Row.result_eq_ok_iff]
  exact rowFrom_eq_iff_scans

end PullLexer
