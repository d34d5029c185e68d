import PullLexer.Proofs.Grammar
/-!
# Texts one after the other

A character that starts a gap ends every token before it, unless a string literal is open. So the
tokens of a text whose literals are all closed stay what they are before any gap, and a gap that
the text ends in, its last comment included, goes on in the gap that follows.
-/

namespace PullLexer

namespace CharClass

private theorem apart_of_startsGap {c : Char} (h : startsGap c = true) :
    op.holds c = false ∧ id.holds c = false ∧ digit.holds c = false ∧ c ≠ '.' := by
  have hnot {k : CharClass} (hk : k.holds c = true → startsGap c = false) : k.holds c = false := by
    by_cases hc : k.holds c = true
    · rw [hk hc] at h
      exact absurd h (by decide)
    · simpa using hc
  have hstart : idStart.holds c = false := hnot fun hc => (apart_of_idStart hc).2.1
  have hextra : idExtras.contains c = false := by
    have hall : idExtras.all (fun d => !startsGap d) = true := by decide +kernel
    by_cases hc : c ∈ idExtras
    · have := List.all_eq_true.1 hall c hc
      simp [h] at this
    · simpa using hc
  refine ⟨hnot fun hc => (apart_of_op hc).2.1, ?_, hnot fun hc => (apart_of_digit hc).2, ?_⟩
  · exact Bool.or_eq_false_iff.2 ⟨hstart, hextra⟩
  · rintro rfl
    exact absurd h (by decide)

end CharClass

private theorem Longest.before_gap {P : List Char → Prop} (hP : BeginningClosed P)
    {t r r' : List Char} (hgap : ∀ u, P u → ∀ c ∈ u, startsGap c = false) (h : Longest P t r)
    (hr : ∀ d ∈ r'.head?, d ∈ r.head? ∨ startsGap d = true) : Longest P t r' := by
  obtain ⟨ht, hnext⟩ := (longest_iff_next hP).1 h
  refine (longest_iff_next hP).2 ⟨ht, ?_⟩
  intro d hd hPd
  rcases hr d hd with hd | hd
  · exact hnext d hd hPd
  · have hnot := hgap _ hPd d (by simp)
    rw [hd] at hnot
    exact absurd hnot (by decide)

private theorem IsRun.not_startsGap {start k : CharClass} {u : List Char} (h : IsRun start k u)
    (hk : ∀ c, startsGap c = true → k.holds c = false) : ∀ c ∈ u, startsGap c = false := by
  intro c hc
  by_cases hgap : startsGap c = true
  · have := h.chars c hc
    rw [hk c hgap] at this
    exact absurd this (by decide)
  · simpa using hgap

private theorem IsNumeral.not_startsGap {u : List Char} (h : IsNumeral u) :
    ∀ c ∈ u, startsGap c = false := by
  intro c hc
  by_cases hgap : startsGap c = true
  · obtain ⟨-, -, hdigit, hpoint⟩ := CharClass.apart_of_startsGap hgap
    rcases h.chars c hc with hc | hc
    · rw [hdigit] at hc
      exact absurd hc (by decide)
    · exact absurd hc hpoint
  · simpa using hgap

theorem Spells.before_gap {coord : Coord} {t r r' : List Char} {tok : Token} (strict : Bool)
    (h : Spells true coord t r tok) (hr : ∀ d ∈ r'.head?, d ∈ r.head? ∨ startsGap d = true) :
    Spells strict coord t r' tok := by
  cases h with
  | punc hc => exact .punc hc
  | op ht =>
    refine .op (ht.before_gap (isRun_beginningClosed _ _) ?_ hr)
    exact fun u hu => hu.not_startsGap fun c hc => (CharClass.apart_of_startsGap hc).1
  | num ht hn =>
    exact .num (ht.before_gap isNumeral_beginningClosed (fun _ hu => hu.not_startsGap) hr) hn
  | word ht =>
    refine .word (ht.before_gap (isRun_beginningClosed _ _) ?_ hr)
    exact fun u hu => hu.not_startsGap fun c hc => (CharClass.apart_of_startsGap hc).2.1
  | str hb => exact .str hb
  | openStr hstrict _ => exact absurd hstrict (by decide)

theorem IsGap.startsGap_head {c : Char} {g : List Char} (h : IsGap (c :: g)) :
    startsGap c = true := by
  cases h with
  | blank hc _ => simp [startsGap, hc]
  | comment _ _ => rfl

private theorem IsGap.exists_line {g : List Char} (h : IsGap g) :
    '\n' ∉ g ∨ ∃ line g', g = line ++ '\n' :: g' ∧ '\n' ∉ line ∧ IsGap g' := by
  induction h with
  | nil => exact .inl (by simp)
  | @blank c g hc hg ih =>
    by_cases hnewline : c = '\n'
    · exact .inr ⟨[], g, by simp [hnewline], by simp, hg⟩
    · rcases ih with hline | ⟨line, g', rfl, hline, hg'⟩
      · exact .inl (by simp [Ne.symm hnewline, hline])
      · exact .inr ⟨c :: line, g', rfl, by simp [Ne.symm hnewline, hline], hg'⟩
  | @comment body g hbody hg _ => exact .inr ⟨'#' :: body, g, rfl, by simp [hbody], hg⟩

theorem IsLastGap.append_gap {tail g : List Char} (htail : IsLastGap tail) (hg : IsGap g)
    (hnewline : '\n' ∈ g) : IsGap (tail ++ g) := by
  cases htail with
  | closed hclosed => exact hclosed.append hg
  | @unended before body hbefore hbody =>
    rcases hg.exists_line with hline | ⟨line, g', rfl, hline, hg'⟩
    · exact absurd hnewline hline
    · have hcomment : IsGap ('#' :: ((body ++ line) ++ '\n' :: g')) :=
        .comment (by simp [hbody, hline]) hg'
      simpa using hbefore.append hcomment

theorem IsLastGap.append_comment {tail body : List Char} (htail : IsLastGap tail)
    (hbody : '\n' ∉ body) : IsLastGap (tail ++ '#' :: body) := by
  cases htail with
  | closed hclosed => exact .unended hclosed hbody
  | @unended before comment hbefore hcomment =>
    have hlast : IsLastGap (before ++ '#' :: (comment ++ '#' :: body)) :=
      .unended hbefore (by simp [hcomment, hbody])
    simpa using hlast

section

variable {strict : Bool} {filename : String} {p : Position} {text : List Char}
  {ls : List Lexeme} {failure : Option LexError}

private theorem Ends.behind_gap {g : List Char} (hg : IsGap g)
    (h : Ends strict filename (p.after g) text failure) :
    Ends strict filename p (g ++ text) failure := by
  cases h with
  | source hlast => exact .source (hlast.append hg)
  | stray hgap hc =>
    rw [← List.append_assoc, ← Position.after_append]
    exact .stray (hg.append hgap) hc
  | unclosed hstrict hgap hb =>
    rw [← Position.after_append, ← List.append_assoc]
    exact .unclosed hstrict (hg.append hgap) hb

theorem Scans.behind_gap {g : List Char} (hg : IsGap g)
    (h : Scans strict filename (p.after g) text ls failure) :
    Scans strict filename p (g ++ text) ls failure := by
  cases h with
  | ends hends => exact .ends (hends.behind_gap hg)
  | token hgap ht hrest =>
    rw [← Position.after_append] at ht hrest
    rw [← List.append_assoc] at hrest ⊢
    exact .token (hg.append hgap) ht hrest

/-- The end of a text that leaves no string literal open before it can be exchanged for any text
that starts no differently or with a gap, wherever string literals may be left open. -/
theorem Scans.graft_gap (h : Scans true filename p text ls failure) :
    ∃ q tail, text = q ++ tail ∧ Ends true filename (p.after q) tail failure ∧
      ∀ strict tail' ls' failure', (∀ d ∈ tail'.head?, d ∈ tail.head? ∨ startsGap d = true) →
        Scans strict filename (p.after q) tail' ls' failure' →
        Scans strict filename p (q ++ tail') (ls ++ ls') failure' := by
  obtain ⟨q, tail, htext, hends, hgraft⟩ := h.graft_of (S := fun _ => True)
    fun _ ht hr => ht.before_gap _ hr
  refine ⟨q, tail, htext, hends, ?_⟩
  intro strict tail' ls' failure'
  exact hgraft strict tail' ls' failure' trivial

/-- After a text that is scanned to its end, a gap and what follows it is scanned from the gap that
the text ends in. -/
theorem Scans.append_gap (h : Scans true filename p text ls none) :
    ∃ q tail, text = q ++ tail ∧ IsLastGap tail ∧
      ∀ strict u ls' failure', (∀ d ∈ u.head?, startsGap d = true) →
        Scans strict filename (p.after q) (tail ++ u) ls' failure' →
        Scans strict filename p (text ++ u) (ls ++ ls') failure' := by
  obtain ⟨q, tail, rfl, hends, hgraft⟩ := h.graft_gap
  cases hends with
  | source hlast =>
    refine ⟨q, tail, rfl, hlast, ?_⟩
    intro strict u ls' failure' hu hscans
    rw [List.append_assoc]
    refine hgraft strict (tail ++ u) ls' failure' ?_ hscans
    intro d hd
    -- Behind the last token stands the gap that the text ends in, or at once the gap that follows.
    cases tail with
    | nil => exact .inr (hu d hd)
    | cons c tail => exact .inl hd

theorem Scans.append_stray {e : LexError} (h : Scans true filename p text ls (some e))
    (he : e.fault ≠ .unterminatedString) (strict : Bool) (u : List Char) :
    Scans strict filename p (text ++ u) ls (some e) := by
  obtain ⟨q, tail, rfl, hends, hgraft⟩ := h.graft_gap
  cases hends with
  | @stray g r c hg hc =>
    have hscans := hgraft strict (g ++ c :: (r ++ u)) [] _ (by cases g <;> simp)
      (.ends (.stray hg hc))
    simpa using hscans
  | unclosed _ _ _ => exact absurd rfl he

theorem Scans.append_line {ls' : List Lexeme} {next : List Char}
    (h : Scans true filename p text ls none)
    (hnext : Scans strict filename (p.after (text ++ ['\n'])) next ls' failure) :
    Scans strict filename p (text ++ '\n' :: next) (ls ++ ls') failure := by
  obtain ⟨q, tail, rfl, hlast, hgraft⟩ := h.append_gap
  -- The newline closes whatever comment the text ends in.
  have hgap : IsGap (tail ++ ['\n']) := hlast.append_gap (.blank (by decide) .nil) (by simp)
  apply hgraft _ _ _ _ (by simp; decide)
  rw [List.append_assoc, Position.after_append] at hnext
  simpa using hnext.behind_gap hgap

end

end PullLexer
