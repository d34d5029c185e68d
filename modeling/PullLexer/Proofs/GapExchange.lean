import PullLexer.Proofs.OpenStrings
import PullLexer.Proofs.Places
/-!
# Exchanging gaps

Of the gap between two lexemes a scan keeps its newlines alone. Any gap there can be exchanged for
another one with as many newlines, also where the text before it ends in a comment: the gaps then
go on in the comment, and either end it at their first newline or leave it open together. A comment
at the end of a source changes nothing.
-/

namespace PullLexer

theorem Position.line_after (p : Position) (text : List Char) :
    (p.after text).line = p.line + text.count '\n' := by
  induction text generalizing p with
  | nil => rfl
  | cons c text ih =>
    rw [after_cons, ih, List.count_cons]
    by_cases hc : c = '\n'
    · simp only [afterChar, hc, beq_self_eq_true, ↓reduceIte]
      omega
    · simp [afterChar, hc]

private theorem Position.moves_same_line : Moves id (fun p p' => p'.line = p.line) where
  afterChar := by
    intro p p' c h
    simp only [afterChar, h]
  coord := by
    intro p p' filename h
    rw [h]
    rfl

private theorem exists_gap_join {tail g h : List Char} (htail : IsLastGap tail) (hg : IsGap g)
    (hh : IsGap h) (hcount : g.count '\n' = h.count '\n') (after : List Char) :
    IsLastGap (tail ++ (g ++ after)) ∧ IsLastGap (tail ++ (h ++ after)) ∨
      ∃ m r, after = m ++ r ∧ IsGap (tail ++ (g ++ m)) ∧ IsGap (tail ++ (h ++ m)) := by
  have hnewline : '\n' ∈ g ↔ '\n' ∈ h := by
    rw [← List.count_pos_iff, hcount, List.count_pos_iff]
  -- A newline ends the comment that `tail` may leave open; without one it runs on into `after`.
  by_cases hmem : '\n' ∈ g
  · refine .inr ⟨[], after, rfl, ?_, ?_⟩
    · simpa using htail.append_gap hg hmem
    · simpa using htail.append_gap hh (hnewline.1 hmem)
  · cases htail with
    | closed hclosed =>
      refine .inr ⟨[], after, rfl, ?_, ?_⟩
      · simpa using hclosed.append hg
      · simpa using hclosed.append hh
    | @unended before body hbefore hbody =>
      -- The comment is still open behind either gap.
      have hopen {k m : List Char} (hk : '\n' ∉ k) (hm : '\n' ∉ m) :
          IsLastGap (before ++ '#' :: body ++ (k ++ m)) := by
        have hlast : IsLastGap (before ++ '#' :: (body ++ (k ++ m))) :=
          .unended hbefore (by simp [hbody, hk, hm])
        simpa using hlast
      have hclose {k m : List Char} (hk : '\n' ∉ k) (hm : '\n' ∉ m) :
          IsGap (before ++ '#' :: body ++ (k ++ (m ++ ['\n']))) := by
        have hcomment : IsGap ('#' :: ((body ++ (k ++ m)) ++ '\n' :: [])) :=
          .comment (by simp [hbody, hk, hm]) .nil
        simpa using hbefore.append hcomment
      have hmem' : '\n' ∉ h := fun hh => hmem (hnewline.2 hh)
      by_cases hafter : '\n' ∈ after
      · obtain ⟨m, r, rfl, hm⟩ := List.eq_append_cons_of_mem hafter
        exact .inr ⟨m ++ ['\n'], r, by simp, hclose hmem hm, hclose hmem' hm⟩
      · exact .inl ⟨hopen hmem hafter, hopen hmem' hafter⟩

private theorem Scans.exchange_gap {filename : String} {p : Position} {before g h : List Char}
    {la : List Lexeme} (hbefore : Scans true filename p before la none) (strict : Bool)
    (hg : IsGap g) (hh : IsGap h) (hg' : g ≠ []) (hh' : h ≠ [])
    (hcount : g.count '\n' = h.count '\n') (after : List Char) :
    ∃ ls failure failure', Scans strict filename p (before ++ (g ++ after)) ls failure ∧
      Scans strict filename p (before ++ (h ++ after)) ls failure' ∧
      Option.Rel (LexError.Moved fun p p' => p'.line = p.line) failure failure' := by
  obtain ⟨q, tail, rfl, hlast, hgraft⟩ := hbefore.append_gap
  have hhead {k : List Char} (hk : IsGap k) (hk' : k ≠ []) :
      ∀ d ∈ (k ++ after).head?, startsGap d = true := by
    intro d hd
    cases k with
    | nil => exact absurd rfl hk'
    | cons c k =>
      obtain rfl : c = d := by simpa using hd
      exact hk.startsGap_head
  rcases exists_gap_join hlast hg hh hcount after with ⟨hgend, hhend⟩ | ⟨m, r, rfl, hgm, hhm⟩
  · refine ⟨la ++ [], none, none, ?_, ?_, .none⟩
    · exact hgraft strict _ _ _ (hhead hg hg') (.ends (.source hgend))
    · exact hgraft strict _ _ _ (hhead hh hh') (.ends (.source hhend))
  · obtain ⟨lb, failure, hr⟩ :=
      exists_scans strict filename ((p.after q).after (tail ++ (g ++ m))) r
    have hline : ((p.after q).after (tail ++ (h ++ m))).line =
        ((p.after q).after (tail ++ (g ++ m))).line := by
      simp only [Position.line_after, List.count_append, hcount]
    obtain ⟨failure', hr', hrel⟩ := hr.moved Position.moves_same_line hline
    have hsame : lb.map (Lexeme.mapCoord id) = lb := by
      have hid : Lexeme.mapCoord id = id := funext Lexeme.mapCoord_id
      rw [hid, List.map_id]
    rw [hsame] at hr'
    refine ⟨la ++ lb, failure, failure', ?_, ?_, hrel⟩
    · apply hgraft strict _ _ _ (hhead hg hg')
      simpa using hr.behind_gap hgm
    · apply hgraft strict _ _ _ (hhead hh hh')
      simpa using hr'.behind_gap hhm

private theorem Scans.append_last_comment {filename : String} {p : Position} {text body : List Char}
    {ls : List Lexeme} (h : Scans true filename p text ls none) (strict : Bool)
    (hbody : '\n' ∉ body) : Scans strict filename p (text ++ '#' :: body) ls none := by
  obtain ⟨q, tail, rfl, hlast, hgraft⟩ := h.append_gap
  have hscans := hgraft strict ('#' :: body) [] none (by simp; decide)
    (.ends (.source (hlast.append_comment hbody)))
  rwa [List.append_nil] at hscans

/-- The same lexemes, or errors that differ in the column and the offset at most. -/
inductive SameUpToColumn : Except LexError (List Lexeme) → Except LexError (List Lexeme) → Prop
  | ok (ls : List Lexeme) : SameUpToColumn (.ok ls) (.ok ls)
  | error {e e' : LexError} : e'.fault = e.fault → e'.filename = e.filename →
      e'.position.line = e.position.line → SameUpToColumn (.error e) (.error e')

private theorem SameUpToColumn.of_scans {config : Config} {filename source source' : String}
    {ls : List Lexeme} {failure failure' : Option LexError}
    (h : Scans config.strictStrings filename .start source.toList ls failure)
    (h' : Scans config.strictStrings filename .start source'.toList ls failure')
    (hrel : Option.Rel (LexError.Moved fun p p' => p'.line = p.line) failure failure') :
    SameUpToColumn (scanText config filename source) (scanText config filename source') := by
  cases hrel with
  | none =>
    rw [scanText_eq_ok_iff.2 ⟨ls, rfl, h⟩, scanText_eq_ok_iff.2 ⟨ls, rfl, h'⟩]
    exact .ok _
  | some he =>
    rw [scanText_eq_error_iff.2 ⟨ls, h⟩, scanText_eq_error_iff.2 ⟨ls, h'⟩]
    exact .error he.fault he.filename he.position

/-- After a text that leaves no string literal open, two gaps with as many newlines can be exchanged
for one another, and a comment up to the end of the source can be left out. -/
theorem gaps_exchangeable (config : Config) (filename before : String)
    (hbefore : ∀ e, scanText ⟨config.identifierMode, true⟩ filename before = .error e →
      e.fault ≠ .unterminatedString) :
    (∀ g h after : String, IsGap g.toList → IsGap h.toList → g ≠ "" → h ≠ "" →
        g.toList.count '\n' = h.toList.count '\n' →
        SameUpToColumn (scanText config filename (before ++ g ++ after))
          (scanText config filename (before ++ h ++ after))) ∧
      ∀ body : String, '\n' ∉ body.toList →
        scanText config filename (before ++ "#" ++ body) = scanText config filename before := by
  rcases exists_scans_either filename .start before.toList with
    ⟨la, failure, hscans, hstray⟩ | ⟨la, _, _, _, -, -, -, hopen, -⟩
  · cases failure with
    | none =>
      refine ⟨?_, ?_⟩
      · intro g h after hg hh hg' hh' hcount
        obtain ⟨ls, failure, failure', hgs, hhs, hrel⟩ := (hscans true).exchange_gap
          config.strictStrings hg hh (by simpa using hg') (by simpa using hh') hcount after.toList
        exact .of_scans (by simpa using hgs) (by simpa using hhs) hrel
      · intro body hbody
        have hcomment := (hscans true).append_last_comment config.strictStrings hbody
        rw [scanText_eq_ok_iff.2 ⟨la, rfl, hscans config.strictStrings⟩]
        exact scanText_eq_ok_iff.2 ⟨la, rfl, by simpa using hcomment⟩
    | some e =>
      -- The text before the gap fails already, and what follows is not looked at.
      obtain ⟨c, hc⟩ := hstray e rfl
      have hfails : scanText config filename before = .error e :=
        scanText_eq_error_iff.2 ⟨la, hscans config.strictStrings⟩
      have hfailsAll (rest : String) : scanText config filename (before ++ rest) = .error e :=
        scanText_append_stray hfails hc rest
      refine ⟨?_, ?_⟩
      · intro g h after _ _ _ _ _
        rw [String.append_assoc, String.append_assoc, hfailsAll, hfailsAll]
        exact .error rfl rfl rfl
      · intro body _
        rw [String.append_assoc, hfailsAll, hfails]
  · exact absurd rfl (hbefore _ (scanText_eq_error_iff.2 ⟨la, hopen⟩))

/-- The gaps go on in an open comment, and an identifier waits for its parenthesis behind them. -/
theorem gaps_exchangeable_in_comment :
    let before := "f # c"
    let g := " \n#\x22\n"
    let h := "\n_\n"
    (∀ e, scanText ⟨.fragments, true⟩ "a.HC" before = .error e → e.fault ≠ .unterminatedString) ∧
      IsGap g.toList ∧ IsGap h.toList ∧ g ≠ "" ∧ h ≠ "" ∧
      g.toList.count '\n' = h.toList.count '\n' ∧
      SameUpToColumn (scanText {} "a.HC" (before ++ g ++ "(é @"))
        (scanText {} "a.HC" (before ++ h ++ "(é @")) ∧
      '\n' ∉ "\x22".toList ∧
      scanText {} "a.HC" (before ++ "#" ++ "\x22") = scanText {} "a.HC" before := by
  intro before g h
  have hok : scanText ⟨.fragments, true⟩ "a.HC" before =
      .ok [.fragment (.ofIdentifier "f" ⟨"a.HC", 1⟩ false)] := by
    rw [scanText_eq, Row.result_eq_ok_iff]
    decide +kernel
  have hbefore : ∀ e, scanText ⟨.fragments, true⟩ "a.HC" before = .error e →
      e.fault ≠ .unterminatedString := by
    intro e he
    rw [hok] at he
    exact absurd he (by simp)
  have hg : IsGap g.toList := by
    have htext : g.toList = ' ' :: '\n' :: '#' :: (['\x22'] ++ '\n' :: []) := by decide
    rw [htext]
    exact .blank (by decide) (.blank (by decide) (.comment (by decide) .nil))
  have hh : IsGap h.toList := by
    have htext : h.toList = ['\n', '_', '\n'] := by decide
    rw [htext]
    exact .blank (by decide) (.blank (by decide) (.blank (by decide) .nil))
  have hcount : g.toList.count '\n' = h.toList.count '\n' := by decide
  obtain ⟨hexchange, hlast⟩ := gaps_exchangeable {} "a.HC" before hbefore
  exact ⟨hbefore, hg, hh, by decide, by decide, hcount,
    hexchange g h "(é @" hg hh (by decide) (by decide) hcount, by decide,
    hlast "\x22" (by decide)⟩

end PullLexer
