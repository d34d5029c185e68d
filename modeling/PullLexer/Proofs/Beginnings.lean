import Mathlib.Data.List.Basic
import PullLexer.Proofs.Faults
import PullLexer.Proofs.Modes
/-!
# Beginnings of texts

Where string literals may be left open, a text that is scanned to its end can be cut anywhere. What
the cut goes through still spells a token, if only one, and all before it stays what it was. An
error is found at the first character that nothing can go on with, so that no text can be gone on
with to one without the error.
-/

namespace PullLexer

private theorem IsLastGap.beginning {u v : List Char} (h : IsLastGap (u ++ v)) : IsLastGap u := by
  rcases exists_gap u with hlast | ⟨g, c, r, rfl, hg, hc⟩
  · exact hlast
  · -- The whole is skipped, but no skip gets past `c`.
    have hstop := Gap.skip_gap (r := c :: (r ++ v)) hg "" .start (by simpa using hc)
    have hskipped := Gap.skip_lastGap h "" .start
    rw [List.append_assoc, List.cons_append, hstop] at hskipped
    simp at hskipped

private theorem Longest.beginning {P : List Char → Prop} (hP : BeginningClosed P)
    {u v r : List Char} (h : Longest P (u ++ v) r) (hu : u ≠ []) : Longest P u [] :=
  (longest_iff_next hP).2 ⟨hP u v hu h.form, by simp⟩

private theorem Token.isPunc_ofWord (word : String) (coord : Coord) (text : String) :
    (ofWord word coord).isPunc text = false := by
  rcases ofWord_cases word coord with h | h | h <;>
  · rw [h]
    rfl

section Literals

variable {coord : Coord} {u v : List Char}

private theorem exists_string_beginning (coord : Coord)
    (h : (Body.take (⟨"", .start, u ++ v⟩ : Cursor) false []).rest.rest = []) :
    ∃ held, Spells false coord (stringQuote :: u) [] (.str held) := by
  rcases exists_body u with ⟨b, held, r, rfl, hb⟩ | ⟨held, hb⟩
  · have hrest := congrArg (fun body => body.rest.rest) (Body.take_closed hb "" .start (r ++ v))
    rw [List.append_assoc, List.cons_append, hrest, List.append_eq_nil_iff] at h
    obtain ⟨rfl, -⟩ := h
    exact ⟨_, .str hb⟩
  · exact ⟨_, .openStr rfl hb⟩

private theorem Spells.beginning {r : List Char} {tok : Token}
    (h : Spells false coord (u ++ v) r tok) (hu : u ≠ []) :
    ∃ tok', Spells false coord u [] tok' ∧ ∀ text, tok'.isPunc text = tok.isPunc text := by
  obtain ⟨c, u, rfl⟩ := List.exists_cons_of_ne_nil hu
  generalize ht : c :: u ++ v = t at h
  cases h with
  | punc hc =>
    obtain ⟨rfl, huv⟩ := List.cons.inj ht
    obtain ⟨rfl, -⟩ := List.append_eq_nil_iff.1 huv
    exact ⟨_, .punc hc, fun _ => rfl⟩
  | op hlongest =>
    subst ht
    exact ⟨_, .op (hlongest.beginning (isRun_beginningClosed _ _) hu), fun _ => rfl⟩
  | num hlongest _ =>
    subst ht
    have hcut := hlongest.beginning isNumeral_beginningClosed hu
    obtain ⟨n, hn⟩ := Option.isSome_iff_exists.1 (hcut.form.read?_isSome ((c :: u).contains '.'))
    exact ⟨_, .num hcut hn, fun _ => rfl⟩
  | word hlongest =>
    subst ht
    refine ⟨_, .word (hlongest.beginning (isRun_beginningClosed _ _) hu), ?_⟩
    intro text
    rw [Token.isPunc_ofWord, Token.isPunc_ofWord]
  | @str b held r hb =>
    obtain ⟨rfl, hbody⟩ := List.cons.inj ht
    have hclosed := Body.take_closed hb "" .start []
    rw [← hbody] at hclosed
    obtain ⟨held', hcut⟩ := exists_string_beginning coord (congrArg (·.rest.rest) hclosed)
    exact ⟨_, hcut, fun _ => rfl⟩
  | openStr _ hb =>
    obtain ⟨rfl, rfl⟩ := List.cons.inj ht
    have hopen := Body.take_open hb "" .start
    obtain ⟨held', hcut⟩ := exists_string_beginning coord (congrArg (·.rest.rest) hopen)
    exact ⟨_, hcut, fun _ => rfl⟩

end Literals

/-- The first list is the second one cut short, by a cut that may go through the last lexeme left:
that one may be another, but is an opening parenthesis only if it was one. -/
inductive CutShort : List Lexeme → List Lexeme → Prop
  | nil {ls : List Lexeme} : CutShort [] ls
  | last {l l' : Lexeme} {ls : List Lexeme} :
      LexemeStream.isOpening (some l') = LexemeStream.isOpening (some l) → CutShort [l'] (l :: ls)
  | cons {l : Lexeme} {ls ls' : List Lexeme} : CutShort ls' ls → CutShort (l :: ls') (l :: ls)

namespace CutShort

variable {ls ls' : List Lexeme}

private theorem length_le (h : CutShort ls' ls) : ls'.length ≤ ls.length := by
  induction h with
  | nil => exact Nat.zero_le _
  | last _ => exact Nat.succ_le_succ (Nat.zero_le _)
  | cons _ ih => exact Nat.succ_le_succ ih

private theorem dropLast_isPrefix (h : CutShort ls' ls) : ls'.dropLast <+: ls := by
  induction h with
  | nil => exact List.nil_prefix
  | last _ => exact List.nil_prefix
  | @cons l ls ls' _ ih =>
    cases ls' with
    | nil => exact List.nil_prefix
    | cons l' ls' => exact List.cons_prefix_cons.2 ⟨rfl, ih⟩

private theorem isOpening_head {l' : Lexeme} (h : CutShort (l' :: ls') ls) :
    LexemeStream.isOpening (some l') = LexemeStream.isOpening ls.head? := by
  cases h with
  | last hl => exact hl
  | cons _ => rfl

private theorem shapeAll (h : CutShort ls' ls) :
    CutShort (PullLexer.shapeAll ls') (PullLexer.shapeAll ls) := by
  induction h with
  | nil => exact .nil
  | @last l l' ls hl =>
    apply last
    rw [isOpening_shapeBefore, isOpening_shapeBefore, hl]
  | @cons l ls ls' hcut ih =>
    cases ls' with
    | nil =>
      apply last
      rw [isOpening_shapeBefore, isOpening_shapeBefore]
    | cons l' ls' =>
      have hnext : shapeBefore (some l') l = shapeBefore ls.head? l :=
        shapeBefore_congr hcut.isOpening_head l
      rw [PullLexer.shapeAll, PullLexer.shapeAll, List.head?_cons, hnext]
      exact .cons ih

private theorem shapeIn (h : CutShort ls' ls) (mode : IdentifierMode) :
    CutShort (PullLexer.shapeIn mode ls') (PullLexer.shapeIn mode ls) := by
  cases mode with
  | plain => exact h
  | fragments => exact h.shapeAll

end CutShort

section

variable {filename : String} {p : Position} {text : List Char} {ls : List Lexeme}

/-- A text that is cut spells the tokens of the whole up to the cut. -/
theorem Scans.beginning {rest : List Char}
    (h : Scans false filename p (text ++ rest) ls none) :
    ∃ ls', Scans false filename p text ls' none ∧ CutShort ls' ls := by
  generalize hwhole : text ++ rest = whole at h
  generalize hfailure : (none : Option LexError) = failure at h
  induction h generalizing text with
  | ends hends =>
    subst hfailure
    cases hends with
    | source hlast =>
      rw [← hwhole] at hlast
      exact ⟨[], .ends (.source hlast.beginning), .nil⟩
  | @token p g t r tok ls failure hg ht _ ih =>
    subst hfailure
    have hgap {u v : List Char} (huv : g = u ++ v) : Scans false filename p u [] none :=
      .ends (.source (IsLastGap.closed (huv ▸ hg)).beginning)
    -- The cut is in the gap, behind it, in the token, or further on.
    rcases List.append_eq_append_iff.1 hwhole with ⟨v, hv, -⟩ | ⟨u, rfl, hu⟩
    · exact ⟨[], hgap hv, .nil⟩
    by_cases hempty : u = []
    · subst hempty
      exact ⟨[], hgap (v := []) (by simp), .nil⟩
    rcases List.append_eq_append_iff.1 hu with ⟨u', rfl, rfl⟩ | ⟨v, rfl, -⟩
    · obtain ⟨ls', hscans, hcut⟩ := ih rfl rfl
      have hspelled : Spells false ⟨filename, (p.after g).line⟩ t u' tok :=
        ht.of_head fun _ hd => List.mem_head?_append_of_mem_head? hd
      exact ⟨_, .token hg hspelled hscans, .cons hcut⟩
    · obtain ⟨tok', hspelled, hpunc⟩ := ht.beginning hempty
      have hscans : Scans false filename p (g ++ (u ++ [])) [.token tok'] none :=
        .token hg hspelled (.ends (.source (.closed .nil)))
      rw [List.append_nil] at hscans
      have hopening : LexemeStream.isOpening (some (.token tok')) =
          LexemeStream.isOpening (some (.token tok)) := hpunc "("
      exact ⟨_, hscans, .last hopening⟩

/-- A scan that keeps open string literals fails at a stray character, behind a text that is scanned
to its end, and fails in the same way whatever follows the character. -/
theorem Scans.exists_stray {e : LexError} (h : Scans false filename p text ls (some e)) :
    ∃ q c r, text = q ++ c :: r ∧ e = ⟨.invalidChar c, filename, p.after q⟩ ∧
      Scans false filename p q ls none ∧
        ∀ r', Scans false filename p (q ++ c :: r') ls (some e) := by
  obtain ⟨q, tail, rfl, hends, hgraft⟩ := h.graft
  cases hends with
  | @stray g r c hg hc =>
    refine ⟨q ++ g, c, r, by simp, by rw [Position.after_append], ?_, ?_⟩
    · have hscans := hgraft g [] none (fun _ hd => List.mem_head?_append_of_mem_head? hd)
        (.ends (.source (.closed hg)))
      rwa [List.append_nil] at hscans
    · intro r'
      have hscans := hgraft (g ++ c :: r') [] _ (by cases g <;> simp) (.ends (.stray hg hc))
      rwa [List.append_nil, ← List.append_assoc] at hscans
  | unclosed hstrict _ _ => exact absurd hstrict (by decide)

end

/-- Where string literals may be left open, every beginning of a text that is scanned to its end is
scanned to its end, and gives no more lexemes, all of which but the last begin what the whole text
gives. An error in a text is found at the first character that makes it unscannable, and stays the
same in every text that begins so. -/
theorem beginnings_scanned (mode : IdentifierMode) (filename source : String) :
    (∀ ls, scanText ⟨mode, false⟩ filename source = .ok ls →
        ∀ cut : String, cut.toList <+: source.toList →
          ∃ lq, scanText ⟨mode, false⟩ filename cut = .ok lq ∧ lq.length ≤ ls.length ∧
            lq.dropLast <+: ls) ∧
      ∀ e, scanText ⟨mode, false⟩ filename source = .error e →
        (∀ rest, scanText ⟨mode, false⟩ filename (source ++ rest) = .error e) ∧
          ∃ q c r, source.toList = q ++ c :: r ∧ e = ⟨.invalidChar c, filename, .behind q⟩ ∧
            (∃ lq, scanText ⟨mode, false⟩ filename (String.ofList q) = .ok lq) ∧
            ∀ r', scanText ⟨mode, false⟩ filename (String.ofList (q ++ c :: r')) = .error e := by
  refine ⟨?_, ?_⟩
  · intro ls hls cut ⟨rest, hrest⟩
    obtain ⟨spelled, rfl, hscans⟩ := scanText_eq_ok_iff.1 hls
    rw [← hrest] at hscans
    obtain ⟨spelled', hscans', hcut⟩ := hscans.beginning
    have hshaped := hcut.shapeIn mode
    exact ⟨_, scanText_eq_ok_iff.2 ⟨spelled', rfl, hscans'⟩, hshaped.length_le,
      hshaped.dropLast_isPrefix⟩
  · intro e he
    obtain ⟨spelled, hscans⟩ := scanText_eq_error_iff.1 he
    obtain ⟨q, c, r, htext, rfl, hbefore, hafter⟩ := hscans.exists_stray
    rw [Position.start_after] at hafter ⊢
    refine ⟨?_, q, c, r, htext, rfl, ⟨_, scanText_eq_ok_iff.2 ⟨spelled, rfl, ?_⟩⟩, ?_⟩
    · intro rest
      refine scanText_eq_error_iff.2 ⟨spelled, ?_⟩
      rw [String.toList_append, htext, List.append_assoc, List.cons_append]
      exact hafter (r ++ rest.toList)
    · rwa [String.toList_ofList]
    · intro r'
      refine scanText_eq_error_iff.2 ⟨spelled, ?_⟩
      rw [String.toList_ofList]
      exact hafter r'

/-- A cut before its parenthesis makes a declaration of a call, and a cut behind a backslash leaves
a literal open. A second point in a numeral stays an error before a digit. -/
theorem beginnings_scanned_inside_call :
    let source := "f # (\n(\x22a\\\x22\x22"
    let call : Lexeme := .fragment (.ofIdentifier "f" ⟨"a.HC", 1⟩ true)
    let ls : List Lexeme := [call, .token (.punc "("), .token (.str "a\x22")]
    let e : LexError := ⟨.invalidChar '.', "a.HC", ⟨1, 4, 3⟩⟩
    scanText {} "a.HC" source = .ok ls ∧
      (∀ cut ∈ ["f # (", "f # (\n(\x22a\\"], cut.toList <+: source.toList ∧
        ∃ lq, scanText {} "a.HC" cut = .ok lq ∧ lq.length ≤ ls.length ∧ lq.dropLast <+: ls) ∧
      scanText {} "a.HC" "1.2." = .error e ∧ scanText {} "a.HC" ("1.2." ++ "3") = .error e := by
  intro source call ls e
  have hls : scanText {} "a.HC" source = .ok ls := by
    rw [scanText_eq, Row.result_eq_ok_iff]
    decide +kernel
  have he : scanText {} "a.HC" "1.2." = .error e := by
    rw [scanText_eq, Row.result_eq_error_iff]
    decide +kernel
  have hcuts : ∀ cut ∈ ["f # (", "f # (\n(\x22a\\"], cut.toList <+: source.toList := by
    decide +kernel
  refine ⟨hls, ?_, he, ((beginnings_scanned .fragments "a.HC" "1.2.").2 e he).1 "3"⟩
  intro cut hcut
  have hbegins := hcuts cut hcut
  exact ⟨hbegins, (beginnings_scanned .fragments "a.HC" source).1 ls hls cut hbegins⟩

end PullLexer
