import Mathlib.Data.List.Basic
import PullLexer.Proofs.Faults
import PullLexer.Proofs.Joining
import PullLexer.Proofs.Modes
/-!
# Open string literals

Whether string literals have to be closed matters for the last literal of a source alone, and only
if nothing closes it. A scan that has to close it fails at the end of the source; the other scan
delivers the same lexemes and then the literal with what it holds.
-/

namespace PullLexer

/-- The two scans of a text, with string literals that have to be closed and with others that are
kept open: they have the same row, without an open literal, or they part at the literal that is
open at the end. -/
theorem exists_scans_either (filename : String) (p : Position) (text : List Char) :
    (∃ ls failure, (∀ strict, Scans strict filename p text ls failure) ∧
        ∀ e ∈ failure, ∃ c, e.fault = .invalidChar c) ∨
      ∃ ls x b held, text = x ++ stringQuote :: b ∧ OpenBody b held ∧
        Scans true filename p x ls none ∧
        Scans true filename p text ls (some ⟨.unterminatedString, filename, p.after text⟩) ∧
        Scans false filename p text (ls ++ [.token (.str (String.ofList held))]) none := by
  -- How the scan that closes its literals ends decides; up to there both spell the same.
  obtain ⟨ls, failure, h⟩ := exists_scans true filename p text
  obtain ⟨q, tail, rfl, hends, hgraft⟩ := h.graft_gap
  have hkept {failure : Option LexError}
      (hends : ∀ strict, Ends strict filename (p.after q) tail failure) (strict : Bool) :
      Scans strict filename p (q ++ tail) ls failure := by
    have hscans := hgraft strict tail [] failure (fun d hd => .inl hd) (.ends (hends strict))
    rwa [List.append_nil] at hscans
  cases hends with
  | source hlast => exact .inl ⟨ls, none, hkept fun _ => .source hlast, by simp⟩
  | stray hg hc => exact .inl ⟨ls, _, hkept fun _ => .stray hg hc, by simp⟩
  | @unclosed g b held _ hg hb =>
    refine .inr ⟨ls, q ++ g, b, held, by simp, hb, ?_, ?_, ?_⟩
    · have hscans := hgraft true g [] none
        (fun d hd => .inl (List.mem_head?_append_of_mem_head? hd)) (.ends (.source (.closed hg)))
      rwa [List.append_nil] at hscans
    · rwa [← Position.after_append] at h
    · apply hgraft false _ _ _ (fun d hd => .inl hd)
      have hliteral : Scans false filename (p.after q) (g ++ (stringQuote :: b ++ []))
          [.token (.str (String.ofList held))] none :=
        .token hg (.openStr rfl hb) (.ends (.source (.closed .nil)))
      rwa [List.append_nil] at hliteral

theorem exists_scans_stray {mode : IdentifierMode} {strict : Bool} {filename source : String}
    {e : LexError} {c : Char} (he : scanText ⟨mode, strict⟩ filename source = .error e)
    (hc : e.fault = .invalidChar c) :
    ∃ ls, ∀ strict, Scans strict filename .start source.toList ls (some e) := by
  obtain ⟨found, hfound⟩ := scanText_eq_error_iff.1 he
  rcases exists_scans_either filename .start source.toList with
    ⟨ls, failure, h, -⟩ | ⟨ls, x, b, held, -, -, -, hstrict, hpermissive⟩
  · obtain ⟨-, rfl⟩ := (h strict).unique hfound
    exact ⟨ls, h⟩
  · cases strict with
    | true =>
      obtain ⟨-, heq⟩ := hstrict.unique hfound
      rw [← Option.some.inj heq] at hc
      exact absurd hc (by simp)
    | false => exact absurd (hpermissive.unique hfound).2 (by simp)

theorem scanText_append_stray {config : Config} {strict : Bool} {filename source : String}
    {e : LexError} {c : Char}
    (he : scanText ⟨config.identifierMode, strict⟩ filename source = .error e)
    (hc : e.fault = .invalidChar c) (rest : String) :
    scanText config filename (source ++ rest) = .error e := by
  obtain ⟨ls, h⟩ := exists_scans_stray he hc
  have hstray := (h true).append_stray (by simp [hc]) config.strictStrings rest.toList
  exact scanText_eq_error_iff.2 ⟨ls, by simpa using hstray⟩

/-- The source ends in a string literal that nothing closes and that holds `held`; a scan of what
stands before its opening quote gives `ls`. -/
def LeavesOpen (mode : IdentifierMode) (filename source : String) (ls : List Lexeme)
    (held : List Char) : Prop :=
  ∃ x b, source.toList = x ++ stringQuote :: b ∧ OpenBody b held ∧
    scanText ⟨mode, true⟩ filename (String.ofList x) = .ok ls

/-- Requiring that string literals are closed changes nothing but what becomes of a last literal
that is open: the scan that requires it delivers what comes before and fails at the end of the
source, and the scan that does not delivers the literal besides. -/
theorem strictness_concerns_open_literal (mode : IdentifierMode) (filename source : String) :
    (∀ ls, scanText ⟨mode, true⟩ filename source = .ok ls →
        scanText ⟨mode, false⟩ filename source = .ok ls) ∧
      (∀ e, scanText ⟨mode, false⟩ filename source = .error e ↔
        scanText ⟨mode, true⟩ filename source = .error e ∧ ∃ c, e.fault = .invalidChar c) ∧
      ∀ e, scanText ⟨mode, true⟩ filename source = .error e →
        (∃ c, e.fault = .invalidChar c) ∨
          e = ⟨.unterminatedString, filename, .behind source.toList⟩ ∧
            ∃ ls held, ls = (LexemeStream.ofText ⟨mode, true⟩ filename source).drain.lexemes ∧
              LeavesOpen mode filename source ls held ∧
              scanText ⟨mode, false⟩ filename source =
                .ok (ls ++ [.token (.str (String.ofList held))]) := by
  rcases exists_scans_either filename .start source.toList with
    ⟨ls, failure, h, hstray⟩ | ⟨ls, x, b, held, htext, hb, hx, hstrict, hpermissive⟩
  · cases failure with
    | none =>
      have hok (strict : Bool) : scanText ⟨mode, strict⟩ filename source = .ok (shapeIn mode ls) :=
        scanText_eq_ok_iff.2 ⟨ls, rfl, h strict⟩
      simp [hok]
    | some e =>
      have herror (strict : Bool) : scanText ⟨mode, strict⟩ filename source = .error e :=
        scanText_eq_error_iff.2 ⟨ls, h strict⟩
      obtain ⟨c, hc⟩ := hstray e rfl
      simp [herror, hc]
  · have herror : scanText ⟨mode, true⟩ filename source =
        .error ⟨.unterminatedString, filename, .behind source.toList⟩ := by
      rw [← Position.start_after]
      exact scanText_eq_error_iff.2 ⟨ls, hstrict⟩
    have hopen : LeavesOpen mode filename source (shapeIn mode ls) held := by
      refine ⟨x, b, htext, hb, scanText_eq_ok_iff.2 ⟨ls, rfl, ?_⟩⟩
      rwa [String.toList_ofList]
    have hok : scanText ⟨mode, false⟩ filename source =
        .ok (shapeIn mode ls ++ [.token (.str (String.ofList held))]) := by
      refine scanText_eq_ok_iff.2 ⟨_, ?_, hpermissive⟩
      have hliteral : shapeIn mode [.token (.str (String.ofList held))] =
          [.token (.str (String.ofList held))] := by cases mode <;> rfl
      rw [shapeIn_append ls (.inr rfl), hliteral]
    rw [herror, hok]
    refine ⟨by simp, ?_, ?_⟩
    · intro e
      simp only [reduceCtorEq, Except.error.injEq, false_iff, not_and, not_exists]
      rintro rfl c
      simp
    · intro e he
      exact .inr ⟨(Except.error.inj he).symm, _, held, (Scans.delivered hstrict).symm, hopen, rfl⟩

/-- A quote in a comment opens nothing, an escaped one closes nothing, and a backslash at the very
end stands for nothing. -/
theorem strictness_concerns_dangling_literal :
    let source := "f # \x22\n(\x22é\\\x22b\\"
    let e : LexError := ⟨.unterminatedString, "a.HC", ⟨2, 8, 14⟩⟩
    let call : Lexeme := .fragment (.ofIdentifier "f" ⟨"a.HC", 1⟩ true)
    scanText ⟨.fragments, true⟩ "a.HC" source = .error e ∧
      (∃ ls held, ls = (LexemeStream.ofText ⟨.fragments, true⟩ "a.HC" source).drain.lexemes ∧
        LeavesOpen .fragments "a.HC" source ls held ∧
        scanText ⟨.fragments, false⟩ "a.HC" source =
          .ok (ls ++ [.token (.str (String.ofList held))])) ∧
      scanText ⟨.fragments, true⟩ "a.HC" "f(" = .ok [call, .token (.punc "(")] ∧
      scanText ⟨.fragments, false⟩ "a.HC" "f(" = .ok [call, .token (.punc "(")] := by
  intro source e call
  have herror : scanText ⟨.fragments, true⟩ "a.HC" source = .error e := by
    rw [scanText_eq, Row.result_eq_error_iff]
    decide +kernel
  have hok : scanText ⟨.fragments, true⟩ "a.HC" "f(" = .ok [call, .token (.punc "(")] := by
    rw [scanText_eq, Row.result_eq_ok_iff]
    decide +kernel
  obtain ⟨-, -, hfailing⟩ := strictness_concerns_open_literal .fragments "a.HC" source
  obtain ⟨hkept, -, -⟩ := strictness_concerns_open_literal .fragments "a.HC" "f("
  refine ⟨herror, ?_, hok, hkept _ hok⟩
  rcases hfailing e herror with ⟨c, hc⟩ | ⟨-, hopen⟩
  · simp [e] at hc
  · exact hopen

end PullLexer
