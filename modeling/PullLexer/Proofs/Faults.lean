import PullLexer.Proofs.Pulling
/-!
# Where a scan fails

An error stands behind all the text that was taken before it, and all of that text but an open
string literal is clean: scanned alone, it gives what was delivered before the error.
-/

namespace PullLexer

/-- The position behind a text, counted in the text itself. -/
def Position.behind (text : List Char) : Position where
  line := 1 + text.count '\n'
  column := 1 + (text.reverse.takeWhile (· != '\n')).length
  byteOffset := (String.ofList text).utf8ByteSize

theorem Position.behind_append_singleton (text : List Char) (c : Char) :
    behind (text ++ [c]) = (behind text).afterChar c := by
  have hbytes : (String.ofList (text ++ [c])).utf8ByteSize =
      (String.ofList text).utf8ByteSize + c.utf8Size := by
    rw [String.ofList_append, String.utf8ByteSize_append, ← String.singleton_eq_ofList,
      String.utf8ByteSize_singleton]
  rw [behind, hbytes]
  by_cases hc : c = '\n'
  · subst hc
    simp [behind, afterChar, Nat.add_assoc]
  · have hcount : [c].count '\n' = 0 := List.count_eq_zero.2 (by simpa using Ne.symm hc)
    simp [behind, afterChar, hc, hcount, Nat.add_assoc]

theorem Position.start_after (text : List Char) : start.after text = behind text := by
  have hreverse (t : List Char) : start.after t.reverse = behind t.reverse := by
    induction t with
    | nil => rfl
    | cons c t ih =>
      rw [List.reverse_cons, after_append, ih, behind_append_singleton]
      rfl
  have htext := hreverse text.reverse
  rwa [List.reverse_reverse] at htext

/-- A scan fails with the fault and its message between `p` and `r`, after the clean text: before a
character that nothing starts with, or at the end of a string literal that has to be closed. -/
inductive FailsAt (strict : Bool) :
    (clean p r : List Char) → Fault → (message : String) → Prop
  | stray {p r : List Char} {c : Char} : Unclassified c →
      FailsAt strict p p (c :: r) (.invalidChar c) ("Can't handle character: " ++ c.toString)
  | unclosed {x b held : List Char} : strict = true → OpenBody b held →
      FailsAt strict x (x ++ stringQuote :: b) [] .unterminatedString "Unterminated string literal"

/-- The error names the file, the place and the reason why a scan of the source fails, and what
comes before it gives what the scan delivers. -/
def LexError.Exact (config : Config) (filename source : String) (e : LexError) : Prop :=
  ∃ clean p r, source.toList = p ++ r ∧ e.filename = filename ∧ e.position = .behind p ∧
    FailsAt config.strictStrings clean p r e.fault e.message ∧
    scanText config filename (String.ofList clean) =
      .ok (LexemeStream.ofText config filename source).drain.lexemes

/-- A text that is scanned up to an error has a clean part that is scanned to its end. -/
theorem Scans.exists_clean {strict : Bool} {filename : String} {q : Position} {text : List Char}
    {ls : List Lexeme} {e : LexError} (h : Scans strict filename q text ls (some e)) :
    ∃ clean p r, text = p ++ r ∧ e.filename = filename ∧ e.position = q.after p ∧
      FailsAt strict clean p r e.fault e.message ∧ Scans strict filename q clean ls none := by
  obtain ⟨t, tail, rfl, hends, hgraft⟩ := h.graft
  have hclean {g u : List Char} (hg : IsGap g) (htail : tail = g ++ u) :
      Scans strict filename q (t ++ g) ls none := by
    have hhead : ∀ d ∈ g.head?, d ∈ tail.head? := by
      intro d hd
      rw [htail, List.head?_append, Option.mem_def.1 hd]
      rfl
    have hscans := hgraft g [] none hhead (.ends (.source (.closed hg)))
    rwa [List.append_nil] at hscans
  cases hends with
  | @stray g r c hg hc =>
    refine ⟨t ++ g, t ++ g, c :: r, by simp, rfl, ?_, .stray hc, hclean hg rfl⟩
    exact (Position.after_append q t g).symm
  | @unclosed g b held hstrict hg hb =>
    refine ⟨t ++ g, t ++ g ++ stringQuote :: b, [], by simp, rfl, ?_, .unclosed hstrict hb,
      hclean hg rfl⟩
    rw [List.append_assoc]
    exact (Position.after_append q t _).symm

private theorem rowFrom_clean {config : Config} {filename : String} {q : Position}
    {text : List Char} {e : LexError}
    (h : (rowFrom config (⟨filename, q, text⟩ : Cursor)).failure = some e) :
    ∃ clean p r, text = p ++ r ∧ e.filename = filename ∧ e.position = q.after p ∧
      FailsAt config.strictStrings clean p r e.fault e.message ∧
      rowFrom config (⟨filename, q, clean⟩ : Cursor) =
        ⟨(rowFrom config (⟨filename, q, text⟩ : Cursor)).lexemes, none⟩ := by
  obtain ⟨mode, strict⟩ := config
  have hplain : (rowFrom ⟨.plain, strict⟩ (⟨filename, q, text⟩ : Cursor)).failure = some e := by
    cases mode with
    | plain => exact h
    | fragments =>
      rw [rowFrom_fragments] at h
      exact h
  have hscans : Scans strict filename q text
      (rowFrom ⟨.plain, strict⟩ (⟨filename, q, text⟩ : Cursor)).lexemes (some e) := by
    rw [← rowFrom_eq_iff_scans, ← hplain]
  obtain ⟨clean, p, r, htext, hfile, hposition, hfails, hclean⟩ := hscans.exists_clean
  refine ⟨clean, p, r, htext, hfile, hposition, hfails, ?_⟩
  have hrow := rowFrom_of_scans hclean
  cases mode with
  | plain => exact hrow
  | fragments =>
    rw [rowFrom_fragments, rowFrom_fragments, hrow]
    rfl

/-- Every error of a scan is exact. No pull from a text in memory ever finds a number malformed. -/
theorem errors_exact (config : Config) (filename source : String) :
    (∀ e, scanText config filename source = .error e → e.Exact config filename source) ∧
      ∀ (s : LexemeStream Cursor) (p : Pull) (e : LexError),
        (s.pull p).answer.error? = some e → ∀ text, e.fault ≠ .invalidNumber text := by
  constructor
  · intro e h
    rw [scanText_eq, Row.result_eq_error_iff] at h
    obtain ⟨clean, p, r, htext, hfile, hposition, hfails, hclean⟩ := rowFrom_clean h
    refine ⟨clean, p, r, htext, hfile, ?_, hfails, ?_⟩
    · rw [hposition]
      exact Position.start_after p
    · rw [scanText_eq, Row.result_eq_ok_iff, (drain_ofText config filename source).1,
        Cursor.ofString, String.toList_ofList]
      exact hclean
  · intro s p e h text
    have hnext := LexemeStream.next_of_pull_error h
    have hends := Reading.ends_of_lexeme_error (LexemeStream.lexeme_of_next_error hnext).2
    generalize s.input.rest = rest at hends
    cases hends with
    | stray _ _ => simp
    | unclosed _ _ _ => simp

theorem errors_exact_behind_comment :
    let source := "é # x\n  @"
    let e : LexError := ⟨.invalidChar '@', "a.HC", ⟨2, 3, 9⟩⟩
    scanText {} "a.HC" source = .error e ∧ e.Exact {} "a.HC" source := by
  intro source e
  have h : scanText {} "a.HC" source = .error e := by
    rw [scanText_eq, Row.result_eq_error_iff]
    decide +kernel
  exact ⟨h, (errors_exact {} "a.HC" source).1 e h⟩

end PullLexer
