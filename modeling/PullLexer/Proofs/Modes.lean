import PullLexer.Proofs.Shaping
/-!
# Scans in either mode

What a source spells does not depend on the mode of a scan. The mode tells whether the tokens are
delivered as they are or with the identifiers shaped, and no error depends on it.
-/

namespace PullLexer

/-- What a scan in this mode delivers of the tokens that a source spells. -/
def shapeIn : IdentifierMode → List Lexeme → List Lexeme
  | .plain => id
  | .fragments => shapeAll

theorem isOpening_shapeBefore (following : Option Lexeme) (l : Lexeme) :
    LexemeStream.isOpening (some (shapeBefore following l)) = LexemeStream.isOpening (some l) := by
  unfold shapeBefore
  split <;> rfl

theorem isOpening_shapeIn (mode : IdentifierMode) (ls : List Lexeme) :
    LexemeStream.isOpening (shapeIn mode ls).head? = LexemeStream.isOpening ls.head? := by
  cases mode with
  | plain => rfl
  | fragments =>
    cases ls with
    | nil => rfl
    | cons l ls => exact isOpening_shapeBefore ls.head? l

theorem shapeBefore_congr {following following' : Option Lexeme}
    (h : LexemeStream.isOpening following = LexemeStream.isOpening following') (l : Lexeme) :
    shapeBefore following l = shapeBefore following' l := by
  unfold shapeBefore
  rw [h]

theorem shapeIn_append {mode : IdentifierMode} (ls : List Lexeme) {ms : List Lexeme}
    (h : mode = .plain ∨ LexemeStream.isOpening ms.head? = false) :
    shapeIn mode (ls ++ ms) = shapeIn mode ls ++ shapeIn mode ms := by
  cases mode with
  | plain => rfl
  | fragments =>
    have hopening : LexemeStream.isOpening ms.head? = false := by simpa using h
    simp only [shapeIn]
    induction ls with
    | nil => rfl
    | cons l ls ih =>
      have hnext : LexemeStream.isOpening (ls ++ ms).head? = LexemeStream.isOpening ls.head? := by
        cases ls with
        | nil => simpa [LexemeStream.isOpening] using hopening
        | cons l' ls => rfl
      rw [List.cons_append, shapeAll, ih, shapeBefore_congr hnext]
      rfl

section

variable {config : Config} {filename : String} {ls : List Lexeme} {failure : Option LexError}

private theorem Scans.row {p : Position} {text : List Char}
    (h : Scans config.strictStrings filename p text ls failure) :
    rowFrom config (⟨filename, p, text⟩ : Cursor) =
      ⟨shapeIn config.identifierMode ls, failure⟩ := by
  obtain ⟨mode, strict⟩ := config
  have hplain := rowFrom_of_scans h
  cases mode with
  | plain => exact hplain
  | fragments =>
    rw [rowFrom_fragments, hplain]
    rfl

theorem Scans.delivered {source : String}
    (h : Scans config.strictStrings filename .start source.toList ls failure) :
    (LexemeStream.ofText config filename source).drain.lexemes =
      shapeIn config.identifierMode ls := by
  rw [(drain_ofText config filename source).1, Cursor.ofString, h.row]

theorem scanText_eq_ok_iff {source : String} :
    scanText config filename source = .ok ls ↔
      ∃ spelled, shapeIn config.identifierMode spelled = ls ∧
        Scans config.strictStrings filename .start source.toList spelled none := by
  rw [scanText_eq, Row.result_eq_ok_iff, Cursor.ofString]
  constructor
  · intro h
    obtain ⟨spelled, failure, hscans⟩ :=
      exists_scans config.strictStrings filename .start source.toList
    obtain ⟨hls, rfl⟩ : shapeIn config.identifierMode spelled = ls ∧ failure = none := by
      simpa [hscans.row] using h
    exact ⟨spelled, hls, hscans⟩
  · rintro ⟨spelled, rfl, hscans⟩
    exact hscans.row

theorem scanText_eq_error_iff {source : String} {e : LexError} :
    scanText config filename source = .error e ↔
      ∃ spelled, Scans config.strictStrings filename .start source.toList spelled (some e) := by
  rw [scanText_eq, Row.result_eq_error_iff, Cursor.ofString]
  constructor
  · intro h
    obtain ⟨spelled, failure, hscans⟩ :=
      exists_scans config.strictStrings filename .start source.toList
    obtain rfl : failure = some e := by simpa [hscans.row] using h
    exact ⟨spelled, hscans⟩
  · rintro ⟨spelled, hscans⟩
    rw [hscans.row]

end

end PullLexer
