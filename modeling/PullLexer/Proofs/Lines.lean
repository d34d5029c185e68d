import PullLexer.Proofs.OpenStrings
import PullLexer.Proofs.Places
/-!
# Line by line

A source can be scanned in parts that are split at newlines. Each part gives what it gives when it
stands alone, further down in the file: no lexeme goes on past a newline but a string literal, and
no look ahead tells more of the next part than whether it starts with an opening parenthesis.
-/

namespace PullLexer

/-- A position further down by some lines, and further on by some bytes. -/
def Position.down (lines bytes : Nat) (p : Position) : Position :=
  ⟨p.line + lines, p.column, p.byteOffset + bytes⟩

def Coord.down (lines : Nat) (c : Coord) : Coord := ⟨c.filename, c.line + lines⟩

private theorem Position.moves_down (lines bytes : Nat) :
    Moves (Coord.down lines) (fun p p' => p' = p.down lines bytes) where
  afterChar := by
    rintro p _ c rfl
    by_cases hc : c = '\n' <;> simp [afterChar, down, hc] <;> omega
  coord := by
    rintro p _ filename rfl
    rfl

private theorem Position.start_after_line (above : String) :
    start.after (above.toList ++ ['\n']) =
      start.down (above.toList.count '\n' + 1) (above.utf8ByteSize + 1) := by
  rw [after_append, start_after, behind, String.ofList_toList, after, List.foldl_cons,
    List.foldl_nil]
  simp only [afterChar, start, down, ↓reduceIte, Nat.zero_add, Position.mk.injEq, true_and]
  exact ⟨by omega, rfl⟩

/-- A lexeme of a text that stands below `above`. -/
def Lexeme.below (above : String) : Lexeme → Lexeme :=
  mapCoord (Coord.down (above.toList.count '\n' + 1))

/-- An error in a text that stands below `above`. -/
def LexError.below (above : String) (e : LexError) : LexError :=
  ⟨e.fault, e.filename, e.position.down (above.toList.count '\n' + 1) (above.utf8ByteSize + 1)⟩

private theorem failure_below {lines bytes : Nat} {failure failure' : Option LexError}
    (h : Option.Rel (LexError.Moved fun p p' => p' = p.down lines bytes) failure failure') :
    failure' = failure.map fun e => ⟨e.fault, e.filename, e.position.down lines bytes⟩ := by
  cases h with
  | none => rfl
  | @some e e' he =>
    obtain ⟨fault, filename, position⟩ := e'
    obtain ⟨rfl, rfl, rfl⟩ := he
    rfl

/-- A text below one that is scanned to its end spells what it spells alone, further down. -/
theorem Scans.append_below {strict : Bool} {filename above text : String} {la lb : List Lexeme}
    {failure : Option LexError} (ha : Scans true filename .start above.toList la none)
    (hb : Scans strict filename .start text.toList lb failure) :
    Scans strict filename .start (above ++ "\n" ++ text).toList (la ++ lb.map (Lexeme.below above))
      (failure.map (LexError.below above)) := by
  have htext : (above ++ "\n" ++ text).toList = above.toList ++ '\n' :: text.toList := by simp
  obtain ⟨failure', hmoved, hrel⟩ :=
    hb.moved (Position.moves_down (above.toList.count '\n' + 1) (above.utf8ByteSize + 1)) rfl
  rw [failure_below hrel, ← Position.start_after_line] at hmoved
  rw [htext]
  exact ha.append_line hmoved

/-- Two texts with a newline between are scanned as the two texts alone, the second one further
down, if string literals are closed in the first and no call goes on across the newline. A stray
character in the first is found whatever follows. -/
theorem lines_scanned_apart (config : Config) (filename above text : String) :
    (∀ la, scanText ⟨config.identifierMode, true⟩ filename above = .ok la →
        (∀ lb, scanText config filename text = .ok lb →
          config.identifierMode = .plain ∨ LexemeStream.isOpening lb.head? = false →
          scanText config filename (above ++ "\n" ++ text) =
            .ok (la ++ lb.map (Lexeme.below above))) ∧
        ∀ e, scanText config filename text = .error e →
          scanText config filename (above ++ "\n" ++ text) = .error (e.below above)) ∧
      ∀ strict e c, scanText ⟨config.identifierMode, strict⟩ filename above = .error e →
        e.fault = .invalidChar c →
        scanText config filename (above ++ "\n" ++ text) = .error e := by
  refine ⟨?_, ?_⟩
  · intro la hla
    obtain ⟨sa, rfl, ha⟩ := scanText_eq_ok_iff.1 hla
    refine ⟨?_, ?_⟩
    · intro lb hlb hmode
      obtain ⟨sb, rfl, hb⟩ := scanText_eq_ok_iff.1 hlb
      refine scanText_eq_ok_iff.2 ⟨_, ?_, ha.append_below hb⟩
      have hopening : config.identifierMode = .plain ∨
          LexemeStream.isOpening (sb.map (Lexeme.below above)).head? = false := by
        rwa [Lexeme.below, isOpening_map_mapCoord, ← isOpening_shapeIn config.identifierMode]
      rw [shapeIn_append sa hopening, Lexeme.below, shapeIn_map_mapCoord]
    · intro e he
      obtain ⟨sb, hb⟩ := scanText_eq_error_iff.1 he
      exact scanText_eq_error_iff.2 ⟨_, ha.append_below hb⟩
  · intro strict e c he hc
    rw [String.append_assoc]
    exact scanText_append_stray he hc _

/-- The comment that the first text ends in ends at the newline, where a word ends as well. -/
theorem lines_scanned_apart_after_comment :
    let above := "x # é"
    let text := "y\n@"
    let e : LexError := ⟨.invalidChar '@', "a.HC", ⟨2, 1, 2⟩⟩
    let x : Lexeme := .fragment (.ofIdentifier "x" ⟨"a.HC", 1⟩ false)
    let y : Lexeme := .fragment (.ofIdentifier "y" ⟨"a.HC", 1⟩ false)
    scanText ⟨.fragments, true⟩ "a.HC" above = .ok [x] ∧
      scanText {} "a.HC" "y" = .ok [y] ∧ LexemeStream.isOpening (some y) = false ∧
      scanText {} "a.HC" (above ++ "\n" ++ "y") = .ok ([x] ++ [y.below above]) ∧
      scanText {} "a.HC" text = .error e ∧
      scanText {} "a.HC" (above ++ "\n" ++ text) = .error (e.below above) ∧
      scanText {} "a.HC" (text ++ "\n" ++ above) = .error e := by
  intro above text e x y
  have habove : scanText ⟨.fragments, true⟩ "a.HC" above = .ok [x] := by
    rw [scanText_eq, Row.result_eq_ok_iff]
    decide +kernel
  have hy : scanText {} "a.HC" "y" = .ok [y] := by
    rw [scanText_eq, Row.result_eq_ok_iff]
    decide +kernel
  have htext : scanText {} "a.HC" text = .error e := by
    rw [scanText_eq, Row.result_eq_error_iff]
    decide +kernel
  refine ⟨habove, hy, by decide, ?_, htext, ?_, ?_⟩
  · exact ((lines_scanned_apart {} "a.HC" above "y").1 [x] habove).1 [y] hy (.inr (by decide))
  · exact ((lines_scanned_apart {} "a.HC" above text).1 [x] habove).2 e htext
  · exact (lines_scanned_apart {} "a.HC" text above).2 false e '@' htext rfl

end PullLexer
