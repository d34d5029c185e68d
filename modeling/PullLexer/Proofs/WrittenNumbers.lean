import PullLexer.Proofs.Numerals
import PullLexer.Proofs.Modes
/-!
# Numbers in JSON

Every number that a scan delivers stands as a numeral in the source. It is written as a JSON number
of its own kind unless the numeral reaches the midpoint above the greatest finite floating-point
value. From there on it is read as infinity and written as null.
-/

namespace PullLexer

/-- The numeral reaches the midpoint above the greatest finite floating-point value. -/
def Numeral.Overflows (t : List Char) : Prop :=
  Binary64.overflow * Nat.pow 10 (places t) ≤ mantissa t

instance (t : List Char) : Decidable (Numeral.Overflows t) :=
  inferInstanceAs (Decidable (_ ≤ _))

namespace Number

variable {t : List Char} {n : Number}

/-- How the number that a numeral denotes is written: as a JSON number of its own kind, which is
finite, unless the numeral overflows. -/
inductive WrittenAs (t : List Char) : Number → Json → Prop
  | int {i : Int64} : ¬ Numeral.Overflows t → WrittenAs t (.int i) (.int i.toInt)
  | float {x : Binary64} : ¬ Numeral.Overflows t → x.isFinite = true →
      WrittenAs t (.float x) (.float x)
  | null : Numeral.Overflows t → WrittenAs t (.float (.infinity false)) .null

private theorem not_overflows_of_le (h : Numeral.mantissa t ≤ 9223372036854775807) :
    ¬ Numeral.Overflows t := by
  have hgreat : 9223372036854775807 < Binary64.overflow := by decide +kernel
  have hpower : 0 < Nat.pow 10 (Numeral.places t) := Nat.pow_pos (by decide)
  have hle := Nat.le_mul_of_pos_right Binary64.overflow hpower
  unfold Numeral.Overflows
  omega

private theorem Denotes.infinite_or_finite {x : Binary64} (h : (Number.float x).Denotes t) :
    x = .infinity false ∧ Numeral.Overflows t ∨ x.isFinite = true ∧ ¬ Numeral.Overflows t := by
  have hpower : 0 < Nat.pow 10 (Numeral.places t) := Nat.pow_pos (by decide)
  cases h with
  | float _ _ hrounds =>
    have hfinite := hrounds.isFinite_iff hpower
    obtain ⟨rank, rfl, hnearest⟩ := hrounds
    by_cases hoverflows : Numeral.Overflows t
    · obtain rfl := (hnearest.infinite_iff hpower).2 hoverflows
      exact .inl ⟨rfl, hoverflows⟩
    · exact .inr ⟨hfinite.2 (Nat.lt_of_not_le hoverflows), hoverflows⟩

theorem Denotes.writtenAs (h : n.Denotes t) : WrittenAs t n n.toJson := by
  cases n with
  | int i =>
    cases h with
    | int _ hfits _ => exact .int (not_overflows_of_le hfits)
  | float x =>
    rcases h.infinite_or_finite with ⟨rfl, hoverflows⟩ | ⟨hfinite, hoverflows⟩
    · exact .null hoverflows
    · have hjson : (Number.float x).toJson = .float x := if_pos hfinite
      rw [hjson]
      exact .float hoverflows hfinite

private theorem Denotes.eq_infinity (h : n.Denotes t) (hoverflows : Numeral.Overflows t) :
    n = .float (.infinity false) := by
  have hwritten := h.writtenAs
  generalize n.toJson = value at hwritten
  cases hwritten with
  | int hnot => exact absurd hoverflows hnot
  | float hnot _ => exact absurd hoverflows hnot
  | null _ => rfl

end Number

private theorem num_mem_of_shapeIn {mode : IdentifierMode} {n : Number} {ls : List Lexeme}
    (h : .token (.num n) ∈ shapeIn mode ls) : .token (.num n) ∈ ls := by
  cases mode with
  | plain => exact h
  | fragments =>
    simp only [shapeIn] at h
    induction ls with
    | nil => exact h
    | cons l ls ih =>
      rcases List.mem_cons.1 h with hl | hls
      · unfold shapeBefore at hl
        split at hl
        · simp at hl
        · rw [hl]
          exact List.mem_cons_self
      · exact List.mem_cons_of_mem l (ih hls)

private theorem Spells.denotes {strict : Bool} {coord : Coord} {t r : List Char} {n : Number}
    (h : Spells strict coord t r (.num n)) : Longest IsNumeral t r ∧ n.Denotes t := by
  generalize htok : Token.num n = tok at h
  cases h with
  | num hlongest hread =>
    obtain ⟨n', hread', hdenotes⟩ := hlongest.form.exists_denotes
    obtain rfl : n' = n := by
      rw [Token.num.inj htok]
      exact Option.some.inj (hread'.symm.trans hread)
    exact ⟨hlongest, hdenotes⟩
  | word _ => rcases Token.ofWord_cases (String.ofList t) coord with hword | hword | hword <;>
      simp [hword] at htok
  | _ => simp at htok

theorem Scans.exists_numeral {strict : Bool} {filename : String} {p : Position} {text : List Char}
    {ls : List Lexeme} {failure : Option LexError} {n : Number}
    (h : Scans strict filename p text ls failure) (hn : .token (.num n) ∈ ls) :
    ∃ before t after, text = before ++ (t ++ after) ∧ Longest IsNumeral t after ∧ n.Denotes t := by
  induction h with
  | ends _ => simp at hn
  | @token p g t r tok ls failure _ ht _ ih =>
    rcases List.mem_cons.1 hn with htok | hls
    · obtain rfl : .num n = tok := by simpa using htok
      exact ⟨g, t, r, rfl, ht.denotes⟩
    · obtain ⟨before, t', after, rfl, hlater⟩ := ih hls
      exact ⟨g ++ (t ++ before), t', after, by simp, hlater⟩

/-- A number that a scan delivers stands as a numeral in the source, and is written as a JSON
number: a whole one as an integer, a floating-point one as itself. Only a numeral that overflows is
written as null. -/
theorem numbers_written_unless_overflow {config : Config} {filename source : String}
    {ls : List Lexeme} {n : Number} (h : scanText config filename source = .ok ls)
    (hn : .token (.num n) ∈ ls) :
    ∃ before t after value, source.toList = before ++ (t ++ after) ∧ Longest IsNumeral t after ∧
      n.Denotes t ∧ n.WrittenAs t value ∧
      (Lexeme.token (.num n)).toJson = .obj [("type", .str "num"), ("value", value)] := by
  obtain ⟨spelled, rfl, hscans⟩ := scanText_eq_ok_iff.1 h
  obtain ⟨before, t, after, hsource, hlongest, hdenotes⟩ :=
    hscans.exists_numeral (num_mem_of_shapeIn hn)
  exact ⟨before, t, after, n.toJson, hsource, hlongest, hdenotes, hdenotes.writtenAs, rfl⟩

/-- Zeros before a whole number are not written. -/
theorem numbers_written_unless_overflow_whole :
    let ls : List Lexeme := [.fragment (.ofIdentifier "x" ⟨"a.HC", 1⟩ false), .token (.op "="),
      .token (.num (.int 7)), .token (.punc ";")]
    let n : Number := .int 7
    scanText {} "a.HC" "x = 007;" = .ok ls ∧ .token (.num n) ∈ ls ∧
    ∃ before t after value, "x = 007;".toList = before ++ (t ++ after) ∧ Longest IsNumeral t after ∧
      n.Denotes t ∧ n.WrittenAs t value ∧
      (Lexeme.token (.num n)).toJson = .obj [("type", .str "num"), ("value", value)] := by
  intro ls n
  have hscan : scanText {} "a.HC" "x = 007;" = .ok ls := by decide +kernel
  have hn : .token (.num n) ∈ ls := by decide
  exact ⟨hscan, hn, numbers_written_unless_overflow hscan hn⟩

theorem scanText_of_overflow (config : Config) (filename : String) {t : List Char}
    (ht : IsNumeral t) (hoverflows : Numeral.Overflows t) :
    scanText config filename (String.ofList t) =
      .ok [.token (.num (.float (.infinity false)))] := by
  obtain ⟨n, hread, hdenotes⟩ := ht.exists_denotes
  obtain rfl := hdenotes.eq_infinity hoverflows
  have hlongest : Longest IsNumeral t [] := longest_numeral_iff.2 ⟨ht, by simp⟩
  have hspells : Spells config.strictStrings ⟨filename, (Position.start.after []).line⟩ t []
      (.num (.float (.infinity false))) := .num hlongest hread
  have hscans := Scans.token .nil hspells (.ends (.source (.closed .nil)))
  rw [List.nil_append, List.append_nil] at hscans
  refine scanText_eq_ok_iff.2 ⟨[.token (.num (.float (.infinity false)))], ?_, ?_⟩
  · cases config.identifierMode with
    | plain => rfl
    | fragments => rfl
  · rwa [String.toList_ofList]

/-- Ten to the power 309 is delivered as a number and written as null. -/
theorem great_numeral_written_as_null :
    let source := String.ofList ('1' :: List.replicate 309 '0')
    let l : Lexeme := .token (.num (.float (.infinity false)))
    scanText {} "a.HC" source = .ok [l] ∧
      l.toJson = .obj [("type", .str "num"), ("value", .null)] := by
  intro source l
  have ht : IsNumeral ('1' :: List.replicate 309 '0') := by
    refine ⟨⟨'1', _, rfl, by decide⟩, ?_, ?_⟩
    · intro c hc
      rcases List.mem_cons.1 hc with rfl | hzero
      · exact .inl (by decide)
      · rw [List.eq_of_mem_replicate hzero]
        exact .inl (by decide)
    · rw [List.count_cons_of_ne (by decide), List.count_replicate]
      decide
  have hoverflows : Numeral.Overflows ('1' :: List.replicate 309 '0') := by decide +kernel
  exact ⟨scanText_of_overflow {} "a.HC" ht hoverflows, rfl⟩

end PullLexer
