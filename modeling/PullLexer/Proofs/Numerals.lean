import PullLexer.Proofs.Reads
import PullLexer.Proofs.Rounding
/-!
# What numerals denote

A numeral that comes next in a text is read up to its longest beginning, and this always succeeds.
Without a point and up to the greatest signed word of 64 bits it denotes its whole value exactly,
whatever zeros it starts with. Otherwise it denotes the floating-point value nearest to what it
writes. A second point is left, and the next read stops at it.
-/

namespace PullLexer

namespace Numeral

/-- The whole number that the digits of a numeral write, its point left out. -/
def mantissa (t : List Char) : Nat := Nat.ofDigitChars 10 (t.filter (· != '.')) 0

/-- How many digits stand behind the point. -/
def places (t : List Char) : Nat := (t.dropWhile (· != '.')).tail.length

private theorem ne_point {w : List Char} (hw : ∀ c ∈ w, c.isDigit = true) :
    ∀ c ∈ w, (c != '.') = true := by
  intro c hc
  have hne : c ≠ '.' := by
    rintro rfl
    exact absurd (hw '.' hc) (by decide)
  simpa using hne

private theorem mantissa_places_digits {w : List Char} (hw : ∀ c ∈ w, c.isDigit = true) :
    mantissa w = digitsValue w ∧ places w = 0 := by
  have hfilter : w.filter (· != '.') = w := List.filter_eq_self.2 (ne_point hw)
  have hdrop : w.dropWhile (· != '.') = [] := by
    have happend : (w ++ []).dropWhile (· != '.') = [] :=
      List.dropWhile_append_of_pos (ne_point hw)
    simpa using happend
  rw [mantissa, places, hfilter, hdrop]
  exact ⟨rfl, rfl⟩

private theorem mantissa_places_point {w f : List Char} (hw : ∀ c ∈ w, c.isDigit = true)
    (hf : ∀ c ∈ f, c.isDigit = true) :
    mantissa (w ++ '.' :: f) = digitsValue (w ++ f) ∧ places (w ++ '.' :: f) = f.length := by
  have hfilter : (w ++ '.' :: f).filter (· != '.') = w ++ f := by
    rw [List.filter_append, List.filter_eq_self.2 (ne_point hw),
      List.filter_cons_of_neg (by decide), List.filter_eq_self.2 (ne_point hf)]
  have hdrop : (w ++ '.' :: f).dropWhile (· != '.') = '.' :: f := by
    rw [List.dropWhile_append_of_pos (ne_point hw)]
    rfl
  rw [mantissa, places, hfilter, hdrop]
  exact ⟨rfl, rfl⟩

end Numeral

/-- The number that a numeral denotes: the whole one if there is no point and it fits a signed word
of 64 bits, else the floating-point value that the text is parsed as, which is the nearest one. -/
inductive Number.Denotes (t : List Char) : Number → Prop
  | int {n : Int64} : '.' ∉ t → Numeral.mantissa t ≤ 9223372036854775807 →
      n.toInt = Numeral.mantissa t → Denotes t (.int n)
  | float {x : Binary64} : '.' ∈ t ∨ 9223372036854775807 < Numeral.mantissa t →
      Binary64.read? t = some x →
      x.Rounds false (Numeral.mantissa t) (Nat.pow 10 (Numeral.places t)) →
      Denotes t (.float x)

section Numerals

variable {t : List Char}

private theorem IsNumeral.readUnsigned? (h : IsNumeral t) (negative : Bool) :
    Decimal.readUnsigned? negative t =
      some ⟨negative, Numeral.mantissa t, -(Numeral.places t : Int)⟩ := by
  obtain ⟨w, hne, hw, rfl | ⟨f, rfl, hf⟩⟩ := h.parts
  · obtain ⟨hmantissa, hplaces⟩ := Numeral.mantissa_places_digits hw
    rw [(Decimal.readUnsigned?_parts negative hne hw hw).1, hmantissa, hplaces]
    rfl
  · obtain ⟨hmantissa, hplaces⟩ := Numeral.mantissa_places_point hw hf
    rw [(Decimal.readUnsigned?_parts negative hne hw hf).2, hmantissa, hplaces]

private theorem toLower_digit {d : Char} (h : d.isDigit = true) : d.toLower = d := by
  have hdigit : 48 ≤ d.toNat ∧ d.toNat ≤ 57 := Char.isDigit_iff_toNat.1 h
  unfold Char.toLower
  apply dif_neg
  rintro ⟨hupper, -⟩
  have hle : 65 ≤ d.toNat := UInt32.le_iff_toNat_le.1 hupper
  omega

private theorem IsNumeral.not_word (h : IsNumeral t) {word : List Char}
    (hword : word.head?.any Char.isDigit = false) : t.map Char.toLower ≠ word := by
  obtain ⟨d, u, rfl, hdigit⟩ := h.first
  rintro rfl
  have hnot : d.toLower.isDigit = false := hword
  rw [toLower_digit hdigit] at hnot
  exact absurd (hnot.symm.trans hdigit) (by decide)

theorem IsNumeral.exists_rounds (h : IsNumeral t) :
    ∃ x, Binary64.read? t = some x ∧
      x.Rounds false (Numeral.mantissa t) (Nat.pow 10 (Numeral.places t)) := by
  have hrounds :=
    Decimal.toBinary64_rounds ⟨false, Numeral.mantissa t, -(Numeral.places t : Int)⟩
  refine ⟨Decimal.toBinary64 ⟨false, Numeral.mantissa t, -(Numeral.places t : Int)⟩, ?_, ?_⟩
  · have hnan : t.map Char.toLower ≠ Binary64.nanWord := h.not_word (by decide)
    have hinfinity : Binary64.infinityWords.contains (t.map Char.toLower) = false := by
      have hinf : t.map Char.toLower ≠ "inf".toList := h.not_word (by decide)
      have hlong : t.map Char.toLower ≠ "infinity".toList := h.not_word (by decide)
      simpa [Binary64.infinityWords] using And.intro hinf hlong
    unfold Binary64.read?
    rw [h.splitSign]
    dsimp only
    rw [if_neg hnan, hinfinity, h.readUnsigned?]
    rfl
  · have hexponents : (-(Numeral.places t : Int)).toNat = 0 ∧
        (- -(Numeral.places t : Int)).toNat = Numeral.places t := by omega
    have hunit : Nat.pow 10 0 = 1 := rfl
    dsimp only at hrounds
    rwa [hexponents.1, hexponents.2, hunit, Nat.mul_one] at hrounds

private theorem IsNumeral.readInt64? (h : IsNumeral t) (hpoint : '.' ∉ t) :
    (Numeral.mantissa t ≤ 9223372036854775807 ∧
        ∃ n, Numeral.readInt64? t = some n ∧ n.toInt = Numeral.mantissa t) ∨
      9223372036854775807 < Numeral.mantissa t ∧ Numeral.readInt64? t = none := by
  have hread : Numeral.readInt? t = some (Numeral.mantissa t : Int) := by
    obtain ⟨w, hne, hw, rfl | ⟨f, rfl, -⟩⟩ := h.parts
    · have hempty : t.isEmpty = false := by simpa using hne
      have hall : t.all Char.isDigit = true := List.all_eq_true.2 hw
      rw [Numeral.readInt?, h.splitSign, (Numeral.mantissa_places_digits hw).1]
      dsimp only
      rw [Numeral.readDigits?, hempty, hall]
      rfl
    · exact absurd (by simp) hpoint
  have hgreatest : Int.pow 2 63 = 9223372036854775808 := by decide
  by_cases hfits : Numeral.mantissa t ≤ 9223372036854775807
  · have hsome : Numeral.readInt64? t = some (Int64.ofInt (Numeral.mantissa t)) := by
      rw [Numeral.readInt64?, hread, Option.bind_some, if_pos (by omega)]
    have hvalue := Numeral.readInt?_of_readInt64? hsome
    rw [hread] at hvalue
    exact .inl ⟨hfits, _, hsome, (Option.some.inj hvalue).symm⟩
  · refine .inr ⟨by omega, ?_⟩
    rw [Numeral.readInt64?, hread, Option.bind_some, if_neg (by omega)]

/-- A numeral is read as the number that it denotes. -/
theorem IsNumeral.exists_denotes (h : IsNumeral t) :
    ∃ n, Number.read? (t.contains '.') t = some n ∧ n.Denotes t := by
  obtain ⟨x, hx, hrounds⟩ := h.exists_rounds
  by_cases hpoint : '.' ∈ t
  · have hcontains : t.contains '.' = true := by simpa using hpoint
    refine ⟨.float x, ?_, .float (.inl hpoint) hx hrounds⟩
    rw [hcontains, Number.read?, if_pos rfl, hx]
    rfl
  · have hcontains : t.contains '.' = false := by simpa using hpoint
    rw [hcontains, Number.read?, if_neg Bool.false_ne_true]
    rcases h.readInt64? hpoint with ⟨hfits, n, hn, hvalue⟩ | ⟨hlarge, hnone⟩
    · rw [hn]
      exact ⟨.int n, rfl, .int hpoint hfits hvalue⟩
    · rw [hnone, hx]
      exact ⟨.float x, rfl, .float (.inr hlarge) hx hrounds⟩

private theorem Number.Denotes.int_nonneg {i : Int64} (h : (Number.int i).Denotes t) :
    0 ≤ i.toInt := by
  cases h with
  | int _ _ hvalue => omega

private theorem Number.Denotes.ne_nan {x : Binary64} (h : (Number.float x).Denotes t) :
    x ≠ .nan := by
  cases h with
  | float _ _ hrounds =>
    obtain ⟨rank, rfl, -⟩ := hrounds
    intro hnan
    exact Binary64.noConfusion hnan

end Numerals

private theorem unclassified_point : Unclassified '.' where
  blank := by decide
  comment := by decide
  quote := by decide
  digit := by decide
  idStart := Text.isAlphabetic_of_ascii (by decide)
  punc := by decide +kernel
  op := by decide +kernel

/-- A text that starts with a digit is read up to its longest beginning of digits with at most one
point, and is always read as the number that this denotes, which is never below zero nor
not-a-number. If a second point follows, the next read stops there. -/
theorem numerals_read_exactly (config : Config) (s : Cursor)
    (h : ∃ d ∈ s.rest.head?, CharClass.digit.holds d = true) :
    ∃ t r n, s.rest = t ++ r ∧ Longest IsNumeral t r ∧
      (Reading.lexeme config s).result = .ok (some (.token (.num n))) ∧
      (Reading.lexeme config s).rest = ⟨s.filename, s.position.after t, r⟩ ∧
      n.Denotes t ∧ (∀ i, n = .int i → 0 ≤ i.toInt) ∧ n ≠ .float .nan ∧
      (r.head? = some '.' →
        (Reading.lexeme config (Reading.lexeme config s).rest).result =
          .error ⟨.invalidChar '.', s.filename, s.position.after t⟩) := by
  obtain ⟨filename, p, text⟩ := s
  obtain ⟨d, hd, hdigit⟩ := h
  obtain ⟨u, rfl⟩ : ∃ u, text = d :: u := List.head?_eq_some_iff.1 hd
  obtain ⟨t, r, htext, hlongest⟩ := exists_numeral hdigit u
  obtain ⟨n, hread, hdenotes⟩ := hlongest.form.exists_denotes
  have hspells : Spells config.strictStrings ⟨filename, (p.after []).line⟩ t r (.num n) :=
    .num hlongest hread
  obtain ⟨l, hresult, hdelivered, hrest⟩ := Reading.exists_delivery config .nil hspells
  obtain rfl : l = .token (.num n) := by
    cases hdelivered with
    | token _ => rfl
  have hbehind := hrest rfl
  rw [List.nil_append] at hresult hbehind
  dsimp only
  rw [htext]
  refine ⟨t, r, n, rfl, hlongest, hresult, hbehind, hdenotes, ?_, ?_, ?_⟩
  · rintro i rfl
    exact hdenotes.int_nonneg
  · rintro rfl
    exact hdenotes.ne_nan rfl
  · intro hpoint
    obtain ⟨v, rfl⟩ := List.head?_eq_some_iff.1 hpoint
    have hends : Ends config.strictStrings filename (p.after t) ('.' :: v) _ :=
      .stray .nil unclassified_point
    rw [hbehind]
    exact Reading.lexeme_ends hends config.identifierMode

/-- Leading zeros and zeros behind the point are read with the rest of the numeral. -/
theorem numerals_read_exactly_second_point :
    let s : Cursor := ⟨"a.HC", ⟨2, 5, 30⟩, "007.50.x".toList⟩
    (∃ d ∈ s.rest.head?, CharClass.digit.holds d = true) ∧
      ∃ n, (Reading.lexeme {} s).result = .ok (some (.token (.num n))) ∧
        n.Denotes "007.50".toList ∧
        (Reading.lexeme {} (Reading.lexeme {} s).rest).result =
          .error ⟨.invalidChar '.', "a.HC", ⟨2, 11, 36⟩⟩ := by
  intro s
  have hdigit : ∃ d ∈ s.rest.head?, CharClass.digit.holds d = true := ⟨'0', rfl, by decide⟩
  obtain ⟨t, r, n, htext, -, hresult, hrest, hdenotes, -, -, hpoint⟩ :=
    numerals_read_exactly {} s hdigit
  have hleft : (Reading.lexeme {} s).rest.rest = ".x".toList := by decide +kernel
  obtain rfl : r = ".x".toList := by rwa [hrest] at hleft
  obtain rfl : t = "007.50".toList := List.append_cancel_right htext.symm
  exact ⟨hdigit, n, hresult, hdenotes, hpoint rfl⟩

end PullLexer
