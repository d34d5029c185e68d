import PullLexer.Proofs.Runs
import PullLexer.Scan.Literal
/-!
# The grammar of literals

A numeral is read up to its longest beginning and always denotes a number. The body of a string
literal ends at the first quote that no backslash cancels, or is open up to the end of the source.
-/

namespace PullLexer

/-- Digits with at most one point, a digit first. -/
structure IsNumeral (t : List Char) : Prop where
  first : ∃ d u, t = d :: u ∧ CharClass.digit.holds d = true
  chars : ∀ c ∈ t, CharClass.digit.holds c = true ∨ c = '.'
  points : t.count '.' ≤ 1

theorem isNumeral_beginningClosed : BeginningClosed IsNumeral := by
  intro u v hu h
  refine ⟨?_, fun c hc => h.chars c (by simp [hc]), ?_⟩
  · obtain ⟨d, w, hw, hdigit⟩ := h.first
    cases u with
    | nil => exact absurd rfl hu
    | cons c u =>
      obtain rfl : c = d := (List.cons.inj hw).1
      exact ⟨c, u, rfl, hdigit⟩
  · have hpoints := h.points
    rw [List.count_append] at hpoints
    omega

private theorem point_not_digit : CharClass.digit.holds '.' = false := by decide

private theorem Number.followed_iff (b b' : Bool) (t : List Char) :
    t.foldlM Number.rule b = some b' ↔
      (∀ c ∈ t, CharClass.digit.holds c = true ∨ c = '.') ∧ t.count '.' + b.toNat ≤ 1 ∧
        b' = (b || t.contains '.') := by
  induction t generalizing b with
  | nil =>
    have hb : b.toNat ≤ 1 := Bool.toNat_le b
    simpa [hb] using eq_comm
  | cons c t ih =>
    rw [List.foldlM_cons]
    by_cases hpoint : c = '.'
    · subst hpoint
      cases b with
      | true => simp [Number.rule]
      | false => simp [Number.rule, ih]
    · by_cases hdigit : CharClass.digit.holds c = true
      · have hne : '.' ≠ c := Ne.symm hpoint
        simp [Number.rule, hpoint, hdigit, ih, hne]
      · simp [Number.rule, hpoint, hdigit]

theorem isNumeral_iff_followed {t : List Char} :
    IsNumeral t ↔ (∃ d u, t = d :: u ∧ CharClass.digit.holds d = true) ∧
      t.foldlM Number.rule false = some (t.contains '.') := by
  rw [Number.followed_iff]
  constructor
  · intro h
    exact ⟨h.first, h.chars, by simpa using h.points, by simp⟩
  · rintro ⟨hfirst, hchars, hpoints, -⟩
    exact ⟨hfirst, hchars, by simpa using hpoints⟩

theorem longest_numeral_iff {t r : List Char} :
    Longest IsNumeral t r ↔ IsNumeral t ∧
      ∀ d ∈ r.head?, Number.rule (t.contains '.') d = none := by
  rw [longest_iff_next isNumeral_beginningClosed]
  refine and_congr_right fun ht => forall₂_congr fun d _ => ?_
  obtain ⟨⟨c, u, hu, hdigit⟩, hfold⟩ := isNumeral_iff_followed.1 ht
  have hhead : ∃ c u, t ++ [d] = c :: u ∧ CharClass.digit.holds c = true :=
    ⟨c, u ++ [d], by rw [hu, List.cons_append], hdigit⟩
  have hnext : (t ++ [d]).foldlM Number.rule false = Number.rule (t.contains '.') d := by
    rw [List.foldlM_append, hfold]
    simp
  rw [isNumeral_iff_followed, hnext]
  constructor
  · intro h
    cases hrule : Number.rule (t.contains '.') d with
    | none => rfl
    | some b =>
      have hb := hrule ▸ hnext
      rw [((Number.followed_iff _ _ _).1 hb).2.2, Bool.false_or] at hrule
      exact absurd ⟨hhead, hrule⟩ h
  · rintro hrule ⟨-, hsome⟩
    rw [hrule] at hsome
    exact absurd hsome (by simp)

theorem exists_numeral {c : Char} (hc : CharClass.digit.holds c = true) (text : List Char) :
    ∃ t r, c :: text = t ++ r ∧ Longest IsNumeral t r := by
  obtain ⟨t, r, b, htext, ht, hr⟩ := Run.exists_followed Number.rule false (c :: text)
  have hb : b = t.contains '.' := by simpa using ((Number.followed_iff _ _ _).1 ht).2.2
  subst hb
  refine ⟨t, r, htext, longest_numeral_iff.2 ⟨isNumeral_iff_followed.2 ⟨?_, ht⟩, hr⟩⟩
  cases t with
  | nil =>
    rw [List.nil_append] at htext
    have hrule := hr c (by rw [← htext]; rfl)
    have hpoint : c ≠ '.' := by
      rintro rfl
      simp [point_not_digit] at hc
    simp [Number.rule, hpoint, hc] at hrule
  | cons d t =>
    obtain rfl : c = d := (List.cons.inj htext).1
    exact ⟨c, t, rfl, hc⟩

theorem IsNumeral.parts {t : List Char} (h : IsNumeral t) :
    ∃ w, w ≠ [] ∧ (∀ c ∈ w, c.isDigit = true) ∧
      (t = w ∨ ∃ f, t = w ++ '.' :: f ∧ ∀ c ∈ f, c.isDigit = true) := by
  obtain ⟨w, r, rfl, hw, hstop⟩ := Run.exists_while Char.isDigit t
  refine ⟨w, ?_, hw, ?_⟩
  · rintro rfl
    obtain ⟨d, u, hfirst, hdigit⟩ := h.first
    have hnot := hstop d (by rw [← List.nil_append r, hfirst]; rfl)
    exact absurd (hnot.symm.trans hdigit) (by decide)
  · cases r with
    | nil => exact .inl (List.append_nil w)
    | cons c r =>
      have hcdigit : c.isDigit = false := hstop c rfl
      have hc : c = '.' := by
        rcases h.chars c (by simp) with hdigit | hpoint
        · exact absurd (hdigit.symm.trans hcdigit) (by decide)
        · exact hpoint
      subst hc
      have hpoints := h.points
      rw [List.count_append, List.count_cons_self] at hpoints
      refine .inr ⟨r, rfl, ?_⟩
      intro d hd
      rcases h.chars d (by simp [hd]) with hdigit | rfl
      · exact hdigit
      · have := List.count_pos_iff.2 hd
        omega

theorem IsNumeral.splitSign {t : List Char} (h : IsNumeral t) :
    Numeral.splitSign t = (false, t) := by
  obtain ⟨d, u, rfl, hdigit⟩ := h.first
  unfold Numeral.splitSign
  split
  · rename_i heq
    rw [(List.cons.inj heq).1] at hdigit
    exact absurd hdigit (by decide)
  · rename_i heq
    rw [(List.cons.inj heq).1] at hdigit
    exact absurd hdigit (by decide)
  · rfl

theorem Decimal.readUnsigned?_parts (negative : Bool) {w f : List Char} (hne : w ≠ [])
    (hw : ∀ c ∈ w, c.isDigit = true) (hf : ∀ c ∈ f, c.isDigit = true) :
    readUnsigned? negative w = some ⟨negative, Numeral.digitsValue w, 0⟩ ∧
      readUnsigned? negative (w ++ '.' :: f) =
        some ⟨negative, Numeral.digitsValue (w ++ f), -(f.length : Int)⟩ := by
  have hempty : w.isEmpty = false := by simpa using hne
  have htake {r : List Char} : (w ++ r).takeWhile Char.isDigit = w ++ r.takeWhile Char.isDigit :=
    List.takeWhile_append_of_pos hw
  have hdrop {r : List Char} : (w ++ r).dropWhile Char.isDigit = r.dropWhile Char.isDigit :=
    List.dropWhile_append_of_pos hw
  have hpoint : '.'.isDigit = false := by decide
  have hall {r : List Char} (hr : ∀ c ∈ r, c.isDigit = true) :
      r.takeWhile Char.isDigit = r ∧ r.dropWhile Char.isDigit = [] := by
    have htaken : (r ++ []).takeWhile Char.isDigit = r ++ [] := List.takeWhile_append_of_pos hr
    have hdropped : (r ++ []).dropWhile Char.isDigit = [] := List.dropWhile_append_of_pos hr
    simpa using And.intro htaken hdropped
  constructor
  · simp [readUnsigned?, hall hw, hempty, splitFraction, readExponent?]
  · simp [readUnsigned?, htake, hdrop, hpoint, hempty, splitFraction, hall hf, readExponent?]

theorem IsNumeral.read?_isSome {t : List Char} (h : IsNumeral t) (hasPoint : Bool) :
    (Number.read? hasPoint t).isSome = true := by
  have hdecimal : (Decimal.readUnsigned? false t).isSome = true := by
    obtain ⟨w, hne, hw, rfl | ⟨f, rfl, hf⟩⟩ := h.parts
    · rw [(Decimal.readUnsigned?_parts false hne hw hw).1]
      rfl
    · rw [(Decimal.readUnsigned?_parts false hne hw hf).2]
      rfl
  have hfloat : (Binary64.read? t).isSome = true := by
    unfold Binary64.read?
    rw [h.splitSign]
    dsimp only
    split
    · rfl
    split
    · rfl
    · simpa using hdecimal
  unfold Number.read?
  split
  · rfl
  · simpa using hfloat

/-- What a body of a string literal holds when each backslash stands for the next character. -/
inductive Unescapes : List Char → List Char → Prop
  | nil : Unescapes [] []
  | plain {c : Char} {b text : List Char} : c ≠ '\\' → c ≠ stringQuote → Unescapes b text →
      Unescapes (c :: b) (c :: text)
  | escaped {c : Char} {b text : List Char} : Unescapes b text →
      Unescapes ('\\' :: c :: b) (c :: text)

/-- A body without a closing quote; a backslash at its very end stands for nothing. -/
inductive OpenBody : List Char → List Char → Prop
  | whole {b text : List Char} : Unescapes b text → OpenBody b text
  | dangling {b text : List Char} : Unescapes b text → OpenBody (b ++ ['\\']) text

private theorem next_cons (filename : String) (p : Position) (c : Char) (r : List Char) :
    Source.next (⟨filename, p, c :: r⟩ : Cursor) = (some c, ⟨filename, p.afterChar c, r⟩) := rfl

private theorem Body.take_append {b text : List Char} (h : Unescapes b text) (filename : String)
    (p : Position) (r taken : List Char) :
    Body.take (⟨filename, p, b ++ r⟩ : Cursor) false taken =
      Body.take ⟨filename, p.after b, r⟩ false (text.reverse ++ taken) := by
  induction h generalizing p taken with
  | nil => rfl
  | plain hslash hquote _ ih =>
    rw [List.cons_append, Body.take]
    simp [next_cons, hslash, hquote, ih, Position.after_cons]
  | escaped _ ih =>
    rw [List.cons_append, List.cons_append, Body.take]
    simp only [next_cons, Bool.false_eq_true, ↓reduceIte]
    rw [Body.take]
    simp [next_cons, ih, Position.after_cons]

theorem Body.take_closed {b text : List Char} (h : Unescapes b text) (filename : String)
    (p : Position) (r : List Char) :
    Body.take (⟨filename, p, b ++ stringQuote :: r⟩ : Cursor) false [] =
      ⟨text, true, ⟨filename, p.after (b ++ [stringQuote]), r⟩⟩ := by
  have hquote : stringQuote ≠ '\\' := by decide
  rw [Body.take_append h, Body.take]
  simp [next_cons, hquote, Position.after_append, Position.after_cons]
  rfl

theorem Body.take_open {b text : List Char} (h : OpenBody b text) (filename : String)
    (p : Position) :
    Body.take (⟨filename, p, b⟩ : Cursor) false [] = ⟨text, false, ⟨filename, p.after b, []⟩⟩ := by
  have hend (q : Position) (escaped : Bool) (taken : List Char) :
      Body.take (⟨filename, q, []⟩ : Cursor) escaped taken =
        ⟨taken.reverse, false, ⟨filename, q, []⟩⟩ := by
    rw [Body.take]
    rfl
  cases h with
  | whole hb =>
    have := Body.take_append hb filename p [] []
    rw [hend] at this
    simpa using this
  | dangling hb =>
    rw [Body.take_append hb, Body.take]
    simp [next_cons, hend, Position.after_append, Position.after_cons]
    rfl

theorem exists_body : ∀ text : List Char,
    (∃ b held r, text = b ++ stringQuote :: r ∧ Unescapes b held) ∨ ∃ held, OpenBody text held
  | [] => .inr ⟨[], .whole .nil⟩
  | c :: text => by
    by_cases hslash : c = '\\'
    · subst hslash
      cases text with
      | nil => exact .inr ⟨[], .dangling .nil⟩
      | cons d text =>
        rcases exists_body text with ⟨b, held, r, rfl, hb⟩ | ⟨held, hopen⟩
        · exact .inl ⟨'\\' :: d :: b, d :: held, r, rfl, .escaped hb⟩
        · refine .inr ⟨d :: held, ?_⟩
          cases hopen with
          | whole hb => exact .whole (.escaped hb)
          | dangling hb => exact .dangling (.escaped hb)
    · by_cases hquote : c = stringQuote
      · exact .inl ⟨[], [], text, by simp [hquote], .nil⟩
      · rcases exists_body text with ⟨b, held, r, rfl, hb⟩ | ⟨held, hopen⟩
        · exact .inl ⟨c :: b, c :: held, r, rfl, .plain hslash hquote hb⟩
        · refine .inr ⟨c :: held, ?_⟩
          cases hopen with
          | whole hb => exact .whole (.plain hslash hquote hb)
          | dangling hb => exact .dangling (.plain hslash hquote hb)

end PullLexer
