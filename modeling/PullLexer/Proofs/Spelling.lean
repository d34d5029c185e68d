import PullLexer.Proofs.Gaps
import PullLexer.Proofs.Literals
import PullLexer.Scan.Lexeme
/-!
# The spelling of tokens

Which text spells which token, given what follows it: operators, words and numerals are longest
beginnings, and a string literal goes up to its closing quote. A text that starts with no gap
starts with the spelling of a token, with a character that nothing starts with, or with a string
literal that is never closed.
-/

namespace PullLexer

/-- Characters of the class `k`, at least one, the first of them of the class `start`. -/
structure IsRun (start k : CharClass) (t : List Char) : Prop where
  first : ∃ d u, t = d :: u ∧ start.holds d = true
  chars : ∀ c ∈ t, k.holds c = true

theorem isRun_beginningClosed (start k : CharClass) : BeginningClosed (IsRun start k) := by
  intro u v hu h
  refine ⟨?_, fun c hc => h.chars c (by simp [hc])⟩
  obtain ⟨d, w, hw, hd⟩ := h.first
  cases u with
  | nil => exact absurd rfl hu
  | cons c u =>
    obtain rfl : c = d := (List.cons.inj hw).1
    exact ⟨c, u, rfl, hd⟩

theorem longest_run_iff {start k : CharClass} {t r : List Char} :
    Longest (IsRun start k) t r ↔ IsRun start k t ∧ ∀ d ∈ r.head?, k.holds d = false := by
  rw [longest_iff_next (isRun_beginningClosed start k)]
  refine and_congr_right fun ht => forall₂_congr fun d _ => ?_
  obtain ⟨c, u, hu, hc⟩ := ht.first
  constructor
  · intro hnot
    by_cases hd : k.holds d = true
    · refine absurd ⟨⟨c, u ++ [d], by simp [hu], hc⟩, ?_⟩ hnot
      intro e he
      rcases List.mem_append.1 he with he | he
      · exact ht.chars e he
      · rw [List.mem_singleton.1 he]
        exact hd
    · simpa using hd
  · intro hd hrun
    have := hrun.chars d (by simp)
    simp [hd] at this

private theorem exists_run {start k : CharClass} (hk : ∀ c, start.holds c = true → k.holds c = true)
    {c : Char} (hc : start.holds c = true) (text : List Char) :
    ∃ t r, c :: text = t ++ r ∧ Longest (IsRun start k) t r := by
  obtain ⟨t, r, htext, ht, hr⟩ := Run.exists_while k.holds text
  refine ⟨c :: t, r, by simp [htext], longest_run_iff.2 ⟨⟨⟨c, t, rfl, hc⟩, ?_⟩, hr⟩⟩
  intro d hd
  rcases List.mem_cons.1 hd with rfl | hd
  · exact hk d hc
  · exact ht d hd

/-- The token of a word that stands at `coord`, as the whole of it is reserved or not. -/
def Token.ofWord (word : String) (coord : Coord) : Token :=
  if Vocabulary.isKeyword word then .keyword word
  else if Vocabulary.isDatatype word then .datatype word
  else .ident word coord

theorem Token.ofWord_cases (word : String) (coord : Coord) :
    ofWord word coord = .keyword word ∨ ofWord word coord = .datatype word ∨
      ofWord word coord = .ident word coord := by
  unfold ofWord
  split
  · exact .inl rfl
  split
  · exact .inr (.inl rfl)
  · exact .inr (.inr rfl)

/-- `t` spells a token at `coord` when `r` follows it. -/
inductive Spells (strict : Bool) (coord : Coord) : List Char → List Char → Token → Prop
  | punc {c : Char} {r : List Char} :
      CharClass.punc.holds c = true → Spells strict coord [c] r (.punc c.toString)
  | op {t r : List Char} :
      Longest (IsRun .op .op) t r → Spells strict coord t r (.op (String.ofList t))
  | num {t r : List Char} {n : Number} : Longest IsNumeral t r →
      Number.read? (t.contains '.') t = some n → Spells strict coord t r (.num n)
  | word {t r : List Char} :
      Longest (IsRun .idStart .id) t r → Spells strict coord t r (.ofWord (String.ofList t) coord)
  | str {b held r : List Char} : Unescapes b held →
      Spells strict coord (stringQuote :: (b ++ [stringQuote])) r (.str (String.ofList held))
  | openStr {b held : List Char} : strict = false → OpenBody b held →
      Spells strict coord (stringQuote :: b) [] (.str (String.ofList held))

/-- The character goes into no gap and starts no lexeme. -/
structure Unclassified (c : Char) : Prop where
  blank : CharClass.blank.holds c = false
  comment : c ≠ '#'
  quote : c ≠ stringQuote
  digit : CharClass.digit.holds c = false
  idStart : CharClass.idStart.holds c = false
  punc : CharClass.punc.holds c = false
  op : CharClass.op.holds c = false

theorem Unclassified.not_startsGap {c : Char} (h : Unclassified c) : startsGap c = false := by
  simp [startsGap, h.comment, h.blank]

namespace CharClass

/-- The characters that start a gap, a string literal, punctuation or an operator. -/
private def marks : List Char := stringQuote :: '#' :: (blanks ++ punctuation ++ operators)

private theorem marks_ascii {d : Char} (h : d ∈ marks) :
    d.toNat < 0x80 ∧ d.isAlpha = false ∧ d.isDigit = false := by
  have hall : marks.all (fun d => d.toNat < 0x80 && !d.isAlpha && !d.isDigit) = true := by
    decide +kernel
  simpa [and_assoc] using List.all_eq_true.1 hall d h

private theorem punctuation_apart {d : Char} (h : d ∈ punctuation) :
    d ∈ marks ∧ d ≠ stringQuote ∧ startsGap d = false := by
  have hall : punctuation.all (fun d => marks.contains d && d != stringQuote && !startsGap d) =
      true := by decide +kernel
  simpa [and_assoc] using List.all_eq_true.1 hall d h

private theorem operators_apart {d : Char} (h : d ∈ operators) :
    d ∈ marks ∧ d ≠ stringQuote ∧ startsGap d = false ∧ punc.holds d = false := by
  have hall : operators.all (fun d => marks.contains d && d != stringQuote && !startsGap d &&
      !punc.holds d) = true := by decide +kernel
  simpa [and_assoc] using List.all_eq_true.1 hall d h

private theorem mark_of_startsGap {c : Char} (h : startsGap c = true) : c ∈ marks := by
  simp only [startsGap, holds, Bool.or_eq_true, beq_iff_eq, List.contains_eq_mem,
    decide_eq_true_eq] at h
  rcases h with rfl | h <;> simp [marks, *]

private theorem digit_of_mark {c : Char} (h : c ∈ marks) : digit.holds c = false :=
  (marks_ascii h).2.2

private theorem idStart_of_mark {c : Char} (h : c ∈ marks) : idStart.holds c = false := by
  obtain ⟨hascii, halpha, -⟩ := marks_ascii h
  exact (Text.isAlphabetic_of_ascii hascii).trans halpha

private theorem idStart_of_digit {c : Char} (h : digit.holds c = true) :
    idStart.holds c = false := by
  have hdigit : 48 ≤ c.toNat ∧ c.toNat ≤ 57 := Char.isDigit_iff_toNat.1 h
  have hascii : c.toNat < 0x80 := by omega
  have halpha : c.isAlpha = false := by
    by_cases hletter : c.isAlpha = true
    · have hletters := Text.isAlpha_iff_toNat.1 hletter
      omega
    · simpa using hletter
  exact (Text.isAlphabetic_of_ascii hascii).trans halpha

private theorem apart_of_not_mark {c : Char} (h : c ∉ marks) :
    c ≠ stringQuote ∧ startsGap c = false := by
  constructor
  · rintro rfl
    exact h (by simp [marks])
  · by_cases hgap : startsGap c = true
    · exact absurd (mark_of_startsGap hgap) h
    · simpa using hgap

theorem apart_of_digit {c : Char} (h : digit.holds c = true) :
    c ≠ stringQuote ∧ startsGap c = false := by
  apply apart_of_not_mark
  intro hmark
  rw [digit_of_mark hmark] at h
  exact absurd h (by decide)

theorem apart_of_idStart {c : Char} (h : idStart.holds c = true) :
    c ≠ stringQuote ∧ startsGap c = false ∧ digit.holds c = false := by
  have hmark : c ∉ marks := by
    intro hmark
    rw [idStart_of_mark hmark] at h
    exact absurd h (by decide)
  refine ⟨(apart_of_not_mark hmark).1, (apart_of_not_mark hmark).2, ?_⟩
  by_cases hdigit : digit.holds c = true
  · rw [idStart_of_digit hdigit] at h
    exact absurd h (by decide)
  · simpa using hdigit

private theorem apart_of_punc {c : Char} (h : punc.holds c = true) :
    c ≠ stringQuote ∧ startsGap c = false ∧ digit.holds c = false ∧ idStart.holds c = false := by
  obtain ⟨hmark, hquote, hgap⟩ := punctuation_apart (d := c) (by simpa [holds] using h)
  exact ⟨hquote, hgap, digit_of_mark hmark, idStart_of_mark hmark⟩

theorem apart_of_op {c : Char} (h : op.holds c = true) :
    c ≠ stringQuote ∧ startsGap c = false ∧ digit.holds c = false ∧ idStart.holds c = false ∧
      punc.holds c = false := by
  obtain ⟨hmark, hquote, hgap, hpunc⟩ := operators_apart (d := c) (by simpa [holds] using h)
  exact ⟨hquote, hgap, digit_of_mark hmark, idStart_of_mark hmark, hpunc⟩

end CharClass

namespace Reading

variable {σ : Type} [Source σ] (config : Config) (input : σ)

theorem starting_quote :
    starting config stringQuote input = string config.strictStrings input := by
  simp [starting]

theorem starting_digit {c : Char} (h : CharClass.digit.holds c = true) :
    starting config c input = number input := by
  simp [starting, CharClass.apart_of_digit h, h]

theorem starting_idStart {c : Char} (h : CharClass.idStart.holds c = true) :
    starting config c input = word config.identifierMode input := by
  simp [starting, CharClass.apart_of_idStart h, h]

theorem starting_punc {c : Char} (h : CharClass.punc.holds c = true) :
    starting config c input = punc c input := by
  simp [starting, CharClass.apart_of_punc h, h]

theorem starting_op {c : Char} (h : CharClass.op.holds c = true) :
    starting config c input = operator input := by
  simp [starting, CharClass.apart_of_op h, h]

theorem starting_unclassified {c : Char} (h : Unclassified c) :
    starting config c input = refusal c input := by
  simp [starting, h.quote, h.digit, h.idStart, h.punc, h.op]

/-- What a word is by its text: reserved, or an identifier that stands where the word starts. -/
inductive WordedBy (mode : IdentifierMode) (input : σ) : Reading Lexeme σ → Prop
  | keyword {text : String} {rest : σ} : Vocabulary.isKeyword text = true →
      WordedBy mode input ⟨.ok (.token (.keyword text)), rest, []⟩
  | datatype {text : String} {rest : σ} : Vocabulary.isDatatype text = true →
      WordedBy mode input ⟨.ok (.token (.datatype text)), rest, []⟩
  | ident {text : String} {rest : σ} : mode = .plain → Vocabulary.isKeyword text = false →
      Vocabulary.isDatatype text = false →
      WordedBy mode input ⟨.ok (.token (.ident text (Source.coord input))), rest, []⟩
  | fragment {text : String} {behind : σ} : mode = .fragments →
      Vocabulary.isKeyword text = false → Vocabulary.isDatatype text = false →
      WordedBy mode input
        ⟨.ok (.fragment (.ofIdentifier text (Source.coord input) (Gap.callAhead behind).1)),
          (Gap.callAhead behind).2,
          [.shaped text (Source.coord input) (Gap.callAhead behind).1]⟩

theorem wordedBy (mode : IdentifierMode) : WordedBy mode input (word mode input) := by
  unfold word
  dsimp only
  split
  · exact .keyword ‹_›
  split
  · exact .datatype ‹_›
  · rename_i hkeyword hdatatype
    rw [Bool.not_eq_true] at hkeyword hdatatype
    cases mode with
    | plain => exact .ident rfl hkeyword hdatatype
    | fragments => exact .fragment rfl hkeyword hdatatype

/-- What the shown character `c` can start. -/
inductive StartedBy (c : Char) : Reading Lexeme σ → Prop
  | string : c = stringQuote → StartedBy c (string config.strictStrings input)
  | number : CharClass.digit.holds c = true → StartedBy c (number input)
  | word : CharClass.idStart.holds c = true → StartedBy c (word config.identifierMode input)
  | punc : CharClass.punc.holds c = true → StartedBy c (punc c input)
  | operator : CharClass.op.holds c = true → StartedBy c (operator input)
  | refusal : StartedBy c (refusal c input)

theorem startedBy (c : Char) : StartedBy config input c (starting config c input) := by
  unfold starting
  split
  · exact .string ‹_›
  split
  · exact .number ‹_›
  split
  · exact .word ‹_›
  split
  · exact .punc ‹_›
  split
  · exact .operator ‹_›
  · exact .refusal

end Reading

theorem Spells.head {strict : Bool} {coord : Coord} {t r : List Char} {tok : Token}
    (h : Spells strict coord t r tok) : ∃ c u, t = c :: u ∧ startsGap c = false := by
  have hquote : startsGap stringQuote = false := by decide
  cases h with
  | punc hc => exact ⟨_, [], rfl, (CharClass.apart_of_punc hc).2.1⟩
  | op ht =>
    obtain ⟨c, u, hu, hc⟩ := ht.form.first
    exact ⟨c, u, hu, (CharClass.apart_of_op hc).2.1⟩
  | num ht _ =>
    obtain ⟨c, u, hu, hc⟩ := ht.form.first
    exact ⟨c, u, hu, (CharClass.apart_of_digit hc).2⟩
  | word ht =>
    obtain ⟨c, u, hu, hc⟩ := ht.form.first
    exact ⟨c, u, hu, (CharClass.apart_of_idStart hc).2.1⟩
  | str _ => exact ⟨stringQuote, _, rfl, hquote⟩
  | openStr _ _ => exact ⟨stringQuote, _, rfl, hquote⟩

theorem Spells.of_head {strict : Bool} {coord : Coord} {t r r' : List Char} {tok : Token}
    (h : Spells strict coord t r tok) (hr : ∀ d ∈ r'.head?, d ∈ r.head?) :
    Spells strict coord t r' tok := by
  cases h with
  | punc hc => exact .punc hc
  | op ht => exact .op (ht.of_head (isRun_beginningClosed _ _) hr)
  | num ht hn => exact .num (ht.of_head isNumeral_beginningClosed hr) hn
  | word ht => exact .word (ht.of_head (isRun_beginningClosed _ _) hr)
  | str hb => exact .str hb
  | openStr hstrict hb =>
    cases r' with
    | nil => exact .openStr hstrict hb
    | cons d r' => exact absurd (hr d rfl) (by simp)

/-- A text that starts with no gap starts with the spelling of a token, with a character that
nothing starts with, or with a string literal that is open and has to be closed. -/
theorem exists_spelling (strict : Bool) (coord : Coord) {c : Char} (hc : startsGap c = false)
    (text : List Char) :
    (∃ t r tok, c :: text = t ++ r ∧ Spells strict coord t r tok) ∨ Unclassified c ∨
      (strict = true ∧ c = stringQuote ∧ ∃ held, OpenBody text held) := by
  by_cases hquote : c = stringQuote
  · subst hquote
    rcases exists_body text with ⟨b, held, r, rfl, hb⟩ | ⟨held, hb⟩
    · exact .inl ⟨stringQuote :: (b ++ [stringQuote]), r, _, by simp, .str hb⟩
    · cases strict with
      | false => exact .inl ⟨stringQuote :: text, [], _, by simp, .openStr rfl hb⟩
      | true => exact .inr (.inr ⟨rfl, rfl, held, hb⟩)
  by_cases hdigit : CharClass.digit.holds c = true
  · obtain ⟨t, r, htext, ht⟩ := exists_numeral hdigit text
    obtain ⟨n, hn⟩ := Option.isSome_iff_exists.1 (ht.form.read?_isSome (t.contains '.'))
    exact .inl ⟨t, r, _, htext, .num ht hn⟩
  by_cases hstart : CharClass.idStart.holds c = true
  · have hid : ∀ d, CharClass.idStart.holds d = true → CharClass.id.holds d = true := by
      intro d hd
      exact Bool.or_eq_true_iff.2 (.inl hd)
    obtain ⟨t, r, htext, ht⟩ := exists_run hid hstart text
    exact .inl ⟨t, r, _, htext, .word ht⟩
  by_cases hpunc : CharClass.punc.holds c = true
  · exact .inl ⟨[c], text, _, rfl, .punc hpunc⟩
  by_cases hop : CharClass.op.holds c = true
  · obtain ⟨t, r, htext, ht⟩ := exists_run (fun _ hd => hd) hop text
    exact .inl ⟨t, r, _, htext, .op ht⟩
  · simp only [startsGap, Bool.or_eq_false_iff, beq_eq_false_iff_ne] at hc
    exact .inr (.inl ⟨hc.2, hc.1, hquote, by simpa using hdigit, by simpa using hstart,
      by simpa using hpunc, by simpa using hop⟩)

end PullLexer
