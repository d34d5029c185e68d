import PullLexer.Proofs.Spelling
/-!
# One read on a cursor

A read takes the longest gap and then the spelling of a token, or finds that the text ends there
or goes wrong there. Identifiers that are shaped are read as tokens first and then looked past.
-/

namespace PullLexer

/-- A text from which no lexeme is read, and the error that is found in its place: none where the
text ends, a character that nothing starts with, or a string literal that has to be closed. -/
inductive Ends (strict : Bool) (filename : String) (p : Position) :
    List Char → Option LexError → Prop
  | source {g : List Char} : IsLastGap g → Ends strict filename p g none
  | stray {g r : List Char} {c : Char} : IsGap g → Unclassified c →
      Ends strict filename p (g ++ c :: r) (some ⟨.invalidChar c, filename, p.after g⟩)
  | unclosed {g b held : List Char} : strict = true → IsGap g → OpenBody b held →
      Ends strict filename p (g ++ stringQuote :: b)
        (some ⟨.unterminatedString, filename, p.after (g ++ stringQuote :: b)⟩)

/-- What a read in this mode delivers of a token: the token itself, or the shape of an
identifier. -/
inductive DeliveredAs (mode : IdentifierMode) : Token → Lexeme → Prop
  | token {tok : Token} : (mode = .fragments → ∀ name coord, tok ≠ .ident name coord) →
      DeliveredAs mode tok (.token tok)
  | shaped {name : String} {coord : Coord} {isCall : Bool} : mode = .fragments →
      DeliveredAs mode (.ident name coord) (.fragment (.ofIdentifier name coord isCall))

/-- Every text begins with a gap and the spelling of a token, or ends in one of three ways. -/
theorem exists_read (strict : Bool) (filename : String) (p : Position) (text : List Char) :
    (∃ g t r tok, text = g ++ (t ++ r) ∧ IsGap g ∧
      Spells strict ⟨filename, (p.after g).line⟩ t r tok) ∨
        ∃ failure, Ends strict filename p text failure := by
  rcases exists_gap text with hlast | ⟨g, c, u, rfl, hg, hc⟩
  · exact .inr ⟨none, .source hlast⟩
  · rcases exists_spelling strict ⟨filename, (p.after g).line⟩ hc u with
      ⟨t, r, tok, htext, ht⟩ | hstray | ⟨hstrict, rfl, held, hopen⟩
    · exact .inl ⟨g, t, r, tok, by rw [htext], hg, ht⟩
    · exact .inr ⟨_, .stray hg hstray⟩
    · exact .inr ⟨_, .unclosed hstrict hg hopen⟩

namespace Reading

section AnySource

variable {σ : Type} [Source σ] {config : Config} {strict : Bool} {input : σ}

theorem lexeme_of_end (h : Source.peek (Gap.skip input).rest = none) :
    (lexeme config input).result = .ok none ∧
      (lexeme config input).rest = (Gap.skip input).rest := by
  unfold lexeme
  simp only [h, and_self]

theorem lexeme_of_start {c : Char} (h : Source.peek (Gap.skip input).rest = some c) :
    (lexeme config input).result = (starting config c (Gap.skip input).rest).result.map some ∧
      (lexeme config input).rest = (starting config c (Gap.skip input).rest).rest := by
  unfold lexeme
  simp only [h, and_self]

private theorem starting_mode {c : Char} (h : CharClass.idStart.holds c = false)
    (m m' : IdentifierMode) : starting ⟨m, strict⟩ c input = starting ⟨m', strict⟩ c input := by
  simp [starting, h]

private theorem word_fragments_of_ident {name : String} {coord : Coord}
    (h : (word .plain input).result = .ok (.token (.ident name coord))) :
    let ahead := Gap.callAhead (word .plain input).rest
    (word .fragments input).result = .ok (.fragment (.ofIdentifier name coord ahead.1)) ∧
      (word .fragments input).rest = ahead.2 := by
  unfold word at h ⊢
  dsimp only at h ⊢
  split at h
  · simp at h
  split at h
  · simp at h
  · rename_i hkeyword hdatatype
    obtain ⟨rfl, rfl⟩ : String.ofList _ = name ∧ Source.coord input = coord := by simpa using h
    simp [hkeyword, hdatatype]

private theorem word_fragments_of_not_ident
    (h : ∀ name coord, (word .plain input).result ≠ .ok (.token (.ident name coord))) :
    word .fragments input = word .plain input := by
  unfold word at h ⊢
  dsimp only at h ⊢
  split
  · rfl
  split
  · rfl
  · rename_i hkeyword hdatatype
    simp [hkeyword, hdatatype] at h

theorem string_ok {l : Lexeme} (h : (string strict input).result = .ok l) :
    ∃ text, l = .token (.str text) := by
  unfold string at h
  dsimp only at h
  split at h
  · exact ⟨_, (Except.ok.inj h).symm⟩
  split at h
  · simp at h
  · exact ⟨_, (Except.ok.inj h).symm⟩

theorem number_ok {l : Lexeme} (h : (number input).result = .ok l) :
    ∃ n, l = .token (.num n) := by
  unfold number at h
  dsimp only at h
  split at h
  · exact ⟨_, (Except.ok.inj h).symm⟩
  · simp at h

private theorem idStart_of_ident {c : Char} {name : String} {coord : Coord}
    (h : (starting config c input).result = .ok (.token (.ident name coord))) :
    CharClass.idStart.holds c = true := by
  have hstarted := startedBy config input c
  generalize starting config c input = reading at h hstarted
  cases hstarted with
  | string _ =>
    obtain ⟨text, htext⟩ := string_ok h
    simp at htext
  | number _ =>
    obtain ⟨n, hn⟩ := number_ok h
    simp at hn
  | word hstart => exact hstart
  | punc _ => simp [punc] at h
  | operator _ => simp [operator] at h
  | refusal => simp [refusal] at h

theorem starting_of_lexeme {c : Char} {l : Lexeme}
    (hpeek : Source.peek (Gap.skip input).rest = some c)
    (h : (lexeme config input).result = .ok (some l)) :
    (starting config c (Gap.skip input).rest).result = .ok l := by
  rw [(lexeme_of_start hpeek).1] at h
  cases hr : (starting config c (Gap.skip input).rest).result with
  | error e => simp [hr, Except.map] at h
  | ok l' => simpa [hr, Except.map] using h

theorem startedBy_of_lexeme {l : Lexeme} (h : (lexeme config input).result = .ok (some l)) :
    ∃ c reading, Source.peek (Gap.skip input).rest = some c ∧
      StartedBy config (Gap.skip input).rest c reading ∧ reading.result = .ok l ∧
      (lexeme config input).rest = reading.rest := by
  cases hpeek : Source.peek (Gap.skip input).rest with
  | none =>
    rw [(lexeme_of_end hpeek).1] at h
    simp at h
  | some c =>
    exact ⟨c, _, rfl, startedBy config _ c, starting_of_lexeme hpeek h,
      (lexeme_of_start hpeek).2⟩

theorem lexeme_fragments_of_ident {name : String} {coord : Coord}
    (h : (lexeme ⟨.plain, strict⟩ input).result = .ok (some (.token (.ident name coord)))) :
    let ahead := Gap.callAhead (lexeme ⟨.plain, strict⟩ input).rest
    (lexeme ⟨.fragments, strict⟩ input).result =
        .ok (some (.fragment (.ofIdentifier name coord ahead.1))) ∧
      (lexeme ⟨.fragments, strict⟩ input).rest = ahead.2 := by
  cases hpeek : Source.peek (Gap.skip input).rest with
  | none =>
    rw [(lexeme_of_end hpeek).1] at h
    simp at h
  | some c =>
    have hplain := starting_of_lexeme hpeek h
    have hstart := idStart_of_ident hplain
    rw [starting_idStart _ _ hstart] at hplain
    have hword := word_fragments_of_ident hplain
    rw [(lexeme_of_start hpeek).1, (lexeme_of_start hpeek).2, (lexeme_of_start hpeek).2,
      starting_idStart _ _ hstart, starting_idStart _ _ hstart]
    exact ⟨by rw [hword.1]; rfl, hword.2⟩

theorem lexeme_fragments_of_not_ident
    (h : ∀ name coord, (lexeme ⟨.plain, strict⟩ input).result ≠
      .ok (some (.token (.ident name coord)))) :
    (lexeme ⟨.fragments, strict⟩ input).result = (lexeme ⟨.plain, strict⟩ input).result ∧
      (lexeme ⟨.fragments, strict⟩ input).rest = (lexeme ⟨.plain, strict⟩ input).rest := by
  cases hpeek : Source.peek (Gap.skip input).rest with
  | none =>
    rw [(lexeme_of_end hpeek).1, (lexeme_of_end hpeek).1, (lexeme_of_end hpeek).2,
      (lexeme_of_end hpeek).2]
    exact ⟨rfl, rfl⟩
  | some c =>
    have hsame : starting ⟨.fragments, strict⟩ c (Gap.skip input).rest =
        starting ⟨.plain, strict⟩ c (Gap.skip input).rest := by
      by_cases hstart : CharClass.idStart.holds c = true
      · rw [starting_idStart _ _ hstart, starting_idStart _ _ hstart]
        apply word_fragments_of_not_ident
        intro name coord hident
        apply h name coord
        rw [(lexeme_of_start hpeek).1, starting_idStart _ _ hstart, hident]
        rfl
      · exact starting_mode (by simpa using hstart) .fragments .plain
    rw [(lexeme_of_start hpeek).1, (lexeme_of_start hpeek).1, (lexeme_of_start hpeek).2,
      (lexeme_of_start hpeek).2, hsame]
    exact ⟨rfl, rfl⟩

private theorem isPunc_word {mode : IdentifierMode} {l : Lexeme} {text : String}
    (h : (word mode input).result = .ok l) : l.isPunc text = false := by
  have hworded := wordedBy input mode
  generalize word mode input = reading at h hworded
  cases hworded with
  | keyword _ =>
    rw [← Except.ok.inj h]
    rfl
  | datatype _ =>
    rw [← Except.ok.inj h]
    rfl
  | ident _ _ _ =>
    rw [← Except.ok.inj h]
    rfl
  | fragment _ _ _ =>
    rw [← Except.ok.inj h]
    rfl

theorem isPunc_of_starting {c : Char} {l : Lexeme}
    (h : (starting config c input).result = .ok l) : l.isPunc "(" = (c == '(') := by
  by_cases hc : c = '('
  · subst hc
    rw [starting_punc _ _ (by decide +kernel)] at h
    rw [← Except.ok.inj h]
    rfl
  · have hne : (c == '(') = false := by simpa using hc
    rw [hne]
    have hstarted := startedBy config input c
    generalize starting config c input = reading at h hstarted
    cases hstarted with
    | string _ =>
      obtain ⟨text, rfl⟩ := string_ok h
      rfl
    | number _ =>
      obtain ⟨n, rfl⟩ := number_ok h
      rfl
    | word _ => exact isPunc_word h
    | punc _ =>
      rw [← Except.ok.inj h]
      have htext : c.toString ≠ "(" := by
        intro htext
        have := congrArg String.toList htext
        simp at this
        exact hc this
      simpa [Lexeme.isPunc, Lexeme.token?, Token.isPunc] using htext
    | operator _ =>
      rw [← Except.ok.inj h]
      rfl
    | refusal => simp [refusal] at h

end AnySource

section InMemory

variable {strict : Bool} {filename : String} {p : Position}

private theorem string_closed {b held : List Char} (hb : Unescapes b held) (r : List Char) :
    string strict (⟨filename, p, stringQuote :: (b ++ stringQuote :: r)⟩ : Cursor) =
      ⟨.ok (.token (.str (String.ofList held))),
        ⟨filename, p.after (stringQuote :: (b ++ [stringQuote])), r⟩, []⟩ := by
  have hnext : (Source.next (⟨filename, p, stringQuote :: (b ++ stringQuote :: r)⟩ : Cursor)).2 =
      ⟨filename, p.afterChar stringQuote, b ++ stringQuote :: r⟩ := rfl
  rw [string, hnext, Body.take_closed hb]
  rfl

private theorem string_open {b held : List Char} (hb : OpenBody b held) :
    let input : Cursor := ⟨filename, p, stringQuote :: b⟩
    let last : Cursor := ⟨filename, p.after (stringQuote :: b), []⟩
    string strict input = if strict then
        ⟨.error ⟨.unterminatedString, filename, last.position⟩, last, []⟩
      else ⟨.ok (.token (.str (String.ofList held))), last,
        [.keptPartialString last.position.line]⟩ := by
  have hnext : (Source.next (⟨filename, p, stringQuote :: b⟩ : Cursor)).2 =
      ⟨filename, p.afterChar stringQuote, b⟩ := rfl
  dsimp only
  rw [string, hnext, Body.take_open hb]
  cases strict <;> rfl

private theorem starting_spells {t r : List Char} {tok : Token}
    (h : Spells strict ⟨filename, p.line⟩ t r tok) {c : Char} {u : List Char} (ht : t = c :: u) :
    let reading := starting ⟨.plain, strict⟩ c (⟨filename, p, t ++ r⟩ : Cursor)
    reading.result = .ok (.token tok) ∧ reading.rest = ⟨filename, p.after t, r⟩ := by
  cases h with
  | punc hc =>
    obtain rfl : _ = c := (List.cons.inj ht).1
    rw [starting_punc _ _ hc]
    exact ⟨rfl, rfl⟩
  | op hlongest =>
    obtain ⟨hrun, hstop⟩ := longest_run_iff.1 hlongest
    have hc : CharClass.op.holds c = true := hrun.chars c (by simp [ht])
    rw [starting_op _ _ hc, operator, Run.takeWhile_append filename p hrun.chars hstop]
    exact ⟨rfl, rfl⟩
  | num hlongest hn =>
    obtain ⟨hnumeral, hstop⟩ := longest_numeral_iff.1 hlongest
    obtain ⟨⟨d, w, hw, hdigit⟩, hfold⟩ := isNumeral_iff_followed.1 hnumeral
    obtain rfl : d = c := (List.cons.inj (hw.symm.trans ht)).1
    rw [starting_digit _ _ hdigit, number, Run.takeBy_append _ filename p [] hfold hstop]
    simp only [List.reverse_nil, List.nil_append, hn, and_self]
  | word hlongest =>
    obtain ⟨hrun, hstop⟩ := longest_run_iff.1 hlongest
    obtain ⟨d, w, hw, hstart⟩ := hrun.first
    obtain rfl : d = c := (List.cons.inj (hw.symm.trans ht)).1
    rw [starting_idStart _ _ hstart, word, Run.takeWhile_append filename p hrun.chars hstop]
    dsimp only
    unfold Token.ofWord
    split
    · exact ⟨rfl, rfl⟩
    split
    · exact ⟨rfl, rfl⟩
    · exact ⟨rfl, rfl⟩
  | str hb =>
    obtain rfl : stringQuote = c := (List.cons.inj ht).1
    rw [starting_quote, List.cons_append, List.append_assoc, List.singleton_append,
      string_closed hb]
    exact ⟨rfl, rfl⟩
  | openStr hstrict hb =>
    obtain rfl : stringQuote = c := (List.cons.inj ht).1
    rw [starting_quote, List.append_nil, string_open hb]
    simp [hstrict]

private theorem skip_before {g : List Char} (hg : IsGap g) (filename : String) (p : Position)
    {c : Char} (hc : startsGap c = false) (r : List Char) :
    (Gap.skip (⟨filename, p, g ++ c :: r⟩ : Cursor)).rest = ⟨filename, p.after g, c :: r⟩ ∧
      Source.peek (Gap.skip (⟨filename, p, g ++ c :: r⟩ : Cursor)).rest = some c := by
  have hskip := Gap.skip_gap (r := c :: r) hg filename p (by simpa using hc)
  refine ⟨hskip, ?_⟩
  rw [hskip]
  rfl

theorem lexeme_token {g t r : List Char} {tok : Token} (hg : IsGap g)
    (ht : Spells strict ⟨filename, (p.after g).line⟩ t r tok) :
    let reading := lexeme ⟨.plain, strict⟩ (⟨filename, p, g ++ (t ++ r)⟩ : Cursor)
    reading.result = .ok (some (.token tok)) ∧
      reading.rest = ⟨filename, p.after (g ++ t), r⟩ := by
  obtain ⟨c, u, rfl, hc⟩ := ht.head
  obtain ⟨hskip, hpeek⟩ := skip_before hg filename p hc (u ++ r)
  obtain ⟨hresult, hrest⟩ := starting_spells ht rfl
  simp only [List.cons_append] at hresult hrest ⊢
  rw [(lexeme_of_start hpeek).1, (lexeme_of_start hpeek).2, hskip, hresult, hrest,
    Position.after_append]
  exact ⟨rfl, rfl⟩

theorem lexeme_ends {tail : List Char} {failure : Option LexError}
    (h : Ends strict filename p tail failure) (mode : IdentifierMode) :
    (lexeme ⟨mode, strict⟩ (⟨filename, p, tail⟩ : Cursor)).result =
      failure.elim (.ok none) .error := by
  cases h with
  | source hg =>
    have hpeek : Source.peek (Gap.skip (⟨filename, p, tail⟩ : Cursor)).rest = none := by
      rw [Gap.skip_lastGap hg]
      rfl
    rw [(lexeme_of_end hpeek).1]
    rfl
  | @stray g r c hg hc =>
    obtain ⟨hskip, hpeek⟩ := skip_before hg filename p hc.not_startsGap r
    rw [(lexeme_of_start hpeek).1, starting_unclassified _ _ hc, hskip]
    rfl
  | @unclosed g b held hstrict hg hb =>
    obtain ⟨hskip, hpeek⟩ := skip_before hg filename p (c := stringQuote) (by decide) b
    rw [(lexeme_of_start hpeek).1, starting_quote, hskip, string_open hb, hstrict,
      Position.after_append]
    rfl

/-- What spells a token is delivered in either mode, and is taken up to its end unless it is an
identifier to be shaped. -/
theorem exists_delivery (config : Config) {g t r : List Char} {tok : Token} (hg : IsGap g)
    (ht : Spells config.strictStrings ⟨filename, (p.after g).line⟩ t r tok) :
    ∃ l, (lexeme config (⟨filename, p, g ++ (t ++ r)⟩ : Cursor)).result = .ok (some l) ∧
      DeliveredAs config.identifierMode tok l ∧
      (l = .token tok → (lexeme config (⟨filename, p, g ++ (t ++ r)⟩ : Cursor)).rest =
        ⟨filename, p.after (g ++ t), r⟩) := by
  obtain ⟨mode, strict⟩ := config
  obtain ⟨hplain, hrest⟩ := lexeme_token hg ht
  cases mode with
  | plain => exact ⟨_, hplain, .token (by simp), fun _ => hrest⟩
  | fragments =>
    by_cases hident : ∃ name coord, tok = .ident name coord
    · obtain ⟨name, coord, rfl⟩ := hident
      exact ⟨_, (lexeme_fragments_of_ident hplain).1, .shaped rfl, by simp⟩
    · have hread : ∀ name coord,
          (lexeme ⟨.plain, strict⟩ (⟨filename, p, g ++ (t ++ r)⟩ : Cursor)).result ≠
            .ok (some (.token (.ident name coord))) := by
        intro name coord h
        rw [hplain] at h
        exact hident ⟨name, coord, by simpa using h⟩
      obtain ⟨hresult, hsame⟩ := lexeme_fragments_of_not_ident hread
      refine ⟨_, hresult.trans hplain, .token ?_, fun _ => hsame.trans hrest⟩
      intro _ name coord htok
      exact hident ⟨name, coord, htok⟩

theorem spelled_of_lexeme {config : Config} {s : Cursor} {l : Lexeme}
    (h : (lexeme config s).result = .ok (some l)) :
    ∃ g t r tok, s.rest = g ++ (t ++ r) ∧ IsGap g ∧
      Spells config.strictStrings ⟨s.filename, (s.position.after g).line⟩ t r tok ∧
      DeliveredAs config.identifierMode tok l := by
  obtain ⟨filename, p, text⟩ := s
  rcases exists_read config.strictStrings filename p text with
    ⟨g, t, r, tok, rfl, hg, ht⟩ | ⟨failure, hends⟩
  · obtain ⟨l', hread, hdelivered, -⟩ := exists_delivery config hg ht
    obtain rfl : l' = l := by simpa [hread] using h
    exact ⟨g, t, r, tok, rfl, hg, ht, hdelivered⟩
  · rw [lexeme_ends hends config.identifierMode] at h
    cases failure <;> simp at h

theorem ends_of_lexeme_error {config : Config} {s : Cursor} {e : LexError}
    (h : (lexeme config s).result = .error e) :
    Ends config.strictStrings s.filename s.position s.rest (some e) := by
  obtain ⟨filename, p, text⟩ := s
  rcases exists_read config.strictStrings filename p text with
    ⟨g, t, r, tok, rfl, hg, ht⟩ | ⟨failure, hends⟩
  · obtain ⟨l, hread, -⟩ := exists_delivery config hg ht
    rw [hread] at h
    exact absurd h (by simp)
  · have hread := lexeme_ends hends config.identifierMode
    rw [hread] at h
    cases failure with
    | none => exact absurd h (by simp)
    | some e' =>
      obtain rfl : e' = e := by simpa using h
      exact hends

private theorem rest_of_stray {config : Config} {s : Cursor} {e : LexError}
    (he : e.fault ≠ .unterminatedString) (h : (lexeme config s).result = .error e) :
    (lexeme config s).rest = (Gap.skip s).rest := by
  have hends := ends_of_lexeme_error h
  obtain ⟨filename, p, text⟩ := s
  cases hends with
  | @stray g r c hg hc =>
    obtain ⟨-, hpeek⟩ := skip_before hg filename p hc.not_startsGap r
    show (lexeme config (⟨filename, p, g ++ c :: r⟩ : Cursor)).rest = _
    rw [(lexeme_of_start hpeek).2, starting_unclassified _ _ hc]
    rfl
  | unclosed _ _ _ => exact absurd rfl he

theorem rest_of_open {config : Config} {s : Cursor} {e : LexError}
    (he : e.fault = .unterminatedString) (h : (lexeme config s).result = .error e) :
    (lexeme config s).rest.rest = [] := by
  have hends := ends_of_lexeme_error h
  obtain ⟨filename, p, text⟩ := s
  cases hends with
  | stray _ _ => exact absurd he (by simp)
  | @unclosed g b held hstrict hg hb =>
    obtain ⟨hskip, hpeek⟩ := skip_before hg filename p (c := stringQuote) (by decide) b
    show (lexeme config (⟨filename, p, g ++ stringQuote :: b⟩ : Cursor)).rest.rest = []
    rw [(lexeme_of_start hpeek).2, starting_quote, hskip, string_open hb, hstrict]
    rfl

theorem lexeme_skip (config : Config) (s : Cursor) :
    (lexeme config (Gap.skip s).rest).result = (lexeme config s).result ∧
      (lexeme config (Gap.skip s).rest).rest = (lexeme config s).rest := by
  unfold lexeme
  simp only [Gap.skip_skip]
  cases Source.peek (Gap.skip s).rest with
  | none => exact ⟨rfl, rfl⟩
  | some c => exact ⟨rfl, rfl⟩

theorem lexeme_stray_again {config : Config} {s : Cursor} {e : LexError}
    (he : e.fault ≠ .unterminatedString) (h : (lexeme config s).result = .error e) :
    (lexeme config (lexeme config s).rest).result = .error e ∧
      (lexeme config (lexeme config s).rest).rest = (lexeme config s).rest := by
  have hrest := rest_of_stray he h
  obtain ⟨hresult, hstay⟩ := lexeme_skip config s
  rw [hrest]
  exact ⟨hresult.trans h, hstay.trans hrest⟩

theorem lexeme_error_again {config : Config} {s : Cursor} {e : LexError}
    (hstrict : config.strictStrings = false) (h : (lexeme config s).result = .error e) :
    (lexeme config (lexeme config s).rest).result = .error e := by
  have he : e.fault ≠ .unterminatedString := by
    have hends := ends_of_lexeme_error h
    generalize s.rest = text at hends
    cases hends with
    | stray _ _ => simp
    | unclosed hstrict' _ _ =>
      rw [hstrict] at hstrict'
      exact absurd hstrict' (by decide)
  exact (lexeme_stray_again he h).1

end InMemory

end Reading

end PullLexer
