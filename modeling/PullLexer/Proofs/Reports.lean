import PullLexer.Proofs.Progress
/-!
# What a read reports

The result of a read determines its events, but for the string literals that are kept although
nothing closes them. Such a literal is warned of where it is kept, and each error is warned of by
the read that finds it, with one exception: a literal that has to be closed fails without a warning.
-/

namespace PullLexer

open Source

variable {σ : Type} [Source σ]

/-- A string literal starts here that nothing closes. It holds `text`, and at `last` the source
gives no further character. -/
structure OpenString (input : σ) (text : List Char) (last : σ) : Prop where
  quote : peek input = some stringQuote
  body : Body.take (next input).2 false [] = ⟨text, false, last⟩

namespace Reading

/-- The results of reading what starts at `input`, each with the events that come with it. -/
inductive Reports (config : Config) (input : σ) : Except LexError Lexeme → List Event → Prop
  | token {t : Token} : (∀ text last, ¬ OpenString input text last) →
      Reports config input (.ok (.token t)) []
  | fragment {name : String} {coord : Coord} {isCall : Bool} :
      (∀ text last, ¬ OpenString input text last) →
      Reports config input (.ok (.fragment (.ofIdentifier name coord isCall)))
        [.shaped name coord isCall]
  | kept {text : List Char} {last : σ} : config.strictStrings = false →
      OpenString input text last →
      Reports config input (.ok (.token (.str (String.ofList text))))
        [.keptPartialString (line last)]
  | unclosed {e : LexError} : config.strictStrings = true → e.fault = .unterminatedString →
      Reports config input (.error e) []
  | malformed {e : LexError} {text : String} : e.fault = .invalidNumber text →
      Reports config input (.error e) [.malformedNumber text]
  | refused {e : LexError} {c : Char} : e.fault = .invalidChar c →
      Reports config input (.error e) [.rejected e]

section

variable {config : Config} {input : σ}

private theorem string_reports (shown : peek input = some stringQuote) :
    Reports config input (string config.strictStrings input).result
      (string config.strictStrings input).events := by
  unfold string
  generalize hbody : Body.take (next input).2 false [] = body
  obtain ⟨text, closed, last⟩ := body
  cases closed with
  | true =>
    apply Reports.token
    rintro text' last' ⟨-, hopen⟩
    simp [hbody] at hopen
  | false =>
    cases hstrict : config.strictStrings with
    | true => exact .unclosed hstrict rfl
    | false => exact .kept hstrict ⟨shown, hbody⟩

private theorem number_reports (hopen : ∀ text last, ¬ OpenString input text last) :
    Reports config input (number input).result (number input).events := by
  unfold number
  dsimp only
  split
  · exact .token hopen
  · exact .malformed rfl

private theorem word_reports (mode : IdentifierMode)
    (hopen : ∀ text last, ¬ OpenString input text last) :
    Reports config input (word mode input).result (word mode input).events := by
  unfold word
  dsimp only
  split
  · exact .token hopen
  split
  · exact .token hopen
  cases mode with
  | plain => exact .token hopen
  | fragments => exact .fragment hopen

private theorem starting_reports {c : Char} (shown : peek input = some c) :
    Reports config input (starting config c input).result (starting config c input).events := by
  unfold starting
  split
  · rename_i hquote
    exact string_reports (hquote ▸ shown)
  rename_i hquote
  -- No literal starts at another character, so that none is open in the branches left.
  have hopen (text : List Char) (last : σ) : ¬ OpenString input text last := by
    rintro ⟨hshown, -⟩
    exact hquote (Option.some.inj (shown.symm.trans hshown))
  split
  · exact number_reports hopen
  split
  · exact word_reports _ hopen
  split
  · exact .token hopen
  split
  · exact .token hopen
  · exact .refused rfl

end

/-- A read takes a turn for each comment in the gap before it. Then it finds the end, or it takes
one more turn and reports what comes with the result. -/
inductive Turns (config : Config) (input : σ) : Reading (Option Lexeme) σ → Prop
  | finish {comments : List Nat} {rest : σ} :
      Turns config input ⟨.ok none, rest, comments.map (Event.scanning '#') ++ [.reachedEnd]⟩
  | start {comments : List Nat} {c : Char} {here : Nat} {result : Except LexError Lexeme}
      {rest : σ} {events : List Event} : peek (Gap.skip input).rest = some c →
      Reports config (Gap.skip input).rest result events →
      Turns config input ⟨result.map some, rest, comments.map (Event.scanning '#') ++
        .scanning c here :: (events ++ delivery result)⟩

theorem lexeme_turns (config : Config) (input : σ) : Turns config input (lexeme config input) := by
  unfold lexeme
  dsimp only
  split
  · exact .finish
  · rename_i c hshown
    exact .start hshown (starting_reports hshown)

end Reading

/-- Whether one of the events is a warning. -/
def Warned (events : List Event) : Prop := ∃ event ∈ events, event.level = .warn

@[simp] private theorem not_warned_nil : ¬ Warned [] := by simp [Warned]

@[simp] private theorem warned_cons {event : Event} {events : List Event} :
    Warned (event :: events) ↔ event.level = .warn ∨ Warned events := by simp [Warned]

@[simp] private theorem warned_append {events events' : List Event} :
    Warned (events ++ events') ↔ Warned events ∨ Warned events' := by
  simp [Warned, or_and_right, exists_or]

@[simp] private theorem not_warned_turns (comments : List Nat) :
    ¬ Warned (comments.map (Event.scanning '#')) := by
  simp [Warned, Event.level]

@[simp] private theorem not_warned_delivery (result : Except LexError Lexeme) :
    ¬ Warned (Reading.delivery result) := by
  cases result <;> simp [Reading.delivery, Event.level]

namespace Reading

variable {config : Config} {input : σ}

private theorem Reports.warned_of_error {e : LexError} {events : List Event}
    (h : Reports config input (.error e) events) :
    Warned events ↔ e.fault ≠ .unterminatedString := by
  cases h with
  | unclosed _ he => simp [he]
  | malformed he => simp [he, Event.level]
  | refused he => simp [he, Event.level]

private theorem Reports.warned_of_lexeme {l : Lexeme} {events : List Event}
    (h : Reports config input (.ok l) events) :
    Warned events ↔ config.strictStrings = false ∧
      ∃ text last, OpenString input text last ∧ l = .token (.str (String.ofList text)) := by
  cases h with
  | token hopen => simp [hopen]
  | fragment hopen => simp [hopen, Event.level]
  | @kept text last hstrict hopen =>
    simp only [warned_cons, Event.level, true_or, true_iff]
    exact ⟨hstrict, text, last, hopen, rfl⟩

private theorem lexeme_warned_of_error {e : LexError}
    (h : (lexeme config input).result = .error e) :
    Warned (lexeme config input).events ↔ e.fault ≠ .unterminatedString := by
  have hturns := lexeme_turns config input
  generalize lexeme config input = reading at hturns h
  cases hturns with
  | finish => simp at h
  | @start _ _ _ result _ _ _ hreports =>
    cases result with
    | ok l => simp [Except.map] at h
    | error e' =>
      obtain rfl : e' = e := by simpa [Except.map] using h
      simpa [Event.level] using hreports.warned_of_error

private theorem lexeme_warned_of_ok {l? : Option Lexeme}
    (h : (lexeme config input).result = .ok l?) :
    Warned (lexeme config input).events ↔ config.strictStrings = false ∧
      ∃ text last, OpenString (Gap.skip input).rest text last ∧
        l? = some (.token (.str (String.ofList text))) := by
  have hturns := lexeme_turns config input
  generalize lexeme config input = reading at hturns h
  cases hturns with
  | finish =>
    obtain rfl : none = l? := by simpa using h
    simp [Event.level]
  | @start _ _ _ result _ _ _ hreports =>
    cases result with
    | error e => simp [Except.map] at h
    | ok l =>
      obtain rfl : some l = l? := by simpa [Except.map] using h
      simpa [Event.level] using hreports.warned_of_lexeme

end Reading

/-- The pull makes a read, which finds a string literal that nothing closes and keeps what it
holds. -/
structure LexemeStream.KeepsOpenString (s : LexemeStream σ) (p : Pull) : Prop where
  running : p = .iterate → s.stopped = false
  slot : s.slot = none
  permissive : s.config.strictStrings = false
  literal : ∃ text last, OpenString (Gap.skip s.input).rest text last ∧
    (Reading.lexeme s.config s.input).result = .ok (some (.token (.str (String.ofList text))))

private theorem LexemeStream.read_warned_of_ok {s : LexemeStream σ} {p : Pull} {l? : Option Lexeme}
    (hrunning : p = .iterate → s.stopped = false) (hslot : s.slot = none)
    (hresult : (Reading.lexeme s.config s.input).result = .ok l?) :
    Warned (Reading.lexeme s.config s.input).events ↔ s.KeepsOpenString p := by
  rw [Reading.lexeme_warned_of_ok hresult]
  constructor
  · rintro ⟨hstrict, text, last, hopen, rfl⟩
    exact ⟨hrunning, hslot, hstrict, text, last, hopen, hresult⟩
  · rintro ⟨-, -, hstrict, text, last, hopen, hl⟩
    exact ⟨hstrict, text, last, hopen, by simpa [hresult] using hl⟩

/-- A pull that fails has warned, unless a string literal had to be closed and was not. A pull that
does not fail has warned exactly if it has kept what an open string literal holds. -/
theorem pull_warned_iff (s : LexemeStream σ) (p : Pull) :
    (∀ e, (s.pull p).answer.error? = some e →
        (Warned (s.pull p).events ↔ e.fault ≠ .unterminatedString)) ∧
      ((s.pull p).answer.error? = none → (Warned (s.pull p).events ↔ s.KeepsOpenString p)) := by
  have hpulled := s.pulled p
  generalize s.pull p = reply at hpulled
  cases hpulled with
  | read hrunning hslot hreading =>
    subst hreading
    refine ⟨?_, ?_⟩
    · intro e he
      exact Reading.lexeme_warned_of_error (Pull.error?_answerOf he)
    · intro hnone
      obtain ⟨l?, hresult⟩ := Pull.error?_answerOf_eq_none hnone
      exact LexemeStream.read_warned_of_ok hrunning hslot hresult
  | held _ hslot =>
    refine ⟨?_, ?_⟩
    · intro e he
      simpa using Pull.error?_answerOf he
    · intro _
      apply iff_of_false not_warned_nil
      intro hkeeps
      simpa [hslot] using hkeeps.slot
  | stopped hstopped =>
    refine ⟨by simp [PullAnswer.error?], ?_⟩
    intro _
    apply iff_of_false not_warned_nil
    intro hkeeps
    simpa [hstopped] using hkeeps.running

/-- No warning comes with the error of a string literal that has to be closed. -/
theorem open_string_fails_unwarned :
    let s := LexemeStream.ofText ⟨.fragments, true⟩ "a.HC" "\x22abc"
    (s.pull .next).answer.error? = some ⟨.unterminatedString, "a.HC", ⟨1, 5, 4⟩⟩ ∧
      ¬ Warned (s.pull .next).events := by
  intro s
  have hevents : (s.pull .next).events = [.scanning stringQuote 1] := by decide +kernel
  refine ⟨by decide +kernel, ?_⟩
  simp [hevents, Event.level]

end PullLexer
