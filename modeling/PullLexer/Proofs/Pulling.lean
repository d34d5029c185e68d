import PullLexer.Proofs.Shaping
import PullLexer.LexemeStream.Session
/-!
# Pulling in any order

Showing the next lexeme and asking for the end move a stream past what they show, and keep it in
the slot. To whoever pulls, the stream is a cursor over the row that asking for the next lexeme
alone delivers. Where open strings are kept it stays one after errors; elsewhere an open string
leaves nothing to be found a second time.
-/

namespace PullLexer

/-- The error in an answer. -/
def PullAnswer.error? : PullAnswer → Option LexError
  | .lexeme (.error e) | .atEnd (.error e) => some e
  | _ => none

/-- Whether a pull with this answer has delivered a lexeme. -/
def Pull.delivers : Pull → PullAnswer → Bool
  | .next, .lexeme (.ok (some _)) => true
  | _, _ => false

/-- How many lexemes pulls with these answers have delivered. -/
def Pull.delivered (calls : List Pull) (answers : List PullAnswer) : Nat :=
  (calls.zip answers).countP fun call => call.1.delivers call.2

private theorem Pull.delivered_cons (p : Pull) (calls : List Pull) (a : PullAnswer)
    (answers : List PullAnswer) :
    delivered (p :: calls) (a :: answers) = (p.delivers a).toNat + delivered calls answers := by
  rw [delivered, List.zip_cons_cons, List.countP_cons, Nat.add_comm]
  cases p.delivers a <;> rfl

namespace Row

/-- The answer to a pull that reads on, `k` lexemes into the row. -/
def answer (row : Row) (k : Nat) : Pull → PullAnswer
  | .eof => .atEnd ((row.upcoming k).map Option.isNone)
  | _ => .lexeme (row.upcoming k)

private theorem answer_drop (row : Row) (k : Nat) (p : Pull) :
    (row.drop k).answer 0 p = row.answer k p := by
  cases p <;> simp [answer, upcoming_drop]

private theorem error?_answer {row : Row} {k : Nat} {p : Pull} {e : LexError} :
    (row.answer k p).error? = some e ↔ row.upcoming k = .error e := by
  cases h : row.upcoming k <;> cases p <;> simp [answer, PullAnswer.error?, Except.map, h]

end Row

namespace LexemeStream

section AnySource

variable {σ : Type} [Source σ] {s : LexemeStream σ} {p : Pull}

private theorem pull_answer (hp : p ≠ .iterate) : (s.pull p).answer = s.deliveries.answer 0 p := by
  cases p with
  | peek => simp [pull, Row.answer, peek_answer, next_answer]
  | next => simp [pull, Row.answer, next_answer]
  | eof => simp [pull, Row.answer, eof, peek_answer, next_answer]
  | iterate => exact absurd rfl hp

theorem deliveries_pull (hp : p ≠ .iterate) (h : (s.pull p).answer.error? = none) :
    (s.pull p).stream.deliveries = s.deliveries.drop (p.delivers (s.pull p).answer).toNat := by
  cases p with
  | peek =>
    cases hpeek : s.peek.answer with
    | error e => simp [pull, hpeek, PullAnswer.error?] at h
    | ok shown => simp [pull, Pull.delivers, deliveries_peek hpeek]
  | next =>
    cases hnext : s.next.answer with
    | error e => simp [pull, hnext, PullAnswer.error?] at h
    | ok given => cases given <;> simp [pull, Pull.delivers, hnext, deliveries_next hnext]
  | eof =>
    cases hpeek : s.peek.answer with
    | error e => simp [pull, eof, hpeek, PullAnswer.error?, Except.map] at h
    | ok shown => simp [pull, eof, Pull.delivers, deliveries_peek hpeek]
  | iterate => exact absurd rfl hp

theorem next_of_pull_error {e : LexError} (h : (s.pull p).answer.error? = some e) :
    s.next.answer = .error e := by
  by_cases hp : p = .iterate
  · subst hp
    by_cases hstopped : s.stopped = true
    · simp [pull, iterate, hstopped, PullAnswer.error?] at h
    · cases hnext : s.next.answer with
      | ok given => simp [pull, iterate, hstopped, hnext, PullAnswer.error?] at h
      | error e' => simpa [pull, iterate, hstopped, hnext, PullAnswer.error?] using h
  · rw [pull_answer hp, Row.error?_answer] at h
    rw [next_answer, h]

theorem lexeme_of_next_error {e : LexError} (h : s.next.answer = .error e) :
    s.slot = none ∧ (Reading.lexeme s.config s.input).result = .error e := by
  cases hslot : s.slot with
  | some l => simp [next, hslot] at h
  | none =>
    refine ⟨rfl, ?_⟩
    simpa [next, hslot] using h

theorem config_pull : (s.pull p).stream.config = s.config := by
  cases p with
  | peek => cases h : s.slot <;> simp [pull, peek, h]
  | next => cases h : s.slot <;> simp [pull, next, h]
  | eof => cases h : s.slot <;> simp [pull, eof, peek, h]
  | iterate => cases h : s.stopped <;> cases h' : s.slot <;> simp [pull, iterate, next, h, h']

def answers (s : LexemeStream σ) (calls : List Pull) : List PullAnswer :=
  (s.pulls calls).map Reply.answer

theorem answers_cons (s : LexemeStream σ) (p : Pull) (calls : List Pull) :
    s.answers (p :: calls) = (s.pull p).answer :: (s.pull p).stream.answers calls := rfl

end AnySource

section InMemory

variable {s : LexemeStream Cursor}

private theorem deliveries_of_failing_pull {p : Pull} {e : LexError} (hp : p ≠ .iterate)
    (hstrict : s.config.strictStrings = false) (h : (s.pull p).answer.error? = some e) :
    (s.pull p).stream.deliveries = s.deliveries := by
  have hnext := next_of_pull_error h
  obtain ⟨hslot, hread⟩ := lexeme_of_next_error hnext
  have hstream : (s.pull p).stream =
      { s with input := (Reading.lexeme s.config s.input).rest } := by
    cases p with
    | peek => simp [pull, peek, hslot, hread, shownSlot]
    | next => simp [pull, next, hslot]
    | eof => simp [pull, eof, peek, hslot, hread, shownSlot]
    | iterate => exact absurd rfl hp
  have hagain : (s.pull p).stream.next.answer = .error e := by
    rw [hstream]
    simpa [next, hslot] using Reading.lexeme_error_again hstrict hread
  rw [deliveries_of_error hagain, deliveries_of_error hnext]

/-- A pull moves on by the lexeme it delivers, if any. -/
theorem deliveries_step {p : Pull} (hp : p ≠ .iterate)
    (h : s.config.strictStrings = false ∨ (s.pull p).answer.error? = none) :
    (s.pull p).stream.deliveries = s.deliveries.drop (p.delivers (s.pull p).answer).toNat := by
  cases hanswer : (s.pull p).answer.error? with
  | none => exact deliveries_pull hp hanswer
  | some e =>
    have hstrict : s.config.strictStrings = false := by simpa [hanswer] using h
    have hnone : p.delivers (s.pull p).answer = false := by
      cases hr : (s.pull p).answer with
      | atEnd result => cases p <;> rfl
      | lexeme result =>
        cases result with
        | error e => cases p <;> rfl
        | ok l => simp [hr, PullAnswer.error?] at hanswer
    rw [deliveries_of_failing_pull hp hstrict hanswer, hnone]
    rfl

theorem answers_of_deliveries {row : Row} {k : Nat} (hs : s.deliveries = row.drop k)
    {calls : List Pull} (hcalls : .iterate ∉ calls) {i : Nat} {p : Pull}
    (hp : calls[i]? = some p)
    (hi : s.config.strictStrings = false ∨ ∀ a ∈ (s.answers calls).take i, a.error? = none) :
    (s.answers calls)[i]? = some
      (row.answer (k + Pull.delivered calls ((s.answers calls).take i)) p) := by
  -- Before each call the stream still delivers the row from `k` on.
  induction calls generalizing s k i with
  | nil => simp at hp
  | cons q calls ih =>
    have hq : q ≠ .iterate := fun h => hcalls (by simp [h])
    have htail : .iterate ∉ calls := fun h => hcalls (List.mem_cons_of_mem _ h)
    rw [answers_cons] at hi ⊢
    cases i with
    | zero =>
      obtain rfl : q = p := by simpa using hp
      have hanswer := pull_answer (s := s) hq
      rw [hs, Row.answer_drop] at hanswer
      simp [hanswer, Pull.delivered]
    | succ i =>
      have hstep : (s.pull q).stream.deliveries =
          row.drop (k + (q.delivers (s.pull q).answer).toNat) := by
        rw [← Row.drop_drop, ← hs]
        apply deliveries_step hq
        refine hi.imp_right ?_
        intro h
        apply h
        simp
      have hlater : (s.pull q).stream.config.strictStrings = false ∨
          ∀ a ∈ ((s.pull q).stream.answers calls).take i, a.error? = none := by
        rw [config_pull]
        refine hi.imp_right ?_
        intro h a ha
        apply h
        simp [ha]
      rw [List.getElem?_cons_succ] at hp ⊢
      rw [List.take_succ_cons, Pull.delivered_cons, ← Nat.add_assoc]
      exact ih hstep htail hp hlater

end InMemory

end LexemeStream

/-- Pulls in any order are answered from the row that asking for the next lexeme alone delivers:
each by what comes after the lexemes delivered before it. Where open strings are kept this goes on
after errors; elsewhere it holds up to the first error, and for that one. -/
theorem pulls_refine_deliveries (config : Config) (filename source : String) (calls : List Pull)
    (hcalls : .iterate ∉ calls) (i : Nat) (p : Pull) (hp : calls[i]? = some p)
    (hi : config.strictStrings = false ∨
      ∀ a ∈ ((LexemeStream.ofText config filename source).answers calls).take i, a.error? = none) :
    ((LexemeStream.ofText config filename source).answers calls)[i]? = some
      ((LexemeStream.ofText config filename source).deliveries.answer
        (Pull.delivered calls
          (((LexemeStream.ofText config filename source).answers calls).take i)) p) := by
  have hrow : (LexemeStream.ofText config filename source).deliveries =
      (LexemeStream.ofText config filename source).deliveries.drop 0 := rfl
  have hanswer := LexemeStream.answers_of_deliveries hrow hcalls hp hi
  rw [Nat.zero_add] at hanswer
  exact hanswer

/-- A stray character that has been found is found again. -/
theorem pulls_refine_deliveries_past_error :
    let calls : List Pull := [.peek, .eof, .next, .next, .peek]
    let stream := LexemeStream.ofText .plain "a.HC" "x @"
    .iterate ∉ calls ∧
      stream.deliveries =
        ⟨[.token (.ident "x" ⟨"a.HC", 1⟩)], some ⟨.invalidChar '@', "a.HC", ⟨1, 3, 2⟩⟩⟩ ∧
      (stream.answers calls)[4]? = some (stream.deliveries.answer
        (Pull.delivered calls ((stream.answers calls).take 4)) .peek) := by
  intro calls stream
  refine ⟨by decide, by decide +kernel, ?_⟩
  exact pulls_refine_deliveries .plain "a.HC" "x @" calls (by decide) 4 .peek rfl (.inl rfl)

end PullLexer
