import PullLexer.Proofs.Reads
import PullLexer.LexemeStream.Session
/-!
# What a stream delivers

Asked for the next lexeme again and again, a stream delivers a row of lexemes up to the end of its
source or the first error. Draining gives that row, and showing the next lexeme does not change it.
-/

namespace PullLexer

/-- Lexemes, and the error that comes after the last of them if the source does not end there. -/
structure Row where
  lexemes : List Lexeme
  failure : Option LexError
deriving DecidableEq, Repr

namespace Row

def cons (l : Lexeme) (row : Row) : Row := ⟨l :: row.lexemes, row.failure⟩

/-- The row without its first `k` lexemes. -/
def drop (row : Row) (k : Nat) : Row := ⟨row.lexemes.drop k, row.failure⟩

/-- What comes after the first `k` lexemes: one more, the end or the error. -/
def upcoming (row : Row) (k : Nat) : Except LexError (Option Lexeme) :=
  match row.lexemes[k]? with
  | some l => .ok (some l)
  | none => row.failure.elim (.ok none) .error

@[simp] private theorem upcoming_cons (l : Lexeme) (row : Row) :
    (row.cons l).upcoming 0 = .ok (some l) := rfl

@[simp] theorem drop_zero (row : Row) : row.drop 0 = row := rfl

theorem drop_drop (row : Row) (j k : Nat) : (row.drop j).drop k = row.drop (j + k) := by
  simp [drop]

theorem upcoming_drop (row : Row) (j k : Nat) : (row.drop j).upcoming k = row.upcoming (j + k) := by
  simp [upcoming, drop]

end Row

theorem Reading.lexeme_end_again {σ : Type} [Source σ] {config : Config} {input : σ}
    (h : (lexeme config input).result = .ok none) :
    (lexeme config (lexeme config input).rest).result = .ok none ∧
      (lexeme config (lexeme config input).rest).rest = (lexeme config input).rest := by
  cases hpeek : Source.peek (Gap.skip input).rest with
  | none =>
    have hstay := Gap.skip_of_none hpeek
    have hpeek' : Source.peek (Gap.skip (Gap.skip input).rest).rest = none := by rw [hstay, hpeek]
    rw [(lexeme_of_end hpeek).2, (lexeme_of_end hpeek').1, (lexeme_of_end hpeek').2, hstay]
    exact ⟨rfl, rfl⟩
  | some c =>
    rw [(lexeme_of_start hpeek).1] at h
    cases hr : (starting config c (Gap.skip input).rest).result with
    | error e => simp [hr, Except.map] at h
    | ok l => simp [hr, Except.map] at h

namespace LexemeStream

variable {σ : Type} [Source σ]

/-- The lexemes that are delivered by asking for the next one only, and what comes after them. -/
def deliveries (s : LexemeStream σ) : Row :=
  match _delivered : s.next.answer with
  | .ok (some lexeme) => s.next.stream.deliveries.cons lexeme
  | .ok none => ⟨[], none⟩
  | .error e => ⟨[], some e⟩
termination_by s.weight
decreasing_by exact weight_next_lt _delivered

variable {s : LexemeStream σ}

theorem deliveries_of_lexeme {l : Lexeme} (h : s.next.answer = .ok (some l)) :
    s.deliveries = s.next.stream.deliveries.cons l := by
  rw [deliveries]
  split
  · rename_i l' h'
    obtain rfl : l = l' := by simpa [h] using h'
    rfl
  · rename_i h'
    simp [h] at h'
  · rename_i e h'
    simp [h] at h'

theorem deliveries_of_end (h : s.next.answer = .ok none) : s.deliveries = ⟨[], none⟩ := by
  rw [deliveries]
  split
  · rename_i l' h'
    simp [h] at h'
  · rfl
  · rename_i e h'
    simp [h] at h'

theorem deliveries_of_error {e : LexError} (h : s.next.answer = .error e) :
    s.deliveries = ⟨[], some e⟩ := by
  rw [deliveries]
  split
  · rename_i l' h'
    simp [h] at h'
  · rename_i h'
    simp [h] at h'
  · rename_i e' h'
    obtain rfl : e = e' := by simpa [h] using h'
    rfl

private theorem deliveries_of_slot {l : Lexeme} (h : s.slot = some l) :
    s.deliveries = { s with slot := none }.deliveries.cons l := by
  have hanswer : s.next.answer = .ok (some l) := by simp [next, h]
  have hstream : s.next.stream = { s with slot := none } := by simp [next, h]
  rw [deliveries_of_lexeme hanswer, hstream]

theorem deliveries_stopped (s : LexemeStream σ) (stopped : Bool) :
    { s with stopped }.deliveries = s.deliveries := by
  have hnext (s : LexemeStream σ) : ({ s with stopped } : LexemeStream σ).next.answer =
      s.next.answer ∧ ({ s with stopped } : LexemeStream σ).next.stream =
        { s.next.stream with stopped } := by
    unfold next
    cases s.slot <;> exact ⟨rfl, rfl⟩
  induction s using deliveries.induct with
  | case1 s l h ih =>
    rw [deliveries_of_lexeme h, deliveries_of_lexeme ((hnext s).1.trans h), (hnext s).2, ih]
  | case2 s h => rw [deliveries_of_end h, deliveries_of_end ((hnext s).1.trans h)]
  | case3 s e h => rw [deliveries_of_error h, deliveries_of_error ((hnext s).1.trans h)]

theorem peek_answer (s : LexemeStream σ) : s.peek.answer = s.next.answer := by
  unfold peek next
  cases s.slot <;> rfl

theorem deliveries_peek {shown : Option Lexeme} (h : s.peek.answer = .ok shown) :
    s.peek.stream.deliveries = s.deliveries := by
  cases hslot : s.slot with
  | some l =>
    have hstream : s.peek.stream = s := by simp [peek, hslot]
    rw [hstream]
  | none =>
    have hread : (Reading.lexeme s.config s.input).result = .ok shown := by
      simpa [peek, hslot] using h
    have hnext : s.next.answer = .ok shown := by
      rw [← peek_answer, h]
    have hpeek : s.peek.stream =
        { s with input := (Reading.lexeme s.config s.input).rest, slot := shown } := by
      simp [peek, hslot, hread, shownSlot]
    have hnextStream : s.next.stream =
        { s with input := (Reading.lexeme s.config s.input).rest } := by simp [next, hslot]
    cases shown with
    | some l => rw [deliveries_of_lexeme hnext, hpeek, deliveries_of_slot rfl, hnextStream, ← hslot]
    | none =>
      have hagain : s.peek.stream.next.answer = .ok none := by
        rw [hpeek]
        exact (Reading.lexeme_end_again hread).1
      rw [deliveries_of_end hnext, deliveries_of_end hagain]

theorem next_answer (s : LexemeStream σ) : s.next.answer = s.deliveries.upcoming 0 := by
  cases h : s.next.answer with
  | error e =>
    rw [deliveries_of_error h]
    rfl
  | ok shown =>
    cases shown with
    | none =>
      rw [deliveries_of_end h]
      rfl
    | some l => rw [deliveries_of_lexeme h, Row.upcoming_cons]

theorem deliveries_next {given : Option Lexeme} (h : s.next.answer = .ok given) :
    s.next.stream.deliveries = s.deliveries.drop given.toList.length := by
  cases given with
  | some l =>
    rw [deliveries_of_lexeme h]
    rfl
  | none =>
    have hslot : s.slot = none := by
      cases hslot : s.slot with
      | none => rfl
      | some l => simp [next, hslot] at h
    have hread : (Reading.lexeme s.config s.input).result = .ok none := by
      simpa [next, hslot] using h
    have hagain : s.next.stream.next.answer = .ok none := by
      simpa [next, hslot] using (Reading.lexeme_end_again hread).1
    rw [deliveries_of_end h, deliveries_of_end hagain]
    rfl

theorem iterate_of_running (h : s.stopped = false) :
    s.iterate.answer = s.next.answer ∧
      s.iterate.stream = { s.next.stream with stopped := isError s.next.answer } := by
  simp [iterate, h]

private theorem drainAfter_eq (lexemes : List Lexeme) (events : List Event)
    (hs : s.stopped = false) :
    (s.drainAfter lexemes events).lexemes = lexemes.reverse ++ s.deliveries.lexemes ∧
      (s.drainAfter lexemes events).failure = s.deliveries.failure := by
  fun_induction drainAfter lexemes events s with
  | case1 lexemes events s l h ih =>
    obtain ⟨hanswer, hstream⟩ := iterate_of_running hs
    have hnext := hanswer.symm.trans h
    have hstopped : s.iterate.stream.stopped = false := by simp [hstream, hnext, isError]
    have hrest : s.iterate.stream.deliveries = s.next.stream.deliveries := by
      rw [hstream, deliveries_stopped]
    obtain ⟨hlexemes, hfailure⟩ := ih hstopped
    rw [hlexemes, hfailure, deliveries_of_lexeme hnext, hrest]
    simp [Row.cons]
  | case2 lexemes events s h =>
    simp [deliveries_of_end ((iterate_of_running hs).1.symm.trans h)]
  | case3 lexemes events s e h =>
    simp [deliveries_of_error ((iterate_of_running hs).1.symm.trans h)]

/-- Draining gives what the stream delivers. -/
theorem drain_eq_deliveries (hs : s.stopped = false) :
    s.drain.lexemes = s.deliveries.lexemes ∧ s.drain.failure = s.deliveries.failure := by
  simpa [drain] using drainAfter_eq [] [] hs

end LexemeStream

/-- What a new stream over a source delivers. -/
def rowFrom {σ : Type} [Source σ] (config : Config) (input : σ) : Row :=
  (LexemeStream.ofSource input config).deliveries

section RowFrom

variable {σ : Type} [Source σ] {config : Config} {input : σ}

theorem rowFrom_of_lexeme {l : Lexeme}
    (h : (Reading.lexeme config input).result = .ok (some l)) :
    rowFrom config input = (rowFrom config (Reading.lexeme config input).rest).cons l :=
  LexemeStream.deliveries_of_lexeme (s := .ofSource input config) h

theorem rowFrom_of_end (h : (Reading.lexeme config input).result = .ok none) :
    rowFrom config input = ⟨[], none⟩ :=
  LexemeStream.deliveries_of_end (s := .ofSource input config) h

theorem rowFrom_of_error {e : LexError} (h : (Reading.lexeme config input).result = .error e) :
    rowFrom config input = ⟨[], some e⟩ :=
  LexemeStream.deliveries_of_error (s := .ofSource input config) h

theorem rowFrom_congr {config' : Config} {input' : σ}
    (hresult : (Reading.lexeme config' input').result = (Reading.lexeme config input).result)
    (hrest : rowFrom config' (Reading.lexeme config' input').rest =
      rowFrom config (Reading.lexeme config input).rest) :
    rowFrom config' input' = rowFrom config input := by
  cases h : (Reading.lexeme config input).result with
  | error e => rw [rowFrom_of_error h, rowFrom_of_error (hresult.trans h)]
  | ok l? =>
    cases l? with
    | none => rw [rowFrom_of_end h, rowFrom_of_end (hresult.trans h)]
    | some l => rw [rowFrom_of_lexeme h, rowFrom_of_lexeme (hresult.trans h), hrest]

end RowFrom

/-- A stream at the start of a text. -/
def LexemeStream.ofText (config : Config) (filename source : String) : LexemeStream Cursor :=
  ofSource (Cursor.ofString filename source) config

namespace Row

/-- The lexemes, or the error after them. -/
def result (row : Row) : Except LexError (List Lexeme) :=
  match row.failure with
  | none => .ok row.lexemes
  | some e => .error e

theorem result_eq_ok_iff {row : Row} {ls : List Lexeme} :
    row.result = .ok ls ↔ row = ⟨ls, none⟩ := by
  obtain ⟨lexemes, failure⟩ := row
  cases failure <;> simp [result]

theorem result_eq_error_iff {row : Row} {e : LexError} :
    row.result = .error e ↔ row.failure = some e := by
  obtain ⟨lexemes, failure⟩ := row
  cases failure <;> simp [result]

end Row

theorem drain_ofText (config : Config) (filename source : String) :
    (LexemeStream.ofText config filename source).drain.lexemes =
        (rowFrom config (Cursor.ofString filename source)).lexemes ∧
      (LexemeStream.ofText config filename source).drain.failure =
        (rowFrom config (Cursor.ofString filename source)).failure :=
  LexemeStream.drain_eq_deliveries rfl

theorem scanText_eq (config : Config) (filename source : String) :
    scanText config filename source =
      (rowFrom config (Cursor.ofString filename source)).result := by
  obtain ⟨hlexemes, hfailure⟩ := drain_ofText config filename source
  rw [Row.result, ← hlexemes, ← hfailure]
  rfl

end PullLexer
