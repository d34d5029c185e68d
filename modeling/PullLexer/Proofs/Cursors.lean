import PullLexer.Proofs.Faults
/-!
# Where a cursor stands

Whatever it is asked and in whatever order, a cursor stands between the characters that it has
handed out and the text that it still has. All that it answers is told by this one place. Its
position counts the place in lines, code points and bytes, and the bytes lead back to the same place
of the source: the count never falls inside a character or behind the end. So a reader that holds
the whole source, and takes the slice from its byte offset on for what is left, never takes a slice
that there is not, and answers as the cursor does.
-/

namespace PullLexer

namespace Cursor

/-- What a cursor can be asked. -/
inductive Call
  | peek
  | next
  | atEnd
  | line
  | rest
  | report (fault : Fault)

inductive Answer
  | char (c : Option Char)
  | atEnd (b : Bool)
  | line (n : Nat)
  | rest (text : String)
  | error (e : LexError)

/-- The answer to a call, and the cursor after it. -/
def call (s : Cursor) : Call → Answer × Cursor
  | .peek => (.char (Source.peek s), s)
  | .next => (.char (Source.next s).1, (Source.next s).2)
  | .atEnd => (.atEnd (Source.atEnd s), s)
  | .line => (.line (Source.line s), s)
  | .rest => (.rest s.restText, s)
  | .report fault => (.error (Source.report s fault), s)

/-- The answers to a row of calls. -/
def answers (s : Cursor) : List Call → List Answer
  | [] => []
  | c :: calls => (s.call c).1 :: (s.call c).2.answers calls

/-- The cursor after a row of calls. -/
def afterCalls (s : Cursor) : List Call → Cursor
  | [] => s
  | c :: calls => (s.call c).2.afterCalls calls

/-- The character that is handed out in answer to a call. -/
def Call.given? : Call → Answer → Option Char
  | .next, .char c => c
  | _, _ => none

/-- The characters that are handed out in answer to a row of calls, in their order. -/
def given (s : Cursor) : List Call → List Char
  | [] => []
  | c :: calls => (c.given? (s.call c).1).toList ++ (s.call c).2.given calls

/-- The cursor stands between the texts `p` and `r` of a file: its position is the one behind `p`,
and its answers tell of `r`. Only the call for the next character moves it, by that character, and
not even this one at the end. -/
structure StandsBetween (filename : String) (p r : List Char) (s : Cursor) : Prop where
  position : s.position = .behind p
  peek : s.call .peek = (.char r.head?, s)
  next : ∀ c r', r = c :: r' →
    s.call .next = (.char (some c), ⟨filename, .behind (p ++ [c]), r'⟩)
  nextAtEnd : r = [] → s.call .next = (.char none, s)
  atEnd : s.call .atEnd = (.atEnd (decide (r = [])), s)
  line : s.call .line = (.line (1 + p.count '\n'), s)
  rest : s.call .rest = (.rest (String.ofList r), s)
  report : ∀ fault, s.call (.report fault) = (.error ⟨fault, filename, .behind p⟩, s)

private theorem standsBetween (filename : String) (p r : List Char) :
    StandsBetween filename p r ⟨filename, .behind p, r⟩ where
  position := rfl
  peek := rfl
  next := by
    rintro c r' rfl
    rw [Position.behind_append_singleton]
    rfl
  nextAtEnd := by
    rintro rfl
    rfl
  atEnd := by cases r <;> rfl
  line := rfl
  rest := rfl
  report := fun _ => rfl

theorem call_behind (filename : String) (p r : List Char) (c : Call) :
    ∃ r', r = (given ⟨filename, .behind p, r⟩ [c]) ++ r' ∧
      ((⟨filename, .behind p, r⟩ : Cursor).call c).2 =
        ⟨filename, .behind (p ++ given ⟨filename, .behind p, r⟩ [c]), r'⟩ := by
  have hstay : (⟨filename, .behind p, r⟩ : Cursor) = ⟨filename, .behind (p ++ []), r⟩ := by
    rw [List.append_nil]
  cases c with
  | next =>
    cases r with
    | nil => exact ⟨[], rfl, hstay⟩
    | cons c r =>
      have hnext := (standsBetween filename p (c :: r)).next c r rfl
      have hgiven : given ⟨filename, .behind p, c :: r⟩ [.next] = [c] := rfl
      rw [hgiven, hnext]
      exact ⟨r, rfl, rfl⟩
  | peek => exact ⟨r, rfl, hstay⟩
  | atEnd => exact ⟨r, rfl, hstay⟩
  | line => exact ⟨r, rfl, hstay⟩
  | rest => exact ⟨r, rfl, hstay⟩
  | report fault => exact ⟨r, rfl, hstay⟩

private theorem given_cons (s : Cursor) (c : Call) (calls : List Call) :
    s.given (c :: calls) = s.given [c] ++ (s.call c).2.given calls := by
  simp [given]

/-- After a row of calls a cursor stands behind all that they were given. -/
theorem afterCalls_behind (filename : String) (p r : List Char) (calls : List Call) :
    ∃ r', r = given ⟨filename, .behind p, r⟩ calls ++ r' ∧
      (⟨filename, .behind p, r⟩ : Cursor).afterCalls calls =
        ⟨filename, .behind (p ++ given ⟨filename, .behind p, r⟩ calls), r'⟩ := by
  induction calls generalizing p r with
  | nil => exact ⟨r, rfl, by simp [given, afterCalls]⟩
  | cons c calls ih =>
    obtain ⟨between, hfirst, hstep⟩ := call_behind filename p r c
    rw [given_cons, afterCalls, hstep]
    generalize given ⟨filename, .behind p, r⟩ [c] = taken at hfirst ⊢
    obtain ⟨r', hlater, hlast⟩ := ih (p ++ taken) between
    refine ⟨r', ?_, ?_⟩
    · rw [List.append_assoc, ← hlater]
      exact hfirst
    · rw [hlast, List.append_assoc]

end Cursor

private theorem eq_append_of_toList {source : String} {p r : List Char}
    (h : source.toList = p ++ r) : source = String.ofList p ++ String.ofList r := by
  rw [← String.ofList_append, ← h, String.ofList_toList]

private theorem slice_behind {source : String} {p r : List Char} (h : source.toList = p ++ r) :
    ∃ valid : String.Pos.Raw.IsValid source ⟨(Position.behind p).byteOffset⟩,
      (source.sliceFrom (source.pos _ valid)).copy = String.ofList r := by
  have hsource := eq_append_of_toList h
  have hvalid : (String.ofList p).rawEndPos.IsValid source :=
    String.Pos.Raw.isValid_iff_exists_append.2 ⟨_, _, hsource, rfl⟩
  have hsplits : (source.pos _ hvalid).Splits (String.ofList p) (String.ofList r) :=
    ⟨hsource, rfl⟩
  exact ⟨hvalid, hsplits.copy_sliceFrom_eq⟩

private theorem exists_place {source : String} {p r : List Char} (h : source.toList = p ++ r) :
    ∃ pos : source.Pos, pos.offset.byteIdx = (Position.behind p).byteOffset ∧
      (source.sliceFrom pos).copy = String.ofList r := by
  obtain ⟨hvalid, hslice⟩ := slice_behind h
  exact ⟨source.pos _ hvalid, rfl, hslice⟩

private theorem length_le_utf8ByteSize (text : List Char) :
    text.length ≤ (String.ofList text).utf8ByteSize := by
  induction text with
  | nil => exact Nat.zero_le _
  | cons c text ih =>
    have hsplit : String.ofList (c :: text) = String.singleton c ++ String.ofList text := by
      rw [String.singleton_eq_ofList, ← String.ofList_append]
      rfl
    have hpos := c.utf8Size_pos
    rw [hsplit, String.utf8ByteSize_append, String.utf8ByteSize_singleton, List.length_cons]
    omega

private theorem Position.behind_le {source : String} {p r : List Char}
    (h : source.toList = p ++ r) :
    (behind p).byteOffset ≤ source.utf8ByteSize ∧ (behind p).line ≤ source.utf8ByteSize + 1 ∧
      (behind p).column ≤ source.utf8ByteSize + 1 := by
  have hbytes : (String.ofList p).utf8ByteSize ≤ source.utf8ByteSize := by
    rw [eq_append_of_toList h, String.utf8ByteSize_append]
    exact Nat.le_add_right _ _
  have hlength := length_le_utf8ByteSize p
  have hlines : p.count '\n' ≤ p.length := List.count_le_length
  have hcolumns : (p.reverse.takeWhile (· != '\n')).length ≤ p.length := by
    have hle := (List.takeWhile_prefix (p := (· != '\n')) (l := p.reverse)).length_le
    rwa [List.length_reverse] at hle
  refine ⟨hbytes, ?_, ?_⟩
  · simp only [behind]
    omega
  · simp only [behind]
    omega

/-- After any row of calls a cursor stands between the characters that these were given and the rest
of the source, and answers accordingly. The place that its bytes count is one of the source, and its
counters stay within the size of the source. -/
theorem cursors_stand_in_source (filename source : String) (calls : List Cursor.Call) :
    ∃ p r, (Cursor.ofString filename source).given calls = p ∧ source.toList = p ++ r ∧
      ((Cursor.ofString filename source).afterCalls calls).StandsBetween filename p r ∧
      (∃ pos : source.Pos, pos.offset.byteIdx = (Position.behind p).byteOffset ∧
        (source.sliceFrom pos).copy = String.ofList r) ∧
      (Position.behind p).byteOffset ≤ source.utf8ByteSize ∧
      (Position.behind p).line ≤ source.utf8ByteSize + 1 ∧
      (Position.behind p).column ≤ source.utf8ByteSize + 1 := by
  obtain ⟨r, hsplit, hlast⟩ := Cursor.afterCalls_behind filename [] source.toList calls
  refine ⟨_, r, rfl, hsplit, ?_, exists_place hsplit, Position.behind_le hsplit⟩
  have hstart : Cursor.ofString filename source = ⟨filename, .behind [], source.toList⟩ := rfl
  rw [hstart, hlast]
  exact Cursor.standsBetween filename _ r

/-- Three characters of two, one and three bytes lead to a column of the second line. -/
example : ((Cursor.ofString "a.HC" "é\n中b").afterCalls [.peek, .next, .atEnd, .next, .next]) =
    ⟨"a.HC", ⟨2, 2, 6⟩, ['b']⟩ := by decide +kernel

namespace SliceReader

/-- The answer to a call and the reader after it, unless the call needs a slice that there is
not. -/
def call? (s : SliceReader) : Cursor.Call → Option (Cursor.Answer × SliceReader)
  | .peek => s.peek?.map fun c => (.char c, s)
  | .next => s.next?.map fun (c, after) => (.char c, after)
  | .atEnd => s.peek?.map fun c => (.atEnd c.isNone, s)
  | .line => some (.line s.position.line, s)
  | .rest => s.restText?.map fun text => (.rest text, s)
  | .report fault => some (.error ⟨fault, s.filename, s.position⟩, s)

/-- The answers to a row of calls, if all of them have one. -/
def answers? (s : SliceReader) : List Cursor.Call → Option (List Cursor.Answer)
  | [] => some []
  | c :: calls => do
    let (answer, after) ← s.call? c
    return answer :: (← after.answers? calls)

section InStep

variable (filename : String) {source : String} {p r : List Char}

private theorem restText?_behind (h : source.toList = p ++ r) :
    restText? ⟨filename, source, .behind p⟩ = some (String.ofList r) := by
  obtain ⟨hvalid, hslice⟩ := slice_behind h
  rw [restText?, dif_pos hvalid, hslice]

private theorem peek?_behind (h : source.toList = p ++ r) :
    peek? ⟨filename, source, .behind p⟩ = some r.head? := by
  rw [peek?, restText?_behind filename h, Option.map_some, String.toList_ofList]

theorem call?_behind (h : source.toList = p ++ r) (c : Cursor.Call) :
    ∃ p' r', source.toList = p' ++ r' ∧
      call? ⟨filename, source, .behind p⟩ c =
        some (((⟨filename, .behind p, r⟩ : Cursor).call c).1, ⟨filename, source, .behind p'⟩) ∧
      ((⟨filename, .behind p, r⟩ : Cursor).call c).2 = ⟨filename, .behind p', r'⟩ := by
  have hcursor := Cursor.standsBetween filename p r
  have hpeek := peek?_behind filename h
  cases c with
  | peek =>
    rw [call?, hpeek]
    exact ⟨p, r, h, rfl, rfl⟩
  | next =>
    cases r with
    | nil =>
      rw [call?, next?, hpeek]
      exact ⟨p, [], h, rfl, rfl⟩
    | cons c r =>
      rw [hcursor.next c r rfl, call?, next?, hpeek, Position.behind_append_singleton]
      refine ⟨p ++ [c], r, ?_, ?_, ?_⟩
      · rw [h, List.append_assoc, List.singleton_append]
      · rw [Position.behind_append_singleton]
        rfl
      · rw [Position.behind_append_singleton]
  | atEnd =>
    rw [call?, hpeek]
    exact ⟨p, r, h, rfl, rfl⟩
  | line => exact ⟨p, r, h, rfl, rfl⟩
  | rest =>
    rw [call?, restText?_behind filename h]
    exact ⟨p, r, h, rfl, rfl⟩
  | report fault => exact ⟨p, r, h, rfl, rfl⟩

private theorem answers?_behind (h : source.toList = p ++ r) (calls : List Cursor.Call) :
    answers? ⟨filename, source, .behind p⟩ calls =
      some ((⟨filename, .behind p, r⟩ : Cursor).answers calls) := by
  induction calls generalizing p r with
  | nil => rfl
  | cons c calls ih =>
    obtain ⟨p', r', hsplit, hcall, hafter⟩ := call?_behind filename h c
    rw [answers?, hcall, Cursor.answers, hafter]
    simp [ih hsplit]

end InStep

end SliceReader

/-- A reader that slices the source at its byte offset finds a slice at every call, and answers each
of them as the cursor does. -/
theorem slices_answer_as_cursor (filename source : String) (calls : List Cursor.Call) :
    (SliceReader.ofString filename source).answers? calls =
      some ((Cursor.ofString filename source).answers calls) :=
  SliceReader.answers?_behind filename (p := []) rfl calls

/-- From the middle of a character there is no slice. -/
example : SliceReader.restText? ⟨"a.HC", "é", ⟨1, 1, 1⟩⟩ = none := by decide +kernel

end PullLexer
