import Mathlib.Data.String.Basic
import PullLexer.Proofs.Faults
import PullLexer.Proofs.InStep
/-!
# Locality

A scan sees no more of a text than what it has taken and the one character after that. Two texts
that agree so far are in step as long as the scan of the first has not gone further, so that
nothing that was delivered depends on text which is still to come.
-/

namespace PullLexer

/-- The cursor has come from the start of the text to where it stands. -/
def Cursor.CameThrough (text : List Char) (s : Cursor) : Prop :=
  ∃ taken, text = taken ++ s.rest ∧ s.position = Position.start.after taken

theorem Cursor.cameThrough_kept (text : List Char) :
    Source.Keeps (CameThrough text) (CameThrough text) := by
  apply Source.Keeps.of_next
  rintro ⟨filename, p, rest⟩ ⟨taken, htext, hposition⟩
  cases rest with
  | nil => exact ⟨taken, htext, hposition⟩
  | cons c rest =>
    have htaken : text = (taken ++ [c]) ++ rest := by simpa using htext
    refine ⟨taken ++ [c], htaken, ?_⟩
    rw [Position.after_append, ← hposition]
    rfl

/-- The two cursors have the same text left up to the ends `r` and `r'` of their texts. -/
inductive Cursor.Beside (r r' : List Char) : Cursor → Cursor → Prop
  | mk (filename : String) (p : Position) (common : List Char) :
      Beside r r' ⟨filename, p, common ++ r⟩ ⟨filename, p, common ++ r'⟩

private theorem Cursor.Beside.position {r r' : List Char} {s s' : Cursor} (h : Beside r r' s s') :
    s'.position = s.position := by
  cases h with
  | mk filename p common => rfl

theorem Cursor.inStep {r r' : List Char} (hhead : r'.head? = r.head?) :
    Source.InStep (Beside r r') Eq (fun s => s.rest.length < r.length) where
  peek := by
    intro _ _ h
    cases h with
    | mk filename p common => cases common <;> simp [peek_eq, hhead]
  given := by
    intro _ _ h
    cases h with
    | mk filename p common => cases common <;> simp [next_eq, hhead]
  next := by
    intro _ _ h
    cases h with
    | mk filename p common =>
      cases common with
      | cons c common => exact .inr (.mk filename (p.afterChar c) common)
      | nil =>
        -- Only the end of both texts can be taken for ever.
        cases r with
        | cons c r => exact .inl (Nat.lt_succ_self _)
        | nil =>
          obtain rfl : r' = [] := by simpa using hhead
          exact .inr (.mk filename p [])
  coord := by
    intro _ _ h _
    cases h with
    | mk filename p common => rfl
  report := by
    intro _ _ h fault
    cases h with
    | mk filename p common => rfl
  past := by
    apply Source.Keeps.of_next
    intro s h
    exact Nat.lt_of_le_of_lt (Source.remaining_next_le s) h

private theorem exists_rest_of_bytes {source source' : String} {p r : List Char}
    (hsource : source.toList = p ++ r)
    (hbytes : source'.toByteArray.extract 0 (String.ofList p).utf8ByteSize =
      source.toByteArray.extract 0 (String.ofList p).utf8ByteSize)
    (hnext : String.Pos.Raw.get? source' ⟨(String.ofList p).utf8ByteSize⟩ =
      String.Pos.Raw.get? source ⟨(String.ofList p).utf8ByteSize⟩) :
    ∃ r', source'.toList = p ++ r' ∧ r'.head? = r.head? := by
  have hsize : (String.ofList p).utf8ByteSize = p.utf8Encode.size := by
    rw [← String.size_toByteArray, String.toByteArray_ofList]
  have hencode : source.toByteArray = p.utf8Encode ++ r.utf8Encode := by
    rw [← String.utf8Encode_toList, hsource, List.utf8Encode_append]
  have hfirst : source'.toByteArray.extract 0 p.utf8Encode.size = p.utf8Encode := by
    rw [← hsize, hbytes, hencode, hsize]
    exact ByteArray.extract_append_eq_left rfl
  have hsplit : p.utf8Encode ++
      source'.toByteArray.extract p.utf8Encode.size source'.toByteArray.size =
        source'.toList.utf8Encode := by
    have hwhole (n : Nat) : source'.toByteArray.extract 0 n ++
        source'.toByteArray.extract n source'.toByteArray.size = source'.toByteArray := by
      rw [ByteArray.extract_append_extract, Nat.zero_min]
      exact ByteArray.extract_zero_max_size
    have hparts := hwhole p.utf8Encode.size
    rw [hfirst] at hparts
    rw [String.utf8Encode_toList]
    exact hparts
  -- Bytes that begin as an encoding does encode a text that begins so too.
  obtain ⟨r', hr'⟩ := List.isPrefix_of_utf8Encode_append_eq_utf8Encode _ hsplit
  refine ⟨r', hr'.symm, ?_⟩
  have hget (s : String) (u : List Char) (hs : s.toList = p ++ u) :
      String.Pos.Raw.get? s ⟨(String.ofList p).utf8ByteSize⟩ = u.head? := by
    have hvalid := String.get?_of_valid p u
    rwa [← hs, String.ofList_toList, ← String.utf8ByteSize_ofList] at hvalid
  rwa [hget source' r' hr'.symm, hget source r hsource] at hnext

/-- What a row of pulls gives depends on the bytes up to the offset that the input has reached and
on the character there, if the text does not end: any other text that agrees in these answers the
same pulls alike and leaves its input at the same position. -/
theorem pulls_depend_on_reached (config : Config) (filename source source' : String)
    (calls : List Pull) (b : Nat)
    (hreached :
      ((LexemeStream.ofText config filename source).after calls).input.position.byteOffset = b)
    (hbytes : source'.toByteArray.extract 0 b = source.toByteArray.extract 0 b)
    (hnext : String.Pos.Raw.get? source' ⟨b⟩ = String.Pos.Raw.get? source ⟨b⟩) :
    (LexemeStream.ofText config filename source').answers calls =
        (LexemeStream.ofText config filename source).answers calls ∧
      ((LexemeStream.ofText config filename source').after calls).input.position =
        ((LexemeStream.ofText config filename source).after calls).input.position := by
  obtain ⟨taken, hsource, hposition⟩ := LexemeStream.after_keeps
    (Cursor.cameThrough_kept source.toList)
    (s := LexemeStream.ofText config filename source) ⟨[], rfl, rfl⟩ calls
  rw [hposition, Position.start_after] at hreached
  subst hreached
  obtain ⟨r', hsource', hhead⟩ := exists_rest_of_bytes hsource hbytes hnext
  generalize hr : ((LexemeStream.ofText config filename source).after calls).input.rest = r
    at hsource hhead
  have hstart : LexemeStream.Alike (Cursor.Beside r r')
      (LexemeStream.ofText config filename source)
      (LexemeStream.ofText config filename source') := by
    have hbeside : Cursor.Beside r r' ⟨filename, .start, taken ++ r⟩
        ⟨filename, .start, taken ++ r'⟩ := .mk filename .start taken
    rw [← hsource, ← hsource'] at hbeside
    exact ⟨hbeside, rfl, rfl, rfl⟩
  have hend : ¬ ((LexemeStream.ofText config filename source).after calls).input.rest.length <
      r.length := by
    rw [hr]
    exact Nat.lt_irrefl _
  obtain ⟨hreplies, hlast⟩ := LexemeStream.pulls_inStep (Cursor.inStep hhead) hstart calls hend
  exact ⟨LexemeStream.answers_eq_of_alike hreplies, hlast.input.position⟩

/-- The reads of an identifier and of the parenthesis behind a comment do not tell what an open
string literal has in store. -/
theorem pulls_depend_on_reached_before_open_string :
    let source := "é # c\n(\x22"
    let source' := "é # c\n(\x22b\x22 @"
    let calls : List Pull := [.next, .peek]
    ((LexemeStream.ofText ⟨.fragments, true⟩ "a.HC" source).after
        calls).input.position.byteOffset = 8 ∧
      source'.toByteArray.extract 0 8 = source.toByteArray.extract 0 8 ∧
      String.Pos.Raw.get? source' ⟨8⟩ = String.Pos.Raw.get? source ⟨8⟩ ∧
      (LexemeStream.ofText ⟨.fragments, true⟩ "a.HC" source').answers calls =
        (LexemeStream.ofText ⟨.fragments, true⟩ "a.HC" source).answers calls ∧
      ((LexemeStream.ofText ⟨.fragments, true⟩ "a.HC" source').after calls).input.position =
        ((LexemeStream.ofText ⟨.fragments, true⟩ "a.HC" source).after calls).input.position := by
  intro source source' calls
  have hreached : ((LexemeStream.ofText ⟨.fragments, true⟩ "a.HC" source).after
      calls).input.position.byteOffset = 8 := by decide +kernel
  have hbytes : source'.toByteArray.extract 0 8 = source.toByteArray.extract 0 8 := by
    decide +kernel
  have hnext : String.Pos.Raw.get? source' ⟨8⟩ = String.Pos.Raw.get? source ⟨8⟩ := by
    decide +kernel
  exact ⟨hreached, hbytes, hnext, pulls_depend_on_reached ⟨.fragments, true⟩ "a.HC" source source'
    calls 8 hreached hbytes hnext⟩

end PullLexer
