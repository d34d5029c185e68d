import Mathlib.Data.List.Forall2
import PullLexer.Proofs.Deliveries
import PullLexer.Proofs.InStep
import PullLexer.Source.Script
/-!
# Scripted texts

A text can be given as a script, one cell for each character, shown and handed out as it is on the
line where it stands. A scan of the script and a scan of the text in memory take the same characters
and find the same: past the last cell the lines differ, but no coordinate is taken there.
-/

namespace PullLexer

/-- The cells of a text that starts at the position `p`. -/
def Script.cellsOf (p : Position) : List Char → List Cell
  | [] => []
  | c :: text => ⟨some c, some c, p.line⟩ :: cellsOf (p.afterChar c) text

/-- A script at the start of a text. -/
def Script.ofText (filename source : String) : Script :=
  ofCells filename (cellsOf .start source.toList)

/-- The script and the cursor have taken the same of the text and have the same left of it. -/
inductive Script.Follows (text : List Char) : Script → Cursor → Prop
  | mk {filename : String} {p : Position} {taken rest : List Char} : text = taken ++ rest →
      Follows text ⟨filename, taken.length, cellsOf p rest⟩ ⟨filename, p, rest⟩

private theorem Script.Follows.exists_taken {text : List Char} {script : Script} {cursor : Cursor}
    (h : Follows text script cursor) :
    ∃ taken, text = taken ++ cursor.rest ∧ script.index = taken.length := by
  cases h with
  | mk htext => exact ⟨_, htext, rfl⟩

/-- The same fault with the same message in the same file, wherever it was found. -/
structure LexError.SameCause (e e' : LexError) : Prop where
  fault : e'.fault = e.fault
  filename : e'.filename = e.filename
  message : e'.message = e.message

theorem Script.inStep (text : List Char) :
    Source.InStep (Follows text) LexError.SameCause (fun _ => False) where
  peek := by
    intro _ _ h
    cases h with
    | @mk _ _ _ rest _ => cases rest <;> rfl
  given := by
    intro _ _ h
    cases h with
    | @mk _ _ _ rest _ => cases rest <;> rfl
  next := by
    intro _ _ h
    right
    cases h with
    | @mk filename p taken rest htext =>
      cases rest with
      | nil => exact .mk htext
      | cons c rest =>
        have htaken : text = (taken ++ [c]) ++ rest := by simpa using htext
        have hfollows : Follows text ⟨filename, (taken ++ [c]).length, cellsOf (p.afterChar c) rest⟩
            ⟨filename, p.afterChar c, rest⟩ := .mk htaken
        rwa [List.length_append, List.length_singleton] at hfollows
  coord := by
    intro _ _ h hshown
    cases h with
    | @mk _ _ _ rest _ =>
      cases rest with
      | nil => exact absurd rfl hshown
      | cons c rest => rfl
  report := by
    intro _ _ h fault
    cases h with
    | mk _ => exact ⟨rfl, rfl, rfl⟩
  past := .of_next fun _ h => h

/-- Pulls in any order are answered alike over a text in memory and over the script of the text, and
after each of them as many characters have been taken from the one as from the other. Where an error
stands is for each source to say. -/
theorem script_pulled_as_text (config : Config) (filename source : String) (calls : List Pull) :
    List.Forall₂
      (fun (scripted : Reply PullAnswer Script) (inMemory : Reply PullAnswer Cursor) =>
        PullAnswer.SameUpTo LexError.SameCause scripted.answer inMemory.answer ∧
          ∃ taken, source.toList = taken ++ inMemory.stream.input.rest ∧
            scripted.stream.input.index = taken.length)
      ((LexemeStream.ofSource (Script.ofText filename source) config).pulls calls)
      ((LexemeStream.ofText config filename source).pulls calls) := by
  have htext : source.toList = [] ++ source.toList := rfl
  have hstart : LexemeStream.Alike (Script.Follows source.toList)
      (LexemeStream.ofSource (Script.ofText filename source) config)
      (LexemeStream.ofText config filename source) := ⟨.mk htext, rfl, rfl, rfl⟩
  obtain ⟨hreplies, -⟩ := LexemeStream.pulls_inStep (Script.inStep source.toList) hstart calls id
  refine hreplies.imp ?_
  intro scripted inMemory h
  exact ⟨h.answer, h.stream.input.exists_taken⟩

end PullLexer
