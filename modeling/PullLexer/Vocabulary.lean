import PullLexer.Scan.Gap
/-!
# Words

A word is a run of identifier characters. As a whole it is a keyword, the name of a built-in
datatype, or an identifier. An identifier is delivered as a token, or shaped into a fragment after a
look past the gap behind it for an opening parenthesis.
-/

namespace PullLexer

namespace Vocabulary

def keywords : List String := ["if", "then", "else", "true", "false"]

def datatypes : List String :=
  ["U0", "U8", "U16", "U32", "U64", "I8", "I16", "I32", "I64", "F64"]

def isKeyword (word : String) : Bool := keywords.contains word

def isDatatype (word : String) : Bool := datatypes.contains word

theorem not_isDatatype_of_isKeyword {word : String} (h : isKeyword word = true) :
    isDatatype word = false := by
  simp only [isKeyword, keywords, List.contains_eq_mem, decide_eq_true_eq, List.mem_cons,
    List.not_mem_nil, or_false] at h
  rcases h with rfl | rfl | rfl | rfl | rfl <;> decide

end Vocabulary

open Source

variable {σ : Type} [Source σ]

namespace Reading

/-- Reads a word that starts with the next character. -/
def word (mode : IdentifierMode) (input : σ) : Reading Lexeme σ :=
  let run := Run.takeWhile CharClass.id.holds input
  let text := String.ofList run.text
  if Vocabulary.isKeyword text then ⟨.ok (.token (.keyword text)), run.rest, []⟩
  else if Vocabulary.isDatatype text then ⟨.ok (.token (.datatype text)), run.rest, []⟩
  else match mode with
    | .plain => ⟨.ok (.token (.ident text (coord input))), run.rest, []⟩
    | .fragments =>
      let (isCall, ahead) := Gap.callAhead run.rest
      ⟨.ok (.fragment (.ofIdentifier text (coord input) isCall)), ahead,
        [.shaped text (coord input) isCall]⟩

private theorem remaining_word_le (mode : IdentifierMode) (input : σ) :
    remaining (word mode input).rest ≤
      remaining (Run.takeWhile CharClass.id.holds input).rest := by
  unfold word
  dsimp only
  split
  · exact Nat.le_refl _
  split
  · exact Nat.le_refl _
  cases mode
  · exact Gap.remaining_skip_le _
  · exact Nat.le_refl _

theorem remaining_word_lt {input : σ} {c : Char} (mode : IdentifierMode)
    (shown : peek input = some c) (start : CharClass.idStart.holds c = true) :
    remaining (word mode input).rest < remaining input := by
  refine Nat.lt_of_le_of_lt (remaining_word_le mode input) (Run.remaining_takeWhile_lt shown ?_)
  simp only [CharClass.holds] at start ⊢
  rw [start, Bool.true_or]

end Reading

end PullLexer
