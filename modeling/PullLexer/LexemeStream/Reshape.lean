import PullLexer.LexemeStream
/-!
# Reshaping identifiers

A reader of identifier tokens can shape them itself: after each it looks at the next lexeme for an
opening parenthesis.
-/

namespace PullLexer.LexemeStream

variable {σ : Type} [Source σ]

/-- Whether a lexeme that was shown is an opening parenthesis. -/
def isOpening (shown : Option Lexeme) : Bool := shown.any (·.isPunc "(")

/-- The coordinates of an identifier token. -/
def identifier? : Lexeme → Option (String × Coord)
  | .token (.ident name coord) => some (name, coord)
  | _ => none

/-- Shapes the identifiers of a stream after `fragments`, which are listed with the last one
first. -/
def reshapeAfter (fragments : List Fragment) (s : LexemeStream σ) :
    Except LexError (List Fragment) :=
  match _delivered : s.next.answer with
  | .error e => .error e
  | .ok none => .ok fragments.reverse
  | .ok (some lexeme) =>
    match identifier? lexeme with
    | none => reshapeAfter fragments s.next.stream
    | some (name, coord) =>
      match s.next.stream.peek.answer with
      | .error e => .error e
      | .ok shown =>
        let fragment := Fragment.ofIdentifier name coord (isOpening shown)
        reshapeAfter (fragment :: fragments) s.next.stream.peek.stream
termination_by s.weight
decreasing_by
  · exact weight_next_lt _delivered
  · exact Nat.lt_of_le_of_lt (weight_peek_le _) (weight_next_lt _delivered)

/-- The fragments of the identifiers that a stream still delivers, or the first error. -/
def reshape (s : LexemeStream σ) : Except LexError (List Fragment) := s.reshapeAfter []

end PullLexer.LexemeStream
