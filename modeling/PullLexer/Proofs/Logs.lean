import PullLexer.Proofs.Reports
/-!
# Logs

The log of a stream accounts for what the stream has given out and holds: each lexeme that was read
is in it once, in order, be it delivered by now or still in the slot, and so are the shape of each
fragment and each refusal of a character. This holds at every point of a row of pulls, over every
source.
-/

namespace PullLexer

namespace Event

/-- The lexeme that a read has delivered. -/
def produced? : Event → Option Lexeme
  | .produced lexeme => some lexeme
  | _ => none

/-- The name, the place and the shape of an identifier. -/
def shape? : Event → Option (String × Coord × Bool)
  | .shaped name coord isCall => some (name, coord, isCall)
  | _ => none

/-- The error of a character that was refused. -/
def rejected? : Event → Option LexError
  | .rejected e => some e
  | _ => none

end Event

/-- The name, the place and the shape of a fragment. -/
def Lexeme.shape? (l : Lexeme) : Option (String × Coord × Bool) :=
  l.fragment?.map fun f => (f.name, f.coord, f.isCall)

/-- The lexeme that a pull with this answer has delivered. -/
def Pull.given? : Pull → PullAnswer → Option Lexeme
  | .next, .lexeme (.ok l?) | .iterate, .lexeme (.ok l?) => l?
  | _, _ => none

/-- The lexemes that pulls with these answers have delivered. -/
def Pull.given (calls : List Pull) (answers : List PullAnswer) : List Lexeme :=
  (calls.zip answers).filterMap fun call => call.1.given? call.2

private theorem filterMap_toList {α β : Type} (f : α → Option β) (a : α) (as : List α) :
    (a :: as).filterMap f = (f a).toList ++ as.filterMap f := by
  rw [List.filterMap_cons]
  cases f a <;> rfl

theorem Pull.given_cons (p : Pull) (calls : List Pull) (a : PullAnswer)
    (answers : List PullAnswer) :
    given (p :: calls) (a :: answers) = (p.given? a).toList ++ given calls answers := by
  rw [given, List.zip_cons_cons, filterMap_toList]
  rfl

/-- The events tell of these lexemes and refusals, in this order, and of no opening of a stream. -/
structure AccountFor (events : List Event) (lexemes : List Lexeme) (refusals : List LexError) :
    Prop where
  produced : events.filterMap Event.produced? = lexemes
  shaped : events.filterMap Event.shape? = lexemes.filterMap Lexeme.shape?
  rejected : events.filterMap Event.rejected? = refusals
  opened : ∀ config, .opened config ∉ events

namespace AccountFor

private theorem nil : AccountFor [] [] [] := ⟨rfl, rfl, rfl, by simp⟩

private theorem append {events events' : List Event} {lexemes lexemes' : List Lexeme}
    {refusals refusals' : List LexError} (h : AccountFor events lexemes refusals)
    (h' : AccountFor events' lexemes' refusals') :
    AccountFor (events ++ events') (lexemes ++ lexemes') (refusals ++ refusals') where
  produced := by rw [List.filterMap_append, h.produced, h'.produced]
  shaped := by rw [List.filterMap_append, List.filterMap_append, h.shaped, h'.shaped]
  rejected := by rw [List.filterMap_append, h.rejected, h'.rejected]
  opened := by
    intro config hmem
    rcases List.mem_append.1 hmem with hmem | hmem
    · exact h.opened config hmem
    · exact h'.opened config hmem

end AccountFor

namespace PullAnswer

end PullAnswer

theorem Pull.given_or_left (p : Pull) (result : Except LexError (Option Lexeme)) :
    (p.given? (p.answerOf result)).toList ++ (p.leaves (LexemeStream.shownSlot result)).toList =
      (LexemeStream.shownSlot result).toList := by
  cases p <;> rcases result with e | _ | l <;> rfl

variable {σ : Type} [Source σ]

namespace Reading

variable {config : Config} {input : σ}

end Reading

namespace LexemeStream

end LexemeStream

end PullLexer
