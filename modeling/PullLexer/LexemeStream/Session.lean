import PullLexer.LexemeStream
import PullLexer.Source.Cursor
/-!
# Sessions

Iterating a stream to its end gives the lexemes up to the end of the source or up to the first
error. A whole text is scanned by draining a stream over it.

A stream serves requests one after the other, also after errors. A session keeps for each request
its answer, the stream after it and the events on the way; its log is the opening of the stream
followed by the events of all requests.
-/

namespace PullLexer

structure Drained (σ : Type) where
  lexemes : List Lexeme
  failure : Option LexError
  stream : LexemeStream σ
  events : List Event

namespace LexemeStream

variable {σ : Type} [Source σ]

/-- Drains a stream after `lexemes` and `events`, which are listed with the last one first. -/
def drainAfter (lexemes : List Lexeme) (events : List Event) (s : LexemeStream σ) : Drained σ :=
  match _delivered : s.iterate.answer with
  | .ok (some lexeme) =>
    drainAfter (lexeme :: lexemes) (s.iterate.events.reverse ++ events) s.iterate.stream
  | .ok none =>
    ⟨lexemes.reverse, none, s.iterate.stream, events.reverse ++ s.iterate.events⟩
  | .error e =>
    ⟨lexemes.reverse, some e, s.iterate.stream, events.reverse ++ s.iterate.events⟩
termination_by s.weight
decreasing_by exact weight_iterate_lt _delivered

def drain (s : LexemeStream σ) : Drained σ := s.drainAfter [] []

end LexemeStream

/-- The lexemes of a text, or the first error in it. -/
def scanText (config : Config) (filename source : String) : Except LexError (List Lexeme) :=
  let drained := (LexemeStream.ofSource (Cursor.ofString filename source) config).drain
  match drained.failure with
  | none => .ok drained.lexemes
  | some e => .error e

/-- The requests that read from a stream. -/
inductive Pull
  | peek
  | next
  | eof
  | iterate
deriving DecidableEq, Repr

/-- The answer to a pull: a lexeme, none or an error; or whether the end is reached, or an error. -/
inductive PullAnswer
  | lexeme (result : Except LexError (Option Lexeme))
  | atEnd (result : Except LexError Bool)

inductive Request
  | pull (p : Pull)
  | drain
  | report (fault : Fault)
  | config
deriving DecidableEq, Repr

inductive Answer
  | pulled (answer : PullAnswer)
  | drained (lexemes : List Lexeme) (failure : Option LexError)
  | reported (error : LexError)
  | config (config : Config)

namespace LexemeStream

variable {σ : Type} [Source σ]

def pull (s : LexemeStream σ) : Pull → Reply PullAnswer σ
  | .peek => ⟨.lexeme s.peek.answer, s.peek.stream, s.peek.events⟩
  | .next => ⟨.lexeme s.next.answer, s.next.stream, s.next.events⟩
  | .eof => ⟨.atEnd s.eof.answer, s.eof.stream, s.eof.events⟩
  | .iterate => ⟨.lexeme s.iterate.answer, s.iterate.stream, s.iterate.events⟩

def serve (s : LexemeStream σ) : Request → Reply Answer σ
  | .pull p =>
    let reply := s.pull p
    ⟨.pulled reply.answer, reply.stream, reply.events⟩
  | .drain =>
    let drained := s.drain
    ⟨.drained drained.lexemes drained.failure, drained.stream, drained.events⟩
  | .report fault => ⟨.reported (s.report fault), s, []⟩
  | .config => ⟨.config s.config, s, []⟩

/-- The replies to requests made one after the other. -/
def replies {ρ α : Type} (answer : LexemeStream σ → ρ → Reply α σ) (s : LexemeStream σ) :
    List ρ → List (Reply α σ)
  | [] => []
  | r :: requests => answer s r :: replies answer (answer s r).stream requests

/-- The replies to a row of pulls. -/
def pulls (s : LexemeStream σ) : List Pull → List (Reply PullAnswer σ) := s.replies pull

/-- The replies to a row of requests. -/
def session (s : LexemeStream σ) : List Request → List (Reply Answer σ) := s.replies serve

end LexemeStream

/-- The events of a stream that was opened with a configuration and gave these replies. -/
def logOf {α σ : Type} (config : Config) (replies : List (Reply α σ)) : List Event :=
  .opened config :: replies.flatMap Reply.events

end PullLexer
