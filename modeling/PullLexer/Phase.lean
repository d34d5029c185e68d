import PullLexer.Config
import PullLexer.Error
import PullLexer.Token
/-!
# Phases and their events

The phases of a compiler's front end log under a name each. What the first of them, a scan, reports
while it runs are events. Reads return them as data, in the order in which they arise.
-/

namespace PullLexer

inductive Phase
  | lexer
  | parser
deriving DecidableEq, Repr

namespace Phase

def name : Phase → String
  | lexer => "lexer"
  | parser => "parser"

def target (p : Phase) : String := "secularize::" ++ p.name

end Phase

/-- The target of every event that a scan logs. -/
def logTarget : String := "secularize::lexer"

example : logTarget = Phase.lexer.target := by decide

inductive Level
  | trace
  | debug
  | warn
deriving DecidableEq, Repr

def Level.name : Level → String
  | .trace => "trace"
  | .debug => "debug"
  | .warn => "warn"

inductive Event
  /-- A stream was opened. -/
  | opened (config : Config)
  /-- A read found the end of the source. -/
  | reachedEnd
  /-- A comment or a lexeme starts here. -/
  | scanning (shown : Char) (line : Nat)
  /-- An identifier was shaped into a fragment. -/
  | shaped (name : String) (coord : Coord) (isCall : Bool)
  /-- A string literal was still open at the end of the source, and what it held was kept. -/
  | keptPartialString (line : Nat)
  /-- No lexeme starts with the character found. -/
  | rejected (error : LexError)
  /-- The text of a number denotes none. -/
  | malformedNumber (text : String)
  /-- A read delivers a lexeme. -/
  | produced (lexeme : Lexeme)
deriving DecidableEq, Repr

namespace Event

def level : Event → Level
  | opened _ | reachedEnd | scanning _ _ => .trace
  | shaped _ _ _ | produced _ => .debug
  | keptPartialString _ | rejected _ | malformedNumber _ => .warn

def message : Event → String
  | opened _ => "Creating new TokenStream"
  | reachedEnd => "Reached EOF"
  | scanning _ _ => "Scanning next token"
  | shaped _ _ _ => "Shaping identifier"
  | keptPartialString _ => "Unterminated string literal, keeping partial content"
  | rejected _ => "Lex error encountered"
  | malformedNumber _ => "Float parse failed"
  | produced _ => "Produced lexeme"

def configText (config : Config) : String :=
  let mode := match config.identifierMode with
    | .fragments => "Fragments"
    | .plain => "Plain"
  "LexerConfig \x7b identifier_mode: " ++ mode ++ ", strict_strings: " ++
    toString config.strictStrings ++ " \x7d"

def malformedReason (text : String) : String :=
  if text.isEmpty then "cannot parse float from empty string" else "invalid float literal"

/-- The fields of an event by name. The lexeme that a read delivers is not among them. -/
def fields : Event → List (String × Json)
  | opened config => [("config", .str (configText config))]
  | reachedEnd => []
  | scanning shown line => [("line", .int line), ("c", .str (Text.quoteChar shown))]
  | shaped name coord isCall =>
    [("id", .str name), ("coord", .str coord.text), ("is_call", .bool isCall)]
  | keptPartialString line => [("line", .int line)]
  | rejected error => [("error", .str error.display)]
  | malformedNumber text => [("number", .str text), ("error", .str (malformedReason text))]
  | produced _ => []

end Event

end PullLexer
