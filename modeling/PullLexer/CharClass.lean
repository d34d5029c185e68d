import PullLexer.Text.Alphabetic
/-!
# Character classes

The six classes that decide how a scan goes on. They overlap: digits and some operator characters
also continue an identifier. A missing character belongs to no class.
-/

namespace PullLexer

inductive CharClass
  | digit
  | idStart
  | id
  | op
  | punc
  | blank
deriving DecidableEq, Repr

namespace CharClass

/-- The classes in the order in which they are listed. -/
def all : List CharClass := [digit, idStart, id, op, punc, blank]

def name : CharClass → String
  | digit => "digit"
  | idStart => "id_start"
  | id => "id"
  | op => "op"
  | punc => "punc"
  | blank => "ws"

/-- The characters besides the alphabetic ones that continue an identifier. -/
def idExtras : List Char := "?!-<>=0123456789".toList

def operators : List Char := "+-*/%=&|<>!".toList

def punctuation : List Char := ",;()\x7b\x7d[]".toList

/-- The underscore separates words, as a space does; the carriage return is no blank. -/
def blanks : List Char := [' ', '\t', '_', '\n']

/-- Whether `c` belongs to the class. -/
def holds : CharClass → Char → Bool
  | digit, c => c.isDigit
  | idStart, c => Text.isAlphabetic c
  | id, c => Text.isAlphabetic c || idExtras.contains c
  | op, c => operators.contains c
  | punc, c => punctuation.contains c
  | blank, c => blanks.contains c

/-- The classes of a character that may be missing. -/
def ofChar? (c : Option Char) : List CharClass :=
  all.filter fun k => c.any k.holds

/-- The maximal runs of code points in `first, …, last` that belong to the class. -/
def runs (k : CharClass) (first last : Nat) : List (Nat × Nat) :=
  Text.runs k.holds first last

end CharClass

end PullLexer
