import PullLexer.Position
/-!
# Lexical errors

A fault is why a scan cannot go on; an error is a fault with the place where it was found.
-/

namespace PullLexer

inductive Fault
  | invalidChar (c : Char)
  | invalidNumber (text : String)
  | unterminatedString
deriving DecidableEq, Repr

def Fault.message : Fault → String
  | .invalidChar c => "Can't handle character: " ++ c.toString
  | .invalidNumber text => "Invalid number format '" ++ text ++ "'"
  | .unterminatedString => "Unterminated string literal"

structure LexError where
  fault : Fault
  filename : String
  position : Position
deriving DecidableEq, Repr

namespace LexError

def message (e : LexError) : String := e.fault.message

/-- The place in brackets, then the message. -/
def display (e : LexError) : String :=
  "[" ++ e.filename ++ ":" ++ toString e.position.line ++ ":" ++ toString e.position.column ++
    "] " ++ e.message

end LexError

end PullLexer
