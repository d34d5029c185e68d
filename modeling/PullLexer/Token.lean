import PullLexer.Fragment
import PullLexer.Numeric.Decimal
import PullLexer.Numeric.Layout
import PullLexer.Text.Printable
/-!
# Tokens and lexemes

A token is a classified piece of a source. A number is a signed word of 64 bits if it is written as
a whole number that fits one, and a floating-point value otherwise. A lexeme is what a scan gives: a
token, or the syntax fragment that an identifier stands for.
-/

namespace PullLexer

inductive Number
  | int (n : Int64)
  | float (x : Binary64)
deriving DecidableEq, Repr

namespace Number

/-- The number that `text` denotes; a literal with a decimal point is never a whole number. -/
def read? (hasPoint : Bool) (text : List Char) : Option Number :=
  match if hasPoint then none else Numeral.readInt64? text with
  | some n => some (.int n)
  | none => (Binary64.read? text).map .float

def text : Number → String
  | .int n => toString n.toInt
  | .float x => FloatLayout.plainExponents.render x

def toJson : Number → Json
  | .int n => .int n.toInt
  | .float x => .ofBinary64 x

end Number

inductive Token
  | num (n : Number)
  | str (text : String)
  | keyword (text : String)
  | datatype (text : String)
  | op (text : String)
  | punc (text : String)
  | ident (name : String) (coord : Coord)
deriving DecidableEq, Repr

namespace Token

def kindName : Token → String
  | num _ => "num"
  | str _ => "str"
  | keyword _ => "kw"
  | datatype _ => "datatype"
  | op _ => "op"
  | punc _ => "punc"
  | ident _ _ => "ident"

/-- The text of a token; a number has none. -/
def text? : Token → Option String
  | num _ => none
  | str text | keyword text | datatype text | op text | punc text | ident text _ => some text

def isPunc (t : Token) (text : String) : Bool :=
  match t with
  | punc p => p == text
  | _ => false

/-- The kind of a token with its value in parentheses; string literals are shown quoted. -/
def display (t : Token) : String :=
  let value := match t with
    | num n => n.text
    | str text => Text.quoteText text
    | t => t.text?.getD ""
  t.kindName ++ "(" ++ value ++ ")"

/-- The value of a token in JSON: a number, or the text. -/
def jsonValue : Token → Json
  | num n => n.toJson
  | t => .ofOption .str t.text?

def toJson (t : Token) : Json :=
  .obj (("type", .str t.kindName) :: ("value", t.jsonValue) ::
    match t with
    | ident _ coord => [("coord", .str coord.text)]
    | _ => [])

end Token

inductive Lexeme
  | token (t : Token)
  | fragment (f : Fragment)
deriving DecidableEq, Repr

namespace Lexeme

def token? : Lexeme → Option Token
  | token t => some t
  | fragment _ => none

def fragment? : Lexeme → Option Fragment
  | token _ => none
  | fragment f => some f

def isPunc (l : Lexeme) (text : String) : Bool :=
  l.token?.any (·.isPunc text)

def toJson : Lexeme → Json
  | token t => t.toJson
  | fragment f => f.toJson

end Lexeme

end PullLexer
