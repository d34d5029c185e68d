import PullLexer.Json
import PullLexer.Position
/-!
# Syntax fragments

An identifier gives a fragment of a syntax tree: a call if an opening parenthesis follows it, and
a declaration otherwise. What the identifier alone does not tell, such as the type or the
arguments, is left empty or holds a placeholder.
-/

namespace PullLexer

structure Id where
  name : String
  coord : Coord
deriving DecidableEq, Repr

inductive ConstantKind
  | string
  | int
deriving DecidableEq, Repr

def ConstantKind.name : ConstantKind → String
  | .string => "string"
  | .int => "int"

/-- A literal as it would be written, or one that is not known yet. -/
structure Constant where
  kind : ConstantKind
  value : Option String
  coord : Coord
deriving DecidableEq, Repr

structure ExprList where
  exprs : List Constant
  coord : Coord
deriving DecidableEq, Repr

structure FuncCall where
  callee : Id
  args : ExprList
  coord : Coord
deriving DecidableEq, Repr

structure IdentifierType where
  names : List String
  coord : Coord
deriving DecidableEq, Repr

structure TypeDecl where
  declname : String
  quals : List String
  type : IdentifierType
  coord : Coord
deriving DecidableEq, Repr

structure Decl where
  name : String
  quals : List String
  storage : List String
  funcspec : List String
  type : TypeDecl
  init : Constant
  bitsize : Option Constant
  coord : Coord
deriving DecidableEq, Repr

inductive Fragment
  | call (call : FuncCall)
  | decl (decl : Decl)
deriving DecidableEq, Repr

/-- A call whose arguments are one empty string literal. -/
def FuncCall.ofName (name : String) (coord : Coord) : FuncCall where
  callee := ⟨name, coord⟩
  args := ⟨[⟨.string, some "\x22\x22", coord⟩], coord⟩
  coord := coord

/-- A declaration of unknown type and initial value. -/
def Decl.ofName (name : String) (coord : Coord) : Decl where
  name := name
  quals := []
  storage := []
  funcspec := []
  type := ⟨name, [], ⟨[], coord⟩, coord⟩
  init := ⟨.int, none, coord⟩
  bitsize := none
  coord := coord

def Id.toJson (i : Id) : Json :=
  .obj [("_nodetype", .str "ID"), ("name", .str i.name), ("coord", .str i.coord.text)]

def Constant.toJson (c : Constant) : Json :=
  .obj [("_nodetype", .str "Constant"), ("type", .str c.kind.name),
    ("value", .ofOption .str c.value), ("coord", .str c.coord.text)]

def ExprList.toJson (l : ExprList) : Json :=
  .obj [("_nodetype", .str "ExprList"), ("coord", .str l.coord.text),
    ("exprs", .arr (l.exprs.map Constant.toJson))]

def FuncCall.toJson (c : FuncCall) : Json :=
  .obj [("_nodetype", .str "FuncCall"), ("coord", .str c.coord.text), ("name", c.callee.toJson),
    ("args", c.args.toJson)]

def IdentifierType.toJson (t : IdentifierType) : Json :=
  .obj [("_nodetype", .str "IdentifierType"), ("names", .ofStrings t.names),
    ("coord", .str t.coord.text)]

def TypeDecl.toJson (t : TypeDecl) : Json :=
  .obj [("_nodetype", .str "TypeDecl"), ("declname", .str t.declname),
    ("quals", .ofStrings t.quals), ("coord", .str t.coord.text), ("type", t.type.toJson)]

def Decl.toJson (d : Decl) : Json :=
  .obj [("_nodetype", .str "Decl"), ("name", .str d.name), ("quals", .ofStrings d.quals),
    ("storage", .ofStrings d.storage), ("funcspec", .ofStrings d.funcspec),
    ("coord", .str d.coord.text), ("type", d.type.toJson), ("init", d.init.toJson),
    ("bitsize", .ofOption Constant.toJson d.bitsize)]

namespace Fragment

/-- The fragment of an identifier, a call exactly if an opening parenthesis follows. -/
def ofIdentifier (name : String) (coord : Coord) (isCall : Bool) : Fragment :=
  if isCall then .call (.ofName name coord) else .decl (.ofName name coord)

/-- The name that is called or declared. -/
def name : Fragment → String
  | .call c => c.callee.name
  | .decl d => d.name

def coord : Fragment → Coord
  | .call c => c.coord
  | .decl d => d.coord

def isCall : Fragment → Bool
  | .call _ => true
  | .decl _ => false

def kindName : Fragment → String
  | .call _ => "FuncCall"
  | .decl _ => "Decl"

def toJson : Fragment → Json
  | .call c => c.toJson
  | .decl d => d.toJson

theorem name_ofIdentifier (name : String) (coord : Coord) (isCall : Bool) :
    (ofIdentifier name coord isCall).name = name := by
  cases isCall <;> rfl

theorem coord_ofIdentifier (name : String) (coord : Coord) (isCall : Bool) :
    (ofIdentifier name coord isCall).coord = coord := by
  cases isCall <;> rfl

theorem isCall_ofIdentifier (name : String) (coord : Coord) (isCall : Bool) :
    (ofIdentifier name coord isCall).isCall = isCall := by
  cases isCall <;> rfl

end Fragment

end PullLexer
