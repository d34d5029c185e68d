import PullLexer.Json
/-!
# Configuration of a scan

Whether identifiers are delivered as tokens or as syntax fragments, and whether a string literal
may be left open at the end of the source. A configuration is written to JSON as an object and is
read from an object or, in the order of its two settings, from an array; a missing setting takes
its default.
-/

namespace PullLexer

inductive IdentifierMode
  | fragments
  | plain
deriving DecidableEq, Repr

namespace IdentifierMode

def name : IdentifierMode → String
  | fragments => "fragments"
  | plain => "plain"

def ofName? : String → Option IdentifierMode
  | "fragments" => some fragments
  | "plain" => some plain
  | _ => none

/-- A mode is its name, or an object with its name as the only member and null as the value. -/
def ofJson? : Json → Option IdentifierMode
  | .str name => ofName? name
  | .obj [(name, .null)] => ofName? name
  | _ => none

end IdentifierMode

structure Config where
  identifierMode : IdentifierMode := .fragments
  strictStrings : Bool := false
deriving DecidableEq, Repr

namespace Config

/-- Identifiers as tokens. -/
def plain : Config := ⟨.plain, false⟩

def isDefault (config : Config) : Bool := config == {}

def toJson (config : Config) : Json :=
  .obj [("identifier_mode", .str config.identifierMode.name),
    ("strict_strings", .bool config.strictStrings)]

def readBool? : Json → Option Bool
  | .bool b => some b
  | _ => none

/-- A setting that may be missing, but not malformed. -/
def setting? {α : Type} (read? : Json → Option α) (default : α) : Option Json → Option α
  | none => some default
  | some value => read? value

/-- Reads the two settings, each of which may be missing. -/
def ofSettings? (mode strict : Option Json) : Option Config := do
  let mode ← setting? IdentifierMode.ofJson? .fragments mode
  let strict ← setting? readBool? false strict
  return ⟨mode, strict⟩

def ofJson? : Json → Option Config
  | .obj members => ofSettings? (members.lookup "identifier_mode") (members.lookup "strict_strings")
  | .arr [] => ofSettings? none none
  | .arr [mode] => ofSettings? (some mode) none
  | .arr [mode, strict] => ofSettings? (some mode) (some strict)
  | _ => none

/-- Reading undoes writing. -/
theorem ofJson?_toJson (config : Config) : ofJson? config.toJson = some config := by
  obtain ⟨mode, strict⟩ := config
  cases mode <;> rfl

end Config

end PullLexer
