import QueryGate.Failure
import QueryGate.Query.Basic
import QueryGate.Request.Flag
import QueryGate.Text.Blank
import QueryGate.Text.Quoted

/-!
# Scopes

A scope is a condition that the host registers under a name and a request calls
with parameters. The parameters are read one by one, each as the kind that the
scope expects, and a parameter that is missing or of another kind is a
violation at its own place in the request.
-/

set_option autoImplicit false

namespace QueryGate

/-- A call of a scope as the scope sees it. -/
structure ScopeArguments where
  /-- The place of the call in the list of the request. -/
  position : Nat
  name : String
  parameters : List Json

namespace ScopeArguments

/-- How many parameters there are. -/
def count (arguments : ScopeArguments) : Nat :=
  arguments.parameters.length

/-- The parameter of an index. -/
def parameter? (arguments : ScopeArguments) (index : Nat) : Option Json :=
  arguments.parameters[index]?

/-- The place of a parameter in the request. -/
def place (arguments : ScopeArguments) (index : Nat) : Place :=
  [.key "scopes", .index arguments.position, .key "parameters", .index index]

/-- The parameter of an index as what `read` makes of it. -/
def readAs {α : Type} (arguments : ScopeArguments) (index : Nat) (expected : String)
    (read : Json → Option α) : Except Failure α :=
  match arguments.parameter? index with
  | none => .error (.violation (arguments.place index) (.missing "parameter"))
  | some parameter =>
      match read parameter with
      | some value => .ok value
      | none => .error (.violation (arguments.place index) (.parameterKind expected))

/-- A text. -/
def text? : Json → Option String
  | .text value => some value
  | _ => none

/-- An integer, or a text that spells one. -/
def int? : Json → Option Int64
  | .int value => Number.int64? value
  | .text value => Number.readInt64? (Text.trimBlanks value.toList)
  | _ => none

/-- A number, or a text that spells one. -/
def float? : Json → Option Float
  | .int value => some (Float.ofInt value)
  | .float value => some value
  | .text value => Number.readFloat? (Text.trimBlanks value.toList)
  | _ => none

/-- The parameter as a text. -/
def text (arguments : ScopeArguments) (index : Nat) : Except Failure String :=
  arguments.readAs index "a string" text?

/-- The parameter as an integer. -/
def int (arguments : ScopeArguments) (index : Nat) : Except Failure Int64 :=
  arguments.readAs index "an integer" int?

/-- The parameter as a number. -/
def float (arguments : ScopeArguments) (index : Nat) : Except Failure Float :=
  arguments.readAs index "a number" float?

/-- The parameter as a truth value. -/
def bool (arguments : ScopeArguments) (index : Nat) : Except Failure Bool :=
  arguments.readAs index "a boolean" Request.flag?

/-- The parameter as any scalar. -/
def scalar (arguments : ScopeArguments) (index : Nat) : Except Failure Scalar :=
  arguments.readAs index "a scalar" Scalar.ofJson?

end ScopeArguments

/-- The condition that a scope makes of its parameters. -/
abbrev Scope := ScopeArguments → Except Failure Sql.Group

/-- The scopes of a resource under their names. -/
abbrev ScopeRegistry := Keyed Scope

/-- The set of the names of a registry, for the log. -/
def ScopeRegistry.text (registry : ScopeRegistry) : String :=
  "\x7b" ++ ", ".intercalate (registry.keys.map Text.quoted) ++ "\x7d"

/-- The conditions of scope calls, from a position in the request on. -/
def scopeGroups (registry : ScopeRegistry) (position : Nat) :
    List ScopeCall → Except Failure (List Sql.Group)
  | [] => .ok []
  | call :: calls =>
      match registry.lookup call.name with
      | none => .error (.misconfigured (.unregisteredScope call.name))
      | some scope => do
          let group ← scope ⟨position, call.name, call.parameters⟩
          let groups ← scopeGroups registry (position + 1) calls
          return group :: groups

/-- The conjunction of scope calls, when there are any. -/
def scopeGroup (registry : ScopeRegistry) (calls : List ScopeCall) :
    Except Failure (Option Sql.Group) :=
  if calls.isEmpty then .ok none
  else
    (scopeGroups registry 0 calls).map fun groups =>
      some (groups.foldl Sql.Group.addGroup .all)

end QueryGate
