import QueryGate.Json.Basic
import QueryGate.Number.Reader

/-!
# Query configuration

The settings that the resources of an application share. They can come from a
JSON object: a key that is missing keeps its default, an unknown key is passed
over, and a value of the wrong kind refuses the whole object. An array gives
the settings in their order and may stop early.
-/

set_option autoImplicit false

namespace QueryGate

/-- The settings of query building. -/
structure Config where
  /-- The deepest group nesting of a filter list. -/
  maxNestedDepth : Nat := 1
  /-- Whether a search regards case when the request does not say. -/
  caseSensitiveSearch : Bool := false
  /-- The page size when neither the request nor the resource sets one. -/
  defaultLimit : UInt64 := 15
  /-- The greatest page size a request may ask for. -/
  maxLimit : Option UInt64 := none
deriving DecidableEq, Repr

namespace Config

/-- An unsigned 64-bit word. -/
def word? : Json → Option UInt64
  | .int value => Number.uint64? value
  | _ => none

/-- A truth value. -/
def flag? : Json → Option Bool
  | .bool value => some value
  | _ => none

/-- A word, or `null` for none. -/
def optionalWord? : Json → Option (Option UInt64)
  | .null => some none
  | other => (word? other).map some

/-- The value under a key, or the default where there is no such key. -/
def setting {α : Type} (read : Json → Option α) (default : α) (key : String)
    (fields : List (String × Json)) : Option α :=
  match fields.lookup key with
  | none => some default
  | some value => read value

/-- The settings that the fields of an object spell. -/
def ofFields? (fields : List (String × Json)) : Option Config := do
  let base : Config := {}
  let depth ← setting (fun value => (word? value).map UInt64.toNat) base.maxNestedDepth
    "max_nested_depth" fields
  let caseSensitive ← setting flag? base.caseSensitiveSearch "case_sensitive_search" fields
  let defaultLimit ← setting word? base.defaultLimit "default_limit" fields
  let maxLimit ← setting optionalWord? base.maxLimit "max_limit" fields
  return ⟨depth, caseSensitive, defaultLimit, maxLimit⟩

/-- The keys of the settings, in their order. -/
def keys : List String :=
  ["max_nested_depth", "case_sensitive_search", "default_limit", "max_limit"]

/-- The settings that a JSON value spells. -/
def ofJson? : Json → Option Config
  | .object fields => ofFields? fields
  | .array items => if items.length ≤ keys.length then ofFields? (keys.zip items) else none
  | _ => none

end Config

end QueryGate
