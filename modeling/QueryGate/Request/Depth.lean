import QueryGate.Failure
import QueryGate.Json.Basic

/-!
# The depth of filter lists

How deep the groups of a raw filter list are nested is measured before anything
else is looked at. A group costs two containers, the list and the object that
holds it, so the depth of the filters is half the depth of the containers. What
stands under the key `value` does not count, and a list of values never makes a
filter look nested.
-/

set_option autoImplicit false

namespace QueryGate.Request

mutual

/-- How many containers lie inside one another below a value. -/
def containerDepth : Json → Nat
  | .array items => itemsDepth items
  | .object fields => fieldsDepth fields
  | _ => 0

/-- The depth that the items of an array reach. -/
def itemsDepth : List Json → Nat
  | [] => 0
  | item :: items =>
      max (if item.isContainer then containerDepth item + 1 else 0) (itemsDepth items)

/-- The depth that the fields of an object reach. -/
def fieldsDepth : List (String × Json) → Nat
  | [] => 0
  | (key, value) :: fields =>
      max (if key ≠ "value" ∧ value.isContainer then containerDepth value + 1 else 0)
        (fieldsDepth fields)

end

/-- How deep the groups of a raw filter list are nested. -/
def filterDepth (filters : Json) : Nat :=
  containerDepth filters / 2

/-- Refuses filters that are nested deeper than the limit. -/
def checkFilterDepth (filters : Json) (limit : Nat) : Except Failure Unit :=
  if limit < filterDepth filters then .error (.violation [.key "filters"] (.tooDeep limit))
  else .ok ()

end QueryGate.Request
