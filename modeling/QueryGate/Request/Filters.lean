import QueryGate.Query.Filter
import QueryGate.Request.Field
import QueryGate.Whitelist

/-!
# Filters in requests

The reading of a filter list. A node is an object with `nested` filters, which
makes it a group, or with a field, an operator and a value. All parts of a node
are checked side by side, so every broken rule is reported; only the fit of
operator and value needs both of them. A key whose value is `null` counts as
absent.
-/

set_option autoImplicit false

namespace QueryGate.Request

/-- The combinator of a node, `and` where none is given. -/
def combinator (place : Place) (fields : List (String × Json)) : Validated Combinator :=
  let refused := Validated.reject (place ++ [.key "type"]) (.unknownWord "type" ["and", "or"])
  match Json.present? "type" fields with
  | none => .valid .and
  | some (.text word) =>
      match Combinator.ofText? word with
      | some combinator => .valid combinator
      | none => refused
  | some _ => refused

/-- The field of a node, which the whitelist has to admit. -/
def filterField (whitelist : Whitelist) (place : Place) (fields : List (String × Json)) :
    Validated String :=
  (fieldName place .missingLeafField fields).andThen fun name =>
    if whitelist.canFilter name then .valid name
    else .reject (place ++ [.key "field"]) (.notFilterable name)

/-- The reason why a value is no scalar: an integer beyond the words, or the
given one. -/
def scalarFault (otherwise : Reason) : Json → Reason
  | .int _ => .outOfRange
  | _ => otherwise

/-- A scalar at a place. -/
def scalar (place : Place) (otherwise : Reason) (value : Json) : Validated Scalar :=
  .ofOption (Scalar.ofJson? value) place (scalarFault otherwise value)

/-- The value of a node. -/
def filterValue (place : Place) (fields : List (String × Json)) : Validated FilterValue :=
  let valuePlace := place ++ [.key "value"]
  match fields.lookup "value" with
  | none => .valid .null
  | some .null => .valid .null
  | some (.array items) =>
      (Validated.all (items.mapIdx fun position item =>
        scalar (valuePlace ++ [.index position]) .notScalar item)).map .list
  | some value => (scalar valuePlace .notScalarOrList value).map .scalar

/-- The operator of a node, when one is given. -/
def operator? (place : Place) (fields : List (String × Json)) : Validated (Option Operator) :=
  let refused :=
    Validated.reject (place ++ [.key "operator"])
      (.unknownWord "operator" (Operator.list.map Operator.text))
  match Json.present? "operator" fields with
  | none => .valid none
  | some (.text spelling) =>
      match Operator.ofText? spelling with
      | some operator => .valid (some operator)
      | none => refused
  | some _ => refused

/-- The operator for a value when none is given. -/
def defaultOperator : FilterValue → Operator
  | .list _ => .among
  | _ => .equal

/-- The fit of operator and value: `null` only where it can be asked for, a list
only for membership, and a scalar for membership as a list of one. -/
def fit (place : Place) (operator : Operator) (value : FilterValue) :
    Validated (Operator × FilterValue) :=
  let valuePlace := place ++ [.key "value"]
  match value with
  | .null =>
      if operator.takesNull then .valid (operator, .null)
      else .reject valuePlace (.nullOperand operator.text)
  | .list values =>
      if operator.isMembership then .valid (operator, .list values)
      else .reject valuePlace (.listOperand operator.text)
  | .scalar scalar =>
      .valid (operator, if operator.isMembership then .list [scalar] else .scalar scalar)

/-- The operator and the value of a node. -/
def comparison (place : Place) (fields : List (String × Json)) :
    Validated (Operator × FilterValue) :=
  ((filterValue place fields).both (operator? place fields)).andThen fun parts =>
    fit place (parts.2.getD (defaultOperator parts.1)) parts.1

/-- A node that tests a field. -/
def leaf (whitelist : Whitelist) (place : Place) (fields : List (String × Json)) :
    Validated Filter :=
  ((combinator place fields).both
    ((filterField whitelist place fields).both (comparison place fields))).map fun parts =>
      .test parts.1 ⟨parts.2.1, parts.2.2.1, parts.2.2.2⟩

/-- A field beside nested filters, which is held to the whitelist all the
same. -/
def fieldBeside (whitelist : Whitelist) (place : Place) (fields : List (String × Json)) :
    Validated Unit :=
  match Json.present? "field" fields with
  | none => .valid ()
  | some _ => (filterField whitelist place fields).map fun _ => ()

/-- A node that groups the given filters. -/
def group (whitelist : Whitelist) (place : Place) (fields : List (String × Json))
    (nested : Validated (List Filter)) : Validated Filter :=
  ((combinator place fields).both ((fieldBeside whitelist place fields).both nested)).map
    fun parts => .group parts.1 parts.2.2

/-- How messages call the filter list at a place. -/
def listName (place : Place) : String :=
  if place = [.key "filters"] then "filters" else "nested filters"

mutual

/-- A filter list. -/
def filterList (whitelist : Whitelist) (place : Place) : Json → Validated (List Filter)
  | .array items => filterItems whitelist place 0 items
  | _ => .reject place (.notArray (listName place))

/-- The nodes of a filter list, from a position on. -/
def filterItems (whitelist : Whitelist) (place : Place) (position : Nat) :
    List Json → Validated (List Filter)
  | [] => .valid []
  | item :: items =>
      ((filterNode whitelist (place ++ [.index position]) item).both
        (filterItems whitelist place (position + 1) items)).map fun parts => parts.1 :: parts.2

/-- A node of a filter list. -/
def filterNode (whitelist : Whitelist) (place : Place) : Json → Validated Filter
  | .object fields =>
      match nestedFilters whitelist place fields with
      | some nested => group whitelist place fields nested
      | none => leaf whitelist place fields
  | _ => .reject place (.notObject "filter")

/-- The nested filters of a node, when there are any. -/
def nestedFilters (whitelist : Whitelist) (place : Place) :
    List (String × Json) → Option (Validated (List Filter))
  | [] => none
  | (key, value) :: fields =>
      if key = "nested" then
        if value.isNull then none
        else some (filterList whitelist (place ++ [.key "nested"]) value)
      else nestedFilters whitelist place fields

end

end QueryGate.Request
