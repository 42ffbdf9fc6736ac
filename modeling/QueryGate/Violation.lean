/-!
# Violations of the request rules

A violation says where in a request a rule is broken and which rule it is. The
place is a path of keys and positions from the request body inwards; its text
joins the steps with dots. The reason is a cause, and its wording is one
function.

`Validated` is the outcome of checking a part of a request: a value, or every
violation found, in the order in which the part was walked. Two checks of
different parts are put side by side by `both`, which keeps the violations of
each; a check that needs the outcome of another follows it by `andThen`.
-/

set_option autoImplicit false

namespace QueryGate

/-- A step from a request value to a part of it. -/
inductive Step where
  | key (name : String)
  | index (position : Nat)
deriving DecidableEq, Repr

/-- The steps from the request body to a value in it. -/
abbrev Place := List Step

/-- The text of a step. -/
def Step.text : Step → String
  | key name => name
  | index position => toString position

/-- The text of a place. -/
def Place.text (place : Place) : String :=
  ".".intercalate (place.map Step.text)

/-- The rule that a request value breaks. -/
inductive Reason where
  | tooDeep (limit : Nat)
  | notArray (what : String)
  | notObject (what : String)
  | notText (what : String)
  | notFlag (what : String)
  | missing (what : String)
  /-- A filter has neither a field nor nested filters. -/
  | missingLeafField
  | structuredPath
  | malformedField
  | notFilterable (field : String)
  | notSortable (field : String)
  | notExposed (scope : String)
  | unknownWord (what : String) (allowed : List String)
  /-- An element of a list that is no scalar. -/
  | notScalar
  | notScalarOrList
  | outOfRange
  | nullOperand (operator : String)
  | listOperand (operator : String)
  /-- A scope parameter is not of the expected kind. -/
  | parameterKind (expected : String)
  | notJson (parameter : String)
  /-- A reason stated by the host in its own words. -/
  | stated (text : String)
deriving DecidableEq, Repr

/-- The wording of a reason. -/
def Reason.message : Reason → String
  | tooDeep limit => s!"Max nested depth {limit} is exceeded"
  | notArray what => s!"The {what} must be an array"
  | notObject what => s!"The {what} must be an object"
  | notText what => s!"The {what} must be a string"
  | notFlag what => s!"The {what} must be a boolean"
  | missing what => s!"The {what} is required"
  | missingLeafField => "The field is required when nested is not present"
  | structuredPath => "JSON paths are not supported"
  | malformedField => "The field format is invalid"
  | notFilterable field => s!"The field '{field}' is not filterable"
  | notSortable field => s!"The field '{field}' is not sortable"
  | notExposed scope => s!"The scope '{scope}' is not exposed"
  | unknownWord what allowed => s!"The {what} must be one of: " ++ ", ".intercalate allowed
  | notScalar => "The value must be a scalar"
  | notScalarOrList => "The value must be a scalar or an array of scalars"
  | outOfRange => "The value is out of range"
  | nullOperand operator => s!"A null value cannot be used with the '{operator}' operator"
  | listOperand operator => s!"An array value cannot be used with the '{operator}' operator"
  | parameterKind expected => s!"The parameter must be {expected}"
  | notJson parameter => s!"The {parameter} parameter must be valid JSON: "
  | stated text => text

/-- A broken rule and where it is broken. -/
structure Violation where
  place : Place
  reason : Reason
deriving DecidableEq, Repr

namespace Violation

/-- A violation at a place given by its text, worded by the host. -/
def stated (field message : String) : Violation :=
  ⟨[.key field], .stated message⟩

/-- The text of the place. -/
def field (violation : Violation) : String :=
  violation.place.text

/-- The wording of the reason. -/
def message (violation : Violation) : String :=
  violation.reason.message

/-- The place and the reason in one line. -/
def text (violation : Violation) : String :=
  violation.field ++ ": " ++ violation.message

/-- A list of violations in one line. -/
def listText (violations : List Violation) : String :=
  "; ".intercalate (violations.map text)

end Violation

/-- The outcome of checking a part of a request. -/
inductive Validated (α : Type) where
  | valid (value : α)
  | invalid (first : Violation) (others : List Violation)

namespace Validated

variable {α β : Type}

/-- The violations found, none for a valid part. -/
def violations : Validated α → List Violation
  | valid _ => []
  | invalid first others => first :: others

/-- One violation. -/
def reject (place : Place) (reason : Reason) : Validated α :=
  invalid ⟨place, reason⟩ []

/-- A value where there is one, and a violation where there is none. -/
def ofOption (value : Option α) (place : Place) (reason : Reason) : Validated α :=
  match value with
  | some found => valid found
  | none => reject place reason

/-- The same violations for another value. -/
def map (function : α → β) : Validated α → Validated β
  | valid value => valid (function value)
  | invalid first others => invalid first others

/-- Two parts side by side: both values, or the violations of both. -/
def both (left : Validated α) (right : Validated β) : Validated (α × β) :=
  match left, right with
  | valid first, valid second => valid (first, second)
  | valid _, invalid first others => invalid first others
  | invalid first others, right => invalid first (others ++ right.violations)

/-- A check that needs the value of another one. -/
def andThen (checked : Validated α) (next : α → Validated β) : Validated β :=
  match checked with
  | valid value => next value
  | invalid first others => invalid first others

/-- The checks of a list of parts side by side. -/
def all : List (Validated α) → Validated (List α)
  | [] => valid []
  | checked :: rest => (both checked (all rest)).map fun parts => parts.1 :: parts.2

@[simp]
theorem violations_valid (value : α) : (valid value).violations = [] := rfl

@[simp]
theorem violations_reject (place : Place) (reason : Reason) :
    (reject place reason : Validated α).violations = [⟨place, reason⟩] := rfl

@[simp]
theorem violations_map (function : α → β) (checked : Validated α) :
    (checked.map function).violations = checked.violations := by
  cases checked <;> rfl

/-- Side by side, no violation is lost and none changes its order. -/
@[simp]
theorem violations_both (left : Validated α) (right : Validated β) :
    (left.both right).violations = left.violations ++ right.violations := by
  cases left <;> cases right <;> simp [both, violations]

@[simp]
theorem violations_all (parts : List (Validated α)) :
    (all parts).violations = parts.flatMap violations := by
  induction parts with
  | nil => rfl
  | cons checked rest ih => simp [all, ih]

end Validated

end QueryGate
