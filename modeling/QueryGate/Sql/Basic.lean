/-!
# SQL statements

Statements are data. A scalar expression is an `Operand`; a `Condition` is a
predicate on operands, the existence of a related row, or a junction of
conditions. Values stay apart from the text: a statement holds them, and only
its rendering puts a placeholder in their place.

A `Group` is a junction under construction, and the restriction of a statement
is a group or absent. Two rules decide how they grow. A group takes a condition
as it is, except that a junction of exactly one member gives up that member
instead of itself. A statement takes a group as one more conjunct: the members
of two conjunctions are joined, and a disjunction on either side stays one
member of the conjunction.
-/

set_option autoImplicit false

namespace QueryGate.Sql

/-- A value bound to a statement. -/
inductive Value where
  | text (value : String)
  | int (value : Int)
  | float (value : Float)
  | bool (value : Bool)

/-- A column of a table or an alias. -/
structure Column where
  table : String
  name : String
deriving DecidableEq, Repr

/-- The form in which the date of an expression is taken. -/
inductive DateForm where
  /-- The function `DATE`. -/
  | call
  /-- A cast to the type `DATE`. -/
  | cast
deriving DecidableEq, Repr

/-- A scalar expression. -/
inductive Operand where
  | column (column : Column)
  | value (value : Value)
  | lower (operand : Operand)
  | date (form : DateForm) (operand : Operand)
  /-- The bytes of a text, which compare by case. -/
  | binary (operand : Operand)
  /-- The place of a text in another one, counted from one, or zero. -/
  | position (operand : Operand) (term : Value)

/-- The comparisons. -/
inductive Comparison where
  | less
  | atMost
  | greater
  | atLeast
  | equal
  | unequal
deriving DecidableEq, Repr

/-- The form in which a JSON array is asked for an element. -/
inductive Containment where
  /-- The rows that the array unfolds to. -/
  | rows
  /-- A function on the array and the text of the element. -/
  | function
  /-- An operator between two arrays. -/
  | operator
deriving DecidableEq, Repr

/-- A table, and the alias under which its columns are named. -/
structure Source where
  table : String
  called : Option String := none
deriving DecidableEq, Repr

/-- A table joined to another one by two equal columns. -/
structure Link where
  source : Source
  left : Column
  right : Column
deriving DecidableEq, Repr

/-- How the members of a junction combine. -/
inductive Junction where
  | all
  | any
deriving DecidableEq, Repr

/-- A condition on rows. -/
inductive Condition where
  | compare (comparison : Comparison) (left right : Operand)
  /-- The pattern match; `escaped` when a backslash takes the meaning from the
  character after it. -/
  | like (negated : Bool) (operand : Operand) (pattern : String) (escaped : Bool)
  | among (negated : Bool) (operand : Operand) (values : List Value)
  | isNull (negated : Bool) (operand : Operand)
  | contains (form : Containment) (array : Operand) (element : Value)
  /-- Whether there is a row of the source, linked to another one or not, that
  the condition holds of. -/
  | existsRow (source : Source) (link : Option Link) (restriction : Condition)
  | junction (kind : Junction) (members : List Condition)

/-- A junction under construction. -/
structure Group where
  kind : Junction
  members : List Condition

/-- The sole member of a junction of one, and every other condition itself. -/
def Condition.unwrapped : Condition → Condition
  | .junction _ [member] => member
  | condition => condition

namespace Group

/-- The conjunction of nothing. -/
def all : Group := ⟨.all, []⟩

/-- The disjunction of nothing. -/
def any : Group := ⟨.any, []⟩

/-- The conjunction of one condition. -/
def one (condition : Condition) : Group := ⟨.all, [condition.unwrapped]⟩

/-- The group as a condition. -/
def toCondition (group : Group) : Condition :=
  .junction group.kind group.members

/-- The group with one more condition. -/
def add (group : Group) (condition : Condition) : Group :=
  { group with members := group.members ++ [condition.unwrapped] }

/-- The group with one more group as a member. -/
def addGroup (group member : Group) : Group :=
  group.add member.toCondition

/-- The restriction by both groups. -/
def conjoin (held added : Group) : Group :=
  match held.kind, added.kind with
  | .all, .all => ⟨.all, held.members ++ added.members⟩
  | .all, .any => held.addGroup added
  | .any, _ => (all.addGroup held).addGroup added

end Group

/-- What a statement returns for a row. -/
inductive Output where
  | column (column : Column)
  | value (value : Value)
  /-- All columns of a table. -/
  | allOf (table : String)

/-- Whether rows without a partner stay. -/
inductive JoinKind where
  | inner
  | left
deriving DecidableEq, Repr

/-- A table joined to a statement. -/
structure Join where
  kind : JoinKind
  source : Source
  condition : Condition

/-- The direction of an order. -/
inductive Direction where
  | ascending
  | descending
deriving DecidableEq, Repr

/-- A column that rows are ordered by. -/
structure OrderTerm where
  column : Column
  direction : Direction
deriving DecidableEq, Repr

/-- A statement that selects rows. -/
structure Select where
  outputs : List Output
  source : Source
  joins : List Join := []
  restriction : Option Group := none
  /-- The expressions that rows are grouped by. -/
  grouping : List Operand := []
  orders : List OrderTerm := []
  limit : Option UInt64 := none
  offset : Option UInt64 := none

namespace Select

/-- The statement restricted by a group. -/
def restrict (select : Select) (group : Group) : Select :=
  { select with
    restriction :=
      match select.restriction with
      | none => some group
      | some held => some (held.conjoin group) }

/-- The statement restricted by a group when there is one. -/
def restrict? (select : Select) : Option Group → Select
  | none => select
  | some group => select.restrict group

/-- The statement restricted by one condition. -/
def restrictBy (select : Select) (condition : Condition) : Select :=
  select.restrict ⟨.all, [condition]⟩

/-- The statement with one more join. -/
def join (select : Select) (join : Join) : Select :=
  { select with joins := select.joins ++ [join] }

end Select

end QueryGate.Sql
