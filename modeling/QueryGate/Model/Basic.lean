import QueryGate.Keyed
import QueryGate.Model.Relation

/-!
# Models

A model is what queries have to know about one table: its primary key, which
columns are compared by their date alone, which column marks a row as deleted,
and how its rows reach those of other models. A catalog holds the models that
relation paths can reach, under their tables.
-/

set_option autoImplicit false

namespace QueryGate

/-- What queries know about one table. -/
structure Model where
  table : String
  primaryKey : String := "id"
  /-- The columns compared by their date alone. -/
  dateFields : List String := []
  /-- The column with the time of deletion. -/
  softDelete : Option String := none
  relations : Keyed Relation := []
deriving DecidableEq, Repr

namespace Model

/-- Whether the column is compared by its date alone. -/
def isDateField (model : Model) (field : String) : Bool :=
  model.dateFields.contains field

/-- The relation of a name. -/
def relation? (model : Model) (name : String) : Option Relation :=
  model.relations.lookup name

/-- The model with one more relation. -/
def addRelation (model : Model) (name : String) (relation : Relation) : Model :=
  { model with relations := Keyed.insert name relation model.relations }

end Model

/-- The pivot table that a many-to-many listing goes through. -/
structure PivotTable where
  table : String
  dateFields : List String := []
deriving DecidableEq, Repr

/-- Whether the column of the pivot table is compared by its date alone. -/
def PivotTable.isDateField (pivot : PivotTable) (field : String) : Bool :=
  pivot.dateFields.contains field

/-- The models that relation paths can reach, under their tables. -/
abbrev Catalog := Keyed Model

namespace Catalog

/-- The catalog with one more model. -/
def register (catalog : Catalog) (model : Model) : Catalog :=
  Keyed.insert model.table model catalog

/-- The model of a table, where the root stands for its own table. -/
def modelOf? (catalog : Catalog) (root : Model) (table : String) : Option Model :=
  if table = root.table then some root else catalog.lookup table

end Catalog

end QueryGate
