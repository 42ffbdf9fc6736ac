/-!
# Relations between models

A relation says how rows of one model reach rows of another. What a join needs
of it is always the same: the table to join first, the column there that equals
a column of the parent, for a many-to-many relation the step from the pivot
table on to the related table, and for a polymorphic relation the column that
names the class of the parent. Only the relation that names its table in the
row itself has no join.
-/

set_option autoImplicit false

namespace QueryGate

/-- How a model reaches a related model. -/
inductive Relation where
  /-- `table.foreignKey = parent.localKey`, at most one row. -/
  | hasOne (table foreignKey localKey : String)
  /-- `table.foreignKey = parent.localKey`. -/
  | hasMany (table foreignKey localKey : String)
  /-- `parent.foreignKey = table.ownerKey`. -/
  | belongsTo (table foreignKey ownerKey : String)
  /-- `pivot.foreignPivotKey = parent.parentKey` and
  `pivot.relatedPivotKey = table.relatedKey`. -/
  | belongsToMany (table pivot foreignPivotKey relatedPivotKey parentKey relatedKey : String)
  /-- `table.idColumn = parent.localKey` and `table.typeColumn` is the class. -/
  | morphOne (table typeColumn idColumn className localKey : String)
  /-- The keys of `morphOne`, with many rows. -/
  | morphMany (table typeColumn idColumn className localKey : String)
  /-- The row of the parent names its related table in `typeColumn`. -/
  | morphTo (typeColumn idColumn : String)
deriving DecidableEq, Repr

/-- The step of a many-to-many join from the pivot table to the related one. -/
structure PivotKeys where
  table : String
  relatedPivotKey : String
  relatedKey : String
deriving DecidableEq, Repr

/-- The column that names the class of the parent, and the class. -/
structure MorphTag where
  column : String
  className : String
deriving DecidableEq, Repr

/-- What a join needs of a relation: `table.foreignKey = parent.localKey`, where
the table is the pivot table when there is one. -/
structure JoinKeys where
  table : String
  foreignKey : String
  localKey : String
  pivot : Option PivotKeys := none
  morph : Option MorphTag := none
deriving DecidableEq, Repr

/-- How a foreign key definition refers to its target: by the name of a table, or
as rows that are made in place and have an alias only. -/
inductive TableReference where
  | named (table : String) (schema database called : Option String)
  | subquery (called : String)
  | values (called : String)
  | call (called : String)
deriving DecidableEq, Repr

/-- The table that a reference names, whatever schema, database or alias comes
with it. -/
def TableReference.table? : TableReference → Option String
  | named table _ _ _ => some table
  | _ => none

/-- The columns on one side of a foreign key: one column, or a list of columns
that together are the key. -/
inductive KeyColumns where
  | single (column : String)
  | composite (columns : List String)
deriving DecidableEq, Repr

/-- The column of a key of one column. -/
def KeyColumns.single? : KeyColumns → Option String
  | single column => some column
  | composite _ => none

/-- A foreign key as an entity declares it. -/
structure ForeignKey where
  target : TableReference
  sourceColumns : KeyColumns
  targetColumns : KeyColumns
  /-- Whether many rows may lie on the target's side. -/
  many : Bool
  /-- Whether this side owns the relation, so that the key is in the target. -/
  owner : Bool
deriving DecidableEq, Repr

namespace Relation

/-- A many-to-many relation over the columns `id` on both sides. -/
def throughPivot (table pivot foreignPivotKey relatedPivotKey : String) : Relation :=
  belongsToMany table pivot foreignPivotKey relatedPivotKey "id" "id"

/-- A polymorphic relation to one row, with columns named after `name`. -/
def polymorphicOne (table name className : String) : Relation :=
  morphOne table (name ++ "_type") (name ++ "_id") className "id"

/-- A polymorphic relation to many rows, with columns named after `name`. -/
def polymorphicMany (table name className : String) : Relation :=
  morphMany table (name ++ "_type") (name ++ "_id") className "id"

/-- A relation to the table that the row names, with columns named after
`name`. -/
def polymorphicTo (name : String) : Relation :=
  morphTo (name ++ "_type") (name ++ "_id")

/-- The table of the related model, when it is fixed. -/
def relatedTable? : Relation → Option String
  | hasOne table _ _ => some table
  | hasMany table _ _ => some table
  | belongsTo table _ _ => some table
  | belongsToMany table _ _ _ _ _ => some table
  | morphOne table _ _ _ _ => some table
  | morphMany table _ _ _ _ => some table
  | morphTo _ _ => none

/-- Whether one row of the parent can have many related rows. -/
def isToMany : Relation → Bool
  | hasMany _ _ _ => true
  | belongsToMany _ _ _ _ _ _ => true
  | morphMany _ _ _ _ _ => true
  | _ => false

/-- What a join needs of the relation. -/
def joinKeys? : Relation → Option JoinKeys
  | hasOne table foreignKey localKey => some { table, foreignKey, localKey }
  | hasMany table foreignKey localKey => some { table, foreignKey, localKey }
  | belongsTo table foreignKey ownerKey =>
      some { table, foreignKey := ownerKey, localKey := foreignKey }
  | belongsToMany table pivot foreignPivotKey relatedPivotKey parentKey relatedKey =>
      some
        { table := pivot
          foreignKey := foreignPivotKey
          localKey := parentKey
          pivot := some { table, relatedPivotKey, relatedKey } }
  | morphOne table typeColumn idColumn className localKey =>
      some
        { table
          foreignKey := idColumn
          localKey
          morph := some { column := typeColumn, className } }
  | morphMany table typeColumn idColumn className localKey =>
      some
        { table
          foreignKey := idColumn
          localKey
          morph := some { column := typeColumn, className } }
  | morphTo _ _ => none

/-- The relation of a key from a column to a column of a table. A key owned by the
other side leads to the one row that this side belongs to. -/
def ofColumns (owner many : Bool) (table source target : String) : Relation :=
  match owner, many with
  | false, _ => belongsTo table source target
  | true, false => hasOne table target source
  | true, true => hasMany table target source

/-- The relation that a foreign key makes. Only keys of one column to a named
table can be joined. -/
def ofForeignKey? (key : ForeignKey) : Option Relation := do
  let table ← key.target.table?
  let source ← key.sourceColumns.single?
  let target ← key.targetColumns.single?
  return ofColumns key.owner key.many table source target

/-- A relation has a join exactly when its table is fixed. -/
theorem joinKeys?_isSome (relation : Relation) :
    relation.joinKeys?.isSome = relation.relatedTable?.isSome := by
  cases relation <;> rfl

end Relation

end QueryGate
