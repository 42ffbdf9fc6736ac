import QueryGate.Declaration.Field

/-!
# Columns of a declaration

The columns that the fields of a declaration name, by what queries may do with
them, in the order of the fields. The first field marked as the primary key is
the primary key, and only one field can be the time of deletion.
-/

set_option autoImplicit false

namespace QueryGate

/-- The columns that the fields of a declaration name. -/
structure DeclaredColumns where
  primaryKey : Option String := none
  softDelete : Option String := none
  filterable : List String := []
  sortable : List String := []
  searchable : List String := []
  dateFields : List String := []
deriving DecidableEq, Repr

namespace DeclaredColumns

/-- The list with one more column, if the column is marked. -/
def addIf (marked : Bool) (column : String) (columns : List String) : List String :=
  if marked then columns ++ [column] else columns

/-- The columns with those of one more field. -/
def add (columns : DeclaredColumns) (field : DeclaredField) :
    Except DeclarationFault DeclaredColumns := do
  let flags ← field.flags
  let column := field.column
  let marked (flag : FieldFlag) : Bool := flags.contains flag
  if marked .softDelete && columns.softDelete.isSome then
    throw .secondSoftDelete
  return {
    primaryKey := columns.primaryKey <|> if marked .primaryKey then some column else none
    softDelete := if marked .softDelete then some column else columns.softDelete
    filterable := addIf (marked .filterable) column columns.filterable
    sortable := addIf (marked .sortable) column columns.sortable
    searchable := addIf (marked .searchable) column columns.searchable
    dateFields := addIf (marked .date || field.type.isDate) column columns.dateFields }

/-- The columns of a list of fields, or the fault of the first field at fault. -/
def ofFields (fields : List DeclaredField) : Except DeclarationFault DeclaredColumns :=
  fields.foldlM add {}

end DeclaredColumns

end QueryGate
