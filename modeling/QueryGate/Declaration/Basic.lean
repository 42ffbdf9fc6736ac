import QueryGate.Declaration.Columns
import QueryGate.Declaration.IntegerLiteral
import QueryGate.Resource

/-!
# Model declarations

A model can be declared by an annotated structure with named fields. The
declaration says which table the model stands for, how many rows a page of it
has, and by its fields which columns queries may use and how. What it leaves
out keeps the usual value of a model specification.
-/

set_option autoImplicit false

namespace QueryGate

/-- The form of a declared item. -/
inductive DeclaredShape where
  /-- A structure with named fields. -/
  | named (fields : List DeclaredField)
  /-- A structure whose fields have no names, or that has none. -/
  | unnamed
  /-- An item that is no structure. -/
  | notStructure

/-- A declared item. -/
structure Declaration where
  attributes : List Attribute
  shape : DeclaredShape

/-- The settings of a declaration. -/
structure DeclaredSettings where
  table : Option String := none
  pageLimit : Option UInt64 := none
deriving DecidableEq, Repr

namespace DeclaredSettings

/-- The settings with what one more member assigns. -/
def assign (settings : DeclaredSettings) : Member → Except DeclarationFault DeclaredSettings
  | .setting path (.literal literal) =>
      match path.name?, literal with
      | some "table", .text table => .ok { settings with table := some table }
      | some "limit", .number written => do
          let limit ← IntegerLiteral.pageLimit written.toList
          return { settings with pageLimit := some limit }
      | _, _ => .error .unknownSetting
  | .setting _ .expression => .error .expectedLiteral
  | _ => .error .expectedSetting

/-- The settings that the attributes of a declaration make. -/
def ofAttributes (attributes : List Attribute) : Except DeclarationFault DeclaredSettings := do
  let members ← Attribute.queryMembers attributes
  members.foldlM assign {}

end DeclaredSettings

/-- What a declaration says about its model. -/
structure DeclaredModel where
  table : String
  pageLimit : Option UInt64
  columns : DeclaredColumns
deriving DecidableEq, Repr

namespace DeclaredModel

/-- The specification of the declared model. -/
def spec (declared : DeclaredModel) : ModelSpec :=
  let usual : ModelSpec := { table := declared.table }
  { table := declared.table
    primaryKey := declared.columns.primaryKey.getD usual.primaryKey
    softDelete := declared.columns.softDelete
    pageLimit := declared.pageLimit.getD usual.pageLimit
    filterable := declared.columns.filterable
    sortable := declared.columns.sortable
    searchable := declared.columns.searchable
    dateFields := declared.columns.dateFields }

end DeclaredModel

namespace Declaration

/-- The named fields of a declaration. -/
def fields (declaration : Declaration) : Except DeclarationFault (List DeclaredField) :=
  match declaration.shape with
  | .named fields => .ok fields
  | .unnamed => .error .unnamedFields
  | .notStructure => .error .notStructure

/-- The table of a declaration: the one set for queries, or else the shared one. -/
def table (declaration : Declaration) (settings : DeclaredSettings) :
    Except DeclarationFault String :=
  match settings.table <|> Attribute.sharedText? "table_name" declaration.attributes with
  | none => .error .missingTable
  | some table => .ok table

/-- What a declaration says about its model. -/
def model (declaration : Declaration) : Except DeclarationFault DeclaredModel := do
  let fields ← declaration.fields
  let settings ← DeclaredSettings.ofAttributes declaration.attributes
  let table ← declaration.table settings
  let columns ← DeclaredColumns.ofFields fields
  return { table := table, pageLimit := settings.pageLimit, columns := columns }

end Declaration

end QueryGate
