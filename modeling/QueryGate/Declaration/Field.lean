import QueryGate.Declaration.Attribute
import QueryGate.Declaration.FieldType

/-!
# Declared fields

A field has a name, a type and attributes. Its column is named by the shared
attributes or else by the field, and its flags say what queries may do with the
column. Only whether a flag is present counts, never how often or where.
-/

set_option autoImplicit false

namespace QueryGate

/-- A declared field. -/
structure DeclaredField where
  name : String
  type : FieldType
  attributes : List Attribute

/-- What a field is marked as. -/
inductive FieldFlag where
  | filterable
  | sortable
  | searchable
  | date
  | softDelete
  | primaryKey
deriving DecidableEq, Repr

namespace FieldFlag

/-- The flag of a name. -/
def ofText? : String → Option FieldFlag
  | "filterable" => some filterable
  | "sortable" => some sortable
  | "searchable" => some searchable
  | "date" => some date
  | "soft_delete" => some softDelete
  | "primary_key" => some primaryKey
  | _ => none

/-- The flag that a member of a field's list sets. -/
def ofMember : Member → Except DeclarationFault FieldFlag
  | .flag path =>
      match path.name?.bind ofText? with
      | none => .error .unknownFlag
      | some flag => .ok flag
  | _ => .error .expectedFlag

end FieldFlag

namespace DeclaredField

/-- The column of the field. -/
def column (field : DeclaredField) : String :=
  (Attribute.sharedText? "column_name" field.attributes).getD field.name

/-- The flags of the field. The primary key is also marked by the shared
attributes. -/
def flags (field : DeclaredField) : Except DeclarationFault (List FieldFlag) := do
  let members ← Attribute.queryMembers field.attributes
  let own ← members.mapM FieldFlag.ofMember
  return if Attribute.hasSharedFlag "primary_key" field.attributes then .primaryKey :: own else own

end DeclaredField

end QueryGate
