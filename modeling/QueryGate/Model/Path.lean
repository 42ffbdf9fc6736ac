import QueryGate.Failure
import QueryGate.Model.Basic
import QueryGate.Text.Segments

/-!
# Field paths and relation paths

The last segment of a dotted field path is a column; what stands before the
last dot is a relation path. A relation path is walked from the root model, a
relation for each segment. The steps of the walk are hops, and a hop knows the
model that it starts from and, unless its relation has no fixed table, the
model that it reaches. Nothing can follow a hop of the latter kind.
-/

set_option autoImplicit false

namespace QueryGate

/-- The relation name that stands for the pivot table of a listing. -/
def pivotName : String := "pivot"

/-- A column, and the relation path to it when there is one. -/
structure FieldPath where
  relation : Option String
  field : String
deriving DecidableEq, Repr

namespace FieldPath

/-- The parts of a dotted path. -/
def ofText (path : String) : FieldPath :=
  match Text.splitAtLast '.' path.toList with
  | some (relation, field) => ⟨some (String.ofList relation), String.ofList field⟩
  | none => ⟨none, path⟩

/-- The dotted text of a path. -/
def text (path : FieldPath) : String :=
  match path.relation with
  | none => path.field
  | some relation => relation ++ "." ++ path.field

/-- Whether the path names a column of the pivot table. -/
def isPivot (path : FieldPath) : Bool :=
  path.relation == some pivotName

end FieldPath

/-- The names along a relation path. -/
def relationNames (path : String) : List String :=
  (Text.segments '.' path.toList).map String.ofList

/-- The alias of the table that a relation path reaches: its names joined by
two underscores. -/
def relationAlias (path : String) : String :=
  String.ofList (Text.substitute '.' ['_', '_'] path.toList)

/-- A relation path with one more name. -/
def extendPath (path name : String) : String :=
  if path.isEmpty then name else path ++ "." ++ name

/-- One step along a relation path. -/
structure Hop where
  name : String
  relation : Relation
  /-- The model that the hop starts from. -/
  parent : Model
  /-- The model that the hop reaches, when its table is fixed. -/
  related : Option Model
deriving DecidableEq, Repr

namespace Catalog

/-- The model that a relation reaches, `none` when its table is not fixed. -/
def related (catalog : Catalog) (root : Model) (name : String) (relation : Relation) :
    Except Failure (Option Model) :=
  match relation.relatedTable? with
  | none => .ok none
  | some table =>
      match catalog.modelOf? root table with
      | some model => .ok (some model)
      | none => .error (.misconfigured (.unregisteredModel table name))

/-- The hop from a model along one of its relations. -/
def hop (catalog : Catalog) (root parent : Model) (name : String) : Except Failure Hop :=
  match parent.relation? name with
  | none => .error (.misconfigured (.unknownRelation name parent.table))
  | some relation =>
      (catalog.related root name relation).map fun related => ⟨name, relation, parent, related⟩

/-- The hops along names, from the model reached so far. -/
def walk (catalog : Catalog) (root : Model) (path : String) :
    Option Model → List String → Except Failure (List Hop)
  | _, [] => .ok []
  | none, _ :: _ => .error (.misconfigured (.continuedPath path))
  | some parent, name :: names => do
      let hop ← catalog.hop root parent name
      let hops ← walk catalog root path hop.related names
      return hop :: hops

/-- The hops along a relation path from the root. -/
def resolve (catalog : Catalog) (root : Model) (path : String) : Except Failure (List Hop) :=
  catalog.walk root path (some root) (relationNames path)

end Catalog

end QueryGate
