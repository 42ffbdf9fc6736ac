import QueryGate.Build.Context

/-!
# The existence of related rows

A condition on a related row asks whether such a row exists. Every hop of the
relation path becomes one existence condition inside the one before it. Its
source is the related table under the alias of the path so far, linked through
the pivot table of a many-to-many relation; its restriction ties the row to the
row of the hop before, leaves out rows of another class and deleted rows, and
holds the next hop or, at the last one, the condition asked for.
-/

set_option autoImplicit false

namespace QueryGate

/-- Two columns are equal. -/
def columnsEqual (left right : Sql.Column) : Sql.Condition :=
  .compare .equal (.column left) (.column right)

/-- The alias of the pivot table of the relation with the given alias. -/
def pivotAlias (hopAlias : String) : String :=
  hopAlias ++ "__pivot"

/-- The alias whose foreign key ties a hop to the row before it: the pivot table
where there is one, and the related table elsewhere. -/
def JoinKeys.keyAlias (keys : JoinKeys) (hopAlias : String) : String :=
  match keys.pivot with
  | some _ => pivotAlias hopAlias
  | none => hopAlias

/-- The equality that ties a hop to the row before it. -/
def JoinKeys.tie (keys : JoinKeys) (hopAlias parentAlias : String) : Sql.Condition :=
  columnsEqual ⟨keys.keyAlias hopAlias, keys.foreignKey⟩ ⟨parentAlias, keys.localKey⟩

/-- The condition on the class of the parent, for a polymorphic relation. -/
def JoinKeys.classCondition? (keys : JoinKeys) (hopAlias : String) : Option Sql.Condition :=
  keys.morph.map fun tag =>
    .compare .equal (.column ⟨hopAlias, tag.column⟩) (.value (.text tag.className))

/-- The condition that a row of the model is not deleted, when the model marks
deleted rows. -/
def Model.liveCondition? (model : Model) (name : String) : Option Sql.Condition :=
  model.softDelete.map fun column => .isNull false (.column ⟨name, column⟩)

/-- The related table of a hop, and the link from the pivot table when the hop
starts there. -/
def JoinKeys.sources (keys : JoinKeys) (hopAlias : String) : Sql.Source × Option Sql.Link :=
  match keys.pivot with
  | none => (⟨keys.table, some hopAlias⟩, none)
  | some pivot =>
      (⟨keys.table, some (pivotAlias hopAlias)⟩,
        some
          { source := ⟨pivot.table, some hopAlias⟩
            left := ⟨pivotAlias hopAlias, pivot.relatedPivotKey⟩
            right := ⟨hopAlias, pivot.relatedKey⟩ })

/-- What a hop asks of its row, whatever the query asks: the tie to the row
before, the class, and that the row is not deleted. -/
def JoinKeys.standing (keys : JoinKeys) (related : Model) (hopAlias parentAlias : String) :
    List Sql.Condition :=
  keys.tie hopAlias parentAlias ::
    (keys.classCondition? hopAlias).toList ++ (related.liveCondition? hopAlias).toList

/-- The existence of a row of one hop that the group holds of as well. -/
def hopExists (keys : JoinKeys) (related : Model) (hopAlias parentAlias : String)
    (inner : Sql.Group) : Sql.Condition :=
  let (source, link) := keys.sources hopAlias
  let standing := (keys.standing related hopAlias parentAlias).foldl Sql.Group.add .all
  .existsRow source link (standing.addGroup inner).toCondition

/-- The existence of rows along hops, starting at the row of `parentAlias` and
the relation path `path`. The condition on the last row is made from its alias
and its model. -/
def relatedExists (inner : String → Model → Except Failure Sql.Group) :
    List Hop → (parentAlias path : String) → Except Failure Sql.Condition
  | [], _, _ => .error (.misconfigured .emptyPath)
  | hop :: rest, parentAlias, path => do
      let hopPath := extendPath path hop.name
      let hopAlias := relationAlias hopPath
      match hop.relation.joinKeys?, hop.related with
      | some keys, some related =>
          let constraint ←
            match rest with
            | [] => inner hopAlias related
            | _ :: _ => (relatedExists inner rest hopAlias hopPath).map Sql.Group.one
          return hopExists keys related hopAlias parentAlias constraint
      | _, _ => .error (.misconfigured (.looseRelation hopPath hop.parent.table))

/-- The existence of a row that a relation path from the root row reaches. -/
def Context.pathExists (context : Context) (path : String)
    (inner : String → Model → Except Failure Sql.Group) : Except Failure Sql.Condition := do
  let hops ← context.resolve path
  relatedExists inner hops context.root.table ""

end QueryGate
