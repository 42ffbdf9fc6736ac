import QueryGate.Build.Existence
import QueryGate.Event
import QueryGate.Query.Basic

/-!
# Orders

An order by a related column needs the related table in the statement, so every
hop of its relation path is joined under the alias of the path. Each alias is
joined once, however many orders go through it. The work is a plan first: the
joins and the orders that the keys add, one key after another. Applying a plan
with joins also reduces the output to the columns of the root table, since
joined columns would collide with them.
-/

set_option autoImplicit false

namespace QueryGate

/-- What orders add to a statement. -/
structure SortPlan where
  /-- The relation aliases that are joined. -/
  aliases : List String := []
  joins : List Sql.Join := []
  orders : List Sql.OrderTerm := []
  events : List Event := []

/-- The conjunction of conditions. -/
def conjunction (conditions : List Sql.Condition) : Sql.Condition :=
  (conditions.foldl Sql.Group.add .all).toCondition

/-- The joins of one hop. A pivot table is joined before its related table. -/
def hopJoins (keys : JoinKeys) (related : Model) (hopAlias parentAlias : String) :
    List Sql.Join :=
  let tie := keys.tie hopAlias parentAlias
  let live := (related.liveCondition? hopAlias).toList
  match keys.pivot with
  | some pivot =>
      let relatedTie :=
        columnsEqual ⟨hopAlias, pivot.relatedKey⟩ ⟨pivotAlias hopAlias, pivot.relatedPivotKey⟩
      [⟨.left, ⟨keys.table, some (pivotAlias hopAlias)⟩, conjunction [tie]⟩,
        ⟨.left, ⟨pivot.table, some hopAlias⟩, conjunction (relatedTie :: live)⟩]
  | none =>
      [⟨.left, ⟨keys.table, some hopAlias⟩,
        conjunction (tie :: (keys.classCondition? hopAlias).toList ++ live)⟩]

namespace SortPlan

/-- The plan with an event. -/
def note (plan : SortPlan) (event : Event) : SortPlan :=
  { plan with events := plan.events ++ [event] }

/-- The plan with the joins of one alias, unless it has them. -/
def join (plan : SortPlan) (hopAlias : String) (joins : List Sql.Join) : SortPlan :=
  if plan.aliases.contains hopAlias then plan
  else { plan with aliases := plan.aliases ++ [hopAlias], joins := plan.joins ++ joins }

/-- The plan with an order. -/
def order (plan : SortPlan) (table field : String) (direction : Sql.Direction) : SortPlan :=
  { plan with orders := plan.orders ++ [⟨⟨table, field⟩, direction⟩] }

/-- The plan with the joins of hops, and the alias of the last one. There is no
alias when a relation has no fixed table; the hops before it stay joined. -/
def joinHops : SortPlan → List Hop → (parentAlias path : String) → SortPlan × Option String
  | plan, [], parentAlias, _ => (plan, some parentAlias)
  | plan, hop :: rest, parentAlias, path =>
      let hopPath := extendPath path hop.name
      let hopAlias := relationAlias hopPath
      match hop.relation.joinKeys?, hop.related with
      | some keys, some related =>
          joinHops (plan.join hopAlias (hopJoins keys related hopAlias parentAlias)) rest
            hopAlias hopPath
      | _, _ => (plan.note (.skippedLooseSort hopPath), none)

/-- The plan with one more key. A key that names no column is skipped. -/
def addKey (context : Context) (plan : SortPlan) (key : SortKey) : Except Failure SortPlan :=
  let path := FieldPath.ofText key.field
  match path.relation with
  | none => .ok (plan.order context.root.table path.field key.direction)
  | some relation =>
      if relation = pivotName then
        match context.pivot with
        | some pivot => .ok (plan.order pivot.table path.field key.direction)
        | none => .ok (plan.note (.skippedPivotSort key.field))
      else do
        let hops ← context.resolve relation
        let (joined, reached) := plan.joinHops hops context.root.table ""
        return match reached with
          | some table => joined.order table path.field key.direction
          | none => joined

/-- The plan with keys one after another, up to the first that fails. -/
def addKeys (context : Context) (plan : SortPlan) : List SortKey → SortPlan × Option Failure
  | [] => (plan, none)
  | key :: keys =>
      match plan.addKey context key with
      | .ok next => addKeys context next keys
      | .error failure => (plan, some failure)

/-- Whether any relation is joined. -/
def hasJoins (plan : SortPlan) : Bool :=
  !plan.aliases.isEmpty

/-- The statement with the joins and the orders of a plan. -/
def extend (plan : SortPlan) (select : Sql.Select) : Sql.Select :=
  { select with
    joins := select.joins ++ plan.joins
    orders := select.orders ++ plan.orders }

/-- The statement with a finished plan: where relations are joined, the output
is the columns of the root table. -/
def apply (plan : SortPlan) (root : String) (select : Sql.Select) : Sql.Select :=
  let extended := plan.extend select
  if plan.hasJoins then { extended with outputs := [.allOf root] } else extended

end SortPlan

/-- The plan for the keys of a query, and the failure that ended it, if any. -/
def sortPlan (context : Context) (keys : List SortKey) : SortPlan × Option Failure :=
  SortPlan.addKeys context {} keys

end QueryGate
