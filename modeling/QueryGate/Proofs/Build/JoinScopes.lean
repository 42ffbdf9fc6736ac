import QueryGate.Proofs.Build.Apart
import QueryGate.Proofs.Build.Appending
import QueryGate.Proofs.Build.Skipping
import QueryGate.Proofs.Build.Walks

/-!
# The scopes of joined tables

The condition of a join can look at the tables that stand before it in the statement and at
the one that it brings in. The joins of a plan of orders keep to this: a condition looks at
the root table, at the joined table, and at tables that the plan has joined before.

What carries this from one order to the next is that the legs of a plan are closed under
the names before them. When a leg is joined, the rows that it starts from are those of the
root table or have been joined, be it for the same order, for an earlier one or for one that
was given up. Skipping an alias that has been joined keeps this, since the alias stays
joined, and so does giving up an order, since its legs so far are kept (`Grounded.add`,
`Grounded.addAll_legsAlong`).
-/

set_option autoImplicit false

namespace QueryGate

/-! ## Items and what is before them -/

section Lists

variable {α β : Type} {holds : List α → α → Prop}

/-- Each item of a list stands in a relation to the items before it. -/
def EachAfter (holds : List α → α → Prop) (items : List α) : Prop :=
  ∀ before item after, items = before ++ item :: after → holds before item

theorem eachAfter_nil : EachAfter holds [] := by
  intro before item after split
  simp at split

theorem eachAfter_cons {first : α} {rest : List α} :
    EachAfter holds (first :: rest) ↔
      holds [] first ∧ EachAfter (fun before item => holds (first :: before) item) rest :=
  forall_split_cons

theorem eachAfter_append {first second : List α} :
    EachAfter holds (first ++ second) ↔ EachAfter holds first ∧
      EachAfter (fun before item => holds (first ++ before) item) second := by
  induction first generalizing holds with
  | nil => simp [eachAfter_nil]
  | cons item first ih =>
      rw [List.cons_append, eachAfter_cons, ih, eachAfter_cons, and_assoc]
      rfl

theorem EachAfter.imp {implied : List α → α → Prop} {items : List α} (each : EachAfter holds items)
    (implies : ∀ before item, holds before item → implied before item) :
    EachAfter implied items :=
  fun before item after split => implies before item (each before item after split)

theorem eachAfter_flatMap {holds : List β → β → Prop} {function : α → List β} {items : List α} :
    EachAfter holds (items.flatMap function) ↔
      EachAfter (fun before item =>
        EachAfter (fun inner value => holds (before.flatMap function ++ inner) value)
          (function item)) items := by
  induction items generalizing holds with
  | nil => simp [eachAfter_nil]
  | cons item items ih =>
      rw [List.flatMap_cons, eachAfter_append, ih, eachAfter_cons]
      simp only [List.flatMap_nil, List.nil_append, List.flatMap_cons, List.append_assoc]

theorem eachAfter_singleton {item : α} : EachAfter holds [item] ↔ holds [] item := by
  rw [eachAfter_cons, and_iff_left eachAfter_nil]

/-- The values that a partial function has are those of the items where it has one. -/
theorem forall₂_filterMap {function : α → Option β} {has : α → Bool} {related : α → β → Prop}
    {items : List α} (defined : ∀ item, (function item).isSome = has item)
    (relates : ∀ item ∈ items, ∀ value, function item = some value → related item value) :
    List.Forall₂ related (items.filter has) (items.filterMap function) := by
  induction items with
  | nil => exact .nil
  | cons item items ih =>
      obtain ⟨here, later⟩ := List.forall_mem_cons.mp relates
      have same := defined item
      cases found : function item with
      | none =>
          rw [found] at same
          rw [List.filterMap_cons_none found, List.filter_cons_of_neg (by simp [← same])]
          exact ih later
      | some value =>
          rw [found] at same
          rw [List.filterMap_cons_some found, List.filter_cons_of_pos same.symm]
          exact .cons (here value found) (ih later)

end Lists

/-! ## Scopes -/

namespace Sql

/-- A condition refers to nothing but columns of tables that go by one of the names. -/
def Condition.LooksAt (names : List String) (condition : Condition) : Prop :=
  ∀ reference ∈ condition.references, ∃ column, reference = .column column ∧ column.table ∈ names

/-- The condition of a join looks at nothing but the root table, the joined table, and
tables that are joined before it. -/
def Join.Scoped (root : String) (before : List Join) (join : Join) : Prop :=
  join.condition.LooksAt
    (root :: join.source.rowName :: before.map fun other => other.source.rowName)

end Sql

section Conditions

variable {names : List String}

theorem looksAt_conjunction {conditions : List Sql.Condition} :
    (conjunction conditions).LooksAt names ↔ ∀ condition ∈ conditions, condition.LooksAt names := by
  simp only [Sql.Condition.LooksAt, references_conjunction, List.mem_flatMap]
  constructor
  · intro all condition among reference member
    exact all reference ⟨condition, among, member⟩
  · rintro each reference ⟨condition, among, member⟩
    exact each condition among reference member

theorem looksAt_columnsEqual {left right : Sql.Column} (first : left.table ∈ names)
    (second : right.table ∈ names) : (columnsEqual left right).LooksAt names := by
  intro reference member
  rcases List.mem_cons.mp member with rfl | member
  · exact ⟨left, rfl, first⟩
  · exact ⟨right, List.mem_singleton.mp member, second⟩

theorem looksAt_classCondition? {hopAlias : String} (own : hopAlias ∈ names) (keys : JoinKeys) :
    ∀ condition ∈ (keys.classCondition? hopAlias).toList, condition.LooksAt names := by
  unfold JoinKeys.classCondition?
  cases keys.morph <;>
    simp [Sql.Condition.LooksAt, Sql.Condition.references, Sql.Operand.references, own]

theorem looksAt_liveCondition? {hopAlias : String} (own : hopAlias ∈ names) (related : Model) :
    ∀ condition ∈ (related.liveCondition? hopAlias).toList, condition.LooksAt names := by
  unfold Model.liveCondition?
  cases related.softDelete <;>
    simp [Sql.Condition.LooksAt, Sql.Condition.references, Sql.Operand.references, own]

end Conditions

/-! ## The joins of one leg -/

namespace Leg

/-- The tables that a leg joins, each under its alias: the related table, and directly
before it the pivot table where the leg goes through one. -/
def sources (leg : Leg) : List Sql.Source :=
  match leg.keys.pivot with
  | none => [⟨leg.keys.table, some leg.hopAlias⟩]
  | some pivot =>
      [⟨leg.keys.table, some (pivotAlias leg.hopAlias)⟩, ⟨pivot.table, some leg.hopAlias⟩]

variable (context : Context) (leg : Leg)

theorem map_source_joins : (leg.joins context).map Sql.Join.source = leg.sources := by
  rw [joins, hopJoins, sources]
  cases leg.keys.pivot <;> rfl

theorem kind_of_mem_joins : ∀ join ∈ leg.joins context, join.kind = .left := by
  rw [joins, hopJoins]
  cases leg.keys.pivot <;> simp

/-- A leg binds its alias. -/
theorem hopAlias_mem_rowNames :
    leg.hopAlias ∈ (leg.joins context).map fun join => join.source.rowName := by
  rw [rowNames_joins]
  exact JoinKeys.mem_boundNames_iff.mpr (.inl rfl)

variable {context leg}

/-- The joins of a leg are scoped behind joins that bring in the rows it starts from. -/
theorem scoped_joins {passed : List Sql.Join}
    (starts : context.rowName leg.before ∈
      context.root.table :: passed.map fun other => other.source.rowName) :
    EachAfter (fun before join => join.Scoped context.root.table (passed ++ before))
      (leg.joins context) := by
  have parent (own : String) (before : List Sql.Join) : context.rowName leg.before ∈
      context.root.table :: own :: (passed ++ before).map fun other => other.source.rowName := by
    rcases List.mem_cons.mp starts with root | earlier
    · exact root ▸ List.mem_cons_self
    · rw [List.map_append]
      exact List.mem_cons_of_mem _ (List.mem_cons_of_mem _ (List.mem_append_left _ earlier))
  have own (name : String) (rest : List String) : name ∈ context.root.table :: name :: rest :=
    List.mem_cons_of_mem _ List.mem_cons_self
  rw [joins, hopJoins]
  cases through : leg.keys.pivot with
  | none =>
      refine eachAfter_singleton.mpr (looksAt_conjunction.mpr ?_)
      rw [List.cons_append, List.forall_mem_cons, List.forall_mem_append]
      refine ⟨looksAt_columnsEqual ?_ (parent _ _), looksAt_classCondition? (own _ _) _,
        looksAt_liveCondition? (own _ _) _⟩
      rw [JoinKeys.keyAlias, through]
      exact own _ _
  | some pivot =>
      refine eachAfter_cons.mpr ⟨looksAt_conjunction.mpr ?_,
        eachAfter_singleton.mpr (looksAt_conjunction.mpr ?_)⟩
      · refine List.forall_mem_singleton.mpr (looksAt_columnsEqual ?_ (parent _ _))
        rw [JoinKeys.keyAlias, through]
        exact own _ _
      · refine List.forall_mem_cons.mpr
          ⟨looksAt_columnsEqual (own _ _) ?_, looksAt_liveCondition? (own _ _) _⟩
        -- The pivot table is the one joined directly before.
        simp [Sql.Source.rowName]

end Leg

/-! ## Legs one after another -/

/-- Each leg starts from the root table, or from the alias of a leg that is passed before
it. -/
def Grounded (passed : List Leg) : Prop :=
  EachAfter (fun before leg => leg.before = [] ∨ pathAlias leg.before ∈ before.map Leg.hopAlias)
    passed

namespace Grounded

variable {passed : List Leg}

/-- One more leg can be passed where the rows that it starts from have been. -/
theorem add (grounded : Grounded passed) {leg : Leg}
    (starts : leg.before = [] ∨ pathAlias leg.before ∈ passed.map Leg.hopAlias) :
    Grounded (Leg.add passed leg) := by
  rw [Leg.add]
  split
  · exact grounded
  · refine eachAfter_append.mpr ⟨grounded, eachAfter_singleton.mpr ?_⟩
    rwa [List.append_nil]

/-- The legs along hops can be passed where the rows that they start from have been. Each
leads to the next, whether it is joined or its alias was joined already. -/
theorem addAll_legsAlong (grounded : Grounded passed) (hops : List Hop) {before : List String}
    (starts : before = [] ∨ pathAlias before ∈ passed.map Leg.hopAlias) :
    Grounded (Leg.addAll passed (legsAlong before hops)) := by
  induction hops generalizing passed before with
  | nil => exact grounded
  | cons hop rest ih =>
      rw [legsAlong]
      split
      · next keys related joined led =>
          let leg : Leg := ⟨before, hop.name, keys, related⟩
          -- Also a leg that is passed over has its alias among those that have been passed.
          have reached : pathAlias (before ++ [hop.name]) ∈
              (Leg.addAll passed [leg]).map Leg.hopAlias := by
            rw [Leg.mem_aliases_addAll]
            exact .inr List.mem_cons_self
          have further : Grounded (Leg.add passed leg) := grounded.add starts
          exact ih further (.inr reached)
      · exact grounded

/-- The legs of orders can be passed one order after another. -/
theorem addAll_legs (grounded : Grounded passed) (context : Context) (keys : List SortKey) :
    Grounded (Leg.addAll passed (keys.flatMap context.legs)) := by
  induction keys generalizing passed with
  | nil => exact grounded
  | cons key keys ih =>
      rw [List.flatMap_cons, Leg.addAll_append]
      exact ih (grounded.addAll_legsAlong (context.orderHops key) (.inl rfl))

/-- The joins of the legs are scoped. -/
theorem scoped_joins (grounded : Grounded passed) (context : Context) :
    EachAfter (Sql.Join.Scoped context.root.table) (passed.flatMap (Leg.joins context)) := by
  refine eachAfter_flatMap.mpr (EachAfter.imp grounded fun before leg starts => ?_)
  apply Leg.scoped_joins
  cases path : leg.before with
  | nil => exact List.mem_cons_self
  | cons name names =>
      rw [path] at starts
      obtain ⟨other, passed, same⟩ := List.mem_map.mp (starts.resolve_left (List.cons_ne_nil _ _))
      have bound := other.hopAlias_mem_rowNames context
      refine List.mem_cons_of_mem _ ?_
      rw [Context.rowName, ← same, List.map_flatMap]
      exact List.mem_flatMap.mpr ⟨other, passed, bound⟩

end Grounded

/-! ## Plans -/

/-- The term of an order: the last segment of its field, as a column of the root table, of
the pivot table, or of the rows that are joined under the alias of its relation path. This
is the path with two underscores for each dot, unless it starts with a dot. -/
inductive Context.TermOf (context : Context) (joined : List Leg) (key : SortKey) :
    Sql.OrderTerm → Prop where
  | root (own : (FieldPath.ofText key.field).relation = none) :
      TermOf context joined key
        ⟨⟨context.root.table, (FieldPath.ofText key.field).field⟩, key.direction⟩
  | pivot {pivot : PivotTable} (through : (FieldPath.ofText key.field).relation = some pivotName)
      (listed : context.pivot = some pivot) :
      TermOf context joined key
        ⟨⟨pivot.table, (FieldPath.ofText key.field).field⟩, key.direction⟩
  | related {path : String} (along : (FieldPath.ofText key.field).relation = some path)
      (other : path ≠ pivotName)
      (reached : pathAlias (relationNames path) ∈ joined.map Leg.hopAlias)
      (written : path.toList.head? ≠ some '.' →
        pathAlias (relationNames path) = relationAlias path) :
      TermOf context joined key
        ⟨⟨pathAlias (relationNames path), (FieldPath.ofText key.field).field⟩, key.direction⟩

/-- The joins of a plan of orders are those of legs of the orders: every alias is joined
once, at a leg that starts from the root table or from a leg joined before it. A leg joins
its table, directly behind the pivot table where it goes through one, and every condition
looks at nothing but the root table, the table that it joins, and those joined before.
The aliases that are counted are those of relations. That of a pivot table is made from the
alias of its relation, and nothing keeps another relation from having it as well. -/
structure SortPlan.JoinsScoped (context : Context) (keys : List SortKey) (plan : SortPlan)
    (joined : List Leg) : Prop where
  among : ∀ leg ∈ joined, leg ∈ keys.flatMap context.legs
  covers : ∀ leg ∈ keys.flatMap context.legs, leg.hopAlias ∈ joined.map Leg.hopAlias
  once : (joined.map Leg.hopAlias).Nodup
  parents : Grounded joined
  joins : plan.joins = joined.flatMap (Leg.joins context)
  sources : plan.joins.map Sql.Join.source = joined.flatMap Leg.sources
  kinds : ∀ join ∈ plan.joins, join.kind = .left
  conditions : EachAfter (Sql.Join.Scoped context.root.table) plan.joins

variable {context : Context} {keys : List SortKey} {plan : SortPlan}

/-- The joins of a plan are those of the legs that it passes. -/
theorem joinsScoped_of_planned (planned : sortPlan context keys = (plan, none)) :
    plan.JoinsScoped context keys (Leg.addAll [] (keys.flatMap context.legs)) := by
  have made := sortPlan_made planned
  have grounded : Grounded (Leg.addAll [] (keys.flatMap context.legs)) :=
    Grounded.addAll_legs eachAfter_nil context keys
  have none : (([] : List Leg).map Leg.hopAlias).Nodup := List.nodup_nil
  obtain ⟨once, among⟩ := Leg.nodup_addAll (keys.flatMap context.legs) none
  constructor
  case among => exact fun leg member => (among leg member).resolve_left List.not_mem_nil
  case covers =>
    intro leg member
    rw [Leg.mem_aliases_addAll]
    exact .inr (List.mem_map_of_mem member)
  case once => exact once
  case parents => exact grounded
  case joins => exact made.joins
  case sources =>
    rw [made.joins, List.map_flatMap]
    simp only [Leg.map_source_joins]
  case kinds =>
    intro join member
    rw [made.joins] at member
    obtain ⟨leg, _, among⟩ := List.mem_flatMap.mp member
    exact leg.kind_of_mem_joins context join among
  case conditions =>
    rw [made.joins]
    exact grounded.scoped_joins context

/-- The term of an order looks where the order leads. -/
theorem termOf_orderTerm? (planned : sortPlan context keys = (plan, none)) {key : SortKey}
    (listed : key ∈ keys) {term : Sql.OrderTerm} (has : context.orderTerm? key = some term) :
    context.TermOf (Leg.addAll [] (keys.flatMap context.legs)) key term := by
  obtain ⟨_, added⟩ := exists_addKey_of_planned planned listed
  unfold Context.orderTerm? at has
  split at has
  · cases has
  · next unskipped =>
      unfold Context.orderTable? at has
      cases SortPlan.adds_of_addKey added with
      | root own =>
          rw [own] at has
          cases has
          exact .root own
      | pivot through present =>
          simp only [through, present, if_true, Option.map_some] at has
          cases has
          exact .pivot through present
      | pivotless through absent =>
          simp only [through, absent, if_true, Option.map_none] at has
          cases has
      | @related path hops along other walked joins =>
          simp only [along, if_neg other, Option.map_some] at has
          obtain rfl := Option.some.inj has
          have fixed := (Context.joins_iff_of_resolve walked).mp joins
          obtain ⟨leg, leads⟩ := exists_ordersBy planned listed along other walked fixed
          have among : leg ∈ keys.flatMap context.legs :=
            List.mem_flatMap.mpr ⟨key, listed, List.mem_of_getLast? leads.last⟩
          have same : leg.hopAlias = pathAlias (relationNames path) := by
            rw [Leg.hopAlias, leads.names, Context.names_of_resolve walked]
          refine .related along other ?_ (pathAlias_relationNames _)
          rw [← same]
          exact (joinsScoped_of_planned planned).covers leg among
      | loose along other walked loose =>
          have last := eq_true_of_ne_false (mt (Context.joins_iff_last walked).mpr loose)
          have skipped : context.skips key = true := by
            simp [Context.skips, Context.orderHops, along, other, walked, last, Except.toOption]
          exact absurd skipped unskipped

/-- The plan of orders adds a term for each order that is not skipped, in their order, and
scoped joins, among them those that the terms look at. A statement with the plan has these
behind its own, and its output is that of the root table exactly where there are joins. -/
theorem sortPlan_scopes (planned : sortPlan context keys = (plan, none)) :
    ∃ joined, plan.JoinsScoped context keys joined ∧
      List.Forall₂ (context.TermOf joined) (keys.filter fun key => !context.skips key)
        plan.orders ∧
      (plan.hasJoins = true ↔ plan.joins ≠ []) ∧
      ∀ select : Sql.Select, plan.apply context.root.table select =
        { select with
          joins := select.joins ++ plan.joins
          orders := select.orders ++ plan.orders
          outputs := if plan.joins = [] then select.outputs else [.allOf context.root.table] } := by
  have hasJoins : plan.hasJoins = true ↔ plan.joins ≠ [] := by
    have same := hasJoins_sortPlan context keys
    rwa [planned] at same
  refine ⟨_, joinsScoped_of_planned planned, ?_, hasJoins, fun select => ?_⟩
  · rw [(sortPlan_made planned).orders]
    refine forall₂_filterMap Context.isSome_orderTerm? fun key listed term has => ?_
    exact termOf_orderTerm? planned listed has
  · rw [SortPlan.apply]
    by_cases joined : plan.hasJoins = true
    · rw [if_pos joined, if_neg (hasJoins.mp joined)]
      rfl
    · rw [if_neg joined, if_pos (not_not.mp (mt hasJoins.mpr joined))]
      rfl

/-- Posts in teams with members, whose rows name the tables of their subjects. -/
def memberTeams : Context :=
  { backend := .sqlite
    root := { table := "posts", relations := [("team", .belongsTo "teams" "team_id" "id")] }
    catalog :=
      [("teams",
          { table := "teams"
            relations :=
              [("subject", .polymorphicTo "subject"),
                ("members", .throughPivot "users" "memberships" "team_id" "user_id")] }),
        ("users", { table := "users" })] }

/-- Orders by the subject of the team, by its members, by its name, and by the title. -/
def memberOrders : List SortKey :=
  [⟨"team.subject.name", .ascending⟩, ⟨"team.members.name", .descending⟩,
    ⟨"team.name", .ascending⟩, ⟨"title", .ascending⟩]

/-- The order by the subject is given up when the team has been joined. The orders after it
go along the team as well, which stays joined once, before its members. -/
theorem sortPlan_scopes_memberTeams :
    ∃ plan joined, sortPlan memberTeams memberOrders = (plan, none) ∧
      plan.JoinsScoped memberTeams memberOrders joined ∧
      plan.joins.map Sql.Join.source =
        [⟨"teams", some "team"⟩, ⟨"memberships", some "team__members__pivot"⟩,
          ⟨"users", some "team__members"⟩] ∧
      plan.orders =
        [⟨⟨"team__members", "name"⟩, .descending⟩, ⟨⟨"team", "name"⟩, .ascending⟩,
          ⟨⟨"posts", "title"⟩, .ascending⟩] ∧
      ∀ select, (plan.apply "posts" select).outputs = [.allOf "posts"] := by
  have plans : ∃ plan, sortPlan memberTeams memberOrders = (plan, none) ∧
      plan.joins.map Sql.Join.source =
        [⟨"teams", some "team"⟩, ⟨"memberships", some "team__members__pivot"⟩,
          ⟨"users", some "team__members"⟩] ∧
      plan.orders =
        [⟨⟨"team__members", "name"⟩, .descending⟩, ⟨⟨"team", "name"⟩, .ascending⟩,
          ⟨⟨"posts", "title"⟩, .ascending⟩] := ⟨_, rfl, rfl, rfl⟩
  obtain ⟨plan, planned, sources, orders⟩ := plans
  obtain ⟨joined, holds, _, _, applied⟩ := sortPlan_scopes planned
  refine ⟨plan, joined, planned, holds, sources, orders, fun select => ?_⟩
  have some : plan.joins ≠ [] := by
    intro none
    rw [none] at sources
    cases sources
  have outputs := congrArg Sql.Select.outputs (applied select)
  rw [if_neg some] at outputs
  exact outputs

end QueryGate
