import QueryGate.Build.Filters
import QueryGate.Build.Sorting
import QueryGate.Proofs.Filter.Gathering
import QueryGate.Proofs.Model.Declared

/-!
# What filters and orders refer to

A built filter refers to nothing but what the owner declares of the hops on declared
paths, and to the columns that the fields of its tests name (`references_filterGroup`).
The joins of a finished plan refer only to what is declared of hops, and its orders only
to columns that the fields of its keys name (`sortPlan_refers`).

A field path is resolved before anything is built along it, so the hops in the
condition or the joins are those of the walk. The walk and the building go together,
name by name, under the alias of the path so far.
-/

set_option autoImplicit false

namespace QueryGate

open QueryGate.Filter (listTests)
open Sql (Reference)

/-! ## The column of a field -/

/-- The column that a field of a request names: of the root table or the pivot table,
or of the rows that its relation path reaches. It is always the last segment. -/
inductive FieldColumn (context : Context) : String → Sql.Column → Prop where
  | root {field : String} (single : '.' ∉ field.toList) :
      FieldColumn context field ⟨context.root.table, field⟩
  | pivot {pivot : PivotTable} {field : String} (listed : context.pivot = some pivot)
      (last : '.' ∉ field.toList) :
      FieldColumn context (pivotName ++ "." ++ field) ⟨pivot.table, field⟩
  | related {relation field : String} {model : Model} (other : relation ≠ pivotName)
      (declared : DeclaredPath context (relationNames relation) model)
      (last : '.' ∉ field.toList) :
      FieldColumn context (relation ++ "." ++ field) ⟨pathAlias (relationNames relation), field⟩

/-- What a test of a field may refer to. -/
def FieldReference (context : Context) (field : String) (reference : Reference) : Prop :=
  DeclaredReference context reference ∨
    ∃ column, reference = .column column ∧ FieldColumn context field column

/-! ## Predicates on a column -/

theorem references_containment (backend : Sql.Backend) (operand : Sql.Operand) (scalar : Scalar) :
    (containment backend operand scalar).references = operand.references := by
  cases backend <;> rfl

theorem references_scalarCondition (backend : Sql.Backend) (operand : Sql.Operand)
    (operator : Operator) (scalar : Scalar) :
    (scalarCondition backend operand operator scalar).references = operand.references := by
  cases operator with
  | containsAll => exact references_containment backend operand scalar
  | containsAny => exact references_containment backend operand scalar
  | _ =>
      simp only [scalarCondition, Sql.Condition.references, Sql.Operand.references,
        List.append_nil]

theorem references_dateCondition (backend : Sql.Backend) (operand : Sql.Operand)
    (comparison : Sql.Comparison) (scalar : Scalar) :
    (dateCondition backend operand comparison scalar).references = operand.references :=
  List.append_nil _

theorem references_membership (backend : Sql.Backend) (operand : Sql.Operand) (operator : Operator)
    (values : List Scalar) :
    ∀ reference ∈ (membership backend operand operator values).references,
      reference ∈ operand.references := by
  have contained (group : Sql.Group) (empty : group.references = []) :
      ∀ reference ∈
          ((values.map (containment backend operand)).foldl Sql.Group.add group).references,
        reference ∈ operand.references := by
    intro reference member
    rw [Sql.Group.references_foldl_add, empty, List.nil_append, List.flatMap_map] at member
    obtain ⟨scalar, _, found⟩ := List.mem_flatMap.mp member
    exact references_containment backend operand scalar ▸ found
  have among (negated : Bool) :
      (Sql.Group.one (.among negated operand (values.map Scalar.toValue))).references =
        operand.references :=
    Sql.Group.references_one _
  intro reference member
  unfold membership at member
  split at member
  · exact absurd member List.not_mem_nil
  · split at member
    · exact contained .all rfl reference member
    · exact contained .any rfl reference member
    · exact among true ▸ member
    · exact among false ▸ member

/-- A predicate refers to its column only. -/
theorem references_predicate {backend : Sql.Backend} {target : Target} {test : FieldTest}
    {group : Sql.Group} (made : predicate backend target test = .ok group) :
    ∀ reference ∈ group.references, reference = .column target.column := by
  have sole {condition : Sql.Condition}
      (same : condition.references = target.operand.references) :
      ∀ reference ∈ (Sql.Group.one condition).references, reference = .column target.column := by
    intro reference member
    rw [Sql.Group.references_one, same] at member
    exact List.mem_singleton.mp member
  unfold predicate at made
  split at made
  · split at made
    · cases made
      exact sole rfl
    · cases made
      exact sole rfl
    · cases made
  · split at made
    · cases made
      exact sole (references_dateCondition _ _ _ _)
    · cases made
      exact sole (references_scalarCondition _ _ _ _)
  · split at made
    · cases made
      intro reference member
      exact List.mem_singleton.mp (references_membership _ _ _ _ reference member)
    · cases made

/-! ## Hops -/

section Hops

variable {context : Context} {names : List String} {name : String} {keys : JoinKeys}
  {related : Model}

/-- The tie, the class and the mark of deletion are declared of the hop. -/
theorem references_standing :
    ∀ condition ∈ keys.standing related (pathAlias (names ++ [name])) (context.rowName names),
      ∀ reference ∈ condition.references,
        HopReference context names name keys related reference := by
  intro condition member reference found
  rcases List.mem_append.mp member with tieOrClass | live
  · rcases List.mem_cons.mp tieOrClass with rfl | classed
    · rcases List.mem_cons.mp found with rfl | found
      · exact .foreignKey
      · rw [List.mem_singleton.mp found]
        exact .localKey
    · cases polymorphic : keys.morph with
      | none =>
          rw [JoinKeys.classCondition?, polymorphic] at classed
          exact absurd classed List.not_mem_nil
      | some tag =>
          rw [JoinKeys.classCondition?, polymorphic] at classed
          cases List.mem_singleton.mp classed
          rw [List.mem_singleton.mp found]
          exact .className polymorphic
  · cases marked : related.softDelete with
    | none =>
        rw [Model.liveCondition?, marked] at live
        exact absurd live List.not_mem_nil
    | some column =>
        rw [Model.liveCondition?, marked] at live
        cases List.mem_singleton.mp live
        rw [List.mem_singleton.mp found]
        exact .softDelete marked

/-- The tables that a hop brings in, and the step between them, are declared of it. -/
theorem references_sources :
    ∀ reference ∈
        Reference.source (keys.sources (pathAlias (names ++ [name]))).1 ::
          (keys.sources (pathAlias (names ++ [name]))).2.toList.flatMap Sql.Link.references,
      HopReference context names name keys related reference := by
  have first : HopReference context names name keys related
      (.source ⟨keys.table, some (keys.keyAlias (pathAlias (names ++ [name])))⟩) := .joined
  unfold JoinKeys.keyAlias at first
  unfold JoinKeys.sources
  intro reference member
  cases through : keys.pivot with
  | none =>
      rw [through] at first member
      rw [List.mem_singleton.mp member]
      exact first
  | some pivot =>
      rw [through] at first member
      rcases List.mem_cons.mp member with rfl | member
      · exact first
      · rcases List.mem_cons.mp member with rfl | member
        · exact .reached through
        · rcases List.mem_cons.mp member with rfl | member
          · exact .relatedPivotKey through
          · rw [List.mem_singleton.mp member]
            exact .relatedKey through

/-- The existence of a row of a hop refers to what is declared of the hop, and to what
is asked of the row. -/
theorem references_hopExists (inner : Sql.Group) :
    ∀ reference ∈
        (hopExists keys related (pathAlias (names ++ [name])) (context.rowName names)
          inner).references,
      HopReference context names name keys related reference ∨ reference ∈ inner.references := by
  intro reference member
  rw [hopExists, Sql.Condition.references, Sql.references_toCondition,
    Sql.Group.references_addGroup, Sql.Group.references_foldl_add, ← List.cons_append] at member
  rcases List.mem_append.mp member with sources | conditions
  · exact .inl (references_sources reference sources)
  · rcases List.mem_append.mp conditions with standing | asked
    · obtain ⟨condition, among, found⟩ := List.mem_flatMap.mp standing
      exact .inl (references_standing condition among reference found)
    · exact .inr asked

theorem references_conjunction (conditions : List Sql.Condition) :
    (conjunction conditions).references = conditions.flatMap Sql.Condition.references := by
  rw [conjunction, Sql.references_toCondition, Sql.Group.references_foldl_add]
  rfl

/-- The joins of a hop refer to what is declared of the hop. -/
theorem references_hopJoins :
    ∀ join ∈ hopJoins keys related (pathAlias (names ++ [name])) (context.rowName names),
      ∀ reference ∈ join.references,
        HopReference context names name keys related reference := by
  have joins {source : Sql.Source} {conditions : List Sql.Condition}
      (brought : HopReference context names name keys related (.source source))
      (each : ∀ condition ∈ conditions, ∀ reference ∈ condition.references,
        HopReference context names name keys related reference) :
      ∀ reference ∈ (Sql.Join.mk .left source (conjunction conditions)).references,
        HopReference context names name keys related reference := by
    intro reference member
    rw [Sql.Join.references, references_conjunction] at member
    rcases List.mem_cons.mp member with rfl | member
    · exact brought
    · obtain ⟨condition, among, found⟩ := List.mem_flatMap.mp member
      exact each condition among reference found
  have standing : ∀ condition ∈
      keys.standing related (pathAlias (names ++ [name])) (context.rowName names),
      ∀ reference ∈ condition.references, HopReference context names name keys related reference :=
    references_standing
  have first : HopReference context names name keys related
      (.source ⟨keys.table, some (keys.keyAlias (pathAlias (names ++ [name])))⟩) := .joined
  unfold JoinKeys.keyAlias at first
  intro join member
  unfold hopJoins at member
  cases through : keys.pivot with
  | none =>
      rw [through] at first member
      rw [List.mem_singleton.mp member]
      exact joins first standing
  | some pivot =>
      rw [through] at first member
      rcases List.mem_cons.mp member with rfl | member
      · refine joins first fun condition among => standing condition ?_
        exact List.mem_singleton.mp among ▸ List.mem_cons_self
      · rw [List.mem_singleton.mp member]
        refine joins (.reached through) fun condition among => ?_
        rcases List.mem_cons.mp among with rfl | live
        · intro reference found
          rcases List.mem_cons.mp found with rfl | found
          · exact .relatedKey through
          · rw [List.mem_singleton.mp found]
            exact .relatedPivotKey through
        · exact standing condition (List.mem_append_right _ live)

end Hops

/-! ## Filters -/

section Filters

variable {context : Context}

/-- What is asked of the row of a hop: that it has a row along the hops that follow,
or the condition on the last row. -/
def hopConstraint (inner : String → Model → Except Failure Sql.Group) (rest : List Hop)
    (path : String) (related : Model) : Except Failure Sql.Group :=
  match rest with
  | [] => inner (relationAlias path) related
  | _ :: _ => (relatedExists inner rest (relationAlias path) path).map Sql.Group.one

/-- The condition along hops is the existence of a row of the first one, of which the
rest is asked. -/
theorem relatedExists_cons (inner : String → Model → Except Failure Sql.Group) (hop : Hop)
    (rest : List Hop) (parentAlias path : String) :
    relatedExists inner (hop :: rest) parentAlias path =
      match hop.relation.joinKeys?, hop.related with
      | some keys, some related =>
          (hopConstraint inner rest (extendPath path hop.name) related).map
            (hopExists keys related (relationAlias (extendPath path hop.name)) parentAlias)
      | _, _ =>
          .error (.misconfigured (.looseRelation (extendPath path hop.name) hop.parent.table)) := by
  rw [relatedExists]
  cases hop.relation.joinKeys? with
  | none => rfl
  | some keys =>
      cases hop.related with
      | none => rfl
      | some related => cases rest <;> rfl

/-- The condition along hops starts with the existence of a row of the first one. -/
theorem relatedExists_cons_eq_ok_iff {inner : String → Model → Except Failure Sql.Group}
    {hop : Hop} {rest : List Hop} {parentAlias path : String} {condition : Sql.Condition} :
    relatedExists inner (hop :: rest) parentAlias path = .ok condition ↔
      ∃ keys related constraint, hop.relation.joinKeys? = some keys ∧ hop.related = some related ∧
        hopConstraint inner rest (extendPath path hop.name) related = .ok constraint ∧
        hopExists keys related (relationAlias (extendPath path hop.name)) parentAlias constraint =
          condition := by
  rw [relatedExists_cons]
  cases hop.relation.joinKeys? with
  | none =>
      exact ⟨fun refused => (nomatch refused),
        fun ⟨_, _, _, impossible, _⟩ => (nomatch impossible)⟩
  | some keys =>
      cases hop.related with
      | none =>
          exact ⟨fun refused => (nomatch refused),
            fun ⟨_, _, _, _, impossible, _⟩ => (nomatch impossible)⟩
      | some related =>
          simp only [Success.map_eq_ok_iff]
          constructor
          · rintro ⟨constraint, asked, same⟩
            exact ⟨keys, related, constraint, rfl, rfl, asked, same⟩
          · rintro ⟨_, _, constraint, joined, led, asked, same⟩
            cases joined
            cases led
            exact ⟨constraint, asked, same⟩

/-- The condition along a path that resolves refers to what is declared of its hops,
and to what is asked of the last row. -/
theorem references_relatedExists {inner : String → Model → Except Failure Sql.Group}
    {path : String} (names before : List String) {parent : Model} {hops : List Hop}
    {condition : Sql.Condition} (reached : DeclaredPath context before parent)
    (walked : context.catalog.walk context.root path (some parent) names = .ok hops)
    (made : relatedExists inner hops (context.rowName before) (pathText before) = .ok condition) :
    ∃ related group, DeclaredPath context (before ++ names) related ∧
      inner (pathAlias (before ++ names)) related = .ok group ∧
      ∀ reference ∈ condition.references,
        DeclaredReference context reference ∨ reference ∈ group.references := by
  induction names generalizing before parent hops condition with
  | nil =>
      rw [Catalog.walk] at walked
      cases walked
      rw [relatedExists] at made
      cases made
  | cons name names ih =>
      obtain ⟨hop, rest, here, there, rfl⟩ := Catalog.walk_cons_eq_ok_iff.mp walked
      obtain ⟨keys, related, constraint, joined, led, asked, rfl⟩ :=
        relatedExists_cons_eq_ok_iff.mp made
      have declared := DeclaredHop.of_hop reached here joined led
      rw [Catalog.name_of_hop here] at asked ⊢
      rw [led] at there
      rw [← pathText_append_singleton] at asked ⊢
      have refers (reference : Reference) (member : reference ∈ (hopExists keys related
          (pathAlias (before ++ [name])) (context.rowName before) constraint).references) :
          DeclaredReference context reference ∨ reference ∈ constraint.references :=
        (references_hopExists constraint reference member).imp_left
          fun found => ⟨before, name, keys, related, declared, found⟩
      cases names with
      | nil =>
          rw [Catalog.walk] at there
          cases there
          exact ⟨related, constraint, declared.path, asked, refers⟩
      | cons next names =>
          obtain ⟨_, _, _, _, rfl⟩ := Catalog.walk_cons_eq_ok_iff.mp there
          obtain ⟨further, later, rfl⟩ := (Success.map_eq_ok_iff _ _ _).mp asked
          rw [← pathAlias, ← context.rowName_append_singleton] at later
          obtain ⟨last, group, path, innermost, others⟩ :=
            ih (before ++ [name]) declared.path there later
          rw [List.append_assoc] at path innermost
          refine ⟨last, group, path, innermost, fun reference member => ?_⟩
          rcases refers reference member with found | found
          · exact .inl found
          · rw [Sql.Group.references_one] at found
            exact others reference found

/-- The condition along a written path refers to what is declared of its hops, and to
what is asked of the row that it reaches. -/
theorem references_pathExists {inner : String → Model → Except Failure Sql.Group}
    {relation : String} {condition : Sql.Condition}
    (made : context.pathExists relation inner = .ok condition) :
    ∃ related group, DeclaredPath context (relationNames relation) related ∧
      inner (pathAlias (relationNames relation)) related = .ok group ∧
      ∀ reference ∈ condition.references,
        DeclaredReference context reference ∨ reference ∈ group.references := by
  obtain ⟨hops, walked, made⟩ := (Success.bind_eq_ok_iff _ _ _).mp made
  exact references_relatedExists (relationNames relation) [] .root walked made

/-- The condition of a test refers to declared hops and to the column of its field. -/
theorem references_testGroup {test : FieldTest} {group : Sql.Group}
    (made : testGroup context test = .ok group) :
    ∀ reference ∈ group.references, FieldReference context test.field reference := by
  intro reference member
  unfold testGroup at made
  rcases FieldPath.ofText_cases test.field with ⟨path, single⟩ | ⟨relation, field, path, text, last⟩
  · rw [path] at made
    exact .inr ⟨_, references_predicate made reference member, .root single⟩
  · rw [path] at made
    dsimp only at made
    split at made
    · next pivots =>
        rw [pivots] at text
        split at made
        · cases made
        · next listed =>
            exact .inr ⟨_, references_predicate made reference member, text ▸ .pivot listed last⟩
    · next other =>
        obtain ⟨condition, found, rfl⟩ := (Success.map_eq_ok_iff _ _ _).mp made
        obtain ⟨related, inner, declared, asked, refers⟩ := references_pathExists found
        rw [Sql.Group.references_one] at member
        rcases refers reference member with hop | asks
        · exact .inl hop
        · exact .inr
            ⟨_, references_predicate asked reference asks, text ▸ .related other declared last⟩

/-- The condition of a filter list refers to what its tests may refer to. -/
theorem references_filterGroup {filters : List Filter} {result : Option Sql.Group}
    (made : filterGroup context filters = .ok result) :
    ∀ reference ∈ Sql.restrictionReferences result,
      ∃ fieldTest ∈ listTests filters, FieldReference context fieldTest.field reference := by
  intro reference member
  rw [Sql.restrictionReferences, Sql.Group.references_eq_gather,
    gather_filterGroup Sql.gathers_references made] at member
  obtain ⟨fieldTest, among, found⟩ := List.mem_flatMap.mp member
  unfold testGather at found
  split at found
  · next group built =>
      rw [← Sql.Group.references_eq_gather] at found
      exact ⟨fieldTest, among, references_testGroup built reference found⟩
  · exact absurd found List.not_mem_nil

end Filters

/-! ## Orders -/

namespace SortPlan

variable {context : Context}

/-- The plan joins only what is declared of hops, and orders only by columns that
fields of the keys name. -/
structure Refers (context : Context) (keys : List SortKey) (plan : SortPlan) : Prop where
  joins : ∀ join ∈ plan.joins, ∀ reference ∈ join.references, DeclaredReference context reference
  orders : ∀ order ∈ plan.orders, ∃ key ∈ keys, FieldColumn context key.field order.column

theorem Refers.order {keys : List SortKey} {plan : SortPlan} (refers : Refers context keys plan)
    {key : SortKey} (among : key ∈ keys) {table field : String}
    (names : FieldColumn context key.field ⟨table, field⟩) (direction : Sql.Direction) :
    Refers context keys (plan.order table field direction) where
  joins := refers.joins
  orders order member := by
    rcases List.mem_append.mp member with before | last
    · exact refers.orders order before
    · rw [List.mem_singleton.mp last]
      exact ⟨key, among, names⟩

theorem Refers.join {keys : List SortKey} {plan : SortPlan} (refers : Refers context keys plan)
    {hopAlias : String} {joins : List Sql.Join}
    (declared : ∀ join ∈ joins, ∀ reference ∈ join.references,
      DeclaredReference context reference) :
    Refers context keys (plan.join hopAlias joins) := by
  unfold SortPlan.join
  split
  · exact refers
  · refine ⟨fun join member => ?_, refers.orders⟩
    rcases List.mem_append.mp member with before | added
    · exact refers.joins join before
    · exact declared join added

/-- Joining along a path that resolves comes to the alias of the path, unless a
relation on it has no fixed table. -/
theorem Refers.joinHops {keys : List SortKey} {path : String} (names before : List String)
    {plan : SortPlan} {parent : Model} {hops : List Hop} (refers : Refers context keys plan)
    (reached : DeclaredPath context before parent)
    (walked : context.catalog.walk context.root path (some parent) names = .ok hops) :
    Refers context keys (plan.joinHops hops (context.rowName before) (pathText before)).1 ∧
      ∀ table, (plan.joinHops hops (context.rowName before) (pathText before)).2 = some table →
        table = context.rowName (before ++ names) ∧
          ∃ model, DeclaredPath context (before ++ names) model := by
  induction names generalizing before plan parent hops with
  | nil =>
      rw [Catalog.walk] at walked
      cases walked
      rw [SortPlan.joinHops, List.append_nil]
      refine ⟨refers, fun table same => ?_⟩
      cases same
      exact ⟨rfl, parent, reached⟩
  | cons name names ih =>
      obtain ⟨hop, rest, here, there, rfl⟩ := Catalog.walk_cons_eq_ok_iff.mp walked
      rw [SortPlan.joinHops, Catalog.name_of_hop here, ← pathText_append_singleton]
      cases joined : hop.relation.joinKeys? with
      | none =>
          refine ⟨⟨refers.joins, refers.orders⟩, fun _ impossible => ?_⟩
          cases impossible
      | some joinKeys =>
          cases led : hop.related with
          | none =>
              refine ⟨⟨refers.joins, refers.orders⟩, fun _ impossible => ?_⟩
              cases impossible
          | some related =>
              have declared := DeclaredHop.of_hop reached here joined led
              rw [led] at there
              have added : Refers context keys (plan.join (pathAlias (before ++ [name]))
                  (hopJoins joinKeys related (pathAlias (before ++ [name]))
                    (context.rowName before))) :=
                refers.join fun join member reference found =>
                  ⟨before, name, joinKeys, related, declared,
                    references_hopJoins join member reference found⟩
              have rest := ih (before ++ [name]) added declared.path there
              rw [context.rowName_append_singleton, List.append_assoc] at rest
              exact rest

/-- One more key keeps the plan to what is declared and named. -/
theorem Refers.addKey {keys : List SortKey} {plan next : SortPlan} {key : SortKey}
    (refers : Refers context keys plan) (among : key ∈ keys)
    (made : plan.addKey context key = .ok next) : Refers context keys next := by
  unfold SortPlan.addKey at made
  rcases FieldPath.ofText_cases key.field with ⟨path, single⟩ | ⟨relation, field, path, text, last⟩
  · rw [path] at made
    cases made
    exact refers.order among (.root single) key.direction
  · rw [path] at made
    dsimp only at made
    split at made
    · next pivots =>
        rw [pivots] at text
        split at made
        · next listed =>
            cases made
            exact refers.order among (text ▸ .pivot listed last) key.direction
        · cases made
          exact ⟨refers.joins, refers.orders⟩
    · next other =>
        obtain ⟨hops, walked, made⟩ := (Success.bind_eq_ok_iff _ _ _).mp made
        obtain ⟨joined, reached⟩ := refers.joinHops (relationNames relation) [] .root walked
        cases led : (plan.joinHops hops context.root.table "").2 with
        | none =>
            rw [led] at made
            cases made
            exact joined
        | some table =>
            rw [led] at made
            cases made
            obtain ⟨rfl, model, declared⟩ := reached table led
            have aliased := context.rowName_relationNames relation
            exact joined.order among (text ▸ aliased.symm ▸ .related other declared last)
              key.direction

/-- All keys keep the plan to what is declared and named. -/
theorem Refers.addKeys {all : List SortKey} (keys : List SortKey) {plan final : SortPlan}
    {failure : Option Failure} (refers : Refers context all plan) (among : ∀ key ∈ keys, key ∈ all)
    (made : addKeys context plan keys = (final, failure)) : Refers context all final := by
  induction keys generalizing plan with
  | nil =>
      cases made
      exact refers
  | cons key keys ih =>
      obtain ⟨here, there⟩ := List.forall_mem_cons.mp among
      rw [SortPlan.addKeys] at made
      cases added : plan.addKey context key with
      | error _ =>
          rw [added] at made
          cases made
          exact refers
      | ok next =>
          rw [added] at made
          exact ih (refers.addKey here added) there made

end SortPlan

/-- The plan for keys joins only what is declared and orders only by columns that the
keys name. -/
theorem sortPlan_refers {context : Context} {keys : List SortKey} {plan : SortPlan}
    {failure : Option Failure} (made : sortPlan context keys = (plan, failure)) :
    plan.Refers context keys := by
  have empty : SortPlan.Refers context keys {} :=
    ⟨fun _ impossible => absurd impossible List.not_mem_nil,
      fun _ impossible => absurd impossible List.not_mem_nil⟩
  exact empty.addKeys keys (fun _ member => member) made

end QueryGate
