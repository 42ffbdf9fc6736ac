import QueryGate.Proofs.Build.Stages
import QueryGate.Proofs.Build.Reach
import QueryGate.Proofs.Sql.Conjuncts

/-!
# Builds only append

What a build adds to a statement does not depend on the statement: it is made of the
query, the operation and the resource alone. There are joins, conjuncts and orders to
add, and each of them stands behind what the host had. The source, the grouping and the
bounds of the host stay, and so does its output, except that joins reduce it to the
columns of the root table (`build_appends`).

Whether there are joins can be read off the plan in two ways, its aliases and its joins.
They agree in every plan that is made of keys, since an alias never comes without joins.
-/

set_option autoImplicit false

namespace QueryGate

open Sql (restrictionConjuncts restrictionTruth)

/-! ## Plans -/

theorem hopJoins_ne_nil (keys : JoinKeys) (related : Model) (hopAlias parentAlias : String) :
    hopJoins keys related hopAlias parentAlias ≠ [] := by
  unfold hopJoins
  cases keys.pivot <;> simp

namespace SortPlan

/-- What every step of planning keeps holds of a plan with more hops. -/
theorem joinHops_induction (Holds : SortPlan → Prop)
    (loose : ∀ plan relation, Holds plan → Holds (plan.note (.skippedLooseSort relation)))
    (joined : ∀ plan keys related hopAlias parentAlias, Holds plan →
      Holds (plan.join hopAlias (hopJoins keys related hopAlias parentAlias)))
    (hops : List Hop) {plan : SortPlan} (holds : Holds plan) (parentAlias path : String) :
    Holds (plan.joinHops hops parentAlias path).1 := by
  induction hops generalizing plan parentAlias path with
  | nil => exact holds
  | cons hop hops ih =>
      rw [joinHops]
      cases hop.relation.joinKeys? with
      | none => exact loose _ _ holds
      | some keys =>
          cases hop.related with
          | none => exact loose _ _ holds
          | some related => exact ih (joined _ _ _ _ _ holds) _ _

end SortPlan

/-- What the empty plan has and every step of planning keeps holds of all plans. -/
theorem sortPlan_induction (Holds : SortPlan → Prop) (empty : Holds {})
    (loose : ∀ plan relation, Holds plan → Holds (plan.note (.skippedLooseSort relation)))
    (pivotless : ∀ plan field, Holds plan → Holds (plan.note (.skippedPivotSort field)))
    (ordered : ∀ plan table field direction, Holds plan →
      Holds (plan.order table field direction))
    (joined : ∀ plan keys related hopAlias parentAlias, Holds plan →
      Holds (plan.join hopAlias (hopJoins keys related hopAlias parentAlias)))
    (context : Context) (keys : List SortKey) : Holds (sortPlan context keys).1 := by
  have added {plan next : SortPlan} {key : SortKey} (holds : Holds plan)
      (made : plan.addKey context key = .ok next) : Holds next := by
    unfold SortPlan.addKey at made
    dsimp only at made
    split at made
    · cases made
      exact ordered _ _ _ _ holds
    · split at made
      · split at made
        · cases made
          exact ordered _ _ _ _ holds
        · cases made
          exact pivotless _ _ holds
      · obtain ⟨hops, _, made⟩ := (Success.bind_eq_ok_iff _ _ _).mp made
        have hopped :=
          SortPlan.joinHops_induction Holds loose joined hops holds context.root.table ""
        cases made
        split
        · exact ordered _ _ _ _ hopped
        · exact hopped
  have all (keys : List SortKey) {plan : SortPlan} (holds : Holds plan) :
      Holds (SortPlan.addKeys context plan keys).1 := by
    induction keys generalizing plan with
    | nil => exact holds
    | cons key keys ih =>
        rw [SortPlan.addKeys]
        cases made : plan.addKey context key with
        | error _ => exact holds
        | ok next => exact ih (added holds made)
  exact all keys empty

/-- A plan has aliases exactly when it has joins. -/
theorem hasJoins_sortPlan (context : Context) (keys : List SortKey) :
    (sortPlan context keys).1.hasJoins = true ↔ (sortPlan context keys).1.joins ≠ [] := by
  refine sortPlan_induction (fun plan => plan.hasJoins = true ↔ plan.joins ≠ [])
    ?_ (fun _ _ holds => holds) (fun _ _ holds => holds) (fun _ _ _ _ holds => holds) ?_
    context keys
  · simp [SortPlan.hasJoins]
  · intro plan keys related hopAlias parentAlias holds
    unfold SortPlan.join
    split
    · exact holds
    · simp [SortPlan.hasJoins, hopJoins_ne_nil]

/-! ## What is added -/

/-- What a build adds to a statement. -/
structure Additions where
  joins : List Sql.Join
  conjuncts : List Sql.Condition
  orders : List Sql.OrderTerm

/-- The statement is another one with the additions behind its own parts. Only the output
gives way, to the columns of the root table, and only where there are joins. -/
structure Additions.Extend (added : Additions) (root : String) (select built : Sql.Select) :
    Prop where
  source : built.source = select.source
  joins : built.joins = select.joins ++ added.joins
  conjuncts : built.conjuncts = select.conjuncts ++ added.conjuncts
  grouping : built.grouping = select.grouping
  orders : built.orders = select.orders ++ added.orders
  limit : built.limit = select.limit
  offset : built.offset = select.offset
  outputs_kept : added.joins = [] → built.outputs = select.outputs
  outputs_reduced : added.joins ≠ [] → built.outputs = [.allOf root]

/-- Adding the same conjuncts once more does not change the truth of a restriction. -/
theorem Additions.Extend.truth_again {added : Additions} {root : String}
    {select built again : Sql.Select} (once : added.Extend root select built)
    (twice : added.Extend root built again) (atom : Sql.Condition → Sql.Truth) :
    restrictionTruth atom again.restriction = restrictionTruth atom built.restriction := by
  have repeated (first second : Sql.Truth) :
      Sql.Junction.all.combine (Sql.Junction.all.combine first second) second =
        Sql.Junction.all.combine first second := by
    cases first <;> cases second <;> rfl
  have first := once.conjuncts
  have second := twice.conjuncts
  unfold Sql.Select.conjuncts at first second
  rw [Sql.restrictionTruth_eq_conjuncts, Sql.restrictionTruth_eq_conjuncts, second, first]
  simp only [List.map_append, Sql.Junction.combineAll_append, repeated]

namespace ListParts

/-- What the scopes, the filters and the search ask for. -/
def conjuncts (parts : ListParts) : List Sql.Condition :=
  restrictionConjuncts parts.scopes ++ restrictionConjuncts parts.filters ++
    restrictionConjuncts parts.search

theorem conjuncts_restrict (parts : ListParts) (select : Sql.Select) :
    (parts.restrict select).conjuncts = select.conjuncts ++ parts.conjuncts := by
  simp only [restrict, conjuncts, Sql.conjuncts_restrict?, List.append_assoc]

end ListParts

namespace Builder

/-- A visibility asks nothing, or that the time of deletion is missing or not. -/
theorem visibilityCondition?_cases (model : Model) (visibility : Trashed) :
    visibilityCondition? model visibility = none ∨
      ∃ column negated, model.softDelete = some column ∧
        visibilityCondition? model visibility =
          some (.isNull negated (.column ⟨model.table, column⟩)) := by
  unfold visibilityCondition?
  cases model.softDelete with
  | none => exact .inl rfl
  | some column =>
      cases visibility with
      | included => exact .inl rfl
      | excluded => exact .inr ⟨column, false, rfl, rfl⟩
      | only => exact .inr ⟨column, true, rfl, rfl⟩

variable (builder : Builder)

/-- What the parts of a list and the visibility of deleted rows add. -/
def additions (parts : ListParts) (visibility : Trashed) : Additions where
  joins := parts.plan.joins
  conjuncts := parts.conjuncts ++ (visibilityCondition? builder.resource.model visibility).toList
  orders := parts.plan.orders

theorem conjuncts_applyVisibility (visibility : Trashed) (select : Sql.Select) :
    (builder.applyVisibility visibility select).conjuncts =
      select.conjuncts ++ (visibilityCondition? builder.resource.model visibility).toList := by
  unfold applyVisibility
  rcases visibilityCondition?_cases builder.resource.model visibility with
    none | ⟨column, negated, _, some⟩
  · rw [none]
    exact (List.append_nil _).symm
  · rw [some]
    exact Sql.conjuncts_restrictBy select _

/-- A plan whose aliases and joins agree, the groups and the visibility extend a
statement by what they add. -/
theorem extend_additions {parts : ListParts}
    (joined : parts.plan.hasJoins = true ↔ parts.plan.joins ≠ []) (visibility : Trashed)
    (select : Sql.Select) :
    (builder.additions parts visibility).Extend builder.resource.model.table select
      (builder.applyVisibility visibility
        (parts.extend builder.resource.model.table select)) := by
  let extended := parts.extend builder.resource.model.table select
  have asked : (builder.applyVisibility visibility extended).conjuncts =
      select.conjuncts ++ (builder.additions parts visibility).conjuncts := by
    have kept : extended.conjuncts = (parts.restrict select).conjuncts :=
      congrArg restrictionConjuncts (parts.plan.restriction_apply _ _)
    rw [builder.conjuncts_applyVisibility, kept, parts.conjuncts_restrict, List.append_assoc]
    rfl
  obtain ⟨restricted, restricts⟩ := parts.restrict_frame select
  obtain ⟨visible, seen⟩ := builder.applyVisibility_frame visibility extended
  have applied : extended = parts.plan.apply builder.resource.model.table
      { select with restriction := restricted } :=
    congrArg (parts.plan.apply _) restricts
  rw [seen, applied] at asked
  show (builder.additions parts visibility).Extend _ _ (builder.applyVisibility visibility extended)
  rw [seen, applied]
  unfold SortPlan.apply at asked ⊢
  cases hasJoins : parts.plan.hasJoins with
  | true =>
      have some := joined.mp hasJoins
      rw [hasJoins] at asked
      exact ⟨rfl, rfl, asked, rfl, rfl, rfl, rfl, fun none => absurd none some, fun _ => rfl⟩
  | false =>
      have none : parts.plan.joins = [] := by
        by_contra some
        rw [joined.mpr some] at hasJoins
        cases hasJoins
      rw [hasJoins] at asked
      exact ⟨rfl, rfl, asked, rfl, rfl, rfl, rfl, fun _ => rfl, fun some => absurd none some⟩

/-- The parts that an operation makes have joins exactly when they have aliases. -/
theorem MakesFor.hasJoins {query : Query} {operation : Operation} {parts : ListParts}
    (makes : builder.MakesFor query operation parts) :
    parts.plan.hasJoins = true ↔ parts.plan.joins ≠ [] := by
  cases isList : operation.isList with
  | true =>
      have planned : (sortPlan builder.context query.sorting).1 = parts.plan :=
        congrArg Prod.fst (makes.lists isList).sorting
      rw [← planned]
      exact hasJoins_sortPlan builder.context query.sorting
  | false =>
      rw [makes.acts isList]
      simp [ListParts.nothing, SortPlan.hasJoins]

end Builder

/-- A build fails for every statement of the host alike, or it adds the same joins,
conjuncts and orders to every one and touches nothing else; doing it once more adds them
once more, which does not change the truth of the restriction. An operation on one row
does not fail, and it adds at most the condition on the column of deletion. -/
theorem build_appends (builder : Builder) (query : Query) (operation : Operation) :
    ∃ outcome : Except Failure Additions,
      (∀ failure, outcome = .error failure → ∀ select,
        (builder.build query operation select).result = .error failure) ∧
      (∀ added, outcome = .ok added → ∀ select, ∃ built again,
        (builder.build query operation select).result = .ok built ∧
        added.Extend builder.resource.model.table select built ∧
        (builder.build query operation built).result = .ok again ∧
        added.Extend builder.resource.model.table built again ∧
        ∀ atom, restrictionTruth atom again.restriction =
          restrictionTruth atom built.restriction) ∧
      (operation.isList = false → ∃ added, outcome = .ok added ∧
        added.joins = [] ∧ added.orders = [] ∧
        (added.conjuncts = [] ∨ ∃ column negated,
          builder.resource.model.softDelete = some column ∧
          added.conjuncts =
            [.isNull negated (.column ⟨builder.resource.model.table, column⟩)])) := by
  let visibility := operation.trashed query.trashed
  refine ⟨(builder.makePartsFor query operation).map (builder.additions · visibility),
    ?_, ?_, ?_⟩
  · intro failure failed select
    rw [builder.result_build, (Success.map_eq_error_iff _ _ _).mp failed]
    rfl
  · intro added made select
    obtain ⟨parts, makes, rfl⟩ := (Success.map_eq_ok_iff _ _ _).mp made
    have joined :=
      ((builder.makePartsFor_eq_ok_iff query operation parts).mp makes).hasJoins
    have builds (select : Sql.Select) : (builder.build query operation select).result =
        .ok (builder.applyVisibility visibility
          (parts.extend builder.resource.model.table select)) := by
      rw [builder.result_build, makes]
      rfl
    have once := builder.extend_additions joined visibility select
    have twice := builder.extend_additions joined visibility
      (builder.applyVisibility visibility (parts.extend builder.resource.model.table select))
    exact ⟨_, _, builds select, once, builds _, twice, once.truth_again twice⟩
  · intro acts
    have nothing : builder.makePartsFor query operation = .ok .nothing := by
      rw [Builder.makePartsFor, acts]
      rfl
    refine ⟨builder.additions .nothing visibility, by rw [nothing]; rfl, rfl, rfl, ?_⟩
    rcases Builder.visibilityCondition?_cases builder.resource.model visibility with
      none | ⟨column, negated, marked, some⟩
    · exact .inl (congrArg Option.toList none)
    · exact .inr ⟨column, negated, marked, congrArg Option.toList some⟩

end QueryGate
