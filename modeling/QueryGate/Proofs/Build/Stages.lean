import QueryGate.Builder
import QueryGate.Proofs.Success

/-!
# What the stages of a build make

A build of a list fails with the first failure of its stages, and otherwise its
statement is put together from what they make: the groups of the scopes, the
filters and the search restrict the host's statement one after another, the plan
of the orders extends it, and the visibility of deleted rows restricts it last
(`result_build`). The events on the way do not count.
-/

set_option autoImplicit false

namespace QueryGate

/-- Orders do not restrict. -/
theorem SortPlan.restriction_apply (plan : SortPlan) (root : String) (select : Sql.Select) :
    (plan.apply root select).restriction = select.restriction := by
  unfold apply
  split <;> rfl

/-- A search has the condition of its first pattern before those of the others. -/
theorem result_searchConditions_cons (context : Context) (term : SearchTerm) (pattern : String)
    (patterns : List String) :
    (searchConditions context term (pattern :: patterns)).result =
      (patternCondition context term pattern).result.bind fun condition? =>
        (searchConditions context term patterns).result.map (condition?.toList ++ ·) := by
  simp only [searchConditions, Outcome.result_bind]
  cases (searchConditions context term patterns).result <;> rfl

/-- What the stages of a list make of a query. -/
structure ListParts where
  scopes : Option Sql.Group
  filters : Option Sql.Group
  search : Option Sql.Group
  plan : SortPlan

namespace ListParts

/-- No scopes, no filters, no search and no orders. -/
def nothing : ListParts := ⟨none, none, none, {}⟩

/-- The statement restricted by the scopes, the filters and the search. -/
def restrict (parts : ListParts) (select : Sql.Select) : Sql.Select :=
  ((select.restrict? parts.scopes).restrict? parts.filters).restrict? parts.search

/-- The statement with all that the stages made. -/
def extend (parts : ListParts) (root : String) (select : Sql.Select) : Sql.Select :=
  parts.plan.apply root (parts.restrict select)

/-- Nothing extends a statement by nothing. -/
theorem extend_nothing (root : String) (select : Sql.Select) :
    nothing.extend root select = select := by
  show ({ select with joins := select.joins ++ [], orders := select.orders ++ [] } : Sql.Select) =
    select
  rw [List.append_nil, List.append_nil]

end ListParts

namespace Builder

variable (builder : Builder)

/-- The group of a search, if one is asked for. -/
def searchResult (term : Option SearchTerm) : Except Failure (Option Sql.Group) :=
  match term with
  | none => .ok none
  | some term => (searchGroup builder.context builder.resource.whitelist.searchable term).result

/-- The parts are what the stages make of the query. -/
structure Makes (query : Query) (parts : ListParts) : Prop where
  scopes : scopeGroup builder.resource.scopes query.scopes = .ok parts.scopes
  filters : filterGroup builder.context query.filters = .ok parts.filters
  search : builder.searchResult query.search = .ok parts.search
  sorting : sortPlan builder.context query.sorting = (parts.plan, none)

/-- The plan of the orders of a query, unless one of them fails. -/
def sortResult (keys : List SortKey) : Except Failure SortPlan :=
  match sortPlan builder.context keys with
  | (plan, none) => .ok plan
  | (_, some failure) => .error failure

/-- What the stages of a list make of a query, or the first of their failures. -/
def makeParts (query : Query) : Except Failure ListParts := do
  let scopes ← scopeGroup builder.resource.scopes query.scopes
  let filters ← filterGroup builder.context query.filters
  let search ← builder.searchResult query.search
  let plan ← builder.sortResult query.sorting
  return ⟨scopes, filters, search, plan⟩

/-- What an operation makes of a query: nothing unless it lists. -/
def makePartsFor (query : Query) (operation : Operation) : Except Failure ListParts :=
  if operation.isList then builder.makeParts query else .ok .nothing

theorem result_applySearch? (term : Option SearchTerm) (select : Sql.Select) :
    (builder.applySearch? term select).result =
      (builder.searchResult term).map select.restrict? := by
  cases term with
  | none => rfl
  | some term =>
      rw [applySearch?, applySearch, Outcome.result_bind, searchResult]
      cases (searchGroup builder.context builder.resource.whitelist.searchable term).result <;> rfl

theorem result_applySorting (keys : List SortKey) (select : Sql.Select) :
    (builder.applySorting keys select).result =
      (builder.sortResult keys).map fun plan =>
        plan.apply builder.resource.model.table select := by
  unfold applySorting sortResult
  obtain ⟨plan, failure⟩ := sortPlan builder.context keys
  cases failure <;> rfl

/-- The stages of a list extend the statement by the parts that they make. -/
theorem result_applyListStages (query : Query) (operation : Operation) (select : Sql.Select) :
    (builder.applyListStages query operation select).result =
      (builder.makeParts query).map fun parts =>
        parts.extend builder.resource.model.table select := by
  simp only [applyListStages, reach, Outcome.result_bind, Outcome.result_ofResult,
    result_applySearch?, result_applySorting, applyScopes, applyFilters, makeParts]
  cases scopeGroup builder.resource.scopes query.scopes with
  | error failure => rfl
  | ok scopes =>
      cases filterGroup builder.context query.filters with
      | error failure => rfl
      | ok filters =>
          cases builder.searchResult query.search with
          | error failure => rfl
          | ok search => cases builder.sortResult query.sorting <;> rfl

/-- A build is the host's statement with what the operation makes of the query,
restricted to the rows that are visible. -/
theorem result_build (query : Query) (operation : Operation) (select : Sql.Select) :
    (builder.build query operation select).result =
      (builder.makePartsFor query operation).map fun parts =>
        builder.applyVisibility (operation.trashed query.trashed)
          (parts.extend builder.resource.model.table select) := by
  simp only [build, reach, Outcome.result_emit_bind, makePartsFor]
  cases operation.isList with
  | true =>
      simp only [if_true, Outcome.result_bind, result_applyListStages]
      cases builder.makeParts query <;> rfl
  | false =>
      have same := ListParts.extend_nothing builder.resource.model.table select
      exact congrArg (fun listed => Except.ok (builder.applyVisibility _ listed)) same.symm

/-! ## Builds that succeed -/

theorem makeParts_eq_ok_iff (query : Query) (parts : ListParts) :
    builder.makeParts query = .ok parts ↔ builder.Makes query parts := by
  have planned (plan : SortPlan) : builder.sortResult query.sorting = .ok plan ↔
      sortPlan builder.context query.sorting = (plan, none) := by
    unfold sortResult
    obtain ⟨other, failure⟩ := sortPlan builder.context query.sorting
    cases failure <;> simp
  simp only [makeParts, Success.bind_eq_ok_iff, planned]
  constructor
  · rintro ⟨scopes, called, filters, filtered, search, searched, plan, sorted, same⟩
    cases same
    exact ⟨called, filtered, searched, sorted⟩
  · rintro ⟨called, filtered, searched, sorted⟩
    exact ⟨_, called, _, filtered, _, searched, _, sorted, rfl⟩

/-- The parts are what the operation makes of the query: nothing unless it lists. -/
structure MakesFor (query : Query) (operation : Operation) (parts : ListParts) : Prop where
  lists : operation.isList = true → builder.Makes query parts
  acts : operation.isList = false → parts = .nothing

theorem makePartsFor_eq_ok_iff (query : Query) (operation : Operation) (parts : ListParts) :
    builder.makePartsFor query operation = .ok parts ↔ builder.MakesFor query operation parts := by
  unfold makePartsFor
  cases isList : operation.isList with
  | true =>
      rw [if_pos rfl, makeParts_eq_ok_iff]
      exact ⟨fun makes => ⟨fun _ => makes, fun acts => (nomatch isList.symm.trans acts)⟩,
        fun makes => makes.lists isList⟩
  | false =>
      refine ⟨fun same => ?_, fun makes => congrArg Except.ok (makes.acts isList).symm⟩
      exact ⟨fun lists => (nomatch isList.symm.trans lists), fun _ => (Except.ok.inj same).symm⟩

/-- A build succeeds exactly when its stages do, and its statement is the host's with
what they make, restricted to the rows that are visible. -/
theorem result_build_eq_ok_iff (query : Query) (operation : Operation)
    (select built : Sql.Select) :
    (builder.build query operation select).result = .ok built ↔
      ∃ parts, builder.MakesFor query operation parts ∧
        built = builder.applyVisibility (operation.trashed query.trashed)
          (parts.extend builder.resource.model.table select) := by
  rw [result_build, Success.map_eq_ok_iff]
  simp only [makePartsFor_eq_ok_iff, eq_comm (b := built)]

end Builder

end QueryGate
