import QueryGate.Proofs.Build.Stages
import QueryGate.Proofs.Filter.Precedence

/-!
# The restriction of a built statement

Every stage restricts the statement by one more conjunct. The restriction of a built
statement is therefore as true as the least true of the host's own restriction, the
clauses that the query asks for, and the visibility of deleted rows
(`restrictionTruth_build`). Whatever disjunctions the host, a scope, the filters or
the search hold stay inside their clause, so a row gets through only where every
clause holds.

The truths of the clauses are described apart from the groups that the stages make:
a scope call by the condition of its scope, the filters by their reading, the search
by the patterns that name a column.
-/

set_option autoImplicit false

namespace QueryGate

open Sql (Junction Truth restrictionTruth)

variable (atom : Sql.Condition → Truth)

/-! ## One conjunct after another -/

/-- A statement restricted by groups one after another is restricted by all of them. -/
theorem truth_foldl_restrict? (select : Sql.Select) (groups : List (Option Sql.Group)) :
    restrictionTruth atom (groups.foldl Sql.Select.restrict? select).restriction =
      Junction.all.combineAll
        (restrictionTruth atom select.restriction :: groups.map (restrictionTruth atom)) := by
  induction groups generalizing select with
  | nil => exact (Junction.combine_unit .all _).symm
  | cons group groups ih =>
      rw [List.foldl_cons, ih, Sql.truth_restrict?, List.map_cons, Junction.combineAll_cons,
        Junction.combineAll_cons, Junction.combineAll_cons]
      exact Junction.combine_assoc .all _ _ _

theorem ListParts.truth_extend (parts : ListParts) (root : String) (select : Sql.Select) :
    restrictionTruth atom (parts.extend root select).restriction =
      Junction.all.combineAll
        [restrictionTruth atom select.restriction, restrictionTruth atom parts.scopes,
          restrictionTruth atom parts.filters, restrictionTruth atom parts.search] := by
  rw [extend, SortPlan.restriction_apply]
  exact truth_foldl_restrict? atom select [parts.scopes, parts.filters, parts.search]

/-! ## The scopes -/

/-- The group of a scope call at its position in the request. -/
def callGroup (registry : ScopeRegistry) (call : ScopeCall × Nat) : Except Failure Sql.Group :=
  match registry.lookup call.1.name with
  | none => .error (.misconfigured (.unregisteredScope call.1.name))
  | some scope => scope ⟨call.2, call.1.name, call.1.parameters⟩

/-- The truth of a group. One that cannot be made has no truth; `unknown` stands in
for it. -/
def groupTruth : Except Failure Sql.Group → Truth
  | .ok group => group.truth atom
  | .error _ => .unknown

theorem scopeGroups_cons (registry : ScopeRegistry) (position : Nat) (call : ScopeCall)
    (calls : List ScopeCall) :
    scopeGroups registry position (call :: calls) = (do
      let group ← callGroup registry (call, position)
      let groups ← scopeGroups registry (position + 1) calls
      return group :: groups) := by
  rw [scopeGroups, callGroup]
  cases registry.lookup call.name <;> rfl

/-- The calls are made one by one, each at its position. -/
theorem scopeGroups_eq_mapM (registry : ScopeRegistry) (position : Nat) (calls : List ScopeCall) :
    scopeGroups registry position calls = (calls.zipIdx position).mapM (callGroup registry) := by
  induction calls generalizing position with
  | nil => rfl
  | cons call calls ih => rw [scopeGroups_cons, ih, List.zipIdx_cons, List.mapM_cons]

theorem scopeGroups_eq_ok_iff (registry : ScopeRegistry) (position : Nat)
    (calls : List ScopeCall) (groups : List Sql.Group) :
    scopeGroups registry position calls = .ok groups ↔
      (calls.zipIdx position).map (callGroup registry) = groups.map .ok := by
  rw [scopeGroups_eq_mapM]
  exact Success.mapM_eq_ok_iff _ _ _

/-- There is no conjunction where there are no calls, and else one of what is made of each. -/
theorem scopeGroup_eq_mapM (registry : ScopeRegistry) (calls : List ScopeCall) :
    scopeGroup registry calls =
      (calls.zipIdx.mapM (callGroup registry)).map fun groups =>
        if calls.isEmpty then none else some (groups.foldl Sql.Group.addGroup .all) := by
  unfold scopeGroup
  cases calls with
  | nil => rfl
  | cons call calls =>
      rw [scopeGroups_eq_mapM]
      rfl

/-- The scopes are as true as all of their calls. -/
theorem truth_scopeGroup {registry : ScopeRegistry} {calls : List ScopeCall}
    {result : Option Sql.Group} (made : scopeGroup registry calls = .ok result) :
    (∀ call ∈ calls.zipIdx, ∃ group, callGroup registry call = .ok group) ∧
      restrictionTruth atom result =
        Junction.all.combineAll
          (calls.zipIdx.map fun call => groupTruth atom (callGroup registry call)) := by
  unfold scopeGroup at made
  cases calls with
  | nil =>
      cases made
      exact ⟨fun _ impossible => absurd impossible List.not_mem_nil, rfl⟩
  | cons call calls =>
      obtain ⟨groups, each, rfl⟩ := (Success.map_eq_ok_iff _ _ _).mp made
      have called := (scopeGroups_eq_ok_iff registry 0 (call :: calls) groups).mp each
      constructor
      · intro entry member
        have among : callGroup registry entry ∈ groups.map Except.ok :=
          called ▸ List.mem_map_of_mem member
        obtain ⟨group, _, same⟩ := List.mem_map.mp among
        exact ⟨group, same.symm⟩
      · have truths := congrArg (List.map (groupTruth atom)) called
        rw [List.map_map, List.map_map] at truths
        refine (Sql.Group.truth_foldl_addGroup atom .all groups).trans ?_
        rw [Sql.Group.truth_all]
        exact (Junction.unit_combine .all _).trans (congrArg _ truths.symm)

/-! ## The filters and the search -/

/-- The filters are as true as their reading, and every row passes a list without
any test. -/
def filtersTruth (context : Context) (filters : List Filter) : Truth :=
  (Filter.reading (testTruth context atom) filters).getD .holds

theorem truth_of_filterGroup {context : Context} {filters : List Filter}
    {result : Option Sql.Group} (made : filterGroup context filters = .ok result) :
    restrictionTruth atom result = filtersTruth atom context filters := by
  rw [filtersTruth, ← map_truth_filterGroup made atom]
  cases result <;> rfl

/-- The truth of the search for a term in the column that a pattern names, if it
names one. A condition that cannot be made has no truth; `unknown` stands in for
it. -/
def patternTruth? (context : Context) (term : SearchTerm) (pattern : String) : Option Truth :=
  match (patternCondition context term pattern).result with
  | .ok condition => condition.map fun condition => condition.truth atom
  | .error _ => some .unknown

/-- The truth of a search: one of the columns holds the term. Every row passes where
no pattern names a column. -/
def searchTruth (context : Context) (searchable : List String) (term : SearchTerm) : Truth :=
  match searchable.filterMap (patternTruth? atom context term) with
  | [] => .holds
  | truths => Junction.any.combineAll truths

theorem truths_searchConditions {context : Context} {term : SearchTerm} {patterns : List String}
    {conditions : List Sql.Condition}
    (made : (searchConditions context term patterns).result = .ok conditions) :
    (∀ pattern ∈ patterns, ∃ condition,
        (patternCondition context term pattern).result = .ok condition) ∧
      conditions.map (fun condition => condition.truth atom) =
        patterns.filterMap (patternTruth? atom context term) := by
  induction patterns generalizing conditions with
  | nil =>
      cases made
      exact ⟨fun _ impossible => absurd impossible List.not_mem_nil, rfl⟩
  | cons pattern patterns ih =>
      rw [result_searchConditions_cons] at made
      obtain ⟨condition, here, made⟩ := (Success.bind_eq_ok_iff _ _ _).mp made
      obtain ⟨rest, there, rfl⟩ := (Success.map_eq_ok_iff _ _ _).mp made
      obtain ⟨each, truths⟩ := ih there
      have first : patternTruth? atom context term pattern =
          condition.map fun condition => condition.truth atom := by
        rw [patternTruth?, here]
      constructor
      · intro other member
        rcases List.mem_cons.mp member with rfl | later
        · exact ⟨condition, here⟩
        · exact each other later
      · rw [List.map_append, truths]
        cases condition with
        | none => rw [List.filterMap_cons_none first]; rfl
        | some condition => rw [List.filterMap_cons_some first]; rfl

theorem truth_searchGroup {context : Context} {searchable : List String} {term : SearchTerm}
    {result : Option Sql.Group} (made : (searchGroup context searchable term).result = .ok result) :
    (∀ pattern ∈ searchable,
        ∃ condition, (patternCondition context term pattern).result = .ok condition) ∧
      restrictionTruth atom result = searchTruth atom context searchable term := by
  rw [searchGroup, Outcome.result_bind_eq_ok_iff] at made
  obtain ⟨conditions, each, same⟩ := made
  obtain ⟨found, truths⟩ := truths_searchConditions atom each
  refine ⟨found, ?_⟩
  rw [searchTruth, ← truths]
  cases conditions with
  | nil =>
      cases same
      rfl
  | cons condition conditions =>
      cases same
      refine (Sql.Group.truth_foldl_add atom .any (condition :: conditions)).trans ?_
      rw [Sql.Group.truth_any]
      exact Junction.unit_combine .any _

/-! ## Clauses -/

/-- The truth of the visibility of deleted rows. -/
def visibilityTruth (model : Model) (visibility : Trashed) : Truth :=
  match model.softDelete, visibility with
  | none, _ => .holds
  | some _, .included => .holds
  | some column, .excluded => atom (.isNull false (.column ⟨model.table, column⟩))
  | some column, .only => atom (.isNull true (.column ⟨model.table, column⟩))

namespace Builder

variable (builder : Builder)

theorem truth_applyVisibility (visibility : Trashed) (select : Sql.Select) :
    restrictionTruth atom (builder.applyVisibility visibility select).restriction =
      (restrictionTruth atom select.restriction).both
        (visibilityTruth atom builder.resource.model visibility) := by
  have restricted (negated : Bool) (column : Sql.Column) :
      restrictionTruth atom (select.restrictBy (.isNull negated (.column column))).restriction =
        (restrictionTruth atom select.restriction).both (atom (.isNull negated (.column column))) :=
    (Sql.truth_restrict atom select _).trans (congrArg _ (Junction.combine_unit .all _))
  unfold applyVisibility visibilityCondition? visibilityTruth
  cases builder.resource.model.softDelete with
  | none => exact (Junction.combine_unit .all _).symm
  | some column =>
      cases visibility with
      | excluded => exact restricted false ⟨_, column⟩
      | included => exact (Junction.combine_unit .all _).symm
      | only => exact restricted true ⟨_, column⟩

/-- The truths of the clauses of a list: each scope call, the filters, the search. -/
def listTruths (query : Query) : List Truth :=
  (query.scopes.zipIdx.map fun call => groupTruth atom (callGroup builder.resource.scopes call)) ++
    [filtersTruth atom builder.context query.filters,
      match query.search with
      | none => .holds
      | some term =>
          searchTruth atom builder.context builder.resource.whitelist.searchable term]

/-- The truths of all clauses of a query under an operation. -/
def clauseTruths (query : Query) (operation : Operation) : List Truth :=
  (if operation.isList then builder.listTruths atom query else []) ++
    [visibilityTruth atom builder.resource.model (operation.trashed query.trashed)]

/-- Every clause of the query has its condition, so no truth of a clause is a
stand-in. -/
structure Answers (query : Query) : Prop where
  scopes : ∀ call ∈ query.scopes.zipIdx,
    ∃ group, callGroup builder.resource.scopes call = .ok group
  tests : AllBuilt builder.context (Filter.listTests query.filters)
  search : ∀ term, query.search = some term →
    ∀ pattern ∈ builder.resource.whitelist.searchable,
      ∃ condition, (patternCondition builder.context term pattern).result = .ok condition

variable {builder}

theorem Makes.answers {query : Query} {parts : ListParts} (makes : builder.Makes query parts) :
    builder.Answers query where
  scopes := (truth_scopeGroup (fun _ => .unknown) makes.scopes).1
  tests := (exists_filterGroup_iff query.filters).mp ⟨parts.filters, makes.filters⟩
  search term asked := by
    have made := makes.search
    rw [asked] at made
    exact (truth_searchGroup (fun _ => .unknown) made).1

/-- What the stages of a list make is as true as the clauses of the list. -/
theorem Makes.truth {query : Query} {parts : ListParts} (makes : builder.Makes query parts) :
    Junction.all.combineAll
        [restrictionTruth atom parts.scopes, restrictionTruth atom parts.filters,
          restrictionTruth atom parts.search] =
      Junction.all.combineAll (builder.listTruths atom query) := by
  have searched : restrictionTruth atom parts.search =
      match query.search with
      | none => .holds
      | some term =>
          searchTruth atom builder.context builder.resource.whitelist.searchable term := by
    have made := makes.search
    cases asked : query.search with
    | none =>
        rw [asked] at made
        rw [← Except.ok.inj made]
        rfl
    | some term =>
        rw [asked] at made
        exact (truth_searchGroup atom made).2
  rw [listTruths, Junction.combineAll_append, Junction.combineAll_cons,
    (truth_scopeGroup atom makes.scopes).2, truth_of_filterGroup atom makes.filters, searched]

end Builder

/-- The restriction of a built statement is as true as the host's own restriction and
all clauses of the query together, each taken as one unit. A row gets through exactly
where the host's restriction and every clause hold. -/
theorem restrictionTruth_build (builder : Builder) (query : Query) (operation : Operation)
    (select built : Sql.Select)
    (made : (builder.build query operation select).result = .ok built) :
    (operation.isList = true → builder.Answers query) ∧
    ∀ atom : Sql.Condition → Truth,
      restrictionTruth atom built.restriction =
        Junction.all.combineAll
          (restrictionTruth atom select.restriction ::
            builder.clauseTruths atom query operation) ∧
      (restrictionTruth atom built.restriction = .holds ↔
        restrictionTruth atom select.restriction = .holds ∧
          ∀ truth ∈ builder.clauseTruths atom query operation, truth = .holds) := by
  obtain ⟨parts, makes, rfl⟩ :=
    (builder.result_build_eq_ok_iff query operation select built).mp made
  constructor
  · intro isList
    exact (makes.lists isList).answers
  · intro atom
    have listed : Junction.all.combineAll
        [restrictionTruth atom parts.scopes, restrictionTruth atom parts.filters,
          restrictionTruth atom parts.search] =
        Junction.all.combineAll
          (if operation.isList then builder.listTruths atom query else []) := by
      cases isList : operation.isList with
      | true => exact (makes.lists isList).truth atom
      | false =>
          rw [makes.acts isList]
          rfl
    have truth : restrictionTruth atom
        (builder.applyVisibility (operation.trashed query.trashed)
          (parts.extend builder.resource.model.table select)).restriction =
        Junction.all.combineAll
          (restrictionTruth atom select.restriction ::
            builder.clauseTruths atom query operation) := by
      rw [Builder.truth_applyVisibility, parts.truth_extend, Builder.clauseTruths,
        Junction.combineAll_cons, listed, Junction.combineAll_cons, Junction.combineAll_append,
        Junction.combineAll_cons, Junction.combineAll_nil, Junction.combine_unit,
        ← Junction.combine_assoc]
      rfl
    refine ⟨truth, ?_⟩
    rw [truth, Junction.combineAll_all_eq_holds_iff, List.forall_mem_cons]

/-- Posts, which mark deleted rows and have a scope of two alternatives. -/
def alternativePosts : Builder :=
  { resource :=
      { model := { table := "posts", softDelete := some "deleted_at" }
        whitelist := { searchable := ["title", "body"] }
        scopes :=
          [("featured", fun _ =>
            .ok
              ⟨.any,
                [.isNull true (.column ⟨"posts", "a"⟩),
                  .isNull true (.column ⟨"posts", "b"⟩)]⟩)] }
    backend := .sqlite }

/-- A query with alternatives in its scope, its filters and its search. -/
def alternativeQuery : Query :=
  { scopes := [⟨"featured", []⟩]
    filters := [.isMissing .and "a", .isMissing .or "b"]
    search := some ⟨"lean", true⟩ }

/-- A statement of the host that is restricted to two alternatives. -/
def alternativeSelect : Sql.Select :=
  { outputs := [.allOf "posts"]
    source := ⟨"posts", none⟩
    restriction :=
      some
        ⟨.any,
          [.isNull false (.column ⟨"posts", "c"⟩), .isNull false (.column ⟨"posts", "d"⟩)]⟩ }

/-- None of the alternatives lets a deleted row through, nor one that the host's own
alternatives leave out. -/
theorem restrictionTruth_build_alternatives :
    ∃ built, (alternativePosts.build alternativeQuery .index alternativeSelect).result = .ok built ∧
      ∀ atom : Sql.Condition → Truth, restrictionTruth atom built.restriction = .holds →
        atom (.isNull false (.column ⟨"posts", "deleted_at"⟩)) = .holds ∧
          (atom (.isNull false (.column ⟨"posts", "c"⟩))).either
            (atom (.isNull false (.column ⟨"posts", "d"⟩))) = .holds := by
  have succeeds : ∃ built,
      (alternativePosts.build alternativeQuery .index alternativeSelect).result = .ok built :=
    ⟨_, rfl⟩
  obtain ⟨built, made⟩ := succeeds
  refine ⟨built, made, fun atom holds => ?_⟩
  obtain ⟨_, truths⟩ := restrictionTruth_build alternativePosts alternativeQuery .index
    alternativeSelect built made
  obtain ⟨host, clauses⟩ := (truths atom).2.mp holds
  constructor
  · exact clauses _ (List.mem_append_right _ (List.mem_singleton.mpr rfl))
  · refine Eq.trans ?_ host
    exact congrArg (Truth.either _) (Junction.combine_unit .any _).symm

end QueryGate
