import QueryGate.Proofs.Build.Appending
import QueryGate.Proofs.Build.Restriction

/-!
# Where a build stops

The stages of a list run in a fixed order, and each of them goes through parts of the
query: the calls of scopes, the tests of the filters as they are written, the
searchable patterns and the sort keys. Every stage fails with the first of its parts that
fails, whatever statement it is given (`failure?_runStage`), and nothing runs after a
stage that fails. So the failure of a build is that of the first failing part of its
first failing stage (`build_stops_at_first_failure`).

The stages themselves log no milestones. The build logs one behind every stage that
succeeded, which leaves the milestones of a failed build where its stage failed.
-/

set_option autoImplicit false

namespace QueryGate

/-! ## Stages and their milestones -/

/-- The stages of a list before the visibility of deleted rows. -/
inductive ListStage where
  | scopes
  | filters
  | search
  | sorting
deriving DecidableEq, Repr

/-- The milestone behind a stage. -/
def ListStage.milestone : ListStage → Milestone
  | scopes => .scopesApplied
  | filters => .filtersApplied
  | search => .searchApplied
  | sorting => .sortApplied

namespace Operation

/-- The stages that an operation runs before the visibility of deleted rows. -/
def stages (operation : Operation) : List ListStage :=
  if operation.isList then [.scopes, .filters, .search, .sorting] else []

/-- The milestones of an operation that succeeds. -/
def milestones (operation : Operation) : List Milestone :=
  if operation.isList then
    [.start, .scopesApplied, .filtersApplied, .searchApplied, .sortApplied, .softDeleteApplied,
      .done]
  else [.start, .softDeleteApplied, .done]

theorem milestones_eq (operation : Operation) :
    operation.milestones =
      .start :: operation.stages.map ListStage.milestone ++ [.softDeleteApplied, .done] := by
  unfold milestones stages
  cases operation.isList <;> rfl

theorem milestones_increase (operation : Operation) :
    operation.milestones.Pairwise fun earlier later => earlier.rank < later.rank := by
  cases operation <;> decide

end Operation

/-- Whether an event says how far a build has come. -/
def Event.isMilestone : Event → Bool
  | reached _ _ _ => true
  | _ => false

namespace Outcome

variable {α β : Type}

/-- The events that say how far a build has come. -/
def milestones (outcome : Outcome α) : List Event :=
  outcome.events.filter Event.isMilestone

theorem milestones_bind_of_ok (first : Outcome α) (next : α → Outcome β) (value : α)
    (succeeded : first.result = .ok value) :
    (first >>= next).milestones = first.milestones ++ (next value).milestones := by
  unfold milestones
  rw [events_bind_of_ok first next value succeeded, List.filter_append]

theorem milestones_bind_of_error (first : Outcome α) (next : α → Outcome β) (failure : Failure)
    (failed : first.result = .error failure) :
    (first >>= next).milestones = first.milestones := by
  unfold milestones
  rw [events_bind_of_error first next failure failed]

theorem milestones_bind_eq_nil (first : Outcome α) (next : α → Outcome β)
    (here : first.milestones = []) (there : ∀ value, (next value).milestones = []) :
    (first >>= next).milestones = [] := by
  cases result : first.result with
  | error failure => rw [milestones_bind_of_error first next failure result, here]
  | ok value =>
      rw [milestones_bind_of_ok first next value result, here, there]
      rfl

end Outcome

/-! ## The first failing part -/

/-- The calls of scopes fail with the first of them that fails. -/
theorem failure?_scopeGroup (registry : ScopeRegistry) (calls : List ScopeCall) :
    Success.failure? (scopeGroup registry calls) =
      calls.zipIdx.findSome? fun call => Success.failure? (callGroup registry call) := by
  rw [scopeGroup_eq_mapM, Success.failure?_map, Success.failure?_mapM]

/-- A search fails with the first of the patterns that fails. -/
theorem failure?_searchConditions (context : Context) (term : SearchTerm)
    (patterns : List String) :
    Success.failure? (searchConditions context term patterns).result =
      patterns.findSome? fun pattern =>
        Success.failure? (patternCondition context term pattern).result := by
  induction patterns with
  | nil => rfl
  | cons pattern patterns ih =>
      have rest (condition : Option Sql.Condition) :
          Success.failure? ((searchConditions context term patterns).result.map
            (condition.toList ++ ·)) =
          Success.failure? (searchConditions context term patterns).result :=
        Success.failure?_map _ _
      rw [result_searchConditions_cons]
      refine (Success.failure?_bind _ _ rest).trans ?_
      rw [ih, List.findSome?_cons]
      cases Success.failure? (patternCondition context term pattern).result <;> rfl

namespace SortPlan

/-- Whether a key fails does not depend on the plan that it is added to. -/
theorem failure?_addKey (context : Context) (plan other : SortPlan) (key : SortKey) :
    Success.failure? (plan.addKey context key) = Success.failure? (other.addKey context key) := by
  unfold addKey
  dsimp only
  cases (FieldPath.ofText key.field).relation with
  | none => rfl
  | some relation =>
      dsimp only
      split
      · cases context.pivot <;> rfl
      · cases context.resolve relation <;> rfl

/-- Orders fail with the first of the keys that fails. -/
theorem failure_addKeys (context : Context) (plan : SortPlan) (keys : List SortKey) :
    (addKeys context plan keys).2 =
      keys.findSome? fun key => Success.failure? (addKey context {} key) := by
  induction keys generalizing plan with
  | nil => rfl
  | cons key keys ih =>
      have here := failure?_addKey context plan {} key
      rw [addKeys, List.findSome?_cons, ← here]
      cases plan.addKey context key with
      | error failure => rfl
      | ok next => exact ih next

end SortPlan

/-! ## One stage -/

namespace Builder

variable (builder : Builder) (query : Query) (operation : Operation)

/-- One stage of a list. -/
def runStage : ListStage → Sql.Select → Outcome Sql.Select
  | .scopes, select => .ofResult (builder.applyScopes query.scopes select)
  | .filters, select => .ofResult (builder.applyFilters query.filters select)
  | .search, select => builder.applySearch? query.search select
  | .sorting, select => builder.applySorting query.sorting select

/-- The failures of the parts that a stage goes through, in its order: the calls of
scopes, the tests of the filters as they are written, the patterns of a search that is asked
for, and the sort keys. -/
def partFailures : ListStage → List (Option Failure)
  | .scopes =>
      query.scopes.zipIdx.map fun call =>
        Success.failure? (callGroup builder.resource.scopes call)
  | .filters => (Filter.listTests query.filters).map (testFailure? builder.context)
  | .search =>
      query.search.toList.flatMap fun term =>
        builder.resource.whitelist.searchable.map fun pattern =>
          Success.failure? (patternCondition builder.context term pattern).result
  | .sorting =>
      query.sorting.map fun key => Success.failure? (SortPlan.addKey builder.context {} key)

/-- The failure of a stage: that of the first of its parts that fails. -/
def stageFailure? (stage : ListStage) : Option Failure :=
  (builder.partFailures query stage).findSome? id

/-- A stage fails with the first of its parts that fails, whatever the statement. -/
theorem failure?_runStage (stage : ListStage) (select : Sql.Select) :
    Success.failure? (builder.runStage query stage select).result =
      builder.stageFailure? query stage := by
  cases stage with
  | scopes =>
      rw [stageFailure?, partFailures, List.findSome?_map]
      exact (Success.failure?_map _ _).trans (failure?_scopeGroup _ _)
  | filters =>
      rw [stageFailure?, partFailures, List.findSome?_map]
      exact (Success.failure?_map _ _).trans (failure?_filterGroup _)
  | search =>
      rw [runStage, result_applySearch?, Success.failure?_map, stageFailure?, partFailures]
      cases query.search with
      | none => rfl
      | some term =>
          have found := failure?_searchConditions builder.context term
            builder.resource.whitelist.searchable
          rw [Option.toList_some, List.flatMap_singleton, List.findSome?_map]
          refine Eq.trans ?_ found
          rw [searchResult, searchGroup, Outcome.result_bind]
          cases (searchConditions builder.context term _).result <;> rfl
  | sorting =>
      have found := SortPlan.failure_addKeys builder.context {} query.sorting
      rw [runStage, result_applySorting, Success.failure?_map, stageFailure?, partFailures,
        List.findSome?_map]
      refine Eq.trans ?_ found
      rw [sortResult, sortPlan]
      obtain ⟨plan, failure⟩ := SortPlan.addKeys builder.context {} query.sorting
      cases failure <;> rfl

theorem milestones_patternCondition (context : Context) (term : SearchTerm) (pattern : String) :
    (patternCondition context term pattern).milestones = [] := by
  unfold patternCondition
  dsimp only
  split
  · rfl
  · split
    · rfl
    · split
      · split <;> rfl
      · rfl

theorem milestones_searchConditions (context : Context) (term : SearchTerm)
    (patterns : List String) : (searchConditions context term patterns).milestones = [] := by
  induction patterns with
  | nil => rfl
  | cons pattern patterns ih =>
      rw [searchConditions]
      refine Outcome.milestones_bind_eq_nil _ _ (milestones_patternCondition _ _ _) ?_
      exact fun condition => Outcome.milestones_bind_eq_nil _ _ ih fun _ => rfl

theorem milestones_sortPlan (context : Context) (keys : List SortKey) :
    (sortPlan context keys).1.events.filter Event.isMilestone = [] := by
  have noted {plan : SortPlan} {event : Event} (other : event.isMilestone = false)
      (holds : plan.events.filter Event.isMilestone = []) :
      (plan.note event).events.filter Event.isMilestone = [] := by
    rw [SortPlan.note, List.filter_append, holds, List.filter_singleton, other]
    rfl
  refine sortPlan_induction (fun plan => plan.events.filter Event.isMilestone = []) rfl
    (fun _ _ holds => noted rfl holds) (fun _ _ holds => noted rfl holds)
    (fun _ _ _ _ holds => holds) ?_ context keys
  intro plan keys related hopAlias parentAlias holds
  unfold SortPlan.join
  split <;> exact holds

/-- A stage logs no milestone itself. -/
theorem milestones_runStage (stage : ListStage) (select : Sql.Select) :
    (builder.runStage query stage select).milestones = [] := by
  cases stage with
  | scopes => rfl
  | filters => rfl
  | search =>
      rw [runStage]
      unfold applySearch?
      cases query.search with
      | none => rfl
      | some term =>
          refine Outcome.milestones_bind_eq_nil _ _ ?_ fun _ => rfl
          exact Outcome.milestones_bind_eq_nil _ _ (milestones_searchConditions _ _ _) fun _ => rfl
  | sorting => exact milestones_sortPlan builder.context query.sorting

/-! ## Stages one after another -/

/-- Several stages, each with its milestone behind it. -/
def runStages : List ListStage → Sql.Select → Outcome Sql.Select
  | [], select => pure select
  | stage :: stages, select => do
      let next ← builder.runStage query stage select
      builder.reach operation stage.milestone
      runStages stages next

/-- A build runs the stages of its operation. -/
theorem build_eq_runStages (select : Sql.Select) :
    builder.build query operation select = (do
      builder.reach operation .start
      let listed ← builder.runStages query operation operation.stages select
      let visible := builder.applyVisibility (operation.trashed query.trashed) listed
      builder.reach operation .softDeleteApplied
      builder.reach operation .done
      return visible) := by
  unfold build Operation.stages
  cases operation.isList <;> rfl

/-- Milestones as events of the log. -/
def logged (milestones : List Milestone) : List Event :=
  milestones.map (.reached builder.resource.model.table operation.text)

variable {builder query}

/-- After a stage that succeeds its milestone is logged, and the next stages run. -/
theorem runStages_cons {stage : ListStage} (passes : builder.stageFailure? query stage = none)
    (stages : List ListStage) (select : Sql.Select) :
    ∃ next,
      (builder.runStages query operation (stage :: stages) select).result =
        (builder.runStages query operation stages next).result ∧
      (builder.runStages query operation (stage :: stages) select).milestones =
        builder.logged operation [stage.milestone] ++
          (builder.runStages query operation stages next).milestones := by
  rw [← builder.failure?_runStage query stage select, Success.failure?_eq_none_iff] at passes
  obtain ⟨next, made⟩ := passes
  refine ⟨next, ?_, ?_⟩
  · rw [runStages, Outcome.result_bind, made]
    rfl
  · rw [runStages, Outcome.milestones_bind_of_ok _ _ next made, milestones_runStage,
      Outcome.milestones_bind_of_ok _ _ () rfl]
    rfl

/-- Stages that all succeed log all of their milestones. -/
theorem runStages_of_passes (stages : List ListStage) (select : Sql.Select)
    (passes : ∀ stage ∈ stages, builder.stageFailure? query stage = none) :
    (∃ built, (builder.runStages query operation stages select).result = .ok built) ∧
      (builder.runStages query operation stages select).milestones =
        builder.logged operation (stages.map ListStage.milestone) := by
  induction stages generalizing select with
  | nil => exact ⟨⟨select, rfl⟩, rfl⟩
  | cons stage stages ih =>
      obtain ⟨first, others⟩ := List.forall_mem_cons.mp passes
      obtain ⟨next, result, milestones⟩ := runStages_cons operation first stages select
      obtain ⟨succeeds, logs⟩ := ih next others
      exact ⟨result ▸ succeeds, milestones.trans (congrArg _ logs)⟩

/-- Stages stop at the first one that fails, with the milestones of those before it. -/
theorem runStages_of_fails (before : List ListStage) {stage : ListStage}
    (after : List ListStage) (select : Sql.Select) {failure : Failure}
    (passes : ∀ earlier ∈ before, builder.stageFailure? query earlier = none)
    (fails : builder.stageFailure? query stage = some failure) :
    (builder.runStages query operation (before ++ stage :: after) select).result =
        .error failure ∧
      (builder.runStages query operation (before ++ stage :: after) select).milestones =
        builder.logged operation (before.map ListStage.milestone) := by
  induction before generalizing select with
  | nil =>
      rw [← builder.failure?_runStage query stage select, Success.failure?_eq_some_iff] at fails
      rw [List.nil_append, runStages, Outcome.result_bind, fails,
        Outcome.milestones_bind_of_error _ _ failure fails, milestones_runStage]
      exact ⟨rfl, rfl⟩
  | cons earlier before ih =>
      obtain ⟨first, others⟩ := List.forall_mem_cons.mp passes
      obtain ⟨next, result, milestones⟩ :=
        runStages_cons operation first (before ++ stage :: after) select
      obtain ⟨stops, logs⟩ := ih next others
      exact ⟨result.trans stops, milestones.trans (congrArg _ logs)⟩

/-! ## The build -/

/-- A build whose stages all succeed does, and logs every milestone. -/
theorem build_of_passes (select : Sql.Select)
    (passes : ∀ stage ∈ operation.stages, builder.stageFailure? query stage = none) :
    (∃ built, (builder.build query operation select).result = .ok built) ∧
      (builder.build query operation select).milestones =
        builder.logged operation operation.milestones := by
  obtain ⟨⟨listed, made⟩, logs⟩ := runStages_of_passes operation operation.stages select passes
  rw [build_eq_runStages, Outcome.milestones_bind_of_ok _ _ () rfl,
    Outcome.milestones_bind_of_ok _ _ listed made, logs, Operation.milestones_eq]
  refine ⟨⟨builder.applyVisibility (operation.trashed query.trashed) listed, ?_⟩, ?_⟩
  · rw [reach, Outcome.result_emit_bind, Outcome.result_bind, made]
    rfl
  · simp only [logged, List.map_append, List.map_cons, List.cons_append]
    rfl

/-- A build stops at the first of its stages that fails, with the milestones up to it. -/
theorem build_of_fails {before after : List ListStage} {stage : ListStage} (select : Sql.Select)
    {failure : Failure} (split : operation.stages = before ++ stage :: after)
    (passes : ∀ earlier ∈ before, builder.stageFailure? query earlier = none)
    (fails : builder.stageFailure? query stage = some failure) :
    (builder.build query operation select).result = .error failure ∧
      (builder.build query operation select).milestones =
        builder.logged operation (.start :: before.map ListStage.milestone) := by
  obtain ⟨stops, logs⟩ := runStages_of_fails operation before after select passes fails
  rw [← split] at stops logs
  rw [build_eq_runStages, Outcome.milestones_bind_of_ok _ _ () rfl,
    Outcome.milestones_bind_of_error _ _ failure stops, logs]
  refine ⟨?_, rfl⟩
  rw [reach, Outcome.result_emit_bind, Outcome.result_bind, stops]
  rfl

/-- The failure of a build is that of the first of its stages that fails. -/
theorem failure?_build (select : Sql.Select) :
    Success.failure? (builder.build query operation select).result =
      operation.stages.findSome? (builder.stageFailure? query) := by
  cases found : operation.stages.findSome? (builder.stageFailure? query) with
  | none =>
      have passes := List.findSome?_eq_none_iff.mp found
      exact (Success.failure?_eq_none_iff _).mpr (build_of_passes operation select passes).1
  | some failure =>
      obtain ⟨before, stage, after, split, fails, passes⟩ := List.findSome?_eq_some_iff.mp found
      exact (Success.failure?_eq_some_iff _ _).mpr
        (build_of_fails operation select split passes fails).1

end Builder

/-- Every stage of a list fails with the first of its parts that fails, and a build with
the first of its stages that fails; so it succeeds exactly when the stages of its operation
do, and an operation on one row always does. The milestones in the log are the first ones of
the operation, in their order: all of them after a success, and after a failure those up to
the stage that failed. -/
theorem build_stops_at_first_failure (builder : Builder) (query : Query) (operation : Operation)
    (select : Sql.Select) :
    (∀ stage statement,
      Success.failure? (builder.runStage query stage statement).result =
        builder.stageFailure? query stage) ∧
    Success.failure? (builder.build query operation select).result =
      operation.stages.findSome? (builder.stageFailure? query) ∧
    ((∃ built, (builder.build query operation select).result = .ok built) ↔
      ∀ stage ∈ operation.stages, builder.stageFailure? query stage = none) ∧
    (operation.isList = false →
      ∃ built, (builder.build query operation select).result = .ok built) ∧
    ∃ passed : List Milestone,
      (builder.build query operation select).milestones = builder.logged operation passed ∧
      passed <+: operation.milestones ∧
      passed.Pairwise (fun earlier later => earlier.rank < later.rank) ∧
      (passed = operation.milestones ↔
        ∃ built, (builder.build query operation select).result = .ok built) ∧
      ∀ failure, (builder.build query operation select).result = .error failure →
        ∃ before stage after, operation.stages = before ++ stage :: after ∧
          (∀ earlier ∈ before, builder.stageFailure? query earlier = none) ∧
          builder.stageFailure? query stage = some failure ∧
          passed = .start :: before.map ListStage.milestone := by
  have stops : Success.failure? (builder.build query operation select).result =
      operation.stages.findSome? (builder.stageFailure? query) :=
    Builder.failure?_build operation select
  have succeeds : (∃ built, (builder.build query operation select).result = .ok built) ↔
      ∀ stage ∈ operation.stages, builder.stageFailure? query stage = none := by
    rw [← Success.failure?_eq_none_iff, stops, List.findSome?_eq_none_iff]
  refine ⟨builder.failure?_runStage query, stops, succeeds, ?_, ?_⟩
  · intro acts
    refine succeeds.mpr fun stage member => ?_
    rw [Operation.stages, acts] at member
    cases member
  · cases found : operation.stages.findSome? (builder.stageFailure? query) with
    | none =>
        have passes := List.findSome?_eq_none_iff.mp found
        obtain ⟨made, logs⟩ := Builder.build_of_passes operation select passes
        refine ⟨operation.milestones, logs, List.prefix_refl _, operation.milestones_increase,
          ⟨fun _ => made, fun _ => rfl⟩, fun failure failed => ?_⟩
        obtain ⟨built, made⟩ := made
        rw [made] at failed
        cases failed
    | some failure =>
        obtain ⟨before, stage, after, split, fails, passes⟩ := List.findSome?_eq_some_iff.mp found
        obtain ⟨failed, logs⟩ := Builder.build_of_fails operation select split passes fails
        have rest : operation.milestones = (.start :: before.map ListStage.milestone) ++
            ((stage :: after).map ListStage.milestone ++ [.softDeleteApplied, .done]) := by
          rw [operation.milestones_eq, split, List.map_append, List.cons_append, List.cons_append,
            List.append_assoc]
        have front : (.start :: before.map ListStage.milestone) <+: operation.milestones :=
          ⟨_, rest.symm⟩
        refine ⟨_, logs, front, operation.milestones_increase.sublist front.sublist, ?_, ?_⟩
        · constructor
          · intro complete
            have shorter := congrArg List.length (complete.trans rest)
            simp at shorter
          · rintro ⟨built, made⟩
            rw [made] at failed
            cases failed
        · intro other reported
          rw [failed] at reported
          cases reported
          exact ⟨before, stage, after, split, passes, fails, rfl⟩

/-- Posts without any relation. -/
def barePosts : Builder :=
  { resource := { model := { table := "posts" } }
    backend := .sqlite }

/-- Two tests inside a group go through relations that do not exist, and so does an
order. -/
def strayQuery : Query :=
  { filters := [.isMissing .and "title",
      .group .or [.isMissing .and "body", .isMissing .or "owner.name", .isMissing .or "pivot.role"]]
    sorting := [⟨"editor.name", .ascending⟩] }

/-- A list of the posts stops at the first of the two tests, behind the scopes; the same
query is no obstacle to the deletion of a post. -/
theorem build_stops_at_first_failure_strayQuery (select : Sql.Select) :
    (barePosts.build strayQuery .index select).result =
        .error (.misconfigured (.unknownRelation "owner" "posts")) ∧
      (barePosts.build strayQuery .index select).milestones =
        [.reached "posts" "index" .start, .reached "posts" "index" .scopesApplied] ∧
      ∃ built, (barePosts.build strayQuery .destroy select).result = .ok built := by
  have stray : barePosts.stageFailure? strayQuery .filters =
      some (.misconfigured (.unknownRelation "owner" "posts")) := rfl
  obtain ⟨_, stops, _, _, passed, logs, _, _, _, stopped⟩ :=
    build_stops_at_first_failure barePosts strayQuery .index select
  have failed := (Success.failure?_eq_some_iff _ _).mp (stops.trans rfl)
  obtain ⟨before, stage, after, split, passes, fails, rfl⟩ := stopped _ failed
  refine ⟨failed, ?_, ?_⟩
  · cases before with
    | nil =>
        cases split
        cases fails
    | cons first before =>
        cases before with
        | nil =>
            cases split
            exact logs
        | cons second before =>
            obtain ⟨_, split⟩ := List.cons.inj split
            obtain ⟨rfl, _⟩ := List.cons.inj split
            have passed := passes .filters (List.mem_cons_of_mem _ List.mem_cons_self)
            exact nomatch passed.symm.trans stray
  · exact (build_stops_at_first_failure barePosts strayQuery .destroy select).2.2.2.1 rfl

end QueryGate
