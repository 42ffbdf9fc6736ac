import QueryGate.Build.Filters
import QueryGate.Proofs.Filter.Reading
import QueryGate.Proofs.Success

/-!
# The precedence of filter lists

The condition of a filter list means what the list reads: there is none exactly
when there is no test, and otherwise it is as true as the reading says, under every
assignment of truth to the predicates (`truth_filterGroup`).

The list is walked once, with an open run and the closed ones. What the walk adds
are the groups of the siblings that are not hollow (`collectRuns_builds`), and the
disjunction of the runs has the truth of these siblings read from left to right
(`truth_addAll`). It fails with the first of the tests that has no condition
(`failure?_filterGroup`), so a list has one, if any, exactly when its tests do.
-/

set_option autoImplicit false

namespace QueryGate

open QueryGate.Filter (Sibling listTests prune siblings readRuns readFrom readRuns_cons
  prune_eq_nil_iff prune_cons_of_hollow prune_cons_of_not_hollow siblings_eq_map combinator_pruned
  isHollow_iff)
open Sql (Junction Truth)

/-! ## The truth of runs -/

namespace Runs

/-- The runs with the groups of several siblings, one after another. -/
def addAll (runs : Runs) (siblings : List (Combinator × Sql.Group)) : Runs :=
  siblings.foldl (fun runs sibling => runs.add sibling.1 sibling.2) runs

variable (atom : Sql.Condition → Truth)

/-- The truth of runs: one of them. -/
def truth (runs : Runs) : Truth :=
  Junction.any.combineAll (runs.toList.map fun run => run.truth atom)

/-- Siblings given by their groups, with the truth of each. -/
def truths (siblings : List (Combinator × Sql.Group)) : List Sibling :=
  siblings.map fun sibling => (sibling.1, sibling.2.truth atom)

theorem toGroup?_eq_none_iff (runs : Runs) : runs.toGroup? = none ↔ runs.toList = [] := by
  unfold toGroup?
  split <;> simp_all

theorem truth_toGroup? {runs : Runs} {group : Sql.Group} (made : runs.toGroup? = some group) :
    group.truth atom = runs.truth atom := by
  unfold toGroup? at made
  unfold truth
  split at made
  · cases made
  · rename_i run sole
    cases made
    rw [sole]
    exact (Junction.combine_unit .any _).symm
  · cases made
    rw [Sql.Group.truth_foldl_addGroup, Sql.Group.truth_any]
    exact Junction.unit_combine .any _

/-- Going on from an open run, the runs are as true as the closed ones and what
is read from the open one on. -/
theorem truth_addAll_open (closed : List Sql.Group) (run : Sql.Group)
    (conjunction : run.kind = .all)
    (siblings : List (Combinator × Sql.Group)) :
    (addAll ⟨closed, some run⟩ siblings).truth atom =
      (Junction.any.combineAll (closed.map fun run => run.truth atom)).either
        (readFrom (run.truth atom) (truths atom siblings)) := by
  induction siblings generalizing closed run with
  | nil =>
      show Junction.any.combineAll ((closed ++ [run]).map fun run => run.truth atom) = _
      rw [List.map_append, Junction.combineAll_append, List.map_singleton,
        Junction.combineAll_cons, Junction.combineAll_nil, Junction.combine_unit]
      rfl
  | cons sibling siblings ih =>
      obtain ⟨combinator, group⟩ := sibling
      cases combinator with
      | and =>
          refine (ih closed (run.addGroup group) conjunction).trans ?_
          rw [Sql.Group.truth_addGroup, conjunction]
          rfl
      | or =>
          refine (ih (closed ++ [run]) (Sql.Group.all.addGroup group) rfl).trans ?_
          rw [List.map_append, Junction.combineAll_append, Sql.Group.truth_all_addGroup,
            List.map_singleton, Junction.combineAll_cons, Junction.combineAll_nil,
            Junction.combine_unit]
          exact Junction.combine_assoc .any _ _ _

/-- The runs of siblings are as true as their reading. -/
theorem truth_addAll (siblings : List (Combinator × Sql.Group)) :
    (addAll {} siblings).truth atom = readRuns (truths atom siblings) := by
  cases siblings with
  | nil => rfl
  | cons sibling siblings =>
      obtain ⟨combinator, group⟩ := sibling
      have opened : addAll {} ((combinator, group) :: siblings) =
          addAll ⟨[], some (Sql.Group.all.addGroup group)⟩ siblings := by
        cases combinator <;> rfl
      rw [opened, truth_addAll_open atom _ _ rfl, Sql.Group.truth_all_addGroup]
      refine (Junction.unit_combine .any _).trans ?_
      exact (readRuns_cons combinator (group.truth atom) (truths atom siblings)).symm

/-- Nothing is left of runs only where nothing was added. -/
theorem toList_addAll_eq_nil_iff (siblings : List (Combinator × Sql.Group)) :
    (addAll {} siblings).toList = [] ↔ siblings = [] := by
  have kept : ∀ (siblings : List (Combinator × Sql.Group)) (closed : List Sql.Group)
      (run : Sql.Group), (addAll ⟨closed, some run⟩ siblings).toList ≠ [] := by
    intro siblings
    induction siblings with
    | nil =>
        intro closed run
        exact List.append_ne_nil_of_right_ne_nil closed (List.cons_ne_nil run [])
    | cons sibling siblings ih =>
        obtain ⟨combinator, group⟩ := sibling
        intro closed run
        cases combinator with
        | and => exact ih closed (run.addGroup group)
        | or => exact ih (closed ++ [run]) (Sql.Group.all.addGroup group)
  cases siblings with
  | nil => exact ⟨fun _ => rfl, fun _ => rfl⟩
  | cons sibling siblings =>
      obtain ⟨combinator, group⟩ := sibling
      refine ⟨fun empty => absurd empty ?_,
        fun impossible => absurd impossible (List.cons_ne_nil _ _)⟩
      cases combinator <;> exact kept siblings [] (Sql.Group.all.addGroup group)

end Runs

/-! ## The walk over a list -/

/-- The truth of a test is that of its condition. A test without a condition has
no truth; `unknown` stands in for it. -/
def testTruth (context : Context) (atom : Sql.Condition → Truth) (fieldTest : FieldTest) : Truth :=
  match testGroup context fieldTest with
  | .ok group => group.truth atom
  | .error _ => .unknown

/-- Every test of the list has a condition. -/
def AllBuilt (context : Context) (fieldTests : List FieldTest) : Prop :=
  ∀ fieldTest ∈ fieldTests, ∃ group, testGroup context fieldTest = .ok group

/-- The groups are those of the siblings of a list that are not hollow. -/
structure Builds (context : Context) (filters : List Filter)
    (groups : List (Combinator × Sql.Group)) : Prop where
  tests : AllBuilt context (listTests filters)
  truths : ∀ atom, Runs.truths atom groups = siblings (testTruth context atom) (prune filters)

variable {context : Context}

theorem AllBuilt.append {first second : List FieldTest} (earlier : AllBuilt context first)
    (later : AllBuilt context second) : AllBuilt context (first ++ second) := by
  intro fieldTest member
  rcases List.mem_append.mp member with inFirst | inSecond
  · exact earlier fieldTest inFirst
  · exact later fieldTest inSecond

namespace Builds

theorem nil : Builds context [] [] :=
  ⟨fun _ impossible => absurd impossible List.not_mem_nil, fun _ => rfl⟩

/-- A hollow filter adds nothing. -/
theorem skip {filter : Filter} {filters : List Filter} {groups : List (Combinator × Sql.Group)}
    (hollow : filter.tests = []) (builds : Builds context filters groups) :
    Builds context (filter :: filters) groups where
  tests := by
    rw [listTests, hollow]
    exact builds.tests
  truths atom := by
    rw [prune_cons_of_hollow _ ((isHollow_iff filter).mpr hollow)]
    exact builds.truths atom

/-- Every other filter adds its group. -/
theorem cons {filter : Filter} {filters : List Filter} {groups : List (Combinator × Sql.Group)}
    {group : Sql.Group} (held : filter.tests ≠ []) (built : AllBuilt context filter.tests)
    (same : ∀ atom, group.truth atom = filter.pruned.truth (testTruth context atom))
    (builds : Builds context filters groups) :
    Builds context (filter :: filters) ((filter.combinator, group) :: groups) where
  tests := by
    rw [listTests]
    exact built.append builds.tests
  truths atom := by
    rw [prune_cons_of_not_hollow _ (fun hollow => held ((isHollow_iff filter).mp hollow)),
      siblings, combinator_pruned, ← same atom, ← builds.truths atom]
    rfl

/-- There is nothing to build exactly when there is no test. -/
theorem eq_nil_iff {filters : List Filter} {groups : List (Combinator × Sql.Group)}
    (builds : Builds context filters groups) : groups = [] ↔ listTests filters = [] := by
  rw [← prune_eq_nil_iff]
  have lengths := congrArg List.length (builds.truths fun _ => .unknown)
  rw [Runs.truths, List.length_map, siblings_eq_map, List.length_map] at lengths
  rw [← List.length_eq_zero_iff, lengths, List.length_eq_zero_iff]

end Builds

/-- What the walk over a filter says of its condition. -/
structure NodeBuilt (context : Context) (filter : Filter) (result : Option Sql.Group) : Prop where
  tests : AllBuilt context filter.tests
  eq_none_iff : result = none ↔ filter.tests = []
  truth : ∀ group, result = some group →
    ∀ atom, group.truth atom = filter.pruned.truth (testTruth context atom)

/-- The runs of built siblings make the condition of the list. -/
theorem Builds.toGroup? {filters : List Filter} {groups : List (Combinator × Sql.Group)}
    (builds : Builds context filters groups) (combinator : Combinator) :
    NodeBuilt context (.group combinator filters) (Runs.addAll {} groups).toGroup? where
  tests := by
    rw [Filter.tests]
    exact builds.tests
  eq_none_iff := by
    rw [Runs.toGroup?_eq_none_iff, Runs.toList_addAll_eq_nil_iff, builds.eq_nil_iff, Filter.tests]
  truth group made atom := by
    rw [Runs.truth_toGroup? atom made, Runs.truth_addAll, builds.truths, Filter.pruned,
      Filter.truth]

mutual

/-- The walk over a filter gives the condition that its reading describes. -/
theorem nodeGroup_built : ∀ (filter : Filter) (result : Option Sql.Group),
    nodeGroup context filter = .ok result → NodeBuilt context filter result
  | .test combinator fieldTest, result, made => by
      rw [nodeGroup, Success.map_eq_ok_iff] at made
      obtain ⟨group, built, rfl⟩ := made
      refine ⟨?_, ?_, ?_⟩
      · intro other member
        rw [Filter.tests, List.mem_singleton] at member
        exact ⟨group, member ▸ built⟩
      · rw [Filter.tests]
        exact ⟨fun impossible => (nomatch impossible), fun impossible => (nomatch impossible)⟩
      · intro _ same atom
        cases same
        rw [Filter.pruned, Filter.truth, testTruth, built]
  | .group combinator members, result, made => by
      rw [nodeGroup, Success.map_eq_ok_iff] at made
      obtain ⟨collected, walked, rfl⟩ := made
      obtain ⟨groups, builds, rfl⟩ := collectRuns_builds members {} collected walked
      exact builds.toGroup? combinator

/-- The walk over a list adds the groups of the siblings that are not hollow. -/
theorem collectRuns_builds : ∀ (filters : List Filter) (runs collected : Runs),
    collectRuns context runs filters = .ok collected →
      ∃ groups, Builds context filters groups ∧ runs.addAll groups = collected
  | [], runs, collected, made => by
      rw [collectRuns] at made
      cases made
      exact ⟨[], .nil, rfl⟩
  | filter :: filters, runs, collected, made => by
      rw [collectRuns, Success.bind_eq_ok_iff] at made
      obtain ⟨result, walked, rest⟩ := made
      have node := nodeGroup_built filter result walked
      cases result with
      | none =>
          obtain ⟨groups, builds, same⟩ := collectRuns_builds filters runs collected rest
          exact ⟨groups, builds.skip (node.eq_none_iff.mp rfl), same⟩
      | some group =>
          obtain ⟨groups, builds, same⟩ := collectRuns_builds filters _ collected rest
          have held : filter.tests ≠ [] :=
            fun hollow => Option.some_ne_none group (node.eq_none_iff.mpr hollow)
          exact ⟨(filter.combinator, group) :: groups,
            builds.cons held node.tests (node.truth group rfl), same⟩

end

/-- The failure of a test, if its condition cannot be built. -/
def testFailure? (context : Context) (fieldTest : FieldTest) : Option Failure :=
  Success.failure? (testGroup context fieldTest)

mutual

/-- The walk over a filter fails with the first of its tests that fails. -/
theorem failure?_nodeGroup : ∀ (filter : Filter),
    Success.failure? (nodeGroup context filter) = filter.tests.findSome? (testFailure? context)
  | .test combinator fieldTest => by
      rw [nodeGroup, Success.failure?_map, Filter.tests, List.findSome?_singleton]
      rfl
  | .group combinator members => by
      rw [nodeGroup, Success.failure?_map, Filter.tests]
      exact failure?_collectRuns members {}

/-- The walk over a list fails with the first of its tests that fails, whatever was
walked before. -/
theorem failure?_collectRuns : ∀ (filters : List Filter) (runs : Runs),
    Success.failure? (collectRuns context runs filters) =
      (listTests filters).findSome? (testFailure? context)
  | [], runs => by
      rw [collectRuns]
      rfl
  | filter :: filters, runs => by
      have here := failure?_nodeGroup filter
      rw [collectRuns, listTests, List.findSome?_append, ← here]
      cases nodeGroup context filter with
      | error failure => rfl
      | ok result =>
          cases result with
          | none => exact failure?_collectRuns filters runs
          | some group => exact failure?_collectRuns filters (runs.add filter.combinator group)

end

/-! ## The condition of a list -/

/-- The condition of a list is what the walk over a group of it gives. -/
theorem filterGroup_built {filters : List Filter} {result : Option Sql.Group}
    (made : filterGroup context filters = .ok result) (combinator : Combinator) :
    NodeBuilt context (.group combinator filters) result := by
  apply nodeGroup_built
  rw [nodeGroup]
  exact made

theorem testFailure?_eq_none_iff (fieldTest : FieldTest) :
    testFailure? context fieldTest = none ↔ ∃ group, testGroup context fieldTest = .ok group :=
  Success.failure?_eq_none_iff _

/-- A list fails with the first of its tests that fails. -/
theorem failure?_filterGroup (filters : List Filter) :
    Success.failure? (filterGroup context filters) =
      (listTests filters).findSome? (testFailure? context) := by
  rw [filterGroup, Success.failure?_map]
  exact failure?_collectRuns filters {}

/-- A list has a condition, if any, exactly when its tests have conditions. -/
theorem exists_filterGroup_iff (filters : List Filter) :
    (∃ result, filterGroup context filters = .ok result) ↔
      AllBuilt context (listTests filters) := by
  rw [← Success.failure?_eq_none_iff, failure?_filterGroup, List.findSome?_eq_none_iff]
  exact forall₂_congr fun fieldTest _ => testFailure?_eq_none_iff fieldTest

/-- A list fails exactly when some test does and those before it do not, and then with
the failure of this test. -/
theorem filterGroup_eq_error_iff (filters : List Filter) (failure : Failure) :
    filterGroup context filters = .error failure ↔
      ∃ before fieldTest after, listTests filters = before ++ fieldTest :: after ∧
        AllBuilt context before ∧ testGroup context fieldTest = .error failure := by
  rw [← Success.failure?_eq_some_iff, failure?_filterGroup, List.findSome?_eq_some_iff]
  constructor
  · rintro ⟨before, fieldTest, after, split, failed, built⟩
    exact ⟨before, fieldTest, after, split,
      fun earlier member => (testFailure?_eq_none_iff earlier).mp (built earlier member),
      (Success.failure?_eq_some_iff _ _).mp failed⟩
  · rintro ⟨before, fieldTest, after, split, built, failed⟩
    exact ⟨before, fieldTest, after, split, (Success.failure?_eq_some_iff _ _).mpr failed,
      fun earlier member => (testFailure?_eq_none_iff earlier).mpr (built earlier member)⟩

/-- The condition of a list means what the list reads. -/
theorem map_truth_filterGroup {filters : List Filter} {result : Option Sql.Group}
    (made : filterGroup context filters = .ok result) (atom : Sql.Condition → Truth) :
    result.map (fun group => group.truth atom) =
      Filter.reading (testTruth context atom) filters := by
  have node := filterGroup_built made .and
  have hollow := node.eq_none_iff
  rw [Filter.tests] at hollow
  rw [Filter.reading]
  cases result with
  | none => rw [if_pos (hollow.mp rfl)]; rfl
  | some group =>
      have held : listTests filters ≠ [] := fun empty =>
        Option.some_ne_none group (hollow.mpr empty)
      rw [if_neg held, Option.map_some, node.truth group rfl, Filter.pruned, Filter.truth]

/-- The condition of a filter list has the precedence of SQL: there is none exactly
where there is no test, it is as true as the reading of the list, and lists that
differ in their spelling have conditions of the same truth. -/
theorem truth_filterGroup (context : Context) (filters : List Filter) (result : Option Sql.Group)
    (made : filterGroup context filters = .ok result) :
    AllBuilt context (listTests filters) ∧
    (result = none ↔ listTests filters = []) ∧
    (∀ (atom : Sql.Condition → Truth) (group : Sql.Group), result = some group →
      group.truth atom = readRuns (siblings (testTruth context atom) (prune filters))) ∧
    ∀ others, Filter.Restates filters others →
      ∃ other, filterGroup context others = .ok other ∧
        ∀ atom, other.map (fun group => group.truth atom) =
          result.map fun group => group.truth atom := by
  have node := filterGroup_built made .and
  have built := (exists_filterGroup_iff filters).mp ⟨result, made⟩
  refine ⟨built, ?_, ?_, ?_⟩
  · rw [node.eq_none_iff, Filter.tests]
  · intro atom group same
    rw [node.truth group same, Filter.pruned, Filter.truth]
  · intro others restates
    obtain ⟨other, otherMade⟩ :=
      (exists_filterGroup_iff others).mpr (restates.listTests_eq ▸ built)
    refine ⟨other, otherMade, fun atom => ?_⟩
    rw [map_truth_filterGroup made, map_truth_filterGroup otherMade, restates.reading_eq]

/-- A table without relations. -/
def bareContext : Context := ⟨.sqlite, { table := "tags" }, [], none⟩

/-- The test whether a column of the root table has no value. -/
def Filter.isMissing (combinator : Combinator) (field : String) : Filter :=
  .test combinator ⟨field, .equal, .null⟩

/-- `a`, a hollow group after `or`, `b`, and after another `or` the group `c or d`. -/
def hollowBetween : List Filter :=
  [.isMissing .or "a", .group .or [.group .and []], .isMissing .and "b",
    .group .or [.isMissing .or "c", .isMissing .or "d"]]

/-- The hollow group does not keep `a` and `b` apart: `(a AND b) OR (c OR d)`. -/
theorem truth_filterGroup_hollowBetween :
    ∃ group, filterGroup bareContext hollowBetween = .ok (some group) ∧
      ∀ atom : Sql.Condition → Truth,
        let missing name := atom (.isNull false (.column ⟨"tags", name⟩))
        group.truth atom =
          ((missing "a").both (missing "b")).either ((missing "c").either (missing "d")) := by
  have built : ∃ group, filterGroup bareContext hollowBetween = .ok (some group) := ⟨_, rfl⟩
  obtain ⟨group, made⟩ := built
  refine ⟨group, made, fun atom => ?_⟩
  refine ((truth_filterGroup bareContext hollowBetween _ made).2.2.1 atom group rfl).trans ?_
  have read (leaf : FieldTest → Truth) : readRuns (siblings leaf (prune hollowBetween)) =
      ((leaf ⟨"a", .equal, .null⟩).both (leaf ⟨"b", .equal, .null⟩)).either
        ((leaf ⟨"c", .equal, .null⟩).either (leaf ⟨"d", .equal, .null⟩)) :=
    (readRuns_cons _ _ _).trans (congrArg (Truth.either _) (readRuns_cons _ _ _))
  have shown (name : String) (plain : FieldPath.ofText name = ⟨none, name⟩) :
      testTruth bareContext atom ⟨name, .equal, .null⟩ =
        atom (.isNull false (.column ⟨"tags", name⟩)) := by
    rw [testTruth, testGroup, plain]
    exact Junction.combine_unit .all _
  rw [read, shown "a" rfl, shown "b" rfl, shown "c" rfl, shown "d" rfl]

end QueryGate
