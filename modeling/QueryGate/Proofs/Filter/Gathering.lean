import QueryGate.Build.Filters
import QueryGate.Proofs.Filter.Reading
import QueryGate.Proofs.Sql.Gathering
import QueryGate.Proofs.Success

/-!
# What filter lists gather

Whatever is gathered of conditions is gathered of a filter list test by test, in the order of
the request: the walk over the list drops hollow groups and closes and opens runs, and runs
are put together in the order in which they were closed, so nothing of a test is lost, said
twice or moved before that of an earlier one (`gather_filterGroup`).
-/

set_option autoImplicit false

namespace QueryGate

open QueryGate.Filter (listTests)
open Sql (Gathers)

variable {α : Type} {read : Sql.Condition → List α}

namespace Runs

/-- What is read off runs, one after another. -/
def gather (read : Sql.Condition → List α) (runs : Runs) : List α :=
  runs.toList.flatMap (Sql.Group.gather read)

theorem gather_add (gathers : Gathers read) (runs : Runs) (combinator : Combinator)
    (group : Sql.Group) :
    (runs.add combinator group).gather read = runs.gather read ++ group.gather read := by
  obtain ⟨closed, current⟩ := runs
  have opened : (Sql.Group.all.addGroup group).gather read = group.gather read :=
    Sql.Group.gather_addGroup gathers .all group
  cases current with
  | none => cases combinator <;> simp [add, gather, toList, opened]
  | some run =>
      cases combinator <;> simp [add, gather, toList, opened, Sql.Group.gather_addGroup gathers]

theorem gather_toGroup? (gathers : Gathers read) (runs : Runs) :
    runs.toGroup?.toList.flatMap (Sql.Group.gather read) = runs.gather read := by
  unfold toGroup? gather
  split
  · next none =>
      rw [none]
      rfl
  · next run sole =>
      rw [sole]
      rfl
  · rw [Option.toList_some, List.flatMap_singleton, Sql.Group.gather_foldl_addGroup gathers]
    rfl

end Runs

/-- What is read off the condition of a test, nothing where it has none. -/
def testGather (context : Context) (read : Sql.Condition → List α) (fieldTest : FieldTest) :
    List α :=
  match testGroup context fieldTest with
  | .ok group => group.gather read
  | .error _ => []

variable {context : Context}

mutual

/-- The condition of a filter reads as its tests do, one after another. -/
theorem gather_nodeGroup (gathers : Gathers read) :
    ∀ (filter : Filter) (result : Option Sql.Group), nodeGroup context filter = .ok result →
      result.toList.flatMap (Sql.Group.gather read) =
        filter.tests.flatMap (testGather context read)
  | .test _ fieldTest, result, made => by
      rw [nodeGroup, Success.map_eq_ok_iff] at made
      obtain ⟨group, built, rfl⟩ := made
      rw [Filter.tests, Option.toList_some, List.flatMap_singleton, List.flatMap_singleton,
        testGather, built]
  | .group _ members, result, made => by
      rw [nodeGroup, Success.map_eq_ok_iff] at made
      obtain ⟨collected, walked, rfl⟩ := made
      rw [Filter.tests, Runs.gather_toGroup? gathers]
      exact gather_collectRuns gathers members {} collected walked

/-- The runs of a list read as they did before it, and then as its tests do. -/
theorem gather_collectRuns (gathers : Gathers read) :
    ∀ (filters : List Filter) (runs collected : Runs),
      collectRuns context runs filters = .ok collected →
        collected.gather read =
          runs.gather read ++ (listTests filters).flatMap (testGather context read)
  | [], runs, collected, made => by
      rw [collectRuns] at made
      cases made
      exact (List.append_nil _).symm
  | filter :: filters, runs, collected, made => by
      rw [collectRuns, Success.bind_eq_ok_iff] at made
      obtain ⟨result, built, rest⟩ := made
      have here := gather_nodeGroup gathers filter result built
      rw [listTests, List.flatMap_append, ← here]
      cases result with
      | none => exact gather_collectRuns gathers filters runs collected rest
      | some group =>
          rw [gather_collectRuns gathers filters _ collected rest, Runs.gather_add gathers,
            Option.toList_some, List.flatMap_singleton, List.append_assoc]

end

/-- The condition of a filter list reads as its tests do, in the order of the request. -/
theorem gather_filterGroup (gathers : Gathers read) {filters : List Filter}
    {result : Option Sql.Group} (made : filterGroup context filters = .ok result) :
    result.toList.flatMap (Sql.Group.gather read) =
      (listTests filters).flatMap (testGather context read) := by
  have walked := gather_nodeGroup gathers (.group .and filters) result
    (by rw [nodeGroup]; exact made)
  rwa [Filter.tests] at walked

end QueryGate
