import Mathlib.Data.List.SplitBy
import QueryGate.Query.Filter
import QueryGate.Sql.Truth

/-!
# The reading of filter lists

What a filter list means, apart from how its condition is built. A group without
any test is hollow, and hollow groups are deleted first, at every level. The
siblings that remain are cut into runs, a new one at each `or` that has a sibling
before it; a run holds when all of it does, and the list holds when one of its
runs does. Groups are read in the same way.

The truth of a test is given from outside, so the reading knows no columns.
`readRuns_cons` reads the siblings from left to right, as a loop over them does.

Filter lists that differ in their spelling only have one reading: the combinator
of the first remaining sibling, a hollow group, and one more group around a whole
list change nothing, wherever in the tree they stand (`Restates.reading_eq`).
-/

set_option autoImplicit false

namespace QueryGate.Filter

open Sql (Junction Truth)

/-! ## Tests and hollow groups -/

mutual

/-- The tests of a filter, in the order of the request. -/
def tests : Filter → List FieldTest
  | test _ fieldTest => [fieldTest]
  | group _ members => listTests members

/-- The tests of a filter list, in the order of the request. -/
def listTests : List Filter → List FieldTest
  | [] => []
  | filter :: filters => filter.tests ++ listTests filters

end

/-- Whether there is no test in the filter. -/
def isHollow (filter : Filter) : Bool :=
  filter.tests.isEmpty

mutual

/-- The filter without the hollow groups in it. -/
def pruned : Filter → Filter
  | test combinator fieldTest => .test combinator fieldTest
  | group combinator members => .group combinator (prune members)

/-- The filter list without hollow groups, at every level. -/
def prune : List Filter → List Filter
  | [] => []
  | filter :: filters => if filter.isHollow then prune filters else filter.pruned :: prune filters

end

/-! ## Runs -/

/-- What a reading knows of a sibling: how it joins the one before, and its
truth. -/
abbrev Sibling := Combinator × Truth

/-- The siblings cut into runs before every `or` but the first of them. -/
def cutRuns (siblings : List Sibling) : List (List Sibling) :=
  siblings.splitBy fun _ next => next.1 == .and

/-- The truth of a run: all of it. -/
def runTruth (run : List Sibling) : Truth :=
  Junction.all.combineAll (run.map Prod.snd)

/-- The truth of siblings: one of their runs. -/
def readRuns (siblings : List Sibling) : Truth :=
  Junction.any.combineAll ((cutRuns siblings).map runTruth)

mutual

/-- The truth of a filter, where `leaf` gives the truth of tests. -/
def truth (leaf : FieldTest → Truth) : Filter → Truth
  | test _ fieldTest => leaf fieldTest
  | group _ members => readRuns (siblings leaf members)

/-- The filters of a list as a reading knows them. -/
def siblings (leaf : FieldTest → Truth) : List Filter → List Sibling
  | [] => []
  | filter :: filters => (filter.combinator, filter.truth leaf) :: siblings leaf filters

end

/-- The truth of a filter list, when there is any test in it. -/
def reading (leaf : FieldTest → Truth) (filters : List Filter) : Option Truth :=
  if listTests filters = [] then none else some (readRuns (siblings leaf (prune filters)))

/-! ## Reading from left to right -/

/-- The truth of siblings that follow an open run. -/
def readFrom (run : Truth) : List Sibling → Truth
  | [] => run
  | (.and, truth) :: siblings => readFrom (run.both truth) siblings
  | (.or, truth) :: siblings => run.either (readFrom truth siblings)

theorem runTruth_singleton (sibling : Sibling) : runTruth [sibling] = sibling.2 :=
  Junction.combine_unit .all sibling.2

theorem runTruth_cons (sibling : Sibling) (run : List Sibling) :
    runTruth (sibling :: run) = (runTruth run).both sibling.2 :=
  Junction.combine_comm .all sibling.2 (runTruth run)

theorem runTruth_reverse (run : List Sibling) : runTruth run.reverse = runTruth run := by
  rw [runTruth, List.map_reverse, Junction.combineAll_reverse]
  rfl

/-- The loop that cuts siblings holds an open run, last sibling first, and the
closed runs, last run first. -/
theorem splitBy_loop_truth (siblings run : List Sibling) (last : Sibling)
    (closed : List (List Sibling)) :
    Junction.any.combineAll
        ((List.splitBy.loop (fun _ next => next.1 == .and) siblings last run closed).map runTruth) =
      (Junction.any.combineAll (closed.map runTruth)).either
        (readFrom (runTruth (last :: run)) siblings) := by
  induction siblings generalizing last run closed with
  | nil =>
      rw [List.splitBy.loop, List.map_reverse, Junction.combineAll_reverse, List.map_cons,
        runTruth_reverse, Junction.combineAll_cons]
      exact Junction.combine_comm .any _ _
  | cons next rest ih =>
      obtain ⟨combinator, truth⟩ := next
      cases combinator with
      | and =>
          rw [List.splitBy.loop]
          simp only [beq_self_eq_true]
          rw [ih, runTruth_cons]
          rfl
      | or =>
          have opens : (Combinator.or == Combinator.and) = false := rfl
          rw [List.splitBy.loop]
          simp only [opens]
          rw [ih, List.map_cons, runTruth_reverse, Junction.combineAll_cons, runTruth_singleton,
            Junction.combine_comm .any (runTruth (last :: run))]
          exact Junction.combine_assoc .any _ _ _

/-- Siblings are read from the first one on, whose combinator does not count. -/
theorem readRuns_cons (combinator : Combinator) (truth : Truth) (siblings : List Sibling) :
    readRuns ((combinator, truth) :: siblings) = readFrom truth siblings := by
  have loop := splitBy_loop_truth siblings [] (combinator, truth) []
  rw [runTruth_singleton] at loop
  exact loop.trans (Junction.unit_combine .any _)

/-! ## Pruning -/

theorem isHollow_iff (filter : Filter) : filter.isHollow = true ↔ filter.tests = [] :=
  List.isEmpty_iff

theorem listTests_append (first second : List Filter) :
    listTests (first ++ second) = listTests first ++ listTests second := by
  induction first with
  | nil => rfl
  | cons filter filters ih =>
      rw [List.cons_append, listTests, ih, listTests, List.append_assoc]

theorem prune_cons_of_hollow {filter : Filter} (filters : List Filter)
    (hollow : filter.isHollow = true) : prune (filter :: filters) = prune filters := by
  rw [prune, if_pos hollow]

theorem prune_cons_of_not_hollow {filter : Filter} (filters : List Filter)
    (held : ¬ filter.isHollow = true) :
    prune (filter :: filters) = filter.pruned :: prune filters := by
  rw [prune, if_neg held]

theorem prune_append (first second : List Filter) :
    prune (first ++ second) = prune first ++ prune second := by
  induction first with
  | nil => rfl
  | cons filter filters ih =>
      by_cases hollow : filter.isHollow = true
      · rw [List.cons_append, prune_cons_of_hollow _ hollow, prune_cons_of_hollow _ hollow, ih]
      · rw [List.cons_append, prune_cons_of_not_hollow _ hollow,
          prune_cons_of_not_hollow _ hollow, ih, List.cons_append]

/-- Nothing remains of a list exactly when there is no test in it. -/
theorem prune_eq_nil_iff (filters : List Filter) : prune filters = [] ↔ listTests filters = [] := by
  induction filters with
  | nil => exact ⟨fun _ => rfl, fun _ => rfl⟩
  | cons filter filters ih =>
      rw [listTests, List.append_eq_nil_iff, ← isHollow_iff, ← ih]
      by_cases hollow : filter.isHollow = true
      · rw [prune_cons_of_hollow _ hollow]
        exact ⟨fun rest => ⟨hollow, rest⟩, And.right⟩
      · rw [prune_cons_of_not_hollow _ hollow]
        exact ⟨fun impossible => absurd impossible (List.cons_ne_nil _ _),
          fun both => absurd both.1 hollow⟩

theorem combinator_pruned (filter : Filter) : filter.pruned.combinator = filter.combinator := by
  cases filter <;> rfl

theorem siblings_eq_map (leaf : FieldTest → Truth) (filters : List Filter) :
    siblings leaf filters =
      filters.map fun filter => (filter.combinator, filter.truth leaf) := by
  induction filters with
  | nil => rfl
  | cons filter filters ih => rw [siblings, ih, List.map_cons]

theorem siblings_append (leaf : FieldTest → Truth) (first second : List Filter) :
    siblings leaf (first ++ second) = siblings leaf first ++ siblings leaf second := by
  rw [siblings_eq_map, siblings_eq_map, siblings_eq_map, List.map_append]

/-! ## Spellings of one reading -/

/-- The filter with another combinator. -/
def joinedBy (combinator : Combinator) : Filter → Filter
  | test _ fieldTest => .test combinator fieldTest
  | group _ members => .group combinator members

/-- Filter lists that differ in their spelling: in the combinator of the first
sibling that is not hollow, in a hollow sibling, or in a group around the whole
list; and the same inside a group. -/
inductive Restates : List Filter → List Filter → Prop where
  | retype (combinator : Combinator) {before : List Filter} (filter : Filter) (after : List Filter)
      (hollow : ∀ earlier ∈ before, earlier.isHollow = true) :
      Restates (before ++ filter :: after) (before ++ filter.joinedBy combinator :: after)
  | drop (before : List Filter) {filter : Filter} (after : List Filter)
      (hollow : filter.isHollow = true) : Restates (before ++ filter :: after) (before ++ after)
  | wrap (combinator : Combinator) (filters : List Filter) :
      Restates filters [.group combinator filters]
  | within (before : List Filter) (combinator : Combinator) {members others : List Filter}
      (after : List Filter) :
      Restates members others →
        Restates (before ++ .group combinator members :: after)
          (before ++ .group combinator others :: after)
  | refl (filters : List Filter) : Restates filters filters
  | symm {first second : List Filter} : Restates first second → Restates second first
  | trans {first second third : List Filter} :
      Restates first second → Restates second third → Restates first third

theorem tests_joinedBy (combinator : Combinator) (filter : Filter) :
    (filter.joinedBy combinator).tests = filter.tests := by
  cases filter <;> simp only [joinedBy, tests]

theorem prune_hollow_append {before : List Filter} (after : List Filter)
    (hollow : ∀ earlier ∈ before, earlier.isHollow = true) :
    prune (before ++ after) = prune after := by
  induction before with
  | nil => rfl
  | cons filter filters ih =>
      rw [List.cons_append, prune_cons_of_hollow _ (hollow filter List.mem_cons_self)]
      exact ih fun earlier member => hollow earlier (List.mem_cons_of_mem _ member)

namespace Restates

/-- Restating keeps the tests and their order. -/
theorem listTests_eq {first second : List Filter} (restates : Restates first second) :
    listTests first = listTests second := by
  induction restates with
  | retype combinator filter after _ =>
      rw [listTests_append, listTests_append, listTests, listTests, tests_joinedBy]
  | drop before after hollow =>
      rw [listTests_append, listTests_append, listTests, (isHollow_iff _).mp hollow,
        List.nil_append]
  | wrap combinator filters => rw [listTests, listTests, tests, List.append_nil]
  | within before combinator after _ ih =>
      rw [listTests_append, listTests_append, listTests, listTests, tests, tests, ih]
  | refl filters => rfl
  | symm _ ih => exact ih.symm
  | trans _ _ first second => exact first.trans second

/-- A sibling's combinator is read only where a sibling remains before it. -/
theorem readRuns_retype (leaf : FieldTest → Truth) (combinator : Combinator) (filter : Filter)
    (after : List Filter) :
    readRuns (siblings leaf (prune (filter :: after))) =
      readRuns (siblings leaf (prune (filter.joinedBy combinator :: after))) := by
  have same : (filter.joinedBy combinator).pruned.truth leaf = filter.pruned.truth leaf := by
    cases filter <;> simp only [joinedBy, pruned, truth]
  have hollows : (filter.joinedBy combinator).isHollow = filter.isHollow := by
    rw [isHollow, isHollow, tests_joinedBy]
  by_cases hollow : filter.isHollow = true
  · rw [prune_cons_of_hollow _ hollow, prune_cons_of_hollow _ (hollows.trans hollow)]
  · rw [prune_cons_of_not_hollow _ hollow,
      prune_cons_of_not_hollow _ (fun other => hollow (hollows.symm.trans other)), siblings,
      siblings, readRuns_cons, readRuns_cons, same]

/-- A group is read as its members are. -/
theorem readRuns_wrap (leaf : FieldTest → Truth) (combinator : Combinator)
    (filters : List Filter) :
    readRuns (siblings leaf (prune filters)) =
      readRuns (siblings leaf (prune [.group combinator filters])) := by
  by_cases hollow : (Filter.group combinator filters).isHollow = true
  · have empty : listTests filters = [] := by
      rw [isHollow_iff, tests] at hollow
      exact hollow
    rw [prune_cons_of_hollow _ hollow, (prune_eq_nil_iff filters).mpr empty, prune]
  · rw [prune_cons_of_not_hollow _ hollow, prune, pruned, siblings, siblings, readRuns_cons, truth]
    rfl

/-- Restating keeps the truth. -/
theorem readRuns_eq (leaf : FieldTest → Truth) {first second : List Filter}
    (restates : Restates first second) :
    readRuns (siblings leaf (prune first)) = readRuns (siblings leaf (prune second)) := by
  induction restates with
  | retype combinator filter after hollow =>
      rw [prune_hollow_append _ hollow, prune_hollow_append _ hollow]
      exact readRuns_retype leaf combinator filter after
  | drop before after hollow => rw [prune_append, prune_append, prune_cons_of_hollow _ hollow]
  | wrap combinator filters => exact readRuns_wrap leaf combinator filters
  | @within before combinator members others after inner ih =>
      have hollows : (Filter.group combinator members).isHollow =
          (Filter.group combinator others).isHollow := by
        rw [isHollow, isHollow, tests, tests, inner.listTests_eq]
      rw [prune_append, prune_append, siblings_append, siblings_append]
      by_cases hollow : (Filter.group combinator members).isHollow = true
      · rw [prune_cons_of_hollow _ hollow, prune_cons_of_hollow _ (hollows.symm.trans hollow)]
      · rw [prune_cons_of_not_hollow _ hollow,
          prune_cons_of_not_hollow _ (fun other => hollow (hollows.trans other)), siblings,
          siblings, pruned, pruned, truth, truth, ih]
        rfl
  | refl filters => rfl
  | symm _ ih => exact ih.symm
  | trans _ _ first second => exact first.trans second

/-- Filter lists that differ in their spelling have one reading. -/
theorem reading_eq (leaf : FieldTest → Truth) {first second : List Filter}
    (restates : Restates first second) : reading leaf first = reading leaf second := by
  rw [reading, reading, restates.listTests_eq, restates.readRuns_eq leaf]

end Restates

end QueryGate.Filter
