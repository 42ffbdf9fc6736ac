import QueryGate.Build.Predicate
import QueryGate.Proofs.Sql.Evaluation

/-!
# What membership asks

The truth of the predicate that a membership operator puts on a column, whatever a database
makes of values and whatever the column holds in a row.

Each of the four operators asks something of every single value: to be equal or unequal to
the column, or to be contained in its array. A list of values asks for one of these, or for
all of them (`truth_membership`). Although a list that is empty, a list that is not and a
scalar each have a condition of their own, they mean the same: two lists behind one another
ask what both of them ask, joined as the operator joins, and a scalar asks what the list of
it alone does (`membership_laws`).
-/

set_option autoImplicit false

namespace QueryGate

open Sql (Comparison Engine Junction Truth)

/-- How a membership operator joins what it asks of the values of a list. -/
def Operator.quantifier? : Operator → Option Junction
  | among => some .any
  | notAmong => some .all
  | containsAll => some .all
  | containsAny => some .any
  | _ => none

theorem Operator.isMembership_of_quantifier? {operator : Operator} {kind : Junction}
    (joins : operator.quantifier? = some kind) : operator.isMembership = true := by
  cases operator with
  | among | notAmong | containsAll | containsAny => rfl
  | _ => cases joins

/-- No membership operator compares, so dates have no form of their own in it. -/
theorem Operator.comparison?_of_quantifier? {operator : Operator} {kind : Junction}
    (joins : operator.quantifier? = some kind) : operator.comparison? = none := by
  cases operator with
  | among | notAmong | containsAll | containsAny => rfl
  | _ => cases joins

variable {α : Type} [LinearOrder α] (engine : Engine α) (row : Sql.Column → Option α)
  (backend : Sql.Backend) (target : Target)

/-- The truth of the predicate of a test in a row, none where the test is refused. -/
def predicateTruth? (test : FieldTest) : Option Truth :=
  (predicate backend target test).toOption.map fun group => group.truth (engine.atom row)

/-- The truth of what an operator asks of a single value. -/
def scalarTruth (operator : Operator) (scalar : Scalar) : Truth :=
  (scalarCondition backend target.operand operator scalar).truth (engine.atom row)

/-! ## Single values -/

/-- A comparing operator compares the column with the value. -/
theorem scalarTruth_of_comparison? {operator : Operator} {comparison : Comparison}
    (compares : operator.comparison? = some comparison) (scalar : Scalar) :
    scalarTruth engine row backend target operator scalar =
      comparison.truth (row target.column) (engine.value scalar.toValue) := by
  cases operator with
  | less | atMost | greater | atLeast | equal | unequal =>
      cases compares
      rfl
  | _ => cases compares

/-- To be among the values of a list of one is to be equal to it. -/
theorem scalarTruth_among (scalar : Scalar) :
    scalarTruth engine row backend target .among scalar =
      Comparison.equal.truth (row target.column) (engine.value scalar.toValue) :=
  Junction.combine_unit .any _

theorem scalarTruth_notAmong (scalar : Scalar) :
    scalarTruth engine row backend target .notAmong scalar =
      (scalarTruth engine row backend target .among scalar).negated :=
  rfl

/-! ## Lists of values -/

/-- A list of no values asks for nothing. -/
theorem truth_emptyMembership {operator : Operator} {kind : Junction}
    (joins : operator.quantifier? = some kind) :
    (emptyMembership operator).truth (engine.atom row) = kind.unit := by
  cases operator with
  | among | containsAny =>
      cases joins
      exact engine.atom_constant row false
  | notAmong | containsAll =>
      cases joins
      exact engine.atom_constant row true
  | _ => cases joins

/-- To be among values is to be equal to one of them. -/
theorem amongTruth_eq (values : List Scalar) :
    engine.amongTruth (row target.column) (values.map Scalar.toValue) =
      Junction.any.combineAll (values.map (scalarTruth engine row backend target .among)) := by
  rw [Engine.amongTruth, List.map_map]
  refine congrArg _ (List.map_congr_left fun scalar _ => ?_)
  exact (scalarTruth_among engine row backend target scalar).symm

/-- A list asks of each of its values what the operator asks of it alone. -/
theorem truth_membership {operator : Operator} {kind : Junction}
    (joins : operator.quantifier? = some kind) (values : List Scalar) :
    (membership backend target.operand operator values).truth (engine.atom row) =
      kind.combineAll (values.map (scalarTruth engine row backend target operator)) := by
  unfold membership
  split
  · next empty =>
      rw [List.isEmpty_iff.mp empty, Sql.Group.truth_one, truth_emptyMembership engine row joins]
      rfl
  · cases operator with
    | among =>
        cases joins
        rw [Sql.Group.truth_one]
        exact amongTruth_eq engine row backend target values
    | notAmong =>
        cases joins
        have each : values.map (scalarTruth engine row backend target .notAmong) =
            (values.map (scalarTruth engine row backend target .among)).map Truth.negated := by
          rw [List.map_map]
          rfl
        rw [Sql.Group.truth_one, each]
        exact (congrArg Truth.negated (amongTruth_eq engine row backend target values)).trans
          (Junction.negated_combineAll .any _)
    | containsAll =>
        cases joins
        dsimp only
        rw [Sql.Group.truth_foldl_add, Sql.Group.truth_all, List.map_map]
        exact Junction.unit_combine .all _
    | containsAny =>
        cases joins
        dsimp only
        rw [Sql.Group.truth_foldl_add, Sql.Group.truth_any, List.map_map]
        exact Junction.unit_combine .any _
    | _ => cases joins

/-! ## Predicates -/

theorem predicateTruth?_of_one {test : FieldTest} {condition : Sql.Condition}
    (made : predicate backend target test = .ok (.one condition)) :
    predicateTruth? engine row backend target test =
      some (condition.truth (engine.atom row)) := by
  rw [predicateTruth?, made]
  exact congrArg some (Sql.Group.truth_one _ condition)

/-- Apart from comparisons of dates, a scalar is asked for as it is. -/
theorem predicateTruth?_scalar {operator : Operator}
    (plain : target.isDate = false ∨ operator.comparison? = none) (field : String)
    (scalar : Scalar) :
    predicateTruth? engine row backend target ⟨field, operator, .scalar scalar⟩ =
      some (scalarTruth engine row backend target operator scalar) := by
  refine predicateTruth?_of_one engine row backend target ?_
  unfold predicate
  dsimp only
  split
  · next date compares =>
      rw [date, compares] at plain
      exact absurd plain (by simp)
  · rfl

theorem predicateTruth?_list {operator : Operator} {kind : Junction}
    (joins : operator.quantifier? = some kind) (field : String) (values : List Scalar) :
    predicateTruth? engine row backend target ⟨field, operator, .list values⟩ =
      some (kind.combineAll (values.map (scalarTruth engine row backend target operator))) := by
  have made : predicate backend target ⟨field, operator, .list values⟩ =
      .ok (membership backend target.operand operator values) :=
    if_pos (Operator.isMembership_of_quantifier? joins)
  rw [predicateTruth?, made, ← truth_membership engine row backend target joins]
  rfl

/-- On every column of every row, whatever a database makes of values: no values ask for
nothing, two lists behind one another ask what either of them asks or what both of them ask,
so neither the order nor the repetition of values counts, and a scalar asks what the list of
it alone does. Where the column is no date, to be in such a list is to be equal to the scalar
and not to be in it is to be unequal. -/
theorem membership_laws (field : String) :
    (∀ operator kind, operator.quantifier? = some kind →
      predicateTruth? engine row backend target ⟨field, operator, .list []⟩ = some kind.unit ∧
      (∀ first second, ∃ one other,
        predicateTruth? engine row backend target ⟨field, operator, .list first⟩ = some one ∧
        predicateTruth? engine row backend target ⟨field, operator, .list second⟩ = some other ∧
        predicateTruth? engine row backend target ⟨field, operator, .list (first ++ second)⟩ =
          some (kind.combine one other)) ∧
      (∀ first second : List Scalar, (∀ scalar, scalar ∈ first ↔ scalar ∈ second) →
        predicateTruth? engine row backend target ⟨field, operator, .list first⟩ =
          predicateTruth? engine row backend target ⟨field, operator, .list second⟩) ∧
      ∀ scalar,
        predicateTruth? engine row backend target ⟨field, operator, .scalar scalar⟩ =
          predicateTruth? engine row backend target ⟨field, operator, .list [scalar]⟩) ∧
    (target.isDate = false → ∀ scalar,
      predicateTruth? engine row backend target ⟨field, .among, .list [scalar]⟩ =
          predicateTruth? engine row backend target ⟨field, .equal, .scalar scalar⟩ ∧
        predicateTruth? engine row backend target ⟨field, .notAmong, .list [scalar]⟩ =
          predicateTruth? engine row backend target ⟨field, .unequal, .scalar scalar⟩) := by
  have listed {operator : Operator} {kind : Junction} (joins : operator.quantifier? = some kind) :=
    predicateTruth?_list engine row backend target joins field
  have single {operator : Operator} {kind : Junction} (joins : operator.quantifier? = some kind)
      (scalar : Scalar) :
      predicateTruth? engine row backend target ⟨field, operator, .list [scalar]⟩ =
        some (scalarTruth engine row backend target operator scalar) := by
    rw [listed joins]
    exact congrArg some (kind.combine_unit _)
  refine ⟨fun operator kind joins => ⟨listed joins [], fun first second => ?_,
    fun first second same => ?_, fun scalar => ?_⟩, fun plain scalar => ⟨?_, ?_⟩⟩
  · refine ⟨_, _, listed joins first, listed joins second, ?_⟩
    rw [listed joins, List.map_append, Junction.combineAll_append]
  · rw [listed joins, listed joins]
    refine congrArg some (kind.combineAll_congr fun truth => ?_)
    simp only [List.mem_map, same]
  · have uncompared := Operator.comparison?_of_quantifier? joins
    rw [single joins, predicateTruth?_scalar engine row backend target (.inr uncompared)]
  · rw [single rfl, predicateTruth?_scalar engine row backend target (.inl plain),
      scalarTruth_among, scalarTruth_of_comparison? engine row backend target rfl]
  · rw [single rfl, predicateTruth?_scalar engine row backend target (.inl plain),
      scalarTruth_notAmong, scalarTruth_among, ← Comparison.truth_opposite,
      scalarTruth_of_comparison? engine row backend target rfl]
    rfl

/-- The truth of the predicate of a test of the priority of a task. -/
def priorityTruth? (priority : Option Sql.PlainValue) (operator : Operator) (value : FilterValue) :
    Option Truth :=
  predicateTruth? Sql.plainEngine (fun _ => priority) .sqlite ⟨⟨"tasks", "priority"⟩, false⟩
    ⟨"priority", operator, value⟩

/-- The priority two is in no empty list and in a list that holds it, in whatever order and
however often. It is not in a list without it, and a missing priority neither is in a list
nor is not. -/
theorem membership_laws_priority :
    priorityTruth? (some (Sum.inlₗ 2)) .among (.list []) = some .fails ∧
      priorityTruth? (some (Sum.inlₗ 2)) .notAmong (.list []) = some .holds ∧
      (∃ one other,
        priorityTruth? (some (Sum.inlₗ 2)) .among (.list [.int 1]) = some one ∧
        priorityTruth? (some (Sum.inlₗ 2)) .among (.list [.int 2]) = some other ∧
        priorityTruth? (some (Sum.inlₗ 2)) .among (.list [.int 1, .int 2]) =
          some (one.either other)) ∧
      priorityTruth? (some (Sum.inlₗ 2)) .among (.list [.int 1, .int 2]) = some .holds ∧
      priorityTruth? none .notAmong (.list [.int 3, .int 1, .int 3]) =
        priorityTruth? none .notAmong (.list [.int 1, .int 3]) ∧
      priorityTruth? none .notAmong (.list [.int 1, .int 3]) = some .unknown ∧
      priorityTruth? (some (Sum.inlₗ 2)) .containsAny (.scalar (.int 2)) =
        priorityTruth? (some (Sum.inlₗ 2)) .containsAny (.list [.int 2]) ∧
      priorityTruth? (some (Sum.inlₗ 2)) .notAmong (.list [.int 2]) =
        priorityTruth? (some (Sum.inlₗ 2)) .unequal (.scalar (.int 2)) := by
  have laws (priority : Option Sql.PlainValue) :=
    membership_laws Sql.plainEngine (fun _ => priority) .sqlite ⟨⟨"tasks", "priority"⟩, false⟩
      "priority"
  obtain ⟨joined, equal⟩ := laws (some (Sum.inlₗ 2))
  obtain ⟨nothing, both, _⟩ := joined .among .any rfl
  have repeats := ((laws none).1 .notAmong .all rfl).2.2.1 [.int 3, .int 1, .int 3] [.int 1, .int 3]
    (by simp +contextual [or_comm, or_left_comm])
  exact ⟨nothing, (joined .notAmong .all rfl).1, both [.int 1] [.int 2], by decide, repeats,
    by decide, (joined .containsAny .any rfl).2.2.2 (.int 2), (equal rfl (.int 2)).2⟩

end QueryGate
