import QueryGate.Proofs.Build.Existence
import QueryGate.Proofs.Filter.Precedence
import QueryGate.Proofs.Request.Spelling

/-!
# Which filters are refused

A test has a condition when its field names a column and its operator takes its value.
Where the field names none the resource is at fault; where it names one and the operator
does not take the value, the test is refused, with one violation at its field
(`testGroup_eq_invalid_iff`).

A filter list is refused exactly when the first of its tests that has no condition is a
test of the second kind (`filterGroup_eq_invalid_iff`).
-/

set_option autoImplicit false

namespace QueryGate

open QueryGate.Filter (listTests)
open QueryGate.Request (Takes)

/-! ## Predicates -/

/-- The violation of a test whose operator does not take its value. -/
def FieldTest.misfit (test : FieldTest) : Violation :=
  ⟨[.key test.field],
    match test.value with
    | .null => .nullOperand test.operator.text
    | _ => .listOperand test.operator.text⟩

section Predicates

variable {test : FieldTest} (backend : Sql.Backend) (target : Target)

/-- An operator that takes the value makes a condition of it on every column. -/
theorem exists_predicate_of_takes (takes : Takes test.operator test.value) :
    ∃ group, predicate backend target test = .ok group := by
  obtain ⟨field, operator, value⟩ := test
  cases value with
  | null =>
      cases operator with
      | equal => exact ⟨_, rfl⟩
      | unequal => exact ⟨_, rfl⟩
      | _ => cases takes
  | scalar scalar =>
      unfold predicate
      dsimp only
      split <;> exact ⟨_, rfl⟩
  | list values => exact ⟨_, if_pos takes⟩

/-- An operator that does not take the value is refused on every column. -/
theorem predicate_of_not_takes (refused : ¬ Takes test.operator test.value) :
    predicate backend target test = .error (.invalid [test.misfit]) := by
  obtain ⟨field, operator, value⟩ := test
  cases value with
  | null =>
      cases operator with
      | equal => exact absurd rfl refused
      | unequal => exact absurd rfl refused
      | _ => rfl
  | scalar scalar => exact absurd trivial refused
  | list values => exact if_neg refused

end Predicates

/-! ## Tests -/

variable {context : Context}

/-- The tests of a field that names a column are predicates on this column, framed by
the hops that lead to it. -/
inductive TestFrame : (Sql.Group → Sql.Group) → Prop where
  | bare : TestFrame id
  | along {frame : Sql.Group → Sql.Condition} (hops : HopFrame frame) :
      TestFrame fun group => .one (frame group)

/-- The condition of a test of a field that names a column is a predicate on this
column, whatever else the test asks. -/
theorem testGroup_of_namesColumn {field : String} (names : context.NamesColumn field) :
    ∃ target frame, TestFrame frame ∧ ∀ test : FieldTest, test.field = field →
      testGroup context test = (predicate context.backend target test).map frame := by
  have bare (result : Except Failure Sql.Group) : result = result.map id := by
    cases result <;> rfl
  let column := (FieldPath.ofText field).field
  unfold Context.NamesColumn Context.HasColumns at names
  split at names
  · next plain =>
      refine ⟨⟨⟨context.root.table, column⟩, context.root.isDateField column⟩, id, .bare,
        fun test same => ?_⟩
      rw [testGroup, same, plain]
      exact bare _
  · next relation within =>
      split at names
      · next pivots =>
          obtain ⟨pivot, listed⟩ := Option.isSome_iff_exists.mp names
          refine ⟨⟨⟨pivot.table, column⟩, pivot.isDateField column⟩, id, .bare,
            fun test same => ?_⟩
          rw [testGroup, same, within, listed]
          dsimp only
          rw [if_pos pivots]
          exact bare _
      · next other =>
          obtain ⟨name, related, frame, hops, framed⟩ := Context.pathExists_of_reaches names
          refine ⟨⟨⟨name, column⟩, related.isDateField column⟩, _, .along hops,
            fun test same => ?_⟩
          rw [testGroup, same, within]
          dsimp only
          rw [if_neg other, framed]
          cases predicate context.backend _ test <;> rfl

/-- A test of any other field finds the resource at fault, whatever else it asks. -/
theorem testGroup_of_not_namesColumn {field : String} (nameless : ¬ context.NamesColumn field) :
    ∃ cause, ∀ test : FieldTest, test.field = field →
      testGroup context test = .error (.misconfigured cause) := by
  unfold Context.NamesColumn Context.HasColumns at nameless
  split at nameless
  · exact absurd trivial nameless
  · next relation within =>
      split at nameless
      · next pivots =>
          have unlisted := Option.not_isSome_iff_eq_none.mp nameless
          refine ⟨.missingPivot field context.root.table, fun test same => ?_⟩
          rw [testGroup, same, within, unlisted]
          exact if_pos pivots
      · next other =>
          obtain ⟨cause, refused⟩ := Context.pathExists_of_not_reaches nameless
          refine ⟨cause, fun test same => ?_⟩
          rw [testGroup, same, within]
          dsimp only
          rw [if_neg other, refused]
          rfl

/-- A test has a condition exactly when its field names a column and its operator takes
its value. -/
theorem exists_testGroup_iff (test : FieldTest) :
    (∃ group, testGroup context test = .ok group) ↔
      context.NamesColumn test.field ∧ Takes test.operator test.value := by
  by_cases names : context.NamesColumn test.field
  · obtain ⟨target, frame, _, framed⟩ := testGroup_of_namesColumn names
    rw [framed test rfl]
    by_cases takes : Takes test.operator test.value
    · obtain ⟨group, made⟩ := exists_predicate_of_takes context.backend target takes
      rw [made]
      exact ⟨fun _ => ⟨names, takes⟩, fun _ => ⟨_, rfl⟩⟩
    · rw [predicate_of_not_takes context.backend target takes]
      exact ⟨fun ⟨_, impossible⟩ => (nomatch impossible), fun both => absurd both.2 takes⟩
  · obtain ⟨cause, refused⟩ := testGroup_of_not_namesColumn names
    rw [refused test rfl]
    exact ⟨fun ⟨_, impossible⟩ => (nomatch impossible), fun both => absurd both.1 names⟩

/-- A test is refused exactly when its field names a column and its operator does not
take its value. -/
theorem testGroup_eq_invalid_iff (test : FieldTest) (violations : List Violation) :
    testGroup context test = .error (.invalid violations) ↔
      context.NamesColumn test.field ∧ ¬ Takes test.operator test.value ∧
        violations = [test.misfit] := by
  by_cases names : context.NamesColumn test.field
  · obtain ⟨target, frame, _, framed⟩ := testGroup_of_namesColumn names
    rw [framed test rfl, Success.map_eq_error_iff]
    by_cases takes : Takes test.operator test.value
    · obtain ⟨group, made⟩ := exists_predicate_of_takes context.backend target takes
      rw [made]
      exact ⟨fun impossible => (nomatch impossible), fun both => absurd takes both.2.1⟩
    · rw [predicate_of_not_takes context.backend target takes]
      constructor
      · intro same
        cases same
        exact ⟨names, takes, rfl⟩
      · rintro ⟨_, _, rfl⟩
        rfl
  · obtain ⟨cause, refused⟩ := testGroup_of_not_namesColumn names
    rw [refused test rfl]
    exact ⟨fun impossible => (nomatch impossible), fun both => absurd both.1 names⟩

/-! ## Filter lists -/

/-- A filter list is refused exactly when the first of its tests without a condition is
a test of a column with an operator that does not take its value. -/
theorem filterGroup_eq_invalid_iff (filters : List Filter) (violations : List Violation) :
    filterGroup context filters = .error (.invalid violations) ↔
      ∃ before test after, listTests filters = before ++ test :: after ∧
        AllBuilt context before ∧ context.NamesColumn test.field ∧
        ¬ Takes test.operator test.value ∧ violations = [test.misfit] := by
  rw [filterGroup_eq_error_iff]
  simp only [testGroup_eq_invalid_iff]

end QueryGate
