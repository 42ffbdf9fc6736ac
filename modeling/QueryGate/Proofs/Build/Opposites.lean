import QueryGate.Proofs.Build.Membership

/-!
# Operators and their opposites

Twelve of the operators come in pairs, of which one asks for the contrary of the other. The
predicate of a test with one of them is the negation of the predicate of the same test with
the other, in every row and whatever a database makes of values: where one holds the other
fails, and where one is unknown so is the other (`opposite_laws`).

The conditions of a pair are made in different ways. Comparisons have opposites, of columns as
of their dates; patterns and lists are matched and then negated, except for a list of no
values, of which nothing is said; and a missing value is asked for by a condition of its own,
which is never unknown.
-/

set_option autoImplicit false

namespace QueryGate

open Sql (Comparison Engine Junction Truth)

namespace Operator

/-- The operator that asks for the contrary. -/
def opposite? : Operator → Option Operator
  | less => some atLeast
  | atMost => some greater
  | greater => some atMost
  | atLeast => some less
  | equal => some unequal
  | unequal => some equal
  | like => some notLike
  | notLike => some like
  | likeAnyCase => some notLikeAnyCase
  | notLikeAnyCase => some likeAnyCase
  | among => some notAmong
  | notAmong => some among
  | containsAll => none
  | containsAny => none

/-- Opposite operators compare in opposite ways. -/
theorem comparison?_opposite {operator other : Operator}
    (opposite : operator.opposite? = some other) :
    other.comparison? = operator.comparison?.map Comparison.opposite := by
  cases operator <;> cases opposite <;> rfl

/-- Opposite operators that take lists join in dual ways. -/
theorem quantifier?_opposite {operator other : Operator}
    (opposite : operator.opposite? = some other) :
    other.quantifier? = operator.quantifier?.map Junction.dual := by
  cases operator <;> cases opposite <;> rfl

end Operator

variable {α : Type} [LinearOrder α] (engine : Engine α) (row : Sql.Column → Option α)
  (backend : Sql.Backend) (target : Target)

/-- Of a single value opposite operators ask for the contrary. -/
theorem scalarTruth_opposite {operator other : Operator}
    (opposite : operator.opposite? = some other) (scalar : Scalar) :
    scalarTruth engine row backend target other scalar =
      (scalarTruth engine row backend target operator scalar).negated := by
  cases compares : operator.comparison? with
  | some comparison =>
      have contrary := Operator.comparison?_opposite opposite
      rw [compares] at contrary
      rw [scalarTruth_of_comparison? engine row backend target compares,
        scalarTruth_of_comparison? engine row backend target contrary,
        Comparison.truth_opposite]
  | none =>
      cases operator with
      | like | likeAnyCase | among =>
          cases opposite
          rfl
      | notLike | notLikeAnyCase | notAmong =>
          cases opposite
          exact (Truth.negated_negated _).symm
      | containsAll | containsAny => cases opposite
      | _ => cases compares

/-! ## Dates -/

/-- A comparison of dates takes the dates of both sides, in one form. -/
theorem predicate_date {operator : Operator} {comparison : Comparison}
    (compares : operator.comparison? = some comparison) (date : target.isDate = true)
    (field : String) (scalar : Scalar) :
    predicate backend target ⟨field, operator, .scalar scalar⟩ =
      .ok (.one (.compare comparison (.date backend.dateForm (.column target.column))
        (.date backend.dateForm (.value scalar.toValue)))) := by
  unfold predicate
  dsimp only
  rw [date, compares]
  rfl

/-- Operators that do not compare ask of a date column what they ask of every other one. -/
theorem predicate_of_uncompared {operator : Operator} (uncompared : operator.comparison? = none)
    (field : String) (value : FilterValue) :
    predicate backend target ⟨field, operator, value⟩ =
      predicate backend { target with isDate := false } ⟨field, operator, value⟩ := by
  unfold predicate
  cases value with
  | scalar scalar =>
      dsimp only
      rw [uncompared]
      cases target.isDate <;> rfl
  | _ => rfl

/-! ## Predicates -/

/-- To be equal to nothing is to be missing. -/
theorem predicateTruth?_equal_null (field : String) :
    predicateTruth? engine row backend target ⟨field, .equal, .null⟩ =
      some (.ofBool (row target.column).isNone) := by
  have made : predicate backend target ⟨field, .equal, .null⟩ =
      .ok (.one (.isNull false target.operand)) := rfl
  exact predicateTruth?_of_one engine row backend target made

theorem predicateTruth?_unequal_null (field : String) :
    predicateTruth? engine row backend target ⟨field, .unequal, .null⟩ =
      some (Truth.ofBool (row target.column).isNone).negated := by
  have made : predicate backend target ⟨field, .unequal, .null⟩ =
      .ok (.one (.isNull true target.operand)) := rfl
  exact predicateTruth?_of_one engine row backend target made

/-- Only membership operators take a list. -/
theorem exists_quantifier? {operator : Operator} {field : String} {values : List Scalar}
    {truth : Truth} (accepted : predicateTruth? engine row backend target
      ⟨field, operator, .list values⟩ = some truth) :
    ∃ kind, operator.quantifier? = some kind := by
  cases operator with
  | among | notAmong | containsAll | containsAny => exact ⟨_, rfl⟩
  | _ => cases accepted

/-- The truth of a comparison with a scalar: of the dates of both where the column is one. -/
theorem predicateTruth?_date {operator : Operator} {comparison : Comparison}
    (compares : operator.comparison? = some comparison) (date : target.isDate = true)
    (field : String) (scalar : Scalar) :
    predicateTruth? engine row backend target ⟨field, operator, .scalar scalar⟩ =
      some (comparison.truth (engine.date backend.dateForm (row target.column))
        (engine.date backend.dateForm (engine.value scalar.toValue))) :=
  predicateTruth?_of_one engine row backend target
    (predicate_date backend target compares date field scalar)

/-- What a test with an operator comes to, the test with its opposite comes to the contrary
of. -/
theorem predicateTruth?_opposite {operator other : Operator}
    (opposite : operator.opposite? = some other) (field : String) (value : FilterValue)
    {truth : Truth}
    (accepted : predicateTruth? engine row backend target ⟨field, operator, value⟩ = some truth) :
    predicateTruth? engine row backend target ⟨field, other, value⟩ = some truth.negated := by
  cases value with
  | null =>
      have equal := predicateTruth?_equal_null engine row backend target field
      have unequal := predicateTruth?_unequal_null engine row backend target field
      cases operator with
      | equal =>
          cases opposite
          rw [equal] at accepted
          rw [unequal, Option.some.inj accepted]
      | unequal =>
          cases opposite
          rw [unequal] at accepted
          rw [equal, ← Option.some.inj accepted, Truth.negated_negated]
      | _ => cases accepted
  | scalar scalar =>
      have contrary := Operator.comparison?_opposite opposite
      by_cases dated : target.isDate = true ∧ operator.comparison?.isSome
      · obtain ⟨date, compares⟩ := dated
        obtain ⟨comparison, compares⟩ := Option.isSome_iff_exists.mp compares
        rw [compares] at contrary
        rw [predicateTruth?_date engine row backend target compares date] at accepted
        rw [predicateTruth?_date engine row backend target contrary date,
          Comparison.truth_opposite, Option.some.inj accepted]
      · have plain : target.isDate = false ∨ operator.comparison? = none := by
          rw [not_and_or, Bool.not_eq_true, Option.not_isSome_iff_eq_none] at dated
          exact dated
        have otherPlain : target.isDate = false ∨ other.comparison? = none :=
          plain.imp_right fun uncompared => by rw [contrary, uncompared]; rfl
        rw [predicateTruth?_scalar engine row backend target plain] at accepted
        rw [predicateTruth?_scalar engine row backend target otherPlain,
          scalarTruth_opposite engine row backend target opposite, Option.some.inj accepted]
  | list values =>
      obtain ⟨kind, joins⟩ := exists_quantifier? engine row backend target accepted
      have contrary := Operator.quantifier?_opposite opposite
      rw [joins] at contrary
      have each : values.map (scalarTruth engine row backend target other) =
          (values.map (scalarTruth engine row backend target operator)).map Truth.negated := by
        rw [List.map_map]
        exact List.map_congr_left fun scalar _ =>
          scalarTruth_opposite engine row backend target opposite scalar
      rw [predicateTruth?_list engine row backend target joins] at accepted
      rw [predicateTruth?_list engine row backend target contrary, each,
        ← Junction.negated_combineAll, Option.some.inj accepted]

/-- On every column of every row, whatever a database makes of values: a test that is made
with an operator is made with its opposite, and is the negation of it. A column is missing or
not, which is never unknown. On a date column opposite comparisons take the dates of both
sides in one form, and no other operator takes a date of either. -/
theorem opposite_laws (field : String) :
    (∀ operator other, operator.opposite? = some other → ∀ value truth,
      predicateTruth? engine row backend target ⟨field, operator, value⟩ = some truth →
        predicateTruth? engine row backend target ⟨field, other, value⟩ = some truth.negated) ∧
    (predicateTruth? engine row backend target ⟨field, .equal, .null⟩ =
        some (.ofBool (row target.column).isNone) ∧
      predicateTruth? engine row backend target ⟨field, .unequal, .null⟩ =
        some (.ofBool (row target.column).isSome)) ∧
    ∀ operator other, operator.opposite? = some other →
      (target.isDate = true → ∀ comparison, operator.comparison? = some comparison → ∀ scalar,
        predicate backend target ⟨field, operator, .scalar scalar⟩ =
            .ok (.one (.compare comparison (.date backend.dateForm (.column target.column))
              (.date backend.dateForm (.value scalar.toValue)))) ∧
          predicate backend target ⟨field, other, .scalar scalar⟩ =
            .ok (.one (.compare comparison.opposite
              (.date backend.dateForm (.column target.column))
              (.date backend.dateForm (.value scalar.toValue))))) ∧
      (operator.comparison? = none → ∀ value,
        predicate backend target ⟨field, operator, value⟩ =
            predicate backend { target with isDate := false } ⟨field, operator, value⟩ ∧
          predicate backend target ⟨field, other, value⟩ =
            predicate backend { target with isDate := false } ⟨field, other, value⟩) := by
  refine ⟨fun operator other opposite value truth =>
      predicateTruth?_opposite engine row backend target opposite field value,
    ⟨predicateTruth?_equal_null engine row backend target field, ?_⟩,
    fun operator other opposite => ⟨fun date comparison compares scalar => ⟨?_, ?_⟩,
      fun uncompared value => ⟨?_, ?_⟩⟩⟩
  · rw [predicateTruth?_unequal_null, Truth.negated_ofBool, Option.not_isNone]
  · exact predicate_date backend target compares date field scalar
  · have contrary := Operator.comparison?_opposite opposite
    rw [compares] at contrary
    exact predicate_date backend target contrary date field scalar
  · exact predicate_of_uncompared backend target uncompared field value
  · have contrary := Operator.comparison?_opposite opposite
    rw [uncompared] at contrary
    exact predicate_of_uncompared backend target contrary field value

/-- The time at which posts are published, compared by its date. -/
def publishedTarget : Target := ⟨⟨"posts", "published_at"⟩, true⟩

/-- The truth of the predicate of a test of that time. -/
def publishedTruth? (published : Option Sql.PlainValue) (operator : Operator)
    (value : FilterValue) : Option Truth :=
  predicateTruth? Sql.plainEngine (fun _ => published) .sqlite publishedTarget
    ⟨"published_at", operator, value⟩

/-- A post of the morning is not published before the day, so it is published from the day on,
as dates are compared; its time is like the pattern of the year and so is not unlike it. What
is not published neither is among days nor is not, but it is missing. -/
theorem opposite_laws_published :
    (publishedTruth? (some (Sum.inrₗ "2024-03-05 10:00")) .less (.scalar (.text "2024-03-05")) =
        some .fails ∧
      publishedTruth? (some (Sum.inrₗ "2024-03-05 10:00")) .atLeast (.scalar (.text "2024-03-05")) =
        some .holds) ∧
    (publishedTruth? (some (Sum.inrₗ "2024-03-05 10:00")) .like (.scalar (.text "2024%")) =
        some .holds ∧
      publishedTruth? (some (Sum.inrₗ "2024-03-05 10:00")) .notLike (.scalar (.text "2024%")) =
        some .fails) ∧
    (publishedTruth? none .among (.list [.text "2024-03-05"]) = some .unknown ∧
      publishedTruth? none .notAmong (.list [.text "2024-03-05"]) = some .unknown) ∧
    (publishedTruth? none .equal .null = some .holds ∧
      publishedTruth? none .unequal .null = some .fails) ∧
    (predicate .postgres publishedTarget ⟨"published_at", .less, .scalar (.text "2024-03-05")⟩ =
        .ok (.one (.compare .less (.date .cast (.column publishedTarget.column))
          (.date .cast (.value (.text "2024-03-05"))))) ∧
      predicate .postgres publishedTarget ⟨"published_at", .atLeast, .scalar (.text "2024-03-05")⟩ =
        .ok (.one (.compare .atLeast (.date .cast (.column publishedTarget.column))
          (.date .cast (.value (.text "2024-03-05")))))) ∧
    predicate .sqlite publishedTarget ⟨"published_at", .notLike, .scalar (.text "2024%")⟩ =
      predicate .sqlite { publishedTarget with isDate := false }
        ⟨"published_at", .notLike, .scalar (.text "2024%")⟩ := by
  have laws (published : Option Sql.PlainValue) (backend : Sql.Backend) :=
    opposite_laws Sql.plainEngine (fun _ => published) backend publishedTarget "published_at"
  have contrary (published : Option Sql.PlainValue) := (laws published .sqlite).1
  have early : publishedTruth? (some (Sum.inrₗ "2024-03-05 10:00")) .less
      (.scalar (.text "2024-03-05")) = some .fails := by decide +kernel
  have year : publishedTruth? (some (Sum.inrₗ "2024-03-05 10:00")) .like
      (.scalar (.text "2024%")) = some .holds := by decide +kernel
  have unpublished : publishedTruth? none .among (.list [.text "2024-03-05"]) =
      some .unknown := by decide +kernel
  obtain ⟨_, missing, conversions⟩ := laws none .postgres
  exact ⟨⟨early, contrary _ .less .atLeast rfl _ _ early⟩,
    ⟨year, contrary _ .like .notLike rfl _ _ year⟩,
    ⟨unpublished, contrary none .among .notAmong rfl _ _ unpublished⟩, missing,
    (conversions .less .atLeast rfl).1 rfl .less rfl (.text "2024-03-05"),
    (((laws none .sqlite).2.2 .like .notLike rfl).2 rfl (.scalar (.text "2024%"))).2⟩

end QueryGate
