import Mathlib.Data.String.Basic
import Mathlib.Data.Sum.Order
import QueryGate.Proofs.Sql.Matching
import QueryGate.Sql.Truth

/-!
# Conditions in a row

The truth of a condition in a row, where a database says what it makes of values and
functions. Its values have one total order, by which all comparisons are made, and a column
or a value may be missing. What is compared with a missing value is neither more nor less
nor equal, so a comparison of it is `unknown`; so is a match of a pattern against it. A value
is among others when it is equal to one of them.

What holds and what fails trade places under negation and what is unknown stays so
(`Truth.negated`). Negation turns the junctions into one another (`negated_combineAll`) and
each comparison into its opposite (`Comparison.truth_opposite`). In a junction neither the
order nor the repetition of members counts (`combineAll_congr`).
-/

set_option autoImplicit false

namespace QueryGate.Sql

/-! ## Negation -/

namespace Truth

/-- The truth of what is not the case. -/
def negated : Truth → Truth
  | fails => holds
  | unknown => unknown
  | holds => fails

/-- The truth of a condition that may be negated. -/
def negatedIf (negate : Bool) (truth : Truth) : Truth :=
  if negate then truth.negated else truth

/-- The truth of what is known. -/
def ofBool (value : Bool) : Truth :=
  if value then holds else fails

@[simp]
theorem negated_negated (truth : Truth) : truth.negated.negated = truth := by
  cases truth <;> rfl

@[simp]
theorem negated_ofBool (value : Bool) : (ofBool value).negated = ofBool !value := by
  cases value <;> rfl

end Truth

/-! ## Junctions -/

namespace Junction

/-- The junction that asks for the negated members. -/
def dual : Junction → Junction
  | all => any
  | any => all

theorem negated_combine (kind : Junction) (first second : Truth) :
    (kind.combine first second).negated = kind.dual.combine first.negated second.negated := by
  cases kind <;> cases first <;> cases second <;> rfl

/-- A junction fails where its dual holds of the negated members. -/
theorem negated_combineAll (kind : Junction) (truths : List Truth) :
    (kind.combineAll truths).negated = kind.dual.combineAll (truths.map Truth.negated) := by
  induction truths with
  | nil => cases kind <;> rfl
  | cons truth truths ih =>
      rw [combineAll_cons, negated_combine, ih, List.map_cons, combineAll_cons]

/-- A member that is added once more changes nothing. -/
theorem combine_combineAll_of_mem (kind : Junction) {truth : Truth} {truths : List Truth}
    (member : truth ∈ truths) : kind.combine truth (kind.combineAll truths) =
      kind.combineAll truths := by
  have twice (other : Truth) : kind.combine truth (kind.combine truth other) =
      kind.combine truth other := by
    cases kind <;> cases truth <;> cases other <;> rfl
  obtain ⟨front, back, rfl⟩ := List.append_of_mem member
  rw [combineAll_append, combineAll_cons, ← combine_assoc, combine_comm kind truth,
    combine_assoc, twice]

theorem combineAll_append_of_subset (kind : Junction) {truths others : List Truth}
    (within : truths ⊆ others) : kind.combineAll (truths ++ others) = kind.combineAll others := by
  induction truths with
  | nil => rfl
  | cons truth truths ih =>
      obtain ⟨member, within⟩ := List.cons_subset.mp within
      rw [List.cons_append, combineAll_cons, ih within, combine_combineAll_of_mem kind member]

/-- Neither the order nor the repetition of the members counts. -/
theorem combineAll_congr (kind : Junction) {truths others : List Truth}
    (same : ∀ truth, truth ∈ truths ↔ truth ∈ others) :
    kind.combineAll truths = kind.combineAll others := by
  have within : others ⊆ truths := fun truth => (same truth).mpr
  have covers : truths ⊆ others := fun truth => (same truth).mp
  calc kind.combineAll truths
      = kind.combineAll (others ++ truths) := (combineAll_append_of_subset kind within).symm
    _ = kind.combineAll (truths ++ others) := by
        rw [combineAll_append, combine_comm, combineAll_append]
    _ = kind.combineAll others := combineAll_append_of_subset kind covers

end Junction

/-! ## Comparisons -/

namespace Comparison

/-- The comparison that holds where the other one fails. -/
def opposite : Comparison → Comparison
  | less => atLeast
  | atMost => greater
  | greater => atMost
  | atLeast => less
  | equal => unequal
  | unequal => equal

/-- Whether a comparison holds of values in an order. -/
def admits : Comparison → Ordering → Bool
  | less, ordering => ordering = .lt
  | atMost, ordering => ordering ≠ .gt
  | greater, ordering => ordering = .gt
  | atLeast, ordering => ordering ≠ .lt
  | equal, ordering => ordering = .eq
  | unequal, ordering => ordering ≠ .eq

theorem admits_opposite (comparison : Comparison) (ordering : Ordering) :
    comparison.opposite.admits ordering = !comparison.admits ordering := by
  cases comparison <;> cases ordering <;> rfl

variable {α : Type} [LinearOrder α]

/-- The truth of a comparison, unknown where a value is missing. -/
def truth (comparison : Comparison) : Option α → Option α → Truth
  | some left, some right => .ofBool (comparison.admits (compare left right))
  | _, _ => .unknown

/-- The opposite of a comparison is its negation. -/
theorem truth_opposite (comparison : Comparison) (left right : Option α) :
    comparison.opposite.truth left right = (comparison.truth left right).negated := by
  cases left with
  | none => rfl
  | some left =>
      cases right with
      | none => rfl
      | some right => rw [truth, truth, admits_opposite, Truth.negated_ofBool]

end Comparison

/-! ## Databases -/

/-- What a database makes of values and functions. Nothing but the constants zero and one
and the order of the values is known of it. -/
structure Engine (α : Type) where
  /-- The value that a bound value becomes, none where it becomes a missing one. -/
  value : Value → Option α
  one : α
  zero : α
  value_one : value (.int 1) = some one
  value_zero : value (.int 0) = some zero
  apart : one ≠ zero
  lower : Option α → Option α
  date : DateForm → Option α → Option α
  binary : Option α → Option α
  position : Option α → Value → Option α
  /-- Whether a value matches a pattern, in which a backslash may be an escape mark. -/
  fits : (escaped : Bool) → (pattern : String) → α → Bool
  /-- Whether an array contains an element. -/
  contains : Containment → Option α → Value → Truth
  /-- Whether a row has a related one. -/
  related : (Column → Option α) → Source → Option Link → Condition → Truth

section Evaluation

variable {α : Type} [LinearOrder α] (engine : Engine α) (row : Column → Option α)

/-- The value of an operand in a row. -/
def Operand.valueIn : Operand → Option α
  | .column place => row place
  | .value bound => engine.value bound
  | .lower operand => engine.lower operand.valueIn
  | .date form operand => engine.date form operand.valueIn
  | .binary operand => engine.binary operand.valueIn
  | .position operand term => engine.position operand.valueIn term

namespace Engine

/-- The truth of a match of a pattern, unknown against a missing value. -/
def matchTruth (escaped : Bool) (pattern : String) : Option α → Truth
  | some value => .ofBool (engine.fits escaped pattern value)
  | none => .unknown

/-- The truth of a value being among others: equal to one of them. -/
def amongTruth (value : Option α) (values : List Value) : Truth :=
  Junction.any.combineAll
    (values.map fun other => Comparison.equal.truth value (engine.value other))

/-- The truth of a condition that is no junction, in a row. -/
def atom : Condition → Truth
  | .compare comparison left right =>
      comparison.truth (left.valueIn engine row) (right.valueIn engine row)
  | .like negated operand pattern escaped =>
      (engine.matchTruth escaped pattern (operand.valueIn engine row)).negatedIf negated
  | .among negated operand values =>
      (engine.amongTruth (operand.valueIn engine row) values).negatedIf negated
  | .isNull negated operand =>
      (Truth.ofBool (operand.valueIn engine row).isNone).negatedIf negated
  | .contains form array element => engine.contains form (array.valueIn engine row) element
  | .existsRow source link restriction => engine.related row source link restriction
  -- A junction is no atom; its truth is that of its members.
  | .junction kind _ => kind.unit

/-- The constant condition holds or fails as it says. -/
theorem atom_constant (value : Bool) :
    engine.atom row (.compare .equal (.value (.int 1)) (.value (.int (if value then 1 else 0)))) =
      .ofBool value := by
  have order : engine.atom row (.compare .equal (.value (.int 1))
      (.value (.int (if value then 1 else 0)))) =
      .ofBool (decide (compare engine.one (if value then engine.one else engine.zero) = .eq)) := by
    cases value with
    | true => exact congrArg₂ Comparison.equal.truth engine.value_one engine.value_one
    | false => exact congrArg₂ Comparison.equal.truth engine.value_one engine.value_zero
  rw [order]
  cases value with
  | true => rw [if_pos rfl, decide_eq_true (compare_eq_iff_eq.mpr rfl)]
  | false => rw [if_neg Bool.false_ne_true, decide_eq_false (mt compare_eq_iff_eq.mp engine.apart)]

end Engine

end Evaluation

/-! ## A small database -/

/-- Integers, and texts behind all of them. -/
abbrev PlainValue : Type := Int ⊕ₗ String

/-- A value as a text. -/
def PlainValue.text (value : PlainValue) : String :=
  (ofLex value).elim toString id

/-- A database of integers and texts. It has neither floats nor arrays nor related rows, and
the date in a text is what its first ten characters spell. -/
def plainEngine : Engine PlainValue where
  value
    | .int number => some (Sum.inlₗ number)
    | .bool known => some (Sum.inlₗ (if known then 1 else 0))
    | .text text => some (Sum.inrₗ text)
    | .float _ => none
  one := Sum.inlₗ 1
  zero := Sum.inlₗ 0
  value_one := rfl
  value_zero := rfl
  apart := by decide
  lower value := value.map fun value => Sum.inrₗ (Text.lowercase value.text)
  date _ value := value.map fun value => Sum.inrₗ (String.ofList (value.text.toList.take 10))
  binary value := value
  position value
    | .text term => value.map fun value => Sum.inlₗ (placeIn term.toList value.text.toList)
    | _ => none
  fits _ pattern value := matchesPattern Marks.ofText pattern.toList value.text.toList
  contains _ array _ := if array.isSome then .fails else .unknown
  related _ _ _ _ := .fails

end QueryGate.Sql
