import Mathlib.Algebra.Ring.Int.Defs
import Mathlib.Data.List.TakeWhile
import QueryGate.Json.Reader

/-!
# Integer literals in JSON texts

An integer literal is an optional minus sign and decimal digits without a needless zero
in front. The reader makes an integer of it when it lies in the signed or unsigned 64-bit
words, and otherwise the double that its digits are scaled to; minus zero is a double as
well (`number?_literal`).

Where a text has one such literal in it, what is read around the literal does not depend
on the literal. So a text before and a text after it make a context with a hole, and the
value of the whole text is the context around the value of the literal
(`Surrounds.read?_eq`).
-/

set_option autoImplicit false

namespace QueryGate

/-! ## Signed words -/

/-- An integer has a signed 64-bit word exactly when it lies in the range of the words. -/
theorem Number.int64?_eq_none_iff (number : Int) :
    int64? number = none ↔ ¬ (-2 ^ 63 ≤ number ∧ number < 2 ^ 63) := by
  have least : Int64.minValue.toInt = -2 ^ 63 := by decide
  have greatest : Int64.maxValue.toInt = 2 ^ 63 - 1 := by decide
  unfold int64?
  split
  · next within =>
      refine iff_of_false (by simp) (fun beyond => beyond ?_)
      omega
  · next beyond =>
      refine iff_of_true rfl (fun within => beyond ?_)
      omega

/-- The word of an integer is that integer. -/
theorem Number.exists_int64 {number : Int} (least : -2 ^ 63 ≤ number) (below : number < 2 ^ 63) :
    ∃ word : Int64, int64? number = some word ∧ word.toInt = number := by
  cases found : int64? number with
  | none => exact absurd ⟨least, below⟩ ((int64?_eq_none_iff number).mp found)
  | some word =>
      refine ⟨word, rfl, ?_⟩
      unfold int64? at found
      split at found
      · cases found
        exact Int64.toInt_ofInt_of_le least below
      · cases found

namespace Json

/-! ## Literals -/

/-- An integer literal. -/
structure IntegerLiteral where
  negative : Bool
  digits : List Char
  nonempty : digits ≠ []
  decimal : ∀ digit ∈ digits, digit.isDigit = true
  plain : 1 < digits.length → digits.head? ≠ some '0'

namespace IntegerLiteral

variable (literal : IntegerLiteral)

/-- The characters of the literal. -/
def text : List Char :=
  if literal.negative then '-' :: literal.digits else literal.digits

/-- The integer that the literal spells. -/
def value : Int :=
  if literal.negative then -(Number.digitsValue 0 literal.digits : Int)
  else Number.digitsValue 0 literal.digits

/-- Whether the literal is zero with a minus sign. -/
def IsMinusZero : Prop :=
  literal.negative = true ∧ literal.value = 0

instance : Decidable literal.IsMinusZero :=
  inferInstanceAs (Decidable (_ ∧ _))

/-- The literal lies in the signed or the unsigned 64-bit words, and it is not minus
zero. -/
def InWords : Prop :=
  -2 ^ 63 ≤ literal.value ∧ literal.value < 2 ^ 64 ∧ ¬ literal.IsMinusZero

instance : Decidable literal.InWords :=
  inferInstanceAs (Decidable (_ ∧ _ ∧ _))

/-- The double that the digits of the literal are scaled to, with its sign, unless it is
too large. -/
def float? : Option Float :=
  (Number.scaled literal.digits [] 0).map fun magnitude =>
    if literal.negative then -magnitude else magnitude

/-- The value that is read for the literal. -/
def json? : Option Json :=
  if literal.InWords then some (.int literal.value) else literal.float?.map .float

/-- The digits are all that is taken from the literal. -/
theorem takeDigits_digits : Number.takeDigits literal.digits = (literal.digits, []) := by
  rw [Number.takeDigits, List.takeWhile_eq_self_iff.mpr literal.decimal,
    List.dropWhile_eq_nil_iff.mpr literal.decimal]

theorem head?_digits_ne_minus : literal.digits.head? ≠ some '-' := by
  intro first
  have digit := literal.decimal '-' (List.mem_of_mem_head? first)
  cases digit

/-- The literal is read as its sign and its digits. -/
theorem literal?_text :
    Json.literal? literal.text = some ⟨literal.negative, literal.digits, [], 0, true⟩ := by
  have admitted : (literal.digits.isEmpty ||
      (1 < literal.digits.length && literal.digits.head? == some '0')) = false := by
    have plain := literal.plain
    by_cases long : 1 < literal.digits.length
    · simp [literal.nonempty, plain long]
    · simp [literal.nonempty, long]
  unfold text
  cases literal.negative with
  | true =>
      simp only [Json.literal?, if_true, takeDigits_digits, admitted]
      rfl
  | false =>
      have first := literal.head?_digits_ne_minus
      simp only [Json.literal?, Bool.false_eq_true, if_false]
      split
      · next rest signed =>
          rw [signed] at first
          exact absurd rfl first
      · simp only [takeDigits_digits, admitted]
        rfl

/-- The number rule for integer literals. -/
theorem number?_literal :
    Literal.number? ⟨literal.negative, literal.digits, [], 0, true⟩ = literal.json? := by
  have float : (Number.scaled literal.digits [] 0).map (fun value =>
      Json.float (if literal.negative then -value else value)) = literal.float?.map .float := by
    rw [float?, Option.map_map]
    rfl
  have words := Number.int64?_eq_none_iff (-(Number.digitsValue 0 literal.digits : Int))
  rw [← Option.isNone_iff_eq_none] at words
  have size : UInt64.size = 2 ^ 64 := rfl
  unfold Literal.number? json? InWords IsMinusZero value
  simp only [float, Bool.not_true, Bool.false_eq_true, if_false]
  rcases Bool.eq_false_or_eq_true literal.negative with signed | unsigned
  · simp only [signed, if_true, words, true_and]
    split
    · next outside => rw [if_neg (by omega)]
    · next inside => rw [if_pos (by omega)]
  · simp only [unsigned, Bool.false_eq_true, if_false, false_and, not_false_iff, and_true]
    split
    · next below => rw [if_pos (by omega)]
    · next beyond => rw [if_neg (by omega)]

theorem inNumber_of_mem_text : ∀ character ∈ literal.text, inNumber character = true := by
  have digits : ∀ digit ∈ literal.digits, inNumber digit = true := by
    intro digit member
    rw [inNumber, literal.decimal digit member]
    rfl
  unfold text
  split
  · exact List.forall_mem_cons.mpr ⟨rfl, digits⟩
  · exact digits

/-- A literal begins a number. -/
theorem exists_text_eq_cons :
    ∃ first others, literal.text = first :: others ∧
      scanBetween first = some ([], .number [first]) := by
  unfold text
  split
  · exact ⟨'-', literal.digits, rfl, rfl⟩
  · obtain ⟨first, others, digits⟩ := List.exists_cons_of_ne_nil literal.nonempty
    refine ⟨first, others, digits, ?_⟩
    have digit : first.isDigit = true := literal.decimal first (digits ▸ List.mem_cons_self)
    unfold scanBetween
    split
    any_goals cases digit
    rw [digit]
    rfl

end IntegerLiteral

/-! ## Tokens -/

/-- The tokens that characters complete, read on from a state, and the state after
them. -/
def scanAll? : Scan → List Char → Option (List Token × Scan)
  | state, [] => some ([], state)
  | state, character :: rest => do
      let (done, next) ← scanStep state character
      let (more, last) ← scanAll? next rest
      return (done ++ more, last)

/-- A text is cut into the tokens of its first part and those of its second one. -/
theorem tokensFrom_append (state : Scan) (first second : List Char) :
    tokensFrom state (first ++ second) =
      (scanAll? state first).bind fun reached =>
        (tokensFrom reached.2 second).map (reached.1 ++ ·) := by
  induction first generalizing state with
  | nil => simp [scanAll?]
  | cons character rest ih =>
      rw [List.cons_append, tokensFrom, scanAll?]
      cases scanStep state character with
      | none => rfl
      | some step =>
          obtain ⟨done, next⟩ := step
          simp only [Option.bind_eq_bind, Option.bind_some, ih]
          cases scanAll? next rest with
          | none => rfl
          | some reached =>
              obtain ⟨more, last⟩ := reached
              simp only [Option.bind_some, Option.pure_def]
              cases tokensFrom last second <;> simp

/-- The characters of a number are collected. -/
theorem scanAll?_number (collected : List Char) {characters : List Char}
    (inside : ∀ character ∈ characters, inNumber character = true) :
    scanAll? (.number collected) characters =
      some ([], .number (characters.reverse ++ collected)) := by
  induction characters generalizing collected with
  | nil => rfl
  | cons character rest ih =>
      obtain ⟨here, later⟩ := List.forall_mem_cons.mp inside
      rw [scanAll?, scanStep, if_pos here]
      simp [ih _ later]

/-- A number ends where a character cannot be in it. -/
theorem tokensFrom_number (collected : List Char) {after : List Char}
    (ends : ∀ character, after.head? = some character → inNumber character = false) :
    tokensFrom (.number collected) after =
      (finished? (.number collected)).bind fun done =>
        (tokensFrom .between after).map (done ++ ·) := by
  cases after with
  | nil =>
      rw [tokensFrom, tokensFrom]
      cases finished? (.number collected) <;> simp [finished?]
  | cons character rest =>
      have outside := ends character rfl
      rw [tokensFrom, tokensFrom, scanStep, scanStep, outside]
      cases finished? (.number collected) with
      | none => rfl
      | some done =>
          cases scanBetween character with
          | none => rfl
          | some step =>
              obtain ⟨more, next⟩ := step
              simp only [Option.bind_eq_bind, Option.bind_some, Option.pure_def,
                Bool.false_eq_true, if_false]
              cases tokensFrom next rest <;> simp

/-- An integer literal is one token, with the value that is read for it. -/
theorem tokensFrom_integer (literal : IntegerLiteral) {after : List Char}
    (ends : ∀ character, after.head? = some character → inNumber character = false) :
    tokensFrom .between (literal.text ++ after) =
      literal.json?.bind fun value =>
        (tokensFrom .between after).map (.plain value :: ·) := by
  have inside := literal.inNumber_of_mem_text
  obtain ⟨first, others, text, begins⟩ := literal.exists_text_eq_cons
  have reading := literal.literal?_text
  rw [text] at inside reading ⊢
  have finishes : finished? (.number (others.reverse ++ [first])) =
      literal.json?.map fun value => [.plain value] := by
    rw [finished?, List.reverse_append, List.reverse_reverse, List.reverse_singleton,
      List.singleton_append, reading]
    simp only [Option.bind_eq_bind, Option.bind_some, literal.number?_literal]
    cases literal.json? <;> rfl
  rw [List.cons_append, tokensFrom, scanStep, begins]
  simp only [Option.bind_eq_bind, Option.bind_some]
  rw [tokensFrom_append, scanAll?_number [first] (List.forall_mem_cons.mp inside).2]
  simp only [Option.bind_some]
  rw [tokensFrom_number _ ends, finishes]
  cases literal.json? with
  | none => rfl
  | some value => cases tokensFrom .between after <;> simp

/-! ## Texts around a literal -/

/-- The texts before and after a literal make a context, whatever value is read for the
literal. -/
structure Surrounds (before after : List Char) (hole : Json → Json) : Prop where
  ends : ∀ character, after.head? = some character → inNumber character = false
  reads : ∃ front back, scanAll? .between before = some (front, .between) ∧
    tokensFrom .between after = some back ∧
    ∀ value, valueFrom (.value []) (front ++ .plain value :: back) = some (hole value)

/-- The value of a text with a literal in it is the context around the value of the
literal, if there is one. -/
theorem Surrounds.read?_eq {before after : List Char} {hole : Json → Json}
    (surrounds : Surrounds before after hole) (literal : IntegerLiteral) :
    read? (String.ofList (before ++ literal.text ++ after)) = literal.json?.map hole := by
  obtain ⟨front, back, scanned, rest, reads⟩ := surrounds.reads
  rw [read?, String.toList_ofList, List.append_assoc, tokensFrom_append, scanned]
  simp only [Option.bind_some]
  rw [tokensFrom_integer literal surrounds.ends, rest]
  cases literal.json? with
  | none => rfl
  | some value => simpa using reads value

end Json

end QueryGate
