/-!
# The shortest decimal of a double

A finite double is a significand times a power of two, and it stands for every
real that rounds to it: an interval that reaches half way to each neighbour,
ends included exactly when the significand is even. The shortest decimal is a
point of the interval with the fewest digits, and of those the one nearest to
the double.

Decimals with a fixed number of digits form a grid. If the interval holds a
grid point at all, it holds one of the two grid points next to the double, so
two tests per digit count decide. The search is exact arithmetic on natural
numbers: a fraction is a numerator over a denominator that all three of the
double and the two ends share.
-/

set_option autoImplicit false

namespace QueryGate.Number

/-- A power of two. -/
def twoTo (exponent : Nat) : Nat :=
  Nat.pow 2 exponent

/-- A power of ten. -/
def tenTo (exponent : Nat) : Nat :=
  Nat.pow 10 exponent

/-- What a double is made of. -/
inductive Parts where
  | notANumber
  | infinite (negative : Bool)
  /-- `significand * 2 ^ exponent`; `narrow` when the next double below is only
  half as far away as the one above. -/
  | finite (negative : Bool) (significand : Nat) (exponent : Int) (narrow : Bool)

/-- The parts of a double, read off its 64 bits. -/
def parts (value : Float) : Parts :=
  let bits := value.toBits.toNat
  let negative := bits / twoTo 63 == 1
  let scale : Nat := bits / twoTo 52 % twoTo 11
  let fraction : Nat := bits % twoTo 52
  if scale == 2047 then
    if fraction == 0 then .infinite negative else .notANumber
  else if scale == 0 then .finite negative fraction (-1074) false
  else .finite negative (twoTo 52 + fraction) ((scale : Int) - 1075) (fraction == 0 && 1 < scale)

/-- A decimal `coefficient * 10 ^ exponent`. -/
structure Decimal where
  coefficient : Nat
  exponent : Int
deriving DecidableEq, Repr

/-- Which of two equally near decimals is taken. -/
inductive Tie where
  | up
  | toEven
deriving DecidableEq, Repr

/-- An interval around a fraction, over one denominator. -/
structure Interval where
  low : Nat
  middle : Nat
  high : Nat
  denominator : Nat
  closed : Bool

/-- The reals that round to `significand * 2 ^ exponent`. The unit is a quarter
of the distance between neighbours. -/
def roundingInterval (significand : Nat) (exponent : Int) (narrow : Bool) : Interval :=
  let unit := twoTo (exponent - 2).toNat
  { low := (4 * significand - if narrow then 1 else 2) * unit
    middle := 4 * significand * unit
    high := (4 * significand + 2) * unit
    denominator := twoTo (2 - exponent).toNat
    closed := significand % 2 == 0 }

/-- The number of decimal digits. -/
def digitCount (number : Nat) : Nat :=
  (Nat.toDigits 10 number).length

/-- The exponent of the leading decimal digit of a positive fraction. -/
def leadingExponent (numerator denominator : Nat) : Int :=
  if denominator ≤ numerator then digitCount (numerator / denominator) - 1
  else -(digitCount ((denominator - 1) / numerator) : Int)

/-- The nearest multiple of `10 ^ exponent` in the interval, if one of the two
multiples next to the middle lies in it. -/
def Interval.gridPoint? (interval : Interval) (tie : Tie) (exponent : Int) : Option Nat :=
  let step := interval.denominator * tenTo exponent.toNat
  let scale := tenTo (-exponent).toNat
  let middle := interval.middle * scale
  let below := middle / step
  let inside (point : Nat) : Bool :=
    if interval.closed then
      interval.low * scale ≤ point * step && point * step ≤ interval.high * scale
    else interval.low * scale < point * step && point * step < interval.high * scale
  let twice := 2 * (middle - below * step)
  let preferUp := step < twice || (step == twice && (tie == .up || below % 2 == 1))
  match inside below, inside (below + 1) with
  | true, true => some (if preferUp then below + 1 else below)
  | true, false => some below
  | false, true => some (below + 1)
  | false, false => none

/-- The first grid with a point in the interval, from `digits` more digits down
to none. -/
def Interval.search (interval : Interval) (tie : Tie) (leading : Int) :
    (digits : Nat) → (taken : Nat) → Option Decimal
  | 0, _ => none
  | digits + 1, taken =>
      let exponent := leading - taken
      match interval.gridPoint? tie exponent with
      | some coefficient => some ⟨coefficient, exponent⟩
      | none => interval.search tie leading digits (taken + 1)

/-- The same decimal with a coefficient that does not end in zero. -/
def Decimal.trimmed (decimal : Decimal) : Decimal :=
  let digits := (Nat.toDigits 10 decimal.coefficient).reverse
  let zeros := (digits.takeWhile (· == '0')).length
  ⟨decimal.coefficient / tenTo zeros, decimal.exponent + zeros⟩

/-- The shortest decimal that reads back as `significand * 2 ^ exponent`.
Seventeen digits always suffice. -/
def shortest (tie : Tie) (significand : Nat) (exponent : Int) (narrow : Bool) : Decimal :=
  if significand = 0 then ⟨0, 0⟩
  else
    let interval := roundingInterval significand exponent narrow
    let leading := leadingExponent interval.middle interval.denominator
    match interval.search tie leading 17 0 with
    | some decimal => decimal.trimmed
    | none => ⟨0, 0⟩

end QueryGate.Number
