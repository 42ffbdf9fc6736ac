/-!
# Reading numbers from texts

Integers are an optional sign and decimal digits, within the 64-bit words.
Floats are an optional sign and either a name for infinity or for not-a-number
in any case, or decimal digits with an optional point and exponent; the result
is the nearest double. Both readers take the whole text and nothing around it.

`scaled` is the reading of a decimal literal in JSON. Its leading digits, as
many as fit an unsigned 64-bit word, are rounded to a double first, and the
power of ten is applied to that, so the result may be the neighbour of the
nearest double.
-/

set_option autoImplicit false

namespace QueryGate.Number

/-- The value of a digit. -/
def digitValue (character : Char) : Nat :=
  character.toNat - '0'.toNat

/-- The number that a run of digits spells, read on from `start`. -/
def digitsValue (start : Nat) (digits : List Char) : Nat :=
  digits.foldl (fun value digit => 10 * value + digitValue digit) start

/-- The digits at the front, and what follows them. -/
def takeDigits (characters : List Char) : List Char × List Char :=
  (characters.takeWhile Char.isDigit, characters.dropWhile Char.isDigit)

/-- A sign at the front, read as whether it is a minus, and what follows. -/
def takeSign : List Char → Bool × List Char
  | '-' :: rest => (true, rest)
  | '+' :: rest => (false, rest)
  | characters => (false, characters)

/-- The signed 64-bit word equal to an integer, when there is one. -/
def int64? (number : Int) : Option Int64 :=
  if Int64.minValue.toInt ≤ number ∧ number ≤ Int64.maxValue.toInt then
    some (Int64.ofInt number)
  else none

/-- The unsigned 64-bit word equal to an integer, when there is one. -/
def uint64? (number : Int) : Option UInt64 :=
  if 0 ≤ number ∧ number < UInt64.size then some (UInt64.ofNat number.toNat) else none

/-- An optional sign and digits, within the signed 64-bit words. -/
def readInt64? (characters : List Char) : Option Int64 :=
  let (negative, digits) := takeSign characters
  if digits.isEmpty || !digits.all Char.isDigit then none
  else
    let magnitude : Int := digitsValue 0 digits
    int64? (if negative then -magnitude else magnitude)

/-- An exponent mark with its number, or nothing. The exponent is zero when
nothing stands there, and absent when something else does. -/
def readExponent? : List Char → Option Int
  | [] => some 0
  | mark :: rest =>
      if mark == 'e' || mark == 'E' then
        let (negative, digits) := takeSign rest
        if digits.isEmpty || !digits.all Char.isDigit then none
        else
          let magnitude : Int := digitsValue 0 digits
          some (if negative then -magnitude else magnitude)
      else none

/-- The double nearest to `coefficient * 10 ^ exponent`. Beyond the bounds that
guard the power of ten, every such number is infinite or zero. -/
def nearest (coefficient : Nat) (exponent : Int) : Float :=
  let leading : Int := exponent + (Nat.toDigits 10 coefficient).length
  if coefficient = 0 then 0.0
  else if 400 < leading then 1.0 / 0.0
  else if leading < -400 then 0.0
  else if exponent < 0 then Float.ofScientific coefficient true exponent.natAbs
  else Float.ofScientific coefficient false exponent.natAbs

/-- A float in digits, with at least one digit around the optional point. -/
def readDecimal? (characters : List Char) : Option Float :=
  let (whole, afterWhole) := takeDigits characters
  let (fraction, rest) :=
    match afterWhole with
    | '.' :: afterPoint => takeDigits afterPoint
    | _ => ([], afterWhole)
  if whole.isEmpty && fraction.isEmpty then none
  else
    (readExponent? rest).map fun exponent =>
      nearest (digitsValue 0 (whole ++ fraction)) (exponent - fraction.length)

/-- A float, by name or in digits, with an optional sign. -/
def readFloat? (characters : List Char) : Option Float :=
  let (negative, magnitude) := takeSign characters
  let name := String.ofList (magnitude.map Char.toLower)
  let value :=
    if name = "inf" ∨ name = "infinity" then some (1.0 / 0.0)
    else if name = "nan" then some (0.0 / 0.0)
    else readDecimal? magnitude
  value.map fun number => if negative then -number else number

/-- The longest run of leading digits whose value fits an unsigned 64-bit word,
read on from `start`, and how many digits it has. -/
def leadingWord (start : Nat) : List Char → Nat × Nat
  | [] => (start, 0)
  | digit :: digits =>
      let value := 10 * start + digitValue digit
      if value < UInt64.size then
        let (word, count) := leadingWord value digits
        (word, count + 1)
      else (start, 0)

/-- The double `value / 10 ^ exponent`, divided in steps of at most 308
places. -/
def divideByPower (value : Float) (exponent : Nat) : Float :=
  if exponent ≤ 308 then value / Float.ofScientific 1 false exponent
  else if value == 0.0 then value
  else divideByPower (value / Float.ofScientific 1 false 308) (exponent - 308)
termination_by exponent

/-- The double for `whole.fraction * 10 ^ exponent`, or nothing when it is too
large. The word takes in digits of the whole part as far as it can hold them,
and goes on with those of the fraction in the same way. -/
def scaled (whole fraction : List Char) (exponent : Int) : Option Float :=
  let (leading, taken) := leadingWord 0 whole
  let (word, refined) := leadingWord leading fraction
  let power := exponent + (whole.length - taken : Nat) - refined
  let value := Float.ofNat word
  if power < 0 then some (divideByPower value power.natAbs)
  else if 308 < power then if word = 0 then some 0.0 else none
  else
    let product := value * Float.ofScientific 1 false power.natAbs
    if product.isInf then none else some product

end QueryGate.Number
