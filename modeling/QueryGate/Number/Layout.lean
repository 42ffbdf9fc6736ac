import QueryGate.Number.Shortest

/-!
# Texts of doubles

A double is written with the digits of its shortest decimal. What a format
decides beyond that is a `Layout`: which leading exponents are written with a
decimal point alone, whether a whole number keeps `.0`, and which of two
equally near decimals is taken. Outside the positional range the exponent is
written with its sign and without leading zeros.
-/

set_option autoImplicit false

namespace QueryGate.Number

/-- The decisions of a float format. -/
structure Layout where
  tie : Tie
  /-- The least and the greatest leading exponent written positionally; no
  bounds when every number is. -/
  positional : Option (Int × Int)
  /-- Whether a whole number ends in `.0`. -/
  keepsPoint : Bool

/-- Digits with a decimal point and no exponent. -/
def positionalText (keepsPoint : Bool) (digits : List Char) (exponent : Int) : List Char :=
  if 0 ≤ exponent then
    digits ++ List.replicate exponent.toNat '0' ++ if keepsPoint then ['.', '0'] else []
  else
    let places := (-exponent).toNat
    if places < digits.length then
      digits.take (digits.length - places) ++ '.' :: digits.drop (digits.length - places)
    else '0' :: '.' :: List.replicate (places - digits.length) '0' ++ digits

/-- One digit, the others after a point, and the exponent. -/
def scientificText (digits : List Char) (leading : Int) : List Char :=
  let mantissa :=
    match digits with
    | [] => []
    | [digit] => [digit]
    | digit :: others => digit :: '.' :: others
  let sign := if leading < 0 then '-' else '+'
  mantissa ++ 'e' :: sign :: Nat.toDigits 10 leading.natAbs

/-- The text of a decimal under a layout. -/
def Decimal.layOut (layout : Layout) (decimal : Decimal) : List Char :=
  let digits := Nat.toDigits 10 decimal.coefficient
  let leading := decimal.exponent + digits.length - 1
  let positional :=
    match layout.positional with
    | none => true
    | some (least, greatest) => least ≤ leading && leading ≤ greatest
  if positional then positionalText layout.keepsPoint digits decimal.exponent
  else scientificText digits leading

/-- The text of a double under a layout. -/
def Layout.text (layout : Layout) (value : Float) : String :=
  match parts value with
  | .notANumber => "NaN"
  | .infinite negative => if negative then "-inf" else "inf"
  | .finite negative significand exponent narrow =>
      let body := (shortest layout.tie significand exponent narrow).layOut layout
      String.ofList (if negative then '-' :: body else body)

end QueryGate.Number
