import RateLimit.Number.Text

/-!
# Machine numbers to a given precision

`fixed` writes a rational that is not negative with a given number of places,
`scientific` with one digit before the point and an exponent, and `general` with a
given number of digits in one of the two ways: with an exponent only if the number is
very small or has more digits before its point. All three round the exact number once, a half to the even
digit. A `pointed` number keeps the point, and in the general form the zeros, at its
end.
-/

namespace RateLimit.Number

/-- The digits of a number, of which the first `whole` stand before the point. -/
def withPoint (pointed : Bool) (whole : Nat) (digits : List Char) : List Char :=
  let fraction := digits.drop whole
  digits.take whole ++ if fraction.isEmpty && !pointed then [] else '.' :: fraction

/-- A number with zeros in front, as far as it has fewer digits than `count`. -/
def paddedDigits (count n : Nat) : List Char :=
  let digits := Nat.toDigits 10 n
  List.replicate (count - digits.length) '0' ++ digits

/-- A number with a given number of places. -/
def fixed (pointed : Bool) (places : Nat) (q : Rat) : List Char :=
  let digits := paddedDigits (places + 1) (roundEven (q * tenPow places)).toNat
  withPoint pointed (digits.length - places) digits

/-- The first `count` digits of a number, rounded, and the power of ten that the
first of them stands for. -/
def leadingDigits (count : Nat) (q : Rat) : List Char × Int :=
  if q = 0 then (List.replicate count '0', 0)
  else
    let order := decimalOrder q
    let digits := Nat.toDigits 10 (roundEven (q / tenPow (order - (count - 1 : Int)))).toNat
    (digits.take count, order + (digits.length - count : Int))

/-- A number with one digit before the point, and its exponent. -/
def scientific (pointed : Bool) (places : Nat) (q : Rat) : List Char :=
  let (digits, order) := leadingDigits (places + 1) q
  withPoint pointed 1 digits ++ exponentText order

/-- A number with a given number of digits. It has an exponent if it lies below `10⁻⁴`
or would have more digits before its point than that. -/
def general (pointed : Bool) (count : Nat) (q : Rat) : List Char :=
  let count := max count 1
  let (digits, order) := leadingDigits count q
  let digits := if pointed then digits else dropTrailingZeros digits
  if order < -4 ∨ (count : Int) ≤ order then withPoint pointed 1 digits ++ exponentText order
  else if order < 0 then
    '0' :: '.' :: List.replicate (-order - 1).toNat '0' ++ digits
  else
    let whole := (order + 1).toNat
    withPoint pointed whole (digits ++ List.replicate (whole - digits.length) '0')

/-- Whether a machine number is written with a minus. -/
def Binary64.isNegative : Binary64 → Bool
  | .finite q => decide (q < 0)
  | .negativeZero => true
  | .infinite negative => negative
  | .nan => false

/-- A machine number without its sign, where `write` writes a rational. -/
def Binary64.unsignedText (write : Rat → List Char) : Binary64 → List Char
  | .finite q => write q.abs
  | .negativeZero => write 0
  | .infinite _ => SpecialWords.short.infinity.toList
  | .nan => SpecialWords.short.notANumber.toList

example : fixed false 2 (1 / 8) = "0.12".toList := by decide +kernel

example : scientific false 1 (999 / 10) = "1.0e+02".toList := by decide +kernel

example : general false 6 1000000 = "1e+06".toList := by decide +kernel

end RateLimit.Number
