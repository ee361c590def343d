/-!
# Rounding to a grid

`roundEven q` is the integer nearest to the rational `q`, a half going to the
even neighbour, and `roundToward q` drops the fraction. `roundBinary q` is the
rational nearest to `q` that has at most 53 significant bits and is a multiple
of the least positive binary64 number; no largest number bounds it. Every
computation with machine numbers in this library is an exact rational
computation followed by `roundBinary`.
-/

namespace RateLimit.Number

/-- The nearest integer, a half going to the even neighbour. -/
def roundEven (q : Rat) : Int :=
  let below := q.floor
  let rest := q - below
  if rest < 1 / 2 then below
  else if 1 / 2 < rest then below + 1
  else if below % 2 = 0 then below
  else below + 1

/-- The integer part: the fraction is dropped, whatever the sign. -/
def roundToward (q : Rat) : Int :=
  if q < 0 then q.ceil else q.floor

/-- A power of two with any integer exponent. -/
def twoPow (e : Int) : Rat := (2 : Rat) ^ e

/-- The exponent of the greatest power of two not above a positive rational. -/
def binaryOrder (q : Rat) : Int :=
  let guess := (q.num.natAbs.log2 : Int) - (q.den.log2 : Int)
  if twoPow guess ≤ q then guess else guess - 1

/-- The distance of neighbouring machine numbers around `q`. -/
def spacing (q : Rat) : Rat :=
  twoPow (max (binaryOrder q.abs - 52) (-1074))

/-- The nearest rational with at most 53 significant bits, of two the one with
the even last bit. -/
def roundBinary (q : Rat) : Rat :=
  if q = 0 then 0 else roundEven (q / spacing q) * spacing q

@[simp] theorem roundBinary_zero : roundBinary 0 = 0 := by
  simp [roundBinary]

end RateLimit.Number
