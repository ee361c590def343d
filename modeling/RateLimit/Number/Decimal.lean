import RateLimit.Number.Binary64

/-!
# Decimal numbers

A `Decimal` is a whole coefficient times a power of ten. `Decimal.toBinary64`
rounds it to a machine number, and `shortest` goes back: of the decimals that
round to a given machine number it takes one with the fewest digits, and of
those the one nearest to the number. `Decimal.read?` reads the usual notation
with an optional sign, fraction and exponent.
-/

namespace RateLimit.Number

/-- `coefficient * 10 ^ exponent`, with a sign of its own so that a zero can be
negative. -/
structure Decimal where
  negative : Bool
  coefficient : Nat
  exponent : Int
  deriving DecidableEq, Repr

/-- A power of ten with any integer exponent. -/
def tenPow (e : Int) : Rat := (10 : Rat) ^ e

/-- How many decimal digits a natural number is written with. -/
def digitCount (n : Nat) : Nat := (Nat.toDigits 10 n).length

/-- The value of an ASCII digit. -/
def digitValue (c : Char) : Nat := c.toNat - '0'.toNat

/-- The number that a list of ASCII digits writes. -/
def natOfDigits (cs : List Char) : Nat :=
  cs.foldl (fun n c => 10 * n + digitValue c) 0

/-- The digits in front, and what follows them. -/
def spanDigits (cs : List Char) : List Char × List Char :=
  (cs.takeWhile Char.isDigit, cs.dropWhile Char.isDigit)

namespace Decimal

/-- The rational that a decimal stands for. -/
def toRat (d : Decimal) : Rat :=
  (if d.negative then -1 else 1) * (d.coefficient * tenPow d.exponent)

/-- The machine number nearest to a decimal. A decimal far beyond the largest
number, or far below the least, is decided by its order of magnitude alone. -/
def toBinary64 (d : Decimal) : Binary64 :=
  let zero : Binary64 := if d.negative then .negativeZero else .finite 0
  let order := d.exponent + digitCount d.coefficient
  if d.coefficient = 0 then zero
  else if 400 < order then .infinite d.negative
  else if order < -400 then zero
  else .ofRat d.toRat

/-- Splits off a sign: whether it is a minus, and the rest. -/
def spanSign : List Char → Bool × List Char
  | '-' :: rest => (true, rest)
  | '+' :: rest => (false, rest)
  | rest => (false, rest)

/-- An exponent: a sign and at least one digit, with nothing after them. -/
def readExponent? (cs : List Char) : Option Int :=
  let (negative, digits) := spanSign cs
  if digits.isEmpty || !digits.all Char.isDigit then none
  else
    let n : Int := natOfDigits digits
    some (if negative then -n else n)

/-- What may follow the digits of a number: nothing, or an exponent. -/
def readTail? (negative : Bool) (whole fraction : List Char) (rest : List Char) :
    Option Decimal :=
  if whole.isEmpty && fraction.isEmpty then none
  else
    let coefficient := natOfDigits (whole ++ fraction)
    let shift : Int := fraction.length
    match rest with
    | [] => some ⟨negative, coefficient, -shift⟩
    | c :: more =>
      if c = 'e' || c = 'E' then
        (readExponent? more).map fun e => ⟨negative, coefficient, e - shift⟩
      else none

/-- Reads a decimal: a sign, digits with a point before, among or after them,
and an exponent; sign, point and exponent may be left out. -/
def read? (cs : List Char) : Option Decimal :=
  let (negative, unsigned) := spanSign cs
  let (whole, rest) := spanDigits unsigned
  match rest with
  | '.' :: more =>
    let (fraction, rest) := spanDigits more
    readTail? negative whole fraction rest
  | rest => readTail? negative whole [] rest

end Decimal

/-- The exponent of the greatest power of ten not above a positive rational. -/
def decimalOrder (q : Rat) : Int :=
  let guess := (digitCount q.num.natAbs : Int) - (digitCount q.den : Int)
  if tenPow guess ≤ q then guess else guess - 1

/-- The coefficients of the decimal grid with spacing `10 ^ e` next to `q` that
round to `q`. -/
def gridNeighbours (q : Rat) (e : Int) : List Int :=
  let below := (q / tenPow e).floor
  [below, below + 1].filter fun c => roundBinary (c * tenPow e) = q

/-- The nearer to `q` of two coefficients, in a tie the even one. -/
def nearer (q : Rat) (e : Int) (a b : Int) : Int :=
  let below := (q - a * tenPow e).abs
  let above := (q - b * tenPow e).abs
  if below < above then a
  else if above < below then b
  else if a % 2 = 0 then a else b

/-- A decimal of `count` digits that rounds to `q`, the nearest if there are
two. -/
def withDigits? (q : Rat) (count : Nat) : Option (Nat × Int) :=
  let e := decimalOrder q - (count - 1 : Int)
  match gridNeighbours q e with
  | [] => none
  | a :: others => some ((others.foldl (nearer q e) a).toNat, e)

/-- A decimal with the fewest digits that rounds to the positive machine number
`q`. Seventeen digits always do. -/
def shortest (q : Rat) : Nat × Int :=
  ((List.range 17).findSome? fun k => withDigits? q (k + 1)).getD (0, 0)

end RateLimit.Number
