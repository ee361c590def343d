import RateLimit.Number.Decimal

/-!
# Written machine numbers

`Binary64.toText` writes a machine number with the fewest digits that read back.
Numbers from `10⁻⁴` up to `10¹⁶` are written positionally and always with a
fraction, all others with an exponent of at least two digits. The words for the
infinities and for what is not a number are chosen by the caller, because log
lines and JSON texts spell them differently.
-/

namespace RateLimit.Number

/-- The words for numbers that have no digits. -/
structure SpecialWords where
  infinity : String
  notANumber : String
  deriving DecidableEq, Repr

/-- Short lower-case words. -/
def SpecialWords.short : SpecialWords := ⟨"inf", "nan"⟩

/-- The words of a JSON text. -/
def SpecialWords.json : SpecialWords := ⟨"Infinity", "NaN"⟩

/-- Drops the zeros at the end of a list of digits. -/
def dropTrailingZeros (digits : List Char) : List Char :=
  (digits.reverse.dropWhile (· == '0')).reverse

/-- At least two digits. -/
def twoDigits (n : Nat) : List Char :=
  if n < 10 then '0' :: Nat.toDigits 10 n else Nat.toDigits 10 n

/-- An exponent, with its sign and at least two digits. -/
def exponentText (e : Int) : List Char :=
  (if e < 0 then 'e' :: '-' :: [] else 'e' :: '+' :: []) ++ twoDigits e.natAbs

/-- Writes the digits of a number whose first digit stands for `10 ^ order`. -/
def layout (digits : List Char) (order : Int) : List Char :=
  if order < -4 ∨ 16 ≤ order then
    match digits with
    | [] => []
    | [d] => d :: exponentText order
    | d :: rest => d :: '.' :: rest ++ exponentText order
  else if order < 0 then
    '0' :: '.' :: List.replicate (-order - 1).toNat '0' ++ digits
  else
    let whole := (order + 1).toNat
    if digits.length ≤ whole then
      digits ++ List.replicate (whole - digits.length) '0' ++ ['.', '0']
    else digits.take whole ++ '.' :: digits.drop whole

/-- Writes a positive machine number. -/
def positiveText (q : Rat) : List Char :=
  let (coefficient, exponent) := shortest q
  let digits := Nat.toDigits 10 coefficient
  layout (dropTrailingZeros digits) (exponent + digits.length - 1)

namespace Binary64

/-- A machine number as text. -/
def toText (words : SpecialWords) : Binary64 → String
  | .finite q =>
    if q = 0 then "0.0"
    else if q < 0 then String.ofList ('-' :: positiveText (-q))
    else String.ofList (positiveText q)
  | .negativeZero => "-0.0"
  | .infinite negative => if negative then "-" ++ words.infinity else words.infinity
  | .nan => words.notANumber

end Binary64

end RateLimit.Number
