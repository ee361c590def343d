/-!
# Hexadecimal digits

`hex` writes a number in lower-case hexadecimal digits, and `hexDigit?` reads one
digit in either case.
-/

namespace RateLimit.Text

/-- A hexadecimal number with at least `width` digits. -/
def hex (width n : Nat) : List Char :=
  let digits := Nat.toDigits 16 n
  List.replicate (width - digits.length) '0' ++ digits

/-- The value of a hexadecimal digit. -/
def hexDigit? (c : Char) : Option Nat :=
  let d := c.toLower
  if d.isDigit then some (d.toNat - 48)
  else if 'a' ≤ d ∧ d ≤ 'f' then some (d.toNat - 87)
  else none

end RateLimit.Text
