import RateLimit.Number.Reading
import RateLimit.Text.Integer

/-!
# Written machine numbers

`readNumber?` reads a machine number that a person may have written: white space
around it, digits of any script, and single low lines between digits.
-/

namespace RateLimit.Text

open Number (Binary64)

/-- The ASCII digit of a value below ten. -/
def asciiDigit (value : Nat) : Char := Char.ofNat ('0'.toNat + value)

/-- A text with ASCII digits in place of the digits of other scripts. -/
def withAsciiDigits (cs : List Char) : List Char :=
  cs.map fun c => ((decimalValue? c).map asciiDigit).getD c

/-- Drops single low lines between digits. Any other low line is an error.
`after` says whether a digit stands in front. -/
def dropSeparators? (after : Bool) : List Char → Option (List Char)
  | [] => some []
  | '_' :: c :: rest =>
    if after && c.isDigit then (dropSeparators? true rest).map (c :: ·) else none
  | c :: rest =>
    if c = '_' then none else (dropSeparators? c.isDigit rest).map (c :: ·)

/-- The machine number of a text. -/
def readNumber? (s : String) : Option Binary64 :=
  (dropSeparators? false (withAsciiDigits (trim isWhiteSpace s.toList))).bind
    Binary64.ofText?

end RateLimit.Text
