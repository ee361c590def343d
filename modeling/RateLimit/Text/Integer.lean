import RateLimit.Number.Decimal
import RateLimit.Text.Blank
import RateLimit.Text.Digit

/-!
# Written integers

`readInteger?` reads an integer that a person may have written: white space
around it, a sign, digits of any script, and single low lines between digits. The
time that this takes grows faster than the number of digits, so an integer with
more than `maxDigits` of them is refused, even if other text follows it.
-/

namespace RateLimit.Text

/-- Why a text is read as no integer. -/
inductive IntegerError where
  /-- The text writes no integer. -/
  | malformed
  /-- The integer has too many digits. -/
  | tooLong (digits : Nat)
  deriving DecidableEq, Repr

/-- The greatest number of digits that are read. -/
def maxDigits : Nat := 4300

/-- The wording for an integer that has too many digits. -/
def tooLongMessage (digits : Nat) : String :=
  "Exceeds the limit (" ++ toString maxDigits ++ " digits) for integer string conversion: "
    ++ "value has " ++ toString digits
    ++ " digits; use sys.set_int_max_str_digits() to increase the limit"

/-- The value of a digit of any script; zero for every other character. -/
def digitValue (c : Char) : Nat := (decimalValue? c).getD 0

/-- Whether a character is a digit of any script. -/
def isDigit (c : Char) : Bool := (decimalValue? c).isSome

/-- Drops the low lines of a row of digits. There has to be a digit, and each
low line has to stand alone between two digits. `after` says whether a digit
stands in front. -/
def ungroup? (after : Bool) : List Char → Option (List Char)
  | [] => if after then some [] else none
  | c :: rest =>
    if c = '_' then if after then ungroup? false rest else none
    else if isDigit c then (ungroup? true rest).map (c :: ·)
    else none

/-- The integer that digits write, unless there are too many of them. -/
def integerOfDigits? (negative : Bool) (digits : List Char) : Except IntegerError Int :=
  if maxDigits < digits.length then .error (.tooLong digits.length)
  else
    let n : Int := digits.foldl (fun n c => 10 * n + digitValue c) 0
    .ok (if negative then -n else n)

/-- The integer of a text. -/
def readInteger? (s : String) : Except IntegerError Int :=
  let (negative, unsigned) := Number.Decimal.spanSign (trim isWhiteSpace s.toList)
  let isPart : Char → Bool := fun c => c = '_' || isDigit c
  match ungroup? false (unsigned.takeWhile isPart) with
  | none => .error .malformed
  | some digits =>
    match integerOfDigits? negative digits with
    | .error e => .error e
    | .ok n => if (unsigned.dropWhile isPart).isEmpty then .ok n else .error .malformed

end RateLimit.Text
