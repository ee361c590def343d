import RateLimit.Json.Value
import RateLimit.Number.Reading
import RateLimit.Settings.Issue
import RateLimit.Text.Blank
import RateLimit.Text.Integer

/-!
# Values of settings

A setting may be given as a JSON value or as a text, since a variable of the
environment is always a text. `readBool`, `readNumber`, `readInteger` and
`readText` say which values stand for a truth value, a machine number, an integer
and a text, and what is wrong with the others.
-/

namespace RateLimit.Coercion

open Number (Binary64)

/-- The words for true. -/
def trueWords : List String := ["1", "on", "t", "true", "y", "yes"]

/-- The words for false. -/
def falseWords : List String := ["0", "off", "f", "false", "n", "no"]

/-- A truth value written as a number. -/
def boolOfInteger (n : Int) : Except IssueKind Bool :=
  if n = 0 then .ok false else if n = 1 then .ok true else .error .boolText

/-- Whether an integer has 64 bits. -/
def isShort (n : Int) : Bool :=
  decide (-9223372036854775808 ≤ n ∧ n ≤ 9223372036854775807)

/-- The integer that a machine number is, if it lies strictly between the least
and the greatest one of 64 bits. -/
def integerOfNumber (x : Binary64) : Except IssueKind Int :=
  match x.toRat? with
  | none => .error .integerInfinite
  | some q =>
    if q.den ≠ 1 then .error .integerFraction
    else if q.num ≤ -9223372036854775808 ∨ 9223372036854775808 ≤ q.num then
      .error .integerSize
    else .ok q.num

/-- A truth value. -/
def readBool : Json → Except IssueKind Bool
  | .bool b => .ok b
  | .int n => if isShort n then boolOfInteger n else .error .boolKind
  | .float x =>
    match integerOfNumber x with
    | .ok n => boolOfInteger n
    | .error _ => .error .boolKind
  | .string s =>
    let word := s.toLower
    if trueWords.contains word then .ok true
    else if falseWords.contains word then .ok false
    else .error .boolText
  | .broken _ => .error .textBroken
  | _ => .error .boolKind

/-- Drops low lines, none of which may stand at an end or beside another one. -/
def dropLowLines? (cs : List Char) : Option (List Char) :=
  if cs.head? = some '_' || cs.getLast? = some '_' || hasDouble cs then none
  else some (cs.filter (· ≠ '_'))
where
  /-- Whether two low lines stand side by side. -/
  hasDouble : List Char → Bool
    | '_' :: '_' :: _ => true
    | _ :: rest => hasDouble rest
    | [] => false

/-- The number that a text writes: one with white space around it, or else one with
low lines in it. -/
def numberOfText? (s : String) : Option Binary64 :=
  (Binary64.ofText? (Text.trim Text.isWhiteSpace s.toList)).orElse fun _ =>
    (dropLowLines? s.toList).bind Binary64.ofText?

/-- A machine number. -/
def readNumber : Json → Except IssueKind Binary64
  | .bool b => .ok (.finite (if b then 1 else 0))
  | .int n =>
    match Binary64.ofInt? n with
    | some x => .ok x
    | none => .error .numberKind
  | .float x => .ok x
  | .string s =>
    match numberOfText? s with
    | some x => .ok x
    | none => .error .numberText
  | .broken _ => .error .textBroken
  | _ => .error .numberKind

/-- An integer without useless characters: perhaps a minus, and digits that begin
with a zero only if there is nothing else. Too many digits are noticed before
anything behind them. -/
def plainInteger? (cs : List Char) : Except IssueKind Int :=
  let (negative, unsigned) :=
    match cs with
    | '-' :: rest => (true, rest)
    | rest => (false, rest)
  let (digits, rest) := Number.spanDigits unsigned
  match digits with
  | [] => .error .integerText
  | '0' :: _ => if unsigned = ['0'] then .ok 0 else .error .integerText
  | digits =>
    if Text.maxDigits < digits.length then .error .integerSize
    else if rest.isEmpty then
      let n : Int := Number.natOfDigits digits
      .ok (if negative then -n else n)
    else .error .integerText

/-- What is left of a text behind its leading zeros, with low lines between them.
One character stays if nothing else is left, or if a point follows. A minus counts
as the beginning of the rest, too. -/
def dropLeadingZeros? : List Char → Option (List Char)
  | [] => none
  | '0' :: rest => drop '0' rest
  | c :: rest => if beginsRest c then some (c :: rest) else none
where
  /-- Whether a character is the first that stays. -/
  beginsRest (c : Char) : Bool := c = '-' || (c.isDigit && c ≠ '0')
  /-- Drops what follows a zero or low line, which is given. -/
  drop (last : Char) : List Char → Option (List Char)
    | [] => some [last]
    | c :: rest =>
      if c = '0' || c = '_' then drop c rest
      else if beginsRest c then some (c :: rest)
      else if c = '.' then some (last :: c :: rest)
      else none

/-- Drops a fraction of zeros. -/
def dropZeroFraction (cs : List Char) : List Char :=
  let (zeros, rest) := cs.reverse.span (· = '0')
  match zeros, rest with
  | _ :: _, '.' :: whole => whole.reverse
  | _, _ => cs

/-- A text for an integer without what is of no use: white space around it, a plus,
leading zeros, a fraction of zeros, and low lines. -/
def tidyInteger? (s : String) : Option (List Char) := do
  let unsigned ←
    match Text.trim Text.isWhiteSpace s.toList with
    | '+' :: rest => if rest.head? = some '-' then none else some rest
    | cs => some cs
  let shortened ←
    match unsigned with
    | '-' :: rest => (dropLeadingZeros? rest).map ('-' :: ·)
    | cs => dropLeadingZeros? cs
  dropLowLines? (dropZeroFraction shortened)

/-- The integer that a text writes, as it is or once it is tidied. Only digits that
stand in the text as it is are counted as too many. -/
def integerOfText? (s : String) : Except IssueKind Int :=
  match plainInteger? s.toList with
  | .error .integerText =>
    match (tidyInteger? s).map plainInteger? with
    | some (.ok n) => .ok n
    | _ => .error .integerText
  | result => result

/-- An integer. -/
def readInteger : Json → Except IssueKind Int
  | .bool b => .ok (if b then 1 else 0)
  | .int n => .ok n
  | .float x => integerOfNumber x
  | .string s => integerOfText? s
  | .broken _ => .error .textBroken
  | _ => .error .integerKind

/-- A text. One that is broken is mended. -/
def readText : Json → Except IssueKind String
  | .string s => .ok s
  | .broken points => .ok (Text.lossyText points)
  | _ => .error .textKind

/-- A value that may be missing. -/
def readOptional {α : Type} (read : Json → Except IssueKind α) :
    Json → Except IssueKind (Option α)
  | .null => .ok none
  | v => (read v).map some

end RateLimit.Coercion
