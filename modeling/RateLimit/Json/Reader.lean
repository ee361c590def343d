import RateLimit.Json.Value
import RateLimit.Text.Hex
import RateLimit.Text.Integer

/-!
# Reading JSON texts

`Json.read?` reads one value with nothing but space around it. Besides the
standard grammar it knows the three number words `NaN`, `Infinity` and
`-Infinity`. A number without fraction and exponent is an integer of any size,
every other one a machine number. Of several members with one name the last
value counts, at the place of the first. Escapes that stand for the two halves of a
character are put together.

A text may be read up to a mistake in its grammar, an integer with too many digits,
or a value that lies too deep inside others; the first of them in the text counts.

The readers of single parts (`skipSpace`, `readString`, `readNumber?`) are
structural recursions on the text; `readValue` is bounded by a fuel that `read?`
takes from the length of the text, since every step into a value consumes a
character.
-/

namespace RateLimit

open Number (Binary64 Decimal natOfDigits spanDigits)

/-- Why a text is read as no JSON value. -/
inductive JsonError where
  /-- The text does not follow the grammar. -/
  | malformed
  /-- An integer has too many digits. -/
  | longInteger (digits : Nat)
  /-- An array lies too deep. -/
  | deepArray
  /-- An object lies too deep. -/
  | deepObject
  deriving DecidableEq, Repr

/-- The wording of the error. -/
def JsonError.message : JsonError → String
  | .malformed => "malformed text"
  | .longInteger digits => Text.tooLongMessage digits
  | .deepArray =>
    "maximum recursion depth exceeded while decoding a JSON array from a unicode string"
  | .deepObject =>
    "maximum recursion depth exceeded while decoding a JSON object from a unicode string"

namespace Json

/-- How many arrays and objects may lie inside each other. -/
def maxDepth : Nat := 980

/-- The characters that may stand between the parts of a JSON text. -/
def isSpace (c : Char) : Bool :=
  c = ' ' || c = '\t' || c = '\n' || c = '\r'

/-- What follows the space in front. -/
def skipSpace (cs : List Char) : List Char := cs.dropWhile isSpace

/-- Four hexadecimal digits. -/
def hexUnit? (a b c d : Char) : Option Nat := do
  return (((← Text.hexDigit? a) * 16 + (← Text.hexDigit? b)) * 16 + (← Text.hexDigit? c)) * 16
    + (← Text.hexDigit? d)

/-- The character that an escape letter stands for. -/
def escaped? (c : Char) : Option Char :=
  if c = '"' || c = '\\' || c = '/' then some c
  else if c = 'b' then some '\x08'
  else if c = 'f' then some '\x0c'
  else if c = 'n' then some '\n'
  else if c = 'r' then some '\r'
  else if c = 't' then some '\t'
  else none

/-- Reads the inside of a string and its closing quote, after the units `done` in
reverse. -/
def readUnits (done : List Nat) : List Char → Option (List Nat × List Char)
  | [] => none
  | '"' :: rest => some (done.reverse, rest)
  | '\\' :: 'u' :: a :: b :: c :: d :: rest =>
    match hexUnit? a b c d with
    | none => none
    | some n => readUnits (n :: done) rest
  | '\\' :: c :: rest =>
    match escaped? c with
    | none => none
    | some d => readUnits (d.toNat :: done) rest
  | c :: rest => if c.toNat < 0x20 || c = '\\' then none else readUnits (c.toNat :: done) rest

/-- Reads a string after its opening quote. -/
def readString (cs : List Char) : Option (List Nat × List Char) :=
  (readUnits [] cs).map fun (units, rest) => (Text.joinHalves units, rest)

/-- The digits of a whole number without useless zeros, and the rest. -/
def readWhole? (cs : List Char) : Option (List Char × List Char) :=
  match cs with
  | '0' :: rest => some (['0'], rest)
  | cs =>
    let (digits, rest) := spanDigits cs
    if digits.isEmpty then none else some (digits, rest)

/-- The digits of a fraction, if there is one, and the rest. -/
def readFraction (cs : List Char) : List Char × List Char :=
  match cs with
  | '.' :: more =>
    let (digits, rest) := spanDigits more
    if digits.isEmpty then ([], cs) else (digits, rest)
  | _ => ([], cs)

/-- An exponent, if there is one, and the rest. -/
def readPower? (cs : List Char) : Option Int × List Char :=
  match cs with
  | c :: more =>
    if c = 'e' || c = 'E' then
      let (negative, unsigned) := Decimal.spanSign more
      let (digits, rest) := spanDigits unsigned
      if digits.isEmpty then (none, cs)
      else
        let n : Int := natOfDigits digits
        (some (if negative then -n else n), rest)
    else (none, cs)
  | [] => (none, [])

/-- Reads a number without its sign. -/
def readUnsigned? (negative : Bool) (cs : List Char) :
    Except JsonError (Json × List Char) :=
  match readWhole? cs with
  | none => .error .malformed
  | some (whole, rest) =>
    let (fraction, rest) := readFraction rest
    let (power, rest) := readPower? rest
    if fraction.isEmpty && power.isNone then
      if Text.maxDigits < whole.length then .error (.longInteger whole.length)
      else
        let n : Int := natOfDigits whole
        .ok (.int (if negative then -n else n), rest)
    else
      let exponent := power.getD 0 - fraction.length
      let decimal : Decimal := ⟨negative, natOfDigits (whole ++ fraction), exponent⟩
      .ok (.float decimal.toBinary64, rest)

/-- Reads a number. -/
def readNumber? (cs : List Char) : Except JsonError (Json × List Char) :=
  match cs with
  | '-' :: rest => readUnsigned? true rest
  | cs => readUnsigned? false cs

/-- Reads one of the words of the grammar. -/
def readWord? (cs : List Char) : Option (Json × List Char) :=
  let words : List (String × Json) :=
    [("null", .null), ("true", .bool true), ("false", .bool false),
      ("NaN", .float .nan), ("Infinity", .float (.infinite false)),
      ("-Infinity", .float (.infinite true))]
  words.findSome? fun (word, v) =>
    if word.toList.isPrefixOf cs then some (v, cs.drop word.length) else none

mutual

/-- Reads a value with at most `depth` arrays and objects inside each other, and
gives back what follows it. -/
def readValue : Nat → Nat → List Char → Except JsonError (Json × List Char)
  | 0, _, _ => .error .malformed
  | fuel + 1, depth, cs =>
    match cs, depth with
    | '"' :: rest, _ =>
      match readString rest with
      | none => .error .malformed
      | some (points, rest) => .ok (ofPoints points, rest)
    | '[' :: _, 0 => .error .deepArray
    | '[' :: rest, depth + 1 =>
      match skipSpace rest with
      | ']' :: rest => .ok (.array [], rest)
      | rest => readItems fuel depth [] rest
    | '\x7b' :: _, 0 => .error .deepObject
    | '\x7b' :: rest, depth + 1 =>
      match skipSpace rest with
      | '\x7d' :: rest => .ok (.object [], rest)
      | rest => readMembers fuel depth [] rest
    | cs, _ =>
      match readWord? cs with
      | some result => .ok result
      | none => readNumber? cs

/-- Reads the items of an array after the items `done`, up to its closing
bracket. -/
def readItems : Nat → Nat → List Json → List Char → Except JsonError (Json × List Char)
  | 0, _, _, _ => .error .malformed
  | fuel + 1, depth, done, cs =>
    match readValue fuel depth cs with
    | .error e => .error e
    | .ok (v, rest) =>
      match skipSpace rest with
      | ',' :: rest => readItems fuel depth (v :: done) (skipSpace rest)
      | ']' :: rest => .ok (.array (v :: done).reverse, rest)
      | _ => .error .malformed

/-- Reads the members of an object after the members `done`, up to its closing
brace. -/
def readMembers : Nat → Nat → List (List Nat × Json) → List Char →
    Except JsonError (Json × List Char)
  | 0, _, _, _ => .error .malformed
  | fuel + 1, depth, done, cs =>
    match cs with
    | '"' :: rest =>
      match readString rest with
      | none => .error .malformed
      | some (k, rest) =>
        match skipSpace rest with
        | ':' :: rest =>
          match readValue fuel depth (skipSpace rest) with
          | .error e => .error e
          | .ok (v, rest) =>
            match skipSpace rest with
            | ',' :: rest => readMembers fuel depth ((k, v) :: done) (skipSpace rest)
            | '\x7d' :: rest => .ok (ofMembers ((k, v) :: done).reverse, rest)
            | _ => .error .malformed
        | _ => .error .malformed
    | _ => .error .malformed

end

/-- Reads a text that holds one value. -/
def read? (s : String) : Except JsonError Json :=
  let cs := skipSpace s.toList
  match readValue (2 * cs.length + 2) maxDepth cs with
  | .error e => .error e
  | .ok (v, rest) => if (skipSpace rest).isEmpty then .ok v else .error .malformed

end Json

end RateLimit
