import RateLimit.Log.Value
import RateLimit.Number.Places

/-!
# Templates

A template is a text with directives, which show the values that come with it. A
directive begins with a percent sign and ends with a letter, its conversion. Between
them may stand the name of a value between parentheses, flags, a width, a precision
and a size, which means nothing. Two percent signs stand for one.

`Directive.read` takes a directive apart without looking at values, so that it never
fails; `Filling.directive` carries it out step by step, and the first step that is
wrong counts. `Template.fill` fills in a template from a single value. A value with
names may be used any number of times by name; used as a whole, it is used up.
-/

namespace RateLimit.Log

open Number (Binary64 ConversionError)

/-- Why a template cannot be filled in. -/
inductive TemplateError where
  /-- A directive without a conversion. -/
  | incomplete
  /-- A name without its closing parenthesis. -/
  | incompleteName
  /-- There are no names in the value. -/
  | noNames
  /-- The value is a list, whose items have no names. -/
  | listName
  /-- The value has nothing under the name. -/
  | unknownName (name : String)
  /-- The value is used up. -/
  | tooFew
  /-- The value is not used. -/
  | tooMany
  /-- A width or precision is taken from a value that is no integer. -/
  | sizeKind
  /-- A width that is taken from a value is beyond 64 bits. -/
  | widthValue
  /-- A precision that is taken from a value is beyond 32 bits. -/
  | precisionValue
  /-- A width is too large. -/
  | width
  /-- A precision is too large. -/
  | precision
  /-- A precision is too large for an integer. -/
  | digits
  /-- The text would be too long. -/
  | memory
  /-- A conversion that is not known, and where it stands. -/
  | unknownConversion (c : Char) (index : Nat)
  /-- A value that is no number. -/
  | realKind (c : Char) (kind : String)
  /-- A value that is no integer. -/
  | integerKind (c : Char) (kind : String)
  /-- A value that is no machine number. -/
  | numberKind (kind : String)
  /-- A value that is no character. -/
  | characterKind
  /-- An integer that is no character. -/
  | characterRange
  /-- A number cannot be converted. -/
  | conversion (cause : ConversionError)
  deriving DecidableEq, Repr

/-- The wording of the error. -/
def TemplateError.message : TemplateError → String
  | .incomplete => "incomplete format"
  | .incompleteName => "incomplete format key"
  | .noNames => "format requires a mapping"
  | .listName => "list indices must be integers or slices, not str"
  | .unknownName name => Text.quote name
  | .tooFew => "not enough arguments for format string"
  | .tooMany => "not all arguments converted during string formatting"
  | .sizeKind => "* wants int"
  | .widthValue => "Python int too large to convert to C ssize_t"
  | .precisionValue => "Python int too large to convert to C int"
  | .width => "width too big"
  | .precision => "precision too big"
  | .digits => "precision too large"
  | .memory => ""
  | .unknownConversion c index =>
    "unsupported format character '"
      ++ String.singleton (if 31 ≤ c.toNat ∧ c.toNat ≤ 126 then c else '?')
      ++ "' (0x" ++ String.ofList (Text.hex 1 c.toNat) ++ ") at index " ++ toString index
  | .realKind c kind =>
    "%" ++ String.singleton c ++ " format: a real number is required, not " ++ kind
  | .integerKind c kind =>
    "%" ++ String.singleton c ++ " format: an integer is required, not " ++ kind
  | .numberKind kind => "must be real number, not " ++ kind
  | .characterKind => "%c requires int or char"
  | .characterRange => "%c arg not in range(0x110000)"
  | .conversion cause => cause.message

/-- The name that a directive asks for. -/
inductive DirectiveName where
  | absent
  | given (name : String)
  /-- The closing parenthesis is missing. -/
  | unclosed
  deriving DecidableEq, Repr

/-- A width or a precision. -/
inductive DirectiveSize where
  | absent
  | given (n : Nat)
  /-- It is taken from the value. -/
  | taken
  deriving DecidableEq, Repr

/-- What stands after a percent sign. The length counts all its characters. -/
structure Directive where
  name : DirectiveName
  flags : List Char
  width : DirectiveSize
  precision : DirectiveSize
  conversion : Option Char
  length : Nat
  deriving DecidableEq, Repr

namespace Directive

/-- The characters before the parenthesis that closes `depth` open ones, and what
follows it. -/
def spanName : Nat → List Char → List Char × Option (List Char)
  | _, [] => ([], none)
  | depth, c :: rest =>
    if c = ')' ∧ depth = 1 then ([], some rest)
    else
      let depth := if c = '(' then depth + 1 else if c = ')' then depth - 1 else depth
      let (name, after) := spanName depth rest
      (c :: name, after)

/-- Reads a name. -/
def readName (cs : List Char) : DirectiveName × List Char :=
  match cs with
  | '(' :: rest =>
    match spanName 1 rest with
    | (name, some after) => (.given (String.ofList name), after)
    | (_, none) => (.unclosed, [])
  | cs => (.absent, cs)

/-- Whether a character is a flag. -/
def isFlag (c : Char) : Bool := "-+ #0".toList.contains c

/-- Reads a width or a precision. -/
def readSize (cs : List Char) : DirectiveSize × List Char :=
  match cs with
  | '*' :: rest => (.taken, rest)
  | cs =>
    match Number.spanDigits cs with
    | ([], _) => (.absent, cs)
    | (digits, rest) => (.given (Number.natOfDigits digits), rest)

/-- Reads a precision, which follows a point and is zero if nothing else does. -/
def readPrecision (cs : List Char) : DirectiveSize × List Char :=
  match cs with
  | '.' :: rest =>
    match readSize rest with
    | (.absent, rest) => (.given 0, rest)
    | result => result
  | cs => (.absent, cs)

/-- Drops one letter for the size of a number. -/
def dropSizeLetter (cs : List Char) : List Char :=
  match cs with
  | c :: rest => if c = 'h' || c = 'l' || c = 'L' then rest else cs
  | [] => []

/-- Reads what follows a percent sign. -/
def read (cs : List Char) : Directive :=
  let (name, unnamed) := readName cs
  let (width, rest) := readSize (unnamed.dropWhile isFlag)
  let (precision, rest) := readPrecision rest
  let rest := dropSizeLetter rest
  { name, flags := unnamed.takeWhile isFlag, width, precision, conversion := rest.head?
    length := cs.length - rest.tail.length }

end Directive

/-- The parts of a template. -/
inductive Piece where
  | plain (c : Char)
  /-- A directive, and where its conversion stands. -/
  | directive (d : Directive) (index : Nat)
  deriving DecidableEq, Repr

/-- The parts of a template from a position on. -/
def Piece.ofText (position : Nat) (cs : List Char) : List Piece :=
  match cs with
  | [] => []
  | '%' :: '%' :: rest => .plain '%' :: ofText (position + 2) rest
  | '%' :: rest =>
    let d := Directive.read rest
    .directive d (position + d.length) ::
      ofText (position + 1 + d.length) (rest.drop d.length)
  | c :: rest => .plain c :: ofText (position + 1) rest
termination_by cs.length
decreasing_by all_goals simp only [List.length_cons, List.length_drop]; omega

/-- What is left to fill in a template with: the value with names, if there is one,
and the value that is next, unless it is used up. -/
structure Filling where
  names : Option Json := none
  next : Option Value := none
  deriving Repr, Inhabited

namespace Filling

/-- The values for a template. -/
def ofValue (v : Value) : Filling :=
  match v with
  | .json (.array items) => ⟨some (.array items), some v⟩
  | .json (.object members) => ⟨some (.object members), some v⟩
  | .json (.brokenObject members) => ⟨some (.brokenObject members), some v⟩
  | v => ⟨none, some v⟩

/-- Takes the value that is next. -/
def take (f : Filling) : Except TemplateError (Value × Filling) :=
  match f.next with
  | some v => .ok (v, { f with next := none })
  | none => .error .tooFew

/-- Looks up the name that a directive asks for, and makes its value the next one. -/
def select (f : Filling) (name : DirectiveName) : Except TemplateError Filling :=
  match name, f.names with
  | .absent, _ => .ok f
  | _, none => .error .noNames
  | .unclosed, some _ => .error .incompleteName
  | .given name, some v =>
    match v with
    | .array _ => .error .listName
    | v =>
      match v.get? name with
      | some item => .ok { f with next := some (.json item) }
      | none => .error (.unknownName name)

/-- The integer that a size is taken from. -/
def takeSize (f : Filling) : Except TemplateError (Int × Filling) := do
  match ← f.take with
  | (.json (.int n), f) => return (n, f)
  | (.json (.bool b), f) => return (if b then 1 else 0, f)
  | _ => throw .sizeKind

/-- A width, and whether the text stands to the left of the room that it leaves. -/
def width (f : Filling) : DirectiveSize → Except TemplateError (Nat × Bool × Filling)
  | .absent => .ok (0, false, f)
  | .given n => if 9223372036854775807 < n then .error .width else .ok (n, false, f)
  | .taken => do
    let (n, f) ← f.takeSize
    if n < -9223372036854775807 ∨ 9223372036854775807 < n then throw .widthValue
    return (n.natAbs, decide (n < 0), f)

/-- A precision, if there is one. -/
def precision (f : Filling) : DirectiveSize → Except TemplateError (Option Nat × Filling)
  | .absent => .ok (none, f)
  | .given n => if 2147483647 < n then .error .precision else .ok (some n, f)
  | .taken => do
    let (n, f) ← f.takeSize
    if n < -2147483648 ∨ 2147483647 < n then throw .precisionValue
    return (some n.toNat, f)

end Filling

/-- How a value is shown: the flags and the sizes of a directive. -/
structure Layout where
  flags : List Char := []
  width : Nat := 0
  toLeft : Bool := false
  precision : Option Nat := none
  deriving DecidableEq, Repr

/-- The text of a value, in parts: a sign, a mark for the base, and the rest. The
room before a number may be filled with zeros. -/
structure Shown where
  sign : List Char := []
  mark : List Char := []
  body : List Char
  isNumber : Bool := false
  deriving DecidableEq, Repr

namespace Layout

/-- The greatest width or precision for which there is memory. -/
def memoryLimit : Nat := 16777216

/-- The text of a value in its room. -/
def lay (l : Layout) (s : Shown) : Except TemplateError (List Char) :=
  let text := s.sign ++ s.mark ++ s.body
  let room := l.width - text.length
  if memoryLimit < room then .error .memory
  else if l.toLeft || l.flags.contains '-' then .ok (text ++ List.replicate room ' ')
  else if s.isNumber && l.flags.contains '0' then
    .ok (s.sign ++ s.mark ++ List.replicate room '0' ++ s.body)
  else .ok (List.replicate room ' ' ++ text)

/-- The sign of a number. -/
def sign (l : Layout) (negative : Bool) : List Char :=
  if negative then ['-']
  else if l.flags.contains '+' then ['+']
  else if l.flags.contains ' ' then [' ']
  else []

/-- A text, up to a precision. -/
def showText (l : Layout) (s : String) : Shown where
  body := match l.precision with
    | some n => s.toList.take n
    | none => s.toList

/-- The base of a conversion of integers. -/
def base (c : Char) : Nat := if c = 'o' then 8 else if c = 'x' ∨ c = 'X' then 16 else 10

/-- Letters for the conversion: large ones for a large one. -/
def inCase (c : Char) (cs : List Char) : List Char :=
  if c.isUpper then cs.map Char.toUpper else cs

/-- An integer. -/
def showInteger (l : Layout) (c : Char) (n : Int) : Except TemplateError Shown :=
  let least := l.precision.getD 0
  if 2147483644 < least then .error .digits
  else if memoryLimit < least then .error .memory
  else
    let digits := Nat.toDigits (base c) n.natAbs
    .ok {
      sign := l.sign (decide (n < 0))
      mark := if l.flags.contains '#' ∧ base c ≠ 10 then ['0', c] else []
      body := inCase c (List.replicate (least - digits.length) '0' ++ digits)
      isNumber := true }

/-- A precision that shows all digits of every machine number. -/
def fullPrecision : Nat := 1100

/-- How a conversion writes a rational that is not negative, if there is memory for all
its places. Only the general form drops zeros at the end, so that it may have any
precision; the greatest one, with the digit before the point, is beyond 32 bits, and the
exponent form then has no places. -/
def writer? (l : Layout) (c : Char) : Option (Rat → List Char) :=
  let pointed := l.flags.contains '#'
  let precision := l.precision.getD 6
  let places := if memoryLimit < precision then none else some precision
  if c = 'f' ∨ c = 'F' then places.map (Number.fixed pointed)
  else if c = 'e' ∨ c = 'E' then
    if precision = 2147483647 then some (Number.scientific pointed 0)
    else places.map (Number.scientific pointed)
  else if pointed then places.map (Number.general pointed)
  else some (Number.general pointed (min precision fullPrecision))

/-- A machine number. -/
def showNumber (l : Layout) (c : Char) (x : Binary64) : Except TemplateError Shown :=
  match x.toRat?, l.writer? c with
  | some _, none => .error .memory
  | _, write => .ok {
      sign := l.sign x.isNegative
      body := inCase c (x.unsignedText (write.getD fun _ => []))
      isNumber := true }

/-- The integer of a value, for a conversion of integers. Only decimal ones take a
machine number, and drop its fraction. -/
def integerOf (c : Char) (v : Value) : Except TemplateError Int :=
  match v with
  | .json (.int n) => .ok n
  | .json (.bool b) => .ok (if b then 1 else 0)
  | .json (.float x) =>
    if base c = 10 then x.toInt?.mapError .conversion else .error (.integerKind c v.kindName)
  | v => .error (if base c = 10 then .realKind c v.kindName else .integerKind c v.kindName)

/-- The machine number of a value. -/
def numberOf (v : Value) : Except TemplateError Binary64 :=
  match v with
  | .json (.int n) => (Binary64.ofInt n).mapError .conversion
  | .json (.bool b) => .ok (.finite (if b then 1 else 0))
  | .json (.float x) => .ok x
  | v => .error (.numberKind v.kindName)

/-- The character of a code point. -/
def characterOf? (n : Int) : Except TemplateError Char :=
  if 0 ≤ n ∧ n < 0x110000 then .ok (Char.ofNat n.toNat) else .error .characterRange

/-- The character of a value. -/
def characterOf (v : Value) : Except TemplateError Char :=
  match v with
  | .json (.string s) =>
    match s.toList with
    | [c] => .ok c
    | _ => .error .characterKind
  | .json (.int n) => characterOf? n
  | .json (.bool b) => characterOf? (if b then 1 else 0)
  | _ => .error .characterKind

/-- A value as a conversion shows it, if there is such a conversion. -/
def convert? (l : Layout) (c : Char) (v : Value) : Option (Except TemplateError Shown) :=
  if c = 's' then some (.ok (l.showText v.display))
  else if c = 'r' then some (.ok (l.showText v.quoted))
  else if c = 'a' then some (.ok (l.showText (Text.toAscii v.quoted)))
  else if c = 'c' then some do return { body := [← characterOf v] }
  else if "diuoxX".toList.contains c then some do l.showInteger c (← integerOf c v)
  else if "eEfFgG".toList.contains c then some do l.showNumber c (← numberOf v)
  else none

end Layout

namespace Filling

/-- Carries out a directive: the text that takes its place, and what is left. -/
def directive (f : Filling) (d : Directive) (index : Nat) :
    Except TemplateError (List Char × Filling) := do
  let f ← f.select d.name
  let (width, toLeft, f) ← f.width d.width
  let (precision, f) ← f.precision d.precision
  match d.conversion with
  | none => throw .incomplete
  | some c =>
    let (v, f) ← f.take
    let layout : Layout := { flags := d.flags, width, toLeft, precision }
    match layout.convert? c v with
    | none => throw (.unknownConversion c index)
    | some shown => return (← layout.lay (← shown), f)

/-- Carries out the directives of a template. A value without names has to be used. -/
def pieces (f : Filling) : List Piece → Except TemplateError (List Char)
  | [] => if f.names.isNone && f.next.isSome then .error .tooMany else .ok []
  | .plain c :: rest => do return c :: (← f.pieces rest)
  | .directive d index :: rest => do
    let (shown, f) ← f.directive d index
    return shown ++ (← f.pieces rest)

end Filling

/-- Fills in a template from a value. -/
def Template.fill (template : String) (v : Value) : Except TemplateError String :=
  ((Filling.ofValue v).pieces (Piece.ofText 0 template.toList)).map String.ofList

example : (Template.fill "%05d|" (.json (.int (-42)))).toOption = some "-0042|" := by
  decide +kernel

example : (Template.fill "100%%" (.json (.array []))).toOption = some "100%" := by
  decide +kernel

end RateLimit.Log
