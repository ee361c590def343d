import RateLimit.Number.Rounding

/-!
# Machine numbers

A `Binary64` is a double precision number: a rational that is its own rounding,
a negative zero, an infinity or not a number. Arithmetic is exact on the
rationals and rounded once at the end, `ofRat`; a rational too large for the
format becomes an infinity there. `ofInt?` is `none` for an integer that is too
large, and `toInt?` and `ceil?` say why a number has no integer.

`nearest` is the integer that `ofInt?` stands for: the machine number nearest
to an integer is again an integer, so integers can be compared after rounding
without leaving the integers.
-/

namespace RateLimit.Number

/-- A double precision number. -/
inductive Binary64 where
  /-- A number other than a negative zero. -/
  | finite (q : Rat)
  /-- The zero that comes of rounding a negative number. -/
  | negativeZero
  /-- An infinity, negative or positive. -/
  | infinite (negative : Bool)
  /-- Not a number. -/
  | nan
  deriving DecidableEq, Repr, Inhabited

/-- Why a number could not be converted. -/
inductive ConversionError where
  /-- An integer is beyond the largest machine number. -/
  | integerTooLarge
  /-- An infinity has no integer part. -/
  | infinity
  /-- What is not a number has no integer part. -/
  | notANumber
  deriving DecidableEq, Repr

/-- The wording of a conversion error. -/
def ConversionError.message : ConversionError → String
  | .integerTooLarge => "int too large to convert to float"
  | .infinity => "cannot convert float infinity to integer"
  | .notANumber => "cannot convert float NaN to integer"

namespace Binary64

/-- The first rational that rounds to an infinity, less the rounding itself. -/
def bound : Rat := twoPow 1024

/-- The machine number nearest to a rational. -/
def ofRat (q : Rat) : Binary64 :=
  let r := roundBinary q
  if bound ≤ r.abs then .infinite (decide (q < 0))
  else if r = 0 ∧ q < 0 then .negativeZero
  else .finite r

/-- The rational that a machine number stands for. -/
def toRat? : Binary64 → Option Rat
  | .finite q => some q
  | .negativeZero => some 0
  | .infinite _ => none
  | .nan => none

@[simp] theorem toRat?_negativeZero : toRat? .negativeZero = some 0 := rfl

/-- The integer nearest to `n` that is a machine number, when none is too
large. -/
def nearest (n : Int) : Int := (roundBinary n).floor

/-- The machine number nearest to an integer. -/
def ofInt? (n : Int) : Option Binary64 :=
  if bound ≤ (roundBinary n).abs then none else some (.finite (roundBinary n))

theorem ofInt?_eq_none_iff {n : Int} :
    ofInt? n = none ↔ bound ≤ (roundBinary n).abs := by
  simp [ofInt?]

/-- `ofInt?`, with the reason for its failure. -/
def ofInt (n : Int) : Except ConversionError Binary64 :=
  match ofInt? n with
  | some x => .ok x
  | none => .error .integerTooLarge

/-- The integer part. -/
def toInt? : Binary64 → Except ConversionError Int
  | .finite q => .ok (roundToward q)
  | .negativeZero => .ok 0
  | .infinite _ => .error .infinity
  | .nan => .error .notANumber

/-- The least integer not below. -/
def ceil? : Binary64 → Except ConversionError Int
  | .finite q => .ok q.ceil
  | .negativeZero => .ok 0
  | .infinite _ => .error .infinity
  | .nan => .error .notANumber

/-- The quotient by a positive integer, rounded. -/
def divNat (x : Binary64) (d : Nat) : Binary64 :=
  match x with
  | .finite q => ofRat (q / d)
  | other => other

/-- The product with a positive integer, rounded. -/
def mulNat (x : Binary64) (d : Nat) : Binary64 :=
  match x with
  | .finite q => ofRat (q * d)
  | other => other

/-- The difference, rounded. -/
def sub (x y : Binary64) : Binary64 :=
  match x.toRat?, y.toRat? with
  | some a, some b => ofRat (a - b)
  | none, some _ => x
  | some _, none =>
    match y with
    | .infinite s => .infinite (!s)
    | _ => .nan
  | none, none =>
    match x, y with
    | .infinite s, .infinite t => if s = t then .nan else .infinite s
    | _, _ => .nan

/-- Whether a number is an integer or below it; nothing that is not a number
is. -/
def leInt (x : Binary64) (n : Int) : Bool :=
  match x with
  | .infinite s => s
  | .nan => false
  | other => decide (other.toRat?.getD 0 ≤ n)

/-- Whether a number lies above an integer; nothing that is not a number does. -/
def gtInt (x : Binary64) (n : Int) : Bool :=
  match x with
  | .infinite s => !s
  | .nan => false
  | other => decide (n < other.toRat?.getD 0)

/-- Zero of either sign. -/
def isZero (x : Binary64) : Bool :=
  decide (x.toRat? = some 0)

/-- The 64 bits of the interchange format: sign, exponent, fraction. Of the many
encodings of what is not a number, the usual one. -/
def toBits : Binary64 → Nat
  | .finite q =>
    if q = 0 then 0
    else
      let sign : Nat := if q < 0 then Nat.pow 2 63 else 0
      let unit := spacing q
      let significand := (q.abs / unit).floor.toNat
      let order := max (binaryOrder q.abs - 52) (-1074)
      let low := Nat.pow 2 52
      if significand < low then sign + significand
      else sign + (order + 1075).toNat * low + (significand - low)
  | .negativeZero => Nat.pow 2 63
  | .infinite s => (if s then Nat.pow 2 63 else 0) + 2047 * Nat.pow 2 52
  | .nan => 4095 * Nat.pow 2 51

end Binary64

end RateLimit.Number
