import RateLimit.Number.Binary64
import RateLimit.Text.Padding

/-!
# Spans of time

A `Span` is a length of time in whole microseconds, of either sign, and at most
999999999 days long. `Span.ofMicroseconds?` says why a number of microseconds
is no span, and `Span.ofSeconds?` rounds a machine number of seconds to
microseconds first. The exact length in nanoseconds is `Span.nanoseconds`; its
length in seconds as a machine number, `Span.seconds`, is rounded.
-/

namespace RateLimit

open Number (Binary64 ConversionError roundBinary roundEven roundToward)

/-- Microseconds in a day. -/
def dayMicroseconds : Int := 86400000000

/-- The greatest number of whole days in a span, of either sign. -/
def dayLimit : Int := 999999999

/-- Whether a number of microseconds is a span. -/
def IsSpan (n : Int) : Prop :=
  -dayLimit ≤ n / dayMicroseconds ∧ n / dayMicroseconds ≤ dayLimit

instance (n : Int) : Decidable (IsSpan n) :=
  inferInstanceAs (Decidable (_ ∧ _))

/-- A length of time. -/
structure Span where
  microseconds : Int
  isSpan : IsSpan microseconds := by decide
  deriving DecidableEq, Repr

/-- Why a number is no span. -/
inductive SpanError where
  /-- A number of seconds is not a number. -/
  | notANumber
  /-- A number of seconds is infinite. -/
  | infinity
  /-- There are too many days, and their number is beyond 32 bits. -/
  | daysTooLarge
  /-- There are too many days. -/
  | days (n : Int)
  deriving DecidableEq, Repr

namespace SpanError

/-- The wording of the error. -/
def message : SpanError → String
  | .notANumber => ConversionError.message .notANumber
  | .infinity => ConversionError.message .infinity
  | .daysTooLarge => "Python int too large to convert to C int"
  | .days n => "days=" ++ toString n ++ "; must have magnitude <= 999999999"

end SpanError

/-- A machine number of seconds in microseconds: the fraction is scaled and
rounded as a machine number, and then to the nearest whole number, a half to
the even one. -/
def microsecondsOfSeconds (q : Rat) : Int :=
  let whole := roundToward q
  roundEven (whole * 1000000 + roundBinary ((q - whole) * 1000000))

namespace Span

/-- The span of a number of microseconds. -/
def ofMicroseconds? (n : Int) : Except SpanError Span :=
  if h : IsSpan n then .ok ⟨n, h⟩
  else
    let days := n / dayMicroseconds
    if days < -2147483648 ∨ 2147483647 < days then .error .daysTooLarge
    else .error (.days days)

theorem ofMicroseconds?_eq_ok_iff {n : Int} {s : Span} :
    ofMicroseconds? n = .ok s ↔ s.microseconds = n := by
  unfold ofMicroseconds?
  by_cases h : IsSpan n
  · cases s
    simp [h, eq_comm]
  · have : s.microseconds ≠ n := fun e => h (e ▸ s.isSpan)
    simp only [h, dite_false, this, iff_false]
    split <;> simp

/-- The span of a number of seconds. -/
def ofSeconds? : Binary64 → Except SpanError Span
  | .finite q => ofMicroseconds? (microsecondsOfSeconds q)
  | .negativeZero => ofMicroseconds? 0
  | .infinite _ => .error .infinity
  | .nan => .error .notANumber

/-- One minute. -/
def minute : Span := ⟨60000000, by decide⟩

/-- The sum of two spans. -/
def add? (s t : Span) : Except SpanError Span :=
  ofMicroseconds? (s.microseconds + t.microseconds)

/-- The length in nanoseconds. -/
def nanoseconds (s : Span) : Int := s.microseconds * 1000

/-- The length in seconds, rounded to a machine number. -/
def seconds (s : Span) : Rat := roundBinary (s.microseconds / 1000000)

/-- The text of a span: days if there are any, hours, minutes and seconds, and
microseconds if there are any. Of a negative span the days alone are negative. -/
def toText (s : Span) : String :=
  let days := s.microseconds / dayMicroseconds
  let rest := s.microseconds % dayMicroseconds
  let second := rest / 1000000
  let fraction := rest % 1000000
  let dayText :=
    if days = 0 then ""
    else toString days ++ (if days.natAbs = 1 then " day, " else " days, ")
  let fractionText := if fraction = 0 then "" else "." ++ Text.zeroPadded 6 fraction
  dayText ++ toString (second / 3600) ++ ":" ++ Text.zeroPadded 2 (second / 60 % 60)
    ++ ":" ++ Text.zeroPadded 2 (second % 60) ++ fractionText

end Span

end RateLimit
