import RateLimit.Json.Value
import RateLimit.Time.Span

/-!
# Values in the log

What is attached to a record is a `Value`: a JSON value, or a length of time. Both
have a text, `display`, a form in which they stand inside other texts, `quoted`, and
a JSON value that is `written` in their place.
-/

namespace RateLimit

namespace Span

/-- The parts of a span that are not zero, each with its name. -/
def namedParts (s : Span) : List (String × Int) :=
  let rest := s.microseconds % dayMicroseconds
  [("days", s.microseconds / dayMicroseconds), ("seconds", rest / 1000000),
    ("microseconds", rest % 1000000)].filter (·.2 ≠ 0)

/-- A span inside other texts: its parts by name. -/
def quoted (s : Span) : String :=
  let parts := s.namedParts.map fun part => part.1 ++ "=" ++ toString part.2
  "datetime.timedelta(" ++ (if parts.isEmpty then "0" else ", ".intercalate parts) ++ ")"

end Span

namespace Log

/-- A value that is attached to a record. -/
inductive Value where
  | json (v : Json)
  | span (s : Span)
  deriving Repr, Inhabited

namespace Value

/-- A text. -/
@[match_pattern] abbrev text (s : String) : Value := .json (.string s)

/-- Nothing. -/
@[match_pattern] abbrev null : Value := .json .null

/-- Whether a value is null. -/
def isNull : Value → Bool
  | .json .null => true
  | _ => false

/-- Whether a value counts as set. -/
def isSet : Value → Bool
  | .json v => v.isSet
  | .span s => s.microseconds ≠ 0

/-- The name of the kind of a value in error texts. -/
def kindName : Value → String
  | .json v => v.kindName
  | .span _ => "datetime.timedelta"

/-- The text of a value. -/
def display : Value → String
  | .json v => v.display
  | .span s => s.toText

/-- The text of a value inside other texts. -/
def quoted : Value → String
  | .json v => v.quoted
  | .span s => s.quoted

/-- The JSON value that is written for a value. -/
def written : Value → Json
  | .json v => v
  | .span s => .string s.toText

theorem isNull_eq_true_iff {v : Value} : v.isNull = true ↔ v = .null := by
  unfold isNull
  split <;> simp_all

end Value

end Log

end RateLimit
