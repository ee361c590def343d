import RateLimit.Json.Reader

/-!
# Issues

An `Issue` is one thing that is wrong with a set of settings, and where. A
`Checked` value is a value or the list of all its issues: putting two checked
values together keeps the issues of both, in order.
-/

namespace RateLimit

/-- What can be wrong with a setting. -/
inductive IssueKind where
  /-- A text that is no truth value. -/
  | boolText
  /-- Something that is no truth value. -/
  | boolKind
  /-- A text that is no number. -/
  | numberText
  /-- Something that is no number. -/
  | numberKind
  /-- A text that is no integer. -/
  | integerText
  /-- A number with a fraction in place of an integer. -/
  | integerFraction
  /-- A number that is too large for an integer, or an integer that is too long. -/
  | integerSize
  /-- A machine number without a value in place of an integer. -/
  | integerInfinite
  /-- Something that is no integer. -/
  | integerKind
  /-- Something that is no text. -/
  | textKind
  /-- A text with a half of a character in it. -/
  | textBroken
  /-- Something that is no table. -/
  | tableKind
  /-- Something that is no override. -/
  | overrideKind
  /-- A name that is not known. -/
  | unknownName
  /-- A timeout that is not positive. -/
  | timeoutSign
  /-- A timeout of the store that is too long. -/
  | timeoutLength
  /-- A log format that is not known. -/
  | logFormat
  /-- A text of origins that cannot be read. -/
  | origins (cause : JsonError)
  deriving DecidableEq, Repr

namespace IssueKind

/-- The short name of a kind of issue. -/
def code : IssueKind → String
  | .boolText => "bool_parsing"
  | .boolKind => "bool_type"
  | .numberText => "float_parsing"
  | .numberKind => "float_type"
  | .integerText => "int_parsing"
  | .integerFraction => "int_from_float"
  | .integerSize => "int_parsing_size"
  | .integerInfinite => "finite_number"
  | .integerKind => "int_type"
  | .textKind => "string_type"
  | .textBroken => "string_unicode"
  | .tableKind => "dict_type"
  | .overrideKind => "model_type"
  | .unknownName => "extra_forbidden"
  | .timeoutSign => "value_error"
  | .timeoutLength => "value_error"
  | .logFormat => "value_error"
  | .origins _ => "value_error"

/-- The wording of a kind of issue. -/
def message : IssueKind → String
  | .boolText => "Input should be a valid boolean, unable to interpret input"
  | .boolKind => "Input should be a valid boolean"
  | .numberText => "Input should be a valid number, unable to parse string as a number"
  | .numberKind => "Input should be a valid number"
  | .integerText => "Input should be a valid integer, unable to parse string as an integer"
  | .integerFraction =>
    "Input should be a valid integer, got a number with a fractional part"
  | .integerSize => "Unable to parse input string as an integer, exceeded maximum size"
  | .integerInfinite => "Input should be a finite number"
  | .integerKind => "Input should be a valid integer"
  | .textKind => "Input should be a valid string"
  | .textBroken =>
    "Input should be a valid string, unable to parse raw data as a unicode string"
  | .tableKind => "Input should be a valid dictionary"
  | .overrideKind => "Input should be a valid dictionary or instance of PolicyOverride"
  | .unknownName => "Extra inputs are not permitted"
  | .timeoutSign => "Value error, Timeout values must be positive"
  | .timeoutLength =>
    "Value error, rate_limit_store_timeout should not exceed 10 seconds"
  | .logFormat => "Value error, log_format must be one of: text, json"
  | .origins cause => "Value error, " ++ cause.message

end IssueKind

/-- One thing that is wrong, and where: the names that lead to it. -/
structure Issue where
  place : List String
  kind : IssueKind
  deriving DecidableEq, Repr

/-- A value, or all that is wrong with it. -/
inductive Checked (α : Type) where
  | valid (value : α)
  | invalid (issues : List Issue)
  deriving Repr

namespace Checked

variable {α β : Type}

/-- Applies a function to a checked value. -/
def map (f : α → β) : Checked α → Checked β
  | .valid a => .valid (f a)
  | .invalid issues => .invalid issues

/-- Applies a checked function, and keeps the issues of both sides. -/
def seq (f : Checked (α → β)) (x : Checked α) : Checked β :=
  match f, x with
  | .valid f, .valid a => .valid (f a)
  | .valid _, .invalid issues => .invalid issues
  | .invalid issues, .valid _ => .invalid issues
  | .invalid first, .invalid second => .invalid (first ++ second)

instance : Applicative Checked where
  pure := .valid
  map := map
  seq f x := seq f (x ())

theorem seq_eq_valid_iff {f : Checked (α → β)} {x : Checked α} {b : β} :
    f <*> x = .valid b ↔ ∃ g a, f = .valid g ∧ x = .valid a ∧ g a = b := by
  show seq f x = .valid b ↔ _
  cases f <;> cases x <;> simp [seq]

theorem map_eq_valid_iff {f : α → β} {x : Checked α} {b : β} :
    f <$> x = .valid b ↔ ∃ a, x = .valid a ∧ f a = b := by
  show map f x = .valid b ↔ _
  cases x <;> simp [map]

/-- A value that was read at one place. -/
def ofExcept (place : List String) : Except IssueKind α → Checked α
  | .ok a => .valid a
  | .error kind => .invalid [⟨place, kind⟩]

/-- The value, or the issues as a failure. -/
def toExcept : Checked α → Except (List Issue) α
  | .valid a => .ok a
  | .invalid issues => .error issues

end Checked

end RateLimit
