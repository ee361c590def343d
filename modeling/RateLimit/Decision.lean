import RateLimit.Number.Binary64

/-!
# Decisions

A `Decision` is the outcome of one check, a `WindowStatus` what an inspection
finds, and a `Rejection` a denial together with the seconds to wait. Their
header texts need whole seconds, so they fail for a reset time that has no
integer part.
-/

namespace RateLimit

open Number (Binary64 ConversionError)

/-- The outcome of one check. A degraded decision was made without the store. -/
structure Decision where
  allowed : Bool
  limit : Int
  remaining : Int
  resetAt : Binary64
  degraded : Bool := false
  deriving DecidableEq, Repr

/-- Names and texts of header fields. -/
abbrev Headers := List (String × String)

namespace Decision

/-- The header fields that report a decision. -/
def headers (d : Decision) : Except ConversionError Headers :=
  d.resetAt.toInt?.map fun reset =>
    [("X-RateLimit-Limit", toString d.limit),
      ("X-RateLimit-Remaining", toString d.remaining),
      ("X-RateLimit-Reset", toString reset)]

theorem headers_eq_ok_iff {d : Decision} {headers : Headers} : d.headers = .ok headers ↔
    ∃ reset, d.resetAt.toInt? = .ok reset ∧
      headers = [("X-RateLimit-Limit", toString d.limit),
        ("X-RateLimit-Remaining", toString d.remaining),
        ("X-RateLimit-Reset", toString reset)] := by
  unfold Decision.headers
  cases d.resetAt.toInt? <;> simp [Except.map, eq_comm]

/-- Whole seconds from a time until the reset, rounded up and never negative. -/
def retryAfter (d : Decision) (now : Binary64) : Except ConversionError Int :=
  (d.resetAt.sub now).ceil?.map (max 0)

end Decision

/-- What an inspection finds in a window. -/
structure WindowStatus where
  currentCount : Int
  resetAt : Binary64
  deriving DecidableEq, Repr

/-- A denied request. -/
structure Rejection where
  decision : Decision
  retryAfter : Int
  deriving DecidableEq, Repr

namespace Rejection

/-- What a denied caller is told. -/
def message : String := "Rate limit exceeded. Please try again later."

/-- The header fields of a denial. -/
def headers (r : Rejection) : Except ConversionError Headers :=
  r.decision.headers.map (· ++ [("Retry-After", toString r.retryAfter)])

end Rejection

end RateLimit
