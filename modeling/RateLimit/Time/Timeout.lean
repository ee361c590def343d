import RateLimit.Number.Binary64

/-!
# Timeouts

A `Timeout` says how many seconds a reply is waited for. One that is not positive is up
at once, and one that is too large to be added to the time cannot be waited for: the
two are told apart by `isUp` and `seconds?`.
-/

namespace RateLimit

open Number (Binary64 ConversionError)

/-- How long a reply is waited for. -/
inductive Timeout where
  | seconds (x : Binary64)
  /-- An integer of seconds that is larger than all machine numbers, or less. -/
  | beyond (negative : Bool)
  deriving DecidableEq, Repr, Inhabited

namespace Timeout

/-- The timeout of an integer of seconds. -/
def ofInt (n : Int) : Timeout :=
  match Binary64.ofInt? n with
  | some x => .seconds x
  | none => .beyond (decide (n < 0))

/-- Whether a timeout is up before anything is sent. -/
def isUp : Timeout → Bool
  | .seconds x => x.leInt 0
  | .beyond negative => negative

/-- The timeout as a machine number. -/
def seconds? : Timeout → Except ConversionError Binary64
  | .seconds x => .ok x
  | .beyond _ => .error .integerTooLarge

/-- A timeout, or the fallback if none or zero is given. -/
def orSeconds (given : Option Timeout) (fallback : Binary64) : Timeout :=
  match given with
  | some (.seconds x) => .seconds (if x.isZero then fallback else x)
  | some timeout => timeout
  | none => .seconds fallback

end Timeout

end RateLimit
