import RateLimit.Decision
import RateLimit.Json.Reader
import RateLimit.Policy
import RateLimit.Store.Address
import RateLimit.Store.Reply
import RateLimit.Time.Calendar

/-!
# Faults

A `Fault` is whatever stops an operation. Its `message` and the `name` of its
kind stand in log lines and in answers. `isStoreFault` singles out the faults
that mean that the store could not be reached: a check lets the request pass on
any fault, but only these are expected.
-/

namespace RateLimit

open Number (ConversionError)

/-- What stops an operation. -/
inductive Fault where
  /-- The client of the store reports a failure of the given kind. -/
  | client (kind message : String)
  /-- The operating system reports a failure. -/
  | system (message : String)
  /-- The operating system reports that nothing listens. -/
  | refused (message : String)
  /-- An answer did not come in time. -/
  | timeout (message : String)
  /-- A failure while running. -/
  | runtime (message : String)
  /-- A value that could not be used. -/
  | invalid (message : String)
  /-- A number could not be converted. -/
  | conversion (cause : ConversionError)
  /-- A length of time could not be represented. -/
  | span (cause : SpanError)
  /-- A time has no date. -/
  | date (cause : DateError)
  /-- The reply of the store holds no count. -/
  | reply (cause : ReplyError)
  /-- A text is no JSON value. -/
  | json (cause : JsonError)
  /-- There is no such policy. -/
  | policy (cause : PolicyError)
  /-- The URL of the store is no address. -/
  | address (cause : AddressError)
  /-- No policy has the name; `none` stands for a missing name. -/
  | unknownPolicy (name : Option String)
  /-- A value of the name is missing. -/
  | missing (name : String)
  /-- A value of the kind has nothing of the name. -/
  | noAttribute (kind name : String)
  /-- A value names no strategy. -/
  | unknownStrategy (name : Json)
  /-- Logging cannot be set up with the level in the settings. -/
  | logLevel
  /-- The store failed an administrative operation on a key. -/
  | unavailable (key : String) (cause : Option Fault)
  /-- A failure of the rate limiter. -/
  | limiter (message : String)
  /-- A caller is over its quota. -/
  | exceeded (rejection : Rejection)
  /-- An answer that is given by raising it: its status, what its body tells, and its header
  fields. -/
  | http (status : Nat) (detail : Json) (headers : Headers)
  deriving Repr, Inhabited

namespace Fault

/-- The kind of a conversion error. -/
def conversionName : ConversionError → String
  | .notANumber => "ValueError"
  | _ => "OverflowError"

/-- The kind of an error about a length of time. -/
def spanName : SpanError → String
  | .notANumber => "ValueError"
  | _ => "OverflowError"

/-- The kind of an error about a date. -/
def dateName : DateError → String
  | .notANumber => "ValueError"
  | .beyondClock => "OverflowError"
  | .beyondCalendar => "OSError"
  | .longYear => "OverflowError"
  | .year _ => "ValueError"

/-- The kind of an error about an item of a value. -/
def itemName : ItemError → String
  | .noItems _ => "TypeError"
  | .shortList => "IndexError"
  | .shortText => "IndexError"
  | .noPosition _ => "KeyError"

/-- The kind of an error about a reply. -/
def replyName : ReplyError → String
  | .item cause => itemName cause
  | .badText _ => "ValueError"
  | .longText _ => "ValueError"
  | .badKind _ => "TypeError"
  | .badNumber cause => conversionName cause

/-- The kind of an error about a JSON text. -/
def jsonName : JsonError → String
  | .malformed => "ValueError"
  | .longInteger _ => "ValueError"
  | .deepArray => "RecursionError"
  | .deepObject => "RecursionError"

/-- The name of the kind of a fault. -/
def name : Fault → String
  | .client kind _ => kind
  | .system _ => "OSError"
  | .refused _ => "ConnectionRefusedError"
  | .timeout _ => "TimeoutError"
  | .runtime _ => "RuntimeError"
  | .invalid _ => "ValueError"
  | .conversion cause => conversionName cause
  | .span cause => spanName cause
  | .date cause => dateName cause
  | .reply cause => replyName cause
  | .json cause => jsonName cause
  | .policy (.window cause) => spanName cause
  | .policy _ => "ValueError"
  | .address .credentials => "IndexError"
  | .address (.reserved _) => "TypeError"
  | .address _ => "ValueError"
  | .unknownPolicy _ => "KeyError"
  | .missing _ => "KeyError"
  | .noAttribute _ _ => "AttributeError"
  | .unknownStrategy _ => "ValueError"
  | .logLevel => "ValueError"
  | .unavailable _ _ => "StoreUnavailableError"
  | .limiter _ => "WindowGuardException"
  | .exceeded _ => "RateLimitExceededError"
  | .http _ _ _ => "HTTPException"

/-- The wording of a fault. -/
def message : Fault → String
  | .client _ text => text
  | .system text => text
  | .refused text => "[Errno 111] " ++ text
  | .timeout text => text
  | .runtime text => text
  | .invalid text => text
  | .conversion cause => cause.message
  | .span cause => cause.message
  | .date cause => cause.message
  | .reply cause => cause.message
  | .json cause => cause.message
  | .policy cause => cause.message
  | .address cause => cause.message
  | .unknownPolicy name => (name.map Text.quote).getD "None"
  | .missing name => Text.quote name
  | .noAttribute kind name =>
    Text.quote kind ++ " object has no attribute " ++ Text.quote name
  | .unknownStrategy name => name.quoted ++ " is not a valid KeyStrategy"
  | .logLevel => "Unable to configure logger 'windowguard'"
  | .unavailable key cause =>
    "Rate limit store unavailable for key " ++ Text.quote key
      ++ match cause with
        | some fault => ": " ++ fault.message
        | none => ""
  | .limiter text => text
  | .exceeded _ => Rejection.message
  | .http status detail _ => toString status ++ ": " ++ detail.display

/-- The name of a fault with the module that it belongs to. -/
def fullName (f : Fault) : String :=
  match f with
  | .client kind _ => "redis.exceptions." ++ kind
  | .unavailable _ _ => "windowguard.app.exceptions." ++ f.name
  | .limiter _ => "windowguard.app.exceptions." ++ f.name
  | .exceeded _ => "windowguard.app.exceptions." ++ f.name
  | .http _ _ _ => "fastapi.exceptions." ++ f.name
  | f => f.name

/-- The kinds of failures that the client of the store reports of a whole cluster of
stores. They do not mean that the store could not be reached. -/
def clusterKinds : List String :=
  ["RedisClusterException", "SlotNotCoveredError", "CrossSlotTransactionError",
    "InvalidPipelineStack"]

/-- Whether a fault means that the store could not be reached. -/
def isStoreFault : Fault → Bool
  | .client kind _ => !clusterKinds.contains kind
  | .system _ => true
  | .refused _ => true
  | .timeout _ => true
  | _ => false

/-- The status of the response to a fault. -/
def status : Fault → Nat
  | .unavailable _ _ => 503
  | .exceeded _ => 429
  | .http status _ _ => status
  | _ => 500

/-- What a fault of the rate limiter says when nothing is known. -/
def defaultMessage : String := "Rate limiter error"

end Fault

end RateLimit
