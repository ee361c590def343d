import RateLimit.Identity
import RateLimit.Replica.Counting

/-!
# The limiter

A `Limiter` ties a registry to the counter. `hit` counts one request of a caller
and logs a denial, `enforce` turns the decision into what happens to the request:
it passes, with header fields or without, or it is denied. `inspect` and `clear`
serve administration and want the exact name of a policy.
-/

namespace RateLimit

open Number (Binary64)

/-- A limiter. `trust` says whether the callers named by a proxy are believed;
left out, the settings decide. -/
structure Limiter where
  registry : Registry
  enabled : Bool := true
  trust : Option Bool := none
  timeout : Timeout

/-- What happens to a request. -/
inductive Verdict where
  /-- It passes, and its response gets header fields. -/
  | passed (headers : Headers)
  /-- It is denied. -/
  | denied (rejection : Rejection)
  deriving Repr

namespace Registry

/-- The record of a policy that was configured. -/
def configuredRecord (p : Policy) : Log.Record where
  level := Log.info
  logger := Replica.policyLogger
  message :=
    "Rate limit policy " ++ Text.quote p.name ++ " configured: " ++ toString p.maxRequests
      ++ " requests / " ++ p.window.toText
  attributes := [("policy", .text p.name)]

/-- The built-in policies overlaid with those of the settings. Every policy that
is configured is logged, up to the first that is refused. -/
def ofSettings : Act Registry := do
  let result := Registry.defaults.configure (← get).settings.overrides
  result.configured.forM fun p => Replica.log (configuredRecord p)
  ExceptT.mk (pure (result.outcome.mapError .policy))

/-- The record of a name that is not in the table. -/
def unknownRecord (name : Option String) : Log.Record where
  level := Log.debug
  logger := Replica.policyLogger
  message :=
    "Unknown rate limit policy " ++ (name.map Text.quote).getD "None" ++ ", using default"
  attributes := [Log.textField "policy" name]

/-- The policy of a name, or the default one. A name that is not in the table is
logged. -/
def find (r : Registry) (name : Option String) : Act Policy := do
  if (r.lookup? name).isNone then Replica.log (unknownRecord name)
  return r.resolve name

/-- The policy of a name, which has to be in the table. -/
def require (r : Registry) (name : Option String) : Act Policy :=
  match name.bind r.get? with
  | some p => return p
  | none => throw (.unknownPolicy name)

end Registry

namespace Limiter

/-- The record of a denial. -/
def deniedRecord (c : Caller) (p : Policy) (key : String) : Log.Record where
  level := Log.warning
  logger := Replica.limiterLogger
  message :=
    "Rate limit exceeded: " ++ toString p.maxRequests ++ " requests / " ++ p.window.toText
  attributes := Log.context [
    ("client_ip", .text c.clientIp), Log.textField "user_id" c.userId,
    ("policy", .text p.name), ("rate_limit_key", .text key), ("path", .text c.path)]

/-- A limiter as the settings want it. -/
def ofSettings (registry : Registry) (enabled trust : Option Bool)
    (timeout : Option Timeout) : Act Limiter := do
  let settings := (← get).settings
  return { registry, trust, enabled := enabled.getD settings.enabled,
           timeout := Timeout.orSeconds timeout settings.storeTimeout }

/-- Counts one request of a caller. There is no decision while the limiter is
disabled. -/
def hit (l : Limiter) (c : Caller) (policyName : Option String) (s : Strategy) :
    Act (Option Decision) := do
  if l.enabled then
    let p ← l.registry.find policyName
    let key := c.key p s
    let decision ← Replica.check l.timeout p key
    if !decision.allowed then Replica.log (deniedRecord c p key)
    return some decision
  else return none

/-- The header fields of a decision. -/
def reportHeaders (d : Decision) : Act Headers :=
  match d.headers with
  | .ok headers => return headers
  | .error e => throw (.conversion e)

/-- Counts one request of a caller and decides what happens to it. -/
def enforce (l : Limiter) (c : Caller) (policyName : Option String) (s : Strategy) :
    Act Verdict := do
  match ← l.hit c policyName s with
  | none => return .passed []
  | some decision =>
    if decision.degraded then return .passed []
    else if decision.allowed then return .passed (← reportHeaders decision)
    else
      match decision.retryAfter (← Replica.now) with
      | .ok seconds => return .denied ⟨decision, seconds⟩
      | .error e => throw (.conversion e)

/-- Counts the requests in the window of an identity. -/
def inspect (l : Limiter) (policyName : Option String) (identity : String) :
    Act WindowStatus := do
  let p ← l.registry.require policyName
  Replica.inspect l.timeout p (p.keyFor identity)

/-- Drops the window of an identity. -/
def clear (l : Limiter) (policyName : Option String) (identity : String) : Act Bool := do
  let p ← l.registry.require policyName
  Replica.clear l.timeout (p.keyPrefix ++ identity)

end Limiter

/-- A limit on a route: the policy and how callers are counted. -/
structure RouteLimit where
  policyName : String
  strategy : Strategy := .ip
  deriving DecidableEq, Repr

namespace RouteLimit

/-- A limit of callers by their address. -/
def byAddress (policyName : String) : RouteLimit := ⟨policyName, .ip⟩

/-- A limit of callers by their user. -/
def byUser (policyName : String) : RouteLimit := ⟨policyName, .user⟩

/-- The limit on registration. -/
def auth : RouteLimit := byAddress "auth"

/-- The limit on costly requests. -/
def strict : RouteLimit := byAddress "strict"

/-- The limit on reports, a daily one for every user. -/
def reports : RouteLimit := byUser "reports"

/-- The limit on attempts to log in, which counts addresses only. -/
def loginAttempts : RouteLimit := ⟨"login", .ip⟩

/-- The name of a limit. -/
def name (l : RouteLimit) : String :=
  "rate_limit_" ++ l.policyName ++ "_" ++ l.strategy.name

end RouteLimit

end RateLimit
