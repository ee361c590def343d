import RateLimit.Http.Handler

/-!
# Guards

A `Guard` applies one policy to every request but those on exempt paths. A denied
request goes no further. The response to any other gets the header fields of the
guard, unless a limit further inside has put its own there.
-/

namespace RateLimit.Http

/-- A limit on every request. -/
structure Guard where
  policyName : String
  strategy : Strategy := .ip
  exempt : List String := ["/health"]
  deriving DecidableEq, Repr

namespace Guard

/-- A guard as the settings want it. -/
def ofSettings (s : Settings) (policyName : Option String) (byUser : Option Bool)
    (exempt : List String) : Guard where
  policyName := (policyName.filter (· ≠ "")).getD s.defaultPolicy
  strategy := if byUser.getD s.byUser then .user else .ip
  exempt := exempt

/-- The guard of a whole application. -/
def general (s : Settings) : Guard := ofSettings s none none ["/health"]

end Guard

/-- The caller of a request, as a limiter sees it. -/
def callerOf (l : Limiter) (request : Request) : Act Caller := do
  return request.caller (l.trust.getD (← get).settings.trustForwarded)

/-- Whether a limit has put its header fields on a response. -/
def Response.isStamped (r : Response) : Bool := (r.header? "X-RateLimit-Limit").isSome

/-- Puts header fields on a response without those of a limit. -/
def Response.stamp (r : Response) (headers : Headers) : Response :=
  if r.isStamped then r else r.setHeaders headers

/-- Applies a guard to the requests of a handler. -/
def guarded (g : Guard) (l : Limiter) (next : Handler) : Handler := fun request => do
  if g.exempt.contains request.urlPath then next request
  else
    let caller ← serve (callerOf l request)
    match ← serve (l.enforce caller (some g.policyName) g.strategy) with
    | .denied rejection => deny rejection
    | .passed headers => return (← next request).stamp headers

/-- Applies a guard, if there is one. -/
def guardedBy (g : Option Guard) (l : Limiter) (next : Handler) : Handler :=
  match g with
  | some g => guarded g l next
  | none => next

end RateLimit.Http
