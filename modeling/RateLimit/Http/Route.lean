import RateLimit.Http.Guard

/-!
# Routes

A `Route` is the methods, a path, the limits on it, and an endpoint. The limits are
applied in order, each with a check of its own, until one denies the request;
the header fields of a later limit replace those of an earlier one. The endpoint
runs only if no limit denied the request.
-/

namespace RateLimit.Http

/-- A place that requests can be sent to, with one of its methods. -/
structure Route where
  methods : List String
  path : String
  limits : List RouteLimit := []
  endpoint : Limiter → Request → Act Response

namespace Route

/-- Whether a path leads to a route. One line break at its end does not count. -/
def accepts (route : Route) (path : String) : Bool :=
  path = route.path || path = route.path ++ "\n"

/-- Applies limits one after the other, after the header fields collected so
far. -/
def applyLimits (l : Limiter) (caller : Caller) (collected : Table String) :
    List RouteLimit → Act Verdict
  | [] => return .passed collected
  | limit :: rest => do
    match ← l.enforce caller (some limit.policyName) limit.strategy with
    | .denied rejection => return .denied rejection
    | .passed headers =>
      applyLimits l caller (headers.foldl (fun t h => Table.put h.1 h.2 t) collected) rest

/-- Serves a request on a route. -/
def handle (route : Route) (l : Limiter) : Handler := fun request => do
  let caller ← serve (callerOf l request)
  match ← serve (applyLimits l caller [] route.limits) with
  | .denied rejection => deny rejection
  | .passed headers => return (← serve (route.endpoint l request)).setHeaders headers

end Route

/-- The body of a response without more to say than its status. -/
def detail (status : Nat) (text : String) : Response :=
  .json status (.object [("detail", .string text)])

/-- The response to a request for an unknown path. -/
def notFound : Response := detail 404 "Not Found"

/-- The response to a request with a wrong method. -/
def wrongMethod (allowed : List String) : Response :=
  (detail 405 "Method Not Allowed").setHeader "allow" (", ".intercalate allowed)

/-- A path without slashes at its end. -/
def withoutSlashes (path : String) : String :=
  String.ofList (path.toList.reverse.dropWhile (· = '/')).reverse

/-- The response that sends a caller to another path of the same host. -/
def redirect (host path query : String) : Response :=
  let target := "http://" ++ host ++ path ++ (if query = "" then "" else "?" ++ query)
  (Response.ofBody 307 none "").setHeader "location" (Text.escape target)

/-- What a request finds among the routes. -/
inductive Destination where
  | route (r : Route)
  | wrongMethod (allowed : List String)
  | redirect (path : String)
  | nowhere

/-- Finds where a request goes: to the route with its path and method; to the
first route with its path, which refuses the method; or, if its path ends in a
slash, to the path without it. -/
def destination (routes : List Route) (method path : String) : Destination :=
  let here := routes.filter (·.accepts path)
  match here.find? (·.methods.contains method), here with
  | some r, _ => .route r
  | none, r :: _ => .wrongMethod r.methods
  | none, [] =>
    let shorter := withoutSlashes path
    if path ≠ "/" ∧ shorter ≠ path ∧ routes.any (·.accepts shorter) then .redirect shorter
    else .nowhere

/-- Serves a request on the routes. -/
def route (routes : List Route) (l : Limiter) : Handler := fun request =>
  match destination routes request.method request.path with
  | .route r => r.handle l request
  | .wrongMethod allowed => return wrongMethod allowed
  | .redirect path => return redirect request.host path request.query
  | .nowhere => return notFound

end RateLimit.Http
