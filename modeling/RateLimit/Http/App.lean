import RateLimit.Http.Origin
import RateLimit.Http.Route

/-!
# The application

An `App` is a limiter, the routes, and the layers around them. From outside a
request meets the answer to crashes, a guard if one was put there, the rules for
other origins, the request id, the general guard, and the answer to faults of
which a response is made.
-/

namespace RateLimit.Http

/-- An application. `usesProcessClient` says whether it works with the client of
the process, which it then closes when it ends. -/
structure App where
  limiter : Limiter
  outerGuard : Option Guard := none
  guard : Option Guard := none
  routes : List Route := []
  usesProcessClient : Bool := false

/-- Tells whether the store answers. It always succeeds, since requests are
served without the store, too. -/
def health : Route where
  methods := ["GET"]
  path := "/health"
  endpoint := fun _ _ => do
    let fault ← Replica.ping
    let status := if fault.isNone then "ok" else "degraded"
    return .json 200 (.object [
      ("status", .string status),
      ("components", .object [("redis", Replica.statusReport fault)])])

/-- The paths under which the service describes itself. -/
def descriptionPaths : List String :=
  ["/openapi.json", "/docs", "/docs/oauth2-redirect", "/redoc"]

/-- A page under which the service describes itself. -/
def description (path : String) : Route where
  methods := ["GET", "HEAD"]
  path := path
  endpoint := fun _ _ => return .ofBody 200 (some "text/html; charset=utf-8") ""

namespace App

/-- Builds an application. The policies come from the settings unless they are
given, and the log has to be configured. -/
def create (registry : Option Registry) (general : Bool) (routes : List Route)
    (usesProcessClient : Bool) : Act App := do
  let settings := (← get).settings
  discard (ExceptT.mk (pure (Log.setUp? settings)))
  let registry ←
    match registry with
    | some registry => pure registry
    | none => Registry.ofSettings
  let limiter ← Limiter.ofSettings registry none none none
  return { limiter, usesProcessClient,
           routes := descriptionPaths.map description ++ health :: routes,
           guard := if general then some (Guard.general settings) else none }

/-- The layers around the routes that may crash. -/
def handler (app : App) (origins : List String) : Handler :=
  guardedBy app.outerGuard app.limiter <|
    withOrigins origins <|
      withRequestId <|
        guardedBy app.guard app.limiter <|
          answerFaults <|
            route app.routes app.limiter

/-- Serves one request. -/
def respond (app : App) (request : Request) : StateM Replica Response := do
  let origins := (← get).settings.origins
  answerCrashes (app.handler origins) request

/-- The record of a complete start. -/
def startRecord (app : App) : Log.Record where
  level := Log.info
  logger := Replica.appLogger
  message :=
    "Application startup complete: rate limiting "
      ++ (if app.limiter.enabled then "enabled" else "disabled") ++ ", policies "
      ++ (Json.array (app.limiter.registry.names.map .string)).display

/-- The record of a complete end. -/
def endRecord : Log.Record where
  level := Log.info
  logger := Replica.appLogger
  message := "Application shutdown complete"

/-- The start of an application. -/
def start (app : App) : Act Unit := Replica.log app.startRecord

/-- The end of an application. -/
def finish (app : App) : Act Unit := do
  if app.usesProcessClient then Replica.closeProcessClient
  Replica.log endRecord

end App

end RateLimit.Http
