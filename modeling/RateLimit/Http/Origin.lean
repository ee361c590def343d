import RateLimit.Http.Handler

/-!
# Requests of other origins

A browser tells from which origin a page sends a request. The response says
whether the origin may read it. Before a request that needs permission the
browser asks for it: such a question is answered here and goes no further.
-/

namespace RateLimit.Http

/-- The methods that other origins may use. -/
def originMethods : List String := ["GET", "POST", "PUT", "DELETE", "OPTIONS", "PATCH"]

/-- The header fields that other origins may read. -/
def exposedHeaders : List String :=
  ["X-Request-ID", "X-RateLimit-Limit", "X-RateLimit-Remaining", "X-RateLimit-Reset",
    "Retry-After"]

/-- Whether an origin is among the allowed ones. -/
def isAllowedOrigin (allowed : List String) (origin : String) : Bool :=
  allowed.contains "*" || allowed.contains origin

/-- The fields that depend on the origin. -/
def originHeaders (allowed : List String) (origin : String) : Headers :=
  if isAllowedOrigin allowed origin then [("access-control-allow-origin", origin)] else []

/-- What a question asks leave for: the origin and the method. -/
def question? (request : Request) : Option (String × String) :=
  if request.method = "OPTIONS" then
    match request.header? "Origin", request.header? "Access-Control-Request-Method" with
    | some origin, some method => some (origin, method)
    | _, _ => none
  else none

/-- What is refused of a question: the origin, the method, and in any case the way
into a private network. -/
def refusals (allowed : List String) (request : Request) (origin method : String) :
    List String :=
  (if isAllowedOrigin allowed origin then [] else ["origin"])
    ++ (if originMethods.contains method then [] else ["method"])
    ++ (if (request.header? "Access-Control-Request-Private-Network").isSome then
          ["private-network"]
        else [])

/-- The answer to a question. -/
def answer (allowed : List String) (request : Request) (origin method : String) :
    Response :=
  let refused := refusals allowed request origin method
  let response :=
    if refused.isEmpty then Response.ofBody 200 (some "text/plain; charset=utf-8") "OK"
    else
      Response.ofBody 400 (some "text/plain; charset=utf-8")
        ("Disallowed CORS " ++ ", ".intercalate refused)
  let asked :=
    match request.header? "Access-Control-Request-Headers" with
    | some names => [("access-control-allow-headers", names)]
    | none => []
  response.setHeaders
    ([("vary", "Origin, Access-Control-Request-Method, Access-Control-Request-Headers, "
          ++ "Access-Control-Request-Private-Network"),
        ("access-control-allow-methods", ", ".intercalate originMethods),
        ("access-control-max-age", "600"),
        ("access-control-allow-credentials", "true")]
      ++ originHeaders allowed origin ++ asked)

/-- The fields of every response to a page of an origin. -/
def sharingHeaders (allowed : List String) (origin : String) : Headers :=
  [("access-control-allow-credentials", "true"),
    ("access-control-expose-headers", ", ".intercalate exposedHeaders)]
    ++ originHeaders allowed origin

/-- Answers questions, and tells on all other responses what the origin may do
with them. -/
def withOrigins (allowed : List String) (next : Handler) : Handler := fun request => do
  match question? request with
  | some (origin, method) => return answer allowed request origin method
  | none =>
    let response ← next request
    let shared :=
      match request.header? "Origin" with
      | some origin => response.setHeaders (sharingHeaders allowed origin)
      | none => response
    return shared.setHeader "vary" "Origin"

end RateLimit.Http
