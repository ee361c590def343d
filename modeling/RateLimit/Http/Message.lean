import RateLimit.Json.Writer
import RateLimit.Limiter
import RateLimit.Url.Basic
import RateLimit.Url.Query

/-!
# Requests and responses

A `Request` is what the service learns of one request; the names of its header
fields are read in any case, and of several fields with one name the first
counts. A `Response` holds its header fields under names in lower case, each name
once: `setHeader` replaces a field or adds it.
-/

namespace RateLimit.Http

/-- One request. `user` is what an authentication left behind, and `id` the id
that the request was given. -/
structure Request where
  method : String := "GET"
  path : String := "/"
  query : String := ""
  headers : Headers := []
  peer : Option String := none
  user : Option Json := none
  id : Option String := none
  deriving Repr, Inhabited

/-- One response. -/
structure Response where
  status : Nat
  headers : Headers := []
  body : String := ""
  deriving DecidableEq, Repr, Inhabited

namespace Request

/-- The first header field of a name. -/
def header? (r : Request) (name : String) : Option String :=
  (r.headers.find? fun h => h.1.toLower = name.toLower).map (·.2)

/-- The path as part of a URL. Three characters would mean something else there,
tabs and line breaks are dropped, and a path begins with a slash. -/
def urlPath (r : Request) : String :=
  let escaped := r.path.toList.flatMap fun c =>
    if c = '?' then "%3F".toList
    else if c = '#' then "%23".toList
    else if c = '\\' then "%5C".toList
    else if Url.isDropped c then []
    else [c]
  match r.path.toList with
  | [] => ""
  | '/' :: _ => String.ofList escaped
  | _ => String.ofList ('/' :: escaped)

/-- The last value of a name in the query. A query is read byte by byte, so what it
holds beyond ASCII should have been escaped. -/
def parameter? (r : Request) (name : String) : Option String :=
  let fields := Url.Query.read true (Text.byteChars r.query.toList)
  (fields.reverse.find? (·.1 = name)).map (·.2)

/-- Whether a character may stand in the name of a host. -/
def isHostChar (c : Char) : Bool := c.isAlphanum || "-._~%!$&'()*+,;=".toList.contains c

/-- Whether a character may stand between brackets. -/
def isAddressChar (c : Char) : Bool := c = ':' || (isHostChar c && c ≠ '%')

/-- Nothing, or a colon and digits. -/
def isPortPart (cs : List Char) : Bool :=
  match cs with
  | [] => true
  | ':' :: digits => !digits.isEmpty && digits.all Char.isDigit
  | _ => false

/-- Whether a text is written like a host, perhaps with a port. -/
def isHostForm (cs : List Char) : Bool :=
  match cs with
  | '[' :: rest =>
    match Text.splitFirst (· = ']') rest with
    | (address, some port) => address.all isAddressChar && isPortPart port
    | (_, none) => false
  | cs => (cs.head?.any isHostChar) && isPortPart (cs.dropWhile isHostChar)

/-- Whether a text is a host, perhaps with a port: what it says has to be an address,
if it stands between brackets, and a port in range. -/
def isHost (cs : List Char) : Bool :=
  isHostForm cs && ((Url.read? (String.ofList ('/' :: '/' :: cs))).bind Url.port?).isOk

/-- Where a service is found that is not called by a name. -/
def defaultHost : String := "testserver"

/-- The host that a request calls the service by, if it is one. -/
def host (r : Request) : String :=
  ((r.header? "Host").filter fun h => isHost h.toList).getD defaultHost

/-- The address that a proxy names first, if it names one. -/
def forwardedFor? (r : Request) : Option String :=
  match r.header? "X-Forwarded-For" with
  | none => none
  | some hops =>
    let first := Text.strip (String.ofList (hops.toList.takeWhile (· ≠ ',')))
    if first = "" then none else some first

/-- Who sent a request. The address that a proxy names counts only when proxies
are trusted. -/
def caller (r : Request) (trust : Bool) : Caller :=
  let peer := r.peer.getD Caller.unknown
  { clientIp := if trust then r.forwardedFor?.getD peer else peer
    userId :=
      match r.user with
      | none => none
      | some .null => none
      | some user => some user.display
    path := r.urlPath }

/-- The id of a request, for those who ask for it. -/
def idOrUnknown (r : Request) : String := r.id.getD "unknown"

end Request

namespace Response

/-- A header field. -/
def header? (r : Response) (name : String) : Option String :=
  Table.get? r.headers name.toLower

/-- Replaces a header field or adds it. -/
def setHeader (r : Response) (name value : String) : Response :=
  { r with headers := Table.put name.toLower value r.headers }

/-- Replaces or adds header fields. -/
def setHeaders (r : Response) (headers : Headers) : Response :=
  headers.foldl (fun r h => r.setHeader h.1 h.2) r

@[simp] theorem header?_setHeader_self (r : Response) (name value : String) :
    (r.setHeader name value).header? name = some value := by
  simp [header?, setHeader]

theorem header?_setHeader_of_ne {r : Response} {name other value : String}
    (h : other.toLower ≠ name.toLower) :
    (r.setHeader name value).header? other = r.header? other := by
  simp [header?, setHeader, Table.get?_put_of_ne h]

/-- A response with a body of the given kind. -/
def ofBody (status : Nat) (kind : Option String) (body : String) : Response :=
  let sized : Headers := [("content-length", toString body.utf8ByteSize)]
  { status, body, headers := sized ++ (kind.map fun k => ("content-type", k)).toList }

/-- A response with a JSON body. -/
def json (status : Nat) (value : Json) : Response :=
  ofBody status (some "application/json") (Json.body value)

/-- The members of a body that reports a failure. -/
def failureMembers (message : String) (error : Json) : List (String × Json) :=
  [("success", .bool false), ("message", .string message), ("error", error)]

/-- The response to a denied request, without the header fields of the denial. -/
def denial : Response := json 429 (.object (failureMembers Rejection.message .null))

/-- The response to a denied request. -/
def ofRejection (r : Rejection) : Except Number.ConversionError Response :=
  r.headers.map denial.setHeaders

end Response

end RateLimit.Http
