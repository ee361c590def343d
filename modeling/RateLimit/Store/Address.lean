import RateLimit.Table
import RateLimit.Text.Real
import RateLimit.Url.Basic
import RateLimit.Url.Query

/-!
# Addresses of the store

`Address.read?` takes the URL of a store apart: how to connect, the host and
port or the path of a socket, the number of the database, and the credentials.
What a URL leaves out is `none`.

The query of a URL may set more, `Options`: some options are read as numbers, all
others are texts. A part of the URL itself wins over an option of the same name.
`redact?` is the form of a URL that may be logged.
-/

namespace RateLimit

open Number (Binary64)

open Text (splitFirst)

/-- How the store is reached. -/
inductive Transport where
  | plain
  | encrypted
  | socket
  deriving DecidableEq, Repr

/-- A port. One that an option sets is a text, whatever it says. -/
inductive Port where
  | number (n : Nat)
  | text (s : String)
  deriving DecidableEq, Repr

/-- The text of a port. -/
def Port.toText : Port → String
  | .number n => toString n
  | .text s => s

/-- What the query of a URL sets. -/
structure Options where
  database : Option Int := none
  socketTimeout : Option Binary64 := none
  connectTimeout : Option Binary64 := none
  maxConnections : Option Int := none
  texts : Table String := []
  deriving DecidableEq, Repr

/-- The parts of the URL of a store. Timeouts are in seconds. -/
structure Address where
  transport : Transport
  host : Option String := none
  port : Option Port := none
  database : Option Int := none
  username : Option String := none
  password : Option String := none
  path : Option String := none
  options : Options := {}
  deriving DecidableEq, Repr

/-- Why a URL is no address. -/
inductive AddressError where
  /-- The text is no URL. -/
  | url (cause : UrlError)
  /-- The URL does not begin with a known scheme. -/
  | scheme
  /-- An option has a value that cannot be read. -/
  | option (name : String)
  /-- An option has the name of what the options are for. -/
  | reserved (name : String)
  /-- The number of connections is negative. -/
  | connections
  /-- There are credentials, but not after a scheme. -/
  | credentials
  deriving DecidableEq, Repr

/-- The wording of the error. -/
def AddressError.message : AddressError → String
  | .url cause => cause.message
  | .scheme =>
    "Redis URL must specify one of the following schemes (redis://, rediss://, unix://)"
  | .option name => "Invalid value for '" ++ name ++ "' in connection URL."
  | .reserved name =>
    "ConnectionPool.__init__() got multiple values for argument " ++ Text.quote name
  | .connections => "\"max_connections\" must be a positive integer"
  | .credentials => "list index out of range"

namespace Options

/-- The value of an option that is an integer. -/
def integer? (name value : String) : Except AddressError Int :=
  (Text.readInteger? value).mapError fun _ => .option name

/-- The value of an option that is a machine number. -/
def number? (name value : String) : Except AddressError Binary64 :=
  match Text.readNumber? value with
  | some x => .ok x
  | none => .error (.option name)

/-- The flags that say how a certificate is checked. -/
def checkFlags : List String :=
  ["VERIFY_DEFAULT", "VERIFY_CRL_CHECK_LEAF", "VERIFY_CRL_CHECK_CHAIN", "VERIFY_X509_STRICT",
    "VERIFY_ALLOW_PROXY_CERTS", "VERIFY_X509_TRUSTED_FIRST", "VERIFY_X509_PARTIAL_CHAIN"]

/-- Whether a text lists flags, perhaps between brackets. -/
def listsFlags (value : String) : Bool :=
  let names := (value.toList.filter fun c => c ≠ '[' && c ≠ ']').splitOn ','
  names.all fun name => checkFlags.contains (String.ofList (Text.trim Text.isBlank name))

/-- The options that are integers and not needed to find the store. -/
def integerNames : List String := ["health_check_interval", "protocol", "socket_read_size"]

/-- What the value of an option has to be that is otherwise kept as a text. -/
def checkText (name value : String) : Except AddressError Unit :=
  if integerNames.contains name then discard (integer? name value)
  else if name = "timeout" then discard (number? name value)
  else if name = "ssl_include_verify_flags" || name = "ssl_exclude_verify_flags" then
    if listsFlags value then .ok () else .error (.option name)
  else .ok ()

/-- Sets an option. -/
def set (o : Options) (name value : String) : Except AddressError Options := do
  if name = "db" then return { o with database := some (← integer? name value) }
  else if name = "socket_timeout" then
    return { o with socketTimeout := some (← number? name value) }
  else if name = "socket_connect_timeout" then
    return { o with connectTimeout := some (← number? name value) }
  else if name = "max_connections" then
    return { o with maxConnections := some (← integer? name value) }
  else
    checkText name value
    return { o with texts := Table.put name value o.texts }

/-- The options in a query. The first value under a name counts. -/
def read? (query : List Char) : Except AddressError Options :=
  (Table.ofFirst (Url.Query.read false query)).foldlM
    (fun o (name, value) => o.set name value) {}

/-- An option that is a text. -/
def text? (o : Options) (name : String) : Option String := Table.get? o.texts name

end Options

namespace Address

/-- The transport of a scheme. -/
def transport? (scheme : String) : Option Transport :=
  [("redis", Transport.plain), ("rediss", .encrypted), ("unix", .socket)].lookup scheme

/-- The number of the database that a path names. -/
def pathDatabase? (path : List Char) : Option Int :=
  (Text.readInteger?
    (String.ofList ((Text.unescape path).toList.filter (· ≠ '/')))).toOption

/-- The address that options alone make. -/
def ofOptions (transport : Transport) (o : Options) : Address where
  transport
  host := o.text? "host"
  port := (o.text? "port").map .text
  database := o.database
  username := o.text? "username"
  password := o.text? "password"
  path := o.text? "path"
  options := o

/-- The number of a port, unless it is zero. -/
def ofPort (port : Option Nat) : Option Port := (port.filter (· ≠ 0)).map .number

/-- The name that no option may have. -/
def reservedName : String := "self"

/-- Takes a URL apart. -/
def read? (text : String) : Except AddressError Address := do
  let url ← (Url.read? text).mapError .url
  let options ← Options.read? url.query
  match transport? url.scheme with
  | none => throw .scheme
  | some transport =>
    let base := ofOptions transport options
    let base := { base with
      username := url.username?.orElse fun _ => base.username
      password := url.password?.orElse fun _ => base.password }
    let address ←
      match transport with
      | .socket => pure { base with path := (Url.part? url.path).orElse fun _ => base.path }
      | _ => do
        let port ← url.port?.mapError .url
        pure { base with
          host := url.host?.orElse fun _ => base.host
          port := (ofPort port).orElse fun _ => base.port
          database := base.database.orElse fun _ => pathDatabase? url.path }
    if (options.text? reservedName).isSome then throw (.reserved reservedName)
    if options.maxConnections.any (· < 0) then throw .connections
    return address

/-- A URL without its credentials, for the log: what stands between the scheme
and the first at sign gives way to stars. -/
def redact? (url : String) : Except AddressError String :=
  if url.toList.contains '@' then
    let (scheme, rest) := Text.splitMark [':', '/', '/'] url.toList
    match splitFirst (· = '@') rest with
    | (_, some location) =>
      .ok (String.ofList (scheme ++ "://***@".toList ++ location))
    | (_, none) => .error .credentials
  else .ok url

end Address

end RateLimit
