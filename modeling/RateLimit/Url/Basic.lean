import RateLimit.Text.Integer
import RateLimit.Text.Lower
import RateLimit.Text.Percent
import RateLimit.Text.Quoted
import RateLimit.Url.Ip
import RateLimit.Url.Lookalike

/-!
# URLs

A `Url` has a scheme, an authority, a path and a query, each of which may be empty.
`Url.read?` takes a text apart. It fails only on an authority that could be taken
for another one: brackets have to hold an internet address and nothing may stand
around them, and no character may look like a delimiter.

The authority holds a user, a password, a host and a port. They are read when they
are asked for, so a port that is no number is found only then: `Url.port?`.
-/

namespace RateLimit

open Text (splitFirst splitLast)

/-- The parts of a URL. Escapes are not undone. -/
structure Url where
  scheme : String
  authority : List Char
  path : List Char
  query : List Char
  deriving DecidableEq, Repr

/-- What is wrong with a URL. -/
inductive UrlError where
  /-- A bracket without its partner, or something around a pair of brackets. -/
  | brackets
  /-- Between brackets stands an address of no known version. -/
  | future
  /-- A host that has to be an internet address is none. -/
  | noAddress (host : String)
  /-- A short address stands between brackets. -/
  | shortAddress
  /-- A character of the authority looks like a delimiter. -/
  | lookalike (authority : String)
  /-- The port is not a number. -/
  | portText (text : String)
  /-- The port has too many digits to be read. -/
  | portDigits (digits : Nat)
  /-- The port is too large. -/
  | portRange
  deriving DecidableEq, Repr

/-- The wording of the error. -/
def UrlError.message : UrlError → String
  | .brackets => "Invalid IPv6 URL"
  | .future => "IPvFuture address is invalid"
  | .noAddress host => Text.quote host ++ " does not appear to be an IPv4 or IPv6 address"
  | .shortAddress => "An IPv4 address cannot be in brackets"
  | .lookalike authority =>
    "netloc '" ++ authority ++ "' contains invalid characters under NFKC normalization"
  | .portText text => "Port could not be cast to integer value as " ++ Text.quote text
  | .portDigits digits => Text.tooLongMessage digits
  | .portRange => "Port out of range 0-65535"

namespace Url

/-- Whether a character may stand in a scheme. -/
def isSchemeChar (c : Char) : Bool := c.isAlphanum || c = '+' || c = '-' || c = '.'

/-- The scheme in lower case, and what follows its colon. A text that does not
begin with a scheme is all rest. -/
def spanScheme (cs : List Char) : String × List Char :=
  match splitFirst (· = ':') cs with
  | (first :: name, some rest) =>
    if first.isAlpha && name.all isSchemeChar then
      ((String.ofList (first :: name)).toLower, rest)
    else ("", cs)
  | _ => ("", cs)

/-- Whether a character ends the authority. -/
def endsAuthority (c : Char) : Bool := c = '/' || c = '?' || c = '#'

/-- The authority, which follows two slashes, and the rest. -/
def spanAuthority (cs : List Char) : List Char × List Char :=
  match cs with
  | '/' :: '/' :: rest =>
    (rest.takeWhile (!endsAuthority ·), rest.dropWhile (!endsAuthority ·))
  | cs => ([], cs)

/-- The characters that are dropped wherever they stand. -/
def isDropped (c : Char) : Bool := c = '\t' || c = '\n' || c = '\r'

/-- A text without the control characters and spaces in front, and without tabs
and line breaks. -/
def clean (s : String) : List Char :=
  (s.toList.dropWhile fun c => c.toNat ≤ 0x20).filter (!isDropped ·)

/-- The host and the port of an authority without its user: what stands between
brackets or before the first colon, and what follows the next colon. -/
def hostAndPort (location : List Char) : List Char × List Char :=
  match splitFirst (· = '[') location with
  | (_, some bracketed) =>
    let (host, after) := splitFirst (· = ']') bracketed
    (host, ((splitFirst (· = ':') (after.getD [])).2).getD [])
  | (_, none) =>
    let (host, port) := splitFirst (· = ':') location
    (host, port.getD [])

/-- Whether something stands around the brackets of a location. Only a port may
follow them. -/
def isPadded (location : List Char) : Bool :=
  match splitFirst (· = '[') location with
  | (before, some bracketed) =>
    let after := ((splitFirst (· = ']') bracketed).2).getD []
    !before.isEmpty || (!after.isEmpty && after.head? ≠ some ':')
  | (_, none) => false

/-- What is wrong with a host that has to be an internet address. -/
def checkHost (host : List Char) : Except UrlError Unit :=
  if host.head? = some 'v' then if isFutureIp host then .ok () else .error .future
  else if isIpv4 host then .error .shortAddress
  else if isIpv6 host then .ok ()
  else .error (.noAddress (String.ofList host))

/-- What is wrong with the brackets of an authority. -/
def checkBrackets (authority : List Char) : Except UrlError Unit :=
  match authority.contains '[', authority.contains ']' with
  | false, false => .ok ()
  | true, true =>
    let location := (splitLast (· = '@') authority).2
    if isPadded location then .error .brackets else checkHost (hostAndPort location).1
  | _, _ => .error .brackets

/-- Takes a URL apart. -/
def read? (text : String) : Except UrlError Url := do
  let (scheme, rest) := spanScheme (clean text)
  let (authority, rest) := spanAuthority rest
  checkBrackets authority
  let (path, query) := splitFirst (· = '?') (splitFirst (· = '#') rest).1
  if authority.any isLookalike then throw (.lookalike (String.ofList authority))
  return { scheme, authority, path, query := query.getD [] }

/-- A part of a URL without its escapes, unless it is empty. -/
def part? (cs : List Char) : Option String :=
  if cs.isEmpty then none else some (Text.unescape cs)

/-- The user and the password in front of the last at sign. -/
def credentials (u : Url) : List Char × List Char :=
  let (user, password) := splitFirst (· = ':') ((splitLast (· = '@') u.authority).1.getD [])
  (user, password.getD [])

/-- The name of the user. -/
def username? (u : Url) : Option String := part? u.credentials.1

/-- The password. -/
def password? (u : Url) : Option String := part? u.credentials.2

/-- What follows the last at sign. -/
def location (u : Url) : List Char := (splitLast (· = '@') u.authority).2

/-- The host in lower case. The zone of an address, which follows a percent sign,
stays as it is. -/
def host? (u : Url) : Option String :=
  let (name, zone) := splitFirst (· = '%') (hostAndPort u.location).1
  part? ((Text.lower (String.ofList name)).toList ++ (zone.map ('%' :: ·)).getD [])

/-- The port. -/
def port? (u : Url) : Except UrlError (Option Nat) :=
  match (hostAndPort u.location).2 with
  | [] => .ok none
  | digits =>
    if !digits.all Char.isDigit then .error (.portText (String.ofList digits))
    else if Text.maxDigits < digits.length then .error (.portDigits digits.length)
    else
      let n := Number.natOfDigits digits
      if 65535 < n then .error .portRange else .ok (some n)

end Url

end RateLimit
