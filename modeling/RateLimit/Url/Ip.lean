import RateLimit.Number.Decimal
import RateLimit.Text.Hex
import RateLimit.Text.Split

/-!
# Internet addresses

`isIpv4` and `isIpv6` say whether a text is an address in the usual notation: four
decimal octets, or eight hexadecimal groups. In the longer form a double colon
stands for one or more groups of zeros, the last two groups may be written as four
octets, and a zone may follow. `isFutureIp` is the form that later versions have.
-/

namespace RateLimit.Url

open Text (splitFirst)

/-- A decimal number up to 255 without useless zeros. -/
def isOctet (cs : List Char) : Bool :=
  !cs.isEmpty && cs.length ≤ 3 && cs.all Char.isDigit
    && (cs.length = 1 || cs.head? ≠ some '0') && Number.natOfDigits cs ≤ 255

/-- Four octets between points. -/
def isIpv4 (cs : List Char) : Bool :=
  let octets := cs.splitOn '.'
  octets.length = 4 && octets.all isOctet

/-- One to four hexadecimal digits. -/
def isGroup (cs : List Char) : Bool :=
  !cs.isEmpty && cs.length ≤ 4 && cs.all fun c => (Text.hexDigit? c).isSome

/-- The groups of an address, where four octets at the end count as two groups. -/
def groups? (cs : List Char) : Option (List (List Char)) :=
  let parts := cs.splitOn ':'
  let last := parts.getLastD []
  if last.contains '.' then
    if isIpv4 last then some (parts.dropLast ++ [['0'], ['0']]) else none
  else some parts

/-- The groups on one side of a double colon. A double colon at the end of an
address has nothing on that side. -/
def side (parts : List (List Char)) : List (List Char) :=
  if parts = [[]] then [] else parts

/-- Whether groups make an address: eight of them, or at most seven around a double
colon, which leaves one part empty between the first and the last. -/
def areGroups (parts : List (List Char)) : Bool :=
  match (parts.drop 1).dropLast.findIdx? List.isEmpty with
  | none => parts.length = 8 && parts.all isGroup
  | some i =>
    let groups := side (parts.take (i + 1)) ++ side (parts.drop (i + 2))
    groups.length ≤ 7 && groups.all isGroup

/-- Groups between colons, perhaps with a zone. -/
def isIpv6 (cs : List Char) : Bool :=
  let (address, zone) := splitFirst (· = '%') cs
  zone.all (fun z => !z.isEmpty && !z.contains '%') && (groups? address).any areGroups

/-- A version after the letter `v`, a point, and anything else. -/
def isFutureIp (cs : List Char) : Bool :=
  match cs with
  | 'v' :: rest =>
    let isHex : Char → Bool := fun c => (Text.hexDigit? c).isSome
    match rest.takeWhile isHex, rest.dropWhile isHex with
    | _ :: _, '.' :: _ :: _ => true
    | _, _ => false
  | _ => false

example : isIpv6 "::ffff:1.2.3.4%eth0".toList = true := by decide +kernel

example : isIpv6 "1::2::3".toList = false := by decide +kernel

end RateLimit.Url
