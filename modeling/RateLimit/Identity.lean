import RateLimit.Policy

/-!
# Identities

A `Caller` is what is known of who sent a request. A `Strategy` says whether it
is counted by its address or, when it is known, by its user.
-/

namespace RateLimit

/-- How a caller is counted. -/
inductive Strategy where
  | ip
  | user
  deriving DecidableEq, Repr

namespace Strategy

/-- The name of a strategy. -/
def name : Strategy → String
  | .ip => "ip"
  | .user => "user"

/-- The strategy of a name. -/
def ofName? (s : String) : Option Strategy :=
  if s = "ip" then some .ip else if s = "user" then some .user else none

end Strategy

/-- Who sent a request, and where to. -/
structure Caller where
  clientIp : String
  userId : Option String := none
  path : String := ""
  deriving DecidableEq, Repr

namespace Caller

/-- The address of a caller without one. -/
def unknown : String := "unknown"

/-- What stands before the name of a user. -/
def userMark : String := "user:"

/-- The address that a caller is counted by. -/
def address (c : Caller) : String := if c.clientIp = "" then unknown else c.clientIp

/-- What a caller is counted by. An empty user is no user. -/
def identity (c : Caller) : Strategy → String
  | .ip => c.address
  | .user =>
    match c.userId with
    | some user => if user = "" then c.address else userMark ++ user
    | none => c.address

theorem identity_user_of_some {c : Caller} {user : String} (h : c.userId = some user)
    (hu : user ≠ "") : c.identity .user = userMark ++ user := by
  simp [identity, h, hu]

/-- The key that a caller is counted under. -/
def key (c : Caller) (p : Policy) (s : Strategy) : String := p.keyFor (c.identity s)

end Caller

end RateLimit
