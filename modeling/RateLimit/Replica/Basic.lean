import RateLimit.Log.Configuration
import RateLimit.Store.Delivery

/-!
# Replicas

A `Replica` is one running copy of the service together with all that it meets:
its clock, the shared store, the disruptions that are planned for the coming
round trips, and what it leaves behind, namely the commands it sent and its log.
An `Act` is an operation of a replica. It may fail with a `Fault`; what it did up
to then stays done.

The log holds the records that are let through, as they were emitted and as they are
written, which is with their context fields.
-/

namespace RateLimit

open Number (Binary64)

/-- A clock in nanoseconds, which moves on by `tick` after every reading. -/
structure Clock where
  now : Int := 1700000000000000000
  tick : Int := 0
  deriving DecidableEq, Repr

/-- What goes wrong in a disrupted round trip. -/
inductive Effect where
  /-- The round trip fails. -/
  | fails (fault : Fault)
  /-- The reply never comes. -/
  | hangs
  /-- Another reply comes. -/
  | answers (reply : Json)
  deriving Repr

/-- A plan for the coming round trips: what goes wrong, whether the commands are
applied all the same, and for how many round trips the plan holds. -/
structure Disruption where
  effect : Effect
  applied : Bool := false
  uses : Nat := 1
  deriving Repr

namespace Disruption

/-- What becomes of a round trip under a plan. -/
def delivery (d : Disruption) : Delivery :=
  match d.effect with
  | .fails fault => if d.applied then .lost fault else .refused fault
  | .hangs => if d.applied then .lost (.timeout "") else .refused (.timeout "")
  | .answers reply => .answered reply

/-- What becomes of the next round trip, and the plans for the ones after it. -/
def next : List Disruption → Delivery × List Disruption
  | [] => (.delivered, [])
  | d :: rest => (d.delivery, if d.uses ≤ 1 then rest else { d with uses := d.uses - 1 } :: rest)

end Disruption

/-- A connection that was made to an address, with its timeouts in seconds. The
serial number tells connections apart. -/
structure Connection where
  serial : Nat
  address : Address
  socketTimeout : Binary64
  connectTimeout : Binary64
  deriving DecidableEq, Repr

/-- A client of a store: of the shared store, or one whose connection leads to an
address at which nothing can be reached. -/
inductive Client where
  | shared
  | elsewhere (connection : Connection)
  deriving DecidableEq, Repr

/-- What a replica sends: it opens a round trip, and then sends its commands. -/
inductive Sent where
  | opened
  | command (c : Command)
  deriving DecidableEq, Repr

/-- A running copy of the service. -/
structure Replica where
  settings : Settings := {}
  clock : Clock := {}
  store : Store := []
  disruptions : List Disruption := []
  /-- Whether replies have to be waited for. -/
  pace : Pace := .prompt
  /-- What was sent, in order. -/
  sent : List Sent := []
  /-- The records that were let through, in order, as they were emitted. -/
  emitted : List Log.Record := []
  /-- The same records as they are written, each with its context fields. -/
  records : List Log.Record := []
  /-- The id of the request that is being served. -/
  boundId : Option String := none
  /-- How many request ids were made. -/
  issuedIds : Nat := 0
  /-- How many tokens were made. -/
  issuedTokens : Nat := 0
  /-- How many connections were made. -/
  issuedConnections : Nat := 0
  /-- The client that all parts of the process may use. -/
  client : Option Client := none
  /-- The client that the counter took up. -/
  counterClient : Option Client := none
  /-- How often a client of the shared store was closed. -/
  closed : Nat := 0
  /-- The connections that were closed, in order, by their serial numbers. -/
  closings : List Nat := []
  deriving Inhabited

/-- An operation of a replica. -/
abbrev Act := ExceptT Fault (StateM Replica)

namespace Replica

/-- The names of the loggers. -/
def counterLogger : String := "windowguard.app.services.rate_limit.counter"

/-- The logger of the registry. -/
def policyLogger : String := "windowguard.app.services.rate_limit.policies"

/-- The logger of the limiter. -/
def limiterLogger : String := "windowguard.app.middleware.rate_limit"

/-- The logger of the connection to the store. -/
def clientLogger : String := "windowguard.app.core.redis_client"

/-- The logger of the application. -/
def appLogger : String := "windowguard.app.main"

/-- The replica with a record in its log, if the record is let through. -/
def withRecord (r : Replica) (record : Log.Record) : Replica :=
  if Log.isEnabled r.settings record.level then
    { r with
      emitted := r.emitted ++ [record]
      records := r.records ++ [record.withContext r.boundId] }
  else r

/-- Logs a record. -/
def log (record : Log.Record) : Act Unit := modify (withRecord · record)

/-- Reads the clock, which then moves on. -/
def readClock : Act Int := do
  let r ← get
  set { r with clock := { r.clock with now := r.clock.now + r.clock.tick } }
  return r.clock.now

/-- A token that no entry has. -/
def freshToken : Act Nat := do
  let r ← get
  set { r with issuedTokens := r.issuedTokens + 1 }
  return r.issuedTokens

/-- Notes something that is sent. -/
def note (sent : List Sent) : Act Unit :=
  modify fun r => { r with sent := r.sent ++ sent }

/-- What becomes of the next round trip. -/
def nextDelivery : Act Delivery := do
  let r ← get
  let (delivery, rest) := Disruption.next r.disruptions
  set { r with disruptions := rest }
  return delivery

/-- The host and port, or the path, that a client cannot reach. -/
def unreachable (a : Address) : Fault :=
  let place :=
    match a.transport with
    | .socket => "unix socket " ++ a.path.getD ""
    | _ => a.host.getD "localhost" ++ ":" ++ (a.port.getD (.number 6379)).toText
  .client "ConnectionError" ("Error 101 connecting to " ++ place ++ ". Network is unreachable.")

/-- Sends commands in one round trip, and tells what becomes of it. -/
def dispatch (client : Client) (commands : List Command) : Act Delivery :=
  match client with
  | .shared => do
    note (commands.map .command)
    nextDelivery
  | .elsewhere connection => return .refused (unreachable connection.address)

/-- Opens a round trip. -/
def openTrip (client : Client) : Act Unit :=
  match client with
  | .shared => note [.opened]
  | .elsewhere _ => pure ()

/-- A timeout, or the fallback if none or zero is given. -/
def timeoutOr (fallback : Binary64) (given : Option Binary64) : Binary64 :=
  match given with
  | some x => if x.isZero then fallback else x
  | none => fallback

/-- The next connection, if it is made to an address. A timeout that is not given is taken
from the settings, but one in the URL wins over both. -/
def connectionTo (r : Replica) (address : Address)
    (socketTimeout connectTimeout : Option Binary64) : Connection where
  serial := r.issuedConnections
  address := address
  socketTimeout := address.options.socketTimeout.getD
    (timeoutOr r.settings.socketTimeout socketTimeout)
  connectTimeout := address.options.connectTimeout.getD
    (timeoutOr r.settings.connectTimeout connectTimeout)

/-- Makes a connection. A URL that is not given is taken from the settings. -/
def connect (url : Option String) (socketTimeout connectTimeout : Option Binary64) :
    Act Connection := do
  let r ← get
  let url := (url.filter (· ≠ "")).getD r.settings.storeUrl
  match Address.read? url with
  | .error e => throw (.address e)
  | .ok address =>
    set { r with issuedConnections := r.issuedConnections + 1 }
    return r.connectionTo address socketTimeout connectTimeout

/-- Makes the client of the process, for the address in the settings. -/
def makeClient : Act Client := do
  let connection ← connect none none none
  modify fun r => { r with client := some (.elsewhere connection) }
  match Address.redact? (← get).settings.storeUrl with
  | .error e => throw (.address e)
  | .ok url =>
    log { level := Log.debug, logger := clientLogger,
          message := "Created Redis client for " ++ url }
    return .elsewhere connection

/-- The client of the process, which is made when it is first needed. -/
def processClient : Act Client := do
  match (← get).client with
  | some client => return client
  | none => makeClient

/-- The client of the counter: the one that it was given, or that of the process
from its first use on. -/
def countingClient : Act Client := do
  match (← get).counterClient with
  | some client => return client
  | none =>
    let client ← processClient
    modify fun r => { r with counterClient := some client }
    return client

/-- Notes that a client is closed. -/
def noteClosed : Client → Act Unit
  | .shared => modify fun r => { r with closed := r.closed + 1 }
  | .elsewhere connection =>
    modify fun r => { r with closings := r.closings ++ [connection.serial] }

/-- Forgets the client of the process. -/
def forgetClient : Act Unit := modify fun r => { r with client := none }

/-- Closes the client of the process, if there is one. -/
def closeProcessClient : Act Unit := do
  match (← get).client with
  | some client =>
    noteClosed client
    forgetClient
  | none => pure ()

end Replica

end RateLimit
