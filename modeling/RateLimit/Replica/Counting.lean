import RateLimit.Counter
import RateLimit.Replica.Basic
import RateLimit.Time.Timeout

/-!
# Counting on a replica

The operations of the counter as acts of a replica: each reads the clock, learns
what becomes of its round trip, and applies the operation of the same name in
`Counter` to the shared store. A check never fails because of the store; it logs
what degraded it.

A timeout that is not positive is up before anything is sent, and one that is too
large fails then. No planned disruption is met in either case, and an inspection has
just opened its round trip. A timeout that is no number is up as soon as the reply has
to be waited for.
-/

namespace RateLimit.Replica

open Number (Binary64)

/-- Makes a round trip without waiting for its reply. -/
def unwaited (trip : Act Delivery) : Act Delivery := do
  let pace := (← get).pace
  return (← trip).unwaited pace

/-- What becomes of a round trip under a timeout. -/
def within (timeout : Timeout) (trip : Act Delivery) : Act Delivery :=
  if timeout.isUp then return .expired
  else
    match timeout.seconds? with
    | .ok x => if x = .nan then unwaited trip else trip
    | .error e => return .refused (.conversion e)

/-- The time of the clock in seconds. -/
def now : Act Binary64 := do
  let reading ← readClock
  match Counter.secondsOf? reading with
  | .ok x => return x
  | .error e => throw (.conversion e)

/-- What becomes of the round trip of a check. The round trip is opened before
the time to live is known to exist. -/
def checkTrip (p : Policy) (key : String) (entry : Entry) : Act Delivery := do
  let client ← countingClient
  openTrip client
  match p.keyTtl? with
  | .error e => return .refused (.span e)
  | .ok ttl => dispatch client (Counter.checkCommands p key entry ttl)

/-- What becomes of a round trip of a check under a timeout. A fault of the client
refuses the round trip. -/
def checkDelivery (timeout : Timeout) (trip : Act Delivery) : Act Delivery :=
  within timeout (tryCatch trip fun fault => return .refused fault)

/-- The record of what degraded a check. -/
def degradedRecord (p : Policy) (key : String) (fault : Fault) : Log.Record where
  level := Log.error
  logger := counterLogger
  message :=
    if fault.isStoreFault then
      "Rate limit check failed, allowing request: " ++ fault.name ++ ": " ++ fault.message
    else "Unexpected rate limit error, allowing request: " ++ fault.message
  attributes := [("policy", .text p.name), ("rate_limit_key", .text key)]
  fault := if fault.isStoreFault then none else some fault

/-- Leaves the store that an operation gives back, and yields its outcome. -/
def applyToStore {α : Type} (operation : Store → α × Store) : Act α := do
  let r ← get
  let (outcome, store) := operation r.store
  set { r with store }
  return outcome

/-- Counts a request under a key. The round trip for an entry is made by `trip`. -/
def checkThrough (timeout : Timeout) (trip : Entry → Act Delivery) (p : Policy)
    (key : String) : Act Decision := do
  let reading ← readClock
  match Counter.resetAt? p reading with
  | .error e => throw (.conversion e)
  | .ok _ =>
    let token ← freshToken
    let delivery ← checkDelivery timeout (trip ⟨reading, token⟩)
    let time := (← get).clock.now
    let outcome ← applyToStore (Counter.check p key { reading, time, delivery, token })
    match outcome with
    | .error e => throw (.conversion e)
    | .ok result =>
      match result.cause with
      | some fault => log (degradedRecord p key fault)
      | none => pure ()
      return result.decision

/-- Counts a request under a key. -/
def check (timeout : Timeout) (p : Policy) (key : String) : Act Decision :=
  checkThrough timeout (checkTrip p key) p key

/-- Counts the entries under a key without recording a request. -/
def inspect (timeout : Timeout) (p : Policy) (key : String) : Act WindowStatus := do
  let reading ← readClock
  let client ← countingClient
  openTrip client
  let delivery ← within timeout (dispatch client (Counter.inspectCommands p key reading))
  let time := (← get).clock.now
  let outcome ← applyToStore (Counter.inspect p key { reading, time, delivery })
  ExceptT.mk (pure outcome)

/-- The record of a cleared window. -/
def clearedRecord (key : String) : Log.Record where
  level := Log.info
  logger := counterLogger
  message := "Rate limit window cleared"
  attributes := [("rate_limit_key", .text key)]

/-- Drops the window of a key. -/
def clear (timeout : Timeout) (key : String) : Act Bool := do
  let client ← countingClient
  let delivery ← within timeout (dispatch client [.on key .delete])
  let time := (← get).clock.now
  let outcome ← applyToStore (Counter.clear key { reading := time, time, delivery })
  let removed ← ExceptT.mk (pure outcome)
  log (clearedRecord key)
  return removed

/-- What a question whether the store answers finds: nothing, or what went wrong.
Faults that do not come of the store are not caught. -/
def ping : Act (Option Fault) := do
  let delivery ← dispatch .shared [.ping]
  let time := (← get).clock.now
  let outcome ← applyToStore fun s => s.exchange time [.ping] Reply.ofCount delivery
  match outcome with
  | .ok _ => return none
  | .error fault =>
    if fault.isStoreFault then
      log { level := Log.warning, logger := clientLogger,
            message := "Redis health check failed: " ++ fault.message }
      return some fault
    else throw fault

/-- How a store that was asked is reported. Long texts are cut. -/
def statusReport (fault : Option Fault) : Json :=
  match fault with
  | none => .object [("status", .string "ok")]
  | some fault =>
    .object [("status", .string "error"),
      ("error", .string (String.ofList (fault.message.toList.take 100)))]

end RateLimit.Replica
