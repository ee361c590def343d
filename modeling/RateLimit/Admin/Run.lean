import RateLimit.Admin.Task
import RateLimit.Limiter

/-!
# Administration

`Admin.run` carries out a task with a client of its own, which it makes for the address
in the settings: it prints lines and ends with an exit code, or fails. The client is
closed when the task ends, however it ends; but the policies are built from the settings
before that is arranged, and settings that make no policies leave the client open.

Which addresses are those of the shared store, and what the clocks on the wall show,
depends on the `Place` where the task is carried out.
-/

namespace RateLimit.Admin

/-- What a task printed, and how it ended. -/
structure Report where
  lines : List String := []
  outcome : Except Fault Nat

/-- Where a task is carried out: which addresses lead to the shared store from there, and
what time zone it is in. -/
structure Place where
  isStore : Address → Bool := fun _ => true
  zone : Zone := .universal

/-- The client that a connection makes. -/
def Place.client (place : Place) (connection : Connection) : Client :=
  if place.isStore connection.address then .shared else .elsewhere connection

/-- What a task printed, as one text. -/
def Report.text (r : Report) : String := String.join (r.lines.map (· ++ "\n"))

/-- The line of a policy. -/
def policyLine (p : Policy) : String :=
  Text.padEnd ' ' 12 p.name ++ " " ++ Text.padStart ' ' 6 (toString p.maxRequests)
    ++ " requests / " ++ p.window.toText ++ "  prefix=" ++ p.keyPrefix

/-- The line for a name that is not in the registry. -/
def unknownLine (name : String) (r : Registry) : String :=
  "Unknown policy " ++ Text.quote name ++ "; available: " ++ ", ".intercalate r.names

/-- The lines of a window. -/
def windowLines (p : Policy) (identity : String) (status : WindowStatus) (reset : Stamp) :
    List String :=
  ["key:      " ++ p.keyFor identity,
    "count:    " ++ toString status.currentCount ++ " / " ++ toString p.maxRequests,
    "resets:   " ++ reset.toText]

/-- Carries out a task on a limiter: the exit code, and what is printed. -/
def perform (zone : Zone) (l : Limiter) : Task → Act (Nat × List String)
  | .policies => return (0, l.registry.all.map policyLine)
  | .inspect name identity =>
    match l.registry.get? name with
    | none => return (2, [unknownLine name l.registry])
    | some p => do
      let status ← l.inspect (some name) identity
      match Stamp.localOfSeconds? zone status.resetAt with
      | .error e => throw (.date e)
      | .ok reset => return (0, windowLines p identity status reset)
  | .clear name identity =>
    match l.registry.get? name with
    | none => return (2, [unknownLine name l.registry])
    | some p => do
      let removed ← l.clear (some name) identity
      let state := if removed then "cleared" else "no window found for"
      return (0, [state ++ " " ++ p.keyFor identity])

/-- The report of what was carried out. A store that cannot be reached ends a
task with exit code one. -/
def reportOf : Except Fault (Nat × List String) → Report
  | .ok (code, lines) => { lines, outcome := .ok code }
  | .error fault =>
    match fault with
    | .unavailable _ _ => { lines := ["Redis unavailable: " ++ fault.message], outcome := .ok 1 }
    | fault => { outcome := .error fault }

/-- Makes a client for the address in the settings, which the counter takes up. -/
def takeClient (place : Place) : Act Connection := do
  let connection ← Replica.connect none none none
  modify fun r => { r with counterClient := some (place.client connection) }
  return connection

/-- Notes that the client of a task is closed. -/
def close (place : Place) (connection : Connection) : StateM Replica Unit :=
  modify fun r => { r with
    closed := if place.isStore connection.address then r.closed + 1 else r.closed
    closings := r.closings ++ [connection.serial] }

/-- Carries out a task with the policies of the settings, once its client is made. -/
def carryOut (task : Task) (place : Place) (connection : Connection) : StateM Replica Report := do
  match ← Registry.ofSettings.run with
  | .error fault => return { outcome := .error fault }
  | .ok registry =>
    let timeout := Timeout.seconds (← get).settings.storeTimeout
    let result ← (perform place.zone { registry, timeout } task).run
    close place connection
    return reportOf result

/-- Carries out a task. -/
def run (task : Task) (place : Place := {}) : StateM Replica Report := do
  match ← (takeClient place).run with
  | .error fault => return { outcome := .error fault }
  | .ok connection => carryOut task place connection

/-- The exit code of a command line that is wrong. -/
def usageCode : Nat := 2

/-- Carries out what a command line asks for. -/
def runLine (arguments : List String) (place : Place := {}) : StateM Replica Report :=
  match CommandLine.read arguments with
  | .task t => run t place
  | .help => return { outcome := .ok 0 }
  | .wrong => return { outcome := .ok usageCode }

end RateLimit.Admin
