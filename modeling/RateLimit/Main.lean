import RateLimit.Admin.Run
import RateLimit.Log.Line
import Std.Time.DateTime.Timestamp

/-!
# The administration command

Runs one administration task: the settings come from the environment, the time
from the system clock. The store is held in memory and is empty at the start.
-/

namespace RateLimit.Admin

/-- The variables of the environment that set something. -/
def readEnvironment : IO (List (String × String)) := do
  let mut found : List (String × String) := []
  for name in Settings.names do
    match ← IO.getEnv name.toUpper with
    | some value => found := found ++ [(name, value)]
    | none => pure ()
  return found

/-- The time in nanoseconds since the beginning of 1970. -/
def readTime : IO Int := do
  let now ← Std.Time.Timestamp.now
  return now.toNanosecondsSinceUnixEpoch.val

/-- The lines that tell what is wrong with the settings. -/
def problems : Settings.LoadError → List String
  | .unreadable name => [Settings.unreadableMessage name]
  | .variable cause => [cause.message]
  | .tooDeep cause => [cause.message]
  | .invalid issues =>
    issues.map fun issue => ".".intercalate issue.place ++ ": " ++ issue.kind.message

end RateLimit.Admin

open RateLimit in
/-- The administration command. -/
def main (arguments : List String) : IO UInt32 := do
  match Settings.load (← Admin.readEnvironment) [] with
  | .error e =>
    (Admin.problems e).forM IO.eprintln
    return 1
  | .ok settings =>
    let replica : Replica :=
      { settings, clock := { now := ← Admin.readTime }, counterClient := some .shared }
    let (report, _) := (Admin.runLine arguments).run replica
    IO.print report.text
    match report.outcome with
    | .ok code => return code.toUInt32
    | .error fault =>
      IO.eprintln fault.report
      return 1
