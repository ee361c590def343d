import RateLimit.Text.Upper

/-!
# Log levels

A level is a number; the usual ones have names. `levelNumber?` finds the level
of a name in any case, and `threshold?` the least level that is let through:
level zero sets no limit of its own and leaves that of the whole program.
-/

namespace RateLimit.Log

/-- The level for details. -/
def debug : Int := 10

/-- The level for what happens. -/
def info : Int := 20

/-- The level for what should not happen. -/
def warning : Int := 30

/-- The level for what failed. -/
def error : Int := 40

/-- The level for what ends the program. -/
def critical : Int := 50

/-- The names of levels. The first name of a number is the one that is written. -/
def levelNames : List (String × Int) :=
  [("CRITICAL", critical), ("FATAL", critical), ("ERROR", error), ("WARNING", warning),
    ("WARN", warning), ("INFO", info), ("DEBUG", debug), ("NOTSET", 0)]

/-- The level of a name. -/
def levelNumber? (name : String) : Option Int :=
  levelNames.lookup (Text.upper name)

/-- The name of a level. -/
def levelName (level : Int) : String :=
  match levelNames.find? (·.2 = level) with
  | some (name, _) => name
  | none => "Level " ++ toString level

/-- The least level that is let through under the level of a name. -/
def threshold? (name : String) : Option Int :=
  (levelNumber? name).map fun level => if level = 0 then warning else level

end RateLimit.Log
