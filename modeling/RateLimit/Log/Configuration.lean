import RateLimit.Log.Record
import RateLimit.Settings.Basic

/-!
# Log configuration

How the settings configure the log: every record of the service gets the context
fields and is written to standard output, as JSON or as text, if its level is
let through. `setUp?` fails on a level that has no name.
-/

namespace RateLimit.Log

/-- The layout of a line of text. -/
def textLayout : String :=
  "%(asctime)s %(levelname)s %(name)s [%(request_id)s] %(message)s"
    ++ " policy=%(policy)s key=%(rate_limit_key)s"

/-- The name of the format that the settings choose. -/
def formatName (s : Settings) : String := if s.logFormat = "json" then "json" else "text"

/-- The configuration of the log. -/
def configuration (s : Settings) : Json :=
  .object [
    ("version", .int 1),
    ("disable_existing_loggers", .bool false),
    ("formatters", .object [
      ("text", .object [("format", .string textLayout)]),
      ("json", .string "JSONFormatter")]),
    ("filters", .object [("context", .string "ContextFilter")]),
    ("handlers", .object [
      ("console", .object [
        ("class", .string "logging.StreamHandler"),
        ("stream", .string "ext://sys.stdout"),
        ("formatter", .string (formatName s)),
        ("filters", .array [.string "context"])])]),
    ("loggers", .object [
      ("windowguard", .object [
        ("level", .string (Text.upper s.logLevel)),
        ("handlers", .array [.string "console"]),
        ("propagate", .bool false)])])]

/-- The level of the log, if the settings name one. -/
def setUp? (s : Settings) : Except Fault Int :=
  match levelNumber? s.logLevel with
  | some level => .ok level
  | none => .error .logLevel

/-- The least level of the records of the client of the store. -/
def clientLevel : Int := warning

/-- Whether a level is let through. Nothing is while the level has no name. -/
def isEnabled (s : Settings) (level : Int) : Bool :=
  match threshold? s.logLevel with
  | some least => decide (least ≤ level)
  | none => false

/-- The usual levels, in order. -/
def usualLevels : List Int := [debug, info, warning, error, critical]

/-- The names of the usual levels that are let through. -/
def enabledNames (s : Settings) : List String :=
  (usualLevels.filter (isEnabled s)).map levelName

end RateLimit.Log
