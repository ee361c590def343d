import RateLimit.Json.Writer
import RateLimit.Log.Record
import RateLimit.Log.Template

/-!
# Log lines

A record is written as one JSON object, `Record.jsonLine`, or as a line of text,
`Record.textLine`. Both begin with the time at which the record was made. The
text of a fault comes last, and after the text of what caused it.

A value that is attached under the name of a part of the record takes the place of
that part, whatever kind of value it is; a line can be written only if it is of a
kind that will do. If arguments are attached, the message is a template.
-/

namespace RateLimit

open Number (Binary64 ConversionError)

namespace Fault

/-- What a fault is written as: its full name, and its wording unless it is
empty. -/
def headline (f : Fault) : String :=
  if f.message = "" then f.fullName else f.fullName ++ ": " ++ f.message

/-- What stands between a cause and its consequence. -/
def causeLink : String :=
  "\n\nThe above exception was the direct cause of the following exception:\n\n"

/-- The text of a fault in the log, if no more is known of it: what caused it comes first. -/
def report : Fault → String
  | .unavailable key (some cause) =>
    cause.report ++ causeLink ++ (Fault.unavailable key (some cause)).headline
  | f => f.headline

end Fault

namespace Log

/-- Why a record cannot be written. -/
inductive LineError where
  /-- The record was made at a time without a date. -/
  | date (cause : DateError)
  /-- A value that the line shows is not attached to the record. -/
  | missing (name : String)
  /-- The message is a template that cannot be filled in. -/
  | template (cause : TemplateError)
  /-- In place of a time stands something else. -/
  | timeKind (kind : String)
  /-- In place of what makes the message stands something else. -/
  | messageKind (kind : String)
  /-- In place of a text stands something else. -/
  | textKind (kind : String)
  /-- In place of a fault stands something without its parts. -/
  | faultItem (cause : ItemError)
  /-- In place of a part of a fault stands something else. -/
  | faultPart (kind name : String)
  deriving DecidableEq, Repr

/-- The kind of an error about a template. -/
def templateName : TemplateError → String
  | .incomplete => "ValueError"
  | .incompleteName => "ValueError"
  | .unknownName _ => "KeyError"
  | .widthValue => "OverflowError"
  | .precisionValue => "OverflowError"
  | .width => "ValueError"
  | .precision => "ValueError"
  | .digits => "OverflowError"
  | .memory => "MemoryError"
  | .unknownConversion _ _ => "ValueError"
  | .characterRange => "OverflowError"
  | .conversion cause => Fault.conversionName cause
  | _ => "TypeError"

namespace LineError

/-- The name of the kind of an error. -/
def name : LineError → String
  | .date cause => Fault.dateName cause
  | .missing _ => "ValueError"
  | .template cause => templateName cause
  | .timeKind _ => "TypeError"
  | .messageKind _ => "TypeError"
  | .textKind _ => "TypeError"
  | .faultItem cause => Fault.itemName cause
  | .faultPart _ _ => "AttributeError"

/-- The wording of an error. -/
def message : LineError → String
  | .date cause => cause.message
  | .missing name => "Formatting field not found in record: " ++ Text.quote name
  | .template cause => cause.message
  | .timeKind kind => Text.quote kind ++ " object cannot be interpreted as an integer"
  | .messageKind kind => Text.quote kind ++ " object is not callable"
  | .textKind kind => "can only concatenate str (not \"" ++ kind ++ "\") to str"
  | .faultItem cause => cause.message
  | .faultPart kind name => (Fault.noAttribute kind name).message

end LineError

/-- The thousandths of a second in a time. -/
def milliseconds? (created : Binary64) : Except ConversionError Int := do
  let whole ← Binary64.ofInt (← created.toInt?)
  ((created.sub whole).mulNat 1000).toInt?

/-- The date of a time in seconds, for a JSON line. -/
def stampOf? : Value → Except LineError Stamp
  | .json (.float x) => (Stamp.ofSeconds? x).mapError .date
  | .json (.int n) => (Stamp.ofMicroseconds? (n * 1000000)).mapError .date
  | .json (.bool b) => (Stamp.ofMicroseconds? (if b then 1000000 else 0)).mapError .date
  | v => .error (.timeKind v.kindName)

/-- The whole seconds of a time. They are rounded down. -/
def wholeSeconds? : Value → Except LineError Int
  | .json (.float (.finite q)) => .ok q.floor
  | .json (.float .negativeZero) => .ok 0
  | .json (.float (.infinite _)) => .error (.date .beyondClock)
  | .json (.float .nan) => .error (.date .notANumber)
  | .json (.int n) => .ok n
  | .json (.bool b) => .ok (if b then 1 else 0)
  | v => .error (.timeKind v.kindName)

/-- The template of the thousandths of a second. -/
def millisecondsTemplate : String := "%03d"

/-- The text of what was attached in place of a fault. It has to have three parts, of
which the last two would say what happened and where. -/
def reportOf? : Value → Except LineError String
  | .span s => .error (.faultItem (.noItems (Value.span s).kindName))
  | .json v => do
    let place ← (v.item? 2).mapError .faultItem
    let cause ← (v.item? 1).mapError .faultItem
    match place, cause with
    | .null, .null => return "NoneType: None"
    | .null, cause => throw (.faultPart cause.kindName "__suppress_context__")
    | place, _ => throw (.faultPart place.kindName "tb_frame")

/-- A text and another one on a line of its own. -/
def withLine (text line : String) : String :=
  text ++ (if text.toList.getLast? = some '\n' then "" else "\n") ++ line

/-- A text and a value on a line of its own, if there is one. The value has to be a
text. -/
def withText (text : String) (v : Value) : Except LineError String :=
  match v with
  | .text s => .ok (if s = "" then text else withLine text s)
  | v => if v.isSet then .error (.textKind v.kindName) else .ok text

namespace Record

/-- A part of a record. A value attached under the name of the part takes its
place. -/
def part (r : Record) (name : String) (own : Value) : Value := (r.attribute? name).getD own

/-- The name of the level. -/
def levelPart (r : Record) : Value := r.part "levelname" (.text (levelName r.level))

/-- The logger. -/
def loggerPart (r : Record) : Value := r.part "name" (.text r.logger)

/-- The message, which is a text in any case. It is a template if there are arguments. -/
def messagePart (r : Record) : Except LineError String :=
  let text := (r.part "msg" (.text r.message)).display
  match r.attribute? "getMessage", r.part "args" .null with
  | some v, _ => .error (.messageKind v.kindName)
  | none, arguments =>
    if arguments.isSet then (Template.fill text arguments).mapError .template else .ok text

/-- The text of the fault that a record reports, if it reports one. -/
def faultReport? (r : Record) : Option String :=
  r.fault.map fun fault => r.faultText.getD fault.report

/-- The text of the fault, if there is one. -/
def report? (r : Record) : Except LineError (Option String) :=
  match r.attribute? "exc_info" with
  | none => .ok r.faultReport?
  | some v => if v.isSet then (reportOf? v).map some else .ok none

/-- The members of a JSON line. -/
def members (r : Record) (timestamp message : String) (report : Option String) :
    List (String × Json) :=
  [("timestamp", .string timestamp), ("level", r.levelPart.written),
    ("logger", r.loggerPart.written), ("message", .string message)]
    ++ r.contextFields
    ++ (report.map fun text => ("exception", Json.string text)).toList

/-- The record as a JSON object. -/
def jsonLine (r : Record) (created : Binary64) : Except LineError String := do
  let stamp ← stampOf? (r.part "created" (.json (.float created)))
  let message ← r.messagePart
  let report ← r.report?
  return Json.write .spaced (.object (r.members stamp.universalText message report))

/-- The date in a line of text, in local time. -/
def textDate (r : Record) (created : Binary64) (milliseconds : Int) (zone : Zone) :
    Except LineError String := do
  let seconds ← wholeSeconds? (r.part "created" (.json (.float created)))
  let time ← (writtenTime? zone seconds).mapError .date
  let rest ← (Template.fill millisecondsTemplate
    (r.part "msecs" (.json (.int milliseconds)))).mapError .template
  return time.toText 0 " " ++ "," ++ rest

/-- The text of a value that a line of text shows. -/
def shown (r : Record) (name : String) : Except LineError String :=
  match r.attribute? name with
  | some v => .ok v.display
  | none => .error (.missing name)

/-- A line and the text of the fault. A text that was attached for it takes its place,
and the place in the program, if one was attached, follows it. -/
def withReport (r : Record) (line : String) : Except LineError String := do
  let given := r.part "exc_text" .null
  let report : Value ←
    if given.isSet then pure given
    else pure (((← r.report?).map Value.text).getD .null)
  withText (← withText line report) (r.part "stack_info" .null)

/-- The record as a line of text. -/
def textLine (r : Record) (created : Binary64) (milliseconds : Int)
    (zone : Zone := .universal) : Except LineError String := do
  let message ← r.messagePart
  let date ← r.textDate created milliseconds zone
  let id ← r.shown "request_id"
  let policy ← r.shown "policy"
  let key ← r.shown "rate_limit_key"
  r.withReport
    (date ++ " " ++ r.levelPart.display ++ " " ++ r.loggerPart.display ++ " [" ++ id ++ "] "
      ++ message ++ " policy=" ++ policy ++ " key=" ++ key)

end Record

end Log

end RateLimit
