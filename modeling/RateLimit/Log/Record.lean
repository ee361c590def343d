import RateLimit.Fault
import RateLimit.Log.Level
import RateLimit.Log.Value

/-!
# Log records

A `Record` is one message with its level, its logger, the values attached to it
and the fault that it reports, perhaps with a text of its own for the fault. The
attached values that log lines know are the context fields. `withContext` gives
every record all of them, null when unset, and fills in the bound request id; an
id that the record has already is kept.
-/

namespace RateLimit.Log

/-- One message in the log. -/
structure Record where
  level : Int
  logger : String
  message : String
  attributes : Table Value := []
  fault : Option Fault := none
  /-- The text of the fault, if more is known of it than its wording. -/
  faultText : Option String := none
  deriving Repr, Inhabited

/-- The names of the context fields, in the order in which they are written. -/
def contextNames : List String :=
  ["request_id", "client_ip", "user_id", "path", "policy", "rate_limit_key"]

/-- The fields that are set. Of fields with one name the last value counts. -/
def context (fields : List (String × Value)) : Table Value :=
  (Table.ofList fields).filter fun p => !p.2.isNull

/-- A text as a field, unset if there is none. -/
def textField (name : String) (value : Option String) : String × Value :=
  (name, (value.map Value.text).getD .null)

namespace Record

/-- A value attached to a record. -/
def attribute? (r : Record) (name : String) : Option Value := Table.get? r.attributes name

/-- Attaches a null value under a name that has none. -/
def declare (r : Record) (name : String) : Record :=
  match r.attribute? name with
  | some _ => r
  | none => { r with attributes := Table.put name .null r.attributes }

/-- Attaches a request id to a record that has none. -/
def bindId (bound : Option String) (r : Record) : Record :=
  match r.attribute? "request_id", bound with
  | some .null, some id =>
    { r with attributes := Table.put "request_id" (.text id) r.attributes }
  | _, _ => r

/-- The record with all context fields, and with the bound request id unless it
has one of its own. -/
def withContext (bound : Option String) (r : Record) : Record :=
  (contextNames.foldl declare r).bindId bound

/-- The context fields that are set, as they are written. -/
def contextFields (r : Record) : Table Json :=
  contextNames.filterMap fun name =>
    match r.attribute? name with
    | none => none
    | some .null => none
    | some v => some (name, v.written)

end Record

end RateLimit.Log
