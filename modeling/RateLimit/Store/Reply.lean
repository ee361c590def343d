import RateLimit.Json.Item
import RateLimit.Text.Integer

/-!
# Replies of the store

A reply is a JSON value, because a damaged reply can be anything. `Reply.count?`
takes the count out of the reply to a pipeline: its second item, read as an
integer. A healthy reply is a list of integers, `ofCounts`.
-/

namespace RateLimit

open Number (ConversionError)

/-- Why a reply holds no count. -/
inductive ReplyError where
  /-- The reply has no second item. -/
  | item (cause : ItemError)
  /-- The item is a text that is no integer. -/
  | badText (text : String)
  /-- The item is a text with an integer that has too many digits. -/
  | longText (digits : Nat)
  /-- The item is of a kind that has no integer. -/
  | badKind (kind : String)
  /-- The item is a machine number that has no integer part. -/
  | badNumber (cause : ConversionError)
  deriving DecidableEq, Repr

/-- How many characters of a quoted text an error shows. -/
def shownLength : Nat := 200

/-- The wording of the error. A long text is cut off. -/
def ReplyError.message : ReplyError → String
  | .item cause => cause.message
  | .badText text =>
    "invalid literal for int() with base 10: "
      ++ String.ofList ((Text.quote text).toList.take shownLength)
  | .longText digits => Text.tooLongMessage digits
  | .badKind kind =>
    "int() argument must be a string, a bytes-like object or a real number, not '"
      ++ kind ++ "'"
  | .badNumber cause => cause.message

namespace Json

/-- A value read as an integer. -/
def toInteger? : Json → Except ReplyError Int
  | .bool b => .ok (if b then 1 else 0)
  | .int n => .ok n
  | .float x => x.toInt?.mapError .badNumber
  | .string s =>
    match Text.readInteger? s with
    | .ok n => .ok n
    | .error .malformed => .error (.badText s)
    | .error (.tooLong digits) => .error (.longText digits)
  | v => .error (.badKind v.kindName)

end Json

namespace Reply

/-- The count in the reply to a pipeline. -/
def count? (reply : Json) : Except ReplyError Int :=
  match reply.item? 1 with
  | .ok v => v.toInteger?
  | .error e => .error (.item e)

/-- The reply to a pipeline whose commands answer integers. -/
def ofCounts (answers : List Int) : Json := .array (answers.map .int)

@[simp] theorem count?_ofCounts (first second : Int) (rest : List Int) :
    count? (ofCounts (first :: second :: rest)) = .ok second := rfl

/-- The reply to a command of its own. -/
def ofCount (answers : List Int) : Json := .int (answers.headD 0)

end Reply

end RateLimit
