import RateLimit.Json.Value

/-!
# Writing JSON texts

`Json.write` writes a value on one line. The only choice is what separates items
and names: `Separators.spaced` for log lines, `Separators.compact` for response
bodies. Characters outside ASCII are kept; the quote, the backslash and the
control characters are escaped, so no text that is written inside a value can
end the line or the value.
-/

namespace RateLimit.Json

open Number (SpecialWords)

/-- What stands between two items and after a name. -/
structure Separators where
  item : String
  name : String
  deriving DecidableEq, Repr

/-- Separators followed by a space. -/
def Separators.spaced : Separators := ⟨", ", ": "⟩

/-- Separators alone. -/
def Separators.compact : Separators := ⟨",", ":"⟩

/-- A character inside a string. -/
def writeChar (c : Char) : List Char :=
  if c = '"' then ['\\', '"']
  else if c = '\\' then ['\\', '\\']
  else if c = '\n' then ['\\', 'n']
  else if c = '\r' then ['\\', 'r']
  else if c = '\t' then ['\\', 't']
  else if c = '\x0c' then ['\\', 'f']
  else if c = '\x08' then ['\\', 'b']
  else if c.toNat < 0x20 then '\\' :: 'u' :: Text.hex 4 c.toNat
  else [c]

/-- A string between quotes. -/
def writeString (s : String) : String :=
  String.ofList ('"' :: s.toList.flatMap writeChar ++ ['"'])

mutual

/-- The text of a value. -/
def write (style : Separators) : Json → String
  | .null => "null"
  | .bool b => if b then "true" else "false"
  | .int n => toString n
  | .float x => x.toText .json
  | .string s => writeString s
  | .array items => "[" ++ style.item.intercalate (writeItems style items) ++ "]"
  | .object members =>
    "\x7b" ++ style.item.intercalate (writeMembers style members) ++ "\x7d"
  | .broken points => writeString (Text.lossyText points)
  | .brokenObject members =>
    "\x7b" ++ style.item.intercalate (writeBroken style members) ++ "\x7d"

/-- The texts of the items of an array. -/
def writeItems (style : Separators) : List Json → List String
  | [] => []
  | v :: rest => write style v :: writeItems style rest

/-- The texts of the members of an object. -/
def writeMembers (style : Separators) : List (String × Json) → List String
  | [] => []
  | (k, v) :: rest =>
    (writeString k ++ style.name ++ write style v) :: writeMembers style rest

/-- The texts of the members of a broken object. -/
def writeBroken (style : Separators) : List (List Nat × Json) → List String
  | [] => []
  | (k, v) :: rest =>
    (writeString (Text.lossyText k) ++ style.name ++ write style v) :: writeBroken style rest

end

/-- The text of a response body. -/
def body (v : Json) : String := write .compact v

mutual

/-- Whether a value can stand in a response body, where every number is finite. -/
def isCompliant : Json → Bool
  | .float x => x.toRat?.isSome
  | .array items => itemsComply items
  | .object members => membersComply members
  | .brokenObject members => brokenComply members
  | _ => true

/-- Whether the items of an array can stand in a response body. -/
def itemsComply : List Json → Bool
  | [] => true
  | v :: rest => isCompliant v && itemsComply rest

/-- Whether the members of an object can stand in a response body. -/
def membersComply : List (String × Json) → Bool
  | [] => true
  | (_, v) :: rest => isCompliant v && membersComply rest

/-- Whether the members of a broken object can stand in a response body. -/
def brokenComply : List (List Nat × Json) → Bool
  | [] => true
  | (_, v) :: rest => isCompliant v && brokenComply rest

end

end RateLimit.Json
