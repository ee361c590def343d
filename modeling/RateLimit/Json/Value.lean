import RateLimit.Number.Text
import RateLimit.Table
import RateLimit.Text.Points

/-!
# JSON values

A `Json` value tells integers of any size and machine numbers apart, and the
members of an object keep their order. `Json.display` is the text of a value in
messages and settings: a string stands for itself there, and is quoted only
inside an array or an object.

A string that is read from escapes may be broken: halves of characters stand alone
in it, so that it is no text but a list of code points. An object with a broken
name is broken, too.
-/

namespace RateLimit

open Number (Binary64 SpecialWords)

/-- A JSON value. -/
inductive Json where
  | null
  | bool (b : Bool)
  | int (n : Int)
  | float (x : Binary64)
  | string (s : String)
  | array (items : List Json)
  | object (members : List (String × Json))
  | broken (points : List Nat)
  | brokenObject (members : List (List Nat × Json))
  deriving Repr, Inhabited

namespace Json

/-- The members of an object. -/
def members? : Json → Option (Table Json)
  | .object members => some members
  | _ => none

/-- A member of an object; nothing else has members. -/
def get? (v : Json) (k : String) : Option Json :=
  v.members?.bind (Table.get? · k)

/-- Whether a value counts as set: neither null, false, a zero nor empty. -/
def isSet : Json → Bool
  | .null => false
  | .bool b => b
  | .int n => n ≠ 0
  | .float x => !x.isZero
  | .string s => s ≠ ""
  | .array items => !items.isEmpty
  | .object members => !members.isEmpty
  | .broken _ => true
  | .brokenObject _ => true

/-- The name of the kind of a value in error texts. -/
def kindName : Json → String
  | .null => "NoneType"
  | .bool _ => "bool"
  | .int _ => "int"
  | .float _ => "float"
  | .string _ => "str"
  | .array _ => "list"
  | .object _ => "dict"
  | .broken _ => "str"
  | .brokenObject _ => "dict"

mutual

/-- The text of a value inside an array or an object. -/
def quoted : Json → String
  | .null => "None"
  | .bool b => if b then "True" else "False"
  | .int n => toString n
  | .float x => x.toText .short
  | .string s => Text.quote s
  | .array items => "[" ++ ", ".intercalate (quotedItems items) ++ "]"
  | .object members => "\x7b" ++ ", ".intercalate (quotedMembers members) ++ "\x7d"
  | .broken points => Text.quotePoints points
  | .brokenObject members =>
    "\x7b" ++ ", ".intercalate (quotedBroken members) ++ "\x7d"

/-- The texts of the items of an array. -/
def quotedItems : List Json → List String
  | [] => []
  | v :: rest => quoted v :: quotedItems rest

/-- The texts of the members of an object. -/
def quotedMembers : List (String × Json) → List String
  | [] => []
  | (k, v) :: rest => (Text.quote k ++ ": " ++ quoted v) :: quotedMembers rest

/-- The texts of the members of a broken object. -/
def quotedBroken : List (List Nat × Json) → List String
  | [] => []
  | (k, v) :: rest => (Text.quotePoints k ++ ": " ++ quoted v) :: quotedBroken rest

end

/-- The text of a value. -/
def display : Json → String
  | .string s => s
  | .broken points => Text.lossyText points
  | v => quoted v

/-- A string, which is broken if it holds a half of a character. -/
def ofPoints (points : List Nat) : Json :=
  if points.any Text.isHalf then .broken points else .string (Text.ofPoints points)

/-- Writes a value under a name: in its place, or at the end. -/
def putBroken (k : List Nat) (v : Json) : List (List Nat × Json) → List (List Nat × Json)
  | [] => [(k, v)]
  | (j, w) :: rest => if j = k then (j, v) :: rest else (j, w) :: putBroken k v rest

/-- An object, which is broken if one of its names is. The last value under a name
counts, at the place of the first. -/
def ofMembers (members : List (List Nat × Json)) : Json :=
  if members.any fun m => m.1.any Text.isHalf then
    .brokenObject (members.foldl (fun t m => putBroken m.1 m.2 t) [])
  else .object (Table.ofList (members.map fun m => (Text.ofPoints m.1, m.2)))

end Json

end RateLimit
