import RateLimit.Text.Percent
import RateLimit.Text.Split

/-!
# Queries

The query of a URL is a list of named values. `Query.read` takes it apart: items
are set apart by ampersands, a plus sign stands for a space, and escapes are undone
in names and values. An item without a name and a value is none; whether an item
with an empty value is one, the reader chooses.
-/

namespace RateLimit.Url.Query

/-- The text of a name or a value. -/
def textOf (cs : List Char) : String :=
  Text.unescape (cs.map fun c => if c = '+' then ' ' else c)

/-- The name and the value of an item. -/
def readItem? (keepEmpty : Bool) (item : List Char) : Option (String × String) :=
  let (name, value) := Text.splitFirst (· = '=') item
  let value := value.getD []
  if item.isEmpty || (value.isEmpty && !keepEmpty) then none
  else some (textOf name, textOf value)

/-- The named values of a query, in order. -/
def read (keepEmpty : Bool) (query : List Char) : List (String × String) :=
  (query.splitOn '&').filterMap (readItem? keepEmpty)

end RateLimit.Url.Query
