import RateLimit.Json.Reader
import RateLimit.Text.Blank

/-!
# Allowed origins

The origins that may use the service are given as a list, as the text of a JSON
list, or as a text of origins set apart by commas and blanks. `Origins.ofValue`
reads all three. A star among the origins of a text stands for all.
-/

namespace RateLimit.Origins

/-- What sets origins apart. -/
def isSeparator (c : Char) : Bool := c = ',' || Text.isBlank c

/-- The texts of the items of a list, without blanks around them and without
empty ones. -/
def ofItems (items : List Json) : List String :=
  (items.map fun v => Text.strip v.display).filter (· ≠ "")

/-- The parts of a text between its separators. -/
def parts (cs : List Char) : List String :=
  ((cs.splitOnP isSeparator).filter (!·.isEmpty)).map String.ofList

/-- Each origin once, or the star alone. -/
def ofParts (origins : List String) : List String :=
  if origins.contains "*" then ["*"] else origins.eraseDups

/-- The origins of a text. A JSON text with a mistake in its grammar, or with
anything but a list, is read as any other text. -/
def ofText (raw : String) : Except JsonError (List String) :=
  let text := Text.strip raw
  if text = "" ∨ text = "[]" then .ok []
  else if text.toList.head? = some '[' then
    match Json.read? text with
    | .ok (.array items) => .ok (ofItems items)
    | .ok _ => .ok (ofParts (parts text.toList))
    | .error .malformed => .ok (ofParts (parts text.toList))
    | .error e => .error e
  else .ok (ofParts (parts text.toList))

/-- The origins of a value. -/
def ofValue : Json → Except JsonError (List String)
  | .null => .ok []
  | .array items => .ok (ofItems items)
  | v => ofText v.display

end RateLimit.Origins
