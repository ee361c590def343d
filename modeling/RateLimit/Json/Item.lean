import RateLimit.Json.Value

/-!
# Items by position

`Json.item?` is the item of a value at a position, counted from zero: an item of a
list, or a character of a text. Nothing else has items.
-/

namespace RateLimit

/-- Why a value has no item at a position. -/
inductive ItemError where
  /-- The value has no items. -/
  | noItems (kind : String)
  /-- The list is too short. -/
  | shortList
  /-- The text is too short. -/
  | shortText
  /-- The value has names in place of positions. -/
  | noPosition (position : Nat)
  deriving DecidableEq, Repr

/-- The wording of the error. -/
def ItemError.message : ItemError → String
  | .noItems kind => "'" ++ kind ++ "' object is not subscriptable"
  | .shortList => "list index out of range"
  | .shortText => "string index out of range"
  | .noPosition position => toString position

namespace Json

/-- The item of a value at a position. -/
def item? (v : Json) (position : Nat) : Except ItemError Json :=
  match v with
  | .array items =>
    match items[position]? with
    | some item => .ok item
    | none => .error .shortList
  | .string s =>
    match s.toList[position]? with
    | some c => .ok (.string (String.singleton c))
    | none => .error .shortText
  | .broken points =>
    match points[position]? with
    | some n => .ok (ofPoints [n])
    | none => .error .shortText
  | .object _ => .error (.noPosition position)
  | .brokenObject _ => .error (.noPosition position)
  | v => .error (.noItems v.kindName)

end Json

end RateLimit
