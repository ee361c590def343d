import RateLimit.Number.Decimal

/-!
# Reading machine numbers

`Binary64.ofText?` reads the usual notation of a machine number: a decimal, or one
of the words for numbers without digits, in any case and with an optional sign.
Nothing else may stand in the text.
-/

namespace RateLimit.Number.Binary64

/-- The words for an infinite number. -/
def infinityWords : List String := ["inf", "infinity"]

/-- The words for what is not a number. -/
def nanWords : List String := ["nan"]

/-- A number without digits, by its word. -/
def ofWord? (negative : Bool) (word : String) : Option Binary64 :=
  if infinityWords.contains word then some (.infinite negative)
  else if nanWords.contains word then some .nan
  else none

/-- Reads a machine number. -/
def ofText? (cs : List Char) : Option Binary64 :=
  let (negative, unsigned) := Decimal.spanSign cs
  match ofWord? negative (String.ofList unsigned).toLower with
  | some x => some x
  | none => (Decimal.read? cs).map Decimal.toBinary64

end RateLimit.Number.Binary64
