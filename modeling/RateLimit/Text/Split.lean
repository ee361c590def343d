/-!
# Splitting texts

`splitFirst` and `splitLast` split a text at the first or the last character of a
class, and `splitMark` at the first occurrence of a mark. What the text is split
at is dropped; nothing stands on the far side of what does not occur.
-/

namespace RateLimit.Text

/-- Splits a text at the first character of a class. -/
def splitFirst (p : Char → Bool) (cs : List Char) : List Char × Option (List Char) :=
  match cs.dropWhile (fun c => !p c) with
  | [] => (cs, none)
  | _ :: rest => (cs.takeWhile fun c => !p c, some rest)

/-- Splits a text at the last character of a class. -/
def splitLast (p : Char → Bool) (cs : List Char) : Option (List Char) × List Char :=
  match splitFirst p cs.reverse with
  | (_, none) => (none, cs)
  | (after, some before) => (some before.reverse, after.reverse)

/-- The parts of a text before and after the first occurrence of a mark. -/
def splitMark (mark : List Char) : List Char → List Char × List Char
  | [] => ([], [])
  | c :: rest =>
    if mark.isPrefixOf (c :: rest) then ([], (c :: rest).drop mark.length)
    else
      let (before, after) := splitMark mark rest
      (c :: before, after)

end RateLimit.Text
