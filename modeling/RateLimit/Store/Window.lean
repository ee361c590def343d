import RateLimit.Number.Binary64
import RateLimit.Table

/-!
# Windows in the store

A `Window` is what the store holds under one key: a list of entries, each scored
by the machine number nearest to its clock reading, and a deadline after which
the whole window is dropped. An `Action` is a command on one window. It acts on
an `Option Window`, so that an absent window is a state of its own: `trim` leaves
no window behind when it leaves no entry, and only `add` makes one.
-/

namespace RateLimit

open Number (Binary64 ConversionError)

/-- A recorded request: the reading of the clock that counted it, and a token
that tells entries with one reading apart. -/
structure Entry where
  reading : Int
  token : Nat
  deriving DecidableEq, Repr

/-- The score of an entry. -/
def Entry.score (e : Entry) : Int := Binary64.nearest e.reading

/-- The entries under one key. -/
structure Window where
  entries : List Entry
  deadline : Option Int := none
  deriving DecidableEq, Repr

namespace Window

/-- The window as it is at a time of the store: none from its deadline on. -/
def at? (now : Int) (w : Option Window) : Option Window :=
  w.filter fun w => w.deadline.all fun deadline => decide (now < deadline)

@[simp] theorem at?_none (now : Int) : at? now none = none := rfl

/-- The entries that lie above a score. -/
def above (score : Int) (w : Window) : List Entry :=
  w.entries.filter fun e => decide (score < e.score)

/-- The window without its entries up to a score, and none without entries. -/
def trim (score : Int) (w : Window) : Option Window :=
  if (w.above score).isEmpty then none else some { w with entries := w.above score }

/-- The window with an entry, which is written once. -/
def add (e : Entry) : Option Window → Window
  | none => ⟨[e], none⟩
  | some w => if e ∈ w.entries then w else { w with entries := w.entries ++ [e] }

/-- How many entries there are. -/
def count : Option Window → Nat
  | none => 0
  | some w => w.entries.length

/-- Lower scores first, and of one score the lesser text. -/
def entryLe (a b : Entry) : Bool :=
  if a.score = b.score then decide (toString a.reading ≤ toString b.reading)
  else decide (a.score ≤ b.score)

/-- The entries in order of their scores. -/
def sorted (w : Window) : List Entry := w.entries.mergeSort entryLe

end Window

/-- A command on one window. -/
inductive Action where
  /-- Drops the entries whose score is not above the number. -/
  | trim (limit : Int)
  /-- Counts the entries. -/
  | count
  /-- Adds an entry. -/
  | add (entry : Entry)
  /-- Sets the deadline to so many seconds from now. -/
  | expire (seconds : Int)
  /-- Drops the window. -/
  | delete
  deriving DecidableEq, Repr

namespace Action

/-- Nanoseconds in a second. -/
def second : Int := 1000000000

/-- What a command answers, and the window that it leaves. It fails on a number
that the store cannot hold. -/
def apply (now : Int) (w : Option Window) :
    Action → Except ConversionError (Int × Option Window)
  | .trim limit =>
    match Binary64.ofInt limit with
    | .error e => .error e
    | .ok _ =>
      let kept := w.bind (Window.trim (Binary64.nearest limit))
      .ok (Window.count w - Window.count kept, kept)
  | .count => .ok (Window.count w, w)
  | .add entry =>
    match Binary64.ofInt entry.reading with
    | .error e => .error e
    | .ok _ =>
      let grown := Window.add entry w
      .ok (Window.count (some grown) - Window.count w, some grown)
  | .expire seconds =>
    match w with
    | none => .ok (0, none)
    | some w => .ok (1, some { w with deadline := some (now + seconds * second) })
  | .delete => .ok (if w.isSome then 1 else 0, none)

end Action

end RateLimit
