import RateLimit.Store.Window

/-!
# The store

A `Store` is a table of windows. `Store.send` applies a command at a time of the
store and answers an integer; a window whose deadline has passed is dropped
before the command is applied. `Store.sendAll` applies a list of commands one
after the other and stops at the first that fails. A command on one key leaves
every other key alone: `get?_send_of_ne`.
-/

namespace RateLimit

open Number (ConversionError)

/-- The windows under their keys. -/
abbrev Store := Table Window

/-- A command. -/
inductive Command where
  /-- A command on the window under a key. -/
  | on (key : String) (action : Action)
  /-- A question that only shows that the store answers. -/
  | ping
  deriving DecidableEq, Repr

namespace Store

/-- The window under a key at a time of the store. -/
def windowAt (now : Int) (key : String) (s : Store) : Option Window :=
  Window.at? now (Table.get? s key)

/-- The store with a window under a key, or with none. -/
def setWindow (key : String) (w : Option Window) (s : Store) : Store :=
  match w with
  | some w => Table.put key w s
  | none => Table.erase key s

@[simp] theorem get?_setWindow_self (key : String) (w : Option Window) (s : Store) :
    Table.get? (setWindow key w s) key = w := by
  cases w <;> simp [setWindow]

theorem get?_setWindow_of_ne {j key : String} (h : j ≠ key) (w : Option Window) (s : Store) :
    Table.get? (setWindow key w s) j = Table.get? s j := by
  cases w <;> simp [setWindow, Table.get?_put_of_ne h, Table.get?_erase_of_ne h]

/-- Applies a command at a time of the store. -/
def send (now : Int) (s : Store) : Command → Except ConversionError Int × Store
  | .on key action =>
    let w := windowAt now key s
    match action.apply now w with
    | .ok (answer, w) => (.ok answer, setWindow key w s)
    | .error e => (.error e, setWindow key w s)
  | .ping => (.ok 1, s)

theorem get?_send_of_ne {j key : String} (h : j ≠ key) (now : Int) (s : Store)
    (action : Action) :
    Table.get? (send now s (.on key action)).2 j = Table.get? s j := by
  unfold send
  dsimp only
  split <;> simp [get?_setWindow_of_ne h]

/-- Applies commands one after the other, up to the first that fails. -/
def sendAll (now : Int) (s : Store) :
    List Command → Except ConversionError (List Int) × Store
  | [] => (.ok [], s)
  | c :: rest =>
    match send now s c with
    | (.error e, s) => (.error e, s)
    | (.ok answer, s) =>
      match sendAll now s rest with
      | (.error e, s) => (.error e, s)
      | (.ok answers, s) => (.ok (answer :: answers), s)

/-- The store without the windows whose deadline has passed. -/
def live (now : Int) (s : Store) : Store :=
  s.filter fun p => (Window.at? now (some p.2)).isSome

/-- The keys and windows in the order of the keys. -/
def sorted (s : Store) : List (String × Window) :=
  s.mergeSort fun a b => decide (a.1 ≤ b.1)

end Store

end RateLimit
