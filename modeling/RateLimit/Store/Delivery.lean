import RateLimit.Fault
import RateLimit.Store.Basic

/-!
# Round trips

Commands reach the store in one round trip, and a round trip can fail. A
`Delivery` says what becomes of one: the commands may or may not be applied, and
the reply may be lost, replaced or late. `Store.exchange` is the round trip: what
the sender receives, and the store that is left.
-/

namespace RateLimit

/-- What becomes of one round trip. -/
inductive Delivery where
  /-- The commands are applied and the reply arrives. -/
  | delivered
  /-- Nothing is applied. -/
  | refused (fault : Fault)
  /-- The commands are applied, but the reply is lost. -/
  | lost (fault : Fault)
  /-- The commands are applied, and another reply arrives. -/
  | answered (reply : Json)
  /-- The time is up before anything is sent. -/
  | expired
  deriving Repr

/-- Whether the reply of the store has to be waited for, and if so, whether the commands are
applied by the time that the waiting begins. -/
inductive Pace where
  | prompt
  | slow (applied : Bool)
  deriving DecidableEq, Repr

namespace Delivery

/-- Whether the commands of the round trip reach the store. -/
def applies : Delivery → Bool
  | .delivered => true
  | .refused _ => false
  | .lost _ => true
  | .answered _ => true
  | .expired => false

/-- What the sender receives when the commands answer `answers`. -/
def receive (d : Delivery) (wrap : List Int → Json) (answers : List Int) :
    Except Fault Json :=
  match d with
  | .delivered => .ok (wrap answers)
  | .refused fault => .error fault
  | .lost fault => .error fault
  | .answered reply => .ok reply
  | .expired => .error (.timeout "")

/-- What becomes of a round trip that is given up as soon as its reply has to be waited for.
What is refused is refused without waiting. -/
def unwaited (pace : Pace) (d : Delivery) : Delivery :=
  match pace, d with
  | .prompt, d => d
  | .slow _, .refused fault => .refused fault
  | .slow _, .expired => .expired
  | .slow true, _ => .lost (.timeout "")
  | .slow false, _ => .refused (.timeout "")

@[simp] theorem unwaited_refused (pace : Pace) (fault : Fault) :
    (refused fault).unwaited pace = .refused fault := by cases pace <;> rfl

end Delivery

namespace Store

/-- One round trip at a time of the store. The reply to applied commands is
wrapped by `wrap`. -/
def exchange (now : Int) (s : Store) (commands : List Command) (wrap : List Int → Json)
    (d : Delivery) : Except Fault Json × Store :=
  if d.applies then
    match sendAll now s commands with
    | (.ok answers, s) => (d.receive wrap answers, s)
    | (.error e, s) => (.error (.conversion e), s)
  else (d.receive wrap [], s)

theorem exchange_of_not_applies {d : Delivery} (h : d.applies = false) (now : Int)
    (s : Store) (commands : List Command) (wrap : List Int → Json) :
    exchange now s commands wrap d = (d.receive wrap [], s) := by
  simp [exchange, h]

end Store

end RateLimit
