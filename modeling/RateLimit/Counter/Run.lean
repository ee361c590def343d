import RateLimit.Counter

/-!
# Runs of the counter

An `Operation` is a check, an inspection or a clearing together with its
`Occasion`. `Operation.run` applies a list of operations to a store one after the
other and collects what they answer. Since every operation carries its own
reading, time and delivery, an operation can be left out of a run, or put into
one, without a change to the others: the run of two lists one after the other is
the run of the second on the store that the first leaves, `run_append`.
-/

namespace RateLimit.Counter

open Number (ConversionError)

/-- An operation on one key, with what it meets. -/
inductive Operation where
  | check (p : Policy) (key : String) (o : Occasion)
  | inspect (p : Policy) (key : String) (o : Occasion)
  | clear (key : String) (o : Occasion)
  deriving Repr

/-- What an operation answers. -/
inductive Outcome where
  | checked (result : Except ConversionError Check)
  | inspected (result : Except Fault WindowStatus)
  | cleared (result : Except Fault Bool)

namespace Operation

/-- The key of an operation. -/
def key : Operation → String
  | .check _ key _ => key
  | .inspect _ key _ => key
  | .clear key _ => key

/-- What an operation meets. -/
def occasion : Operation → Occasion
  | .check _ _ o => o
  | .inspect _ _ o => o
  | .clear _ o => o

/-- What an operation answers, and the store that it leaves. -/
def apply (s : Store) : Operation → Outcome × Store
  | .check p key o => let (r, s) := Counter.check p key o s; (.checked r, s)
  | .inspect p key o => let (r, s) := Counter.inspect p key o s; (.inspected r, s)
  | .clear key o => let (r, s) := Counter.clear key o s; (.cleared r, s)

/-- What operations answer one after the other, and the store that they leave. -/
def run (s : Store) : List Operation → List Outcome × Store
  | [] => ([], s)
  | op :: rest =>
    let (outcome, s) := op.apply s
    let (outcomes, s) := run s rest
    (outcome :: outcomes, s)

@[simp] theorem run_nil (s : Store) : run s [] = ([], s) := rfl

theorem run_cons (s : Store) (op : Operation) (rest : List Operation) :
    run s (op :: rest) =
      ((op.apply s).1 :: (run (op.apply s).2 rest).1, (run (op.apply s).2 rest).2) := rfl

theorem run_append (s : Store) (first second : List Operation) :
    run s (first ++ second) =
      ((run s first).1 ++ (run (run s first).2 second).1,
        (run (run s first).2 second).2) := by
  induction first generalizing s with
  | nil => simp
  | cons op rest ih => simp [run_cons, ih]

end Operation

end RateLimit.Counter
