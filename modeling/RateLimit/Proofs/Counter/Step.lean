import RateLimit.Counter.Run
import RateLimit.Proofs.Counter.Check

/-!
# What one operation does

`Operation.Step` lists everything an operation can do to the window of its key. It is
applied as a whole, `Operation.isApplied`, or it leaves the window alone, except that an
expired window may be dropped on the way. `apply_step` says that this is all, and
`get?_apply_of_ne` that no other key is touched.
-/

namespace RateLimit.Counter

open Number (Binary64 ConversionError)

theorem exchange_inspectCommands {p : Policy} {o : Occasion}
    (happlies : o.delivery.applies = true)
    (hlimit : (Binary64.ofInt? (o.reading - p.windowNs)).isSome = true) (key : String)
    (s : Store) :
    ∃ dropped : Int,
      (s.exchange o.time (inspectCommands p key o.reading) Reply.ofCounts o.delivery).1 =
          o.delivery.receive Reply.ofCounts [dropped, seen p o (Table.get? s key)] ∧
        Table.get? (s.exchange o.time (inspectCommands p key o.reading) Reply.ofCounts
          o.delivery).2 key = trimmed p o (Table.get? s key) := by
  obtain ⟨dropped, hact⟩ := act_inspectActions hlimit (Table.get? s key)
  exact ⟨dropped, Store.exchange_on_of_ok happlies hact Reply.ofCounts⟩

theorem exchange_inspectCommands_of_none {p : Policy} {o : Occasion}
    (happlies : o.delivery.applies = true)
    (hlimit : Binary64.ofInt? (o.reading - p.windowNs) = none) (key : String) (s : Store) :
    (s.exchange o.time (inspectCommands p key o.reading) Reply.ofCounts o.delivery).1 =
        .error (.conversion .integerTooLarge) ∧
      Table.get? (s.exchange o.time (inspectCommands p key o.reading) Reply.ofCounts
        o.delivery).2 key = Window.at? o.time (Table.get? s key) := by
  have htrim :=
    Action.apply_trim_of_none hlimit o.time (Window.at? o.time (Table.get? s key))
  have hact : Window.act o.time (Table.get? s key) (inspectActions p o.reading) =
      (.error .integerTooLarge, Window.at? o.time (Table.get? s key)) :=
    Window.act_cons_of_error htrim _
  exact Store.exchange_on_of_error happlies hact Reply.ofCounts

theorem snd_inspect (p : Policy) (key : String) (o : Occasion) (s : Store) :
    (inspect p key o s).2 =
      (s.exchange o.time (inspectCommands p key o.reading) Reply.ofCounts o.delivery).2 := by
  unfold inspect
  split
  · rename_i h
    rw [h]
  · rename_i h
    rw [h]
    split
    · rfl
    · split <;> rfl

theorem fst_inspect_of_error {p : Policy} {key : String} {o : Occasion} {s : Store}
    {fault : Fault}
    (h : (s.exchange o.time (inspectCommands p key o.reading) Reply.ofCounts
      o.delivery).1 = .error fault) :
    (inspect p key o s).1 = .error (explain key fault) := by
  unfold inspect
  split
  · rename_i heq
    rw [heq] at h
    cases h
    rfl
  · rename_i heq
    rw [heq] at h
    cases h

theorem fst_inspect_of_delivered {p : Policy} {o : Occasion}
    (hdelivery : o.delivery = .delivered)
    (hlimit : (Binary64.ofInt? (o.reading - p.windowNs)).isSome = true) (key : String)
    (s : Store) :
    (inspect p key o s).1 =
      ((resetAt? p o.reading).mapError .conversion).map fun resetAt =>
        ⟨seen p o (Table.get? s key), resetAt⟩ := by
  have happlies := Delivery.applies_of_eq hdelivery
  obtain ⟨dropped, hreply, -⟩ := exchange_inspectCommands happlies hlimit key s
  unfold inspect
  rw [hdelivery] at hreply ⊢
  split
  · rename_i heq
    rw [heq] at hreply
    cases hreply
  · rename_i heq
    rw [heq] at hreply
    cases hreply
    rw [Reply.count?_ofCounts]
    cases resetAt? p o.reading <;> rfl

/-- Whether the count that the store takes for an inspection reaches the caller. -/
def IsInspected (p : Policy) (o : Occasion) : Prop :=
  o.delivery = .delivered ∧ (Binary64.ofInt? (o.reading - p.windowNs)).isSome = true ∧
    (Binary64.ofInt? (o.reading + p.windowNs)).isSome = true

/-- An inspection answers what it has seen, or it fails. -/
theorem inspect_cases {p : Policy} {o : Occasion}
    (hfaithful : o.delivery.isFaithful = true) (key : String) (s : Store) :
    (∃ fault, ¬IsInspected p o ∧ (inspect p key o s).1 = .error fault) ∨
      ∃ resetAt, resetAt? p o.reading = .ok resetAt ∧ IsInspected p o ∧
        (inspect p key o s).1 = .ok ⟨seen p o (Table.get? s key), resetAt⟩ := by
  by_cases hdelivery : o.delivery = .delivered
  · have happlies := Delivery.applies_of_eq hdelivery
    cases hlimit : Binary64.ofInt? (o.reading - p.windowNs) with
    | none =>
        left
        obtain ⟨hreply, -⟩ := exchange_inspectCommands_of_none happlies hlimit key s
        refine ⟨_, ?_, fst_inspect_of_error hreply⟩
        rintro ⟨-, hsome, -⟩
        rw [hlimit] at hsome
        cases hsome
    | some x =>
        have hsome : (Binary64.ofInt? (o.reading - p.windowNs)).isSome = true := by
          rw [hlimit]
          rfl
        rw [fst_inspect_of_delivered hdelivery hsome]
        cases hreset : resetAt? p o.reading with
        | error e =>
            left
            refine ⟨_, ?_, rfl⟩
            rintro ⟨-, -, hfits⟩
            obtain ⟨resetAt, hok⟩ := resetAt?_eq_ok_of_isSome hfits
            rw [hok] at hreset
            cases hreset
        | ok resetAt =>
            right
            have hfits := isSome_of_resetAt?_eq_ok hreset
            exact ⟨resetAt, rfl, ⟨hdelivery, hsome, hfits⟩, rfl⟩
  · left
    obtain ⟨fault, hfault⟩ := Store.exists_exchange_eq_error hfaithful hdelivery o.time s
      (inspectCommands p key o.reading) Reply.ofCounts
    exact ⟨_, fun h => hdelivery h.1, fst_inspect_of_error hfault⟩

theorem snd_clear (key : String) (o : Occasion) (s : Store) :
    (clear key o s).2 =
      (s.exchange o.time [.on key .delete] Reply.ofCount o.delivery).2 := by
  unfold clear
  split <;> rename_i h <;> rw [h]

theorem act_delete (now : Int) (w : Option Window) :
    Window.act now w [.delete] =
      (.ok [if (Window.at? now w).isSome then 1 else 0], none) := rfl

/-- A clearing tells whether there was a window, or it fails. -/
theorem clear_cases {o : Occasion} (hfaithful : o.delivery.isFaithful = true) (key : String)
    (s : Store) :
    (o.delivery ≠ .delivered ∧ ∃ fault, (clear key o s).1 = .error fault) ∨
      o.delivery = .delivered ∧
        (clear key o s).1 = .ok (Window.at? o.time (Table.get? s key)).isSome := by
  by_cases hdelivery : o.delivery = .delivered
  · right
    have happlies := Delivery.applies_of_eq hdelivery
    obtain ⟨hreply, -⟩ :=
      Store.exchange_on_of_ok happlies (act_delete o.time (Table.get? s key)) Reply.ofCount
    refine ⟨hdelivery, ?_⟩
    unfold clear
    rw [hdelivery] at hreply ⊢
    split
    · rename_i heq
      rw [List.map_singleton, heq] at hreply
      cases hreply
    · rename_i heq
      rw [List.map_singleton, heq] at hreply
      cases hreply
      cases (Window.at? o.time (Table.get? s key)).isSome <;> rfl
  · left
    obtain ⟨fault, hfault⟩ := Store.exists_exchange_eq_error hfaithful hdelivery o.time s
      [.on key .delete] Reply.ofCount
    refine ⟨hdelivery, explain key fault, ?_⟩
    unfold clear
    split
    · rename_i heq
      rw [heq] at hfault
      cases hfault
      rfl
    · rename_i heq
      rw [heq] at hfault
      cases hfault

namespace Operation

/-- Whether the round trip of an operation is applied to the store. -/
def isApplied : Operation → Bool
  | .check p _ o => o.delivery.applies && fits p o.reading
  | .inspect p _ o =>
      o.delivery.applies && (Binary64.ofInt? (o.reading - p.windowNs)).isSome
  | .clear _ o => o.delivery.applies

/-- Whether an operation reads the clock. -/
def readsClock : Operation → Bool
  | .check _ _ _ => true
  | .inspect _ _ _ => true
  | .clear _ _ => false

/-- What an operation can do to the window of its key. -/
inductive Step : Operation → Option Window → Option Window → Prop
  | idle {op : Operation} {w : Option Window} : op.isApplied = false → Step op w w
  | dropped {op : Operation} {w : Option Window} : op.isApplied = false →
      op.readsClock = true → Step op w (Window.at? op.occasion.time w)
  | checked {p : Policy} {key : String} {o : Occasion} {ttl : Int} {w : Option Window} :
      (check p key o).isApplied = true → p.keyTtl? = .ok ttl →
        Step (.check p key o) w (some (recorded p o ttl w))
  | inspected {p : Policy} {key : String} {o : Occasion} {w : Option Window} :
      (inspect p key o).isApplied = true → Step (.inspect p key o) w (trimmed p o w)
  | cleared {key : String} {o : Occasion} {w : Option Window} :
      (clear key o).isApplied = true → Step (.clear key o) w none

theorem step_check (p : Policy) (key : String) (o : Occasion) (s : Store) :
    Step (.check p key o) (Table.get? s key)
      (Table.get? (Counter.check p key o s).2 key) := by
  cases hreset : resetAt? p o.reading with
  | error e =>
      rw [check_of_resetAt?_error hreset]
      refine Step.idle ?_
      cases happlied : isApplied (.check p key o) with
      | false => rfl
      | true =>
          have hfits := (Bool.and_eq_true_iff.mp happlied).2
          obtain ⟨resetAt, hok⟩ := resetAt?_eq_ok_of_isSome (fits_iff.mp hfits).2.2
          rw [hok] at hreset
          cases hreset
  | ok resetAt =>
      rw [(check_of_resetAt?_ok hreset key s).1]
      cases happlied : isApplied (.check p key o) with
      | false =>
          obtain ⟨-, hwindow⟩ := countAndRecord_of_not_fits
            (isSome_of_resetAt?_eq_ok hreset) happlied key s
          rcases hwindow with h | h
          · rw [h]
            exact Step.idle happlied
          · rw [h]
            exact Step.dropped happlied rfl
      | true =>
          obtain ⟨happlies, hfits⟩ := Bool.and_eq_true_iff.mp happlied
          obtain ⟨⟨ttl, httl⟩, -⟩ := fits_iff.mp hfits
          obtain ⟨dropped, added, -, hwindow⟩ :=
            countAndRecord_of_fits happlies httl hfits key s
          rw [hwindow]
          exact Step.checked happlied httl

theorem step_inspect (p : Policy) (key : String) (o : Occasion) (s : Store) :
    Step (.inspect p key o) (Table.get? s key)
      (Table.get? (Counter.inspect p key o s).2 key) := by
  rw [snd_inspect]
  cases happlies : o.delivery.applies with
  | false =>
      rw [Store.exchange_of_not_applies happlies]
      exact Step.idle (by rw [isApplied, happlies, Bool.false_and])
  | true =>
      cases hlimit : Binary64.ofInt? (o.reading - p.windowNs) with
      | none =>
          obtain ⟨-, hwindow⟩ := exchange_inspectCommands_of_none happlies hlimit key s
          rw [hwindow]
          exact Step.dropped (by rw [isApplied, hlimit]; exact Bool.and_false _) rfl
      | some x =>
          have hsome : (Binary64.ofInt? (o.reading - p.windowNs)).isSome = true := by
            rw [hlimit]
            rfl
          obtain ⟨dropped, -, hwindow⟩ := exchange_inspectCommands happlies hsome key s
          rw [hwindow]
          exact Step.inspected (by rw [isApplied, happlies, hsome, Bool.and_self])

theorem step_clear (key : String) (o : Occasion) (s : Store) :
    Step (.clear key o) (Table.get? s key) (Table.get? (Counter.clear key o s).2 key) := by
  rw [snd_clear]
  cases happlies : o.delivery.applies with
  | false =>
      rw [Store.exchange_of_not_applies happlies]
      exact Step.idle happlies
  | true =>
      obtain ⟨-, hwindow⟩ :=
        Store.exchange_on_of_ok happlies (act_delete o.time (Table.get? s key)) Reply.ofCount
      exact hwindow ▸ Step.cleared happlies

/-- An operation does no more to its key than `Step` says. -/
theorem apply_step (op : Operation) (s : Store) :
    Step op (Table.get? s op.key) (Table.get? (op.apply s).2 op.key) := by
  cases op with
  | check p key o => exact step_check p key o s
  | inspect p key o => exact step_inspect p key o s
  | clear key o => exact step_clear key o s

/-- An operation leaves every other key alone. -/
theorem get?_apply_of_ne {op : Operation} {j : String} (hne : j ≠ op.key) (s : Store) :
    Table.get? (op.apply s).2 j = Table.get? s j := by
  cases op with
  | check p key o =>
      show Table.get? (Counter.check p key o s).2 j = Table.get? s j
      cases hreset : resetAt? p o.reading with
      | error e => rw [check_of_resetAt?_error hreset]
      | ok resetAt =>
          rw [(check_of_resetAt?_ok hreset key s).1]
          exact get?_countAndRecord_of_ne hne s
  | inspect p key o =>
      show Table.get? (Counter.inspect p key o s).2 j = Table.get? s j
      rw [snd_inspect]
      exact Store.get?_exchange_of_ne hne _ (inspectActions p o.reading) _ _ _
  | clear key o =>
      show Table.get? (Counter.clear key o s).2 j = Table.get? s j
      rw [snd_clear]
      exact Store.get?_exchange_of_ne hne _ [.delete] _ _ _

end Operation

end RateLimit.Counter
