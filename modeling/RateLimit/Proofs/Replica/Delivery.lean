import RateLimit.Proofs.Counter.Afterwards
import RateLimit.Proofs.Replica.Counting

/-!
# What becomes of a round trip

The client of the counter decides what becomes of its next round trip, `Client.delivery`, and
an inspection or a clearing on a replica answers what the counter answers to that, `fst_on_inspect`
and `fst_on_clear`. As long as only the store can fail, `Delivery.IsOrdinary`, there are two
answers: the one of the store if the round trip is delivered, and otherwise that the store is
not available.
-/

namespace RateLimit

/-- What becomes of the next round trip of a client. -/
def Client.delivery (client : Client) (r : Replica) : Delivery :=
  match client with
  | .shared => (Disruption.next r.disruptions).1
  | .elsewhere connection => .refused (Replica.unreachable connection.address)

namespace Delivery

/-- A round trip that is delivered, or that the store fails. -/
def IsOrdinary : Delivery → Prop
  | .delivered => True
  | .refused fault => fault.isStoreFault = true
  | .lost fault => fault.isStoreFault = true
  | .answered _ => False
  | .expired => True

variable {d : Delivery}

/-- What the sender receives of a round trip that the store fails. -/
theorem IsOrdinary.exists_receive_eq (h : d.IsOrdinary) (hne : d ≠ .delivered)
    (wrap : List Int → Json) (answers : List Int) :
    ∃ fault, fault.isStoreFault = true ∧ d.receive wrap answers = .error fault := by
  cases d with
  | delivered => exact absurd rfl hne
  | refused fault => exact ⟨fault, h, rfl⟩
  | lost fault => exact ⟨fault, h, rfl⟩
  | answered reply => exact h.elim
  | expired => exact ⟨.timeout "", rfl, rfl⟩

/-- To give up a round trip is to find that the store has not answered in time. -/
theorem IsOrdinary.unwaited (h : d.IsOrdinary) (pace : Pace) : (d.unwaited pace).IsOrdinary := by
  cases pace with
  | prompt => exact h
  | slow applied =>
      cases d with
      | refused fault => exact h
      | answered reply => exact h.elim
      | delivered => cases applied <;> exact rfl
      | lost fault => cases applied <;> exact rfl
      | expired => cases applied <;> exact trivial

/-- A timeout adds nothing but that the time is up. -/
theorem isOrdinary_deliveryOf (h : d.IsOrdinary) (x : Number.Binary64) (pace : Pace) :
    (deliveryOf (.seconds x) pace (.ok d)).IsOrdinary := by
  unfold deliveryOf
  split_ifs
  · exact trivial
  · dsimp only [Timeout.seconds?]
    split_ifs
    · exact h.unwaited pace
    · exact h

end Delivery

/-- If the store fails a round trip on a key, the sender is told so. -/
theorem Store.exists_exchange_on_eq_error {d : Delivery} (h : d.IsOrdinary) (hne : d ≠ .delivered)
    {now : Int} {key : String} {s : Store} {actions : List Action} {answers : List Int}
    {w : Option Window} (hact : Window.act now (Table.get? s key) actions = (.ok answers, w))
    (wrap : List Int → Json) :
    ∃ fault, fault.isStoreFault = true ∧
      (s.exchange now (actions.map (.on key)) wrap d).1 = .error fault := by
  cases happlies : d.applies with
  | false =>
      rw [exchange_of_not_applies happlies]
      exact h.exists_receive_eq hne wrap []
  | true =>
      rw [(exchange_on_of_ok happlies hact wrap).1]
      exact h.exists_receive_eq hne wrap answers

namespace Counter

variable {p : Policy} {o : Occasion}

theorem explain_of_isStoreFault {fault : Fault} (h : fault.isStoreFault = true) (key : String) :
    explain key fault = .unavailable key (some fault) := by
  unfold explain
  rw [if_pos h]

section Failed

variable (hordinary : o.delivery.IsOrdinary) (hne : o.delivery ≠ .delivered) (key : String)
  (s : Store)

include hordinary hne

theorem fst_inspect_of_failed
    (hlimit : (Number.Binary64.ofInt? (o.reading - p.windowNs)).isSome = true) :
    ∃ fault, (inspect p key o s).1 = .error (.unavailable key (some fault)) := by
  obtain ⟨dropped, hact⟩ := act_inspectActions hlimit (Table.get? s key)
  obtain ⟨fault, hfault, hreceived⟩ :=
    Store.exists_exchange_on_eq_error hordinary hne hact Reply.ofCounts
  exact ⟨fault, (fst_inspect_of_error hreceived).trans
    (congrArg Except.error (explain_of_isStoreFault hfault key))⟩

theorem fst_clear_of_failed :
    ∃ fault, (clear key o s).1 = .error (.unavailable key (some fault)) := by
  obtain ⟨fault, hfault, hreceived⟩ := Store.exists_exchange_on_eq_error hordinary hne
    (act_delete o.time (Table.get? s key)) Reply.ofCount
  rw [List.map_singleton] at hreceived
  refine ⟨fault, ?_⟩
  rw [clear_eq, hreceived, ← explain_of_isStoreFault hfault]
  rfl

end Failed

end Counter

namespace Replica

open Act

variable {r : Replica} {client : Client}

theorem on_countingClient_of_some (h : r.counterClient = some client) :
    countingClient.on r = (.ok client, r) := by
  unfold countingClient
  rw [on_bind_of_ok r (on_get r), h]
  rfl

/-- Whatever commands a client sends, it meets its next round trip. -/
theorem fst_on_dispatch (client : Client) (commands : List Command) (r : Replica) :
    ((dispatch client commands).on r).1 = .ok (client.delivery r) := by
  cases client with
  | shared => rfl
  | elsewhere connection => rfl

theorem exists_on_openTrip (client : Client) (r : Replica) :
    ∃ r', (openTrip client).on r = (.ok (), r') ∧ Beside r r' ∧ r'.pace = r.pace ∧
      client.delivery r' = client.delivery r := by
  cases client with
  | shared => exact ⟨_, rfl, aside_note [.opened] r, rfl, rfl⟩
  | elsewhere connection => exact ⟨r, rfl, .refl r, rfl, rfl⟩

theorem exists_on_within (timeout : Timeout) (client : Client) (commands : List Command)
    (r : Replica) :
    ∃ r', (within timeout (dispatch client commands)).on r =
      (.ok (deliveryOf timeout r.pace (.ok (client.delivery r))), r') ∧ Beside r r' := by
  have hdispatch := fst_on_dispatch client commands r
  have hbeside := aside_dispatch client commands r
  unfold within deliveryOf
  split_ifs
  · exact ⟨r, rfl, .refl r⟩
  · cases timeout.seconds? with
    | error e => exact ⟨r, rfl, .refl r⟩
    | ok x =>
        dsimp only
        refine ⟨((dispatch client commands).on r).2, ?_, hbeside⟩
        split_ifs
        · rw [on_unwaited, hdispatch]
          rfl
        · exact Prod.ext hdispatch rfl

section Client

variable (h : r.counterClient = some client) (timeout : Timeout)

include h

/-- An inspection answers what the counter answers to the round trip of the client. -/
theorem fst_on_inspect (p : Policy) (key : String) :
    ((inspect timeout p key).on r).1 =
      (Counter.inspect p key
        { reading := r.clock.now, time := r.clock.now + r.clock.tick,
          delivery := deliveryOf timeout r.pace (.ok (client.delivery r)) } r.store).1 := by
  have hclient : countingClient.on r.ticked = (.ok client, r.ticked) :=
    on_countingClient_of_some h
  obtain ⟨r₁, hopen, hbeside₁, hpace, hdelivery⟩ := exists_on_openTrip client r.ticked
  obtain ⟨r₂, hwithin, hbeside₂⟩ :=
    exists_on_within timeout client (Counter.inspectCommands p key r.clock.now) r₁
  rw [hpace, hdelivery] at hwithin
  have hbeside := hbeside₁.trans hbeside₂
  unfold inspect
  rw [on_bind_of_ok r (on_readClock r), on_bind_of_ok _ hclient, on_bind_of_ok _ hopen,
    on_bind_of_ok _ hwithin, on_bind_of_ok _ (on_get _), on_bind_of_ok _ (on_applyToStore _ _),
    on_mk_pure, hbeside.store_eq, hbeside.clock_eq]
  rfl

/-- So does a clearing, and logging it does not change the answer. -/
theorem fst_on_clear (key : String) :
    ((clear timeout key).on r).1 =
      (Counter.clear key
        { reading := r.clock.now, time := r.clock.now,
          delivery := deliveryOf timeout r.pace (.ok (client.delivery r)) } r.store).1 := by
  obtain ⟨r₁, hwithin, hbeside⟩ := exists_on_within timeout client [.on key .delete] r
  unfold clear
  rw [on_bind_of_ok r (on_countingClient_of_some h), on_bind_of_ok _ hwithin,
    on_bind_of_ok _ (on_get _), on_bind_of_ok _ (on_applyToStore _ _), hbeside.store_eq,
    hbeside.clock_eq]
  generalize Counter.clear key _ r.store = answer
  obtain ⟨result, store⟩ := answer
  cases result with
  | error fault => rfl
  | ok removed => rfl

end Client

end Replica

end RateLimit
