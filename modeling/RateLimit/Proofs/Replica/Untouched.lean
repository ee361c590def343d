import RateLimit.Proofs.Counter.Step
import RateLimit.Proofs.Limiter.Enforce
import RateLimit.Proofs.Replica.Traffic

/-!
# What counting leaves alone

Counting under a key leaves every other key `Untouched`: the store holds what it held under
it, and no command on it was sent, whatever the clients, the timeout and the disruptions of
the replica are. An act that does so on every replica `Spares` the key. The steps of the
counter spare every key but their own, and a limiter does what the counter does.
-/

namespace RateLimit

variable {α β : Type} {key other : String}

/-- A second replica that has sent no command on a key since the first one, and finds the same
window under it. -/
structure Replica.Untouched (key : String) (r r' : Replica) : Prop where
  window_eq : Table.get? r'.store key = Table.get? r.store key
  unsent : ∃ traffic, r'.sent = r.sent ++ traffic ∧
    ∀ action, Sent.command (.on key action) ∉ traffic

namespace Replica.Untouched

variable {r r' r'' : Replica}

theorem of_eq (hstore : r'.store = r.store) (hsent : r'.sent = r.sent) : Untouched key r r' where
  window_eq := by rw [hstore]
  unsent := ⟨[], by rw [hsent, List.append_nil], fun _ => List.not_mem_nil⟩

theorem refl (key : String) (r : Replica) : Untouched key r r := of_eq rfl rfl

theorem trans (h : Untouched key r r') (h' : Untouched key r' r'') : Untouched key r r'' where
  window_eq := h'.window_eq.trans h.window_eq
  unsent := by
    obtain ⟨first, hfirst, hnone⟩ := h.unsent
    obtain ⟨second, hsecond, hnone'⟩ := h'.unsent
    refine ⟨first ++ second, by rw [hsecond, hfirst, List.append_assoc], fun action hmem => ?_⟩
    exact (List.mem_append.mp hmem).elim (hnone action) (hnone' action)

end Replica.Untouched

namespace Act

open Replica (Untouched)

/-- An act that leaves a key untouched. -/
def Spares (key : String) (x : Act α) : Prop := ∀ r, Untouched key r (x.on r).2

theorem spares_pure (a : α) : Spares key (pure a : Act α) := Untouched.refl key

theorem spares_get : Spares key (get : Act Replica) := Untouched.refl key

theorem spares_mk_pure (result : Except Fault α) :
    Spares key (ExceptT.mk (pure result) : Act α) := Untouched.refl key

theorem Spares.bind {x : Act α} {f : α → Act β} (hx : Spares key x)
    (hf : ∀ a, Spares key (f a)) : Spares key (x >>= f) :=
  related_bind .trans hx hf

/-- An act that counting does not notice, and that sends nothing, touches no key. -/
theorem Aside.spares {x : Act α} (h : Aside x) (hsent : Keeps Replica.sent x) : Spares key x :=
  fun r => .of_eq (h r).store_eq (hsent r)

end Act

namespace Replica

open Act Counter

theorem spares_log (record : Log.Record) : Spares key (log record) :=
  fun r => .of_eq (store_withRecord r record) (sent_withRecord r record)

theorem spares_readClock : Spares key readClock := fun _ => .of_eq rfl rfl

theorem spares_openTrip (client : Client) : Spares key (openTrip client) := by
  cases client with
  | shared => exact fun _ => ⟨rfl, [.opened], rfl, fun _ h => by cases List.mem_singleton.mp h⟩
  | elsewhere connection => exact spares_pure _

theorem spares_dispatch (client : Client) {commands : List Command}
    (h : ∀ action, .on key action ∉ commands) : Spares key (dispatch client commands) := by
  cases client with
  | shared =>
      refine fun _ => ⟨rfl, commands.map .command, rfl, fun action hmem => ?_⟩
      obtain ⟨command, hcommand, heq⟩ := List.mem_map.mp hmem
      cases heq
      exact h action hcommand
  | elsewhere connection => exact spares_pure _

theorem spares_within (timeout : Timeout) {trip : Act Delivery} (h : Spares key trip) :
    Spares key (within timeout trip) := by
  intro r
  rcases snd_on_within timeout trip r with hend | hend <;> rw [hend]
  · exact .refl key r
  · exact h r

theorem spares_applyToStore {operation : Store → α × Store}
    (h : ∀ s, Table.get? (operation s).2 key = Table.get? s key) :
    Spares key (applyToStore operation) :=
  fun r => ⟨h r.store, [], (List.append_nil _).symm, fun _ => List.not_mem_nil⟩

theorem spares_countingClient : Spares key countingClient :=
  aside_countingClient.spares lasting_sent.countingClient

/-- All commands of one check are on its key. -/
theorem CheckTraffic.notMem {p : Policy} {entry : Entry} {traffic : List Sent}
    (h : CheckTraffic p other entry traffic) (hne : key ≠ other) (action : Action) :
    Sent.command (.on key action) ∉ traffic := by
  cases h <;> simp [checkCommands, trimCommand, hne]

section Other

variable (hne : key ≠ other) (timeout : Timeout) (p : Policy)

include hne

theorem spares_check : Spares key (check timeout p other) := by
  intro r
  obtain ⟨traffic, htraffic, hsent⟩ := sent_check timeout p other r
  refine ⟨?_, traffic, hsent, htraffic.notMem hne⟩
  cases hreset : resetAt? p r.clock.now with
  | error e =>
      unfold check checkThrough
      rw [on_bind_of_ok r (on_readClock r), hreset]
      rfl
  | ok resetAt =>
      obtain ⟨o, result, r', -, hcheck, hrun, -⟩ := exists_on_check timeout hreset other
      have hother : key ≠ (Operation.check p other o).key := hne
      have hwindow := Operation.get?_apply_of_ne hother r.store
      rw [hrun]
      exact (congrArg (fun x => Table.get? x.2 key) hcheck).symm.trans hwindow

theorem spares_inspect : Spares key (inspect timeout p other) := by
  refine spares_readClock.bind fun reading => spares_countingClient.bind fun client =>
    (spares_openTrip client).bind fun _ => ?_
  have hcommands : ∀ action, .on key action ∉ inspectCommands p other reading := by
    intro action
    simp [inspectCommands, trimCommand, hne]
  refine (spares_within timeout (spares_dispatch client hcommands)).bind fun delivery =>
    spares_get.bind fun r => ?_
  refine Spares.bind (spares_applyToStore fun s => ?_) fun outcome => spares_mk_pure outcome
  let o : Occasion := { reading, time := r.clock.now, delivery }
  have hother : key ≠ (Operation.inspect p other o).key := hne
  exact Operation.get?_apply_of_ne hother s

theorem spares_clear : Spares key (clear timeout other) := by
  refine spares_countingClient.bind fun client => ?_
  have hcommand : ∀ action, .on key action ∉ [Command.on other .delete] := by
    intro action
    simp [hne]
  refine (spares_within timeout (spares_dispatch client hcommand)).bind fun delivery =>
    spares_get.bind fun r => ?_
  refine Spares.bind (spares_applyToStore fun s => ?_) fun outcome =>
    (spares_mk_pure outcome).bind fun _ => (spares_log _).bind fun _ => spares_pure _
  let o : Occasion := { reading := r.clock.now, time := r.clock.now, delivery }
  have hother : key ≠ (Operation.clear other o).key := hne
  exact Operation.get?_apply_of_ne hother s

end Other

end Replica

namespace Limiter

open Act Replica

theorem spares_hit {l : Limiter} {c : Caller} {name : Option String} {s : Strategy}
    (hne : key ≠ l.keyOf c name s) : Spares key (l.hit c name s) := by
  intro r
  by_cases henabled : l.enabled = true
  · have hfind : Spares key (l.registry.find name) := by
      unfold Registry.find
      split_ifs
      · exact (spares_log _).bind fun _ => spares_pure _
      · exact spares_pure _
    have hunder : Spares key (hitUnder l c s (l.policyOf name)) := by
      refine (spares_check hne l.timeout (l.policyOf name)).bind fun d => ?_
      cases hallowed : d.allowed with
      | true => simpa [hallowed] using spares_pure _
      | false => simpa [hallowed] using (spares_log _).bind fun _ => spares_pure _
    rw [on_hit_eq henabled]
    exact (hfind r).trans (hunder _)
  · unfold hit
    rw [if_neg henabled]
    exact .refl key r

section Administration

variable {l : Limiter} {name : Option String} {identity : String}

/-- Administration goes on with the policy of the name, if there is one. -/
theorem spares_require_bind {reg : Registry} {f : Policy → Act α}
    (h : ∀ p ∈ name.bind reg.get?, Spares key (f p)) : Spares key (reg.require name >>= f) := by
  intro r
  unfold Registry.require
  cases hp : name.bind reg.get? with
  | none => exact .refl key r
  | some p =>
      dsimp only
      rw [on_bind_of_ok r (on_pure r p)]
      exact h p hp r

theorem spares_inspect (h : ∀ p ∈ name.bind l.registry.get?, key ≠ p.keyFor identity) :
    Spares key (l.inspect name identity) :=
  spares_require_bind fun p hp => Replica.spares_inspect (h p hp) l.timeout p

theorem spares_clear (h : ∀ p ∈ name.bind l.registry.get?, key ≠ p.keyFor identity) :
    Spares key (l.clear name identity) :=
  spares_require_bind fun p hp => Replica.spares_clear (h p hp) l.timeout

end Administration

end Limiter

end RateLimit
