import RateLimit.Proofs.Admin.Run
import RateLimit.Proofs.Replica.Delivery

/-!
# When the client of a task is closed

A task makes one connection for its client. Whatever it does on a limiter then, it makes and
closes no others, whatever the store and the disruptions are: `attached_perform`. The connection
is closed when the task has ended, with an exit code or a fault; but settings that make no
policies end the task before that is arranged, and leave it open: `closed_runLine_iff`.
-/

namespace RateLimit

open Act

variable {α β : Type} {client : Client}

namespace Replica

/-- The serial numbers of the connections that were made since. -/
def made (r r' : Replica) : List Nat :=
  List.range' r.issuedConnections (r'.issuedConnections - r.issuedConnections)

/-- Every connection that was made since is closed, and only once. -/
def ClosesMade (r r' : Replica) : Prop :=
  ∃ closed, r'.closings = r.closings ++ closed ∧ ∀ serial ∈ made r r', closed.count serial = 1

/-- A second replica with the same client and the same connections. -/
structure Attached (client : Client) (r r' : Replica) : Prop where
  counterClient_eq : r'.counterClient = some client
  issuedConnections_eq : r'.issuedConnections = r.issuedConnections
  closings_eq : r'.closings = r.closings

variable {r r' r'' : Replica}

theorem Attached.trans (h : Attached client r r') (h' : Attached client r' r'') :
    Attached client r r'' where
  counterClient_eq := h'.counterClient_eq
  issuedConnections_eq := h'.issuedConnections_eq.trans h.issuedConnections_eq
  closings_eq := h'.closings_eq.trans h.closings_eq

theorem attached_withRecord (h : r.counterClient = some client) (record : Log.Record) :
    Attached client r (r.withRecord record) := by
  unfold withRecord
  split_ifs <;> exact ⟨h, rfl, rfl⟩

theorem made_eq_nil (h : r'.issuedConnections = r.issuedConnections) : made r r' = [] := by
  unfold made
  rw [h, Nat.sub_self]
  rfl

theorem made_eq_singleton (h : r'.issuedConnections = r.issuedConnections + 1) :
    made r r' = [r.issuedConnections] := by
  unfold made
  rw [h, Nat.add_sub_cancel_left]
  rfl

end Replica

namespace Act

open Replica (Attached)

/-- An act of a replica that has a client, which it keeps together with all connections. -/
def StaysAttached (client : Client) (x : Act α) : Prop :=
  ∀ r : Replica, r.counterClient = some client → Attached client r (x.on r).2

theorem StaysAttached.bind {x : Act α} {f : α → Act β} (hx : StaysAttached client x)
    (hf : ∀ a, StaysAttached client (f a)) : StaysAttached client (x >>= f) :=
  related_bind (R := fun r r' => r.counterClient = some client → Attached client r r')
    (fun h h' hclient => (h hclient).trans (h' (h hclient).counterClient_eq)) hx hf

theorem attached_pure (a : α) : StaysAttached client (pure a : Act α) :=
  fun _ h => ⟨h, rfl, rfl⟩

theorem attached_throw (fault : Fault) : StaysAttached client (throw fault : Act α) :=
  fun _ h => ⟨h, rfl, rfl⟩

theorem attached_get : StaysAttached client (get : Act Replica) := fun _ h => ⟨h, rfl, rfl⟩

theorem attached_mk_pure (result : Except Fault α) :
    StaysAttached client (ExceptT.mk (pure result) : Act α) :=
  fun _ h => ⟨h, rfl, rfl⟩

end Act

namespace Replica

theorem attached_log (record : Log.Record) : StaysAttached client (log record) :=
  fun _ h => attached_withRecord h record

/-- A counter that has a client makes no other. -/
theorem attached_countingClient : StaysAttached client countingClient := by
  intro r h
  rw [on_countingClient_of_some h]
  exact ⟨h, rfl, rfl⟩

theorem attached_openTrip (sender : Client) : StaysAttached client (openTrip sender) := by
  cases sender with
  | shared => exact fun _ h => ⟨h, rfl, rfl⟩
  | elsewhere connection => exact attached_pure _

theorem attached_dispatch (sender : Client) (commands : List Command) :
    StaysAttached client (dispatch sender commands) := by
  cases sender with
  | shared => exact fun _ h => ⟨h, rfl, rfl⟩
  | elsewhere connection => exact attached_pure _

theorem attached_within (timeout : Timeout) {trip : Act Delivery}
    (h : StaysAttached client trip) : StaysAttached client (within timeout trip) := by
  intro r hclient
  rcases snd_on_within timeout trip r with hend | hend <;> rw [hend]
  · exact ⟨hclient, rfl, rfl⟩
  · exact h r hclient

theorem attached_applyToStore (operation : Store → α × Store) :
    StaysAttached client (applyToStore operation) :=
  fun _ h => ⟨h, rfl, rfl⟩

theorem attached_inspect (timeout : Timeout) (p : Policy) (key : String) :
    StaysAttached client (inspect timeout p key) := by
  refine StaysAttached.bind (fun _ h => ⟨h, rfl, rfl⟩) fun reading =>
    attached_countingClient.bind fun sender => (attached_openTrip sender).bind fun _ => ?_
  refine (attached_within timeout (attached_dispatch sender _)).bind fun delivery =>
    attached_get.bind fun r => ?_
  exact (attached_applyToStore _).bind fun outcome => attached_mk_pure outcome

theorem attached_clear (timeout : Timeout) (key : String) :
    StaysAttached client (clear timeout key) := by
  refine attached_countingClient.bind fun sender => ?_
  refine (attached_within timeout (attached_dispatch sender _)).bind fun delivery =>
    attached_get.bind fun r => ?_
  exact (attached_applyToStore _).bind fun outcome =>
    (attached_mk_pure outcome).bind fun removed =>
      (attached_log _).bind fun _ => attached_pure _

end Replica

namespace Limiter

/-- Administration fails at once if there is no policy of the name. -/
theorem attached_require_bind {reg : Registry} {name : Option String} {f : Policy → Act α}
    (h : ∀ p, StaysAttached client (f p)) : StaysAttached client (reg.require name >>= f) := by
  refine StaysAttached.bind ?_ h
  unfold Registry.require
  cases name.bind reg.get? with
  | none => exact attached_throw _
  | some p => exact attached_pure p

theorem attached_inspect (l : Limiter) (name : Option String) (identity : String) :
    StaysAttached client (l.inspect name identity) :=
  attached_require_bind fun p => Replica.attached_inspect l.timeout p _

theorem attached_clear (l : Limiter) (name : Option String) (identity : String) :
    StaysAttached client (l.clear name identity) :=
  attached_require_bind fun _ => Replica.attached_clear l.timeout _

end Limiter

namespace Admin

open Replica (ClosesMade made)

theorem attached_perform (zone : Zone) (l : Limiter) (task : Task) :
    StaysAttached client (perform zone l task) := by
  cases task with
  | policies => exact attached_pure _
  | inspect name identity =>
      unfold perform
      dsimp only
      cases l.registry.get? name with
      | none => exact attached_pure _
      | some p =>
          refine (l.attached_inspect (some name) identity).bind fun status => ?_
          cases Stamp.localOfSeconds? zone status.resetAt with
          | error e => exact attached_throw _
          | ok reset => exact attached_pure _
  | clear name identity =>
      unfold perform
      dsimp only
      cases l.registry.get? name with
      | none => exact attached_pure _
      | some p =>
          exact (l.attached_clear (some name) identity).bind fun removed => attached_pure _

variable {r : Replica} {place : Place} {address : Address} {task : Task}
  {arguments : List String}

/-- However a task ends that has policies, its connection is closed then. -/
theorem closings_run_of_ok {reg : Registry} (h : Address.read? r.settings.storeUrl = .ok address)
    (hpolicies : (Registry.defaults.configure r.settings.overrides).outcome = .ok reg)
    (task : Task) (place : Place) :
    ((run task place).run r).2.issuedConnections = r.issuedConnections + 1 ∧
      ((run task place).run r).2.closings = r.closings ++ [r.issuedConnections] := by
  obtain ⟨records, hrun⟩ := exists_run_eq h hpolicies task place
  have hattached := attached_perform place.zone (Limiter.administrative reg r) task
    ((r.readied place address).relogged records) rfl
  rw [hrun]
  exact ⟨hattached.issuedConnections_eq,
    congrArg (· ++ [r.issuedConnections]) hattached.closings_eq⟩

/-- The connection of a task is closed, and only once, exactly if the settings make policies. If
the URL in the settings is no address, there is no connection. -/
theorem closed_runLine_iff (h : CommandLine.read arguments = .task task) (place : Place)
    (r : Replica) :
    (ClosesMade r ((runLine arguments place).run r).2 ↔
      ∀ address, Address.read? r.settings.storeUrl = .ok address →
        ∃ reg, (Registry.defaults.configure r.settings.overrides).outcome = .ok reg) ∧
    (∀ address, Address.read? r.settings.storeUrl = .ok address →
      made r ((runLine arguments place).run r).2 = [r.issuedConnections] ∧
      ∀ e, (Registry.defaults.configure r.settings.overrides).outcome = .error e →
        ((runLine arguments place).run r).2.closings = r.closings ∧
          ((runLine arguments place).run r).1.outcome = .error (.policy e)) ∧
    ∀ e, Address.read? r.settings.storeUrl = .error e →
      made r ((runLine arguments place).run r).2 = [] ∧
        ((runLine arguments place).run r).2.closings = r.closings ∧
          ((runLine arguments place).run r).1.outcome = .error (.address e) := by
  rw [runLine_of_task h]
  cases hurl : Address.read? r.settings.storeUrl with
  | error e =>
      have hmade : made r r = [] := Replica.made_eq_nil rfl
      rw [run_of_unreadable hurl]
      refine ⟨iff_of_true ⟨[], (List.append_nil _).symm, ?_⟩ (by simp), by simp, ?_⟩
      · simp [hmade]
      · rintro _ ⟨⟩
        exact ⟨hmade, rfl, rfl⟩
  | ok address =>
      cases hout : (Registry.defaults.configure r.settings.overrides).outcome with
      | ok reg =>
          obtain ⟨hissued, hclosings⟩ := closings_run_of_ok hurl hout task place
          have hmade := Replica.made_eq_singleton hissued
          refine ⟨iff_of_true ⟨_, hclosings, ?_⟩ fun _ _ => ⟨reg, rfl⟩, ?_, by simp⟩
          · simp [hmade]
          · rintro _ ⟨⟩
            exact ⟨hmade, by simp⟩
      | error e =>
          obtain ⟨records, hrun⟩ := exists_run_of_policyError hurl hout task place
          have hmade : made r ((r.readied place address).relogged records) =
              [r.issuedConnections] := Replica.made_eq_singleton rfl
          rw [hrun]
          refine ⟨iff_of_false ?_ ?_, ?_, by simp⟩
          · rintro ⟨closed, hclosed, hcount⟩
            have hnone : closed = [] := List.append_right_eq_self.mp hclosed.symm
            simpa [hnone] using hcount r.issuedConnections (by simp [hmade])
          · intro hpolicies
            obtain ⟨reg, hreg⟩ := hpolicies address rfl
            cases hreg
          · rintro _ ⟨⟩
            refine ⟨hmade, ?_⟩
            rintro _ ⟨⟩
            exact ⟨rfl, rfl⟩

/-- A replica whose store refuses the next round trip. -/
def refusingReplica : Replica where
  disruptions := [{ effect := .fails (.refused "Connect call failed") }]

theorem refusingReplica_closed :
    CommandLine.read ["inspect", "auth", "10.0.0.1"] = .task (.inspect "auth" "10.0.0.1") ∧
      ((runLine ["inspect", "auth", "10.0.0.1"]).run refusingReplica).1.outcome.toOption =
        some 1 ∧
      made refusingReplica ((runLine ["inspect", "auth", "10.0.0.1"]).run refusingReplica).2 =
        [0] ∧
      ClosesMade refusingReplica
        ((runLine ["inspect", "auth", "10.0.0.1"]).run refusingReplica).2 := by
  have hread : CommandLine.read ["inspect", "auth", "10.0.0.1"] =
      .task (.inspect "auth" "10.0.0.1") := by decide +kernel
  have hclosed := closed_runLine_iff hread {} refusingReplica
  exact ⟨hread, by decide +kernel, by decide +kernel, hclosed.1.mpr fun _ _ => ⟨_, rfl⟩⟩

/-- A replica whose settings ask for a policy that would let nothing pass. -/
def emptyHandedReplica : Replica where
  settings := { overrides := [("auth", { maxRequests := some 0 })] }

/-- Such settings leave the connection of each task open. -/
theorem not_forall_closed :
    ¬∀ (r : Replica) (arguments : List String) (task : Task) (place : Place),
      CommandLine.read arguments = .task task →
        ClosesMade r ((runLine arguments place).run r).2 := by
  intro h
  have hread : CommandLine.read ["policies"] = .task .policies := by decide +kernel
  obtain ⟨closed, hclosed, hcount⟩ := h emptyHandedReplica ["policies"] .policies {} hread
  have hopen : ((runLine ["policies"] {}).run emptyHandedReplica).2.closings = [] := by
    decide +kernel
  have hmade : made emptyHandedReplica ((runLine ["policies"] {}).run emptyHandedReplica).2 =
      [0] := by decide +kernel
  rw [hopen] at hclosed
  rw [hmade] at hcount
  have hone := hcount 0 (List.mem_singleton_self 0)
  rw [show closed = [] from hclosed.symm] at hone
  cases hone

end Admin

end RateLimit
