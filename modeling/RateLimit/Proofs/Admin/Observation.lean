import RateLimit.Proofs.Admin.Run
import RateLimit.Proofs.Counter.Observation
import RateLimit.Proofs.Counter.SlidingLog
import RateLimit.Proofs.Limiter.Enforce

/-!
# Looking changes no answer

The counter, a limiter and an administrator can look at a window, each through `inspect`. A
`Look` is one of these inspections, and `watch` runs operations of the counter with looks in
between. Whatever a look does to the store is what at most one inspection of the counter
does, `Look.effect_cases`, so a run with looks leaves the store of a run of operations that
has the ledger of the run without them, `exists_run_eq_watch`. By the ledger, no later check
and no later inspection answers differently, `watch_answers`.
-/

namespace RateLimit

open Act
open Counter (Operation Outcome)

/-- A look at a window: through the counter, or on a replica through a limiter or by an
administrator. -/
inductive Look where
  | counter (p : Policy) (key : String) (o : Occasion)
  | limiter (l : Limiter) (name : Option String) (identity : String) (r : Replica)
  | admin (place : Admin.Place) (name identity : String) (r : Replica)

namespace Look

/-- The store that a look leaves. -/
def effect (s : Store) : Look → Store
  | .counter p key o => (Counter.inspect p key o s).2
  | .limiter l name identity r =>
      ((l.inspect name identity).on { r with store := s }).2.store
  | .admin place name identity r =>
      ((Admin.run (.inspect name identity) place).run { r with store := s }).2.store

/-- What the counter of a replica does when an identity is inspected under a policy. -/
def inspection (r : Replica) (identity : String) (p : Policy) : Operation :=
  .inspect p (p.keyFor identity)
    { reading := r.clock.now, time := r.clock.now + r.clock.tick }

/-- The inspection that a look makes, unless it finds no policy, or no store. -/
def inspection? : Look → Option Operation
  | .counter p key o => some (.inspect p key o)
  | .limiter l name identity r => (name.bind l.registry.get?).map (inspection r identity)
  | .admin _ name identity r =>
      match Address.read? r.settings.storeUrl,
        (Registry.defaults.configure r.settings.overrides).outcome with
      | .ok _, .ok reg => (reg.get? name).map (inspection r identity)
      | _, _ => none

theorem effect_limiter_cases (l : Limiter) (name : Option String) (identity : String)
    (r : Replica) :
    ((l.inspect name identity).on r).2.store = r.store ∨
      ∃ p ∈ name.bind l.registry.get?,
        ((l.inspect name identity).on r).2.store =
          ((inspection r identity p).apply r.store).2 := by
  unfold Limiter.inspect Registry.require
  cases hp : name.bind l.registry.get? with
  | none => exact Or.inl rfl
  | some p =>
      dsimp only
      rw [on_bind_of_ok r (on_pure r p)]
      exact (Replica.store_inspect l.timeout p (p.keyFor identity) r).imp_right fun h =>
        ⟨p, rfl, h⟩

section Admin

variable (zone : Zone) {l : Limiter} {name : String}

theorem store_perform_of_none (h : l.registry.get? name = none) (identity : String)
    (r : Replica) :
    ((Admin.perform zone l (.inspect name identity)).on r).2.store = r.store := by
  unfold Admin.perform
  dsimp only
  rw [h]
  rfl

/-- Once the limiter has inspected, an administrator prints lines. -/
theorem snd_perform_inspect {p : Policy} (h : l.registry.get? name = some p)
    (identity : String) (r : Replica) :
    ((Admin.perform zone l (.inspect name identity)).on r).2 =
      ((l.inspect (some name) identity).on r).2 := by
  unfold Admin.perform
  dsimp only
  rw [h]
  dsimp only
  rw [on_bind]
  cases (l.inspect (some name) identity).on r with
  | mk result r' =>
      cases result with
      | error fault => rfl
      | ok status => cases hstamp : Stamp.localOfSeconds? zone status.resetAt <;> simp [hstamp]

theorem store_perform_cases (l : Limiter) (name identity : String) (r : Replica) :
    ((Admin.perform zone l (.inspect name identity)).on r).2.store = r.store ∨
      ∃ p ∈ l.registry.get? name,
        ((Admin.perform zone l (.inspect name identity)).on r).2.store =
          ((inspection r identity p).apply r.store).2 := by
  cases hp : l.registry.get? name with
  | none => exact Or.inl (store_perform_of_none zone hp identity r)
  | some p =>
      rw [snd_perform_inspect zone hp, ← hp]
      exact effect_limiter_cases l (some name) identity r

theorem effect_admin_cases (place : Admin.Place) (name identity : String) (r : Replica) :
    ((Admin.run (.inspect name identity) place).run r).2.store = r.store ∨
      ∃ op ∈ (Look.admin place name identity r).inspection?,
        ((Admin.run (.inspect name identity) place).run r).2.store = (op.apply r.store).2 := by
  cases hurl : Address.read? r.settings.storeUrl with
  | error e =>
      rw [Admin.run_of_unreadable hurl]
      exact Or.inl rfl
  | ok address =>
      cases hout : (Registry.defaults.configure r.settings.overrides).outcome with
      | error e =>
          obtain ⟨records, hrun⟩ :=
            Admin.exists_run_of_policyError hurl hout (.inspect name identity) place
          rw [hrun]
          exact Or.inl rfl
      | ok reg =>
          obtain ⟨records, hrun⟩ := Admin.exists_run_eq hurl hout (.inspect name identity) place
          rw [hrun]
          rcases store_perform_cases place.zone (Limiter.administrative reg r) name identity
            ((r.readied place address).relogged records) with h | ⟨p, hp, h⟩
          · exact Or.inl h
          · refine Or.inr ⟨inspection r identity p, ?_, h⟩
            unfold inspection?
            dsimp only
            rw [hurl, hout]
            exact Option.mem_map_of_mem _ hp

end Admin

/-- A look does what at most one inspection of the counter does. -/
theorem effect_cases (look : Look) (s : Store) :
    look.effect s = s ∨ ∃ op ∈ look.inspection?, look.effect s = (op.apply s).2 := by
  cases look with
  | counter p key o => exact Or.inr ⟨_, rfl, rfl⟩
  | limiter l name identity r =>
      rcases effect_limiter_cases l name identity { r with store := s } with h | ⟨p, hp, h⟩
      · exact Or.inl h
      · exact Or.inr ⟨inspection r identity p, Option.mem_map_of_mem _ hp, h⟩
  | admin place name identity r =>
      exact effect_admin_cases place name identity { r with store := s }

theorem exists_eq_inspect {look : Look} {op : Operation} (h : op ∈ look.inspection?) :
    ∃ p key o, op = .inspect p key o := by
  unfold inspection? inspection at h
  cases look with
  | counter p key o => exact ⟨p, key, o, (Option.mem_some.mp h).symm⟩
  | limiter l name identity r =>
      obtain ⟨p, -, rfl⟩ := Option.mem_map.mp h
      exact ⟨p, _, _, rfl⟩
  | admin place name identity r =>
      dsimp only at h
      split at h
      · obtain ⟨p, -, rfl⟩ := Option.mem_map.mp h
        exact ⟨p, _, _, rfl⟩
      · cases h

end Look

/-- What happens in a run that is looked at. -/
inductive Event where
  | operation (op : Operation)
  | looked (x : Look)

namespace Event

/-- The operation of an event that is no look. -/
def operation? : Event → Option Operation
  | .operation op => some op
  | .looked _ => none

/-- The operation of an event, which is an inspection if it is a look. -/
def effective? : Event → Option Operation
  | .operation op => some op
  | .looked x => x.inspection?

/-- The run without the looks. -/
def unwatched (events : List Event) : List Operation := events.filterMap operation?

/-- The run with the inspections that the looks make. -/
def operations (events : List Event) : List Operation := events.filterMap effective?

/-- What operations answer one after the other while there are looks in between, and the
store that is left. -/
def watch (s : Store) : List Event → List Outcome × Store
  | [] => ([], s)
  | .operation op :: rest =>
      ((op.apply s).1 :: (watch (op.apply s).2 rest).1, (watch (op.apply s).2 rest).2)
  | .looked x :: rest => watch (x.effect s) rest

variable {events : List Event}

@[simp] theorem watch_nil (s : Store) : watch s [] = ([], s) := rfl

theorem watch_append (s : Store) (first second : List Event) :
    watch s (first ++ second) =
      ((watch s first).1 ++ (watch (watch s first).2 second).1,
        (watch (watch s first).2 second).2) := by
  induction first generalizing s with
  | nil => simp
  | cons event rest ih => cases event <;> simp [watch, ih]

theorem unwatched_append (first second : List Event) :
    unwatched (first ++ second) = unwatched first ++ unwatched second :=
  List.filterMap_append

theorem operations_append (first second : List Event) :
    operations (first ++ second) = operations first ++ operations second :=
  List.filterMap_append

theorem unwatched_sublist (events : List Event) :
    (unwatched events).Sublist (operations events) := by
  induction events with
  | nil => exact List.Sublist.refl _
  | cons event rest ih =>
      cases event with
      | operation op => exact ih.cons_cons op
      | looked x =>
          have htail : (operations rest).Sublist (operations (looked x :: rest)) :=
            (List.sublist_cons_self (looked x) rest).filterMap effective?
          exact ih.trans htail

/-- Some of the inspections that the looks make, put among the operations, leave the same
store and enter nothing in a ledger. -/
theorem exists_run_eq_watch (events : List Event) :
    ∃ ops : List Operation, ops.Sublist (operations events) ∧
      (Operation.run [] ops).2 = (watch [] events).2 ∧
      ∀ key, Operation.ledger key ops = Operation.ledger key (unwatched events) := by
  induction events using List.reverseRecOn with
  | nil => exact ⟨[], List.Sublist.refl _, rfl, fun _ => rfl⟩
  | append_singleton events event ih =>
      obtain ⟨ops, hsub, hstore, hledger⟩ := ih
      rw [operations_append, unwatched_append, watch_append, ← hstore]
      cases event with
      | operation op =>
          refine ⟨ops ++ [op], hsub.append (List.Sublist.refl _),
            Operation.snd_run_append_singleton ops op, fun key => ?_⟩
          show Operation.ledger key (ops ++ [op]) =
            Operation.ledger key (unwatched events ++ [op])
          rw [Operation.ledger_append_singleton, Operation.ledger_append_singleton, hledger]
      | looked x =>
          have hunwatched : unwatched [looked x] = [] := rfl
          rw [hunwatched, List.append_nil]
          rcases x.effect_cases (Operation.run [] ops).2 with h | ⟨op, hop, h⟩
          · exact ⟨ops, hsub.trans (List.sublist_append_left _ _), h.symm, hledger⟩
          · have hone : operations [looked x] = [op] := by
              simp [operations, effective?, Option.mem_def.mp hop]
            obtain ⟨p, key, o, rfl⟩ := Look.exists_eq_inspect hop
            refine ⟨ops ++ [.inspect p key o], ?_, ?_, fun j => ?_⟩
            · rw [hone]
              exact hsub.append (List.Sublist.refl _)
            · rw [Operation.snd_run_append_singleton]
              exact h.symm
            · rw [Operation.ledger_append_inspect, hledger]

/-- Where an operation of the run stands among the events, and what it answers there. -/
theorem exists_split {i : Nat} {op : Operation} (h : (unwatched events)[i]? = some op)
    (s : Store) :
    ∃ before after, events = before ++ .operation op :: after ∧
      unwatched before = (unwatched events).take i ∧
      (watch s events).1[i]? = some (op.apply (watch s before).2).1 := by
  induction events generalizing i s with
  | nil => cases h
  | cons event rest ih =>
      cases event with
      | operation first =>
          cases i with
          | zero =>
              cases h
              exact ⟨[], rest, rfl, rfl, rfl⟩
          | succ i =>
              obtain ⟨before, after, rfl, htake, hanswer⟩ := ih h (first.apply s).2
              refine ⟨.operation first :: before, after, rfl, ?_, hanswer⟩
              exact congrArg (first :: ·) htake
      | looked x =>
          obtain ⟨before, after, rfl, htake, hanswer⟩ := ih h (x.effect s)
          exact ⟨.looked x :: before, after, rfl, htake, hanswer⟩

/-- Looks, each with the policy of its key, change no answer of a check or an inspection on a
run with a clock that never goes back. And a look tells what comes next: a check that follows
it with the same reading, and is not degraded, decides on the count that was inspected. -/
theorem watch_answers (hclock : Operation.InStep (operations events))
    (hpolicy : Operation.OnePolicy (operations events)) :
    (∀ (i : Nat) (op : Operation), (unwatched events)[i]? = some op → op.readsClock = true →
      (watch [] events).1[i]? = (Operation.run [] (unwatched events)).1[i]?) ∧
    ∀ (p : Policy) (key : String) (o o' : Occasion) (status : WindowStatus) (c : Check),
      Operation.InStep (operations events ++ [.inspect p key o, .check p key o']) →
      Operation.OnePolicy (operations events ++ [.inspect p key o, .check p key o']) →
      o.delivery.isFaithful = true → o'.delivery.isFaithful = true →
      o'.reading = o.reading →
      (Counter.inspect p key o (watch [] events).2).1 = .ok status →
      (Counter.check p key o' (Counter.inspect p key o (watch [] events).2).2).1 = .ok c →
      c.decision.degraded = false →
      (c.decision.allowed = true ↔ status.currentCount < p.maxRequests) ∧
        c.decision.remaining = max 0 (p.maxRequests - status.currentCount - 1) := by
  refine ⟨fun i op hop hreads => ?_, ?_⟩
  · obtain ⟨before, after, rfl, htake, hanswer⟩ := exists_split hop []
    rw [hanswer, Operation.getElem?_run hop, ← htake]
    obtain ⟨ops, hsub, hstore, hledger⟩ := exists_run_eq_watch before
    rw [operations_append] at hclock hpolicy
    have hpast : ∀ p ∈ op.policy?, Operation.Past p op.key op.occasion (operations before) :=
      fun p hp => Operation.past_of_append hclock hpolicy hreads hp
    rw [← hstore]
    exact congrArg some (Operation.fst_apply_eq_of_ledger_eq hreads
      (fun p hp => (hpast p hp).sublist hsub)
      (fun p hp => (hpast p hp).sublist (unwatched_sublist before)) (hledger op.key))
  · intro p key o o' status c hclock' hpolicy' hfaithful hfaithful' hreading hinspect hcheck
    obtain ⟨ops, hsub, hstore, -⟩ := exists_run_eq_watch events
    rw [← hstore] at hinspect hcheck
    have hmore := hsub.append (List.Sublist.refl [.inspect p key o, .check p key o'])
    exact Operation.check_after_inspect (List.Pairwise.sublist hmore hclock')
      (hpolicy'.sublist hmore) hfaithful hfaithful' hreading hinspect hcheck

/-- The login policy, which every registry of the settings starts with. -/
def loginPolicy : Policy := Registry.defaults.resolve (some "login")

def loginKey : String := loginPolicy.keyFor "ip:10.0.0.1"

/-- A replica that looks at the shared store at a reading of its clock. -/
def lookout (reading : Int) : Replica where
  clock := { now := reading, tick := 1000 }
  counterClient := some .shared

/-- Two requests, between which every way to look is taken once. The first look comes when
the window of the first request is over. -/
def watchedRun : List Event :=
  [.operation (.check loginPolicy loginKey ⟨0, 1000, .delivered, 0⟩),
    .looked (.counter loginPolicy loginKey ⟨900000000000, 900000001000, .delivered, 0⟩),
    .looked (.limiter Limiter.builtin (some "login") "ip:10.0.0.1" (lookout 901000000000)),
    .looked (.admin {} "login" "ip:10.0.0.1" (lookout 902000000000)),
    .operation (.check loginPolicy loginKey ⟨903000000000, 903000001000, .delivered, 1⟩),
    .operation (.inspect loginPolicy loginKey ⟨904000000000, 904000001000, .delivered, 0⟩)]

theorem exists_eq_ok {ε α β : Type} {x : Except ε α} {f : α → β} {b : β}
    (h : x.toOption.map f = some b) : ∃ a, x = .ok a ∧ f a = b := by
  cases x with
  | error e => cases h
  | ok a => exact ⟨a, rfl, Option.some.inj h⟩

theorem watchedRun_answers :
    let o : Occasion := ⟨905000000000, 905000001000, .delivered, 0⟩
    let o' : Occasion := ⟨905000000000, 905000002000, .delivered, 2⟩
    let s := (watch [] watchedRun).2
    Operation.InStep (operations watchedRun) ∧ Operation.OnePolicy (operations watchedRun) ∧
      (operations watchedRun).length = 6 ∧
      (watch [] (watchedRun.take 4)).2 ≠
        (Operation.run [] (unwatched (watchedRun.take 4))).2 ∧
      (watch [] watchedRun).1[1]? = (Operation.run [] (unwatched watchedRun)).1[1]? ∧
      ∃ status c, (Counter.inspect loginPolicy loginKey o s).1 = .ok status ∧
        status.currentCount = 1 ∧
        (Counter.check loginPolicy loginKey o' (Counter.inspect loginPolicy loginKey o s).2).1 =
          .ok c ∧
        (c.decision.allowed = true ↔ status.currentCount < 5) ∧
        c.decision.remaining = max 0 (5 - status.currentCount - 1) := by
  intro o o' s
  have hclock : Operation.InStep (operations watchedRun) := by decide +kernel
  have hpolicy : Operation.OnePolicy (operations watchedRun) := by decide +kernel
  have hclock' : Operation.InStep (operations watchedRun ++
      [.inspect loginPolicy loginKey o, .check loginPolicy loginKey o']) := by decide +kernel
  have hpolicy' : Operation.OnePolicy (operations watchedRun ++
      [.inspect loginPolicy loginKey o, .check loginPolicy loginKey o']) := by decide +kernel
  have hinspect : (Counter.inspect loginPolicy loginKey o s).1.toOption.map
      WindowStatus.currentCount = some 1 := by decide +kernel
  have hcheck : (Counter.check loginPolicy loginKey o'
      (Counter.inspect loginPolicy loginKey o s).2).1.toOption.map
        (fun c => c.decision.degraded) = some false := by decide +kernel
  obtain ⟨status, hstatus, hcount⟩ := exists_eq_ok hinspect
  obtain ⟨c, hc, hdegraded⟩ := exists_eq_ok hcheck
  obtain ⟨hanswers, hnext⟩ := watch_answers hclock hpolicy
  refine ⟨hclock, hpolicy, by decide +kernel, by decide +kernel, hanswers 1 _ rfl rfl, status, c,
    hstatus, hcount, hc, ?_⟩
  exact hnext loginPolicy loginKey o o' status c hclock' hpolicy' rfl rfl rfl hstatus hc hdegraded

end Event

end RateLimit
