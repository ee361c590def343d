import RateLimit.Proofs.Admin.Release
import RateLimit.Proofs.Admin.SameWindow
import RateLimit.Proofs.Counter.ResetDate
import RateLimit.Proofs.Registry.Overlay
import RateLimit.Proofs.Replica.Delivery
import RateLimit.Proofs.Replica.Untouched

/-!
# The exit codes of tasks

When the policies of the settings are made and only the store can fail, there are six ways in
which a task with a client can end, `Ends`. Five of them have an exit code, which tells a name
that is not registered, a store that failed and a task that is done apart, and what a task that
is done prints tells what it found: this is the `Contract`. The sixth breaks it: a window that
ends when local time has no date is counted, but there is nothing to print, and the task raises.
By `contract_iff` nothing else does, but for a URL in the settings that is no address, which ends
a task before it has a client.
-/

namespace RateLimit

namespace Admin

open Act
open Counter (IsDatedReset inWindow resetMicroseconds seen)

/-- The name of the policy and the identity that a task is about. -/
def Task.addressed? : Task → Option (String × String)
  | .policies => none
  | .inspect name identity => some (name, identity)
  | .clear name identity => some (name, identity)

/-- A task lists the policies, is about a name that is not registered, or about one that is. -/
theorem Task.lookup_cases (reg : Registry) (task : Task) :
    task = .policies ∨
      (∃ name identity, task.addressed? = some (name, identity) ∧ reg.get? name = none) ∨
      ∃ name identity p, reg.get? name = some p ∧
        (task = .inspect name identity ∨ task = .clear name identity) := by
  cases task with
  | policies => exact .inl rfl
  | inspect name identity =>
      cases hp : reg.get? name with
      | none => exact .inr (.inl ⟨name, identity, rfl, hp⟩)
      | some p => exact .inr (.inr ⟨name, identity, p, hp, .inl rfl⟩)
  | clear name identity =>
      cases hp : reg.get? name with
      | none => exact .inr (.inl ⟨name, identity, rfl, hp⟩)
      | some p => exact .inr (.inr ⟨name, identity, p, hp, .inr rfl⟩)

/-- The entries that an inspection on a replica has to count. -/
def entriesInWindow (p : Policy) (identity : String) (r : Replica) : List Entry :=
  (Window.held (Window.at? (r.clock.now + r.clock.tick)
    (Table.get? r.store (p.keyFor identity)))).filter fun e => inWindow p r.clock.now e.reading

/-- The lines about a window that is inspected. Its end is told in local time. -/
def inspectionLines (zone : Zone) (p : Policy) (identity : String) (r : Replica) : List String :=
  ["key:      " ++ p.keyFor identity,
    "count:    " ++ toString (entriesInWindow p identity r).length ++ " / "
      ++ toString p.maxRequests,
    "resets:   " ++ (CivilTime.ofSeconds
      (zone.wall (resetMicroseconds p r.clock.now / 1000000))).toText 4 "T"]

/-- The line about a window that is cleared. -/
def clearingLine (p : Policy) (identity : String) (r : Replica) : String :=
  (if (Window.at? r.clock.now (Table.get? r.store (p.keyFor identity))).isSome then "cleared"
    else "no window found for") ++ " " ++ p.keyFor identity

/-- The ways in which a task on a replica can end, given what becomes of its round trip. -/
inductive Ends (zone : Zone) (reg : Registry) (d : Delivery) (r : Replica) :
    Task → Report → Prop
  | listed : Ends zone reg d r .policies { lines := reg.all.map policyLine, outcome := .ok 0 }
  | unknown {task : Task} {name identity : String} :
      task.addressed? = some (name, identity) → reg.get? name = none →
        Ends zone reg d r task { lines := [unknownLine name reg], outcome := .ok 2 }
  | failed {task : Task} {name identity : String} {p : Policy} {fault : Fault} :
      task.addressed? = some (name, identity) → reg.get? name = some p → d ≠ .delivered →
        Ends zone reg d r task
          { lines := ["Redis unavailable: " ++ fault.message], outcome := .ok 1 }
  | inspected {name identity : String} {p : Policy} :
      reg.get? name = some p → d = .delivered → IsDatedReset zone p r.clock.now →
        Ends zone reg d r (.inspect name identity)
          { lines := inspectionLines zone p identity r, outcome := .ok 0 }
  | undated {name identity : String} {p : Policy} {year : Int} :
      reg.get? name = some p → d = .delivered → ¬IsDatedReset zone p r.clock.now →
        9999 < year →
        Ends zone reg d r (.inspect name identity) { outcome := .error (.date (.year year)) }
  | cleared {name identity : String} {p : Policy} :
      reg.get? name = some p → d = .delivered →
        Ends zone reg d r (.clear name identity)
          { lines := [clearingLine p identity r], outcome := .ok 0 }

/-- What a task prints that is done. -/
inductive Prints (zone : Zone) (reg : Registry) (r : Replica) : Task → List String → Prop
  /-- The policies are printed in order, each one once. -/
  | policies : reg.all.map Policy.name = reg.names → reg.names.Nodup →
      Prints zone reg r .policies (reg.all.map policyLine)
  /-- The date is right up to fifty microseconds. -/
  | inspect {name identity : String} {p : Policy} : reg.get? name = some p →
      |resetMicroseconds p r.clock.now * 1000 - (r.clock.now + p.windowNs)| < 50000 →
        Prints zone reg r (.inspect name identity) (inspectionLines zone p identity r)
  | clear {name identity : String} {p : Policy} : reg.get? name = some p →
      Prints zone reg r (.clear name identity) [clearingLine p identity r]

/-- A task leaves every key alone that it does not address. -/
def SparesOthers (reg : Registry) (task : Task) (r r' : Replica) : Prop :=
  ∀ key, (∀ name identity p, task.addressed? = some (name, identity) → reg.get? name = some p →
    key ≠ p.keyFor identity) → Replica.Untouched key r r'

/-- What the exit codes of a task on a replica promise, given what becomes of its round trip. -/
structure Contract (zone : Zone) (reg : Registry) (d : Delivery) (task : Task) (r : Replica)
    (report : Report) (r' : Replica) : Prop where
  /-- It does not raise. -/
  returns : ∃ code, report.outcome = .ok code
  /-- The name is not registered. -/
  two_iff : report.outcome = .ok 2 ↔
    ∃ name identity, task.addressed? = some (name, identity) ∧ reg.get? name = none
  unsent : report.outcome = .ok 2 → r'.sent = r.sent
  /-- The round trip failed. -/
  one_iff : report.outcome = .ok 1 ↔
    (∃ name identity p, task.addressed? = some (name, identity) ∧ reg.get? name = some p) ∧
      d ≠ .delivered
  /-- Otherwise the task is done. -/
  zero : report.outcome ≠ .ok 2 → report.outcome ≠ .ok 1 →
    report.outcome = .ok 0 ∧ Prints zone reg r task report.lines
  spares : SparesOthers reg task r r'

section Perform

variable {zone : Zone} {l : Limiter} {r : Replica} {client : Client} {task : Task}
  {name identity : String} {p : Policy}

theorem perform_of_unknown (zone : Zone) (haddressed : task.addressed? = some (name, identity))
    (hname : l.registry.get? name = none) :
    perform zone l task = pure (2, [unknownLine name l.registry]) := by
  cases task with
  | policies => cases haddressed
  | inspect =>
      cases haddressed
      simp [perform, hname]
  | clear =>
      cases haddressed
      simp [perform, hname]

section Registered

variable (hp : l.registry.get? name = some p) (identity : String) (r : Replica)

include hp

theorem fst_perform_inspect :
    ((perform zone l (.inspect name identity)).on r).1 =
      ((Replica.inspect l.timeout p (p.keyFor identity)).on r).1.bind fun status =>
        ((Stamp.localOfSeconds? zone status.resetAt).mapError .date).map fun reset =>
          (0, windowLines p identity status reset) := by
  unfold perform Limiter.inspect Registry.require
  dsimp only
  rw [Option.bind_some, hp]
  dsimp only
  rw [pure_bind, on_bind]
  cases (Replica.inspect l.timeout p (p.keyFor identity)).on r with
  | mk result r' =>
      cases result with
      | error fault => rfl
      | ok status =>
          dsimp only [Except.bind]
          cases Stamp.localOfSeconds? zone status.resetAt <;> rfl

theorem fst_perform_clear :
    ((perform zone l (.clear name identity)).on r).1 =
      ((Replica.clear l.timeout (p.keyFor identity)).on r).1.map fun removed =>
        (0, [(if removed then "cleared" else "no window found for") ++ " " ++
          p.keyFor identity]) := by
  unfold perform Limiter.clear Registry.require
  dsimp only
  rw [Option.bind_some, hp]
  dsimp only
  rw [pure_bind, on_bind]
  unfold Policy.keyFor
  cases (Replica.clear l.timeout (p.keyPrefix ++ identity)).on r with
  | mk result r' => cases result <;> rfl

end Registered

section Client

variable {d : Delivery} (hclient : r.counterClient = some client)
  (hd : deliveryOf l.timeout r.pace (.ok (client.delivery r)) = d) (hordinary : d.IsOrdinary)
  (hp : l.registry.get? name = some p) (identity : String)

include hclient hd hordinary hp

theorem ends_perform_inspect (hnonneg : 0 ≤ r.clock.now) (hlt : r.clock.now < 2 ^ 61) :
    Ends zone l.registry d r (.inspect name identity)
      (reportOf ((perform zone l (.inspect name identity)).on r).1) := by
  let o : Occasion :=
    { reading := r.clock.now, time := r.clock.now + r.clock.tick, delivery := d }
  have hstatus : ((Replica.inspect l.timeout p (p.keyFor identity)).on r).1 =
      (Counter.inspect p (p.keyFor identity) o r.store).1 := by
    rw [Replica.fst_on_inspect hclient, hd]
  have hlimit := (Counter.isSome_of_reading p hnonneg hlt).1
  rw [fst_perform_inspect hp, hstatus]
  by_cases hdelivered : d = .delivered
  · have hreset := Counter.resetAt?_eq_ok p hnonneg hlt
    have hcount : seen p o (Table.get? r.store (p.keyFor identity)) =
        (entriesInWindow p identity r).length := by
      unfold seen
      rw [Counter.held_trimmed_eq_filter]
      rfl
    rw [Counter.fst_inspect_of_delivered (o := o) hdelivered hlimit, hreset, hcount]
    by_cases hdated : IsDatedReset zone p r.clock.now
    · have hdate := Counter.localOfSeconds?_resetAt p hnonneg hlt hreset hdated
      have hend : Ends zone l.registry d r (.inspect name identity) _ :=
        .inspected hp hdelivered hdated
      dsimp only [Except.bind, Except.mapError, Except.map]
      rw [hdate]
      exact hend
    · obtain ⟨year, hyear, hdate⟩ :=
        Counter.exists_localOfSeconds?_resetAt p hnonneg hlt hreset hdated
      have hend : Ends zone l.registry d r (.inspect name identity) _ :=
        .undated hp hdelivered hdated hyear
      dsimp only [Except.bind, Except.mapError, Except.map]
      rw [hdate]
      exact hend
  · obtain ⟨fault, hfault⟩ := Counter.fst_inspect_of_failed (o := o) (p := p) hordinary
      hdelivered (p.keyFor identity) r.store hlimit
    rw [hfault]
    exact .failed rfl hp hdelivered

theorem ends_perform_clear :
    Ends zone l.registry d r (.clear name identity)
      (reportOf ((perform zone l (.clear name identity)).on r).1) := by
  let o : Occasion := { reading := r.clock.now, time := r.clock.now, delivery := d }
  have hremoved : ((Replica.clear l.timeout (p.keyFor identity)).on r).1 =
      (Counter.clear (p.keyFor identity) o r.store).1 := by
    rw [Replica.fst_on_clear hclient, hd]
  rw [fst_perform_clear hp, hremoved]
  by_cases hdelivered : d = .delivered
  · rw [Counter.fst_clear_eq_ok (o := o) hdelivered]
    exact .cleared hp hdelivered
  · obtain ⟨fault, hfault⟩ := Counter.fst_clear_of_failed (o := o) hordinary
      hdelivered (p.keyFor identity) r.store
    rw [hfault]
    exact .failed rfl hp hdelivered

end Client

/-- A task on a limiter leaves every key alone that it does not address. -/
theorem spares_perform (zone : Zone) {key : String} (task : Task)
    (h : ∀ name identity p, task.addressed? = some (name, identity) →
      l.registry.get? name = some p → key ≠ p.keyFor identity) :
    Spares key (perform zone l task) := by
  rcases task.lookup_cases l.registry with
    rfl | ⟨name, identity, haddressed, hname⟩ | ⟨name, identity, p, hp, htask⟩
  · exact spares_pure _
  · rw [perform_of_unknown zone haddressed hname]
    exact spares_pure _
  · have hne : task.addressed? = some (name, identity) →
        ∀ q ∈ (some name).bind l.registry.get?, key ≠ q.keyFor identity :=
      fun haddressed q hq => h name identity q haddressed hq
    intro r
    rcases htask with rfl | rfl
    · rw [Look.snd_perform_inspect zone hp]
      exact Limiter.spares_inspect (hne rfl) r
    · rw [Limiter.snd_perform_clear hp]
      exact Limiter.spares_clear (hne rfl) r

end Perform

section Run

variable {zone : Zone} {r : Replica} {reg : Registry} {task : Task} {arguments : List String}

/-- The store and the clock of a replica are all that matters to how a task ends. -/
theorem Ends.of_eq {d : Delivery} {r' : Replica} {report : Report}
    (h : Ends zone reg d r' task report) (hstore : r'.store = r.store)
    (hclock : r'.clock = r.clock) : Ends zone reg d r task report := by
  have hlines : ∀ p identity, inspectionLines zone p identity r' =
      inspectionLines zone p identity r := by
    intro p identity
    unfold inspectionLines entriesInWindow
    rw [hstore, hclock]
  have hline : ∀ p identity, clearingLine p identity r' = clearingLine p identity r := by
    intro p identity
    unfold clearingLine
    rw [hstore, hclock]
  cases h with
  | listed => exact .listed
  | unknown haddressed hname => exact .unknown haddressed hname
  | failed haddressed hp hd => exact .failed haddressed hp hd
  | inspected hp hd hdated =>
      rw [hclock] at hdated
      rw [hlines]
      exact .inspected hp hd hdated
  | undated hp hd hlate hyear =>
      rw [hclock] at hlate
      exact .undated hp hd hlate hyear
  | cleared hp hd =>
      rw [hline]
      exact .cleared hp hd

/-- What becomes of the round trip of a task, under the timeout of the settings. None can be
made if the URL in them is no address. -/
def delivery (place : Place) (r : Replica) : Delivery :=
  match Address.read? r.settings.storeUrl with
  | .error e => .refused (.address e)
  | .ok address =>
      deliveryOf (.seconds r.settings.storeTimeout) r.pace
        (.ok ((place.client (r.connectionTo address none none)).delivery r))

theorem delivery_of_address {address : Address}
    (hurl : Address.read? r.settings.storeUrl = .ok address) (place : Place) :
    delivery place r = deliveryOf (.seconds r.settings.storeTimeout) r.pace
      (.ok ((place.client (r.connectionTo address none none)).delivery r)) := by
  unfold delivery
  rw [hurl]

/-- A connection that leads elsewhere fails as the store does. -/
theorem isOrdinary_client_delivery (h : (Disruption.next r.disruptions).1.IsOrdinary)
    (client : Client) : (client.delivery r).IsOrdinary := by
  cases client with
  | shared => exact h
  | elsewhere connection => exact rfl

section Registry

variable {address : Address} (hurl : Address.read? r.settings.storeUrl = .ok address)
  (hreg : (Registry.defaults.configure r.settings.overrides).outcome = .ok reg)

include hurl hreg

theorem ends_run (hordinary : (Disruption.next r.disruptions).1.IsOrdinary)
    (hnonneg : 0 ≤ r.clock.now) (hlt : r.clock.now < 2 ^ 61) (task : Task) (place : Place) :
    Ends place.zone reg (delivery place r) r task ((run task place).run r).1 := by
  obtain ⟨records, hrun⟩ := exists_run_eq hurl hreg task place
  rw [hrun, delivery_of_address hurl]
  let l := Limiter.administrative reg r
  let r₁ := (r.readied place address).relogged records
  let client := place.client (r.connectionTo address none none)
  let d := deliveryOf l.timeout r₁.pace (.ok (client.delivery r₁))
  have hclient : r₁.counterClient = some client := rfl
  have hsame : deliveryOf (.seconds r.settings.storeTimeout) r.pace (.ok (client.delivery r)) =
      d := by
    cases hclient' : client <;> simp only [d, hclient'] <;> rfl
  have hordinary' : d.IsOrdinary :=
    Delivery.isOrdinary_deliveryOf (isOrdinary_client_delivery (r := r₁) hordinary client) _ _
  have hend : Ends place.zone reg d r₁ task (reportOf ((perform place.zone l task).on r₁).1) := by
    rcases task.lookup_cases reg with
      rfl | ⟨name, identity, haddressed, hname⟩ | ⟨name, identity, p, hp, rfl | rfl⟩
    · exact .listed
    · rw [perform_of_unknown (l := l) place.zone haddressed hname]
      exact .unknown haddressed hname
    · exact ends_perform_inspect (l := l) hclient rfl hordinary' hp identity hnonneg hlt
    · exact ends_perform_clear (l := l) hclient rfl hordinary' hp identity
  rw [hsame]
  exact hend.of_eq rfl rfl

theorem sparesOthers_run (task : Task) (place : Place) :
    SparesOthers reg task r ((run task place).run r).2 := by
  obtain ⟨records, hrun⟩ := exists_run_eq hurl hreg task place
  intro key hkey
  rw [hrun]
  have hsettings : Replica.Untouched key r ((r.readied place address).relogged records) :=
    .of_eq rfl rfl
  have hperform := spares_perform (l := Limiter.administrative reg r) place.zone task
    hkey ((r.readied place address).relogged records)
  exact (hsettings.trans hperform).trans (.of_eq rfl rfl)

theorem sent_run_of_unknown {name identity : String}
    (haddressed : task.addressed? = some (name, identity)) (hname : reg.get? name = none)
    (place : Place) : ((run task place).run r).2.sent = r.sent := by
  obtain ⟨records, hrun⟩ := exists_run_eq hurl hreg task place
  rw [hrun, perform_of_unknown (l := Limiter.administrative reg r) place.zone haddressed hname]
  rfl

end Registry

section Contract

variable {d : Delivery} {report : Report} {r' : Replica}

theorem Ends.two_iff (h : Ends zone reg d r task report) : report.outcome = .ok 2 ↔
    ∃ name identity, task.addressed? = some (name, identity) ∧ reg.get? name = none := by
  cases h with
  | listed => simp [Task.addressed?]
  | unknown haddressed hname => exact iff_of_true rfl ⟨_, _, haddressed, hname⟩
  | failed haddressed hp => simp [haddressed, hp]
  | inspected hp => simp [Task.addressed?, hp]
  | undated hp => simp [Task.addressed?, hp]
  | cleared hp => simp [Task.addressed?, hp]

theorem Ends.one_iff (h : Ends zone reg d r task report) : report.outcome = .ok 1 ↔
    (∃ name identity p, task.addressed? = some (name, identity) ∧ reg.get? name = some p) ∧
      d ≠ .delivered := by
  cases h with
  | listed => simp [Task.addressed?]
  | unknown haddressed hname => simp [haddressed, hname]
  | failed haddressed hp hd => exact iff_of_true rfl ⟨⟨_, _, _, haddressed, hp⟩, hd⟩
  | inspected hp hd => simp [hd]
  | undated hp hd => simp [hd]
  | cleared hp hd => simp [hd]

/-- A task that returns another code than these is done. -/
theorem Ends.zero (h : Ends zone reg d r task report) (hkeyed : reg.IsKeyed)
    (hnonneg : 0 ≤ r.clock.now) (hreturns : ∃ code, report.outcome = .ok code)
    (htwo : report.outcome ≠ .ok 2) (hone : report.outcome ≠ .ok 1) :
    report.outcome = .ok 0 ∧ Prints zone reg r task report.lines := by
  cases h with
  | listed => exact ⟨rfl, .policies hkeyed.map_name_all hkeyed.nodup⟩
  | unknown => exact absurd rfl htwo
  | failed => exact absurd rfl hone
  | inspected hp hd hdated => exact ⟨rfl, .inspect hp (hdated.abs_sub_lt _ hnonneg)⟩
  | undated =>
      obtain ⟨code, hcode⟩ := hreturns
      cases hcode
  | cleared hp => exact ⟨rfl, .clear hp⟩

/-- Every window that a task inspects ends at a time that has a local date. -/
def ShowsDates (zone : Zone) (reg : Registry) (task : Task) (r : Replica) : Prop :=
  ∀ name identity p, task = .inspect name identity → reg.get? name = some p →
    IsDatedReset zone p r.clock.now

theorem Ends.returns_iff (h : Ends zone reg d r task report) :
    (∃ code, report.outcome = .ok code) ↔ (d = .delivered → ShowsDates zone reg task r) := by
  cases h with
  | listed => exact iff_of_true ⟨0, rfl⟩ fun _ _ _ _ htask => by cases htask
  | unknown haddressed hname =>
      refine iff_of_true ⟨2, rfl⟩ fun _ name identity p htask hp => ?_
      subst htask
      cases haddressed
      cases hname.symm.trans hp
  | failed haddressed hp hd => exact iff_of_true ⟨1, rfl⟩ fun hdelivered => absurd hdelivered hd
  | inspected hp hd hdated =>
      refine iff_of_true ⟨0, rfl⟩ fun _ name identity q htask hq => ?_
      cases htask
      cases hp.symm.trans hq
      exact hdated
  | undated hp hd hlate =>
      refine iff_of_false (fun ⟨code, hcode⟩ => by cases hcode) fun hdates => ?_
      exact hlate (hdates hd _ _ _ rfl hp)
  | cleared => exact iff_of_true ⟨0, rfl⟩ fun _ _ _ _ htask => by cases htask

theorem Ends.undated_of_not (h : Ends zone reg d r task report)
    (hraises : ¬∃ code, report.outcome = .ok code) :
    report.lines = [] ∧ ∃ year, 9999 < year ∧ report.outcome = .error (.date (.year year)) := by
  cases h with
  | undated _ _ _ hyear => exact ⟨rfl, _, hyear, rfl⟩
  | _ => exact absurd ⟨_, rfl⟩ hraises

/-- A task that ends in one of these ways keeps its contract if it shows dates only. -/
theorem Ends.keepsContract_iff (h : Ends zone reg d r task report) (hkeyed : reg.IsKeyed)
    (hnonneg : 0 ≤ r.clock.now) (hunsent : report.outcome = .ok 2 → r'.sent = r.sent)
    (hspares : SparesOthers reg task r r') :
    Contract zone reg d task r report r' ↔ (d = .delivered → ShowsDates zone reg task r) := by
  refine ⟨fun hcontract => h.returns_iff.mp hcontract.returns, fun hdates => ?_⟩
  have hreturns := h.returns_iff.mpr hdates
  exact {
    returns := hreturns
    two_iff := h.two_iff
    unsent := hunsent
    one_iff := h.one_iff
    zero := h.zero hkeyed hnonneg hreturns
    spares := hspares }

end Contract

end Run

/-- A replica whose settings ask for a window that ends after the year 9999. -/
def farsighted : Replica where
  settings := { overrides := [("default", { windowSeconds := some (.finite 251702300800) })] }

end Admin

end RateLimit
