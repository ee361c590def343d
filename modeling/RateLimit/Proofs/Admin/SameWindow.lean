import RateLimit.Proofs.Admin.Observation
import RateLimit.Proofs.Limiter.RetryAfter
import RateLimit.Proofs.Limiter.Stack
import RateLimit.Proofs.Registry.Settings

/-!
# Requests and administration share their windows

A request is counted under the key that an inspection or a clearing of the identity of its
caller addresses, whether through a limiter or by an administrator: `SharesWindow` says which
commands each of them sends, and what they tell about each other. The two ways to look up a
policy part where the name is not registered: a request is counted under the default
policy, while an inspection and a clearing fail before anything is sent.
-/

namespace RateLimit

open Act
open Counter (countAndRecord decide resetAt?)
open Replica (Healthy)

namespace Limiter

variable {l : Limiter} {c : Caller} {name : String} {s : Strategy} {p : Policy} {r : Replica}

/-- What a request, a limiter and an administrator do to the window of one identity. -/
structure SharesWindow (l : Limiter) (c : Caller) (name : String) (s : Strategy) (p : Policy)
    (r : Replica) : Prop where
  /-- A request is counted under the key of its identity, unless there is no time to live. -/
  hit : ∃ d records, (l.hit c (some name) s).on r =
      (.ok (some d), (r.counted p (p.keyFor (c.identity s))).relogged records) ∧
    (d.degraded = true ↔ ∃ e, p.keyTtl? = .error e)
  /-- An inspection of the identity addresses this key. -/
  inspect : ((l.inspect (some name) (c.identity s)).on r).2 =
    r.inspected p (p.keyFor (c.identity s))
  /-- A clearing of the identity addresses this key. -/
  clear : ∃ removed records, (l.clear (some name) (c.identity s)).on r =
    (.ok removed, (r.cleared (p.keyFor (c.identity s))).relogged records)
  /-- So does an administrator whose client reaches the store, if the policies are those of the
  settings. -/
  task : ∀ (place : Admin.Place) (address : Address),
    Address.read? r.settings.storeUrl = .ok address →
    (Registry.defaults.configure r.settings.overrides).outcome = .ok l.registry →
    Healthy (.seconds r.settings.storeTimeout) (r.readied place address) →
    (∃ records, ((Admin.run (.inspect name (c.identity s)) place).run r).2 =
      ((r.inspected p (p.keyFor (c.identity s))).relogged records).disconnected) ∧
    ∃ records, ((Admin.run (.clear name (c.identity s)) place).run r).2 =
      ((r.cleared (p.keyFor (c.identity s))).relogged records).disconnected
  /-- An inspection right after a request that was counted includes it. -/
  inspect_after_hit :
    ⟨r.clock.now, r.issuedTokens⟩ ∉
      Window.held (Table.get? r.store (p.keyFor (c.identity s))) →
    ∀ d r', (l.hit c (some name) s).on r = (.ok (some d), r') → d.degraded = false →
      ∃ count, (countAndRecord p (p.keyFor (c.identity s)) (r.met p) r.store).1 = .ok count ∧
        d = decide p count d.resetAt ∧
        ((l.inspect (some name) (c.identity s)).on (r'.atClock r.clock)).1 =
          .ok ⟨count + 1, d.resetAt⟩
  /-- A request after a clearing is answered as in an empty store. -/
  hit_after_clear : ∀ removed r' (clock : Clock),
    (l.clear (some name) (c.identity s)).on r = (.ok removed, r') →
    0 ≤ clock.now → clock.now < 2 ^ 61 →
      ((l.hit c (some name) s).on (r'.atClock clock)).1 =
          ((l.hit c (some name) s).on ((r'.withStore []).atClock clock)).1 ∧
        ∀ ttl, p.keyTtl? = .ok ttl → ∃ resetAt, resetAt? p clock.now = .ok resetAt ∧
          ((l.hit c (some name) s).on (r'.atClock clock)).1 = .ok (some (decide p 0 resetAt))

section Registered

variable (hname : name ≠ "") (hp : l.registry.get? name = some p)

include hname hp

theorem found_of_registered : l.registry.found (some name) r = r := by
  rw [Registry.found_eq, Registry.lookup?, if_neg hname, hp]
  rfl

theorem on_hit_of_healthy (henabled : l.enabled = true) (h : Healthy l.timeout r)
    (hnonneg : 0 ≤ r.clock.now) (hlt : r.clock.now < 2 ^ 61) (c : Caller) (s : Strategy) :
    ∃ result records,
      (Counter.check p (p.keyFor (c.identity s)) (r.met p) r.store).1 = .ok result ∧
      (l.hit c (some name) s).on r = (.ok (some result.decision),
        (r.counted p (p.keyFor (c.identity s))).relogged records) := by
  obtain ⟨resetAt, hreset⟩ :=
    Counter.resetAt?_eq_ok_of_isSome (Counter.isSome_of_reading p hnonneg hlt).2
  have hpolicy : l.policyOf (some name) = p := Registry.resolve_of_get? hname hp
  have hkey : l.keyOf c (some name) s = p.keyFor (c.identity s) := by
    rw [keyOf, hpolicy, Caller.key]
  obtain ⟨result, records, hresult, hcheck⟩ := h.on_check hreset (p.keyFor (c.identity s))
  have hfound : (Replica.check l.timeout (l.policyOf (some name)) (l.keyOf c (some name) s)).on
      (l.registry.found (some name) r) =
        (.ok result.decision, (r.counted p (p.keyFor (c.identity s))).relogged records) := by
    rw [hpolicy, hkey, found_of_registered hname hp]
    exact hcheck
  rw [on_hit henabled hfound]
  unfold settled
  split_ifs
  · exact ⟨result, records, hresult, rfl⟩
  · exact ⟨result, _, hresult, congrArg (Prod.mk _) (Replica.withRecord_eq _ _)⟩

end Registered

section Found

variable (hp : l.registry.get? name = some p)

include hp

theorem on_inspect_of_healthy (h : Healthy l.timeout r) (identity : String) :
    (l.inspect (some name) identity).on r =
      ((Counter.inspect p (p.keyFor identity) r.looked r.store).1,
        r.inspected p (p.keyFor identity)) := by
  unfold inspect Registry.require
  rw [Option.bind_some, hp]
  exact h.on_inspect p (p.keyFor identity)

theorem on_clear_of_healthy (h : Healthy l.timeout r) (identity : String) :
    ∃ removed records,
      (Counter.clear (p.keyFor identity) r.stood r.store).1 = .ok removed ∧
      (l.clear (some name) identity).on r =
        (.ok removed, (r.cleared (p.keyFor identity)).relogged records) := by
  unfold clear Registry.require
  rw [Option.bind_some, hp]
  exact h.on_clear (p.keyFor identity)

/-- An administrator clears what a limiter clears, and prints a line. -/
theorem snd_perform_clear (zone : Zone) (identity : String) (r : Replica) :
    ((Admin.perform zone l (.clear name identity)).on r).2 =
      ((l.clear (some name) identity).on r).2 := by
  unfold Admin.perform
  dsimp only
  rw [hp]
  dsimp only
  rw [on_bind]
  cases (l.clear (some name) identity).on r with
  | mk result r' => cases result <;> rfl

end Found

section Shared

variable (henabled : l.enabled = true) (hname : name ≠ "") (hp : l.registry.get? name = some p)
  (h : Healthy l.timeout r) (hnonneg : 0 ≤ r.clock.now) (hlt : r.clock.now < 2 ^ 61)

include hp

theorem task_of_healthy {place : Admin.Place} {address : Address}
    (hurl : Address.read? r.settings.storeUrl = .ok address)
    (hreg : (Registry.defaults.configure r.settings.overrides).outcome = .ok l.registry)
    (h : Healthy (.seconds r.settings.storeTimeout) (r.readied place address))
    (identity : String) :
    (∃ records, ((Admin.run (.inspect name identity) place).run r).2 =
        ((r.inspected p (p.keyFor identity)).relogged records).disconnected) ∧
      ∃ records, ((Admin.run (.clear name identity) place).run r).2 =
        ((r.cleared (p.keyFor identity)).relogged records).disconnected := by
  let l' := administrative l.registry r
  have hhealthy : ∀ records, Healthy l'.timeout ((r.readied place address).relogged records) :=
    h.relogged
  have hstore : place.isStore (r.connectionTo address none none).address = true :=
    Admin.Place.isStore_of_client_eq (Option.some.inj h.client_eq)
  constructor
  · obtain ⟨records, hrun⟩ := Admin.exists_run_eq hurl hreg (.inspect name identity) place
    refine ⟨records, ?_⟩
    rw [hrun, Look.snd_perform_inspect place.zone (l := l') hp,
      on_inspect_of_healthy (l := l') hp (hhealthy records)]
    unfold Replica.hungUp
    rw [if_pos hstore]
    rfl
  · obtain ⟨records, hrun⟩ := Admin.exists_run_eq hurl hreg (.clear name identity) place
    obtain ⟨removed, records', -, hclear⟩ :=
      on_clear_of_healthy (l := l') hp (hhealthy records) identity
    refine ⟨records', ?_⟩
    rw [hrun, snd_perform_clear (l := l') hp, hclear]
    unfold Replica.hungUp
    rw [if_pos hstore]
    rfl

include henabled hname h hnonneg hlt

/-- Right after a request that was counted, an inspection answers one more than it counted. -/
theorem inspect_after_hit_of_healthy
    (hfresh : ⟨r.clock.now, r.issuedTokens⟩ ∉
      Window.held (Table.get? r.store (p.keyFor (c.identity s))))
    {d : Decision} {r' : Replica} (hhit : (l.hit c (some name) s).on r = (.ok (some d), r'))
    (hdegraded : d.degraded = false) :
    ∃ count, (countAndRecord p (p.keyFor (c.identity s)) (r.met p) r.store).1 = .ok count ∧
      d = decide p count d.resetAt ∧
      ((l.inspect (some name) (c.identity s)).on (r'.atClock r.clock)).1 =
        .ok ⟨count + 1, d.resetAt⟩ := by
  obtain ⟨result, records, hresult, hrun⟩ :=
    on_hit_of_healthy hname hp henabled h hnonneg hlt c s
  cases hrun.symm.trans hhit
  obtain ⟨ttl, httl⟩ : ∃ ttl, p.keyTtl? = .ok ttl := by
    cases httl : p.keyTtl? with
    | ok ttl => exact ⟨ttl, rfl⟩
    | error e =>
        rw [(Replica.degraded_iff hnonneg hlt hresult).mpr ⟨e, httl⟩] at hdegraded
        cases hdegraded
  have hlong : 0 < ttl * Action.second := by
    have := Policy.windowNs_add_le_keyTtl httl
    have := p.windowNs_pos
    unfold Action.second at *
    omega
  have hdelivery : (r.met p).delivery = .delivered := Replica.undisturbed_of_ok httl
  have hreading : r.looked.reading = (r.met p).reading := rfl
  have hdeadline : r.looked.time < (r.met p).time + ttl * Action.second :=
    Int.lt_add_of_pos_right _ hlong
  obtain ⟨resetAt, hcheck, hinspect⟩ :=
    Counter.inspect_after_check hnonneg hlt httl hdelivery hfresh hreading hdeadline rfl
  cases hresult.symm.trans hcheck
  refine ⟨_, Counter.countAndRecord_of_isCounted
    ⟨hdelivery, Counter.fits_of_reading httl hnonneg hlt⟩ _ _, rfl, ?_⟩
  have hhealthy := ((h.counted p (p.keyFor (c.identity s))).relogged records).atClock r.clock
  rw [on_inspect_of_healthy hp hhealthy]
  exact hinspect

omit hnonneg hlt

/-- After a clearing, a request is answered as in an empty store. -/
theorem hit_after_clear_of_healthy {removed : Bool} {r' : Replica} {clock : Clock}
    (hclear : (l.clear (some name) (c.identity s)).on r = (.ok removed, r'))
    (hnonneg : 0 ≤ clock.now) (hlt : clock.now < 2 ^ 61) :
    ((l.hit c (some name) s).on (r'.atClock clock)).1 =
        ((l.hit c (some name) s).on ((r'.withStore []).atClock clock)).1 ∧
      ∀ ttl, p.keyTtl? = .ok ttl → ∃ resetAt, resetAt? p clock.now = .ok resetAt ∧
        ((l.hit c (some name) s).on (r'.atClock clock)).1 = .ok (some (decide p 0 resetAt)) := by
  let key := p.keyFor (c.identity s)
  obtain ⟨removed, records, -, hrun⟩ := on_clear_of_healthy hp h (c.identity s)
  cases hrun.symm.trans hclear
  let r₁ := ((r.cleared key).relogged records).atClock clock
  have hhealthy : Healthy l.timeout r₁ :=
    ((h.cleared key).relogged records).atClock clock
  obtain ⟨result, logged, hresult, hhit⟩ :=
    on_hit_of_healthy (r := r₁) hname hp henabled hhealthy hnonneg hlt c s
  obtain ⟨result', logged', hresult', hhit'⟩ :=
    on_hit_of_healthy (r := r₁.withStore []) hname hp henabled (hhealthy.withStore []) hnonneg hlt
      c s
  have hempty : Table.get? r₁.store key = none := Counter.get?_clear rfl key r.store
  have hsame : (Counter.check p key (r₁.met p) r₁.store).1 =
      (Counter.check p key (r₁.met p) []).1 := Counter.check_after_clear rfl p key _ r.store
  cases hresult.symm.trans (hsame.trans hresult')
  have hanswer : ((l.hit c (some name) s).on r₁).1 = .ok (some result.decision) :=
    congrArg Prod.fst hhit
  refine ⟨hanswer.trans (congrArg Prod.fst hhit').symm, fun ttl httl => ?_⟩
  have hcounted : Counter.IsCounted p (r₁.met p) :=
    ⟨Replica.undisturbed_of_ok httl, Counter.fits_of_reading httl hnonneg hlt⟩
  obtain ⟨resetAt, hreset, hcheck⟩ := Counter.fst_check_of_isCounted hcounted key r₁.store
  rw [hempty] at hcheck
  cases hresult.symm.trans hcheck
  exact ⟨resetAt, hreset, hanswer⟩

end Shared

theorem sharesWindow (henabled : l.enabled = true) (hname : name ≠ "")
    (hp : l.registry.get? name = some p) (h : Healthy l.timeout r) (hnonneg : 0 ≤ r.clock.now)
    (hlt : r.clock.now < 2 ^ 61) (c : Caller) (s : Strategy) : SharesWindow l c name s p r where
  hit := by
    obtain ⟨result, records, hresult, hrun⟩ :=
      on_hit_of_healthy hname hp henabled h hnonneg hlt c s
    exact ⟨_, records, hrun, Replica.degraded_iff hnonneg hlt hresult⟩
  inspect := congrArg Prod.snd (on_inspect_of_healthy hp h (c.identity s))
  clear := by
    obtain ⟨removed, records, -, hrun⟩ := on_clear_of_healthy hp h (c.identity s)
    exact ⟨removed, records, hrun⟩
  task := fun _ _ hurl hreg hadmin => task_of_healthy hp hurl hreg hadmin (c.identity s)
  inspect_after_hit := fun hfresh _ _ hhit hdegraded =>
    inspect_after_hit_of_healthy henabled hname hp h hnonneg hlt hfresh hhit hdegraded
  hit_after_clear := fun _ _ _ hclear hnonneg hlt =>
    hit_after_clear_of_healthy henabled hname hp h hclear hnonneg hlt

section Unknown

variable {unknown : Option String}

theorem lookup?_of_unknown (h : ∀ n ∈ unknown, n = "" ∨ l.registry.get? n = none) :
    l.registry.lookup? unknown = none := by
  cases unknown with
  | none => rfl
  | some n =>
      unfold Registry.lookup?
      dsimp only
      split_ifs with hn
      · rfl
      · exact (h n rfl).resolve_left hn

/-- A name that is not registered stands for the default one, and only the log tells them
apart. -/
theorem hit_of_unknown (h : ∀ n ∈ unknown, n = "" ∨ l.registry.get? n = none) (c : Caller)
    (s : Strategy) (r : Replica) :
    ∃ records, (l.hit c unknown s).on r =
      (((l.hit c (some Registry.defaultName) s).on r).1,
        ((l.hit c (some Registry.defaultName) s).on r).2.relogged records) := by
  have hlookup := lookup?_of_unknown h
  have hdefault := l.registry.get?_defaultName
  have hname : Registry.defaultName ≠ "" := by decide
  cases henabled : l.enabled with
  | false =>
      unfold hit
      rw [henabled]
      exact ⟨(r.emitted, r.records), rfl⟩
  | true =>
      rw [on_hit_eq henabled, on_hit_eq henabled, found_of_registered hname hdefault,
        Registry.resolve_of_get? hname hdefault, Registry.found_eq, hlookup, Registry.resolve,
        hlookup, Replica.withRecord_eq]
      exact (steady_hitUnder l c s l.registry.fallback).blind r _

/-- Administration wants the name of a policy. -/
theorem inspect_clear_of_unknown (h : unknown.bind l.registry.get? = none) (identity : String)
    (r : Replica) :
    (l.inspect unknown identity).on r = (.error (.unknownPolicy unknown), r) ∧
      (l.clear unknown identity).on r = (.error (.unknownPolicy unknown), r) := by
  unfold inspect clear Registry.require
  rw [h]
  exact ⟨rfl, rfl⟩

end Unknown

/-- Under a registered name, requests and administration share the window of an identity.
Under any other one, a request is counted as under the default name, while an inspection or a
clearing fails and leaves the replica as it is. -/
theorem requests_share_windows_with_administration :
    (∀ (l : Limiter) (c : Caller) (name : String) (s : Strategy) (p : Policy) (r : Replica),
      l.enabled = true → name ≠ "" → l.registry.get? name = some p → Healthy l.timeout r →
      0 ≤ r.clock.now → r.clock.now < 2 ^ 61 → SharesWindow l c name s p r) ∧
    ∀ (l : Limiter) (name : Option String) (r : Replica),
      ((∀ n ∈ name, n = "" ∨ l.registry.get? n = none) → ∀ (c : Caller) (s : Strategy),
        ∃ records, (l.hit c name s).on r =
          (((l.hit c (some Registry.defaultName) s).on r).1,
            ((l.hit c (some Registry.defaultName) s).on r).2.relogged records)) ∧
      (name.bind l.registry.get? = none → (Fault.unknownPolicy name).name = "KeyError" ∧
        ∀ identity : String,
          (l.inspect name identity).on r = (.error (.unknownPolicy name), r) ∧
            (l.clear name identity).on r = (.error (.unknownPolicy name), r)) :=
  ⟨fun _ c _ s _ _ henabled hname hp h hnonneg hlt =>
      sharesWindow henabled hname hp h hnonneg hlt c s,
    fun _ _ r => ⟨fun h c s => hit_of_unknown h c s r,
      fun h => ⟨rfl, fun identity => inspect_clear_of_unknown h identity r⟩⟩⟩

theorem afterBurst_shares_windows :
    let guest : Caller := { clientIp := "10.0.0.1" }
    Healthy builtin.timeout afterBurst ∧
      (∃ address, Address.read? afterBurst.settings.storeUrl = .ok address ∧
        Healthy (.seconds afterBurst.settings.storeTimeout) (afterBurst.readied {} address)) ∧
      (∃ d r', (builtin.hit guest (some "strict") .ip).on afterBurst = (.ok (some d), r') ∧
        d.degraded = false ∧
        ((builtin.inspect (some "strict") "10.0.0.1").on (r'.atClock afterBurst.clock)).1 =
          .ok ⟨4, d.resetAt⟩) ∧
      (∃ removed r' d, (builtin.clear (some "strict") "10.0.0.1").on afterBurst =
          (.ok removed, r') ∧
        ((builtin.hit guest (some "strict") .ip).on (r'.atClock afterBurst.clock)).1 =
          .ok (some d) ∧ d.allowed = true ∧ d.remaining = 2) ∧
      ((Admin.run (.clear "strict" "10.0.0.1")).run afterBurst).2.sent =
        [.command (.on "ratelimit:strict:10.0.0.1" .delete)] ∧
      (∃ records, (builtin.hit guest (some "strct") .ip).on afterBurst =
        (((builtin.hit guest (some "default") .ip).on afterBurst).1,
          ((builtin.hit guest (some "default") .ip).on afterBurst).2.relogged records)) ∧
      (builtin.clear (some "strct") "10.0.0.1").on afterBurst =
        (.error (.unknownPolicy (some "strct")), afterBurst) := by
  intro guest
  have hhealthy : Healthy builtin.timeout afterBurst :=
    ⟨rfl, rfl, by decide +kernel, ⟨_, rfl, fun _ => rfl⟩⟩
  have hport : (Address.read? afterBurst.settings.storeUrl).toOption.map Address.port =
      some (some (.number 6379)) := by decide +kernel
  obtain ⟨address, hurl, -⟩ := Event.exists_eq_ok hport
  have hadmin : Healthy (.seconds afterBurst.settings.storeTimeout)
      (afterBurst.readied {} address) :=
    ⟨rfl, rfl, by decide +kernel, ⟨_, rfl, fun _ => rfl⟩⟩
  have hp : builtin.registry.get? "strict" = some strictPolicy := by decide +kernel
  have hreg : (Registry.defaults.configure afterBurst.settings.overrides).outcome =
      .ok builtin.registry := rfl
  have httl : strictPolicy.keyTtl? = .ok 360 := by decide +kernel
  have hfresh : (⟨afterBurst.clock.now, afterBurst.issuedTokens⟩ : Entry) ∉
      Window.held (Table.get? afterBurst.store
        (strictPolicy.keyFor (guest.identity .ip))) := by decide +kernel
  have hseen : (countAndRecord strictPolicy (strictPolicy.keyFor (guest.identity .ip))
      (afterBurst.met strictPolicy) afterBurst.store).1.toOption = some 3 := by decide +kernel
  have hkey : strictPolicy.keyFor (guest.identity .ip) = "ratelimit:strict:10.0.0.1" := by
    decide +kernel
  obtain ⟨hregistered, hother⟩ := requests_share_windows_with_administration
  have hshares := hregistered builtin guest "strict" .ip strictPolicy afterBurst rfl (by decide) hp
    hhealthy (by decide) (by decide)
  obtain ⟨d, records, hhit, hdegraded⟩ := hshares.hit
  obtain ⟨removed, records', hclear⟩ := hshares.clear
  have hcounted : d.degraded = false := by
    rw [← Bool.not_eq_true, hdegraded, httl]
    simp
  obtain ⟨count, hcount, -, hinspect⟩ :=
    hshares.inspect_after_hit hfresh d _ hhit hcounted
  rw [hcount] at hseen
  cases hseen
  obtain ⟨-, hempty⟩ := hshares.hit_after_clear removed _ afterBurst.clock hclear (by decide)
    (by decide)
  obtain ⟨resetAt, -, hnext⟩ := hempty 360 httl
  obtain ⟨-, records'', htask⟩ := hshares.task {} address hurl hreg hadmin
  refine ⟨hhealthy, ⟨address, hurl, hadmin⟩, ⟨d, _, hhit, hcounted, hinspect⟩,
    ⟨removed, _, _, hclear, hnext, rfl, rfl⟩, ?_, ?_, ?_⟩
  · rw [show "10.0.0.1" = guest.identity .ip from rfl, htask, hkey]
    rfl
  · exact (hother builtin (some "strct") afterBurst).1 (by decide +kernel) guest .ip
  · exact (((hother builtin (some "strct") afterBurst).2 (by decide +kernel)).2 "10.0.0.1").2

end Limiter

end RateLimit
