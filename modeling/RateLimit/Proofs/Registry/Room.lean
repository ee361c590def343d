import RateLimit.Proofs.Registry.Settings

/-!
# Policies that limit

A key is kept for the window of its policy and a minute, and both together have to be a
span. A window of the last minute that spans reach, one without `Span.HasRoom`, makes a policy
all the same: its checks are then degraded, one and all, even by a store that works. So the
policies that are made of settings limit exactly if every window that is set leaves room,
`policies_limit_iff`.
-/

namespace RateLimit

open Act
open Replica (Healthy check)

/-- A span that is still one with a minute more. -/
def Span.HasRoom (s : Span) : Prop :=
  s.microseconds + minute.microseconds < (dayLimit + 1) * dayMicroseconds

instance (s : Span) : Decidable s.HasRoom :=
  inferInstanceAs (Decidable (_ < _))

namespace Policy

variable {p : Policy}

/-- A key has a time to live if there is room for it beyond the window. -/
theorem exists_keyTtl?_iff : (∃ ttl, p.keyTtl? = .ok ttl) ↔ p.window.HasRoom := by
  have hpos := p.window_pos
  have hspan := p.window.isSpan
  have hroom : p.window.HasRoom ↔ IsSpan (p.window.microseconds + 60000000) := by
    change p.window.microseconds + 60000000 < _ ↔ _
    unfold IsSpan dayLimit dayMicroseconds at *
    omega
  rw [hroom]
  constructor
  · rintro ⟨ttl, httl⟩
    obtain ⟨s, hs, -⟩ := keyTtl?_eq_ok_iff.mp httl
    exact hs ▸ s.isSpan
  · exact fun h => ⟨_, keyTtl?_eq_ok_iff.mpr ⟨⟨_, h⟩, rfl, rfl⟩⟩

/-- A policy under which every check on a store that works is decided by what the store
holds. -/
def Limits (p : Policy) : Prop :=
  ∀ (timeout : Timeout) (key : String) (r : Replica), Healthy timeout r →
    0 ≤ r.clock.now → r.clock.now < 2 ^ 61 →
      ∃ d r', (check timeout p key).on r = (.ok d, r') ∧ d.degraded = false ∧
        d = Counter.decide p (Counter.seen p (r.met p) (Table.get? r.store key)) d.resetAt

/-- A policy under which no check is decided by a store, not even by one that works. -/
def LimitsNothing (p : Policy) : Prop :=
  ∀ (timeout : Timeout) (key : String) (r : Replica), Healthy timeout r →
    0 ≤ r.clock.now → r.clock.now < 2 ^ 61 →
      ∃ d r', (check timeout p key).on r = (.ok d, r') ∧ d.degraded = true ∧ d.allowed = true

theorem limits_of_hasRoom (h : p.window.HasRoom) : p.Limits := by
  intro timeout key r hhealthy hnonneg hlt
  obtain ⟨ttl, httl⟩ := exists_keyTtl?_iff.mpr h
  obtain ⟨resetAt, hreset, hcheck⟩ := Counter.fst_check_of_isCounted (o := r.met p)
    ⟨Replica.undisturbed_of_ok httl, Counter.fits_of_reading httl hnonneg hlt⟩ key r.store
  obtain ⟨result, records, hresult, hrun⟩ := hhealthy.on_check hreset key
  cases hresult.symm.trans hcheck
  exact ⟨_, _, hrun, rfl, rfl⟩

theorem limitsNothing_of_not_hasRoom (h : ¬p.window.HasRoom) : p.LimitsNothing := by
  intro timeout key r hhealthy hnonneg hlt
  obtain ⟨e, he⟩ : ∃ e, p.keyTtl? = .error e := by
    cases httl : p.keyTtl? with
    | ok ttl => exact absurd (exists_keyTtl?_iff.mp ⟨ttl, httl⟩) h
    | error e => exact ⟨e, rfl⟩
  obtain ⟨resetAt, hreset⟩ :=
    Counter.resetAt?_eq_ok_of_isSome (Counter.isSome_of_reading p hnonneg hlt).2
  obtain ⟨result, records, hresult, hrun⟩ := hhealthy.on_check hreset key
  have hdegraded := (Replica.degraded_iff hnonneg hlt hresult).mpr ⟨e, he⟩
  exact ⟨_, _, hrun, hdegraded, (Counter.check_inv (Prod.ext hresult rfl)).2 hdegraded⟩

theorem LimitsNothing.not_limits (h : p.LimitsNothing) : ¬p.Limits := by
  intro hlimits
  obtain ⟨d, r, hrun, hdegraded, -⟩ :=
    h _ "" _ Replica.healthy_reaching (by decide) (by decide)
  obtain ⟨d', r', hrun', hcounted, -⟩ :=
    hlimits _ "" _ Replica.healthy_reaching (by decide) (by decide)
  cases hrun.symm.trans hrun'
  exact Bool.noConfusion (hdegraded.symm.trans hcounted)

theorem limits_iff_hasRoom : p.Limits ↔ p.window.HasRoom := by
  refine ⟨fun hlimits => ?_, limits_of_hasRoom⟩
  by_contra hroom
  exact (limitsNothing_of_not_hasRoom hroom).not_limits hlimits

end Policy

/-- An override that sets no window without room. -/
def Override.LeavesRoom (o : Override) : Prop :=
  ∀ seconds ∈ o.windowSeconds, ∀ window, Span.ofSeconds? seconds = .ok window → window.HasRoom

namespace Registry

variable {reg : Registry} {r r' : Replica}

theorem hasRoom_defaults : ∀ p ∈ defaults.all, p.window.HasRoom := by decide

/-- Every policy that is made of settings either limits or limits nothing, and all of them
limit exactly if no override sets a window without room. -/
theorem policies_limit_iff (h : ofSettings.on r = (.ok reg, r')) :
    (∀ p ∈ reg.all, (p.window.HasRoom → p.Limits) ∧ (¬p.window.HasRoom → p.LimitsNothing)) ∧
      ((∀ o ∈ r.settings.overrides, o.2.LeavesRoom) → ∀ p ∈ reg.all, p.Limits) ∧
        ((r.settings.overrides.map Prod.fst).Nodup → (∀ p ∈ reg.all, p.Limits) →
          ∀ o ∈ r.settings.overrides, o.2.LeavesRoom) := by
  have hconfigure := outcome_of_on_ofSettings h
  refine ⟨fun p _ => ⟨Policy.limits_of_hasRoom, Policy.limitsNothing_of_not_hasRoom⟩,
    fun hroom p hp => Policy.limits_of_hasRoom ?_, fun hnodup hlimits o ho => ?_⟩
  · rcases window_of_configure hconfigure hp with
      ⟨q, hq, hwindow⟩ | ⟨o, ho, seconds, hseconds, hwindow⟩
    · rw [hwindow]
      exact hasRoom_defaults q hq
    · exact hroom o ho seconds hseconds p.window hwindow
  · obtain ⟨p, hp, hset⟩ := exists_get?_of_configure hconfigure hnodup ho
    intro seconds hseconds window hwindow
    cases (hset seconds hseconds).symm.trans hwindow
    exact Policy.limits_iff_hasRoom.mp (hlimits p (mem_all_of_get? hp))

/-- A default policy of one request whose window ends within the last second that spans
reach. -/
def lastSecond : Replica where
  settings := {
    overrides := [("default", {
      maxRequests := some 1, windowSeconds := some (.finite 86399999999999) })] }

theorem ofSettings_lastSecond :
    ∃ reg records, ofSettings.on lastSecond = (.ok reg, lastSecond.relogged records) ∧
      ¬reg.fallback.window.HasRoom := by
  have hroom : ((defaults.configure lastSecond.settings.overrides).outcome.toOption.any
      fun reg => !Decidable.decide reg.fallback.window.HasRoom) = true := by decide +kernel
  cases hout : (defaults.configure lastSecond.settings.overrides).outcome with
  | error e =>
      rw [hout] at hroom
      cases hroom
  | ok reg =>
      rw [hout] at hroom
      obtain ⟨records, hrun⟩ := on_ofSettings_of_ok hout
      exact ⟨reg, records, hrun, by simpa [Except.toOption] using hroom⟩

/-- Such a policy is made, and it limits nothing. -/
theorem lastSecond_policies :
    ∃ reg r', ofSettings.on lastSecond = (.ok reg, r') ∧ reg.fallback.LimitsNothing ∧
      ¬∀ o ∈ lastSecond.settings.overrides, o.2.LeavesRoom := by
  obtain ⟨reg, records, hrun, hroom⟩ := ofSettings_lastSecond
  have hmem := mem_all_of_get? reg.get?_defaultName
  obtain ⟨hpolicies, hall, -⟩ := policies_limit_iff hrun
  have hnothing := (hpolicies _ hmem).2 hroom
  exact ⟨reg, _, hrun, hnothing, fun hleaves => hnothing.not_limits (hall hleaves _ hmem)⟩

/-- Not every policy that is made of settings limits: some of their checks are degraded
although nothing is wrong with the store. -/
theorem not_forall_policies_limit :
    ¬∀ (r r' : Replica) (reg : Registry), ofSettings.on r = (.ok reg, r') →
      ∀ p ∈ reg.all, ∀ (timeout : Timeout) (key : String) (r₁ : Replica), Healthy timeout r₁ →
        0 ≤ r₁.clock.now → r₁.clock.now < 2 ^ 61 →
          ∃ d r₂, (check timeout p key).on r₁ = (.ok d, r₂) ∧ d.degraded = false := by
  intro hlimit
  obtain ⟨reg, records, hrun, hroom⟩ := ofSettings_lastSecond
  obtain ⟨d, r₁, hcheck, hdegraded, -⟩ := Policy.limitsNothing_of_not_hasRoom hroom _ "" _
    Replica.healthy_reaching (by decide) (by decide)
  obtain ⟨d', r₂, hcheck', hcounted⟩ := hlimit _ _ reg hrun reg.fallback
    (mem_all_of_get? reg.get?_defaultName) _ "" _ Replica.healthy_reaching (by decide) (by decide)
  cases hcheck.symm.trans hcheck'
  exact Bool.noConfusion (hdegraded.symm.trans hcounted)

end Registry

end RateLimit
