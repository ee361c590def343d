import RateLimit.Limiter
import RateLimit.Proofs.Replica.Healthy

/-!
# Where the policies of a registry come from

Overlaying overrides writes one policy after the other into a registry, and
`configure_induction` carries a property from one registry to the next. An override makes a
policy of what it sets and of the one that is there, `Override.Makes`. A policy of the result
has the window of a policy that was there before or the one that an override sets,
`window_of_configure`, and if no name is overridden twice, every override makes the policy
under its name, `exists_makes_of_configure`. A replica that makes its policies logs
them and changes nothing else, `on_ofSettings`.
-/

namespace RateLimit

open Act

namespace Table

variable {α : Type} {t : Table α} {k : String} {v : α}

theorem mem_of_get? (h : get? t k = some v) : (k, v) ∈ t := by
  induction t with
  | nil => cases h
  | cons p rest ih =>
      rw [get?_cons] at h
      split_ifs at h with hk
      · cases h
        exact hk ▸ List.mem_cons_self
      · exact List.mem_cons_of_mem _ (ih h)

theorem mem_put {q : String × α} (h : q ∈ put k v t) : q = (k, v) ∨ q ∈ t := by
  induction t with
  | nil => exact Or.inl (List.mem_singleton.mp h)
  | cons p rest ih =>
      obtain ⟨j, w⟩ := p
      unfold put at h
      split_ifs at h with hk
      · exact (List.mem_cons.mp h).imp (fun heq => by rw [heq, hk]) (List.mem_cons_of_mem _)
      · rcases List.mem_cons.mp h with heq | hrest
        · exact Or.inr (List.mem_cons.mpr (Or.inl heq))
        · exact (ih hrest).imp_right (List.mem_cons_of_mem _)

end Table

namespace Override

variable {o : Override} {name : String} {base : Option Policy} {p : Policy}

/-- What an override makes of the policy under its name, if there is one: a policy of this name
with what the override sets, and else with what was there. An empty prefix sets none. -/
structure Makes (o : Override) (name : String) (base : Option Policy) (p : Policy) : Prop where
  name_eq : p.name = name
  maxRequests_eq :
    o.maxRequests.or (base.map fun q => (q.maxRequests : Int)) = some (p.maxRequests : Int)
  window_eq : (o.windowSeconds.map Span.ofSeconds?).or (base.map fun q => .ok q.window) =
    some (.ok p.window)
  keyPrefix_eq : p.keyPrefix =
    ((o.keyPrefix.filter (· ≠ "")).or (base.map Policy.keyPrefix)).getD
      (Policy.defaultPrefix name)

theorem prefixOr_eq (o : Override) (fallback : String) :
    o.prefixOr fallback = (o.keyPrefix.filter (· ≠ "")).getD fallback := by
  unfold prefixOr
  cases o.keyPrefix with
  | none => rfl
  | some s => by_cases h : s = "" <;> simp [h, Option.filter]

theorem make?_window?_eq_ok_iff {seconds : Number.Binary64} {n : Int} {keyPrefix : String} :
    (do Policy.make? name n (← window? seconds) keyPrefix) = .ok p ↔
      p.name = name ∧ (p.maxRequests : Int) = n ∧ Span.ofSeconds? seconds = .ok p.window ∧
        p.keyPrefix = keyPrefix := by
  unfold window?
  cases hspan : Span.ofSeconds? seconds with
  | error e =>
      constructor
      · nofun
      · rintro ⟨-, -, hwindow, -⟩
        cases hwindow
  | ok window =>
      rw [Except.ok.injEq, eq_comm (a := window)]
      exact Policy.make?_eq_ok_iff

theorem makes_some_iff {q : Policy} : o.Makes name (some q) p ↔
    p.name = name ∧ (p.maxRequests : Int) = o.maxRequests.getD q.maxRequests ∧
      (o.windowSeconds.map Span.ofSeconds?).getD (.ok q.window) = .ok p.window ∧
        p.keyPrefix = o.prefixOr q.keyPrefix := by
  rw [prefixOr_eq]
  constructor
  · rintro ⟨hname, hrequests, hwindow, hprefix⟩
    rw [Option.map_some, Option.or_some, Option.some.injEq] at hrequests hwindow
    rw [Option.map_some, Option.or_some] at hprefix
    exact ⟨hname, hrequests.symm, hwindow, hprefix⟩
  · rintro ⟨hname, hrequests, hwindow, hprefix⟩
    refine ⟨hname, ?_, ?_, ?_⟩
    · rw [Option.map_some, Option.or_some, hrequests]
    · rw [Option.map_some, Option.or_some, hwindow]
    · rw [Option.map_some, Option.or_some, hprefix]
      rfl

theorem makes_none_iff : o.Makes name none p ↔
    p.name = name ∧ o.maxRequests = some (p.maxRequests : Int) ∧
      o.windowSeconds.map Span.ofSeconds? = some (.ok p.window) ∧
        p.keyPrefix = o.prefixOr (Policy.defaultPrefix name) := by
  rw [prefixOr_eq]
  constructor
  · rintro ⟨hname, hrequests, hwindow, hprefix⟩
    rw [Option.map_none, Option.or_none] at hrequests hwindow hprefix
    exact ⟨hname, hrequests, hwindow, hprefix⟩
  · rintro ⟨hname, hrequests, hwindow, hprefix⟩
    refine ⟨hname, ?_, ?_, ?_⟩ <;> rwa [Option.map_none, Option.or_none]

/-- An override makes the policy that it says, and no other. -/
theorem policy?_eq_ok_iff : o.policy? name base = .ok p ↔ o.Makes name base p := by
  cases base with
  | some q =>
      rw [makes_some_iff]
      unfold policy?
      dsimp only
      cases hseconds : o.windowSeconds with
      | some seconds => exact make?_window?_eq_ok_iff
      | none =>
          rw [Option.map_none, Option.getD_none, Except.ok.injEq, eq_comm (a := q.window)]
          exact Policy.make?_eq_ok_iff
  | none =>
      rw [makes_none_iff]
      unfold policy?
      dsimp only
      cases hrequests : o.maxRequests with
      | none => simp
      | some n =>
          cases hseconds : o.windowSeconds with
          | none => simp
          | some seconds =>
              rw [Option.map_some, Option.some.injEq, Option.some.injEq, eq_comm (a := n)]
              exact make?_window?_eq_ok_iff

/-- An override leaves the window of the policy under its name, or it sets one. -/
theorem Makes.window_cases (h : o.Makes name base p) :
    (∃ q ∈ base, p.window = q.window) ∨
      ∃ seconds ∈ o.windowSeconds, Span.ofSeconds? seconds = .ok p.window := by
  have hwindow := h.window_eq
  cases hseconds : o.windowSeconds with
  | some seconds =>
      rw [hseconds] at hwindow
      exact Or.inr ⟨seconds, rfl, Option.some.inj hwindow⟩
  | none =>
      rw [hseconds] at hwindow
      obtain ⟨q, hq, hsame⟩ := Option.map_eq_some_iff.mp hwindow
      exact Or.inl ⟨q, hq, (Except.ok.inj hsame).symm⟩

end Override

namespace Registry

variable {reg reg' : Registry} {overrides : List (String × Override)} {p q : Policy}
  {name : String}

theorem mem_all_of_get? (h : reg.get? name = some p) : p ∈ reg.all :=
  List.mem_map_of_mem (Table.mem_of_get? h)

theorem mem_all_put (h : p ∈ (reg.put q).all) : p = q ∨ p ∈ reg.all := by
  obtain ⟨pair, hpair, rfl⟩ := List.mem_map.mp h
  exact (Table.mem_put hpair).imp (congrArg Prod.snd) List.mem_map_of_mem

/-- Overrides take effect one by one, and all of them make policies. -/
theorem configure_cons_eq_ok {o : Override} {rest : List (String × Override)}
    (h : (reg.configure ((name, o) :: rest)).outcome = .ok reg') :
    ∃ p, o.policy? name (reg.get? name) = .ok p ∧
      ((reg.put p).configure rest).outcome = .ok reg' := by
  cases hp : o.policy? name (reg.get? name) with
  | error e =>
      rw [configure_cons_of_error hp] at h
      cases h
  | ok p =>
      rw [configure_cons_of_ok hp] at h
      exact ⟨p, rfl, h⟩

/-- What holds of a registry, and of every registry into which a policy is written that one of
the overrides makes, holds of the result. -/
theorem configure_induction {P : Registry → Prop}
    (h : (reg.configure overrides).outcome = .ok reg') (hreg : P reg)
    (hput : ∀ (before : Registry) (o : String × Override) (made : Policy), o ∈ overrides →
      o.2.Makes o.1 (before.get? o.1) made → P before → P (before.put made)) : P reg' := by
  induction overrides generalizing reg with
  | nil =>
      cases h
      exact hreg
  | cons first rest ih =>
      obtain ⟨made, hmade, hrest⟩ := configure_cons_eq_ok h
      have hmakes := Override.policy?_eq_ok_iff.mp hmade
      exact ih hrest (hput reg first made List.mem_cons_self hmakes hreg)
        fun before o made ho => hput before o made (List.mem_cons_of_mem _ ho)

theorem window_of_configure (h : (reg.configure overrides).outcome = .ok reg')
    (hp : p ∈ reg'.all) :
    (∃ q ∈ reg.all, p.window = q.window) ∨
      ∃ o ∈ overrides, ∃ seconds ∈ o.2.windowSeconds, Span.ofSeconds? seconds = .ok p.window := by
  let comes (q : Policy) : Prop := (∃ q' ∈ reg.all, q.window = q'.window) ∨
    ∃ o ∈ overrides, ∃ seconds ∈ o.2.windowSeconds, Span.ofSeconds? seconds = .ok q.window
  have hall : ∀ q ∈ reg'.all, comes q := by
    refine configure_induction (P := fun r => ∀ q ∈ r.all, comes q) h
      (fun q hq => Or.inl ⟨q, hq, rfl⟩) fun before o made ho hmakes hbefore q hq => ?_
    rcases mem_all_put hq with rfl | hold
    · rcases hmakes.window_cases with ⟨base, hbase, hkept⟩ | hset
      · have hcomes := hbefore base (mem_all_of_get? hbase)
        unfold comes at hcomes ⊢
        rwa [hkept]
      · exact Or.inr ⟨o, ho, hset⟩
    · exact hbefore q hold
  exact hall p hp

theorem get?_configure_of_notMem (h : (reg.configure overrides).outcome = .ok reg')
    (hname : name ∉ overrides.map Prod.fst) : reg'.get? name = reg.get? name := by
  refine configure_induction (P := fun r => r.get? name = reg.get? name) h rfl
    fun before o made ho hmakes hbefore => ?_
  rw [get?_put_of_ne, hbefore]
  rw [hmakes.name_eq]
  rintro rfl
  exact hname (List.mem_map_of_mem ho)

/-- An override whose name no other one has decides about the policy under this name. -/
theorem exists_makes_of_configure (h : (reg.configure overrides).outcome = .ok reg')
    (hnodup : (overrides.map Prod.fst).Nodup) {o : String × Override} (ho : o ∈ overrides) :
    ∃ p, reg'.get? o.1 = some p ∧ o.2.Makes o.1 (reg.get? o.1) p := by
  induction overrides generalizing reg with
  | nil => cases ho
  | cons first rest ih =>
      obtain ⟨made, hmade, hrest⟩ := configure_cons_eq_ok h
      have hmakes := Override.policy?_eq_ok_iff.mp hmade
      obtain ⟨hfirst, hnodup'⟩ := List.nodup_cons.mp hnodup
      rcases List.mem_cons.mp ho with rfl | hlater
      · refine ⟨made, ?_, hmakes⟩
        rw [get?_configure_of_notMem hrest hfirst, ← hmakes.name_eq, get?_put_self]
      · have hne : o.1 ≠ made.name := by
          rw [hmakes.name_eq]
          rintro heq
          exact hfirst (heq ▸ List.mem_map_of_mem hlater)
        have hlast := ih hrest hnodup' hlater
        rwa [get?_put_of_ne hne] at hlast

theorem exists_get?_of_configure (h : (reg.configure overrides).outcome = .ok reg')
    (hnodup : (overrides.map Prod.fst).Nodup) {o : String × Override} (ho : o ∈ overrides) :
    ∃ p, reg'.get? o.1 = some p ∧
      ∀ seconds ∈ o.2.windowSeconds, Span.ofSeconds? seconds = .ok p.window := by
  obtain ⟨p, hp, hmakes⟩ := exists_makes_of_configure h hnodup ho
  refine ⟨p, hp, fun seconds hseconds => ?_⟩
  have hwindow := hmakes.window_eq
  rw [Option.mem_def.mp hseconds] at hwindow
  exact Option.some.inj hwindow

theorem on_forM_log (record : Policy → Log.Record) (ps : List Policy) (r : Replica) :
    ∃ records, (ps.forM fun p => Replica.log (record p)).on r = (.ok (), r.relogged records) := by
  induction ps generalizing r with
  | nil => exact ⟨(r.emitted, r.records), rfl⟩
  | cons p rest ih =>
      obtain ⟨records, hrest⟩ := ih (r.withRecord (record p))
      refine ⟨records, ?_⟩
      rw [show (p :: rest).forM (fun p => Replica.log (record p)) =
        Replica.log (record p) >>= fun _ => rest.forM fun p => Replica.log (record p) from rfl,
        on_bind_of_ok r (Replica.on_log _ r), hrest, Replica.withRecord_eq]
      rfl

/-- Making the policies of the settings changes the log alone. -/
theorem on_ofSettings (r : Replica) :
    ∃ records, ofSettings.on r =
      ((defaults.configure r.settings.overrides).outcome.mapError .policy,
        r.relogged records) := by
  obtain ⟨records, hlogs⟩ :=
    on_forM_log configuredRecord (defaults.configure r.settings.overrides).configured r
  refine ⟨records, ?_⟩
  unfold ofSettings
  rw [on_bind_of_ok r (on_get r), on_bind_of_ok r hlogs]
  rfl

theorem on_ofSettings_of_ok {r : Replica}
    (h : (defaults.configure r.settings.overrides).outcome = .ok reg) :
    ∃ records, ofSettings.on r = (.ok reg, r.relogged records) := by
  obtain ⟨records, hrun⟩ := on_ofSettings r
  rw [h] at hrun
  exact ⟨records, hrun⟩

theorem outcome_of_on_ofSettings {r r' : Replica} (h : ofSettings.on r = (.ok reg, r')) :
    (defaults.configure r.settings.overrides).outcome = .ok reg := by
  obtain ⟨records, hrun⟩ := on_ofSettings r
  have hresult := congrArg Prod.fst (hrun.symm.trans h)
  cases hout : (defaults.configure r.settings.overrides).outcome with
  | error e =>
      rw [hout] at hresult
      cases hresult
  | ok made =>
      rw [hout] at hresult
      cases hresult
      rfl

end Registry

end RateLimit
