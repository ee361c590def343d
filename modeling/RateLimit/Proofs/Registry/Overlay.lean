import RateLimit.Http.App
import RateLimit.Proofs.Registry.Settings
import RateLimit.Proofs.Table

/-!
# Registries overlaid with overrides

The registry of the settings is that of the built-in policies with the overrides laid over it,
`Registry.Overlays`: the names of the built-in policies come first, the new ones follow in the
order of the overrides, and each field of a policy is what its override sets, or else what
was there. No override depends on another one as long as their names are distinct, so the
registry exists exactly if each override is valid on its own, `exists_configure_iff`, and
their order decides on nothing but the order of the names, `Overlays.get?_eq`.
-/

namespace RateLimit

open Act

namespace Override

variable {o : Override} {name : String} {base : Option Policy} {p q : Policy}

/-- An override that makes a policy of the one under its name, if there is one. -/
structure Valid (o : Override) (base : Option Policy) : Prop where
  admits : ∀ n ∈ o.maxRequests, 1 ≤ n
  lasts : ∀ seconds ∈ o.windowSeconds,
    ∃ window, Span.ofSeconds? seconds = .ok window ∧ 1 ≤ window.microseconds
  complete : base = none → o.maxRequests.isSome = true ∧ o.windowSeconds.isSome = true

/-- What an override makes is determined. -/
theorem Makes.unique (h : o.Makes name base p) (h' : o.Makes name base q) : p = q := by
  have hp := policy?_eq_ok_iff.mpr h
  rw [policy?_eq_ok_iff.mpr h'] at hp
  exact (Except.ok.inj hp).symm

theorem Makes.valid (h : o.Makes name base p) : o.Valid base where
  admits := by
    intro n hn
    have hrequests := h.maxRequests_eq
    rw [Option.mem_def.mp hn] at hrequests
    have hpos := p.maxRequests_pos
    have heq : n = (p.maxRequests : Int) := Option.some.inj hrequests
    omega
  lasts := by
    intro seconds hseconds
    have hwindow := h.window_eq
    rw [Option.mem_def.mp hseconds] at hwindow
    exact ⟨p.window, Option.some.inj hwindow, p.window_pos⟩
  complete := by
    rintro rfl
    obtain ⟨-, hrequests, hwindow, -⟩ := makes_none_iff.mp h
    refine ⟨by rw [hrequests]; rfl, ?_⟩
    cases hseconds : o.windowSeconds with
    | none =>
        rw [hseconds] at hwindow
        cases hwindow
    | some seconds => rfl

/-- A valid override has a number of requests and a window to make a policy of. -/
theorem Valid.exists_fields (h : o.Valid base) :
    (∃ n : Nat, 0 < n ∧
      o.maxRequests.or (base.map fun q => (q.maxRequests : Int)) = some (n : Int)) ∧
    ∃ window : Span, 0 < window.microseconds ∧
      (o.windowSeconds.map Span.ofSeconds?).or (base.map fun q => .ok q.window) =
        some (.ok window) := by
  constructor
  · cases hrequests : o.maxRequests with
    | some n =>
        have hpos := h.admits n hrequests
        exact ⟨n.toNat, by omega, congrArg some (by omega)⟩
    | none =>
        cases base with
        | some q => exact ⟨q.maxRequests, q.maxRequests_pos, rfl⟩
        | none =>
            have hgiven := (h.complete rfl).1
            rw [hrequests] at hgiven
            cases hgiven
  · cases hseconds : o.windowSeconds with
    | some seconds =>
        obtain ⟨window, hspan, hpos⟩ := h.lasts seconds hseconds
        exact ⟨window, hpos, congrArg some hspan⟩
    | none =>
        cases base with
        | some q => exact ⟨q.window, q.window_pos, rfl⟩
        | none =>
            have hgiven := (h.complete rfl).2
            rw [hseconds] at hgiven
            cases hgiven

theorem exists_makes_iff : (∃ p, o.Makes name base p) ↔ o.Valid base := by
  constructor
  · rintro ⟨p, h⟩
    exact h.valid
  · intro h
    obtain ⟨⟨n, hn, hrequests⟩, window, hpos, hwindow⟩ := h.exists_fields
    exact ⟨⟨name, n, window, _, hn, hpos⟩, rfl, hrequests, hwindow, rfl⟩

/-- No override makes a policy without a prefix. -/
theorem Makes.keyPrefix_ne (h : o.Makes name base p) (hbase : ∀ q ∈ base, q.keyPrefix ≠ "") :
    p.keyPrefix ≠ "" := by
  rw [h.keyPrefix_eq]
  cases hset : o.keyPrefix.filter (· ≠ "") with
  | some s => simpa using (Option.mem_filter_iff.mp hset).2
  | none =>
      cases base with
      | some q => exact hbase q rfl
      | none =>
          intro hempty
          have hlength := congrArg String.length hempty
          simp [Policy.defaultPrefix, String.length_append] at hlength

end Override

namespace Registry

variable {reg reg' base : Registry} {overrides : List (String × Override)} {p q : Policy}
  {name : String}

/-- A registry with every policy under its own name, once. -/
structure IsKeyed (reg : Registry) : Prop where
  nodup : reg.names.Nodup
  named : ∀ entry ∈ reg.policies, entry.2.name = entry.1

theorem isKeyed_defaults : defaults.IsKeyed := ⟨by decide, by decide⟩

theorem names_put (reg : Registry) (p : Policy) :
    (reg.put p).names = if p.name ∈ reg.names then reg.names else reg.names ++ [p.name] :=
  Table.keys_put p.name p reg.policies

theorem IsKeyed.put (h : reg.IsKeyed) (p : Policy) : (reg.put p).IsKeyed where
  nodup := by
    rw [names_put]
    split_ifs with hmem
    · exact h.nodup
    · exact h.nodup.append (List.nodup_singleton _) (by simpa using hmem)
  named := by
    intro entry hentry
    rcases Table.mem_put hentry with rfl | hold
    · rfl
    · exact h.named entry hold

theorem IsKeyed.configure (h : reg.IsKeyed)
    (hconfigure : (reg.configure overrides).outcome = .ok reg') : reg'.IsKeyed :=
  configure_induction hconfigure h fun _ _ made _ _ hbefore => hbefore.put made

theorem IsKeyed.get?_name (h : reg.IsKeyed) (hp : p ∈ reg.all) : reg.get? p.name = some p := by
  obtain ⟨entry, hentry, rfl⟩ := List.mem_map.mp hp
  rw [h.named entry hentry]
  exact Table.get?_of_mem h.nodup hentry

theorem IsKeyed.name_of_get? (h : reg.IsKeyed) (hp : reg.get? name = some p) : p.name = name :=
  h.named (name, p) (Table.mem_of_get? hp)

theorem IsKeyed.map_name_all (h : reg.IsKeyed) : reg.all.map Policy.name = reg.names := by
  unfold all names Table.keys
  rw [List.map_map]
  exact List.map_congr_left fun entry hentry => h.named entry hentry

/-- Making a registry of the policies of a registry changes nothing. -/
theorem IsKeyed.ofList?_all (h : reg.IsKeyed) : ofList? reg.all = .ok reg := by
  have hpairs : (reg.all.map fun p => (p.name, p)) = reg.policies := by
    unfold all
    rw [List.map_map]
    have hself : ∀ entry ∈ reg.policies, (entry.2.name, entry.2) = entry :=
      fun entry hentry => Prod.ext (h.named entry hentry) rfl
    exact (List.map_congr_left hself).trans (List.map_id _)
  have htable : tableOf reg.all = reg.policies := by
    unfold tableOf
    rw [hpairs]
    exact Table.ofList_eq_self h.nodup
  unfold ofList?
  rw [dif_pos (by rw [htable]; exact reg.hasDefault)]
  obtain ⟨policies, hdefault⟩ := reg
  exact congrArg Except.ok (by simpa using htable)

/-- A registry is never empty. -/
theorem size_pos (reg : Registry) : 1 ≤ reg.size := by
  by_contra hempty
  have hnil : reg.policies = [] := List.length_eq_zero_iff.mp (Nat.lt_one_iff.mp (not_le.mp hempty))
  have hdefault := reg.hasDefault
  rw [hnil] at hdefault
  cases hdefault

theorem resolve_mem_all (reg : Registry) (name : Option String) : reg.resolve name ∈ reg.all := by
  unfold resolve
  cases hfound : reg.lookup? name with
  | none => exact mem_all_of_get? reg.get?_defaultName
  | some p =>
      cases name with
      | none => cases hfound
      | some s =>
          unfold lookup? at hfound
          dsimp only at hfound
          split_ifs at hfound
          exact mem_all_of_get? hfound

/-- Registries with the same look-ups resolve every name alike. -/
theorem resolve_congr (h : ∀ name, reg'.get? name = reg.get? name) (name : Option String) :
    reg'.resolve name = reg.resolve name := by
  have hfallback : reg'.fallback = reg.fallback := by
    have hdefault := h defaultName
    rw [get?_defaultName, get?_defaultName] at hdefault
    exact Option.some.inj hdefault
  unfold resolve lookup?
  rw [hfallback]
  cases name with
  | none => rfl
  | some s => simp only [h]

/-- Overrides with distinct names make a registry exactly if each is valid for the policy
that is there before any of them. -/
theorem exists_configure_iff (hnodup : (overrides.map Prod.fst).Nodup) :
    (∃ reg', (reg.configure overrides).outcome = .ok reg') ↔
      ∀ o ∈ overrides, o.2.Valid (reg.get? o.1) := by
  induction overrides generalizing reg with
  | nil => exact ⟨fun _ _ ho => absurd ho List.not_mem_nil, fun _ => ⟨reg, rfl⟩⟩
  | cons first rest ih =>
      obtain ⟨name, o⟩ := first
      obtain ⟨hfirst, hrest⟩ := List.nodup_cons.mp hnodup
      -- A policy that is written under the first name is not seen by the others.
      have hunseen : ∀ made, o.Makes name (reg.get? name) made → ∀ other ∈ rest,
          (reg.put made).get? other.1 = reg.get? other.1 := by
        intro made hmakes other hother
        refine get?_put_of_ne ?_
        rw [hmakes.name_eq]
        exact fun heq => hfirst (List.mem_map.mpr ⟨other, hother, heq⟩)
      constructor
      · rintro ⟨reg', h⟩
        obtain ⟨made, hmade, hlater⟩ := configure_cons_eq_ok h
        have hmakes := Override.policy?_eq_ok_iff.mp hmade
        have hvalid := (ih hrest).mp ⟨reg', hlater⟩
        intro other hother
        rcases List.mem_cons.mp hother with rfl | hother
        · exact hmakes.valid
        · rw [← hunseen made hmakes other hother]
          exact hvalid other hother
      · intro hvalid
        obtain ⟨made, hmakes⟩ :=
          Override.exists_makes_iff.mpr (hvalid (name, o) List.mem_cons_self)
        obtain ⟨reg', hlater⟩ := (ih hrest).mpr fun other hother => by
          rw [hunseen made hmakes other hother]
          exact hvalid other (List.mem_cons_of_mem _ hother)
        refine ⟨reg', ?_⟩
        rw [configure_cons_of_ok (Override.policy?_eq_ok_iff.mpr hmakes)]
        exact hlater

/-- New names follow the ones that are there, in the order of the overrides. -/
theorem names_configure (h : (reg.configure overrides).outcome = .ok reg')
    (hnodup : (overrides.map Prod.fst).Nodup) :
    reg'.names = reg.names ++ (overrides.map Prod.fst).filter (· ∉ reg.names) := by
  induction overrides generalizing reg with
  | nil =>
      cases h
      exact (List.append_nil _).symm
  | cons first rest ih =>
      obtain ⟨name, o⟩ := first
      obtain ⟨made, hmade, hrest⟩ := configure_cons_eq_ok h
      obtain ⟨hfirst, hnodup'⟩ := List.nodup_cons.mp hnodup
      have hput := names_put reg made
      rw [(Override.policy?_eq_ok_iff.mp hmade).name_eq] at hput
      rw [ih hrest hnodup', hput, List.map_cons]
      split_ifs with hmem
      · rw [List.filter_cons_of_neg (by simpa using hmem)]
      · have hlater : (rest.map Prod.fst).filter (· ∉ reg.names ++ [name]) =
            (rest.map Prod.fst).filter (· ∉ reg.names) := by
          refine List.filter_congr fun other hother => ?_
          have hne : other ≠ name := fun heq => hfirst (heq ▸ hother)
          simp [hne]
        rw [hlater, List.filter_cons_of_pos (by simpa using hmem), List.append_assoc]
        rfl

/-- A registry that is another one with overrides laid over it. -/
structure Overlays (base : Registry) (overrides : List (String × Override)) (reg : Registry) :
    Prop where
  names_eq : reg.names = base.names ++ (overrides.map Prod.fst).filter (· ∉ base.names)
  keyed : reg.IsKeyed
  made : ∀ o ∈ overrides, ∃ p, reg.get? o.1 = some p ∧ o.2.Makes o.1 (base.get? o.1) p
  kept : ∀ name, name ∉ overrides.map Prod.fst → reg.get? name = base.get? name

theorem overlays_of_configure (hbase : base.IsKeyed) (hnodup : (overrides.map Prod.fst).Nodup)
    (h : (base.configure overrides).outcome = .ok reg) : Overlays base overrides reg where
  names_eq := names_configure h hnodup
  keyed := hbase.configure h
  made := fun _ ho => exists_makes_of_configure h hnodup ho
  kept := fun _ hname => get?_configure_of_notMem h hname

/-- The order of the overrides does not matter for any look-up. -/
theorem Overlays.get?_eq {reordered : List (String × Override)} (h : Overlays base overrides reg)
    (h' : Overlays base reordered reg') (hperm : reordered.Perm overrides) (name : String) :
    reg'.get? name = reg.get? name := by
  by_cases hname : name ∈ overrides.map Prod.fst
  · obtain ⟨o, ho, rfl⟩ := List.mem_map.mp hname
    obtain ⟨p, hp, hmakes⟩ := h.made o ho
    obtain ⟨p', hp', hmakes'⟩ := h'.made o (hperm.mem_iff.mpr ho)
    rw [hp, hp', hmakes.unique hmakes']
  · have hname' : name ∉ reordered.map Prod.fst := fun hmem =>
      hname ((hperm.map Prod.fst).mem_iff.mp hmem)
    rw [h.kept name hname, h'.kept name hname']

/-- Every policy comes from an override, or it was there before. -/
theorem Overlays.cases (h : Overlays base overrides reg) (hp : p ∈ reg.all) :
    (∃ o, (p.name, o) ∈ overrides ∧ o.Makes p.name (base.get? p.name) p) ∨
      base.get? p.name = some p := by
  have hfound := h.keyed.get?_name hp
  by_cases hname : p.name ∈ overrides.map Prod.fst
  · obtain ⟨⟨name, o⟩, ho, heq⟩ := List.mem_map.mp hname
    obtain rfl : name = p.name := heq
    obtain ⟨q, hq, hmakes⟩ := h.made _ ho
    rw [hfound] at hq
    cases hq
    exact Or.inl ⟨o, ho, hmakes⟩
  · rw [h.kept _ hname] at hfound
    exact Or.inr hfound

theorem Overlays.keyPrefix_ne (h : Overlays base overrides reg)
    (hbase : ∀ q ∈ base.all, q.keyPrefix ≠ "") (hp : p ∈ reg.all) : p.keyPrefix ≠ "" := by
  rcases h.cases hp with ⟨o, -, hmakes⟩ | hkept
  · exact hmakes.keyPrefix_ne fun q hq => hbase q (mem_all_of_get? hq)
  · exact hbase p (mem_all_of_get? hkept)

theorem exists_on_ofSettings_iff (r : Replica) :
    (∃ reg r', ofSettings.on r = (.ok reg, r')) ↔
      ∃ reg, (defaults.configure r.settings.overrides).outcome = .ok reg := by
  constructor
  · rintro ⟨reg, r', h⟩
    exact ⟨reg, outcome_of_on_ofSettings h⟩
  · rintro ⟨reg, h⟩
    obtain ⟨records, hrun⟩ := on_ofSettings_of_ok h
    exact ⟨reg, _, hrun⟩

/-- An application that is given a registry counts under its policies. -/
theorem registry_of_create {injected : Registry} {general usesProcessClient : Bool}
    {routes : List Http.Route} {app : Http.App} {r r' : Replica}
    (h : (Http.App.create (some injected) general routes usesProcessClient).on r = (.ok app, r')) :
    app.limiter.registry = injected := by
  unfold Http.App.create at h
  obtain ⟨s, r₁, hs, h⟩ := on_bind_eq_ok h
  obtain ⟨-, r₂, -, h⟩ := on_bind_eq_ok h
  obtain ⟨reg, r₃, hreg, h⟩ := on_bind_eq_ok h
  obtain ⟨l, r₄, hl, h⟩ := on_bind_eq_ok h
  cases hreg
  cases hl
  cases h
  rfl

/-- The registry of the settings is that of the built-in policies with the overrides laid over
it. For overrides with distinct names there is one exactly if each of them is valid on its
own. All its policies are sound, under their own names, and every name resolves to one of
them. Another order of the overrides makes a registry for the same settings, and all look-ups
are the same. Since no registry is empty, one that is given takes the place of that of the
settings. -/
theorem ofSettings_overlays {r : Replica} (hnodup : (r.settings.overrides.map Prod.fst).Nodup) :
    ((∃ reg r', ofSettings.on r = (.ok reg, r')) ↔
        ∀ o ∈ r.settings.overrides, o.2.Valid (defaults.get? o.1)) ∧
      defaults.names = ["default", "auth", "strict", "reports", "login"] ∧
      (∀ reg r', ofSettings.on r = (.ok reg, r') →
        Overlays defaults r.settings.overrides reg ∧ ofList? reg.all = .ok reg ∧
          (∀ p ∈ reg.all, 1 ≤ p.maxRequests ∧ 1 ≤ p.window.microseconds ∧ p.keyPrefix ≠ "") ∧
          reg.get? "default" = some reg.fallback ∧ reg.fallback.name = "default" ∧
          ∀ name, reg.resolve name ∈ reg.all) ∧
      (∀ s : Replica, s.settings.overrides.Perm r.settings.overrides →
        ((∃ reg s', ofSettings.on s = (.ok reg, s')) ↔
            ∃ reg r', ofSettings.on r = (.ok reg, r')) ∧
          ∀ reg reg' r' s', ofSettings.on r = (.ok reg, r') → ofSettings.on s = (.ok reg', s') →
            (∀ name, reg'.get? name = reg.get? name) ∧
              ∀ name, reg'.resolve name = reg.resolve name) ∧
      ∀ (injected : Registry) (general usesProcessClient : Bool) (routes : List Http.Route)
        (app : Http.App) (r' : Replica), 1 ≤ injected.size ∧
        ((Http.App.create (some injected) general routes usesProcessClient).on r = (.ok app, r') →
          app.limiter.registry = injected) := by
  have hexists : ∀ s : Replica, (s.settings.overrides.map Prod.fst).Nodup →
      ((∃ reg s', ofSettings.on s = (.ok reg, s')) ↔
        ∀ o ∈ s.settings.overrides, o.2.Valid (defaults.get? o.1)) := fun s hs => by
    rw [exists_on_ofSettings_iff, exists_configure_iff hs]
  refine ⟨hexists r hnodup, by decide, ?_, ?_, ?_⟩
  · intro reg r' h
    have hoverlays := overlays_of_configure isKeyed_defaults hnodup (outcome_of_on_ofSettings h)
    have hprefix : ∀ q ∈ defaults.all, q.keyPrefix ≠ "" := by decide
    have hdefault : reg.get? "default" = some reg.fallback := reg.get?_defaultName
    exact ⟨hoverlays, hoverlays.keyed.ofList?_all,
      fun p hp => ⟨p.maxRequests_pos, p.window_pos, hoverlays.keyPrefix_ne hprefix hp⟩,
      hdefault, hoverlays.keyed.name_of_get? hdefault, reg.resolve_mem_all⟩
  · intro s hperm
    have hnodup' : (s.settings.overrides.map Prod.fst).Nodup :=
      (hperm.map Prod.fst).nodup_iff.mpr hnodup
    constructor
    · rw [hexists s hnodup', hexists r hnodup]
      exact forall_congr' fun o => by rw [hperm.mem_iff]
    · intro reg reg' r' s' h h'
      have hget := Overlays.get?_eq
        (overlays_of_configure isKeyed_defaults hnodup (outcome_of_on_ofSettings h))
        (overlays_of_configure isKeyed_defaults hnodup' (outcome_of_on_ofSettings h')) hperm
      exact ⟨hget, resolve_congr hget⟩
  · intro injected general usesProcessClient routes app r'
    exact ⟨injected.size_pos, registry_of_create⟩

/-- A new policy, one with an empty prefix, which is none, and one with a shorter window. -/
def mixedOverrides : List (String × Override) :=
  [("feed", { maxRequests := some 7, windowSeconds := some (.finite (1 / 2)) }),
    ("login", { maxRequests := some 2, keyPrefix := some "" }),
    ("default", { windowSeconds := some (.finite 30), keyPrefix := some "limit:" })]

def mixedSettings : Replica where
  settings := { overrides := mixedOverrides }

def reversedSettings : Replica where
  settings := { overrides := mixedOverrides.reverse }

theorem mixedSettings_overlays :
    ∃ reg r', ofSettings.on mixedSettings = (.ok reg, r') ∧
      reg.names = ["default", "auth", "strict", "reports", "login", "feed"] ∧
      ofList? reg.all = .ok reg ∧
      (∃ p, reg.get? "login" = some p ∧ p.maxRequests = 2 ∧ p.keyPrefix = "ratelimit:login:") ∧
      ∃ reg' s', ofSettings.on reversedSettings = (.ok reg', s') ∧
        ∀ name, reg'.resolve name = reg.resolve name := by
  have hnodup : (mixedSettings.settings.overrides.map Prod.fst).Nodup := by decide
  have hreversed : reversedSettings.settings.overrides.Perm mixedSettings.settings.overrides :=
    List.reverse_perm _
  have hmade : (defaults.configure mixedOverrides).outcome.isOk = true := by decide +kernel
  obtain ⟨-, hnames, hmakes, hperm, -⟩ := ofSettings_overlays hnodup
  obtain ⟨reg, r', hrun⟩ : ∃ reg r', ofSettings.on mixedSettings = (.ok reg, r') := by
    rw [exists_on_ofSettings_iff]
    cases hout : (defaults.configure mixedSettings.settings.overrides).outcome with
    | ok reg => exact ⟨reg, rfl⟩
    | error e =>
        rw [show mixedOverrides = mixedSettings.settings.overrides from rfl, hout] at hmade
        cases hmade
  obtain ⟨hoverlays, hagain, -⟩ := hmakes reg r' hrun
  obtain ⟨hsuccess, hlookup⟩ := hperm reversedSettings hreversed
  obtain ⟨reg', s', hrun'⟩ := hsuccess.mpr ⟨reg, r', hrun⟩
  have hlogin : ("login", { maxRequests := some 2, keyPrefix := some "" }) ∈
      mixedSettings.settings.overrides := by decide
  obtain ⟨p, hp, hset⟩ := hoverlays.made _ hlogin
  refine ⟨reg, r', hrun, ?_, hagain, ⟨p, hp, ?_, ?_⟩, reg', s', hrun', ?_⟩
  · rw [hoverlays.names_eq]
    decide
  · have hrequests := hset.maxRequests_eq
    have htwo : ((2 : Nat) : Int) = (p.maxRequests : Int) := Option.some.inj hrequests
    exact_mod_cast htwo.symm
  · rw [hset.keyPrefix_eq]
    decide
  · exact (hlookup reg reg' r' s' hrun hrun').2

end Registry

end RateLimit
