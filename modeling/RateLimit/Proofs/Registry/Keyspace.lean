import RateLimit.Proofs.Policy.Keyspace
import RateLimit.Proofs.Registry.Overlay
import RateLimit.Proofs.Replica.Untouched

/-!
# Registries whose policies share no keys

Overrides that set no prefix, and bring in no name with a colon, keep every policy of a
registry plain, `PlainOver.configure`. A registry of plain policies keeps the keys of its
policies apart, and so a limiter that has such a registry touches the window of one policy and
one identity at a time.
-/

namespace RateLimit

open Act
open Replica (Untouched)

/-- An override that sets no prefix makes a plain policy of a plain one, and of a plain
name. -/
theorem Override.Makes.isPlain {o : Override} {name : String} {base : Option Policy} {p : Policy}
    (h : o.Makes name base p) (hset : ∀ text ∈ o.keyPrefix, text = "")
    (hbase : ∀ q ∈ base, q.name = name ∧ q.IsPlain) (hnew : base = none → ':' ∉ name.toList) :
    p.IsPlain := by
  have hunset : o.keyPrefix.filter (· ≠ "") = none := by
    rw [Option.filter_eq_none_iff]
    intro text htext
    simpa using hset text htext
  have hkept := h.keyPrefix_eq
  rw [hunset, Option.none_or, ← h.name_eq] at hkept
  cases base with
  | none => exact ⟨hkept, by rw [h.name_eq]; exact hnew rfl⟩
  | some q =>
      obtain ⟨hname, hplain⟩ := hbase q rfl
      rw [← h.name_eq] at hname
      exact ⟨by rw [hkept, ← hname]; exact hplain.keyPrefix_eq,
        by rw [← hname]; exact hplain.name_plain⟩

namespace Registry

variable {base reg : Registry} {overrides : List (String × Override)} {p q : Policy}
  {l : Limiter} {i j : String}

/-- A registry of plain policies that has a policy for every name of another registry. -/
structure PlainOver (base reg : Registry) : Prop where
  keyed : reg.IsKeyed
  plain : ∀ p ∈ reg.all, p.IsPlain
  covers : ∀ name, reg.get? name = none → base.get? name = none

theorem plainOver_defaults : PlainOver defaults defaults :=
  ⟨isKeyed_defaults, by decide, fun _ => id⟩

theorem PlainOver.put (h : PlainOver base reg) (hp : p.IsPlain) : PlainOver base (reg.put p) where
  keyed := h.keyed.put p
  plain := by
    intro q hq
    rcases mem_all_put hq with rfl | hold
    · exact hp
    · exact h.plain q hold
  covers := by
    intro name hnone
    by_cases hname : name = p.name
    · rw [hname, get?_put_self] at hnone
      cases hnone
    · rw [get?_put_of_ne hname] at hnone
      exact h.covers name hnone

/-- Overrides that set no prefix and bring in no name with a colon keep all policies plain. -/
theorem PlainOver.configure (h : PlainOver base base)
    (hset : ∀ o ∈ overrides, ∀ text ∈ o.2.keyPrefix, text = "")
    (hnew : ∀ o ∈ overrides, base.get? o.1 = none → ':' ∉ o.1.toList)
    (hconfigure : (base.configure overrides).outcome = .ok reg) : PlainOver base reg := by
  refine configure_induction hconfigure h fun before o made ho hmakes hbefore => hbefore.put ?_
  refine hmakes.isPlain (hset o ho) (fun q hq => ?_) fun hnone => hnew o ho (hbefore.covers _ hnone)
  exact ⟨hbefore.keyed.name_of_get? hq, hbefore.plain q (mem_all_of_get? hq)⟩

/-- A registry in which no policy has a key of another one. -/
structure KeepsApart (reg : Registry) : Prop where
  keyed : reg.IsKeyed
  apart : ∀ p ∈ reg.all, ∀ q ∈ reg.all, ∀ i j : String,
    p.keyFor i = q.keyFor j → p.name = q.name ∧ i = j

theorem keepsApart_of_configure (hset : ∀ o ∈ overrides, ∀ text ∈ o.2.keyPrefix, text = "")
    (hnew : ∀ o ∈ overrides, defaults.get? o.1 = none → ':' ∉ o.1.toList)
    (h : (defaults.configure overrides).outcome = .ok reg) : reg.KeepsApart where
  keyed := isKeyed_defaults.configure h
  apart := by
    have hplain := (plainOver_defaults.configure hset hnew h).plain
    exact fun p hp q hq i j => ((hplain p hp).keyFor_eq_iff (hplain q hq)).mp

section Limiter

variable (h : l.registry.KeepsApart) (hq : q ∈ l.registry.all)

include h hq

/-- A request touches no window but that of its identity under its policy. -/
theorem KeepsApart.spares_hit {c : Caller} {name : Option String} {s : Strategy}
    (hother : (l.policyOf name).name ≠ q.name ∨ c.identity s ≠ j) :
    Spares (q.keyFor j) (l.hit c name s) := by
  refine Limiter.spares_hit fun hkey => ?_
  obtain ⟨hname, hidentity⟩ :=
    h.apart _ (l.registry.resolve_mem_all name) q hq _ _ hkey.symm
  exact hother.elim (· hname) (· hidentity)

/-- A name under which there is a policy with the key of another policy is the name of this
policy. -/
theorem KeepsApart.ne_keyFor {name : Option String} (hother : name ≠ some q.name ∨ i ≠ j) :
    ∀ p ∈ name.bind l.registry.get?, q.keyFor j ≠ p.keyFor i := by
  intro p hp hkey
  obtain ⟨n, rfl, hn⟩ := Option.bind_eq_some_iff.mp hp
  obtain ⟨hname, hidentity⟩ := h.apart p (mem_all_of_get? hn) q hq i j hkey.symm
  rw [h.keyed.name_of_get? hn] at hname
  exact hother.elim (· (congrArg some hname)) (· hidentity)

theorem KeepsApart.spares_inspect {name : Option String}
    (hother : name ≠ some q.name ∨ i ≠ j) : Spares (q.keyFor j) (l.inspect name i) :=
  Limiter.spares_inspect (h.ne_keyFor hq hother)

theorem KeepsApart.spares_clear {name : Option String}
    (hother : name ≠ some q.name ∨ i ≠ j) : Spares (q.keyFor j) (l.clear name i) :=
  Limiter.spares_clear (h.ne_keyFor hq hother)

end Limiter

/-- Two policies have a key in common exactly if one of their prefixes begins with the other
one, and no policy has one key for two identities. So if the overrides of the settings set no
prefix, and bring in no name with a colon, a key tells the name of its policy and the identity.
Then a request, an inspection or a clearing under one policy touches no window of another
one, and no window of another identity. -/
theorem ofSettings_keeps_keys_apart :
    (∀ p q : Policy, (∃ i j, p.keyFor i = q.keyFor j) ↔
      p.keyPrefix.toList <+: q.keyPrefix.toList ∨ q.keyPrefix.toList <+: p.keyPrefix.toList) ∧
    (∀ (p : Policy) (i j : String), i ≠ j → p.keyFor i ≠ p.keyFor j) ∧
    ∀ (r r' : Replica) (reg : Registry),
      (∀ o ∈ r.settings.overrides, ∀ text ∈ o.2.keyPrefix, text = "") →
      (∀ o ∈ r.settings.overrides, defaults.get? o.1 = none → ':' ∉ o.1.toList) →
      ofSettings.on r = (.ok reg, r') →
      (∀ p ∈ reg.all, ∀ q ∈ reg.all, ∀ i j : String,
        p.keyFor i = q.keyFor j → p.name = q.name ∧ i = j) ∧
      ∀ (l : Limiter), l.registry = reg → ∀ q ∈ reg.all, ∀ (j : String) (s : Replica),
        (∀ (c : Caller) (name : Option String) (strategy : Strategy),
          (l.policyOf name).name ≠ q.name ∨ c.identity strategy ≠ j →
          Untouched (q.keyFor j) s ((l.hit c name strategy).on s).2) ∧
        ∀ (name : Option String) (i : String), name ≠ some q.name ∨ i ≠ j →
          Untouched (q.keyFor j) s ((l.inspect name i).on s).2 ∧
            Untouched (q.keyFor j) s ((l.clear name i).on s).2 := by
  refine ⟨Policy.exists_keyFor_eq_iff, fun p i j => mt p.keyFor_inj.mp, ?_⟩
  intro r r' reg hset hnew hrun
  have h := keepsApart_of_configure hset hnew (outcome_of_on_ofSettings hrun)
  refine ⟨h.apart, ?_⟩
  rintro l rfl q hq j s
  refine ⟨fun c name strategy hother => h.spares_hit hq hother s, fun name i hother => ?_⟩
  exact ⟨h.spares_inspect hq hother s, h.spares_clear hq hother s⟩

/-- The policy of a new name. -/
def searchPolicy : Policy where
  name := "search"
  maxRequests := 20
  window := Span.minute
  keyPrefix := "ratelimit:search:"
  maxRequests_pos := Nat.succ_pos 19
  window_pos := Int.natCast_pos.mpr (Nat.succ_pos 59999999)

/-- A replica whose settings bring in the new name. The store has a window of an address that
tried to log in. -/
def searching : Replica where
  settings := { overrides :=
    [("search", { maxRequests := some 20, windowSeconds := some (.finite 60) })] }
  store := [("ratelimit:login:2001:db8::1", ⟨[⟨1699999999000000000, 0⟩], none⟩)]
  client := some .shared

/-- A search of the address is counted, and so are its attempts to log in, in a window that
the search does not touch. Nor does a clearing of these touch the window of the searches. -/
theorem searching_keeps_keys_apart :
    let l : Limiter := { registry := defaults.put searchPolicy, timeout := .seconds (.finite 1) }
    let guest : Caller := { clientIp := "2001:db8::1" }
    let searched := ((l.hit guest (some "search") .ip).on searching).2
    (∃ r', ofSettings.on searching = (.ok l.registry, r')) ∧
      (Table.get? searched.store "ratelimit:search:2001:db8::1").isSome = true ∧
      (Table.get? searched.store "ratelimit:login:2001:db8::1").isSome = true ∧
      Untouched "ratelimit:login:2001:db8::1" searching searched ∧
      Untouched "ratelimit:search:2001:db8::1" searched
        ((l.clear (some "login") "2001:db8::1").on searched).2 := by
  intro l guest searched
  have hspan : Span.ofSeconds? (.finite 60) = .ok Span.minute := by decide +kernel
  have hmade : Override.policy? { maxRequests := some 20, windowSeconds := some (.finite 60) }
      "search" (defaults.get? "search") = .ok searchPolicy :=
    Override.policy?_eq_ok_iff.mpr ⟨rfl, rfl, congrArg some hspan, rfl⟩
  have hout : (defaults.configure searching.settings.overrides).outcome = .ok l.registry :=
    congrArg Configuration.outcome (configure_cons_of_ok hmade [])
  obtain ⟨records, hrun⟩ := on_ofSettings_of_ok hout
  obtain ⟨-, -, hapart⟩ := ofSettings_keeps_keys_apart
  obtain ⟨-, hspares⟩ := hapart searching _ _ (by decide) (by decide) hrun
  have hlogin : defaults.resolve (some "login") ∈ l.registry.all := by decide +kernel
  have hsearch : searchPolicy ∈ l.registry.all := by decide +kernel
  refine ⟨⟨_, hrun⟩, by decide +kernel, by decide +kernel, ?_, ?_⟩
  · exact (hspares l rfl _ hlogin "2001:db8::1" searching).1 guest (some "search") .ip
      (Or.inl (by decide +kernel))
  · exact ((hspares l rfl _ hsearch "2001:db8::1" searched).2 (some "login") "2001:db8::1"
      (Or.inl (by decide))).2

end Registry

end RateLimit
