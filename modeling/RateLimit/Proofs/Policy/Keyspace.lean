import Mathlib.Tactic
import RateLimit.Policy

/-!
# Which policies share keys

A key is the prefix of its policy with an identity behind it, and an identity may be any text.
So two policies have a key in common exactly if one of their prefixes begins with the other
one, `exists_keyFor_eq_iff`. The prefix of a policy that sets none closes its name with a
colon. Among policies with such prefixes and names without a colon, a key tells the name of
its policy and the identity, even one that has colons: `IsPlain.keyFor_eq_iff`.
-/

namespace RateLimit

namespace Text

/-- There is one way to cut a text at its first separator. -/
theorem append_cons_inj_of_notMem {c : Char} {a b x y : List Char} (ha : c ∉ a) (hb : c ∉ b)
    (h : a ++ c :: x = b ++ c :: y) : a = b ∧ x = y := by
  have hlength : a.length = b.length := by
    have hfirst := congrArg (List.idxOf c) h
    rwa [List.idxOf_append_of_notMem ha, List.idxOf_append_of_notMem hb, List.idxOf_cons_self,
      List.idxOf_cons_self] at hfirst
  obtain ⟨hnames, hrest⟩ := List.append_inj h hlength
  exact ⟨hnames, (List.cons.inj hrest).2⟩

end Text

namespace Policy

variable {p q : Policy} {i j : String}

theorem keyFor_inj (p : Policy) {i j : String} : p.keyFor i = p.keyFor j ↔ i = j :=
  String.append_right_inj p.keyPrefix

theorem toList_keyFor (p : Policy) (identity : String) :
    (p.keyFor identity).toList = p.keyPrefix.toList ++ identity.toList :=
  String.toList_append

/-- A prefix that begins with another one leaves a key to both. -/
theorem exists_keyFor_eq_of_prefix (h : p.keyPrefix.toList <+: q.keyPrefix.toList) :
    ∃ i j, p.keyFor i = q.keyFor j := by
  obtain ⟨rest, hrest⟩ := h
  refine ⟨String.ofList rest, "", String.toList_injective ?_⟩
  rw [toList_keyFor, toList_keyFor, String.toList_ofList, hrest]
  exact (List.append_nil _).symm

/-- Two policies have a key in common exactly if one of their prefixes begins with the other
one. -/
theorem exists_keyFor_eq_iff (p q : Policy) :
    (∃ i j, p.keyFor i = q.keyFor j) ↔
      p.keyPrefix.toList <+: q.keyPrefix.toList ∨ q.keyPrefix.toList <+: p.keyPrefix.toList := by
  constructor
  · rintro ⟨i, j, h⟩
    have hp : p.keyPrefix.toList <+: (p.keyFor i).toList := by
      rw [toList_keyFor]
      exact List.prefix_append _ _
    have hq : q.keyPrefix.toList <+: (p.keyFor i).toList := by
      rw [h, toList_keyFor]
      exact List.prefix_append _ _
    exact List.prefix_or_prefix_of_prefix hp hq
  · rintro (h | h)
    · exact exists_keyFor_eq_of_prefix h
    · obtain ⟨j, i, hkey⟩ := exists_keyFor_eq_of_prefix h
      exact ⟨i, j, hkey.symm⟩

/-- A policy with the prefix of its name, in which nothing can be taken for the end of the
name. -/
structure IsPlain (p : Policy) : Prop where
  keyPrefix_eq : p.keyPrefix = defaultPrefix p.name
  name_plain : ':' ∉ p.name.toList

instance (p : Policy) : Decidable p.IsPlain :=
  decidable_of_iff (p.keyPrefix = defaultPrefix p.name ∧ ':' ∉ p.name.toList)
    ⟨fun h => ⟨h.1, h.2⟩, fun h => ⟨h.1, h.2⟩⟩

theorem IsPlain.toList_keyFor (h : p.IsPlain) (identity : String) :
    (p.keyFor identity).toList =
      "ratelimit:".toList ++ (p.name.toList ++ ':' :: identity.toList) := by
  rw [Policy.toList_keyFor, h.keyPrefix_eq, defaultPrefix]
  simp only [String.toList_append, List.append_assoc]
  rfl

/-- The colon behind a plain name is the first one that follows the common beginning. -/
theorem IsPlain.keyFor_eq_iff (hp : p.IsPlain) (hq : q.IsPlain) :
    p.keyFor i = q.keyFor j ↔ p.name = q.name ∧ i = j := by
  constructor
  · intro h
    have hlist := congrArg String.toList h
    rw [hp.toList_keyFor, hq.toList_keyFor, List.append_right_inj] at hlist
    obtain ⟨hname, hidentity⟩ :=
      Text.append_cons_inj_of_notMem hp.name_plain hq.name_plain hlist
    exact ⟨String.toList_injective hname, String.toList_injective hidentity⟩
  · rintro ⟨hname, rfl⟩
    unfold keyFor
    rw [hp.keyPrefix_eq, hq.keyPrefix_eq, hname]

end Policy

end RateLimit
