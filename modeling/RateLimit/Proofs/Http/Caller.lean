import RateLimit.Http.Message
import RateLimit.Proofs.Policy.Keyspace

/-!
# Users and guests

A user is counted under the name of the user behind a mark, a guest under an address. The
peer of a connection never bears the mark, but an address that a proxy names may be any
text. So a guest is counted under the key of a user exactly if proxies are trusted and one
of them names the marked user as the address of the guest, `key_eq_iff_forwarded`.
-/

namespace RateLimit

namespace Caller

/-- Whether a text begins with what stands before the name of a user. -/
def IsMarked (s : String) : Prop := userMark.toList <+: s.toList

instance (s : String) : Decidable (IsMarked s) :=
  inferInstanceAs (Decidable (_ <+: _))

theorem isMarked_userMark_append (user : String) : IsMarked (userMark ++ user) := by
  simp [IsMarked]

theorem not_isMarked_unknown : ¬IsMarked unknown := by decide

/-- A caller without a user. An empty name names no user. -/
def IsGuest (c : Caller) : Prop := c.userId = none ∨ c.userId = some ""

instance (c : Caller) : Decidable c.IsGuest :=
  inferInstanceAs (Decidable (_ ∨ _))

theorem IsGuest.identity_user {c : Caller} (h : c.IsGuest) : c.identity .user = c.address := by
  rcases h with h | h <;> simp [identity, h]

theorem key_user_eq_iff {known guest : Caller} {user : String}
    (hknown : known.userId = some user) (huser : user ≠ "") (hguest : guest.IsGuest)
    (p : Policy) :
    known.key p .user = guest.key p .user ↔ guest.address = userMark ++ user := by
  unfold key
  rw [p.keyFor_inj, identity_user_of_some hknown huser, hguest.identity_user, eq_comm]

end Caller

namespace Http.Request

open Caller

variable {request : Request} {trust : Bool}

/-- Only a proxy can give an address the mark of a user. -/
theorem forwardedFor?_of_isMarked (hpeer : ∀ peer ∈ request.peer, ¬IsMarked peer)
    (h : IsMarked (request.caller trust).address) :
    trust = true ∧ request.forwardedFor? = some (request.caller trust).address := by
  have hdirect : ¬IsMarked (request.peer.getD unknown) := by
    cases hp : request.peer with
    | none => exact not_isMarked_unknown
    | some peer => exact hpeer peer hp
  have haddress : (request.caller trust).address = (request.caller trust).clientIp := by
    unfold address at h ⊢
    split_ifs at h ⊢
    · exact absurd h not_isMarked_unknown
    · rfl
  rw [haddress] at h ⊢
  cases trust with
  | false => exact absurd h hdirect
  | true =>
      cases hforwarded : request.forwardedFor? with
      | none =>
          rw [caller, hforwarded] at h
          exact absurd h hdirect
      | some address => simp [caller, hforwarded]

theorem address_of_forwardedFor? {address : String} (haddress : address ≠ "")
    (h : request.forwardedFor? = some address) : (request.caller true).address = address := by
  simp [Caller.address, caller, h, haddress]

/-- A guest is counted under the key of a user exactly if a proxy that is trusted names the
marked user as the address of the guest. -/
theorem key_eq_iff_forwarded {known guest : Request} {user : String}
    (hknown : (known.caller trust).userId = some user) (huser : user ≠ "")
    (hguest : (guest.caller trust).IsGuest) (hpeer : ∀ peer ∈ guest.peer, ¬IsMarked peer)
    (p : Policy) :
    (known.caller trust).key p .user = (guest.caller trust).key p .user ↔
      trust = true ∧ guest.forwardedFor? = some (userMark ++ user) := by
  rw [key_user_eq_iff hknown huser hguest]
  constructor
  · intro haddress
    have hmarked : IsMarked (guest.caller trust).address := by
      rw [haddress]
      exact isMarked_userMark_append user
    rw [← haddress]
    exact forwardedFor?_of_isMarked hpeer hmarked
  · rintro ⟨rfl, hforwarded⟩
    exact address_of_forwardedFor? (by simp [userMark]) hforwarded

def ofAlice : Request where
  path := "/mine"
  peer := some "198.51.100.7"
  user := some (.string "alice")

/-- A request without a user that a proxy has forwarded for the given address. -/
def forwarded (address : String) : Request where
  path := "/mine"
  headers := [("X-Forwarded-For", address)]
  peer := some "203.0.113.9"

/-- Behind a trusted proxy, a guest who is named as another user is told apart from the
user. -/
theorem forwardedBob_key_ne :
    (ofAlice.caller true).userId = some "alice" ∧
      ((forwarded " user:bob, 10.0.0.1").caller true).IsGuest ∧
      (ofAlice.caller true).key Registry.defaults.fallback .user ≠
        ((forwarded " user:bob, 10.0.0.1").caller true).key Registry.defaults.fallback .user := by
  have hknown : (ofAlice.caller true).userId = some "alice" := rfl
  have hguest : ((forwarded " user:bob, 10.0.0.1").caller true).IsGuest := Or.inl rfl
  have hpeer : ∀ peer ∈ (forwarded " user:bob, 10.0.0.1").peer, ¬IsMarked peer := by decide
  have hother : (forwarded " user:bob, 10.0.0.1").forwardedFor? ≠ some (userMark ++ "alice") := by
    decide +kernel
  refine ⟨hknown, hguest, fun heq => ?_⟩
  exact hother ((key_eq_iff_forwarded hknown (by decide) hguest hpeer _).mp heq).2

/-- Not every guest is told apart from every user: behind a trusted proxy, the one who is
named as the user is counted with the user. -/
theorem not_forall_guest_key_ne :
    ¬∀ (p : Policy) (user : String) (known guest : Request) (trust : Bool),
      (known.caller trust).userId = some user → user ≠ "" →
      (guest.caller trust).userId = none → (∀ peer ∈ guest.peer, ¬IsMarked peer) →
      (known.caller trust).key p .user ≠ (guest.caller trust).key p .user := by
  intro hapart
  exact hapart Registry.defaults.fallback "alice" ofAlice (forwarded "user:alice") true rfl
    (by decide) rfl (by decide) (by decide +kernel)

end Http.Request

end RateLimit
