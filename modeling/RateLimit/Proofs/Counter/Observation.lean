import RateLimit.Proofs.Counter.Retention
import RateLimit.Proofs.Counter.RoundTrip

/-!
# The ledger decides what is answered

An inspection changes the store: it trims a window, and may drop it with its deadline. But
it enters nothing in the ledger, and after a run with a clock that never goes back the
ledger alone decides what a check or an inspection answers, `fst_apply_eq_of_ledger_eq`. So a
check that comes right after an inspection decides on the count that was inspected,
`check_after_inspect`.
-/

namespace RateLimit.Counter.Operation

open Number (Binary64)

variable {p : Policy} {key : String} {o o' : Occasion} {ops ops' : List Operation}

theorem Step.nodup {op : Operation} {w v : Option Window} (h : Step op w v)
    (hw : (Window.held w).Nodup) : (Window.held v).Nodup := by
  cases h with
  | idle happlied => exact hw
  | dropped happlied hreads => exact hw.sublist (Window.held_at?_sublist _ w)
  | @checked p key o ttl _ happlied httl =>
      have htrimmed := hw.sublist (held_trimmed_sublist p o w)
      show (Window.add _ (trimmed p o w)).entries.Nodup
      rw [Window.held_add]
      split_ifs with hmem
      · exact htrimmed
      · exact htrimmed.append (List.nodup_singleton _) (by simpa using hmem)
  | inspected happlied => exact hw.sublist (held_trimmed_sublist _ _ w)
  | cleared happlied => exact List.nodup_nil

theorem nodup_held_windowOf (key : String) (ops : List Operation) :
    (Window.held (windowOf key ops)).Nodup := by
  induction ops using List.reverseRecOn with
  | nil => exact List.nodup_nil
  | append_singleton ops op ih =>
      by_cases hkey : op.key = key
      · subst hkey
        exact (windowOf_step ops op).nodup ih
      · rw [windowOf_append_of_ne hkey]
        exact ih

/-- A run that an occasion may follow: its clock never goes back, up to the occasion, and
it uses the key with the policy only. -/
structure Past (p : Policy) (key : String) (o : Occasion) (ops : List Operation) : Prop where
  inStep : InStep ops
  usesOnly : UsesOnly p key ops
  before : ∀ x ∈ ops, x.readsClock = true → x.occasion.Before o

theorem Past.sublist (h : Past p key o ops) (hsub : ops'.Sublist ops) : Past p key o ops' where
  inStep := List.Pairwise.sublist hsub h.inStep
  usesOnly := h.usesOnly.sublist hsub
  before := fun x hx => h.before x (hsub.subset hx)

theorem past_of_append {op : Operation} {rest : List Operation}
    (hclock : InStep (ops ++ op :: rest)) (hpolicy : OnePolicy (ops ++ op :: rest))
    (hreads : op.readsClock = true) (hp : p ∈ op.policy?) : Past p op.key op.occasion ops where
  inStep := (List.pairwise_append.mp hclock).1
  usesOnly := (hpolicy.usesOnly (by simp) hp).sublist (List.sublist_append_left _ _)
  before := fun x hx hx' =>
    (List.pairwise_append.mp hclock).2.2 x hx op List.mem_cons_self hx' hreads

/-- What the store holds of the window of an occasion is what the ledger has of it. -/
theorem Past.mem_held_iff (h : Past p key o ops) {e : Entry} :
    e ∈ Window.held (trimmed p o (windowOf key ops)) ↔
      e ∈ ledger key ops ∧ inWindow p o.reading e.reading = true := by
  constructor
  · intro he
    rw [held_trimmed_eq_filter] at he
    obtain ⟨hheld, hin⟩ := List.mem_filter.mp he
    have hsub := (Window.held_at?_sublist o.time _).trans (held_sublist_ledger key ops)
    exact ⟨hsub.subset hheld, hin⟩
  · rintro ⟨he, hin⟩
    exact mem_held_trimmed (retains_run h.inStep h.usesOnly o h.before e he hin) hin

/-- What is seen depends on the ledger and the reading. -/
theorem Past.seen_eq (h : Past p key o ops) (h' : Past p key o' ops')
    (hledger : ledger key ops = ledger key ops') (hreading : o.reading = o'.reading) :
    seen p o (windowOf key ops) = seen p o' (windowOf key ops') := by
  have hnodup := (nodup_held_windowOf key ops).sublist (held_trimmed_sublist p o _)
  have hnodup' := (nodup_held_windowOf key ops').sublist (held_trimmed_sublist p o' _)
  have hperm : (Window.held (trimmed p o (windowOf key ops))).Perm
      (Window.held (trimmed p o' (windowOf key ops'))) := by
    rw [List.perm_ext_iff_of_nodup hnodup hnodup']
    intro e
    rw [h.mem_held_iff, h'.mem_held_iff, hledger, hreading]
  exact hperm.length_eq

theorem fst_apply_eq_of_ledger_eq {op : Operation} (hreads : op.readsClock = true)
    (h : ∀ p ∈ op.policy?, Past p op.key op.occasion ops)
    (h' : ∀ p ∈ op.policy?, Past p op.key op.occasion ops')
    (hledger : ledger op.key ops = ledger op.key ops') :
    (op.apply (run [] ops).2).1 = (op.apply (run [] ops').2).1 := by
  cases op with
  | check p key o =>
      have hseen := (h p rfl).seen_eq (h' p rfl) hledger rfl
      exact congrArg Outcome.checked (fst_check_eq_of_seen hseen)
  | inspect p key o =>
      have hseen := (h p rfl).seen_eq (h' p rfl) hledger rfl
      exact congrArg Outcome.inspected (fst_inspect_eq_of_seen hseen)
  | clear key o => cases hreads

theorem ledger_append_inspect (j : String) (ops : List Operation) (p : Policy) (key : String)
    (o : Occasion) : ledger j (ops ++ [.inspect p key o]) = ledger j ops := by
  rw [ledger_append_singleton, enter_inspect]

theorem currentCount_eq {s : Store} {status : WindowStatus}
    (hfaithful : o.delivery.isFaithful = true)
    (h : (Counter.inspect p key o s).1 = .ok status) :
    status.currentCount = seen p o (Table.get? s key) := by
  rcases inspect_cases hfaithful key s with ⟨fault, -, hanswer⟩ | ⟨resetAt, -, -, hanswer⟩
  · rw [hanswer] at h
    cases h
  · rw [hanswer] at h
    cases h
    rfl

theorem decision_eq_of_counted {s : Store} {c : Check}
    (hfaithful : o.delivery.isFaithful = true) (h : (Counter.check p key o s).1 = .ok c)
    (hdegraded : c.decision.degraded = false) :
    ∃ resetAt, c.decision = Counter.decide p (seen p o (Table.get? s key)) resetAt := by
  rcases check_cases hfaithful key s with
    ⟨e, -, hanswer⟩ | ⟨resetAt, fault, -, -, hanswer⟩ | ⟨resetAt, -, -, hanswer⟩
  · rw [hanswer] at h
    cases h
  · rw [hanswer] at h
    cases h
    cases hdegraded
  · rw [hanswer] at h
    cases h
    exact ⟨resetAt, rfl⟩

/-- A check right after an inspection with the same reading decides on what was inspected. -/
theorem check_after_inspect {status : WindowStatus} {c : Check}
    (hclock : InStep (ops ++ [.inspect p key o, .check p key o']))
    (hpolicy : OnePolicy (ops ++ [.inspect p key o, .check p key o']))
    (hfaithful : o.delivery.isFaithful = true) (hfaithful' : o'.delivery.isFaithful = true)
    (hreading : o'.reading = o.reading)
    (hinspect : (Counter.inspect p key o (run [] ops).2).1 = .ok status)
    (hcheck : (Counter.check p key o' (Counter.inspect p key o (run [] ops).2).2).1 = .ok c)
    (hdegraded : c.decision.degraded = false) :
    (c.decision.allowed = true ↔ status.currentCount < p.maxRequests) ∧
      c.decision.remaining = max 0 (p.maxRequests - status.currentCount - 1) := by
  have hpast : Past p key o ops := past_of_append hclock hpolicy rfl rfl
  have hpast' : Past p key o' (ops ++ [.inspect p key o]) := by
    rw [List.append_cons] at hclock hpolicy
    exact past_of_append hclock hpolicy rfl rfl
  have hseen : seen p o' (Table.get? (Counter.inspect p key o (run [] ops).2).2 key) =
      seen p o (Table.get? (run [] ops).2 key) := by
    have hsame := hpast'.seen_eq hpast (ledger_append_inspect key ops p key o) hreading
    rw [windowOf, snd_run_append_singleton] at hsame
    exact hsame
  obtain ⟨resetAt, hdecision⟩ := decision_eq_of_counted hfaithful' hcheck hdegraded
  rw [hdecision, currentCount_eq hfaithful hinspect, ← hseen]
  exact ⟨decide_eq_true_iff, rfl⟩

end RateLimit.Counter.Operation
