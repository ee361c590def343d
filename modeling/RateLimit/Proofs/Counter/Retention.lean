import RateLimit.Proofs.Counter.Ledger
import RateLimit.Proofs.Policy.Lifetime

/-!
# What is in the window is kept

On a run with a clock that never goes back, `InStep`, and one policy for each key,
`OnePolicy`, the store forgets no entry that lies in the window of a later reading: a
trim drops less than a later one would, and a window expires only when all of its
entries are too old. When no two checks write the same member, `DistinctMembers`, a
check or an inspection sees exactly the entries of the ledger that lie in its window,
`seen_eq_countP`.
-/

namespace RateLimit

/-- How much faster the time of the store may run than the readings, between any two
operations. -/
def Occasion.slack : Int := 59 * Action.second

/-- Whether one occasion comes before another on a clock that never goes back. -/
def Occasion.Before (a b : Occasion) : Prop :=
  a.reading ≤ b.reading ∧ b.time - a.time ≤ b.reading - a.reading + slack

instance (a b : Occasion) : Decidable (a.Before b) :=
  inferInstanceAs (Decidable (_ ∧ _))

namespace Counter.Operation

open Number (Binary64)

/-- The policy that an operation is given. -/
def policy? : Operation → Option Policy
  | .check p _ _ => some p
  | .inspect p _ _ => some p
  | .clear _ _ => none

/-- The member that an operation writes, and its key. -/
def member? : Operation → Option (String × Entry)
  | .check _ key o => some (key, ⟨o.reading, o.token⟩)
  | .inspect _ _ _ => none
  | .clear _ _ => none

/-- The clock never goes back. The time of the store is not read by the operations, and
it may differ from the readings, but it must not run away from them. -/
def InStep (ops : List Operation) : Prop :=
  ops.Pairwise fun x y =>
    x.readsClock = true → y.readsClock = true → x.occasion.Before y.occasion

/-- A key is always used with one policy. -/
def OnePolicy (ops : List Operation) : Prop :=
  ∀ x ∈ ops, ∀ y ∈ ops, x.key = y.key → ∀ p ∈ x.policy?, ∀ q ∈ y.policy?, p = q

/-- A key is never used with another policy. -/
def UsesOnly (p : Policy) (key : String) (ops : List Operation) : Prop :=
  ∀ x ∈ ops, x.key = key → ∀ q ∈ x.policy?, q = p

/-- No two checks write the same member under one key. -/
def DistinctMembers (ops : List Operation) : Prop :=
  (ops.filterMap member?).Nodup

instance (ops : List Operation) : Decidable (InStep ops) :=
  inferInstanceAs (Decidable (List.Pairwise _ _))

instance (ops : List Operation) : Decidable (OnePolicy ops) :=
  inferInstanceAs (Decidable (∀ x ∈ ops, ∀ y ∈ ops, x.key = y.key →
    ∀ p ∈ x.policy?, ∀ q ∈ y.policy?, p = q))

instance (p : Policy) (key : String) (ops : List Operation) :
    Decidable (UsesOnly p key ops) :=
  inferInstanceAs (Decidable (∀ x ∈ ops, x.key = key → ∀ q ∈ x.policy?, q = p))

instance (ops : List Operation) : Decidable (DistinctMembers ops) :=
  inferInstanceAs (Decidable (List.Nodup _))

/-- The store may read the same clock, and it may be reached up to 59 seconds after
the reading. -/
theorem inStep_of_latency {ops : List Operation}
    (hclock : ops.Pairwise fun x y => x.occasion.reading ≤ y.occasion.reading)
    (hlatency : ∀ op ∈ ops, op.occasion.reading ≤ op.occasion.time ∧
      op.occasion.time ≤ op.occasion.reading + Occasion.slack) : InStep ops := by
  refine hclock.imp_of_mem ?_
  intro x y hx hy hle _ _
  have hlx := hlatency x hx
  have hly := hlatency y hy
  exact ⟨hle, by omega⟩

theorem OnePolicy.usesOnly {ops : List Operation} (h : OnePolicy ops) {op : Operation}
    (hop : op ∈ ops) {p : Policy} (hp : p ∈ op.policy?) : UsesOnly p op.key ops :=
  fun x hx hkey q hq => h x hx op hop hkey q hq p hp

theorem UsesOnly.sublist {p : Policy} {key : String} {ops rest : List Operation}
    (h : UsesOnly p key ops) (hsub : rest.Sublist ops) : UsesOnly p key rest :=
  fun x hx => h x (hsub.subset hx)

theorem OnePolicy.sublist {ops rest : List Operation} (h : OnePolicy ops)
    (hsub : rest.Sublist ops) : OnePolicy rest :=
  fun x hx y hy => h x (hsub.subset hx) y (hsub.subset hy)

theorem DistinctMembers.sublist {ops rest : List Operation} (h : DistinctMembers ops)
    (hsub : rest.Sublist ops) : DistinctMembers rest :=
  List.Nodup.sublist (hsub.filterMap _) h

/-- The operations before another one come before it on the clock. -/
theorem InStep.before {ops : List Operation} {op : Operation} (h : InStep (ops ++ [op]))
    (hreads : op.readsClock = true) :
    ∀ x ∈ ops, x.readsClock = true → x.occasion.Before op.occasion :=
  fun x hx hx' =>
    (List.pairwise_append.mp h).2.2 x hx op (List.mem_singleton_self op) hx' hreads

theorem mem_ledger {key : String} {ops : List Operation} {e : Entry}
    (h : e ∈ ledger key ops) :
    ∃ p o, Operation.check p key o ∈ ops ∧ e = ⟨o.reading, o.token⟩ := by
  have hnew : e ∈ ledger key ([] ++ ops) := h
  rcases mem_of_mem_ledger_append hnew with hnil | ⟨p, o, hop, -, he⟩
  · cases hnil
  · exact ⟨p, o, hop, he⟩

/-- What a ledger lists is written by the checks, one after the other. -/
theorem map_ledger_sublist (key : String) (ops : List Operation) :
    ((ledger key ops).map fun e => (key, e)).Sublist (ops.filterMap member?) := by
  induction ops using List.reverseRecOn with
  | nil => exact List.Sublist.refl _
  | append_singleton ops op ih =>
      rw [ledger_append_singleton, List.filterMap_append]
      have hold : ((ledger key ops).map fun e => (key, e)).Sublist
          (ops.filterMap member? ++ [op].filterMap member?) :=
        ih.trans (List.sublist_append_left _ _)
      unfold enter
      split_ifs with hand
      · obtain ⟨rfl, happlied⟩ := hand
        cases op with
        | check p key o =>
            dsimp only
            rw [List.map_append]
            exact ih.append (List.Sublist.refl _)
        | inspect p key o => exact hold
        | clear key o => exact List.nil_sublist _
      · exact hold

theorem nodup_ledger {ops : List Operation} (h : DistinctMembers ops) (key : String) :
    (ledger key ops).Nodup :=
  List.Nodup.of_map _ (List.Nodup.sublist (map_ledger_sublist key ops) h)

/-- A window is not expired while an entry of it lies in the window of a later reading. -/
theorem lt_deadline {p : Policy} {o later : Occasion} {ttl recorded : Int}
    (httl : p.keyTtl? = .ok ttl) (hbefore : o.Before later) (hle : recorded ≤ o.reading)
    (h : inWindow p later.reading recorded = true) :
    later.time < o.time + ttl * Action.second := by
  have hlife := Policy.windowNs_add_le_keyTtl httl
  have hrecent := lt_of_inWindow h
  have hpace := hbefore.2
  unfold Occasion.slack at hpace
  omega

theorem mem_held_trimmed {p : Policy} {o : Occasion} {w : Option Window} {e : Entry}
    (hmem : e ∈ Window.held (Window.at? o.time w))
    (h : inWindow p o.reading e.reading = true) : e ∈ Window.held (trimmed p o w) := by
  rw [held_trimmed_eq_filter]
  exact List.mem_filter.mpr ⟨hmem, h⟩

/-- Every entry of a list that lies in the window of a reading is held then. -/
def Retains (p : Policy) (o : Occasion) (entries : List Entry) (w : Option Window) : Prop :=
  ∀ e ∈ entries, inWindow p o.reading e.reading = true →
    e ∈ Window.held (Window.at? o.time w)

theorem Retains.mem_trimmed {p : Policy} {o later : Occasion} {entries : List Entry}
    {w : Option Window} (h : Retains p o entries w) (hbefore : o.Before later) {e : Entry}
    (he : e ∈ entries) (hin : inWindow p later.reading e.reading = true) :
    e ∈ Window.held (trimmed p o w) :=
  have hearlier := inWindow_of_le hbefore.1 hin
  mem_held_trimmed (h e he hearlier) hearlier

/-- A check retains what was retained, and the entry that it records. -/
theorem Retains.recorded {p : Policy} {o later : Occasion} {ttl : Int}
    {entries : List Entry} {w : Option Window} (httl : p.keyTtl? = .ok ttl)
    (hbefore : o.Before later) (holder : ∀ e ∈ entries, e.reading ≤ o.reading)
    (h : Retains p o entries w) :
    Retains p later (entries ++ [⟨o.reading, o.token⟩]) (some (recorded p o ttl w)) := by
  intro e he hin
  have hle : e.reading ≤ o.reading := by
    rcases List.mem_append.mp he with hmem | hmem
    · exact holder e hmem
    · rw [List.mem_singleton.mp hmem]
  rw [Window.at?_some_of_lt rfl (lt_deadline httl hbefore hle hin)]
  rcases List.mem_append.mp he with hmem | hmem
  · exact Window.held_subset_add _ _ (h.mem_trimmed hbefore hmem hin)
  · rw [List.mem_singleton.mp hmem]
    exact Window.mem_entries_add _ _

/-- Trimming for an earlier reading retains what is in the window of a later one. -/
theorem Retains.trimmed {p : Policy} {o later : Occasion} {entries : List Entry}
    {w : Option Window} (hbefore : o.Before later) (h : Retains p o entries w)
    (hlater : Retains p later entries w) : Retains p later entries (trimmed p o w) := by
  intro e he hin
  have hheld := h e he (inWindow_of_le hbefore.1 hin)
  have hkeep := h.mem_trimmed hbefore he hin
  have hself : Counter.trimmed p o w =
      w.bind (Window.trim (Binary64.nearest (o.reading - p.windowNs))) := by
    unfold Counter.trimmed
    rw [Window.at?_eq_self_of_mem hheld]
  have hlive := Window.at?_eq_self_of_mem (hlater e he hin)
  rw [hself, Window.at?_bind_trim _ hlive, ← hself]
  exact hkeep

/-- No operation loses what lies in the window of a later reading. -/
theorem Retains.step {p : Policy} {op : Operation} {later : Occasion}
    {entries : List Entry} {w v : Option Window} (hstep : Step op w v)
    (hsame : ∀ q ∈ op.policy?, q = p)
    (hbefore : op.readsClock = true → op.occasion.Before later)
    (holder : op.readsClock = true → ∀ e ∈ entries, e.reading ≤ op.occasion.reading)
    (h : op.readsClock = true → Retains p op.occasion entries w)
    (hlater : Retains p later entries w) :
    Retains p later (enter op.key entries op) v := by
  cases hstep with
  | idle happlied =>
      rw [enter_of_not_applied happlied]
      exact hlater
  | dropped happlied hreads =>
      rw [enter_of_not_applied happlied]
      intro e he hin
      have hearlier := inWindow_of_le (hbefore hreads).1 hin
      rw [Window.at?_eq_self_of_mem (h hreads e he hearlier)]
      exact hlater e he hin
  | @checked q key o ttl _ happlied httl =>
      obtain rfl : q = p := hsame q rfl
      show Retains q later (enter key entries (.check q key o)) _
      rw [enter_check happlied]
      exact (h rfl).recorded httl (hbefore rfl) (holder rfl)
  | @inspected q key o _ happlied =>
      obtain rfl : q = p := hsame q rfl
      rw [enter_inspect]
      exact (h rfl).trimmed (hbefore rfl) hlater
  | @cleared key o _ happlied =>
      show Retains p later (enter key entries (.clear key o)) _
      rw [enter_clear happlied]
      intro e he
      cases he

/-- What lies in the window of a later reading is still in the store. -/
theorem retains_run {p : Policy} {key : String} {ops : List Operation}
    (hclock : InStep ops) (hpolicy : UsesOnly p key ops) :
    ∀ o : Occasion, (∀ x ∈ ops, x.readsClock = true → x.occasion.Before o) →
      Retains p o (ledger key ops) (windowOf key ops) := by
  induction ops using List.reverseRecOn with
  | nil =>
      intro o _ e he
      cases he
  | append_singleton ops op ih =>
      intro o hlater
      have hop : op ∈ ops ++ [op] := by simp
      have hsub : ops.Sublist (ops ++ [op]) := List.sublist_append_left _ _
      have ih := ih (List.Pairwise.sublist hsub hclock) (hpolicy.sublist hsub)
      have hnow := ih o fun x hx => hlater x (List.mem_append_left _ hx)
      rw [ledger_append_singleton]
      by_cases hkey : op.key = key
      · subst hkey
        refine Retains.step (windowOf_step ops op) (hpolicy op hop rfl) (hlater op hop) ?_ ?_
          hnow
        · intro hreads e he
          obtain ⟨q, o', hmem, rfl⟩ := mem_ledger he
          exact (hclock.before hreads _ hmem rfl).1
        · intro hreads
          exact ih op.occasion (hclock.before hreads)
      · rw [enter_of_ne hkey, windowOf_append_of_ne hkey]
        exact hnow

/-- A check or an inspection sees what the log has in its window, and nothing else. -/
theorem seen_eq_countP {p : Policy} {key : String} {o : Occasion} {ops : List Operation}
    (hclock : InStep ops) (hmembers : DistinctMembers ops) (hpolicy : UsesOnly p key ops)
    (hlater : ∀ x ∈ ops, x.readsClock = true → x.occasion.Before o) :
    seen p o (windowOf key ops) = (log key ops).countP (inWindow p o.reading) := by
  apply le_antisymm (seen_le_countP p key o ops)
  have hnodup := (nodup_ledger hmembers key).filter fun e => inWindow p o.reading e.reading
  have hsubset : (ledger key ops).filter (fun e => inWindow p o.reading e.reading) ⊆
      Window.held (trimmed p o (windowOf key ops)) := by
    intro e he
    obtain ⟨hmem, hin⟩ := List.mem_filter.mp he
    exact mem_held_trimmed (retains_run hclock hpolicy o hlater e hmem hin) hin
  unfold seen log
  rw [List.countP_map, List.countP_eq_length_filter]
  exact (List.subperm_of_subset hnodup hsubset).length_le

end Counter.Operation

end RateLimit
