import RateLimit.Proofs.Counter.SlidingLog

/-!
# The quota is a ceiling

No interval that is shorter than the window by more than 256 nanoseconds holds more
admissions than the quota, `admissions_le_maxRequests`. The 256 nanoseconds are lost
because scores and bounds of trimming are rounded to machine numbers, and
`admissions_exceed_at_256` shows that they can be lost indeed.
-/

namespace RateLimit.Counter.Operation

open Number (Binary64)

/-- Whether an operation and its outcome are a check on a key, at a reading between two
bounds, that was allowed because of the count. -/
def isAdmission (key : String) (a b : Int) : Operation × Outcome → Bool
  | (.check _ j o, .checked (.ok c)) =>
      Decidable.decide (j = key ∧ a ≤ o.reading ∧ o.reading ≤ b) && c.decision.allowed
        && !c.decision.degraded
  | _ => false

/-- How many admissions there are on a key between two bounds, in a run that starts with
some store. -/
def admissions (key : String) (a b : Int) (s : Store) (ops : List Operation) : Nat :=
  (ops.zip (run s ops).1).countP (isAdmission key a b)

theorem length_run (s : Store) (ops : List Operation) : (run s ops).1.length = ops.length := by
  induction ops generalizing s with
  | nil => rfl
  | cons op rest ih => rw [run_cons, List.length_cons, List.length_cons, ih]

theorem admissions_append_singleton (key : String) (a b : Int) (before ops : List Operation)
    (op : Operation) :
    admissions key a b (run [] before).2 (ops ++ [op]) =
      admissions key a b (run [] before).2 ops +
        if isAdmission key a b (op, (op.apply (run [] (before ++ ops)).2).1) then 1 else 0 := by
  unfold admissions
  rw [run_append, List.zip_append (length_run _ ops).symm, List.countP_append, run_append]
  congr 1
  exact List.countP_singleton

/-- An admission is a check that was counted and has seen less than the quota. -/
theorem lt_of_isAdmission {key : String} {a b : Int} {s : Store} {op : Operation}
    (hfaithful : op.occasion.delivery.isFaithful = true)
    (h : isAdmission key a b (op, (op.apply s).1) = true) :
    ∃ p o, op = .check p key o ∧ a ≤ o.reading ∧ o.reading ≤ b ∧ IsCounted p o ∧
      seen p o (Table.get? s key) < p.maxRequests := by
  cases op with
  | check p j o =>
      rcases check_cases hfaithful j s with
        ⟨e, -, hanswer⟩ | ⟨resetAt, fault, -, -, hanswer⟩ | ⟨resetAt, -, hcounted, hanswer⟩
      · have houtcome : (Operation.apply s (.check p j o)).1 = .checked (.error e) :=
          congrArg Outcome.checked hanswer
        rw [houtcome] at h
        cases h
      · have houtcome : (Operation.apply s (.check p j o)).1 = .checked (.ok _) :=
          congrArg Outcome.checked hanswer
        rw [houtcome] at h
        simp [isAdmission, failOpen] at h
      · have houtcome : (Operation.apply s (.check p j o)).1 = .checked (.ok _) :=
          congrArg Outcome.checked hanswer
        rw [houtcome] at h
        simp only [isAdmission, decide, Bool.and_eq_true, decide_eq_true_eq] at h
        obtain ⟨⟨⟨rfl, hlow, hhigh⟩, hlt⟩, -⟩ := h
        exact ⟨p, o, rfl, hlow, hhigh, hcounted, by exact_mod_cast hlt⟩
  | inspect p j o => cases h
  | clear j o => cases h

theorem isApplied_of_isCounted {p : Policy} {o : Occasion} (h : IsCounted p o)
    (key : String) : (check p key o).isApplied = true := by
  obtain ⟨hdelivery, hfits⟩ := h
  rw [isApplied, hdelivery, hfits]
  rfl

/-- Only an applied clearing takes entries out of the ledger. -/
theorem sublist_enter {key : String} {op : Operation}
    (h : ∀ o, op = .clear key o → o.delivery.applies = false) (entries : List Entry) :
    entries.Sublist (enter key entries op) := by
  unfold enter
  split_ifs with hand
  · obtain ⟨rfl, happlied⟩ := hand
    cases op with
    | check p key o => exact List.sublist_append_left _ _
    | inspect p key o => exact List.Sublist.refl _
    | clear key o =>
        rw [isApplied, h o rfl] at happlied
        cases happlied
  · exact List.Sublist.refl _

theorem log_append_singleton (key : String) (ops : List Operation) (op : Operation) :
    log key (ops ++ [op]) = (enter key (ledger key ops) op).map Entry.reading := by
  unfold log
  rw [ledger_append_singleton]

/-- Every admission is in the log, as long as the key is not cleared. -/
theorem admissions_le_countP_log {key : String} {a b : Int} {before during : List Operation}
    (hfaithful : ∀ op ∈ during, op.occasion.delivery.isFaithful = true)
    (hclear : ∀ o, .clear key o ∈ during → o.delivery.applies = false) :
    admissions key a b (run [] before).2 during ≤
      (log key (before ++ during)).countP fun t => Decidable.decide (a ≤ t ∧ t ≤ b) := by
  induction during using List.reverseRecOn with
  | nil => exact Nat.zero_le _
  | append_singleton ops op ih =>
      have hop : op ∈ ops ++ [op] := by simp
      have ih := ih (fun x hx => hfaithful x (List.mem_append_left _ hx))
        fun o ho => hclear o (List.mem_append_left _ ho)
      rw [admissions_append_singleton, ← List.append_assoc, log_append_singleton]
      split_ifs with hadmission
      · obtain ⟨p, o, rfl, hlow, hhigh, hcounted, -⟩ :=
          lt_of_isAdmission (hfaithful op hop) hadmission
        rw [enter_check (isApplied_of_isCounted hcounted key), List.map_append,
          List.countP_append]
        have hone : [o.reading].countP (fun t => Decidable.decide (a ≤ t ∧ t ≤ b)) = 1 := by
          rw [List.countP_singleton, if_pos (decide_eq_true ⟨hlow, hhigh⟩)]
        exact Nat.add_le_add ih hone.ge
      · refine ih.trans (List.Sublist.countP_le ?_)
        refine List.Sublist.map _ (sublist_enter ?_ _)
        rintro o rfl
        exact hclear o hop

/-- An interval of readings that is shorter than the window by more than rounding can take
away. -/
structure IsShort (p : Policy) (a b : Int) : Prop where
  nonneg : 0 ≤ a
  lt_bound : b < 2 ^ 61
  windowNs_lt : p.windowNs < 2 ^ 61
  lt_windowNs : b - a < p.windowNs - 256

/-- Readings of a short interval see each other. -/
theorem IsShort.inWindow {p : Policy} {a b reading t : Int} (h : IsShort p a b)
    (hle : reading ≤ b) (hge : a ≤ reading) (hat : a ≤ t) (htb : t ≤ b) :
    inWindow p reading t = true := by
  obtain ⟨ha, hb, -, hab⟩ := h
  exact inWindow_of_recent (by omega) (by omega) (by omega)

/-- On a run with a clock that never goes back and one policy for the key, at most as
many checks on the key as the quota says are allowed by the store at readings of an
interval that is shorter than the window by more than 256 nanoseconds, unless the key
is cleared on the way. The stretch `during` of the run holds the checks concerned. -/
theorem admissions_le_maxRequests {p : Policy} {key : String} {a b : Int}
    {before during : List Operation} (hclock : InStep (before ++ during))
    (hpolicy : UsesOnly p key (before ++ during))
    (hmembers : DistinctMembers (before ++ during))
    (hfaithful : ∀ op ∈ during, op.occasion.delivery.isFaithful = true)
    (hclear : ∀ o, .clear key o ∈ during → o.delivery.applies = false)
    (ha : 0 ≤ a) (hb : b < 2 ^ 61) (hwindow : p.windowNs < 2 ^ 61)
    (hab : b - a < p.windowNs - 256) :
    admissions key a b (run [] before).2 during ≤ p.maxRequests := by
  have hshort : IsShort p a b := ⟨ha, hb, hwindow, hab⟩
  induction during using List.reverseRecOn with
  | nil => exact Nat.zero_le _
  | append_singleton ops op ih =>
      have hop : op ∈ ops ++ [op] := by simp
      have hsub : (before ++ ops).Sublist (before ++ (ops ++ [op])) :=
        (List.Sublist.refl _).append (List.sublist_append_left _ _)
      have hclock' : InStep (before ++ ops) := List.Pairwise.sublist hsub hclock
      have hfaithful' : ∀ x ∈ ops, x.occasion.delivery.isFaithful = true :=
        fun x hx => hfaithful x (List.mem_append_left _ hx)
      have hclear' : ∀ o, .clear key o ∈ ops → o.delivery.applies = false :=
        fun o ho => hclear o (List.mem_append_left _ ho)
      rw [admissions_append_singleton]
      split_ifs with hadmission
      · -- The last admission has seen all the others.
        obtain ⟨q, o, rfl, hlow, hhigh, hcounted, hlt⟩ :=
          lt_of_isAdmission (hfaithful op hop) hadmission
        obtain rfl : q = p := hpolicy _ (List.mem_append_right _ hop) rfl q rfl
        rw [← List.append_assoc] at hclock
        have hseen := seen_eq_countP (o := o) hclock' (hmembers.sublist hsub)
          (hpolicy.sublist hsub) (hclock.before rfl)
        have hlog : admissions key a b (run [] before).2 ops ≤
            (log key (before ++ ops)).countP fun t => Decidable.decide (a ≤ t ∧ t ≤ b) :=
          admissions_le_countP_log hfaithful' hclear'
        have hmono : (log key (before ++ ops)).countP
            (fun t => Decidable.decide (a ≤ t ∧ t ≤ b)) ≤
              (log key (before ++ ops)).countP (inWindow q o.reading) := by
          refine List.countP_mono_left ?_
          intro t _ ht
          obtain ⟨hat, htb⟩ := of_decide_eq_true ht
          exact hshort.inWindow hhigh hlow hat htb
        unfold windowOf at hseen
        omega
      · exact ih hclock' (hpolicy.sublist hsub) (hmembers.sublist hsub) hfaithful' hclear'

def beforeClearing : List Operation :=
  [.check samplePolicy "feed:a" (sampleOccasion 0 .delivered 0),
    .clear "feed:a" (sampleOccasion 50000000 .delivered 0)]

def afterClearing : List Operation :=
  [.check samplePolicy "feed:a" (sampleOccasion 100000000 .delivered 1),
    .check samplePolicy "feed:b" (sampleOccasion 100000000 .delivered 2),
    .check samplePolicy "feed:a" (sampleOccasion 200000000 (.refused (.timeout "")) 3),
    .check samplePolicy "feed:a" (sampleOccasion 300000000 .delivered 4),
    .check samplePolicy "feed:a" (sampleOccasion 400000000 .delivered 5)]

/-- After the clearing the quota is used up again: one request never reaches the store,
and the last one is denied. -/
theorem afterClearing_admissions_le :
    InStep (beforeClearing ++ afterClearing) ∧
      UsesOnly samplePolicy "feed:a" (beforeClearing ++ afterClearing) ∧
      DistinctMembers (beforeClearing ++ afterClearing) ∧
      (∀ op ∈ afterClearing, op.occasion.delivery.isFaithful = true) ∧
      (∀ o, .clear "feed:a" o ∈ afterClearing → o.delivery.applies = false) ∧
      admissions "feed:a" 0 400000000 (run [] beforeClearing).2 afterClearing = 2 ∧
      admissions "feed:a" 0 400000000 (run [] beforeClearing).2 afterClearing ≤ 2 := by
  have hclock : InStep (beforeClearing ++ afterClearing) :=
    inStep_of_latency (by decide) (by decide)
  have hpolicy : UsesOnly samplePolicy "feed:a" (beforeClearing ++ afterClearing) := by decide
  have hmembers : DistinctMembers (beforeClearing ++ afterClearing) := by decide
  have hfaithful : ∀ op ∈ afterClearing, op.occasion.delivery.isFaithful = true := by decide
  have hclear : ∀ o, .clear "feed:a" o ∈ afterClearing → o.delivery.applies = false := by
    intro o ho
    simp [afterClearing] at ho
  exact ⟨hclock, hpolicy, hmembers, hfaithful, hclear, by decide +kernel,
    admissions_le_maxRequests hclock hpolicy hmembers hfaithful hclear (by decide)
      (by decide) (by decide) (by decide)⟩

def narrowPolicy : Policy :=
  { samplePolicy with
    name := "narrow", maxRequests := 1, keyPrefix := "narrow:", maxRequests_pos := Nat.one_pos }

/-- Two requests that are a window apart but for 256 nanoseconds, at readings of the year
2006. -/
def narrowRun : List Operation :=
  [.check narrowPolicy "narrow:a" (sampleOccasion (2 ^ 60 + 640) .delivered 0),
    .check narrowPolicy "narrow:a" (sampleOccasion (2 ^ 60 + 640 + 999999744) .delivered 1)]

/-- An interval that is shorter than the window by 256 nanoseconds can hold one admission
too many. -/
theorem admissions_exceed_at_256 :
    InStep narrowRun ∧ OnePolicy narrowRun ∧ DistinctMembers narrowRun ∧
      2 ^ 60 + 640 + 999999744 - (2 ^ 60 + 640) = narrowPolicy.windowNs - 256 ∧
      admissions "narrow:a" (2 ^ 60 + 640) (2 ^ 60 + 640 + 999999744) [] narrowRun =
        narrowPolicy.maxRequests + 1 :=
  ⟨inStep_of_latency (by decide) (by decide), by decide, by decide, by decide,
    by decide +kernel⟩

end RateLimit.Counter.Operation
