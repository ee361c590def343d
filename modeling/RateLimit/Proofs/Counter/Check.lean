import RateLimit.Counter.Run
import RateLimit.Proofs.Number.Nearest
import RateLimit.Proofs.Store.Held

/-!
# What a check does

A check is applied as a whole or not at all. It is applied when its round trip
reaches the store and all its numbers exist there, `fits`; then the window of the key
loses what is too old and gains the reading, `recorded`, and the count that was taken
in between is that of the entries in the window, `seen`. Otherwise nothing is counted
and at most an expired window is dropped. `check_cases` lists the answers, as long as
the reply that arrives is that of the store, `Delivery.isFaithful`.
-/

namespace RateLimit

open Number (Binary64 ConversionError)

/-- Whether no other reply can take the place of that of the store. -/
def Delivery.isFaithful : Delivery → Bool
  | .answered _ => false
  | _ => true

namespace Delivery

variable {d : Delivery}

theorem applies_of_eq (h : d = .delivered) : d.applies = true := by
  rw [h]
  rfl

theorem isFaithful_of_eq (h : d = .delivered) : d.isFaithful = true := by
  rw [h]
  rfl

end Delivery

/-- Nothing is received when neither the reply of the store nor another one arrives. -/
theorem Store.exists_exchange_eq_error {d : Delivery} (hfaithful : d.isFaithful = true)
    (hne : d ≠ .delivered) (now : Int) (s : Store) (commands : List Command)
    (wrap : List Int → Json) :
    ∃ fault, (s.exchange now commands wrap d).1 = .error fault := by
  unfold Store.exchange
  split_ifs with happlies
  · split
    · cases d with
      | delivered => exact absurd rfl hne
      | refused fault => exact ⟨fault, rfl⟩
      | lost fault => exact ⟨fault, rfl⟩
      | answered reply => cases hfaithful
      | expired => exact ⟨_, rfl⟩
    · exact ⟨_, rfl⟩
  · cases d with
    | delivered => exact absurd rfl hne
    | refused fault => exact ⟨fault, rfl⟩
    | lost fault => exact ⟨fault, rfl⟩
    | answered reply => cases hfaithful
    | expired => exact ⟨_, rfl⟩

namespace Action

theorem apply_trim {limit : Int} (h : (Binary64.ofInt? limit).isSome = true) (now : Int)
    (w : Option Window) :
    ∃ dropped : Int, (trim limit).apply now w =
      .ok (dropped, w.bind (Window.trim (Binary64.nearest limit))) := by
  obtain ⟨x, hx⟩ := Option.isSome_iff_exists.mp h
  have hok := Binary64.ofInt_eq_ok_iff.mpr hx
  unfold apply
  dsimp only
  rw [hok]
  exact ⟨_, rfl⟩

theorem apply_trim_of_none {limit : Int} (h : Binary64.ofInt? limit = none) (now : Int)
    (w : Option Window) : (trim limit).apply now w = .error .integerTooLarge := by
  have herror := Binary64.ofInt_eq_error_iff.mpr ⟨h, rfl⟩
  unfold apply
  dsimp only
  rw [herror]

theorem apply_count (now : Int) (w : Option Window) :
    count.apply now w = .ok (((Window.held w).length : Int), w) := by
  unfold apply
  dsimp only
  rw [Window.count_eq_length_held]

theorem apply_add {e : Entry} (h : (Binary64.ofInt? e.reading).isSome = true) (now : Int)
    (w : Option Window) :
    ∃ added : Int, (add e).apply now w = .ok (added, some (Window.add e w)) := by
  obtain ⟨x, hx⟩ := Option.isSome_iff_exists.mp h
  have hok := Binary64.ofInt_eq_ok_iff.mpr hx
  unfold apply
  dsimp only
  rw [hok]
  exact ⟨_, rfl⟩

theorem apply_add_of_none {e : Entry} (h : Binary64.ofInt? e.reading = none) (now : Int)
    (w : Option Window) : (add e).apply now w = .error .integerTooLarge := by
  have herror := Binary64.ofInt_eq_error_iff.mpr ⟨h, rfl⟩
  unfold apply
  dsimp only
  rw [herror]

theorem apply_expire_some (now seconds : Int) (w : Window) :
    (expire seconds).apply now (some w) =
      .ok (1, some { w with deadline := some (now + seconds * second) }) := rfl

/-- Renewing the deadline changes no entry. -/
theorem apply_expire (now seconds : Int) (w : Option Window) :
    ∃ (answer : Int) (v : Option Window),
      (expire seconds).apply now w = .ok (answer, v) ∧ Window.held v = Window.held w := by
  cases w with
  | none => exact ⟨0, none, rfl, rfl⟩
  | some w => exact ⟨1, _, apply_expire_some now seconds w, rfl⟩

end Action

namespace Counter

/-- The window of a key at a reading: what has not expired and is not too old. -/
def trimmed (p : Policy) (o : Occasion) (w : Option Window) : Option Window :=
  (Window.at? o.time w).bind (Window.trim (Binary64.nearest (o.reading - p.windowNs)))

/-- How many entries there are in the window of a key at a reading. -/
def seen (p : Policy) (o : Occasion) (w : Option Window) : Nat :=
  (Window.held (trimmed p o w)).length

/-- The window that a check leaves. -/
def recorded (p : Policy) (o : Occasion) (ttl : Int) (w : Option Window) : Window :=
  { Window.add ⟨o.reading, o.token⟩ (trimmed p o w) with
    deadline := some (o.time + ttl * Action.second) }

theorem held_trimmed (p : Policy) (o : Occasion) (w : Option Window) :
    Window.held (trimmed p o w) =
      (Window.held (Window.at? o.time w)).filter fun e =>
        Decidable.decide (Binary64.nearest (o.reading - p.windowNs) < e.score) :=
  Window.held_bind_trim _ _

theorem at?_trimmed (p : Policy) (o : Occasion) (w : Option Window) :
    Window.at? o.time (trimmed p o w) = trimmed p o w :=
  Window.at?_bind_trim _ (Window.at?_at? _ _)

/-- The actions of a check. -/
def checkActions (p : Policy) (entry : Entry) (ttl : Int) : List Action :=
  [.trim (entry.reading - p.windowNs), .count, .add entry, .expire ttl]

/-- The actions of an inspection. -/
def inspectActions (p : Policy) (reading : Int) : List Action :=
  [.trim (reading - p.windowNs), .count]

theorem checkCommands_eq_map (p : Policy) (key : String) (entry : Entry) (ttl : Int) :
    checkCommands p key entry ttl = (checkActions p entry ttl).map (.on key) := rfl

/-- The count is taken after trimming and before recording. -/
theorem act_checkActions {p : Policy} {o : Occasion}
    (hlimit : (Binary64.ofInt? (o.reading - p.windowNs)).isSome = true)
    (hreading : (Binary64.ofInt? o.reading).isSome = true) (ttl : Int)
    (w : Option Window) :
    ∃ dropped added : Int,
      Window.act o.time w (checkActions p ⟨o.reading, o.token⟩ ttl) =
        (.ok [dropped, seen p o w, added, 1], some (recorded p o ttl w)) := by
  have hlive := at?_trimmed p o w
  obtain ⟨dropped, htrim⟩ := Action.apply_trim hlimit o.time (Window.at? o.time w)
  have hcount := Action.apply_count o.time (Window.at? o.time (trimmed p o w))
  obtain ⟨added, hadd⟩ := Action.apply_add (e := ⟨o.reading, o.token⟩) hreading o.time
    (Window.at? o.time (trimmed p o w))
  have hexpire := Action.apply_expire_some o.time ttl
    (Window.add ⟨o.reading, o.token⟩ (trimmed p o w))
  rw [← Window.at?_add ⟨o.reading, o.token⟩ hlive] at hexpire
  rw [hlive] at hcount hadd
  refine ⟨dropped, added, ?_⟩
  rw [checkActions, Window.act_cons_of_ok htrim]
  rw [← trimmed, Window.act_cons_of_ok (by rw [hlive]; exact hcount),
    Window.act_cons_of_ok (by rw [hlive]; exact hadd), Window.act_cons_of_ok hexpire]
  rfl

theorem act_inspectActions {p : Policy} {o : Occasion}
    (hlimit : (Binary64.ofInt? (o.reading - p.windowNs)).isSome = true)
    (w : Option Window) :
    ∃ dropped : Int,
      Window.act o.time w (inspectActions p o.reading) =
        (.ok [dropped, seen p o w], trimmed p o w) := by
  have hlive := at?_trimmed p o w
  obtain ⟨dropped, htrim⟩ := Action.apply_trim hlimit o.time (Window.at? o.time w)
  have hcount := Action.apply_count o.time (Window.at? o.time (trimmed p o w))
  rw [hlive] at hcount
  refine ⟨dropped, ?_⟩
  rw [inspectActions, Window.act_cons_of_ok htrim]
  rw [← trimmed, Window.act_cons_of_ok (by rw [hlive]; exact hcount)]
  rfl

theorem resetAt?_eq_ok_of_isSome {p : Policy} {reading : Int}
    (h : (Binary64.ofInt? (reading + p.windowNs)).isSome = true) :
    ∃ resetAt, resetAt? p reading = .ok resetAt := by
  obtain ⟨x, hx⟩ := Option.isSome_iff_exists.mp h
  refine ⟨x.divNat 1000000000, ?_⟩
  unfold resetAt? secondsOf?
  rw [Binary64.ofInt_eq_ok_iff.mpr hx]
  rfl

theorem isSome_of_resetAt?_eq_ok {p : Policy} {reading : Int} {resetAt : Binary64}
    (h : resetAt? p reading = .ok resetAt) :
    (Binary64.ofInt? (reading + p.windowNs)).isSome = true := by
  unfold resetAt? secondsOf? at h
  cases hx : Binary64.ofInt (reading + p.windowNs) with
  | error e =>
      rw [hx] at h
      cases h
  | ok x =>
      rw [Binary64.ofInt_eq_ok_iff] at hx
      rw [hx]
      rfl

/-- Whether all numbers of a check exist. -/
def fits (p : Policy) (reading : Int) : Bool :=
  p.keyTtl?.isOk && (Binary64.ofInt? (reading - p.windowNs)).isSome
    && (Binary64.ofInt? (reading + p.windowNs)).isSome

theorem fits_iff {p : Policy} {reading : Int} :
    fits p reading = true ↔
      (∃ ttl, p.keyTtl? = .ok ttl) ∧
        (Binary64.ofInt? (reading - p.windowNs)).isSome = true ∧
          (Binary64.ofInt? (reading + p.windowNs)).isSome = true := by
  unfold fits
  rw [Bool.and_eq_true, Bool.and_eq_true, and_assoc]
  refine and_congr_left' ?_
  cases p.keyTtl? with
  | error e => simp [Except.isOk, Except.toBool]
  | ok ttl => simp [Except.isOk, Except.toBool]

/-- What the round trip of a check comes to once it is known that it can be sent. -/
theorem countAndRecord_of_applies {p : Policy} {o : Occasion} {ttl : Int}
    (happlies : o.delivery.applies = true) (httl : p.keyTtl? = .ok ttl) (key : String)
    (s : Store) :
    countAndRecord p key o s =
      ((s.exchange o.time (checkCommands p key ⟨o.reading, o.token⟩ ttl) Reply.ofCounts
          o.delivery).1.bind fun reply => (Reply.count? reply).mapError .reply,
        (s.exchange o.time (checkCommands p key ⟨o.reading, o.token⟩ ttl) Reply.ofCounts
          o.delivery).2) := by
  unfold countAndRecord
  rw [httl]
  cases hd : o.delivery with
  | refused fault =>
      rw [hd] at happlies
      cases happlies
  | expired =>
      rw [hd] at happlies
      cases happlies
  | delivered =>
      dsimp only
      split <;> rename_i h <;> rw [h] <;> rfl
  | lost fault =>
      dsimp only
      split <;> rename_i h <;> rw [h] <;> rfl
  | answered reply =>
      dsimp only
      split <;> rename_i h <;> rw [h] <;> rfl

theorem countAndRecord_of_not_sent {p : Policy} {o : Occasion}
    (h : o.delivery.applies = false ∨ ∃ e, p.keyTtl? = .error e) (key : String)
    (s : Store) : ∃ fault, countAndRecord p key o s = (.error fault, s) := by
  unfold countAndRecord
  rcases h with h | ⟨e, he⟩
  · cases hd : o.delivery with
    | refused fault => exact ⟨_, rfl⟩
    | expired => exact ⟨_, rfl⟩
    | delivered =>
        rw [hd] at h
        cases h
    | lost fault =>
        rw [hd] at h
        cases h
    | answered reply =>
        rw [hd] at h
        cases h
  · rw [he]
    cases o.delivery <;> exact ⟨_, rfl⟩

theorem countAndRecord_of_fits {p : Policy} {o : Occasion} {ttl : Int}
    (happlies : o.delivery.applies = true) (httl : p.keyTtl? = .ok ttl)
    (hfits : fits p o.reading = true) (key : String) (s : Store) :
    ∃ dropped added : Int,
      (countAndRecord p key o s).1 =
          (o.delivery.receive Reply.ofCounts
            [dropped, seen p o (Table.get? s key), added, 1]).bind
              (fun reply => (Reply.count? reply).mapError .reply) ∧
        Table.get? (countAndRecord p key o s).2 key =
          some (recorded p o ttl (Table.get? s key)) := by
  obtain ⟨-, hlimit, hreset⟩ := fits_iff.mp hfits
  have hpos := p.windowNs_pos
  have hreading : (Binary64.ofInt? o.reading).isSome = true :=
    Binary64.ofInt?_isSome_of_between (by omega) (by omega) hlimit hreset
  obtain ⟨dropped, added, hact⟩ :=
    act_checkActions hlimit hreading ttl (Table.get? s key)
  obtain ⟨hreply, hwindow⟩ := Store.exchange_on_of_ok happlies hact Reply.ofCounts
  refine ⟨dropped, added, ?_, ?_⟩
  · rw [countAndRecord_of_applies happlies httl, checkCommands_eq_map, hreply]
  · rw [countAndRecord_of_applies happlies httl, checkCommands_eq_map, hwindow]

theorem countAndRecord_of_not_fits {p : Policy} {o : Occasion}
    (hreset : (Binary64.ofInt? (o.reading + p.windowNs)).isSome = true)
    (h : (o.delivery.applies && fits p o.reading) = false) (key : String) (s : Store) :
    (∃ fault, (countAndRecord p key o s).1 = .error fault) ∧
      (Table.get? (countAndRecord p key o s).2 key = Table.get? s key ∨
        Table.get? (countAndRecord p key o s).2 key =
          Window.at? o.time (Table.get? s key)) := by
  cases httl : p.keyTtl? with
  | error e =>
      obtain ⟨fault, heq⟩ := countAndRecord_of_not_sent (Or.inr ⟨e, httl⟩) key s
      rw [heq]
      exact ⟨⟨fault, rfl⟩, Or.inl rfl⟩
  | ok ttl =>
      cases happlies : o.delivery.applies with
      | false =>
          obtain ⟨fault, heq⟩ := countAndRecord_of_not_sent (Or.inl happlies) key s
          rw [heq]
          exact ⟨⟨fault, rfl⟩, Or.inl rfl⟩
      | true =>
          -- Only the bound of the trimming can be missing, and it comes first.
          rw [happlies, Bool.true_and] at h
          have hlimit : Binary64.ofInt? (o.reading - p.windowNs) = none := by
            by_contra hne
            have hsome := Option.isSome_iff_ne_none.mpr hne
            rw [fits_iff.mpr ⟨⟨ttl, httl⟩, hsome, hreset⟩] at h
            cases h
          have htrim :=
            Action.apply_trim_of_none hlimit o.time (Window.at? o.time (Table.get? s key))
          have hact : Window.act o.time (Table.get? s key)
              (checkActions p ⟨o.reading, o.token⟩ ttl) =
                (.error .integerTooLarge, Window.at? o.time (Table.get? s key)) :=
            Window.act_cons_of_error htrim _
          obtain ⟨hreply, hwindow⟩ :=
            Store.exchange_on_of_error happlies hact Reply.ofCounts
          rw [countAndRecord_of_applies happlies httl, checkCommands_eq_map, hreply]
          exact ⟨⟨_, rfl⟩, Or.inr hwindow⟩

theorem get?_countAndRecord_of_ne {p : Policy} {o : Occasion} {j key : String}
    (hne : j ≠ key) (s : Store) :
    Table.get? (countAndRecord p key o s).2 j = Table.get? s j := by
  cases httl : p.keyTtl? with
  | error e =>
      obtain ⟨fault, heq⟩ := countAndRecord_of_not_sent (Or.inr ⟨e, httl⟩) key s
      rw [heq]
  | ok ttl =>
      cases happlies : o.delivery.applies with
      | false =>
          obtain ⟨fault, heq⟩ := countAndRecord_of_not_sent (Or.inl happlies) key s
          rw [heq]
      | true =>
          rw [countAndRecord_of_applies happlies httl, checkCommands_eq_map]
          exact Store.get?_exchange_of_ne hne _ _ _ _ _

theorem check_of_resetAt?_error {p : Policy} {o : Occasion} {e : ConversionError}
    (h : resetAt? p o.reading = .error e) (key : String) (s : Store) :
    check p key o s = (.error e, s) := by
  unfold check
  rw [h]

theorem check_of_resetAt?_ok {p : Policy} {o : Occasion} {resetAt : Binary64}
    (h : resetAt? p o.reading = .ok resetAt) (key : String) (s : Store) :
    (check p key o s).2 = (countAndRecord p key o s).2 ∧
      (∀ fault, (countAndRecord p key o s).1 = .error fault →
        (check p key o s).1 =
          .ok { decision := failOpen p resetAt, cause := some fault }) ∧
      ∀ count, (countAndRecord p key o s).1 = .ok count →
        (check p key o s).1 = .ok { decision := decide p count resetAt } := by
  unfold check
  rw [h]
  cases hcount : countAndRecord p key o s with
  | mk result t =>
      cases result with
      | error fault =>
          refine ⟨rfl, ?_, ?_⟩
          · rintro _ ⟨⟩
            rfl
          · rintro _ ⟨⟩
      | ok count =>
          refine ⟨rfl, ?_, ?_⟩
          · rintro _ ⟨⟩
          · rintro _ ⟨⟩
            rfl

/-- Whether the count that the store takes for a check reaches the caller. -/
def IsCounted (p : Policy) (o : Occasion) : Prop :=
  o.delivery = .delivered ∧ fits p o.reading = true

theorem countAndRecord_of_isCounted {p : Policy} {o : Occasion} (h : IsCounted p o)
    (key : String) (s : Store) :
    (countAndRecord p key o s).1 = .ok (seen p o (Table.get? s key) : Int) := by
  obtain ⟨hdelivery, hfits⟩ := h
  obtain ⟨⟨ttl, httl⟩, -⟩ := fits_iff.mp hfits
  have happlies := Delivery.applies_of_eq hdelivery
  obtain ⟨dropped, added, hresult, -⟩ := countAndRecord_of_fits happlies httl hfits key s
  rw [hdelivery] at hresult
  exact hresult

/-- A check fails when there is no reset time, decides on what it has seen when it is
counted, and is degraded otherwise. -/
theorem check_cases {p : Policy} {o : Occasion} (hfaithful : o.delivery.isFaithful = true)
    (key : String) (s : Store) :
    (∃ e, resetAt? p o.reading = .error e ∧ (check p key o s).1 = .error e) ∨
      (∃ resetAt fault, resetAt? p o.reading = .ok resetAt ∧ ¬IsCounted p o ∧
        (check p key o s).1 =
          .ok { decision := failOpen p resetAt, cause := some fault }) ∨
      ∃ resetAt, resetAt? p o.reading = .ok resetAt ∧ IsCounted p o ∧
        (check p key o s).1 =
          .ok { decision := decide p (seen p o (Table.get? s key)) resetAt } := by
  cases hreset : resetAt? p o.reading with
  | error e =>
      left
      rw [check_of_resetAt?_error hreset]
      exact ⟨e, rfl, rfl⟩
  | ok resetAt =>
      right
      obtain ⟨-, hfail, hcount⟩ := check_of_resetAt?_ok hreset key s
      cases happlied : o.delivery.applies && fits p o.reading with
      | false =>
          left
          obtain ⟨⟨fault, hfault⟩, -⟩ := countAndRecord_of_not_fits
            (isSome_of_resetAt?_eq_ok hreset) happlied key s
          refine ⟨resetAt, fault, rfl, ?_, hfail fault hfault⟩
          rintro ⟨hdelivered, hfits⟩
          rw [hdelivered, hfits] at happlied
          cases happlied
      | true =>
          obtain ⟨happlies, hfits⟩ := Bool.and_eq_true_iff.mp happlied
          obtain ⟨⟨ttl, httl⟩, -⟩ := fits_iff.mp hfits
          obtain ⟨dropped, added, hresult, -⟩ :=
            countAndRecord_of_fits happlies httl hfits key s
          cases hdelivery : o.delivery with
          | delivered =>
              right
              have hcounted : IsCounted p o := ⟨hdelivery, hfits⟩
              exact ⟨resetAt, rfl, hcounted,
                hcount _ (countAndRecord_of_isCounted hcounted key s)⟩
          | lost fault =>
              left
              rw [hdelivery] at hresult
              refine ⟨resetAt, fault, rfl, ?_, hfail fault hresult⟩
              rintro ⟨hdelivered, -⟩
              rw [hdelivered] at hdelivery
              cases hdelivery
          | answered reply =>
              rw [hdelivery] at hfaithful
              cases hfaithful
          | refused fault =>
              rw [hdelivery] at happlies
              cases happlies
          | expired =>
              rw [hdelivery] at happlies
              cases happlies

/-- A check with a reset time decides on what it has seen, or it is degraded. -/
theorem check_cases_of_reset {p : Policy} {o : Occasion} {resetAt : Binary64}
    (hfaithful : o.delivery.isFaithful = true) (hreset : resetAt? p o.reading = .ok resetAt)
    (key : String) (s : Store) :
    (¬IsCounted p o ∧ ∃ fault, (check p key o s).1 =
        .ok { decision := failOpen p resetAt, cause := some fault }) ∨
      IsCounted p o ∧ (check p key o s).1 =
        .ok { decision := decide p (seen p o (Table.get? s key)) resetAt } := by
  rcases check_cases hfaithful key s with
    ⟨e, huntold, -⟩ | ⟨r, fault, htold, hcounted, hanswer⟩ | ⟨r, htold, hcounted, hanswer⟩
  · rw [hreset] at huntold
    cases huntold
  · rw [hreset] at htold
    cases htold
    exact Or.inl ⟨hcounted, fault, hanswer⟩
  · rw [hreset] at htold
    cases htold
    exact Or.inr ⟨hcounted, hanswer⟩

/-- A check that is counted decides on what it has seen. -/
theorem fst_check_of_isCounted {p : Policy} {o : Occasion} (h : IsCounted p o) (key : String)
    (s : Store) :
    ∃ resetAt, resetAt? p o.reading = .ok resetAt ∧
      (check p key o s).1 =
        .ok { decision := decide p (seen p o (Table.get? s key)) resetAt } := by
  obtain ⟨resetAt, hreset⟩ := resetAt?_eq_ok_of_isSome (fits_iff.mp h.2).2.2
  exact ⟨resetAt, hreset,
    (check_of_resetAt?_ok hreset key s).2.2 _ (countAndRecord_of_isCounted h key s)⟩

end Counter

end RateLimit
