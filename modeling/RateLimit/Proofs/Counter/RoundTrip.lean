import RateLimit.Proofs.Counter.Step

/-!
# What is made of a reply

Each operation of the counter is a round trip, and something that is made of what the
round trip brings, a reply or the fault that kept it away: `check_eq`, `inspect_eq` and
`clear_eq` take them apart. So an operation depends on the store in its round trip only.
Two stores that agree on the window of the key are treated alike, `AgreeOn`, and a
decision even depends on nothing but the number of entries that were seen,
`fst_check_eq_of_seen`.
-/

namespace RateLimit

open Number (Binary64 ConversionError)

/-- Two results, each with the store that it leaves, that are the same as far as one key
is concerned. -/
def AgreeOn {α : Type} (key : String) (x y : α × Store) : Prop :=
  x.1 = y.1 ∧ Table.get? x.2 key = Table.get? y.2 key

theorem AgreeOn.map {α β : Type} {key : String} {x y : α × Store} (h : AgreeOn key x y)
    (f : α → β) : AgreeOn key (f x.1, x.2) (f y.1, y.2) :=
  ⟨congrArg f h.1, h.2⟩

/-- A round trip on one key depends on the window of this key alone. -/
theorem Store.agreeOn_exchange {s t : Store} {key : String}
    (h : Table.get? s key = Table.get? t key) (now : Int) (actions : List Action)
    (wrap : List Int → Json) (d : Delivery) :
    AgreeOn key (exchange now s (actions.map (.on key)) wrap d)
      (exchange now t (actions.map (.on key)) wrap d) := by
  cases happlies : d.applies with
  | false =>
      rw [exchange_of_not_applies happlies, exchange_of_not_applies happlies]
      exact ⟨rfl, h⟩
  | true =>
      obtain ⟨hs, hsw⟩ := sendAll_on now key actions s
      obtain ⟨ht, htw⟩ := sendAll_on now key actions t
      rw [h] at hs hsw
      refine ⟨?_, ?_⟩
      · rw [fst_exchange_of_applies happlies, fst_exchange_of_applies happlies, hs, ht]
      · rw [snd_exchange_of_applies happlies, snd_exchange_of_applies happlies, hsw, htw]

namespace Counter

/-- The round trip of a check: what it brings, and the store that it leaves. -/
def roundTrip (p : Policy) (key : String) (o : Occasion) (s : Store) :
    Except Fault Json × Store :=
  match o.delivery, p.keyTtl? with
  | .expired, _ => (.error (.timeout ""), s)
  | .refused fault, _ => (.error fault, s)
  | _, .error e => (.error (.span e), s)
  | delivery, .ok ttl =>
      s.exchange o.time (checkCommands p key ⟨o.reading, o.token⟩ ttl) Reply.ofCounts delivery

/-- The count in what a round trip brings. -/
def countOf (received : Except Fault Json) : Except Fault Int :=
  received.bind fun reply => (Reply.count? reply).mapError .reply

/-- What a check makes of the count, or of the fault that kept it away. -/
def checkOf (p : Policy) (resetAt : Binary64) : Except Fault Int → Check
  | .ok count => { decision := decide p count resetAt }
  | .error fault => { decision := failOpen p resetAt, cause := some fault }

@[simp] theorem resetAt_checkOf (p : Policy) (resetAt : Binary64) (count : Except Fault Int) :
    (checkOf p resetAt count).decision.resetAt = resetAt := by
  cases count <;> rfl

/-- What an inspection makes of what its round trip brings. -/
def statusOf (p : Policy) (key : String) (reading : Int) :
    Except Fault Json → Except Fault WindowStatus
  | .error fault => .error (explain key fault)
  | .ok reply =>
      (countOf (.ok reply)).bind fun count =>
        ((resetAt? p reading).mapError .conversion).map fun resetAt => ⟨count, resetAt⟩

/-- What a clearing makes of what its round trip brings. -/
def removedOf (key : String) (received : Except Fault Json) : Except Fault Bool :=
  (received.mapError (explain key)).map Json.isSet

theorem countOf_eq_ok_iff {received : Except Fault Json} {count : Int} :
    countOf received = .ok count ↔
      ∃ reply, received = .ok reply ∧ Reply.count? reply = .ok count := by
  cases received with
  | error fault => simp [countOf, Except.bind]
  | ok reply => cases h : Reply.count? reply <;> simp [countOf, Except.bind, Except.mapError, h]

theorem countOf_eq_error_of_not {received : Except Fault Json}
    (h : ¬ ∃ reply count, received = .ok reply ∧ Reply.count? reply = .ok count) :
    ∃ fault, countOf received = .error fault := by
  cases hcount : countOf received with
  | error fault => exact ⟨fault, rfl⟩
  | ok count =>
      obtain ⟨reply, hreply⟩ := countOf_eq_ok_iff.mp hcount
      exact absurd ⟨reply, count, hreply⟩ h

theorem countAndRecord_eq (p : Policy) (key : String) (o : Occasion) (s : Store) :
    countAndRecord p key o s =
      (countOf (roundTrip p key o s).1, (roundTrip p key o s).2) := by
  unfold countAndRecord roundTrip
  cases o.delivery with
  | refused fault => rfl
  | expired => rfl
  | _ =>
      cases p.keyTtl? with
      | error e => rfl
      | ok ttl =>
          dsimp only
          split <;> rename_i h <;> rw [h] <;> rfl

/-- A round trip whose commands are not applied fails. -/
theorem roundTrip_of_not_applies {p : Policy} {o : Occasion}
    (h : o.delivery.applies = false) (key : String) (s : Store) :
    ∃ fault, (roundTrip p key o s).1 = .error fault := by
  unfold roundTrip
  cases hd : o.delivery with
  | refused fault => exact ⟨fault, rfl⟩
  | expired => exact ⟨.timeout "", rfl⟩
  | _ =>
      rw [hd] at h
      cases h

theorem roundTrip_of_applies {p : Policy} {o : Occasion} {ttl : Int}
    (happlies : o.delivery.applies = true) (httl : p.keyTtl? = .ok ttl) (key : String)
    (s : Store) :
    roundTrip p key o s =
      s.exchange o.time (checkCommands p key ⟨o.reading, o.token⟩ ttl) Reply.ofCounts
        o.delivery := by
  unfold roundTrip
  rw [httl]
  cases hd : o.delivery with
  | refused fault =>
      rw [hd] at happlies
      cases happlies
  | expired =>
      rw [hd] at happlies
      cases happlies
  | _ => rfl

theorem check_eq {p : Policy} {o : Occasion} {resetAt : Binary64}
    (h : resetAt? p o.reading = .ok resetAt) (key : String) (s : Store) :
    check p key o s =
      (.ok (checkOf p resetAt (countOf (roundTrip p key o s).1)), (roundTrip p key o s).2) := by
  unfold check
  rw [h, countAndRecord_eq]
  cases countOf (roundTrip p key o s).1 <;> rfl

/-- What a check says about its decision: the reset time is a window after the reading, and
only the store denies. -/
theorem check_inv {p : Policy} {key : String} {o : Occasion} {s s' : Store} {result : Check}
    (h : check p key o s = (.ok result, s')) :
    resetAt? p o.reading = .ok result.decision.resetAt ∧
      (result.decision.degraded = true → result.decision.allowed = true) := by
  cases hreset : resetAt? p o.reading with
  | error e =>
      rw [check_of_resetAt?_error hreset] at h
      cases h
  | ok resetAt =>
      rw [check_eq hreset] at h
      cases h
      cases countOf (roundTrip p key o s).1 with
      | error fault => exact ⟨rfl, fun _ => rfl⟩
      | ok count => exact ⟨rfl, fun hdegraded => nomatch hdegraded⟩

theorem inspect_eq (p : Policy) (key : String) (o : Occasion) (s : Store) :
    inspect p key o s =
      (statusOf p key o.reading
          (s.exchange o.time (inspectCommands p key o.reading) Reply.ofCounts o.delivery).1,
        (s.exchange o.time (inspectCommands p key o.reading) Reply.ofCounts
          o.delivery).2) := by
  unfold inspect
  cases s.exchange o.time (inspectCommands p key o.reading) Reply.ofCounts o.delivery with
  | mk received t =>
      cases received with
      | error fault => rfl
      | ok reply =>
          unfold statusOf countOf
          dsimp only [Except.bind]
          cases Reply.count? reply with
          | error e => rfl
          | ok count => cases resetAt? p o.reading <;> rfl

/-- An inspection that is applied leaves the same store, whatever becomes of its reply. -/
theorem snd_inspect_cases (p : Policy) (key : String) (o : Occasion) (s : Store) :
    (inspect p key o s).2 = s ∨
      (inspect p key o s).2 =
        (inspect p key { reading := o.reading, time := o.time } s).2 := by
  rw [snd_inspect, snd_inspect]
  cases happlies : o.delivery.applies with
  | false =>
      rw [Store.exchange_of_not_applies happlies]
      exact Or.inl rfl
  | true =>
      rw [Store.snd_exchange_of_applies happlies, Store.snd_exchange_of_applies rfl]
      exact Or.inr rfl

theorem clear_eq (key : String) (o : Occasion) (s : Store) :
    clear key o s =
      (removedOf key (s.exchange o.time [.on key .delete] Reply.ofCount o.delivery).1,
        (s.exchange o.time [.on key .delete] Reply.ofCount o.delivery).2) := by
  unfold clear
  cases s.exchange o.time [.on key .delete] Reply.ofCount o.delivery with
  | mk received t => cases received <;> rfl

section Agreement

variable {s t : Store} {key : String}

theorem agreeOn_roundTrip (h : Table.get? s key = Table.get? t key) (p : Policy)
    (o : Occasion) : AgreeOn key (roundTrip p key o s) (roundTrip p key o t) := by
  unfold roundTrip
  cases o.delivery with
  | refused fault => exact ⟨rfl, h⟩
  | expired => exact ⟨rfl, h⟩
  | _ =>
      cases p.keyTtl? with
      | error e => exact ⟨rfl, h⟩
      | ok ttl => exact Store.agreeOn_exchange h _ (checkActions p _ ttl) _ _

theorem agreeOn_check (h : Table.get? s key = Table.get? t key) (p : Policy)
    (o : Occasion) : AgreeOn key (check p key o s) (check p key o t) := by
  cases hreset : resetAt? p o.reading with
  | error e =>
      rw [check_of_resetAt?_error hreset, check_of_resetAt?_error hreset]
      exact ⟨rfl, h⟩
  | ok resetAt =>
      rw [check_eq hreset, check_eq hreset]
      exact (agreeOn_roundTrip h p o).map fun received =>
        Except.ok (checkOf p resetAt (countOf received))

theorem agreeOn_inspect (h : Table.get? s key = Table.get? t key) (p : Policy)
    (o : Occasion) : AgreeOn key (inspect p key o s) (inspect p key o t) := by
  rw [inspect_eq, inspect_eq]
  exact (Store.agreeOn_exchange h o.time (inspectActions p o.reading) Reply.ofCounts
    o.delivery).map (statusOf p key o.reading)

theorem agreeOn_clear (h : Table.get? s key = Table.get? t key) (o : Occasion) :
    AgreeOn key (clear key o s) (clear key o t) := by
  rw [clear_eq, clear_eq]
  exact (Store.agreeOn_exchange h o.time [.delete] Reply.ofCount o.delivery).map
    (removedOf key)

end Agreement

section Seen

variable {p : Policy} {key : String} {o : Occasion} {s t : Store}

/-- A round trip whose trimming fails brings nothing, whatever the store holds. -/
theorem fst_exchange_of_trim_fails {limit : Int} {d : Delivery}
    (happlies : d.applies = true) (hlimit : Binary64.ofInt? limit = none) (now : Int)
    (key : String) (actions : List Action) (wrap : List Int → Json) (s : Store) :
    (s.exchange now ((.trim limit :: actions).map (.on key)) wrap d).1 =
      .error (.conversion .integerTooLarge) := by
  have htrim := Action.apply_trim_of_none hlimit now (Window.at? now (Table.get? s key))
  exact (Store.exchange_on_of_error happlies (Window.act_cons_of_error htrim actions) wrap).1

/-- Of the answers of the store the count alone is looked at. -/
theorem countOf_receive (d : Delivery) (a b count : Int) (rest more : List Int) :
    countOf (d.receive Reply.ofCounts (a :: count :: rest)) =
      countOf (d.receive Reply.ofCounts (b :: count :: more)) := by
  cases d <;> rfl

theorem statusOf_receive (d : Delivery) (reading a b count : Int) :
    statusOf p key reading (d.receive Reply.ofCounts [a, count]) =
      statusOf p key reading (d.receive Reply.ofCounts [b, count]) := by
  cases d <;> rfl

/-- What a check counts depends on what it has seen alone. -/
theorem countOf_roundTrip_eq_of_seen
    (hreset : (Binary64.ofInt? (o.reading + p.windowNs)).isSome = true)
    (h : seen p o (Table.get? s key) = seen p o (Table.get? t key)) :
    countOf (roundTrip p key o s).1 = countOf (roundTrip p key o t).1 := by
  cases happlies : o.delivery.applies with
  | false =>
      unfold roundTrip
      cases hd : o.delivery with
      | refused fault => rfl
      | expired => rfl
      | _ =>
          rw [hd] at happlies
          cases happlies
  | true =>
      cases httl : p.keyTtl? with
      | error e =>
          unfold roundTrip
          rw [httl]
          cases o.delivery <;> rfl
      | ok ttl =>
          cases hlimit : Binary64.ofInt? (o.reading - p.windowNs) with
          | none =>
              have hfails := fst_exchange_of_trim_fails happlies hlimit o.time key
                [.count, .add ⟨o.reading, o.token⟩, .expire ttl] Reply.ofCounts
              rw [roundTrip_of_applies happlies httl, roundTrip_of_applies happlies httl]
              exact congrArg countOf ((hfails s).trans (hfails t).symm)
          | some x =>
              have hfits : fits p o.reading = true :=
                fits_iff.mpr ⟨⟨ttl, httl⟩, by rw [hlimit]; rfl, hreset⟩
              obtain ⟨a, b, hs, -⟩ := countAndRecord_of_fits happlies httl hfits key s
              obtain ⟨c, d, ht, -⟩ := countAndRecord_of_fits happlies httl hfits key t
              rw [countAndRecord_eq] at hs ht
              rw [h] at hs
              exact hs.trans ((countOf_receive _ _ _ _ _ _).trans ht.symm)

/-- The outcome of a check depends on what it has seen alone. -/
theorem fst_check_eq_of_seen
    (h : seen p o (Table.get? s key) = seen p o (Table.get? t key)) :
    (check p key o s).1 = (check p key o t).1 := by
  cases hreset : resetAt? p o.reading with
  | error e => rw [check_of_resetAt?_error hreset, check_of_resetAt?_error hreset]
  | ok resetAt =>
      rw [check_eq hreset, check_eq hreset,
        countOf_roundTrip_eq_of_seen (isSome_of_resetAt?_eq_ok hreset) h]

/-- The outcome of an inspection depends on what it has seen alone. -/
theorem fst_inspect_eq_of_seen
    (h : seen p o (Table.get? s key) = seen p o (Table.get? t key)) :
    (inspect p key o s).1 = (inspect p key o t).1 := by
  rw [inspect_eq, inspect_eq]
  dsimp only
  cases happlies : o.delivery.applies with
  | false => rw [Store.exchange_of_not_applies happlies, Store.exchange_of_not_applies happlies]
  | true =>
      cases hlimit : Binary64.ofInt? (o.reading - p.windowNs) with
      | none =>
          rw [(exchange_inspectCommands_of_none happlies hlimit key s).1,
            (exchange_inspectCommands_of_none happlies hlimit key t).1]
      | some x =>
          have hsome : (Binary64.ofInt? (o.reading - p.windowNs)).isSome = true := by
            rw [hlimit]
            rfl
          obtain ⟨a, hs, -⟩ := exchange_inspectCommands happlies hsome key s
          obtain ⟨b, ht, -⟩ := exchange_inspectCommands happlies hsome key t
          rw [hs, ht, h]
          exact statusOf_receive _ _ _ _ _

end Seen

end Counter

end RateLimit
