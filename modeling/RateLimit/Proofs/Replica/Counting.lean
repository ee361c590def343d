import RateLimit.Proofs.Counter.RoundTrip
import RateLimit.Proofs.Replica.Act

/-!
# Counting on a replica is counting

What a replica does when it counts is `Counter.check` at the `Occasion` that it meets:
its clock is read, and a client that fails, or a timeout, decides what becomes of the
round trip, `deliveryOf`. `checkThrough_on` says what a check yields and leaves for any
way to make a round trip that does not touch what counting is about. An inspection
leaves the store as `Counter.inspect` does, `store_inspect`.
-/

namespace RateLimit

open Number (Binary64)

/-- What becomes of a round trip under a timeout, when the client does as `outcome`
says. -/
def deliveryOf (timeout : Timeout) (pace : Pace) (outcome : Except Fault Delivery) : Delivery :=
  if timeout.isUp then .expired
  else
    match timeout.seconds?, outcome with
    | .error e, _ => .refused (.conversion e)
    | .ok _, .error fault => .refused fault
    | .ok x, .ok delivery => if x = .nan then delivery.unwaited pace else delivery

theorem applies_deliveryOf_error (timeout : Timeout) (pace : Pace) (fault : Fault) :
    (deliveryOf timeout pace (.error fault)).applies = false := by
  unfold deliveryOf
  split_ifs
  · rfl
  · cases timeout.seconds? <;> rfl

namespace Replica

open Act Counter

/-- The replica once its clock is read. -/
def ticked (r : Replica) : Replica :=
  { r with clock := { r.clock with now := r.clock.now + r.clock.tick } }

/-- The replica once a token is drawn. -/
def drawn (r : Replica) : Replica := { r with issuedTokens := r.issuedTokens + 1 }

@[simp] theorem issuedTokens_ticked (r : Replica) :
    r.ticked.issuedTokens = r.issuedTokens := rfl

@[simp] theorem on_readClock (r : Replica) : readClock.on r = (.ok r.clock.now, r.ticked) := rfl

@[simp] theorem on_freshToken (r : Replica) :
    freshToken.on r = (.ok r.issuedTokens, r.drawn) := rfl

@[simp] theorem on_applyToStore {α : Type} (operation : Store → α × Store) (r : Replica) :
    (applyToStore operation).on r =
      (.ok (operation r.store).1, { r with store := (operation r.store).2 }) := rfl

@[simp] theorem on_log (record : Log.Record) (r : Replica) :
    (log record).on r = (.ok (), r.withRecord record) := rfl

/-- Giving up a round trip changes what becomes of it, but not what the client does. -/
theorem on_unwaited (trip : Act Delivery) (r : Replica) :
    (unwaited trip).on r =
      ((trip.on r).1.map (Delivery.unwaited r.pace), (trip.on r).2) := by
  unfold unwaited
  rw [on_bind_of_ok r (on_get r), on_bind]
  cases trip.on r with
  | mk outcome r' => cases outcome <;> rfl

/-- Under a timeout a round trip is made as it would be without, or not at all. -/
theorem snd_on_within (timeout : Timeout) (trip : Act Delivery) (r : Replica) :
    ((within timeout trip).on r).2 = r ∨
      ((within timeout trip).on r).2 = (trip.on r).2 := by
  unfold within
  split_ifs
  · exact Or.inl rfl
  · cases timeout.seconds? with
    | error e => exact Or.inl rfl
    | ok x =>
        dsimp only
        split_ifs
        · exact Or.inr (by rw [on_unwaited])
        · exact Or.inr rfl

/-- Whatever the client does, the round trip of a check comes to a delivery. -/
theorem on_checkDelivery (timeout : Timeout) {trip : Act Delivery} (htrip : trip.Aside)
    (r : Replica) :
    ∃ r', (checkDelivery timeout trip).on r =
        (.ok (deliveryOf timeout r.pace (trip.on r).1), r') ∧
      Beside r r' := by
  unfold checkDelivery within deliveryOf
  split_ifs with hup
  · exact ⟨r, rfl, Beside.refl r⟩
  · cases timeout.seconds? with
    | error e => exact ⟨r, rfl, Beside.refl r⟩
    | ok x =>
        have hbeside := htrip r
        dsimp only
        cases h : trip.on r with
        | mk outcome r' =>
            rw [h] at hbeside
            refine ⟨r', ?_, hbeside⟩
            cases outcome with
            | ok delivery =>
                dsimp only
                split_ifs
                · rw [on_unwaited, on_tryCatch, h]
                  rfl
                · rw [on_tryCatch, h]
            | error fault =>
                dsimp only
                split_ifs
                · rw [on_unwaited, on_tryCatch, h]
                  exact congrArg (fun d => (Except.ok d, r'))
                    (Delivery.unwaited_refused r.pace fault)
                · rw [on_tryCatch, h]
                  rfl

/-- What a check on a replica meets. -/
def occasionOf (timeout : Timeout) (trip : Entry → Act Delivery) (r : Replica) : Occasion where
  reading := r.clock.now
  time := r.clock.now + r.clock.tick
  delivery :=
    deliveryOf timeout r.pace ((trip ⟨r.clock.now, r.issuedTokens⟩).on r.ticked.drawn).1
  token := r.issuedTokens

/-- What a check adds to the records of the counter: a record of what degraded it, if
anything did and the record is let through. -/
def reported (r : Replica) (p : Policy) (key : String) : Option Fault → List Log.Record
  | none => []
  | some fault =>
      if Log.isEnabled r.settings Log.error then
        [(degradedRecord p key fault).withContext r.boundId]
      else []

/-- A check on a replica yields a decision, leaves the store as `Counter.check` does, and
reports what degraded it. -/
theorem on_checkThrough {timeout : Timeout} {trip : Entry → Act Delivery}
    (htrip : ∀ entry, (trip entry).Aside) {p : Policy} {r : Replica} {resetAt : Binary64}
    (hreset : resetAt? p r.clock.now = .ok resetAt) (key : String) :
    let o := occasionOf timeout trip r
    let c := checkOf p resetAt (countOf (roundTrip p key o r.store).1)
    ∃ r', (checkThrough timeout trip p key).on r = (.ok c.decision, r') ∧
      r'.store = (roundTrip p key o r.store).2 ∧ r'.clock = r.ticked.clock ∧
      r'.counterRecords = r.counterRecords ++ reported r p key c.cause := by
  intro o c
  obtain ⟨r₁, hdelivery, hbeside⟩ :=
    on_checkDelivery timeout (htrip ⟨r.clock.now, r.issuedTokens⟩) r.ticked.drawn
  rw [show deliveryOf timeout r.ticked.drawn.pace _ = o.delivery from rfl] at hdelivery
  have hmet : (⟨r.clock.now, r₁.clock.now, o.delivery, r.issuedTokens⟩ : Occasion) = o := by
    rw [hbeside.clock_eq]
    rfl
  have hreset' : resetAt? p o.reading = .ok resetAt := hreset
  have hcheck : Counter.check p key o r₁.store = (.ok c, (roundTrip p key o r.store).2) := by
    rw [hbeside.store_eq]
    exact check_eq hreset' key r.store
  let r₂ : Replica := { r₁ with store := (roundTrip p key o r.store).2 }
  have happly : (applyToStore (Counter.check p key o)).on r₁ = (.ok (.ok c), r₂) := by
    rw [on_applyToStore, hcheck]
  have hrecords : r₂.counterRecords = r.counterRecords := hbeside.counterRecords_eq
  unfold checkThrough
  rw [on_bind_of_ok r (on_readClock r)]
  dsimp only
  rw [hreset]
  dsimp only
  rw [on_bind_of_ok _ (on_freshToken _), issuedTokens_ticked, on_bind_of_ok _ hdelivery,
    on_bind_of_ok _ (on_get _), hmet, on_bind_of_ok _ happly]
  dsimp only
  cases hcause : c.cause with
  | none => exact ⟨r₂, rfl, rfl, hbeside.clock_eq, by rw [hrecords, reported, List.append_nil]⟩
  | some fault =>
      refine ⟨r₂.withRecord (degradedRecord p key fault), rfl, ?_, ?_, ?_⟩
      · rw [store_withRecord]
      · rw [clock_withRecord]
        exact hbeside.clock_eq
      · have hsettings : r₂.settings = r.settings := hbeside.settings_eq
        have hbound : r₂.boundId = r.boundId := hbeside.boundId_eq
        rw [counterRecords_withRecord rfl, hrecords, hsettings, hbound]
        rfl

/-- With the client of the replica, a check is `Counter.check` at the reading of the clock. -/
theorem exists_on_check (timeout : Timeout) {p : Policy} {r : Replica} {resetAt : Binary64}
    (hreset : resetAt? p r.clock.now = .ok resetAt) (key : String) :
    ∃ o result r', o.reading = r.clock.now ∧
      Counter.check p key o r.store = (.ok result, r'.store) ∧
      (check timeout p key).on r = (.ok result.decision, r') ∧
      r'.clock = r.ticked.clock ∧ result.decision.resetAt = resetAt := by
  let o := occasionOf timeout (checkTrip p key) r
  have hreset' : resetAt? p o.reading = .ok resetAt := hreset
  have hcheck := check_eq hreset' key r.store
  obtain ⟨r', hrun, hstore, hclock, -⟩ := on_checkThrough (aside_checkTrip p key) hreset key
  rw [← hstore] at hcheck
  exact ⟨o, _, r', rfl, hcheck, hrun, hclock, resetAt_checkOf p resetAt _⟩

theorem aside_within (timeout : Timeout) {trip : Act Delivery} (htrip : trip.Aside) :
    (within timeout trip).Aside := by
  intro r
  rcases snd_on_within timeout trip r with h | h <;> rw [h]
  · exact Beside.refl r
  · exact htrip r

/-- An inspection on a replica leaves the store alone, or it leaves it as the inspection
at the reading of the clock does that is applied. -/
theorem store_inspect (timeout : Timeout) (p : Policy) (key : String) (r : Replica) :
    ((inspect timeout p key).on r).2.store = r.store ∨
      ((inspect timeout p key).on r).2.store =
        (Counter.inspect p key
          { reading := r.clock.now, time := r.clock.now + r.clock.tick } r.store).2 := by
  unfold inspect
  rw [on_bind_of_ok r (on_readClock r)]
  rcases aside_countingClient.on_bind_cases _ r.ticked with
    ⟨fault, r₁, h₁, hrun⟩ | ⟨client, r₁, h₁, hrun⟩
  · rw [hrun]
    exact Or.inl h₁.store_eq
  rw [hrun]
  rcases (aside_openTrip client).on_bind_cases _ r₁ with
    ⟨fault, r₂, h₂, hrun⟩ | ⟨⟨⟩, r₂, h₂, hrun⟩
  · rw [hrun]
    exact Or.inl (h₁.trans h₂).store_eq
  rw [hrun]
  rcases (aside_within timeout (aside_dispatch client _)).on_bind_cases _ r₂ with
    ⟨fault, r₃, h₃, hrun⟩ | ⟨delivery, r₃, h₃, hrun⟩
  · rw [hrun]
    exact Or.inl ((h₁.trans h₂).trans h₃).store_eq
  have hbeside := (h₁.trans h₂).trans h₃
  rw [hrun, on_bind_of_ok _ (on_get _), on_bind_of_ok _ (on_applyToStore _ _), on_mk_pure,
    hbeside.store_eq, hbeside.clock_eq]
  exact snd_inspect_cases p key _ r.store

end Replica

end RateLimit
