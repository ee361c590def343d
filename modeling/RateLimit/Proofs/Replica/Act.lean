import RateLimit.Proofs.Log.Context
import RateLimit.Replica.Counting

/-!
# Acts, step by step

`Act.on x r` is what an act yields on a replica, together with the replica that it
leaves. The equations for sequencing and catching let a proof go through an act step by
step.

Most acts leave alone what counting is about. `Replica.Beside` relates two replicas with
the same clock, store and settings, and the same records of the counter; an act that
never does more than that is made `Aside`.
-/

namespace RateLimit

variable {α β : Type}

namespace Act

/-- What an act yields on a replica, and the replica that it leaves. -/
def on (x : Act α) (r : Replica) : Except Fault α × Replica := StateT.run (ExceptT.run x) r

section Equations

variable (r : Replica)

@[simp] theorem on_pure (a : α) : on (pure a) r = (.ok a, r) := rfl

@[simp] theorem on_throw (fault : Fault) : on (throw fault : Act α) r = (.error fault, r) := rfl

@[simp] theorem on_mk_pure (result : Except Fault α) :
    on (ExceptT.mk (pure result)) r = (result, r) := rfl

@[simp] theorem on_get : on get r = (.ok r, r) := rfl

@[simp] theorem on_modify (f : Replica → Replica) : on (modify f) r = (.ok (), f r) := rfl

theorem on_bind (x : Act α) (f : α → Act β) :
    on (x >>= f) r =
      match on x r with
      | (.ok a, r) => on (f a) r
      | (.error fault, r) => (.error fault, r) := by
  unfold on ExceptT.run StateT.run
  simp only [bind, ExceptT.bind, ExceptT.mk, ExceptT.bindCont, StateT.bind]
  cases x r with
  | mk result r' => cases result <;> rfl

theorem on_tryCatch (x : Act α) (f : Fault → Act α) :
    on (tryCatch x f) r =
      match on x r with
      | (.ok a, r) => (.ok a, r)
      | (.error fault, r) => on (f fault) r := by
  unfold on ExceptT.run StateT.run
  simp only [tryCatch, tryCatchThe, MonadExceptOf.tryCatch, ExceptT.tryCatch, ExceptT.mk, bind,
    StateT.bind]
  cases x r with
  | mk result r' => cases result <;> rfl

theorem on_bind_of_ok {x : Act α} {a : α} {r' : Replica} (h : on x r = (.ok a, r'))
    (f : α → Act β) : on (x >>= f) r = on (f a) r' := by
  rw [on_bind, h]

theorem on_bind_of_error {x : Act α} {fault : Fault} {r' : Replica}
    (h : on x r = (.error fault, r')) (f : α → Act β) : on (x >>= f) r = (.error fault, r') := by
  rw [on_bind, h]

/-- Two acts leave a replica that is related to the first one as each of them relates its
own, if the relation can be chained. -/
theorem related_bind {R : Replica → Replica → Prop}
    (htrans : ∀ {r r' r''}, R r r' → R r' r'' → R r r'') {x : Act α} {f : α → Act β}
    (hx : ∀ r, R r (on x r).2) (hf : ∀ a r, R r (on (f a) r).2) (r : Replica) :
    R r (on (x >>= f) r).2 := by
  have hfirst := hx r
  rw [on_bind]
  cases h : on x r with
  | mk result r' =>
      rw [h] at hfirst
      cases result with
      | error fault => exact hfirst
      | ok a => exact htrans hfirst (hf a r')

/-- An act that goes through has gone through step by step. -/
theorem on_bind_eq_ok {r : Replica} {x : Act α} {f : α → Act β} {b : β} {r' : Replica}
    (h : on (x >>= f) r = (.ok b, r')) :
    ∃ a r₁, on x r = (.ok a, r₁) ∧ on (f a) r₁ = (.ok b, r') := by
  cases hx : on x r with
  | mk result r₁ =>
      cases result with
      | error fault =>
          rw [on_bind_of_error r hx] at h
          cases h
      | ok a =>
          rw [on_bind_of_ok r hx] at h
          exact ⟨a, r₁, rfl, h⟩

end Equations

end Act

namespace Replica

/-- The records of the counter. -/
def counterRecords (r : Replica) : List Log.Record :=
  r.records.filter fun record => record.logger = counterLogger

/-- A second replica that counting cannot tell from the first. -/
structure Beside (r r' : Replica) : Prop where
  settings_eq : r'.settings = r.settings
  clock_eq : r'.clock = r.clock
  store_eq : r'.store = r.store
  boundId_eq : r'.boundId = r.boundId
  counterRecords_eq : r'.counterRecords = r.counterRecords

theorem Beside.refl (r : Replica) : Beside r r := ⟨rfl, rfl, rfl, rfl, rfl⟩

theorem Beside.trans {r r' r'' : Replica} (h : Beside r r') (h' : Beside r' r'') :
    Beside r r'' where
  settings_eq := h'.settings_eq.trans h.settings_eq
  clock_eq := h'.clock_eq.trans h.clock_eq
  store_eq := h'.store_eq.trans h.store_eq
  boundId_eq := h'.boundId_eq.trans h.boundId_eq
  counterRecords_eq := h'.counterRecords_eq.trans h.counterRecords_eq

@[simp] theorem store_withRecord (r : Replica) (record : Log.Record) :
    (r.withRecord record).store = r.store := by
  unfold withRecord
  split_ifs <;> rfl

@[simp] theorem clock_withRecord (r : Replica) (record : Log.Record) :
    (r.withRecord record).clock = r.clock := by
  unfold withRecord
  split_ifs <;> rfl

theorem counterRecords_withRecord_of_ne {record : Log.Record}
    (h : record.logger ≠ counterLogger) (r : Replica) :
    (r.withRecord record).counterRecords = r.counterRecords := by
  unfold withRecord counterRecords
  split_ifs <;> simp [h]

theorem counterRecords_withRecord {record : Log.Record} (h : record.logger = counterLogger)
    (r : Replica) :
    (r.withRecord record).counterRecords =
      r.counterRecords ++
        if Log.isEnabled r.settings record.level then [record.withContext r.boundId] else [] := by
  unfold withRecord counterRecords
  split_ifs <;> simp [h]

theorem beside_withRecord {record : Log.Record} (h : record.logger ≠ counterLogger)
    (r : Replica) : Beside r (r.withRecord record) := by
  have hrecords := counterRecords_withRecord_of_ne h r
  unfold withRecord at hrecords ⊢
  split_ifs at hrecords ⊢ <;> exact ⟨rfl, rfl, rfl, rfl, hrecords⟩

end Replica

namespace Act

/-- An act that counting does not notice. -/
def Aside (x : Act α) : Prop := ∀ r, Replica.Beside r (x.on r).2

theorem aside_pure (a : α) : Aside (pure a : Act α) := Replica.Beside.refl

theorem aside_throw (fault : Fault) : Aside (throw fault : Act α) := Replica.Beside.refl

theorem aside_get : Aside (get : Act Replica) := Replica.Beside.refl

theorem Aside.bind {x : Act α} {f : α → Act β} (hx : Aside x) (hf : ∀ a, Aside (f a)) :
    Aside (x >>= f) :=
  related_bind .trans hx hf

/-- After an act that counting does not notice, another one fails or starts beside. -/
theorem Aside.on_bind_cases {x : Act α} (hx : Aside x) (f : α → Act β) (r : Replica) :
    (∃ fault r', Replica.Beside r r' ∧ on (x >>= f) r = (.error fault, r')) ∨
      ∃ a r', Replica.Beside r r' ∧ on (x >>= f) r = on (f a) r' := by
  have hfirst := hx r
  rw [on_bind]
  cases h : x.on r with
  | mk result r' =>
      rw [h] at hfirst
      cases result with
      | error fault => exact Or.inl ⟨fault, r', hfirst, rfl⟩
      | ok a => exact Or.inr ⟨a, r', hfirst, rfl⟩

theorem Aside.tryCatch {x : Act α} {f : Fault → Act α} (hx : Aside x)
    (hf : ∀ fault, Aside (f fault)) : Aside (tryCatch x f) := by
  intro r
  have hfirst := hx r
  rw [on_tryCatch]
  cases h : x.on r with
  | mk result r' =>
      rw [h] at hfirst
      cases result with
      | error fault => exact hfirst.trans (hf fault r')
      | ok a => exact hfirst

theorem aside_log {record : Log.Record} (h : record.logger ≠ Replica.counterLogger) :
    Aside (Replica.log record) :=
  fun r => Replica.beside_withRecord h r

end Act

namespace Replica

open Act

theorem aside_note (sent : List Sent) : Aside (note sent) := fun _ => ⟨rfl, rfl, rfl, rfl, rfl⟩

theorem aside_nextDelivery : Aside nextDelivery := fun _ => ⟨rfl, rfl, rfl, rfl, rfl⟩

theorem aside_dispatch (client : Client) (commands : List Command) :
    Aside (dispatch client commands) := by
  cases client with
  | shared => exact (aside_note _).bind fun _ => aside_nextDelivery
  | elsewhere connection => exact aside_pure _

theorem aside_openTrip (client : Client) : Aside (openTrip client) := by
  cases client with
  | shared => exact aside_note _
  | elsewhere connection => exact aside_pure _

theorem aside_connect (url : Option String)
    (socketTimeout connectTimeout : Option Number.Binary64) :
    Aside (connect url socketTimeout connectTimeout) := by
  intro r
  unfold connect
  rw [on_bind_of_ok r (on_get r)]
  dsimp only
  cases Address.read? ((url.filter (· ≠ "")).getD r.settings.storeUrl) with
  | error e => exact Beside.refl r
  | ok address => exact ⟨rfl, rfl, rfl, rfl, rfl⟩

theorem clientLogger_ne : clientLogger ≠ counterLogger := by decide

theorem aside_makeClient : Aside makeClient := by
  refine (aside_connect none none none).bind fun connection => ?_
  refine Aside.bind (fun _ => ⟨rfl, rfl, rfl, rfl, rfl⟩) fun _ => ?_
  refine aside_get.bind fun r => ?_
  cases Address.redact? r.settings.storeUrl with
  | error e => exact aside_throw _
  | ok url => exact (aside_log clientLogger_ne).bind fun _ => aside_pure _

theorem aside_countingClient : Aside countingClient := by
  refine aside_get.bind fun r => ?_
  cases r.counterClient with
  | some client => exact aside_pure client
  | none =>
      have hprocess : Aside processClient := by
        refine aside_get.bind fun r => ?_
        cases r.client with
        | some client => exact aside_pure client
        | none => exact aside_makeClient
      exact hprocess.bind fun _ =>
        Aside.bind (fun _ => ⟨rfl, rfl, rfl, rfl, rfl⟩) fun _ => aside_pure _

theorem aside_checkTrip (p : Policy) (key : String) (entry : Entry) :
    Aside (checkTrip p key entry) := by
  refine aside_countingClient.bind fun client => (aside_openTrip client).bind fun _ => ?_
  cases p.keyTtl? with
  | error e => exact aside_pure _
  | ok ttl => exact aside_dispatch client _

end Replica

end RateLimit
