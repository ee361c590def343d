import RateLimit.Proofs.Replica.Act

/-!
# What counting leaves to the log

The log, the id that is bound to it and the number of ids that were made are the `Trail` of a
replica. An act is `Steady` if it only ever adds records to the trail, each with the id that
is bound, `Logged.writesUnder`, and if neither the trail nor anything that was served before has
a say in what else it does. Everything that counting and its administration are made of is
steady, so two replicas that differ in their trails alone, `Alike`, count alike,
`Steady.on_alike`.
-/

namespace RateLimit

variable {α β : Type}

/-- A log, the id that is bound to it, and how many ids were made. -/
structure Trail where
  emitted : List Log.Record
  records : List Log.Record
  boundId : Option String
  issuedIds : Nat

namespace Trail

/-- The trail with more records, each of them written with its context fields. -/
def add (t : Trail) (emitted : List Log.Record) : Trail :=
  { t with
    emitted := t.emitted ++ emitted
    records := t.records ++ emitted.map (Log.Record.withContext t.boundId) }

variable (t : Trail) (emitted more : List Log.Record)

@[simp] theorem add_nil : t.add [] = t := by simp [add]

@[simp] theorem add_add : (t.add emitted).add more = t.add (emitted ++ more) := by simp [add]

end Trail

namespace Replica

def trail (r : Replica) : Trail := ⟨r.emitted, r.records, r.boundId, r.issuedIds⟩

def withTrail (t : Trail) (r : Replica) : Replica :=
  { r with
    emitted := t.emitted
    records := t.records
    boundId := t.boundId
    issuedIds := t.issuedIds }

/-- The replica with another log: the records as they were emitted, and as they are written. -/
def relogged (log : List Log.Record × List Log.Record) (r : Replica) : Replica :=
  { r with emitted := log.1, records := log.2 }

/-- The records of a replica that are let through. -/
def letThrough (r : Replica) (record : Log.Record) : List Log.Record :=
  if Log.isEnabled r.settings record.level then [record] else []

theorem eq_of_mem_letThrough {r : Replica} {record other : Log.Record}
    (h : other ∈ r.letThrough record) : other = record := by
  unfold letThrough at h
  split_ifs at h
  · exact List.mem_singleton.mp h
  · cases h

section Trails

variable (t u : Trail) (r : Replica) (record : Log.Record)

@[simp] theorem withTrail_trail : r.withTrail r.trail = r := rfl

theorem withRecord_eq_withTrail :
    r.withRecord record = r.withTrail (r.trail.add (r.letThrough record)) := by
  unfold withRecord letThrough
  split_ifs
  · rfl
  · rw [Trail.add_nil, withTrail_trail]

end Trails

/-- A second replica that differs from the first in its trail alone. -/
def Alike (r r' : Replica) : Prop := ∃ t, r' = r.withTrail t

namespace Alike

variable {r r' r'' : Replica}

theorem refl (r : Replica) : Alike r r := ⟨r.trail, rfl⟩

theorem symm (h : Alike r r') : Alike r' r := by
  obtain ⟨t, rfl⟩ := h
  exact ⟨r.trail, rfl⟩

theorem trans (h : Alike r r') (h' : Alike r' r'') : Alike r r'' := by
  obtain ⟨t, rfl⟩ := h
  obtain ⟨u, rfl⟩ := h'
  exact ⟨u, rfl⟩

theorem withRecord (r : Replica) (record : Log.Record) : Alike r (r.withRecord record) :=
  ⟨_, withRecord_eq_withTrail r record⟩

theorem settings_eq (h : Alike r r') : r'.settings = r.settings := by
  obtain ⟨t, rfl⟩ := h
  rfl

theorem store_eq (h : Alike r r') : r'.store = r.store := by
  obtain ⟨t, rfl⟩ := h
  rfl

theorem sent_eq (h : Alike r r') : r'.sent = r.sent := by
  obtain ⟨t, rfl⟩ := h
  rfl

end Alike

/-- The records that a replica emitted since it was another one. -/
def emittedSince (r r' : Replica) : List Log.Record := r'.emitted.drop r.emitted.length

/-- The records that a replica wrote since it was another one. -/
def writtenSince (r r' : Replica) : List Log.Record := r'.records.drop r.records.length

/-- What comes of a replica that adds to its log, and that writes each of the records that it
emits under an id, or under none. -/
structure WritesUnder (bound : Option String) (r r' : Replica) : Prop where
  emitted_eq : r'.emitted = r.emitted ++ emittedSince r r'
  records_eq : r'.records = r.records ++ writtenSince r r'
  written : List.Forall₂ (Log.Record.WrittenUnder bound) (emittedSince r r') (writtenSince r r')

/-- What comes of a replica that logged some records. -/
structure Logged (r : Replica) (emitted : List Log.Record) (r' : Replica) : Prop where
  settings_eq : r'.settings = r.settings
  trail_eq : r'.trail = r.trail.add emitted

namespace Logged

variable {r r' r'' : Replica} {emitted more : List Log.Record}

theorem refl (r : Replica) : Logged r [] r := ⟨rfl, (Trail.add_nil _).symm⟩

theorem trans (h : Logged r emitted r') (h' : Logged r' more r'') :
    Logged r (emitted ++ more) r'' where
  settings_eq := h'.settings_eq.trans h.settings_eq
  trail_eq := by rw [h'.trail_eq, h.trail_eq, Trail.add_add]

theorem emitted_eq (h : Logged r emitted r') : r'.emitted = r.emitted ++ emitted :=
  congrArg Trail.emitted h.trail_eq

theorem records_eq (h : Logged r emitted r') :
    r'.records = r.records ++ emitted.map (Log.Record.withContext r.boundId) :=
  congrArg Trail.records h.trail_eq

theorem boundId_eq (h : Logged r emitted r') : r'.boundId = r.boundId :=
  congrArg Trail.boundId h.trail_eq

theorem issuedIds_eq (h : Logged r emitted r') : r'.issuedIds = r.issuedIds :=
  congrArg Trail.issuedIds h.trail_eq

theorem withRecord (r : Replica) (record : Log.Record) :
    Logged r (r.letThrough record) (r.withRecord record) := by
  rw [withRecord_eq_withTrail]
  exact ⟨rfl, rfl⟩

end Logged

theorem emittedSince_of_append {r r' : Replica} {emitted : List Log.Record}
    (h : r'.emitted = r.emitted ++ emitted) : emittedSince r r' = emitted := by
  rw [emittedSince, h, List.drop_left]

namespace WritesUnder

variable {r r' r'' : Replica} {bound : Option String} {emitted written : List Log.Record}

theorem of_append (hemitted : r'.emitted = r.emitted ++ emitted)
    (hrecords : r'.records = r.records ++ written)
    (h : List.Forall₂ (Log.Record.WrittenUnder bound) emitted written) :
    WritesUnder bound r r' := by
  have hsince := emittedSince_of_append hemitted
  have hsince' : writtenSince r r' = written := by rw [writtenSince, hrecords, List.drop_left]
  exact ⟨by rw [hsince, hemitted], by rw [hsince', hrecords], by rw [hsince, hsince']; exact h⟩

theorem trans (h : WritesUnder bound r r') (h' : WritesUnder bound r' r'') :
    WritesUnder bound r r'' := by
  refine of_append ?_ ?_ (List.rel_append h.written h'.written)
  · rw [h'.emitted_eq, h.emitted_eq, List.append_assoc]
  · rw [h'.records_eq, h.records_eq, List.append_assoc]

/-- Records that have ids of their own are written in the same way whatever is bound. -/
theorem of_ownId (h : WritesUnder bound r r') {v : Log.Value}
    (hown : ∀ record ∈ emittedSince r r', record.ownId? = some v) (other : Option String) :
    WritesUnder other r r' where
  emitted_eq := h.emitted_eq
  records_eq := h.records_eq
  written := ((List.forall₂_and_left _ _).mpr ⟨hown, h.written⟩).imp
    fun _ _ hw => hw.2.of_ownId hw.1

end WritesUnder

/-- What is logged is written under the id that is bound. -/
theorem Logged.writesUnder {r r' : Replica} {emitted : List Log.Record}
    (h : Logged r emitted r') : WritesUnder r.boundId r r' := by
  refine .of_append h.emitted_eq h.records_eq (List.forall₂_map_right_iff.mpr ?_)
  exact List.forall₂_same.mpr fun record _ => Log.Record.writtenUnder_withContext _ record

end Replica

namespace Act

open Replica (Alike Logged)

/-- An act that does nothing to the trail but to add records to it. -/
def Logs (x : Act α) : Prop := ∀ r, ∃ emitted, Logged r emitted (x.on r).2

/-- An act that only adds to the trail, whatever it is, and does the same under every
trail. -/
def Steady (x : Act α) : Prop :=
  ∀ r : Replica, ∃ (result : Except Fault α) (r' : Replica) (emitted : List Log.Record),
    r'.settings = r.settings ∧
      ∀ t : Trail, x.on (r.withTrail t) = (result, r'.withTrail (t.add emitted))

/-- An act that does not read the log. -/
def Blind (x : Act α) : Prop :=
  ∀ (r : Replica) (log : List Log.Record × List Log.Record), ∃ log',
    x.on (r.relogged log) = ((x.on r).1, (x.on r).2.relogged log')

namespace Steady

variable {x : Act α} {f : α → Act β}

theorem logs (h : Steady x) : Logs x := by
  intro r
  obtain ⟨result, r', emitted, hsettings, hrun⟩ := h r
  exact ⟨emitted, by rw [← r.withTrail_trail, hrun]; exact ⟨hsettings, rfl⟩⟩

/-- On replicas that differ in their trails alone, a steady act yields the same. -/
theorem on_alike (h : Steady x) {r r' : Replica} (hr : Alike r r') :
    ∃ result s s', x.on r = (result, s) ∧ x.on r' = (result, s') ∧ Alike s s' ∧
      s.settings = r.settings := by
  obtain ⟨t, rfl⟩ := hr
  obtain ⟨result, s, emitted, hsettings, hrun⟩ := h r
  have hown := hrun r.trail
  rw [r.withTrail_trail] at hown
  exact ⟨result, _, _, hown, hrun t, ⟨_, rfl⟩, hsettings⟩

theorem blind (h : Steady x) : Blind x := by
  intro r log
  obtain ⟨result, r', emitted, -, hrun⟩ := h r
  have hown := hrun r.trail
  rw [r.withTrail_trail] at hown
  rw [hown]
  let t : Trail := { r.trail with emitted := log.1, records := log.2 }
  exact ⟨((t.add emitted).emitted, (t.add emitted).records), hrun t⟩

/-- An act that logs nothing is steady if it treats all trails alike. -/
theorem of_silent (hsettings : ∀ r, (x.on r).2.settings = r.settings)
    (h : ∀ r t, x.on (r.withTrail t) = ((x.on r).1, (x.on r).2.withTrail t)) : Steady x :=
  fun r => ⟨_, _, [], hsettings r, fun t => by rw [h, Trail.add_nil]⟩

theorem bind (hx : Steady x) (hf : ∀ a, Steady (f a)) : Steady (x >>= f) := by
  intro r
  obtain ⟨result, r', emitted, hsettings, hfirst⟩ := hx r
  cases result with
  | error fault =>
      exact ⟨.error fault, r', emitted, hsettings, fun t => on_bind_of_error _ (hfirst t) f⟩
  | ok a =>
      obtain ⟨result, r'', more, hsettings', hnext⟩ := hf a r'
      refine ⟨result, r'', emitted ++ more, hsettings'.trans hsettings, fun t => ?_⟩
      rw [on_bind_of_ok _ (hfirst t), hnext, Trail.add_add]

theorem tryCatch {f : Fault → Act α} (hx : Steady x) (hf : ∀ fault, Steady (f fault)) :
    Steady (tryCatch x f) := by
  intro r
  obtain ⟨result, r', emitted, hsettings, hfirst⟩ := hx r
  cases result with
  | ok a =>
      refine ⟨.ok a, r', emitted, hsettings, fun t => ?_⟩
      rw [on_tryCatch, hfirst]
  | error fault =>
      obtain ⟨result, r'', more, hsettings', hnext⟩ := hf fault r'
      refine ⟨result, r'', emitted ++ more, hsettings'.trans hsettings, fun t => ?_⟩
      rw [on_tryCatch, hfirst]
      exact (hnext _).trans (by rw [Trail.add_add])

end Steady

theorem steady_pure (a : α) : Steady (pure a : Act α) := .of_silent (fun _ => rfl) fun _ _ => rfl

theorem steady_throw (fault : Fault) : Steady (throw fault : Act α) :=
  .of_silent (fun _ => rfl) fun _ _ => rfl

theorem steady_mk_pure (result : Except Fault α) : Steady (ExceptT.mk (pure result) : Act α) :=
  .of_silent (fun _ => rfl) fun _ _ => rfl

theorem steady_forM {f : α → Act Unit} (hf : ∀ a, Steady (f a)) (l : List α) :
    Steady (l.forM f) := by
  induction l with
  | nil => exact steady_pure _
  | cons a rest ih => exact (hf a).bind fun _ => ih

/-- An act may look at the replica as long as it does not look at its trail. -/
theorem steady_get_bind {f : Replica → Act α} (hf : ∀ r, Steady (f r))
    (htrail : ∀ r t, f (r.withTrail t) = f r) : Steady (get >>= f) := by
  intro r
  obtain ⟨result, r', emitted, hsettings, hrun⟩ := hf r r
  refine ⟨result, r', emitted, hsettings, fun t => ?_⟩
  rw [on_bind_of_ok _ (on_get _), htrail, hrun]

theorem steady_log (record : Log.Record) : Steady (Replica.log record) := by
  intro r
  refine ⟨.ok (), r, r.letThrough record, rfl, fun t => ?_⟩
  exact congrArg (Prod.mk _) (Replica.withRecord_eq_withTrail (r.withTrail t) record)

end Act

namespace Replica

open Act

theorem steady_note (sent : List Sent) : Steady (note sent) :=
  .of_silent (fun _ => rfl) fun _ _ => rfl

theorem steady_nextDelivery : Steady nextDelivery := .of_silent (fun _ => rfl) fun _ _ => rfl

theorem steady_readClock : Steady readClock := .of_silent (fun _ => rfl) fun _ _ => rfl

theorem steady_freshToken : Steady freshToken := .of_silent (fun _ => rfl) fun _ _ => rfl

theorem steady_applyToStore (operation : Store → α × Store) : Steady (applyToStore operation) :=
  .of_silent (fun _ => rfl) fun _ _ => rfl

theorem steady_dispatch (client : Client) (commands : List Command) :
    Steady (dispatch client commands) := by
  cases client with
  | shared => exact (steady_note _).bind fun _ => steady_nextDelivery
  | elsewhere connection => exact steady_pure _

theorem steady_openTrip (client : Client) : Steady (openTrip client) := by
  cases client with
  | shared => exact steady_note _
  | elsewhere connection => exact steady_pure _

theorem steady_connect (url : Option String)
    (socketTimeout connectTimeout : Option Number.Binary64) :
    Steady (connect url socketTimeout connectTimeout) := by
  refine .of_silent (fun r => ?_) fun r t => ?_
  · unfold connect
    rw [on_bind_of_ok _ (on_get _)]
    dsimp only
    cases Address.read? ((url.filter (· ≠ "")).getD r.settings.storeUrl) <;> rfl
  · unfold connect withTrail
    rw [on_bind_of_ok _ (on_get _), on_bind_of_ok _ (on_get _)]
    dsimp only
    cases Address.read? ((url.filter (· ≠ "")).getD r.settings.storeUrl) <;> rfl

theorem steady_makeClient : Steady makeClient := by
  refine (steady_connect none none none).bind fun connection => ?_
  refine Steady.bind (.of_silent (fun _ => rfl) fun _ _ => rfl) fun _ => ?_
  refine steady_get_bind (fun r => ?_) fun _ _ => rfl
  cases Address.redact? r.settings.storeUrl with
  | error e => exact steady_throw _
  | ok url => exact (steady_log _).bind fun _ => steady_pure _

theorem steady_processClient : Steady processClient := by
  refine steady_get_bind (fun r => ?_) fun _ _ => rfl
  cases r.client with
  | some client => exact steady_pure client
  | none => exact steady_makeClient

theorem steady_countingClient : Steady countingClient := by
  refine steady_get_bind (fun r => ?_) fun _ _ => rfl
  cases r.counterClient with
  | some client => exact steady_pure client
  | none =>
      refine steady_processClient.bind fun _ => Steady.bind ?_ fun _ => steady_pure _
      exact .of_silent (fun _ => rfl) fun _ _ => rfl

theorem steady_checkTrip (p : Policy) (key : String) (entry : Entry) :
    Steady (checkTrip p key entry) := by
  refine steady_countingClient.bind fun client => (steady_openTrip client).bind fun _ => ?_
  cases p.keyTtl? with
  | error e => exact steady_pure _
  | ok ttl => exact steady_dispatch client _

theorem steady_within (timeout : Timeout) {trip : Act Delivery} (htrip : Steady trip) :
    Steady (within timeout trip) := by
  unfold within
  split_ifs
  · exact steady_pure _
  · cases timeout.seconds? with
    | error e => exact steady_pure _
    | ok x =>
        dsimp only
        split_ifs
        · exact steady_get_bind (fun _ => htrip.bind fun _ => steady_pure _) fun _ _ => rfl
        · exact htrip

theorem steady_checkDelivery (timeout : Timeout) {trip : Act Delivery} (htrip : Steady trip) :
    Steady (checkDelivery timeout trip) :=
  steady_within timeout (htrip.tryCatch fun _ => steady_pure _)

theorem steady_check (timeout : Timeout) (p : Policy) (key : String) :
    Steady (check timeout p key) := by
  refine steady_readClock.bind fun reading => ?_
  cases Counter.resetAt? p reading with
  | error e => exact steady_throw _
  | ok resetAt =>
      refine steady_freshToken.bind fun token => ?_
      refine (steady_checkDelivery timeout (steady_checkTrip p key _)).bind fun delivery => ?_
      refine steady_get_bind (fun r => ?_) fun _ _ => rfl
      refine (steady_applyToStore _).bind fun outcome => ?_
      cases outcome with
      | error e => exact steady_throw _
      | ok result =>
          cases hcause : result.cause with
          | none => simpa [hcause] using steady_pure _
          | some fault => simpa [hcause] using (steady_log _).bind fun _ => steady_pure _

theorem steady_ping : Steady ping := by
  refine (steady_dispatch _ _).bind fun delivery => ?_
  refine steady_get_bind (fun r => ?_) fun _ _ => rfl
  refine (steady_applyToStore _).bind fun outcome => ?_
  cases outcome with
  | ok reply => exact steady_pure _
  | error fault =>
      cases hfault : fault.isStoreFault with
      | true => simpa [hfault] using (steady_log _).bind fun _ => steady_pure _
      | false => simpa [hfault] using steady_throw _

theorem steady_now : Steady now := by
  refine steady_readClock.bind fun reading => ?_
  cases Counter.secondsOf? reading with
  | ok x => exact steady_pure x
  | error e => exact steady_throw _

end Replica

end RateLimit
