import RateLimit.Proofs.Http.Layers
import RateLimit.Proofs.Text.Hex

/-!
# Records and the requests that they belong to

A request is served under an id: the one that the caller chose, if it has 1 to 128 characters,
or else a new one. Every record that is written while the request is served carries this id
unless it was given another one, and so does the record of a crash, which is written when the
id is no longer bound, `correlated_respond`. Between requests no id is bound, however they
ended. So the records of any run of requests can be told apart by their ids: `traceable_turns`.
-/

namespace RateLimit.Http

open Act Serve
open Replica (Logged WritesUnder emittedSince)

theorem issuedId_injective : Function.Injective issuedId := by
  intro m n h
  unfold issuedId at h
  rw [String.append_right_inj] at h
  exact Text.hex_injective 12 (String.ofList_injective h)

namespace Turn

variable {α : Type}

/-- The id that the request of a turn gets. -/
def id (t : Turn α) : String := t.request.idAt t.before

/-- Whether an id is made for the request of a turn. -/
def IsNew (t : Turn α) : Prop := question? t.request = none ∧ chosenId? t.request = none

/-- A turn in which the request gets the id that it should have. -/
structure Identified (t : Turn α) : Prop where
  /-- An id that the caller chose is taken over if it has 1 to 128 characters. -/
  chosen : ∀ given, t.request.header? idHeader = some given → 1 ≤ given.length →
    given.length ≤ 128 → t.id = given ∧ t.after.issuedIds = t.before.issuedIds
  /-- Otherwise a new one is made. -/
  issued : (¬∃ given, t.request.header? idHeader = some given ∧ 1 ≤ given.length ∧
      given.length ≤ 128) →
    t.id = issuedId (t.before.issuedIds + 1) ∧ t.after.issuedIds = t.before.issuedIds + 1

/-- A turn in which the request crashed. -/
structure AnswersCrash (t : Turn Response) (fault : Fault) : Prop where
  answer_eq : t.answer = crashResponse t.before.settings.debug fault t.id
  /-- The body tells the id. -/
  body_eq : ∃ members : List (String × Json),
    t.answer.body = Json.body (.object (members ++ [("request_id", .string t.id)]))
  /-- The record of the crash comes last. -/
  getLast?_eq : Log.isEnabled t.before.settings Log.error = true →
    (emittedSince t.before t.after).getLast? = some (crashRecord fault t.id)

/-- A turn in which each record that is emitted is written under the id of the request. -/
structure Correlated (t : Turn Response) : Prop extends t.Identified where
  /-- A record carries the id, unless it was given one of its own. -/
  written : WritesUnder (some t.id) t.before t.after
  /-- The answer has the id in a field, or it is that to a crash. -/
  answered : t.answer.header? idHeader = some t.id ∨ ∃ fault, t.AnswersCrash fault
  unbound : t.after.boundId = none

/-- A turn whose records can be told from those of any other request. -/
structure Traceable (t : Turn Response) : Prop where
  /-- Between requests no id is bound. -/
  idle : t.start.boundId = none ∧ t.before.boundId = none ∧ t.after.boundId = none
  /-- A record that is emitted meanwhile carries no id, unless it was given one. -/
  meanwhile : WritesUnder none t.start t.before
  served : question? t.request = none → t.Correlated
  /-- Nothing is written for the question of a browser. -/
  asked : question? t.request ≠ none → t.after = t.before

end Turn

section Respond

variable {app : App} {request : Request}

/-- The number of ids that were made tells whether the request got a new one. -/
theorem identified_of_issuedIds {α : Type} {t : Turn α}
    (h : t.after.issuedIds = ((requestId t.request).run t.before).2.issuedIds) :
    t.Identified where
  chosen given hgiven hpos hle := by
    have hrun := run_requestId_of_chosen (chosenId?_eq_some_iff.mpr ⟨hgiven, hpos, hle⟩) t.before
    exact ⟨congrArg Prod.fst hrun, h.trans (congrArg (fun served => served.2.issuedIds) hrun)⟩
  issued hnone := by
    have hchosen : chosenId? t.request = none := by
      rw [Option.eq_none_iff_forall_ne_some]
      exact fun given hgiven => hnone ⟨given, chosenId?_eq_some_iff.mp hgiven⟩
    have hrun := run_requestId_of_none hchosen t.before
    exact ⟨congrArg Prod.fst hrun, h.trans (congrArg (fun served => served.2.issuedIds) hrun)⟩

/-- A response that gets an id keeps it when it tells what its origin may do with it. -/
theorem header?_idHeader_sharedWith (response : Response) (id : String) (allowed : List String)
    (request : Request) :
    ((response.setHeader idHeader id).sharedWith allowed request).header? idHeader = some id := by
  have hfields : ∀ field ∈ sharedFields, idHeader.toLower ≠ field.toLower := by decide +kernel
  rw [Response.header?_sharedWith hfields, Response.header?_setHeader_self]

/-- The record of a crash has the id of its request, and so none has to be bound. -/
theorem writesUnder_crashRecord (fault : Fault) (id : String) (r : Replica) :
    WritesUnder (some id) r (r.withRecord (crashRecord fault id)) := by
  have hlogged := Logged.withRecord r (crashRecord fault id)
  have hid : ∀ record ∈ emittedSince r (r.withRecord (crashRecord fault id)),
      record.ownId? = some (.text id) := by
    intro record hrecord
    rw [Replica.emittedSince_of_append hlogged.emitted_eq] at hrecord
    rw [Replica.eq_of_mem_letThrough hrecord]
    rfl
  exact hlogged.writesUnder.of_ownId hid (some id)

/-- However a request ends, what is written for it carries its id, which is then no longer
bound. -/
theorem correlated_respond (houter : app.outerGuard = none) (hlogs : app.EndpointsLog)
    (hquestion : question? request = none) (start r : Replica) :
    Turn.Correlated
      ⟨start, r, request, ((app.respond request).run r).1, ((app.respond request).run r).2⟩ := by
  let id := request.idAt r
  obtain ⟨emitted, hlogged⟩ := hlogs.logs_limited (request.withId id) (request.servedOn r)
  cases hrun : on (app.limited (request.withId id)) (request.servedOn r) with
  | mk result r₁ =>
      rw [hrun] at hlogged
      have hsettings : r₁.settings = r.settings := hlogged.settings_eq
      have hserved : WritesUnder (some id) r (binding none r₁) :=
        ⟨hlogged.writesUnder.emitted_eq, hlogged.writesUnder.records_eq,
          hlogged.writesUnder.written⟩
      cases result with
      | ok response =>
          rw [App.run_respond_of_ok houter hquestion hrun]
          exact {
            toIdentified := identified_of_issuedIds hlogged.issuedIds_eq
            written := hserved
            answered := Or.inl (header?_idHeader_sharedWith response id _ request)
            unbound := rfl }
      | error crash =>
          rw [App.run_respond_of_error houter hquestion hrun]
          have hcrash := Logged.withRecord (binding none r₁) (crashRecord crash.fault id)
          refine {
            toIdentified := identified_of_issuedIds
              (hcrash.issuedIds_eq.trans hlogged.issuedIds_eq)
            written := hserved.trans (writesUnder_crashRecord crash.fault id _)
            answered := Or.inr ⟨crash.fault, by rw [hsettings]; rfl, ⟨_, rfl⟩, fun henabled => ?_⟩
            unbound := hcrash.boundId_eq }
          have hemitted : ((binding none r₁).withRecord (crashRecord crash.fault id)).emitted =
              r.emitted ++ (emitted ++ [crashRecord crash.fault id]) := by
            rw [hcrash.emitted_eq, ← List.append_assoc, Replica.letThrough,
              if_pos (by rw [← henabled, ← hsettings]; rfl)]
            exact congrArg (· ++ _) hlogged.emitted_eq
          have hlast : (emittedSince r
              ((binding none r₁).withRecord (crashRecord crash.fault id))).getLast? =
                some (crashRecord crash.fault id) := by
            rw [Replica.emittedSince_of_append hemitted, List.getLast?_concat]
          exact hlast

end Respond

section Run

variable {app : App} {r : Replica} {visit : Visit} {visits : List Visit}

/-- What happens between two requests carries no id. -/
theorem meanwhile_of_logs {x : Act Unit} (hx : x.Logs) (hidle : r.boundId = none) :
    (x.on r).2.boundId = none ∧ (x.on r).2.issuedIds = r.issuedIds ∧
      WritesUnder none r (x.on r).2 := by
  obtain ⟨emitted, hlogged⟩ := hx r
  exact ⟨hlogged.boundId_eq.trans hidle, hlogged.issuedIds_eq, hidle ▸ hlogged.writesUnder⟩

namespace Turn

variable {t : Turn Response}

theorem id_of_isNew {α : Type} {t : Turn α} (h : t.IsNew) :
    t.id = issuedId (t.before.issuedIds + 1) :=
  congrArg Prod.fst (run_requestId_of_none h.2 t.before)

/-- The number of ids never falls, and it grows with every new one. -/
theorem Traceable.issuedIds_le (h : t.Traceable) :
    t.before.issuedIds ≤ t.after.issuedIds ∧
      (t.IsNew → t.before.issuedIds < t.after.issuedIds) := by
  by_cases hquestion : question? t.request = none
  · have hserved := h.served hquestion
    by_cases hgiven : ∃ given, t.request.header? idHeader = some given ∧ 1 ≤ given.length ∧
        given.length ≤ 128
    · obtain ⟨given, hheader, hpos, hle⟩ := hgiven
      have hchosen := chosenId?_eq_some_iff.mpr ⟨hheader, hpos, hle⟩
      refine ⟨(hserved.chosen given hheader hpos hle).2.ge, fun hnew => ?_⟩
      exact nomatch hnew.2.symm.trans hchosen
    · have hissued := (hserved.issued hgiven).2
      omega
  · rw [h.asked hquestion]
    exact ⟨le_rfl, fun hnew => absurd hnew.1 hquestion⟩

end Turn

/-- One visit leaves no id bound, and all that it writes can be traced. -/
theorem traceable_turn (houter : app.outerGuard = none) (hlogs : app.EndpointsLog)
    (hmeanwhile : visit.meanwhile.Logs) (hidle : r.boundId = none) :
    (visit.turn app.respond r).Traceable := by
  obtain ⟨hbefore, -, hwritten⟩ := meanwhile_of_logs hmeanwhile hidle
  cases hquestion : question? visit.request with
  | none =>
      have hserved := correlated_respond houter hlogs hquestion r (visit.meanwhile.on r).2
      exact {
        idle := ⟨hidle, hbefore, hserved.unbound⟩
        meanwhile := hwritten
        served := fun _ => hserved
        asked := fun hasked => absurd hquestion hasked }
  | some question =>
      have hleft := App.run_respond_of_question houter hquestion (visit.meanwhile.on r).2
      exact {
        idle := ⟨hidle, hbefore, (congrArg (·.2.boundId) hleft).trans hbefore⟩
        meanwhile := hwritten
        served := fun hnone => nomatch hquestion.symm.trans hnone
        asked := fun _ => congrArg Prod.snd hleft }

section Turns

variable (houter : app.outerGuard = none) (hlogs : app.EndpointsLog)
  (hmeanwhile : ∀ visit ∈ visits, visit.meanwhile.Logs) (hidle : r.boundId = none)

include houter hlogs hmeanwhile hidle

/-- The number of ids that were made carries over from one request to the next. -/
theorem traceable_of_mem_turns :
    ∀ t ∈ turns app.respond r visits, t.Traceable ∧ r.issuedIds ≤ t.before.issuedIds := by
  induction visits generalizing r with
  | nil => exact fun t ht => nomatch ht
  | cons visit rest ih =>
      intro t ht
      have hvisit := hmeanwhile visit List.mem_cons_self
      have hfirst := traceable_turn houter hlogs hvisit hidle
      have hcount : r.issuedIds = (visit.turn app.respond r).before.issuedIds :=
        (meanwhile_of_logs hvisit hidle).2.1.symm
      rcases List.mem_cons.mp ht with rfl | hlater
      · exact ⟨hfirst, hcount.le⟩
      · obtain ⟨htraceable, hle⟩ := ih (fun v hv => hmeanwhile v (List.mem_cons_of_mem _ hv))
          hfirst.idle.2.2 t hlater
        exact ⟨htraceable, hcount.le.trans (hfirst.issuedIds_le.1.trans hle)⟩

end Turns

end Run

section Mixed

/-- An endpoint that writes two records, one with an id of its own. -/
def notedRoute : Route where
  methods := ["GET"]
  path := "/noted"
  endpoint := fun _ _ => do
    Replica.log { level := Log.info, logger := Replica.appLogger, message := "Noted" }
    Replica.log {
      level := Log.info, logger := Replica.appLogger, message := "Noted for another one",
      attributes := [("request_id", .text "another")] }
    return .json 200 (.object [("success", .bool true)])

def brokenRoute : Route where
  methods := ["GET"]
  path := "/broken"
  endpoint := fun _ _ => throw (.runtime "broken")

/-- A request that chose its id, one with an id that is too long and that crashes, and one
without any. -/
def mixedVisits : List Visit := [
  { request := { path := "/noted", headers := [("X-Request-ID", "abc")] } },
  { request := {
      path := "/broken"
      headers := [("X-Request-ID", String.ofList (List.replicate 129 'x'))] }
    meanwhile :=
      Replica.log { level := Log.info, logger := Replica.appLogger, message := "Idle" } },
  { request := { path := "/health" } }]

/-- The ids that visits get in an application once it is built. -/
def idsIn (visits : List Visit) : Except Fault App × Replica → List String
  | (.ok app, r) => (turns app.respond r visits).map Turn.id
  | (.error _, _) => []

end Mixed

end RateLimit.Http
