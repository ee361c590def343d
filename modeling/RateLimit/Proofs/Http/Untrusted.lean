import RateLimit.Proofs.Http.Layers
import RateLimit.Proofs.Http.Limits
import RateLimit.Proofs.Replica.Healthy

/-!
# What a request says of itself

The header fields of a request are written by whoever sends it. A limiter that distrusts
proxies reads none of them: two requests of one peer and one user for one path are counted
under the same keys and get the same decisions, whatever they say of themselves. So two runs
of such requests leave the same in the store and tell their clients the same of the limits,
as long as the endpoints do, `limitedAlike_turns`.

The runs are compared layer by layer. Serving `Agree`s if replicas that differ in their
trails alone are left so, and if the outcomes report the same of the limits.
-/

namespace RateLimit

open Act Limiter

/-- A limiter that takes no proxy's word for an address. -/
def Limiter.Distrusts (l : Limiter) (r : Replica) : Prop :=
  l.trust.getD r.settings.trustForwarded = false

theorem Limiter.Distrusts.of_settings {l : Limiter} {r r' : Replica} (h : l.Distrusts r)
    (hsettings : r'.settings = r.settings) : l.Distrusts r' := by
  unfold Distrusts
  rwa [hsettings]

namespace Http

open Serve

/-- A second request that differs from the first in its header fields and its id alone. -/
def Request.Alike (request request' : Request) : Prop :=
  ∃ headers id, request' = { request with headers, id }

namespace Request.Alike

variable {request request' : Request} (h : request.Alike request')

include h

theorem urlPath_eq : request'.urlPath = request.urlPath := by
  obtain ⟨headers, id, rfl⟩ := h
  rfl

theorem method_eq : request'.method = request.method := by
  obtain ⟨headers, id, rfl⟩ := h
  rfl

theorem path_eq : request'.path = request.path := by
  obtain ⟨headers, id, rfl⟩ := h
  rfl

/-- Without trust in proxies, no header field says who the caller is. -/
theorem callerIn_eq {l : Limiter} {r r' : Replica} (hr : Replica.Alike r r')
    (hdistrust : l.Distrusts r) : callerIn l request' r' = callerIn l request r := by
  obtain ⟨headers, id, rfl⟩ := h
  unfold callerIn
  rw [hr.settings_eq, show l.trust.getD r.settings.trustForwarded = false from hdistrust]
  rfl

end Request.Alike

namespace Response

/-- What a response tells of a limit. -/
def reportFields : List String := "Retry-After" :: limitFields

/-- Two responses that tell the same of a limit. -/
structure ReportAlike (response response' : Response) : Prop where
  header?_eq : ∀ name ∈ reportFields, response'.header? name = response.header? name
  rejection_iff : response'.IsRejection ↔ response.IsRejection

namespace ReportAlike

variable {response response' : Response}

theorem refl (response : Response) : ReportAlike response response :=
  ⟨fun _ _ => rfl, Iff.rfl⟩

theorem setHeaders (h : ReportAlike response response') (headers : Headers) :
    ReportAlike (response.setHeaders headers) (response'.setHeaders headers) where
  header?_eq name hname := header?_setHeaders_congr (h.header?_eq name hname) headers
  rejection_iff := by
    unfold IsRejection
    rw [status_setHeaders, status_setHeaders, body_setHeaders, body_setHeaders]
    exact h.rejection_iff

/-- A guard puts its header fields on both responses or on none. -/
theorem stamp (h : ReportAlike response response') (headers : Headers) :
    ReportAlike (response.stamp headers) (response'.stamp headers) := by
  have hstamped : response'.isStamped = response.isStamped := by
    unfold isStamped
    rw [h.header?_eq _ (by decide)]
  unfold Response.stamp
  rw [hstamped]
  split_ifs
  · exact h
  · exact h.setHeaders headers

/-- Where a caller is sent to is no report of a limit. -/
theorem redirect (host host' path query : String) :
    ReportAlike (Http.redirect host path query) (Http.redirect host' path query) where
  header?_eq name hname := by
    have hother : ∀ name ∈ reportFields, name.toLower ≠ "location".toLower := by decide +kernel
    unfold Http.redirect
    rw [header?_setHeader_of_ne (hother name hname), header?_setHeader_of_ne (hother name hname)]
  rejection_iff := Iff.rfl

end ReportAlike

end Response

/-- What is made of two faults, and tells the same of a limit. -/
inductive RenderAlike : Except Fault Response → Except Fault Response → Prop where
  | made {response response' : Response} (h : response.ReportAlike response') :
      RenderAlike (.ok response) (.ok response')
  | left {fault fault' : Fault} (h : fault'.status = fault.status) :
      RenderAlike (.error fault) (.error fault')

theorem RenderAlike.refl (result : Except Fault Response) : RenderAlike result result := by
  cases result with
  | ok response => exact .made (.refl response)
  | error fault => exact .left rfl

/-- Two outcomes that tell the same of a limit. -/
inductive ReportAlike : Except Crash Response → Except Crash Response → Prop where
  | answered {response response' : Response} (h : response.ReportAlike response') :
      ReportAlike (.ok response) (.ok response')
  | crashed {crash crash' : Crash}
      (h : RenderAlike (rendered crash.fault) (rendered crash'.fault)) :
      ReportAlike (.error crash) (.error crash')

theorem ReportAlike.refl (result : Except Crash Response) : ReportAlike result result := by
  cases result with
  | ok response => exact .answered (.refl response)
  | error crash => exact .crashed (.refl _)

theorem ReportAlike.map {result result' : Except Crash Response} {f : Response → Response}
    (hf : ∀ response response', response.ReportAlike response' →
      (f response).ReportAlike (f response')) (h : ReportAlike result result') :
    ReportAlike (result.map f) (result'.map f) := by
  cases h with
  | answered h => exact .answered (hf _ _ h)
  | crashed h => exact .crashed h

namespace Serve

/-- Two ways to serve that do the same to the counts, and that report the same of the limits
if `P` holds. -/
def Agree (P : Prop) (l : Limiter) (x x' : Serve Response) : Prop :=
  ∀ ⦃r r' : Replica⦄, Replica.Alike r r' → l.Distrusts r →
    Replica.Alike (on x r).2 (on x' r').2 ∧ (P → ReportAlike (on x r).1 (on x' r').1)

variable {α : Type} {P : Prop} {l : Limiter} {x x' : Serve Response}

theorem agree_pure {response response' : Response} (h : response.ReportAlike response') :
    Agree P l (pure response) (pure response') :=
  fun _ _ hr _ => ⟨hr, fun _ => .answered h⟩

theorem agree_deny (rejection : Rejection) : Agree P l (deny rejection) (deny rejection) := by
  unfold deny
  cases Response.ofRejection rejection with
  | ok response => exact agree_pure (.refl response)
  | error e => exact fun _ _ hr _ => ⟨hr, fun _ => .refl _⟩

/-- What follows a steady act follows the same result in both runs. -/
theorem agree_serve_bind {act : Act α} {f f' : α → Serve Response} (hact : act.Steady)
    (hf : ∀ a, Agree P l (f a) (f' a)) : Agree P l (serve act >>= f) (serve act >>= f') := by
  intro r r' hr hdistrust
  obtain ⟨result, s, s', hrun, hrun', hs, hsettings⟩ := hact.on_alike hr
  cases result with
  | ok a =>
      rw [on_bind_of_ok (on_serve_of_ok hrun), on_bind_of_ok (on_serve_of_ok hrun')]
      exact hf a hs (hdistrust.of_settings hsettings)
  | error fault =>
      rw [on_bind_of_error (on_serve_of_error hrun), on_bind_of_error (on_serve_of_error hrun')]
      exact ⟨hs, fun _ => .refl _⟩

/-- Without trust in proxies, both runs go on with the same caller. -/
theorem agree_callerOf_bind {request request' : Request} (hrequest : request.Alike request')
    {f f' : Caller → Serve Response} (hf : ∀ c, Agree P l (f c) (f' c)) :
    Agree P l (serve (callerOf l request) >>= f) (serve (callerOf l request') >>= f') := by
  intro r r' hr hdistrust
  rw [on_bind_of_ok (on_serve_of_ok (on_callerOf l request r)),
    on_bind_of_ok (on_serve_of_ok (on_callerOf l request' r')),
    hrequest.callerIn_eq hr hdistrust]
  exact hf _ hr hdistrust

theorem on_map (x : Serve Response) (f : Response → Response) (r : Replica) :
    on (x >>= fun response => pure (f response)) r = ((on x r).1.map f, (on x r).2) := by
  cases h : on x r with
  | mk result r' =>
      cases result with
      | ok response => exact on_bind_of_ok h _
      | error crash => exact on_bind_of_error h _

theorem Agree.map {f : Response → Response} (h : Agree P l x x')
    (hf : ∀ response response', response.ReportAlike response' →
      (f response).ReportAlike (f response')) :
    Agree P l (x >>= fun response => pure (f response))
      (x' >>= fun response => pure (f response)) := by
  intro r r' hr hdistrust
  obtain ⟨hleft, hreport⟩ := h hr hdistrust
  rw [on_map, on_map]
  exact ⟨hleft, fun hp => (hreport hp).map hf⟩

end Serve

theorem reportAlike_mapError {crash crash' : Crash}
    (h : RenderAlike (rendered crash.fault) (rendered crash'.fault)) :
    ReportAlike ((rendered crash.fault).mapError fun fault => { crash with fault })
      ((rendered crash'.fault).mapError fun fault => { crash' with fault }) := by
  cases hmade : rendered crash.fault <;> cases hmade' : rendered crash'.fault <;>
    rw [hmade, hmade'] at h <;> cases h
  case error.error.left left left' hstatus =>
    refine .crashed ?_
    dsimp only
    rw [rendered_of_left hmade, rendered_of_left hmade']
    exact .left hstatus
  case ok.ok.made response response' hresponse => exact .answered hresponse

theorem alike_noteUnavailable (fault : Fault) (r : Replica) :
    Replica.Alike r ((noteUnavailable fault).on r).2 := by
  unfold noteUnavailable
  split
  · exact .withRecord r _
  · exact .refl r

/-- A fault may be logged when it is answered, and leaves no other trace. -/
theorem alike_answerFaults (next : Handler) (request : Request) (r : Replica) :
    Replica.Alike (on (next request) r).2 (on (answerFaults next request) r).2 := by
  cases h : on (next request) r with
  | mk result r' =>
      cases result with
      | ok response =>
          rw [on_answerFaults_of_ok h]
          exact .refl r'
      | error crash =>
          rw [on_answerFaults_of_error h]
          exact alike_noteUnavailable crash.fault r'

section Layers

variable {P : Prop} {l : Limiter} {routes : List Route} {next : Handler}
  {request request' : Request}

theorem agree_answerFaults (h : Agree P l (next request) (next request')) :
    Agree P l (answerFaults next request) (answerFaults next request') := by
  intro r r' hr hdistrust
  obtain ⟨hleft, hreport⟩ := h hr hdistrust
  refine ⟨(alike_answerFaults next request r).symm.trans
    (hleft.trans (alike_answerFaults next request' r')), fun hp => ?_⟩
  specialize hreport hp
  cases hrun : on (next request) r with
  | mk result s =>
      cases hrun' : on (next request') r' with
      | mk result' s' =>
          rw [hrun, hrun'] at hreport
          cases hreport with
          | answered hanswer =>
              rw [on_answerFaults_of_ok hrun, on_answerFaults_of_ok hrun']
              exact .answered hanswer
          | @crashed crash crash' hcrash =>
              rw [on_answerFaults_of_error hrun, on_answerFaults_of_error hrun']
              exact reportAlike_mapError hcrash

variable (hrequest : request.Alike request')

include hrequest

theorem agree_guardedBy (g : Option Guard) (h : Agree P l (next request) (next request')) :
    Agree P l (guardedBy g l next request) (guardedBy g l next request') := by
  cases g with
  | none => exact h
  | some g =>
      unfold guardedBy guarded
      dsimp only
      rw [hrequest.urlPath_eq]
      split_ifs
      · exact h
      · refine agree_callerOf_bind hrequest fun c => ?_
        refine agree_serve_bind (l.steady_enforce c _ _) fun verdict => ?_
        cases verdict with
        | denied rejection => exact agree_deny rejection
        | passed headers => exact h.map fun _ _ hanswer => hanswer.stamp headers

theorem Route.agree_handle {route : Route}
    (h : Agree P l (serve (route.endpoint l request)) (serve (route.endpoint l request'))) :
    Agree P l (route.handle l request) (route.handle l request') := by
  refine agree_callerOf_bind hrequest fun c => ?_
  refine agree_serve_bind (steady_applyLimits l c [] route.limits) fun verdict => ?_
  cases verdict with
  | denied rejection => exact agree_deny rejection
  | passed headers => exact h.map fun _ _ hanswer => hanswer.setHeaders headers

theorem agree_route (h : ∀ route ∈ routes,
      Agree P l (serve (route.endpoint l request)) (serve (route.endpoint l request'))) :
    Agree P l (route routes l request) (route routes l request') := by
  unfold route
  rw [hrequest.method_eq, hrequest.path_eq]
  cases hdestination : destination routes request.method request.path with
  | route found => exact Route.agree_handle hrequest (h found (mem_of_destination hdestination))
  | wrongMethod allowed => exact agree_pure (.refl _)
  | redirect path =>
      obtain ⟨headers, id, rfl⟩ := hrequest
      exact agree_pure (.redirect _ _ path request.query)
  | nowhere => exact agree_pure (.refl _)

end Layers

namespace App

/-- Whether endpoints count alike whatever header fields a request has. -/
def EndpointsCountAlike (app : App) : Prop :=
  ∀ route ∈ app.routes, ∀ ⦃request request'⦄, Request.Alike request request' →
    ∀ ⦃r r'⦄, Replica.Alike r r' →
      Replica.Alike ((route.endpoint app.limiter request).on r).2
        ((route.endpoint app.limiter request').on r').2

/-- Whether endpoints report the same of the limits whatever header fields a request has. -/
def EndpointsReportAlike (app : App) : Prop :=
  ∀ route ∈ app.routes, ∀ ⦃request request'⦄, Request.Alike request request' →
    ∀ ⦃r r'⦄, Replica.Alike r r' →
      ReportAlike (on (serve (route.endpoint app.limiter request)) r).1
        (on (serve (route.endpoint app.limiter request')) r').1

/-- The limits that a request meets: that of the guard, and those where it goes. -/
def limitsOn (app : App) (request : Request) : List RouteLimit :=
  (app.guard.filter fun g => !g.exempt.contains request.urlPath).toList.map Guard.limit ++
    (destination app.routes request.method request.path).limits

/-- What the limits and the routes make of a request. -/
def serveLimited (app : App) (request : Request) : StateM Replica (Except Crash Response) :=
  (app.limited request).run

variable {app : App} {request request' : Request}

theorem limitsOn_eq (h : request.Alike request') :
    app.limitsOn request' = app.limitsOn request := by
  unfold limitsOn
  rw [h.urlPath_eq, h.method_eq, h.path_eq]

theorem agree_limited (hcount : app.EndpointsCountAlike) (hrequest : request.Alike request') :
    Agree app.EndpointsReportAlike app.limiter (app.limited request) (app.limited request') := by
  refine agree_guardedBy hrequest _ (agree_answerFaults (agree_route hrequest ?_))
  intro route hroute r r' hr _
  refine ⟨?_, fun hreport => hreport route hroute hrequest hr⟩
  rw [on_serve, on_serve]
  exact hcount route hroute hrequest hr

end App

/-- A second visit that differs from the first in the header fields of its request alone. -/
structure Visit.Alike (visit visit' : Visit) : Prop where
  meanwhile_eq : visit'.meanwhile = visit.meanwhile
  request : visit.request.Alike visit'.request

/-- Two turns in which the limits do the same. -/
structure Turn.LimitedAlike (app : App) (t t' : Turn (Except Crash Response)) : Prop where
  /-- The same caller is counted, and so under the same keys. -/
  caller_eq : callerIn app.limiter t'.request t'.before = callerIn app.limiter t.request t.before
  limits_eq : app.limitsOn t'.request = app.limitsOn t.request
  before : Replica.Alike t.before t'.before
  /-- The limits decide the same. -/
  judged : ∀ ds r, Judges app.limiter (callerIn app.limiter t.request t.before) t.before
      (app.limitsOn t.request) ds r →
    ∃ r', Replica.Alike r r' ∧
      Judges app.limiter (callerIn app.limiter t'.request t'.before) t'.before
        (app.limitsOn t'.request) ds r'
  after : Replica.Alike t.after t'.after
  store_eq : t'.after.store = t.after.store
  /-- The same was sent to the store. -/
  sent_eq : t'.after.sent = t.after.sent
  /-- Clients are told the same of the limits. -/
  reported : app.EndpointsReportAlike → ReportAlike t.answer t'.answer

section Run

variable {app : App} {visit visit' : Visit} {visits visits' : List Visit} {r r' : Replica}

theorem settings_turn (hlogs : app.EndpointsLog) (hmeanwhile : visit.meanwhile.Logs) :
    (visit.turn app.serveLimited r).after.settings = r.settings ∧
      (visit.turn app.serveLimited r).before.settings = r.settings := by
  obtain ⟨emitted, hbefore⟩ := hmeanwhile r
  obtain ⟨more, hserved⟩ := hlogs.logs_limited visit.request (visit.meanwhile.on r).2
  exact ⟨hserved.settings_eq.trans hbefore.settings_eq, hbefore.settings_eq⟩

theorem limitedAlike_turn (hlogs : app.EndpointsLog) (hcount : app.EndpointsCountAlike)
    (hmeanwhile : visit.meanwhile.Steady) (hvisit : visit.Alike visit')
    (hr : Replica.Alike r r') (hdistrust : app.limiter.Distrusts r) :
    Turn.LimitedAlike app (visit.turn app.serveLimited r) (visit'.turn app.serveLimited r') := by
  have hbefore : Replica.Alike (visit.meanwhile.on r).2 (visit'.meanwhile.on r').2 := by
    obtain ⟨result, s, s', hrun, hrun', hs, -⟩ := hmeanwhile.on_alike hr
    rw [hvisit.meanwhile_eq, hrun, hrun']
    exact hs
  have hdistrust' := hdistrust.of_settings (settings_turn hlogs hmeanwhile.logs).2
  have hcaller := hvisit.request.callerIn_eq hbefore hdistrust'
  have hlimits := app.limitsOn_eq hvisit.request
  obtain ⟨hafter, hreport⟩ := App.agree_limited hcount hvisit.request hbefore hdistrust'
  exact {
    caller_eq := hcaller
    limits_eq := hlimits
    before := hbefore
    judged := fun ds s hjudges => by
      obtain ⟨s', hs, hjudges'⟩ := hjudges.on_alike hbefore
      exact ⟨s', hs, hcaller.symm ▸ hlimits.symm ▸ hjudges'⟩
    after := hafter
    store_eq := hafter.store_eq
    sent_eq := hafter.sent_eq
    reported := hreport }

/-- No header field of any request in a run has a say in what the limits do, if the limiter
distrusts proxies. -/
theorem limitedAlike_turns (hlogs : app.EndpointsLog) (hcount : app.EndpointsCountAlike)
    (hmeanwhile : ∀ visit ∈ visits, visit.meanwhile.Steady)
    (hvisits : List.Forall₂ Visit.Alike visits visits') (hr : Replica.Alike r r')
    (hdistrust : app.limiter.Distrusts r) :
    List.Forall₂ (Turn.LimitedAlike app) (turns app.serveLimited r visits)
      (turns app.serveLimited r' visits') := by
  induction hvisits generalizing r r' with
  | nil => exact .nil
  | @cons visit visit' rest rest' hvisit hrest ih =>
      have hfirst := hmeanwhile visit List.mem_cons_self
      have hturn := limitedAlike_turn hlogs hcount hfirst hvisit hr hdistrust
      have hlater : ∀ v ∈ rest, v.meanwhile.Steady :=
        fun v hv => hmeanwhile v (List.mem_cons_of_mem _ hv)
      exact .cons hturn
        (ih hlater hturn.after (hdistrust.of_settings (settings_turn hlogs hfirst.logs).1))

end Run

section Forged

/-- An endpoint that tells callers what they call themselves. -/
def agentRoute : Route where
  methods := ["GET"]
  path := "/agent"
  limits := [.strict]
  endpoint := fun _ request =>
    return .json 200 (.object [("agent", .string ((request.header? "User-Agent").getD ""))])

def agentApp : App where
  limiter := builtin
  guard := some { policyName := "default" }
  routes := [agentRoute]

/-- Visits of one guest, each with header fields of its own. -/
def guestVisits (fields : List Headers) : List Visit :=
  fields.map fun headers =>
    { request := { path := "/agent", headers, peer := some "10.0.0.1" } }

/-- What a guest writes who claims to be forwarded for another address each time. -/
def forgedFields : List Headers :=
  ["192.0.2.1", "192.0.2.2", "192.0.2.3", "192.0.2.4"].map fun address =>
    [("X-Forwarded-For", address), ("User-Agent", "agent of " ++ address)]

theorem endpointsLog_agentApp : agentApp.EndpointsLog := by
  intro route hroute request
  cases List.mem_singleton.mp hroute
  exact (steady_pure _).logs

theorem endpointsCountAlike_agentApp : agentApp.EndpointsCountAlike := by
  intro route hroute request request' _ r r' hr
  cases List.mem_singleton.mp hroute
  exact hr

/-- What callers call themselves shows in the body alone. -/
theorem endpointsReportAlike_agentApp : agentApp.EndpointsReportAlike := by
  intro route hroute request request' _ r r' _
  cases List.mem_singleton.mp hroute
  have hbare : ∀ name ∈ Response.reportFields,
      name.toLower ≠ "content-length" ∧ name.toLower ≠ "content-type" := by decide +kernel
  refine .answered ⟨fun name hname => ?_, ?_⟩
  · obtain ⟨hlength, htype⟩ := hbare name hname
    exact (Response.header?_ofBody hlength htype _ _ _).trans
      (Response.header?_ofBody hlength htype _ _ _).symm
  · exact iff_of_false (fun h => nomatch h.1) fun h => nomatch h.1

/-- A guest who claims another address in each request is denied like one who claims none. -/
theorem forgedFields_limitedAlike :
    List.Forall₂ (Turn.LimitedAlike agentApp)
        (turns agentApp.serveLimited Replica.reaching (guestVisits (List.replicate 4 [])))
        (turns agentApp.serveLimited Replica.reaching (guestVisits forgedFields)) ∧
      agentApp.EndpointsReportAlike ∧
      (turns agentApp.serveLimited Replica.reaching (guestVisits forgedFields)).map
        (fun t => seen? t.answer) =
        [some (200, some "3", none), some (200, some "3", none), some (200, some "3", none),
          some (429, some "3", some "300")] := by
  have hvisits : List.Forall₂ Visit.Alike (guestVisits (List.replicate 4 []))
      (guestVisits forgedFields) := by
    refine List.forall₂_map_left_iff.mpr (List.forall₂_map_right_iff.mpr ?_)
    exact List.forall₂_iff_get.mpr ⟨rfl, fun i _ _ => ⟨rfl, _, none, rfl⟩⟩
  have hmeanwhile : ∀ visit ∈ guestVisits (List.replicate 4 []), visit.meanwhile.Steady := by
    intro visit hvisit
    obtain ⟨fields, -, rfl⟩ := List.mem_map.mp hvisit
    exact steady_pure ()
  have hdistrust : agentApp.limiter.Distrusts Replica.reaching := rfl
  exact ⟨limitedAlike_turns endpointsLog_agentApp endpointsCountAlike_agentApp hmeanwhile hvisits
    (.refl _) hdistrust, endpointsReportAlike_agentApp, by decide +kernel⟩

end Forged

end Http

end RateLimit
