import RateLimit.Http.App
import RateLimit.Proofs.Http.Answer
import RateLimit.Proofs.Limiter.Enforce
import RateLimit.Proofs.Replica.Traffic

/-!
# The layers of an application

What an application does with a request is what its limits and its routes do with it,
`App.limited`, between two things that all requests share: a request is given an id, which is
bound while it is served, and what comes of it is turned into a response. If it was answered,
the response gets the id, `run_respond_of_ok`; if it crashed, the crash is logged and answered
when the id is no longer bound, `run_respond_of_error`. What is served in between only adds to
the log, `logs_limited`, as long as the endpoints do no more.
-/

namespace RateLimit.Http

open Act
open Replica (Logged)

namespace Serve

variable {α β : Type} {x : Serve α}

/-- Serving that does nothing to the trail but to add records to it. -/
def Logs (x : Serve α) : Prop := ∀ r, ∃ emitted, Logged r emitted (on x r).2

theorem logs_pure (a : α) : Logs (pure a : Serve α) := fun r => ⟨[], .refl r⟩

theorem logs_throw (crash : Crash) : Logs (throw crash : Serve α) := fun r => ⟨[], .refl r⟩

theorem Logs.bind {f : α → Serve β} (hx : Logs x) (hf : ∀ a, Logs (f a)) : Logs (x >>= f) := by
  intro r
  obtain ⟨emitted, hfirst⟩ := hx r
  cases h : on x r with
  | mk result r' =>
      rw [h] at hfirst
      cases result with
      | error crash =>
          rw [on_bind_of_error h]
          exact ⟨emitted, hfirst⟩
      | ok a =>
          obtain ⟨more, hnext⟩ := hf a r'
          rw [on_bind_of_ok h]
          exact ⟨_, hfirst.trans hnext⟩

theorem Logs.tryCatch {f : Crash → Serve α} (hx : Logs x) (hf : ∀ crash, Logs (f crash)) :
    Logs (tryCatch x f) := by
  intro r
  obtain ⟨emitted, hfirst⟩ := hx r
  cases h : on x r with
  | mk result r' =>
      rw [h] at hfirst
      cases result with
      | ok a =>
          rw [on_tryCatch_of_ok h]
          exact ⟨emitted, hfirst⟩
      | error crash =>
          obtain ⟨more, hnext⟩ := hf crash r'
          rw [on_tryCatch_of_error h]
          exact ⟨_, hfirst.trans hnext⟩

theorem on_lift (act : StateM Replica α) (r : Replica) :
    on (liftM act) r = (.ok (act.run r).1, (act.run r).2) := rfl

theorem logs_serve {act : Act α} (h : act.Logs) : Logs (serve act) := by
  intro r
  obtain ⟨emitted, hlogged⟩ := h r
  exact ⟨emitted, by rwa [on_serve]⟩

end Serve

open Serve

section Limits

variable {l : Limiter} {routes : List Route} {next : Handler} {request : Request}

theorem steady_callerOf (l : Limiter) (request : Request) : (callerOf l request).Steady :=
  steady_get_bind (fun _ => steady_pure _) fun _ _ => rfl

theorem Route.steady_applyLimits (l : Limiter) (c : Caller) (collected : Table String)
    (limits : List RouteLimit) : (Route.applyLimits l c collected limits).Steady := by
  induction limits generalizing collected with
  | nil => exact steady_pure _
  | cons limit rest ih =>
      refine (l.steady_enforce c _ _).bind fun verdict => ?_
      cases verdict with
      | denied rejection => exact steady_pure _
      | passed headers => exact ih _

theorem logs_deny (rejection : Rejection) : (deny rejection).Logs := by
  unfold deny
  cases Response.ofRejection rejection with
  | ok response => exact logs_pure _
  | error e => exact logs_throw _

/-- What a handler does is the concern of the trail as far as what it wraps is. -/
theorem logs_guardedBy (g : Option Guard) (l : Limiter) (h : (next request).Logs) :
    (guardedBy g l next request).Logs := by
  cases g with
  | none => exact h
  | some g =>
      unfold guardedBy guarded
      dsimp only
      split_ifs
      · exact h
      · refine (logs_serve (steady_callerOf l request).logs).bind fun caller => ?_
        refine (logs_serve (l.steady_enforce _ _ _).logs).bind fun verdict => ?_
        cases verdict with
        | denied rejection => exact logs_deny rejection
        | passed headers => exact h.bind fun _ => logs_pure _

theorem Route.logs_handle {route : Route} (h : (route.endpoint l request).Logs) :
    (route.handle l request).Logs := by
  refine (logs_serve (steady_callerOf l request).logs).bind fun caller => ?_
  refine (logs_serve (steady_applyLimits l caller [] route.limits).logs).bind fun verdict => ?_
  cases verdict with
  | denied rejection => exact logs_deny rejection
  | passed headers => exact (logs_serve h).bind fun _ => logs_pure _

theorem mem_of_destination {route : Route} {method path : String}
    (h : destination routes method path = .route route) : route ∈ routes := by
  unfold destination at h
  dsimp only at h
  split at h
  · rename_i found hfound
    cases h
    exact List.mem_of_mem_filter (List.mem_of_find?_eq_some hfound)
  · cases h
  · split_ifs at h

/-- The limits that a request finds where it goes. -/
def Destination.limits : Destination → List RouteLimit
  | .route found => found.limits
  | _ => []

theorem logs_route (h : ∀ route ∈ routes, (route.endpoint l request).Logs) :
    (route routes l request).Logs := by
  unfold route
  cases hdestination : destination routes request.method request.path with
  | route r => exact Route.logs_handle (h r (mem_of_destination hdestination))
  | wrongMethod allowed => exact logs_pure _
  | redirect path => exact logs_pure _
  | nowhere => exact logs_pure _

theorem steady_noteUnavailable (fault : Fault) : (noteUnavailable fault).Steady := by
  unfold noteUnavailable
  split
  · exact steady_log _
  · exact steady_pure _

theorem on_noteUnavailable (fault : Fault) (r : Replica) :
    (noteUnavailable fault).on r = (.ok (), ((noteUnavailable fault).on r).2) := by
  unfold noteUnavailable
  split <;> rfl

theorem on_answerFaults_of_ok {response : Response} {r r' : Replica}
    (h : on (next request) r = (.ok response, r')) :
    on (answerFaults next request) r = (.ok response, r') :=
  on_tryCatch_of_ok h _

/-- A fault is noted if it tells of the store, and then a response is made of it, or it is
left. -/
theorem on_answerFaults_of_error {crash : Crash} {r r' : Replica}
    (h : on (next request) r = (.error crash, r')) :
    on (answerFaults next request) r =
      ((rendered crash.fault).mapError fun fault => { crash with fault },
        ((noteUnavailable crash.fault).on r').2) := by
  unfold answerFaults
  rw [on_tryCatch_of_error h, on_bind_of_ok (on_serve_of_ok (on_noteUnavailable _ r'))]
  cases rendered crash.fault <;> rfl

theorem logs_answerFaults (h : (next request).Logs) : (answerFaults next request).Logs := by
  refine h.tryCatch fun crash => ?_
  refine (logs_serve (steady_noteUnavailable crash.fault).logs).bind fun _ => ?_
  cases rendered crash.fault with
  | ok response => exact logs_pure _
  | error fault => exact logs_throw _

end Limits

theorem logs_health (l : Limiter) (request : Request) : (health.endpoint l request).Logs :=
  (Replica.steady_ping.bind fun _ => steady_pure _).logs

theorem logs_description (path : String) (l : Limiter) (request : Request) :
    ((description path).endpoint l request).Logs :=
  (steady_pure _).logs

namespace App

/-- The limits and the routes of an application. -/
def limited (app : App) : Handler :=
  guardedBy app.guard app.limiter (answerFaults (route app.routes app.limiter))

/-- An application whose endpoints do nothing to the trail but to add records to it. -/
def EndpointsLog (app : App) : Prop :=
  ∀ route ∈ app.routes, ∀ request, (route.endpoint app.limiter request).Logs

variable {app : App}

theorem EndpointsLog.logs_limited (h : app.EndpointsLog) (request : Request) :
    (app.limited request).Logs :=
  logs_guardedBy _ _
    (logs_answerFaults (logs_route fun route hroute => h route hroute request))

section Create

variable {registry : Option Registry} {general usesProcessClient : Bool} {routes : List Route}
  {r r' : Replica}

theorem steady_create (registry : Option Registry) (general : Bool) (routes : List Route)
    (usesProcessClient : Bool) : (create registry general routes usesProcessClient).Steady := by
  refine steady_get_bind (fun r => Steady.bind ?_ fun _ => ?_) fun _ _ => rfl
  · cases Log.setUp? r.settings <;> exact .of_silent (fun _ => rfl) fun _ _ => rfl
  · have hregistry : ∀ reg, (Limiter.ofSettings reg none none none).Steady :=
      fun _ => steady_get_bind (fun _ => steady_pure _) fun _ _ => rfl
    cases registry with
    | some reg =>
        exact (steady_pure reg).bind fun reg => (hregistry reg).bind fun _ => steady_pure _
    | none =>
        exact Registry.steady_ofSettings.bind fun reg =>
          (hregistry reg).bind fun _ => steady_pure _

/-- What is built has no guard outside, and the routes that were given besides its own. -/
theorem of_create (h : (create registry general routes usesProcessClient).on r = (.ok app, r')) :
    app.outerGuard = none ∧
      app.guard = (if general then some (Guard.general r.settings) else none) ∧
      app.routes = descriptionPaths.map description ++ health :: routes := by
  unfold create at h
  obtain ⟨s, r₁, hs, h⟩ := on_bind_eq_ok h
  cases hs
  obtain ⟨-, r₂, -, h⟩ := on_bind_eq_ok h
  cases registry <;>
    · obtain ⟨reg, r₃, -, h⟩ := on_bind_eq_ok h
      obtain ⟨l, r₄, -, h⟩ := on_bind_eq_ok h
      cases h
      exact ⟨rfl, rfl, rfl⟩

theorem endpointsLog_of_create
    (h : (create registry general routes usesProcessClient).on r = (.ok app, r'))
    (hroutes : ∀ route ∈ routes, ∀ l request, (route.endpoint l request).Logs) :
    app.EndpointsLog := by
  intro route hroute request
  rw [(of_create h).2.2, List.mem_append, List.mem_cons] at hroute
  rcases hroute with hdescription | rfl | hgiven
  · obtain ⟨path, -, rfl⟩ := List.mem_map.mp hdescription
    exact logs_description path _ request
  · exact logs_health _ request
  · exact hroutes route hgiven _ request

end Create

end App

/-- A request with an id. -/
def Request.withId (request : Request) (id : String) : Request := { request with id := some id }

/-- A replica with an id that is bound to its log, or none. -/
def binding (id : Option String) (r : Replica) : Replica := { r with boundId := id }

section Ids

variable {request : Request} {id : String} {r : Replica}

/-- An id that is made, by its number. -/
def issuedId (n : Nat) : String := "00000000-0000-0000-0000-" ++ String.ofList (Text.hex 12 n)

/-- The id that a request gets on a replica. -/
def Request.idAt (request : Request) (r : Replica) : String := ((requestId request).run r).1

theorem chosenId?_eq_some_iff : chosenId? request = some id ↔
    request.header? idHeader = some id ∧ 1 ≤ id.length ∧ id.length ≤ maxIdLength := by
  have hlength : id ≠ "" ↔ 1 ≤ id.length := by
    rw [Nat.one_le_iff_ne_zero, not_iff_not]
    exact String.length_eq_zero_iff.symm
  unfold chosenId?
  rw [Option.filter_eq_some_iff, Bool.and_eq_true, decide_eq_true_iff, decide_eq_true_iff, hlength]

theorem run_requestId_of_chosen (h : chosenId? request = some id) (r : Replica) :
    (requestId request).run r = (id, r) := by
  unfold requestId
  rw [h]
  rfl

theorem run_requestId_of_none (h : chosenId? request = none) (r : Replica) :
    (requestId request).run r =
      (issuedId (r.issuedIds + 1), { r with issuedIds := r.issuedIds + 1 }) := by
  unfold requestId
  rw [h]
  rfl

/-- The replica that a request is served on, with its id bound. -/
def Request.servedOn (request : Request) (r : Replica) : Replica :=
  { r with
    boundId := some (request.idAt r)
    issuedIds := ((requestId request).run r).2.issuedIds }

theorem alike_servedOn (request : Request) (r : Replica) :
    Replica.Alike r (request.servedOn r) := ⟨(request.servedOn r).trail, rfl⟩

/-- Giving an id changes at most how many were made. -/
theorem binding_requestId (request : Request) (r : Replica) :
    binding (some (request.idAt r)) ((requestId request).run r).2 = request.servedOn r := by
  unfold Request.servedOn binding
  cases h : chosenId? request with
  | some id => rw [run_requestId_of_chosen h]
  | none => rw [run_requestId_of_none h]

end Ids

/-- What an origin learns of a response. -/
def Response.sharedWith (response : Response) (allowed : List String) (request : Request) :
    Response :=
  (match request.header? "Origin" with
    | some origin => response.setHeaders (sharingHeaders allowed origin)
    | none => response).setHeader "vary" "Origin"

/-- The fields that tell what an origin may do with a response. -/
def sharedFields : List String :=
  ["access-control-allow-credentials", "access-control-expose-headers",
    "access-control-allow-origin", "vary"]

theorem mem_sharedFields {allowed : List String} {origin : String} {field : String × String}
    (h : field ∈ sharingHeaders allowed origin) : field.1 ∈ sharedFields := by
  have hnames : (sharingHeaders allowed origin).map Prod.fst ⊆ sharedFields := by
    unfold sharingHeaders originHeaders
    split_ifs <;> simp [sharedFields]
  exact hnames (List.mem_map_of_mem h)

/-- Other fields are left as they are. -/
theorem Response.header?_sharedWith {name : String}
    (h : ∀ field ∈ sharedFields, name.toLower ≠ field.toLower) (response : Response)
    (allowed : List String) (request : Request) :
    (response.sharedWith allowed request).header? name = response.header? name := by
  unfold sharedWith
  rw [header?_setHeader_of_ne (h _ (by decide))]
  cases request.header? "Origin" with
  | none => rfl
  | some origin =>
      exact header?_setHeaders_of_forall_ne fun field hfield => h _ (mem_sharedFields hfield)

section Respond

variable {next : Handler} {origins : List String} {request : Request} {r r₁ : Replica}
  {response : Response} {crash : Crash}

/-- The id is bound while the request is served, and no longer. -/
theorem on_withRequestId {result : Except Crash Response}
    (h : on (next (request.withId (request.idAt r))) (request.servedOn r) = (result, r₁)) :
    on (withRequestId next request) r =
      ((result.map (·.setHeader idHeader (request.idAt r))).mapError
        ({ · with requestId := some (request.idAt r) }), binding none r₁) := by
  have hgiven : on (liftM (requestId request) : Serve String) r =
      (.ok (request.idAt r), ((requestId request).run r).2) := on_lift _ _
  have hbound : on (liftM (bindId (some (request.idAt r))) : Serve Unit)
      ((requestId request).run r).2 = (.ok (), request.servedOn r) :=
    congrArg (Prod.mk _) (binding_requestId request r)
  have hserved : Serve.on (ExceptT.lift (next (request.withId (request.idAt r))).run)
      (request.servedOn r) = (.ok result, r₁) :=
    congrArg (fun served => (Except.ok served.1, served.2)) h
  have hunbound : on (liftM (bindId none) : Serve Unit) r₁ = (.ok (), binding none r₁) := rfl
  unfold withRequestId
  rw [on_bind_of_ok hgiven, on_bind_of_ok hbound]
  refine (on_bind_of_ok hserved _).trans ?_
  rw [on_bind_of_ok hunbound]
  cases result <;> rfl

theorem on_withOrigins_of_ok (hquestion : question? request = none)
    (h : on (next request) r = (.ok response, r₁)) :
    on (withOrigins origins next request) r = (.ok (response.sharedWith origins request), r₁) := by
  unfold withOrigins
  rw [hquestion]
  exact on_bind_of_ok h _

theorem on_withOrigins_of_error (hquestion : question? request = none)
    (h : on (next request) r = (.error crash, r₁)) :
    on (withOrigins origins next request) r = (.error crash, r₁) := by
  unfold withOrigins
  rw [hquestion]
  exact on_bind_of_error h _

theorem run_answerCrashes_of_ok (h : on (next request) r = (.ok response, r₁)) :
    (answerCrashes next request).run r = (response, r₁) := by
  unfold answerCrashes
  rw [StateT.run_bind, show (next request).run.run r = (.ok response, r₁) from h]
  rfl

theorem run_answerCrashes_of_error {fault : Fault} {id : String}
    (h : on (next request) r = (.error ⟨fault, some id⟩, r₁)) :
    (answerCrashes next request).run r =
      (crashResponse r₁.settings.debug fault id, r₁.withRecord (crashRecord fault id)) := by
  unfold answerCrashes
  rw [StateT.run_bind, show (next request).run.run r = (.error ⟨fault, some id⟩, r₁) from h,
    ← Replica.settings_withRecord r₁ (crashRecord fault id)]
  rfl

namespace App

variable {app : App}

theorem run_respond (app : App) (request : Request) (r : Replica) :
    (app.respond request).run r =
      (answerCrashes (app.handler r.settings.origins) request).run r := by
  unfold respond
  rw [StateT.run_bind]
  rfl

variable (houter : app.outerGuard = none)

include houter

theorem handler_eq (origins : List String) :
    app.handler origins = withOrigins origins (withRequestId app.limited) := by
  unfold handler
  rw [houter]
  rfl

/-- A question of a browser is answered, and nothing else happens. -/
theorem run_respond_of_question {origin method : String}
    (hquestion : question? request = some (origin, method)) (r : Replica) :
    (app.respond request).run r = (answer r.settings.origins request origin method, r) := by
  rw [run_respond, handler_eq houter]
  refine run_answerCrashes_of_ok ?_
  unfold withOrigins
  rw [hquestion]
  rfl

variable (hquestion : question? request = none)

include hquestion

/-- A response gets the id, and then the id is no longer bound. -/
theorem run_respond_of_ok
    (h : on (app.limited (request.withId (request.idAt r))) (request.servedOn r) =
      (.ok response, r₁)) :
    (app.respond request).run r =
      ((response.setHeader idHeader (request.idAt r)).sharedWith r.settings.origins request,
        binding none r₁) := by
  rw [run_respond, handler_eq houter]
  exact run_answerCrashes_of_ok (on_withOrigins_of_ok hquestion (on_withRequestId h))

/-- A crash is logged and answered when the id is no longer bound. -/
theorem run_respond_of_error
    (h : on (app.limited (request.withId (request.idAt r))) (request.servedOn r) =
      (.error crash, r₁)) :
    (app.respond request).run r =
      (crashResponse r₁.settings.debug crash.fault (request.idAt r),
        (binding none r₁).withRecord (crashRecord crash.fault (request.idAt r))) := by
  rw [run_respond, handler_eq houter]
  have hcrash : on (withOrigins r.settings.origins (withRequestId app.limited) request) r =
      (.error ⟨crash.fault, some (request.idAt r)⟩, binding none r₁) :=
    on_withOrigins_of_error hquestion (on_withRequestId h)
  exact run_answerCrashes_of_error hcrash

end App

end Respond

section Turns

variable {α : Type}

/-- A request, and what happens before it comes. -/
structure Visit where
  meanwhile : Act Unit := pure ()
  request : Request

/-- What comes of a visit: the replica that it began with, the one that the request came to,
the answer, and the replica that was left. -/
structure Turn (α : Type) where
  start : Replica
  before : Replica
  request : Request
  answer : α
  after : Replica

/-- The turn of one visit. -/
def Visit.turn (visit : Visit) (serve : Request → StateM Replica α) (r : Replica) : Turn α :=
  let before := (visit.meanwhile.on r).2
  let served := (serve visit.request).run before
  ⟨r, before, visit.request, served.1, served.2⟩

/-- The turns of visits that are made one after the other. -/
def turns (serve : Request → StateM Replica α) (r : Replica) : List Visit → List (Turn α)
  | [] => []
  | visit :: rest => visit.turn serve r :: turns serve (visit.turn serve r).after rest

end Turns

end RateLimit.Http
