import RateLimit.Proofs.Http.Correlation
import RateLimit.Proofs.Http.Limits
import RateLimit.Proofs.Replica.Healthy

/-!
# Stamped responses

The response to a request that the general guard counted is stamped if it has all the fields
that report a limit, and the id of the request. The guard and the layer of the ids put them on
what comes back from within. A fault of an endpoint that nothing within answers does not come
back: it passes both, and is answered outside of them. Nor does the guard add anything to a
response that has the first one of its fields already. So a response is stamped exactly if the
endpoint neither raises such a fault nor understates its limit in this way, `stamped_iff`.
-/

namespace RateLimit

namespace Http

open Act Limiter Serve

namespace Response

variable {response : Response} {d : Decision} {headers : Headers} {id : String}

/-- A response with all the fields that report a limit. -/
def ReportsLimit (response : Response) : Prop :=
  ∀ name ∈ limitFields, (response.header? name).isSome = true

instance (response : Response) : Decidable response.ReportsLimit :=
  inferInstanceAs (Decidable (∀ name ∈ limitFields, _))

/-- A response with the first one of the fields that report a limit, but not with all of them. -/
def IsPartial (response : Response) : Prop := response.isStamped = true ∧ ¬response.ReportsLimit

instance (response : Response) : Decidable response.IsPartial :=
  inferInstanceAs (Decidable (_ ∧ _))

/-- A response that reports a limit and has the id of its request. -/
def IsStampedWith (response : Response) (id : String) : Prop :=
  response.ReportsLimit ∧ response.header? idHeader = some id

instance (response : Response) (id : String) : Decidable (response.IsStampedWith id) :=
  inferInstanceAs (Decidable (_ ∧ _))

theorem Carries.reportsLimit (h : response.Carries d) : response.ReportsLimit := by
  obtain ⟨hlimit, hremaining, reset, -, hreset⟩ := h
  intro name hname
  simp only [limitFields, List.mem_cons, List.not_mem_nil, or_false] at hname
  rcases hname with rfl | rfl | rfl
  · rw [hlimit]
    rfl
  · rw [hremaining]
    rfl
  · rw [hreset]
    rfl

theorem reportsLimit_congr {other : Response}
    (h : ∀ name ∈ limitFields, other.header? name = response.header? name) :
    other.ReportsLimit ↔ response.ReportsLimit :=
  forall₂_congr fun name hname => by rw [h name hname]

theorem isPartial_congr {other : Response}
    (h : ∀ name ∈ limitFields, other.header? name = response.header? name) :
    other.IsPartial ↔ response.IsPartial := by
  unfold IsPartial isStamped
  rw [h _ (by decide), reportsLimit_congr h]

theorem not_isPartial_of_isStamped_eq_false (h : response.isStamped = false) :
    ¬response.IsPartial :=
  fun hpartial => nomatch h.symm.trans hpartial.1

/-- A response that reports a limit is left alone, and any other one gets the fields. -/
theorem reportsLimit_stamp (hheaders : d.headers = .ok headers) (h : ¬response.IsPartial) :
    (response.stamp headers).ReportsLimit := by
  unfold stamp
  split_ifs with hstamped
  · exact not_not.mp fun hreports => h ⟨hstamped, hreports⟩
  · exact (carries_setHeaders hheaders response).reportsLimit

/-- What is put on a response outside of the guard leaves the report of a limit as it is. -/
theorem isStampedWith_sharedWith (response : Response) (id : String) (allowed : List String)
    (request : Request) :
    ((response.setHeader idHeader id).sharedWith allowed request).IsStampedWith id ↔
      response.ReportsLimit := by
  have hshared : ∀ name ∈ limitFields, ∀ field ∈ sharedFields, name.toLower ≠ field.toLower := by
    decide +kernel
  have hid : ∀ name ∈ limitFields, name.toLower ≠ idHeader.toLower := by decide +kernel
  unfold IsStampedWith
  rw [and_iff_left (header?_idHeader_sharedWith response id allowed request)]
  refine reportsLimit_congr fun name hname => ?_
  rw [header?_sharedWith (hshared name hname), header?_setHeader_of_ne (hid name hname)]

/-- The response to a crash has no field beyond those of its body. -/
theorem not_isStampedWith_crashResponse (debug : Bool) (fault : Fault) (id : String) :
    ¬(crashResponse debug fault id).IsStampedWith id := by
  intro h
  have hnone : (crashResponse debug fault id).header? idHeader = none :=
    header?_ofBody (by decide +kernel) (by decide +kernel) _ _ _
  exact nomatch hnone.symm.trans h.2

theorem isStamped_ofBody (status : Nat) (kind : Option String) (body : String) :
    (ofBody status kind body).isStamped = false := by
  unfold isStamped
  rw [isBare_ofBody status kind body _ (by decide)]
  rfl

theorem isStamped_setHeader_ofBody {name : String}
    (h : "X-RateLimit-Limit".toLower ≠ name.toLower) (status : Nat) (kind : Option String)
    (body value : String) : ((ofBody status kind body).setHeader name value).isStamped = false := by
  unfold isStamped
  rw [header?_setHeader_of_ne h]
  exact isStamped_ofBody status kind body

end Response

namespace App

variable {app : App} {g : Guard} {request : Request} {r r' : Replica} {fault : Fault}
  {response : Response} {ds : List Decision}

/-- What comes of the endpoint of a request, if it is run, since no limit of its route denies the
request. -/
def Runs (app : App) (request : Request) (r : Replica) (ds : List Decision)
    (result : Except Fault Response) : Prop :=
  ∃ found r₁ r₂, destination app.routes request.method request.path = .route found ∧
    Judges app.limiter (callerIn app.limiter request r) r found.limits ds r₁ ∧
    (∀ d ∈ ds, d.allowed = true) ∧ (found.endpoint app.limiter request).on r₁ = (result, r₂)

/-- An endpoint that raises a fault of which no response is made. -/
def Raises (app : App) (request : Request) (r : Replica) (fault : Fault) : Prop :=
  ∃ ds, app.Runs request r ds (.error fault) ∧ ¬IsAnswerable fault

/-- An endpoint that reports a limit by some of the fields only: with a response that no limit of
its route adds anything to, or with an answer that it raises. -/
inductive Understates (app : App) (request : Request) (r : Replica) : Prop where
  | returned {ds : List Decision} {answer : Response} (h : app.Runs request r ds (.ok answer))
      (hdegraded : ∀ d ∈ ds, d.degraded = true) (hpartial : answer.IsPartial)
  | raised {ds : List Decision} {status : Nat} {detail : Json} {headers : Headers}
      (h : app.Runs request r ds (.error (.http status detail headers)))
      (hanswerable : IsAnswerable (.http status detail headers))
      (hpartial : (({ status } : Response).setHeaders headers).IsPartial)

/-- What lies within the guard. -/
def inner (app : App) : Handler := answerFaults (route app.routes app.limiter)

/-- A request that is answered within the guard, with a response that reports a limit wholly
or not at all. -/
def Answers (app : App) (request : Request) (r : Replica) : Prop :=
  ∃ response r', on (app.inner request) r = (.ok response, r') ∧ ¬response.IsPartial

theorem on_route_of_destination {found : Route}
    (h : destination app.routes request.method request.path = .route found) (r : Replica) :
    on (route app.routes app.limiter request) r = on (found.handle app.limiter request) r := by
  unfold route
  rw [h]

/-- What an endpoint raises is not touched by the limits of its route, and a response is made of
it, or it is left. -/
theorem Runs.on_inner_of_error (h : app.Runs request r ds (.error fault)) :
    ∃ r', on (app.inner request) r = ((rendered fault).mapError ({ fault := · }), r') := by
  obtain ⟨found, r₁, r₂, hdestination, hjudges, hallowed, hendpoint⟩ := h
  obtain ⟨headers, -, hlimits⟩ := hjudges.on_applyLimits_of_allowed hallowed Decision.shown_nil
  have hroute : on (route app.routes app.limiter request) r = (.error { fault }, r₂) := by
    rw [on_route_of_destination hdestination]
    unfold Route.handle
    rw [on_bind_of_ok (on_serve_of_ok (on_callerOf app.limiter request r)),
      on_bind_of_ok (on_serve_of_ok hlimits)]
    exact on_bind_of_error (on_serve_of_error hendpoint) _
  exact ⟨_, on_answerFaults_of_error hroute⟩

/-- What an endpoint returns gets the fields of the limits of its route. -/
theorem Runs.on_inner_of_ok (h : app.Runs request r ds (.ok response)) :
    ∃ headers r', Decision.Shown ds headers ∧
      on (app.inner request) r = (.ok (response.setHeaders headers), r') := by
  obtain ⟨found, r₁, r₂, hdestination, hjudges, hallowed, hendpoint⟩ := h
  obtain ⟨headers, hshown, hhandle⟩ := Route.on_handle_of_allowed hjudges hallowed hendpoint
  exact ⟨headers, r₂, hshown, on_answerFaults_route hdestination hhandle⟩

theorem Raises.on_inner (h : app.Raises request r fault) :
    ∃ left r', rendered fault = .error left ∧
      on (app.inner request) r = (.error { fault := left }, r') := by
  obtain ⟨ds, hruns, hunanswered⟩ := h
  obtain ⟨left, hleft, -⟩ := exists_left_of_not_isAnswerable hunanswered
  obtain ⟨r', hinner⟩ := hruns.on_inner_of_error
  rw [hleft] at hinner
  exact ⟨left, r', hleft, hinner⟩

/-- An answer that is raised comes with its own fields and with no other report of a limit. -/
theorem Runs.exists_on_inner_of_http {status : Nat} {detail : Json} {headers : Headers}
    (h : app.Runs request r ds (.error (.http status detail headers)))
    (hanswerable : IsAnswerable (.http status detail headers)) :
    ∃ response r', on (app.inner request) r = (.ok response, r') ∧
      (response.IsPartial ↔ (({ status } : Response).setHeaders headers).IsPartial) := by
  obtain ⟨response, hbare, hrendered⟩ := exists_rendered_http hanswerable
  obtain ⟨r', hinner⟩ := h.on_inner_of_error
  rw [hrendered] at hinner
  exact ⟨_, r', hinner, Response.isPartial_congr fun name hname =>
    Response.header?_setHeaders_congr (hbare name hname) headers⟩

theorem Understates.on_inner (h : app.Understates request r) :
    ∃ response r', on (app.inner request) r = (.ok response, r') ∧ response.IsPartial := by
  cases h with
  | @returned ds answer hruns hdegraded hpartial =>
      obtain ⟨headers, r', hshown, hinner⟩ := hruns.on_inner_of_ok
      rw [hshown.eq_nil hdegraded] at hinner
      exact ⟨answer, r', hinner, hpartial⟩
  | raised hruns hanswerable hpartial =>
      obtain ⟨response, r', hinner, hiff⟩ := hruns.exists_on_inner_of_http hanswerable
      exact ⟨response, r', hinner, hiff.mpr hpartial⟩

/-- A request that no route takes is answered without a report. -/
theorem answers_of_pure (h : route app.routes app.limiter request = pure response)
    (hunstamped : response.isStamped = false) (r : Replica) : app.Answers request r := by
  have hroute : on (route app.routes app.limiter request) r = (.ok response, r) := by
    rw [h]
    exact on_pure response r
  exact ⟨response, r, on_answerFaults_of_ok hroute,
    Response.not_isPartial_of_isStamped_eq_false hunstamped⟩

/-- The rejection of a limit reports it. -/
theorem answers_of_denied {found : Route} {r₁ : Replica} {d : Decision}
    (hdestination : destination app.routes request.method request.path = .route found)
    (hjudges : Judges app.limiter (callerIn app.limiter request r) r found.limits ds r₁)
    (hd : d ∈ ds) (hdenied : d.allowed = false) {x : Number.Binary64}
    (hnow : Counter.secondsOf? r₁.clock.now = .ok x) : app.Answers request r := by
  obtain ⟨seconds, response, -, hresponse, hhandle⟩ :=
    Route.on_handle_of_denied hjudges hd hdenied hnow
  obtain ⟨headers, hheaders⟩ := hjudges.exists_headers hd
  obtain ⟨rejection, hrejection, -, hcarries, -⟩ := Response.exists_ofRejection hheaders seconds
  cases hrejection.symm.trans hresponse
  exact ⟨_, _, on_answerFaults_route hdestination hhandle,
    fun hpartial => hpartial.2 hcarries.reportsLimit⟩

/-- What an endpoint returns reports a limit wholly or not at all, or it understates. -/
theorem Runs.answers_or_understates (h : app.Runs request r ds (.ok response)) :
    app.Answers request r ∨ app.Understates request r := by
  obtain ⟨headers, r', hshown, hinner⟩ := h.on_inner_of_ok
  by_cases hdegraded : ∀ d ∈ ds, d.degraded = true
  · rw [hshown.eq_nil hdegraded] at hinner
    by_cases hpartial : response.IsPartial
    · exact Or.inr (.returned h hdegraded hpartial)
    · exact Or.inl ⟨response, r', hinner, hpartial⟩
  · obtain ⟨d, hd, hdecided⟩ : ∃ d ∈ ds, d.degraded = false := by simpa using hdegraded
    obtain ⟨last, hlast⟩ := hshown.exists_headers hd hdecided
    have hcarries := Response.carries_setHeaders hlast response
    exact Or.inl ⟨_, r', hinner, fun hpartial => hpartial.2 hcarries.reportsLimit⟩

/-- What is made of a fault reports a limit wholly or not at all, or the endpoint understates. -/
theorem Runs.answers_or_understates_of_error (h : app.Runs request r ds (.error fault))
    (hanswerable : IsAnswerable fault) :
    app.Answers request r ∨ app.Understates request r := by
  cases fault
  case http status detail headers =>
    obtain ⟨response, r', hinner, hiff⟩ := h.exists_on_inner_of_http hanswerable
    by_cases hpartial : response.IsPartial
    · exact Or.inr (.raised h hanswerable (hiff.mp hpartial))
    · exact Or.inl ⟨response, r', hinner, hpartial⟩
  case exceeded rejection =>
    obtain ⟨response, hrendered, hcarries⟩ := exists_rendered_exceeded hanswerable
    obtain ⟨r', hinner⟩ := h.on_inner_of_error
    rw [hrendered] at hinner
    exact Or.inl ⟨response, r', hinner, fun hpartial => hpartial.2 hcarries.reportsLimit⟩
  case unavailable key cause =>
    obtain ⟨r', hinner⟩ := h.on_inner_of_error
    have hunstamped := Response.isStamped_ofBody 503 (some "application/json")
    exact Or.inl ⟨_, r', hinner, Response.not_isPartial_of_isStamped_eq_false (hunstamped _)⟩
  all_goals exact hanswerable.elim

/-- Whatever an endpoint does, there are three ways in which it can come out. -/
theorem Runs.cases {result : Except Fault Response} (h : app.Runs request r ds result) :
    app.Answers request r ∨ (∃ fault, app.Raises request r fault) ∨ app.Understates request r := by
  cases result with
  | ok answer => exact h.answers_or_understates.imp_right Or.inr
  | error fault =>
      by_cases hanswerable : IsAnswerable fault
      · exact (h.answers_or_understates_of_error hanswerable).imp_right Or.inr
      · exact Or.inr (Or.inl ⟨fault, ds, h, hanswerable⟩)

theorem answers_or_runs_of_route {found : Route} (henabled : app.limiter.enabled = true)
    (hdestination : destination app.routes request.method request.path = .route found)
    (hfits : r.clock.Fits found.limits.length
      (found.limits.map fun limit => (limit.policy app.limiter).windowNs)) :
    app.Answers request r ∨ ∃ ds result, app.Runs request r ds result := by
  obtain ⟨ds, r₁, hjudges⟩ :=
    exists_judges henabled (callerIn app.limiter request r) found.limits hfits
  by_cases hallowed : ∀ d ∈ ds, d.allowed = true
  · exact Or.inr ⟨ds, _, found, r₁, _, hdestination, hjudges, hallowed, rfl⟩
  · obtain ⟨d, hd, hdenied⟩ : ∃ d ∈ ds, d.allowed = false := by simpa using hallowed
    obtain ⟨x, hnow⟩ := hjudges.exists_secondsOf? hfits
    exact Or.inl (answers_of_denied hdestination hjudges hd hdenied hnow)

/-- Wherever a request goes, it is answered unless an endpoint is run. -/
theorem answers_or_runs (henabled : app.limiter.enabled = true)
    (hfits : r.clock.Fits
      (destination app.routes request.method request.path).limits.length
      ((destination app.routes request.method request.path).limits.map
        fun limit => (limit.policy app.limiter).windowNs)) :
    app.Answers request r ∨ ∃ ds result, app.Runs request r ds result := by
  cases hdestination : destination app.routes request.method request.path with
  | route found =>
      rw [hdestination] at hfits
      exact answers_or_runs_of_route henabled hdestination hfits
  | wrongMethod allowed =>
      have hroute : route app.routes app.limiter request = pure (wrongMethod allowed) := by
        unfold route
        rw [hdestination]
      exact Or.inl (answers_of_pure hroute
        (Response.isStamped_setHeader_ofBody (by decide +kernel) _ _ _ _) r)
  | redirect path =>
      have hroute : route app.routes app.limiter request =
          pure (redirect request.host path request.query) := by
        unfold route
        rw [hdestination]
      exact Or.inl (answers_of_pure hroute
        (Response.isStamped_setHeader_ofBody (by decide +kernel) _ _ _ _) r)
  | nowhere =>
      have hroute : route app.routes app.limiter request = pure notFound := by
        unfold route
        rw [hdestination]
      exact Or.inl (answers_of_pure hroute (Response.isStamped_ofBody _ _ _) r)

section Guarded

variable {d : Decision} {id : String} {r₁ : Replica} (hguard : app.guard = some g)
  (hexempt : request.urlPath ∉ g.exempt)
  (hcounts : Counts app.limiter (callerIn app.limiter request r) g.limit r d r₁)

include hguard hexempt hcounts

/-- A request that the guard denies gets a report of the denial. -/
theorem on_limited_of_denied (hdenied : d.allowed = false) {x : Number.Binary64}
    (hnow : Counter.secondsOf? r₁.clock.now = .ok x) :
    ∃ response r', on (app.limited request) r = (.ok response, r') ∧ response.ReportsLimit := by
  obtain ⟨⟨m, hreset⟩, -⟩ := hcounts.decision
  obtain ⟨headers, hheaders⟩ := Decision.exists_headers hreset
  obtain ⟨seconds, -, hverdict⟩ := hcounts.on_verdict_of_denied hdenied hnow
  obtain ⟨response, hresponse, -, hcarries, -⟩ := Response.exists_ofRejection hheaders seconds
  unfold limited
  rw [hguard]
  exact ⟨response, _, on_guarded_of_denied hexempt (hcounts.on_enforce.trans hverdict) hresponse,
    hcarries.reportsLimit⟩

/-- A response from within gets the fields of the guard if it reports no limit. -/
theorem on_limited_of_answered (hallowed : d.allowed = true) (hdegraded : d.degraded = false)
    {r' : Replica} (hinner : on (app.inner request) r₁ = (.ok response, r'))
    (hwhole : ¬response.IsPartial) :
    ∃ response, on (app.limited request) r = (.ok response, r') ∧ response.ReportsLimit := by
  obtain ⟨headers, hshown, hverdict⟩ := hcounts.on_verdict_of_allowed hallowed
  have hheaders : d.headers = .ok headers := by simpa [Decision.Shown, hdegraded] using hshown
  unfold limited
  rw [hguard]
  exact ⟨_, on_guarded_of_passed hexempt (hcounts.on_enforce.trans hverdict) hinner,
    Response.reportsLimit_stamp hheaders hwhole⟩

/-- A fault that is raised within passes the guard. -/
theorem on_limited_of_raises (hallowed : d.allowed = true) (hraises : app.Raises request r₁ fault) :
    ∃ left r', rendered fault = .error left ∧
      on (app.limited request) r = (.error { fault := left }, r') := by
  obtain ⟨headers, -, hverdict⟩ := hcounts.on_verdict_of_allowed hallowed
  obtain ⟨left, r', hleft, hinner⟩ := hraises.on_inner
  unfold limited
  rw [hguard]
  exact ⟨left, r', hleft, on_guarded_of_error hexempt (hcounts.on_enforce.trans hverdict) hinner⟩

/-- What has the first one of the fields that report a limit passes the guard as it is. -/
theorem on_limited_of_understates (hallowed : d.allowed = true)
    (hunderstates : app.Understates request r₁) :
    ∃ response r', on (app.limited request) r = (.ok response, r') ∧ ¬response.ReportsLimit := by
  obtain ⟨response, r', hinner, hstamped, hpartial⟩ := hunderstates.on_inner
  obtain ⟨headers, -, hverdict⟩ := hcounts.on_verdict_of_allowed hallowed
  have hrun := on_guarded_of_passed hexempt (hcounts.on_enforce.trans hverdict) hinner
  rw [Response.stamp, if_pos hstamped] at hrun
  unfold limited
  rw [hguard]
  exact ⟨response, r', hrun, hpartial⟩

/-- Within the layers, a request that the store decided about gets a report of its limit, unless
an endpoint raises a fault or understates. -/
theorem limited_cases (henabled : app.limiter.enabled = true) (hdegraded : d.degraded = false)
    (hfits : r.clock.Fits
      ((destination app.routes request.method request.path).limits.length + 1)
      ((g.limit :: (destination app.routes request.method request.path).limits).map
        fun limit => (limit.policy app.limiter).windowNs)) :
    (∃ response r', on (app.limited request) r = (.ok response, r') ∧ response.ReportsLimit) ∨
      d.allowed = true ∧
        ((∃ fault, app.Raises request r₁ fault) ∨ app.Understates request r₁) := by
  have hlater := hfits.next
  rw [← hcounts.clock_eq] at hlater
  cases hallowed : d.allowed with
  | false =>
      obtain ⟨x, hnow⟩ := Counter.secondsOf?_of_isSome hlater.reading
      exact Or.inl (on_limited_of_denied hguard hexempt hcounts hallowed hnow)
  | true =>
      have hanswered (h : app.Answers request r₁) : ∃ response r',
          on (app.limited request) r = (.ok response, r') ∧ response.ReportsLimit := by
        obtain ⟨response, r', hinner, hwhole⟩ := h
        obtain ⟨stamped, hrun, hstamped⟩ :=
          on_limited_of_answered hguard hexempt hcounts hallowed hdegraded hinner hwhole
        exact ⟨stamped, r', hrun, hstamped⟩
      rcases answers_or_runs henabled hlater with hanswers | ⟨ds, result, hruns⟩
      · exact Or.inl (hanswered hanswers)
      · exact hruns.cases.imp hanswered fun hbare => ⟨rfl, hbare⟩

end Guarded

end App

section Respond

variable {app : App} {g : Guard} {request : Request} {r : Replica}

theorem callerIn_withId {r' : Replica} (h : Replica.Alike r r') (l : Limiter) (request : Request)
    (id : String) : callerIn l (request.withId id) r' = callerIn l request r :=
  callerIn_eq h.settings_eq

/-- What is answered within the layers is stamped if it reports a limit. -/
theorem isStampedWith_iff (houter : app.outerGuard = none) (hquestion : question? request = none)
    {response : Response} {r₁ : Replica}
    (hrun : on (app.limited (request.withId (request.idAt r))) (request.servedOn r) =
      (.ok response, r₁)) :
    (({ request } : Visit).turn app.respond r).answer.IsStampedWith (request.idAt r) ↔
      response.ReportsLimit := by
  have hanswer := congrArg Prod.fst (App.run_respond_of_ok houter hquestion hrun)
  rw [show (({ request } : Visit).turn app.respond r).answer = _ from hanswer]
  exact Response.isStampedWith_sharedWith response _ _ request

end Respond

section Mixed

/-- An endpoint that raises its answer, with a part of a report. -/
def partialRoute : Route where
  methods := ["GET"]
  path := "/partial"
  endpoint := fun _ _ => throw (.http 403 (.string "Forbidden") [("X-RateLimit-Limit", "5")])

/-- An application with an endpoint that answers, one that raises a fault, and one that raises
its answer. -/
def mixedApp : App where
  limiter := builtin
  guard := some { policyName := "default" }
  routes := [notedRoute, brokenRoute, partialRoute]

theorem endpointsLog_mixedApp : mixedApp.EndpointsLog := by
  intro route hroute request
  simp only [mixedApp, List.mem_cons, List.not_mem_nil, or_false] at hroute
  rcases hroute with rfl | rfl | rfl
  · exact ((steady_log _).bind fun _ => (steady_log _).bind fun _ => steady_pure _).logs
  · exact (steady_throw _).logs
  · exact (steady_throw _).logs

theorem degraded_eq_of_alike {l : Limiter} {c : Caller} {limit : RouteLimit} {r r₁ r₂ : Replica}
    {d : Decision} {b : Bool} (hlike : Replica.Alike r r₁) (hcounts : Counts l c limit r₁ d r₂)
    (hseen : ((l.hit c (some limit.policyName) limit.strategy).on r).1.toOption.join.map
      Decision.degraded = some b) : d.degraded = b := by
  obtain ⟨result, s, s', hrun, hrun', -⟩ :=
    (l.steady_hit c (some limit.policyName) limit.strategy).on_alike hlike
  rw [hrun] at hseen
  cases hrun'.symm.trans hcounts.hit_eq
  exact Option.some.inj hseen

/-- An answer that is raised with a part of a report understates its limit. -/
example (r : Replica) : mixedApp.Understates { path := "/partial" } r := by
  have hruns : mixedApp.Runs { path := "/partial" } r []
      (.error (.http 403 (.string "Forbidden") [("X-RateLimit-Limit", "5")])) :=
    ⟨_, r, r, rfl, .done r, (fun _ hd => nomatch hd), rfl⟩
  have hanswerable : IsAnswerable
      (.http 403 (.string "Forbidden") [("X-RateLimit-Limit", "5")]) :=
    ⟨Or.inr (Or.inr rfl), by decide +kernel⟩
  exact .raised hruns hanswerable (by decide +kernel)

end Mixed

end Http

end RateLimit
