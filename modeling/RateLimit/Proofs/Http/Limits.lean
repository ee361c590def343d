import RateLimit.Http.Route
import RateLimit.Proofs.Http.Answer
import RateLimit.Proofs.Limiter.RetryAfter
import RateLimit.Proofs.Limiter.Stack

/-!
# Limits around an endpoint

A request meets the limit of a guard and then those of its route, one stack that is judged in
order, `Judges`. If a limit denies the request, its rejection is the response, and nothing
that lies further inside is run; otherwise the endpoint is run once, and its response gets
the header fields of the last limit whose decision the store made. `guarded_route` says so
for every stack, whatever the store holds and however it fails.
-/

namespace RateLimit

open Act
open Number (Binary64)
open Number.Binary64

namespace Decision

variable {d : Decision} {ds : List Decision} {headers collected : Headers}

/-- The header fields of one decision take the place of those of another. -/
theorem foldl_put_headers (h : d.headers = .ok headers)
    (hcollected : collected = [] ∨ ∃ other : Decision, other.headers = .ok collected) :
    headers.foldl (fun t field => Table.put field.1 field.2 t) collected = headers := by
  obtain ⟨reset, -, rfl⟩ := headers_eq_ok_iff.mp h
  rcases hcollected with rfl | ⟨other, hother⟩
  · simp [Table.put]
  · obtain ⟨reset', -, rfl⟩ := headers_eq_ok_iff.mp hother
    simp [Table.put]

theorem Shown.eq_nil_or (h : Shown ds headers) :
    headers = [] ∨ ∃ d : Decision, d.headers = .ok headers := by
  unfold Shown at h
  cases hlast : (ds.filter fun d => !d.degraded).getLast? with
  | none =>
      rw [hlast] at h
      exact Or.inl h
  | some d =>
      rw [hlast] at h
      exact Or.inr ⟨d, h⟩

/-- Degraded decisions show nothing. -/
theorem Shown.eq_nil (h : Shown ds headers) (hdegraded : ∀ d ∈ ds, d.degraded = true) :
    headers = [] := by
  have hnone : ds.filter (fun d => !d.degraded) = [] := by simpa using hdegraded
  unfold Shown at h
  rwa [hnone] at h

theorem Shown.exists_headers (h : Shown ds headers) (hd : d ∈ ds) (hdegraded : d.degraded = false) :
    ∃ last : Decision, last.headers = .ok headers := by
  unfold Shown at h
  cases hlast : (ds.filter fun d => !d.degraded).getLast? with
  | none =>
      have hmem : d ∈ ds.filter fun d => !d.degraded :=
        List.mem_filter.mpr ⟨hd, by simp [hdegraded]⟩
      rw [List.getLast?_eq_none_iff.mp hlast] at hmem
      cases hmem
  | some last =>
      rw [hlast] at h
      exact ⟨last, h⟩

/-- The header fields of a later decision take the place of those of the earlier ones. -/
theorem Shown.concat (h : Shown ds collected) (hd : Shown [d] headers) :
    Shown (ds ++ [d])
      (headers.foldl (fun t field => Table.put field.1 field.2 t) collected) := by
  cases hdegraded : d.degraded with
  | true =>
      have hnil : headers = [] := by simpa [Shown, hdegraded] using hd
      rw [hnil]
      exact h.concat_of_degraded hdegraded
  | false =>
      have hheaders : d.headers = .ok headers := by simpa [Shown, hdegraded] using hd
      rw [foldl_put_headers hheaders h.eq_nil_or]
      exact shown_concat ds hdegraded hheaders

/-- The header fields of an earlier decision stand only where no later ones do. -/
theorem Shown.cons (hd : Shown [d] headers) (h : Shown ds collected) :
    Shown (d :: ds) (if collected = [] then headers else collected) := by
  unfold Shown at h ⊢
  rw [← List.singleton_append, List.filter_append, List.getLast?_append]
  cases hlast : (ds.filter fun d => !d.degraded).getLast? with
  | none =>
      rw [hlast] at h
      rw [if_pos h]
      exact hd
  | some last =>
      rw [hlast] at h
      rw [if_neg (Decision.headers_ne_nil h)]
      exact h

end Decision

namespace Limiter

open Http.Route

variable {l : Limiter} {c : Caller} {limits : List RouteLimit} {r r' : Replica} {d : Decision}
  {ds : List Decision}

theorem Judges.exists_headers (h : Judges l c r limits ds r') (hd : d ∈ ds) :
    ∃ headers, d.headers = .ok headers := by
  induction h with
  | done r => cases hd
  | passed hcounts _ _ ih =>
      rcases List.mem_cons.mp hd with rfl | hlater
      · obtain ⟨⟨m, hreset⟩, -⟩ := hcounts.decision
        exact Decision.exists_headers hreset
      · exact ih hlater
  | denied hcounts _ =>
      obtain ⟨⟨m, hreset⟩, -⟩ := hcounts.decision
      rw [List.mem_singleton.mp hd]
      exact Decision.exists_headers hreset

/-- A stack without a denial passes on the header fields of its last decision. -/
theorem Judges.on_applyLimits_of_allowed (h : Judges l c r limits ds r')
    (hallowed : ∀ d ∈ ds, d.allowed = true) {before : List Decision} {collected : Headers}
    (hshown : Decision.Shown before collected) :
    ∃ headers, Decision.Shown (before ++ ds) headers ∧
      (applyLimits l c collected limits).on r = (.ok (.passed headers), r') := by
  induction h generalizing before collected with
  | done r => exact ⟨collected, by rwa [List.append_nil], rfl⟩
  | @passed limit rest r r' r'' d ds hcounts hd hlater ih =>
      obtain ⟨fields, hfields, hverdict⟩ := hcounts.on_verdict_of_allowed hd
      obtain ⟨headers, hheaders, hrun⟩ :=
        ih (fun d hd => hallowed d (List.mem_cons_of_mem _ hd)) (hshown.concat hfields)
      refine ⟨headers, by simpa using hheaders, ?_⟩
      unfold applyLimits
      rw [on_bind_of_ok r (hcounts.on_enforce.trans hverdict)]
      exact hrun
  | denied hcounts hdenied =>
      rw [hallowed _ List.mem_cons_self] at hdenied
      cases hdenied

/-- A denial ends the stack. -/
theorem Judges.on_applyLimits_of_denied (h : Judges l c r limits ds r') (hd : d ∈ ds)
    (hdenied : d.allowed = false) {x : Binary64}
    (hnow : Counter.secondsOf? r'.clock.now = .ok x) (collected : Headers) :
    ∃ seconds, d.retryAfter x = .ok seconds ∧
      (applyLimits l c collected limits).on r = (.ok (.denied ⟨d, seconds⟩), r'.ticked) := by
  induction h generalizing collected with
  | done r => cases hd
  | passed hcounts hallowed hlater ih =>
      rcases List.mem_cons.mp hd with rfl | hlaterd
      · rw [hallowed] at hdenied
        cases hdenied
      · obtain ⟨fields, -, hverdict⟩ := hcounts.on_verdict_of_allowed hallowed
        obtain ⟨seconds, hseconds, hrun⟩ := ih hlaterd hnow
          (fields.foldl (fun t field => Table.put field.1 field.2 t) collected)
        refine ⟨seconds, hseconds, ?_⟩
        unfold applyLimits
        rw [on_bind_of_ok _ (hcounts.on_enforce.trans hverdict)]
        exact hrun
  | denied hcounts _ =>
      cases List.mem_singleton.mp hd
      obtain ⟨seconds, hseconds, hverdict⟩ := hcounts.on_verdict_of_denied hdenied hnow
      refine ⟨seconds, hseconds, ?_⟩
      unfold applyLimits
      rw [on_bind_of_ok _ (hcounts.on_enforce.trans hverdict)]
      rfl

end Limiter

namespace Http

open Limiter Serve

variable {l : Limiter} {g : Guard} {routes : List Route} {route : Route} {request : Request}
  {c : Caller} {r r' : Replica} {d : Decision} {ds : List Decision} {x : Binary64}

/-- The caller that a limiter takes a request to come from. -/
def callerIn (l : Limiter) (request : Request) (r : Replica) : Caller :=
  request.caller (l.trust.getD r.settings.trustForwarded)

theorem on_callerOf (l : Limiter) (request : Request) (r : Replica) :
    (callerOf l request).on r = (.ok (callerIn l request r), r) := rfl

theorem callerIn_eq (h : r'.settings = r.settings) :
    callerIn l request r' = callerIn l request r := by
  unfold callerIn
  rw [h]

def Guard.limit (g : Guard) : RouteLimit := ⟨g.policyName, g.strategy⟩

theorem on_deny_of_ok {rejection : Rejection} {response : Response}
    (h : Response.ofRejection rejection = .ok response) (r : Replica) :
    on (deny rejection) r = (.ok response, r) := by
  unfold deny
  rw [h]
  rfl

/-- A denied request does not reach the endpoint. -/
theorem Route.on_handle_of_denied (h : Judges l (callerIn l request r) r route.limits ds r')
    (hd : d ∈ ds) (hdenied : d.allowed = false)
    (hnow : Counter.secondsOf? r'.clock.now = .ok x) :
    ∃ seconds response, d.retryAfter x = .ok seconds ∧
      Response.ofRejection ⟨d, seconds⟩ = .ok response ∧
      on (route.handle l request) r = (.ok response, r'.ticked) := by
  obtain ⟨seconds, hseconds, hrun⟩ := h.on_applyLimits_of_denied hd hdenied hnow []
  obtain ⟨headers, hheaders⟩ := h.exists_headers hd
  obtain ⟨response, hresponse, -⟩ := Response.exists_ofRejection hheaders seconds
  refine ⟨seconds, response, hseconds, hresponse, ?_⟩
  unfold handle
  rw [on_bind_of_ok (on_serve_of_ok (on_callerOf l request r)),
    on_bind_of_ok (on_serve_of_ok hrun)]
  exact on_deny_of_ok hresponse _

theorem Route.on_handle_of_allowed (h : Judges l (callerIn l request r) r route.limits ds r')
    (hallowed : ∀ d ∈ ds, d.allowed = true) {answer : Response} {r'' : Replica}
    (hendpoint : (route.endpoint l request).on r' = (.ok answer, r'')) :
    ∃ headers, Decision.Shown ds headers ∧
      on (route.handle l request) r = (.ok (answer.setHeaders headers), r'') := by
  obtain ⟨headers, hshown, hrun⟩ :=
    h.on_applyLimits_of_allowed hallowed Decision.shown_nil
  refine ⟨headers, hshown, ?_⟩
  unfold handle
  rw [on_bind_of_ok (on_serve_of_ok (on_callerOf l request r)),
    on_bind_of_ok (on_serve_of_ok hrun), on_bind_of_ok (on_serve_of_ok hendpoint)]
  rfl

theorem on_answerFaults_route
    (hroute : destination routes request.method request.path = .route route)
    {response : Response} (h : on (route.handle l request) r = (.ok response, r')) :
    on (answerFaults (Http.route routes l) request) r = (.ok response, r') := by
  unfold answerFaults Http.route
  rw [hroute]
  exact on_tryCatch_of_ok h _

/-- What comes of a request that was denied: its response is the rejection, and beyond the
second reading of the clock nothing was done. -/
structure IsDenied (d : Decision) (r : Replica) (response : Response) (r' : Replica) : Prop where
  left : r' = r.ticked
  rejection : response.IsRejection
  carries : response.Carries d
  retry : ∃ x seconds, Counter.secondsOf? r.clock.now = .ok x ∧
    d.retryAfter x = .ok seconds ∧ Response.ofRejection ⟨d, seconds⟩ = .ok response ∧
      response.header? "Retry-After" = some (toString seconds)

/-- What becomes of the answer of an endpoint: it gets the header fields of the last decision
that the store made, and nothing else about it changes. -/
structure IsServed (answer : Response) (ds : List Decision) (response : Response) : Prop where
  answer_eq : ∃ headers, Decision.Shown ds headers ∧ response = answer.setHeaders headers
  carries : ∀ d, (ds.filter fun d => !d.degraded).getLast? = some d → response.Carries d
  bare : (∀ d ∈ ds, d.degraded = true) → response.IsBare
  retry_eq : response.header? "Retry-After" = answer.header? "Retry-After"
  rejection_iff : response.IsRejection ↔ answer.IsRejection

theorem isDenied_of_ofRejection {seconds : Int} {response : Response} {headers : Headers}
    (hheaders : d.headers = .ok headers) (hnow : Counter.secondsOf? r.clock.now = .ok x)
    (hseconds : d.retryAfter x = .ok seconds)
    (h : Response.ofRejection ⟨d, seconds⟩ = .ok response) :
    IsDenied d r response r.ticked := by
  obtain ⟨rejection, hrejection, hstatus, hcarries, hretry⟩ :=
    Response.exists_ofRejection hheaders seconds
  cases hrejection.symm.trans h
  exact ⟨rfl, hstatus, hcarries, x, seconds, hnow, hseconds, h, hretry⟩

theorem isServed_of_shown {answer : Response} {headers : Headers} (hbare : answer.IsBare)
    (hshown : Decision.Shown ds headers) : IsServed answer ds (answer.setHeaders headers) where
  answer_eq := ⟨headers, hshown, rfl⟩
  carries d hlast := by
    unfold Decision.Shown at hshown
    rw [hlast] at hshown
    exact Response.carries_setHeaders hshown answer
  bare hdegraded := by
    rw [hshown.eq_nil hdegraded]
    exact hbare
  retry_eq := by
    rcases hshown.eq_nil_or with rfl | ⟨d, hd⟩
    · rfl
    · exact Response.header?_setHeaders_of_forall_ne (Response.retryAfter_ne hd)
  rejection_iff := by simp [Response.IsRejection]

/-- The header fields of the guard stand only where no limit of the route put its own. -/
theorem stamp_of_shown {answer : Response} {headers fields : Headers} (hbare : answer.IsBare)
    (hshown : Decision.Shown ds headers) :
    (answer.setHeaders headers).stamp fields =
      answer.setHeaders (if headers = [] then fields else headers) := by
  unfold Response.stamp
  rcases hshown.eq_nil_or with rfl | ⟨d, hd⟩
  · have hunstamped : answer.isStamped = false := by
      unfold Response.isStamped
      rw [hbare "X-RateLimit-Limit" (by decide)]
      rfl
    rw [if_pos rfl]
    exact if_neg (by rw [show answer.setHeaders [] = answer from rfl, hunstamped]; decide)
  · rw [if_neg (Decision.headers_ne_nil hd),
      if_pos (Response.carries_setHeaders hd answer).isStamped]

section Guarded

variable {next : Handler} {rejection : Rejection} {response : Response} {fields : Headers}
  {r'' : Replica} (hexempt : request.urlPath ∉ g.exempt)

include hexempt

theorem on_guarded_of_denied
    (henforce : (l.enforce (callerIn l request r) (some g.policyName) g.strategy).on r =
      (.ok (.denied rejection), r'))
    (hresponse : Response.ofRejection rejection = .ok response) :
    on (guarded g l next request) r = (.ok response, r') := by
  unfold guarded
  rw [if_neg (by simpa using hexempt), on_bind_of_ok (on_serve_of_ok (on_callerOf l request r)),
    on_bind_of_ok (on_serve_of_ok henforce)]
  exact on_deny_of_ok hresponse r'

theorem on_guarded_of_passed
    (henforce : (l.enforce (callerIn l request r) (some g.policyName) g.strategy).on r =
      (.ok (.passed fields), r'))
    (hnext : on (next request) r' = (.ok response, r'')) :
    on (guarded g l next request) r = (.ok (response.stamp fields), r'') := by
  unfold guarded
  rw [if_neg (by simpa using hexempt), on_bind_of_ok (on_serve_of_ok (on_callerOf l request r)),
    on_bind_of_ok (on_serve_of_ok henforce)]
  exact on_bind_of_ok hnext _

/-- A crash passes a guard as it is. -/
theorem on_guarded_of_error {crash : Crash}
    (henforce : (l.enforce (callerIn l request r) (some g.policyName) g.strategy).on r =
      (.ok (.passed fields), r'))
    (hnext : on (next request) r' = (.error crash, r'')) :
    on (guarded g l next request) r = (.error crash, r'') := by
  unfold guarded
  rw [if_neg (by simpa using hexempt), on_bind_of_ok (on_serve_of_ok (on_callerOf l request r)),
    on_bind_of_ok (on_serve_of_ok henforce)]
  exact on_bind_of_error hnext _

variable (hroute : destination routes request.method request.path = .route route)
  (h : Judges l (callerIn l request r) r (g.limit :: route.limits) ds r')

include hroute h

/-- The stack that a guard begins goes on with the limits of the route. -/
theorem on_guarded_route_of_denied (hd : d ∈ ds) (hdenied : d.allowed = false)
    (hnow : Counter.secondsOf? r'.clock.now = .ok x) :
    ∃ response, on (guarded g l (answerFaults (Http.route routes l)) request) r =
        (.ok response, r'.ticked) ∧ IsDenied d r' response r'.ticked := by
  obtain ⟨headers, hheaders⟩ := h.exists_headers hd
  cases h with
  | denied hcounts _ =>
      cases List.mem_singleton.mp hd
      obtain ⟨seconds, hseconds, hverdict⟩ := hcounts.on_verdict_of_denied hdenied hnow
      obtain ⟨response, hresponse, -⟩ := Response.exists_ofRejection hheaders seconds
      exact ⟨response,
        on_guarded_of_denied hexempt (hcounts.on_enforce.trans hverdict) hresponse,
        isDenied_of_ofRejection hheaders hnow hseconds hresponse⟩
  | passed hcounts hallowed hlater =>
      have hmem : d ∈ _ := (List.mem_cons.mp hd).resolve_left fun heq => by
        rw [heq, hallowed] at hdenied
        cases hdenied
      obtain ⟨fields, -, hverdict⟩ := hcounts.on_verdict_of_allowed hallowed
      rw [← callerIn_eq hcounts.settings_eq] at hlater
      obtain ⟨seconds, response, hseconds, hresponse, hhandle⟩ :=
        Route.on_handle_of_denied hlater hmem hdenied hnow
      have hend := isDenied_of_ofRejection hheaders hnow hseconds hresponse
      have hrun := on_guarded_of_passed hexempt (hcounts.on_enforce.trans hverdict)
        (on_answerFaults_route hroute hhandle)
      rw [Response.stamp, if_pos hend.carries.isStamped] at hrun
      exact ⟨response, hrun, hend⟩

theorem on_guarded_route_of_allowed (hallowed : ∀ d ∈ ds, d.allowed = true)
    {answer : Response} (hendpoint : (route.endpoint l request).on r' = (.ok answer, r''))
    (hbare : answer.IsBare) :
    ∃ response, on (guarded g l (answerFaults (Http.route routes l)) request) r =
        (.ok response, r'') ∧ IsServed answer ds response := by
  cases h with
  | denied _ hdenied =>
      rw [hallowed _ List.mem_cons_self] at hdenied
      cases hdenied
  | passed hcounts hfirst hlater =>
      obtain ⟨fields, hfields, hverdict⟩ := hcounts.on_verdict_of_allowed hfirst
      rw [← callerIn_eq hcounts.settings_eq] at hlater
      obtain ⟨headers, hshown, hhandle⟩ := Route.on_handle_of_allowed hlater
        (fun d hd => hallowed d (List.mem_cons_of_mem _ hd)) hendpoint
      have hrun := on_guarded_of_passed hexempt (hcounts.on_enforce.trans hverdict)
        (on_answerFaults_route hroute hhandle)
      rw [stamp_of_shown hbare hshown] at hrun
      exact ⟨_, hrun, isServed_of_shown hbare (hfields.cons hshown)⟩

end Guarded

/-- A request meets the limit of the guard and those of its route, which judge it in order. A
limit that denies it is the last one, and its rejection is the response. Otherwise the
endpoint is run once, and its answer is the response, which reports the last decision that
the store made. -/
theorem guarded_route (henabled : l.enabled = true)
    (hexempt : request.urlPath ∉ g.exempt)
    (hroute : destination routes request.method request.path = .route route)
    (hendpoint : ∀ r, ∃ answer r', (route.endpoint l request).on r = (.ok answer, r') ∧
      answer.IsBare)
    (hfits : r.clock.Fits (route.limits.length + 1)
      ((g.limit :: route.limits).map fun limit => (limit.policy l).windowNs)) :
    ∃ ds r₁ response r₂,
      Judges l (callerIn l request r) r (g.limit :: route.limits) ds r₁ ∧
        on (guarded g l (answerFaults (Http.route routes l)) request) r =
          (.ok response, r₂) ∧
        (∀ d ∈ ds, d.allowed = false → IsDenied d r₁ response r₂) ∧
        ((∀ d ∈ ds, d.allowed = true) →
          ds.length = route.limits.length + 1 ∧ ∃ answer,
            (route.endpoint l request).on r₁ = (.ok answer, r₂) ∧
              IsServed answer ds response) ∧
        ((∀ answer r', (route.endpoint l request).on r₁ = (.ok answer, r') →
            ¬answer.IsRejection) →
          (response.IsRejection ↔ ∃ d ∈ ds, d.allowed = false)) := by
  obtain ⟨ds, r₁, hjudges⟩ := exists_judges henabled (callerIn l request r)
    (g.limit :: route.limits) hfits
  obtain ⟨x, hnow⟩ := hjudges.exists_secondsOf? hfits
  by_cases hallowed : ∀ d ∈ ds, d.allowed = true
  · obtain ⟨answer, r₂, hanswer, hbare⟩ := hendpoint r₁
    obtain ⟨response, hrun, hserved⟩ :=
      on_guarded_route_of_allowed hexempt hroute hjudges hallowed hanswer hbare
    have hnone : ∀ d ∈ ds, d.allowed ≠ false := by simpa using hallowed
    refine ⟨ds, r₁, response, r₂, hjudges, hrun, ?_,
      fun _ => ⟨hjudges.length_eq hallowed, answer, hanswer, hserved⟩, fun hplain => ?_⟩
    · exact fun d hd hdenied => absurd hdenied (hnone d hd)
    · rw [hserved.rejection_iff]
      exact iff_of_false (hplain answer r₂ hanswer) fun ⟨d, hd, hdenied⟩ => hnone d hd hdenied
  · have hdenial : ∃ d ∈ ds, d.allowed = false := by simpa using hallowed
    obtain ⟨d, hd, hdenied⟩ := hdenial
    obtain ⟨response, hrun, hend⟩ :=
      on_guarded_route_of_denied hexempt hroute hjudges hd hdenied hnow
    refine ⟨ds, r₁, response, r₁.ticked, hjudges, hrun, ?_, fun hall => absurd hall hallowed,
      fun _ => iff_of_true hend.rejection ⟨d, hd, hdenied⟩⟩
    -- Whichever decision is said to deny the request, it is the one that ended the stack.
    intro e he hdenied'
    obtain ⟨response', hrun', hend'⟩ :=
      on_guarded_route_of_denied hexempt hroute hjudges he hdenied' hnow
    cases hrun.symm.trans hrun'
    exact hend'

def limitedRoute : Route where
  methods := ["POST"]
  path := "/stack"
  limits := [.auth, .strict]
  endpoint := fun _ _ => return .json 200 (.object [("success", .bool true)])

/-- The guest after a burst, when the store does not answer at first. -/
def afterHang : Replica := { Limiter.afterBurst with disruptions := [{ effect := .hangs }] }

/-- What a client sees of a response to a limited request. -/
def seen? : Except Crash Response → Option (Nat × Option String × Option String)
  | .ok response =>
      some (response.status, response.header? "X-RateLimit-Limit", response.header? "Retry-After")
  | .error _ => none

/-- The check of the guard degrades, the first limit of the route lets the guest pass, and the
second one denies the request. -/
theorem limitedRoute_guarded :
    let g : Guard := { policyName := "default" }
    let request : Request := { method := "POST", path := "/stack", peer := some "10.0.0.1" }
    ∃ ds r₁ response r₂,
      Judges builtin { clientIp := "10.0.0.1", path := "/stack" } afterHang
          (g.limit :: limitedRoute.limits) ds r₁ ∧
        on (guarded g builtin (answerFaults (Http.route [limitedRoute] builtin)) request)
          afterHang = (.ok response, r₂) ∧
        response.status = 429 ∧ response.header? "X-RateLimit-Limit" = some "3" ∧
        response.header? "Retry-After" = some "300" ∧
        ∃ d ∈ ds, d.allowed = false ∧ IsDenied d r₁ response r₂ := by
  intro g request
  have hroute : destination [limitedRoute] request.method request.path = .route limitedRoute :=
    rfl
  have hendpoint : ∀ r, ∃ answer r', (limitedRoute.endpoint builtin request).on r =
      (.ok answer, r') ∧ answer.IsBare := fun r => ⟨_, r, rfl, by decide +kernel⟩
  have hfits : afterHang.clock.Fits (limitedRoute.limits.length + 1)
      ((g.limit :: limitedRoute.limits).map fun limit => (limit.policy builtin).windowNs) := by
    unfold Clock.Fits
    decide +kernel
  have hseen : seen? (on (guarded g builtin
      (answerFaults (Http.route [limitedRoute] builtin)) request) afterHang).1 =
        some (429, some "3", some "300") := by decide +kernel
  obtain ⟨ds, r₁, response, r₂, hjudges, hrun, hdenied, hserved, -⟩ :=
    guarded_route (l := builtin) (g := g) rfl (by decide +kernel) hroute hendpoint hfits
  have hcaller : callerIn builtin request afterHang =
      { clientIp := "10.0.0.1", path := "/stack" } := by decide +kernel
  rw [hcaller] at hjudges
  rw [hrun] at hseen
  simp only [seen?, Option.some.injEq, Prod.mk.injEq] at hseen
  obtain ⟨hstatus, hlimit, hretry⟩ := hseen
  have hdenial : ∃ d ∈ ds, d.allowed = false := by
    by_contra hnone
    obtain ⟨-, answer, hanswer, hanswered⟩ := hserved (by simpa using hnone)
    cases hanswer
    have hplain : (Response.json 200 (.object [("success", .bool true)])).header? "Retry-After" =
        none := by decide +kernel
    cases hplain.symm.trans (hanswered.retry_eq.symm.trans hretry)
  obtain ⟨d, hd, hd'⟩ := hdenial
  exact ⟨ds, r₁, response, r₂, hjudges, hrun, hstatus, hlimit, hretry, d, hd, hd',
    hdenied d hd hd'⟩

end Http

end RateLimit
