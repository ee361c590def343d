import RateLimit.Http.Guard
import RateLimit.Proofs.Replica.Act

/-!
# Responses and their header fields

`Serve.on x r` is what serving a request yields on a replica, as `Act.on` is for acts. A
response reports a decision, `Response.Carries`, in three header fields of its own: those of
another decision take their place, and the time to wait stands beside them. The response
to a denied request always exists, `exists_ofRejection`. Which faults a response is made of is
what `IsAnswerable` says.
-/

namespace RateLimit

open Act

namespace Http

namespace Serve

variable {α β : Type}

/-- What serving yields on a replica, and the replica that it leaves. -/
def on (x : Serve α) (r : Replica) : Except Crash α × Replica :=
  StateT.run (ExceptT.run x) r

variable {r r' : Replica}

theorem on_pure (a : α) (r : Replica) : on (pure a) r = (.ok a, r) := rfl

theorem on_bind_of_ok {x : Serve α} {a : α} (h : on x r = (.ok a, r')) (f : α → Serve β) :
    on (x >>= f) r = on (f a) r' := by
  unfold on ExceptT.run StateT.run at *
  simp only [bind, ExceptT.bind, ExceptT.mk, ExceptT.bindCont, StateT.bind]
  rw [h]

theorem on_bind_of_error {x : Serve α} {crash : Crash} (h : on x r = (.error crash, r'))
    (f : α → Serve β) : on (x >>= f) r = (.error crash, r') := by
  unfold on ExceptT.run StateT.run at *
  simp only [bind, ExceptT.bind, ExceptT.mk, ExceptT.bindCont, StateT.bind]
  rw [h]
  rfl

theorem on_tryCatch_of_ok {x : Serve α} {a : α} (h : on x r = (.ok a, r'))
    (f : Crash → Serve α) : on (tryCatch x f) r = (.ok a, r') := by
  unfold on ExceptT.run StateT.run at *
  simp only [tryCatch, tryCatchThe, MonadExceptOf.tryCatch, ExceptT.tryCatch, ExceptT.mk, bind,
    StateT.bind]
  rw [h]
  rfl

theorem on_tryCatch_of_error {x : Serve α} {crash : Crash} (h : on x r = (.error crash, r'))
    (f : Crash → Serve α) : on (tryCatch x f) r = on (f crash) r' := by
  unfold on ExceptT.run StateT.run at *
  simp only [tryCatch, tryCatchThe, MonadExceptOf.tryCatch, ExceptT.tryCatch, ExceptT.mk, bind,
    StateT.bind]
  rw [h]

theorem on_serve (act : Act α) (r : Replica) :
    on (serve act) r = ((act.on r).1.mapError ({ fault := · }), (act.on r).2) := by
  unfold on serve ExceptT.adapt Act.on ExceptT.run StateT.run
  simp only [ExceptT.mk, Functor.map, StateT.map, bind]
  rfl

theorem on_serve_of_ok {act : Act α} {a : α} (h : act.on r = (.ok a, r')) :
    on (serve act) r = (.ok a, r') := by
  rw [on_serve, h]
  rfl

theorem on_serve_of_error {act : Act α} {fault : Fault} (h : act.on r = (.error fault, r')) :
    on (serve act) r = (.error { fault }, r') := by
  rw [on_serve, h]
  rfl

end Serve

namespace Response

variable {response : Response} {headers : Headers} {d : Decision}

theorem setHeaders_append (response : Response) (headers more : Headers) :
    response.setHeaders (headers ++ more) = (response.setHeaders headers).setHeaders more :=
  List.foldl_append

@[simp] theorem status_setHeaders (response : Response) (headers : Headers) :
    (response.setHeaders headers).status = response.status := by
  induction headers generalizing response with
  | nil => rfl
  | cons field rest ih => exact ih _

@[simp] theorem body_setHeaders (response : Response) (headers : Headers) :
    (response.setHeaders headers).body = response.body := by
  induction headers generalizing response with
  | nil => rfl
  | cons field rest ih => exact ih _

theorem header?_setHeaders_of_forall_ne {name : String}
    (h : ∀ field ∈ headers, name.toLower ≠ field.1.toLower) :
    (response.setHeaders headers).header? name = response.header? name := by
  induction headers generalizing response with
  | nil => rfl
  | cons field rest ih =>
      have hrest := @ih (response.setHeader field.1 field.2)
        fun other hother => h other (List.mem_cons_of_mem _ hother)
      exact hrest.trans (header?_setHeader_of_ne (h field List.mem_cons_self))

theorem header?_setHeader_congr {other : Response} {name : String}
    (h : other.header? name = response.header? name) (field value : String) :
    (other.setHeader field value).header? name = (response.setHeader field value).header? name := by
  by_cases hname : name.toLower = field.toLower
  · unfold header? setHeader
    rw [hname, Table.get?_put_self, Table.get?_put_self]
  · rw [header?_setHeader_of_ne hname, header?_setHeader_of_ne hname, h]

theorem header?_setHeaders_congr {other : Response} {name : String}
    (h : other.header? name = response.header? name) (headers : Headers) :
    (other.setHeaders headers).header? name = (response.setHeaders headers).header? name := by
  induction headers generalizing response other with
  | nil => exact h
  | cons field rest ih => exact ih (header?_setHeader_congr h _ _)

theorem header?_ofBody {name : String} (hlength : name.toLower ≠ "content-length")
    (htype : name.toLower ≠ "content-type") (status : Nat) (kind : Option String) (body : String) :
    (ofBody status kind body).header? name = none := by
  unfold header? ofBody
  cases kind <;> simp [Table.get?_cons, hlength.symm, htype.symm]

def limitFields : List String :=
  ["X-RateLimit-Limit", "X-RateLimit-Remaining", "X-RateLimit-Reset"]

/-- A response that reports a decision. -/
structure Carries (response : Response) (d : Decision) : Prop where
  limit_eq : response.header? "X-RateLimit-Limit" = some (toString d.limit)
  remaining_eq : response.header? "X-RateLimit-Remaining" = some (toString d.remaining)
  reset_eq : ∃ reset, d.resetAt.toInt? = .ok reset ∧
    response.header? "X-RateLimit-Reset" = some (toString reset)

def IsBare (response : Response) : Prop := ∀ name ∈ limitFields, response.header? name = none

instance (response : Response) : Decidable response.IsBare :=
  inferInstanceAs (Decidable (∀ name ∈ limitFields, _))

theorem isBare_ofBody (status : Nat) (kind : Option String) (body : String) :
    (ofBody status kind body).IsBare := by
  have hother : ∀ name ∈ limitFields,
      name.toLower ≠ "content-length" ∧ name.toLower ≠ "content-type" := by decide +kernel
  exact fun name hname => header?_ofBody (hother name hname).1 (hother name hname).2 _ _ _

/-- A response with the status and the body of a denial. -/
def IsRejection (response : Response) : Prop :=
  response.status = 429 ∧ response.body = denial.body

instance (response : Response) : Decidable response.IsRejection :=
  inferInstanceAs (Decidable (_ ∧ _))

theorem carries_setHeaders (h : d.headers = .ok headers) (response : Response) :
    (response.setHeaders headers).Carries d := by
  obtain ⟨reset, hreset, rfl⟩ := Decision.headers_eq_ok_iff.mp h
  have hlimit : "X-RateLimit-Limit".toLower ≠ "X-RateLimit-Remaining".toLower ∧
      "X-RateLimit-Limit".toLower ≠ "X-RateLimit-Reset".toLower ∧
      "X-RateLimit-Remaining".toLower ≠ "X-RateLimit-Reset".toLower := by decide +kernel
  obtain ⟨hfirst, hsecond, hthird⟩ := hlimit
  unfold setHeaders
  simp only [List.foldl_cons, List.foldl_nil]
  exact ⟨by rw [header?_setHeader_of_ne hsecond, header?_setHeader_of_ne hfirst,
      header?_setHeader_self],
    by rw [header?_setHeader_of_ne hthird, header?_setHeader_self],
    reset, hreset, header?_setHeader_self _ _ _⟩

theorem Carries.isStamped (h : response.Carries d) : response.isStamped = true := by
  unfold Response.isStamped
  rw [h.limit_eq]
  rfl

theorem retryAfter_ne (h : d.headers = .ok headers) :
    ∀ field ∈ headers, "Retry-After".toLower ≠ field.1.toLower := by
  have hne : ∀ name ∈ limitFields, "Retry-After".toLower ≠ name.toLower := by decide +kernel
  obtain ⟨reset, -, rfl⟩ := Decision.headers_eq_ok_iff.mp h
  intro field hfield
  apply hne
  simp only [List.mem_cons, List.not_mem_nil, or_false] at hfield
  rcases hfield with rfl | rfl | rfl <;> simp [limitFields]

theorem exists_ofRejection (h : d.headers = .ok headers) (seconds : Int) :
    ∃ response, ofRejection ⟨d, seconds⟩ = .ok response ∧ response.IsRejection ∧
      response.Carries d ∧ response.header? "Retry-After" = some (toString seconds) := by
  have hrejection : ofRejection ⟨d, seconds⟩ =
      .ok ((denial.setHeaders headers).setHeader "Retry-After" (toString seconds)) := by
    unfold ofRejection Rejection.headers
    rw [h]
    exact congrArg Except.ok (setHeaders_append denial headers _)
  have hlimit : ∀ name ∈ limitFields, name.toLower ≠ "Retry-After".toLower := by
    decide +kernel
  have hcarries := carries_setHeaders h denial
  obtain ⟨reset, hreset, hfield⟩ := hcarries.reset_eq
  refine ⟨_, hrejection, ⟨status_setHeaders _ _, body_setHeaders _ _⟩, ⟨?_, ?_, reset, hreset, ?_⟩,
    header?_setHeader_self _ _ _⟩
  · rw [header?_setHeader_of_ne (hlimit _ (by decide)), hcarries.limit_eq]
  · rw [header?_setHeader_of_ne (hlimit _ (by decide)), hcarries.remaining_eq]
  · rw [header?_setHeader_of_ne (hlimit _ (by decide)), hfield]

end Response

section Rendered

variable {status : Nat} {detail : Json} {headers : Headers} {fault left : Fault}

/-- A fault of which a response is made: an answer that can be sent, a denial with header fields,
or a store that failed an administrative operation. -/
def IsAnswerable : Fault → Prop
  | .http status detail headers =>
    (status < 200 ∨ status ∈ [204, 205, 304] ∨ detail.isCompliant = true) ∧
      areSendable headers = true
  | .exceeded rejection => ∃ headers, rejection.decision.headers = .ok headers
  | .unavailable _ _ => True
  | _ => False

theorem exists_detailed?_eq_ok
    (h : status < 200 ∨ status ∈ [204, 205, 304] ∨ detail.isCompliant = true) :
    ∃ response, detailed? status detail = .ok response ∧ response.IsBare := by
  unfold detailed?
  split_ifs with hempty hreset hcompliant
  · exact ⟨_, rfl, fun _ _ => rfl⟩
  · exact ⟨_, rfl, Response.isBare_ofBody _ _ _⟩
  · exact ⟨_, rfl, Response.isBare_ofBody _ _ _⟩
  · simp only [List.mem_cons, List.not_mem_nil, or_false] at h
    tauto

theorem exists_detailed?_eq_error
    (h : ¬(status < 200 ∨ status ∈ [204, 205, 304] ∨ detail.isCompliant = true)) :
    ∃ text, detailed? status detail = .error (.invalid text) := by
  simp only [List.mem_cons, List.not_mem_nil, or_false] at h
  unfold detailed?
  rw [if_neg (by omega), if_neg (by omega), if_neg (by tauto)]
  exact ⟨_, rfl⟩

/-- The fields of an answer that is raised are put on a response without any that report a
limit. -/
theorem exists_rendered_http (h : IsAnswerable (.http status detail headers)) :
    ∃ response : Response, response.IsBare ∧
      rendered (.http status detail headers) = .ok (response.setHeaders headers) := by
  obtain ⟨response, hdetailed, hbare⟩ := exists_detailed?_eq_ok h.1
  refine ⟨response, hbare, ?_⟩
  show (detailed? status detail).bind (extended? headers) = _
  rw [hdetailed]
  exact if_pos h.2

theorem exists_rendered_exceeded {rejection : Rejection} (h : IsAnswerable (.exceeded rejection)) :
    ∃ response, rendered (.exceeded rejection) = .ok response ∧
      response.Carries rejection.decision := by
  obtain ⟨headers, hheaders⟩ := h
  obtain ⟨response, hresponse, -, hcarries, -⟩ :=
    Response.exists_ofRejection hheaders rejection.retryAfter
  refine ⟨response, ?_, hcarries⟩
  show (Response.ofRejection rejection).mapError Fault.conversion = _
  rw [hresponse]
  rfl

/-- Of what is left of a fault without a response, no response is made either. -/
theorem exists_left_of_not_isAnswerable (h : ¬IsAnswerable fault) :
    ∃ left, rendered fault = .error left ∧ rendered left = .error left := by
  cases fault
  case http status detail headers =>
    have hleft : ∃ text, (detailed? status detail).bind (extended? headers) =
        .error (.invalid text) := by
      by_cases hdetailed : status < 200 ∨ status ∈ [204, 205, 304] ∨ detail.isCompliant = true
      · obtain ⟨response, hresponse, -⟩ := exists_detailed?_eq_ok hdetailed
        rw [hresponse]
        exact ⟨_, if_neg fun hsendable => h ⟨hdetailed, hsendable⟩⟩
      · obtain ⟨text, htext⟩ := exists_detailed?_eq_error hdetailed
        rw [htext]
        exact ⟨text, rfl⟩
    obtain ⟨text, htext⟩ := hleft
    exact ⟨_, htext, rfl⟩
  case exceeded rejection =>
    have hleft : ∃ e, Response.ofRejection rejection = .error e := by
      unfold Response.ofRejection Rejection.headers
      cases hheaders : rejection.decision.headers with
      | error e => exact ⟨e, rfl⟩
      | ok headers => exact absurd ⟨headers, hheaders⟩ h
    obtain ⟨e, he⟩ := hleft
    refine ⟨.conversion e, ?_, rfl⟩
    show (Response.ofRejection rejection).mapError Fault.conversion = _
    rw [he]
    rfl
  case unavailable key cause => exact absurd trivial h
  all_goals exact ⟨_, rfl, rfl⟩

theorem exists_rendered_of_isAnswerable (h : IsAnswerable fault) :
    ∃ response, rendered fault = .ok response := by
  cases fault
  case http status detail headers =>
    obtain ⟨response, -, hrendered⟩ := exists_rendered_http h
    exact ⟨_, hrendered⟩
  case exceeded rejection =>
    obtain ⟨response, hrendered, -⟩ := exists_rendered_exceeded h
    exact ⟨response, hrendered⟩
  case unavailable key cause => exact ⟨_, rfl⟩
  all_goals exact h.elim

/-- Of a fault that was left, no response is made later on. -/
theorem rendered_of_left (h : rendered fault = .error left) : rendered left = .error left := by
  by_cases hanswerable : IsAnswerable fault
  · obtain ⟨response, hresponse⟩ := exists_rendered_of_isAnswerable hanswerable
    cases hresponse.symm.trans h
  · obtain ⟨left', hleft, hend⟩ := exists_left_of_not_isAnswerable hanswerable
    cases hleft.symm.trans h
    exact hend

end Rendered

end Http

end RateLimit
