import RateLimit.Proofs.Replica.Counting
import RateLimit.Proofs.Text.Split

/-!
# What the log shows of credentials

A `Login` is the URL of a store with credentials in front of its last at sign; the client takes
all that stands there for its own, `Login.credentials_url`. The form of the URL that may be
logged leaves out what stands before the first at sign: all of the credentials if there is no
other one, and else all but what follows it, `Login.behindAt`. So the log tells two logins
apart that differ there alone: `Login.redacted_iff`.
-/

namespace RateLimit

open Text (splitFirst splitFirst_cases splitFirst_append_cons splitLast splitLast_append_cons
  splitMark_append decide_eq_false_of_notMem)

/-- The URL of a store with credentials: `scheme://userinfo@rest`. -/
structure Login where
  scheme : String
  userinfo : String
  rest : String
  scheme_at : '@' ∉ scheme.toList
  scheme_mark : ¬[':', '/', '/'] <:+: scheme.toList
  userinfo_slash : '/' ∉ userinfo.toList
  userinfo_question : '?' ∉ userinfo.toList
  userinfo_hash : '#' ∉ userinfo.toList
  rest_at : '@' ∉ rest.toList

namespace Login

variable (l : Login)

/-- The text of the URL. -/
def url : String := l.scheme ++ "://" ++ l.userinfo ++ "@" ++ l.rest

/-- What follows the first at sign of the credentials, up to the last at sign. -/
def behindAt : String :=
  match (splitFirst (· = '@') l.userinfo.toList).2 with
  | some tail => String.ofList tail ++ "@"
  | none => ""

theorem toList_url : l.url.toList =
    l.scheme.toList ++ [':', '/', '/'] ++ (l.userinfo.toList ++ '@' :: l.rest.toList) := by
  simp [url]

/-- Of what follows the scheme all is left that stands behind the first at sign. -/
theorem splitFirst_userinfo : ∃ before,
    splitFirst (· = '@') (l.userinfo.toList ++ '@' :: l.rest.toList) =
      (before, some (l.behindAt.toList ++ l.rest.toList)) := by
  unfold behindAt
  rcases splitFirst_cases '@' l.userinfo.toList with ⟨hat, hsplit⟩ |
    ⟨before, tail, hat, heq, hsplit⟩
  · refine ⟨l.userinfo.toList, ?_⟩
    rw [splitFirst_append_cons (decide_eq_false_of_notMem hat) (by decide), hsplit]
    rfl
  · refine ⟨before, ?_⟩
    rw [hsplit, heq, List.append_assoc, List.cons_append,
      splitFirst_append_cons (decide_eq_false_of_notMem hat) (by decide)]
    simp

theorem behindAt_eq_empty_iff : l.behindAt = "" ↔ '@' ∉ l.userinfo.toList := by
  unfold behindAt
  rcases splitFirst_cases '@' l.userinfo.toList with ⟨hat, hsplit⟩ |
    ⟨before, tail, hat, heq, hsplit⟩
  · rw [hsplit]
    simp [hat]
  · rw [hsplit, heq]
    simp

/-- What is shown of a login. -/
def shown : String := l.scheme ++ "://***@" ++ l.behindAt ++ l.rest

theorem redact?_url : Address.redact? l.url = .ok l.shown := by
  obtain ⟨before, hsplit⟩ := l.splitFirst_userinfo
  have hat : l.url.toList.contains '@' = true := by simp [toList_url]
  unfold Address.redact?
  rw [if_pos hat, toList_url, splitMark_append l.scheme_mark]
  dsimp only
  rw [hsplit]
  refine congrArg Except.ok (String.toList_inj.mp ?_)
  simp [shown]

theorem shown_eq_iff : l.shown = l.scheme ++ "://***@" ++ l.rest ↔ '@' ∉ l.userinfo.toList := by
  rw [← behindAt_eq_empty_iff, shown, ← String.toList_inj, ← String.toList_inj]
  simp

/-- Two logins that differ in their credentials alone. -/
structure SameBut (l l' : Login) : Prop where
  scheme_eq : l'.scheme = l.scheme
  rest_eq : l'.rest = l.rest

theorem SameBut.shown_eq_iff {l l' : Login} (h : SameBut l l') :
    l'.shown = l.shown ↔ l'.behindAt = l.behindAt := by
  rw [shown, shown, h.scheme_eq, h.rest_eq, ← String.toList_inj, ← String.toList_inj]
  simp

section Credentials

variable {url : Url}

/-- The characters that a URL keeps. -/
def kept (s : String) : List Char := s.toList.filter (!Url.isDropped ·)

theorem transport?_eq_some {scheme : String} {t : Transport}
    (h : Address.transport? scheme = some t) :
    scheme = "redis" ∨ scheme = "rediss" ∨ scheme = "unix" := by
  by_contra hother
  rw [not_or, not_or] at hother
  obtain ⟨hplain, hencrypted, hsocket⟩ := hother
  simp [Address.transport?, List.lookup_cons, beq_false_of_ne hplain,
    beq_false_of_ne hencrypted, beq_false_of_ne hsocket] at h

theorem authority_of_read? {text : String} (h : Url.read? text = .ok url) :
    url.authority = (Url.spanAuthority (Url.spanScheme (Url.clean text)).2).1 := by
  unfold Url.read? at h
  simp only [bind, Except.bind] at h
  split at h
  · cases h
  · split_ifs at h
    obtain rfl := Except.ok.inj h
    rfl

variable {t : Transport} (ht : Address.transport? l.scheme = some t)

include ht

theorem clean_url : Url.clean l.url =
    l.scheme.toList ++ ':' :: '/' :: '/' :: (kept l.userinfo ++ '@' :: kept l.rest) := by
  unfold Url.clean
  rw [toList_url]
  rcases transport?_eq_some ht with h | h | h <;> rw [h] <;> simp [kept, Url.isDropped]

theorem spanScheme_url : (Url.spanScheme (Url.clean l.url)).2 =
    '/' :: '/' :: (kept l.userinfo ++ '@' :: kept l.rest) := by
  unfold Url.spanScheme
  rw [clean_url l ht]
  rcases transport?_eq_some ht with h | h | h <;>
  · rw [h, splitFirst_append_cons (decide_eq_false_of_notMem (by decide)) (by decide)]
    rfl

omit ht in
/-- Nothing in the credentials ends the authority. -/
theorem endsAuthority_userinfo {c : Char} (hc : c ∈ l.userinfo.toList) :
    Url.endsAuthority c = false := by
  have hslash : c ≠ '/' := fun h => l.userinfo_slash (h ▸ hc)
  have hquestion : c ≠ '?' := fun h => l.userinfo_question (h ▸ hc)
  have hhash : c ≠ '#' := fun h => l.userinfo_hash (h ▸ hc)
  simp [Url.endsAuthority, hslash, hquestion, hhash]

omit ht in
theorem takeWhile_authority : (kept l.userinfo ++ '@' :: kept l.rest).takeWhile
      (!Url.endsAuthority ·) =
    kept l.userinfo ++ '@' :: (kept l.rest).takeWhile (!Url.endsAuthority ·) := by
  rw [List.takeWhile_append_of_pos, List.takeWhile_cons_of_pos (by decide)]
  intro c hc
  rw [l.endsAuthority_userinfo (List.mem_of_mem_filter hc)]
  rfl

/-- The client of the store takes all of the credentials for its own, up to the last at
sign. -/
theorem credentials_url (hurl : Url.read? l.url = .ok url) :
    (splitLast (· = '@') url.authority).1 = some (kept l.userinfo) := by
  have hauthority : url.authority =
      kept l.userinfo ++ '@' :: (kept l.rest).takeWhile (!Url.endsAuthority ·) := by
    rw [authority_of_read? hurl, l.spanScheme_url ht, ← takeWhile_authority]
    rfl
  have hrest : '@' ∉ (kept l.rest).takeWhile (!Url.endsAuthority ·) := fun h =>
    l.rest_at (List.mem_of_mem_filter ((List.takeWhile_sublist _).subset h))
  rw [hauthority, splitLast_append_cons (decide_eq_false_of_notMem hrest) (by decide)]

end Credentials

end Login

section Log

open Act Replica

variable {r r' : Replica} {l l' : Login} {text : String} {address : Address}

/-- The record of a client that was made for a URL of which a text is shown. -/
def creationRecord (text : String) : Log.Record where
  level := Log.debug
  logger := clientLogger
  message := "Created Redis client for " ++ text

/-- The texts of the records that are added to the log when the client is made. -/
def creationTexts (r : Replica) : List String :=
  ((makeClient.on r).2.records.drop r.records.length).map fun record => record.message

theorem on_connect (hurl : Address.read? r.settings.storeUrl = .ok address) :
    ∃ connection, (connect none none none).on r =
      (.ok connection, { r with issuedConnections := r.issuedConnections + 1 }) := by
  unfold connect
  rw [on_bind_of_ok r (on_get r)]
  dsimp only [Option.filter_none, Option.getD_none]
  rw [hurl]
  exact ⟨_, rfl⟩

theorem records_makeClient (hurl : Address.read? r.settings.storeUrl = .ok address)
    (htext : Address.redact? r.settings.storeUrl = .ok text) :
    (makeClient.on r).2.records = (r.withRecord (creationRecord text)).records := by
  obtain ⟨connection, hconnect⟩ := on_connect hurl
  unfold makeClient
  rw [on_bind_of_ok r hconnect, on_bind_of_ok _ (on_modify _ _), on_bind_of_ok _ (on_get _)]
  dsimp only
  rw [htext]
  dsimp only
  rw [on_bind_of_ok _ (on_log _ _)]
  unfold withRecord creationRecord
  split_ifs <;> rfl

/-- A replica whose client is for a login, and in whose log the record of it stands. -/
structure LogsCreation (r : Replica) (l : Login) : Prop where
  storeUrl_eq : r.settings.storeUrl = l.url
  readable : ∃ address, Address.read? l.url = .ok address
  debug : Log.isEnabled r.settings Log.debug = true

theorem LogsCreation.creationTexts_eq (h : LogsCreation r l) :
    creationTexts r = ["Created Redis client for " ++ l.shown] := by
  obtain ⟨address, hread⟩ := h.readable
  rw [← h.storeUrl_eq] at hread
  have htext := l.redact?_url
  rw [← h.storeUrl_eq] at htext
  have hmessage : ((creationRecord l.shown).withContext r.boundId).message =
      "Created Redis client for " ++ l.shown := by
    obtain ⟨attributes, heq⟩ := Log.Record.withContext_eq r.boundId (creationRecord l.shown)
    rw [heq]
    rfl
  unfold creationTexts
  rw [records_makeClient hread htext, withRecord, creationRecord, if_pos h.debug]
  rw [List.drop_left, List.map_singleton]
  exact congrArg (fun message => [message]) hmessage

/-- The credentials of a login are left out exactly if no at sign stands within them, and two
logins can be told apart in the log exactly if they differ behind the first at sign. -/
theorem Login.redacted_iff (l : Login) :
    (Address.redact? l.url = .ok (l.scheme ++ "://***@" ++ l.rest) ↔ '@' ∉ l.userinfo.toList) ∧
      ∀ (l' : Login) (r r' : Replica), l.SameBut l' → LogsCreation r l → LogsCreation r' l' →
        (creationTexts r = ["Created Redis client for " ++ (l.scheme ++ "://***@" ++ l.rest)] ↔
          '@' ∉ l.userinfo.toList) ∧
        (creationTexts r' = creationTexts r ↔ l'.behindAt = l.behindAt) := by
  refine ⟨?_, fun l' r r' hsame hr hr' => ⟨?_, ?_⟩⟩
  · rw [l.redact?_url, ← l.shown_eq_iff]
    exact ⟨Except.ok.inj, congrArg Except.ok⟩
  · rw [hr.creationTexts_eq, ← l.shown_eq_iff]
    simp
  · rw [hr.creationTexts_eq, hr'.creationTexts_eq, ← hsame.shown_eq_iff]
    simp

/-- A login with an at sign in its password. -/
def splitLogin : Login where
  scheme := "redis"
  userinfo := ":p@ss"
  rest := "host:6379/0"
  scheme_at := by decide
  scheme_mark := by decide
  userinfo_slash := by decide
  userinfo_question := by decide
  userinfo_hash := by decide
  rest_at := by decide

/-- A login that differs from it in the end of the password. -/
def twinLogin : Login where
  scheme := "redis"
  userinfo := ":p@th"
  rest := "host:6379/0"
  scheme_at := by decide
  scheme_mark := by decide
  userinfo_slash := by decide
  userinfo_question := by decide
  userinfo_hash := by decide
  rest_at := by decide

/-- A replica whose log takes all records. -/
def verboseReplica (url : String) : Replica where
  settings := { logLevel := "DEBUG", storeUrl := url }

theorem isOk_of_isSome {ε α : Type} {x : Except ε α} (h : x.toOption.isSome = true) :
    ∃ a, x = .ok a := by
  cases x with
  | error e => cases h
  | ok a => exact ⟨a, rfl⟩

theorem splitLogin_redacted :
    splitLogin.SameBut twinLogin ∧ LogsCreation (verboseReplica splitLogin.url) splitLogin ∧
      LogsCreation (verboseReplica twinLogin.url) twinLogin ∧
      Address.redact? splitLogin.url ≠ .ok "redis://***@host:6379/0" ∧
      creationTexts (verboseReplica splitLogin.url) ≠
        ["Created Redis client for redis://***@host:6379/0"] ∧
      creationTexts (verboseReplica twinLogin.url) ≠
        creationTexts (verboseReplica splitLogin.url) := by
  have hsame : splitLogin.SameBut twinLogin := ⟨rfl, rfl⟩
  have hsplit : LogsCreation (verboseReplica splitLogin.url) splitLogin :=
    ⟨rfl, isOk_of_isSome (by decide +kernel), by decide +kernel⟩
  have htwin : LogsCreation (verboseReplica twinLogin.url) twinLogin :=
    ⟨rfl, isOk_of_isSome (by decide +kernel), by decide +kernel⟩
  have hat : '@' ∈ splitLogin.userinfo.toList := by decide
  have hbehind : ¬twinLogin.behindAt = splitLogin.behindAt := by decide
  obtain ⟨hredact, hlog⟩ := splitLogin.redacted_iff
  obtain ⟨htext, htexts⟩ := hlog twinLogin _ _ hsame hsplit htwin
  exact ⟨hsame, hsplit, htwin, fun h => hredact.mp h hat, fun h => htext.mp h hat,
    fun h => hbehind (htexts.mp h)⟩

/-- The password that the client uses is not left out. -/
theorem not_forall_redacted :
    (Address.read? splitLogin.url).toOption.bind (·.password) = some "p@ss" ∧
      ¬∀ l : Login, Address.redact? l.url = .ok (l.scheme ++ "://***@" ++ l.rest) := by
  refine ⟨by decide +kernel, fun h => ?_⟩
  have hshown := Except.ok.inj (splitLogin.redact?_url.symm.trans (h splitLogin))
  have hat : '@' ∈ splitLogin.userinfo.toList := by decide
  exact splitLogin.shown_eq_iff.mp hshown hat

end Log

end RateLimit
