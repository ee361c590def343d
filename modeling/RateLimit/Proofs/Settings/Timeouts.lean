import RateLimit.Limiter
import RateLimit.Proofs.Replica.Act
import RateLimit.Proofs.Settings.Values

/-!
# Timeouts of settings

Settings refuse a timeout that is not positive, and one for the store that is above ten seconds.
Both checks are comparisons that a value fails only if it is a number: `Binary64.nan` is neither
at most zero nor above ten, so it passes them. `Json.WritesNan` says which values stand for it. A
timeout of settings that are loaded is bounded exactly if the value that counts for it is none of
these, `timeouts_bound_iff`, and so is the timeout of a limiter that is given none.
-/

namespace RateLimit

open Number (Binary64)

namespace Number

/-- A text for what is not a number: the word in any case, perhaps with a sign. -/
def IsNanText (cs : List Char) : Prop :=
  (String.ofList (Decimal.spanSign cs).2).toLower = "nan"

instance (cs : List Char) : Decidable (IsNanText cs) := inferInstanceAs (Decidable (_ = _))

variable {x : Binary64}

theorem Binary64.ofRat_ne_nan (q : Rat) : Binary64.ofRat q ≠ .nan := by
  unfold Binary64.ofRat
  dsimp only
  split_ifs <;> nofun

theorem Decimal.toBinary64_ne_nan (d : Decimal) : d.toBinary64 ≠ .nan := by
  unfold Decimal.toBinary64
  dsimp only
  split_ifs <;> first | exact Binary64.ofRat_ne_nan _ | nofun

theorem Binary64.ofWord?_eq_nan_iff (negative : Bool) {word : String} :
    ofWord? negative word = some .nan ↔ word = "nan" := by
  unfold ofWord? infinityWords nanWords
  constructor
  · intro h
    split_ifs at h with hinf hnan
    · cases h
    · simpa using hnan
  · rintro rfl
    rfl

/-- No decimal is read as what is not a number, only the word for it is. -/
theorem Binary64.ofText?_eq_nan_iff {cs : List Char} :
    ofText? cs = some .nan ↔ IsNanText cs := by
  unfold ofText? IsNanText
  rw [← ofWord?_eq_nan_iff (Decimal.spanSign cs).1]
  dsimp only
  cases hword : ofWord? (Decimal.spanSign cs).1 (String.ofList (Decimal.spanSign cs).2).toLower with
  | some x => rfl
  | none =>
      constructor
      · intro h
        obtain ⟨d, -, hd⟩ := Option.map_eq_some_iff.mp h
        exact absurd hd d.toBinary64_ne_nan
      · nofun

/-- A number is at most an integer or above it. -/
theorem Binary64.leInt_eq_not_gtInt (h : x ≠ .nan) (n : Int) : x.leInt n = !x.gtInt n := by
  cases x with
  | nan => exact absurd rfl h
  | infinite s => exact (Bool.not_not s).symm
  | negativeZero =>
      unfold leInt gtInt
      rw [← decide_not]
      exact decide_eq_decide.mpr not_lt.symm
  | finite q =>
      unfold leInt gtInt
      rw [← decide_not]
      exact decide_eq_decide.mpr not_lt.symm

end Number

namespace Json

open Number (IsNanText)

/-- A value that is read as what is not a number. A text may have white space around the word for
it; one that cannot be read as it is may have low lines among its letters. -/
def WritesNan : Json → Prop
  | .float x => x = .nan
  | .string s =>
    let trimmed := Text.trim Text.isWhiteSpace s.toList
    IsNanText trimmed ∨
      Binary64.ofText? trimmed = none ∧ ∃ cs ∈ Coercion.dropLowLines? s.toList, IsNanText cs
  | _ => False

instance : DecidablePred WritesNan
  | .float x => inferInstanceAs (Decidable (x = .nan))
  | .string s =>
    inferInstanceAs (Decidable (IsNanText (Text.trim Text.isWhiteSpace s.toList) ∨
      Binary64.ofText? (Text.trim Text.isWhiteSpace s.toList) = none ∧
        ∃ cs ∈ Coercion.dropLowLines? s.toList, IsNanText cs))
  | .null | .bool _ | .int _ | .array _ | .object _ | .broken _ | .brokenObject _ =>
    inferInstanceAs (Decidable False)

theorem numberOfText?_eq_nan_iff {s : String} :
    Coercion.numberOfText? s = some .nan ↔ (string s).WritesNan := by
  unfold Coercion.numberOfText? WritesNan
  dsimp only
  rw [← Binary64.ofText?_eq_nan_iff]
  cases Binary64.ofText? (Text.trim Text.isWhiteSpace s.toList) with
  | some x => simp
  | none => simp [Option.bind_eq_some_iff, Binary64.ofText?_eq_nan_iff]

/-- What is not a number is read from the values that write it and from no others. -/
theorem readNumber_eq_nan_iff {v : Json} :
    Coercion.readNumber v = .ok .nan ↔ v.WritesNan := by
  cases v with
  | float x => exact iff_of_eq (Except.ok.injEq x .nan)
  | int n =>
      unfold Coercion.readNumber Binary64.ofInt?
      dsimp only
      split_ifs <;> exact iff_of_false nofun id
  | string s =>
      rw [← numberOfText?_eq_nan_iff]
      unfold Coercion.readNumber
      dsimp only
      cases Coercion.numberOfText? s <;> simp
  | _ => exact iff_of_false nofun id

example : WritesNan (.string " -NaN ") ∧ ¬WritesNan (.string "1e999") := by decide +kernel

end Json

/-- A timeout of a number of seconds above zero that is no larger than the limit. -/
def Timeout.IsPositiveUpTo (timeout : Timeout) (limit : Int) : Prop :=
  ∃ x, timeout.seconds? = .ok x ∧ x.gtInt 0 = true ∧ x.leInt limit = true

theorem Timeout.isPositiveUpTo_seconds_iff {x : Binary64} {limit : Int} :
    (Timeout.seconds x).IsPositiveUpTo limit ↔ x.gtInt 0 = true ∧ x.leInt limit = true := by
  simp [IsPositiveUpTo, seconds?]

namespace Settings

variable {environment : List (String × String)} {arguments : List (String × Json)}
  {given : Table Json} {s : Settings} {x : Binary64} {v : Json}

theorem of_readTimeout (h : readTimeout v = .ok x) :
    Coercion.readNumber v = .ok x ∧ x.leInt 0 = false := by
  unfold readTimeout at h
  obtain ⟨y, hread, hcheck⟩ := bind_eq_ok_iff.mp h
  split_ifs at hcheck with hsign
  cases hcheck
  exact ⟨hread, Bool.eq_false_iff.mpr hsign⟩

theorem of_readStoreTimeout (h : readStoreTimeout v = .ok x) :
    readTimeout v = .ok x ∧ x.gtInt 10 = false := by
  unfold readStoreTimeout at h
  obtain ⟨y, hread, hcheck⟩ := bind_eq_ok_iff.mp h
  split_ifs at hcheck with hlength
  cases hcheck
  exact ⟨hread, Bool.eq_false_iff.mpr hlength⟩

/-- A timeout that is not refused is positive, if it is a number. -/
theorem positive_iff_of_readTimeout (h : readTimeout v = .ok x) :
    x.gtInt 0 = true ↔ x ≠ .nan := by
  constructor
  · rintro hpositive rfl
    cases hpositive
  · intro hnumber
    have hsign := (of_readTimeout h).2
    rwa [Binary64.leInt_eq_not_gtInt hnumber, Bool.not_eq_false'] at hsign

theorem bounded_iff_of_readStoreTimeout (h : readStoreTimeout v = .ok x) :
    x.gtInt 0 = true ∧ x.leInt 10 = true ↔ x ≠ .nan := by
  obtain ⟨hread, hlength⟩ := of_readStoreTimeout h
  rw [positive_iff_of_readTimeout hread, and_iff_left_iff_imp]
  intro hnumber
  rw [Binary64.leInt_eq_not_gtInt hnumber, hlength]
  rfl

/-- If a property of timeouts holds of all numbers that are read and of the default, it fails
exactly for what is not a number. -/
theorem iff_of_field {P : Binary64 → Prop} {read : Json → Except IssueKind Binary64}
    {name : String} (hdefault : P (.finite 2))
    (hread : ∀ v x, read v = .ok x → Coercion.readNumber v = .ok x ∧ (P x ↔ x ≠ .nan))
    (h : field given name (.finite 2) read = .valid x) :
    P x ↔ ¬∃ v ∈ Table.get? given name, v.WritesNan := by
  rcases field_eq_valid_iff.mp h with ⟨hnone, rfl⟩ | ⟨v, hv, hx⟩
  · rw [hnone]
    exact iff_of_true hdefault nofun
  · obtain ⟨hnumber, hiff⟩ := hread v x hx
    have hnan : x = .nan ↔ v.WritesNan := by
      rw [← Json.readNumber_eq_nan_iff, hnumber, Except.ok.injEq]
    rw [hiff, hv]
    simp [hnan]

/-- The timeouts of valid settings are read one by one. -/
theorem timeouts_of_check (h : check given = .valid s) :
    field given "redis_socket_timeout" (.finite 2) readTimeout = .valid s.socketTimeout ∧
      field given "redis_connect_timeout" (.finite 2) readTimeout = .valid s.connectTimeout ∧
        field given "rate_limit_store_timeout" (.finite 2) readStoreTimeout =
          .valid s.storeTimeout := by
  unfold check at h
  -- The fields come off from the last one to the first.
  iterate 5
    rw [Checked.seq_eq_valid_iff] at h
    obtain ⟨_, _, h, -, rfl⟩ := h
  rw [Checked.seq_eq_valid_iff] at h
  obtain ⟨_, _, h, hstore, rfl⟩ := h
  rw [Checked.seq_eq_valid_iff] at h
  obtain ⟨_, _, h, -, rfl⟩ := h
  rw [Checked.seq_eq_valid_iff] at h
  obtain ⟨_, _, h, hconnect, rfl⟩ := h
  rw [Checked.seq_eq_valid_iff] at h
  obtain ⟨_, _, h, hsocket, rfl⟩ := h
  iterate 3
    rw [Checked.seq_eq_valid_iff] at h
    obtain ⟨_, _, h, -, rfl⟩ := h
  rw [Checked.map_eq_valid_iff] at h
  obtain ⟨_, -, rfl⟩ := h
  exact ⟨hsocket, hconnect, hstore⟩

/-- The timeouts of settings that are loaded are positive, and the one of the store is at most
ten seconds, each exactly if the value that counts for it does not write what is not a number. The
same holds of the timeout of a limiter that is given none. -/
theorem timeouts_bound_iff (h : load environment arguments = .ok s) :
    let writesNan (name : String) := ∃ v ∈ value? environment arguments name, v.WritesNan
    (s.socketTimeout.gtInt 0 = true ↔ ¬writesNan "redis_socket_timeout") ∧
      (s.connectTimeout.gtInt 0 = true ↔ ¬writesNan "redis_connect_timeout") ∧
      (s.storeTimeout.gtInt 0 = true ∧ s.storeTimeout.leInt 10 = true ↔
        ¬writesNan "rate_limit_store_timeout") ∧
      ∀ (registry : Registry) (enabled trust : Option Bool) (r : Replica), r.settings = s →
        ∃ l, (Limiter.ofSettings registry enabled trust none).on r = (.ok l, r) ∧
          (l.timeout.IsPositiveUpTo 10 ↔ ¬writesNan "rate_limit_store_timeout") := by
  intro writesNan
  obtain ⟨given, hcheck, hgiven⟩ := exists_check_of_load h
  obtain ⟨hsocket, hconnect, hstore⟩ := timeouts_of_check hcheck
  have hpositive (v : Json) (x : Binary64) (hx : readTimeout v = .ok x) :
      Coercion.readNumber v = .ok x ∧ (x.gtInt 0 = true ↔ x ≠ .nan) :=
    ⟨(of_readTimeout hx).1, positive_iff_of_readTimeout hx⟩
  have hbounded (v : Json) (x : Binary64) (hx : readStoreTimeout v = .ok x) :
      Coercion.readNumber v = .ok x ∧ (x.gtInt 0 = true ∧ x.leInt 10 = true ↔ x ≠ .nan) :=
    ⟨(of_readTimeout (of_readStoreTimeout hx).1).1, bounded_iff_of_readStoreTimeout hx⟩
  have hstoreIff := iff_of_field (by decide) hbounded hstore
  rw [hgiven _ (by decide)] at hstoreIff
  refine ⟨?_, ?_, hstoreIff, ?_⟩
  · rw [iff_of_field (by decide) hpositive hsocket, hgiven _ (by decide)]
  · rw [iff_of_field (by decide) hpositive hconnect, hgiven _ (by decide)]
  · rintro registry enabled trust r rfl
    refine ⟨_, rfl, ?_⟩
    rw [← hstoreIff]
    exact Timeout.isPositiveUpTo_seconds_iff

theorem halfSecond_timeouts :
    ∃ s, load [("Rate_Limit_Store_Timeout", " 5e-1 ")] [("redis_socket_timeout", .int 3)] = .ok s ∧
      s.socketTimeout.gtInt 0 = true ∧ s.connectTimeout.gtInt 0 = true ∧
      s.storeTimeout.gtInt 0 = true ∧ s.storeTimeout.leInt 10 = true := by
  have hhalf : (load [("Rate_Limit_Store_Timeout", " 5e-1 ")]
      [("redis_socket_timeout", .int 3)]).toOption.map storeTimeout = some (.finite (1 / 2)) := by
    decide +kernel
  obtain ⟨s, hload, -⟩ := toOption_map_eq_some_iff.mp hhalf
  obtain ⟨hsocket, hconnect, hstore, -⟩ := timeouts_bound_iff hload
  exact ⟨s, hload, hsocket.mpr (by decide +kernel), hconnect.mpr (by decide +kernel),
    hstore.mpr (by decide +kernel)⟩

/-- Not every timeout that is accepted is bounded: neither check refuses what is not a number. -/
theorem not_forall_timeouts_bound :
    ¬∀ environment arguments s, load environment arguments = .ok s →
      s.socketTimeout.gtInt 0 = true ∧ s.connectTimeout.gtInt 0 = true ∧
        s.storeTimeout.gtInt 0 = true ∧ s.storeTimeout.leInt 10 = true := by
  intro hall
  have hnan : (load [("RATE_LIMIT_STORE_TIMEOUT", "nan")] []).toOption.map storeTimeout =
      some .nan := by
    decide +kernel
  obtain ⟨s, hload, hstore⟩ := toOption_map_eq_some_iff.mp hnan
  obtain ⟨-, -, hpositive, -⟩ := hall _ _ s hload
  rw [hstore] at hpositive
  cases hpositive

end Settings

end RateLimit
