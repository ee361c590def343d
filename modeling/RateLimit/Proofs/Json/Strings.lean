import Mathlib.Tactic
import RateLimit.Json.Reader
import RateLimit.Json.Writer

/-!
# Strings in JSON texts

A string has many spellings: between its quotes a character stands for itself or is escaped,
by a letter or by hexadecimal digits, and two escapes may stand for the halves of one
character. `IsStringText` is the grammar of all of them, and the reader takes each one for its
string: `readValue_of_isStringText`. The writer uses one of them, `isStringText_writeString`,
in which no control character stands.
-/

namespace RateLimit.Json

variable {text rest : List Char} {units done : List Nat} {s : String}

/-- The code units that a text between quotes stands for. -/
inductive Spells : List Char → List Nat → Prop where
  | nil : Spells [] []
  | plain {c : Char} {text : List Char} {units : List Nat} (hc : 0x20 ≤ c.toNat)
      (hquote : c ≠ '"') (hslash : c ≠ '\\') (h : Spells text units) :
      Spells (c :: text) (c.toNat :: units)
  | letter {c d : Char} {text : List Char} {units : List Nat} (hescape : escaped? c = some d)
      (h : Spells text units) : Spells ('\\' :: c :: text) (d.toNat :: units)
  | digits {a b c d : Char} {n : Nat} {text : List Char} {units : List Nat}
      (hunit : hexUnit? a b c d = some n) (h : Spells text units) :
      Spells ('\\' :: 'u' :: a :: b :: c :: d :: text) (n :: units)

/-- A text with its quotes that stands for a string. -/
def IsStringText (text : List Char) (s : String) : Prop :=
  ∃ inner units, text = '"' :: (inner ++ ['"']) ∧ Spells inner units ∧
    Text.joinHalves units = s.toList.map Char.toNat

section Reading

/-- The reader goes on behind the quote that closes a string. -/
theorem readUnits_of_spells (h : Spells text units) (done : List Nat) (rest : List Char) :
    readUnits done (text ++ '"' :: rest) = some (done.reverse ++ units, rest) := by
  induction h generalizing done with
  | nil => simp [readUnits]
  | plain hc hquote hslash h ih =>
      rw [List.cons_append, readUnits]
      · have hplain : ¬(_ < 0x20 ∨ _) := not_or.mpr ⟨Nat.not_lt.mpr hc, hslash⟩
        simp only [Bool.or_eq_true, decide_eq_true_eq, hplain, if_false, ih]
        simp
      all_goals simp_all
  | @letter c d text units hescape h ih =>
      have hletter : c ≠ 'u' := by
        rintro rfl
        cases hescape.symm.trans (show escaped? 'u' = none by decide)
      rw [List.cons_append, List.cons_append, readUnits]
      · simp only [hescape, ih]
        simp
      · intro _ _ _ _ _ heq _
        exact hletter heq
  | digits hunit h ih =>
      simp only [List.cons_append, readUnits, hunit, ih]
      simp

theorem readString_of_spells (h : Spells text units) (rest : List Char) :
    readString (text ++ '"' :: rest) = some (Text.joinHalves units, rest) := by
  unfold readString
  rw [readUnits_of_spells h]
  rfl

theorem ofPoints_toNat (s : String) : ofPoints (s.toList.map Char.toNat) = .string s := by
  have hwhole : (s.toList.map Char.toNat).any Text.isHalf = false := by
    simp [Text.isHalf_toNat]
  unfold ofPoints
  rw [hwhole, Text.ofPoints_map_toNat, String.ofList_toList]
  rfl

theorem IsStringText.eq_cons (h : IsStringText text s) : ∃ more, text = '"' :: more := by
  obtain ⟨inner, units, rfl, -⟩ := h
  exact ⟨_, rfl⟩

theorem IsStringText.readString (h : IsStringText ('"' :: text) s) (rest : List Char) :
    readString (text ++ rest) = some (s.toList.map Char.toNat, rest) := by
  obtain ⟨inner, units, htext, hspells, hunits⟩ := h
  obtain rfl := (List.cons.inj htext).2
  rw [List.append_assoc, List.singleton_append, readString_of_spells hspells, hunits]

theorem readValue_of_isStringText (h : IsStringText text s) {fuel : Nat} (hfuel : 0 < fuel)
    (depth : Nat) (rest : List Char) :
    readValue fuel depth (text ++ rest) = .ok (.string s, rest) := by
  obtain ⟨fuel, rfl⟩ := Nat.exists_eq_add_one.mpr hfuel
  obtain ⟨more, rfl⟩ := h.eq_cons
  rw [List.cons_append, readValue, h.readString]
  exact congrArg (fun v => Except.ok (v, rest)) (ofPoints_toNat s)

end Reading

section Writing

/-- A character that is no control character. -/
def IsShown (c : Char) : Prop := 0x20 ≤ c.toNat

instance (c : Char) : Decidable (IsShown c) := inferInstanceAs (Decidable (_ ≤ _))

/-- A text without control characters. -/
def AreShown (cs : List Char) : Prop := ∀ c ∈ cs, IsShown c

instance (cs : List Char) : Decidable (AreShown cs) := List.decidableBAll IsShown cs

/-- The three ways to write a character. -/
theorem writeChar_cases (c : Char) :
    (∃ e, writeChar c = ['\\', e] ∧ escaped? e = some c ∧ IsShown e) ∨
      (c.toNat < 0x20 ∧ writeChar c = '\\' :: 'u' :: Text.hex 4 c.toNat) ∨
        IsShown c ∧ c ≠ '"' ∧ c ≠ '\\' ∧ writeChar c = [c] := by
  unfold writeChar
  split_ifs with hquote hslash hline hreturn htab hfeed hback hcontrol
  rotate_left 7
  · exact Or.inr (Or.inl ⟨hcontrol, rfl⟩)
  · exact Or.inr (Or.inr ⟨Nat.not_lt.mp hcontrol, hquote, hslash, rfl⟩)
  all_goals
    subst_vars
    exact Or.inl ⟨_, rfl, by decide, by decide⟩

theorem hexUnit?_hex {n : Nat} (h : n < 0x20) :
    ∃ a b c d, Text.hex 4 n = [a, b, c, d] ∧ hexUnit? a b c d = some n := by
  interval_cases n <;> exact ⟨_, _, _, _, rfl, by decide⟩

/-- The writer escapes what cannot stand for itself. -/
theorem Spells.writeChar (h : Spells text units) (c : Char) :
    Spells (writeChar c ++ text) (c.toNat :: units) := by
  rcases writeChar_cases c with ⟨e, hwrite, hescape, -⟩ | ⟨hcontrol, hwrite⟩ |
    ⟨hshown, hquote, hslash, hwrite⟩
  · rw [hwrite]
    exact .letter hescape h
  · obtain ⟨a, b, c', d, hhex, hunit⟩ := hexUnit?_hex hcontrol
    rw [hwrite, hhex]
    exact .digits hunit h
  · rw [hwrite]
    exact .plain hshown hquote hslash h

theorem spells_flatMap_writeChar (cs : List Char) :
    Spells (cs.flatMap Json.writeChar) (cs.map Char.toNat) := by
  induction cs with
  | nil => exact .nil
  | cons c rest ih => exact ih.writeChar c

theorem toList_writeString (s : String) :
    (writeString s).toList = '"' :: (s.toList.flatMap Json.writeChar ++ ['"']) :=
  String.toList_ofList

theorem isStringText_writeString (s : String) : IsStringText (writeString s).toList s :=
  ⟨_, _, toList_writeString s, spells_flatMap_writeChar _, Text.joinHalves_map_toNat _⟩

theorem isShown_of_mem_writeChar {c d : Char} (h : d ∈ Json.writeChar c) : IsShown d := by
  rcases writeChar_cases c with ⟨e, hwrite, -, hshown⟩ | ⟨hcontrol, hwrite⟩ |
    ⟨hshown, -, -, hwrite⟩
  · rw [hwrite] at h
    have hslash : IsShown '\\' := by decide
    rcases List.mem_pair.mp h with rfl | rfl <;> assumption
  · have hescapes : ∀ n < 0x20, AreShown ('\\' :: 'u' :: Text.hex 4 n) := by decide
    exact hescapes c.toNat hcontrol d (hwrite ▸ h)
  · rw [hwrite] at h
    obtain rfl := List.mem_singleton.mp h
    exact hshown

theorem isShown_of_mem_writeString {c : Char} (h : c ∈ (writeString s).toList) : IsShown c := by
  rw [toList_writeString] at h
  rcases List.mem_cons.mp h with rfl | h
  · decide
  · rcases List.mem_append.mp h with h | h
    · obtain ⟨d, -, hd⟩ := List.mem_flatMap.mp h
      exact isShown_of_mem_writeChar hd
    · obtain rfl := List.mem_singleton.mp h
      decide

end Writing

end RateLimit.Json
