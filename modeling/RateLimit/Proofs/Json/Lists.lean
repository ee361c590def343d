import RateLimit.Proofs.Json.Strings
import RateLimit.Proofs.Table

/-!
# Arrays and objects of strings

An array of strings may be spelled with any space between its parts: `IsArrayText` is the
grammar, and the reader takes each spelling for the array, `read?_of_isArrayText`. What the
writer makes of an array is such a spelling, and what it makes of an object of strings whose
names are distinct is read back as that object, `read?_write_object`.
-/

namespace RateLimit.Json

variable {text rest space : List Char} {xs : List String}

/-- What may stand between the parts of a JSON text. -/
def IsSpace (space : List Char) : Prop := ∀ c ∈ space, isSpace c = true

instance (space : List Char) : Decidable (IsSpace space) :=
  List.decidableBAll (fun c => isSpace c = true) space

/-- The items of an array, up to its closing bracket. -/
inductive ItemsText : List Char → List String → Prop where
  | last {item space : List Char} {x : String} (hitem : IsStringText item x)
      (hspace : IsSpace space) : ItemsText (item ++ (space ++ [']'])) [x]
  | cons {item before after more : List Char} {x : String} {xs : List String}
      (hitem : IsStringText item x) (hbefore : IsSpace before) (hafter : IsSpace after)
      (hmore : ItemsText more xs) : ItemsText (item ++ (before ++ ',' :: (after ++ more))) (x :: xs)

/-- A text that spells an array of strings. -/
inductive IsArrayText : List Char → List String → Prop where
  | empty {space : List Char} (hspace : IsSpace space) : IsArrayText ('[' :: (space ++ [']'])) []
  | items {space more : List Char} {xs : List String} (hspace : IsSpace space)
      (hmore : ItemsText more xs) : IsArrayText ('[' :: (space ++ more)) xs

theorem isSpace_nil : IsSpace [] := fun _ h => nomatch h

theorem skipSpace_append (h : IsSpace space) (rest : List Char) :
    skipSpace (space ++ rest) = skipSpace rest :=
  List.dropWhile_append_of_pos h

theorem skipSpace_cons {c : Char} (h : isSpace c = false) (rest : List Char) :
    skipSpace (c :: rest) = c :: rest :=
  List.dropWhile_cons_of_neg (by simp [h])

theorem exists_maxDepth_eq : ∃ depth, maxDepth = depth + 1 := ⟨_, rfl⟩

section Arrays

theorem ItemsText.eq_cons (h : ItemsText text xs) : ∃ more, text = '"' :: more := by
  cases h with
  | last hitem =>
      obtain ⟨more, rfl⟩ := hitem.eq_cons
      exact ⟨_, rfl⟩
  | cons hitem =>
      obtain ⟨more, rfl⟩ := hitem.eq_cons
      exact ⟨_, rfl⟩

theorem ItemsText.skipSpace_eq (h : ItemsText text xs) (rest : List Char) :
    skipSpace (text ++ rest) = text ++ rest := by
  obtain ⟨more, rfl⟩ := h.eq_cons
  exact skipSpace_cons (by decide) _

/-- Each item takes characters of its own. -/
theorem ItemsText.length_le (h : ItemsText text xs) : xs.length ≤ text.length := by
  induction h with
  | last hitem =>
      simp only [List.length_cons, List.length_append, List.length_nil]
      omega
  | cons hitem hbefore hafter hmore ih =>
      simp only [List.length_cons, List.length_append]
      omega

theorem readItems_of_itemsText (h : ItemsText text xs) {fuel : Nat} (hfuel : xs.length < fuel)
    (depth : Nat) (done : List Json) (rest : List Char) :
    readItems fuel depth done (text ++ rest) =
      .ok (.array (done.reverse ++ xs.map .string), rest) := by
  induction h generalizing fuel done with
  | last hitem hspace =>
      obtain ⟨fuel, rfl⟩ := Nat.exists_eq_add_one.mpr (Nat.zero_lt_of_lt hfuel)
      have hpos : 0 < fuel := by simpa using hfuel
      rw [List.append_assoc, readItems, readValue_of_isStringText hitem hpos]
      simp only [List.append_assoc, skipSpace_append hspace]
      rw [List.singleton_append, skipSpace_cons (by decide)]
      simp
  | @cons item before after more x xs hitem hbefore hafter hmore ih =>
      obtain ⟨fuel, rfl⟩ := Nat.exists_eq_add_one.mpr (Nat.zero_lt_of_lt hfuel)
      have hless : xs.length < fuel := Nat.lt_of_succ_lt_succ hfuel
      rw [List.append_assoc, readItems, readValue_of_isStringText hitem (Nat.zero_lt_of_lt hless)]
      simp only [List.append_assoc, List.cons_append, skipSpace_append hbefore]
      rw [skipSpace_cons (by decide)]
      simp only [skipSpace_append hafter, hmore.skipSpace_eq, ih hless]
      simp

theorem ItemsText.eq_concat (h : ItemsText text xs) : ∃ front, text = front ++ [']'] := by
  induction h with
  | last hitem hspace => exact ⟨_, (List.append_assoc _ _ _).symm⟩
  | @cons item before after more x xs hitem hbefore hafter hmore ih =>
      obtain ⟨front, rfl⟩ := ih
      exact ⟨item ++ (before ++ ',' :: (after ++ front)), by simp⟩

theorem IsArrayText.eq_concat (h : IsArrayText text xs) : ∃ front, text = front ++ [']'] := by
  cases h with
  | empty hspace => exact ⟨_, (List.cons_append).symm⟩
  | @items space more xs hspace hmore =>
      obtain ⟨front, rfl⟩ := hmore.eq_concat
      exact ⟨'[' :: (space ++ front), by simp⟩

theorem IsArrayText.eq_cons (h : IsArrayText text xs) : ∃ more, text = '[' :: more := by
  cases h <;> exact ⟨_, rfl⟩

theorem readValue_of_isArrayText (h : IsArrayText text xs) {fuel : Nat}
    (hfuel : text.length < fuel) (depth : Nat) (rest : List Char) :
    readValue fuel (depth + 1) (text ++ rest) = .ok (.array (xs.map .string), rest) := by
  obtain ⟨fuel, rfl⟩ := Nat.exists_eq_add_one.mpr (Nat.zero_lt_of_lt hfuel)
  cases h with
  | empty hspace =>
      rw [List.cons_append, readValue, List.append_assoc, skipSpace_append hspace,
        List.singleton_append, skipSpace_cons (by decide)]
      rfl
  | @items space more xs hspace hmore =>
      have hless : xs.length < fuel := by
        have := hmore.length_le
        simp only [List.length_cons, List.length_append] at hfuel
        omega
      have hread := readItems_of_itemsText hmore hless depth [] rest
      obtain ⟨item, rfl⟩ := hmore.eq_cons
      rw [List.cons_append, readValue, List.append_assoc, skipSpace_append hspace,
        hmore.skipSpace_eq]
      exact hread

theorem read?_of_isArrayText (h : IsArrayText text xs) :
    read? (String.ofList text) = .ok (.array (xs.map .string)) := by
  have hskip : skipSpace text = text := by
    obtain ⟨more, rfl⟩ := h.eq_cons
    exact skipSpace_cons (by decide) _
  have hfuel : text.length < 2 * text.length + 2 := by omega
  obtain ⟨depth, hdepth⟩ := exists_maxDepth_eq
  have hread := readValue_of_isArrayText h hfuel depth []
  rw [List.append_nil] at hread
  unfold read?
  rw [String.toList_ofList, hskip]
  dsimp only
  rw [hdepth, hread]
  rfl

end Arrays

/-- Separators of which each begins with its mark, and has space behind it. -/
structure Separators.IsReadable (style : Separators) : Prop where
  item : ∃ space, style.item.toList = ',' :: space ∧ IsSpace space
  name : ∃ space, style.name.toList = ':' :: space ∧ IsSpace space

theorem isReadable_spaced : Separators.spaced.IsReadable :=
  ⟨⟨[' '], by decide, by decide⟩, [' '], by decide, by decide⟩

theorem isReadable_compact : Separators.compact.IsReadable :=
  ⟨⟨[], by decide, by decide⟩, [], by decide, by decide⟩

variable {style : Separators} {pairs : List (String × String)}

section WrittenArrays

theorem writeItems_strings (style : Separators) (xs : List String) :
    writeItems style (xs.map .string) = xs.map writeString := by
  induction xs with
  | nil => rfl
  | cons x rest ih => simp only [List.map_cons, writeItems, write, ih]

theorem itemsText_written (hstyle : style.IsReadable) (x : String) (xs : List String) :
    ItemsText (style.item.toList.intercalate ((x :: xs).map fun s => (writeString s).toList) ++
      [']']) (x :: xs) := by
  obtain ⟨space, hitem, hspace⟩ := hstyle.item
  induction xs generalizing x with
  | nil => simpa using ItemsText.last (isStringText_writeString x) isSpace_nil
  | cons y rest ih =>
      have hmore := ItemsText.cons (isStringText_writeString x) isSpace_nil hspace (ih y)
      rw [List.map_cons, List.map_cons, List.intercalate_cons_cons]
      simpa [hitem] using hmore

/-- The writer spells arrays of strings. -/
theorem isArrayText_write (hstyle : style.IsReadable) (xs : List String) :
    IsArrayText (write style (.array (xs.map .string))).toList xs := by
  have hwrite : (write style (.array (xs.map .string))).toList =
      '[' :: (style.item.toList.intercalate (xs.map fun s => (writeString s).toList) ++ [']']) := by
    rw [write, writeItems_strings, String.toList_append, String.toList_append,
      String.toList_intercalate, List.map_map]
    rfl
  rw [hwrite]
  cases xs with
  | nil => exact .empty isSpace_nil
  | cons x rest =>
      have hitems := itemsText_written hstyle x rest
      have htext := IsArrayText.items isSpace_nil hitems
      exact htext

end WrittenArrays

section WrittenObjects

/-- The members of an object of strings. -/
def textMembers (pairs : List (String × String)) : Table Json :=
  pairs.map fun p => (p.1, .string p.2)

/-- A member of an object of strings, as it is written. -/
def memberText (style : Separators) (p : String × String) : List Char :=
  (writeString p.1).toList ++ (style.name.toList ++ (writeString p.2).toList)

/-- The members of an object of strings, as they are written. -/
def membersText (style : Separators) (pairs : List (String × String)) : List Char :=
  style.item.toList.intercalate (pairs.map (memberText style))

theorem membersText_singleton (style : Separators) (p : String × String) :
    membersText style [p] = memberText style p :=
  List.intercalate_singleton

theorem membersText_cons_cons (style : Separators) (p q : String × String)
    (more : List (String × String)) :
    membersText style (p :: q :: more) =
      memberText style p ++ (style.item.toList ++ membersText style (q :: more)) := by
  unfold membersText
  rw [List.map_cons, List.map_cons, List.intercalate_cons_cons, List.append_assoc]

theorem exists_memberText_eq_cons (style : Separators) (p : String × String) :
    ∃ text, memberText style p = '"' :: text := by
  obtain ⟨key, hkey⟩ := (isStringText_writeString p.1).eq_cons
  rw [memberText, hkey]
  exact ⟨_, rfl⟩

theorem exists_membersText_eq_cons (style : Separators) (p : String × String)
    (more : List (String × String)) : ∃ text, membersText style (p :: more) = '"' :: text := by
  obtain ⟨first, hfirst⟩ := exists_memberText_eq_cons style p
  cases more with
  | nil => exact ⟨first, (membersText_singleton style p).trans hfirst⟩
  | cons q more =>
      rw [membersText_cons_cons, hfirst]
      exact ⟨_, rfl⟩

/-- Each member takes characters of its own. -/
theorem length_le_membersText (style : Separators) (pairs : List (String × String)) :
    pairs.length ≤ (membersText style pairs).length := by
  induction pairs with
  | nil => exact Nat.zero_le (membersText style []).length
  | cons p more ih =>
      obtain ⟨first, hfirst⟩ := exists_memberText_eq_cons style p
      cases more with
      | nil =>
          rw [membersText_singleton, hfirst]
          exact Nat.succ_le_succ (Nat.zero_le _)
      | cons q more =>
          rw [membersText_cons_cons, hfirst]
          simp only [List.length_append, List.length_cons] at ih ⊢
          omega

theorem toList_write_textMembers (style : Separators) (pairs : List (String × String)) :
    (write style (.object (textMembers pairs))).toList =
      '\x7b' :: (membersText style pairs ++ ['\x7d']) := by
  have hmembers : (writeMembers style (textMembers pairs)).map String.toList =
      pairs.map (memberText style) := by
    induction pairs with
    | nil => rfl
    | cons p rest ih =>
        unfold textMembers at ih ⊢
        rw [List.map_cons, writeMembers, List.map_cons, ih, List.map_cons]
        simp [memberText, write]
  rw [write, String.toList_append, String.toList_append, String.toList_intercalate, hmembers]
  rfl

section Shown

variable (hitem : AreShown style.item.toList) (hname : AreShown style.name.toList)

include hname

theorem isShown_of_mem_memberText {p : String × String} {c : Char} (h : c ∈ memberText style p) :
    IsShown c := by
  rcases List.mem_append.mp h with hkey | h
  · exact isShown_of_mem_writeString hkey
  · exact (List.mem_append.mp h).elim (hname c) isShown_of_mem_writeString

include hitem

theorem isShown_of_mem_membersText {c : Char} (h : c ∈ membersText style pairs) : IsShown c := by
  induction pairs with
  | nil => cases h
  | cons p more ih =>
      cases more with
      | nil =>
          rw [membersText_singleton] at h
          exact isShown_of_mem_memberText hname h
      | cons q more =>
          rw [membersText_cons_cons] at h
          rcases List.mem_append.mp h with hfirst | h
          · exact isShown_of_mem_memberText hname hfirst
          · exact (List.mem_append.mp h).elim (hitem c) ih

/-- No control character stands in an object of strings, unless a separator has one. -/
theorem isShown_of_mem_write_object {c : Char}
    (h : c ∈ (write style (.object (textMembers pairs))).toList) : IsShown c := by
  rw [toList_write_textMembers] at h
  rcases List.mem_cons.mp h with rfl | h
  · decide
  · rcases List.mem_append.mp h with h | h
    · exact isShown_of_mem_membersText hitem hname h
    · obtain rfl := List.mem_singleton.mp h
      decide

end Shown

/-- A member as the reader collects it. -/
def readMember (p : String × String) : List Nat × Json :=
  (p.1.toList.map Char.toNat, .string p.2)

theorem readMembers_memberText (hstyle : style.IsReadable) (p : String × String) {fuel : Nat}
    (hfuel : 0 < fuel) (depth : Nat) (done : List (List Nat × Json)) (rest : List Char) :
    readMembers (fuel + 1) depth done (memberText style p ++ rest) =
      match skipSpace rest with
      | ',' :: rest => readMembers fuel depth (readMember p :: done) (skipSpace rest)
      | '\x7d' :: rest => .ok (ofMembers (readMember p :: done).reverse, rest)
      | _ => .error .malformed := by
  obtain ⟨space, hname, hspace⟩ := hstyle.name
  have hkey := isStringText_writeString p.1
  obtain ⟨key, hkeyText⟩ := hkey.eq_cons
  obtain ⟨value, hvalueText⟩ := (isStringText_writeString p.2).eq_cons
  have hvalue := readValue_of_isStringText (isStringText_writeString p.2) hfuel depth rest
  unfold memberText
  rw [hkeyText] at hkey ⊢
  rw [hvalueText] at hvalue ⊢
  rw [hname, List.cons_append, List.cons_append, readMembers, List.append_assoc, hkey.readString]
  simp only [List.cons_append, List.append_assoc] at hvalue ⊢
  rw [skipSpace_cons (by decide)]
  simp only [skipSpace_append hspace]
  rw [skipSpace_cons (by decide)]
  simp only [hvalue]
  rfl

theorem readMembers_membersText (hstyle : style.IsReadable) (p : String × String)
    (pairs : List (String × String)) {fuel : Nat} (hfuel : pairs.length + 1 < fuel) (depth : Nat)
    (done : List (List Nat × Json)) (rest : List Char) :
    readMembers fuel depth done (membersText style (p :: pairs) ++ '\x7d' :: rest) =
      .ok (ofMembers (done.reverse ++ (p :: pairs).map readMember), rest) := by
  obtain ⟨space, hitem, hspace⟩ := hstyle.item
  induction pairs generalizing p fuel done with
  | nil =>
      obtain ⟨fuel, rfl⟩ := Nat.exists_eq_add_one.mpr (Nat.zero_lt_of_lt hfuel)
      have hpos : 0 < fuel := by simpa using hfuel
      rw [membersText_singleton, readMembers_memberText hstyle p hpos, skipSpace_cons (by decide)]
      simp
  | cons q more ih =>
      obtain ⟨fuel, rfl⟩ := Nat.exists_eq_add_one.mpr (Nat.zero_lt_of_lt hfuel)
      have hless : more.length + 1 < fuel := by simpa using hfuel
      have hread := ih q hless (readMember p :: done)
      obtain ⟨text, htext⟩ := exists_membersText_eq_cons style q more
      rw [htext] at hread
      rw [membersText_cons_cons, hitem, htext, List.append_assoc,
        readMembers_memberText hstyle p (Nat.zero_lt_of_lt hless), List.append_assoc,
        List.cons_append, skipSpace_cons (by decide)]
      simp only [skipSpace_append hspace]
      rw [List.cons_append, skipSpace_cons (by decide), ← List.cons_append, hread]
      simp

theorem keys_textMembers (pairs : List (String × String)) :
    Table.keys (textMembers pairs) = pairs.map Prod.fst := by
  unfold Table.keys textMembers
  rw [List.map_map]
  rfl

theorem get?_textMembers (pairs : List (String × String)) (k : String) :
    Table.get? (textMembers pairs) k = (Table.get? pairs k).map .string := by
  induction pairs with
  | nil => rfl
  | cons p rest ih =>
      unfold textMembers at ih ⊢
      rw [List.map_cons, Table.get?_cons, Table.get?_cons, ih]
      split_ifs <;> rfl

theorem ofMembers_readMember (h : (pairs.map Prod.fst).Nodup) :
    ofMembers (pairs.map readMember) = .object (textMembers pairs) := by
  have hwhole : ((pairs.map readMember).any fun m => m.1.any Text.isHalf) = false := by
    simp [readMember, Text.isHalf_toNat]
  have hpairs : (pairs.map readMember).map (fun m => (Text.ofPoints m.1, m.2)) =
      textMembers pairs := by
    simp [readMember, textMembers, Text.ofPoints_map_toNat]
  have hnodup : (Table.keys (textMembers pairs)).Nodup := by rwa [keys_textMembers]
  unfold ofMembers
  rw [hwhole, hpairs, Table.ofList_eq_self hnodup]
  rfl

theorem readValue_write_object (hstyle : style.IsReadable) (h : (pairs.map Prod.fst).Nodup)
    {fuel : Nat} (hfuel : pairs.length < fuel) (depth : Nat) :
    readValue (fuel + 1) (depth + 1) (write style (.object (textMembers pairs))).toList =
      .ok (.object (textMembers pairs), []) := by
  rw [toList_write_textMembers, readValue]
  cases pairs with
  | nil => rfl
  | cons p more =>
      have hread := readMembers_membersText hstyle p more hfuel depth [] []
      rw [List.reverse_nil, List.nil_append, ofMembers_readMember h] at hread
      obtain ⟨text, htext⟩ := exists_membersText_eq_cons style p more
      rw [htext] at hread ⊢
      rw [List.cons_append, skipSpace_cons (by decide)]
      exact hread

/-- The reader takes what the writer makes of an object of strings for that object. -/
theorem read?_write_object (hstyle : style.IsReadable) (h : (pairs.map Prod.fst).Nodup) :
    read? (write style (.object (textMembers pairs))) = .ok (.object (textMembers pairs)) := by
  have hskip : skipSpace (write style (.object (textMembers pairs))).toList =
      (write style (.object (textMembers pairs))).toList := by
    rw [toList_write_textMembers]
    exact skipSpace_cons (by decide) _
  have hfuel : pairs.length < 2 * (write style (.object (textMembers pairs))).toList.length + 1 := by
    have := length_le_membersText style pairs
    rw [toList_write_textMembers, List.length_cons, List.length_append]
    omega
  obtain ⟨depth, hdepth⟩ := exists_maxDepth_eq
  unfold read?
  rw [hskip]
  dsimp only
  rw [hdepth, readValue_write_object hstyle h hfuel]
  rfl

end WrittenObjects

end RateLimit.Json
