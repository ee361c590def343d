import Mathlib.Data.List.DropRight
import Mathlib.Tactic
import RateLimit.Text.Blank

/-!
# Trimmed texts

Trimming a text leaves one that has no character of the class at either end, and such a text
is left alone: `trim_of_ends`. So a text can be trimmed once, `trim_trim`, and characters of
the class around it do not matter, `trim_append`.
-/

namespace RateLimit.Text

variable {p : Char → Bool} {cs : List Char}

theorem trim_eq_rdropWhile (p : Char → Bool) (cs : List Char) :
    trim p cs = (cs.dropWhile p).rdropWhile p := rfl

theorem head?_trim {c : Char} (h : c ∈ (trim p cs).head?) : p c = false := by
  have hdropped : (cs.dropWhile p).head? = some c := by
    obtain ⟨rest, hrest⟩ := List.rdropWhile_prefix p (cs.dropWhile p)
    rw [← trim_eq_rdropWhile] at hrest
    rw [← hrest, List.head?_append, Option.mem_def.mp h]
    rfl
  simpa [hdropped] using List.head?_dropWhile_not p cs

theorem getLast?_trim {c : Char} (h : c ∈ (trim p cs).getLast?) : p c = false := by
  obtain ⟨hne, rfl⟩ := List.mem_getLast?_eq_getLast h
  exact Bool.eq_false_iff.mpr (List.rdropWhile_last_not p (cs.dropWhile p) hne)

/-- A text without a character of the class at either end is left alone. -/
theorem trim_of_ends (hfirst : ∀ c ∈ cs.head?, p c = false)
    (hlast : ∀ c ∈ cs.getLast?, p c = false) : trim p cs = cs := by
  have hdrop : cs.dropWhile p = cs := by
    cases cs with
    | nil => rfl
    | cons c rest => exact List.dropWhile_cons_of_neg (by simp [hfirst c rfl])
  rw [trim_eq_rdropWhile, hdrop, List.rdropWhile_eq_self_iff]
  intro hne
  rw [hlast _ (List.getLast_mem_getLast? hne)]
  exact Bool.false_ne_true

theorem trim_trim (p : Char → Bool) (cs : List Char) : trim p (trim p cs) = trim p cs :=
  trim_of_ends (fun _ => head?_trim) fun _ => getLast?_trim

/-- Characters of the class around a text make no difference. -/
theorem trim_append {before after : List Char} (hbefore : ∀ c ∈ before, p c = true)
    (hafter : ∀ c ∈ after, p c = true) : trim p (before ++ (cs ++ after)) = trim p cs := by
  have hend : ∀ l : List Char, (l ++ after).rdropWhile p = l.rdropWhile p := by
    intro l
    unfold List.rdropWhile
    rw [List.reverse_append,
      List.dropWhile_append_of_pos fun c hc => hafter c (List.mem_reverse.mp hc)]
  rw [trim_eq_rdropWhile, trim_eq_rdropWhile, List.dropWhile_append_of_pos hbefore,
    List.dropWhile_append]
  split_ifs with hblank
  · rw [List.isEmpty_iff.mp hblank, List.dropWhile_eq_nil_iff.mpr hafter]
  · exact hend _

theorem toList_strip (s : String) : (strip s).toList = trim isBlank s.toList :=
  String.toList_ofList

theorem strip_strip (s : String) : strip (strip s) = strip s := by
  unfold strip
  rw [String.toList_ofList, trim_trim]

theorem strip_of_forall {s : String} (h : ∀ c ∈ s.toList, isBlank c = false) : strip s = s := by
  unfold strip
  rw [trim_of_ends (fun c hc => h c (List.mem_of_mem_head? hc))
    fun c hc => h c (List.mem_of_mem_getLast? hc), String.ofList_toList]

end RateLimit.Text
