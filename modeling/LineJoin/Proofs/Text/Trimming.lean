import LineJoin.Text.Blank
import Mathlib.Data.List.DropRight

/-!
# What trimming keeps

A trimmed text is the text with a run of blanks cut off, and the cut is as long as it can be. Both
facts are stated for each end, and with them the law that everything else rests on: trimming one end
of two texts put together sees only the outer one, as long as that one is not all blanks.

This module speaks of texts alone. What a cut does to a scan is settled elsewhere.
-/

namespace LineJoin.Text

/-- A text of blanks only. -/
def Blank (t : Text) : Prop := ∀ c ∈ t, isBlank c = true

/-- A condition on the characters of a text is decided by going through the text, not through all
characters there are. -/
instance decidableForallMem (p : Char → Prop) [DecidablePred p] (t : Text) :
    Decidable (∀ c ∈ t, p c) := List.decidableBAll p t

instance (t : Text) : Decidable (Blank t) := decidableForallMem _ t

@[simp] theorem blank_nil : Blank [] := fun _ hc => absurd hc List.not_mem_nil

/-! ## Cutting blanks off the start -/

/-- What the start loses is blank. -/
theorem exists_blank_append_trimStart (t : Text) : ∃ w, Blank w ∧ t = w ++ trimStart t := by
  refine ⟨t.takeWhile isBlank, ?_, ?_⟩
  · intro c hc
    exact List.mem_takeWhile_imp hc
  · exact List.takeWhile_append_dropWhile.symm

/-- Nothing more can be cut: a trimmed start is not blank. -/
theorem not_blank_head_trimStart {t : Text} {c : Char} (h : (trimStart t).head? = some c) :
    isBlank c = false := by
  have hnot := List.head?_dropWhile_not isBlank t
  unfold trimStart at h
  rw [h] at hnot
  simpa using hnot

theorem trimStart_eq_self {t : Text} (h : ∀ c, t.head? = some c → isBlank c = false) :
    trimStart t = t := by
  cases t with
  | nil => rfl
  | cons c cs => exact List.dropWhile_cons_of_neg (by simp [h c rfl])

@[simp] theorem trimStart_trimStart (t : Text) : trimStart (trimStart t) = trimStart t :=
  trimStart_eq_self fun _ hc => not_blank_head_trimStart hc

theorem trimStart_eq_nil_iff {t : Text} : trimStart t = [] ↔ Blank t :=
  List.dropWhile_eq_nil_iff

theorem trimStart_blank_append {w : Text} (hw : Blank w) (t : Text) :
    trimStart (w ++ t) = trimStart t :=
  List.dropWhile_append_of_pos hw

theorem trimStart_append {s : Text} (hs : ¬ Blank s) (t : Text) :
    trimStart (s ++ t) = trimStart s ++ t := by
  have hne : (trimStart s).isEmpty = false := by
    rw [List.isEmpty_eq_false_iff, ne_eq, trimStart_eq_nil_iff]
    exact hs
  unfold trimStart at hne ⊢
  rw [List.dropWhile_append, hne]
  rfl

/-! ## Cutting blanks off the end -/

theorem trimEnd_eq_rdropWhile (t : Text) : trimEnd t = t.rdropWhile isBlank := rfl

/-- What the end loses is blank. -/
theorem exists_trimEnd_append_blank (t : Text) : ∃ w, Blank w ∧ t = trimEnd t ++ w := by
  refine ⟨t.rtakeWhile isBlank, ?_, ?_⟩
  · intro c hc
    exact List.mem_rtakeWhile_imp hc
  · exact List.rdropWhile_append_rtakeWhile.symm

/-- Nothing more can be cut: a trimmed end is not blank. -/
theorem not_blank_getLast_trimEnd {t : Text} {c : Char} (h : (trimEnd t).getLast? = some c) :
    isBlank c = false := by
  obtain ⟨hne, hc⟩ := List.mem_getLast?_eq_getLast h
  have hnot : ¬ isBlank ((trimEnd t).getLast hne) := List.rdropWhile_last_not isBlank t hne
  rw [hc]
  simpa using hnot

theorem trimEnd_eq_self {t : Text} (h : ∀ c, t.getLast? = some c → isBlank c = false) :
    trimEnd t = t := by
  rw [trimEnd_eq_rdropWhile, List.rdropWhile_eq_self_iff]
  intro hne
  simp [h _ (List.getLast?_eq_some_getLast hne)]

@[simp] theorem trimEnd_trimEnd (t : Text) : trimEnd (trimEnd t) = trimEnd t :=
  trimEnd_eq_self fun _ hc => not_blank_getLast_trimEnd hc

theorem trimEnd_eq_nil_iff {t : Text} : trimEnd t = [] ↔ Blank t :=
  List.rdropWhile_eq_nil_iff

theorem trimEnd_append_blank {w : Text} (hw : Blank w) (t : Text) :
    trimEnd (t ++ w) = trimEnd t := by
  unfold trimEnd
  rw [List.reverse_append, List.dropWhile_append_of_pos]
  intro c hc
  exact hw c (List.mem_reverse.mp hc)

theorem trimEnd_append {t : Text} (ht : ¬ Blank t) (s : Text) :
    trimEnd (s ++ t) = s ++ trimEnd t := by
  obtain ⟨w, hw, htw⟩ := exists_trimEnd_append_blank t
  have hne : trimEnd t ≠ [] := fun h => ht (trimEnd_eq_nil_iff.mp h)
  calc trimEnd (s ++ t)
      = trimEnd (s ++ trimEnd t ++ w) := by rw [List.append_assoc, ← htw]
    _ = trimEnd (s ++ trimEnd t) := trimEnd_append_blank hw _
    _ = s ++ trimEnd t := by
        apply trimEnd_eq_self
        intro c hc
        rw [List.getLast?_append_of_ne_nil _ hne] at hc
        exact not_blank_getLast_trimEnd hc

/-! ## Both ends -/

theorem not_blank_trimStart {t : Text} (ht : ¬ Blank t) : ¬ Blank (trimStart t) := by
  intro h
  have hnil : trimStart t = [] := by rw [← trimStart_trimStart, trimStart_eq_nil_iff.mpr h]
  exact ht (trimStart_eq_nil_iff.mp hnil)

theorem not_blank_trimEnd {t : Text} (ht : ¬ Blank t) : ¬ Blank (trimEnd t) := by
  intro h
  have hnil : trimEnd t = [] := by rw [← trimEnd_trimEnd, trimEnd_eq_nil_iff.mpr h]
  exact ht (trimEnd_eq_nil_iff.mp hnil)

/-- The two ends of a text that is not blank are trimmed independently. -/
theorem trimStart_trimEnd {t : Text} (ht : ¬ Blank t) :
    trimStart (trimEnd t) = trimEnd (trimStart t) := by
  obtain ⟨w, hw, htw⟩ := exists_blank_append_trimStart t
  calc trimStart (trimEnd t)
      = trimStart (w ++ trimEnd (trimStart t)) := by
        rw [← trimEnd_append (not_blank_trimStart ht), ← htw]
    _ = trimStart (trimEnd (trimStart t)) := trimStart_blank_append hw _
    _ = trimEnd (trimStart t) := by
        -- the first character is that of the text trimmed at the start alone
        apply trimStart_eq_self
        intro c hc
        obtain ⟨v, _, htv⟩ := exists_trimEnd_append_blank (trimStart t)
        apply not_blank_head_trimStart (t := t)
        rw [htv, List.head?_append, hc]
        rfl

end LineJoin.Text
