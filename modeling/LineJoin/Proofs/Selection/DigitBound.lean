import LineJoin.Proofs.Json.RoundTrip
import LineJoin.Proofs.Selection.Grammar

/-!
# How long the numbers of a range may be

A range is two numbers counted from one, with a hyphen between them. People write ranges in that form
and get them back in it. Only the length of the numbers stands in the way: they are read up to 4300
digits, and a range reads back exactly if its numbers keep that bound (`parse_range_iff`). But a
selection that was read keeps it (`keepsDigitBound_of_parse`).
-/

namespace LineJoin.Selection

open Numeral Text

/-- The line numbers of a selection, counted from one, have at most 4300 digits. -/
def KeepsDigitBound (s : Selection) : Prop :=
  (decimal (s.start + 1)).length ≤ 4300 ∧ (decimal (s.stop + 1)).length ≤ 4300

variable {s : Selection}

/-- The second number decides, as the first one is not longer. -/
theorem keepsDigitBound_iff : s.KeepsDigitBound ↔ s.stop + 1 < 10 ^ maxDigits := by
  rw [← length_decimal_le_iff (by decide)]
  constructor
  · intro h
    exact h.2
  · intro hstop
    have hmono := length_decimal_mono (Nat.add_le_add_right s.start_le_stop 1)
    exact ⟨hmono.trans hstop, hstop⟩

theorem parse_range (h : s.KeepsDigitBound) : parse s.range = .ok s := by
  have hspells : Spells isSpace
      ([] ++ ((decimal (s.start + 1) ++ ([] ++ '-' :: ([] ++ decimal (s.stop + 1)))) ++ [])) s :=
    .lines s.start_le_stop blank_nil blank_nil only_nil only_nil (isNumeral_decimal h.1)
      (isNumeral_decimal h.2)
  rw [List.append_nil] at hspells
  exact parse_eq_iff.mpr (.accepted (hasBounds_of_spells hspells))

theorem keepsDigitBound_of_parse {raw : Text} (h : parse raw = .ok s) : s.KeepsDigitBound := by
  cases parse_eq_iff.mp h with
  | accepted hbounds =>
      rw [keepsDigitBound_iff]
      cases spells_of_hasBounds hbounds with
      | line _ _ hstop => exact hstop.lt
      | lines _ _ _ _ _ _ hstop => exact hstop.lt

theorem parse_range_iff : parse s.range = .ok s ↔ s.KeepsDigitBound :=
  ⟨keepsDigitBound_of_parse, parse_range⟩

/-! ## Several ranges -/

theorem parse_of_mapM {raws : List Text} {selections : List Selection}
    (h : raws.mapM parse = .ok selections) :
    selections.length = raws.length ∧ ∀ s ∈ selections, ∃ raw, parse raw = .ok s := by
  induction raws generalizing selections with
  | nil =>
      cases h
      simp
  | cons raw raws ih =>
      rw [List.mapM_cons] at h
      cases hraw : parse raw with
      | error e =>
          rw [hraw] at h
          cases h
      | ok s =>
          cases hraws : raws.mapM parse with
          | error e =>
              rw [hraw, hraws] at h
              cases h
          | ok rest =>
              rw [hraw, hraws] at h
              cases h
              obtain ⟨hlength, hall⟩ := ih hraws
              exact ⟨congrArg (· + 1) hlength, List.forall_mem_cons.mpr ⟨⟨raw, hraw⟩, hall⟩⟩

/-- All ranges that are read keep the bound. -/
theorem keepsDigitBound_of_mapM {raws : List Text} {selections : List Selection}
    (h : raws.mapM parse = .ok selections) : ∀ s ∈ selections, s.KeepsDigitBound := by
  intro s hs
  obtain ⟨raw, hraw⟩ := (parse_of_mapM h).2 s hs
  exact keepsDigitBound_of_parse hraw

end LineJoin.Selection
