import Mathlib
import LineJoin.Proofs.Numeral
import LineJoin.Selection

/-!
# What a range is

People write a line as one number and lines as two with a hyphen between them. `Spells` is that
grammar; `parse_follows_grammar` says that exactly its texts are read, each as the lines that it
spells, and for every other text which of the three refusals it meets. The hyphen is a minus sign
too, but the first one always parts the two numbers: `-3` has nothing before it, and `3--5` ends with
a number below one.

Around a range anything blank may stand. Beside the hyphen only white space may: an information
separator is trimmed off the ends but is no part of a number (`separator_beside_hyphen_refused`).
-/

namespace LineJoin

/-! ## The first hyphen -/

theorem Text.splitFirst_eq_none_iff {sep : Char} {t : Text} :
    splitFirst sep t = none ↔ sep ∉ t := by
  induction t with
  | nil => simp [splitFirst]
  | cons c rest ih =>
      by_cases hc : c = sep
      · simp [splitFirst, hc]
      · simp [splitFirst, hc, ih, Ne.symm hc]

theorem Text.splitFirst_eq_some_iff {sep : Char} {t before after : Text} :
    splitFirst sep t = some (before, after) ↔ t = before ++ sep :: after ∧ sep ∉ before := by
  induction t generalizing before with
  | nil => simp [splitFirst]
  | cons c rest ih =>
      cases before with
      | nil => by_cases hc : c = sep <;> simp [splitFirst, hc]
      | cons b before =>
          by_cases hc : c = sep
          -- a separator that comes first has nothing before it
          · simp only [splitFirst, hc, if_true, Option.some.injEq, Prod.mk.injEq, reduceCtorEq,
              false_and, List.cons_append, List.cons.injEq, false_iff, not_and, not_not]
            rintro ⟨rfl, _⟩
            exact List.mem_cons_self
          · simp only [splitFirst, if_neg hc, Option.map_eq_some_iff, Prod.exists, Prod.mk.injEq,
              List.cons.injEq, List.cons_append, List.mem_cons, not_or]
            constructor
            · rintro ⟨before', after', hrest, ⟨rfl, rfl⟩, rfl⟩
              obtain ⟨rfl, hbefore⟩ := ih.mp hrest
              exact ⟨⟨rfl, rfl⟩, Ne.symm hc, hbefore⟩
            · rintro ⟨⟨rfl, hrest⟩, _, hbefore⟩
              exact ⟨before, after, ih.mpr ⟨hrest, hbefore⟩, ⟨rfl, rfl⟩, rfl⟩

namespace Selection

open Numeral Text

/-- A text in which two numbers are found: on both sides of its first hyphen, or in the whole of it
if it has none. -/
inductive HasBounds : Text → Int → Int → Prop
  | whole {t : Text} {i : Int} : '-' ∉ t → IsInteger t i → HasBounds t i i
  | sides {before after : Text} {i j : Int} : '-' ∉ before → IsInteger before i →
      IsInteger after j → HasBounds (before ++ '-' :: after) i j

/-- The written forms of selections, counted from one. Blanks may stand around, and characters of the
class `gap` beside the hyphen. -/
inductive Spells (gap : Char → Bool) : Text → Selection → Prop
  | line {pre t post : Text} {v : Nat} : Blank pre → Blank post → IsNumeral t (v + 1) →
      Spells gap (pre ++ (t ++ post)) ⟨v, v, Nat.le_refl v⟩
  | lines {pre t left right u post : Text} {v w : Nat} (h : v ≤ w) : Blank pre → Blank post →
      Only gap left → Only gap right → IsNumeral t (v + 1) → IsNumeral u (w + 1) →
      Spells gap (pre ++ ((t ++ (left ++ '-' :: (right ++ u))) ++ post)) ⟨v, w, h⟩

/-! ## The two numbers -/

section Bounds

variable {t : Text} {i j : Int}

theorem read?_bounds_iff :
    Numeral.read? (bounds t).1 = some i ∧ Numeral.read? (bounds t).2 = some j ↔
      HasBounds t i j := by
  unfold bounds
  constructor
  · rintro ⟨hi, hj⟩
    cases hsplit : splitFirst '-' t with
    | none =>
        rw [hsplit] at hi hj
        obtain rfl : i = j := Option.some.inj (hi.symm.trans hj)
        exact .whole (splitFirst_eq_none_iff.mp hsplit) (read?_eq_some_iff.mp hi)
    | some sides =>
        rw [hsplit] at hi hj
        obtain ⟨rfl, hbefore⟩ := splitFirst_eq_some_iff.mp hsplit
        exact .sides hbefore (read?_eq_some_iff.mp hi) (read?_eq_some_iff.mp hj)
  · intro h
    cases h with
    | whole hnone hi =>
        rw [splitFirst_eq_none_iff.mpr hnone]
        exact ⟨read?_eq_some_iff.mpr hi, read?_eq_some_iff.mpr hi⟩
    | sides hbefore hi hj =>
        rw [splitFirst_eq_some_iff.mpr ⟨rfl, hbefore⟩]
        exact ⟨read?_eq_some_iff.mpr hi, read?_eq_some_iff.mpr hj⟩

end Bounds

/-! ## Written forms -/

section Spells

variable {raw t : Text} {i j : Int}

theorem trim_eq_cut (t : Text) : trim t = (t.dropWhile isBlank).rdropWhile isBlank := rfl

/-- A number from one on has no minus sign. -/
theorem exists_isNumeral (h : IsInteger t i) (hi : 1 ≤ i) :
    ∃ pre num post, ∃ v : Nat, t = pre ++ (num ++ post) ∧ Only isSpace pre ∧ Only isSpace post ∧
      IsNumeral num (v + 1) ∧ i = v + 1 := by
  obtain ⟨hpre, hpost, hsigned⟩ := h
  cases hsigned with
  | minus => omega
  | @numeral _ n hn =>
      obtain ⟨v, rfl⟩ : ∃ v, n = v + 1 := ⟨n - 1, by omega⟩
      exact ⟨_, _, _, v, rfl, hpre, hpost, hn, by omega⟩

theorem blank_of_only_isSpace (h : Only isSpace t) : Blank t := by
  intro c hc
  have hspace := h c hc
  rw [isSpace, Bool.and_eq_true] at hspace
  exact hspace.1

theorem exists_spells (h : HasBounds (trim raw) i j) (hi : 1 ≤ i) (hij : i ≤ j) :
    ∃ s : Selection, Spells isSpace raw s ∧ i = s.start + 1 ∧ j = s.stop + 1 := by
  obtain ⟨pre, post, hpre, hpost, hraw⟩ := exists_only_around isBlank raw
  rw [← trim_eq_cut] at hraw
  rw [hraw]
  generalize trim raw = t at h
  cases h with
  | whole _ hinteger =>
      obtain ⟨pre', num, post', v, rfl, hpre', hpost', hnum, hv⟩ := exists_isNumeral hinteger hi
      have hspells : Spells isSpace ((pre ++ pre') ++ (num ++ (post' ++ post)))
          ⟨v, v, Nat.le_refl v⟩ :=
        .line (only_append hpre (blank_of_only_isSpace hpre'))
          (only_append (blank_of_only_isSpace hpost') hpost) hnum
      simp only [List.append_assoc] at hspells ⊢
      exact ⟨_, hspells, hv, hv⟩
  | sides _ hfirst hsecond =>
      obtain ⟨pre', num, left, v, rfl, hpre', hleft, hnum, hv⟩ := exists_isNumeral hfirst hi
      obtain ⟨right, num', post', w, rfl, hright, hpost', hnum', hw⟩ :=
        exists_isNumeral hsecond (by omega)
      have hle : v ≤ w := by omega
      have hspells : Spells isSpace
          ((pre ++ pre') ++ ((num ++ (left ++ '-' :: (right ++ num'))) ++ (post' ++ post)))
          ⟨v, w, hle⟩ :=
        .lines hle (only_append hpre (blank_of_only_isSpace hpre'))
          (only_append (blank_of_only_isSpace hpost') hpost) hleft hright hnum hnum'
      simp only [List.append_assoc, List.cons_append] at hspells ⊢
      exact ⟨_, hspells, hv, hw⟩

/-- Numbers that are those of a selection spell it. -/
theorem spells_of_hasBounds {s : Selection} (h : HasBounds (trim raw) (s.start + 1) (s.stop + 1)) :
    Spells isSpace raw s := by
  have hle := s.start_le_stop
  obtain ⟨s', hspells, hstart, hstop⟩ := exists_spells h (by omega) (by omega)
  obtain ⟨start, stop, _⟩ := s
  obtain ⟨start', stop', _⟩ := s'
  obtain rfl : start = start' := by simpa using hstart
  obtain rfl : stop = stop' := by simpa using hstop
  exact hspells

theorem hyphen_not_mem {num : Text} {n : Nat} (h : IsNumeral num n) : '-' ∉ num :=
  fun hmem => (h.not_blank '-' hmem).2 rfl

theorem hasBounds_of_spells {s : Selection} (h : Spells isSpace raw s) :
    HasBounds (trim raw) (s.start + 1) (s.stop + 1) := by
  cases h with
  | @line pre t post v hpre hpost hnum =>
      have htrim : trim (pre ++ (t ++ post)) = t :=
        cut_around hpre hpost hnum.ne_nil (hnum.not_blank _ (List.head_mem _)).1
          (hnum.not_blank _ (List.getLast_mem _)).1
      have hinteger := IsInteger.around only_nil only_nil (.numeral hnum)
      rw [List.nil_append, List.append_nil] at hinteger
      rw [htrim]
      exact .whole (hyphen_not_mem hnum) hinteger
  | @lines pre t left right u post v w hle hpre hpost hleft hright hnum hnum' =>
      have hne : t ++ (left ++ '-' :: (right ++ u)) ≠ [] := by simp
      have hlast : (t ++ (left ++ '-' :: (right ++ u))).getLast hne = u.getLast hnum'.ne_nil := by
        simp [hnum'.ne_nil]
      have htrim : trim (pre ++ ((t ++ (left ++ '-' :: (right ++ u))) ++ post)) =
          t ++ (left ++ '-' :: (right ++ u)) := by
        refine cut_around hpre hpost hne ?_ ?_
        · rw [List.head_append_of_ne_nil hnum.ne_nil]
          exact (hnum.not_blank _ (List.head_mem _)).1
        · rw [hlast]
          exact (hnum'.not_blank _ (List.getLast_mem _)).1
      have hfirst := IsInteger.around only_nil hleft (.numeral hnum)
      have hsecond := IsInteger.around hright only_nil (.numeral hnum')
      rw [List.nil_append] at hfirst
      rw [List.append_nil] at hsecond
      have hbefore : '-' ∉ t ++ left := by
        intro hmem
        rcases List.mem_append.mp hmem with hmem | hmem
        · exact hyphen_not_mem hnum hmem
        · exact absurd (hleft _ hmem) (by decide)
      rw [htrim, ← List.append_assoc]
      exact .sides hbefore hfirst hsecond

end Spells

/-! ## Reading -/

section Reading

variable {raw : Text} {i j : Int}

theorem parse_of_hasBounds (h : HasBounds (trim raw) i j) :
    parse raw = if i < 1 ∨ j < 1 then .error (.rangeBelowOne raw) else ofLines (i - 1) (j - 1) := by
  obtain ⟨hi, hj⟩ := read?_bounds_iff.mpr h
  unfold parse
  simp only [hi, hj]

theorem parse_of_not_hasBounds (h : ∀ i j, ¬ HasBounds (trim raw) i j) :
    parse raw = .error (.invalidRange raw) := by
  unfold parse
  simp only
  split
  · next start stop hstart hstop => exact absurd (read?_bounds_iff.mp ⟨hstart, hstop⟩) (h _ _)
  · rfl

theorem ofLines_natCast (start stop : Nat) :
    ofLines start stop =
      if h : start ≤ stop then .ok ⟨start, stop, h⟩ else .error (.endBeforeStart start stop) := by
  unfold ofLines
  rw [if_neg (by omega)]
  rfl

/-- What becomes of a text: it gives a selection, or is refused for one of three reasons. -/
inductive Reads (raw : Text) : Except Error Selection → Prop
  | accepted {s : Selection} : HasBounds (trim raw) (s.start + 1) (s.stop + 1) → Reads raw (.ok s)
  | belowOne {i j : Int} : HasBounds (trim raw) i j → i < 1 ∨ j < 1 →
      Reads raw (.error (.rangeBelowOne raw))
  | backwards {start stop : Nat} : HasBounds (trim raw) (start + 1) (stop + 1) → stop < start →
      Reads raw (.error (.endBeforeStart start stop))
  | invalid : (∀ i j, ¬ HasBounds (trim raw) i j) → Reads raw (.error (.invalidRange raw))

theorem parse_of_natCast {start stop : Nat} (h : HasBounds (trim raw) (start + 1) (stop + 1)) :
    parse raw = ofLines start stop := by
  rw [parse_of_hasBounds h, if_neg (by omega), Int.add_sub_cancel, Int.add_sub_cancel]

theorem reads_parse (raw : Text) : Reads raw (parse raw) := by
  by_cases hbounds : ∃ i j, HasBounds (trim raw) i j
  · obtain ⟨i, j, h⟩ := hbounds
    by_cases hlow : i < 1 ∨ j < 1
    · rw [parse_of_hasBounds h, if_pos hlow]
      exact .belowOne h hlow
    · obtain ⟨start, rfl⟩ : ∃ start : Nat, i = start + 1 := ⟨(i - 1).toNat, by omega⟩
      obtain ⟨stop, rfl⟩ : ∃ stop : Nat, j = stop + 1 := ⟨(j - 1).toNat, by omega⟩
      rw [parse_of_natCast h, ofLines_natCast]
      split
      · exact .accepted h
      · exact .backwards h (by omega)
  · have hnone : ∀ i j, ¬ HasBounds (trim raw) i j := fun i j h => hbounds ⟨i, j, h⟩
    rw [parse_of_not_hasBounds hnone]
    exact .invalid hnone

theorem parse_eq_iff {result : Except Error Selection} : parse raw = result ↔ Reads raw result := by
  constructor
  · rintro rfl
    exact reads_parse raw
  · intro h
    cases h with
    | @accepted s h =>
        rw [parse_of_natCast h, ofLines_natCast, dif_pos s.start_le_stop]
    | belowOne h hlow => rw [parse_of_hasBounds h, if_pos hlow]
    | backwards h hlt => rw [parse_of_natCast h, ofLines_natCast, dif_neg (by omega)]
    | invalid hnone => exact parse_of_not_hasBounds hnone

/-- A text is read as a selection exactly if it spells it. Otherwise it is refused: it has a line
number below one exactly if numbers stand on both sides of its first hyphen, or in the whole of it,
and one of them is below one; its end is before its start exactly if both are from one on and the
second is smaller; and in all other cases it is no range at all. The words of a refusal tell which of
the three it is. -/
theorem parse_follows_grammar (raw : Text) :
    (∀ s, parse raw = .ok s ↔ Spells isSpace raw s) ∧
    (parse raw = .error (.rangeBelowOne raw) ↔
      ∃ i j, HasBounds (trim raw) i j ∧ (i < 1 ∨ j < 1)) ∧
    (∀ start stop, parse raw = .error (.endBeforeStart start stop) ↔
      HasBounds (trim raw) (start + 1) (stop + 1) ∧ stop < start) ∧
    (parse raw = .error (.invalidRange raw) ↔ ¬ ∃ i j, HasBounds (trim raw) i j) ∧
    ∀ e, parse raw = .error e →
      e = .rangeBelowOne raw ∧
        e.message = "Line numbers start at 1, got '".toList ++ raw ++ "'".toList ∨
      (∃ start stop, e = .endBeforeStart start stop ∧
        e.message = "Selection end line ".toList ++ decimal stop ++
          " is before start line ".toList ++ decimal start) ∨
      e = .invalidRange raw ∧
        e.message = "Invalid line range '".toList ++ raw ++ "'".toList := by
  simp only [parse_eq_iff]
  refine ⟨?_, ?_, ?_, ?_, ?_⟩
  · intro s
    constructor
    · rintro ⟨h⟩
      exact spells_of_hasBounds h
    · intro h
      exact .accepted (hasBounds_of_spells h)
  · constructor
    · intro h
      cases h with
      | belowOne h hlow => exact ⟨_, _, h, hlow⟩
    · rintro ⟨i, j, h, hlow⟩
      exact .belowOne h hlow
  · intro start stop
    constructor
    · intro h
      cases h with
      | backwards h hlt => exact ⟨h, hlt⟩
    · rintro ⟨h, hlt⟩
      exact .backwards h hlt
  · constructor
    · rintro h ⟨i, j, hbounds⟩
      cases h with
      | invalid hnone => exact hnone i j hbounds
    · intro hnone
      exact .invalid fun i j h => hnone ⟨i, j, h⟩
  · intro e h
    cases h with
    | belowOne => exact .inl ⟨rfl, rfl⟩
    | backwards => exact .inr (.inl ⟨_, _, rfl, rfl⟩)
    | invalid => exact .inr (.inr ⟨rfl, rfl⟩)

/-- If any blank could stand beside the hyphen, `3`, a file separator and `-5` would spell the lines
from the third to the fifth. But the separator is no white space, and no number is found before the
hyphen. -/
theorem separator_beside_hyphen_refused :
    Spells isBlank "3\x1c-5".toList ⟨2, 4, by decide⟩ ∧
    parse "3\x1c-5".toList = .error (.invalidRange "3\x1c-5".toList) := by
  have hthree : IsNumeral ['3'] 3 := .plain (.of_digits (.last rfl) (by decide))
  have hfive : IsNumeral ['5'] 5 := .plain (.of_digits (.last rfl) (by decide))
  refine ⟨?_, by cbv⟩
  show Spells isBlank ([] ++ ((['3'] ++ (['\x1c'] ++ '-' :: ([] ++ ['5']))) ++ [])) _
  exact .lines (by decide) blank_nil blank_nil (by decide) only_nil hthree hfive

end Reading

end Selection

end LineJoin
