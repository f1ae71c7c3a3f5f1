import LineJoin.Command

/-!
# The accepted selections

Selections are judged one by one in document order, against those accepted before. What comes out
is a list of ranges that can be edited independently: each lies inside the document, and each ends
before the next one starts (`partition_apart`). The invariant of the walk, `apart_judge`, is about
the selections claimed so far and those still to be judged.
-/

namespace LineJoin

namespace Selection

/-- Every selection joins at least two lines. -/
theorem start_lt_last (s : Selection) : s.start < s.last := by
  have hle := s.start_le_stop
  unfold last isSingle
  split
  · omega
  · next hne =>
      have hne : s.start ≠ s.stop := by simpa using hne
      omega

theorem start_add_size (s : Selection) : s.start + s.size = s.last + 1 := by
  have hlt := s.start_lt_last
  unfold size
  omega

/-- A single line reaches one past its own end, a longer selection just to it. -/
theorem last_le_stop_succ (s : Selection) : s.last ≤ s.stop + 1 := by
  have hle := s.start_le_stop
  unfold last
  split <;> omega

theorem stop_le_last (s : Selection) : s.stop ≤ s.last := by
  have hlt := s.start_lt_last
  unfold last at hlt ⊢
  split
  · next hsingle =>
      have heq : s.start = s.stop := by simpa [isSingle] using hsingle
      omega
  · exact Nat.le_refl _

theorem overlaps_eq_false_iff {s t : Selection} :
    s.overlaps t = false ↔ t.last < s.start ∨ s.last < t.start := by
  unfold overlaps
  rw [Bool.and_eq_false_iff, decide_eq_false_iff_not, decide_eq_false_iff_not]
  omega

/-! ## Document order -/

theorem le_eq_true_iff {s t : Selection} :
    s.le t = true ↔ s.start < t.start ∨ s.start = t.start ∧ s.stop ≤ t.stop := by
  simp [le]

theorem le_trans (s t u : Selection) (hst : s.le t = true) (htu : t.le u = true) :
    s.le u = true := by
  rw [le_eq_true_iff] at *
  omega

theorem le_total (s t : Selection) : (s.le t || t.le s) = true := by
  rw [Bool.or_eq_true, le_eq_true_iff, le_eq_true_iff]
  omega

theorem start_le_of_le {s t : Selection} (h : s.le t = true) : s.start ≤ t.start := by
  rw [le_eq_true_iff] at h
  omega

/-- Selections inside a document of `n` lines, each of which ends before the next one starts. -/
structure Apart (n : Nat) (ss : List Selection) : Prop where
  inside : ∀ s ∈ ss, s.last < n
  ordered : ss.Pairwise fun s t => s.last < t.start

theorem Apart.tail {n : Nat} {s : Selection} {ss : List Selection} (h : Apart n (s :: ss)) :
    Apart n ss :=
  ⟨fun t ht => h.inside t (List.mem_cons_of_mem s ht), (List.pairwise_cons.mp h.ordered).2⟩

theorem Apart.head_last_lt {n : Nat} {s : Selection} {ss : List Selection}
    (h : Apart n (s :: ss)) : ∀ t ∈ ss, s.last < t.start :=
  (List.pairwise_cons.mp h.ordered).1

theorem Apart.concat {n : Nat} {ss : List Selection} {s : Selection} (h : Apart n ss)
    (hs : s.last < n) (hlast : ∀ t ∈ ss, t.last < s.start) : Apart n (ss ++ [s]) := by
  refine ⟨?_, ?_⟩
  · intro t ht
    rcases List.mem_append.mp ht with ht | ht
    · exact h.inside t ht
    · exact List.mem_singleton.mp ht ▸ hs
  · refine List.pairwise_append.mpr ⟨h.ordered, List.pairwise_singleton _ _, ?_⟩
    intro t ht u hu
    exact List.mem_singleton.mp hu ▸ hlast t ht

end Selection

theorem inDocumentOrder_sorted (selections : List Selection) :
    (inDocumentOrder selections).Pairwise fun s t => s.le t = true :=
  List.pairwise_mergeSort Selection.le_trans Selection.le_total selections

theorem inDocumentOrder_pairwise (selections : List Selection) :
    (inDocumentOrder selections).Pairwise fun s t => s.start ≤ t.start :=
  (inDocumentOrder_sorted selections).imp fun h => Selection.start_le_of_le h

/-! ## One verdict -/

theorem skipReason?_eq_none_iff {d : Document} {claimed : List Selection} {s : Selection} :
    skipReason? d claimed s = none ↔
      s.stop + 1 < d.lineCount ∧ ∀ t ∈ claimed, s.overlaps t = false := by
  unfold skipReason?
  split
  · next hlast =>
      have hlast : d.lineCount ≤ s.stop + 1 := of_decide_eq_true hlast
      simp only [reduceCtorEq, false_iff, not_and]
      intro hlt
      omega
  · next hlast =>
      have hlast : s.stop + 1 < d.lineCount := by
        rw [Document.endsOnLastLine, decide_eq_true_iff] at hlast
        omega
      simp [hlast, List.any_eq_true]

/-- A selection that is not skipped lies inside the document, and behind every selection claimed
before it that does not start after it. -/
theorem last_lt_of_skipReason?_eq_none {d : Document} {claimed : List Selection} {s : Selection}
    (h : skipReason? d claimed s = none) (horder : ∀ t ∈ claimed, t.start ≤ s.start) :
    s.last < d.lineCount ∧ ∀ t ∈ claimed, t.last < s.start := by
  obtain ⟨hstop, hclear⟩ := skipReason?_eq_none_iff.mp h
  refine ⟨Nat.lt_of_le_of_lt s.last_le_stop_succ hstop, ?_⟩
  intro t ht
  have hstart := horder t ht
  have hlt := s.start_lt_last
  rcases Selection.overlaps_eq_false_iff.mp (hclear t ht) with hbefore | hbehind <;> omega

/-! ## All verdicts -/

/-- The selections that verdicts let through. -/
def joinable (judged : List (Selection × Option SkipReason)) : List Selection :=
  (judged.filter (·.2.isNone)).map (·.1)

/-- What is accepted of the selections still to be judged continues what was claimed. -/
theorem apart_judge {d : Document} {claimed pending : List Selection}
    (hclaimed : Selection.Apart d.lineCount claimed)
    (hpending : pending.Pairwise fun s t => s.start ≤ t.start)
    (horder : ∀ t ∈ claimed, ∀ s ∈ pending, t.start ≤ s.start) :
    Selection.Apart d.lineCount (claimed ++ joinable (judge d claimed pending)) := by
  induction pending generalizing claimed with
  | nil =>
      rw [judge, joinable, List.filter_nil, List.map_nil, List.append_nil]
      exact hclaimed
  | cons s pending ih =>
      obtain ⟨hs, hpending⟩ := List.pairwise_cons.mp hpending
      have horder' : ∀ t ∈ claimed, ∀ u ∈ pending, t.start ≤ u.start :=
        fun t ht u hu => horder t ht u (List.mem_cons_of_mem s hu)
      unfold judge
      split
      -- a selection that is skipped claims nothing
      · exact ih hclaimed hpending horder'
      -- one that is accepted starts no earlier than the claims, so it lies behind all of them
      · next hnone =>
          have hmem : ∀ t ∈ claimed, t.start ≤ s.start :=
            fun t ht => horder t ht s List.mem_cons_self
          obtain ⟨hinside, hbehind⟩ := last_lt_of_skipReason?_eq_none hnone hmem
          have hnext : ∀ t ∈ claimed ++ [s], ∀ u ∈ pending, t.start ≤ u.start := by
            intro t ht u hu
            rcases List.mem_append.mp ht with ht | ht
            · exact horder' t ht u hu
            · exact List.mem_singleton.mp ht ▸ hs u hu
          have happ := ih (hclaimed.concat hinside hbehind) hpending hnext
          rw [List.append_assoc] at happ
          exact happ

/-- The accepted selections lie inside the document, and each ends before the next one starts. -/
theorem partition_apart (d : Document) (selections : List Selection) :
    Selection.Apart d.lineCount (partition d selections).accepted := by
  have hempty : Selection.Apart d.lineCount [] := ⟨by simp, List.Pairwise.nil⟩
  exact apart_judge hempty (inDocumentOrder_pairwise selections) (by simp)

end LineJoin
