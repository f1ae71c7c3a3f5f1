import LineJoin.Proofs.Command.InPlace

/-!
# Which selections are skipped

Selections are taken greedily in document order: each is accepted unless it ends on the last line or
shares a line with one that was accepted before it. A skipped selection claims nothing, so it never
is the reason for another skip.

Equal selections are told apart by their place in the order, so the statements are about lists of
selections with a mark, not about sets. `judge_of_append` reads one verdict off the walk;
`partition_eq_greedy` puts the whole partition together.
-/

namespace LineJoin

theorem Selection.overlaps_eq_true_iff {s t : Selection} :
    s.overlaps t = true ↔ ∃ i, s.covers i = true ∧ t.covers i = true := by
  have hs := s.start_lt_last
  have ht := t.start_lt_last
  simp only [Selection.covers_eq_true_iff]
  unfold overlaps
  rw [Bool.and_eq_true, decide_eq_true_iff, decide_eq_true_iff]
  constructor
  · rintro ⟨hst, hts⟩
    -- the later of the two first lines belongs to both
    exact ⟨max s.start t.start, by omega, by omega⟩
  · rintro ⟨i, hsi, hti⟩
    omega

/-! ## The walk -/

theorem skipReason?_isSome_iff {d : Document} {claimed : List Selection} {s : Selection} :
    (skipReason? d claimed s).isSome = true ↔
      d.lineCount ≤ s.stop + 1 ∨
        ∃ t ∈ claimed, ∃ i, s.covers i = true ∧ t.covers i = true := by
  rw [← Option.ne_none_iff_isSome, ne_eq, skipReason?_eq_none_iff, Classical.not_and_iff_not_or_not,
    Nat.not_lt]
  refine or_congr_right ?_
  push Not
  refine exists_congr fun t => and_congr_right fun _ => ?_
  rw [ne_eq, Bool.not_eq_false, Selection.overlaps_eq_true_iff]

/-- Every selection is judged once, in the order in which they come. -/
theorem judge_map_fst (d : Document) (claimed pending : List Selection) :
    (judge d claimed pending).map (·.1) = pending := by
  induction pending generalizing claimed with
  | nil => rfl
  | cons s pending ih =>
      unfold judge
      split
      · rw [List.map_cons, ih]
      · rw [List.map_cons, ih]

/-- A verdict is the skip reason against what was claimed at first and what was accepted since. -/
theorem judge_of_append {d : Document} {claimed pending : List Selection}
    {before after : List (Selection × Option SkipReason)} {s : Selection}
    {reason : Option SkipReason} (h : judge d claimed pending = before ++ (s, reason) :: after) :
    skipReason? d (claimed ++ joinable before) s = reason := by
  induction before generalizing claimed pending with
  | nil =>
      cases pending with
      | nil => cases h
      | cons u pending =>
          rw [joinable, List.filter_nil, List.map_nil, List.append_nil]
          unfold judge at h
          split at h
          · next hsome =>
              obtain ⟨⟨rfl, rfl⟩, _⟩ : ((u, _) = (s, reason)) ∧ _ := by simpa using h
              exact hsome
          · next hnone =>
              obtain ⟨⟨rfl, rfl⟩, _⟩ : ((u, _) = (s, reason)) ∧ _ := by simpa using h
              exact hnone
  | cons v before ih =>
      cases pending with
      | nil => cases h
      | cons u pending =>
          unfold judge at h
          split at h
          -- one that is skipped adds nothing to the claims
          · obtain ⟨rfl, hrest⟩ := List.cons.inj h
            exact ih hrest
          -- one that is accepted moves from what is judged to what is claimed
          · obtain ⟨rfl, hrest⟩ := List.cons.inj h
            have hstep := ih hrest
            rw [List.append_assoc] at hstep
            exact hstep

/-! ## The partition -/

/-- A verdict as a mark: whether the selection is accepted. -/
def mark (v : Selection × Option SkipReason) : Selection × Bool := (v.1, v.2.isNone)

theorem mem_joinable_iff {judged : List (Selection × Option SkipReason)} {s : Selection} :
    s ∈ joinable judged ↔ (s, true) ∈ judged.map mark := by
  simp only [joinable, mark, List.mem_map, List.mem_filter, Prod.mk.injEq]
  constructor
  · rintro ⟨v, ⟨hv, hnone⟩, rfl⟩
    exact ⟨v, hv, rfl, hnone⟩
  · rintro ⟨v, hv, rfl, hnone⟩
    exact ⟨v, ⟨hv, hnone⟩, rfl⟩

theorem verdicts_map_fst (d : Document) (selections : List Selection) :
    (verdicts d selections).map (·.1) = inDocumentOrder selections :=
  judge_map_fst d [] (inDocumentOrder selections)

/-- Whatever verdicts are picked, their selections are in document order. -/
theorem verdicts_filter_sorted (d : Document) (selections : List Selection)
    (p : Selection × Option SkipReason → Bool) :
    (((verdicts d selections).filter p).map (·.1)).Pairwise fun s t => s.le t = true := by
  have hsub :
      (((verdicts d selections).filter p).map (·.1)).Sublist (inDocumentOrder selections) := by
    rw [← verdicts_map_fst d selections]
    exact List.filter_sublist.map _
  exact (inDocumentOrder_sorted selections).sublist hsub

/-- No selection is lost and none is counted twice. -/
theorem partition_perm (d : Document) (selections : List Selection) :
    ((partition d selections).accepted ++ (partition d selections).skipped).Perm selections := by
  have hparts : ((verdicts d selections).filter (·.2.isNone) ++
      (verdicts d selections).filter (·.2.isSome)).Perm (verdicts d selections) := by
    have hnot : (fun v : Selection × Option SkipReason => v.2.isSome) =
        fun v => !v.2.isNone := by
      funext v
      cases v.2 <;> rfl
    rw [hnot]
    exact List.filter_append_perm _ _
  have hmap := hparts.map (·.1)
  rw [List.map_append, verdicts_map_fst] at hmap
  exact hmap.trans (List.mergeSort_perm selections Selection.le)

/-- The selections of a document are partitioned greedily. Both parts are in document order and
together they are the given selections. The accepted ones join at least two lines each, lie inside
the document, and end before the next one starts. With a mark on each selection that says whether it
is accepted, a selection is skipped exactly if it ends on the last line or past it, or shares a line
with one that is marked as accepted before it. -/
theorem partition_eq_greedy (d : Document) (selections : List Selection) :
    ((partition d selections).accepted ++ (partition d selections).skipped).Perm selections ∧
    (partition d selections).accepted.Pairwise (fun s t => s.le t = true) ∧
    (partition d selections).skipped.Pairwise (fun s t => s.le t = true) ∧
    (∀ s ∈ (partition d selections).accepted, s.start + 1 ≤ s.last ∧ s.last < d.lineCount) ∧
    (partition d selections).accepted.Pairwise (fun s t => s.last < t.start) ∧
    ∃ marked : List (Selection × Bool),
      marked.map (·.1) = inDocumentOrder selections ∧
      (partition d selections).accepted = (marked.filter (·.2)).map (·.1) ∧
      (partition d selections).skipped = (marked.filter (!·.2)).map (·.1) ∧
      ∀ before s isAccepted after, marked = before ++ (s, isAccepted) :: after →
        (isAccepted = false ↔ d.lineCount ≤ s.stop + 1 ∨
          ∃ t, (t, true) ∈ before ∧ ∃ i, s.covers i = true ∧ t.covers i = true) := by
  have hapart := partition_apart d selections
  refine ⟨partition_perm d selections, verdicts_filter_sorted d selections _,
    verdicts_filter_sorted d selections _, fun s hs => ⟨s.start_lt_last, hapart.inside s hs⟩,
    hapart.ordered, (verdicts d selections).map mark, ?_, ?_, ?_, ?_⟩
  · rw [List.map_map, ← verdicts_map_fst d selections]
    rfl
  · rw [List.filter_map, List.map_map]
    rfl
  · rw [List.filter_map, List.map_map]
    have hmark : ((!·.2) ∘ mark) = fun v => v.2.isSome := by
      funext v
      exact Option.not_isNone v.2
    rw [hmark]
    rfl
  · intro before s isAccepted after h
    obtain ⟨first, last, hverdicts, rfl, hlast⟩ := List.map_eq_append_iff.mp h
    obtain ⟨⟨u, reason⟩, rest, rfl, hu, _⟩ := List.map_eq_cons_iff.mp hlast
    obtain ⟨rfl, rfl⟩ := Prod.mk.inj hu
    have hreason := judge_of_append hverdicts
    rw [List.nil_append] at hreason
    rw [← Option.not_isSome, Bool.not_eq_false', ← hreason, skipReason?_isSome_iff]
    simp only [mem_joinable_iff]

-- the second selection is skipped for the first, so the third one has nothing to overlap
example : partition ⟨["a".toList, "b".toList, "c".toList, "d".toList, "e".toList], ['\n'], false⟩
    [⟨2, 3, by decide⟩, ⟨1, 2, by decide⟩, ⟨0, 1, by decide⟩] =
    ⟨[⟨0, 1, by decide⟩, ⟨2, 3, by decide⟩], [⟨1, 2, by decide⟩]⟩ := by cbv

end LineJoin
