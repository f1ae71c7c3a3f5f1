import LineJoin.Proofs.Command.Partition
import LineJoin.Proofs.Join.JoinPoint
import LineJoin.Proofs.RuleSet.Separable

/-!
# Joining in place

Joining in place edits a document from the bottom up, with line numbers that were computed before
the first edit. `replaced` says what should come of it without any order of edits: every line of the
document as it was is looked at once, and is kept, replaced by a joined line, or dropped, depending
only on its number. `joinLines_eq_replaced` says that this is what the command does, and that it
always succeeds.

The proof goes from the top: the edits below a selection leave everything up to its last line as it
was (`replaced_cons`), so the numbers of its lines are still right when its turn comes.
-/

namespace LineJoin

/-! ## Joins that end -/

namespace RuleSet

variable {R : RuleSet}

/-- The scan of every text ends. -/
def ScanEnds (R : RuleSet) : Prop := ∀ t, (R.tokenize t).isSome = true

theorem Separable.scanEnds (hR : R.Separable) : R.ScanEnds := by
  intro t
  obtain ⟨ts, e, hrun, _⟩ := Scan.exists_run hR.scanner.solid .code t
  rw [tokenize, Scan.scanFrom_of_run hR.scanner.solid hrun]
  rfl

theorem ScanEnds.exists_joinPair (hR : R.ScanEnds) (accumulated line : Text) :
    ∃ joined, R.joinPair accumulated line = .ok joined := by
  obtain ⟨ts, hts⟩ := Option.isSome_iff_exists.mp (hR accumulated)
  have hclass : R.classify accumulated = some (Context.ofTokens ts) := by
    rw [classify, hts, Option.map_some]
  exact ⟨_, joinPair_of_classify hclass line⟩

theorem ScanEnds.exists_foldlM_joinPair (hR : R.ScanEnds) (lines : List Text) (accumulated : Text) :
    ∃ joined, lines.foldlM R.joinPair accumulated = .ok joined := by
  induction lines generalizing accumulated with
  | nil => exact ⟨accumulated, rfl⟩
  | cons line lines ih =>
      obtain ⟨joined, hjoined⟩ := hR.exists_joinPair accumulated line
      rw [List.foldlM_cons, hjoined]
      exact ih joined

/-- Lines can be joined whenever there are any. -/
theorem ScanEnds.exists_joinAll (hR : R.ScanEnds) {lines : List Text} (hlines : lines ≠ []) :
    ∃ joined, R.joinAll lines = .ok joined := by
  obtain ⟨line, lines, rfl⟩ := List.exists_cons_of_ne_nil hlines
  exact hR.exists_foldlM_joinPair lines line

end RuleSet

/-! ## Replacing all ranges at once -/

namespace Selection

/-- Whether a line is among those that a selection joins. -/
def covers (s : Selection) (i : Nat) : Bool := decide (s.start ≤ i) && decide (i ≤ s.last)

theorem covers_eq_true_iff {s : Selection} {i : Nat} :
    s.covers i = true ↔ s.start ≤ i ∧ i ≤ s.last := by
  simp [covers]

theorem covers_eq_false_iff {s : Selection} {i : Nat} :
    s.covers i = false ↔ i < s.start ∨ s.last < i := by
  rw [Bool.eq_false_iff, ne_eq, covers_eq_true_iff]
  omega

end Selection

/-- What stands in place of line `i`: the line itself if no selection covers it, and otherwise the
new line of the selection, once, where the selection starts. -/
def inPlaceOf (accepted : List Selection) (joined : Selection → Text) (line : Text) (i : Nat) :
    List Text :=
  match accepted.find? (·.covers i) with
  | none => [line]
  | some s => if i = s.start then [joined s] else []

/-- Lines numbered from `k` on, with what stands in place of each. -/
def replaced (accepted : List Selection) (joined : Selection → Text) (k : Nat)
    (lines : List Text) : List Text :=
  (lines.zipIdx k).flatMap fun (line, i) => inPlaceOf accepted joined line i

section Replaced

variable {accepted : List Selection} {joined : Selection → Text}

theorem inPlaceOf_of_covers {s : Selection} {i : Nat} (h : s.covers i = true) (line : Text) :
    inPlaceOf (s :: accepted) joined line i = if i = s.start then [joined s] else [] := by
  simp only [inPlaceOf, List.find?_cons, h]

theorem inPlaceOf_of_not_covers {s : Selection} {i : Nat} (h : s.covers i = false) (line : Text) :
    inPlaceOf (s :: accepted) joined line i = inPlaceOf accepted joined line i := by
  simp only [inPlaceOf, List.find?_cons, h]

theorem replaced_cons_line (k : Nat) (line : Text) (lines : List Text) :
    replaced accepted joined k (line :: lines) =
      inPlaceOf accepted joined line k ++ replaced accepted joined (k + 1) lines := rfl

theorem replaced_append (k : Nat) (above below : List Text) :
    replaced accepted joined k (above ++ below) =
      replaced accepted joined k above ++ replaced accepted joined (k + above.length) below := by
  unfold replaced
  rw [List.zipIdx_append, List.flatMap_append]

/-- Lines above all selections are kept. -/
theorem replaced_above {k : Nat} {lines : List Text}
    (h : ∀ s ∈ accepted, k + lines.length ≤ s.start) :
    replaced accepted joined k lines = lines := by
  induction lines generalizing k with
  | nil => rfl
  | cons line lines ih =>
      rw [List.length_cons] at h
      have hnone : accepted.find? (·.covers k) = none := by
        rw [List.find?_eq_none]
        intro s hs
        have hstart := h s hs
        rw [Bool.not_eq_true, Selection.covers_eq_false_iff]
        omega
      have hrest : replaced accepted joined (k + 1) lines = lines := by
        refine ih fun s hs => ?_
        have hstart := h s hs
        omega
      rw [replaced_cons_line, inPlaceOf, hnone, hrest]
      rfl

/-- The lines of a selection after its first are dropped. -/
theorem replaced_inside {s : Selection} {k : Nat} {lines : List Text} (hk : s.start < k)
    (hlast : k + lines.length ≤ s.last + 1) : replaced (s :: accepted) joined k lines = [] := by
  induction lines generalizing k with
  | nil => rfl
  | cons line lines ih =>
      rw [List.length_cons] at hlast
      have hcovers : s.covers k = true := Selection.covers_eq_true_iff.mpr ⟨by omega, by omega⟩
      rw [replaced_cons_line, ih (by omega) (by omega), inPlaceOf_of_covers hcovers,
        List.append_nil]
      exact if_neg (by omega)

/-- The lines of a selection are replaced by one. -/
theorem replaced_range {s : Selection} {lines : List Text} (hsize : lines.length = s.size) :
    replaced (s :: accepted) joined s.start lines = [joined s] := by
  have hlt := s.start_lt_last
  have hadd := s.start_add_size
  cases lines with
  | nil =>
      rw [List.length_nil] at hsize
      omega
  | cons line lines =>
      rw [List.length_cons] at hsize
      have hcovers : s.covers s.start = true :=
        Selection.covers_eq_true_iff.mpr ⟨Nat.le_refl _, by omega⟩
      rw [replaced_cons_line, replaced_inside (by omega) (by omega), inPlaceOf_of_covers hcovers,
        List.append_nil]
      exact if_pos rfl

/-- A selection has no effect on the lines below it. -/
theorem replaced_below {s : Selection} {k : Nat} (hk : s.last < k) (lines : List Text) :
    replaced (s :: accepted) joined k lines = replaced accepted joined k lines := by
  induction lines generalizing k with
  | nil => rfl
  | cons line lines ih =>
      have hcovers : s.covers k = false := Selection.covers_eq_false_iff.mpr (.inr hk)
      rw [replaced_cons_line, replaced_cons_line, ih (by omega), inPlaceOf_of_not_covers hcovers]

/-- Above the end of a selection, the edits of the later ones change nothing; the selection's own
edit puts one line in place of its range. -/
theorem replaced_cons {s : Selection} {above range : List Text}
    (h : ∀ t ∈ accepted, s.last < t.start) (habove : above.length = s.start)
    (hrange : range.length = s.size) (joined : Selection → Text) (below : List Text) :
    ∃ below', replaced accepted joined 0 (above ++ (range ++ below)) = above ++ (range ++ below') ∧
      replaced (s :: accepted) joined 0 (above ++ (range ++ below)) =
        above ++ joined s :: below' := by
  have hadd := s.start_add_size
  have hlt := s.start_lt_last
  refine ⟨replaced accepted joined (s.last + 1) below, ?_, ?_⟩
  · have hkept : replaced accepted joined 0 (above ++ range) = above ++ range := by
      refine replaced_above fun t ht => ?_
      have := h t ht
      rw [List.length_append]
      omega
    have hnumber : 0 + (above ++ range).length = s.last + 1 := by
      rw [List.length_append]
      omega
    rw [← List.append_assoc, replaced_append, hkept, hnumber, List.append_assoc]
  · have hkept : replaced (s :: accepted) joined 0 above = above := by
      refine replaced_above fun t ht => ?_
      rcases List.mem_cons.mp ht with rfl | ht
      · omega
      · have := h t ht
        omega
    rw [replaced_append, replaced_append, hkept, Nat.zero_add, habove, replaced_range hrange,
      hrange, hadd, replaced_below (Nat.lt_succ_self _)]
    rfl

end Replaced

/-- The lines of a selection, and those above and below it. -/
theorem Selection.exists_split {s : Selection} {lines : List Text} (h : s.last < lines.length) :
    ∃ above range below, lines = above ++ (range ++ below) ∧ above.length = s.start ∧
      range.length = s.size ∧ range = (lines.drop s.start).take s.size := by
  have hadd := s.start_add_size
  have hlt := s.start_lt_last
  refine ⟨lines.take s.start, (lines.drop s.start).take s.size, (lines.drop s.start).drop s.size,
    ?_, ?_, ?_, rfl⟩
  · rw [List.take_append_drop, List.take_append_drop]
  · rw [List.length_take]
    omega
  · rw [List.length_take, List.length_drop]
    omega

theorem replaced_length {accepted : List Selection} (joined : Selection → Text) {lines : List Text}
    (h : Selection.Apart lines.length accepted) :
    lines.length =
      (replaced accepted joined 0 lines).length + (accepted.map fun s => s.size - 1).sum := by
  induction accepted with
  | nil =>
      rw [replaced_above (by simp)]
      simp
  | cons s accepted ih =>
      obtain ⟨above, range, below, hlines, habove, hrange, _⟩ :=
        Selection.exists_split (h.inside s List.mem_cons_self)
      obtain ⟨below', hbefore, hafter⟩ :=
        replaced_cons h.head_last_lt habove hrange joined below
      have hcount := ih h.tail
      have hadd := s.start_add_size
      have hlt := s.start_lt_last
      rw [← hlines] at hbefore hafter
      rw [hbefore] at hcount
      rw [hafter]
      simp only [List.length_append, List.length_cons, List.map_cons, List.sum_cons] at hcount ⊢
      omega

/-! ## Edits from the bottom up -/

namespace Document

theorem exists_lineAt {d : Document} {i : Nat} (h : i < d.lineCount) :
    ∃ line, d.lineAt i = .ok line := by
  have hnot : ¬ (i : Int) < 0 := by omega
  refine ⟨d.lines.get ⟨i, h⟩, ?_⟩
  rw [lineAt, if_neg hnot, Int.toNat_natCast, List.getElem?_eq_getElem h]
  rfl

/-- One edit: a range of lines inside the document gives way to one line. -/
theorem replaceLines_eq_ok {d : Document} {s : Selection} {above range below : List Text}
    (hlines : d.lines = above ++ (range ++ below)) (habove : above.length = s.start)
    (hrange : range.length = s.size) (line : Text) :
    d.replaceLines s.start s.last line = .ok { d with lines := above ++ line :: below } := by
  have hadd := s.start_add_size
  have hlt := s.start_lt_last
  have hcount : s.last < d.lineCount := by
    rw [lineCount, hlines, List.length_append, List.length_append]
    omega
  obtain ⟨first, hfirst⟩ := exists_lineAt (by omega : s.start < d.lineCount)
  obtain ⟨last, hlast⟩ := exists_lineAt hcount
  have htake : d.lines.take s.start = above := by
    rw [hlines, ← habove, List.take_left]
  have hdrop : d.lines.drop (s.last + 1) = below := by
    rw [hlines, ← List.append_assoc, ← hadd, ← habove, ← hrange, ← List.length_append,
      List.drop_left]
  unfold replaceLines
  rw [hfirst, hlast, Int.toNat_natCast, Int.toNat_natCast]
  show Except.ok { d with
    lines := d.lines.take s.start ++ line :: d.lines.drop (max s.start (s.last + 1)) } = _
  rw [htake, Nat.max_eq_right (by omega), hdrop]

end Document

/-- All edits: when each selection ends before the next one starts, the edits from the bottom up
replace every range of the document as it was. -/
theorem replaceAll_eq_replaced {d : Document} {accepted : List Selection}
    (joined : Selection → Text) (h : Selection.Apart d.lineCount accepted) :
    replaceAll d (accepted.zip (accepted.map joined)) =
      .ok { d with lines := replaced accepted joined 0 d.lines } := by
  induction accepted with
  | nil =>
      rw [replaced_above (by simp)]
      rfl
  | cons s accepted ih =>
      obtain ⟨above, range, below, hlines, habove, hrange, _⟩ :=
        Selection.exists_split (h.inside s List.mem_cons_self)
      obtain ⟨below', hbefore, hafter⟩ :=
        replaced_cons h.head_last_lt habove hrange joined below
      -- the edits below are done, and the lines up to the end of this range are as they were
      have hedited := ih h.tail
      rw [hlines] at hedited ⊢
      rw [hbefore] at hedited
      rw [hafter]
      unfold replaceAll at hedited ⊢
      rw [List.map_cons, List.zip_cons_cons, List.foldrM_cons, hedited]
      exact Document.replaceLines_eq_ok rfl habove hrange (joined s)

/-! ## The command -/

theorem joinedLines_eq_ok {R : RuleSet} {d : Document} {accepted : List Selection}
    {joined : Selection → Text} (hinside : ∀ s ∈ accepted, s.last < d.lineCount)
    (hjoined : ∀ s ∈ accepted, R.joinAll ((d.lines.drop s.start).take s.size) = .ok (joined s)) :
    joinedLines R d accepted = .ok (accepted.map joined) := by
  induction accepted with
  | nil => rfl
  | cons s accepted ih =>
      have hrest := ih (fun t ht => hinside t (List.mem_cons_of_mem s ht))
        (fun t ht => hjoined t (List.mem_cons_of_mem s ht))
      have hlines : d.linesFor s = .ok ((d.lines.drop s.start).take s.size) :=
        if_pos (hinside s List.mem_cons_self)
      unfold joinedLines at hrest ⊢
      rw [List.mapM_cons, hrest, hlines, List.map_cons]
      show (R.joinAll _ >>= _) = _
      rw [hjoined s List.mem_cons_self]
      rfl

theorem joinLines_eq (R : RuleSet) (d : Document) (selections : List Selection) :
    joinLines R d selections = (do
      let joined ← joinedLines R d (partition d selections).accepted
      let edited ← replaceAll d ((partition d selections).accepted.zip joined)
      return (edited, ⟨joined, (partition d selections).skipped⟩)) := rfl

theorem skipped_of_joinLines {R : RuleSet} {d edited : Document} {selections : List Selection}
    {report : Report} (h : joinLines R d selections = .ok (edited, report)) :
    report.skipped = (partition d selections).skipped := by
  rw [joinLines_eq] at h
  cases hjoined : joinedLines R d (partition d selections).accepted with
  | error e =>
      rw [hjoined] at h
      cases h
  | ok joined =>
      rw [hjoined] at h
      cases hedited : replaceAll d ((partition d selections).accepted.zip joined) with
      | error e =>
          simp only [bind, Except.bind, hedited] at h
          cases h
      | ok result =>
          simp only [bind, Except.bind, hedited] at h
          cases h
          rfl

/-- Joining in place succeeds: every accepted selection has a line that its lines are joined into,
and this line takes their place. -/
theorem RuleSet.ScanEnds.exists_joinLines {R : RuleSet} (hR : R.ScanEnds) (d : Document)
    (selections : List Selection) :
    ∃ joined : Selection → Text,
      (∀ s ∈ (partition d selections).accepted,
        R.joinAll ((d.lines.drop s.start).take s.size) = .ok (joined s)) ∧
      joinLines R d selections =
        .ok ({ d with lines := replaced (partition d selections).accepted joined 0 d.lines },
          ⟨(partition d selections).accepted.map joined, (partition d selections).skipped⟩) := by
  have hapart := partition_apart d selections
  -- the line of a selection that is not accepted does not matter
  have hexists : ∀ s, ∃ line, s ∈ (partition d selections).accepted →
      R.joinAll ((d.lines.drop s.start).take s.size) = .ok line := by
    intro s
    by_cases hs : s ∈ (partition d selections).accepted
    · obtain ⟨_, range, _, _, _, hsize, hrange⟩ := Selection.exists_split (hapart.inside s hs)
      have hne : (d.lines.drop s.start).take s.size ≠ [] := by
        have hadd := s.start_add_size
        have hlt := s.start_lt_last
        rw [← hrange, ← List.length_pos_iff]
        omega
      obtain ⟨line, hline⟩ := hR.exists_joinAll hne
      exact ⟨line, fun _ => hline⟩
    · exact ⟨[], fun h => absurd h hs⟩
  choose joined hjoined using hexists
  refine ⟨joined, hjoined, ?_⟩
  rw [joinLines_eq, joinedLines_eq_ok hapart.inside hjoined]
  show (replaceAll d _ >>= _) = _
  rw [replaceAll_eq_replaced joined hapart]
  rfl

/-- For every document, all selections and every rule set whose scans end, joining in place
succeeds. The accepted selections lie apart from each other; each has the line that its lines in the
document as it was are joined into. The document that comes out has this line in place of the range
and every other line as it was, the report lists these lines from the top, and each range costs all
its lines but one. -/
theorem joinLines_eq_replaced (R : RuleSet) (hR : R.ScanEnds) (d : Document)
    (selections : List Selection) :
    ∃ (joined : Selection → Text) (edited : Document) (report : Report),
      joinLines R d selections = .ok (edited, report) ∧
      (∀ s ∈ (partition d selections).accepted, s.last < d.lineCount ∧
        R.joinAll ((d.lines.drop s.start).take s.size) = .ok (joined s)) ∧
      (partition d selections).accepted.Pairwise (fun s t => s.last < t.start) ∧
      edited.lines = replaced (partition d selections).accepted joined 0 d.lines ∧
      report.joined = (partition d selections).accepted.map joined ∧
      report.skipped = (partition d selections).skipped ∧
      d.lineCount = edited.lineCount +
        ((partition d selections).accepted.map fun s => s.size - 1).sum ∧
      edited.newline = d.newline ∧ edited.trailingNewline = d.trailingNewline := by
  have hapart := partition_apart d selections
  obtain ⟨joined, hjoined, hok⟩ := hR.exists_joinLines d selections
  exact ⟨joined, _, _, hok, fun s hs => ⟨hapart.inside s hs, hjoined s hs⟩, hapart.ordered, rfl,
    rfl, rfl, replaced_length joined hapart, rfl, rfl⟩

/-- A single line takes the last one with it. Two selections are skipped: one shares a line with an
accepted one, the other ends on the last line. -/
theorem joinLines_eq_replaced_of_last_line :
    RuleSet.fallback.ScanEnds ∧
    ∃ (joined : Selection → Text) (edited : Document) (report : Report),
      joinLines RuleSet.fallback
        ⟨["f(".toList, "x".toList, ")".toList, "y // z".toList, "// u".toList], ['\n'], true⟩
        [⟨3, 3, by decide⟩, ⟨0, 0, by decide⟩, ⟨1, 2, by decide⟩, ⟨4, 4, by decide⟩]
        = .ok (edited, report) ∧
      edited.lines = replaced [⟨0, 0, by decide⟩, ⟨3, 3, by decide⟩] joined 0
        ["f(".toList, "x".toList, ")".toList, "y // z".toList, "// u".toList] ∧
      report.skipped = [⟨1, 2, by decide⟩, ⟨4, 4, by decide⟩] ∧ 5 = edited.lineCount + 2 := by
  have hends := (RuleSet.registry_separable (R := RuleSet.fallback) List.mem_cons_self).scanEnds
  have hpart : partition
      ⟨["f(".toList, "x".toList, ")".toList, "y // z".toList, "// u".toList], ['\n'], true⟩
      [⟨3, 3, by decide⟩, ⟨0, 0, by decide⟩, ⟨1, 2, by decide⟩, ⟨4, 4, by decide⟩] =
      ⟨[⟨0, 0, by decide⟩, ⟨3, 3, by decide⟩], [⟨1, 2, by decide⟩, ⟨4, 4, by decide⟩]⟩ := by cbv
  obtain ⟨joined, edited, report, hok, _, _, hlines, _, hskipped, hcount, _⟩ :=
    joinLines_eq_replaced RuleSet.fallback hends _ _
  rw [hpart] at hlines hskipped hcount
  exact ⟨hends, joined, edited, report, hok, hlines, hskipped, hcount⟩

example : joinLines RuleSet.fallback
    ⟨["f(".toList, "x".toList, ")".toList, "y // z".toList, "// u".toList], ['\n'], true⟩
    [⟨3, 3, by decide⟩, ⟨0, 0, by decide⟩, ⟨1, 2, by decide⟩, ⟨4, 4, by decide⟩] =
    .ok (⟨["f(x".toList, ")".toList, "y // z u".toList], ['\n'], true⟩,
      ⟨["f(x".toList, "y // z u".toList], [⟨1, 2, by decide⟩, ⟨4, 4, by decide⟩]⟩) := by cbv

end LineJoin
