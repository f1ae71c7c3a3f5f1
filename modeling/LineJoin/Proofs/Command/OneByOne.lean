import LineJoin.Proofs.Command.Greedy

/-!
# One selection at a time

A command that joins several selections can be taken apart into commands with one selection each,
run on the same document from the last selection to the first. Each of them judges its selection and
reads its lines anew, on a document that has become shorter below; that nothing changes for it is
the point of `joinOneByOne_reverse`. Two facts carry the proof: up to the end of a selection the
document is still as it was, and the line that the selection below was joined into is still there,
so the selection does not end on the last line.

The order matters. From the first selection to the last, the line numbers of the later ones are no
longer right, and a selection may even be skipped.
-/

namespace LineJoin

/-- Commands with one selection each, one after the other on the same document, and what each of
them reports. -/
def joinOneByOne (R : RuleSet) : Document → List Selection → Except Error (Document × List Report)
  | d, [] => .ok (d, [])
  | d, s :: rest => do
    let (next, report) ← joinLines R d [s]
    let (edited, reports) ← joinOneByOne R next rest
    return (edited, report :: reports)

theorem joinOneByOne_concat (R : RuleSet) (d : Document) (ss : List Selection) (s : Selection) :
    joinOneByOne R d (ss ++ [s]) = do
      let (next, reports) ← joinOneByOne R d ss
      let (edited, report) ← joinLines R next [s]
      return (edited, reports ++ [report]) := by
  induction ss generalizing d with
  | nil =>
      rw [List.nil_append, joinOneByOne]
      rfl
  | cons t ss ih =>
      simp only [List.cons_append, joinOneByOne, ih, bind_assoc, pure_bind]

/-! ## One command -/

theorem partition_singleton {d : Document} {s : Selection} (h : s.stop + 1 < d.lineCount) :
    partition d [s] = ⟨[s], []⟩ := by
  have hnone : skipReason? d [] s = none := skipReason?_eq_none_iff.mpr ⟨h, by simp⟩
  have hverdicts : verdicts d [s] = [(s, none)] := by
    rw [verdicts, inDocumentOrder, List.mergeSort_singleton, judge, hnone]
    rfl
  rw [partition, hverdicts]
  rfl

/-- A command with one selection that does not end on the last line skips nothing, and puts one line
in place of the range. -/
theorem joinLines_singleton {R : RuleSet} {d : Document} {s : Selection}
    {above range below : List Text} {line : Text} (hstop : s.stop + 1 < d.lineCount)
    (hlines : d.lines = above ++ (range ++ below)) (habove : above.length = s.start)
    (hrange : range.length = s.size) (hline : R.joinAll range = .ok line) :
    joinLines R d [s] = .ok ({ d with lines := above ++ line :: below }, ⟨[line], []⟩) := by
  have hlast : s.last < d.lineCount := Nat.lt_of_le_of_lt s.last_le_stop_succ hstop
  have hread : (d.lines.drop s.start).take s.size = range := by
    rw [hlines, ← habove, List.drop_left, ← hrange, List.take_left]
  have hjoined : joinedLines R d [s] = .ok ([s].map fun _ => line) := by
    refine joinedLines_eq_ok ?_ ?_
    · simpa using hlast
    · simpa [hread] using hline
  have hedited : replaceAll d [(s, line)] = .ok { d with lines := above ++ line :: below } := by
    rw [replaceAll, List.foldrM_cons, List.foldrM_nil, pure_bind]
    exact Document.replaceLines_eq_ok hlines habove hrange line
  rw [joinLines_eq, partition_singleton hstop, hjoined]
  show (replaceAll d [(s, line)] >>= _) = _
  rw [hedited]
  rfl

/-! ## All commands -/

/-- A selection above others that were joined does not end on the last line: the line that the next
one was joined into comes after it. -/
theorem stop_lt_replaced_length {s : Selection} {accepted : List Selection} {lines : List Text}
    (h : Selection.Apart lines.length (s :: accepted)) (hstop : s.stop + 1 < lines.length)
    (joined : Selection → Text) :
    s.stop + 1 < (replaced accepted joined 0 lines).length := by
  cases accepted with
  | nil =>
      rw [replaced_above (by simp)]
      exact hstop
  | cons t accepted =>
      have hnext := h.head_last_lt t List.mem_cons_self
      obtain ⟨above, range, below, hlines, habove, hrange, _⟩ :=
        Selection.exists_split (h.tail.inside t List.mem_cons_self)
      obtain ⟨below', _, hafter⟩ := replaced_cons h.tail.head_last_lt habove hrange joined below
      have hle := s.stop_le_last
      rw [hlines, hafter, List.length_append, List.length_cons]
      omega

/-- Selections that are apart are joined one at a time, the last one first: none is skipped, and
together the commands replace every range of the document as it was. -/
theorem joinOneByOne_reverse {R : RuleSet} {d : Document} {accepted : List Selection}
    {joined : Selection → Text} (h : Selection.Apart d.lineCount accepted)
    (hstop : ∀ s ∈ accepted, s.stop + 1 < d.lineCount)
    (hjoined : ∀ s ∈ accepted, R.joinAll ((d.lines.drop s.start).take s.size) = .ok (joined s)) :
    joinOneByOne R d accepted.reverse =
      .ok ({ d with lines := replaced accepted joined 0 d.lines },
        accepted.reverse.map fun s => ⟨[joined s], []⟩) := by
  induction accepted with
  | nil =>
      rw [replaced_above (by simp)]
      rfl
  | cons s accepted ih =>
      obtain ⟨above, range, below, hlines, habove, hrange, hread⟩ :=
        Selection.exists_split (h.inside s List.mem_cons_self)
      obtain ⟨below', hbefore, hafter⟩ := replaced_cons h.head_last_lt habove hrange joined below
      rw [← hlines] at hbefore hafter
      -- the commands below are done, and the lines up to the end of this range are as they were
      have hrest := ih h.tail (fun t ht => hstop t (List.mem_cons_of_mem s ht))
        (fun t ht => hjoined t (List.mem_cons_of_mem s ht))
      have hstep : joinLines R { d with lines := replaced accepted joined 0 d.lines } [s] =
          .ok ({ d with lines := above ++ joined s :: below' }, ⟨[joined s], []⟩) := by
        refine joinLines_singleton ?_ hbefore habove hrange ?_
        · exact stop_lt_replaced_length h (hstop s List.mem_cons_self) joined
        · rw [hread]
          exact hjoined s List.mem_cons_self
      rw [List.reverse_cons, joinOneByOne_concat, hrest]
      show (joinLines R { d with lines := replaced accepted joined 0 d.lines } [s] >>= _) = _
      rw [hstep, List.map_append, hafter]
      rfl

/-- What is accepted does not end on the last line. -/
theorem stop_lt_of_mem_accepted {d : Document} {selections : List Selection} {s : Selection}
    (h : s ∈ (partition d selections).accepted) : s.stop + 1 < d.lineCount := by
  obtain ⟨⟨t, reason⟩, ht, rfl⟩ := List.mem_map.mp h
  obtain ⟨hmem, hnone⟩ := List.mem_filter.mp ht
  obtain rfl : reason = none := Option.isNone_iff_eq_none.mp hnone
  obtain ⟨before, after, hverdicts⟩ := List.append_of_mem hmem
  exact (skipReason?_eq_none_iff.mp (judge_of_append hverdicts)).1

/-- For every document, all selections and every rule set whose scans end, one command with all
selections does what commands with one accepted selection each do, run on the same document from the
last to the first. All of them succeed, the document that comes out is the same, none of the
accepted selections is skipped, and the lines that the commands report, last one first, are those
that the one command reports. -/
theorem joinLines_eq_joinOneByOne (R : RuleSet) (hR : R.ScanEnds) (d : Document)
    (selections : List Selection) :
    ∃ (edited : Document) (report : Report) (reports : List Report),
      joinLines R d selections = .ok (edited, report) ∧
      joinOneByOne R d (partition d selections).accepted.reverse = .ok (edited, reports) ∧
      (∀ r ∈ reports, r.skipped = []) ∧
      reports.reverse.map (·.joined) = report.joined.map ([·]) := by
  obtain ⟨joined, hjoined, hok⟩ := hR.exists_joinLines d selections
  have hones := joinOneByOne_reverse (partition_apart d selections)
    (fun s hs => stop_lt_of_mem_accepted hs) hjoined
  refine ⟨_, _, _, hok, hones, ?_, ?_⟩
  · intro r hr
    obtain ⟨s, _, rfl⟩ := List.mem_map.mp hr
    rfl
  · rw [← List.map_reverse, List.reverse_reverse, List.map_map, List.map_map]
    rfl

/-- The lower selection takes the last line with it, so that its joined line is the last one when
the upper selection, which ends right above it, has its turn. The third selection is skipped. -/
theorem joinLines_eq_joinOneByOne_of_neighbours :
    RuleSet.fallback.ScanEnds ∧
    ∃ (edited : Document) (report : Report) (reports : List Report),
      joinLines RuleSet.fallback
        ⟨["f(".toList, "x);".toList, "y // z".toList, "// u".toList], ['\n'], true⟩
        [⟨2, 2, by decide⟩, ⟨1, 1, by decide⟩, ⟨0, 1, by decide⟩] = .ok (edited, report) ∧
      joinOneByOne RuleSet.fallback
        ⟨["f(".toList, "x);".toList, "y // z".toList, "// u".toList], ['\n'], true⟩
        [⟨2, 2, by decide⟩, ⟨0, 1, by decide⟩] = .ok (edited, reports) ∧
      (∀ r ∈ reports, r.skipped = []) ∧
      reports.reverse.map (·.joined) = report.joined.map ([·]) := by
  have hends := (RuleSet.registry_separable (R := RuleSet.fallback) List.mem_cons_self).scanEnds
  have hreverse : (partition
      ⟨["f(".toList, "x);".toList, "y // z".toList, "// u".toList], ['\n'], true⟩
      [⟨2, 2, by decide⟩, ⟨1, 1, by decide⟩, ⟨0, 1, by decide⟩]).accepted.reverse =
      [⟨2, 2, by decide⟩, ⟨0, 1, by decide⟩] := by cbv
  have h := joinLines_eq_joinOneByOne RuleSet.fallback hends
    ⟨["f(".toList, "x);".toList, "y // z".toList, "// u".toList], ['\n'], true⟩
    [⟨2, 2, by decide⟩, ⟨1, 1, by decide⟩, ⟨0, 1, by decide⟩]
  rw [hreverse] at h
  exact ⟨hends, h⟩

-- the other way round, the lower selection ends on the last line when its turn comes
example : joinOneByOne RuleSet.fallback
    ⟨["f(".toList, "x);".toList, "y // z".toList, "// u".toList], ['\n'], true⟩
    [⟨0, 1, by decide⟩, ⟨2, 2, by decide⟩] =
    .ok (⟨["f(x);".toList, "y // z".toList, "// u".toList], ['\n'], true⟩,
      [⟨["f(x);".toList], []⟩, ⟨[], [⟨2, 2, by decide⟩]⟩]) := by cbv

end LineJoin
