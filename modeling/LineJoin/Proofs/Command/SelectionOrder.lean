import LineJoin.Proofs.Session.Changes

/-!
# The order of selections

Of two selections that share a line only one is joined, and which one that is depends on the order
in which they are judged. This is document order, never the order in which they were given: first
and last line together are all that there is to a selection, so sorting by them leaves no choice, not
even between selections that start on one line (`inDocumentOrder_of_perm`). Both commands judge the
sorted selections, and so give the same results for a list and for every permutation of it
(`commands_of_perm`).
-/

namespace LineJoin

/-! ## Document order -/

/-- Selections that come before each other in document order are the same. -/
theorem Selection.le_antisymm {s t : Selection} (hst : s.le t = true) (hts : t.le s = true) :
    s = t := by
  rw [le_eq_true_iff] at hst hts
  have hstart : s.start = t.start := by omega
  have hstop : s.stop = t.stop := by omega
  cases s
  cases t
  cases hstart
  cases hstop
  rfl

variable {ss ss' : List Selection}

theorem inDocumentOrder_of_perm (h : ss.Perm ss') : inDocumentOrder ss = inDocumentOrder ss' := by
  have hperm : (inDocumentOrder ss).Perm (inDocumentOrder ss') :=
    (List.mergeSort_perm ss Selection.le).trans
      (h.trans (List.mergeSort_perm ss' Selection.le).symm)
  exact hperm.eq_of_pairwise (fun _ _ _ _ => Selection.le_antisymm) (inDocumentOrder_sorted ss)
    (inDocumentOrder_sorted ss')

theorem partition_of_perm (h : ss.Perm ss') (d : Document) : partition d ss = partition d ss' := by
  rw [partition, partition, verdicts, verdicts, inDocumentOrder_of_perm h]

/-! ## The commands -/

/-- The clipboards after the lines of a report were written to one of them. A report without lines
leaves them as they are. -/
def Report.copied (report : Report) (newline : Text) (target : Option Outlet)
    (clipboards : Clipboards) : Except Error Clipboards :=
  if report.joined = [] then .ok clipboards
  else
    match target with
    | none => .error .noClipboard
    | some target => clipboards.write target (newline.intercalate report.joined)

/-- What joining onto a clipboard writes is known from what joining in place reports. -/
theorem joinToClipboard_of_joinLines {R : RuleSet} {d edited : Document} {report : Report}
    (h : joinLines R d ss = .ok (edited, report)) (target : Option Outlet)
    (clipboards : Clipboards) :
    joinToClipboard R d ss target clipboards =
      (report.copied d.newline target clipboards).map (·, report) := by
  rw [joinLines_eq] at h
  cases hjoined : joinedLines R d (partition d ss).accepted with
  | error e =>
      rw [hjoined] at h
      cases h
  | ok joined =>
      obtain ⟨edited', hedited⟩ := exists_replaceAll hjoined
      have hreport : report = ⟨joined, (partition d ss).skipped⟩ := by
        rw [hjoined] at h
        change (replaceAll d _ >>= _) = _ at h
        rw [hedited] at h
        cases h
        rfl
      rw [joinToClipboard_of_joinedLines hjoined, hreport]
      unfold Report.copied
      simp only [joinedLines_eq_nil_iff hjoined]
      split
      · rfl
      · cases target <;> rfl

theorem joinLines_of_perm (R : RuleSet) (h : ss.Perm ss') (d : Document) :
    joinLines R d ss = joinLines R d ss' := by
  rw [joinLines_eq, joinLines_eq, partition_of_perm h]

namespace Action

variable {R : RuleSet} {w : Workspace} {edited : Document} {report : Report}

theorem join_of_joinLines (h : joinLines R w.document ss = .ok (edited, report)) :
    join R ss w = .ok report { w with document := edited } := by
  rw [join_eq, h]
  rfl

theorem joinToClipboard_of_joinLines (h : joinLines R w.document ss = .ok (edited, report))
    (target : Option Outlet) :
    joinToClipboard R ss target w =
      settled w (report.copied w.document.newline target w.clipboards)
        (fun written => { w with clipboards := written }) (fun _ => report) := by
  rw [joinToClipboard_eq, LineJoin.joinToClipboard_of_joinLines h]
  cases report.copied w.document.newline target w.clipboards <;> rfl

end Action

/-- For every workspace and every rule set whose scans end, the selections of a command may be given
in any order. Joining in place succeeds, leaves the same document and reports the same joined lines
and the same skipped selections. Joining onto a clipboard reports these too and writes the same text;
where the clipboard refuses, it fails in the same way and changes nothing. -/
theorem commands_of_perm {R : RuleSet} (hR : R.ScanEnds) (h : ss.Perm ss') (w : Workspace) :
    ∃ (edited : Document) (report : Report),
      (Action.join R ss w = .ok report { w with document := edited } ∧
        Action.join R ss' w = .ok report { w with document := edited }) ∧
      ∀ target,
        Action.joinToClipboard R ss target w =
          Action.settled w (report.copied w.document.newline target w.clipboards)
            (fun written => { w with clipboards := written }) (fun _ => report) ∧
        Action.joinToClipboard R ss' target w =
          Action.settled w (report.copied w.document.newline target w.clipboards)
            (fun written => { w with clipboards := written }) (fun _ => report) := by
  obtain ⟨_, _, hjoin⟩ := hR.exists_joinLines w.document ss
  have hjoin' := (joinLines_of_perm R h w.document).symm.trans hjoin
  refine ⟨_, _, ⟨Action.join_of_joinLines hjoin, Action.join_of_joinLines hjoin'⟩, ?_⟩
  intro target
  exact ⟨Action.joinToClipboard_of_joinLines hjoin target,
    Action.joinToClipboard_of_joinLines hjoin' target⟩

/-- A workspace with five lines. -/
def fiveLines : Workspace where
  document := ⟨["f(".toList, "x);".toList, "// y".toList, "// z".toList, "u".toList], ['\n'], true⟩

/-- Selections of which three start on one line and two on another; one of them is given twice. -/
def crowded : List Selection :=
  [⟨2, 3, by decide⟩, ⟨0, 1, by decide⟩, ⟨0, 0, by decide⟩, ⟨2, 2, by decide⟩, ⟨0, 0, by decide⟩]

/-- In both orders the single lines win over the longer selections that start with them. -/
theorem commands_of_perm_of_crowded :
    RuleSet.fallback.ScanEnds ∧ crowded.Perm crowded.reverse ∧
    ∃ (edited : Document) (report : Report),
      edited.lines = ["f(x);".toList, "// y z".toList, "u".toList] ∧
      report = ⟨["f(x);".toList, "// y z".toList],
        [⟨0, 0, by decide⟩, ⟨0, 1, by decide⟩, ⟨2, 3, by decide⟩]⟩ ∧
      Action.join RuleSet.fallback crowded.reverse fiveLines =
        .ok report { fiveLines with document := edited } ∧
      Action.joinToClipboard RuleSet.fallback crowded.reverse (some { clipboard := .memory })
          fiveLines =
        .ok report { fiveLines with
          clipboards := { memory := some "f(x);\n// y z".toList } } := by
  have hends := (RuleSet.registry_separable (R := RuleSet.fallback) List.mem_cons_self).scanEnds
  have hperm : crowded.Perm crowded.reverse := (List.reverse_perm crowded).symm
  have hjoin : Action.join RuleSet.fallback crowded fiveLines =
      .ok ⟨["f(x);".toList, "// y z".toList],
        [⟨0, 0, by decide⟩, ⟨0, 1, by decide⟩, ⟨2, 3, by decide⟩]⟩
        ⟨⟨["f(x);".toList, "// y z".toList, "u".toList], ['\n'], true⟩, {}⟩ := by cbv
  obtain ⟨edited, report, ⟨hfirst, hsecond⟩, hcopy⟩ := commands_of_perm hends hperm fiveLines
  obtain ⟨rfl, hedited⟩ := EStateM.Result.ok.inj (hfirst.symm.trans hjoin)
  obtain rfl := (Workspace.mk.inj hedited).1
  exact ⟨hends, hperm, _, _, rfl, rfl, hsecond, (hcopy (some { clipboard := .memory })).2⟩

end LineJoin
