import LineJoin.Proofs.Command.InPlace

/-!
# Joining onto a clipboard

The command shares the choice of selections and the joins with the one in place, and its document
stays as it is. Once the lines are joined, its result is known (`joinToClipboard_of_joinedLines`):
nothing is written if no selection is accepted, and otherwise the joined lines are, once.
-/

namespace LineJoin

/-! ## Joined lines -/

theorem joinedLines_eq_map {R : RuleSet} {d : Document} {accepted : List Selection}
    {joined : List Text} (h : joinedLines R d accepted = .ok joined) :
    ∃ line : Selection → Text, joined = accepted.map line := by
  refine ⟨fun s => ((d.linesFor s >>= R.joinAll).toOption).getD [], ?_⟩
  unfold joinedLines at h
  induction accepted generalizing joined with
  | nil =>
      cases h
      rfl
  | cons s accepted ih =>
      rw [List.mapM_cons] at h
      cases hline : d.linesFor s >>= R.joinAll with
      | error e =>
          rw [hline] at h
          cases h
      | ok line =>
          rw [hline] at h
          cases hrest : accepted.mapM fun s => d.linesFor s >>= R.joinAll with
          | error e =>
              rw [hrest] at h
              cases h
          | ok rest =>
              rw [hrest] at h
              cases h
              rw [List.map_cons, hline, ih hrest]
              rfl

/-- Something is joined exactly when some selection is accepted. -/
theorem joinedLines_eq_nil_iff {R : RuleSet} {d : Document} {accepted : List Selection}
    {joined : List Text} (h : joinedLines R d accepted = .ok joined) :
    joined = [] ↔ accepted = [] := by
  obtain ⟨line, rfl⟩ := joinedLines_eq_map h
  exact List.map_eq_nil_iff

/-- Lines can be joined for all selections that are accepted. -/
theorem RuleSet.ScanEnds.exists_joinedLines {R : RuleSet} (hR : R.ScanEnds) (d : Document)
    (selections : List Selection) :
    ∃ joined, joinedLines R d (partition d selections).accepted = .ok joined := by
  obtain ⟨joined, hjoined, -⟩ := hR.exists_joinLines d selections
  exact ⟨_, joinedLines_eq_ok (partition_apart d selections).inside hjoined⟩

/-! ## The command -/

section ToClipboard

variable {R : RuleSet} {d : Document} {selections : List Selection} {target : Option Outlet}
  {clipboards written : Clipboards} {report : Report} {joined : List Text}

theorem joinToClipboard_eq (R : RuleSet) (d : Document) (selections : List Selection)
    (target : Option Outlet) (clipboards : Clipboards) :
    joinToClipboard R d selections target clipboards = (do
      let joined ← joinedLines R d (partition d selections).accepted
      if joined.isEmpty then return (clipboards, ⟨joined, (partition d selections).skipped⟩)
      match target with
      | none => .error .noClipboard
      | some target =>
        let written ← clipboards.write target (d.newline.intercalate joined)
        return (written, ⟨joined, (partition d selections).skipped⟩)) := rfl

/-- The result of the command when the joined lines are known. -/
theorem joinToClipboard_of_joinedLines
    (h : joinedLines R d (partition d selections).accepted = .ok joined)
    (target : Option Outlet) (clipboards : Clipboards) :
    joinToClipboard R d selections target clipboards =
      if (partition d selections).accepted = [] then
        .ok (clipboards, ⟨joined, (partition d selections).skipped⟩)
      else
        match target with
        | none => .error .noClipboard
        | some c => (clipboards.write c (d.newline.intercalate joined)).map fun written =>
            (written, ⟨joined, (partition d selections).skipped⟩) := by
  have hnil := joinedLines_eq_nil_iff h
  rw [joinToClipboard_eq, h]
  cases joined with
  | nil => exact (if_pos (hnil.mp rfl)).symm
  | cons line lines =>
      rw [if_neg (mt hnil.mpr (List.cons_ne_nil line lines))]
      cases target with
      | none => rfl
      | some c => rfl

/-- A command that succeeds has joined the lines, written them or nothing, and skipped the others. -/
theorem joinToClipboard_of_ok
    (h : joinToClipboard R d selections target clipboards = .ok (written, report)) :
    joinedLines R d (partition d selections).accepted = .ok report.joined ∧
    ((partition d selections).accepted = [] → written = clipboards) ∧
    ((partition d selections).accepted ≠ [] → ∃ c, target = some c ∧
      clipboards.write c (d.newline.intercalate report.joined) = .ok written) ∧
    report.skipped = (partition d selections).skipped := by
  cases hjoined : joinedLines R d (partition d selections).accepted with
  | error e =>
      rw [joinToClipboard_eq, hjoined] at h
      cases h
  | ok joined =>
      rw [joinToClipboard_of_joinedLines hjoined] at h
      by_cases hnone : (partition d selections).accepted = []
      · rw [if_pos hnone] at h
        cases h
        exact ⟨rfl, fun _ => rfl, fun hsome => absurd hnone hsome, rfl⟩
      · rw [if_neg hnone] at h
        cases target with
        | none => cases h
        | some c =>
            simp only at h
            cases hwritten : clipboards.write c (d.newline.intercalate joined) with
            | error e =>
                rw [hwritten] at h
                cases h
            | ok cs =>
                rw [hwritten] at h
                cases h
                exact ⟨rfl, fun h => absurd h hnone, fun _ => ⟨c, rfl, hwritten⟩, rfl⟩

end ToClipboard

end LineJoin
