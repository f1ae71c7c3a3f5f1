import LineJoin.Proofs.Command.ToClipboard
import LineJoin.Proofs.CommandLine.Remote
import LineJoin.Proofs.Document.RoundTrip
import LineJoin.Proofs.Text.Utf8

/-!
# Runs on a file

How a run on a file that is there ends when it asks no service. It fails for one of four reasons
(`Job.Fails`), and all of them show before anything is written; otherwise it joins all lines, or the
selected ones onto a clipboard, to the standard output or in place (`Job.Leaves`). No other end is
possible: the rules of a language end every scan, a file has at least one line, and the edits of a
command are made with numbers that are right.
-/

namespace LineJoin

/-- Ranges are read exactly if each of them is. -/
theorem Selection.exists_mapM_parse_iff {raws : List Text} :
    (∃ selections, raws.mapM parse = .ok selections) ↔ ∀ raw ∈ raws, ∃ s, parse raw = .ok s := by
  induction raws with
  | nil => exact iff_of_true ⟨[], rfl⟩ nofun
  | cons raw raws ih =>
      rw [List.mapM_cons, List.forall_mem_cons, ← ih]
      constructor
      · rintro ⟨selections, h⟩
        cases hraw : parse raw with
        | error e =>
            rw [hraw] at h
            cases h
        | ok s =>
            cases hraws : raws.mapM parse with
            | error e =>
                rw [hraw, hraws] at h
                cases h
            | ok rest => exact ⟨⟨s, rfl⟩, rest, rfl⟩
      · rintro ⟨⟨s, hraw⟩, rest, hraws⟩
        rw [hraw, hraws]
        exact ⟨s :: rest, rfl⟩

namespace CommandLine

/-! ## What a run finds -/

/-- What a run on a file has to find before it joins: the rules of the language, the text that the
file holds, and the selections of the ranges. -/
structure Job.Finds (job : Job) (path : Path) (bytes : Text.Bytes) (R : RuleSet) (t : Text)
    (selections : List Selection) : Prop where
  rules : RuleSet.ofLanguage (some (languageFor job (some path))) = .ok R
  text : Text.Utf8.encode t = bytes
  ranges : job.options.lines.mapM Selection.parse = .ok selections

theorem Job.Finds.unique {job : Job} {path : Path} {bytes : Text.Bytes} {R R' : RuleSet}
    {t t' : Text} {selections selections' : List Selection}
    (h : job.Finds path bytes R t selections) (h' : job.Finds path bytes R' t' selections') :
    R = R' ∧ t = t' ∧ selections = selections' := by
  have ht := (Text.Utf8.decode_eq_ok_iff.mpr h.text).symm.trans
    (Text.Utf8.decode_eq_ok_iff.mpr h'.text)
  exact ⟨Except.ok.inj (h.rules.symm.trans h'.rules), Except.ok.inj ht,
    Except.ok.inj (h.ranges.symm.trans h'.ranges)⟩

/-- Why a run on a file fails. -/
inductive Job.Fails (job : Job) (w : World) (path file : Path) : Prop
  /-- There are no rules for the language. -/
  | language (hrules : ∀ R, RuleSet.ofLanguage (some (languageFor job (some path))) ≠ .ok R) :
      Fails job w path file
  /-- The file does not hold a text. -/
  | encoding (htext : ∀ t, Text.Utf8.encode t ≠ w.files.content file) : Fails job w path file
  /-- A range is none. -/
  | range {raw : Text} (hraw : raw ∈ job.options.lines) (hrange : ∀ s, Selection.parse raw ≠ .ok s) :
      Fails job w path file
  /-- Selections are joined, and the clipboard refuses them. -/
  | clipboard {R : RuleSet} {t : Text} {selections : List Selection} {joined : List Text}
      (hfinds : job.Finds path (w.files.content file) R t selections)
      (hlines : job.options.lines ≠ []) (hclipboard : job.options.toClipboard = true)
      (haccepted : (partition (Document.ofText t) selections).accepted ≠ [])
      (hjoined : joinedLines R (Document.ofText t)
        (partition (Document.ofText t) selections).accepted = .ok joined)
      (hrefused : ∀ cs, w.clipboards.write (w.outlet job.options.clipboard)
        ((Document.ofText t).newline.intercalate joined) ≠ .ok cs) :
      Fails job w path file

/-- A run on a file finds what it has to find, or fails for want of it before it does anything. -/
theorem findInput_of_file {job : Job} {w : World} {path file : Path}
    (hlevel : job.options.verbose = true ∨ misnomer? job.settings.logLevel = none)
    (hpath : job.options.path? = some path) (hfile : w.files.locate path = some file) :
    (∃ R t selections, job.Finds path (w.files.content file) R t selections ∧
      findInput job w = .ok (some (path, file), t, selections) w) ∨
    (job.Fails w path file ∧
      ∃ f message, f.report? = some message ∧ findInput job w = .error f w) := by
  have hcheck := checkLevel_eq hlevel w
  have htarget := findTarget_of_located (.inr ⟨path, file, hpath, hfile, rfl⟩)
  have hfind : findInput job w = (do
      let _ ← ofLibrary (RuleSet.ofLanguage (some (languageFor job (some path))))
      let t ← readInput job (some file)
      let selections ← ofLibrary (job.options.lines.mapM Selection.parse)
      return (some (path, file), t, selections) : Run _) w := by
    unfold findInput
    rw [hpath]
    exact (bind_of_ok hcheck).trans ((bind_of_ok htarget).trans rfl)
  have hread : readInput job (some file) w = ofBytes (w.files.content file) w := rfl
  unfold ofBytes at hread
  rw [hfind]
  cases hR : RuleSet.ofLanguage (some (languageFor job (some path))) with
  | error e => exact .inr ⟨.language (by simp [hR]), .library e, _, rfl, rfl⟩
  | ok R =>
      cases ht : Text.Utf8.decode (w.files.content file) with
      | error fault =>
          have hnone : ∀ t, Text.Utf8.encode t ≠ w.files.content file := by
            intro t h
            rw [Text.Utf8.decode_eq_ok_iff.mpr h] at ht
            cases ht
          rw [ht] at hread
          exact .inr ⟨.encoding hnone, .undecodable fault, _, rfl,
            (bind_of_ok (w := w) rfl).trans (bind_of_error hread)⟩
      | ok t =>
          rw [ht] at hread
          cases hselected : job.options.lines.mapM Selection.parse with
          | error e =>
              have hrange : ∃ raw ∈ job.options.lines, ∀ s, Selection.parse raw ≠ .ok s := by
                by_contra! hall
                obtain ⟨selections, h⟩ := Selection.exists_mapM_parse_iff.mpr hall
                rw [hselected] at h
                cases h
              obtain ⟨raw, hraw, hrange⟩ := hrange
              exact .inr ⟨.range hraw hrange, .library e, _, rfl,
                (bind_of_ok (w := w) rfl).trans ((bind_of_ok hread).trans rfl)⟩
          | ok selections =>
              exact .inl ⟨R, t, selections, ⟨hR, Text.Utf8.decode_eq_ok_iff.mp ht, hselected⟩,
                (bind_of_ok (w := w) rfl).trans ((bind_of_ok hread).trans rfl)⟩

/-! ## What a run leaves behind -/

/-- The line that ends the report of a run that wrote to a clipboard. -/
def copiedLine (count : Nat) (target : Clipboard) : Text :=
  "Copied ".toList ++ Numeral.decimal count ++ " joined selection(s) to the ".toList
    ++ target.name.toList ++ " clipboard".toList ++ ['\n']

/-- What a run says after it joined onto a clipboard: the log, the skipped ranges, and how many
texts were copied if any were. -/
def Job.copyReport (job : Job) (report : Report) : Text :=
  if report.joined = [] then skipLines report.skipped
  else job.logText [clipboardEntry report.joined.length job.options.clipboard]
    ++ (skipLines report.skipped ++ copiedLine report.joined.length job.options.clipboard)

/-- What a run on a file leaves behind if it does not fail. -/
inductive Job.Leaves (job : Job) (w : World) (path file : Path) (R : RuleSet) (t : Text)
    (selections : List Selection) (after : World) : Prop
  /-- Without ranges, all lines are joined, and the line goes to the standard output. -/
  | line {line : Text} (hlines : job.options.lines = [])
      (hline : R.joinAll (Document.ofText t).lines = .ok line)
      (hafter : after = World.tell { w with stdout := w.stdout ++ (line ++ ['\n']) }
        (job.logText (joinEntries R (Document.ofText t).lines))) :
      Leaves job w path file R t selections after
  /-- The joined selections go to the clipboard. -/
  | copy {cs : Clipboards} {report : Report} (hlines : job.options.lines ≠ [])
      (hclipboard : job.options.toClipboard = true)
      (hok : LineJoin.joinToClipboard R (Document.ofText t) selections
        (w.outlet job.options.clipboard) w.clipboards = .ok (cs, report))
      (hafter : after = World.tell { w with stdout := cs.stream, copied := cs.system }
        (job.logText (commandEntries R (Document.ofText t) selections) ++ job.copyReport report)) :
      Leaves job w path file R t selections after
  /-- The edited text goes to the standard output. -/
  | print {d : Document} {report : Report} (hlines : job.options.lines ≠ [])
      (hclipboard : job.options.toClipboard = false) (hstdout : job.options.stdout = true)
      (hok : joinLines R (Document.ofText t) selections = .ok (d, report))
      (hafter : after = World.tell { w with stdout := w.stdout ++ d.toText }
        (job.logText (commandEntries R (Document.ofText t) selections)
          ++ skipLines report.skipped)) :
      Leaves job w path file R t selections after
  /-- The edited text goes to the file. -/
  | write {d : Document} {report : Report} (hlines : job.options.lines ≠ [])
      (hclipboard : job.options.toClipboard = false) (hstdout : job.options.stdout = false)
      (hok : joinLines R (Document.ofText t) selections = .ok (d, report))
      (hafter : after =
        World.tell { w with files := w.files.write file (Text.Utf8.encode d.toText) }
          (job.logText (commandEntries R (Document.ofText t) selections)
            ++ (skipLines report.skipped ++ doneLine report.joined.length path)))
      (hcontent : after.files.content file = Text.Utf8.encode d.toText) :
      Leaves job w path file R t selections after

/-! ## The actions after the input is found -/

section Actions

variable {job : Job} {language t : Text} {R : RuleSet} {w : World}

theorem joinWhole_eq (hserver : job.options.server? = none)
    (hR : RuleSet.ofLanguage (some language) = .ok R) {line : Text}
    (hline : R.joinAll (Document.ofText t).lines = .ok line) :
    joinWhole job language t w =
      .ok () (World.tell { w with stdout := w.stdout ++ (line ++ ['\n']) }
        (job.logText (joinEntries R (Document.ofText t).lines))) := by
  unfold joinWhole
  rw [hserver, hR]
  refine (bind_of_ok (w := w) rfl).trans ((bind_of_ok (log_eq job _ w)).trans ?_)
  rw [hline]
  rfl

/-- What a run does once the selections are joined onto the clipboards. -/
def acceptCopy (job : Job) : Clipboards × Report → Run Unit
  | (clipboards, report) => do
    modify fun w => { w with stdout := clipboards.stream, copied := clipboards.system }
    let count := report.joined.length
    if 0 < count then log job [clipboardEntry count job.options.clipboard]
    reportSkipped (report.skipped.map .ofSelection)
    if 0 < count then
      status ("Copied ".toList ++ Numeral.decimal count ++ " joined selection(s) to the ".toList
        ++ job.options.clipboard.name.toList ++ " clipboard".toList)

theorem joinToClipboard_eq (hserver : job.options.server? = none)
    (hR : RuleSet.ofLanguage (some language) = .ok R) (selections : List Selection) :
    joinToClipboard job language t selections w =
      (ofLibrary (LineJoin.joinToClipboard R (Document.ofText t) selections
        (w.outlet job.options.clipboard) w.clipboards) >>= acceptCopy job)
        (w.tell (job.logText (commandEntries R (Document.ofText t) selections))) := by
  unfold joinToClipboard
  rw [hserver, hR]
  rfl

theorem acceptCopy_eq (job : Job) (cs : Clipboards) {report : Report}
    (h : ∀ s ∈ report.skipped, s.KeepsDigitBound) (w : World) :
    acceptCopy job (cs, report) w =
      .ok () (World.tell { w with stdout := cs.stream, copied := cs.system }
        (job.copyReport report)) := by
  have hskipped := reportSkipped_ofSelection h
  obtain ⟨joined, skipped⟩ := report
  refine (bind_of_ok rfl).trans ?_
  cases joined with
  | nil => exact (bind_of_ok (hskipped _)).trans rfl
  | cons line lines =>
      refine (bind_of_ok (log_eq job _ _)).trans ((bind_of_ok (hskipped _)).trans ?_)
      refine (status_eq _ _).trans (congrArg (EStateM.Result.ok ()) ?_)
      rw [World.tell_tell, World.tell_tell]
      rfl

end Actions

section Found

variable {job : Job} {w : World} {path file : Path} {R : RuleSet} {t : Text}
  {selections : List Selection}

/-- Onto a clipboard, the joined selections are accepted or refused. -/
theorem joinToClipboard_of_finds {language : Text} (hserver : job.options.server? = none)
    (hrules : RuleSet.ofLanguage (some language) = .ok R)
    (hfinds : job.Finds path (w.files.content file) R t selections)
    (hlines : job.options.lines ≠ []) (hclipboard : job.options.toClipboard = true) :
    (∃ after, joinToClipboard job language t selections w = .ok () after ∧
      job.Leaves w path file R t selections after) ∨
    (job.Fails w path file ∧ ∃ e said,
      joinToClipboard job language t selections w = .error (.library e) (w.tell said)) := by
  obtain ⟨joined, hjoined⟩ :=
    (RuleSet.scanEnds_of_ofLanguage hrules).exists_joinedLines (Document.ofText t) selections
  have hcopy :=
    joinToClipboard_of_joinedLines hjoined (some (w.outlet job.options.clipboard)) w.clipboards
  rw [joinToClipboard_eq hserver hrules]
  cases hok : LineJoin.joinToClipboard R (Document.ofText t) selections
      (w.outlet job.options.clipboard) w.clipboards with
  | error e =>
      rw [hok] at hcopy
      refine .inr ⟨?_, e, _, rfl⟩
      by_cases haccepted : (partition (Document.ofText t) selections).accepted = []
      · rw [if_pos haccepted] at hcopy
        cases hcopy
      · rw [if_neg haccepted] at hcopy
        refine .clipboard hfinds hlines hclipboard haccepted hjoined fun cs hcs => ?_
        simp only [hcs] at hcopy
        cases hcopy
  | ok result =>
      obtain ⟨cs, report⟩ := result
      have hbound : ∀ s ∈ report.skipped, s.KeepsDigitBound := by
        obtain ⟨-, -, -, hskipped⟩ := joinToClipboard_of_ok hok
        rw [hskipped]
        exact keepsDigitBound_of_skipped hfinds.ranges _
      refine .inl ⟨_, (bind_of_ok rfl).trans (acceptCopy_eq job cs hbound _),
        .copy hlines hclipboard hok ?_⟩
      rw [← World.tell_tell]
      rfl

/-- In place, the edited text is delivered. -/
theorem joinInPlace_of_finds {language : Text} (hserver : job.options.server? = none)
    (hrules : RuleSet.ofLanguage (some language) = .ok R) (hfile : w.files.locate path = some file)
    (hranges : job.options.lines.mapM Selection.parse = .ok selections)
    (hlines : job.options.lines ≠ []) (hclipboard : job.options.toClipboard = false) :
    ∃ after, joinInPlace job (some (path, file)) language t selections w = .ok () after ∧
      job.Leaves w path file R t selections after := by
  obtain ⟨joined, -, hok⟩ :=
    (RuleSet.scanEnds_of_ofLanguage hrules).exists_joinLines (Document.ofText t) selections
  rw [joinInPlace_eq, hserver]
  have hbound := keepsDigitBound_of_skipped hranges (Document.ofText t)
  refine ⟨_, (bind_of_ok (editHere_eq hrules hok w)).trans (deliver_ofReport job _ _ hbound _), ?_⟩
  unfold World.withEdit
  cases hstdout : job.options.stdout with
  | true =>
      refine .print hlines hclipboard hstdout hok ?_
      rw [← World.tell_tell]
      rfl
  | false =>
      refine .write hlines hclipboard hstdout hok ?_ ?_
      · rw [← World.tell_tell]
        rfl
      · exact FileTree.content_write (FileTree.hasFile_of_locate hfile) _

/-- A run that has found its input joins it, or the clipboard refuses. -/
theorem joinFound_of_finds (hpath : job.options.path? = some path)
    (hfile : w.files.locate path = some file) (hserver : job.options.server? = none)
    (hfinds : job.Finds path (w.files.content file) R t selections) :
    (∃ after, joinFound job (some (path, file), t, selections) w = .ok () after ∧
      job.Leaves w path file R t selections after) ∨
    (job.Fails w path file ∧ ∃ e said,
      joinFound job (some (path, file), t, selections) w = .error (.library e) (w.tell said)) := by
  have hrules := hfinds.rules
  rw [← hpath] at hrules
  unfold joinFound
  by_cases hlines : job.options.lines = []
  · obtain ⟨line, hline⟩ := (RuleSet.scanEnds_of_ofLanguage hrules).exists_joinAll
      (Document.wellFormed_ofText t).lines_ne_nil
    rw [hlines]
    exact .inl ⟨_, joinWhole_eq hserver hrules hline, .line hlines hline rfl⟩
  · have hempty : job.options.lines.isEmpty = false := by simpa using hlines
    rw [hempty]
    cases hclipboard : job.options.toClipboard with
    | true => exact joinToClipboard_of_finds hserver hrules hfinds hlines hclipboard
    | false =>
        exact .inl (joinInPlace_of_finds hserver hrules hfile hfinds.ranges hlines hclipboard)

/-! ## The end of the run -/

/-- A run that leaves something behind did not fail. -/
theorem Job.Leaves.not_fails {after : World} (h : job.Leaves w path file R t selections after)
    (hfinds : job.Finds path (w.files.content file) R t selections) :
    ¬ job.Fails w path file := by
  rintro (hrules | htext | ⟨hraw, hrange⟩ |
    ⟨hfinds', hlines, hclipboard, haccepted, hjoined, hrefused⟩)
  · exact hrules R hfinds.rules
  · exact htext t hfinds.text
  · obtain ⟨s, hs⟩ := Selection.exists_mapM_parse_iff.mp ⟨_, hfinds.ranges⟩ _ hraw
    exact hrange s hs
  · obtain ⟨rfl, rfl, rfl⟩ := hfinds.unique hfinds'
    cases h with
    | line hnone => exact hlines hnone
    | copy _ _ hok =>
        obtain ⟨hjoined', -, hwritten, -⟩ := joinToClipboard_of_ok hok
        obtain ⟨c, hc, hwrite⟩ := hwritten haccepted
        cases hc
        rw [hjoined'] at hjoined
        cases hjoined
        exact hrefused _ hwrite
    | print _ hnot => exact Bool.false_ne_true (hnot.symm.trans hclipboard)
    | write _ hnot => exact Bool.false_ne_true (hnot.symm.trans hclipboard)

/-- A run that did nothing but talk before it failed ends by saying why. -/
theorem conclude_of_told {action : Run Unit} {f : Failure} (said : Text) {message : Text}
    (h : action w = .error f (w.tell said)) (hf : f.report? = some message) :
    ∃ said', conclude action w = ⟨.status 1, w.tell said'⟩ := by
  refine ⟨said ++ ("Error: ".toList ++ message ++ ['\n']), ?_⟩
  rw [conclude_of_reported h hf, ← World.tell_tell]
  unfold World.report World.tell
  rw [List.append_assoc]

/-- A run on a file fails and changes nothing but the standard error, or leaves the result behind. -/
theorem conclude_perform_of_file (hpath : job.options.path? = some path)
    (hfile : w.files.locate path = some file) (hserve : job.options.serve = false)
    (hserver : job.options.server? = none)
    (hlevel : job.options.verbose = true ∨ misnomer? job.settings.logLevel = none) :
    (job.Fails w path file ∧ ∃ said, conclude (perform job) w = ⟨.status 1, w.tell said⟩) ∨
    ∃ R t selections after, job.Finds path (w.files.content file) R t selections ∧
      job.Leaves w path file R t selections after ∧
      conclude (perform job) w = ⟨.status 0, after⟩ := by
  have hperform := perform_eq_joinFound hserve
  rcases findInput_of_file hlevel hpath hfile with
    ⟨R, t, selections, hfinds, hfound⟩ | ⟨hfails, f, message, hf, hfound⟩
  · have hrest : perform job w = joinFound job (some (path, file), t, selections) w := by
      rw [hperform]
      exact bind_of_ok hfound
    rcases joinFound_of_finds hpath hfile hserver hfinds with
      ⟨after, hok, hleaves⟩ | ⟨hfails, e, said, herror⟩
    · exact .inr ⟨R, t, selections, after, hfinds, hleaves, conclude_of_ok (hrest.trans hok)⟩
    · exact .inl ⟨hfails, conclude_of_told said (hrest.trans herror) rfl⟩
  · refine .inl ⟨hfails, conclude_of_told [] ?_ hf⟩
    rw [World.tell_nil, hperform]
    exact bind_of_error hfound

end Found

/-- A run on a file that is there, without a service. If the name of the log's level is one, the run
ends with status 1 exactly if it fails for one of the four reasons, and then the files, the output
and the clipboards are as they were; and it ends with status 0 otherwise, when it leaves behind what
the options ask for. A name that stands for something else ends the run at its start. -/
theorem run_on_file {argv : List Text} {job : Job} {w : World} {path file : Path}
    (hargv : parse argv = .ok (.run job.options)) (hpath : job.options.path? = some path)
    (hfile : w.files.locate path = some file) (hserve : job.options.serve = false)
    (hserver : job.options.server? = none) :
    (job.options.verbose = true ∨ misnomer? job.settings.logLevel = none →
      ((run argv job.settings job.stdin w).exit = .status 1 ↔ job.Fails w path file) ∧
      (job.Fails w path file →
        (run argv job.settings job.stdin w).world.stdout = w.stdout ∧
        (run argv job.settings job.stdin w).world.files = w.files ∧
        (run argv job.settings job.stdin w).world.copied = w.copied) ∧
      (¬ job.Fails w path file →
        (run argv job.settings job.stdin w).exit = .status 0 ∧
        ∃ R t selections, job.Finds path (w.files.content file) R t selections ∧
          job.Leaves w path file R t selections (run argv job.settings job.stdin w).world)) ∧
    (∀ misnomer, job.options.verbose = false → misnomer? job.settings.logLevel = some misnomer →
      run argv job.settings job.stdin w = ⟨.unforeseen (.logLevel misnomer), w⟩) := by
  rw [run_of_parse job hargv]
  constructor
  · intro hlevel
    rcases conclude_perform_of_file hpath hfile hserve hserver hlevel with
      ⟨hfails, said, hend⟩ | ⟨R, t, selections, after, hfinds, hleaves, hend⟩
    · rw [hend]
      exact ⟨iff_of_true rfl hfails, fun _ => ⟨rfl, rfl, rfl⟩, fun h => absurd hfails h⟩
    · have hnot := hleaves.not_fails hfinds
      rw [hend]
      exact ⟨iff_of_false nofun hnot, fun h => absurd h hnot,
        fun _ => ⟨rfl, R, t, selections, hfinds, hleaves⟩⟩
  · intro misnomer hverbose hmisnomer
    refine conclude_of_unforeseen (bind_of_error ?_) rfl
    unfold checkLevel
    rw [hverbose, hmisnomer]
    rfl

/-- The job of the sample, onto the clipboard. -/
def sampleCopy : Job where
  options := { sampleJob.options with toClipboard := true }

/-- The world of the sample with a clipboard that refuses. -/
def sampleRefusal : World where
  files := (sampleWorld .service).files
  systemFault := some "No clipboard".toList

/-- Two lines are joined, and the clipboard refuses the result. -/
theorem run_on_file_of_refusal :
    parse (sampleArgv ++ ["--to-clipboard".toList]) = .ok (.run sampleCopy.options) ∧
    (run (sampleArgv ++ ["--to-clipboard".toList]) {} [] sampleRefusal).exit = .status 1 ∧
    (run (sampleArgv ++ ["--to-clipboard".toList]) {} [] sampleRefusal).world.stdout = [] ∧
    (run (sampleArgv ++ ["--to-clipboard".toList]) {} [] sampleRefusal).world.files =
      [(⟨[], ["f.js".toList]⟩, Text.Utf8.encode "a\nb\nc\n".toList)] := by
  have hargv : parse (sampleArgv ++ ["--to-clipboard".toList]) = .ok (.run sampleCopy.options) := by
    cbv
  have hpath : sampleCopy.options.path? = some ⟨[], ["f.js".toList]⟩ := by cbv
  have hfile : sampleRefusal.files.locate ⟨[], ["f.js".toList]⟩ = some ⟨[], ["f.js".toList]⟩ := by
    cbv
  have hfinds : sampleCopy.Finds ⟨[], ["f.js".toList]⟩
      (sampleRefusal.files.content ⟨[], ["f.js".toList]⟩) { name := "javascript".toList }
      "a\nb\nc\n".toList [⟨0, 1, by decide⟩] := ⟨by cbv, by cbv, by cbv⟩
  have haccepted : (partition (Document.ofText "a\nb\nc\n".toList) [⟨0, 1, by decide⟩]).accepted =
      [⟨0, 1, by decide⟩] := by cbv
  have hjoined : joinedLines { name := "javascript".toList } (Document.ofText "a\nb\nc\n".toList)
      [⟨0, 1, by decide⟩] = .ok ["a b".toList] := by cbv
  have hfails : sampleCopy.Fails sampleRefusal ⟨[], ["f.js".toList]⟩ ⟨[], ["f.js".toList]⟩ := by
    refine .clipboard hfinds (by decide) rfl ?_ (haccepted.symm ▸ hjoined) ?_
    · rw [haccepted]
      exact List.cons_ne_nil _ _
    · intro cs hcs
      cases hcs
  obtain ⟨hrun, -⟩ := run_on_file hargv hpath hfile rfl rfl
  obtain ⟨hexit, hkept, -⟩ := hrun (.inr (by decide))
  obtain ⟨hstdout, hfiles, -⟩ := hkept hfails
  exact ⟨hargv, hexit.mpr hfails, hstdout, hfiles⟩

end CommandLine

end LineJoin
