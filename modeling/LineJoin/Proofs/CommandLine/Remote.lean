import LineJoin.Proofs.Client.Calls
import LineJoin.Proofs.CommandLine.Actions
import LineJoin.Proofs.Selection.DigitBound

/-!
# Edits through the service and edits here

Whether a run joins the selections itself or asks the service to do it, it writes the same text and
reports the same skipped ranges; only the request is logged in addition. A run that finds no input,
rules or selections fails before a service comes into play, and so in the same way.
-/

namespace LineJoin

namespace CommandLine

/-! ## The edit -/

/-- The edit that a document and a report describe. -/
def Edit.ofReport (d : Document) (report : Report) : Edit :=
  ⟨.str d.toText, .texts report.joined, report.skipped.map .ofSelection⟩

theorem editHere_eq {job : Job} {language t : Text} {R : RuleSet} {selections : List Selection}
    {d : Document} {report : Report} (hR : RuleSet.ofLanguage (some language) = .ok R)
    (hok : joinLines R (Document.ofText t) selections = .ok (d, report)) (w : World) :
    editHere job language t selections w =
      .ok (.ofReport d report)
        (w.tell (job.logText (commandEntries R (Document.ofText t) selections))) := by
  unfold editHere
  rw [hR]
  refine (bind_of_ok (w := w) rfl).trans ((bind_of_ok (log_eq job _ w)).trans ?_)
  rw [hok]
  rfl

theorem less?_int (a b : Int) : (Json.int a).less? (.int b) = some (decide (a < b)) := by
  show some (decide (a * ((1 : Nat) : Int) < b * ((1 : Nat) : Int))) = _
  rw [Int.natCast_one, Int.mul_one, Int.mul_one]

/-- A skipped selection of the service is one of those here. -/
theorem ofReply_selectionJson (s : Selection) (w : World) :
    Skipped.ofReply (Service.selectionJson s) w = .ok (.ofSelection s) w := by
  have hstart : Client.fieldOf "start_line" (Service.selectionJson s) = .ok (.int s.start) := rfl
  have hstop : Client.fieldOf "end_line" (Service.selectionJson s) = .ok (.int s.stop) := rfl
  have hle := s.start_le_stop
  rw [ofReply_of_fields hstart hstop, less?_int, less?_int, less?_int, decide_eq_false (by omega),
    decide_eq_false (by omega), decide_eq_false (by omega)]
  rfl

theorem mapM_ofReply_selectionJson (skipped : List Selection) (w : World) :
    (skipped.map Service.selectionJson).mapM Skipped.ofReply w =
      .ok (skipped.map .ofSelection) w := by
  induction skipped with
  | nil => rfl
  | cons s skipped ih =>
      rw [List.map_cons, List.mapM_cons]
      exact (bind_of_ok (ofReply_selectionJson s w)).trans ((bind_of_ok ih).trans rfl)

theorem editOfReply_documentJson (d : Document) (report : Report) (w : World) :
    editOfReply (Service.documentJson d report) w = .ok (.ofReport d report) w := by
  have hrest : editOfReply (Service.documentJson d report) w =
      ((report.skipped.map Service.selectionJson).mapM Skipped.ofReply >>= fun skipped =>
        pure ⟨.str d.toText, .texts report.joined, skipped⟩ : Run Edit) w := rfl
  rw [hrest]
  exact (bind_of_ok (mapM_ofReply_selectionJson report.skipped w)).trans rfl

/-! ## The edit delivered -/

/-- The lines that report the skipped selections. -/
def skipLines (skipped : List Selection) : Text :=
  skipped.flatMap fun s => "  Skipped lines ".toList ++ s.range
    ++ " (reaches the last line of the document or overlaps)".toList ++ ['\n']

/-- A world that has received an edit: the text is in the file, or on the standard output if it was
asked for there or came from nowhere else. -/
def World.withEdit (w : World) (job : Job) (target : Option (Path × Path)) (d : Document)
    (report : Report) : World :=
  match target, job.options.stdout with
  | some (path, file), false =>
    World.tell { w with files := w.files.write file (Text.Utf8.encode d.toText) }
      (skipLines report.skipped ++ doneLine report.joined.length path)
  | _, _ => World.tell { w with stdout := w.stdout ++ d.toText } (skipLines report.skipped)

theorem line_ofSelection (s : Selection) :
    (Skipped.ofSelection s).line = "  Skipped lines ".toList ++ s.range
      ++ " (reaches the last line of the document or overlaps)".toList ++ ['\n'] := by
  have hdecimal : ∀ n : Nat, Numeral.decimalInt ((n : Int) + 1) = Numeral.decimal (n + 1) := by
    intro n
    unfold Numeral.decimalInt
    rw [if_neg (by omega)]
    rfl
  show "  Skipped lines ".toList ++ Numeral.decimalInt ((s.start : Int) + 1)
    ++ '-' :: Numeral.decimalInt ((s.stop : Int) + 1) ++ _ ++ _ = _
  rw [hdecimal, hdecimal]
  unfold Selection.range
  simp only [List.append_assoc, List.cons_append]

theorem isCounted_ofSelection (skipped : List Selection) :
    ∀ s ∈ skipped.map Skipped.ofSelection, s.IsCounted := by
  intro s hs
  obtain ⟨s, _, rfl⟩ := List.mem_map.mp hs
  exact ⟨rfl, rfl⟩

theorem keepsDigitBound_int {n : Nat} (h : (Numeral.decimal (n + 1)).length ≤ 4300) :
    keepsDigitBound (.int n) = true := by
  have hnext : ((n : Int) + 1).natAbs = n + 1 := by omega
  have hshort : ¬ Numeral.maxDigits < (Numeral.decimal (n + 1)).length := Nat.not_lt.mpr h
  show (!decide (Numeral.maxDigits < (Numeral.decimal ((n : Int) + 1).natAbs).length)) = true
  rw [hnext, decide_eq_false hshort]
  rfl

theorem keepsDigitBound_ofSelection {skipped : List Selection}
    (h : ∀ s ∈ skipped, s.KeepsDigitBound) :
    ∀ s ∈ skipped.map Skipped.ofSelection, s.KeepsDigitBound := by
  intro s hs
  obtain ⟨s, hmem, rfl⟩ := List.mem_map.mp hs
  exact ⟨keepsDigitBound_int (h s hmem).1, keepsDigitBound_int (h s hmem).2⟩

theorem flatMap_line_ofSelection (skipped : List Selection) :
    (skipped.map Skipped.ofSelection).flatMap Skipped.line = skipLines skipped := by
  unfold skipLines
  rw [List.flatMap_map]
  exact List.flatMap_congr fun s _ => line_ofSelection s

theorem reportSkipped_ofSelection {skipped : List Selection}
    (h : ∀ s ∈ skipped, s.KeepsDigitBound) (w : World) :
    reportSkipped (skipped.map .ofSelection) w = .ok () (w.tell (skipLines skipped)) := by
  rw [reportSkipped_eq (isCounted_ofSelection skipped) (keepsDigitBound_ofSelection h),
    flatMap_line_ofSelection]

theorem deliver_ofReport (job : Job) (target : Option (Path × Path)) (d : Document)
    {report : Report} (h : ∀ s ∈ report.skipped, s.KeepsDigitBound) (w : World) :
    deliver job target (.ofReport d report) w = .ok () (w.withEdit job target d report) := by
  have hcounted := isCounted_ofSelection report.skipped
  have hbound := keepsDigitBound_ofSelection h
  have hcount : (Json.texts report.joined).size? = some report.joined.length := by
    show some (report.joined.map Json.str).length = _
    rw [List.length_map]
  unfold World.withEdit
  rw [← flatMap_line_ofSelection]
  rcases target with _ | ⟨path, file⟩
  · exact deliver_output (.inl rfl) hcounted hbound d.toText _
  · cases hstdout : job.options.stdout with
    | false =>
        refine (deliver_eq_fillFile hstdout hcounted hbound _ _).trans
          ((fillFile_str d.toText hcount).trans (congrArg (EStateM.Result.ok ()) ?_))
        exact World.tell_tell { w with files := w.files.write file (Text.Utf8.encode d.toText) } _ _
    | true => exact deliver_output (.inr hstdout) hcounted hbound d.toText _

/-- What is skipped of the ranges of a command line can be reported. -/
theorem keepsDigitBound_of_skipped {raws : List Text} {selections : List Selection}
    (h : raws.mapM Selection.parse = .ok selections) (d : Document) :
    ∀ s ∈ (partition d selections).skipped, s.KeepsDigitBound := by
  intro s hs
  exact Selection.keepsDigitBound_of_mapM h s (Service.mem_of_mem_skipped hs)

/-! ## Input that is not found -/

theorem ofBytes_cases (bytes : Text.Bytes) (w : World) :
    (∃ t, ofBytes bytes w = .ok t w) ∨ ∃ f, ofBytes bytes w = .error f w := by
  unfold ofBytes
  cases Text.Utf8.decode bytes with
  | ok t => exact .inl ⟨t, rfl⟩
  | error fault => exact .inr ⟨_, rfl⟩

theorem readInput_cases (job : Job) (file? : Option Path) (w : World) :
    (∃ t, readInput job file? w = .ok t w) ∨ ∃ f, readInput job file? w = .error f w := by
  cases file? with
  | none =>
      rcases ofBytes_cases job.stdin w with ⟨t, ht⟩ | ⟨f, hf⟩
      · exact .inl ⟨_, bind_of_ok ht⟩
      · exact .inr ⟨f, bind_of_error hf⟩
  | some file => exact ofBytes_cases (w.files.content file) w

theorem findTarget_cases (job : Job) (w : World) :
    (∃ target, (job.options.path? = none ∧ target = none) ∨
      ∃ path file, job.options.path? = some path ∧ w.files.locate path = some file ∧
        target = some (path, file)) ∨
    ∃ f, findTarget job w = .error f w := by
  cases hpath : job.options.path? with
  | none => exact .inl ⟨none, .inl ⟨rfl, rfl⟩⟩
  | some path =>
      cases hfile : w.files.locate path with
      | some file => exact .inl ⟨some (path, file), .inr ⟨path, file, rfl, hfile, rfl⟩⟩
      | none =>
          refine .inr ⟨.notFound path, ?_⟩
          unfold findTarget
          rw [hpath]
          refine (bind_of_ok (w := w) rfl).trans ?_
          rw [hfile]
          rfl

/-- Either everything is found, or the search fails and leaves the world as it was. -/
theorem findInput_cases {job : Job} (hserve : job.options.serve = false)
    (hlines : job.options.lines ≠ []) (hclipboard : job.options.toClipboard = false) (w : World) :
    (∃ target t R selections, job.Edits w target t R selections) ∨
      ∃ f, findInput job w = .error f w := by
  unfold findInput
  by_cases hlevel : job.options.verbose = true ∨ misnomer? job.settings.logLevel = none
  · have hcheck := checkLevel_eq hlevel w
    rcases findTarget_cases job w with ⟨target, hlocated⟩ | ⟨f, hf⟩
    · have htarget := findTarget_of_located hlocated
      cases hR : RuleSet.ofLanguage (some (languageFor job job.options.path?)) with
      | error e =>
          exact .inr ⟨.library e, (bind_of_ok hcheck).trans ((bind_of_ok htarget).trans rfl)⟩
      | ok R =>
          rcases readInput_cases job (target.map (·.2)) w with ⟨t, ht⟩ | ⟨f, hf⟩
          · cases hselected : job.options.lines.mapM Selection.parse with
            | error e =>
                exact .inr ⟨.library e, (bind_of_ok hcheck).trans ((bind_of_ok htarget).trans
                  ((bind_of_ok (w := w) rfl).trans ((bind_of_ok ht).trans rfl)))⟩
            | ok selections =>
                exact .inl ⟨target, t, R, selections, hlevel, hserve, hlocated, hR, ht, hlines,
                  hselected, hclipboard⟩
          · exact .inr ⟨f, (bind_of_ok hcheck).trans ((bind_of_ok htarget).trans
              ((bind_of_ok (w := w) rfl).trans (bind_of_error hf)))⟩
    · exact .inr ⟨f, (bind_of_ok hcheck).trans (bind_of_error hf)⟩
  · obtain ⟨hverbose, hname⟩ := not_or.mp hlevel
    obtain ⟨misnomer, hmisnomer⟩ := Option.ne_none_iff_exists'.mp hname
    have hcheck : checkLevel job w = .error (.logLevel misnomer) w := by
      unfold checkLevel
      rw [Bool.eq_false_iff.mpr hverbose, hmisnomer]
      rfl
    exact .inr ⟨_, bind_of_error hcheck⟩

/-! ## With and without a service -/

/-- A number of a selection that was read can be sent. -/
theorem read_print_stop {s : Selection} (h : s.KeepsDigitBound) (depth : Nat) :
    Json.read depth (Json.int s.stop).print = .ok (.int s.stop) := by
  rw [Json.read_print_int_iff]
  exact (Numeral.length_decimal_mono (Nat.le_succ s.stop)).trans h.2

/-- The selections of an edit are some, and can be sent. -/
theorem Job.Edits.selections {job : Job} {w : World} {target : Option (Path × Path)} {t : Text}
    {R : RuleSet} {selections : List Selection} (h : job.Edits w target t R selections)
    (depth : Nat) :
    selections ≠ [] ∧
      ∀ s ∈ selections, Json.read depth (Json.int s.stop).print = .ok (.int s.stop) := by
  have hbound := Selection.keepsDigitBound_of_mapM h.selected
  refine ⟨?_, fun s hs => read_print_stop (hbound s hs) depth⟩
  rintro rfl
  have hlength := (Selection.parse_of_mapM h.selected).1
  exact h.lines_ne_nil (List.length_eq_zero_iff.mp hlength.symm)

/-- The service gives the edit that is made here, and the request is logged after the joins. -/
theorem editByService_eq_ofReport (job : Job) (t : Text) {url : Text} {root : Url} {w : World}
    (hreaches : Client.Reaches
      { base := Client.baseOf job.settings (some url)
        transport := w.transport
        depth := job.settings.depth } root)
    {language : Text} {R : RuleSet} (hR : RuleSet.ofLanguage (some language) = .ok R)
    {selections : List Selection} (hselections : selections ≠ [])
    (hlegible : ∀ s ∈ selections,
      Json.read job.settings.depth (Json.int s.stop).print = .ok (.int s.stop)) :
    ∃ d report sent entry, joinLines R (Document.ofText t) selections = .ok (d, report) ∧
      editByService job url language t selections w = .ok (.ofReport d report)
        (World.tell { w with sent := w.sent ++ [sent] }
          (job.logText (commandEntries R (Document.ofText t) selections)
            ++ job.logText [entry])) := by
  obtain ⟨d, report, sent, hok, hnames, hstatus, hcall⟩ :=
    hreaches.joinDocument_of_rules hR t hselections hlegible
  rw [hreaches.enter_eq] at hcall
  have hopened : openedClient job url root w =
      { base := Client.baseOf job.settings (some url)
        transport := w.transport
        depth := job.settings.depth
        opened := some root } := by
    unfold openedClient
    rw [hreaches.root.asBase]
  have hentry : ∃ entry, requestEntry? sent = some entry := by
    unfold requestEntry?
    rw [hstatus]
    exact ⟨_, if_pos hnames⟩
  obtain ⟨entry, hentry⟩ := hentry
  refine ⟨d, report, sent, entry, hok, ?_⟩
  rw [editByService_eq, hR]
  refine (bind_of_ok (w := w) rfl).trans ?_
  refine (bind_of_ok (ask_of_ok hreaches.base (hopened ▸ hcall) _)).trans ?_
  refine (editOfReply_documentJson d report _).trans (congrArg (EStateM.Result.ok _) ?_)
  have hheard : ∀ entries, heard w.transport entries = entries := by
    intro entries
    rw [show w.transport = .service from hreaches.transport]
    rfl
  have hsent : ([] ++ [sent]).filterMap requestEntry? = [entry] := by
    simp [hentry]
  unfold World.afterCall
  simp only [hsent]
  rw [hheard]
  rfl

/-- A run that finds no edit to make does not ask a service. -/
theorem perform_through_of_not_edits {job : Job} {w : World}
    (hserve : job.options.serve = false) (hlines : job.options.lines ≠ [])
    (hclipboard : job.options.toClipboard = false)
    (h : ∀ target t R selections, ¬ job.Edits w target t R selections) (url : Text) :
    perform (job.through url) w = perform job w := by
  rcases findInput_cases hserve hlines hclipboard w with
    ⟨target, t, R, selections, hedits⟩ | ⟨f, hf⟩
  · exact absurd hedits (h target t R selections)
  · rw [perform_eq_findInput job hserve hlines hclipboard,
      perform_eq_findInput (job.through url) hserve hlines hclipboard]
    exact (bind_of_error (x := findInput (job.through url)) hf).trans (bind_of_error hf).symm

section Edits

variable {job : Job} {w : World} {target : Option (Path × Path)} {t : Text} {R : RuleSet}
  {selections : List Selection} {d : Document} {report : Report}

theorem Job.Edits.keepsDigitBound (hedits : job.Edits w target t R selections)
    (hok : joinLines R (Document.ofText t) selections = .ok (d, report)) :
    ∀ s ∈ report.skipped, s.KeepsDigitBound := by
  rw [skipped_of_joinLines hok]
  exact keepsDigitBound_of_skipped hedits.selected _

theorem perform_here (hedits : job.Edits w target t R selections)
    (hserver : job.options.server? = none)
    (hok : joinLines R (Document.ofText t) selections = .ok (d, report)) :
    perform job w = .ok ()
      ((w.tell (job.logText (commandEntries R (Document.ofText t) selections))).withEdit
        job target d report) := by
  rw [perform_of_edits hedits, joinInPlace_eq, hserver]
  exact (bind_of_ok (editHere_eq hedits.rules hok w)).trans
    (deliver_ofReport job target d (hedits.keepsDigitBound hok) _)

theorem perform_through (hedits : job.Edits w target t R selections) {url : Text} (hurl : url ≠ [])
    {w' : World} (hok : joinLines R (Document.ofText t) selections = .ok (d, report))
    (hedit : editByService (job.through url) url (languageFor job job.options.path?) t selections
      w = .ok (.ofReport d report) w') :
    perform (job.through url) w = .ok () (w'.withEdit job target d report) := by
  have hserver : (job.through url).options.server? = some url := by
    obtain ⟨c, cs, rfl⟩ := List.exists_cons_of_ne_nil hurl
    rfl
  rw [perform_of_edits (hedits.through url), joinInPlace_eq, hserver]
  exact (bind_of_ok hedit).trans
    (deliver_ofReport (job.through url) target d (hedits.keepsDigitBound hok) _)

end Edits

end CommandLine

open CommandLine in
/-- A service that is reached gives what is computed here: for every language, joins of lines and of
two lines, and edits of a text whose selections can be sent. With the same file, ranges and language
a run writes the same text and reports the same ranges, whether it asks that service or not: it
leaves the same edit, and nothing else differs but the record of the request. -/
theorem remote_agrees {c : Client} {root : Url} (hc : c.Reaches root) (language : Option Text) :
    (∀ lines, lines ≠ [] →
      Client.Agrees language (c.enter.2.call (.joinLines (.texts lines) (.ofText? language))).1
        ((joinAll lines none language).map .str)) ∧
    (∀ first second,
      Client.Agrees language
        (c.enter.2.call (.joinPair (.str first) (.str second) (.ofText? language))).1
        ((joinPair first second none language).map .str)) ∧
    (∀ t selections, selections ≠ [] →
      (∀ s ∈ selections, Json.read c.depth (Json.int s.stop).print = .ok (.int s.stop)) →
      Client.Agrees language (c.enter.2.call (.joinDocument (.str t)
          (.array (selections.map Service.selectionJson)) (.ofText? language))).1
        (Client.localEdit language t selections)) ∧
    (∀ (argv argv' : List Text) (job : Job) (url : Text) (w : World),
      parse argv = .ok (.run job.options) → parse argv' = .ok (.run (job.through url).options) →
      job.options.server? = none → url ≠ [] → job.options.serve = false → job.options.lines ≠ [] →
      job.options.toClipboard = false →
      Client.Reaches
        { base := Client.baseOf job.settings (some url)
          transport := w.transport
          depth := job.settings.depth } root →
      (∀ target t R selections, job.Edits w target t R selections →
        ∃ d report sent entry, joinLines R (Document.ofText t) selections = .ok (d, report) ∧
          run argv job.settings job.stdin w = ⟨.status 0,
            (w.tell (job.logText (commandEntries R (Document.ofText t) selections))).withEdit
              job target d report⟩ ∧
          run argv' job.settings job.stdin w = ⟨.status 0,
            (World.tell { w with sent := w.sent ++ [sent] }
              (job.logText (commandEntries R (Document.ofText t) selections)
                ++ job.logText [entry])).withEdit job target d report⟩) ∧
      ((∀ target t R selections, ¬ job.Edits w target t R selections) →
        run argv' job.settings job.stdin w = run argv job.settings job.stdin w)) := by
  refine ⟨fun lines hlines => hc.joinLines_agrees hlines language,
    fun first second => hc.joinPair_agrees first second language,
    fun t selections hselections hlegible => hc.joinDocument_agrees t hselections hlegible language,
    ?_⟩
  intro argv argv' job url w hargv hargv' hserver hurl hserve hlines hclipboard hreaches
  have hrun' : run argv' job.settings job.stdin w = conclude (perform (job.through url)) w :=
    run_of_parse (job.through url) hargv' w
  rw [run_of_parse job hargv, hrun']
  constructor
  · intro target t R selections hedits
    obtain ⟨hne, hlegible⟩ := hedits.selections job.settings.depth
    obtain ⟨d, report, sent, entry, hok, hedit⟩ :=
      editByService_eq_ofReport (job.through url) t hreaches hedits.rules hne hlegible
    exact ⟨d, report, sent, entry, hok, conclude_of_ok (perform_here hedits hserver hok),
      conclude_of_ok (perform_through hedits hurl hok hedit)⟩
  · intro hnone
    unfold conclude
    rw [perform_through_of_not_edits hserve hlines hclipboard hnone url]

open CommandLine in
/-- A language with a capital and a blank, a line that is continued, a selection that is skipped,
and a file that is edited both ways. -/
theorem remote_agrees_of_sample :
    let c : Client := { base := Client.baseOf {} (some sampleUrl) }
    let language : Option Text := some " Py".toList
    let selections : List Selection := [⟨0, 0, by decide⟩, ⟨1, 2, by decide⟩]
    let entries := commandEntries { name := "javascript".toList }
      (Document.ofText "a\nb\nc\n".toList) [⟨0, 1, by decide⟩]
    c.Reaches sampleRoot ∧
    Client.Agrees language
      (c.enter.2.call
        (.joinLines (.texts ["x = 1 \\".toList, "  + 2".toList]) (.ofText? language))).1
      ((joinAll ["x = 1 \\".toList, "  + 2".toList] none language).map .str) ∧
    Client.Agrees language
      (c.enter.2.call (.joinPair (.str "f(".toList) (.str "x".toList) (.ofText? language))).1
      ((joinPair "f(".toList "x".toList none language).map .str) ∧
    Client.Agrees language
      (c.enter.2.call (.joinDocument (.str "f(\n  x\n)".toList)
        (.array (selections.map Service.selectionJson)) (.ofText? language))).1
      (Client.localEdit language "f(\n  x\n)".toList selections) ∧
    ∃ d report sent entry,
      run sampleArgv {} [] (sampleWorld .service) = ⟨.status 0,
        ((sampleWorld .service).tell (sampleJob.logText entries)).withEdit sampleJob
          (some (⟨[], ["f.js".toList]⟩, ⟨[], ["f.js".toList]⟩)) d report⟩ ∧
      run (sampleArgvThrough sampleUrl) {} [] (sampleWorld .service) = ⟨.status 0,
        (World.tell { sampleWorld .service with sent := [sent] }
          (sampleJob.logText entries ++ sampleJob.logText [entry])).withEdit sampleJob
          (some (⟨[], ["f.js".toList]⟩, ⟨[], ["f.js".toList]⟩)) d report⟩ := by
  intro c language selections entries
  have hc : c.Reaches sampleRoot := ⟨read_sampleUrl, ⟨by decide, by decide⟩, rfl, by decide⟩
  have hlegible : ∀ s ∈ selections,
      Json.read c.depth (Json.int s.stop).print = .ok (.int s.stop) := by
    intro s hs
    rcases List.mem_pair.mp hs with rfl | rfl
    · exact (Json.read_print_int_iff c.depth 0).mpr (by cbv)
    · exact (Json.read_print_int_iff c.depth 2).mpr (by cbv)
  obtain ⟨hlines, hpair, hdocument, hrun⟩ := remote_agrees hc language
  obtain ⟨hedit, _⟩ := hrun sampleArgv (sampleArgvThrough sampleUrl) sampleJob sampleUrl
    (sampleWorld .service) parse_sampleArgv parse_sampleArgvThrough rfl (by decide) rfl (by decide)
    rfl hc
  obtain ⟨d, report, sent, entry, _, hhere, hremote⟩ := hedit _ _ _ _ (sampleJob_edits .service)
  exact ⟨hc, hlines _ (by decide), hpair _ _, hdocument _ _ (by decide) hlegible, d, report, sent,
    entry, hhere, hremote⟩

end LineJoin
