import Mathlib
import LineJoin.CommandLine.Run
import LineJoin.Proofs.Sequence

/-!
# What the actions of a run do

One equation for each action that a run is made of: what it gives and which world it leaves. Most
actions only write to the standard error, so the worlds are given by `World.tell`; asking the
service also changes the transport and the record of what was sent, and only writing a file changes
a file.

A run that joins selections first finds its input, the rules and the selections (`findInput`), none
of which depends on a service. From there on it is `joinInPlace` (`perform_of_edits`).
-/

namespace LineJoin.CommandLine

/-! ## Lines on the standard error -/

/-- A world with more text on its standard error. -/
def World.tell (w : World) (t : Text) : World := { w with stderr := w.stderr ++ t }

@[simp] theorem World.tell_tell (w : World) (t u : Text) : (w.tell t).tell u = w.tell (t ++ u) := by
  unfold tell
  rw [List.append_assoc]

@[simp] theorem World.tell_nil (w : World) : w.tell [] = w := by
  unfold tell
  rw [List.append_nil]

/-- The log lines of a job for some entries. -/
def Job.logText (job : Job) (entries : List Entry) : Text :=
  (entries.filter (job.leastWeight ≤ ·.level.weight)).flatMap (·.line ++ ['\n'])

theorem log_eq (job : Job) (entries : List Entry) (w : World) :
    log job entries w = .ok () (w.tell (job.logText entries)) := rfl

theorem status_eq (line : Text) (w : World) :
    status line w = .ok () (w.tell (line ++ ['\n'])) := by
  show EStateM.Result.ok () { w with stderr := w.stderr ++ line ++ ['\n'] } = _
  rw [List.append_assoc]
  rfl

theorem output_eq (t : Text) (w : World) :
    output t w = .ok () { w with stdout := w.stdout ++ t } := rfl

/-! ## The report of what is skipped -/

/-- A bound that, counted from one, has no more digits than are written. -/
def keepsDigitBound (bound : Json) : Bool := !bound.increment?.any Json.isOverlong

namespace Skipped

/-- A skipped selection whose bounds are numbers, so that it can be counted from one. -/
def IsCounted (s : Skipped) : Prop :=
  s.start.increment?.isSome = true ∧ s.stop.increment?.isSome = true

/-- A skipped selection whose bounds can be written. -/
def KeepsDigitBound (s : Skipped) : Prop :=
  keepsDigitBound s.start = true ∧ keepsDigitBound s.stop = true

/-- The line that reports a skipped selection. -/
def line (s : Skipped) : Text :=
  "  Skipped lines ".toList ++ (s.start.increment?.getD .null).describe
    ++ '-' :: (s.stop.increment?.getD .null).describe
    ++ " (reaches the last line of the document or overlaps)".toList ++ ['\n']

theorem report_eq {s : Skipped} (hcounted : s.IsCounted) (hbound : s.KeepsDigitBound) (w : World) :
    s.report w = .ok () (w.tell s.line) := by
  obtain ⟨start, hstart⟩ := Option.isSome_iff_exists.mp hcounted.1
  obtain ⟨stop, hstop⟩ := Option.isSome_iff_exists.mp hcounted.2
  obtain ⟨hshort, hshort'⟩ := hbound
  simp only [keepsDigitBound, hstart, hstop, Option.any_some, Bool.not_eq_true'] at hshort hshort'
  unfold report line
  rw [hstart, hstop]
  refine (bind_of_ok (w := w) rfl).trans ((bind_of_ok (w := w) rfl).trans ?_)
  rw [hshort, hshort']
  exact status_eq _ w

end Skipped

theorem reportSkipped_eq {skipped : List Skipped} (hcounted : ∀ s ∈ skipped, s.IsCounted)
    (hbound : ∀ s ∈ skipped, s.KeepsDigitBound) (w : World) :
    reportSkipped skipped w = .ok () (w.tell (skipped.flatMap Skipped.line)) := by
  induction skipped generalizing w with
  | nil =>
      rw [List.flatMap_nil, World.tell_nil]
      rfl
  | cons s skipped ih =>
      obtain ⟨hs, hcounted⟩ := List.forall_mem_cons.mp hcounted
      obtain ⟨hs', hbound⟩ := List.forall_mem_cons.mp hbound
      rw [List.flatMap_cons, ← World.tell_tell, ← ih hcounted hbound]
      exact bind_of_ok (Skipped.report_eq hs hs' w)

namespace FileTree

theorem hasFile_of_locateFrom {tree : FileTree} {directory parts : List Text} {file : Path}
    (h : tree.locateFrom directory parts = some file) : tree.hasFile file = true := by
  fun_induction locateFrom tree directory parts <;> simp_all

/-- A file that a path leads to is there. -/
theorem hasFile_of_locate {tree : FileTree} {path file : Path}
    (h : tree.locate path = some file) : tree.hasFile file = true := by
  unfold locate at h
  split at h
  · next hthere =>
      cases h
      exact hthere
  · split at h
    · exact hasFile_of_locateFrom h
    · cases h

theorem lookup_write {tree : FileTree} {file : Path} (h : tree.hasFile file = true)
    (bytes : Text.Bytes) : (tree.write file bytes).lookup file = some bytes := by
  induction tree with
  | nil => cases h
  | cons entry tree ih =>
      obtain ⟨other, old⟩ := entry
      by_cases hother : other = file
      · subst hother
        simp [write]
      · have hrest : hasFile tree file = true := by
          simpa [hasFile, hother] using h
        have hne : (file == other) = false := by
          simpa using Ne.symm hother
        show List.lookup file ((if other = file then (other, bytes) else (other, old)) :: _) = _
        rw [if_neg hother, List.lookup_cons, hne]
        exact ih hrest

/-- What is written to a file is its content. -/
theorem content_write {tree : FileTree} {file : Path} (h : tree.hasFile file = true)
    (bytes : Text.Bytes) : (tree.write file bytes).content file = bytes := by
  rw [content, lookup_write h]
  rfl

/-- Of two writes to one file only the second is seen. -/
theorem write_write (tree : FileTree) (file : Path) (first second : Text.Bytes) :
    (tree.write file first).write file second = tree.write file second := by
  unfold write
  rw [List.map_map]
  refine List.map_congr_left fun entry _ => ?_
  by_cases h : entry.1 = file <;> simp [h]

end FileTree

theorem writeFile_str (file : Path) (t : Text) (w : World) :
    writeFile file (.str t) w =
      .ok () { w with files := w.files.write file (Text.Utf8.encode t) } := by
  show EStateM.Result.ok () { w with files := (w.files.write file []).write file _ } = _
  rw [FileTree.write_write]

/-! ## Asking the service -/

/-- The client with which a job asks, once it is open. -/
def openedClient (job : Job) (url : Text) (base : Url) (w : World) : Client where
  base := Client.baseOf job.settings (some url)
  opened := some base.asBase
  transport := w.transport
  depth := job.settings.depth

/-- What is logged of a service's own work: a script of replies does none. -/
def heard : Transport → List Entry → List Entry
  | .service, entries => entries
  | .script _, _ => []

/-- A world after a client has made its call. -/
def World.afterCall (w : World) (job : Job) (client : Client) (entries : List Entry) : World :=
  World.tell { w with transport := client.transport, sent := w.sent ++ client.sent }
    (job.logText entries ++ job.logText (client.sent.filterMap requestEntry?))

section Ask

variable {job : Job} {url : Text} {base : Url} {call : Client.Call} {w : World} {client : Client}

theorem ask_of_ok {value : Json}
    (hbase : Url.read (Client.baseOf job.settings (some url)) = .ok base)
    (hcall : (openedClient job url base w).call call = (.ok value, client)) (entries : List Entry) :
    ask job url call entries w =
      .ok value (w.afterCall job client (heard w.transport entries)) := by
  unfold openedClient at hcall
  unfold ask Client.enter
  simp only [hbase]
  refine (bind_of_ok (w := w) rfl).trans ((bind_of_ok (w := w) rfl).trans ?_)
  rw [hcall]
  refine (bind_of_ok rfl).trans ?_
  unfold World.afterCall
  rw [← World.tell_tell]
  cases w.transport with
  | service => rfl
  | script replies =>
      show EStateM.Result.ok value _ = EStateM.Result.ok value (World.tell (World.tell _ []) _)
      rw [World.tell_nil]
      rfl

end Ask

/-! ## Finding the input -/

/-- The path of a job with the file that it leads to, if the job has a path. -/
def findTarget (job : Job) : Run (Option (Path × Path)) := do
  match job.options.path? with
  | none => pure none
  | some p =>
    match (← get).files.locate p with
    | some file => pure (some (p, file))
    | none => throw (.notFound p)

/-- What a run does before it joins selections: it finds the target, the text and the selections. -/
def findInput (job : Job) : Run (Option (Path × Path) × Text × List Selection) := do
  checkLevel job
  let target ← findTarget job
  let _ ← ofLibrary (RuleSet.ofLanguage (some (languageFor job job.options.path?)))
  let t ← readInput job (target.map (·.2))
  let selections ← ofLibrary (job.options.lines.mapM Selection.parse)
  return (target, t, selections)

/-- What a run does with the input that it has found. -/
def joinFound (job : Job) : Option (Path × Path) × Text × List Selection → Run Unit
  | (target, t, selections) =>
    let language := languageFor job job.options.path?
    if job.options.lines.isEmpty then joinWhole job language t
    else if job.options.toClipboard then joinToClipboard job language t selections
    else joinInPlace job target language t selections

theorem perform_eq_joinFound {job : Job} (hserve : job.options.serve = false) :
    perform job = findInput job >>= joinFound job := by
  unfold perform joinInput findInput findTarget joinFound
  -- without ranges the run does not look for selections, and there are none to be found
  have hranges : ∀ whole : Run Unit, ∀ selected : List Selection → Run Unit,
      (if job.options.lines.isEmpty = true then whole
        else ofLibrary (job.options.lines.mapM Selection.parse) >>= selected) =
      ofLibrary (job.options.lines.mapM Selection.parse) >>= fun selections =>
        if job.options.lines.isEmpty = true then whole else selected selections := by
    intro whole selected
    cases job.options.lines with
    | nil => rfl
    | cons raw raws => rfl
  simp only [hserve, hranges, bind_assoc, pure_bind, Bool.false_eq_true, if_false]
  refine bind_congr fun _ => ?_
  cases job.options.path? with
  | none => simp only [pure_bind]
  | some p =>
      simp only [bind_assoc]
      refine bind_congr fun w => ?_
      cases w.files.locate p <;> simp only [pure_bind]

theorem perform_eq_findInput (job : Job) (hserve : job.options.serve = false)
    (hlines : job.options.lines ≠ []) (hclipboard : job.options.toClipboard = false) :
    perform job = findInput job >>= fun (target, t, selections) =>
      joinInPlace job target (languageFor job job.options.path?) t selections := by
  have hempty : job.options.lines.isEmpty = false := by simpa using hlines
  rw [perform_eq_joinFound hserve]
  unfold joinFound
  simp only [hempty, hclipboard, Bool.false_eq_true, if_false]

/-- A job that joins selections in a world: it finds its input under the target, the rules and the
selections, and neither a service is to be started nor a clipboard to be written. -/
structure Job.Edits (job : Job) (w : World) (target : Option (Path × Path)) (t : Text) (R : RuleSet)
    (selections : List Selection) : Prop where
  level : job.options.verbose = true ∨ misnomer? job.settings.logLevel = none
  no_serve : job.options.serve = false
  located : (job.options.path? = none ∧ target = none) ∨
    ∃ path file, job.options.path? = some path ∧ w.files.locate path = some file ∧
      target = some (path, file)
  rules : RuleSet.ofLanguage (some (languageFor job job.options.path?)) = .ok R
  input : readInput job (target.map (·.2)) w = .ok t w
  lines_ne_nil : job.options.lines ≠ []
  selected : job.options.lines.mapM Selection.parse = .ok selections
  no_clipboard : job.options.toClipboard = false

/-- A job that asks a service. -/
def Job.through (job : Job) (url : Text) : Job :=
  { job with options := { job.options with server := some url } }

theorem Job.Edits.through {job : Job} {w : World} {target : Option (Path × Path)} {t : Text}
    {R : RuleSet} {selections : List Selection} (h : job.Edits w target t R selections)
    (url : Text) : (job.through url).Edits w target t R selections where
  level := h.level
  no_serve := h.no_serve
  located := h.located
  rules := h.rules
  input := h.input
  lines_ne_nil := h.lines_ne_nil
  selected := h.selected
  no_clipboard := h.no_clipboard

theorem checkLevel_eq {job : Job}
    (h : job.options.verbose = true ∨ misnomer? job.settings.logLevel = none) (w : World) :
    checkLevel job w = .ok () w := by
  unfold checkLevel
  rcases h with h | h
  · rw [h]
    rfl
  · rw [h]
    cases job.options.verbose <;> rfl

theorem findTarget_of_located {job : Job} {w : World} {target : Option (Path × Path)}
    (h : (job.options.path? = none ∧ target = none) ∨
      ∃ path file, job.options.path? = some path ∧ w.files.locate path = some file ∧
        target = some (path, file)) :
    findTarget job w = .ok target w := by
  unfold findTarget
  rcases h with ⟨hpath, rfl⟩ | ⟨path, file, hpath, hfile, rfl⟩
  · rw [hpath]
    rfl
  · rw [hpath]
    refine (bind_of_ok (w := w) rfl).trans ?_
    rw [hfile]
    rfl

theorem Job.Edits.findInput_eq {job : Job} {w : World} {target : Option (Path × Path)} {t : Text}
    {R : RuleSet} {selections : List Selection} (h : job.Edits w target t R selections) :
    findInput job w = .ok (target, t, selections) w := by
  unfold findInput
  refine (bind_of_ok (checkLevel_eq h.level w)).trans ?_
  refine (bind_of_ok (findTarget_of_located h.located)).trans ?_
  rw [h.rules]
  refine (bind_of_ok (w := w) rfl).trans ((bind_of_ok h.input).trans ?_)
  rw [h.selected]
  rfl

theorem perform_of_edits {job : Job} {w : World} {target : Option (Path × Path)} {t : Text}
    {R : RuleSet} {selections : List Selection} (h : job.Edits w target t R selections) :
    perform job w = joinInPlace job target (languageFor job job.options.path?) t selections w := by
  rw [perform_eq_findInput job h.no_serve h.lines_ne_nil h.no_clipboard]
  exact (bind_of_ok h.findInput_eq).trans rfl

/-! ## The edit that a reply describes -/

/-- The bounds of a skipped selection are compared one after the other, and the first comparison
that fails decides. -/
theorem ofReply_of_fields {part start stop : Json}
    (hstart : Client.fieldOf "start_line" part = .ok start)
    (hstop : Client.fieldOf "end_line" part = .ok stop) (w : World) :
    Skipped.ofReply part w =
      match start.less? (.int 0), stop.less? (.int 0), stop.less? start with
      | some true, _, _ => .error (.library .negativeLine) w
      | some false, some true, _ => .error (.library .negativeLine) w
      | some false, some false, some true => .error (.replyOrder start stop) w
      | some false, some false, some false => .ok ⟨start, stop⟩ w
      | _, _, _ => .error (.client .wrongShape) w := by
  unfold Skipped.ofReply
  rw [hstart]
  refine (bind_of_ok (w := w) rfl).trans ?_
  rw [hstop]
  refine (bind_of_ok (w := w) rfl).trans ?_
  rcases start.less? (.int 0) with _ | _ | _
  · rfl
  · rcases stop.less? (.int 0) with _ | _ | _
    · rfl
    · rcases stop.less? start with _ | _ | _ <;> rfl
    · rfl
  · rfl

/-- The edit that the value of a reply describes. -/
def editOfReply (body : Json) : Run Edit := do
  let text ← ofClient (Client.fieldOf "text" body)
  let joined ← ofClient (Client.fieldOf "joined" body)
  let skipped ← ofShape (← ofClient (Client.fieldOf "skipped" body)).parts?
  return ⟨text, joined, ← skipped.mapM Skipped.ofReply⟩

theorem editByService_eq (job : Job) (url language t : Text) (selections : List Selection) :
    editByService job url language t selections = (do
      let R ← ofLibrary (RuleSet.ofLanguage (some language))
      let body ← ask job url
        (.joinDocument (.str t) (.array (selections.map Service.selectionJson)) (.str language))
        (commandEntries R (Document.ofText t) selections)
      editOfReply body) := rfl

/-! ## Delivering an edit -/

/-- What a job does with an edit: it reports what was skipped and writes the text. -/
def deliver (job : Job) (target : Option (Path × Path)) (edit : Edit) : Run Unit := do
  reportSkipped edit.skipped
  match target, job.options.stdout with
  | some (path, file), false =>
    writeFile file edit.text
    let count ← ofShape edit.joined.size?
    status ("Joined ".toList ++ Numeral.decimal count ++ " selection(s) in ".toList
      ++ path.toText)
  | _, _ => output (← ofText edit.text)

theorem joinInPlace_eq (job : Job) (target : Option (Path × Path)) (language t : Text)
    (selections : List Selection) :
    joinInPlace job target language t selections =
      (match job.options.server? with
        | some url => editByService job url language t selections
        | none => editHere job language t selections) >>= deliver job target := by
  unfold joinInPlace
  cases job.options.server? <;> rfl

/-- The line that ends the report of a run that wrote a file. -/
def doneLine (count : Nat) (path : Path) : Text :=
  "Joined ".toList ++ Numeral.decimal count ++ " selection(s) in ".toList ++ path.toText ++ ['\n']

section Deliver

variable {job : Job} {path file : Path} {skipped : List Skipped} {w : World}

theorem deliver_output {target : Option (Path × Path)}
    (htarget : target = none ∨ job.options.stdout = true)
    (hcounted : ∀ s ∈ skipped, s.IsCounted) (hbound : ∀ s ∈ skipped, s.KeepsDigitBound)
    (t : Text) (joined : Json) :
    deliver job target ⟨.str t, joined, skipped⟩ w =
      .ok () (World.tell { w with stdout := w.stdout ++ t } (skipped.flatMap Skipped.line)) := by
  unfold deliver
  refine (bind_of_ok (reportSkipped_eq hcounted hbound w)).trans ?_
  rcases htarget with rfl | hstdout
  · exact output_eq t _
  · rw [hstdout]
    cases target <;> exact output_eq t _

/-- What is left to do for a file once the skipped selections are reported. -/
def fillFile (path file : Path) (text joined : Json) : Run Unit := do
  writeFile file text
  let count ← ofShape joined.size?
  status ("Joined ".toList ++ Numeral.decimal count ++ " selection(s) in ".toList ++ path.toText)

theorem deliver_eq_fillFile (hstdout : job.options.stdout = false)
    (hcounted : ∀ s ∈ skipped, s.IsCounted) (hbound : ∀ s ∈ skipped, s.KeepsDigitBound)
    (text joined : Json) :
    deliver job (some (path, file)) ⟨text, joined, skipped⟩ w =
      fillFile path file text joined (w.tell (skipped.flatMap Skipped.line)) := by
  unfold deliver
  refine (bind_of_ok (reportSkipped_eq hcounted hbound w)).trans ?_
  rw [hstdout]
  rfl

theorem fillFile_str (t : Text) {joined : Json} {count : Nat} (hcount : joined.size? = some count) :
    fillFile path file (.str t) joined w =
      .ok () (World.tell { w with files := w.files.write file (Text.Utf8.encode t) }
        (doneLine count path)) := by
  unfold fillFile
  refine (bind_of_ok (writeFile_str file t w)).trans ?_
  rw [hcount]
  exact (bind_of_ok rfl).trans (status_eq _ _)

end Deliver

/-! ## Ends of a run -/

section Conclude

variable {action : Run Unit} {w w' : World} {f : Failure}

theorem conclude_of_ok (h : action w = .ok () w') : conclude action w = ⟨.status 0, w'⟩ := by
  unfold conclude
  rw [h]

theorem conclude_of_reported (h : action w = .error f w') {message : Text}
    (hf : f.report? = some message) :
    conclude action w = ⟨.status 1, w'.report ("Error: ".toList ++ message)⟩ := by
  unfold conclude
  rw [h]
  simp only [hf]

theorem conclude_of_unforeseen (h : action w = .error f w') (hf : f.report? = none) :
    conclude action w = ⟨.unforeseen f, w'⟩ := by
  unfold conclude
  rw [h]
  simp only [hf]

end Conclude

theorem run_of_parse (job : Job) {argv : List Text} (h : parse argv = .ok (.run job.options))
    (w : World) : run argv job.settings job.stdin w = conclude (perform job) w := by
  unfold run
  rw [h]

/-! ## One file with three lines -/

/-- A job that joins the first two lines of a file. -/
def sampleJob : Job where
  options := { file := some "f.js".toList, lines := ["1-2".toList] }

/-- The command line of that job. -/
def sampleArgv : List Text := ["f.js".toList, "--lines".toList, "1-2".toList]

/-- The same job through a service, as a command line. -/
def sampleArgvThrough (url : Text) : List Text := sampleArgv ++ ["--server".toList, url]

/-- A world with that file and a transport. -/
def sampleWorld (transport : Transport) : World where
  files := [(⟨[], ["f.js".toList]⟩, Text.Utf8.encode "a\nb\nc\n".toList)]
  transport := transport

theorem sampleJob_edits (transport : Transport) :
    sampleJob.Edits (sampleWorld transport) (some (⟨[], ["f.js".toList]⟩, ⟨[], ["f.js".toList]⟩))
      "a\nb\nc\n".toList { name := "javascript".toList } [⟨0, 1, by decide⟩] where
  level := .inr (by decide)
  no_serve := rfl
  located := .inr ⟨_, _, by cbv, by cbv, rfl⟩
  rules := by cbv
  input := by
    have hdecode : Text.Utf8.decode
        ((sampleWorld transport).files.content ⟨[], ["f.js".toList]⟩) =
        .ok "a\nb\nc\n".toList := by cbv
    unfold readInput ofBytes
    refine (bind_of_ok (w := sampleWorld transport) rfl).trans ?_
    rw [hdecode]
    rfl
  lines_ne_nil := by decide
  selected := by cbv
  no_clipboard := rfl

/-- An address for a service. -/
def sampleUrl : Text := "http://svc".toList

/-- That address, taken apart. -/
def sampleRoot : Url := { scheme := "http".toList, host := "svc".toList }

theorem read_sampleUrl : Url.read (Client.baseOf {} (some sampleUrl)) = .ok sampleRoot := by cbv

theorem parse_sampleArgv : parse sampleArgv = .ok (.run sampleJob.options) := by cbv

theorem parse_sampleArgvThrough :
    parse (sampleArgvThrough sampleUrl) = .ok (.run (sampleJob.through sampleUrl).options) := by cbv

end LineJoin.CommandLine
