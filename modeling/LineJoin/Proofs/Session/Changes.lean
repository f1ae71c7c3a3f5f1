import LineJoin.Proofs.Command.ToClipboard
import LineJoin.Proofs.Sequence
import LineJoin.Session

/-!
# What a session changes

An action keeps the changes that it made before it failed, so a command that failed halfway would
leave a document half edited. No command does: in place, every line is joined before the first edit
and the edits cannot fail (`Action.join_eq`); onto a clipboard, the one write comes last
(`Action.joinToClipboard_eq`).

What a step can do is said once, in `Step.Does`. From it follows what a whole session leaves behind:
the document that the successful edits make, and on the clipboards the texts of the successful
writes (`session_changes`).
-/

namespace LineJoin

/-- A text that is written is received, whatever might have refused it. -/
theorem Clipboards.eq_receive_of_write {cs cs' : Clipboards} {target : Outlet} {t : Text}
    (h : cs.write target t = .ok cs') : cs' = cs.receive target.clipboard t := by
  unfold write at h
  split at h
  · cases h
  · exact (Except.ok.inj h).symm

/-! ## The edits of a command -/

/-- Once the lines are joined, the edits succeed. -/
theorem exists_replaceAll {R : RuleSet} {d : Document} {selections : List Selection}
    {joined : List Text}
    (h : joinedLines R d (partition d selections).accepted = .ok joined) :
    ∃ edited, replaceAll d ((partition d selections).accepted.zip joined) = .ok edited := by
  obtain ⟨line, rfl⟩ := joinedLines_eq_map h
  exact ⟨_, replaceAll_eq_replaced line (partition_apart d selections)⟩

/-! ## Commands as actions -/

namespace Action

/-- What a command does to a workspace when its result is known: all of it, or nothing. -/
def settled {α β : Type} (w : Workspace) (r : Except Error α) (after : α → Workspace) (answer : α → β) :
    EStateM.Result Error Workspace β :=
  match r with
  | .ok a => .ok (answer a) (after a)
  | .error e => .error e w

theorem bind_pure_of_settled {α β γ : Type} {x : Action β} {w : Workspace} {r : Except Error α}
    {after : α → Workspace} {answer : α → β} (h : x w = settled w r after answer) (g : β → γ) :
    (x >>= fun b => pure (g b)) w = settled w r after fun a => g (answer a) := by
  cases r with
  | error e => exact bind_of_error h
  | ok a => exact bind_of_ok h

theorem replaceLines_eq (start stop : Int) (line : Text) (w : Workspace) :
    replaceLines start stop line w = settled w (w.document.replaceLines start stop line)
      (fun edited => { w with document := edited }) fun _ => () := by
  show (ofResult (w.document.replaceLines start stop line) >>= _ : Action Unit) w = _
  cases w.document.replaceLines start stop line with
  | ok edited => rfl
  | error e => rfl

theorem write_eq (target : Outlet) (t : Text) (w : Workspace) :
    write target t w = settled w (w.clipboards.write target t)
      (fun written => { w with clipboards := written }) fun _ => () := by
  show (ofResult (w.clipboards.write target t) >>= _ : Action Unit) w = _
  cases w.clipboards.write target t with
  | ok written => rfl
  | error e => rfl

/-- Edits that succeed one after the other on a document make in the workspace what they make of
it. -/
theorem forM_replaceLines {d edited : Document} {edits : List (Selection × Text)}
    (h : replaceAll d edits = .ok edited) (clipboards : Clipboards) :
    (edits.reverse.forM fun (s, line) => replaceLines s.start s.last line) ⟨d, clipboards⟩ =
      .ok () ⟨edited, clipboards⟩ := by
  unfold replaceAll at h
  induction edits generalizing edited with
  | nil =>
      cases h
      rfl
  | cons edit edits ih =>
      rw [List.foldrM_cons] at h
      cases hbelow : edits.foldrM (fun (s, line) d => d.replaceLines s.start s.last line) d with
      | error e =>
          rw [hbelow] at h
          cases h
      | ok below =>
          rw [hbelow] at h
          have hlast : replaceLines edit.1.start edit.1.last edit.2 ⟨below, clipboards⟩ =
              .ok () ⟨edited, clipboards⟩ := by
            rw [replaceLines_eq]
            show settled _ (below.replaceLines _ _ _) _ _ = _
            rw [show below.replaceLines edit.1.start edit.1.last edit.2 = .ok edited from h]
            rfl
          rw [List.reverse_cons, List.forM_eq_forM, List.forM_append, ← List.forM_eq_forM,
            bind_of_ok (ih hbelow)]
          exact bind_of_ok hlast

/-- Joining in place edits the document as the command on documents says, or changes nothing. -/
theorem join_eq (R : RuleSet) (selections : List Selection) (w : Workspace) :
    join R selections w = settled w (joinLines R w.document selections)
      (fun result => { w with document := result.1 }) Prod.snd := by
  have hjoin : join R selections w = (do
      let joined ← ofResult (joinedLines R w.document (partition w.document selections).accepted)
      ((partition w.document selections).accepted.zip joined).reverse.forM
        fun (s, line) => replaceLines s.start s.last line
      return ⟨joined, (partition w.document selections).skipped⟩ : Action Report) w := rfl
  rw [hjoin, joinLines_eq]
  cases hjoined : joinedLines R w.document (partition w.document selections).accepted with
  | error e => rfl
  | ok joined =>
      obtain ⟨edited, hedited⟩ := exists_replaceAll hjoined
      refine (bind_of_ok (forM_replaceLines hedited w.clipboards)).trans ?_
      show _ = settled w (replaceAll _ _ >>= _) _ _
      rw [hedited]
      rfl

/-- Joining onto a clipboard writes as the command on documents says, or changes nothing. -/
theorem joinToClipboard_eq (R : RuleSet) (selections : List Selection) (target : Option Outlet)
    (w : Workspace) :
    joinToClipboard R selections target w =
      settled w (LineJoin.joinToClipboard R w.document selections target w.clipboards)
        (fun result => { w with clipboards := result.1 }) Prod.snd := by
  have hcopy : joinToClipboard R selections target w = (do
      let joined ← ofResult (joinedLines R w.document (partition w.document selections).accepted)
      unless joined.isEmpty do
        target.elim (throw .noClipboard)
          fun target => write target (w.document.newline.intercalate joined)
      return ⟨joined, (partition w.document selections).skipped⟩ : Action Report) w := by
    cases target <;> rfl
  rw [hcopy, LineJoin.joinToClipboard_eq]
  cases joinedLines R w.document (partition w.document selections).accepted with
  | error e => rfl
  | ok joined =>
      cases joined with
      | nil => rfl
      | cons line lines =>
          cases target with
          | none => rfl
          | some target =>
              have hwrite := write_eq target (w.document.newline.intercalate (line :: lines)) w
              show (write target _ >>= _ : Action Report) w =
                settled w (w.clipboards.write target _ >>= _) _ _
              cases hwritten : w.clipboards.write target
                  (w.document.newline.intercalate (line :: lines)) with
              | error e =>
                  rw [hwritten] at hwrite
                  exact bind_of_error hwrite
              | ok written =>
                  rw [hwritten] at hwrite
                  exact bind_of_ok hwrite

end Action

/-! ## What a step can do -/

/-- The result of a command on documents, with selections and rules as they are given. -/
def withSpans {α : Type} (spans : List Span) (choice : RuleSet.Choice)
    (command : RuleSet → List Selection → Except Error α) : Except Error α := do
  let selections ← spans.mapM Span.selection
  let R ← choice.ruleSet
  command R selections

/-- The given spans joined in place. -/
def joinSpans (spans : List Span) (choice : RuleSet.Choice) (d : Document) :
    Except Error (Document × Report) :=
  withSpans spans choice fun R selections => joinLines R d selections

/-- A join onto a clipboard, as a step asks for it. -/
structure Copy where
  spans : List Span
  target : Option Outlet
  choice : RuleSet.Choice

/-- The clipboards after a join onto one of them, with the report. -/
def Copy.result (copy : Copy) (w : Workspace) : Except Error (Clipboards × Report) :=
  withSpans copy.spans copy.choice fun R selections =>
    joinToClipboard R w.document selections copy.target w.clipboards

section Spans

variable {α : Type} {spans : List Span} {choice : RuleSet.Choice}

theorem withSpans_of_ok {command : RuleSet → List Selection → Except Error α} {a : α}
    (h : withSpans spans choice command = .ok a) :
    ∃ selections R, spans.mapM Span.selection = .ok selections ∧ choice.ruleSet = .ok R ∧
      command R selections = .ok a := by
  unfold withSpans at h
  cases hselections : spans.mapM Span.selection with
  | error e =>
      rw [hselections] at h
      cases h
  | ok selections =>
      cases hR : choice.ruleSet with
      | error e =>
          rw [hselections, hR] at h
          cases h
      | ok R =>
          rw [hselections, hR] at h
          exact ⟨selections, R, rfl, rfl, h⟩

/-- A command that does all or nothing still does so when its selections are checked and its rules
are chosen before it. -/
theorem carryOut_eq {w : Workspace} {action : RuleSet → List Selection → Action Report}
    {command : RuleSet → List Selection → Except Error α} {after : α → Workspace}
    {report : α → Report}
    (h : ∀ R selections, action R selections w =
      Action.settled w (command R selections) after report) :
    carryOut spans choice action w =
      Action.settled w (withSpans spans choice command) after fun a => .report (report a) := by
  unfold carryOut withSpans
  cases spans.mapM Span.selection with
  | error e => rfl
  | ok selections =>
      cases choice.ruleSet with
      | error e => rfl
      | ok R => exact Action.bind_pure_of_settled (h R selections) Answer.report

end Spans

namespace Step

/-- What a step does to a document, if it is one of those that edit. -/
def edit? : Step → Option (Document → Except Error Document)
  | replaceLines start stop line => some fun d => d.replaceLines start stop line
  | join spans choice => some fun d => (joinSpans spans choice d).map Prod.fst
  | run id spans _ choice =>
    if Command.ofId? id = some .join then some fun d => (joinSpans spans choice d).map Prod.fst
    else none
  | _ => none

/-- What a step puts onto a clipboard, if it is one of those that do. A command that is run by its
identifier has to be given a clipboard. -/
def copy? : Step → Option Copy
  | joinToClipboard spans target choice => some ⟨spans, target, choice⟩
  | run id spans (some target) choice =>
    if Command.ofId? id = some .joinToClipboard then some ⟨spans, some target, choice⟩ else none
  | _ => none

/-- All that a step can do in a workspace. -/
inductive Does (step : Step) (w : Workspace) : EStateM.Result Error Workspace Answer → Prop
  /-- It fails as its edit or its join does, and changes nothing. -/
  | fails (e : Error) : (∀ edit, step.edit? = some edit → edit w.document = .error e) →
      (∀ copy, step.copy? = some copy → copy.result w = .error e) → Does step w (.error e w)
  /-- It asks something, and changes nothing. -/
  | asks (answer : Answer) : step.edit? = none → step.copy? = none → Does step w (.ok answer w)
  /-- It edits the document. -/
  | edits {edit : Document → Except Error Document} {edited : Document} (answer : Answer) :
      step.edit? = some edit → step.copy? = none → edit w.document = .ok edited →
      Does step w (.ok answer { w with document := edited })
  /-- It joins onto a clipboard. -/
  | copies {copy : Copy} {written : Clipboards} {report : Report} :
      step.edit? = none → step.copy? = some copy → copy.result w = .ok (written, report) →
      Does step w (.ok (.report report) { w with clipboards := written })

variable {step : Step} {w : Workspace} {spans : List Span} {choice : RuleSet.Choice}

/-- A step that neither edits nor copies may fail for any reason. -/
theorem does_error (hedit : step.edit? = none) (hcopy : step.copy? = none) (e : Error) :
    step.Does w (.error e w) :=
  .fails e (fun _ h => nomatch hedit.symm.trans h) fun _ h => nomatch hcopy.symm.trans h

theorem does_edit {α : Type} {edit : Document → Except Error Document}
    (hedit : step.edit? = some edit) (hcopy : step.copy? = none) {result : Except Error α}
    {edited : α → Document} {answer : α → Answer}
    (h : edit w.document = result.map edited) :
    step.Does w
      (Action.settled w result (fun a => { w with document := edited a }) answer) := by
  cases result with
  | error e =>
      refine .fails e ?_ fun _ h => nomatch hcopy.symm.trans h
      intro edit' h'
      rw [hedit] at h'
      cases h'
      exact h
  | ok a => exact .edits (answer a) hedit hcopy h

theorem does_join (hedit : step.edit? = some fun d => (joinSpans spans choice d).map Prod.fst)
    (hcopy : step.copy? = none) : step.Does w (carryOut spans choice Action.join w) := by
  rw [carryOut_eq fun R selections => Action.join_eq R selections w]
  exact does_edit hedit hcopy rfl

theorem does_joinToClipboard {target : Option Outlet} (hedit : step.edit? = none)
    (hcopy : step.copy? = some ⟨spans, target, choice⟩) :
    step.Does w (carryOut spans choice
      (fun R selections => Action.joinToClipboard R selections target) w) := by
  rw [carryOut_eq fun R selections => Action.joinToClipboard_eq R selections target w]
  show step.Does w (Action.settled w (Copy.result ⟨spans, target, choice⟩ w) _ _)
  cases hresult : Copy.result ⟨spans, target, choice⟩ w with
  | error e =>
      refine .fails e (fun _ h => nomatch hedit.symm.trans h) ?_
      intro copy h
      rw [hcopy] at h
      cases h
      exact hresult
  | ok result => exact .copies hedit hcopy hresult

/-- A command that is refused by its identifier fails. -/
theorem does_refused (hedit : step.edit? = none) (hcopy : step.copy? = none) (e : Error) :
    step.Does w (carryOut spans choice (fun _ _ => throw e) w) := by
  unfold carryOut
  cases spans.mapM Span.selection with
  | error e => exact does_error hedit hcopy e
  | ok selections =>
      cases choice.ruleSet with
      | error e => exact does_error hedit hcopy e
      | ok R => exact does_error hedit hcopy e

/-- Every step does one of these. -/
theorem does (step : Step) (w : Workspace) : step.Does w (step.perform w) := by
  cases step with
  | lineAt index =>
      show Does _ w ((Action.ofResult (w.document.lineAt index) >>= _ : Action Answer) w)
      cases w.document.lineAt index with
      | error e => exact does_error rfl rfl e
      | ok line => exact .asks _ rfl rfl
  | replaceLines start stop line =>
      have hreplace := Action.bind_pure_of_settled (Action.replaceLines_eq start stop line w)
        fun _ => Answer.done
      show Does _ w ((Action.replaceLines start stop line >>= _ : Action Answer) w)
      rw [hreplace]
      exact does_edit rfl rfl (by cases w.document.replaceLines start stop line <;> rfl)
  | linesFor span =>
      show Does _ w ((Action.ofResult span.selection >>= _ : Action Answer) w)
      cases span.selection with
      | error e => exact does_error rfl rfl e
      | ok s =>
          show Does _ w ((Action.ofResult (w.document.linesFor s) >>= _ : Action Answer) w)
          cases w.document.linesFor s with
          | error e => exact does_error rfl rfl e
          | ok lines => exact .asks _ rfl rfl
  | endsOnLastLine span =>
      show Does _ w ((Action.ofResult span.selection >>= _ : Action Answer) w)
      cases span.selection with
      | error e => exact does_error rfl rfl e
      | ok s => exact .asks _ rfl rfl
  | join spans choice => exact does_join rfl rfl
  | joinToClipboard spans target choice => exact does_joinToClipboard rfl rfl
  | run id spans target choice =>
      cases hid : Command.ofId? id with
      | none =>
          simp only [perform, Action.run, hid]
          exact does_refused (by simp [edit?, hid]) (by cases target <;> simp [copy?, hid]) _
      | some command =>
          cases command with
          | join =>
              simp only [perform, Action.run, hid]
              exact does_join (by simp [edit?, hid]) (by cases target <;> simp [copy?, hid])
          | joinToClipboard =>
              cases target with
              | none =>
                  simp only [perform, Action.run, hid]
                  exact does_refused (by simp [edit?, hid]) rfl _
              | some target =>
                  simp only [perform, Action.run, hid]
                  exact does_joinToClipboard (by simp [edit?, hid]) (by simp [copy?, hid])

/-- What a step that gave an answer changed, from a workspace to the one after it. -/
structure Changes (step : Step) (w : Workspace) (answer : Except Error Answer) (after : Workspace) :
    Prop where
  /-- A step that fails changes nothing; one that edits or copies fails only if its edit or its join
  does. -/
  of_error {e : Error} : answer = .error e → after = w ∧
    (∀ edit, step.edit? = some edit → edit w.document = .error e) ∧
    ∀ copy, step.copy? = some copy → copy.result w = .error e
  /-- A step that edits makes its edit. -/
  of_edit {a : Answer} {edit : Document → Except Error Document} : answer = .ok a →
    step.edit? = some edit → edit w.document = .ok after.document
  /-- No other step changes the document. -/
  document_eq : step.edit? = none → after.document = w.document
  /-- A join onto a clipboard keeps the document and joins the accepted selections from the top; it
  writes nothing if there are none, and writes the joined lines once if there are any. -/
  of_copy {a : Answer} {copy : Copy} : answer = .ok a → step.copy? = some copy →
    ∃ (selections : List Selection) (R : RuleSet) (report : Report),
      copy.spans.mapM Span.selection = .ok selections ∧ copy.choice.ruleSet = .ok R ∧
      a = .report report ∧ after.document = w.document ∧
      (partition w.document selections).accepted.Pairwise (fun s t => s.last < t.start) ∧
      joinedLines R w.document (partition w.document selections).accepted = .ok report.joined ∧
      ((partition w.document selections).accepted = [] → after.clipboards = w.clipboards) ∧
      ((partition w.document selections).accepted ≠ [] → ∃ target, copy.target = some target ∧
        w.clipboards.write target (w.document.newline.intercalate report.joined) =
          .ok after.clipboards)
  /-- No other step changes the clipboards. -/
  clipboards_eq : step.copy? = none → after.clipboards = w.clipboards

theorem changes (step : Step) (w : Workspace) : step.Changes w (step.answer w) (step.after w) := by
  have hdoes := step.does w
  unfold answer after
  generalize step.perform w = result at hdoes
  cases hdoes with
  | fails e hedit hcopy =>
      refine ⟨?_, nofun, fun _ => rfl, nofun, fun _ => rfl⟩
      intro _ h
      cases h
      exact ⟨rfl, hedit, hcopy⟩
  | asks a hedit hcopy =>
      exact ⟨nofun, fun _ h => (nomatch hedit.symm.trans h), fun _ => rfl,
        fun _ h => (nomatch hcopy.symm.trans h), fun _ => rfl⟩
  | edits a hedit hcopy hedited =>
      refine ⟨nofun, ?_, fun h => (nomatch hedit.symm.trans h),
        fun _ h => (nomatch hcopy.symm.trans h), fun _ => rfl⟩
      intro _ _ _ h
      rw [hedit] at h
      cases h
      exact hedited
  | copies hedit hcopy hresult =>
      refine ⟨nofun, fun _ h => (nomatch hedit.symm.trans h), fun _ => rfl, ?_,
        fun h => (nomatch hcopy.symm.trans h)⟩
      intro _ _ ha h
      rw [hcopy] at h
      cases h
      cases ha
      obtain ⟨selections, R, hselections, hR, hwritten⟩ := withSpans_of_ok hresult
      obtain ⟨hjoined, hnone, hsome, -⟩ := joinToClipboard_of_ok hwritten
      exact ⟨selections, R, _, hselections, hR, rfl, rfl, (partition_apart _ _).ordered, hjoined,
        hnone, hsome⟩

/-! ## What a session leaves behind -/

/-- The edit that a step made, to judge by its answer. -/
def made (step : Step) : Except Error Answer → List (Document → Except Error Document)
  | .ok _ => step.edit?.toList
  | .error _ => []

/-- The text that a step wrote and the clipboard that received it, to judge by its answer and by the
line break of the document. -/
def wrote (step : Step) (newline : Text) (answer : Except Error Answer) : List (Clipboard × Text) :=
  match step.copy? with
  | none => []
  | some copy =>
    match answer with
    | .ok (.report ⟨line :: lines, _⟩) =>
      copy.target.toList.map fun target => (target.clipboard, newline.intercalate (line :: lines))
    | _ => []

namespace Changes

variable {answer : Except Error Answer} {after : Workspace}

theorem foldlM_made (h : step.Changes w answer after) :
    (step.made answer).foldlM (fun d edit => edit d) w.document = .ok after.document := by
  cases answer with
  | error e =>
      rw [(h.of_error rfl).1]
      rfl
  | ok a =>
      unfold made
      cases hedit : step.edit? with
      | none =>
          rw [h.document_eq hedit]
          rfl
      | some edit =>
          show edit w.document >>= _ = _
          rw [h.of_edit rfl hedit]
          rfl

theorem foldl_wrote (h : step.Changes w answer after) :
    (step.wrote after.document.newline answer).foldl (fun cs (target, t) => cs.receive target t)
      w.clipboards = after.clipboards := by
  unfold wrote
  cases hcopy : step.copy? with
  | none =>
      rw [h.clipboards_eq hcopy]
      rfl
  | some copy =>
      cases answer with
      | error e =>
          rw [(h.of_error rfl).1]
          rfl
      | ok a =>
          obtain ⟨selections, R, ⟨joined, skipped⟩, -, -, rfl, hdocument, -, hjoined, hnone,
            hsome⟩ :=
            h.of_copy rfl hcopy
          have hnil := joinedLines_eq_nil_iff hjoined
          cases joined with
          | nil =>
              rw [hnone (hnil.mp rfl)]
              rfl
          | cons line lines =>
              have hne := mt hnil.mpr (List.cons_ne_nil line lines)
              obtain ⟨target, htarget, hwritten⟩ := hsome hne
              show List.foldl _ _ (copy.target.toList.map _) = _
              rw [htarget, hdocument]
              exact (Clipboards.eq_receive_of_write hwritten).symm

end Changes

end Step

namespace Session

/-- The workspace after a session. -/
def final (w : Workspace) (steps : List Step) : Workspace :=
  ((runSteps w steps).getLast?.map Prod.snd).getD w

/-- The edits of the steps that did not fail, in order. -/
def edits (w : Workspace) (steps : List Step) : List (Document → Except Error Document) :=
  (steps.zip (runSteps w steps)).flatMap fun (step, answer, _) => step.made answer

/-- The texts of the clipboard steps that did not fail, in order, each with its clipboard. -/
def writes (w : Workspace) (steps : List Step) : List (Clipboard × Text) :=
  (steps.zip (runSteps w steps)).flatMap fun (step, answer, after) =>
    step.wrote after.document.newline answer

/-- The texts that one clipboard received. -/
def textsTo (target : Clipboard) (writes : List (Clipboard × Text)) : List Text :=
  (writes.filter (·.1 = target)).map (·.2)

variable (w : Workspace) (step : Step) (steps : List Step)

theorem final_cons : final w (step :: steps) = final (step.after w) steps := by
  show (((_ :: runSteps (step.after w) steps).getLast?).map Prod.snd).getD w = _
  unfold final
  rw [List.getLast?_cons]
  cases (runSteps (step.after w) steps).getLast? with
  | none => rfl
  | some last => rfl

theorem edits_cons : edits w (step :: steps) =
    step.made (step.answer w) ++ edits (step.after w) steps := rfl

theorem writes_cons : writes w (step :: steps) =
    step.wrote (step.after w).document.newline (step.answer w) ++ writes (step.after w) steps := rfl

/-- The edits of a session make the document that it leaves behind. -/
theorem foldlM_edits :
    (edits w steps).foldlM (fun d edit => edit d) w.document = .ok (final w steps).document := by
  induction steps generalizing w with
  | nil => rfl
  | cons step steps ih =>
      rw [final_cons, edits_cons, List.foldlM_append, (step.changes w).foldlM_made]
      exact ih (step.after w)

/-- The writes of a session make the clipboards that it leaves behind. -/
theorem foldl_writes :
    (writes w steps).foldl (fun cs (target, t) => cs.receive target t) w.clipboards =
      (final w steps).clipboards := by
  induction steps generalizing w with
  | nil => rfl
  | cons step steps ih =>
      rw [final_cons, writes_cons, List.foldl_append, (step.changes w).foldl_wrote]
      exact ih (step.after w)

@[simp]
theorem textsTo_cons (target c : Clipboard) (t : Text) (writes : List (Clipboard × Text)) :
    textsTo target ((c, t) :: writes) =
      if c = target then t :: textsTo target writes else textsTo target writes := by
  unfold textsTo
  rw [List.filter_cons]
  split <;> simp_all

/-- What each clipboard holds after some texts were received. -/
theorem foldl_receive (cs : Clipboards) (writes : List (Clipboard × Text)) :
    writes.foldl (fun cs (target, t) => cs.receive target t) cs =
      { memory := (textsTo .memory writes).getLast?.or cs.memory
        stream := cs.stream ++ (textsTo .stream writes).flatMap (· ++ ['\n'])
        system := cs.system ++ textsTo .system writes } := by
  induction writes generalizing cs with
  | nil => simp [textsTo]
  | cons write writes ih =>
      obtain ⟨target, t⟩ := write
      rw [List.foldl_cons, ih]
      cases target with
      | memory =>
          simp only [textsTo_cons, if_true, reduceCtorEq, if_false, List.getLast?_cons]
          cases (textsTo .memory writes).getLast? <;> rfl
      | stream =>
          simp [Clipboards.receive, textsTo_cons]
      | system =>
          simp [Clipboards.receive, textsTo_cons]

/-- A step of a session starts from what the steps before it left behind. -/
theorem runSteps_append_cons (before after : List Step) :
    (runSteps w (before ++ step :: after))[before.length]? =
      some (step.answer (final w before), step.after (final w before)) := by
  induction before generalizing w with
  | nil => rfl
  | cons first before ih =>
      rw [final_cons]
      exact ih (first.after w)

end Session

/-- For every workspace and every session, whatever its steps ask for. The document at the end is
what the edits of the steps that did not fail make of the first one, in order; every step changed
what `Step.Changes` says and nothing else, so one that failed, as it does only when its edit or its
join fails, changed nothing; and the clipboards hold the texts that the successful steps wrote:
memory the last of them, the stream all of them with a line feed after each, the system clipboard
all of them in order. -/
theorem session_changes (w : Workspace) (steps : List Step) :
    (Session.edits w steps).foldlM (fun d edit => edit d) w.document =
      .ok (Session.final w steps).document ∧
    (∀ before step after, steps = before ++ step :: after → ∃ answer left,
      (runSteps w steps)[before.length]? = some (answer, left) ∧
      step.Changes (Session.final w before) answer left) ∧
    (Session.final w steps).clipboards.memory =
      (Session.textsTo .memory (Session.writes w steps)).getLast?.or w.clipboards.memory ∧
    (Session.final w steps).clipboards.stream = w.clipboards.stream ++
      (Session.textsTo .stream (Session.writes w steps)).flatMap (· ++ ['\n']) ∧
    (Session.final w steps).clipboards.system =
      w.clipboards.system ++ Session.textsTo .system (Session.writes w steps) := by
  have hclipboards := (Session.foldl_writes w steps).symm.trans (Session.foldl_receive _ _)
  refine ⟨Session.foldlM_edits w steps, ?_, by rw [hclipboards], by rw [hclipboards],
    by rw [hclipboards]⟩
  intro before step after hsteps
  subst hsteps
  exact ⟨_, _, Session.runSteps_append_cons w step before after, step.changes _⟩

-- the system clipboard refuses one text and takes the next
example : (runSteps
    { document := ⟨["f(".toList, "x".toList, ")".toList, "y".toList], ['\n'], true⟩ }
    [.joinToClipboard [(0, 1)] (some ⟨.system, some "busy".toList⟩) {},
      .joinToClipboard [(0, 1), (3, 3)] (some ⟨.system, none⟩) {},
      .join [(0, 1), (2, 1)] {},
      .run "context-join.join".toList [(0, 1)] none {},
      .joinToClipboard [(0, 0)] none {}]).map (·.2) =
    [⟨⟨["f(".toList, "x".toList, ")".toList, "y".toList], ['\n'], true⟩, {}⟩,
      ⟨⟨["f(".toList, "x".toList, ")".toList, "y".toList], ['\n'], true⟩,
        { system := ["f(x".toList] }⟩,
      ⟨⟨["f(".toList, "x".toList, ")".toList, "y".toList], ['\n'], true⟩,
        { system := ["f(x".toList] }⟩,
      ⟨⟨["f(x".toList, ")".toList, "y".toList], ['\n'], true⟩, { system := ["f(x".toList] }⟩,
      ⟨⟨["f(x".toList, ")".toList, "y".toList], ['\n'], true⟩, { system := ["f(x".toList] }⟩] := by
  cbv

end LineJoin
