import LineJoin.Proofs.Json.RoundTrip
import LineJoin.Proofs.Command.Greedy
import LineJoin.Proofs.Command.InPlace
import LineJoin.Invocation
import LineJoin.Service.Router

/-!
# Requests that are answered

A request that is made from the parts of a call passes validation and gives these parts back, so
that its endpoint works on what was meant. With a known language every such request succeeds, and
the reply is legible; with an unknown one it is a bad request that says which.
-/

namespace LineJoin

/-! ## Joins that succeed -/

namespace RuleSet

theorem mem_registry_of_ofTag? {tag : Text} {R : RuleSet} (h : ofTag? tag = some R) :
    R ∈ registry :=
  List.mem_of_find?_eq_some h

/-- The rules of a language are registered. -/
theorem mem_registry_of_ofLanguage {language : Option Text} {R : RuleSet}
    (h : ofLanguage language = .ok R) : R ∈ registry := by
  unfold ofLanguage at h
  split at h
  · cases h
    exact List.mem_cons_self
  · cases h
    exact List.mem_cons_self
  · split at h
    · next R' hR' =>
        cases h
        exact mem_registry_of_ofTag? hR'
    · cases h

/-- The scans of a language's rules end. -/
theorem scanEnds_of_ofLanguage {language : Option Text} {R : RuleSet}
    (h : ofLanguage language = .ok R) : R.ScanEnds :=
  (registry_separable (mem_registry_of_ofLanguage h)).scanEnds

end RuleSet

namespace Service

open Checked

/-! ## Validation -/

theorem all_map_ok {α : Type} (xs : List α) : all (xs.map Except.ok) = .ok xs := by
  induction xs with
  | nil => rfl
  | cons x xs ih =>
      show (both (.ok x) (all (xs.map Except.ok))).map _ = _
      rw [ih]
      rfl

/-- A list of values that each pass gives the list of what they give. -/
theorem checkItems_map {α β : Type} {check : List Part → Json → Checked α} {encode : β → Json}
    {value : β → α} (hcheck : ∀ place b, check place (encode b) = .ok (value b)) {bs : List β}
    (hne : bs ≠ []) (place : List Part) :
    checkItems check place (.array (bs.map encode)) = .ok (bs.map value) := by
  have hitems : ((bs.map encode).mapIdx fun index item => check (place ++ [.item index]) item) =
      (bs.map value).map Except.ok := by
    refine List.ext_getElem (by simp) ?_
    intro i hi hi'
    simp [hcheck]
  rw [← all_map_ok (bs.map value), ← hitems]
  obtain ⟨b, rest, rfl⟩ := List.exists_cons_of_ne_nil hne
  rfl

theorem checkString_str (place : List Part) (t : Text) : checkString place (.str t) = .ok t := rfl

theorem checkStringOrNull_ofText? (place : List Part) (t : Option Text) :
    checkStringOrNull place (.ofText? t) = .ok t := by
  cases t <;> rfl

theorem checkLine_int (place : List Part) (n : Nat) : checkLine place (.int n) = .ok n := by
  unfold checkLine checkInteger
  simp only
  rw [if_neg (by omega)]
  rfl

theorem checkSelection_selectionJson (place : List Part) (s : Selection) :
    checkSelection place (selectionJson s) = .ok (s.start, s.stop) := by
  show both (checkLine (place ++ [.field "start_line"]) (.int s.start))
    (checkLine (place ++ [.field "end_line"]) (.int s.stop)) = _
  rw [checkLine_int, checkLine_int]
  rfl

theorem check_join {lines : List Text} (hlines : lines ≠ []) (language : Option Text) :
    JoinRequest.check (.object [("lines", .texts lines), ("language", .ofText? language)]) =
      .ok ⟨lines, language⟩ := by
  show (both (checkItems checkString _ (.array (lines.map .str)))
    (checkStringOrNull _ (.ofText? language))).map _ = _
  rw [checkItems_map checkString_str hlines, checkStringOrNull_ofText?, List.map_id']
  rfl

theorem check_joinPair (first second : Text) (language : Option Text) :
    PairRequest.check (.object [("first", .str first), ("second", .str second),
      ("language", .ofText? language)]) = .ok ⟨first, second, language⟩ := by
  show (both (.ok first) (both (.ok second) (checkStringOrNull _ (.ofText? language)))).map _ = _
  rw [checkStringOrNull_ofText?]
  rfl

theorem check_joinDocument (t : Text) {selections : List Selection} (hselections : selections ≠ [])
    (language : Option Text) :
    DocumentRequest.check (.object [("text", .str t),
      ("selections", .array (selections.map selectionJson)), ("language", .ofText? language)]) =
      .ok ⟨t, selections.map fun s => (s.start, s.stop), language⟩ := by
  show (both (.ok t) (both (checkItems checkSelection _ (.array (selections.map selectionJson)))
    (checkStringOrNull _ (.ofText? language)))).map _ = _
  rw [checkItems_map checkSelection_selectionJson hselections, checkStringOrNull_ofText?]
  rfl

/-! ## Bodies that are legible -/

section Bodies

variable {depth : Nat}

/-- No body nests deeper than an object, a list and an object in it. -/
theorem read_body {names : List Text} (hnodup : names.Nodup) {fields : List (Phrase × Json)}
    (hne : fields ≠ []) (hnames : fields.map (·.1) = names.map .text)
    (h : ∀ f ∈ fields, f.2.Legible 2) (hdepth : 3 ≤ depth) :
    Json.read depth (Json.object fields).print = .ok (.object fields) :=
  Json.read_print_object hnodup hne hnames h hdepth

theorem legible_text (t : Text) : (Json.str t).Legible 2 := (Json.legible_str t).mono (by decide)

theorem legible_language (language : Option Text) : (Json.ofText? language).Legible 2 :=
  (Json.legible_ofText? language).mono (by decide)

theorem legible_texts (ts : List Text) : (Json.texts ts).Legible 2 := by
  refine Json.legible_array ?_
  intro v hv
  obtain ⟨t, _, rfl⟩ := List.mem_map.mp hv
  exact (Json.legible_str t).mono (by decide)

/-- Selections can be read back if their last lines can: a first line has no more digits. -/
theorem legible_selections {selections : List Selection}
    (h : ∀ s ∈ selections, Json.read depth (Json.int s.stop).print = .ok (.int s.stop)) :
    (Json.array (selections.map selectionJson)).Legible 2 := by
  refine Json.legible_array ?_
  intro v hv
  obtain ⟨s, hs, rfl⟩ := List.mem_map.mp hv
  have hstop := (Json.read_print_int_iff depth s.stop).mp (h s hs)
  have hstart := Numeral.length_decimal_mono s.start_le_stop
  have hnodup : ["start_line".toList, "end_line".toList].Nodup := by decide
  refine Json.legible_object hnodup (List.cons_ne_nil _ _) rfl ?_
  intro f hf
  rcases List.mem_pair.mp hf with rfl | rfl
  · exact Json.legible_int (Nat.le_trans hstart hstop)
  · exact Json.legible_int hstop

/-! ## Answers -/

/-- A body that is read and passes validation is answered by its endpoint. -/
theorem withFields_of_read {α : Type} {check : Json → Checked α} {request : α} {body : Text}
    {value : Json} (hread : Json.read depth body = .ok value) (hcheck : check value = .ok request)
    (reply : α → Reply) : withFields check reply depth body = reply request := by
  have hbody : body.isEmpty = false := by
    cases body with
    | nil =>
        have hempty : (Json.read depth []).isOk = false := by cbv
        rw [hread] at hempty
        cases hempty
    | cons c rest => rfl
  unfold withFields
  rw [hbody, hread]
  simp only [hcheck]
  rfl

/-- A request that names an endpoint with its method gets the endpoint's reply. -/
theorem respond_endpoint (e : Endpoint) (depth : Nat) (body : Text) :
    respond depth ⟨e.method.toList, e.path.toList, body⟩ = e.reply depth body := by
  have hmethod : e.method = "GET" ∨ e.method = "POST" := by cases e <;> decide
  have hupper : Text.upper e.method.toList = e.method.toList := by
    rcases hmethod with h | h <;> rw [h] <;> cbv
  have hhead : e.method.toList ≠ "HEAD".toList := by
    rcases hmethod with h | h <;> rw [h] <;> decide
  have hat : Endpoint.at? e.path.toList = some e := by cases e <;> decide
  unfold respond
  simp only [hupper]
  rw [if_neg hhead]
  unfold route
  rw [hat]
  exact if_pos rfl

theorem reply_join (hdepth : 3 ≤ depth) {lines : List Text} (hlines : lines ≠ [])
    (language : Option Text) :
    Endpoint.join.reply depth
      (Json.object [("lines", .texts lines), ("language", .ofText? language)]).print =
      join ⟨lines, language⟩ := by
  have hnodup : ["lines".toList, "language".toList].Nodup := by decide
  refine withFields_of_read ?_ (check_join hlines language) join
  refine read_body hnodup (List.cons_ne_nil _ _) rfl ?_ hdepth
  simp only [List.forall_mem_cons]
  exact ⟨legible_texts lines, legible_language language, by simp⟩

theorem reply_joinPair (hdepth : 3 ≤ depth) (first second : Text) (language : Option Text) :
    Endpoint.joinPair.reply depth (Json.object [("first", .str first), ("second", .str second),
      ("language", .ofText? language)]).print = joinPair ⟨first, second, language⟩ := by
  have hnodup : ["first".toList, "second".toList, "language".toList].Nodup := by decide
  refine withFields_of_read ?_ (check_joinPair first second language) joinPair
  refine read_body hnodup (List.cons_ne_nil _ _) rfl ?_ hdepth
  simp only [List.forall_mem_cons]
  exact ⟨legible_text first, legible_text second, legible_language language, by simp⟩

theorem reply_joinDocument (hdepth : 3 ≤ depth) (t : Text) {selections : List Selection}
    (hselections : selections ≠ [])
    (hlegible : ∀ s ∈ selections, Json.read depth (Json.int s.stop).print = .ok (.int s.stop))
    (language : Option Text) :
    Endpoint.joinDocument.reply depth (Json.object [("text", .str t),
      ("selections", .array (selections.map selectionJson)),
      ("language", .ofText? language)]).print =
      joinDocument ⟨t, selections.map fun s => (s.start, s.stop), language⟩ := by
  have hnodup : ["text".toList, "selections".toList, "language".toList].Nodup := by decide
  refine withFields_of_read ?_ (check_joinDocument t hselections language) joinDocument
  refine read_body hnodup (List.cons_ne_nil _ _) rfl ?_ hdepth
  simp only [List.forall_mem_cons]
  exact ⟨legible_text t, legible_selections hlegible, legible_language language, by simp⟩

end Bodies

/-! ## What the endpoints give -/

section Rules

variable {language : Option Text} {R : RuleSet}

theorem withLanguage_of_ok (hR : RuleSet.ofLanguage language = .ok R) (reply : RuleSet → Reply) :
    withLanguage language reply = reply R := by
  unfold withLanguage
  rw [hR]

theorem withLanguage_of_error {e : Error} (he : RuleSet.ofLanguage language = .error e)
    (reply : RuleSet → Reply) : withLanguage language reply = .failure 400 e.message := by
  unfold withLanguage
  rw [he]

theorem resolveRules_none (language : Option Text) :
    resolveRules none language = RuleSet.ofLanguage language := by
  cases language <;> rfl

theorem join_of_rules (hR : RuleSet.ofLanguage language = .ok R) {lines : List Text}
    (hlines : lines ≠ []) :
    ∃ line, joinAll lines none language = .ok line ∧ join ⟨lines, language⟩ =
      .success (.object [("result", .str line), ("language", .str R.name)]) := by
  obtain ⟨line, hline⟩ := (RuleSet.scanEnds_of_ofLanguage hR).exists_joinAll hlines
  refine ⟨line, ?_, (withLanguage_of_ok hR _).trans (by rw [hline]; rfl)⟩
  unfold joinAll
  rw [if_neg (by simpa using hlines), resolveRules_none, hR]
  exact hline

theorem joinPair_of_rules (hR : RuleSet.ofLanguage language = .ok R) (first second : Text) :
    ∃ line, LineJoin.joinPair first second none language = .ok line ∧
      joinPair ⟨first, second, language⟩ =
        .success (.object [("result", .str line), ("language", .str R.name)]) := by
  obtain ⟨line, hline⟩ := (RuleSet.scanEnds_of_ofLanguage hR).exists_joinPair first second
  refine ⟨line, ?_, (withLanguage_of_ok hR _).trans (by rw [hline]; rfl)⟩
  unfold LineJoin.joinPair
  rw [resolveRules_none, hR]
  exact hline

theorem ofLines_self (s : Selection) : Selection.ofLines s.start s.stop = .ok s := by
  unfold Selection.ofLines
  rw [if_neg (by omega)]
  exact dif_pos s.start_le_stop

/-- The selections of a request are those that were sent. -/
theorem mapM_ofLines (selections : List Selection) :
    (selections.map fun s => (s.start, s.stop)).mapM
      (fun (start, stop) => Selection.ofLines (start : Nat) (stop : Nat)) = .ok selections := by
  induction selections with
  | nil => rfl
  | cons s selections ih =>
      rw [List.map_cons, List.mapM_cons, ih]
      show (Selection.ofLines s.start s.stop >>= _) = _
      rw [ofLines_self]
      rfl

theorem editDocument_eq (R : RuleSet) (t : Text) (selections : List Selection)
    (language : Option Text) :
    editDocument R ⟨t, selections.map fun s => (s.start, s.stop), language⟩ =
      joinLines R (Document.ofText t) selections := by
  unfold editDocument
  rw [mapM_ofLines]
  rfl

theorem joinDocument_of_rules (hR : RuleSet.ofLanguage language = .ok R) (t : Text)
    (selections : List Selection) :
    ∃ d report, joinLines R (Document.ofText t) selections = .ok (d, report) ∧
      report.skipped = (partition (Document.ofText t) selections).skipped ∧
      joinDocument ⟨t, selections.map fun s => (s.start, s.stop), language⟩ =
        .success (documentJson d report) := by
  obtain ⟨joined, _, hok⟩ :=
    (RuleSet.scanEnds_of_ofLanguage hR).exists_joinLines (Document.ofText t) selections
  refine ⟨_, _, hok, rfl, (withLanguage_of_ok hR _).trans ?_⟩
  rw [editDocument_eq, hok]

end Rules

/-- What is skipped was selected. -/
theorem mem_of_mem_skipped {d : Document} {selections : List Selection} {s : Selection}
    (h : s ∈ (partition d selections).skipped) : s ∈ selections :=
  (partition_perm d selections).mem_iff.mp (List.mem_append_right _ h)

section Replies

variable {depth : Nat}

/-- The reply to an edit can be read back if what was asked for can. -/
theorem read_documentJson (hdepth : 3 ≤ depth) {d : Document} {report : Report}
    (h : ∀ s ∈ report.skipped, Json.read depth (Json.int s.stop).print = .ok (.int s.stop)) :
    Json.read depth (documentJson d report).print = .ok (documentJson d report) := by
  have hnodup : ["text".toList, "joined".toList, "skipped".toList].Nodup := by decide
  refine read_body hnodup (List.cons_ne_nil _ _) rfl ?_ hdepth
  simp only [List.forall_mem_cons]
  exact ⟨legible_text _, legible_texts _, legible_selections h, by simp⟩

theorem read_result (hdepth : 3 ≤ depth) (line name : Text) :
    Json.read depth (Json.object [("result", .str line), ("language", .str name)]).print =
      .ok (.object [("result", .str line), ("language", .str name)]) := by
  have hnodup : ["result".toList, "language".toList].Nodup := by decide
  refine read_body hnodup (List.cons_ne_nil _ _) rfl ?_ hdepth
  simp only [List.forall_mem_cons]
  exact ⟨legible_text line, legible_text name, by simp⟩

theorem read_detail (hdepth : 3 ≤ depth) (message : Text) :
    Json.read depth (Json.object [("detail", .str message)]).print =
      .ok (.object [("detail", .str message)]) := by
  have hnodup : ["detail".toList].Nodup := by decide
  refine read_body hnodup (List.cons_ne_nil _ _) rfl ?_ hdepth
  simp only [List.forall_mem_cons]
  exact ⟨legible_text message, by simp⟩

end Replies

end Service

end LineJoin
