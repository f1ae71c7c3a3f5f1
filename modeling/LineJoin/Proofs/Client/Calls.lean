import LineJoin.Proofs.Service.Requests
import LineJoin.Client

/-!
# Calls that reach the service

A client whose base address has a scheme and nothing after its authority sends each call to the
endpoint that it is for. When the service itself answers, a call gives what its parts give when they
are joined here, and an unknown language gives a service error with status 400 and the same words.
-/

namespace LineJoin

namespace Url

/-! ## Addresses of the service -/

theorem scheme_of_withAuthority {u u' : Url} {t : Text} (h : withAuthority u t = .ok u') :
    u'.scheme = u.scheme := by
  unfold withAuthority at h
  simp only at h
  cases hhost : readHost (takeHost ((splitLast '@' t).getD ([], t)).2).1 with
  | error fault =>
      rw [hhost] at h
      cases h
  | ok host =>
      cases hport : readPort u.scheme (takeHost ((splitLast '@' t).getD ([], t)).2).2 with
      | error fault =>
          rw [hhost, hport] at h
          cases h
      | ok port =>
          rw [hhost, hport] at h
          cases h
          rfl

theorem scheme_of_withRest {u u' : Url} {t : Text} (h : withRest u t = .ok u') :
    u'.scheme = u.scheme := by
  unfold withRest at h
  simp only at h
  split at h
  · cases h
  · cases h
    rfl

theorem scheme_of_read {t : Text} {u : Url} (h : read t = .ok u) :
    u.scheme = Text.lower (takeScheme t).1 := by
  unfold read at h
  split at h
  · cases h
  · split at h
    · cases h
    · cases hauthority : withAuthority { scheme := Text.lower (takeScheme t).1 }
          (takeAuthority (takeScheme t).2).1 with
      | error fault =>
          simp only at h
          rw [hauthority] at h
          cases h
      | ok u' =>
          simp only at h
          rw [hauthority] at h
          rw [scheme_of_withRest h, scheme_of_withAuthority hauthority]

theorem isSchemeChar_of_mem_takeScheme {t : Text} {c : Char} (h : c ∈ (takeScheme t).1) :
    isSchemeChar c = true := by
  unfold takeScheme at h
  simp only at h
  split at h
  · cases h
  · split at h
    · exact List.mem_takeWhile_imp h
    · cases h
  · cases h

/-- A scheme holds neither a colon nor a slash. -/
theorem ne_of_mem_scheme {t : Text} {u : Url} (h : read t = .ok u) {c : Char} (hc : c ∈ u.scheme) :
    c ≠ ':' ∧ c ≠ '/' := by
  rw [scheme_of_read h] at hc
  obtain ⟨d, hd, rfl⟩ := List.mem_map.mp hc
  have hscheme := isSchemeChar_of_mem_takeScheme hd
  have hletter : ∀ n < 0x5B, 0x41 ≤ n →
      Char.ofNat (n + 0x20) ≠ ':' ∧ Char.ofNat (n + 0x20) ≠ '/' := by decide
  unfold Text.lowerChar
  split
  · decide
  · split
    · next h => exact hletter d.toNat (by omega) h.1
    · constructor <;> rintro rfl <;> exact absurd hscheme (by decide)

/-- An address with a scheme and nothing after its authority. -/
structure IsRoot (u : Url) : Prop where
  scheme_ne_nil : u.scheme ≠ []
  target_eq : u.target = ['/']

namespace IsRoot

variable {u : Url}

theorem asBase (h : u.IsRoot) : u.asBase = u := by
  unfold Url.asBase
  rw [h.target_eq]
  exact if_pos rfl

/-- Under such an address an endpoint is at its own path. -/
theorem resolve_endpoint (h : u.IsRoot) (e : Service.Endpoint) :
    u.resolve { path := e.path.toList } = { u with path := e.path.toList, query := none } := by
  have htarget : u.target ++ (({ path := e.path.toList } : Url).target.dropWhile (· == '/')) =
      e.path.toList := by
    rw [h.target_eq]
    cases e <;> rfl
  have hquery : Text.splitFirst '?' e.path.toList = none := by cases e <;> cbv
  have hpath : u.normalPath e.path.toList = e.path.toList := by
    have hscheme : u.scheme.isEmpty = false := by simpa using h.scheme_ne_nil
    unfold normalPath
    rw [hscheme, Bool.false_and, if_neg (by simp)]
    cases e <;> cbv
  show u.withTarget _ = _
  rw [htarget]
  unfold withTarget
  rw [hquery]
  simp only [hpath]

theorem servicePath_endpoint (u : Url) (e : Service.Endpoint) (query : Option Text) :
    servicePath { u with path := e.path.toList, query := query } = e.path.toList := by
  cases e <;> cbv

/-- The text of such an address starts with its scheme. -/
theorem namesScheme_toText {t : Text} {u : Url} (hread : read t = .ok u) (h : u.IsRoot)
    (path : Text) : Client.namesScheme (toText { u with path := path, query := none }) = true := by
  obtain ⟨c, scheme, hscheme⟩ := List.exists_cons_of_ne_nil h.scheme_ne_nil
  have hkeep : ∀ d ∈ u.scheme, (d != '/' && d != ':') = true := by
    intro d hd
    have := ne_of_mem_scheme hread hd
    simp [this]
  have htext : ∃ rest, toText { u with path := path, query := none } = u.scheme ++ ':' :: rest := by
    unfold toText
    rw [if_neg (by simpa using h.scheme_ne_nil)]
    simp only [List.append_assoc, List.singleton_append]
    exact ⟨_, rfl⟩
  obtain ⟨rest, hrest⟩ := htext
  unfold Client.namesScheme
  rw [hrest, List.dropWhile_append_of_pos hkeep]
  have hc := hkeep c (by rw [hscheme]; exact List.mem_cons_self)
  rw [hscheme]
  simp_all

end IsRoot

end Url

namespace Client

/-! ## Requests -/

/-- What a reply of the service means. -/
def meaning (depth : Nat) (reply : Service.Reply) : Except Error Json :=
  interpret depth (.reply reply.status reply.text)

theorem meaning_success {depth : Nat} {value : Json} (h : Json.read depth value.print = .ok value) :
    meaning depth (.success value) = .ok value := by
  show (Json.read depth value.print).mapError Error.notJson = _
  rw [h]
  rfl

theorem meaning_failure {depth : Nat} (hdepth : 3 ≤ depth) {status : Nat} (hstatus : 400 ≤ status)
    (message : Text) :
    meaning depth (.failure status message) = .error (.service status message) := by
  have hdetail : detailOf depth (Service.Reply.failure status message).text =
      .ok (.text message) := by
    unfold detailOf
    rw [show Json.read depth (Service.Reply.failure status message).text =
      .ok (.object [("detail", .str message)]) from Service.read_detail hdepth message]
    rfl
  show (if 400 ≤ status then _ else _) = _
  rw [if_pos hstatus, hdetail]
  rfl

/-- A client at the root of the service, before it is opened, that has room for the JSON of the
service. -/
structure Reaches (c : Client) (root : Url) : Prop where
  base : Url.read c.base = .ok root
  root : root.IsRoot
  transport : c.transport = .service
  depth : 3 ≤ c.depth

section Call

variable {c : Client} {root : Url}

theorem Reaches.enter_eq (h : c.Reaches root) :
    c.enter = (.ok (), { c with opened := some root }) := by
  unfold enter
  rw [h.base]
  simp only [h.root.asBase]

/-- Each call is one request to its endpoint, and gives what the reply means. -/
theorem Reaches.call_eq (h : c.Reaches root) (call : Call) {payload : Json}
    (hpayload : call.payload = .ok (some payload)) :
    ∃ url, namesScheme url = true ∧
      c.enter.2.call call =
        ((meaning c.depth (call.endpoint.reply c.depth payload.print)).bind call.result,
          { c with
            opened := some root
            sent := c.sent ++ [⟨call.endpoint.method, url, some payload,
              some (call.endpoint.reply c.depth payload.print).status⟩] }) := by
  have hnames := Url.IsRoot.namesScheme_toText h.base h.root call.endpoint.path.toList
  refine ⟨_, hnames, ?_⟩
  rw [h.enter_eq]
  unfold Client.call request
  simp only [hpayload, h.root.resolve_endpoint, h.transport, Transport.send,
    Url.IsRoot.servicePath_endpoint, Option.map_some, Option.getD_some, Service.respond_endpoint]
  unfold accept
  simp only [hnames, if_true]
  rfl

end Call

/-! ## Agreement -/

/-- What a call gives agrees with what is computed here: it is the same value if the language is
known, and else a service error with status 400 and the words of the failure. -/
structure Agrees (language : Option Text) (remote : Except Error Json)
    (here : Except LineJoin.Error Json) : Prop where
  known : ∀ R, RuleSet.ofLanguage language = .ok R → ∃ value, here = .ok value ∧ remote = .ok value
  unknown : ∀ e, RuleSet.ofLanguage language = .error e → remote = .error (.service 400 e.message)

/-- A join agrees if its reply is the line that is joined here, or else a bad request. -/
theorem agrees_of_line {depth : Nat} (hdepth : 3 ≤ depth) {language : Option Text}
    {reply : Service.Reply}
    {here : Except LineJoin.Error Text}
    (hknown : ∀ R, RuleSet.ofLanguage language = .ok R → ∃ line, here = .ok line ∧
      reply = .success (.object [("result", .str line), ("language", .str R.name)]))
    (hunknown : ∀ e, RuleSet.ofLanguage language = .error e → reply = .failure 400 e.message) :
    Agrees language ((meaning depth reply).bind (fieldOf "result")) (here.map .str) where
  known := by
    intro R hR
    obtain ⟨line, rfl, rfl⟩ := hknown R hR
    refine ⟨.str line, rfl, ?_⟩
    rw [meaning_success (Service.read_result hdepth line R.name)]
    rfl
  unknown := by
    intro e he
    rw [hunknown e he, meaning_failure hdepth (Nat.le_refl 400)]
    rfl

/-- The text, the joined lines and the skipped selections of an edit that is made here. -/
def localEdit (language : Option Text) (t : Text) (selections : List Selection) :
    Except LineJoin.Error Json := do
  let R ← RuleSet.ofLanguage language
  let (d, report) ← joinLines R (Document.ofText t) selections
  return .object [("text", .str d.toText), ("joined", .array (report.joined.map .str)),
    ("skipped", .array (report.skipped.map fun s =>
      .object [("start_line", .int s.start), ("end_line", .int s.stop)]))]

namespace Reaches

variable {c : Client} {root : Url}

theorem joinLines_agrees (h : c.Reaches root) {lines : List Text} (hlines : lines ≠ [])
    (language : Option Text) :
    Agrees language (c.enter.2.call (.joinLines (.texts lines) (.ofText? language))).1
      ((joinAll lines none language).map .str) := by
  obtain ⟨url, _, hcall⟩ := h.call_eq (.joinLines (.texts lines) (.ofText? language)) rfl
  have hreply := Service.reply_join h.depth hlines language
  rw [hcall]
  show Agrees language ((meaning c.depth (Service.Endpoint.join.reply c.depth (Json.object
    [("lines", .texts lines), ("language", .ofText? language)]).print)).bind (fieldOf "result")) _
  rw [hreply]
  exact agrees_of_line h.depth (fun R hR => Service.join_of_rules hR hlines)
    (fun e he => Service.withLanguage_of_error he _)

theorem joinPair_agrees (h : c.Reaches root) (first second : Text) (language : Option Text) :
    Agrees language (c.enter.2.call (.joinPair (.str first) (.str second) (.ofText? language))).1
      ((joinPair first second none language).map .str) := by
  obtain ⟨url, _, hcall⟩ :=
    h.call_eq (.joinPair (.str first) (.str second) (.ofText? language)) rfl
  have hreply := Service.reply_joinPair h.depth first second language
  rw [hcall]
  show Agrees language ((meaning c.depth (Service.Endpoint.joinPair.reply c.depth _)).bind
    (fieldOf "result")) _
  rw [hreply]
  exact agrees_of_line h.depth (fun R hR => Service.joinPair_of_rules hR first second)
    (fun e he => Service.withLanguage_of_error he _)

/-- With a known language a call for an edit gives what the edit made here gives. -/
theorem joinDocument_of_rules (h : c.Reaches root) {language : Option Text} {R : RuleSet}
    (hR : RuleSet.ofLanguage language = .ok R) (t : Text) {selections : List Selection}
    (hselections : selections ≠ [])
    (hlegible : ∀ s ∈ selections, Json.read c.depth (Json.int s.stop).print = .ok (.int s.stop)) :
    ∃ d report sent, joinLines R (Document.ofText t) selections = .ok (d, report) ∧
      namesScheme sent.url = true ∧ sent.status = some 200 ∧
      c.enter.2.call (.joinDocument (.str t) (.array (selections.map Service.selectionJson))
        (.ofText? language)) =
        (.ok (Service.documentJson d report),
          { c with opened := some root, sent := c.sent ++ [sent] }) := by
  obtain ⟨url, hurl, hcall⟩ := h.call_eq (.joinDocument (.str t)
    (.array (selections.map Service.selectionJson)) (.ofText? language)) rfl
  obtain ⟨d, report, hok, hskipped, hanswer⟩ := Service.joinDocument_of_rules hR t selections
  have hread : Json.read c.depth (Service.documentJson d report).print =
      .ok (Service.documentJson d report) := by
    refine Service.read_documentJson h.depth ?_
    rw [hskipped]
    exact fun s hs => hlegible s (Service.mem_of_mem_skipped hs)
  have hreply := (Service.reply_joinDocument h.depth t hselections hlegible language).trans hanswer
  refine ⟨d, report, ⟨"POST", url, some (.object [("text", .str t),
    ("selections", .array (selections.map Service.selectionJson)),
    ("language", .ofText? language)]), some 200⟩, hok, hurl, rfl, hcall.trans ?_⟩
  simp only [Call.endpoint]
  rw [hreply, meaning_success hread]
  rfl

theorem joinDocument_agrees (h : c.Reaches root) (t : Text) {selections : List Selection}
    (hselections : selections ≠ [])
    (hlegible : ∀ s ∈ selections, Json.read c.depth (Json.int s.stop).print = .ok (.int s.stop))
    (language : Option Text) :
    Agrees language (c.enter.2.call (.joinDocument (.str t)
      (.array (selections.map Service.selectionJson)) (.ofText? language))).1
      (localEdit language t selections) where
  known := by
    intro R hR
    obtain ⟨d, report, sent, hok, _, _, hcall⟩ :=
      h.joinDocument_of_rules hR t hselections hlegible
    refine ⟨Service.documentJson d report, ?_, by rw [hcall]⟩
    unfold localEdit
    rw [hR]
    show (joinLines R (Document.ofText t) selections >>= _) = _
    rw [hok]
    rfl
  unknown := by
    intro e he
    obtain ⟨url, _, hcall⟩ := h.call_eq (.joinDocument (.str t)
      (.array (selections.map Service.selectionJson)) (.ofText? language)) rfl
    have hreply := (Service.reply_joinDocument h.depth t hselections hlegible language).trans
      (Service.withLanguage_of_error he _)
    rw [hcall]
    show (meaning c.depth (Service.Endpoint.joinDocument.reply c.depth _)).bind _ = _
    rw [hreply, meaning_failure h.depth (Nat.le_refl 400)]
    rfl

end Reaches

end Client

end LineJoin
