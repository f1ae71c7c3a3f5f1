import Mathlib
import LineJoin.Client

/-!
# What a client makes of a reply

A reply that is no success should be an error with its status and the detail that the service gives,
or the whole text if there is none; and only a success should give a value (`KeepsRule`). The client
looks for statuses from 400 on, and does not follow redirects. So the rule holds of successes and of
the statuses from 400 on, and a reply with any other status is taken for a success
(`call_keepsRule_iff`): what it holds becomes the value of the call.

Two more replies break the rule: one whose text nests containers deeper than the client has room for,
of which no detail can be told, and one from an address without a scheme, which is not accepted at
all. How much room there is does not matter to the rest.
-/

namespace LineJoin.Client

/-! ## The rule -/

/-- A status that says that a request was carried out. -/
def IsSuccess (status : Nat) : Prop := 200 ≤ status ∧ status ≤ 299

/-- The message in the text of a failed reply: what it says under `detail` if it is an object that
has this field, and otherwise the text itself. -/
inductive Explains (depth : Nat) (text : Text) : Phrase → Prop
  | detail {fields : List (Phrase × Json)} {value : Json} :
      Json.read depth text = .ok (.object fields) →
      fields.lookup ("detail" : Phrase) = some value → Explains depth text value.asMessage
  | whole :
      (∀ fields, Json.read depth text = .ok (.object fields) →
        fields.lookup ("detail" : Phrase) = none) →
      Explains depth text text

/-- The calls that give a line out of the reply; the others give the reply itself. -/
def Call.GivesLine : Call → Prop
  | .joinLines .. | .joinPair .. => True
  | _ => False

/-- The value that a call finds in the text of a reply. -/
inductive Finds (depth : Nat) (text : Text) : Call → Json → Prop
  | line {call : Call} {fields : List (Phrase × Json)} {value : Json} : call.GivesLine →
      Json.read depth text = .ok (.object fields) →
      fields.lookup ("result" : Phrase) = some value → Finds depth text call value
  | body {call : Call} {value : Json} : ¬ call.GivesLine → Json.read depth text = .ok value →
      Finds depth text call value

/-- The rule for what comes of a call when a reply is delivered to it. -/
structure KeepsRule (depth : Nat) (call : Call) (status : Nat) (text : Text)
    (outcome : Except Error Json) : Prop where
  failure : ¬ IsSuccess status →
    ∃ message, Explains depth text message ∧ outcome = .error (.service status message)
  value : ∀ value, outcome = .ok value → IsSuccess status ∧ Finds depth text call value

/-- What is delivered to a call of an open client, and the address that it comes from. -/
inductive Delivered (c : Client) (call : Call) : Url → Received → Prop
  | sent {base : Url} {payload : Option Json} :
      c.opened = some base → call.payload = .ok payload →
      Delivered c call (base.resolve { path := call.endpoint.path.toList })
        (c.transport.send c.depth ⟨call.endpoint.method.toList,
          (base.resolve { path := call.endpoint.path.toList }).servicePath,
          (payload.map Json.print).getD []⟩).1

/-! ## The text of a reply -/

section Text

variable {depth : Nat} {text : Text} {message : Phrase} {call : Call} {value : Json}

/-- The text of a reply can be read, or what is wrong with it can be told. -/
def Shallow (depth : Nat) (text : Text) : Prop :=
  ∀ container, Json.read depth text ≠ .error (.tooDeep container)

theorem shallow_of_read (h : Json.read depth text = .ok value) : Shallow depth text := by
  intro container hdeep
  rw [h] at hdeep
  cases hdeep

/-- The message of an object is told by its fields. -/
theorem explains_of_object {fields : List (Phrase × Json)}
    (h : Json.read depth text = .ok (.object fields)) :
    Explains depth text (((fields.lookup ("detail" : Phrase)).map Json.asMessage).getD text) := by
  cases hdetail : fields.lookup ("detail" : Phrase) with
  | some value => exact .detail h hdetail
  | none =>
      refine .whole ?_
      intro fields' h'
      rw [h] at h'
      cases h'
      exact hdetail

theorem exists_explains (depth : Nat) (text : Text) : ∃ message, Explains depth text message := by
  by_cases h : ∃ fields, Json.read depth text = .ok (.object fields)
  · obtain ⟨fields, hread⟩ := h
    exact ⟨_, explains_of_object hread⟩
  · exact ⟨text, .whole fun fields hread => absurd ⟨fields, hread⟩ h⟩

theorem detailOf_eq_ok_iff :
    detailOf depth text = .ok message ↔ Explains depth text message ∧ Shallow depth text := by
  unfold detailOf
  constructor
  · intro h
    split at h
    · next fields hread =>
        obtain rfl := Except.ok.inj h
        exact ⟨explains_of_object hread, shallow_of_read hread⟩
    · cases h
    · next hobject hdeep =>
        obtain rfl := Except.ok.inj h
        exact ⟨.whole fun fields hread => absurd hread (hobject fields), hdeep⟩
  · rintro ⟨hexplains, hshallow⟩
    cases hexplains with
    | detail hread hdetail =>
        rw [hread]
        simp only [hdetail]
        rfl
    | whole hnone =>
        split
        · next fields hread =>
            rw [hnone fields hread]
            rfl
        · next container hdeep => exact absurd hdeep (hshallow container)
        · rfl

theorem detailOf_eq_error {e : Error} (h : detailOf depth text = .error e) :
    ∃ fault, e = .notJson fault := by
  unfold detailOf at h
  split at h
  · cases h
  · cases h
    exact ⟨_, rfl⟩
  · cases h

theorem fieldOf_eq_ok_iff {name : String} {body : Json} :
    fieldOf name body = .ok value ↔
      ∃ fields, body = .object fields ∧ fields.lookup (name : Phrase) = some value := by
  cases body with
  | object fields =>
      cases hfield : fields.lookup (name : Phrase) <;> simp [fieldOf, hfield]
  | _ => simp [fieldOf]

/-- What a call takes from a reply that was read is what it finds in the text. -/
theorem exists_result_iff :
    (∃ body, Json.read depth text = .ok body ∧ call.result body = .ok value) ↔
      Finds depth text call value := by
  constructor
  · rintro ⟨body, hread, hresult⟩
    cases call with
    | joinLines | joinPair =>
        obtain ⟨fields, rfl, hfield⟩ := fieldOf_eq_ok_iff.mp hresult
        exact .line trivial hread hfield
    | joinDocument | classify | languages | health =>
        obtain rfl := Except.ok.inj hresult
        exact .body id hread
  · intro h
    cases h with
    | line hline hread hfield =>
        cases call with
        | joinLines | joinPair => exact ⟨_, hread, fieldOf_eq_ok_iff.mpr ⟨_, rfl, hfield⟩⟩
        | joinDocument | classify | languages | health => exact hline.elim
    | body hline hread =>
        cases call with
        | joinLines | joinPair => exact absurd trivial hline
        | joinDocument | classify | languages | health => exact ⟨_, hread, rfl⟩

/-- What a call misses in a reply is never a failure of the service. -/
theorem result_ne_service {body : Json} {status : Nat} :
    call.result body ≠ .error (.service status message) := by
  have hfield : ∀ name, fieldOf name body ≠ .error (.service status message) := by
    intro name
    unfold fieldOf
    split
    · split <;> simp
    · simp
  cases call with
  | joinLines | joinPair => exact hfield "result"
  | joinDocument | classify | languages | health => simp [Call.result]

end Text

/-! ## The reply -/

section Reply

variable {depth : Nat} {url : Url} {status : Nat} {text : Text}

/-- A reply is accepted from an address with a scheme; from 400 on it is a failure, and below that
its text is read. -/
theorem accept_reply (depth : Nat) (url : Url) (status : Nat) (text : Text) :
    accept depth url (.reply status text) =
      if namesScheme url.toText then
        if 400 ≤ status then
          (detailOf depth text).bind fun message => .error (.service status message)
        else (Json.read depth text).mapError .notJson
      else .error (.noScheme
        (if url.toText.getLast? = some '#' then url.toText.dropLast else url.toText)) := rfl

theorem accept_eq_ok_iff {body : Json} :
    accept depth url (.reply status text) = .ok body ↔
      namesScheme url.toText = true ∧ status < 400 ∧ Json.read depth text = .ok body := by
  rw [accept_reply]
  by_cases hscheme : namesScheme url.toText = true
  · by_cases hstatus : 400 ≤ status
    · have hnot : ¬ status < 400 := by omega
      cases hdetail : detailOf depth text <;> simp [hscheme, hstatus, hnot, Except.bind]
    · have hlt : status < 400 := by omega
      cases hread : Json.read depth text <;> simp [hscheme, hstatus, hlt, Except.mapError]
  · simp [hscheme]

theorem accept_eq_service_iff {status' : Nat} {message : Phrase} :
    accept depth url (.reply status text) = .error (.service status' message) ↔
      namesScheme url.toText = true ∧ 400 ≤ status ∧ status = status' ∧
        Explains depth text message ∧ Shallow depth text := by
  rw [accept_reply, ← detailOf_eq_ok_iff]
  by_cases hscheme : namesScheme url.toText = true
  · by_cases hstatus : 400 ≤ status
    · cases hdetail : detailOf depth text with
      | ok detail => simp [hscheme, hstatus, Except.bind]
      | error e =>
          obtain ⟨fault, rfl⟩ := detailOf_eq_error hdetail
          simp [hscheme, hstatus, Except.bind]
    · cases hread : Json.read depth text <;> simp [hscheme, hstatus, Except.mapError]
  · simp [hscheme]

end Reply

section Calls

variable {c : Client} {call : Call} {url : Url} {received : Received} {status : Nat} {text : Text}

/-- A call gives what it takes from the reply that is delivered to it. -/
theorem Delivered.call_eq (h : c.Delivered call url received) :
    (c.call call).1 = (accept c.depth url received).bind call.result := by
  obtain ⟨hopened, hpayload⟩ := h
  unfold Client.call request
  simp only [hopened, hpayload]

theorem Delivered.call_eq_ok_iff (h : c.Delivered call url (.reply status text)) {value : Json} :
    (c.call call).1 = .ok value ↔
      namesScheme url.toText = true ∧ status < 400 ∧ Finds c.depth text call value := by
  have hbind : (c.call call).1 = .ok value ↔
      ∃ body, accept c.depth url (.reply status text) = .ok body ∧
        call.result body = .ok value := by
    rw [h.call_eq]
    cases accept c.depth url (.reply status text) <;> simp [Except.bind]
  simp only [hbind, accept_eq_ok_iff, ← exists_result_iff]
  constructor
  · rintro ⟨body, ⟨hscheme, hstatus, hread⟩, hresult⟩
    exact ⟨hscheme, hstatus, body, hread, hresult⟩
  · rintro ⟨hscheme, hstatus, body, hread, hresult⟩
    exact ⟨body, ⟨hscheme, hstatus, hread⟩, hresult⟩

theorem Delivered.call_eq_service_iff (h : c.Delivered call url (.reply status text))
    {status' : Nat} {message : Phrase} :
    (c.call call).1 = .error (.service status' message) ↔
      namesScheme url.toText = true ∧ 400 ≤ status ∧ status = status' ∧
        Explains c.depth text message ∧ Shallow c.depth text := by
  rw [h.call_eq, ← accept_eq_service_iff]
  cases accept c.depth url (.reply status text) with
  | error e => simp [Except.bind]
  | ok body => simp [Except.bind, result_ne_service]

/-- Let a reply be delivered to a call of an open client. The call gives a value exactly if the
status is below 400 and the value is found in the text; it gives a service error exactly if the
status is from 400 on, and then with this status and the message that the text explains. So the rule
is kept exactly by successes and by the statuses from 400 on: any status below 200 or from 300 to 399
breaks it. In both cases the address has to have a scheme, and for a service error the text must not
be too deep to be read. -/
theorem call_keepsRule_iff (h : c.Delivered call url (.reply status text)) :
    (∀ value, (c.call call).1 = .ok value ↔
      namesScheme url.toText = true ∧ status < 400 ∧ Finds c.depth text call value) ∧
    (∀ status' message, (c.call call).1 = .error (.service status' message) ↔
      namesScheme url.toText = true ∧ 400 ≤ status ∧ status = status' ∧
        Explains c.depth text message ∧ Shallow c.depth text) ∧
    (KeepsRule c.depth call status text (c.call call).1 ↔
      IsSuccess status ∨ 400 ≤ status ∧ namesScheme url.toText = true ∧ Shallow c.depth text) := by
  refine ⟨fun _ => h.call_eq_ok_iff, fun _ _ => h.call_eq_service_iff, ?_⟩
  constructor
  · intro hrule
    by_cases hsuccess : IsSuccess status
    · exact .inl hsuccess
    · obtain ⟨message, _, herror⟩ := hrule.failure hsuccess
      obtain ⟨hscheme, hstatus, _, _, hshallow⟩ := h.call_eq_service_iff.mp herror
      exact .inr ⟨hstatus, hscheme, hshallow⟩
  · rintro (hsuccess | ⟨hstatus, hscheme, hshallow⟩)
    · refine ⟨fun hnot => absurd hsuccess hnot, ?_⟩
      intro value hvalue
      exact ⟨hsuccess, (h.call_eq_ok_iff.mp hvalue).2.2⟩
    · constructor
      · intro _
        obtain ⟨message, hmessage⟩ := exists_explains c.depth text
        exact ⟨message, hmessage,
          h.call_eq_service_iff.mpr ⟨hscheme, hstatus, rfl, hmessage, hshallow⟩⟩
      · intro value hvalue
        have hlt := (h.call_eq_ok_iff.mp hvalue).2.1
        omega

end Calls

/-! ## Two replies -/

/-- A client of a service that gives one reply to everything. -/
def answeredBy (status : Nat) (text : Text) : Client where
  base := "http://svc".toList
  depth := 2
  transport := .script [.reply status text]

/-- What this client goes by once it is open. -/
def answeredRoot : Url := { scheme := "http".toList, host := "svc".toList }

theorem answeredBy_delivered (status : Nat) (text : Text) {call : Call} {payload : Option Json}
    (hpayload : call.payload = .ok payload) :
    (answeredBy status text).enter.2.Delivered call
      (answeredRoot.resolve { path := call.endpoint.path.toList }) (.reply status text) := by
  have hread : Url.read "http://svc".toList = .ok answeredRoot := by cbv
  have hbase : answeredRoot.asBase = answeredRoot := by cbv
  have henter : (answeredBy status text).enter.2 =
      { answeredBy status text with opened := some answeredRoot } := by
    unfold enter answeredBy
    simp only [hread, hbase]
  rw [henter]
  exact .sent rfl hpayload

/-- A text whose detail is a list. -/
def refusalText : Text := "\x7b\"detail\": [true, null]\x7d".toList

/-- A refusal is an error with the list, written out, as its message. -/
theorem call_keepsRule_iff_of_refusal :
    (answeredBy 422 refusalText).enter.2.Delivered .health
      (answeredRoot.resolve { path := Service.Endpoint.health.path.toList })
      (.reply 422 refusalText) ∧
    ((answeredBy 422 refusalText).enter.2.call .health).1 =
      .error (.service 422 "[True, None]".toList) ∧
    KeepsRule 2 .health 422 refusalText ((answeredBy 422 refusalText).enter.2.call .health).1 := by
  have hdelivered : (answeredBy 422 refusalText).enter.2.Delivered .health _ _ :=
    answeredBy_delivered 422 refusalText rfl
  have hscheme : namesScheme (answeredRoot.resolve
      { path := Service.Endpoint.health.path.toList }).toText = true := by cbv
  have hread : Json.read 2 refusalText =
      .ok (.object [("detail", .array [.bool true, .null])]) := by cbv
  have hshallow := shallow_of_read hread
  have hexplains : Explains 2 refusalText "[True, None]".toList := by
    have hmessage : Json.asMessage (.array [.bool true, .null]) =
        .text "[True, None]".toList := by cbv
    rw [← hmessage]
    exact .detail hread (List.lookup_cons_self ..)
  obtain ⟨_, herror, hrule⟩ := call_keepsRule_iff hdelivered
  exact ⟨hdelivered, (herror _ _).mpr ⟨hscheme, by decide, rfl, hexplains, hshallow⟩,
    hrule.mpr (.inr ⟨by decide, hscheme, hshallow⟩)⟩

/-- A text that looks like that of a joined line. -/
def redirectText : Text := "\x7b\"result\": \"x\"\x7d".toList

/-- A redirect with this text gives the line, and no error. -/
theorem redirect_breaks_rule :
    let call := Call.joinPair (.str ['a']) (.str ['b']) .null
    (answeredBy 302 redirectText).enter.2.Delivered call
      (answeredRoot.resolve { path := Service.Endpoint.joinPair.path.toList })
      (.reply 302 redirectText) ∧
    ((answeredBy 302 redirectText).enter.2.call call).1 = .ok (.str ['x']) ∧
    ¬ KeepsRule 2 call 302 redirectText ((answeredBy 302 redirectText).enter.2.call call).1 := by
  intro call
  have hdelivered : (answeredBy 302 redirectText).enter.2.Delivered call _ _ :=
    answeredBy_delivered 302 redirectText rfl
  have hscheme : namesScheme (answeredRoot.resolve
      { path := Service.Endpoint.joinPair.path.toList }).toText = true := by cbv
  have hread : Json.read 2 redirectText = .ok (.object [("result", .str ['x'])]) := by cbv
  have hvalue : ((answeredBy 302 redirectText).enter.2.call call).1 = .ok (.str ['x']) :=
    hdelivered.call_eq_ok_iff.mpr ⟨hscheme, by decide, .line trivial hread rfl⟩
  refine ⟨hdelivered, hvalue, ?_⟩
  intro hrule
  have hsuccess := (hrule.value _ hvalue).1.2
  omega

end LineJoin.Client
