import LineJoin.Proofs.Join.JoinPoint
import LineJoin.Proofs.Scan.OpenLiteral

/-!
# The order of markers

Markers are sorted by length twice, where a rule set is declared and where its scanner is made, and
both times those of one length stay in the order in which they were given. That order shows in the
lists but in nothing that is computed from them: a scanner reads its rule set only through the
markers that there are (`Alike.token_eq`), because of two markers of one length that stand at one
place the texts are the same and the kind decides, and a line marker is stripped only as the longest
that fits (`stripLineMarker?_eq_some_iff`). So rule sets with the same markers, given in any order,
scan and join alike. `results_of_reordered` says this of declarations.

The refusal of a declaration is left out: it names the first delimiter that is no quote, and so
depends on the order.
-/

namespace LineJoin.RuleSet

open Scan

/-! ## Rule sets with the same markers -/

/-- Rule sets that have the same markers, in any order, and do not differ in anything else but the
name. -/
structure Alike (R R' : RuleSet) : Prop where
  lineMarkers : ∀ m, m ∈ R.lineMarkers ↔ m ∈ R'.lineMarkers
  quotes : ∀ q, q ∈ R.quotes ↔ q ∈ R'.quotes
  block : R.block = R'.block
  escape : R.escape = R'.escape
  continuation : R.continuation = R'.continuation
  lineContinuation : R.lineContinuation = R'.lineContinuation
  openingBrackets : R.openingBrackets = R'.openingBrackets
  closingPunctuation : R.closingPunctuation = R'.closingPunctuation

section Strip

variable {R : RuleSet} {t : Text}

theorem stripLineMarker?_eq_none_iff :
    R.stripLineMarker? t = none ↔ ∀ m ∈ R.lineMarkers, ¬ m <+: t := by
  constructor
  · intro h m hm
    exact stripLineMarker?_eq_none h hm
  · intro h
    cases hstrip : R.stripLineMarker? t with
    | none => rfl
    | some body =>
        obtain ⟨marker, ⟨hmem, hstarts, _⟩, _⟩ := stripLineMarker?_eq_some hstrip
        exact absurd hstarts (h marker hmem)

/-- What is stripped is the longest marker that fits, and it is stripped whenever one fits. -/
theorem stripLineMarker?_eq_some_iff {body : Text} :
    R.stripLineMarker? t = some body ↔ ∃ m, R.LongestMarker t m ∧ t = m ++ body := by
  constructor
  · exact stripLineMarker?_eq_some
  · rintro ⟨m, hm, ht⟩
    cases hstrip : R.stripLineMarker? t with
    | none => exact absurd hm.2.1 (stripLineMarker?_eq_none hstrip hm.1)
    | some body' =>
        obtain ⟨m', hm', ht'⟩ := stripLineMarker?_eq_some hstrip
        obtain rfl := hm.unique hm'
        rw [List.append_cancel_left (ht'.symm.trans ht)]

end Strip

namespace Alike

variable {R R' : RuleSet} {s : State} {t rest : Text}

theorem symm (h : R.Alike R') : R'.Alike R where
  lineMarkers m := (h.lineMarkers m).symm
  quotes q := (h.quotes q).symm
  block := h.block.symm
  escape := h.escape.symm
  continuation := h.continuation.symm
  lineContinuation := h.lineContinuation.symm
  openingBrackets := h.openingBrackets.symm
  closingPunctuation := h.closingPunctuation.symm

/-! ## Scans -/

theorem marks (h : R.Alike R') {m : Text} {kind : TokenKind} (hm : R.Marks m kind) :
    R'.Marks m kind := by
  cases hm with
  | line hmem hne => exact .line ((h.lineMarkers m).mp hmem) hne
  | opener hblock => exact .opener (h.block.symm.trans hblock)
  | closer hblock => exact .closer (h.block.symm.trans hblock)
  | quote hmem => exact .quote ((h.quotes _).mp hmem)

theorem counts_iff (h : R.Alike R') {m : Text} {kind : TokenKind} :
    R.Counts s rest m kind ↔ R'.Counts s rest m kind :=
  ⟨fun hm => ⟨h.marks hm.marks, hm.changes, hm.starts⟩,
    fun hm => ⟨h.symm.marks hm.marks, hm.changes, hm.starts⟩⟩

theorem escapesHere_iff (h : R.Alike R') : R.EscapesHere s rest ↔ R'.EscapesHere s rest := by
  unfold EscapesHere
  rw [h.escape]

/-- A token is read as it should be under one rule set if it is under the other. -/
theorem readsAs (h : R.Alike R') {tok : Token} (htok : R.ReadsAs s rest tok) :
    R'.ReadsAs s rest tok where
  before_end := htok.before_end
  state_eq := htok.state_eq
  escape_iff := htok.escape_iff.trans h.escapesHere_iff
  escape_text := by
    intro hhere
    rw [← h.escape]
    exact htok.escape_text (h.escapesHere_iff.mpr hhere)
  marker := by
    rintro hnot ⟨m, kind, hm⟩
    obtain ⟨hcounts, hfirst⟩ :=
      htok.marker (mt h.escapesHere_iff.mp hnot) ⟨m, kind, h.counts_iff.mpr hm⟩
    exact ⟨h.counts_iff.mp hcounts, fun m kind hm => hfirst m kind (h.counts_iff.mpr hm)⟩
  other := by
    intro hnot hnone
    exact htok.other (mt h.escapesHere_iff.mp hnot) fun m kind hm =>
      hnone m kind (h.counts_iff.mp hm)

/-- One step of the two scans. -/
theorem token_eq (h : R.Alike R') (s : State) (hrest : rest ≠ []) :
    R.scanner.token s rest = R'.scanner.token s rest :=
  (h.readsAs (R.readsAs_token s hrest)).unique (R'.readsAs_token s hrest)

theorem scanWithin_eq (h : R.Alike R') (budget : Nat) (s : State) (t : Text) :
    R.scanner.scanWithin budget s t = R'.scanner.scanWithin budget s t := by
  induction budget generalizing s t with
  | zero => cases t <;> rfl
  | succ budget ih =>
      cases t with
      | nil => rfl
      | cons c cs =>
          simp only [Scanner.scanWithin, h.token_eq s (List.cons_ne_nil c cs), ih]

theorem tokenize_eq (h : R.Alike R') (t : Text) : R.tokenize t = R'.tokenize t :=
  h.scanWithin_eq _ .code t

theorem classify_eq (h : R.Alike R') (t : Text) : R.classify t = R'.classify t := by
  rw [classify, classify, h.tokenize_eq]

/-! ## Joins -/

theorem longestMarker (h : R.Alike R') {m : Text} (hm : R.LongestMarker t m) :
    R'.LongestMarker t m :=
  ⟨(h.lineMarkers m).mp hm.1, hm.2.1, fun m' hm' => hm.2.2 m' ((h.lineMarkers m').mpr hm')⟩

theorem stripLineMarker?_eq (h : R.Alike R') (t : Text) :
    R.stripLineMarker? t = R'.stripLineMarker? t := by
  apply Option.ext
  intro body
  rw [stripLineMarker?_eq_some_iff, stripLineMarker?_eq_some_iff]
  constructor
  · rintro ⟨m, hm, ht⟩
    exact ⟨m, h.longestMarker hm, ht⟩
  · rintro ⟨m, hm, ht⟩
    exact ⟨m, h.symm.longestMarker hm, ht⟩

theorem joinIn_eq (h : R.Alike R') (region : Region) (accumulated line : Text) :
    R.joinIn region accumulated line = R'.joinIn region accumulated line := by
  cases region with
  | code =>
      have hleft : R.codeLeft accumulated = R'.codeLeft accumulated := by
        unfold codeLeft
        rw [h.lineContinuation]
      have htouches : ∀ left right, R.touches left right = R'.touches left right := by
        intro left right
        rw [touches, touches, h.openingBrackets, h.closingPunctuation]
      show R.joinCode accumulated line = R'.joinCode accumulated line
      simp only [joinCode, hleft, htouches]
  | lineComment =>
      simp only [joinIn, joinLineComment, lineCommentRight, h.stripLineMarker?_eq]
  | blockComment =>
      simp only [joinIn, joinBlockComment, blockCommentRight, h.continuation]
  | literal => rfl

theorem joinPair_eq (h : R.Alike R') (accumulated line : Text) :
    R.joinPair accumulated line = R'.joinPair accumulated line := by
  simp only [joinPair, h.classify_eq, h.joinIn_eq]

theorem joinAll_eq (h : R.Alike R') (lines : List Text) : R.joinAll lines = R'.joinAll lines := by
  cases lines with
  | nil => rfl
  | cons line lines =>
      have hstep : R.joinPair = R'.joinPair := funext₂ h.joinPair_eq
      rw [joinAll, joinAll, hstep]

end Alike

/-! ## Declarations in another order -/

namespace Declaration

variable {d d' : Declaration} {R : RuleSet}

/-- Declarations that differ only in the order of their line markers and of their delimiters. -/
structure Reordered (d d' : Declaration) : Prop where
  lineMarkers : d.lineMarkers.Perm d'.lineMarkers
  delimiters : d.delimiters.Perm d'.delimiters
  rest : d' = { d with lineMarkers := d'.lineMarkers, delimiters := d'.delimiters }

theorem quote_char (d : Declaration) (q : Quote) : d.quote [q.char] = .ok q := by
  cases q <;> rfl

theorem mapM_quote_char (d : Declaration) (quotes : List Quote) :
    (quotes.map fun q => [q.char]).mapM d.quote = .ok quotes := by
  induction quotes with
  | nil => rfl
  | cons q quotes ih =>
      rw [List.map_cons, List.mapM_cons, ih, quote_char]
      rfl

/-- A declaration is accepted with the quotes that its delimiters spell. -/
theorem ruleSet_of_delimiters {quotes : List Quote}
    (h : d.delimiters = quotes.map fun q => [q.char]) :
    d.ruleSet = .ok {
      name := d.name
      lineMarkers := longestFirst d.lineMarkers
      block := d.block
      quotes := quotes
      escape := d.escape
      continuation := d.continuation
      lineContinuation := d.lineContinuation
      openingBrackets := d.openingBrackets
      closingPunctuation := d.closingPunctuation
      longest_first := longestFirst_pairwise d.lineMarkers } := by
  unfold ruleSet
  rw [h, mapM_quote_char]
  rfl

theorem mem_lineMarkers_iff (h : d.ruleSet = .ok R) {m : Text} :
    m ∈ R.lineMarkers ↔ m ∈ d.lineMarkers := by
  rw [ruleSet_of_delimiters (delimiters_eq h)] at h
  rw [← Except.ok.inj h]
  exact List.mem_mergeSort

theorem longestMarker_iff (h : d.ruleSet = .ok R) {t m : Text} :
    R.LongestMarker t m ↔ m ∈ d.lineMarkers ∧ m <+: t ∧
      ∀ m' ∈ d.lineMarkers, m' <+: t → m'.length ≤ m.length := by
  simp only [LongestMarker, mem_lineMarkers_iff h]

/-- In another order a declaration is accepted too, and has the same markers. -/
theorem Reordered.exists_alike (h : d.Reordered d') (hR : d.ruleSet = .ok R) :
    ∃ R', d'.ruleSet = .ok R' ∧ R.Alike R' := by
  have hspelt : d'.delimiters.Perm (R.quotes.map fun q => [q.char]) := by
    rw [← delimiters_eq hR]
    exact h.delimiters.symm
  obtain ⟨quotes, hquotes, hperm⟩ := (congr_fun₂ (List.eq_map_comp_perm _) _ _).mpr hspelt
  refine ⟨_, ruleSet_of_delimiters hquotes, ?_⟩
  rw [ruleSet_of_delimiters (delimiters_eq hR)] at hR
  rw [← Except.ok.inj hR, h.rest]
  refine ⟨?_, fun q => hperm.symm.mem_iff, rfl, rfl, rfl, rfl, rfl, rfl⟩
  intro m
  exact List.mem_mergeSort.trans (h.lineMarkers.mem_iff.trans List.mem_mergeSort.symm)

/-- Let a declaration be accepted, and let its line markers and its delimiters be given in another
order. The declaration is still accepted, and under both rule sets every text has the same tokens,
the same context and the same rest behind its line marker, and lines are joined into the same line.
What is behind the line marker is what the longest of the declared markers that fit leaves, and there
is nothing to strip exactly if none of them fits. -/
theorem results_of_reordered (h : d.Reordered d') (hR : d.ruleSet = .ok R) :
    ∃ R', d'.ruleSet = .ok R' ∧
      (∀ t, R.tokenize t = R'.tokenize t ∧ R.classify t = R'.classify t ∧
        R.stripLineMarker? t = R'.stripLineMarker? t) ∧
      (∀ lines, R.joinAll lines = R'.joinAll lines) ∧
      (∀ t, R.stripLineMarker? t = none ↔ ∀ m ∈ d.lineMarkers, ¬ m <+: t) ∧
      ∀ t body, R.stripLineMarker? t = some body ↔
        ∃ m ∈ d.lineMarkers, t = m ++ body ∧
          ∀ m' ∈ d.lineMarkers, m' <+: t → m'.length ≤ m.length := by
  obtain ⟨R', hR', halike⟩ := h.exists_alike hR
  refine ⟨R', hR', ?_, halike.joinAll_eq, ?_, ?_⟩
  · intro t
    exact ⟨halike.tokenize_eq t, halike.classify_eq t, halike.stripLineMarker?_eq t⟩
  · intro t
    simp only [stripLineMarker?_eq_none_iff, mem_lineMarkers_iff hR]
  · intro t body
    rw [stripLineMarker?_eq_some_iff]
    simp only [longestMarker_iff hR]
    constructor
    · rintro ⟨m, ⟨hmem, _, hlongest⟩, ht⟩
      exact ⟨m, hmem, ht, hlongest⟩
    · rintro ⟨m, hmem, ht, hlongest⟩
      exact ⟨m, ⟨hmem, ⟨body, ht.symm⟩, hlongest⟩, ht⟩

/-- A declaration with markers of one length, of which one is the opening marker of a block comment
too, and one is a quote. -/
def tied : Declaration where
  lineMarkers := ["--".toList, "#".toList, "//".toList, [Quote.grave.char]]
  block := some ("//".toList, "--".toList)
  delimiters := [[Quote.single.char], [Quote.grave.char]]

/-- The same declaration with its markers and delimiters in the opposite order. -/
def tiedReversed : Declaration :=
  { tied with
    lineMarkers := tied.lineMarkers.reverse
    delimiters := tied.delimiters.reverse }

/-- The rule sets keep their markers in different orders, and join the same lines into one. -/
theorem results_of_reordered_of_tied :
    tied.Reordered tiedReversed ∧
    ∃ R R', tied.ruleSet = .ok R ∧ tiedReversed.ruleSet = .ok R' ∧
      R.lineMarkers = ["--".toList, "//".toList, "#".toList, [Quote.grave.char]] ∧
      R'.lineMarkers = ["//".toList, "--".toList, [Quote.grave.char], "#".toList] ∧
      R.tokenize "'`' // --".toList = R'.tokenize "'`' // --".toList ∧
      R.joinAll ["x // y".toList, "-- z".toList, "// `".toList] = .ok "x // y z `".toList ∧
      R'.joinAll ["x // y".toList, "-- z".toList, "// `".toList] = .ok "x // y z `".toList ∧
      R'.stripLineMarker? "//x".toList = some "x".toList := by
  have hreordered : tied.Reordered tiedReversed :=
    ⟨(List.reverse_perm _).symm, (List.reverse_perm _).symm, rfl⟩
  have hquotes : tied.delimiters = [Quote.single, .grave].map fun q => [q.char] := rfl
  have hquotes' : tiedReversed.delimiters = [Quote.grave, .single].map fun q => [q.char] := rfl
  have hR := ruleSet_of_delimiters hquotes
  have hreversed := ruleSet_of_delimiters hquotes'
  obtain ⟨R', hR', hscan, hjoin, _, hstrip⟩ := results_of_reordered hreordered hR
  obtain rfl := Except.ok.inj (hreversed.symm.trans hR')
  refine ⟨hreordered, _, _, hR, hR', by cbv, by cbv, (hscan _).1, by cbv, ?_, ?_⟩
  · rw [← hjoin]
    cbv
  · rw [← (hscan _).2.2, hstrip]
    exact ⟨"//".toList, by decide, rfl, by decide⟩

end Declaration

end LineJoin.RuleSet
