import LineJoin.Proofs.Scan.Seam

/-!
# The longest match

What a tokenization of a text is, said without a scanner. At the start of each token stands either an
escape that counts, or the longest of the markers that would change the state, or a character by
itself; of markers of one length the kind decides. `IsTokenization` says this of every token of a
list that makes up the whole text. The tokens of a run to the end are such a list
(`isTokenization_of_run`), and every such list is what a run makes (`IsTokenization.exists_run`).

A line marker without text marks nothing. A block marker without text is one like any other: it is
the shortest there is, so it counts only where no other marker stands.
-/

namespace LineJoin

/-! ## Markers in order -/

/-- Sorting keeps the order of what it does not tell apart: a relation that holds along a list still
holds between elements that are sorted into one place. -/
theorem pairwise_mergeSort_of_tie {α : Type} (le : α → α → Bool) {S : α → α → Prop}
    (htrans : ∀ a b c, le a b = true → le b c = true → le a c = true)
    (htotal : ∀ a b, (le a b || le b a) = true) (hrefl : ∀ a, S a a) {l : List α}
    (h : l.Pairwise S) :
    (l.mergeSort le).Pairwise fun a b => le a b = true ∧ (le b a = true → S a b) := by
  rw [← List.mergeSort_zipIdx, List.pairwise_map]
  have hsorted := List.pairwise_mergeSort (List.zipIdxLE_trans htrans)
    (List.zipIdxLE_total htotal) l.zipIdx
  refine hsorted.imp_of_mem ?_
  rintro ⟨a, i⟩ ⟨b, j⟩ ha hb hab
  obtain ⟨_, hi, ha⟩ := List.mem_zipIdx (List.mem_mergeSort.mp ha)
  obtain ⟨_, hj, hb⟩ := List.mem_zipIdx (List.mem_mergeSort.mp hb)
  unfold List.zipIdxLE at hab
  split at hab
  · next hle =>
      refine ⟨hle, ?_⟩
      intro hge
      rw [if_pos hge] at hab
      have hij : i ≤ j := of_decide_eq_true hab
      -- sorted into one place, the two stand as they stood in the list
      rcases Nat.lt_or_eq_of_le hij with hlt | rfl
      · simp only [ha, hb, Nat.sub_zero]
        exact List.pairwise_iff_getElem.mp h i j _ _ hlt
      · rw [ha, hb]
        exact hrefl _
  · cases hab

namespace Scan

/-- Of markers of one length, the one whose kind comes first here is taken. -/
def TokenKind.rank : TokenKind → Nat
  | lineComment => 0
  | blockOpen => 1
  | blockClose => 2
  | quote _ => 3
  | escape => 4
  | other => 5

end Scan

namespace RuleSet

open Scan

/-- The markers of a rule set, each with what it is. -/
inductive Marks (R : RuleSet) : Text → TokenKind → Prop
  | line {m : Text} : m ∈ R.lineMarkers → m ≠ [] → Marks R m .lineComment
  | opener {o c : Text} : R.block = some (o, c) → Marks R o .blockOpen
  | closer {o c : Text} : R.block = some (o, c) → Marks R c .blockClose
  | quote {q : Quote} : q ∈ R.quotes → Marks R [q.char] (.quote q)

variable {R : RuleSet} {s : State} {t rest : Text} {ts : List Token}

theorem mem_markers_iff {m : Marker} : m ∈ R.markers ↔ R.Marks m.text m.kind := by
  obtain ⟨text, kind⟩ := m
  rw [markers, List.mem_append, List.mem_append]
  constructor
  · rintro ((h | h) | h)
    · obtain ⟨_, hline, heq⟩ := List.mem_map.mp h
      obtain ⟨hmem, hne⟩ := List.mem_filter.mp hline
      cases heq
      exact .line hmem (by simpa using hne)
    · cases hb : R.block with
      | none => simp [hb] at h
      | some block =>
          simp only [hb, List.mem_cons, List.not_mem_nil, or_false] at h
          rcases h with heq | heq <;> cases heq
          · exact .opener hb
          · exact .closer hb
    · obtain ⟨q, hq, heq⟩ := List.mem_map.mp h
      cases heq
      exact .quote hq
  · intro h
    cases h with
    | line hmem hne =>
        refine .inl (.inl (List.mem_map.mpr ⟨text, List.mem_filter.mpr ⟨hmem, ?_⟩, rfl⟩))
        simpa using hne
    | opener hb => exact .inl (.inr (by simp [hb]))
    | closer hb => exact .inl (.inr (by simp [hb]))
    | quote hq => exact .inr (List.mem_map.mpr ⟨_, hq, rfl⟩)

/-- The markers are listed by rank. -/
theorem markers_pairwise (R : RuleSet) :
    R.markers.Pairwise fun a b => a.kind.rank ≤ b.kind.rank := by
  have hlines : ∀ a ∈ (R.lineMarkers.filter (!·.isEmpty)).map (Marker.mk · .lineComment),
      a.kind.rank = 0 := by
    intro a ha
    obtain ⟨_, _, rfl⟩ := List.mem_map.mp ha
    rfl
  have hquotes : ∀ a ∈ R.quotes.map fun q => Marker.mk [q.char] (.quote q), a.kind.rank = 3 := by
    intro a ha
    obtain ⟨_, _, rfl⟩ := List.mem_map.mp ha
    rfl
  rw [markers, List.pairwise_append, List.pairwise_append]
  refine ⟨⟨?_, ?_, ?_⟩, ?_, ?_⟩
  · exact List.pairwise_of_forall_mem_list fun a ha b hb => by rw [hlines a ha, hlines b hb]
  · cases R.block with
    | none => exact List.Pairwise.nil
    | some block => simp [TokenKind.rank]
  · intro a ha b _
    rw [hlines a ha]
    exact Nat.zero_le _
  · exact List.pairwise_of_forall_mem_list fun a ha b hb => by rw [hquotes a ha, hquotes b hb]
  · intro a ha b hb
    rw [hquotes b hb]
    rcases List.mem_append.mp ha with ha | ha
    · rw [hlines a ha]
      exact Nat.zero_le _
    · cases hblock : R.block with
      | none => simp [hblock] at ha
      | some block =>
          simp only [hblock, List.mem_cons, List.not_mem_nil, or_false] at ha
          rcases ha with rfl | rfl <;> simp [TokenKind.rank]

/-- Whether a marker is taken before another: it is longer, or as long and of no later rank. -/
def Precedes (m : Text) (kind : TokenKind) (m' : Text) (kind' : TokenKind) : Prop :=
  m'.length < m.length ∨ m'.length = m.length ∧ kind.rank ≤ kind'.rank

theorem scanner_markers_pairwise (R : RuleSet) :
    R.scanner.markers.Pairwise fun a b => Precedes a.text a.kind b.text b.kind := by
  have hsorted := pairwise_mergeSort_of_tie
    (fun a b : Marker => decide (b.text.length ≤ a.text.length))
    (fun a b c hab hbc => by simp only [decide_eq_true_eq] at *; omega)
    (fun a b => by simp only [Bool.or_eq_true, decide_eq_true_eq]; omega)
    (fun _ => Nat.le_refl _) R.markers_pairwise
  refine hsorted.imp ?_
  rintro a b ⟨hle, htie⟩
  rw [decide_eq_true_eq] at hle
  rcases Nat.lt_or_eq_of_le hle with hlt | heq
  · exact .inl hlt
  · exact .inr ⟨heq, htie (by simp [heq])⟩

/-! ## One token -/

/-- An escape counts here: a literal is open and the escape marker stands at the start. -/
def EscapesHere (R : RuleSet) (s : State) (rest : Text) : Prop :=
  (∃ q, s = .literal q) ∧ R.escape ≠ [] ∧ R.escape <+: rest

/-- A marker counts here: its kind would change the state and it stands at the start. -/
structure Counts (R : RuleSet) (s : State) (rest m : Text) (kind : TokenKind) : Prop where
  marks : R.Marks m kind
  changes : s.next kind ≠ s
  starts : m <+: rest

/-- A token as it should be where `rest` is left of the text and `s` is the state before it. -/
structure ReadsAs (R : RuleSet) (s : State) (rest : Text) (tok : Token) : Prop where
  before_end : rest ≠ []
  state_eq : tok.state = s.next tok.kind
  escape_iff : tok.kind = .escape ↔ R.EscapesHere s rest
  /-- An escape takes the character after it, if there is one. -/
  escape_text : R.EscapesHere s rest →
    ∃ after, rest = R.escape ++ after ∧ tok.lexeme = R.escape ++ after.take 1
  marker : ¬ R.EscapesHere s rest → (∃ m kind, R.Counts s rest m kind) →
    R.Counts s rest tok.lexeme tok.kind ∧
      ∀ m kind, R.Counts s rest m kind → Precedes tok.lexeme tok.kind m kind
  other : ¬ R.EscapesHere s rest → (∀ m kind, ¬ R.Counts s rest m kind) →
    tok.kind = .other ∧ ∃ c after, rest = c :: after ∧ tok.lexeme = [c]

theorem escapesAt_eq_true_iff_here :
    R.scanner.escapesAt s rest = true ↔ R.EscapesHere s rest := by
  rw [Scanner.escapesAt_eq_true_iff, State.escapes_eq_true_iff]
  rfl

theorem counts_iff {m : Marker} :
    R.Counts s rest m.text m.kind ↔ m ∈ R.scanner.active s ∧ m.text <+: rest := by
  rw [Scanner.mem_active, mem_scanner_markers, mem_markers_iff]
  constructor
  · rintro ⟨hmarks, hchanges, hstarts⟩
    exact ⟨⟨hmarks, by simpa [State.reactsTo] using hchanges⟩, hstarts⟩
  · rintro ⟨⟨hmarks, hreacts⟩, hstarts⟩
    exact ⟨hmarks, by simpa [State.reactsTo] using hreacts, hstarts⟩

/-- Where no escape counts and a marker does, the scanner takes the one that precedes all others. -/
theorem token_of_counts (hesc : R.scanner.escapesAt s rest = false) {m : Text} {kind : TokenKind}
    (h : R.Counts s rest m kind) :
    R.Counts s rest (R.scanner.token s rest).lexeme (R.scanner.token s rest).kind ∧
      ∀ m kind, R.Counts s rest m kind →
        Precedes (R.scanner.token s rest).lexeme (R.scanner.token s rest).kind m kind := by
  have hstands : ∃ a ∈ R.scanner.active s, a.text.isPrefixOf rest = true :=
    ⟨⟨m, kind⟩, (counts_iff.mp h).1, List.isPrefixOf_iff_prefix.mpr h.starts⟩
  obtain ⟨a, hfind⟩ := Option.isSome_iff_exists.mp (List.find?_isSome.mpr hstands)
  have htoken : R.scanner.token s rest = ⟨s.next a.kind, a.kind, a.text⟩ := by
    simp [Scanner.token, Scanner.piece, hesc, hfind]
  rw [htoken]
  obtain ⟨hpre, before, after, hactive, hbefore⟩ := List.find?_eq_some_iff_append.mp hfind
  refine ⟨counts_iff.mpr ⟨List.mem_of_find?_eq_some hfind, ?_⟩, ?_⟩
  · exact List.isPrefixOf_iff_prefix.mp (by simpa using hpre)
  · intro m' kind' h'
    obtain ⟨hmem, hstarts⟩ := counts_iff (m := ⟨m', kind'⟩).mp h'
    have hsorted : (R.scanner.active s).Pairwise
        fun a b => Precedes a.text a.kind b.text b.kind :=
      R.scanner_markers_pairwise.sublist List.filter_sublist
    rw [hactive] at hmem hsorted
    -- a marker that stands here is the one found or comes later in the list
    rcases List.mem_append.mp hmem with hmem | hmem
    · have hnot := hbefore _ hmem
      rw [List.isPrefixOf_iff_prefix.mpr hstarts] at hnot
      cases hnot
    · rcases List.mem_cons.mp hmem with rfl | hmem
      · exact .inr ⟨rfl, Nat.le_refl _⟩
      · exact (List.pairwise_cons.mp (List.pairwise_append.mp hsorted).2.1).1 _ hmem

/-- The scanner reads each token as it should be. -/
theorem readsAs_token (R : RuleSet) (s : State) (hrest : rest ≠ []) :
    R.ReadsAs s rest (R.scanner.token s rest) where
  before_end := hrest
  state_eq := rfl
  escape_iff := by
    rw [← escapesAt_eq_true_iff_here]
    constructor
    · exact escapesAt_of_kind
    · intro hesc
      rw [Scanner.token_of_escapesAt hesc]
  escape_text := by
    intro hhere
    obtain ⟨after, rfl⟩ := hhere.2.2
    rw [Scanner.token_of_escapesAt (escapesAt_eq_true_iff_here.mpr hhere)]
    refine ⟨after, rfl, ?_⟩
    show (R.escape ++ after).take (R.escape.length + 1) = _
    rw [List.take_length_add_append]
  marker := by
    rintro hnot ⟨m, kind, hcounts⟩
    rw [← escapesAt_eq_true_iff_here, Bool.not_eq_true] at hnot
    exact token_of_counts hnot hcounts
  other := by
    intro hnot hnone
    rw [← escapesAt_eq_true_iff_here, Bool.not_eq_true] at hnot
    have hmarkers : ∀ m ∈ R.scanner.active s, ¬ m.text <+: rest := by
      intro m hm hstarts
      exact hnone m.text m.kind (counts_iff.mpr ⟨hm, hstarts⟩)
    obtain ⟨c, after, rfl⟩ := List.exists_cons_of_ne_nil hrest
    rw [Scanner.token_of_no_marker hnot hmarkers]
    exact ⟨rfl, c, after, rfl, rfl⟩

/-- Markers of one text and one rank are the same. -/
theorem Marks.eq_of_rank {m : Text} {kind kind' : TokenKind} (h : R.Marks m kind)
    (h' : R.Marks m kind') (hrank : kind.rank = kind'.rank) : kind = kind' := by
  cases h with
  | quote hq =>
      generalize hm : [Quote.char _] = m at h'
      cases h' with
      | quote hq' =>
          have hchar := List.singleton_inj.mp hm
          rw [Quote.char_injective hchar]
      | line | opener | closer => cases hrank
  | line | opener | closer => cases h' <;> first | rfl | cases hrank

/-- There is only one way to read a token. -/
theorem ReadsAs.unique {tok tok' : Token} (h : R.ReadsAs s rest tok) (h' : R.ReadsAs s rest tok') :
    tok = tok' := by
  have hpiece : tok.kind = tok'.kind ∧ tok.lexeme = tok'.lexeme := by
    by_cases hesc : R.EscapesHere s rest
    · obtain ⟨after, hafter, hlex⟩ := h.escape_text hesc
      obtain ⟨after', hafter', hlex'⟩ := h'.escape_text hesc
      have hsame : after = after' := List.append_cancel_left (hafter.symm.trans hafter')
      exact ⟨(h.escape_iff.mpr hesc).trans (h'.escape_iff.mpr hesc).symm, by rw [hlex, hlex', hsame]⟩
    · by_cases hcounts : ∃ m kind, R.Counts s rest m kind
      · obtain ⟨hc, hfirst⟩ := h.marker hesc hcounts
        obtain ⟨hc', hfirst'⟩ := h'.marker hesc hcounts
        -- each precedes the other, so they are as long as each other and of one rank
        have hle := hfirst _ _ hc'
        have hge := hfirst' _ _ hc
        unfold Precedes at hle hge
        have htext : tok.lexeme = tok'.lexeme := by
          rw [List.prefix_iff_eq_take.mp hc.starts, List.prefix_iff_eq_take.mp hc'.starts,
            show tok.lexeme.length = tok'.lexeme.length by omega]
        have hmarks := hc.marks
        rw [htext] at hmarks
        exact ⟨hmarks.eq_of_rank hc'.marks (by omega), htext⟩
      · have hnone : ∀ m kind, ¬ R.Counts s rest m kind :=
          fun m kind hc => hcounts ⟨m, kind, hc⟩
        obtain ⟨hkind, c, after, hrest, hlex⟩ := h.other hesc hnone
        obtain ⟨hkind', c', after', hrest', hlex'⟩ := h'.other hesc hnone
        obtain ⟨rfl, _⟩ := List.cons.inj (hrest.symm.trans hrest')
        exact ⟨hkind.trans hkind'.symm, hlex.trans hlex'.symm⟩
  obtain ⟨state, kind, lexeme⟩ := tok
  obtain ⟨state', kind', lexeme'⟩ := tok'
  obtain ⟨rfl, rfl⟩ : kind = kind' ∧ lexeme = lexeme' := hpiece
  obtain rfl : state = state' := h.state_eq.trans h'.state_eq.symm
  rfl

/-! ## Whole texts -/

/-- The text that tokens make up. -/
def textOf (ts : List Token) : Text := (ts.map (·.lexeme)).flatten

/-- The state after tokens, when `s` was the state before them. -/
def stateAfter (s : State) (ts : List Token) : State := (ts.getLast?.map (·.state)).getD s

theorem stateAfter_cons (s : State) (tok : Token) (ts : List Token) :
    stateAfter s (tok :: ts) = stateAfter tok.state ts := by
  rw [stateAfter, stateAfter, List.getLast?_cons]
  cases ts.getLast? <;> rfl

/-- Tokens that make up a text, each read as it should be: in the state after those before it and
with the text of those from it on in sight. -/
structure IsTokenization (R : RuleSet) (s : State) (t : Text) (ts : List Token) : Prop where
  text_eq : textOf ts = t
  reads : ∀ before tok after, ts = before ++ tok :: after →
    R.ReadsAs (stateAfter s before) (textOf (tok :: after)) tok

theorem IsTokenization.tail {tok : Token} (h : R.IsTokenization s t (tok :: ts)) :
    R.IsTokenization tok.state (textOf ts) ts where
  text_eq := rfl
  reads := by
    intro before u after hts
    have hreads := h.reads (tok :: before) u after (by rw [hts]; rfl)
    rwa [stateAfter_cons] at hreads

/-- A run to the end of a text makes a tokenization of it. -/
theorem isTokenization_of_run {e : State} (h : Run R.scanner s t ts e []) :
    R.IsTokenization s t ts where
  text_eq := by
    have htext := h.text_eq
    rw [List.append_nil] at htext
    exact htext.symm
  reads := by
    intro before tok after hts
    subst hts
    obtain ⟨f, rest, hbefore, hafter⟩ := h.split
    have hstate : f = stateAfter s before := hbefore.end_eq
    have hrest : rest = textOf (tok :: after) := by
      rw [hafter.text_eq, List.append_nil]
      rfl
    rw [← hstate, ← hrest]
    cases hafter with
    | step hne _ => exact R.readsAs_token f hne

/-- A tokenization of a text is what a run over it makes. -/
theorem IsTokenization.exists_run (h : R.IsTokenization s t ts) :
    ∃ e, Run R.scanner s t ts e [] := by
  induction ts generalizing s t with
  | nil =>
      obtain rfl := h.text_eq
      exact ⟨s, .done⟩
  | cons tok ts ih =>
      have hreads : R.ReadsAs s t tok := by
        have hfirst := h.reads [] tok ts rfl
        rwa [h.text_eq] at hfirst
      have htok := hreads.unique (R.readsAs_token s hreads.before_end)
      have hdrop : t.drop tok.lexeme.length = textOf ts := by
        rw [← h.text_eq]
        exact List.drop_left
      obtain ⟨e, hrun⟩ := ih h.tail
      rw [← hdrop, htok] at hrun
      rw [htok]
      exact ⟨e, .step hreads.before_end hrun⟩

/-! ## What follows for the tokens -/

/-- Where a character is taken by itself, no marker counts. -/
theorem ReadsAs.not_counts_of_other {tok : Token} (h : R.ReadsAs s rest tok)
    (hkind : tok.kind = .other) (m : Text) (kind : TokenKind) : ¬ R.Counts s rest m kind := by
  intro hcounts
  have hesc : ¬ R.EscapesHere s rest := by
    intro hhere
    have hescape := h.escape_iff.mpr hhere
    rw [hkind] at hescape
    cases hescape
  have hchanges := (h.marker hesc ⟨m, kind, hcounts⟩).1.changes
  rw [hkind, State.next_other] at hchanges
  exact hchanges rfl

/-- A token that is neither an escape nor a character by itself is a marker that counts. -/
theorem ReadsAs.counts {tok : Token} (h : R.ReadsAs s rest tok) (hescape : tok.kind ≠ .escape)
    (hother : tok.kind ≠ .other) : R.Counts s rest tok.lexeme tok.kind := by
  have hesc : ¬ R.EscapesHere s rest := fun hhere => hescape (h.escape_iff.mpr hhere)
  by_cases hcounts : ∃ m kind, R.Counts s rest m kind
  · exact (h.marker hesc hcounts).1
  · exact absurd (h.other hesc fun m kind hc => hcounts ⟨m, kind, hc⟩).1 hother

/-- Only in code does a line marker count, and it opens a line comment. -/
theorem ReadsAs.state_of_lineMarker {tok : Token} (h : R.ReadsAs s rest tok)
    (hkind : tok.kind = .lineComment) : tok.state = .lineComment := by
  have hchanges := (h.counts (by simp [hkind]) (by simp [hkind])).changes
  rw [h.state_eq]
  rw [hkind] at hchanges ⊢
  cases s with
  | code => rfl
  | lineComment | blockComment | literal q => exact absurd rfl hchanges

/-- Nothing counts in a line comment, so every character is taken by itself. -/
theorem ReadsAs.of_lineComment {tok : Token} (h : R.ReadsAs .lineComment rest tok) :
    tok.state = .lineComment ∧ tok.kind = .other ∧ tok.lexeme.length = 1 := by
  have hesc : ¬ R.EscapesHere .lineComment rest := by
    rintro ⟨⟨q, hq⟩, _⟩
    cases hq
  have hnone : ∀ m kind, ¬ R.Counts .lineComment rest m kind := by
    intro m kind hcounts
    exact hcounts.changes rfl
  obtain ⟨hkind, c, after, _, hlex⟩ := h.other hesc hnone
  refine ⟨?_, hkind, by rw [hlex]; rfl⟩
  rw [h.state_eq, hkind]
  rfl

theorem IsTokenization.of_lineComment (h : R.IsTokenization .lineComment t ts) :
    ∀ tok ∈ ts, tok.state = .lineComment ∧ tok.kind = .other ∧ tok.lexeme.length = 1 := by
  induction ts generalizing t with
  | nil => simp
  | cons tok ts ih =>
      have hfirst := (h.reads [] tok ts rfl).of_lineComment
      have htail := h.tail
      rw [hfirst.1] at htail
      exact List.forall_mem_cons.mpr ⟨hfirst, ih htail⟩

theorem IsTokenization.behind {before : List Token} (h : R.IsTokenization s t (before ++ ts)) :
    R.IsTokenization (stateAfter s before) (textOf ts) ts := by
  induction before generalizing s t with
  | nil =>
      have htext : textOf ts = t := h.text_eq
      rw [htext]
      exact h
  | cons tok before ih =>
      rw [stateAfter_cons]
      exact ih h.tail

end RuleSet

end LineJoin
