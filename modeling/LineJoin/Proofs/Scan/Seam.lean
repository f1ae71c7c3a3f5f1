import LineJoin.Proofs.Scan.Run
import Mathlib.Data.List.Find

/-!
# Seams

When two texts are put together, the scan of the whole is the scan of the first followed by the scan
of the second, provided that no token reaches over the seam. A marker can only reach over a seam at
which it is cut in two, and an escape marker only from the last character of the first text.

Three kinds of seam are settled here: before a character that is no part of a longer marker
(`before_alone`), inside a literal (`inside_literal`), and the cut off the end of characters that
stand in no marker (`cut_inert`). They hold of a scanner whose markers can be told apart at their
edges (`Scanner.Separable`). Seams at which two code texts touch depend on the brackets of a rule
set and are not settled here.
-/

namespace LineJoin.Scan

namespace State

@[simp] theorem next_other (s : State) : s.next .other = s := by cases s <;> rfl

@[simp] theorem next_escape (s : State) : s.next .escape = s := by cases s <;> rfl

theorem escapes_eq_true_iff {s : State} : s.escapes = true ↔ ∃ q, s = literal q := by
  cases s <;> simp [escapes]

end State

/-! ## Tokens that stay on one side of a seam -/

/-- A marker that stands across a seam is cut in two by it. -/
theorem prefix_append_cases {m r b : Text} (h : m <+: r ++ b) :
    m <+: r ∨ ∃ v, v ≠ [] ∧ m = r ++ v ∧ v <+: b := by
  rcases List.prefix_or_prefix_of_prefix h (List.prefix_append r b) with hm | ⟨v, rfl⟩
  · exact .inl hm
  · by_cases hv : v = []
    · exact .inl (by simp [hv])
    · exact .inr ⟨v, hv, rfl, (List.prefix_append_right_inj r).mp h⟩

namespace Scanner

variable {sc : Scanner} {s : State}

theorem token_append {r b : Text} (hr : r ≠ [])
    (hescape : sc.escapesAt s (r ++ b) = true → sc.escape.length < r.length)
    (hmarker : ∀ m ∈ sc.active s, m.text <+: r ++ b → m.text <+: r) :
    sc.token s (r ++ b) = sc.token s r := by
  cases hesc : sc.escapesAt s (r ++ b) with
  | true =>
      -- the escape marker and the character that it takes both lie before the seam
      obtain ⟨hs, hne, hpre⟩ := escapesAt_eq_true_iff.mp hesc
      have hlen := hescape hesc
      have hpre' : sc.escape <+: r :=
        List.prefix_of_prefix_length_le hpre (List.prefix_append r b) (Nat.le_of_lt hlen)
      rw [token_of_escapesAt hesc, token_of_escapesAt (escapesAt_eq_true_iff.mpr ⟨hs, hne, hpre'⟩),
        List.take_append_of_le_length hlen]
  | false =>
      have hesc' : sc.escapesAt s r = false := by
        rw [← Bool.not_eq_true, escapesAt_eq_true_iff] at hesc ⊢
        rintro ⟨hs, hne, hpre⟩
        exact hesc ⟨hs, hne, hpre.trans (List.prefix_append r b)⟩
      -- each marker is seen with the text behind the seam exactly when it is seen without it
      have hfind : (sc.active s).find? (·.text.isPrefixOf (r ++ b))
          = (sc.active s).find? (·.text.isPrefixOf r) := by
        apply List.find?_congr
        intro m hm
        rw [Bool.eq_iff_iff, List.isPrefixOf_iff_prefix, List.isPrefixOf_iff_prefix]
        exact ⟨hmarker m hm, fun h => h.trans (List.prefix_append r b)⟩
      have htake : (r ++ b).take 1 = r.take 1 :=
        List.take_append_of_le_length (List.length_pos_of_ne_nil hr)
      simp only [token, piece, hesc, hesc', hfind, htake, Bool.false_eq_true, ↓reduceIte]

end Scanner

namespace Run

variable {sc : Scanner} {s e : State} {t rest : Text} {ts : List Token}

/-- A run over a text is a run over the text with more after it, if each of its tokens stays the
same. -/
theorem append_text (h : Run sc s t ts e rest) {b : Text}
    (hseam : ∀ s' r us, r ≠ [] → r <:+ t → us ≠ [] → us <:+ ts → Run sc s' r us e rest →
      sc.token s' (r ++ b) = sc.token s' r) :
    Run sc s (t ++ b) ts e (rest ++ b) := by
  induction h with
  | done => exact .done
  | @step s e t rest ts hne h ih =>
      have htok := hseam s t _ hne List.suffix_rfl (List.cons_ne_nil _ _) List.suffix_rfl
        (.step hne h)
      have hlen : (sc.token s t).lexeme.length ≤ t.length := (sc.lexeme_start s t).length_le
      have hrest := ih fun s' r us hr hrt hus hsuf hrun =>
        hseam s' r us hr (hrt.trans (List.drop_suffix _ _)) hus
          (hsuf.trans (List.suffix_cons _ _)) hrun
      rw [← List.drop_append_of_le_length hlen, ← htok] at hrest
      rw [← htok]
      exact .step (by simp [hne]) hrest

/-- The tokens of a run, put together, are what it has taken of the text. -/
theorem text_eq (h : Run sc s t ts e rest) : t = (ts.map (·.lexeme)).flatten ++ rest := by
  induction h with
  | done => rfl
  | @step s e t rest ts _ _ ih =>
      rw [List.map_cons, List.flatten_cons, List.append_assoc, ← ih]
      exact (List.prefix_iff_eq_append.mp (sc.lexeme_start s t)).symm

theorem mem_of_mem_lexeme (h : Run sc s t ts e rest) {tok : Token} (htok : tok ∈ ts) {c : Char}
    (hc : c ∈ tok.lexeme) : c ∈ t := by
  rw [h.text_eq, List.mem_append, List.mem_flatten]
  exact .inl ⟨tok.lexeme, List.mem_map_of_mem htok, hc⟩

theorem eq_of_nil (h : Run sc s [] ts e rest) : ts = [] ∧ e = s ∧ rest = [] := by
  cases h with
  | done => exact ⟨rfl, rfl, rfl⟩
  | step hne => exact absurd rfl hne

end Run

/-! ## Characters that stand in no marker -/

/-- A character that stands in no marker. -/
def Scanner.Inert (sc : Scanner) (c : Char) : Prop := ∀ m ∈ sc.markers, c ∉ m.text

/-- Characters taken one at a time in a state that stays as it is. -/
def plain (s : State) (w : Text) : List Token := w.map fun c => ⟨s, .other, [c]⟩

theorem plain_kind {s : State} {w : Text} {tok : Token} (h : tok ∈ plain s w) :
    tok.kind = .other ∧ tok.state = s := by
  obtain ⟨_, _, rfl⟩ := List.mem_map.mp h
  exact ⟨rfl, rfl⟩

variable {sc : Scanner} {s e : State}

/-- Where no marker stands and nothing is escaped, a character is taken by itself. -/
theorem token_plain (hs : s.escapes = false) {c : Char} {t : Text}
    (hnone : ∀ m ∈ sc.active s, ¬ m.text <+: c :: t) : sc.token s (c :: t) = ⟨s, .other, [c]⟩ := by
  have hesc : sc.escapesAt s (c :: t) = false := by simp [Scanner.escapesAt, hs]
  rw [Scanner.token_of_no_marker hesc hnone]
  simp

theorem not_prefix_of_inert (hsc : sc.Solid) {c : Char} (hc : sc.Inert c) (t : Text) {m : Marker}
    (hm : m ∈ sc.active s) : ¬ m.text <+: c :: t := by
  intro hpre
  have hmem := (Scanner.mem_active.mp hm).1
  cases htext : m.text with
  | nil => exact hsc m hmem htext
  | cons d ds =>
      rw [htext, List.cons_prefix_cons] at hpre
      exact hc m hmem (by simp [htext, hpre.1])

/-- One character that is taken by itself, and the run goes on behind it. -/
theorem Run.plain_cons (hs : s.escapes = false) {c : Char} {t rest : Text} {ts : List Token}
    (hnone : ∀ m ∈ sc.active s, ¬ m.text <+: c :: t) (h : Run sc s t ts e rest) :
    Run sc s (c :: t) (⟨s, .other, [c]⟩ :: ts) e rest :=
  .cons_of_token (token_plain hs hnone) (List.cons_ne_nil c t) h

/-- Outside literals, characters that stand in no marker are passed over. -/
theorem Run.skip_inert (hsc : sc.Solid) (hs : s.escapes = false) {w : Text}
    (hw : ∀ c ∈ w, sc.Inert c) (t : Text) : Run sc s (w ++ t) (plain s w) s t := by
  induction w with
  | nil => exact .done
  | cons c w ih =>
      have hrest := ih fun d hd => hw d (List.mem_cons_of_mem c hd)
      apply Run.plain_cons hs _ hrest
      intro m hm
      exact not_prefix_of_inert hsc (hw c List.mem_cons_self) _ hm

/-! ## Separable scanners -/

/-- A scanner whose markers can be told apart at their edges: they have text, no blank and no escape
marker stands in them, and a quote stands in no longer one. -/
structure Scanner.Separable (sc : Scanner) : Prop where
  solid : sc.Solid
  spellsQuotes : sc.SpellsQuotes
  escape_eq : sc.escape = ['\\']
  escape_inert : sc.Inert '\\'
  blank_inert : ∀ c, Text.isBlank c = true → sc.Inert c
  quote_alone : ∀ m ∈ sc.markers, ∀ q : Quote, q.char ∈ m.text → m.text.length = 1

/-- An escape at the end of a text, with nothing left to take out of play. -/
def Token.isCutShort (sc : Scanner) (tok : Token) : Bool :=
  tok.kind == .escape && decide (tok.lexeme.length ≤ sc.escape.length)

theorem escapesAt_of_kind {t : Text} (h : (sc.token s t).kind = .escape) :
    sc.escapesAt s t = true := by
  rcases Scanner.token_cases sc s t with ⟨hesc, _⟩ | ⟨_, m, hm, _, htok⟩ | ⟨_, _, htok⟩
  · exact hesc
  · -- no state reacts to an escape, so no marker is one
    have hreact := (Scanner.mem_active.mp hm).2
    rw [htok] at h
    simp only at h
    simp [State.reactsTo, h] at hreact
  · rw [htok] at h
    cases h

/-- Only the last token of a run can be cut short, and it is then the whole rest of the text. -/
theorem eq_of_isCutShort (hsc : sc.Separable) {t : Text} (ht : t ≠ [])
    (h : (sc.token s t).isCutShort sc = true) :
    t = ['\\'] ∧ s.escapes = true ∧ sc.token s t = ⟨s, .escape, ['\\']⟩ := by
  simp only [Token.isCutShort, Bool.and_eq_true, beq_iff_eq, decide_eq_true_eq, hsc.escape_eq,
    List.length_singleton] at h
  have hesc := escapesAt_of_kind h.1
  obtain ⟨hs, _, hpre⟩ := Scanner.escapesAt_eq_true_iff.mp hesc
  have htok := Scanner.token_of_escapesAt hesc
  rw [hsc.escape_eq] at hpre htok
  obtain ⟨rest, rfl⟩ := hpre
  rw [htok] at h
  have hrest : rest = [] := by
    cases rest with
    | nil => rfl
    | cons c cs => simp at h
  subst hrest
  exact ⟨rfl, hs, by simpa using htok⟩

/-- Inside a literal a backslash at the end of a text is taken without the character that it waits
for. -/
theorem Run.escape_at_end (hsc : sc.Separable) (q : Quote) :
    Run sc (.literal q) ['\\'] [⟨.literal q, .escape, ['\\']⟩] (.literal q) [] := by
  have hesc : sc.escapesAt (.literal q) ['\\'] = true :=
    Scanner.escapesAt_eq_true_iff.mpr ⟨rfl, by simp [hsc.escape_eq], by simp [hsc.escape_eq]⟩
  have htok : sc.token (.literal q) ['\\'] = ⟨.literal q, .escape, ['\\']⟩ := by
    rw [Scanner.token_of_escapesAt hesc]
    simp [hsc.escape_eq]
  exact .cons_of_token htok (List.cons_ne_nil _ _) .done

theorem Run.not_isCutShort (hsc : sc.Separable) {t rest : Text} {ts us : List Token}
    (h : Run sc s t (ts ++ us) e rest) (hus : us ≠ [] ∨ rest ≠ []) {tok : Token}
    (htok : tok ∈ ts) : tok.isCutShort sc = false := by
  obtain ⟨before, after, rfl⟩ := List.append_of_mem htok
  rw [List.append_assoc] at h
  obtain ⟨f, r, _, h⟩ := h.split
  cases h with
  | step hne h =>
      rw [← Bool.not_eq_true]
      intro hcut
      -- the token takes all that is left, so that nothing can come after it
      obtain ⟨hr, _, htok⟩ := eq_of_isCutShort hsc hne hcut
      rw [htok, hr] at h
      obtain ⟨hnil, _, hrest⟩ := Run.eq_of_nil h
      rcases hus with hus | hus
      · exact hus (List.append_eq_nil_iff.mp hnil).2
      · exact hus hrest

/-- An escape marker that reaches over a seam stands alone before it. -/
theorem token_of_escape_at_seam (hsc : sc.Separable) {r b : Text} (hr : r ≠ [])
    (hesc : sc.escapesAt s (r ++ b) = true) (hlen : ¬ sc.escape.length < r.length) :
    r = ['\\'] ∧ s.escapes = true ∧ sc.token s r = ⟨s, .escape, ['\\']⟩ := by
  obtain ⟨hs, hne, hpre⟩ := Scanner.escapesAt_eq_true_iff.mp hesc
  rw [hsc.escape_eq, List.length_singleton, Nat.not_lt] at hlen
  obtain ⟨c, rfl⟩ : ∃ c, r = [c] := by
    rw [← List.length_eq_one_iff]
    have := List.length_pos_of_ne_nil hr
    omega
  obtain rfl : '\\' = c := by
    rw [hsc.escape_eq] at hpre
    simpa using hpre
  have hesc' : sc.escapesAt s ['\\'] = true :=
    Scanner.escapesAt_eq_true_iff.mpr ⟨hs, hne, by simp [hsc.escape_eq]⟩
  refine ⟨rfl, hs, ?_⟩
  rw [Scanner.token_of_escapesAt hesc']
  simp [hsc.escape_eq]

/-! ## Seams before a character that stands in no marker -/

/-- A text that does not end inside a literal does not end with an escape marker that counts. -/
theorem Run.escape_lt_of_seam (hsc : sc.Separable) {r b : Text} {ts : List Token} (hr : r ≠ [])
    (h : Run sc s r ts e []) (he : e.escapes = false) (hesc : sc.escapesAt s (r ++ b) = true) :
    sc.escape.length < r.length := by
  by_contra hlen
  obtain ⟨rfl, hs, htok⟩ := token_of_escape_at_seam hsc hr hesc hlen
  cases h with
  | step _ hrest =>
      rw [htok] at hrest
      obtain ⟨_, rfl, _⟩ := hrest.eq_of_nil
      rw [hs] at he
      cases he

/-- Outside literals, a text is scanned by itself when a character comes after it that stands in no
marker but one of its own. -/
theorem Run.before_alone (hsc : sc.Separable) {t : Text} {ts : List Token} (h : Run sc s t ts e [])
    (he : e.escapes = false) {c : Char}
    (hc : ∀ m ∈ sc.markers, c ∈ m.text → m.text.length = 1) (b : Text) :
    Run sc s (t ++ c :: b) ts e (c :: b) := by
  apply h.append_text
  intro s' r us hr _ _ _ hrun
  apply Scanner.token_append hr
  · exact hrun.escape_lt_of_seam hsc hr he
  · intro m hm hpre
    rcases prefix_append_cases hpre with hpre | ⟨v, hv, htext, hvb⟩
    · exact hpre
    · exfalso
      obtain ⟨d, v, rfl⟩ := List.exists_cons_of_ne_nil hv
      obtain ⟨rfl, _⟩ := List.cons_prefix_cons.mp hvb
      have hone := hc m (Scanner.mem_active.mp hm).1 (by simp [htext])
      have hrpos := List.length_pos_of_ne_nil hr
      rw [htext, List.length_append, List.length_cons] at hone
      omega

theorem Run.before_inert (hsc : sc.Separable) {t : Text} {ts : List Token} (h : Run sc s t ts e [])
    (he : e.escapes = false) {c : Char} (hc : sc.Inert c) (b : Text) :
    Run sc s (t ++ c :: b) ts e (c :: b) :=
  h.before_alone hsc he (fun m hm hmem => absurd hmem (hc m hm)) b

/-- A text too short for any marker that the state reacts to leaves the state as it is. -/
theorem Run.stays_short {t : Text} {ts : List Token} (h : Run sc s t ts e [])
    (hs : s.escapes = false) (hlen : ∀ m ∈ sc.active s, t.length < m.text.length) : e = s := by
  induction ts generalizing t with
  | nil => cases h; rfl
  | cons tok ts ih =>
      cases h with
      | step hne h =>
          obtain ⟨c, cs, rfl⟩ := List.exists_cons_of_ne_nil hne
          have htok : sc.token s (c :: cs) = ⟨s, .other, [c]⟩ := by
            apply token_plain hs
            intro m hm hpre
            exact absurd hpre.length_le (Nat.not_le.mpr (hlen m hm))
          rw [htok] at h
          apply ih h
          intro m hm
          exact Nat.lt_of_succ_lt (hlen m hm)

/-! ## Seams inside a literal -/

/-- A literal is opened by its quote. -/
theorem Run.escapes_eq_false (hsc : sc.Separable) {t rest : Text} {ts : List Token}
    (h : Run sc s t ts e rest) (hs : s.escapes = false) (hquote : ∀ q : Quote, q.char ∉ t) :
    e.escapes = false := by
  rw [← Bool.not_eq_true, State.escapes_eq_true_iff]
  rintro ⟨q, he⟩
  rcases h.lastQuote_eq hsc.spellsQuotes he with hlast | ⟨_, rfl⟩
  · obtain ⟨tok, htok, hlex⟩ := Option.map_eq_some_iff.mp hlast
    have hmem := (List.mem_filter.mp (List.mem_of_getLast? htok)).1
    exact hquote q (h.mem_of_mem_lexeme hmem (by simp [hlex]))
  · cases hs

/-- The only marker that a literal reacts to is its quote. -/
theorem eq_of_active_literal (hsc : sc.Separable) {q : Quote} {m : Marker}
    (hm : m ∈ sc.active (.literal q)) : m.text = [q.char] ∧ m.kind = .quote q := by
  obtain ⟨hmem, hreact⟩ := Scanner.mem_active.mp hm
  cases hk : m.kind with
  | quote p =>
      have hpq : p = q := by
        by_contra hne
        simp [State.reactsTo, State.next, hk, hne] at hreact
      subst hpq
      exact ⟨hsc.spellsQuotes m hmem p hk, rfl⟩
  | lineComment | blockOpen | blockClose | escape | other =>
      simp [State.reactsTo, State.next, hk] at hreact

theorem length_eq_one_of_active (hsc : sc.Separable) {q : Quote} {m : Marker}
    (hm : m ∈ sc.active (.literal q)) : m.text.length = 1 := by
  rw [(eq_of_active_literal hsc hm).1]
  rfl

/-- Inside a literal a backslash takes the character after it, whatever it is. -/
theorem Run.escaped_cons (hsc : sc.Separable) {q : Quote} {t rest : Text} {ts : List Token}
    (c : Char) (h : Run sc (.literal q) t ts e rest) :
    Run sc (.literal q) ('\\' :: c :: t) (⟨.literal q, .escape, ['\\', c]⟩ :: ts) e rest := by
  have hesc : sc.escapesAt (.literal q) ('\\' :: c :: t) = true :=
    Scanner.escapesAt_eq_true_iff.mpr ⟨rfl, by simp [hsc.escape_eq], by simp [hsc.escape_eq]⟩
  have htok : sc.token (.literal q) ('\\' :: c :: t) = ⟨.literal q, .escape, ['\\', c]⟩ := by
    rw [Scanner.token_of_escapesAt hesc]
    simp [hsc.escape_eq]
  exact .cons_of_token htok (List.cons_ne_nil _ _) h

/-- Inside a literal a character that is neither a backslash nor the quote is taken by itself. -/
theorem Run.literal_cons (hsc : sc.Separable) {q : Quote} {c : Char} {t rest : Text}
    {ts : List Token} (hc : c ≠ '\\') (hquote : c ≠ q.char)
    (h : Run sc (.literal q) t ts e rest) :
    Run sc (.literal q) (c :: t) (⟨.literal q, .other, [c]⟩ :: ts) e rest := by
  have hesc : sc.escapesAt (.literal q) (c :: t) = false := by
    rw [← Bool.not_eq_true, Scanner.escapesAt_eq_true_iff, hsc.escape_eq]
    rintro ⟨_, _, hpre⟩
    exact hc (List.cons_prefix_cons.mp hpre).1.symm
  have htok : sc.token (.literal q) (c :: t) = ⟨.literal q, .other, [c]⟩ := by
    rw [Scanner.token_of_no_marker hesc]
    · rfl
    · intro m hm hpre
      rw [(eq_of_active_literal hsc hm).1] at hpre
      exact hquote (List.cons_prefix_cons.mp hpre).1.symm
  exact .cons_of_token htok (List.cons_ne_nil _ _) h

/-- Inside a literal whose last token is complete, what comes after is scanned by itself. -/
theorem Run.inside_literal (hsc : sc.Separable) {t rest : Text} {ts : List Token} {q : Quote}
    (h : Run sc s t ts (.literal q) rest) (hcut : ∀ tok ∈ ts, tok.isCutShort sc = false)
    (b : Text) : Run sc s (t ++ b) ts (.literal q) (rest ++ b) := by
  apply h.append_text
  intro s' r us hr _ hus hsuf hrun
  apply Scanner.token_append hr
  · intro hesc
    by_contra hlen
    obtain ⟨_, _, htok⟩ := token_of_escape_at_seam hsc hr hesc hlen
    cases hrun with
    | done => exact hus rfl
    | step _ _ =>
        have hfalse := hcut _ (hsuf.subset List.mem_cons_self)
        rw [htok] at hfalse
        simp [Token.isCutShort, hsc.escape_eq] at hfalse
  · intro m hm hpre
    rcases prefix_append_cases hpre with hpre | ⟨v, hv, htext, _⟩
    · exact hpre
    · exfalso
      have hlong : 1 < m.text.length := by
        have := List.length_pos_of_ne_nil hr
        have := List.length_pos_of_ne_nil hv
        rw [htext, List.length_append]
        omega
      cases hs : s'.escapes with
      | true =>
          obtain ⟨p, rfl⟩ := State.escapes_eq_true_iff.mp hs
          have := length_eq_one_of_active hsc hm
          omega
      | false =>
          -- half of a marker holds no quote, and so opens no literal
          have hfalse := hrun.escapes_eq_false hsc hs fun p hp => by
            have := hsc.quote_alone m (Scanner.mem_active.mp hm).1 p (by simp [htext, hp])
            omega
          cases hfalse

/-- Whether tokens end with an escape that is cut short. -/
def Scanner.endsCutShort (sc : Scanner) (ts : List Token) : Bool :=
  ts.getLast?.any (·.isCutShort sc)

theorem Scanner.endsCutShort_append {ts us : List Token} (h : us ≠ []) :
    sc.endsCutShort (ts ++ us) = sc.endsCutShort us := by
  rw [endsCutShort, List.getLast?_append_of_ne_nil _ h, endsCutShort]

/-- A text that ends with an escape which is cut short ends inside a literal. -/
theorem Run.escapes_of_endsCutShort (hsc : sc.Separable) {t : Text} {ts : List Token}
    (h : Run sc s t ts e []) (hcut : sc.endsCutShort ts = true) :
    e.escapes = true ∧
      ∃ us, ts = us ++ [⟨e, .escape, ['\\']⟩] ∧ Run sc s t us e ['\\'] := by
  obtain ⟨tok, htok, hshort⟩ := Option.any_eq_true _ _ |>.mp hcut
  obtain ⟨us, rfl⟩ := List.getLast?_eq_some_iff.mp htok
  obtain ⟨f, r, hus, hlast⟩ := h.split
  cases hlast with
  | step hne hlast =>
      obtain ⟨rfl, hf, htok⟩ := eq_of_isCutShort hsc hne hshort
      rw [htok] at hlast ⊢
      obtain ⟨_, rfl, _⟩ := hlast.eq_of_nil
      exact ⟨hf, us, rfl, hus⟩

/-- Inside a literal, what comes after a text is scanned by itself, but for the first character when
the text ends with an escape that waits for it. -/
theorem Run.resume_literal (hsc : sc.Separable) {t : Text} {ts : List Token} {q : Quote}
    (h : Run sc s t ts (.literal q) []) {b : Text} (hb : sc.endsCutShort ts = true → b ≠ []) :
    ∃ us, sc.endsCutShort us = false ∧
      Run sc s (t ++ b) us (.literal q) (if sc.endsCutShort ts = true then b.drop 1 else b) := by
  cases hcut : sc.endsCutShort ts with
  | false =>
      refine ⟨ts, hcut, h.inside_literal hsc ?_ b⟩
      intro tok htok
      -- the last token is complete by assumption, those before it because text is left
      rcases List.eq_nil_or_concat' ts with rfl | ⟨us, last, rfl⟩
      · cases htok
      · rcases List.mem_append.mp htok with htok | htok
        · exact h.not_isCutShort hsc (.inl (List.cons_ne_nil _ _)) htok
        · obtain rfl := List.mem_singleton.mp htok
          simpa [Scanner.endsCutShort] using hcut
  | true =>
      -- the escape is scanned anew, now with the character that it takes
      obtain ⟨c, b, rfl⟩ := List.exists_cons_of_ne_nil (hb hcut)
      obtain ⟨_, us, rfl, hus⟩ := h.escapes_of_endsCutShort hsc hcut
      have hseam := hus.inside_literal hsc
        (fun tok htok => h.not_isCutShort hsc (.inl (List.cons_ne_nil _ _)) htok) (c :: b)
      have hstep : Run sc (.literal q) ('\\' :: c :: b) [⟨.literal q, .escape, ['\\', c]⟩]
          (.literal q) b := Run.escaped_cons hsc c .done
      refine ⟨us ++ [⟨.literal q, .escape, ['\\', c]⟩], ?_, ?_⟩
      · rw [Scanner.endsCutShort_append (List.cons_ne_nil _ _)]
        simp [Scanner.endsCutShort, Token.isCutShort, hsc.escape_eq]
      · simpa using hseam.append hstep

/-! ## Cutting the end off -/

/-- Characters that stand in no marker close no literal. -/
theorem Run.stays_literal {w : Text} {ts : List Token} {q : Quote} (hsc : sc.Separable)
    (h : Run sc (.literal q) w ts e []) (hw : ∀ c ∈ w, sc.Inert c) : e = .literal q := by
  induction ts generalizing w with
  | nil => cases h; rfl
  | cons tok ts ih =>
      cases h with
      | step hne h =>
          have hstate : (sc.token (.literal q) w).state = .literal q := by
            rcases Scanner.token_cases sc (.literal q) w with
              ⟨_, htok⟩ | ⟨_, m, hm, hpre, _⟩ | ⟨_, _, htok⟩
            · simp [htok]
            · obtain ⟨c, cs, rfl⟩ := List.exists_cons_of_ne_nil hne
              exact absurd hpre (not_prefix_of_inert hsc.solid (hw c List.mem_cons_self) cs hm)
            · simp [htok]
          rw [hstate] at h
          exact ih h fun c hc => hw c (List.mem_of_mem_drop hc)

theorem Run.exists_literal_append (hsc : sc.Separable) {t w : Text} {ts : List Token} {q : Quote}
    (h : Run sc s t ts (.literal q) []) (hw : ∀ c ∈ w, sc.Inert c) :
    ∃ us, Run sc s (t ++ w) us (.literal q) [] := by
  by_cases hnil : w = []
  · subst hnil
    exact ⟨ts, by simpa using h⟩
  · obtain ⟨us, _, hus⟩ := h.resume_literal hsc (b := w) (fun _ => hnil)
    obtain ⟨vs, f, hvs, _⟩ := exists_run hsc.solid (.literal q)
      (if sc.endsCutShort ts = true then w.drop 1 else w)
    have hf := hvs.stays_literal hsc fun c hc => hw c (by
      split at hc
      · exact List.mem_of_mem_drop hc
      · exact hc)
    rw [hf] at hvs
    exact ⟨us ++ vs, hus.append hvs⟩

/-- Outside literals, characters that stand in no marker can be cut off the end, and nothing else
about the scan changes. -/
theorem Run.cut_inert (hsc : sc.Separable) {t w : Text} {ts : List Token}
    (h : Run sc s (t ++ w) ts e []) (he : e.escapes = false) (hw : ∀ c ∈ w, sc.Inert c) :
    ∃ us, ts = us ++ plain e w ∧ Run sc s t us e [] := by
  obtain ⟨us, f, hus, _⟩ := exists_run hsc.solid s t
  cases hf : f.escapes with
  | true =>
      -- a literal that is open before the cut would still be open after it
      obtain ⟨q, rfl⟩ := State.escapes_eq_true_iff.mp hf
      obtain ⟨vs, hvs⟩ := hus.exists_literal_append hsc hw
      obtain ⟨_, rfl⟩ := h.deterministic hvs
      cases he
  | false =>
      have hseam : Run sc s (t ++ w) us f w := by
        cases w with
        | nil => simpa using hus
        | cons c w => exact hus.before_inert hsc hf (hw c List.mem_cons_self) w
      have hskip := Run.skip_inert hsc.solid hf hw []
      rw [List.append_nil] at hskip
      obtain ⟨rfl, rfl⟩ := h.deterministic (hseam.append hskip)
      exact ⟨us, rfl, hus⟩

end LineJoin.Scan
