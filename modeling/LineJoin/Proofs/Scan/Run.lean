import LineJoin.Context
import Mathlib.Data.List.Basic

/-!
# Runs of a scanner

`Run sc s t ts e rest` says that a scanner which stands in state `s` before the text `t` makes the
tokens `ts` and then stands in state `e` before `rest`. Each token is made with everything that
follows it in sight, so runs can be put end to end without cutting a longest match in two.

A scan that ends is a run with nothing left (`scanWithin_eq_some_iff`). Of a rule set's runs two
more things are said here: they end when every marker has text (`exists_run`), and the context that
is read off the tokens depends on the last state alone (`ofTokens_eq_context`).
-/

namespace LineJoin.Scan

/-! ## The relation -/

/-- From a state before a text, over tokens, to a state before the rest of the text. -/
inductive Run (sc : Scanner) : State → Text → List Token → State → Text → Prop
  | done {s : State} {t : Text} : Run sc s t [] s t
  | step {s e : State} {t rest : Text} {ts : List Token} :
      t ≠ [] → Run sc (sc.token s t).state (t.drop (sc.token s t).lexeme.length) ts e rest →
      Run sc s t (sc.token s t :: ts) e rest

namespace Run

variable {sc : Scanner} {s e f : State} {t rest : Text} {ts us : List Token}

/-- A token that is known, and the run behind it. -/
theorem cons_of_token {tok : Token} (htok : sc.token s t = tok) (ht : t ≠ [])
    (h : Run sc tok.state (t.drop tok.lexeme.length) ts e rest) :
    Run sc s t (tok :: ts) e rest := by
  subst htok
  exact .step ht h

theorem append (first : Run sc s t ts e rest) {last : Text} (second : Run sc e rest us f last) :
    Run sc s t (ts ++ us) f last := by
  induction first with
  | done => exact second
  | step hne _ ih => exact .step hne (ih second)

theorem split {last : Text} (h : Run sc s t (ts ++ us) f last) :
    ∃ e rest, Run sc s t ts e rest ∧ Run sc e rest us f last := by
  induction ts generalizing s t with
  | nil => exact ⟨s, t, .done, h⟩
  | cons tok ts ih =>
      cases h with
      | step hne h =>
          obtain ⟨e, rest, hts, hus⟩ := ih h
          exact ⟨e, rest, .step hne hts, hus⟩

/-- A scanner has no choice: a text that is scanned to its end is scanned in one way. -/
theorem deterministic (h : Run sc s t ts e []) (h' : Run sc s t us f []) : ts = us ∧ e = f := by
  induction ts generalizing s t us with
  | nil =>
      cases h
      cases h' with
      | done => exact ⟨rfl, rfl⟩
      | step hne => exact absurd rfl hne
  | cons tok ts ih =>
      cases h with
      | step hne h =>
          cases h' with
          | done => exact absurd rfl hne
          | step _ h' =>
              obtain ⟨rfl, rfl⟩ := ih h h'
              exact ⟨rfl, rfl⟩

/-- The state at the end is the one after the last token. -/
theorem end_eq (h : Run sc s t ts e rest) : e = (ts.getLast?.map (·.state)).getD s := by
  induction h with
  | done => rfl
  | @step s e t rest ts _ _ ih =>
      rw [List.getLast?_cons]
      cases hts : ts.getLast? with
      | none => rw [hts] at ih; exact ih
      | some tok => rw [hts] at ih; exact ih

end Run

/-! ## Scans that end -/

/-- A scan within a budget ends exactly when a run reaches the end of the text in that many
tokens. -/
theorem scanWithin_eq_some_iff {sc : Scanner} {n : Nat} {s : State} {t : Text} {ts : List Token} :
    sc.scanWithin n s t = some ts ↔ ts.length ≤ n ∧ ∃ e, Run sc s t ts e [] := by
  -- on the budget: it pays for one token at a time, whatever the token takes of the text
  induction n generalizing s t ts with
  | zero =>
      cases t with
      | nil =>
          simp only [Scanner.scanWithin, Option.some.injEq]
          constructor
          · rintro rfl
            exact ⟨Nat.le_refl 0, s, .done⟩
          · rintro ⟨hlen, _⟩
            exact (List.length_eq_zero_iff.mp (Nat.le_zero.mp hlen)).symm
      | cons c cs =>
          simp only [Scanner.scanWithin, reduceCtorEq, false_iff, not_and]
          rintro hlen ⟨e, h⟩
          rw [List.length_eq_zero_iff.mp (Nat.le_zero.mp hlen)] at h
          cases h
  | succ n ih =>
      cases t with
      | nil =>
          simp only [Scanner.scanWithin, Option.some.injEq]
          constructor
          · rintro rfl
            exact ⟨Nat.zero_le _, s, .done⟩
          · rintro ⟨_, e, h⟩
            cases h with
            | done => rfl
            | step hne => exact absurd rfl hne
      | cons c cs =>
          simp only [Scanner.scanWithin, Option.map_eq_some_iff]
          constructor
          · rintro ⟨us, hus, rfl⟩
            obtain ⟨hlen, e, h⟩ := ih.mp hus
            exact ⟨Nat.succ_le_succ hlen, e, .step (List.cons_ne_nil c cs) h⟩
          · rintro ⟨hlen, e, h⟩
            cases h with
            | @step _ _ _ _ us _ h =>
                exact ⟨us, ih.mpr ⟨Nat.le_of_succ_le_succ hlen, e, h⟩, rfl⟩

theorem scanFrom_eq_some_iff {sc : Scanner} {s : State} {t : Text} {ts : List Token} :
    sc.scanFrom s t = some ts ↔ ts.length ≤ 2 * t.length ∧ ∃ e, Run sc s t ts e [] :=
  scanWithin_eq_some_iff

/-! ## One token -/

namespace Scanner

variable {sc : Scanner} {s : State} {t : Text}

theorem mem_active {m : Marker} : m ∈ sc.active s ↔ m ∈ sc.markers ∧ s.reactsTo m.kind = true :=
  List.mem_filter

theorem escapesAt_eq_true_iff :
    sc.escapesAt s t = true ↔ s.escapes = true ∧ sc.escape ≠ [] ∧ sc.escape <+: t := by
  simp [escapesAt, and_assoc, List.isPrefixOf_iff_prefix]

theorem token_of_escapesAt (h : sc.escapesAt s t = true) :
    sc.token s t = ⟨s.next .escape, .escape, t.take (sc.escape.length + 1)⟩ := by
  simp [token, piece, h]

/-- Where no marker stands, one character is taken. -/
theorem token_of_no_marker (hesc : sc.escapesAt s t = false)
    (hnone : ∀ m ∈ sc.active s, ¬ m.text <+: t) :
    sc.token s t = ⟨s.next .other, .other, t.take 1⟩ := by
  have hfind : (sc.active s).find? (·.text.isPrefixOf t) = none := by
    rw [List.find?_eq_none]
    intro m hm
    rw [List.isPrefixOf_iff_prefix]
    exact hnone m hm
  simp [token, piece, hesc, hfind]

/-- What one token can be: an escape, a marker that the state reacts to, or one character. -/
theorem token_cases (sc : Scanner) (s : State) (t : Text) :
    (sc.escapesAt s t = true ∧
      sc.token s t = ⟨s.next .escape, .escape, t.take (sc.escape.length + 1)⟩) ∨
    (sc.escapesAt s t = false ∧ ∃ m ∈ sc.active s, m.text <+: t ∧
      sc.token s t = ⟨s.next m.kind, m.kind, m.text⟩) ∨
    (sc.escapesAt s t = false ∧ (∀ m ∈ sc.active s, ¬ m.text <+: t) ∧
      sc.token s t = ⟨s.next .other, .other, t.take 1⟩) := by
  cases hesc : sc.escapesAt s t with
  | true => exact .inl ⟨rfl, token_of_escapesAt hesc⟩
  | false =>
      cases hfind : (sc.active s).find? (·.text.isPrefixOf t) with
      | none =>
          have hnone : ∀ m ∈ sc.active s, ¬ m.text <+: t := by
            intro m hm hpre
            have := List.find?_eq_none.mp hfind m hm
            exact this (List.isPrefixOf_iff_prefix.mpr hpre)
          exact .inr (.inr ⟨rfl, hnone, token_of_no_marker hesc hnone⟩)
      | some m =>
          have hpos : m.text.isPrefixOf t = true := by simpa using List.find?_some hfind
          have hpre : m.text <+: t := List.isPrefixOf_iff_prefix.mp hpos
          refine .inr (.inl ⟨rfl, m, List.mem_of_find?_eq_some hfind, hpre, ?_⟩)
          simp [token, piece, hesc, hfind]

/-- A token is the start of the text it is made from. -/
theorem lexeme_start (sc : Scanner) (s : State) (t : Text) : (sc.token s t).lexeme <+: t := by
  rcases token_cases sc s t with ⟨_, h⟩ | ⟨_, m, _, hpre, h⟩ | ⟨_, _, h⟩
  · rw [h]; exact List.take_prefix _ _
  · rw [h]; exact hpre
  · rw [h]; exact List.take_prefix _ _

/-- Every marker has text. -/
def Solid (sc : Scanner) : Prop := ∀ m ∈ sc.markers, m.text ≠ []

theorem lexeme_ne_nil (hsc : sc.Solid) (s : State) (ht : t ≠ []) : (sc.token s t).lexeme ≠ [] := by
  rcases token_cases sc s t with ⟨_, h⟩ | ⟨_, m, hm, _, h⟩ | ⟨_, _, h⟩
  · simp [h, ht]
  · rw [h]; exact hsc m (mem_active.mp hm).1
  · simp [h, ht]

/-- A token with text leaves less of it. -/
theorem drop_lexeme_length_lt {s : State} (ht : t ≠ []) (hlex : (sc.token s t).lexeme ≠ []) :
    (t.drop (sc.token s t).lexeme.length).length < t.length := by
  have hpos := List.length_pos_of_ne_nil hlex
  have htpos := List.length_pos_of_ne_nil ht
  rw [List.length_drop]
  omega

end Scanner

/-- When every marker has text, each token takes some of it, so the scan ends after at most one
token for each character. -/
theorem exists_run {sc : Scanner} (hsc : sc.Solid) (s : State) (t : Text) :
    ∃ ts e, Run sc s t ts e [] ∧ ts.length ≤ t.length := by
  -- on the length of the text, since a token can take several characters at once
  induction hn : t.length using Nat.strongRecOn generalizing s t with
  | _ n ih =>
      by_cases ht : t = []
      · subst ht
        exact ⟨[], s, .done, Nat.zero_le _⟩
      · have hlt := Scanner.drop_lexeme_length_lt ht (Scanner.lexeme_ne_nil hsc s ht)
        obtain ⟨ts, e, h, hlen⟩ := ih _ (hn ▸ hlt) (sc.token s t).state _ rfl
        refine ⟨sc.token s t :: ts, e, .step ht h, ?_⟩
        rw [List.length_cons]
        omega

theorem scanFrom_of_run {sc : Scanner} (hsc : sc.Solid) {s e : State} {t : Text} {ts : List Token}
    (h : Run sc s t ts e []) : sc.scanFrom s t = some ts := by
  obtain ⟨us, f, h', hlen⟩ := exists_run hsc s t
  obtain ⟨rfl, _⟩ := h.deterministic h'
  exact scanFrom_eq_some_iff.mpr ⟨by omega, e, h⟩

/-! ## The context of a state -/

/-- What a state leaves open. -/
def State.context : State → Context
  | code => ⟨.code, none⟩
  | lineComment => ⟨.lineComment, none⟩
  | blockComment => ⟨.blockComment, none⟩
  | literal q => ⟨.literal, some [q.char]⟩

theorem Quote.char_injective {p q : Quote} (h : p.char = q.char) : p = q := by
  cases p <;> cases q <;> first | rfl | exact absurd h (by decide)

theorem State.context_injective {s e : State} (h : s.context = e.context) : s = e := by
  cases s <;> cases e <;> simp only [State.context, Context.mk.injEq, reduceCtorEq, and_false,
    Option.some.injEq, List.cons.injEq, and_true, true_and] at h ⊢
  exact congrArg literal (Quote.char_injective h)

/-- The last quote among tokens. -/
def lastQuote (ts : List Token) : Option Text :=
  (ts.filter (·.kind.isQuote)).getLast?.map (·.lexeme)

theorem lastQuote_cons_of_quote {tok : Token} (h : tok.kind.isQuote = true) (ts : List Token) :
    lastQuote (tok :: ts) = some ((lastQuote ts).getD tok.lexeme) := by
  have hfilter : (tok :: ts).filter (·.kind.isQuote) = tok :: ts.filter (·.kind.isQuote) := by
    rw [List.filter_cons, if_pos h]
  rw [lastQuote, hfilter, List.getLast?_cons, lastQuote]
  cases (ts.filter (·.kind.isQuote)).getLast? <;> rfl

theorem lastQuote_cons_of_not_quote {tok : Token} (h : tok.kind.isQuote = false)
    (ts : List Token) : lastQuote (tok :: ts) = lastQuote ts := by
  rw [lastQuote, List.filter_cons_of_neg (by simp [h]), lastQuote]

/-- A quote is written as its character. -/
def Scanner.SpellsQuotes (sc : Scanner) : Prop :=
  ∀ m ∈ sc.markers, ∀ q, m.kind = .quote q → m.text = [q.char]

theorem State.eq_literal_of_next {s : State} {kind : TokenKind} {q : Quote}
    (hkind : kind.isQuote = false) (h : s.next kind = .literal q) : s = .literal q := by
  cases s <;> cases kind <;> simp_all [State.next, TokenKind.isQuote]

/-- Only code reacts to a quote by opening a literal. -/
theorem State.eq_of_next_quote {s : State} {p q : Quote} (hreact : s.reactsTo (.quote p) = true)
    (h : s.next (.quote p) = .literal q) : p = q := by
  cases s with
  | code => simpa [State.next] using h
  | lineComment => simp [State.next] at h
  | blockComment => simp [State.next] at h
  | literal r =>
      by_cases hpr : p = r
      · simp [State.next, hpr] at h
      · simp [State.reactsTo, State.next, hpr] at hreact

/-- A token after which a literal is open is the quote that opened it, or no quote at all and the
literal was open before. -/
theorem token_state_eq_literal {sc : Scanner} (hsc : sc.SpellsQuotes) {s : State} {t : Text}
    {q : Quote} (h : (sc.token s t).state = .literal q) :
    (sc.token s t).kind.isQuote = true ∧ (sc.token s t).lexeme = [q.char] ∨
      (sc.token s t).kind.isQuote = false ∧ s = .literal q := by
  cases hq : (sc.token s t).kind.isQuote with
  | false => exact .inr ⟨rfl, State.eq_literal_of_next hq h⟩
  | true =>
      refine .inl ⟨rfl, ?_⟩
      rcases Scanner.token_cases sc s t with ⟨_, htok⟩ | ⟨_, m, hm, _, htok⟩ | ⟨_, _, htok⟩
      · simp [htok, TokenKind.isQuote] at hq
      · obtain ⟨hmem, hreact⟩ := Scanner.mem_active.mp hm
        rw [htok] at h hq ⊢
        cases hk : m.kind with
        | quote p =>
            simp only [hk] at h hreact
            rw [hsc m hmem p hk, State.eq_of_next_quote hreact h]
        | lineComment | blockOpen | blockClose | escape | other =>
            simp [hk, TokenKind.isQuote] at hq
      · simp [htok, TokenKind.isQuote] at hq

/-- While a literal is open, the last quote is the one that opened it. -/
theorem Run.lastQuote_eq {sc : Scanner} (hsc : sc.SpellsQuotes) {s e : State} {t rest : Text}
    {ts : List Token} (h : Run sc s t ts e rest) {q : Quote} (he : e = .literal q) :
    lastQuote ts = some [q.char] ∨ lastQuote ts = none ∧ s = .literal q := by
  induction h with
  | done => exact .inr ⟨rfl, he⟩
  | @step s e t rest ts _ _ ih =>
      rcases ih he with hlast | ⟨hlast, hstate⟩
      -- a later quote counts for more than this token
      · cases hq : (sc.token s t).kind.isQuote with
        | true => rw [lastQuote_cons_of_quote hq, hlast]; exact .inl rfl
        | false => rw [lastQuote_cons_of_not_quote hq]; exact .inl hlast
      -- no quote comes later, so the literal is opened here or was open before
      · rcases token_state_eq_literal hsc hstate with ⟨hq, hlex⟩ | ⟨hq, hs⟩
        · rw [lastQuote_cons_of_quote hq, hlast, hlex]; exact .inl rfl
        · rw [lastQuote_cons_of_not_quote hq]; exact .inr ⟨hlast, hs⟩

/-- The context read off the tokens of a text is that of the last state. -/
theorem ofTokens_eq_context {sc : Scanner} (hsc : sc.SpellsQuotes) {e : State} {t rest : Text}
    {ts : List Token} (h : Run sc .code t ts e rest) : Context.ofTokens ts = e.context := by
  rw [Context.ofTokens, ← h.end_eq]
  cases he : e with
  | code => rfl
  | lineComment => rfl
  | blockComment => rfl
  | literal q =>
      rcases h.lastQuote_eq hsc he with hlast | ⟨_, habs⟩
      · exact congrArg (Context.mk .literal) hlast
      · cases habs

end LineJoin.Scan

/-! ## The runs of a rule set -/

namespace LineJoin.RuleSet

open Scan

theorem mem_scanner_markers {R : RuleSet} {m : Marker} :
    m ∈ R.scanner.markers ↔ m ∈ R.markers :=
  List.mem_mergeSort

theorem spellsQuotes (R : RuleSet) : R.scanner.SpellsQuotes := by
  intro m hm q hk
  rw [mem_scanner_markers, markers, List.mem_append, List.mem_append] at hm
  rcases hm with (hm | hm) | hm
  · obtain ⟨_, _, rfl⟩ := List.mem_map.mp hm
    cases hk
  · cases hb : R.block with
    | none => simp [hb] at hm
    | some block =>
        simp only [hb, List.mem_cons, List.not_mem_nil, or_false] at hm
        rcases hm with rfl | rfl <;> cases hk
  · obtain ⟨p, _, rfl⟩ := List.mem_map.mp hm
    cases hk
    rfl

/-- A text has a context exactly when its scan ends, and it is the context of the last state. -/
theorem classify_eq_some_iff {R : RuleSet} {t : Text} {c : Context} :
    R.classify t = some c ↔
      ∃ ts e, Run R.scanner .code t ts e [] ∧ ts.length ≤ 2 * t.length ∧ e.context = c := by
  simp only [classify, tokenize, Option.map_eq_some_iff, scanFrom_eq_some_iff]
  constructor
  · rintro ⟨ts, ⟨hlen, e, h⟩, rfl⟩
    exact ⟨ts, e, h, hlen, (ofTokens_eq_context R.spellsQuotes h).symm⟩
  · rintro ⟨ts, e, h, hlen, rfl⟩
    exact ⟨ts, ⟨hlen, e, h⟩, ofTokens_eq_context R.spellsQuotes h⟩

theorem classify_of_run {R : RuleSet} (hR : R.scanner.Solid) {t : Text} {ts : List Token}
    {e : State} (h : Run R.scanner .code t ts e []) : R.classify t = some e.context := by
  rw [classify, tokenize, scanFrom_of_run hR h, Option.map_some,
    ofTokens_eq_context R.spellsQuotes h]

theorem exists_run_of_classify {R : RuleSet} {t : Text} {s : State}
    (h : R.classify t = some s.context) : ∃ ts, Run R.scanner .code t ts s [] := by
  obtain ⟨ts, e, hrun, _, he⟩ := classify_eq_some_iff.mp h
  obtain rfl := State.context_injective he
  exact ⟨ts, hrun⟩

end LineJoin.RuleSet
