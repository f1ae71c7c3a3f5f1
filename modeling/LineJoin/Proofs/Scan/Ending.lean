import Mathlib
import LineJoin.Proofs.Scan.LongestMatch
import LineJoin.RuleSet.Registry

/-!
# When a scan ends

A token without text leaves the scanner where it was, so the length of what is left is no measure of
a scan. But such a token is a block marker and changes the state between code and block comment. If
only one of the two block markers is without text, the next token has some, and a scan makes at most
two tokens for each character. If both are, a scanner that meets no other marker in code goes round
between the two states for ever.

`Endless` says that a scan goes on for ever without speaking of a budget: however many tokens were
made, there is text left. `tokenize_eq_none_iff` says that the budget of `scanFrom` decides just
this. So `tokenize` gives the one tokenization of every text whose scan ends
(`tokenize_isTokenization`), and `scan_ends_or_goes_round` says which scans do.
-/

namespace LineJoin.Scan

variable {sc : Scanner} {s e f : State} {t rest : Text} {ts us : List Token}

/-- A scan that goes on for ever: after any number of tokens there is text left. -/
def Endless (sc : Scanner) (s : State) (t : Text) : Prop :=
  ∀ n, ∃ ts e rest, Run sc s t ts e rest ∧ ts.length = n ∧ rest ≠ []

/-- A run to the end of a text goes through every place that another run reaches. -/
theorem Run.resume (h : Run sc s t ts e rest) (hend : Run sc s t us f []) :
    ∃ vs, us = ts ++ vs ∧ Run sc e rest vs f [] := by
  induction h generalizing us with
  | done => exact ⟨us, rfl, hend⟩
  | step hne _ ih =>
      cases hend with
      | done => exact absurd rfl hne
      | step _ hend =>
          obtain ⟨vs, rfl, hvs⟩ := ih hend
          exact ⟨vs, rfl, hvs⟩

/-- A scan makes as many tokens as one likes, or it ends before. -/
theorem exists_run_of_length (sc : Scanner) (s : State) (t : Text) (n : Nat) :
    (∃ ts e rest, Run sc s t ts e rest ∧ ts.length = n ∧ rest ≠ []) ∨
      ∃ ts e, Run sc s t ts e [] := by
  induction n generalizing s t with
  | zero =>
      by_cases ht : t = []
      · subst ht
        exact .inr ⟨[], s, .done⟩
      · exact .inl ⟨[], s, t, .done, rfl, ht⟩
  | succ n ih =>
      by_cases ht : t = []
      · subst ht
        exact .inr ⟨[], s, .done⟩
      · rcases ih (sc.token s t).state (t.drop (sc.token s t).lexeme.length) with
          ⟨ts, e, rest, hrun, hlength, hrest⟩ | ⟨ts, e, hrun⟩
        · exact .inl ⟨_, e, rest, .step ht hrun, congrArg (· + 1) hlength, hrest⟩
        · exact .inr ⟨_, e, .step ht hrun⟩

/-- A scan goes on for ever exactly if no run reaches the end of the text. -/
theorem endless_iff : Endless sc s t ↔ ¬ ∃ ts e, Run sc s t ts e [] := by
  constructor
  · rintro hendless ⟨us, f, hend⟩
    obtain ⟨ts, e, rest, hrun, hlength, hrest⟩ := hendless us.length
    -- as long as the run to the end, it is that run, and nothing is left
    obtain ⟨vs, hus, hvs⟩ := hrun.resume hend
    have hnil : vs = [] := by
      rw [hus, List.length_append] at hlength
      exact List.length_eq_zero_iff.mp (by omega)
    subst hnil
    cases hvs
    exact hrest rfl
  · intro hnone n
    rcases exists_run_of_length sc s t n with hrun | hend
    · exact hrun
    · exact absurd hend hnone

/-! ## Scanners that settle -/

/-- After a token without text comes one with text. -/
def Scanner.Settles (sc : Scanner) : Prop :=
  ∀ s t u, t ≠ [] → u ≠ [] → (sc.token s t).lexeme = [] →
    (sc.token (sc.token s t).state u).lexeme ≠ []

/-- A scanner that settles comes to the end of every text, with at most two tokens for each
character. -/
theorem Scanner.Settles.exists_run (hsc : sc.Settles) (s : State) (t : Text) :
    ∃ ts e, Run sc s t ts e [] ∧ ts.length ≤ 2 * t.length := by
  -- on the length of the text: it may take two tokens until some of it is gone
  induction hn : t.length using Nat.strongRecOn generalizing s t with
  | _ n ih =>
      by_cases ht : t = []
      · subst ht
        exact ⟨[], s, .done, Nat.zero_le _⟩
      · by_cases hlex : (sc.token s t).lexeme = []
        · have hnext := hsc s t t ht ht hlex
          have hlt := Scanner.drop_lexeme_length_lt ht hnext
          obtain ⟨ts, e, hrun, hlength⟩ :=
            ih _ (hn ▸ hlt) (sc.token (sc.token s t).state t).state _ rfl
          refine ⟨sc.token s t :: sc.token (sc.token s t).state t :: ts, e, .step ht ?_, ?_⟩
          · rw [hlex]
            exact .step ht hrun
          · rw [List.length_cons, List.length_cons]
            omega
        · have hlt := Scanner.drop_lexeme_length_lt ht hlex
          obtain ⟨ts, e, hrun, hlength⟩ := ih _ (hn ▸ hlt) (sc.token s t).state _ rfl
          refine ⟨sc.token s t :: ts, e, .step ht hrun, ?_⟩
          rw [List.length_cons]
          omega

end LineJoin.Scan

namespace LineJoin.RuleSet

open Scan

variable {R : RuleSet} {s e : State} {t rest : Text} {ts : List Token}

/-! ## Tokens without text -/

/-- A token without text is a block marker without text, in the state that reacts to it. -/
theorem token_of_lexeme_eq_nil (ht : t ≠ []) (h : (R.scanner.token s t).lexeme = []) :
    (s = .code ∧ (R.scanner.token s t).state = .blockComment ∧ ∃ c, R.block = some ([], c)) ∨
    (s = .blockComment ∧ (R.scanner.token s t).state = .code ∧ ∃ o, R.block = some (o, [])) := by
  have hreads := R.readsAs_token s ht
  by_cases hesc : R.EscapesHere s t
  · obtain ⟨after, _, hlex⟩ := hreads.escape_text hesc
    rw [h] at hlex
    exact absurd (List.append_eq_nil_iff.mp hlex.symm).1 hesc.2.1
  · by_cases hcounts : ∃ m kind, R.Counts s t m kind
    · obtain ⟨hmarks, hchanges, _⟩ := (hreads.marker hesc hcounts).1
      rw [hreads.state_eq]
      rw [h] at hmarks
      generalize (R.scanner.token s t).kind = kind at hmarks hchanges
      cases hmarks with
      | line _ hne => exact absurd rfl hne
      | opener hblock =>
          cases s with
          | code => exact .inl ⟨rfl, rfl, _, hblock⟩
          | lineComment | blockComment | literal q => exact absurd rfl hchanges
      | closer hblock =>
          cases s with
          | blockComment => exact .inr ⟨rfl, rfl, _, hblock⟩
          | code | lineComment | literal q => exact absurd rfl hchanges
    · obtain ⟨_, c, _, _, hlex⟩ := hreads.other hesc fun m kind hc => hcounts ⟨m, kind, hc⟩
      rw [h] at hlex
      cases hlex

/-- Unless both block markers are without text, the scanner settles. -/
theorem settles_of_block_ne (hblock : R.block ≠ some ([], [])) : R.scanner.Settles := by
  intro s t u ht hu hnil hnil'
  apply hblock
  rcases token_of_lexeme_eq_nil ht hnil with ⟨_, hstate, c, hopener⟩ | ⟨_, hstate, o, hcloser⟩
  · rw [hstate] at hnil'
    rcases token_of_lexeme_eq_nil hu hnil' with ⟨hcode, _⟩ | ⟨_, _, o, hcloser⟩
    · cases hcode
    · rw [hopener] at hcloser ⊢
      cases hcloser
      rfl
  · rw [hstate] at hnil'
    rcases token_of_lexeme_eq_nil hu hnil' with ⟨_, _, c, hopener⟩ | ⟨hinside, _⟩
    · rw [hcloser] at hopener ⊢
      cases hopener
      rfl
    · cases hinside

/-! ## Two block markers without text -/

/-- There is text left, and neither a line marker nor a quote stands at its start. -/
structure Bare (R : RuleSet) (rest : Text) : Prop where
  ne_nil : rest ≠ []
  no_line : ∀ m ∈ R.lineMarkers, m ≠ [] → ¬ m <+: rest
  no_quote : ∀ q ∈ R.quotes, ¬ [q.char] <+: rest

/-- In code a token without text is taken only before a bare text, for any other marker is
longer. -/
theorem bare_of_lexeme_eq_nil (ht : t ≠ []) (h : (R.scanner.token .code t).lexeme = []) :
    R.Bare t := by
  have hreads := R.readsAs_token .code ht
  have hesc : ¬ R.EscapesHere .code t := by
    rintro ⟨⟨q, hq⟩, _⟩
    cases hq
  have hshort : ∀ m kind, R.Counts .code t m kind → m = [] := by
    intro m kind hcounts
    have hfirst := (hreads.marker hesc ⟨m, kind, hcounts⟩).2 m kind hcounts
    rw [h] at hfirst
    rcases hfirst with hlt | ⟨heq, _⟩
    · exact absurd hlt (Nat.not_lt_zero _)
    · exact List.length_eq_zero_iff.mp heq
  refine ⟨ht, ?_, ?_⟩
  · intro m hm hne hstarts
    exact hne (hshort m .lineComment ⟨.line hm hne, by simp [State.next], hstarts⟩)
  · intro q hq hstarts
    exact absurd (hshort _ (.quote q) ⟨.quote hq, by simp [State.next], hstarts⟩) (by simp)

/-- A block comment is entered by its opening marker. -/
theorem block_of_state_eq_blockComment (ht : t ≠ []) (hs : s ≠ .blockComment)
    (h : (R.scanner.token s t).state = .blockComment) :
    ∃ c, R.block = some ((R.scanner.token s t).lexeme, c) := by
  have hreads := R.readsAs_token s ht
  have hkind : (R.scanner.token s t).kind = .blockOpen := by
    rw [hreads.state_eq] at h
    generalize (R.scanner.token s t).kind = kind at h
    cases s <;> cases kind <;> simp [State.next] at h hs ⊢
    split at h <;> cases h
  have hmarks := (hreads.counts (by simp [hkind]) (by simp [hkind])).marks
  rw [hkind] at hmarks
  generalize (R.scanner.token s t).lexeme = lexeme at hmarks
  cases hmarks with
  | opener hblock => exact ⟨_, hblock⟩

section GoesRound

variable (hblock : R.block = some ([], []))

include hblock

/-- In code before a bare text a block comment is opened, and nothing is taken of the text. -/
theorem token_of_bare (h : R.Bare rest) :
    (R.scanner.token .code rest).lexeme = [] ∧
      (R.scanner.token .code rest).state = .blockComment := by
  have hreads := R.readsAs_token .code h.ne_nil
  have hesc : ¬ R.EscapesHere .code rest := by
    rintro ⟨⟨q, hq⟩, _⟩
    cases hq
  have hopener : R.Counts .code rest [] .blockOpen :=
    ⟨.opener hblock, by simp [State.next], List.nil_prefix⟩
  obtain ⟨hmarks, hchanges, hstarts⟩ := (hreads.marker hesc ⟨_, _, hopener⟩).1
  rw [hreads.state_eq]
  generalize (R.scanner.token .code rest).kind = kind at hmarks hchanges
  generalize (R.scanner.token .code rest).lexeme = lexeme at hmarks hstarts
  cases hmarks with
  | line hmem hne => exact absurd hstarts (h.no_line _ hmem hne)
  | opener hblock' =>
      rw [hblock] at hblock'
      cases hblock'
      exact ⟨rfl, rfl⟩
  | closer => exact absurd rfl hchanges
  | quote hq => exact absurd hstarts (h.no_quote _ hq)

/-- In a block comment it is closed again, and nothing is taken of the text. -/
theorem token_inside (hrest : rest ≠ []) :
    (R.scanner.token .blockComment rest).lexeme = [] ∧
      (R.scanner.token .blockComment rest).state = .code := by
  have hreads := R.readsAs_token .blockComment hrest
  have hesc : ¬ R.EscapesHere .blockComment rest := by
    rintro ⟨⟨q, hq⟩, _⟩
    cases hq
  have hcloser : R.Counts .blockComment rest [] .blockClose :=
    ⟨.closer hblock, by simp [State.next], List.nil_prefix⟩
  obtain ⟨hmarks, hchanges, _⟩ := (hreads.marker hesc ⟨_, _, hcloser⟩).1
  rw [hreads.state_eq]
  generalize (R.scanner.token .blockComment rest).kind = kind at hmarks hchanges
  generalize (R.scanner.token .blockComment rest).lexeme = lexeme at hmarks
  cases hmarks with
  | closer hblock' =>
      rw [hblock] at hblock'
      cases hblock'
      exact ⟨rfl, rfl⟩
  | line | opener | quote => exact absurd rfl hchanges

/-- From code before a bare text no run reaches the end. -/
theorem not_run_of_bare (h : R.Bare rest) : ¬ Run R.scanner .code rest ts e [] := by
  obtain ⟨hlex, hstate⟩ := R.token_of_bare hblock h
  obtain ⟨hlex', hstate'⟩ := R.token_inside hblock h.ne_nil
  -- on the number of tokens: after two of them the run stands where it stood
  induction hn : ts.length using Nat.strongRecOn generalizing ts with
  | _ n ih =>
      intro hrun
      cases hrun with
      | done => exact h.ne_nil rfl
      | step _ hrun =>
          rw [hlex, hstate] at hrun
          cases hrun with
          | done => exact h.ne_nil rfl
          | @step _ _ _ _ us _ hrun =>
              rw [List.length_nil, List.drop_zero, hlex', hstate'] at hrun
              refine ih us.length ?_ rfl hrun
              rw [← hn, List.length_cons, List.length_cons]
              omega

/-- Where a run reaches no bare text in code, every token has text, and the scan ends. -/
theorem exists_run_of_not_bare (hs : s ≠ .blockComment)
    (h : ∀ ts rest, Run R.scanner s t ts .code rest → ¬ R.Bare rest) :
    ∃ ts e, Run R.scanner s t ts e [] ∧ ts.length ≤ t.length := by
  induction hn : t.length using Nat.strongRecOn generalizing s t with
  | _ n ih =>
      by_cases ht : t = []
      · subst ht
        exact ⟨[], s, .done, Nat.zero_le _⟩
      · have hlex : (R.scanner.token s t).lexeme ≠ [] := by
          intro hnil
          rcases token_of_lexeme_eq_nil ht hnil with ⟨rfl, _⟩ | ⟨hinside, _⟩
          · exact h [] t .done (bare_of_lexeme_eq_nil ht hnil)
          · exact hs hinside
        have hnext : (R.scanner.token s t).state ≠ .blockComment := by
          intro hstate
          obtain ⟨c, hopener⟩ := block_of_state_eq_blockComment ht hs hstate
          rw [hblock] at hopener
          exact hlex (Prod.mk.inj (Option.some.inj hopener)).1.symm
        have hlt := Scanner.drop_lexeme_length_lt ht hlex
        obtain ⟨ts, e, hrun, hlength⟩ := ih _ (hn ▸ hlt) hnext
          (fun us rest hus => h _ rest (.step ht hus)) rfl
        refine ⟨R.scanner.token s t :: ts, e, .step ht hrun, ?_⟩
        rw [List.length_cons]
        omega

/-- A scan that reaches a bare text in code goes on for ever, and only such a scan does. -/
theorem endless_iff_bare :
    Endless R.scanner .code t ↔ ∃ ts rest, Run R.scanner .code t ts .code rest ∧ R.Bare rest := by
  rw [endless_iff]
  constructor
  · intro hnone
    by_contra hbare
    have hnot : ∀ ts rest, Run R.scanner .code t ts .code rest → ¬ R.Bare rest :=
      fun ts rest hrun h => hbare ⟨ts, rest, hrun, h⟩
    obtain ⟨ts, e, hrun, _⟩ := exists_run_of_not_bare hblock (by simp) hnot
    exact hnone ⟨ts, e, hrun⟩
  · rintro ⟨ts, rest, hrun, hbare⟩ ⟨us, f, hend⟩
    obtain ⟨vs, _, hvs⟩ := hrun.resume hend
    exact R.not_run_of_bare hblock hbare hvs

end GoesRound

/-! ## The budget -/

/-- A run to the end of a text makes at most two tokens for each character. -/
theorem length_le_of_run (h : Run R.scanner .code t ts e []) : ts.length ≤ 2 * t.length := by
  by_cases hblock : R.block = some ([], [])
  · have hnot : ∀ us rest, Run R.scanner .code t us .code rest → ¬ R.Bare rest := by
      intro us rest hus hbare
      exact endless_iff.mp ((endless_iff_bare hblock).mpr ⟨us, rest, hus, hbare⟩) ⟨ts, e, h⟩
    obtain ⟨us, f, hus, hlength⟩ := exists_run_of_not_bare hblock (by simp) hnot
    obtain ⟨rfl, _⟩ := h.deterministic hus
    omega
  · obtain ⟨us, f, hus, hlength⟩ := (settles_of_block_ne hblock).exists_run .code t
    obtain ⟨rfl, _⟩ := h.deterministic hus
    exact hlength

/-- The tokens of a text are those of the run to its end: the budget is never too small. -/
theorem tokenize_eq_some_iff : R.tokenize t = some ts ↔ ∃ e, Run R.scanner .code t ts e [] := by
  rw [tokenize, scanFrom_eq_some_iff]
  constructor
  · rintro ⟨_, hrun⟩
    exact hrun
  · rintro ⟨e, hrun⟩
    exact ⟨length_le_of_run hrun, e, hrun⟩

theorem tokenize_eq_none_iff : R.tokenize t = none ↔ Endless R.scanner .code t := by
  rw [endless_iff, Option.eq_none_iff_forall_ne_some]
  simp only [ne_eq, tokenize_eq_some_iff, not_exists]

/-! ## The tokens of a scan that ends -/

/-- When the scan of a text ends, its tokens are the one tokenization of the text from code on. No
marker that would change the state starts where a character is taken by itself, and behind a line
marker every character is taken by itself and stays in the line comment. -/
theorem tokenize_isTokenization (h : ¬ Endless R.scanner .code t) :
    ∃ ts, R.tokenize t = some ts ∧ R.IsTokenization .code t ts ∧
      (∀ us, R.IsTokenization .code t us → us = ts) ∧
      (∀ before tok after, ts = before ++ tok :: after → tok.kind = .other →
        ∀ m kind, ¬ R.Counts (stateAfter .code before) (textOf (tok :: after)) m kind) ∧
      (∀ before tok after, ts = before ++ tok :: after → tok.kind = .lineComment →
        tok.state = .lineComment ∧
        ∀ u ∈ after, u.state = .lineComment ∧ u.kind = .other ∧ u.lexeme.length = 1) := by
  rw [endless_iff, not_not] at h
  obtain ⟨ts, e, hrun⟩ := h
  have htokens := isTokenization_of_run hrun
  refine ⟨ts, tokenize_eq_some_iff.mpr ⟨e, hrun⟩, htokens, ?_, ?_, ?_⟩
  · intro us hus
    obtain ⟨f, hrun'⟩ := hus.exists_run
    exact (hrun'.deterministic hrun).1
  · intro before tok after hts hkind
    exact (htokens.reads before tok after hts).not_counts_of_other hkind
  · intro before tok after hts hkind
    have hstate := (htokens.reads before tok after hts).state_of_lineMarker hkind
    rw [hts] at htokens
    have hafter := htokens.behind.tail
    rw [hstate] at hafter
    exact ⟨hstate, hafter.of_lineComment⟩

/-- A rule set whose block comments are opened by nothing: one starts wherever no other marker
does. -/
def openedByNothing : RuleSet :=
  { fallback with name := "custom".toList, block := some ([], ['*', '/']) }

/-- The tokens of a text under that rule set: the first has no text, and the last is an escape with
nothing after it. -/
def cutShortTokens : List Token :=
  [⟨.blockComment, .blockOpen, []⟩, ⟨.blockComment, .other, ['x']⟩,
    ⟨.code, .blockClose, ['*', '/']⟩, ⟨.literal .single, .quote .single, [Quote.single.char]⟩,
    ⟨.literal .single, .escape, ['\\']⟩]

theorem tokenize_isTokenization_of_cut_short :
    ¬ Endless openedByNothing.scanner .code "x*/'\\".toList ∧
    openedByNothing.tokenize "x*/'\\".toList = some cutShortTokens ∧
    openedByNothing.IsTokenization .code "x*/'\\".toList cutShortTokens ∧
    ∀ us, openedByNothing.IsTokenization .code "x*/'\\".toList us → us = cutShortTokens := by
  have htokenize : openedByNothing.tokenize "x*/'\\".toList = some cutShortTokens := by cbv
  have hends : ¬ Endless openedByNothing.scanner .code "x*/'\\".toList := by
    rw [← tokenize_eq_none_iff, htokenize]
    simp
  obtain ⟨ts, hts, htokens, hunique, _⟩ := tokenize_isTokenization hends
  obtain rfl : cutShortTokens = ts := Option.some.inj (htokenize.symm.trans hts)
  exact ⟨hends, htokenize, htokens, hunique⟩

/-! ## Which scans end -/

/-- Unless both block markers are without text, every scan ends, after at most two tokens for each
character. If both are, a scan goes on for ever exactly if it comes, in code, to text at whose start
neither a line marker that has text nor a quote stands; `tokenize` then has no answer. -/
theorem scan_ends_or_goes_round (R : RuleSet) (t : Text) :
    (R.block ≠ some ([], []) →
      ∃ ts e, R.tokenize t = some ts ∧ Run R.scanner .code t ts e [] ∧
        ts.length ≤ 2 * t.length) ∧
    (R.block = some ([], []) →
      (R.tokenize t = none ↔ Endless R.scanner .code t) ∧
      (Endless R.scanner .code t ↔
        ∃ ts rest, Run R.scanner .code t ts .code rest ∧ R.Bare rest)) := by
  constructor
  · intro hblock
    obtain ⟨ts, e, hrun, hlength⟩ := (settles_of_block_ne hblock).exists_run .code t
    exact ⟨ts, e, tokenize_eq_some_iff.mpr ⟨e, hrun⟩, hrun, hlength⟩
  · intro hblock
    exact ⟨tokenize_eq_none_iff, endless_iff_bare hblock⟩

example :
    (tokenize { name := [], block := some ([], []) } "'a'".toList).isSome = true ∧
    tokenize { name := [], block := some ([], []) } "'a'b".toList = none := by
  constructor <;> cbv

end LineJoin.RuleSet
