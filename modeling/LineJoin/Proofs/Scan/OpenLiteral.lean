import LineJoin.Proofs.Scan.Ending
import LineJoin.RuleSet.Choice

/-!
# The quote that opened a literal

A context is put together from two things that are kept apart while a text is scanned: the last
state, and the text of the last quote, be it one that opened a literal or one that closed it. That
they never drift apart is shown here for every rule set, also one whose comment markers are quotes.

The reason is that a quote is read as one in two places only: in code, where it opens a literal, and
inside a literal of its own kind, which it closes. So when a literal is open, the last quote is the
one that opened it, code stood before it, and nothing since has left the literal (`OpenedBy`). This
is the invariant of `exists_openedBy`, an induction over the run with one token a step
(`ReadsAs.cases_of_literal`).
-/

namespace LineJoin.RuleSet

open Scan

variable {R : RuleSet} {s e : State} {t rest : Text} {ts : List Token} {q : Quote}

/-! ## Declared delimiters -/

namespace Declaration

variable {d : Declaration}

theorem eq_of_quote {delimiter : Text} (h : d.quote delimiter = .ok q) : delimiter = [q.char] := by
  unfold quote at h
  split at h
  · next p hp =>
      cases h
      simpa using List.find?_some hp
  · cases h

theorem eq_of_mapM_quote {delimiters : List Text} {quotes : List Quote}
    (h : delimiters.mapM d.quote = .ok quotes) : delimiters = quotes.map fun q => [q.char] := by
  induction delimiters generalizing quotes with
  | nil =>
      cases h
      rfl
  | cons delimiter delimiters ih =>
      rw [List.mapM_cons] at h
      cases hfirst : d.quote delimiter with
      | error err =>
          rw [hfirst] at h
          cases h
      | ok q =>
          cases hrest : delimiters.mapM d.quote with
          | error err =>
              rw [hfirst, hrest] at h
              cases h
          | ok rest =>
              rw [hfirst, hrest] at h
              cases h
              rw [List.map_cons, ← ih hrest, eq_of_quote hfirst]

/-- The delimiters of a declaration are the quotes of its rule set, one for one. -/
theorem delimiters_eq (h : d.ruleSet = .ok R) : d.delimiters = R.quotes.map fun q => [q.char] := by
  unfold ruleSet at h
  cases hquotes : d.delimiters.mapM d.quote with
  | error err =>
      rw [hquotes] at h
      cases h
  | ok quotes =>
      rw [hquotes] at h
      cases h
      exact eq_of_mapM_quote hquotes

end Declaration

/-! ## One token -/

theorem isQuote_iff {kind : TokenKind} : kind.isQuote = true ↔ ∃ q, kind = .quote q := by
  cases kind <;> simp [TokenKind.isQuote]

/-- A quote that changes the state and leaves a literal open has opened it, in code. -/
theorem eq_code_of_next_quote {p : Quote} (hchanges : s.next (.quote p) ≠ s)
    (h : s.next (.quote p) = .literal q) : s = .code ∧ p = q := by
  have hreacts : s.reactsTo (.quote p) = true := by simpa [State.reactsTo] using hchanges
  refine ⟨?_, State.eq_of_next_quote hreacts h⟩
  cases s with
  | code => rfl
  | lineComment => cases h
  | blockComment => cases h
  | literal r =>
      -- inside a literal a quote closes it or is no change
      exfalso
      by_cases hr : p = r
      · simp [State.next, hr] at h
      · simp [State.next, hr] at hchanges

/-- A token after which a literal is open is the quote that opens it in code, or is no quote and
stands inside the literal. -/
theorem ReadsAs.cases_of_literal {tok : Token} (h : R.ReadsAs s rest tok)
    (hstate : tok.state = .literal q) :
    (s = .code ∧ tok.kind = .quote q ∧ tok.lexeme = [q.char] ∧ q ∈ R.quotes) ∨
      (s = .literal q ∧ tok.kind.isQuote = false) := by
  have hnext : s.next tok.kind = .literal q := h.state_eq.symm.trans hstate
  cases hquote : tok.kind.isQuote with
  | false => exact .inr ⟨State.eq_literal_of_next hquote hnext, rfl⟩
  | true =>
      obtain ⟨p, hp⟩ := isQuote_iff.mp hquote
      obtain ⟨hmarks, hchanges, _⟩ := h.counts (by simp [hp]) (by simp [hp])
      rw [hp] at hnext hmarks hchanges
      obtain ⟨rfl, rfl⟩ := eq_code_of_next_quote hchanges hnext
      generalize tok.lexeme = lexeme at hmarks
      cases hmarks with
      | quote hmem => exact .inl ⟨rfl, hp, rfl, hmem⟩

/-! ## The whole scan -/

/-- A literal is open behind tokens that start in state `s`, parted here at the quote that opened
it: code stood before that quote, every token from it on leaves the literal open, and none after it
is a quote. -/
structure OpenedBy (s : State) (q : Quote) (before : List Token) (opening : Token)
    (after : List Token) : Prop where
  in_code : stateAfter s before = .code
  kind_eq : opening.kind = .quote q
  lexeme_eq : opening.lexeme = [q.char]
  stays : ∀ tok ∈ opening :: after, tok.state = .literal q
  last : ∀ tok ∈ after, tok.kind.isQuote = false

/-- Where a run ends inside a literal, it started inside it and read no quote, or it read the quote
that opened the literal and none since. -/
theorem exists_openedBy (h : Run R.scanner s t ts e rest) (he : e = .literal q) :
    (s = .literal q ∧ ∀ tok ∈ ts, tok.state = .literal q ∧ tok.kind.isQuote = false) ∨
      q ∈ R.quotes ∧ ∃ before opening after, ts = before ++ opening :: after ∧
        OpenedBy s q before opening after := by
  induction h with
  | done => exact .inl ⟨he, by simp⟩
  | @step s e t rest ts hne _ ih =>
      have hreads := R.readsAs_token s hne
      rcases ih he with ⟨hstate, hinside⟩ | ⟨hmem, before, opening, after, rfl, hopened⟩
      -- nothing is opened later, so this token opens the literal or stands in it
      · rcases hreads.cases_of_literal hstate with ⟨rfl, hkind, hlexeme, hmem⟩ | ⟨rfl, hquote⟩
        · refine .inr ⟨hmem, [], _, ts, rfl, rfl, hkind, hlexeme, ?_, ?_⟩
          · exact List.forall_mem_cons.mpr ⟨hstate, fun tok htok => (hinside tok htok).1⟩
          · exact fun tok htok => (hinside tok htok).2
        · exact .inl ⟨rfl, List.forall_mem_cons.mpr ⟨⟨hstate, hquote⟩, hinside⟩⟩
      -- the literal is opened later, and this token is one more before that
      · refine .inr ⟨hmem, _ :: before, opening, after, rfl, ?_, hopened.kind_eq,
          hopened.lexeme_eq, hopened.stays, hopened.last⟩
        rw [stateAfter_cons]
        exact hopened.in_code

theorem region_eq_literal_iff : e.context.region = .literal ↔ ∃ q, e = .literal q := by
  cases e <;> simp [State.context]

theorem delimiter_eq_none (h : e.context.region ≠ .literal) : e.context.delimiter = none := by
  cases e with
  | literal q => exact absurd rfl h
  | code | lineComment | blockComment => rfl

/-- For every rule set and every text whose scan ends, the context is that of the last state of the
scan. It is a literal exactly if that state is one, and then its delimiter is the character of the
state's quote. The rule set has that quote, whatever declaration it comes from has it as a
delimiter, and it is the last quote among the tokens: the one that opened the literal, which is open
ever since. No other context has a delimiter. -/
theorem classify_eq_lastState (R : RuleSet) (t : Text) (h : ¬ Endless R.scanner .code t) :
    ∃ ts states c, R.tokenize t = some ts ∧ R.scanStates t = some states ∧
      R.classify t = some c ∧
      c = (states.getLast?.getD .code).context ∧
      (c.region = .literal ↔ ∃ q, states.getLast? = some (.literal q)) ∧
      (∀ q, states.getLast? = some (.literal q) →
        c.delimiter = some [q.char] ∧ q ∈ R.quotes ∧
        (∀ d : Declaration, d.ruleSet = .ok R → [q.char] ∈ d.delimiters) ∧
        ∃ before opening after, ts = before ++ opening :: after ∧
          OpenedBy .code q before opening after) ∧
      (c.region ≠ .literal → c.delimiter = none) := by
  rw [endless_iff, not_not] at h
  obtain ⟨ts, e, hrun⟩ := h
  have htokens : R.tokenize t = some ts := tokenize_eq_some_iff.mpr ⟨e, hrun⟩
  have hstates : R.scanStates t = some (ts.map (·.state)) := by
    rw [scanStates, htokens]
    rfl
  have hclass : R.classify t = some e.context := by
    rw [classify, htokens, Option.map_some, ofTokens_eq_context R.spellsQuotes hrun]
  have hend : (ts.map (·.state)).getLast?.getD .code = e := by
    rw [List.getLast?_map]
    exact hrun.end_eq.symm
  have hliteral : ∀ q, (ts.map (·.state)).getLast? = some (.literal q) ↔ e = .literal q := by
    intro q
    rw [← hend]
    cases (ts.map (·.state)).getLast? <;> simp
  refine ⟨ts, _, e.context, htokens, hstates, hclass, by rw [hend], ?_, ?_, delimiter_eq_none⟩
  · simp only [hliteral]
    exact region_eq_literal_iff
  · intro q hq
    obtain rfl := (hliteral q).mp hq
    rcases exists_openedBy hrun rfl with ⟨hcode, _⟩ | ⟨hmem, hopened⟩
    · cases hcode
    · refine ⟨rfl, hmem, ?_, hopened⟩
      intro d hd
      rw [d.delimiters_eq hd]
      exact List.mem_map_of_mem hmem

/-- A rule set whose comments are marked by quotes: a line comment by one that is a delimiter too,
and a block comment by one that is not. -/
def markedByQuotes : RuleSet :=
  { name := "custom".toList
    lineMarkers := [[Quote.grave.char]]
    block := some ([Quote.double.char], [Quote.double.char])
    quotes := [.single, .grave] }

/-- A literal with an escaped quote is closed, a quote stands in a comment, and a second literal is
left open over a comment marker. -/
theorem classify_eq_lastState_of_marked_by_quotes :
    ¬ Endless markedByQuotes.scanner .code "'a\\'' \"'\" 'b`".toList ∧
    markedByQuotes.classify "'a\\'' \"'\" 'b`".toList =
      some ⟨.literal, some [Quote.single.char]⟩ ∧
    Quote.single ∈ markedByQuotes.quotes ∧
    ∃ before opening after,
      markedByQuotes.tokenize "'a\\'' \"'\" 'b`".toList = some (before ++ opening :: after) ∧
        OpenedBy .code .single before opening after := by
  have hclass : markedByQuotes.classify "'a\\'' \"'\" 'b`".toList =
      some ⟨.literal, some [Quote.single.char]⟩ := by cbv
  have hends : ¬ Endless markedByQuotes.scanner .code "'a\\'' \"'\" 'b`".toList := by
    rw [← tokenize_eq_none_iff]
    intro hnone
    rw [classify, hnone] at hclass
    cases hclass
  obtain ⟨ts, states, c, hts, _, hc, _, hliteral, hopened, _⟩ :=
    classify_eq_lastState markedByQuotes _ hends
  obtain rfl := Option.some.inj (hc.symm.trans hclass)
  obtain ⟨q, hq⟩ := hliteral.mp rfl
  obtain ⟨hdelimiter, hmem, _, before, opening, after, rfl, hby⟩ := hopened q hq
  obtain rfl : .single = q :=
    Quote.char_injective (List.singleton_inj.mp (Option.some.inj hdelimiter))
  exact ⟨hends, hclass, hmem, before, opening, after, hts, hby⟩

end LineJoin.RuleSet
