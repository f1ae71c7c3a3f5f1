import LineJoin.Proofs.Command.InPlace

/-!
# Writing a document and reading it back

A document is written with one line break, and read with two. Both agree but for two cases: a line
that ends in a carriage return loses it when a line feed follows, because the two are then read as
one break; and an empty line at the end of a text without a final break is read as a final break.
`readsBack_iff` says that there is no other case. Reading never makes the second one, but joining
does, when nothing but blanks is left on the last lines; so `afterJoins_readsBack_iff` states the
condition for every document that joins lead to.

Nothing is said here about how the text of a document differs from the text that it was read from.
-/

namespace LineJoin

namespace Document

/-! ## Pieces between line breaks -/

theorem pieces_ne_nil (t : Text) : pieces t ≠ [] := by
  fun_cases pieces t <;> simp_all

/-- A character that starts no line break belongs to the first piece. -/
theorem pieces_cons {c : Char} {rest piece : Text} {more : List Text} (hc : c ≠ '\n')
    (hrest : c = '\r' → rest.head? ≠ some '\n') (h : pieces rest = piece :: more) :
    pieces (c :: rest) = (c :: piece) :: more := by
  rw [pieces.eq_4 c rest ?_ hc, h]
  rintro _ rfl rfl
  exact hrest rfl rfl

/-- No piece holds a line feed. -/
theorem not_mem_of_mem_pieces {t piece : Text} (h : piece ∈ pieces t) : '\n' ∉ piece := by
  fun_induction pieces t generalizing piece with
  | case1 => simp_all
  | case2 rest ih =>
      rcases List.mem_cons.mp h with rfl | h
      · exact List.not_mem_nil
      · exact ih h
  | case3 rest ih =>
      rcases List.mem_cons.mp h with rfl | h
      · exact List.not_mem_nil
      · exact ih h
  | case4 c rest _ _ hnil => exact absurd hnil (pieces_ne_nil rest)
  | case5 c rest _ hc first more hpieces ih =>
      rcases List.mem_cons.mp h with rfl | h
      · have hfirst : '\n' ∉ first := ih (by rw [hpieces]; exact List.mem_cons_self)
        intro hmem
        rcases List.mem_cons.mp hmem with hfeed | hmem
        · exact hc hfeed.symm
        · exact hfirst hmem
      · exact ih (by rw [hpieces]; exact List.mem_cons_of_mem _ h)

/-! ## Lines with a break after them -/

/-- A line without the carriage return that it may end in. -/
def dropReturn (line : Text) : Text := if line.getLast? = some '\r' then line.dropLast else line

/-- How a line is read that a line break follows. -/
def readWith (newline line : Text) : Text := if newline = ['\n'] then dropReturn line else line

theorem dropReturn_cons {line : Text} (hline : line ≠ []) (c : Char) :
    dropReturn (c :: line) = c :: dropReturn line := by
  obtain ⟨d, line, rfl⟩ := List.exists_cons_of_ne_nil hline
  unfold dropReturn
  rw [List.getLast?_cons_cons, List.dropLast_cons_cons]
  split <;> rfl

theorem readWith_eq_self_iff {newline line : Text} :
    readWith newline line = line ↔ (newline = ['\n'] → line.getLast? ≠ some '\r') := by
  unfold readWith dropReturn
  by_cases hn : newline = ['\n']
  · rw [if_pos hn]
    simp only [hn, true_imp_iff]
    split
    · next hlast =>
        -- a line that ends in something is longer than it is without it
        obtain ⟨before, rfl⟩ := List.getLast?_eq_some_iff.mp hlast
        simp
    · next hlast => simp [hlast]
  · simp [hn]

/-- A text without a line feed is one piece. -/
theorem pieces_of_not_mem {line : Text} (h : '\n' ∉ line) : pieces line = [line] := by
  induction line with
  | nil => rfl
  | cons c line ih =>
      have hc : c ≠ '\n' := (List.ne_of_not_mem_cons h).symm
      have hline : '\n' ∉ line := List.not_mem_of_not_mem_cons h
      refine pieces_cons hc ?_ (ih hline)
      intro _ hhead
      exact hline (List.mem_of_mem_head? hhead)

/-- A line feed takes a carriage return before it away from the line. -/
theorem pieces_append_feed {line : Text} (h : '\n' ∉ line) (rest : Text) :
    pieces (line ++ '\n' :: rest) = dropReturn line :: pieces rest := by
  induction line with
  | nil => rfl
  | cons c line ih =>
      have hc : c ≠ '\n' := (List.ne_of_not_mem_cons h).symm
      have hline : '\n' ∉ line := List.not_mem_of_not_mem_cons h
      cases line with
      | nil =>
          by_cases hreturn : c = '\r'
          · subst hreturn
            rfl
          · have hlast : dropReturn [c] = [c] := if_neg (by simpa using hreturn)
            rw [hlast]
            exact pieces_cons hc (fun hr => absurd hr hreturn) rfl
      | cons d line =>
          rw [dropReturn_cons (List.cons_ne_nil d line)]
          refine pieces_cons hc ?_ (ih hline)
          intro _ hhead
          obtain rfl : d = '\n' := by simpa using hhead
          exact hline List.mem_cons_self

/-- The two line breaks. -/
def IsBreak (newline : Text) : Prop := newline = ['\n'] ∨ newline = ['\r', '\n']

theorem pieces_append_break {newline line : Text} (hnewline : IsBreak newline) (h : '\n' ∉ line)
    (rest : Text) :
    pieces (line ++ newline ++ rest) = readWith newline line :: pieces rest := by
  rcases hnewline with rfl | rfl
  · rw [List.append_assoc]
    exact pieces_append_feed h rest
  · -- the break has a carriage return of its own, which is the one that goes
    have hreturn : '\n' ∉ line ++ ['\r'] := by simp [h]
    have hdrop : dropReturn (line ++ ['\r']) = readWith ['\r', '\n'] line := by
      simp [dropReturn, readWith]
    have hpieces := pieces_append_feed hreturn rest
    rw [hdrop] at hpieces
    rw [← hpieces]
    simp

/-- Of lines with breaks between them, all but the last are read with a break after them. -/
theorem pieces_intercalate {newline : Text} (hnewline : IsBreak newline) {lines : List Text}
    {last : Text} (h : ∀ line ∈ lines ++ [last], '\n' ∉ line) :
    pieces (newline.intercalate (lines ++ [last])) = lines.map (readWith newline) ++ [last] := by
  induction lines with
  | nil =>
      rw [List.nil_append, List.intercalate_singleton]
      exact pieces_of_not_mem (h last List.mem_cons_self)
  | cons line lines ih =>
      have hrest := ih fun l hl => h l (List.mem_cons_of_mem line hl)
      rw [List.cons_append, List.intercalate_cons_of_ne_nil (by simp),
        pieces_append_break hnewline (h line List.mem_cons_self), hrest]
      rfl

/-! ## Documents -/

/-- What reading gives a document and joining keeps: it has a line, no line holds a line feed, and
its line break is one of the two. -/
structure WellFormed (d : Document) : Prop where
  lines_ne_nil : d.lines ≠ []
  no_feed : ∀ line ∈ d.lines, '\n' ∉ line
  isBreak : IsBreak d.newline

/-- A final break ends the last line and starts no other. -/
theorem ofText_of_pieces {t last : Text} {lines : List Text} (h : pieces t = lines ++ [last]) :
    ofText t = if lines ≠ [] ∧ last = [] then ⟨lines, newlineOf t, true⟩
      else ⟨lines ++ [last], newlineOf t, false⟩ := by
  unfold ofText
  rw [h]
  have hlength : 1 < (lines ++ [last]).length ↔ lines ≠ [] := by
    rw [List.length_append, List.length_singleton, ← List.length_pos_iff]
    omega
  simp only [hlength, List.getLast?_concat, Option.some.injEq, List.dropLast_concat]

theorem exists_pieces_eq (t : Text) : ∃ lines last, pieces t = lines ++ [last] :=
  ⟨_, _, (List.dropLast_append_getLast (pieces_ne_nil t)).symm⟩

theorem newlineOf_isBreak (t : Text) : IsBreak (newlineOf t) := by
  unfold newlineOf
  split
  · exact .inr rfl
  · exact .inl rfl

theorem wellFormed_ofText (t : Text) : (ofText t).WellFormed := by
  obtain ⟨lines, last, h⟩ := exists_pieces_eq t
  have hfeed : ∀ line ∈ lines ++ [last], '\n' ∉ line :=
    fun line hline => not_mem_of_mem_pieces (h ▸ hline)
  rw [ofText_of_pieces h]
  split
  · next hlast =>
      exact ⟨hlast.1, fun line hline => hfeed line (List.mem_append_left _ hline),
        newlineOf_isBreak t⟩
  · exact ⟨by simp, hfeed, newlineOf_isBreak t⟩

/-- A document whose text is read as its lines, with a final break if it has one. -/
def ReadsBack (d : Document) : Prop :=
  (ofText d.toText).lines = d.lines ∧ (ofText d.toText).trailingNewline = d.trailingNewline

/-- The lines that a line break follows in the text of a document. -/
def brokenLines (d : Document) : List Text :=
  if d.trailingNewline then d.lines else d.lines.dropLast

theorem toText_eq_intercalate {d : Document} (h : d.lines ≠ []) :
    d.toText = d.newline.intercalate (if d.trailingNewline then d.lines ++ [[]] else d.lines) := by
  unfold toText
  cases d.trailingNewline with
  | false => simp
  | true =>
      -- a last line that is empty adds nothing but the break before it
      simp only [if_true]
      generalize d.lines = lines at h
      induction lines with
      | nil => exact absurd rfl h
      | cons line lines ih =>
          by_cases hlines : lines = []
          · subst hlines
            simp [List.intercalate_cons_cons]
          · rw [List.cons_append, List.intercalate_cons_of_ne_nil hlines,
              List.intercalate_cons_of_ne_nil (by simp), ← ih hlines, List.append_assoc]

/-- The lines of a document come back if each one does that a break follows. -/
theorem map_readWith_eq_self_iff {newline : Text} {lines : List Text} :
    lines.map (readWith newline) = lines ↔
      (newline = ['\n'] → ∀ line ∈ lines, line.getLast? ≠ some '\r') := by
  have hself : lines.map (readWith newline) = lines ↔
      ∀ line ∈ lines, readWith newline line = line := by
    conv_lhs => rhs; rw [← List.map_id lines]
    exact List.map_inj_left
  rw [hself]
  simp only [readWith_eq_self_iff]
  exact ⟨fun h hn line hline => h line hline hn, fun h line hline hn => h hn line hline⟩

/-- Writing and reading agree except where a line with a line feed after it ends in a carriage
return, or an empty line ends a text of several lines without a final break. -/
theorem WellFormed.readsBack_iff {d : Document} (hd : d.WellFormed) :
    d.ReadsBack ↔
      (d.newline = ['\n'] → ∀ line ∈ d.brokenLines, line.getLast? ≠ some '\r') ∧
      (d.trailingNewline = false → 1 < d.lineCount → d.lines.getLast? ≠ some []) := by
  have htext := toText_eq_intercalate hd.lines_ne_nil
  unfold ReadsBack brokenLines
  cases hfinal : d.trailingNewline with
  | true =>
      rw [hfinal, if_pos rfl] at htext
      have hpieces : pieces d.toText = d.lines.map (readWith d.newline) ++ [[]] := by
        rw [htext]
        refine pieces_intercalate hd.isBreak fun line hline => ?_
        rcases List.mem_append.mp hline with hline | hline
        · exact hd.no_feed line hline
        · simp [List.mem_singleton.mp hline]
      have hread := ofText_of_pieces hpieces
      rw [if_pos ⟨by simpa using hd.lines_ne_nil, rfl⟩] at hread
      rw [hread]
      simp [map_readWith_eq_self_iff]
  | false =>
      obtain ⟨lines, last, hlines⟩ : ∃ lines last, d.lines = lines ++ [last] :=
        ⟨_, _, (List.dropLast_append_getLast hd.lines_ne_nil).symm⟩
      rw [hfinal, hlines] at htext
      have hpieces : pieces d.toText = lines.map (readWith d.newline) ++ [last] := by
        rw [htext]
        exact pieces_intercalate hd.isBreak (hlines ▸ hd.no_feed)
      have hread := ofText_of_pieces hpieces
      have hcount : 1 < d.lineCount ↔ lines ≠ [] := by
        rw [lineCount, hlines, List.length_append, List.length_singleton, ← List.length_pos_iff]
        omega
      rw [hlines, hcount, List.getLast?_concat]
      by_cases hempty : lines ≠ [] ∧ last = []
      · rw [hread, if_pos (by simpa using hempty)]
        simp [hempty]
      · rw [hread, if_neg (by simpa using hempty)]
        have hlast : lines ≠ [] → last ≠ [] := fun hne hnil => hempty ⟨hne, hnil⟩
        simp only [List.append_left_inj, map_readWith_eq_self_iff, List.dropLast_concat,
          Bool.false_eq_true, if_false, Option.some.injEq, ne_eq, true_imp_iff, and_true]
        exact ⟨fun h => ⟨h, hlast⟩, fun h => h.1⟩

end Document

/-! ## Joins -/

theorem RuleSet.not_mem_joinIn {R : RuleSet} {region : Region} {a b : Text} {c : Char}
    (hc : c ≠ ' ') (ha : c ∉ a) (hb : c ∉ b) : c ∉ R.joinIn region a b := by
  have hpoint := joinPoint_kept R region a b
  rw [joinIn_eq]
  intro h
  rcases List.mem_append.mp h with h | h
  · rcases List.mem_append.mp h with h | h
    · exact ha (hpoint.left_start.subset h)
    · rcases hpoint.gap_cases with hgap | hgap <;> rw [hgap] at h
      · exact List.not_mem_nil h
      · exact hc (List.mem_singleton.mp h)
  · exact hb (hpoint.right_end.subset h)

theorem RuleSet.not_mem_foldlM_joinPair {R : RuleSet} {lines : List Text}
    {accumulated joined : Text} {c : Char} (hc : c ≠ ' ') (hacc : c ∉ accumulated)
    (hlines : ∀ line ∈ lines, c ∉ line)
    (h : lines.foldlM R.joinPair accumulated = .ok joined) : c ∉ joined := by
  induction lines generalizing accumulated with
  | nil =>
      cases h
      exact hacc
  | cons line lines ih =>
      rw [List.foldlM_cons] at h
      cases hclass : R.classify accumulated with
      | none =>
          simp only [joinPair, hclass] at h
          cases h
      | some context =>
          rw [joinPair_of_classify hclass] at h
          refine ih (not_mem_joinIn hc hacc (hlines line List.mem_cons_self)) ?_ h
          exact fun l hl => hlines l (List.mem_cons_of_mem line hl)

/-- A join makes no character but the space. -/
theorem RuleSet.not_mem_joinAll {R : RuleSet} {lines : List Text} {joined : Text} {c : Char}
    (hc : c ≠ ' ') (hlines : ∀ line ∈ lines, c ∉ line) (h : R.joinAll lines = .ok joined) :
    c ∉ joined := by
  cases lines with
  | nil => cases h
  | cons line lines =>
      exact not_mem_foldlM_joinPair hc (hlines line List.mem_cons_self)
        (fun l hl => hlines l (List.mem_cons_of_mem line hl)) h

theorem mem_replaced {accepted : List Selection} {joined : Selection → Text} {k : Nat}
    {lines : List Text} {line : Text} (h : line ∈ replaced accepted joined k lines) :
    line ∈ lines ∨ ∃ s ∈ accepted, line = joined s := by
  obtain ⟨⟨old, i⟩, hold, hline⟩ := List.mem_flatMap.mp h
  simp only [inPlaceOf] at hline
  split at hline
  · obtain rfl := List.mem_singleton.mp hline
    exact .inl (List.fst_mem_of_mem_zipIdx hold)
  · next s hs =>
      split at hline
      · exact .inr ⟨s, List.mem_of_find?_eq_some hs, List.mem_singleton.mp hline⟩
      · cases hline

theorem replaced_ne_nil {accepted : List Selection} (joined : Selection → Text)
    {lines : List Text} (h : Selection.Apart lines.length accepted) (hlines : lines ≠ []) :
    replaced accepted joined 0 lines ≠ [] := by
  cases accepted with
  | nil =>
      rw [replaced_above (by simp)]
      exact hlines
  | cons s accepted =>
      obtain ⟨above, range, below, hsplit, habove, hrange, _⟩ :=
        Selection.exists_split (h.inside s List.mem_cons_self)
      obtain ⟨below', _, hafter⟩ := replaced_cons h.head_last_lt habove hrange joined below
      rw [hsplit, hafter]
      simp

/-- One command keeps a document well formed. -/
theorem Document.WellFormed.exists_joinLines {d : Document} (hd : d.WellFormed) {R : RuleSet}
    (hR : R.ScanEnds) (selections : List Selection) :
    ∃ edited report, joinLines R d selections = .ok (edited, report) ∧ edited.WellFormed := by
  obtain ⟨joined, hjoined, hok⟩ := hR.exists_joinLines d selections
  refine ⟨_, _, hok, replaced_ne_nil joined (partition_apart d selections) hd.lines_ne_nil, ?_,
    hd.isBreak⟩
  intro line hline
  rcases mem_replaced hline with hline | ⟨s, hs, rfl⟩
  · exact hd.no_feed line hline
  · refine RuleSet.not_mem_joinAll (by decide) ?_ (hjoined s hs)
    exact fun l hl => hd.no_feed l (List.mem_of_mem_drop (List.mem_of_mem_take hl))

namespace Document

/-- A document after a command, which has its rules and its selections. -/
def afterJoin (d : Document) (command : RuleSet × List Selection) : Except Error Document :=
  (joinLines command.1 d command.2).map (·.1)

/-- A document after commands, one after the other. -/
def afterJoins (d : Document) (commands : List (RuleSet × List Selection)) :
    Except Error Document :=
  commands.foldlM afterJoin d

/-- Any number of commands keep a document well formed. -/
theorem WellFormed.exists_afterJoins {d : Document} (hd : d.WellFormed)
    {commands : List (RuleSet × List Selection)} (h : ∀ c ∈ commands, c.1.ScanEnds) :
    ∃ edited, d.afterJoins commands = .ok edited ∧ edited.WellFormed := by
  induction commands generalizing d with
  | nil => exact ⟨d, rfl, hd⟩
  | cons c commands ih =>
      obtain ⟨next, report, hok, hnext⟩ := hd.exists_joinLines (h c List.mem_cons_self) c.2
      obtain ⟨edited, hedited, hwf⟩ := ih hnext fun b hb => h b (List.mem_cons_of_mem c hb)
      refine ⟨edited, ?_, hwf⟩
      rw [afterJoins, List.foldlM_cons, afterJoin, hok]
      exact hedited

/-- Whatever text a document is read from and whatever commands are run on it with registered rules,
its text reads back exactly if no line with a line feed after it ends in a carriage return, and no
empty line ends a text of several lines without a final break. -/
theorem afterJoins_readsBack_iff (t : Text) (commands : List (RuleSet × List Selection))
    (h : ∀ c ∈ commands, c.1 ∈ RuleSet.registry) :
    ∃ d, (ofText t).afterJoins commands = .ok d ∧
      (d.ReadsBack ↔
        (d.newline = ['\n'] → ∀ line ∈ d.brokenLines, line.getLast? ≠ some '\r') ∧
        (d.trailingNewline = false → 1 < d.lineCount → d.lines.getLast? ≠ some [])) := by
  have hends : ∀ c ∈ commands, c.1.ScanEnds :=
    fun c hc => (RuleSet.registry_separable (h c hc)).scanEnds
  obtain ⟨d, hok, hd⟩ := (wellFormed_ofText t).exists_afterJoins hends
  exact ⟨d, hok, hd.readsBack_iff⟩

/-- A blank line, joined with the blank rest of the text. -/
theorem afterJoins_readsBack_iff_of_blank :
    (∀ c ∈ [(RuleSet.fallback, [(⟨1, 1, by decide⟩ : Selection)])], c.1 ∈ RuleSet.registry) ∧
    ∃ d, (ofText "a\n \n ".toList).afterJoins [(RuleSet.fallback, [⟨1, 1, by decide⟩])] = .ok d ∧
      (d.ReadsBack ↔
        (d.newline = ['\n'] → ∀ line ∈ d.brokenLines, line.getLast? ≠ some '\r') ∧
        (d.trailingNewline = false → 1 < d.lineCount → d.lines.getLast? ≠ some [])) := by
  have h : ∀ c ∈ [(RuleSet.fallback, [(⟨1, 1, by decide⟩ : Selection)])],
      c.1 ∈ RuleSet.registry := by
    intro c hc
    obtain rfl := List.mem_singleton.mp hc
    exact List.mem_cons_self
  exact ⟨h, afterJoins_readsBack_iff _ _ h⟩

/-- Not every document reads back. When the last two lines of a text without a final break are
blank, joining them leaves an empty line, which is read as a final break; and where the two line
breaks are mixed, even a document that was only read can lose a carriage return. -/
theorem exists_not_readsBack :
    (∃ d, (ofText "a\n \n ".toList).afterJoins [(RuleSet.fallback, [⟨1, 1, by decide⟩])] = .ok d ∧
      ¬ d.ReadsBack) ∧
    ∃ d, (ofText "a\r\r\nb\n".toList).afterJoins [] = .ok d ∧ ¬ d.ReadsBack := by
  refine ⟨⟨⟨[['a'], []], ['\n'], false⟩, by cbv, ?_⟩, ⟨[['a', '\r'], ['b']], ['\n'], true⟩,
    by cbv, ?_⟩
  · rintro ⟨_, hfinal⟩
    have hread : (ofText (toText ⟨[['a'], []], ['\n'], false⟩)).trailingNewline = true := by cbv
    rw [hread] at hfinal
    cases hfinal
  · rintro ⟨hlines, _⟩
    have hread : (ofText (toText ⟨[['a', '\r'], ['b']], ['\n'], true⟩)).lines = [['a'], ['b']] := by
      cbv
    rw [hread] at hlines
    cases hlines

end Document

end LineJoin
