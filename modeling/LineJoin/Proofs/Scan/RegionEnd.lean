import LineJoin.Proofs.RuleSet.Separable
import LineJoin.Proofs.Scan.LongestMatch

/-!
# Where literals and block comments end

A literal ends at the first quote of its own kind that is not escaped, and a block comment at the
first place where its closing marker stands. Everything else inside them is content: comment
markers, other quotes and openers make no difference.

Whether a quote is escaped is said here by the backslashes right before it: it is not if there is an
even number of them (`Quote.ClosesAt`). The scanner never counts. It goes from the left and takes
each backslash together with the character after it, which `Quote.Inside` describes. That the two
come to the same is `Quote.inside_or_pending` in one direction and `Quote.Inside.even` in the other;
both rest on the fact that whole tokens never change the parity of the backslashes after them.

The statements hold at every cut of the text, also one that parts a backslash from the character
that it takes, or the closing marker of a comment in two.
-/

namespace LineJoin

/-! ## Backslashes before a quote -/

namespace Text

/-- How many backslashes a text ends in. -/
def backslashesAtEnd (t : Text) : Nat := (t.reverse.takeWhile (· == '\\')).length

theorem backslashesAtEnd_append (a b : Text) :
    backslashesAtEnd (a ++ b) =
      backslashesAtEnd b + if backslashesAtEnd b = b.length then backslashesAtEnd a else 0 := by
  unfold backslashesAtEnd
  rw [List.reverse_append, List.takeWhile_append, List.length_reverse]
  split
  · next h => rw [h, List.length_append, List.length_reverse]
  · rfl

/-- A text that ends in an even number of backslashes does not change the parity for what comes
after it. -/
theorem backslashesAtEnd_append_even {a : Text} (ha : backslashesAtEnd a % 2 = 0) (b : Text) :
    backslashesAtEnd (a ++ b) % 2 = 0 ↔ backslashesAtEnd b % 2 = 0 := by
  rw [backslashesAtEnd_append]
  split <;> omega

theorem backslashesAtEnd_escaped (c : Char) : backslashesAtEnd ['\\', c] % 2 = 0 := by
  by_cases hc : c = '\\' <;> simp [backslashesAtEnd, hc]

theorem backslashesAtEnd_plain {c : Char} (hc : c ≠ '\\') : backslashesAtEnd [c] % 2 = 0 := by
  simp [backslashesAtEnd, hc]

end Text

namespace Quote

open Text

/-- A quote stands at a place of a literal's body and is not escaped: the number of backslashes
right before it is even. -/
def ClosesAt (q : Quote) (body : Text) (i : Nat) : Prop :=
  body[i]? = some q.char ∧ backslashesAtEnd (body.take i) % 2 = 0

instance (q : Quote) (body : Text) (i : Nat) : Decidable (q.ClosesAt body i) :=
  inferInstanceAs (Decidable (_ ∧ _))

/-- What an open literal holds, taken from the left: backslashes with the character after each, and
characters that are neither a backslash nor the literal's quote. -/
inductive Inside (q : Quote) : Text → Prop
  | nil : Inside q []
  | escaped (c : Char) {t : Text} : Inside q t → Inside q ('\\' :: c :: t)
  | plain {c : Char} {t : Text} : c ≠ '\\' → c ≠ q.char → Inside q t → Inside q (c :: t)

variable {q : Quote} {body : Text}

/-- Behind whole tokens, a quote closes a literal exactly if it does without them. -/
theorem closesAt_append_iff {a b : Text} (ha : backslashesAtEnd a % 2 = 0) {i : Nat} :
    q.ClosesAt (a ++ b) (a.length + i) ↔ q.ClosesAt b i := by
  unfold ClosesAt
  rw [List.getElem?_append_right (Nat.le_add_right _ _), Nat.add_sub_cancel_left,
    List.take_length_add_append, backslashesAtEnd_append_even ha]

theorem ClosesAt.of_take {i j : Nat} (h : q.ClosesAt (body.take j) i) :
    i < j ∧ q.ClosesAt body i := by
  obtain ⟨hquote, heven⟩ := h
  have hlt : i < j := by
    have hlength := (List.getElem?_eq_some_iff.mp hquote).1
    rw [List.length_take] at hlength
    omega
  rw [List.getElem?_take_of_lt hlt] at hquote
  rw [List.take_take, Nat.min_eq_left (Nat.le_of_lt hlt)] at heven
  exact ⟨hlt, hquote, heven⟩

/-- A body without a quote that closes it is one that a literal can hold, but for a backslash at the
end that waits for a character. -/
theorem inside_or_pending (h : ∀ i, ¬ q.ClosesAt body i) :
    q.Inside body ∨ ∃ before, body = before ++ ['\\'] ∧ q.Inside before := by
  -- on the length, since a backslash takes the next character with it
  induction hn : body.length using Nat.strongRecOn generalizing body with
  | _ n ih =>
      cases body with
      | nil => exact .inl .nil
      | cons c rest =>
          by_cases hc : c = '\\'
          · subst hc
            cases rest with
            | nil => exact .inr ⟨[], rfl, .nil⟩
            | cons d rest =>
                have hrest : ∀ i, ¬ q.ClosesAt rest i := fun i hi =>
                  h _ ((closesAt_append_iff (backslashesAtEnd_escaped d)).mpr hi)
                rcases ih rest.length (by rw [← hn]; simp) hrest rfl with hin | ⟨before, rfl, hin⟩
                · exact .inl (.escaped d hin)
                · exact .inr ⟨'\\' :: d :: before, rfl, .escaped d hin⟩
          · have hquote : c ≠ q.char := by
              rintro rfl
              exact h 0 ⟨rfl, rfl⟩
            have hrest : ∀ i, ¬ q.ClosesAt rest i := fun i hi =>
              h _ ((closesAt_append_iff (a := [c]) (backslashesAtEnd_plain hc)).mpr hi)
            rcases ih rest.length (by rw [← hn]; simp) hrest rfl with hin | ⟨before, rfl, hin⟩
            · exact .inl (.plain hc hquote hin)
            · exact .inr ⟨c :: before, rfl, .plain hc hquote hin⟩

theorem Inside.even (h : q.Inside body) : backslashesAtEnd body % 2 = 0 := by
  induction h with
  | nil => rfl
  | escaped c _ ih => exact (backslashesAtEnd_append_even (backslashesAtEnd_escaped c) _).mpr ih
  | plain hc _ _ ih => exact (backslashesAtEnd_append_even (backslashesAtEnd_plain hc) _).mpr ih

/-- Up to the first quote that closes it, a body is one that a literal can hold. -/
theorem inside_take_of_first {i : Nat} (hi : q.ClosesAt body i)
    (hfirst : ∀ k < i, ¬ q.ClosesAt body k) : q.Inside (body.take i) := by
  have hopen : ∀ k, ¬ q.ClosesAt (body.take i) k := fun k hk => hfirst k hk.of_take.1 hk.of_take.2
  rcases inside_or_pending hopen with hin | ⟨before, hbefore, hin⟩
  · exact hin
  · -- a backslash that waits would make the number of backslashes odd
    exfalso
    have heven := hi.2
    rw [hbefore, backslashesAtEnd_append_even hin.even] at heven
    exact absurd heven (by decide)

end Quote

namespace RuleSet

open Scan

/-! ## Markers that are read whole -/

/-- No two markers of a registered rule set have the same text and mean different things. -/
theorem registry_unambiguous {R : RuleSet} (hR : R ∈ registry) :
    ∀ a ∈ R.markers, ∀ b ∈ R.markers, a.text = b.text → a.kind = b.kind := by
  revert R
  decide +kernel

section Registered

variable {R : RuleSet} {s : State} {m : Text} {kind : TokenKind} {q : Quote}

/-- A marker that the state reacts to is read whole where no longer one stands. -/
theorem token_of_longest (hR : R ∈ registry) (hm : R.Marks m kind) (hreact : s.next kind ≠ s)
    {rest : Text} (hesc : R.scanner.escapesAt s (m ++ rest) = false)
    (hlongest : ∀ l kind', R.Marks l kind' → l <+: m ++ rest → l.length ≤ m.length) :
    R.scanner.token s (m ++ rest) = ⟨s.next kind, kind, m⟩ := by
  have hcounts : R.Counts s (m ++ rest) m kind := ⟨hm, hreact, List.prefix_append m rest⟩
  obtain ⟨htaken, hprecedes⟩ := token_of_counts hesc hcounts
  have hstate : (R.scanner.token s (m ++ rest)).state =
      s.next (R.scanner.token s (m ++ rest)).kind := rfl
  generalize R.scanner.token s (m ++ rest) = tok at htaken hprecedes hstate
  have hlength : m.length ≤ tok.lexeme.length := by
    have hlonger := hprecedes m kind hcounts
    unfold Precedes at hlonger
    omega
  -- both stand at the start and are as long as each other
  have hstart := List.prefix_of_prefix_length_le hcounts.starts htaken.starts hlength
  have htext : tok.lexeme = m :=
    (hstart.eq_of_length (hlength.antisymm (hlongest _ _ htaken.marks htaken.starts))).symm
  have hsame : tok.kind = kind :=
    registry_unambiguous hR _ (mem_markers_iff (m := ⟨_, _⟩).mpr htaken.marks) ⟨m, kind⟩
      (mem_markers_iff.mpr hm) htext
  obtain ⟨state, found, lexeme⟩ := tok
  obtain rfl : found = kind := hsame
  obtain rfl : lexeme = m := htext
  rw [show state = s.next found from hstate]

theorem run_longest (hR : R ∈ registry) (hm : R.Marks m kind) (hreact : s.next kind ≠ s)
    {rest : Text}
    (hlongest : ∀ l kind', R.Marks l kind' → l <+: m ++ rest → l.length ≤ m.length) :
    Run R.scanner s (m ++ rest) [⟨s.next kind, kind, m⟩] (s.next kind) rest := by
  have hsep := registry_separable hR
  have hmem : ⟨m, kind⟩ ∈ R.markers := mem_markers_iff.mpr hm
  have hesc : R.scanner.escapesAt s (m ++ rest) = false := by
    obtain ⟨c, cs, rfl⟩ := List.exists_cons_of_ne_nil (hsep.solid _ hmem)
    have hc := (hsep.visible _ hmem c List.mem_cons_self).2
    rw [← Bool.not_eq_true, Scanner.escapesAt_eq_true_iff, hsep.scanner.escape_eq]
    rintro ⟨_, _, hpre⟩
    exact hc (List.cons_prefix_cons.mp hpre).1.symm
  have hne : m ++ rest ≠ [] := by
    intro hnil
    exact hsep.solid _ hmem (List.append_eq_nil_iff.mp hnil).1
  refine .cons_of_token (token_of_longest hR hm hreact hesc hlongest) hne ?_
  rw [List.drop_left]
  exact .done

/-- A marker that opens no line comment is read whole wherever it stands: only one that does is the
start of another. -/
theorem run_marker (hR : R ∈ registry) (hm : R.Marks m kind) (hkind : kind ≠ .lineComment)
    (hreact : s.next kind ≠ s) (rest : Text) :
    Run R.scanner s (m ++ rest) [⟨s.next kind, kind, m⟩] (s.next kind) rest := by
  apply run_longest hR hm hreact
  intro l kind' hl hpre
  by_contra hlonger
  rw [Nat.not_le] at hlonger
  have hstart : m <+: l := List.prefix_of_prefix_length_le (List.prefix_append m rest) hpre
    (Nat.le_of_lt hlonger)
  exact hkind ((registry_separable hR).extended ⟨m, kind⟩ (mem_markers_iff.mpr hm) ⟨l, kind'⟩
    (mem_markers_iff.mpr hl) hstart hlonger)

/-- No marker holds a blank, so none reaches beyond one. -/
theorem Separable.length_le_of_blank (hR : R.Separable) {l rest : Text} {kind' : TokenKind}
    (hl : R.Marks l kind') (hpre : l <+: m ++ rest)
    (hrest : ∀ c, rest.head? = some c → Text.isBlank c = true) : l.length ≤ m.length := by
  rcases prefix_append_cases hpre with hpre | ⟨v, hv, rfl, tail, rfl⟩
  · exact hpre.length_le
  · exfalso
    obtain ⟨c, v, rfl⟩ := List.exists_cons_of_ne_nil hv
    have hblank := hrest c rfl
    rw [(hR.visible ⟨_, _⟩ (mem_markers_iff.mpr hl) c (by simp)).1] at hblank
    cases hblank

/-- A line marker with a blank or nothing after it is read whole. -/
theorem run_lineMarker (hR : R ∈ registry) (hm : R.Marks m .lineComment) {rest : Text}
    (hrest : ∀ c, rest.head? = some c → Text.isBlank c = true) :
    Run R.scanner .code (m ++ rest) [⟨.lineComment, .lineComment, m⟩] .lineComment rest := by
  apply run_longest hR (s := .code) hm
  · show State.lineComment ≠ .code
    simp
  · intro l kind' hl hpre
    exact (registry_separable hR).length_le_of_blank hl hpre hrest

/-! ## Literals -/

/-- What an open literal holds is passed over, whatever comes after it. -/
theorem exists_run_of_inside (hR : R.Separable) {t : Text} (h : q.Inside t) (rest : Text) :
    ∃ ts, Run R.scanner (.literal q) (t ++ rest) ts (.literal q) rest := by
  induction h with
  | nil => exact ⟨[], .done⟩
  | escaped c _ ih =>
      obtain ⟨ts, hts⟩ := ih
      exact ⟨_, hts.escaped_cons hR.scanner c⟩
  | plain hc hquote _ ih =>
      obtain ⟨ts, hts⟩ := ih
      exact ⟨_, hts.literal_cons hR.scanner hc hquote⟩

/-- A literal that nothing in a text closes is open at its end. -/
theorem exists_run_of_open (hR : R.Separable) {body : Text} (h : ∀ i, ¬ q.ClosesAt body i) :
    ∃ ts, Run R.scanner (.literal q) body ts (.literal q) [] := by
  rcases Quote.inside_or_pending h with hin | ⟨before, rfl, hin⟩
  · obtain ⟨ts, hts⟩ := exists_run_of_inside hR hin []
    rw [List.append_nil] at hts
    exact ⟨ts, hts⟩
  · obtain ⟨ts, hts⟩ := exists_run_of_inside hR hin ['\\']
    exact ⟨_, hts.append (Run.escape_at_end hR.scanner q)⟩

/-- Behind a text that ends in code, a quote opens a literal. -/
theorem exists_run_into_literal (hR : R ∈ registry) (hq : q ∈ R.quotes) {p : Text}
    (hp : R.classify p = some ⟨.code, none⟩) (body : Text) :
    ∃ ts, Run R.scanner .code (p ++ q.char :: body) ts (.literal q) body := by
  have hsep := registry_separable hR
  obtain ⟨ts, hts⟩ := exists_run_of_classify (s := .code) hp
  have hseam := hts.before_alone hsep.scanner rfl
    (fun m hm => hsep.quote_alone m (mem_scanner_markers.mp hm) q) body
  have hopen := run_marker hR (s := .code) (.quote hq) (by simp) (by simp [State.next]) body
  exact ⟨_, hseam.append hopen⟩

theorem classify_of_open (hR : R ∈ registry) (hq : q ∈ R.quotes) {p body : Text}
    (hp : R.classify p = some ⟨.code, none⟩) (h : ∀ i, ¬ q.ClosesAt body i) :
    R.classify (p ++ q.char :: body) = some ⟨.literal, some [q.char]⟩ := by
  have hsep := registry_separable hR
  obtain ⟨ts, hts⟩ := exists_run_into_literal hR hq hp body
  obtain ⟨us, hus⟩ := exists_run_of_open hsep h
  exact classify_of_run hsep.scanner.solid (hts.append hus)

theorem classify_of_inside (hR : R ∈ registry) (hq : q ∈ R.quotes) {p body : Text}
    (hp : R.classify p = some ⟨.code, none⟩) (h : q.Inside body) :
    R.classify (p ++ q.char :: (body ++ [q.char])) = some ⟨.code, none⟩ := by
  have hsep := registry_separable hR
  obtain ⟨ts, hts⟩ := exists_run_into_literal hR hq hp (body ++ [q.char])
  obtain ⟨us, hus⟩ := exists_run_of_inside hsep h [q.char]
  have hclose := run_marker hR (s := .literal q) (.quote hq) (by simp) (by simp [State.next]) []
  have hend : (State.literal q).next (.quote q) = .code := by simp [State.next]
  rw [hend] at hclose
  exact classify_of_run hsep.scanner.solid ((hts.append hus).append hclose)

/-! ## Block comments -/

/-- A block comment is open as far as its closing marker does not stand anywhere. -/
theorem run_blockComment {opener closer : Text}
    (hblock : R.block = some (opener, closer)) {w rest : Text}
    (h : ∀ k < w.length, ¬ closer <+: (w ++ rest).drop k) :
    Run R.scanner .blockComment (w ++ rest) (plain .blockComment w) .blockComment rest := by
  induction w with
  | nil => exact .done
  | cons c w ih =>
      have hrest := ih fun k hk => h (k + 1) (Nat.succ_lt_succ hk)
      refine .plain_cons rfl ?_ hrest
      intro m hm hpre
      have hmem := mem_scanner_markers.mp (Scanner.mem_active.mp hm).1
      have htext : m.text = closer :=
        text_eq_of_blockClose hmem (mem_markers_iff (m := ⟨_, _⟩).mpr (.closer hblock))
          (kind_eq_of_active_blockComment hm) rfl
      rw [htext] at hpre
      exact h 0 (Nat.zero_lt_succ _) hpre

theorem classify_of_unclosed (hR : R ∈ registry) {opener closer body : Text}
    (hblock : R.block = some (opener, closer)) (h : ∀ k, ¬ closer <+: body.drop k) :
    R.classify (opener ++ body) = some ⟨.blockComment, none⟩ := by
  have hsep := registry_separable hR
  have hopen := run_marker hR (s := .code) (.opener hblock) (by simp) (by simp [State.next]) body
  have hinside : Run R.scanner .blockComment (body ++ []) _ .blockComment [] :=
    run_blockComment hblock (by simpa using fun k _ => h k)
  rw [List.append_nil] at hinside
  exact classify_of_run hsep.scanner.solid (hopen.append hinside)

theorem classify_of_closed (hR : R ∈ registry) {opener closer w : Text}
    (hblock : R.block = some (opener, closer))
    (h : ∀ k < w.length, ¬ closer <+: (w ++ closer).drop k) :
    R.classify (opener ++ (w ++ closer)) = some ⟨.code, none⟩ := by
  have hsep := registry_separable hR
  have hopen := run_marker hR (s := .code) (.opener hblock) (by simp) (by simp [State.next])
    (w ++ closer)
  have hinside := run_blockComment hblock h
  have hclose := run_marker hR (s := .blockComment) (.closer hblock) (by simp)
    (by simp [State.next]) []
  rw [List.append_nil] at hclose
  exact classify_of_run hsep.scanner.solid ((hopen.append hinside).append hclose)

/-- What a cut through a text leaves of it holds no closing marker, unless the first one ends before
the cut. -/
theorem not_closed_of_take {closer body : Text} (hcloser : closer ≠ []) {i j : Nat}
    (hfirst : ∀ k < i, ¬ closer <+: body.drop k) (hj : j < i + closer.length) (k : Nat) :
    ¬ closer <+: (body.take j).drop k := by
  intro hpre
  have hpos := List.length_pos_of_ne_nil hcloser
  have hlength := hpre.length_le
  rw [List.length_drop, List.length_take] at hlength
  exact hfirst k (by omega) (hpre.trans ((List.take_prefix j body).drop k))

end Registered

/-- For every registered rule set, literals and block comments end exactly where they should.

Behind a text that ends in code, a quote opens a literal. If its body has a first place `i` at which
the same quote stands behind an even number of backslashes, the literal is open at every cut up to
`i`, and code follows that quote; if there is no such place, the literal is open at every cut.

A block comment whose body has the closing marker first at place `i` is open at every cut before the
end of that marker, and code follows it; without a closing marker the comment is open. -/
theorem literals_and_comments_end (R : RuleSet) (hR : R ∈ registry) :
    (∀ q ∈ R.quotes, ∀ p : Text, R.classify p = some ⟨.code, none⟩ → ∀ body : Text,
      (∀ i, q.ClosesAt body i → (∀ k < i, ¬ q.ClosesAt body k) →
        (∀ j ≤ i, R.classify (p ++ q.char :: body.take j) = some ⟨.literal, some [q.char]⟩) ∧
        R.classify (p ++ q.char :: body.take (i + 1)) = some ⟨.code, none⟩) ∧
      ((∀ i, ¬ q.ClosesAt body i) → ∀ j ≤ body.length,
        R.classify (p ++ q.char :: body.take j) = some ⟨.literal, some [q.char]⟩)) ∧
    ∀ opener closer : Text, R.block = some (opener, closer) → ∀ body : Text,
      (∀ i, closer <+: body.drop i → (∀ k < i, ¬ closer <+: body.drop k) →
        (∀ j < i + closer.length,
          R.classify (opener ++ body.take j) = some ⟨.blockComment, none⟩) ∧
        R.classify (opener ++ body.take (i + closer.length)) = some ⟨.code, none⟩) ∧
      ((∀ i, ¬ closer <+: body.drop i) →
        R.classify (opener ++ body) = some ⟨.blockComment, none⟩) := by
  refine ⟨?_, ?_⟩
  · intro q hq p hp body
    refine ⟨?_, ?_⟩
    · intro i hi hfirst
      refine ⟨?_, ?_⟩
      · intro j hj
        refine classify_of_open hR hq hp fun k hk => ?_
        obtain ⟨hlt, hclose⟩ := hk.of_take
        exact hfirst k (by omega) hclose
      · have htake : body.take (i + 1) = body.take i ++ [q.char] := by
          rw [List.take_add_one, hi.1]
          rfl
        rw [htake]
        exact classify_of_inside hR hq hp (Quote.inside_take_of_first hi hfirst)
    · intro hopen j _
      exact classify_of_open hR hq hp fun k hk => hopen k hk.of_take.2
  · intro opener closer hblock body
    have hcloser : closer ≠ [] :=
      (registry_separable hR).solid ⟨closer, .blockClose⟩ (mem_markers_iff.mpr (.closer hblock))
    refine ⟨?_, classify_of_unclosed hR hblock⟩
    intro i hi hfirst
    refine ⟨?_, ?_⟩
    · intro j hj
      exact classify_of_unclosed hR hblock (not_closed_of_take hcloser hfirst hj)
    · have htake : body.take (i + closer.length) = body.take i ++ closer := by
        rw [List.take_add, ← List.prefix_iff_eq_take.mp hi]
      rw [htake]
      refine classify_of_closed hR hblock ?_
      intro k hk hpre
      rw [← htake] at hpre
      rw [List.length_take] at hk
      exact hfirst k (by omega) (hpre.trans ((List.take_prefix _ body).drop k))

/-- A literal with a comment marker, another quote, an escaped quote and an escaped backslash in it,
and a block comment that starts like `/*/`. -/
theorem literals_and_comments_end_of_mixed :
    fallback ∈ registry ∧
    fallback.classify "f('a', ".toList = some ⟨.code, none⟩ ∧
    Quote.double.ClosesAt "// ' \\\" \\\\\" b".toList 10 ∧
    (∀ k < 10, ¬ Quote.double.ClosesAt "// ' \\\" \\\\\" b".toList k) ∧
    (∀ j ≤ 10, fallback.classify ("f('a', ".toList ++ Quote.double.char ::
      "// ' \\\" \\\\\" b".toList.take j) = some ⟨.literal, some [Quote.double.char]⟩) ∧
    fallback.classify ("f('a', ".toList ++ Quote.double.char ::
      "// ' \\\" \\\\\" b".toList.take 11) = some ⟨.code, none⟩ ∧
    "*/".toList <+: "/ // \" * */ c".toList.drop 9 ∧
    (∀ k < 9, ¬ "*/".toList <+: "/ // \" * */ c".toList.drop k) ∧
    (∀ j < 11, fallback.classify ("/*".toList ++ "/ // \" * */ c".toList.take j) =
      some ⟨.blockComment, none⟩) ∧
    fallback.classify ("/*".toList ++ "/ // \" * */ c".toList.take 11) = some ⟨.code, none⟩ := by
  have hmem : fallback ∈ registry := List.mem_cons_self
  have hcode : fallback.classify "f('a', ".toList = some ⟨.code, none⟩ := by cbv
  have hclose : Quote.double.ClosesAt "// ' \\\" \\\\\" b".toList 10 := by decide +kernel
  have hfirst : ∀ k < 10, ¬ Quote.double.ClosesAt "// ' \\\" \\\\\" b".toList k := by decide +kernel
  have hstands : "*/".toList <+: "/ // \" * */ c".toList.drop 9 := by decide +kernel
  have hbefore : ∀ k < 9, ¬ "*/".toList <+: "/ // \" * */ c".toList.drop k := by decide +kernel
  obtain ⟨hliterals, hcomments⟩ := literals_and_comments_end fallback hmem
  obtain ⟨hopen, hclosed⟩ := (hliterals .double (by decide) _ hcode _).1 10 hclose hfirst
  obtain ⟨hunclosed, hended⟩ := (hcomments _ _ rfl _).1 9 hstands hbefore
  exact ⟨hmem, hcode, hclose, hfirst, hopen, hclosed, hstands, hbefore, hunclosed, hended⟩

end RuleSet

end LineJoin
