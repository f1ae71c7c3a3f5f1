import LineJoin.Proofs.RuleSet.Separable

/-!
# Scanning line by line

The context of joined lines can be had without joining them: scan the lines as they are, one after
the other, each from the state in which the one before it ended. No marker is seen across the end of
a line. The one thing that is carried over besides the state is an escape marker at the end of a
line inside a literal, which takes the first character of the next line that has any.

The step lemma is `Separable.carries_joinPair`: joining one more line keeps the joined text and the
scan of the lines in agreement. The token-by-token account behind it is `Separable.run_joinIn`:
outside literals, a join drops and inserts nothing but characters that the scan passes over one at a
time, so no marker is made, lost or moved.
-/

namespace LineJoin

namespace Scan

/-! ## The scan of lines -/

/-- What is carried from one line to the next: the state, and whether an escape marker still waits
for the character that it takes. -/
structure Carry where
  state : State := .code
  pending : Bool := false
  deriving DecidableEq, Repr

/-- What is carried on after a line. A pending escape takes the first character, and waits on if the
line is empty. -/
def Scanner.scanLine (sc : Scanner) (carry : Carry) (line : Text) : Option Carry :=
  if carry.pending && line.isEmpty then some carry
  else
    (sc.scanFrom carry.state (if carry.pending then line.drop 1 else line)).map fun tokens =>
      ⟨(tokens.getLast?.map (·.state)).getD carry.state, sc.endsCutShort tokens⟩

end Scan

namespace RuleSet

open Scan

/-- What is carried on after lines that start in code. -/
def scanLines (R : RuleSet) (lines : List Text) : Option Carry :=
  lines.foldlM R.scanner.scanLine {}

/-! ## A join, token by token -/

theorem run_lineComment (sc : Scanner) (w t : Text) :
    Run sc .lineComment (w ++ t) (plain .lineComment w) .lineComment t := by
  induction w with
  | nil => exact .done
  | cons c w ih => exact .plain_cons rfl (by simp [active_lineComment]) ih

theorem escapes_eq_false_iff {e : State} : e.escapes = false ↔ e.context.region ≠ .literal := by
  cases e <;> simp [State.context, State.escapes]

namespace Separable

variable {R : RuleSet}

/-- A star with blanks or nothing after it does not close a block comment. -/
theorem not_closed_by_decoration (hR : R.Separable) {c : Char} {body : Text}
    (hbody : ∀ d, body.head? = some d → Text.isBlank d = true) {m : Marker}
    (hm : m ∈ R.scanner.active .blockComment) : ¬ m.text <+: c :: body := by
  intro hpre
  have hmem := mem_scanner_markers.mp (Scanner.mem_active.mp hm).1
  have hlong := hR.closer_long m hmem (kind_eq_of_active_blockComment hm)
  obtain ⟨x, y, rest, htext⟩ : ∃ x y rest, m.text = x :: y :: rest := by
    match htext : m.text, hlong with
    | x :: y :: rest, _ => exact ⟨x, y, rest, rfl⟩
  rw [htext, List.cons_prefix_cons] at hpre
  obtain ⟨tail, htail⟩ := hpre.2
  have hblank := hbody y (by rw [← htail]; rfl)
  rw [(hR.visible m hmem y (by simp [htext])).1] at hblank
  cases hblank

theorem run_trimStart (hR : R.Separable) {e : State} (he : e.escapes = false) (line : Text) :
    ∃ dropped, Run R.scanner e line (plain e dropped) e (Text.trimStart line) := by
  obtain ⟨v, hv, hline⟩ := Text.exists_blank_append_trimStart line
  refine ⟨v, ?_⟩
  have hskip := Run.skip_inert hR.scanner.solid he (hR.inert_of_blank hv) (Text.trimStart line)
  rw [← hline] at hskip
  exact hskip

theorem run_blockCommentRight (hR : R.Separable) (line : Text) :
    ∃ dropped, Run R.scanner .blockComment line (plain .blockComment dropped) .blockComment
      (R.blockCommentRight line) := by
  obtain ⟨v, hv⟩ := hR.run_trimStart (e := .blockComment) rfl line
  rcases blockCommentRight_cases R line with ⟨_, body, hrep, hstarts, hright⟩ | ⟨_, hright⟩
  · obtain ⟨d, hd, ⟨rest, hrest, hblank⟩, rfl⟩ := hrep
    obtain rfl : rest = body := by simpa using hrest.symm.trans hstarts
    have hstar : d = .star := by
      cases d with
      | star => rfl
      | bar => exact absurd hd hR.decorated
    obtain ⟨w, hw⟩ := hR.run_trimStart (e := .blockComment) rfl rest
    have hmark := Run.plain_cons (c := d.char) rfl
      (fun m hm => hR.not_closed_by_decoration (hblank hstar) hm) hw
    rw [← hrest] at hmark
    refine ⟨v ++ d.char :: w, ?_⟩
    rw [hright, plain, List.map_append]
    exact hv.append hmark
  · rw [hright]
    exact ⟨v, hv⟩

/-- What the line on the right loses is passed over, character by character. -/
theorem run_keptRight (hR : R.Separable) {e : State} (he : e.escapes = false) (line : Text) :
    ∃ dropped, Run R.scanner e line (plain e dropped) e (R.keptRight e.context.region line) := by
  cases e with
  | code => exact hR.run_trimStart he line
  | lineComment =>
      obtain ⟨cut, hline, _⟩ := exists_cut_right R (by simp : Region.lineComment ≠ .literal) line
      refine ⟨cut, ?_⟩
      have hskip := run_lineComment R.scanner cut (R.keptRight .lineComment line)
      rw [← hline] at hskip
      exact hskip
  | blockComment => exact hR.run_blockCommentRight line
  | literal q => cases he

/-- The gap is passed over too, and no token reaches over the join point. -/
theorem run_gap (hR : R.Separable) {left : Text} {ts : List Token} {e : State}
    (h : Run R.scanner .code left ts e []) (he : e.escapes = false) (right : Text) :
    ∃ gap, R.gap e.context.region left right = gap ∧
      Run R.scanner .code (left ++ gap ++ right) (ts ++ plain e gap) e right := by
  refine ⟨_, rfl, ?_⟩
  by_cases hparted : R.Parted e.context.region left right
  · rw [gap_eq_space_iff.mpr hparted]
    have hspace : ∀ c ∈ [' '], R.scanner.Inert c := hR.inert_of_blank (by decide)
    have hseam := h.before_inert hR.scanner he (hspace ' ' (by simp)) right
    have hskip := Run.skip_inert hR.scanner.solid he hspace right
    rw [List.append_assoc]
    exact hseam.append hskip
  -- with no gap, one side is empty or the two are code that touches
  · have hnil : R.gap e.context.region left right = [] := if_neg hparted
    rw [hnil]
    simp only [plain, List.map_nil, List.append_nil]
    by_cases hleft : left = []
    · subst hleft
      obtain ⟨rfl, rfl, _⟩ := h.eq_of_nil
      exact .done
    by_cases hright : right = []
    · subst hright
      simpa using h
    · have htouch : e.context.region = .code ∧ R.touches left right = true := by
        by_contra hnot
        exact hparted ⟨hleft, hright, escapes_eq_false_iff.mp he, hnot⟩
      obtain rfl : e = .code := by
        cases e <;> simp_all [State.context]
      exact hR.run_touching h htouch.2

/-- Outside literals, the tokens of a join are those of the text and those of the line, less
characters that are taken one at a time at the join point, and with the gap taken so too. -/
theorem run_joinIn (hR : R.Separable) {text line : Text} {ts us : List Token} {e f : State}
    (h : Run R.scanner .code text ts e []) (he : e.escapes = false)
    (hline : Run R.scanner e line us f []) :
    ∃ kept cut gap dropped rest, ts = kept ++ plain e cut ∧ us = plain e dropped ++ rest ∧
      Run R.scanner .code (R.joinIn e.context.region text line) (kept ++ plain e gap ++ rest)
        f [] := by
  have hregion := escapes_eq_false_iff.mp he
  obtain ⟨cut, htext, hcut⟩ := exists_cut_left R hregion text
  -- the cut comes off the end of the first scan, and off the start of the second
  rw [htext] at h
  obtain ⟨kept, rfl, hkept⟩ := h.cut_inert hR.scanner he (hR.inert_of_cutsOnly hcut)
  obtain ⟨dropped, hdropped⟩ := hR.run_keptRight he line
  obtain ⟨rest, f', hrest, _⟩ := exists_run hR.scanner.solid e (R.keptRight e.context.region line)
  obtain ⟨rfl, rfl⟩ := hline.deterministic (hdropped.append hrest)
  obtain ⟨gap, hgap, hseam⟩ := hR.run_gap hkept he (R.keptRight e.context.region line)
  refine ⟨kept, cut, gap, dropped, rest, rfl, rfl, ?_⟩
  rw [joinIn_eq, hgap]
  exact hseam.append hrest

end Separable

/-! ## A join, line by line -/

/-- The joined text and the scan of its lines agree: the text ends in the state that is carried on,
and with an escape cut short exactly when one is pending. -/
def Carries (R : RuleSet) (text : Text) (carry : Carry) : Prop :=
  ∃ ts, Run R.scanner .code text ts carry.state [] ∧ R.scanner.endsCutShort ts = carry.pending

theorem scanLine_of_run {sc : Scanner} (hsc : sc.Solid) {carry : Carry} {line : Text}
    {ts : List Token} {e : State} (hline : carry.pending = true → line ≠ [])
    (h : Run sc carry.state (if carry.pending = true then line.drop 1 else line) ts e []) :
    sc.scanLine carry line = some ⟨e, sc.endsCutShort ts⟩ := by
  have hgo : (carry.pending && line.isEmpty) = false := by
    cases hp : carry.pending with
    | false => rfl
    | true => simp [hline hp]
  rw [Scanner.scanLine, hgo, if_neg Bool.false_ne_true, scanFrom_of_run hsc h, Option.map_some,
    ← h.end_eq]

namespace Separable

variable {R : RuleSet}

theorem classify_of_carries (hR : R.Separable) {text : Text} {carry : Carry}
    (h : R.Carries text carry) : R.classify text = some carry.state.context := by
  obtain ⟨ts, hts, _⟩ := h
  exact classify_of_run hR.scanner.solid hts

theorem endsCutShort_eq_false (hR : R.Separable) {s e : State} {t : Text} {ts : List Token}
    (h : Run R.scanner s t ts e []) (he : e.escapes = false) :
    R.scanner.endsCutShort ts = false := by
  rw [← Bool.not_eq_true]
  intro hcut
  rw [(h.escapes_of_endsCutShort hR.scanner hcut).1] at he
  cases he

/-- The first line is scanned as it is. -/
theorem carries_first (hR : R.Separable) (line : Text) :
    ∃ carry, R.scanner.scanLine {} line = some carry ∧ R.Carries line carry := by
  obtain ⟨ts, e, h, _⟩ := exists_run hR.scanner.solid .code line
  exact ⟨⟨e, R.scanner.endsCutShort ts⟩, scanLine_of_run hR.scanner.solid (by simp) h, ts, h, rfl⟩

/-- Outside literals, joining one more line keeps the joined text and the scan in agreement. -/
theorem carries_joinIn_of_not_literal (hR : R.Separable) {text : Text} {carry : Carry}
    (h : R.Carries text carry) (he : carry.state.escapes = false) (line : Text) :
    ∃ carry', R.scanner.scanLine carry line = some carry' ∧
      R.Carries (R.joinIn carry.state.context.region text line) carry' := by
  obtain ⟨ts, hts, hcut⟩ := h
  have hpending : carry.pending = false := by rw [← hcut, hR.endsCutShort_eq_false hts he]
  obtain ⟨us, f, hus, _⟩ := exists_run hR.scanner.solid carry.state line
  refine ⟨⟨f, R.scanner.endsCutShort us⟩, ?_, ?_⟩
  · exact scanLine_of_run hR.scanner.solid (by simp [hpending]) (by simpa [hpending] using hus)
  · obtain ⟨kept, cut, gap, dropped, rest, _, rfl, hjoined⟩ := hR.run_joinIn hts he hus
    refine ⟨_, hjoined, ?_⟩
    by_cases hrest : rest = []
    · -- nothing was scanned beyond the dropped characters, so the state is the old one
      have hf : f.escapes = false := by
        have hend := hus.end_eq
        rw [hrest, List.append_nil] at hend
        cases hlast : (plain carry.state dropped).getLast? with
        | none => rw [hlast] at hend; exact hend ▸ he
        | some tok =>
            have hstate := (plain_kind (List.mem_of_getLast? hlast)).2
            rw [hlast] at hend
            exact (hend.trans hstate) ▸ he
      rw [hR.endsCutShort_eq_false hjoined hf, hR.endsCutShort_eq_false hus hf]
    · rw [Scanner.endsCutShort_append hrest, Scanner.endsCutShort_append hrest]

/-- Inside a literal too: there a line is appended as it is, and its first character goes to an
escape that is pending. -/
theorem carries_append_of_literal (hR : R.Separable) {text : Text} {carry : Carry} {q : Quote}
    (h : R.Carries text carry) (he : carry.state = .literal q) (line : Text) :
    ∃ carry', R.scanner.scanLine carry line = some carry' ∧ R.Carries (text ++ line) carry' := by
  obtain ⟨ts, hts, hcut⟩ := h
  by_cases hwait : carry.pending = true ∧ line = []
  -- an empty line leaves a pending escape pending
  · refine ⟨carry, ?_, ts, ?_, hcut⟩
    · simp [Scanner.scanLine, hwait]
    · rw [hwait.2, List.append_nil]
      exact hts
  · have hline : carry.pending = true → line ≠ [] := fun hp hnil => hwait ⟨hp, hnil⟩
    rw [he] at hts
    obtain ⟨us, hus, hresume⟩ := hts.resume_literal hR.scanner (by rw [hcut]; exact hline)
    rw [hcut] at hresume
    obtain ⟨vs, f, hvs, _⟩ := exists_run hR.scanner.solid (.literal q)
      (if carry.pending = true then line.drop 1 else line)
    refine ⟨⟨f, R.scanner.endsCutShort vs⟩, ?_, us ++ vs, hresume.append hvs, ?_⟩
    · exact scanLine_of_run hR.scanner.solid hline (by rw [he]; exact hvs)
    · by_cases hnil : vs = []
      · rw [hnil, List.append_nil, hus]
        rfl
      · exact Scanner.endsCutShort_append hnil

/-- One more line is joined onto the text and scanned from the state before it, with one result. -/
theorem carries_joinPair (hR : R.Separable) {text : Text} {carry : Carry}
    (h : R.Carries text carry) (line : Text) :
    ∃ joined carry', R.joinPair text line = .ok joined ∧
      R.scanner.scanLine carry line = some carry' ∧ R.Carries joined carry' := by
  have hjoin := joinPair_of_classify (hR.classify_of_carries h) line
  cases he : carry.state.escapes with
  | false =>
      obtain ⟨carry', hscan, hcarries⟩ := hR.carries_joinIn_of_not_literal h he line
      exact ⟨_, carry', hjoin, hscan, hcarries⟩
  | true =>
      obtain ⟨q, hq⟩ := State.escapes_eq_true_iff.mp he
      obtain ⟨carry', hscan, hcarries⟩ := hR.carries_append_of_literal h hq line
      refine ⟨text ++ line, carry', ?_, hscan, hcarries⟩
      rw [hjoin, hq]
      rfl

theorem carries_foldlM (hR : R.Separable) (lines : List Text) {text : Text} {carry : Carry}
    (h : R.Carries text carry) :
    ∃ joined carry', lines.foldlM R.joinPair text = .ok joined ∧
      lines.foldlM R.scanner.scanLine carry = some carry' ∧ R.Carries joined carry' := by
  induction lines generalizing text carry with
  | nil => exact ⟨text, carry, rfl, rfl, h⟩
  | cons line lines ih =>
      obtain ⟨joined, carry', hjoin, hscan, hcarries⟩ := hR.carries_joinPair h line
      obtain ⟨whole, carry'', hwhole, hscans, hlast⟩ := ih hcarries
      refine ⟨whole, carry'', ?_, ?_, hlast⟩
      · rw [List.foldlM_cons, hjoin]
        exact hwhole
      · rw [List.foldlM_cons, hscan]
        exact hscans

/-- Joined lines and the scan of the lines agree. -/
theorem carries_joinAll (hR : R.Separable) {lines : List Text} (hlines : lines ≠ []) :
    ∃ joined carry, R.joinAll lines = .ok joined ∧ R.scanLines lines = some carry ∧
      R.Carries joined carry := by
  obtain ⟨line, lines, rfl⟩ := List.exists_cons_of_ne_nil hlines
  obtain ⟨carry, hscan, hcarries⟩ := hR.carries_first line
  obtain ⟨joined, carry', hjoin, hscans, hlast⟩ := hR.carries_foldlM lines hcarries
  refine ⟨joined, carry', hjoin, ?_, hlast⟩
  rw [scanLines, List.foldlM_cons, hscan]
  exact hscans

/-! ## What a join leaves open -/

/-- At a code point the join leaves open what the line leaves open by itself. -/
theorem classify_joinPair_of_code (hR : R.Separable) {a : Text}
    (ha : R.classify a = some ⟨.code, none⟩) (b : Text) :
    ∃ joined, R.joinPair a b = .ok joined ∧ R.classify joined = R.classify b := by
  obtain ⟨ts, hts⟩ := exists_run_of_classify (s := .code) ha
  obtain ⟨us, f, hus, _⟩ := exists_run hR.scanner.solid .code b
  obtain ⟨_, _, _, _, _, _, _, hjoined⟩ := hR.run_joinIn hts rfl hus
  refine ⟨_, joinPair_of_classify ha b, ?_⟩
  rw [classify_of_run hR.scanner.solid hus]
  exact classify_of_run hR.scanner.solid hjoined

/-- A line comment stays one, whatever comes after it. -/
theorem classify_joinPair_of_lineComment (hR : R.Separable) {a : Text}
    (ha : R.classify a = some ⟨.lineComment, none⟩) (b : Text) :
    ∃ joined, R.joinPair a b = .ok joined ∧ R.classify joined = some ⟨.lineComment, none⟩ := by
  obtain ⟨ts, hts⟩ := exists_run_of_classify (s := .lineComment) ha
  have hus := run_lineComment R.scanner b []
  rw [List.append_nil] at hus
  obtain ⟨_, _, _, _, _, _, _, hjoined⟩ := hR.run_joinIn hts rfl hus
  exact ⟨_, joinPair_of_classify ha b, classify_of_run hR.scanner.solid hjoined⟩

/-- In a block comment, what a join drops or inserts is passed over within the comment. -/
theorem tokenize_joinPair_of_blockComment (hR : R.Separable) {a : Text}
    (ha : R.classify a = some ⟨.blockComment, none⟩) (b : Text) :
    ∃ joined kept cut gap dropped rest, R.joinPair a b = .ok joined ∧
      R.tokenize a = some (kept ++ plain .blockComment cut) ∧
      R.scanner.scanFrom .blockComment b = some (plain .blockComment dropped ++ rest) ∧
      R.tokenize joined = some (kept ++ plain .blockComment gap ++ rest) := by
  obtain ⟨ts, hts⟩ := exists_run_of_classify (s := .blockComment) ha
  obtain ⟨us, f, hus, _⟩ := exists_run hR.scanner.solid .blockComment b
  obtain ⟨kept, cut, gap, dropped, rest, rfl, rfl, hjoined⟩ := hR.run_joinIn hts rfl hus
  exact ⟨_, kept, cut, gap, dropped, rest, joinPair_of_classify ha b,
    scanFrom_of_run hR.scanner.solid hts, scanFrom_of_run hR.scanner.solid hus,
    scanFrom_of_run hR.scanner.solid hjoined⟩

end Separable

/-- For every registered rule set, joined lines leave open what the scan of the lines themselves
carries on at their end. In particular: at a code point the join leaves open what the next line
does; a line comment stays one; and in a block comment the tokens of the join are those of the text
and those of the line scanned from inside the comment, less plain characters at the join point and
with the gap as plain characters, so that no closing marker is made, lost or moved. -/
theorem classify_joinAll_eq_scanLines (R : RuleSet) (hR : R ∈ registry) :
    (∀ lines, lines ≠ [] → ∃ joined carry, R.joinAll lines = .ok joined ∧
      R.scanLines lines = some carry ∧ R.classify joined = some carry.state.context) ∧
    (∀ a b, R.classify a = some ⟨.code, none⟩ →
      ∃ joined, R.joinPair a b = .ok joined ∧ R.classify joined = R.classify b) ∧
    (∀ a b, R.classify a = some ⟨.lineComment, none⟩ →
      ∃ joined, R.joinPair a b = .ok joined ∧ R.classify joined = some ⟨.lineComment, none⟩) ∧
    (∀ a b, R.classify a = some ⟨.blockComment, none⟩ →
      ∃ joined kept cut gap dropped rest, R.joinPair a b = .ok joined ∧
        R.tokenize a = some (kept ++ plain .blockComment cut) ∧
        R.scanner.scanFrom .blockComment b = some (plain .blockComment dropped ++ rest) ∧
        R.tokenize joined = some (kept ++ plain .blockComment gap ++ rest)) := by
  have hsep := registry_separable hR
  refine ⟨?_, ?_, ?_, ?_⟩
  · intro lines hlines
    obtain ⟨joined, carry, hjoin, hscan, hcarries⟩ := hsep.carries_joinAll hlines
    exact ⟨joined, carry, hjoin, hscan, hsep.classify_of_carries hcarries⟩
  · exact fun a b ha => hsep.classify_joinPair_of_code ha b
  · exact fun a b ha => hsep.classify_joinPair_of_lineComment ha b
  · exact fun a b ha => hsep.tokenize_joinPair_of_blockComment ha b

/-- An escape that waits over an empty line, and a star that ends a line before a slash. -/
theorem classify_joinAll_eq_scanLines_of_fallback :
    fallback ∈ registry ∧
    (∃ joined carry,
      fallback.joinAll ["s = 'it\\".toList, [], "'s' /* a *".toList, "/ b */ c // d".toList]
        = .ok joined ∧
      fallback.scanLines ["s = 'it\\".toList, [], "'s' /* a *".toList, "/ b */ c // d".toList]
        = some carry ∧
      fallback.classify joined = some carry.state.context) ∧
    (fallback.classify "f(".toList = some ⟨.code, none⟩ ∧
      ∃ joined, fallback.joinPair "f(".toList "'x".toList = .ok joined ∧
        fallback.classify joined = fallback.classify "'x".toList) ∧
    (fallback.classify "// a".toList = some ⟨.lineComment, none⟩ ∧
      ∃ joined, fallback.joinPair "// a".toList "/* b".toList = .ok joined ∧
        fallback.classify joined = some ⟨.lineComment, none⟩) ∧
    (fallback.classify "/* a *".toList = some ⟨.blockComment, none⟩ ∧
      ∃ joined kept cut gap dropped rest,
        fallback.joinPair "/* a *".toList "* / b */".toList = .ok joined ∧
        fallback.tokenize "/* a *".toList = some (kept ++ plain .blockComment cut) ∧
        fallback.scanner.scanFrom .blockComment "* / b */".toList
          = some (plain .blockComment dropped ++ rest) ∧
        fallback.tokenize joined = some (kept ++ plain .blockComment gap ++ rest)) := by
  have hmem : fallback ∈ registry := List.mem_cons_self
  have hcode : fallback.classify "f(".toList = some ⟨.code, none⟩ := by cbv
  have hline : fallback.classify "// a".toList = some ⟨.lineComment, none⟩ := by cbv
  have hblock : fallback.classify "/* a *".toList = some ⟨.blockComment, none⟩ := by cbv
  obtain ⟨hall, hincode, hinline, hinblock⟩ := classify_joinAll_eq_scanLines fallback hmem
  exact ⟨hmem, hall _ (List.cons_ne_nil _ _), ⟨hcode, hincode _ _ hcode⟩,
    ⟨hline, hinline _ _ hline⟩, ⟨hblock, hinblock _ _ hblock⟩⟩

end RuleSet

end LineJoin
