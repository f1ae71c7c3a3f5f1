import LineJoin.Proofs.Join.LineByLine

/-!
# Where joins can be regrouped

Joining is not associative: a line that opens a comment changes how the next one is joined. But a
text that ends in code can be joined onto the result of a join as well as onto its first line
(`joinAll_cons_of_code`), as long as the rule set has no marker that continues code lines. Such a
marker at the end of a text is dropped by the next join, and which join that is depends on the
grouping.

The argument is one equation, `joinIn_code_joinIn`: a join in front of a text and a join behind it
commute. The text in the middle may be blank, and may end in any region.
-/

namespace LineJoin.RuleSet

open Scan Text

variable {R : RuleSet}

/-! ## What the gap depends on -/

/-- The gap depends on the last character of the left text and the first one of the right. -/
theorem gap_congr {region : Region} {left left' right right' : Text}
    (hleft : left.getLast? = left'.getLast?) (hright : right.head? = right'.head?) :
    R.gap region left right = R.gap region left' right' := by
  have hleftNil : left = [] ↔ left' = [] := by
    rw [← List.getLast?_eq_none_iff, hleft, List.getLast?_eq_none_iff]
  have hrightNil : right = [] ↔ right' = [] := by
    rw [← List.head?_eq_none_iff, hright, List.head?_eq_none_iff]
  have hparted : R.Parted region left right ↔ R.Parted region left' right' := by
    unfold Parted touches
    rw [hleft, hright, ne_eq, ne_eq, hleftNil, hrightNil]
  unfold gap
  simp only [hparted]

theorem gap_nil_left (region : Region) (right : Text) : R.gap region [] right = [] :=
  if_neg fun h => h.1 rfl

theorem gap_nil_right (region : Region) (left : Text) : R.gap region left [] = [] :=
  if_neg fun h => h.2.1 rfl

theorem keptLeft_eq_trimEnd (hcont : R.lineContinuation = none) {region : Region}
    (hregion : region ≠ .literal) (t : Text) : R.keptLeft region t = trimEnd t := by
  rcases keptLeft_cases R hregion t with ⟨marker, _, hmarker, _⟩ | ⟨_, hleft⟩
  · have hsome := hmarker.2.1
    rw [hcont] at hsome
    cases hsome
  · exact hleft

/-! ## The middle text -/

/-- A text that is all blanks leaves nothing open. -/
theorem Separable.not_blank_of_region (hR : R.Separable) {x : Text} {c : Context}
    (hx : R.classify x = some c) (hregion : c.region ≠ .code) : ¬ Blank x := by
  intro hblank
  have hskip := Run.skip_inert hR.scanner.solid (s := .code) rfl (hR.inert_of_blank hblank) []
  rw [List.append_nil] at hskip
  have hcode := classify_of_run hR.scanner.solid hskip
  rw [hx] at hcode
  exact hregion (congrArg Context.region (Option.some.inj hcode))

/-- A blank text between code and a line is not there. -/
theorem joinIn_code_of_blank (hcont : R.lineContinuation = none) {a x : Text} (hx : Blank x)
    (line : Text) :
    R.joinIn .code a (R.joinIn .code x line) = R.joinIn .code (R.joinIn .code a x) line := by
  have hleft := fun t => keptLeft_eq_trimEnd hcont (by simp : Region.code ≠ .literal) t
  have hinner : R.joinIn .code x line = trimStart line := by
    rw [joinIn_eq, hleft, trimEnd_eq_nil_iff.mpr hx, gap_nil_left]
    rfl
  have houter : R.joinIn .code a x = trimEnd a := by
    have hright : R.keptRight .code x = [] := trimStart_eq_nil_iff.mpr hx
    rw [joinIn_eq, hleft, hright, gap_nil_right, List.append_nil, List.append_nil]
  have htwice : R.keptRight .code (trimStart line) = R.keptRight .code line :=
    trimStart_trimStart line
  rw [hinner, houter, joinIn_eq, joinIn_eq, hleft, hleft, htwice, trimEnd_trimEnd]

/-- A text that is not blank keeps its two ends apart: what happens in front of it does not depend
on what comes behind, and the other way round. -/
theorem joinIn_code_of_not_blank (hcont : R.lineContinuation = none) {region : Region}
    (hregion : region ≠ .literal) {a x : Text} (hx : ¬ Blank x) (line : Text) :
    R.joinIn .code a (R.joinIn region x line) = R.joinIn region (R.joinIn .code a x) line := by
  have hcode := fun t => keptLeft_eq_trimEnd hcont (by simp : Region.code ≠ .literal) t
  have hmiddle : trimStart (trimEnd x) ≠ [] := by
    intro hnil
    exact not_blank_trimEnd hx (trimStart_eq_nil_iff.mp hnil)
  -- the middle text, cut at both ends, starts as it does cut at the start alone
  have hhead : ∀ after : Text,
      (trimStart (trimEnd x) ++ after).head? = (trimStart x).head? := by
    intro after
    obtain ⟨w, _, hw⟩ := exists_trimEnd_append_blank (trimStart x)
    rw [List.head?_append_of_ne_nil _ hmiddle, trimStart_trimEnd hx]
    conv_rhs => rw [hw]
    rw [List.head?_append_of_ne_nil _ (by rw [← trimStart_trimEnd hx]; exact hmiddle)]
  -- and ends as it does cut at the end alone
  have hlast : ∀ before : Text,
      (before ++ trimStart (trimEnd x)).getLast? = (trimEnd x).getLast? := by
    intro before
    obtain ⟨w, _, hw⟩ := exists_blank_append_trimStart (trimEnd x)
    rw [List.getLast?_append_of_ne_nil _ hmiddle]
    conv_rhs => rw [hw]
    rw [List.getLast?_append_of_ne_nil _ hmiddle]
  have hinner : R.keptRight .code (R.joinIn region x line) =
      trimStart (trimEnd x) ++ (R.gap region (trimEnd x) (R.keptRight region line)
        ++ R.keptRight region line) := by
    rw [joinIn_eq, keptLeft_eq_trimEnd hcont hregion, List.append_assoc]
    exact trimStart_append (not_blank_trimEnd hx) _
  have houter : R.keptLeft region (R.joinIn .code a x) =
      trimEnd a ++ R.gap .code (trimEnd a) (trimStart x) ++ trimStart (trimEnd x) := by
    rw [keptLeft_eq_trimEnd hcont hregion, joinIn_eq, hcode, trimStart_trimEnd hx]
    exact trimEnd_append (not_blank_trimStart hx) _
  calc R.joinIn .code a (R.joinIn region x line)
      = trimEnd a ++ R.gap .code (trimEnd a) (trimStart x)
          ++ (trimStart (trimEnd x) ++ (R.gap region (trimEnd x) (R.keptRight region line)
            ++ R.keptRight region line)) := by
        rw [joinIn_eq, hcode, hinner, gap_congr rfl (hhead _)]
    _ = R.joinIn region (R.joinIn .code a x) line := by
        rw [joinIn_eq, houter, gap_congr (hlast _) rfl]
        simp only [List.append_assoc]

/-- Literal content behind a text does not change what is in front of it. -/
theorem joinIn_code_of_literal {a x : Text} (hx : ¬ Blank x) (line : Text) :
    R.joinIn .code a (R.joinIn .literal x line) = R.joinIn .literal (R.joinIn .code a x) line := by
  have hne : trimStart x ≠ [] := fun hnil => hx (trimStart_eq_nil_iff.mp hnil)
  have hright : R.keptRight .code (x ++ line) = trimStart x ++ line := trimStart_append hx line
  have hhead : (trimStart x ++ line).head? = (trimStart x).head? :=
    List.head?_append_of_ne_nil _ hne
  calc R.joinIn .code a (x ++ line)
      = R.keptLeft .code a ++ R.gap .code (R.keptLeft .code a) (trimStart x)
          ++ (trimStart x ++ line) := by rw [joinIn_eq, hright, gap_congr rfl hhead]
    _ = R.joinIn .code a x ++ line := by
        rw [joinIn_eq]
        simp only [List.append_assoc]
        rfl

/-- A join in front of a text and a join behind it commute. -/
theorem Separable.joinIn_code_joinIn (hR : R.Separable) (hcont : R.lineContinuation = none)
    {x : Text} {c : Context} (hx : R.classify x = some c) (a line : Text) :
    R.joinIn .code a (R.joinIn c.region x line) = R.joinIn c.region (R.joinIn .code a x) line := by
  by_cases hcode : c.region = .code
  · by_cases hblank : Blank x
    · rw [hcode]
      exact joinIn_code_of_blank hcont hblank line
    · exact joinIn_code_of_not_blank hcont (by simp [hcode]) hblank line
  · have hblank := hR.not_blank_of_region hx hcode
    by_cases hlit : c.region = .literal
    · rw [hlit]
      exact joinIn_code_of_literal hblank line
    · exact joinIn_code_of_not_blank hcont hlit hblank line

/-! ## Any number of lines -/

/-- Joining more lines commutes with joining onto a text that ends in code. -/
theorem Separable.foldlM_joinPair_of_code (hR : R.Separable) (hcont : R.lineContinuation = none)
    {a : Text} (ha : R.classify a = some ⟨.code, none⟩) (lines : List Text) (x : Text) :
    ∃ tail, lines.foldlM R.joinPair x = .ok tail ∧
      lines.foldlM R.joinPair (R.joinIn .code a x) = .ok (R.joinIn .code a tail) := by
  induction lines generalizing x with
  | nil => exact ⟨x, rfl, rfl⟩
  | cons line lines ih =>
      obtain ⟨ts, e, hrun, _⟩ := exists_run hR.scanner.solid .code x
      have hx := classify_of_run hR.scanner.solid hrun
      -- the text in front does not change what is open, so the line is joined in the same region
      have hax : R.classify (R.joinIn .code a x) = some e.context := by
        obtain ⟨joined, hjoined, hclass⟩ := hR.classify_joinPair_of_code ha x
        rw [joinPair_of_classify ha, Except.ok.injEq] at hjoined
        rw [hjoined, hclass, hx]
      obtain ⟨tail, htail, hwhole⟩ := ih (R.joinIn e.context.region x line)
      refine ⟨tail, ?_, ?_⟩
      · rw [List.foldlM_cons, joinPair_of_classify hx]
        exact htail
      · rw [List.foldlM_cons, joinPair_of_classify hax, ← hR.joinIn_code_joinIn hcont hx]
        exact hwhole

/-- For every registered rule set without a marker that continues code lines, a text that ends in
code is joined onto the lines after it one by one or all at once, with one result; of three texts,
the first two or the last two may be joined first. -/
theorem joinAll_cons_of_code (R : RuleSet) (hR : R ∈ registry) (hcont : R.lineContinuation = none)
    (a : Text) (ha : R.classify a = some ⟨.code, none⟩) :
    (∀ rest, rest ≠ [] → ∃ tail whole, R.joinAll rest = .ok tail ∧
      R.joinPair a tail = .ok whole ∧ R.joinAll (a :: rest) = .ok whole) ∧
    (∀ b c, ∃ ab bc whole, R.joinPair a b = .ok ab ∧ R.joinPair b c = .ok bc ∧
      R.joinPair ab c = .ok whole ∧ R.joinPair a bc = .ok whole) := by
  have hsep := registry_separable hR
  have hjoin := fun b => joinPair_of_classify ha b
  refine ⟨?_, ?_⟩
  · intro rest hrest
    obtain ⟨b, lines, rfl⟩ := List.exists_cons_of_ne_nil hrest
    obtain ⟨tail, htail, hwhole⟩ := hsep.foldlM_joinPair_of_code hcont ha lines b
    refine ⟨tail, R.joinIn .code a tail, htail, hjoin tail, ?_⟩
    rw [joinAll, List.foldlM_cons, hjoin]
    exact hwhole
  · intro b c
    obtain ⟨bc, hbc, hwhole⟩ := hsep.foldlM_joinPair_of_code hcont ha [c] b
    simp only [List.foldlM_cons, List.foldlM_nil, bind_pure] at hbc hwhole
    exact ⟨R.joinIn .code a b, bc, R.joinIn .code a bc, hjoin b, hbc, hwhole, hjoin bc⟩

/-- Brackets and punctuation at both seams, and a comment that opens in the middle. -/
theorem joinAll_cons_of_code_of_call :
    (fallback ∈ registry ∧ fallback.lineContinuation = none ∧
      fallback.classify "f( ".toList = some ⟨.code, none⟩) ∧
    (∃ tail whole,
      fallback.joinAll ["  x,".toList, [], "y /*".toList, "* z */ )".toList] = .ok tail ∧
      fallback.joinPair "f( ".toList tail = .ok whole ∧
      fallback.joinAll ["f( ".toList, "  x,".toList, [], "y /*".toList, "* z */ )".toList]
        = .ok whole) ∧
    (∃ ab bc whole, fallback.joinPair "f( ".toList "  ".toList = .ok ab ∧
      fallback.joinPair "  ".toList ") ;".toList = .ok bc ∧
      fallback.joinPair ab ") ;".toList = .ok whole ∧
      fallback.joinPair "f( ".toList bc = .ok whole) := by
  have hmem : fallback ∈ registry := List.mem_cons_self
  have hcode : fallback.classify "f( ".toList = some ⟨.code, none⟩ := by cbv
  obtain ⟨hall, hthree⟩ := joinAll_cons_of_code fallback hmem rfl "f( ".toList hcode
  exact ⟨⟨hmem, rfl, hcode⟩, hall _ (List.cons_ne_nil _ _), hthree _ _⟩

end LineJoin.RuleSet
