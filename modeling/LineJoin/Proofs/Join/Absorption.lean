import LineJoin.Proofs.Join.Regrouping
import LineJoin.Proofs.Scan.RegionEnd

/-!
# Lines that are absorbed

Outside literals a join trims the text that it is made onto, so it makes no difference whether that
text was trimmed before (`Separable.foldlM_joinPair_trimEnd`). A line of which nothing is kept
leaves the text trimmed and does nothing else, so the next line comes out as if it had not been
there. Such lines are the blank ones and, inside a comment, those that only repeat its marker
(`AddsNothing`).

In code this is said only of rule sets without a marker that continues lines. Each join takes one
such marker off the end of the text, and a line in between is one more join.
-/

namespace LineJoin.RuleSet

open Scan Text

variable {R : RuleSet} {region : Region}

/-! ## A text that is trimmed first -/

theorem keptLeft_trimEnd (hregion : region ≠ .literal) (t : Text) :
    R.keptLeft region (trimEnd t) = R.keptLeft region t := by
  cases region with
  | code =>
      show R.codeLeft (trimEnd t) = R.codeLeft t
      simp only [codeLeft, trimEnd_trimEnd]
  | lineComment => exact trimEnd_trimEnd t
  | blockComment => exact trimEnd_trimEnd t
  | literal => exact absurd rfl hregion

namespace Separable

/-- Outside literals, trimming a text does not change where its scan ends. -/
theorem run_trimEnd (hR : R.Separable) {s e : State} {t : Text} {ts : List Token}
    (h : Run R.scanner s t ts e []) (he : e.escapes = false) :
    ∃ us, Run R.scanner s (trimEnd t) us e [] := by
  obtain ⟨w, hw, ht⟩ := exists_trimEnd_append_blank t
  rw [ht] at h
  obtain ⟨us, _, hus⟩ := h.cut_inert hR.scanner he (hR.inert_of_blank hw)
  exact ⟨us, hus⟩

theorem classify_trimEnd (hR : R.Separable) {t : Text} {c : Context} (h : R.classify t = some c)
    (hc : c.region ≠ .literal) : R.classify (trimEnd t) = some c := by
  obtain ⟨ts, e, hrun, _, rfl⟩ := classify_eq_some_iff.mp h
  obtain ⟨us, hus⟩ := hR.run_trimEnd hrun (escapes_eq_false_iff.mpr hc)
  exact classify_of_run hR.scanner.solid hus

theorem joinPair_trimEnd (hR : R.Separable) {t : Text} {c : Context} (h : R.classify t = some c)
    (hc : c.region ≠ .literal) (line : Text) :
    R.joinPair (trimEnd t) line = R.joinPair t line := by
  rw [joinPair_of_classify (hR.classify_trimEnd h hc), joinPair_of_classify h, joinIn_eq, joinIn_eq,
    keptLeft_trimEnd hc]

/-- Lines are joined onto a text outside literals as they are onto the text trimmed, if there are
any. -/
theorem foldlM_joinPair_trimEnd (hR : R.Separable) {t : Text} {c : Context}
    (h : R.classify t = some c) (hc : c.region ≠ .literal) {lines : List Text}
    (hlines : lines ≠ []) :
    lines.foldlM R.joinPair (trimEnd t) = lines.foldlM R.joinPair t := by
  obtain ⟨line, lines, rfl⟩ := List.exists_cons_of_ne_nil hlines
  rw [List.foldlM_cons, List.foldlM_cons, hR.joinPair_trimEnd h hc]

end Separable

/-! ## A line that repeats a marker -/

/-- The line markers of the registered rule sets have text. -/
theorem registry_lineMarkers_ne_nil {R : RuleSet} (hR : R ∈ registry) :
    ∀ m ∈ R.lineMarkers, m ≠ [] := by
  revert R
  decide +kernel

/-- Behind a marker that repeats what is open, a line is kept from the first character on that is no
blank. -/
theorem keptRight_of_repeats (hregion : region ≠ .literal) {line marker rest : Text}
    (hrep : R.Repeats region line marker) (hstart : trimStart line = marker ++ rest) :
    R.keptRight region line = trimStart rest := by
  rcases keptRight_cases R hregion line with ⟨found, body, hfound, hsplit, hright⟩ | ⟨hnone, _⟩
  · rw [hstart, hfound.unique hrep] at hsplit
    rw [hright, List.append_cancel_left hsplit]
  · exact absurd hrep (hnone marker)

section Repeated

variable {indent m rest : Text} (hindent : Blank indent)
  (hrest : ∀ c, rest.head? = some c → isBlank c = true)

include hindent hrest

/-- A line comment goes on with what stands behind the marker and the blanks of the line. -/
theorem keptRight_of_marker (hR : R ∈ registry) (hm : m ∈ R.lineMarkers) :
    R.keptRight .lineComment (indent ++ m ++ rest) = trimStart rest := by
  have hsep := registry_separable hR
  have hne := registry_lineMarkers_ne_nil hR m hm
  have hmarks : R.Marks m .lineComment := .line hm hne
  have hstart : trimStart (indent ++ m ++ rest) = m ++ rest := by
    rw [List.append_assoc, trimStart_blank_append hindent]
    apply trimStart_eq_self
    intro c hc
    rw [List.head?_append_of_ne_nil _ hne] at hc
    exact (hsep.visible ⟨m, _⟩ (mem_markers_iff.mpr hmarks) c (List.mem_of_head? hc)).1
  apply keptRight_of_repeats (by simp) _ hstart
  -- a longer marker would hold the blank that comes next
  show R.LongestMarker (trimStart (indent ++ m ++ rest)) m
  rw [hstart]
  refine ⟨hm, List.prefix_append m rest, ?_⟩
  intro l hl hpre
  exact hsep.length_le_of_blank (.line hl (registry_lineMarkers_ne_nil hR l hl)) hpre hrest

/-- A decorated block comment goes on with what stands behind the star and the blanks of the
line. -/
theorem keptRight_of_star (hstar : R.continuation = some .star) :
    R.keptRight .blockComment (indent ++ ['*'] ++ rest) = trimStart rest := by
  have hstart : trimStart (indent ++ ['*'] ++ rest) = ['*'] ++ rest := by
    rw [List.append_assoc, trimStart_blank_append hindent]
    rfl
  apply keptRight_of_repeats (by simp) _ hstart
  exact ⟨.star, hstar, ⟨rest, hstart, fun _ => hrest⟩, rfl⟩

end Repeated

/-! ## Lines of which nothing is kept -/

/-- A line that adds nothing to a text which ends in a region: blanks, or in a comment its marker
once more, with blanks around it. -/
inductive AddsNothing (R : RuleSet) (region : Region) (z : Text) : Prop
  | blank : Blank z → AddsNothing R region z
  | marker {m : Text} : region = .lineComment → m ∈ R.lineMarkers → Around m z →
      AddsNothing R region z
  | star : region = .blockComment → R.continuation = some .star → Around ['*'] z →
      AddsNothing R region z

theorem AddsNothing.keptRight_eq_nil (hR : R ∈ registry) (hregion : region ≠ .literal) {z : Text}
    (h : R.AddsNothing region z) : R.keptRight region z = [] := by
  cases h with
  | blank hz =>
      have hnil : trimStart z = [] := trimStart_eq_nil_iff.mpr hz
      rcases keptRight_cases R hregion z with ⟨marker, body, _, hsplit, hright⟩ | ⟨_, hright⟩
      · rw [hnil] at hsplit
        rw [hright, (List.append_eq_nil_iff.mp hsplit.symm).2]
        rfl
      · rw [hright, hnil]
  | marker hline hm haround =>
      obtain ⟨v, w, hv, hw, rfl⟩ := haround
      subst hline
      rw [keptRight_of_marker hv (fun c hc => hw c (List.mem_of_head? hc)) hR hm]
      exact trimStart_eq_nil_iff.mpr hw
  | star hblock hstar haround =>
      obtain ⟨v, w, hv, hw, rfl⟩ := haround
      subst hblock
      rw [keptRight_of_star hv (fun c hc => hw c (List.mem_of_head? hc)) hstar]
      exact trimStart_eq_nil_iff.mpr hw

/-- Such a line does no more than trim the text that it is joined onto. -/
theorem AddsNothing.joinIn_eq_trimEnd (hR : R ∈ registry) (hregion : region ≠ .literal)
    (hcont : region ≠ .code ∨ R.lineContinuation = none) {z : Text} (h : R.AddsNothing region z)
    (t : Text) : R.joinIn region t z = trimEnd t := by
  have hleft : R.keptLeft region t = trimEnd t := by
    rcases hcont with hcode | hnone
    · cases region with
      | code => exact absurd rfl hcode
      | lineComment => rfl
      | blockComment => rfl
      | literal => exact absurd rfl hregion
    · exact keptLeft_eq_trimEnd hnone hregion t
  rw [joinIn_eq, h.keptRight_eq_nil hR hregion, gap_nil_right, hleft, List.append_nil,
    List.append_nil]

/-- For every registered rule set, lines that add nothing are absorbed in the middle of others: when
the lines before leave no literal open, and code only under rules without a marker that continues
lines, the whole is joined as it is without the line. -/
theorem joinAll_absorbs (R : RuleSet) (hR : R ∈ registry) (pre post : List Text) (hpre : pre ≠ [])
    (hpost : post ≠ []) :
    ∃ joined c, R.joinAll pre = .ok joined ∧ R.classify joined = some c ∧
      (c.region ≠ .literal → (c.region ≠ .code ∨ R.lineContinuation = none) →
        ∀ z, R.AddsNothing c.region z →
          ∃ whole, R.joinAll (pre ++ [z] ++ post) = .ok whole ∧
            R.joinAll (pre ++ post) = .ok whole) := by
  have hsep := registry_separable hR
  obtain ⟨joined, carry, hjoined, _, hcarries⟩ := hsep.carries_joinAll hpre
  have hclass := hsep.classify_of_carries hcarries
  refine ⟨joined, carry.state.context, hjoined, hclass, ?_⟩
  intro hregion hcont z hz
  obtain ⟨whole, _, hwhole, _, _⟩ := hsep.carries_foldlM post hcarries
  -- after the lines before, the rest is joined onto what they give
  have hfrom : ∀ lines, R.joinAll (pre ++ lines) = lines.foldlM R.joinPair joined := by
    intro lines
    obtain ⟨line, pre, rfl⟩ := List.exists_cons_of_ne_nil hpre
    show (pre ++ lines).foldlM R.joinPair line = _
    rw [List.foldlM_append, show pre.foldlM R.joinPair line = .ok joined from hjoined]
    rfl
  refine ⟨whole, ?_, ?_⟩
  · have htrimmed : R.joinPair joined z = .ok (trimEnd joined) := by
      rw [joinPair_of_classify hclass, hz.joinIn_eq_trimEnd hR hregion hcont]
    calc R.joinAll (pre ++ [z] ++ post)
        = (z :: post).foldlM R.joinPair joined := by rw [List.append_assoc, hfrom]; rfl
      _ = post.foldlM R.joinPair (trimEnd joined) := by rw [List.foldlM_cons, htrimmed]; rfl
      _ = post.foldlM R.joinPair joined := hsep.foldlM_joinPair_trimEnd hclass hregion hpost
      _ = .ok whole := hwhole
  · rw [hfrom, hwhole]

/-- A decoration without a body inside a block comment whose first lines end in blanks, and a longer
marker than the first line has in a line comment. -/
theorem joinAll_absorbs_of_comments :
    fallback ∈ registry ∧
    (fallback.joinAll ["f(".toList, "/* a *  ".toList] = .ok "f(/* a *  ".toList ∧
      fallback.classify "f(/* a *  ".toList = some ⟨.blockComment, none⟩ ∧
      fallback.AddsNothing .blockComment " *\t".toList ∧
      ∃ whole,
        fallback.joinAll ["f(".toList, "/* a *  ".toList, " *\t".toList, "/ b */ )".toList]
          = .ok whole ∧
        fallback.joinAll ["f(".toList, "/* a *  ".toList, "/ b */ )".toList] = .ok whole) ∧
    (fallback.joinAll ["// a ".toList] = .ok "// a ".toList ∧
      fallback.classify "// a ".toList = some ⟨.lineComment, none⟩ ∧
      fallback.AddsNothing .lineComment "\t///".toList ∧
      ∃ whole, fallback.joinAll ["// a ".toList, "\t///".toList, "/ b".toList] = .ok whole ∧
        fallback.joinAll ["// a ".toList, "/ b".toList] = .ok whole) := by
  have hmem : fallback ∈ registry := List.mem_cons_self
  have hstar : fallback.AddsNothing .blockComment " *\t".toList :=
    .star rfl rfl ⟨[' '], ['\t'], by decide, by decide, rfl⟩
  have hmarker : fallback.AddsNothing .lineComment "\t///".toList :=
    .marker (m := "///".toList) rfl (by decide) ⟨['\t'], [], by decide, by decide, rfl⟩
  have hblock : fallback.classify "f(/* a *  ".toList = some ⟨.blockComment, none⟩ := by cbv
  have hline : fallback.classify "// a ".toList = some ⟨.lineComment, none⟩ := by cbv
  have hfirst : fallback.joinAll ["f(".toList, "/* a *  ".toList] = .ok "f(/* a *  ".toList := by
    cbv
  refine ⟨hmem, ⟨hfirst, hblock, hstar, ?_⟩, rfl, hline, hmarker, ?_⟩
  · obtain ⟨joined, c, hjoined, hc, habsorbs⟩ := joinAll_absorbs fallback hmem
      ["f(".toList, "/* a *  ".toList] ["/ b */ )".toList] (by simp) (by simp)
    obtain rfl := Except.ok.inj (hjoined.symm.trans hfirst)
    obtain rfl := Option.some.inj (hc.symm.trans hblock)
    exact habsorbs (by simp) (.inl (by simp)) _ hstar
  · obtain ⟨joined, c, hjoined, hc, habsorbs⟩ := joinAll_absorbs fallback hmem
      ["// a ".toList] ["/ b".toList] (by simp) (by simp)
    obtain rfl : joined = "// a ".toList := (Except.ok.inj hjoined).symm
    obtain rfl := Option.some.inj (hc.symm.trans hline)
    exact habsorbs (by simp) (.inl (by simp)) _ hmarker

/-- Where a marker continues lines, a blank line in code is not absorbed. -/
example :
    joinAll { fallback with lineContinuation := some ['\\'] } ["a\\\\".toList, [], "b".toList]
      = .ok "a b".toList ∧
    joinAll { fallback with lineContinuation := some ['\\'] } ["a\\\\".toList, "b".toList]
      = .ok "a\\ b".toList := by
  constructor <;> cbv

end LineJoin.RuleSet
