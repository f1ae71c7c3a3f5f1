import Mathlib
import LineJoin.Join
import LineJoin.Proofs.Text.Trimming

/-!
# The join point

Every join has one shape: what is kept of the text on the left, a gap, and what is kept of the line
on the right (`joinIn_eq`). The gap is empty or one space. What is kept is all but a cut at the join
point, and the cut is blank, except that it may hold one marker: the one that continues a code line,
the line-comment marker of the next line, or the decoration of an inner comment line.

The main statement, `joinPair_touches_only_the_join_point`, holds of every rule set, registered or
declared. It says nothing about what the joined text leaves open.
-/

namespace LineJoin

/-- Blanks, a marker, and blanks. -/
def Text.Around (marker cut : Text) : Prop :=
  ∃ v w, Text.Blank v ∧ Text.Blank w ∧ cut = v ++ marker ++ w

/-- A cut that holds the marker to be dropped, with blanks around it, if there is one, and is blank
otherwise. -/
def Text.CutsOnly (dropped : Text → Prop) (cut : Text) : Prop :=
  (∀ marker, dropped marker → Text.Around marker cut) ∧
    ((∀ marker, ¬ dropped marker) → Text.Blank cut)

theorem Text.cutsOnly_of_blank {dropped : Text → Prop} {cut : Text}
    (hnone : ∀ marker, ¬ dropped marker) (hcut : Text.Blank cut) : Text.CutsOnly dropped cut :=
  ⟨fun marker hmarker => absurd hmarker (hnone marker), fun _ => hcut⟩

theorem Text.cutsOnly_of_around {dropped : Text → Prop} {marker cut : Text}
    (hmarker : dropped marker) (hunique : ∀ m, dropped m → m = marker)
    (hcut : Text.Around marker cut) : Text.CutsOnly dropped cut :=
  ⟨fun m hm => hunique m hm ▸ hcut, fun hnone => absurd hmarker (hnone marker)⟩

namespace Continuation

/-- The character of a decoration. -/
def char : Continuation → Char
  | star => '*'
  | bar => '|'

/-- Whether a text starts with a decoration: after a star come blanks or the end, after a bar comes
anything. -/
def Decorates (d : Continuation) (t : Text) : Prop :=
  ∃ rest, t = d.char :: rest ∧ (d = star → ∀ c, rest.head? = some c → Text.isBlank c = true)

theorem strip?_eq_some {d : Continuation} {t body : Text} (h : d.strip? t = some body) :
    ∃ rest, t = d.char :: rest ∧ body = Text.trimStart rest ∧
      (d = star → ∀ c, rest.head? = some c → Text.isBlank c = true) := by
  unfold strip? at h
  split at h
  · next rest =>
      refine ⟨rest, rfl, ?_⟩
      split at h
      · exact ⟨(Option.some.inj h).symm, by simp⟩
      · next c cs =>
          split at h
          · next hc =>
              refine ⟨(Option.some.inj h).symm, ?_⟩
              rintro _ x hx
              obtain rfl : c = x := by simpa using hx
              exact hc
          · cases h
  · next rest => exact ⟨rest, rfl, (Option.some.inj h).symm, by simp⟩
  · cases h

/-- A decoration is dropped exactly where one stands. -/
theorem strip?_isSome_iff {d : Continuation} {t : Text} :
    (d.strip? t).isSome = true ↔ d.Decorates t := by
  constructor
  · intro h
    obtain ⟨body, hbody⟩ := Option.isSome_iff_exists.mp h
    obtain ⟨rest, ht, _, hblank⟩ := strip?_eq_some hbody
    exact ⟨rest, ht, hblank⟩
  · rintro ⟨rest, rfl, hblank⟩
    cases d with
    | bar => rfl
    | star =>
        cases rest with
        | nil => rfl
        | cons c cs => simp [strip?, char, hblank rfl c rfl]

end Continuation

namespace RuleSet

variable {R : RuleSet}

/-! ## The three parts of a join -/

/-- What a join keeps of the text on the left. -/
def keptLeft (R : RuleSet) : Region → Text → Text
  | .code => R.codeLeft
  | .lineComment | .blockComment => Text.trimEnd
  | .literal => id

/-- What a join keeps of the line on the right. -/
def keptRight (R : RuleSet) : Region → Text → Text
  | .code => Text.trimStart
  | .lineComment => R.lineCommentRight
  | .blockComment => R.blockCommentRight
  | .literal => id

/-- Two texts are parted by a space unless one is empty, they are literal content, or they are code
that touches. -/
def Parted (R : RuleSet) (region : Region) (left right : Text) : Prop :=
  left ≠ [] ∧ right ≠ [] ∧ region ≠ .literal ∧ ¬ (region = .code ∧ R.touches left right = true)

instance (R : RuleSet) (region : Region) (left right : Text) :
    Decidable (R.Parted region left right) := inferInstanceAs (Decidable (_ ∧ _))

/-- What a join puts between the two. -/
def gap (R : RuleSet) (region : Region) (left right : Text) : Text :=
  if R.Parted region left right then [' '] else []

theorem gap_eq_space_iff {region : Region} {left right : Text} :
    R.gap region left right = [' '] ↔ R.Parted region left right := by
  unfold gap
  split <;> simp [*]

theorem gap_eq_nil_or_space (R : RuleSet) (region : Region) (left right : Text) :
    R.gap region left right = [] ∨ R.gap region left right = [' '] := by
  unfold gap
  split
  · exact .inr rfl
  · exact .inl rfl

theorem spaced_eq (left right : Text) :
    spaced left right = left ++ (if left ≠ [] ∧ right ≠ [] then [' '] else []) ++ right := by
  cases left <;> cases right <;> simp [spaced]

/-- One equation for the four ways to join. -/
theorem joinIn_eq (R : RuleSet) (region : Region) (accumulated line : Text) :
    R.joinIn region accumulated line =
      R.keptLeft region accumulated
        ++ R.gap region (R.keptLeft region accumulated) (R.keptRight region line)
        ++ R.keptRight region line := by
  cases region with
  | code =>
      simp only [joinIn, joinCode, keptLeft, keptRight, spaced_eq, gap, Parted]
      cases R.touches (R.codeLeft accumulated) (Text.trimStart line) <;> simp
  | lineComment => simp [joinIn, joinLineComment, keptLeft, keptRight, spaced_eq, gap, Parted]
  | blockComment => simp [joinIn, joinBlockComment, keptLeft, keptRight, spaced_eq, gap, Parted]
  | literal => simp [joinIn, keptLeft, keptRight, gap, Parted]

/-- Code texts touch at an opening bracket on the left or closing punctuation on the right. -/
theorem touches_eq_true_iff {left right : Text} :
    R.touches left right = true ↔
      (∃ c ∈ R.openingBrackets, left.getLast? = some c) ∨
        ∃ c ∈ R.closingPunctuation, right.head? = some c := by
  simp only [touches, Bool.or_eq_true, Option.any_eq_true, List.contains_iff_mem]
  constructor <;> rintro (⟨c, h, h'⟩ | ⟨c, h, h'⟩)
  exacts [.inl ⟨c, h', h⟩, .inr ⟨c, h', h⟩, .inl ⟨c, h', h⟩, .inr ⟨c, h', h⟩]

/-! ## What is cut off the left -/

/-- A code line that ends, blanks aside, with the marker that continues it. -/
def Continues (R : RuleSet) (region : Region) (accumulated marker : Text) : Prop :=
  region = .code ∧ R.lineContinuation = some marker ∧ marker ≠ [] ∧
    marker <:+ Text.trimEnd accumulated

theorem Continues.unique {region : Region} {accumulated m m' : Text}
    (h : R.Continues region accumulated m) (h' : R.Continues region accumulated m') : m = m' :=
  Option.some.inj (h.2.1.symm.trans h'.2.1)

/-- A code line is trimmed, or it loses the marker that continues it and is trimmed on both sides of
that. -/
theorem codeLeft_cases (R : RuleSet) (accumulated : Text) :
    (∃ marker before, R.Continues .code accumulated marker ∧
      Text.trimEnd accumulated = before ++ marker ∧
      R.codeLeft accumulated = Text.trimEnd before) ∨
    ((∀ marker, ¬ R.Continues .code accumulated marker) ∧
      R.codeLeft accumulated = Text.trimEnd accumulated) := by
  unfold codeLeft Continues
  split
  · next hR => exact .inr ⟨by simp [hR], rfl⟩
  · next hR =>
      refine .inr ⟨?_, rfl⟩
      rintro marker ⟨_, hmarker, hne, _⟩
      rw [hR] at hmarker
      exact hne (Option.some.inj hmarker).symm
  · next marker hne hR =>
      cases hsuffix : marker.isSuffixOf? (Text.trimEnd accumulated) with
      | some before =>
          have hends := List.isSuffixOf?_eq_some_iff_append_eq.mp hsuffix
          exact .inl ⟨marker, before, ⟨rfl, hR, hne, before, hends⟩, hends.symm, by simp [hsuffix]⟩
      | none =>
          refine .inr ⟨?_, by simp [hsuffix]⟩
          rintro m ⟨_, hm, _, before, hbefore⟩
          obtain rfl : marker = m := Option.some.inj (hR.symm.trans hm)
          rw [List.isSuffixOf?_eq_some_iff_append_eq.mpr hbefore] at hsuffix
          cases hsuffix

theorem keptLeft_cases (R : RuleSet) {region : Region} (hregion : region ≠ .literal)
    (accumulated : Text) :
    (∃ marker before, R.Continues region accumulated marker ∧
      Text.trimEnd accumulated = before ++ marker ∧
      R.keptLeft region accumulated = Text.trimEnd before) ∨
    ((∀ marker, ¬ R.Continues region accumulated marker) ∧
      R.keptLeft region accumulated = Text.trimEnd accumulated) := by
  cases region with
  | code => exact codeLeft_cases R accumulated
  | lineComment => exact .inr ⟨fun _ h => (by cases h.1), rfl⟩
  | blockComment => exact .inr ⟨fun _ h => (by cases h.1), rfl⟩
  | literal => exact absurd rfl hregion

theorem exists_cut_left (R : RuleSet) {region : Region} (hregion : region ≠ .literal)
    (accumulated : Text) :
    ∃ cut, accumulated = R.keptLeft region accumulated ++ cut ∧
      Text.CutsOnly (R.Continues region accumulated) cut := by
  obtain ⟨w, hw, hsplit⟩ := Text.exists_trimEnd_append_blank accumulated
  rcases keptLeft_cases R hregion accumulated with
    ⟨marker, before, hcont, hends, hleft⟩ | ⟨hnone, hleft⟩
  · obtain ⟨v, hv, hbefore⟩ := Text.exists_trimEnd_append_blank before
    refine ⟨v ++ marker ++ w, ?_, ?_⟩
    · calc accumulated
          = Text.trimEnd before ++ v ++ marker ++ w := by rw [← hbefore, ← hends, ← hsplit]
        _ = R.keptLeft region accumulated ++ (v ++ marker ++ w) := by
            simp only [hleft, List.append_assoc]
    · exact Text.cutsOnly_of_around hcont (fun _ h => h.unique hcont) ⟨v, w, hv, hw, rfl⟩
  · refine ⟨w, ?_, Text.cutsOnly_of_blank hnone hw⟩
    rw [hleft]
    exact hsplit

theorem not_blank_getLast_keptLeft {region : Region} (hregion : region ≠ .literal)
    {accumulated : Text} {c : Char} (h : (R.keptLeft region accumulated).getLast? = some c) :
    Text.isBlank c = false := by
  rcases keptLeft_cases R hregion accumulated with ⟨_, before, _, _, hleft⟩ | ⟨_, hleft⟩
  · rw [hleft] at h
    exact Text.not_blank_getLast_trimEnd h
  · rw [hleft] at h
    exact Text.not_blank_getLast_trimEnd h

/-! ## What is cut off the right -/

/-- The longest line-comment marker that a text starts with. -/
def LongestMarker (R : RuleSet) (t marker : Text) : Prop :=
  marker ∈ R.lineMarkers ∧ marker <+: t ∧ ∀ m ∈ R.lineMarkers, m <+: t → m.length ≤ marker.length

theorem LongestMarker.unique {t m m' : Text} (h : R.LongestMarker t m)
    (h' : R.LongestMarker t m') : m = m' := by
  have hle := h'.2.2 m h.1 h.2.1
  have hge := h.2.2 m' h'.1 h'.2.1
  exact (List.prefix_of_prefix_length_le h.2.1 h'.2.1 hle).eq_of_length (by omega)

/-- The marker with which a line says again what is open before it. -/
def Repeats (R : RuleSet) : Region → (line marker : Text) → Prop
  | .lineComment, line, marker => R.LongestMarker (Text.trimStart line) marker
  | .blockComment, line, marker =>
    ∃ d, R.continuation = some d ∧ d.Decorates (Text.trimStart line) ∧ marker = [d.char]
  | .code, _, _ => False
  | .literal, _, _ => False

/-- Since the markers are kept longest first, the one that is found is the longest. -/
theorem stripLineMarker?_eq_some {t body : Text} (h : R.stripLineMarker? t = some body) :
    ∃ marker, R.LongestMarker t marker ∧ t = marker ++ body := by
  obtain ⟨before, marker, after, hlist, hstrip, hbefore⟩ := List.findSome?_eq_some_iff.mp h
  have ht : t = marker ++ body := (List.append_eq_of_isPrefixOf?_eq_some hstrip).symm
  refine ⟨marker, ⟨by simp [hlist], ⟨body, ht.symm⟩, ?_⟩, ht⟩
  rintro m hm ⟨rest, hrest⟩
  rw [hlist, List.mem_append, List.mem_cons] at hm
  rcases hm with hm | rfl | hm
  -- markers before the one that is found do not match, and those after it are no longer
  · have hfound := hbefore m hm
    rw [List.isPrefixOf?_eq_some_iff_append_eq.mpr hrest] at hfound
    cases hfound
  · exact Nat.le_refl _
  · have hsorted := R.longest_first
    rw [hlist, List.pairwise_append, List.pairwise_cons] at hsorted
    exact hsorted.2.1.1 m hm

theorem stripLineMarker?_eq_none {t : Text} (h : R.stripLineMarker? t = none) {marker : Text}
    (hmarker : marker ∈ R.lineMarkers) : ¬ marker <+: t := by
  rintro ⟨rest, hrest⟩
  have hnone := List.findSome?_eq_none_iff.mp h marker hmarker
  rw [List.isPrefixOf?_eq_some_iff_append_eq.mpr hrest] at hnone
  cases hnone

theorem Repeats.unique {region : Region} {line m m' : Text} (h : R.Repeats region line m)
    (h' : R.Repeats region line m') : m = m' := by
  cases region with
  | lineComment => exact LongestMarker.unique h h'
  | blockComment =>
      obtain ⟨d, hd, _, rfl⟩ := h
      obtain ⟨d', hd', _, rfl⟩ := h'
      rw [Option.some.inj (hd.symm.trans hd')]
  | code => exact h.elim
  | literal => exact h.elim

/-- A line of a line comment is trimmed, or it loses its marker and is trimmed on both sides of
that. -/
theorem lineCommentRight_cases (R : RuleSet) (line : Text) :
    (∃ marker body, R.Repeats .lineComment line marker ∧
      Text.trimStart line = marker ++ body ∧ R.lineCommentRight line = Text.trimStart body) ∨
    ((∀ marker, ¬ R.Repeats .lineComment line marker) ∧
      R.lineCommentRight line = Text.trimStart line) := by
  cases hstrip : R.stripLineMarker? (Text.trimStart line) with
  | none =>
      refine .inr ⟨fun _ h => stripLineMarker?_eq_none hstrip h.1 h.2.1, ?_⟩
      simp [lineCommentRight, hstrip]
  | some body =>
      obtain ⟨marker, hmarker, hbody⟩ := stripLineMarker?_eq_some hstrip
      exact .inl ⟨marker, body, hmarker, hbody, by simp [lineCommentRight, hstrip]⟩

/-- A line of a block comment is trimmed, or it loses its decoration and is trimmed on both sides of
that. -/
theorem blockCommentRight_cases (R : RuleSet) (line : Text) :
    (∃ marker body, R.Repeats .blockComment line marker ∧
      Text.trimStart line = marker ++ body ∧ R.blockCommentRight line = Text.trimStart body) ∨
    ((∀ marker, ¬ R.Repeats .blockComment line marker) ∧
      R.blockCommentRight line = Text.trimStart line) := by
  cases hcont : R.continuation with
  | none =>
      refine .inr ⟨?_, by simp [blockCommentRight, hcont]⟩
      rintro _ ⟨d, hd, _⟩
      simp [hcont] at hd
  | some d =>
      cases hstrip : d.strip? (Text.trimStart line) with
      | none =>
          refine .inr ⟨?_, by simp [blockCommentRight, hcont, hstrip]⟩
          rintro _ ⟨d', hd', hdec, _⟩
          obtain rfl : d = d' := Option.some.inj (hcont.symm.trans hd')
          simp [← Continuation.strip?_isSome_iff, hstrip] at hdec
      | some body =>
          obtain ⟨rest, hline, hbody, hblank⟩ := Continuation.strip?_eq_some hstrip
          refine .inl ⟨[d.char], rest, ⟨d, hcont, ⟨rest, hline, hblank⟩, rfl⟩, hline, ?_⟩
          simp [blockCommentRight, hcont, hstrip, hbody]

theorem keptRight_cases (R : RuleSet) {region : Region} (hregion : region ≠ .literal)
    (line : Text) :
    (∃ marker body, R.Repeats region line marker ∧
      Text.trimStart line = marker ++ body ∧ R.keptRight region line = Text.trimStart body) ∨
    ((∀ marker, ¬ R.Repeats region line marker) ∧
      R.keptRight region line = Text.trimStart line) := by
  cases region with
  | code => exact .inr ⟨fun _ h => h, rfl⟩
  | lineComment => exact lineCommentRight_cases R line
  | blockComment => exact blockCommentRight_cases R line
  | literal => exact absurd rfl hregion

theorem exists_cut_right (R : RuleSet) {region : Region} (hregion : region ≠ .literal)
    (line : Text) :
    ∃ cut, line = cut ++ R.keptRight region line ∧ Text.CutsOnly (R.Repeats region line) cut := by
  obtain ⟨v, hv, hsplit⟩ := Text.exists_blank_append_trimStart line
  rcases keptRight_cases R hregion line with ⟨marker, body, hrep, hstarts, hright⟩ | ⟨hnone, hright⟩
  · obtain ⟨w, hw, hbody⟩ := Text.exists_blank_append_trimStart body
    refine ⟨v ++ marker ++ w, ?_, ?_⟩
    · calc line
          = v ++ (marker ++ (w ++ Text.trimStart body)) := by rw [← hbody, ← hstarts, ← hsplit]
        _ = v ++ marker ++ w ++ R.keptRight region line := by
            simp only [hright, List.append_assoc]
    · exact Text.cutsOnly_of_around hrep (fun _ h => h.unique hrep) ⟨v, w, hv, hw, rfl⟩
  · refine ⟨v, ?_, Text.cutsOnly_of_blank hnone hv⟩
    rw [hright]
    exact hsplit

theorem not_blank_head_keptRight {region : Region} (hregion : region ≠ .literal) {line : Text}
    {c : Char} (h : (R.keptRight region line).head? = some c) : Text.isBlank c = false := by
  rcases keptRight_cases R hregion line with ⟨_, body, _, _, hright⟩ | ⟨_, hright⟩
  · rw [hright] at h
    exact Text.not_blank_head_trimStart h
  · rw [hright] at h
    exact Text.not_blank_head_trimStart h

/-! ## Nothing but the join point is touched -/

theorem joinPair_of_classify {a : Text} {c : Context} (h : R.classify a = some c) (b : Text) :
    R.joinPair a b = .ok (R.joinIn c.region a b) := by
  simp only [joinPair, h]

/-- Two texts meet at a join point: parts of them are kept, with a gap between the parts, and
nothing else is touched. -/
structure JoinPoint (R : RuleSet) (region : Region) (a b left gap right : Text) : Prop where
  /-- A start of the first text is kept. -/
  left_start : left <+: a
  /-- An end of the second text is kept. -/
  right_end : right <:+ b
  /-- The gap is nothing or one space. -/
  gap_cases : gap = [] ∨ gap = [' ']
  /-- In a literal everything is kept. -/
  literal : region = .literal → left = a ∧ right = b ∧ gap = []
  /-- Elsewhere the left part ends in no blank. -/
  left_trimmed : region ≠ .literal → ∀ x, left.getLast? = some x → Text.isBlank x = false
  /-- Elsewhere the right part starts with no blank. -/
  right_trimmed : region ≠ .literal → ∀ x, right.head? = some x → Text.isBlank x = false
  /-- What the first text loses is blank but for a marker that continues a code line. -/
  left_cut : region ≠ .literal →
    ∃ cut, a = left ++ cut ∧ Text.CutsOnly (R.Continues region a) cut
  /-- What the second text loses is blank but for a marker that repeats what is open. -/
  right_cut : region ≠ .literal →
    ∃ cut, b = cut ++ right ∧ Text.CutsOnly (R.Repeats region b) cut
  /-- The gap is a space exactly between texts that are not empty and are not code that touches. -/
  gap_iff : region ≠ .literal →
    (gap = [' '] ↔ left ≠ [] ∧ right ≠ [] ∧
      ¬ (region = .code ∧
        ((∃ x ∈ R.openingBrackets, left.getLast? = some x) ∨
          ∃ x ∈ R.closingPunctuation, right.head? = some x)))

theorem joinPoint_kept (R : RuleSet) (region : Region) (a b : Text) :
    R.JoinPoint region a b (R.keptLeft region a)
      (R.gap region (R.keptLeft region a) (R.keptRight region b)) (R.keptRight region b) := by
  by_cases hregion : region = .literal
  · subst hregion
    refine ⟨List.prefix_rfl, List.suffix_rfl, gap_eq_nil_or_space _ _ _ _, fun _ => ⟨rfl, rfl, ?_⟩,
      ?_, ?_, ?_, ?_, ?_⟩
    · simp [gap, Parted]
    all_goals exact fun hne => absurd rfl hne
  · obtain ⟨cutLeft, ha, hcutLeft⟩ := exists_cut_left R hregion a
    obtain ⟨cutRight, hb, hcutRight⟩ := exists_cut_right R hregion b
    refine ⟨⟨cutLeft, ha.symm⟩, ⟨cutRight, hb.symm⟩, gap_eq_nil_or_space _ _ _ _,
      fun hlit => absurd hlit hregion, fun _ _ => not_blank_getLast_keptLeft hregion,
      fun _ _ => not_blank_head_keptRight hregion, fun _ => ⟨cutLeft, ha, hcutLeft⟩,
      fun _ => ⟨cutRight, hb, hcutRight⟩, fun _ => ?_⟩
    rw [gap_eq_space_iff, Parted, ← touches_eq_true_iff]
    simp [hregion]

/-- Whatever the rule set, a text whose scan ends is joined with any line, and the join touches
nothing but the join point. -/
theorem joinPair_touches_only_the_join_point (R : RuleSet) (a b : Text) (c : Context)
    (h : R.classify a = some c) :
    ∃ left gap right, R.joinPair a b = .ok (left ++ gap ++ right) ∧
      R.JoinPoint c.region a b left gap right := by
  refine ⟨_, _, _, ?_, joinPoint_kept R c.region a b⟩
  rw [joinPair_of_classify h, joinIn_eq]

/-- A decorated line is joined onto an open block comment. -/
theorem joinPair_touches_only_the_join_point_of_comment :
    fallback.classify "f(/* one \t".toList = some ⟨.blockComment, none⟩ ∧
    ∃ left gap right,
      fallback.joinPair "f(/* one \t".toList "  *  two */".toList = .ok (left ++ gap ++ right) ∧
      fallback.JoinPoint .blockComment "f(/* one \t".toList "  *  two */".toList left gap right :=
  have h : fallback.classify "f(/* one \t".toList = some ⟨.blockComment, none⟩ := by cbv
  ⟨h, joinPair_touches_only_the_join_point fallback _ _ _ h⟩

end RuleSet

end LineJoin
