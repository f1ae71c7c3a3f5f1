import LineJoin.Proofs.Join.JoinPoint
import LineJoin.Proofs.Scan.Seam

/-!
# Rule sets that keep seams apart

What the registered languages have in common, and what makes joining safe for them: no marker holds
a blank or a backslash, a quote stands in no longer marker, a marker that another one extends opens
a line comment, and no marker can be cut in two where code texts touch, unless the first half has
opened a line comment already. `registry_separable` checks this for every registered rule set.

Declared rule sets need not be separable: one with the line-comment marker `a b` is not.
-/

namespace LineJoin

instance Quote.decidableForall (p : Quote → Prop) [DecidablePred p] : Decidable (∀ q, p q) :=
  decidable_of_iff (p .single ∧ p .double ∧ p .grave)
    ⟨fun h q => by cases q <;> simp only [h], fun h => ⟨h _, h _, h _⟩⟩

namespace RuleSet

open Scan

/-- A rule set whose markers stay whole, and stay apart, wherever two lines meet. -/
structure Separable (R : RuleSet) : Prop where
  solid : ∀ m ∈ R.markers, m.text ≠ []
  visible : ∀ m ∈ R.markers, ∀ c ∈ m.text, Text.isBlank c = false ∧ c ≠ '\\'
  escape_eq : R.escape = ['\\']
  quote_alone : ∀ m ∈ R.markers, ∀ q : Quote, q.char ∈ m.text → m.text.length = 1
  closer_long : ∀ m ∈ R.markers, m.kind = .blockClose → 1 < m.text.length
  /-- A marker that another one extends opens a line comment. -/
  extended : ∀ l ∈ R.markers, ∀ m ∈ R.markers, l.text <+: m.text →
    l.text.length < m.text.length → l.kind = .lineComment
  /-- A marker that counts in code is not cut in two where code texts touch. -/
  untouched : ∀ m ∈ R.markers, m.kind ≠ .blockClose → ∀ n < m.text.length, 0 < n →
    (∃ l ∈ R.markers, l.kind = .lineComment ∧ l.text <+: m.text.take n) ∨
      R.touches (m.text.take n) (m.text.drop n) = false
  continued : R.lineContinuation = none ∨ R.lineContinuation = some ['\\']
  decorated : R.continuation ≠ some .bar

/-- Every registered rule set is separable. -/
theorem registry_separable {R : RuleSet} (hR : R ∈ registry) : R.Separable where
  solid := by revert R; decide +kernel
  visible := by revert R; decide +kernel
  escape_eq := by revert R; decide +kernel
  quote_alone := by revert R; decide +kernel
  closer_long := by revert R; decide +kernel
  extended := by revert R; decide +kernel
  untouched := by revert R; decide +kernel
  continued := by revert R; decide +kernel
  decorated := by revert R; decide +kernel

namespace Separable

variable {R : RuleSet}

theorem scanner (hR : R.Separable) : R.scanner.Separable where
  solid m hm := hR.solid m (mem_scanner_markers.mp hm)
  spellsQuotes := R.spellsQuotes
  escape_eq := hR.escape_eq
  escape_inert m hm hc := (hR.visible m (mem_scanner_markers.mp hm) _ hc).2 rfl
  blank_inert c hblank m hm hc := by
    rw [(hR.visible m (mem_scanner_markers.mp hm) c hc).1] at hblank
    cases hblank
  quote_alone m hm := hR.quote_alone m (mem_scanner_markers.mp hm)

theorem inert_of_blank (hR : R.Separable) {w : Text} (hw : Text.Blank w) :
    ∀ c ∈ w, R.scanner.Inert c :=
  fun c hc => hR.scanner.blank_inert c (hw c hc)

/-- What continues a code line is a backslash, so a cut at the end of a line holds no part of a
marker. -/
theorem inert_of_cutsOnly (hR : R.Separable) {region : Region} {accumulated cut : Text}
    (h : Text.CutsOnly (R.Continues region accumulated) cut) : ∀ c ∈ cut, R.scanner.Inert c := by
  by_cases hcont : ∃ marker, R.Continues region accumulated marker
  · obtain ⟨marker, hmarker⟩ := hcont
    obtain ⟨v, w, hv, hw, rfl⟩ := h.1 marker hmarker
    have hslash : marker = ['\\'] := by
      have hsome := hmarker.2.1
      rcases hR.continued with hR | hR
      · rw [hR] at hsome; cases hsome
      · rw [hR] at hsome; exact (Option.some.inj hsome).symm
    intro c hc
    rw [List.mem_append, List.mem_append, hslash, List.mem_singleton] at hc
    rcases hc with (hc | rfl) | hc
    · exact hR.inert_of_blank hv c hc
    · exact hR.scanner.escape_inert
    · exact hR.inert_of_blank hw c hc
  · exact hR.inert_of_blank (h.2 (not_exists.mp hcont))

end Separable

/-! ## Where code texts touch -/

theorem active_lineComment (sc : Scanner) : sc.active .lineComment = [] := by
  simp [Scanner.active, State.reactsTo, State.next]

theorem kind_eq_of_active_blockComment {sc : Scanner} {m : Marker}
    (hm : m ∈ sc.active .blockComment) : m.kind = .blockClose := by
  have hreact := (Scanner.mem_active.mp hm).2
  cases hk : m.kind with
  | blockClose => rfl
  | quote q => simp [State.reactsTo, State.next, hk] at hreact
  | lineComment | blockOpen | escape | other => simp [State.reactsTo, State.next, hk] at hreact

theorem kind_ne_of_active_code {sc : Scanner} {m : Marker} (hm : m ∈ sc.active .code) :
    m.kind ≠ .blockClose := by
  intro hk
  have hreact := (Scanner.mem_active.mp hm).2
  simp [State.reactsTo, State.next, hk] at hreact

/-- A rule set has one way to close a block comment. -/
theorem text_eq_of_blockClose {R : RuleSet} {m m' : Marker} (hm : m ∈ R.markers)
    (hm' : m' ∈ R.markers) (hk : m.kind = .blockClose) (hk' : m'.kind = .blockClose) :
    m.text = m'.text := by
  have closer : ∀ {n : Marker}, n ∈ R.markers → n.kind = .blockClose →
      ∃ opener, R.block = some (opener, n.text) := by
    intro n hn hkind
    rw [markers, List.mem_append, List.mem_append] at hn
    rcases hn with (hn | hn) | hn
    · obtain ⟨_, _, rfl⟩ := List.mem_map.mp hn
      cases hkind
    · cases hb : R.block with
      | none => simp [hb] at hn
      | some block =>
          simp only [hb, List.mem_cons, List.not_mem_nil, or_false] at hn
          rcases hn with rfl | rfl
          · cases hkind
          · exact ⟨block.1, rfl⟩
    · obtain ⟨_, _, rfl⟩ := List.mem_map.mp hn
      cases hkind
  obtain ⟨_, hblock⟩ := closer hm hk
  obtain ⟨_, hblock'⟩ := closer hm' hk'
  rw [hblock] at hblock'
  exact congrArg Prod.snd (Option.some.inj hblock')

namespace Separable

variable {R : RuleSet}

/-- The first half of a marker that is cut in two does not end in code where code texts touch. -/
theorem not_touches_of_cut (hR : R.Separable) {s : State} {r v : Text} {us : List Token}
    {m : Marker} (hm : m ∈ R.scanner.active s) (htext : m.text = r ++ v) (hr : r ≠ [])
    (hv : v ≠ []) (h : Run R.scanner s r us .code []) : R.touches r v = false := by
  have hmem := mem_scanner_markers.mp (Scanner.mem_active.mp hm).1
  have hrpos := List.length_pos_of_ne_nil hr
  have hvpos := List.length_pos_of_ne_nil hv
  have hlen : r.length < m.text.length := by
    rw [htext, List.length_append]
    omega
  cases s with
  | lineComment =>
      rw [active_lineComment] at hm
      cases hm
  | literal q =>
      have := length_eq_one_of_active hR.scanner hm
      omega
  | blockComment =>
      -- half of the closing marker does not close the comment
      have hstays := h.stays_short rfl fun m' hm' => by
        rw [text_eq_of_blockClose (mem_scanner_markers.mp (Scanner.mem_active.mp hm').1) hmem
          (kind_eq_of_active_blockComment hm') (kind_eq_of_active_blockComment hm)]
        exact hlen
      cases hstays
  | code =>
      have htake : m.text.take r.length = r := by rw [htext, List.take_left]
      have hdrop : m.text.drop r.length = v := by rw [htext, List.drop_left]
      have huntouched := hR.untouched m hmem (kind_ne_of_active_code hm) _ hlen hrpos
      rw [htake, hdrop] at huntouched
      refine huntouched.resolve_left ?_
      rintro ⟨l, hl, hlk, hlr⟩
      -- what is found in the first half is the start of a longer marker, and opens a line comment
      have hstate : (R.scanner.token .code r).state = .lineComment := by
        rcases Scanner.token_cases R.scanner .code r with ⟨hesc, _⟩ | ⟨_, m', hm', hpre, htok⟩ |
          ⟨_, hnone, _⟩
        · simp [Scanner.escapesAt, State.escapes] at hesc
        · have hkind := hR.extended m' (mem_scanner_markers.mp (Scanner.mem_active.mp hm').1) m hmem
            (hpre.trans ⟨v, htext.symm⟩) (Nat.lt_of_le_of_lt hpre.length_le hlen)
          simp [htok, hkind, State.next]
        · refine absurd hlr (hnone l (Scanner.mem_active.mpr ⟨mem_scanner_markers.mpr hl, ?_⟩))
          simp [hlk, State.reactsTo, State.next]
      cases h with
      | done => exact hr rfl
      | step _ h =>
          rw [hstate] at h
          have hstays := h.stays_short rfl (by simp [active_lineComment])
          cases hstays

/-- Code texts that touch are scanned each by itself. -/
theorem run_touching (hR : R.Separable) {s : State} {left right : Text} {ts : List Token}
    (h : Run R.scanner s left ts .code []) (htouch : R.touches left right = true) :
    Run R.scanner s (left ++ right) ts .code right := by
  apply h.append_text
  intro s' r us hr hrt _ _ hrun
  apply Scanner.token_append hr
  · exact hrun.escape_lt_of_seam hR.scanner hr rfl
  · intro m hm hpre
    rcases prefix_append_cases hpre with hpre | ⟨v, hv, htext, hvright⟩
    · exact hpre
    · exfalso
      have hlast : left.getLast? = r.getLast? := by
        obtain ⟨before, rfl⟩ := hrt
        exact List.getLast?_append_of_ne_nil before hr
      have hhead : right.head? = v.head? := by
        obtain ⟨after, rfl⟩ := hvright
        exact List.head?_append_of_ne_nil v hv
      have hnot := hR.not_touches_of_cut hm htext hr hv hrun
      rw [touches, hlast, hhead] at htouch
      rw [touches, htouch] at hnot
      cases hnot

end Separable

end RuleSet

end LineJoin
