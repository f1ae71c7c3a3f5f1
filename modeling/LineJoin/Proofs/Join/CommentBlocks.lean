import LineJoin.Proofs.Join.Absorption

/-!
# Comments over several lines

Lines that are all comment are joined to the first of them, trimmed, followed by the bodies of the
others: each body that is not empty behind one space, and no marker repeated. This holds of line
comments, whatever markers they mix (`joinAll_commentLines`), and of block comments whose inner
lines start with a star (`joinAll_starLines`).

Both rest on one step. A text that leaves a comment open and ends without a blank (`OpenComment`)
gains just the body of the next line, and leaves the comment open as long as that line does not
close it. The bodies may hold anything else: markers, quotes, brackets, or a slash right behind a
star of the line before, since the space keeps the two apart.
-/

namespace LineJoin

namespace Text

/-- A text without blanks at its ends. -/
def Trimmed (t : Text) : Prop := trimStart t = t ∧ trimEnd t = t

instance (t : Text) : Decidable (Trimmed t) := inferInstanceAs (Decidable (_ ∧ _))

/-- Blanks before a trimmed text are all that its start loses. -/
theorem Trimmed.trimStart_append {pad body : Text} (hbody : Trimmed body) (hpad : Blank pad) :
    trimStart (pad ++ body) = body := by
  rw [trimStart_blank_append hpad]
  exact hbody.1

/-- Where blanks stand before a body, unless it is empty, what comes first is a blank. -/
theorem isBlank_of_head?_append {pad body : Text} (hpad : Blank pad) (hne : body ≠ [] → pad ≠ [])
    {c : Char} (h : (pad ++ body).head? = some c) : isBlank c = true := by
  by_cases hbody : body = []
  · rw [hbody, List.append_nil] at h
    exact hpad c (List.mem_of_head? h)
  · rw [List.head?_append_of_ne_nil _ (hne hbody)] at h
    exact hpad c (List.mem_of_head? h)

/-- The bodies that are not empty, each with one space before it. -/
def eachSpaced (bodies : List Text) : Text := (bodies.filter (!·.isEmpty)).flatMap (' ' :: ·)

theorem eachSpaced_singleton {body : Text} (h : body ≠ []) : eachSpaced [body] = ' ' :: body := by
  simp [eachSpaced, h]

theorem eachSpaced_append (bodies more : List Text) :
    eachSpaced (bodies ++ more) = eachSpaced bodies ++ eachSpaced more := by
  simp [eachSpaced]

/-- A body that ends without a blank keeps a text so. -/
theorem trimEnd_append_eachSpaced {t body : Text} (ht : trimEnd t = t)
    (hbody : trimEnd body = body) : trimEnd (t ++ eachSpaced [body]) = t ++ eachSpaced [body] := by
  by_cases hnil : body = []
  · subst hnil
    show trimEnd (t ++ []) = t ++ []
    rw [List.append_nil]
    exact ht
  · have hblank : ¬ Blank body := by
      intro h
      exact hnil (hbody.symm.trans (trimEnd_eq_nil_iff.mpr h))
    rw [eachSpaced_singleton hnil, List.append_cons, trimEnd_append hblank, hbody]

end Text

namespace RuleSet

open Scan Text

variable {R : RuleSet} {e : State} {t line : Text}

/-! ## A comment that is open -/

theorem spaced_eq_append {left : Text} (hleft : left ≠ []) (right : Text) :
    spaced left right = left ++ eachSpaced [right] := by
  cases right with
  | nil => simp [spaced, eachSpaced]
  | cons c right => simp [spaced, eachSpaced, hleft]

/-- A text that leaves a comment open and ends without a blank. -/
structure OpenComment (R : RuleSet) (e : State) (t : Text) : Prop where
  comment : e = .lineComment ∨ e = .blockComment
  run : ∃ ts, Run R.scanner .code t ts e []
  trimmed : trimEnd t = t

/-- A line that does not close a comment and of which a body is kept that ends without a blank. -/
structure AddsBody (R : RuleSet) (e : State) (line body : Text) : Prop where
  run : ∃ us, Run R.scanner e line us e []
  kept : R.keptRight e.context.region line = body
  trimmed : trimEnd body = body

namespace OpenComment

theorem escapes_eq_false (h : R.OpenComment e t) : e.escapes = false := by
  rcases h.comment with rfl | rfl <;> rfl

theorem ne_nil (h : R.OpenComment e t) : t ≠ [] := by
  rintro rfl
  obtain ⟨ts, hrun⟩ := h.run
  obtain ⟨_, rfl, _⟩ := hrun.eq_of_nil
  rcases h.comment with hcode | hcode <;> cases hcode

/-- What a comment gains by a line. -/
theorem joinIn_eq_append (h : R.OpenComment e t) (line : Text) :
    R.joinIn e.context.region t line = t ++ eachSpaced [R.keptRight e.context.region line] := by
  have hjoin : R.joinIn e.context.region t line =
      spaced (trimEnd t) (R.keptRight e.context.region line) := by
    rcases h.comment with rfl | rfl <;> rfl
  rw [hjoin, h.trimmed, spaced_eq_append h.ne_nil]

theorem joinPair_eq_append (hR : R.Separable) (h : R.OpenComment e t) (line : Text) :
    R.joinPair t line = .ok (t ++ eachSpaced [R.keptRight e.context.region line]) := by
  obtain ⟨ts, hrun⟩ := h.run
  rw [joinPair_of_classify (classify_of_run hR.scanner.solid hrun), h.joinIn_eq_append]

/-- A line that does not close the comment leaves it open behind the body that it adds. -/
theorem append (hR : R.Separable) (h : R.OpenComment e t) {body : Text}
    (hline : R.AddsBody e line body) : R.OpenComment e (t ++ eachSpaced [body]) where
  comment := h.comment
  run := by
    obtain ⟨ts, hts⟩ := h.run
    obtain ⟨us, hus⟩ := hline.run
    -- a join drops and inserts only what the scan passes over, so it ends where the line does
    obtain ⟨_, _, _, _, _, _, _, hjoined⟩ := hR.run_joinIn hts h.escapes_eq_false hus
    rw [h.joinIn_eq_append, hline.kept] at hjoined
    exact ⟨_, hjoined⟩
  trimmed := trimEnd_append_eachSpaced h.trimmed hline.trimmed

/-- Any number of such lines add their bodies in order. -/
theorem foldlM_joinPair (hR : R.Separable) {α : Type} {text body : α → Text}
    (hlines : ∀ l, R.AddsBody e (text l) (body l)) (ls : List α) (h : R.OpenComment e t) :
    (ls.map text).foldlM R.joinPair t = .ok (t ++ eachSpaced (ls.map body)) ∧
      R.OpenComment e (t ++ eachSpaced (ls.map body)) := by
  induction ls generalizing t with
  | nil =>
      show Except.ok t = .ok (t ++ []) ∧ R.OpenComment e (t ++ [])
      rw [List.append_nil]
      exact ⟨rfl, h⟩
  | cons l ls ih =>
      have hsplit : eachSpaced ((l :: ls).map body) =
          eachSpaced [body l] ++ eachSpaced (ls.map body) := eachSpaced_append [body l] _
      rw [List.map_cons, List.foldlM_cons, h.joinPair_eq_append hR, (hlines l).kept, hsplit,
        ← List.append_assoc]
      exact ih (h.append hR (hlines l))

end OpenComment

/-- The first line of a comment, trimmed as the first join leaves it. -/
theorem Separable.openComment_trimEnd (hR : R.Separable) (he : e = .lineComment ∨ e = .blockComment)
    {ts : List Token} (h : Run R.scanner .code t ts e []) : R.OpenComment e (trimEnd t) where
  comment := he
  run := hR.run_trimEnd h (by rcases he with rfl | rfl <;> rfl)
  trimmed := trimEnd_trimEnd t

/-- Lines behind the first line of a comment are joined onto that line trimmed. -/
theorem Separable.foldlM_joinPair_of_comment (hR : R.Separable)
    (he : e = .lineComment ∨ e = .blockComment) {ts : List Token}
    (h : Run R.scanner .code t ts e []) {lines : List Text} (hlines : lines ≠ []) :
    lines.foldlM R.joinPair t = lines.foldlM R.joinPair (trimEnd t) := by
  have hclass := classify_of_run hR.scanner.solid h
  have hregion := escapes_eq_false_iff.mp (hR.openComment_trimEnd he h).escapes_eq_false
  exact (hR.foldlM_joinPair_trimEnd hclass hregion hlines).symm

/-! ## Line comments -/

/-- A line that is all comment: a marker, blanks after it, and a body. -/
structure CommentLine (R : RuleSet) where
  indent : Text
  marker : Text
  pad : Text
  body : Text
  indent_blank : Blank indent := by decide
  marker_mem : marker ∈ R.lineMarkers := by decide
  pad_blank : Blank pad := by decide
  pad_ne_nil : pad ≠ [] := by decide
  body_trimmed : Trimmed body := by decide

namespace CommentLine

/-- The line as it is written. -/
def text (l : CommentLine R) : Text := l.indent ++ l.marker ++ (l.pad ++ l.body)

/-- Behind the marker comes a blank. -/
theorem isBlank_of_head? (l : CommentLine R) {c : Char} (h : (l.pad ++ l.body).head? = some c) :
    isBlank c = true :=
  isBlank_of_head?_append l.pad_blank (fun _ => l.pad_ne_nil) h

theorem keptRight_eq_body (hR : R ∈ registry) (l : CommentLine R) :
    R.keptRight .lineComment l.text = l.body := by
  calc R.keptRight .lineComment l.text
      = trimStart (l.pad ++ l.body) :=
        keptRight_of_marker l.indent_blank (fun _ => l.isBlank_of_head?) hR l.marker_mem
    _ = l.body := l.body_trimmed.trimStart_append l.pad_blank

theorem exists_run (hR : R ∈ registry) (l : CommentLine R) :
    ∃ ts, Run R.scanner .code l.text ts .lineComment [] := by
  have hsep := registry_separable hR
  have hmarks : R.Marks l.marker .lineComment :=
    .line l.marker_mem (registry_lineMarkers_ne_nil hR _ l.marker_mem)
  have hskip := Run.skip_inert hsep.scanner.solid (s := .code) rfl
    (hsep.inert_of_blank l.indent_blank) (l.marker ++ (l.pad ++ l.body))
  have hmarker := run_lineMarker hR hmarks fun _ => l.isBlank_of_head?
  have hrest := run_lineComment R.scanner (l.pad ++ l.body) []
  rw [List.append_nil] at hrest
  have hline := (hskip.append hmarker).append hrest
  rw [← List.append_assoc] at hline
  exact ⟨_, hline⟩

theorem addsBody (hR : R ∈ registry) (l : CommentLine R) :
    R.AddsBody .lineComment l.text l.body where
  run := by
    have hrun := run_lineComment R.scanner l.text []
    rw [List.append_nil] at hrun
    exact ⟨_, hrun⟩
  kept := l.keptRight_eq_body hR
  trimmed := l.body_trimmed.2

end CommentLine

/-- For every registered rule set, two or more lines of line comment are joined to the first,
trimmed, and the bodies of the others. -/
theorem joinAll_commentLines (R : RuleSet) (hR : R ∈ registry) (first : CommentLine R)
    (rest : List (CommentLine R)) (hrest : rest ≠ []) :
    R.joinAll ((first :: rest).map CommentLine.text) =
      .ok (trimEnd first.text ++ eachSpaced (rest.map CommentLine.body)) := by
  have hsep := registry_separable hR
  obtain ⟨ts, hfirst⟩ := first.exists_run hR
  have hopen := hsep.openComment_trimEnd (.inl rfl) hfirst
  calc R.joinAll ((first :: rest).map CommentLine.text)
      = (rest.map CommentLine.text).foldlM R.joinPair first.text := rfl
    _ = (rest.map CommentLine.text).foldlM R.joinPair (trimEnd first.text) :=
        hsep.foldlM_joinPair_of_comment (.inl rfl) hfirst (by simpa using hrest)
    _ = .ok (trimEnd first.text ++ eachSpaced (rest.map CommentLine.body)) :=
        (hopen.foldlM_joinPair hsep (fun l => l.addsBody hR) rest).1

/-- Markers that are the start of one another, empty bodies, and a body that starts with a marker
and opens a literal and a block comment. -/
theorem joinAll_commentLines_of_mixed :
    fallback ∈ registry ∧
    fallback.joinAll ["  //\t".toList, "/// // it's /* a".toList, "\t// ".toList, "//  (b".toList]
      = .ok "  // // it's /* a (b".toList := by
  have hmem : fallback ∈ registry := List.mem_cons_self
  refine ⟨hmem, ?_⟩
  exact joinAll_commentLines fallback hmem
    { indent := [' ', ' '], marker := ['/', '/'], pad := ['\t'], body := [] }
    [{ indent := [], marker := ['/', '/', '/'], pad := [' '], body := "// it's /* a".toList },
      { indent := ['\t'], marker := ['/', '/'], pad := [' '], body := [] },
      { indent := [], marker := ['/', '/'], pad := [' ', ' '], body := "(b".toList }]
    (List.cons_ne_nil _ _)

/-! ## Block comments -/

/-- A line inside a block comment: a star, blanks after it, and a body that does not close the
comment. -/
structure StarLine where
  indent : Text
  pad : Text
  body : Text
  indent_blank : Blank indent := by decide
  pad_blank : Blank pad := by decide
  pad_ne_nil : body ≠ [] → pad ≠ [] := by decide
  body_trimmed : Trimmed body := by decide
  body_open : ¬ ['*', '/'] <:+: body := by decide

/-- A text in which the closing marker does not stand is passed over inside a block comment. -/
theorem run_unclosed {opener closer w : Text} (hblock : R.block = some (opener, closer))
    (h : ¬ closer <:+: w) :
    Run R.scanner .blockComment w (plain .blockComment w) .blockComment [] := by
  have hrun : Run R.scanner .blockComment (w ++ []) (plain .blockComment w) .blockComment [] := by
    apply run_blockComment hblock
    intro k _ hpre
    rw [List.append_nil] at hpre
    exact h (hpre.isInfix.trans (List.drop_suffix k w).isInfix)
  rwa [List.append_nil] at hrun

/-- The line that closes a comment is no decorated one: a slash comes right after its star. -/
theorem keptRight_of_closer (hstar : R.continuation = some .star) {indent : Text}
    (hindent : Blank indent) (tail : Text) :
    R.keptRight .blockComment (indent ++ ['*', '/'] ++ tail) = '*' :: '/' :: tail := by
  have hstart : trimStart (indent ++ ['*', '/'] ++ tail) = '*' :: '/' :: tail := by
    rw [List.append_assoc, trimStart_blank_append hindent]
    rfl
  rcases keptRight_cases R (by simp : Region.blockComment ≠ .literal)
    (indent ++ ['*', '/'] ++ tail) with
    ⟨_, _, ⟨d, hd, ⟨rest, hrest, hblank⟩, _⟩, _⟩ | ⟨_, hright⟩
  · exfalso
    have hslash : rest.head? = some '/' := by
      rw [← (List.cons.inj (hstart.symm.trans hrest)).2]
      rfl
    have hd : d = .star := Option.some.inj (hd.symm.trans hstar)
    exact absurd (hblank hd '/' hslash) (by decide)
  · rw [hright, hstart]

namespace StarLine

/-- The line as it is written. -/
def text (l : StarLine) : Text := l.indent ++ ['*'] ++ (l.pad ++ l.body)

theorem keptRight_eq_body (hstar : R.continuation = some .star) (l : StarLine) :
    R.keptRight .blockComment l.text = l.body := by
  have hblank : ∀ c, (l.pad ++ l.body).head? = some c → isBlank c = true := by
    intro c hc
    exact isBlank_of_head?_append l.pad_blank l.pad_ne_nil hc
  calc R.keptRight .blockComment l.text
      = trimStart (l.pad ++ l.body) := keptRight_of_star l.indent_blank hblank hstar
    _ = l.body := l.body_trimmed.trimStart_append l.pad_blank

theorem addsBody (hR : R.Separable) {opener : Text} (hblock : R.block = some (opener, ['*', '/']))
    (hstar : R.continuation = some .star) (l : StarLine) :
    R.AddsBody .blockComment l.text l.body where
  run := by
    obtain ⟨dropped, hdropped⟩ := hR.run_blockCommentRight l.text
    have hbody : R.blockCommentRight l.text = l.body := l.keptRight_eq_body hstar
    rw [hbody] at hdropped
    exact ⟨_, hdropped.append (run_unclosed hblock l.body_open)⟩
  kept := l.keptRight_eq_body hstar
  trimmed := l.body_trimmed.2

end StarLine

/-- Behind blanks, the opening marker leaves a block comment open over all that does not close
it. -/
theorem exists_run_of_opened (hR : R ∈ registry) {opener closer : Text}
    (hblock : R.block = some (opener, closer)) {indent opened : Text} (hindent : Blank indent)
    (hopened : ¬ closer <:+: opened) :
    ∃ ts, Run R.scanner .code (indent ++ opener ++ opened) ts .blockComment [] := by
  have hsep := registry_separable hR
  have hskip := Run.skip_inert hsep.scanner.solid (s := .code) rfl (hsep.inert_of_blank hindent)
    (opener ++ opened)
  have hmarker := run_marker hR (s := .code) (.opener hblock) (by simp) (by simp [State.next]) opened
  have hline := (hskip.append hmarker).append (run_unclosed hblock hopened)
  rw [← List.append_assoc] at hline
  exact ⟨_, hline⟩

/-- For every registered rule set with block comments between `/*` and `*/` and stars before their
inner lines, such a comment is joined to its first line, trimmed, the bodies of the inner lines, and
its last line from the closing marker on. -/
theorem joinAll_starLines (R : RuleSet) (hR : R ∈ registry)
    (hblock : R.block = some (['/', '*'], ['*', '/'])) (hstar : R.continuation = some .star)
    (indent opened : Text) (hindent : Blank indent) (hopened : ¬ ['*', '/'] <:+: opened)
    (inner : List StarLine) (outdent tail : Text) (houtdent : Blank outdent) :
    R.joinAll ((indent ++ ['/', '*'] ++ opened)
        :: (inner.map StarLine.text ++ [outdent ++ ['*', '/'] ++ tail])) =
      .ok (trimEnd (indent ++ ['/', '*'] ++ opened) ++ eachSpaced (inner.map StarLine.body)
        ++ [' ', '*', '/'] ++ tail) := by
  have hsep := registry_separable hR
  obtain ⟨ts, hfirst⟩ := exists_run_of_opened hR hblock hindent hopened
  have hopen := hsep.openComment_trimEnd (.inr rfl) hfirst
  obtain ⟨hinner, hstill⟩ :=
    hopen.foldlM_joinPair hsep (fun l => l.addsBody hsep hblock hstar) inner
  calc R.joinAll ((indent ++ ['/', '*'] ++ opened)
        :: (inner.map StarLine.text ++ [outdent ++ ['*', '/'] ++ tail]))
      = (inner.map StarLine.text ++ [outdent ++ ['*', '/'] ++ tail]).foldlM R.joinPair
          (trimEnd (indent ++ ['/', '*'] ++ opened)) :=
        hsep.foldlM_joinPair_of_comment (.inr rfl) hfirst (by simp)
    _ = R.joinPair (trimEnd (indent ++ ['/', '*'] ++ opened)
          ++ eachSpaced (inner.map StarLine.body)) (outdent ++ ['*', '/'] ++ tail) := by
        rw [List.foldlM_append, hinner]
        show [outdent ++ ['*', '/'] ++ tail].foldlM R.joinPair _ = _
        rw [List.foldlM_cons]
        exact bind_pure _
    _ = .ok (trimEnd (indent ++ ['/', '*'] ++ opened) ++ eachSpaced (inner.map StarLine.body)
          ++ eachSpaced [R.keptRight .blockComment (outdent ++ ['*', '/'] ++ tail)]) :=
        hstill.joinPair_eq_append hsep _
    _ = .ok (trimEnd (indent ++ ['/', '*'] ++ opened) ++ eachSpaced (inner.map StarLine.body)
          ++ [' ', '*', '/'] ++ tail) := by
        rw [keptRight_of_closer hstar houtdent, eachSpaced_singleton (List.cons_ne_nil _ _),
          List.append_assoc _ [' ', '*', '/']]
        rfl

/-- A slash behind the star that ends the line before, a star with nothing after it, and a body
that starts and ends with a star. -/
theorem joinAll_starLines_of_stars :
    (fallback ∈ registry ∧ fallback.block = some (['/', '*'], ['*', '/']) ∧
      fallback.continuation = some .star) ∧
    ¬ ['*', '/'] <:+: "/ f( *\t".toList ∧
    fallback.joinAll [" /*/ f( *\t".toList, " * /".toList, "*".toList, "\t*  * b *".toList,
      "  */ g */".toList] = .ok " /*/ f( * / * b * */ g */".toList := by
  have hmem : fallback ∈ registry := List.mem_cons_self
  have hopened : ¬ ['*', '/'] <:+: "/ f( *\t".toList := by decide
  refine ⟨⟨hmem, rfl, rfl⟩, hopened, ?_⟩
  exact joinAll_starLines fallback hmem rfl rfl [' '] _ (by decide) hopened
    [{ indent := [' '], pad := [' '], body := ['/'] },
      { indent := [], pad := [], body := [] },
      { indent := ['\t'], pad := [' ', ' '], body := "* b *".toList }]
    [' ', ' '] " g */".toList (by decide)

end RuleSet

end LineJoin
