import LineJoin.Proofs.Command.Greedy
import LineJoin.Proofs.Document.RoundTrip

/-!
# The text of a document that was only read

A document remembers one line break, the more frequent one of the text that it was read from. Its
text is therefore that text with every line break replaced by this one, and everything else kept:
carriage returns that no line feed follows, blank lines, and whether the text ends in a break
(`toText_ofText`). The two texts are the same exactly if the text has only one kind of line break.

A command that skips all of its selections changes nothing of this, whatever its rules are. What the
text of a document becomes when it is read again is another question, and the two cases in which
its lines do not come back are not excluded here.
-/

namespace LineJoin

namespace Document

/-! ## Line breaks of a text -/

/-- How many line feeds of a text have a carriage return right before them. -/
def returnFeeds (t : Text) : Nat := (t.zip t.tail).count ('\r', '\n')

/-- A text with each of its line breaks replaced, and every other character kept. -/
def rebreak (newline : Text) : Text → Text
  | [] => []
  | '\r' :: '\n' :: rest => newline ++ rebreak newline rest
  | '\n' :: rest => newline ++ rebreak newline rest
  | c :: rest => c :: rebreak newline rest

theorem returnFeeds_cons (c : Char) (t : Text) :
    returnFeeds (c :: t) = returnFeeds t + if c = '\r' ∧ t.head? = some '\n' then 1 else 0 := by
  cases t with
  | nil => simp [returnFeeds]
  | cons d t =>
      rw [returnFeeds, List.tail_cons, List.zip_cons_cons, List.count_cons, returnFeeds,
        List.tail_cons]
      simp [Prod.mk.injEq]

/-- The two counts of a text say how many line feeds have a carriage return before them, and how
many have none. -/
theorem breakCounts_eq (t : Text) :
    (breakCounts t).1 = returnFeeds t ∧ (breakCounts t).1 + (breakCounts t).2 = t.count '\n' := by
  fun_induction breakCounts t with
  | case1 => exact ⟨rfl, rfl⟩
  | case2 rest ih =>
      have hreturn : ('\r' : Char) ≠ '\n' := by decide
      rw [returnFeeds_cons, if_pos ⟨rfl, rfl⟩, returnFeeds_cons, if_neg (by simp),
        List.count_cons_of_ne hreturn, List.count_cons_self]
      omega
  | case3 rest ih =>
      rw [returnFeeds_cons, if_neg (by simp), List.count_cons_self]
      omega
  | case4 c rest hpair hfeed ih =>
      have hnot : ¬ (c = '\r' ∧ rest.head? = some '\n') := by
        rintro ⟨rfl, hhead⟩
        obtain ⟨more, rfl⟩ := List.head?_eq_some_iff.mp hhead
        exact hpair more rfl rfl
      rw [returnFeeds_cons, if_neg hnot, List.count_cons_of_ne hfeed]
      exact ih

theorem newlineOf_eq (t : Text) :
    newlineOf t =
      if t.count '\n' - returnFeeds t < returnFeeds t then ['\r', '\n'] else ['\n'] := by
  obtain ⟨hreturns, hfeeds⟩ := breakCounts_eq t
  have hplain : (breakCounts t).2 = t.count '\n' - returnFeeds t := by omega
  rw [newlineOf, hplain, hreturns]

/-! ## Replacing them -/

theorem intercalate_cons_char (newline : Text) (c : Char) (piece : Text) (more : List Text) :
    newline.intercalate ((c :: piece) :: more) = c :: newline.intercalate (piece :: more) := by
  cases more with
  | nil => simp
  | cons next more => simp [List.intercalate_cons_cons]

/-- The pieces of a text with a line break between them are the text with this line break. -/
theorem intercalate_pieces (newline t : Text) :
    newline.intercalate (pieces t) = rebreak newline t := by
  fun_induction pieces t with
  | case1 => rfl
  | case2 rest ih =>
      rw [List.intercalate_cons_of_ne_nil (pieces_ne_nil rest), ih]
      rfl
  | case3 rest ih =>
      rw [List.intercalate_cons_of_ne_nil (pieces_ne_nil rest), ih]
      rfl
  | case4 c rest _ _ hnil => exact absurd hnil (pieces_ne_nil rest)
  | case5 c rest hpair hfeed first more hpieces ih =>
      rw [hpieces] at ih
      rw [intercalate_cons_char, ih, rebreak.eq_4 newline c rest hpair hfeed]

/-- The text of a document that was only read. -/
theorem toText_ofText (t : Text) : (ofText t).toText = rebreak (newlineOf t) t := by
  obtain ⟨lines, last, hpieces⟩ := exists_pieces_eq t
  rw [← intercalate_pieces, hpieces, ofText_of_pieces hpieces]
  split
  · next hlast => rw [toText_eq_intercalate hlast.1, hlast.2]; rfl
  · rw [toText_eq_intercalate (by simp)]; rfl

/-- Each line break gives up its own characters for those of the new one. -/
theorem rebreak_length (newline t : Text) :
    (rebreak newline t).length + 2 * (breakCounts t).1 + (breakCounts t).2 =
      t.length + ((breakCounts t).1 + (breakCounts t).2) * newline.length := by
  fun_induction breakCounts t with
  | case1 => simp [rebreak]
  | case2 rest ih =>
      rw [rebreak, List.length_append]
      simp only [List.length_cons, Nat.add_mul] at ih ⊢
      omega
  | case3 rest ih =>
      rw [rebreak, List.length_append]
      simp only [List.length_cons, Nat.add_mul] at ih ⊢
      omega
  | case4 c rest hpair hfeed ih =>
      rw [rebreak.eq_4 newline c rest hpair hfeed, List.length_cons, List.length_cons]
      omega

theorem rebreak_feed_eq_self {t : Text} (h : (breakCounts t).1 = 0) : rebreak ['\n'] t = t := by
  fun_induction breakCounts t with
  | case1 => rfl
  | case2 rest ih => omega
  | case3 rest ih => rw [rebreak, ih h]; rfl
  | case4 c rest hpair hfeed ih => rw [rebreak.eq_4 _ c rest hpair hfeed, ih h]

theorem rebreak_returnFeed_eq_self {t : Text} (h : (breakCounts t).2 = 0) :
    rebreak ['\r', '\n'] t = t := by
  fun_induction breakCounts t with
  | case1 => rfl
  | case2 rest ih => rw [rebreak, ih h]; rfl
  | case3 rest ih => omega
  | case4 c rest hpair hfeed ih => rw [rebreak.eq_4 _ c rest hpair hfeed, ih h]

/-- With the more frequent line break in place of all, a text stays as it is exactly if it has no
other. -/
theorem rebreak_newlineOf_eq_self_iff (t : Text) :
    rebreak (newlineOf t) t = t ↔ (breakCounts t).1 = 0 ∨ (breakCounts t).2 = 0 := by
  have hlength := rebreak_length (newlineOf t) t
  unfold newlineOf at hlength ⊢
  split at hlength <;> simp only [List.length_cons, List.length_nil] at hlength
  · next hmore =>
      rw [if_pos hmore]
      constructor
      · intro heq
        rw [heq] at hlength
        omega
      · rintro (hzero | hzero)
        · omega
        · exact rebreak_returnFeed_eq_self hzero
  · next hmore =>
      rw [if_neg hmore]
      constructor
      · intro heq
        rw [heq] at hlength
        omega
      · intro hzero
        exact rebreak_feed_eq_self (by omega)

end Document

/-! ## Commands that skip everything -/

/-- A command that accepts no selection succeeds under any rules, and leaves the document as it
is. -/
theorem joinLines_of_accepted_eq_nil {d : Document} {selections : List Selection}
    (h : (partition d selections).accepted = []) (R : RuleSet) :
    joinLines R d selections = .ok (d, ⟨[], (partition d selections).skipped⟩) := by
  rw [joinLines_eq, h]
  rfl

open Document in
/-- For every text, the document that is read from it has a line, and no line of it holds a line
feed. After any command that skips all selections, its text is the given one with each line break
replaced by the more frequent one, a line feed if neither is; and it is the given text itself
exactly if either none or all of the line feeds have a carriage return before them. -/
theorem toText_after_skips (t : Text) :
    (ofText t).lines ≠ [] ∧ (∀ line ∈ (ofText t).lines, '\n' ∉ line) ∧
    ∀ (R : RuleSet) (selections : List Selection),
      (partition (ofText t) selections).accepted = [] →
      ∃ (d : Document) (report : Report), joinLines R (ofText t) selections = .ok (d, report) ∧
        report.joined = [] ∧ report.skipped.Perm selections ∧
        (d.toText = t ↔ returnFeeds t = 0 ∨ returnFeeds t = t.count '\n') ∧
        d.toText = rebreak (if t.count '\n' - returnFeeds t < returnFeeds t then ['\r', '\n']
          else ['\n']) t := by
  have hread := wellFormed_ofText t
  refine ⟨hread.lines_ne_nil, hread.no_feed, ?_⟩
  intro R selections hnone
  have hperm := partition_perm (ofText t) selections
  rw [hnone, List.nil_append] at hperm
  refine ⟨ofText t, _, joinLines_of_accepted_eq_nil hnone R, rfl, hperm, ?_, ?_⟩
  · obtain ⟨hreturns, hfeeds⟩ := breakCounts_eq t
    rw [toText_ofText, rebreak_newlineOf_eq_self_iff, hreturns]
    omega
  · rw [toText_ofText, newlineOf_eq]

/-- Both kinds of line break, a carriage return by itself before one of them, and no final break.
The selection ends on the last line. -/
theorem toText_after_skips_of_mixed :
    (partition (Document.ofText "a\r\r\n\r\nb\nc\rd".toList) [⟨3, 3, by decide⟩]).accepted = [] ∧
    ∃ (d : Document) (report : Report),
      joinLines RuleSet.fallback (Document.ofText "a\r\r\n\r\nb\nc\rd".toList)
        [⟨3, 3, by decide⟩] = .ok (d, report) ∧
      report.joined = [] ∧ d.toText ≠ "a\r\r\n\r\nb\nc\rd".toList ∧
      d.toText = "a\r\r\n\r\nb\r\nc\rd".toList := by
  have hnone : (partition (Document.ofText "a\r\r\n\r\nb\nc\rd".toList)
      [⟨3, 3, by decide⟩]).accepted = [] := by cbv
  obtain ⟨d, report, hok, hjoined, _, hself, htext⟩ :=
    (toText_after_skips "a\r\r\n\r\nb\nc\rd".toList).2.2 RuleSet.fallback
      [⟨3, 3, by decide⟩] hnone
  refine ⟨hnone, d, report, hok, hjoined, ?_, htext.trans (by cbv)⟩
  rw [ne_eq, hself]
  decide +kernel

end LineJoin
