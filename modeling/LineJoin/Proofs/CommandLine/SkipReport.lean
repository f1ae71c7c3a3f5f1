import LineJoin.Proofs.CommandLine.Remote

/-!
# Ranges that a run reports

A run reports every selection that it skips as a range: two numbers counted from one, with a hyphen
between them. People write ranges in that form, so what is reported can be written on the next
command line. Only the length of the numbers could stand in the way. But a selection that comes from
a command line was read there, so its numbers are short enough to be written and to be read again
(`keepsDigitBound_of_skipped`).

On the command line the range is a word that starts with a digit, so that it is the value of the
option before it. It is added to the ranges that are there, and all other words are taken as they
were without it (`parse_lines_cons`).
-/

namespace LineJoin

namespace Selection

open Numeral

/-- A range starts with a digit. -/
theorem head?_range_ne_hyphen (s : Selection) : s.range.head? ≠ some '-' := by
  unfold range
  rw [List.head?_append_of_ne_nil _ (decimal_ne_nil _)]
  intro hhead
  have hdigit := isDigit_of_mem_decimal (List.mem_of_head? hhead)
  exact absurd hdigit (by decide)

end Selection

/-! ## One range more on a command line -/

namespace CommandLine

/-- Options with one range more, before the others. -/
def Options.withRange (o : Options) (raw : Text) : Options := { o with lines := raw :: o.lines }

/-- An intent with one range more, if it is that of a run. -/
def Intent.withRange (raw : Text) : Intent → Intent
  | .help => .help
  | .run o => .run (o.withRange raw)

/-- What was taken so far, with one range more. -/
def Taken.withRange (taken : Taken) (raw : Text) : Taken :=
  { taken with options := taken.options.withRange raw }

section Taking

variable {raw : Text} {o : Options} {taken : Taken}

@[simp] theorem Taken.options_withRange :
    (taken.withRange raw).options = taken.options.withRange raw := rfl

@[simp] theorem Taken.fileFilled_withRange :
    (taken.withRange raw).fileFilled = taken.fileFilled := rfl

@[simp] theorem Taken.leftOver_withRange : (taken.withRange raw).leftOver = taken.leftOver := rfl

@[simp] theorem Taken.fill_withRange (file : Text) :
    (taken.withRange raw).fill file = (taken.fill file).withRange raw := rfl

@[simp] theorem Taken.leave_withRange (words : List Text) :
    (taken.withRange raw).leave words = (taken.leave words).withRange raw := rfl

theorem Options.setValue_withRange (switch : Switch) (value : Text) :
    (o.withRange raw).setValue switch value = (o.setValue switch value).map (·.withRange raw) := by
  cases switch with
  | clipboard =>
      simp only [setValue]
      cases choosable value <;> rfl
  | _ => rfl

theorem Options.setFlag_withRange (switch : Switch) :
    (o.withRange raw).setFlag switch = (o.setFlag switch).map (·.withRange raw) := by
  cases switch with
  | toClipboard =>
      show (if o.stdout then _ else _) = Except.map _ (if o.stdout then _ else _)
      split <;> rfl
  | stdout =>
      show (if o.toClipboard then _ else _) = Except.map _ (if o.toClipboard then _ else _)
      split <;> rfl
  | _ => rfl

/-- An option that is set before the rest is taken. -/
theorem set_withRange {rest : List Word}
    (h : ∀ o, take (Taken.withRange { taken with options := o } raw) rest =
      (take { taken with options := o } rest).map (Intent.withRange raw))
    (set : Except Misuse Options) :
    (do take { taken.withRange raw with options := ← set.map (·.withRange raw) } rest) =
      (do take { taken with options := ← set } rest : Except Misuse Intent).map
        (Intent.withRange raw) := by
  cases set with
  | error misuse => rfl
  | ok o => exact h o

/-- A range that was taken before has no part in how the words are taken. -/
theorem take_withRange (words : List Word) :
    take (taken.withRange raw) words = (take taken words).map (Intent.withRange raw) := by
  fun_induction take taken words with
  | case1 taken hnone =>
      rw [take, Taken.leftOver_withRange, if_pos hnone]
      rfl
  | case2 taken hsome =>
      rw [take, Taken.leftOver_withRange, if_neg hsome]
      rfl
  | case3 taken t rest hfilled ih | case7 taken rest hfilled ih =>
      rw [take, Taken.fileFilled_withRange, if_pos hfilled, Taken.leave_withRange, ih]
  | case4 taken t rest hfilled ih =>
      rw [take, Taken.fileFilled_withRange, if_neg hfilled, Taken.fill_withRange, ih]
  -- an operand that no double hyphen follows
  | case5 taken t rest hrest hfilled ih =>
      rw [take]
      · rw [Taken.fileFilled_withRange, if_pos hfilled, Taken.leave_withRange, ih]
      · exact hrest
  | case6 taken t rest hrest hfilled ih =>
      rw [take]
      · rw [Taken.fileFilled_withRange, if_neg hfilled, Taken.fill_withRange, ih]
      · exact hrest
  | case8 taken rest hfilled ih => rw [take, Taken.fileFilled_withRange, if_neg hfilled, ih]
  | case9 taken t rest ih => rw [take, Taken.leave_withRange, ih]
  | case10 taken form value rest hshort =>
      rw [take, if_pos hshort]
      rfl
  | case11 taken form value rest hshort =>
      rw [take, if_neg hshort]
      rfl
  | case12 taken form rest => rfl
  -- an option other than the one for help, with a value or without
  | case13 taken switch form value rest hhelp hvalue ih
  | case15 taken switch form hhelp hvalue value rest ih =>
      rw [take.eq_def]
      simp only [if_pos hvalue, Taken.options_withRange, Options.setValue_withRange]
      exact set_withRange ih _
  | case14 taken switch form value rest hhelp hvalue =>
      rw [take.eq_def]
      simp only [if_neg hvalue]
      rfl
  | case16 taken switch form rest hhelp hvalue hrest =>
      rw [take.eq_def]
      simp only [if_pos hvalue]
      rfl
  | case17 taken switch form rest hhelp hvalue ih =>
      rw [take.eq_def]
      simp only [if_neg hvalue, Taken.options_withRange, Options.setFlag_withRange]
      exact set_withRange ih _

end Taking

theorem wordOf_of_head? {t : Text} (h : t.head? ≠ some '-') : wordOf t = .ok (.operand t) := by
  unfold wordOf
  split
  · exact absurd rfl h
  · rfl

/-- A command line with one range before its words asks for the same, with that range more. -/
theorem parse_lines_cons {raw : Text} (h : raw.head? ≠ some '-') (argv : List Text) :
    parse ("--lines".toList :: raw :: argv) = (parse argv).map (Intent.withRange raw) := by
  have hswitch : wordOf "--lines".toList = .ok (.option .lines "--lines".toList none) := by cbv
  have hraw : raw ≠ ['-', '-'] := by
    rintro rfl
    exact h rfl
  have hwords : wordsOf ("--lines".toList :: raw :: argv) =
      (wordsOf argv).map fun words =>
        .option .lines "--lines".toList none :: .operand raw :: words := by
    rw [wordsOf, if_neg (by decide), hswitch, wordsOf, if_neg hraw, wordOf_of_head? h]
    cases wordsOf argv <;> rfl
  unfold parse
  rw [hwords]
  cases wordsOf argv with
  | error misuse => rfl
  | ok words => exact take_withRange words

/-! ## What is skipped -/

/-- The range of a selection reads back exactly if its numbers keep the bound of digits, and whatever
is read keeps it. Let a command line give some ranges. Those that are skipped in a document are
reported, one on a line, with numbers that keep the bound. Each of them can stand on the command
line before the other words: the options are then the same with that range more, and it selects the
lines that were skipped. -/
theorem skipped_ranges_read_back :
    (∀ s : Selection, Selection.parse s.range = .ok s ↔ s.KeepsDigitBound) ∧
    (∀ raw s, Selection.parse raw = .ok s → s.KeepsDigitBound) ∧
    ∀ (argv : List Text) (o : Options) (selections : List Selection) (d : Document),
      parse argv = .ok (.run o) → o.lines.mapM Selection.parse = .ok selections →
      (∀ w, reportSkipped ((partition d selections).skipped.map .ofSelection) w =
        .ok () (w.tell (skipLines (partition d selections).skipped))) ∧
      ∀ s ∈ (partition d selections).skipped, s.KeepsDigitBound ∧
        parse ("--lines".toList :: s.range :: argv) = .ok (.run (o.withRange s.range)) ∧
        (o.withRange s.range).lines.mapM Selection.parse = .ok (s :: selections) := by
  refine ⟨fun s => Selection.parse_range_iff, fun raw s => Selection.keepsDigitBound_of_parse, ?_⟩
  intro argv o selections d hargv hselections
  constructor
  · intro w
    exact reportSkipped_ofSelection (keepsDigitBound_of_skipped hselections d) w
  · intro s hs
    have hbound := keepsDigitBound_of_skipped hselections d s hs
    refine ⟨hbound, ?_, ?_⟩
    · rw [parse_lines_cons s.head?_range_ne_hyphen, hargv]
      rfl
    · show (s.range :: o.lines).mapM Selection.parse = _
      rw [List.mapM_cons, Selection.parse_range hbound, hselections]
      rfl

/-- A range whose second number is as long as can be, and the last of three lines. That line has
nothing to be joined with; it was asked for as ` +3` and is reported as `3-3`. -/
theorem skipped_ranges_read_back_of_last_line :
    let longest : Selection := ⟨0, 10 ^ Numeral.maxDigits - 2, Nat.zero_le _⟩
    let last : Selection := ⟨2, 2, Nat.le_refl 2⟩
    let d : Document := ⟨["a".toList, "b".toList, "c".toList], ['\n'], false⟩
    let argv : List Text := ["f.js".toList, "--lines".toList, " +3".toList]
    let o : Options := { file := some "f.js".toList, lines := [" +3".toList] }
    longest.KeepsDigitBound ∧ Selection.parse longest.range = .ok longest ∧
    Selection.parse " +3".toList = .ok last ∧ last.KeepsDigitBound ∧
    parse argv = .ok (.run o) ∧ (partition d [last]).skipped = [last] ∧
    reportSkipped [.ofSelection last] {} = .ok () (World.tell {}
      "  Skipped lines 3-3 (reaches the last line of the document or overlaps)\n".toList) ∧
    parse ("--lines".toList :: "3-3".toList :: argv) =
      .ok (.run { o with lines := ["3-3".toList, " +3".toList] }) ∧
    ["3-3".toList, " +3".toList].mapM Selection.parse = .ok [last, last] := by
  intro longest last d argv o
  obtain ⟨hreads, hkeeps, hline⟩ := skipped_ranges_read_back
  have hlongest : longest.KeepsDigitBound := by
    have hten : 10 ^ 1 ≤ 10 ^ Numeral.maxDigits := Nat.pow_le_pow_right (by decide) (by decide)
    rw [Selection.keepsDigitBound_iff]
    show 10 ^ Numeral.maxDigits - 2 + 1 < 10 ^ Numeral.maxDigits
    omega
  have hraw : Selection.parse " +3".toList = .ok last := by cbv
  have hargv : parse argv = .ok (.run o) := by cbv
  have hskipped : (partition d [last]).skipped = [last] := by cbv
  have hselections : o.lines.mapM Selection.parse = .ok [last] := by
    show [" +3".toList].mapM Selection.parse = _
    rw [List.mapM_cons, hraw]
    rfl
  have hrange : last.range = "3-3".toList := by cbv
  have hlines : skipLines [last] =
      "  Skipped lines 3-3 (reaches the last line of the document or overlaps)\n".toList := by cbv
  obtain ⟨hreport, hagain⟩ := hline argv o [last] d hargv hselections
  rw [hskipped, hlines] at hreport
  rw [hskipped] at hagain
  obtain ⟨-, hparse, hselect⟩ := hagain last (List.mem_singleton_self last)
  rw [hrange] at hparse hselect
  exact ⟨hlongest, (hreads longest).mpr hlongest, hraw, hkeeps _ last hraw, hargv, hskipped,
    hreport {}, hparse, hselect⟩

end CommandLine

end LineJoin
