import Mathlib
import LineJoin.Json.Printer
import LineJoin.Json.Reader

/-!
# Written values are read back

What is written for a value is read as that value. Numbers that are not whole are left out, and so
are strings with half a pair in them: two halves next to each other would be read as one character.
Two bounds of the reader remain: the digits of a whole number, and the depth of containers.

The statement that carries the argument is `Legible`: the text of a value is read as the value
wherever it stands, as long as something follows that ends a value. There is one lemma for each kind
of value, and those for containers ask it of their parts. The whole text of an object is then read
back by `read_print_object`, and that of a whole number exactly if it keeps the bound
(`read_print_int_iff`).
-/

namespace LineJoin

/-! ## Decimal digits -/

namespace Numeral

theorem digitChar_toNat {d : Nat} (h : d < 10) : (Text.digitChar d).toNat = 0x30 + d := by
  have hall : ∀ d < 10, (Text.digitChar d).toNat = 0x30 + d := by decide
  exact hall d h

theorem decimal_ne_nil (n : Nat) : decimal n ≠ [] := by
  rw [decimal]
  split <;> simp

theorem isDigit_of_mem_decimal {n : Nat} {c : Char} (h : c ∈ decimal n) :
    Json.isDigit c = true := by
  have hdigit : ∀ d, d < 10 → Json.isDigit (Text.digitChar d) = true := by
    intro d hd
    simp only [Json.isDigit, digitChar_toNat hd, Bool.and_eq_true, decide_eq_true_eq]
    omega
  fun_induction decimal n with
  | case1 n hn =>
      obtain rfl := List.mem_singleton.mp h
      exact hdigit n hn
  | case2 n hn ih =>
      rcases List.mem_append.mp h with h | h
      · exact ih h
      · obtain rfl := List.mem_singleton.mp h
        exact hdigit _ (by omega)

/-- Only zero starts with a zero. -/
theorem head?_decimal_ne_zero {n : Nat} (h : 0 < n) : (decimal n).head? ≠ some '0' := by
  fun_induction decimal n with
  | case1 n hn =>
      simp only [List.head?_cons, ne_eq, Option.some.injEq]
      intro hzero
      have := digitChar_toNat hn
      rw [hzero] at this
      have : (0x30 : Nat) = 0x30 + n := this
      omega
  | case2 n hn ih =>
      rw [List.head?_append_of_ne_nil _ (decimal_ne_nil _)]
      exact ih (by omega)

theorem natOf_append (t u : Text) :
    Json.natOf (t ++ u) =
      (u.map (·.toNat - 0x30)).foldl (fun n d => 10 * n + d) (Json.natOf t) := by
  unfold Json.natOf ofDigits
  rw [List.map_append, List.foldl_append]

@[simp] theorem natOf_decimal (n : Nat) : Json.natOf (decimal n) = n := by
  fun_induction decimal n with
  | case1 n hn =>
      simp [Json.natOf, ofDigits, digitChar_toNat hn]
  | case2 n hn ih =>
      rw [natOf_append, ih]
      simp only [List.map_cons, List.map_nil, List.foldl_cons, List.foldl_nil,
        digitChar_toNat (show n % 10 < 10 by omega)]
      omega

/-- A number has at most so many digits if it is below the power of ten. -/
theorem length_decimal_le_iff {n k : Nat} (hk : 0 < k) : (decimal n).length ≤ k ↔ n < 10 ^ k := by
  fun_induction decimal n generalizing k with
  | case1 n hn =>
      have hpow : 10 ^ 1 ≤ 10 ^ k := Nat.pow_le_pow_right (by omega) hk
      simp only [List.length_singleton]
      omega
  | case2 n hn ih =>
      obtain ⟨k, rfl⟩ : ∃ j, k = j + 1 := ⟨k - 1, by omega⟩
      rw [List.length_append, List.length_singleton, Nat.add_le_add_iff_right]
      rcases Nat.eq_zero_or_pos k with rfl | hpos
      · have hne : (decimal (n / 10)).length ≠ 0 := by
          simpa using decimal_ne_nil (n / 10)
        omega
      · rw [ih hpos, Nat.pow_succ]
        omega

theorem length_decimal_mono {m n : Nat} (h : m ≤ n) : (decimal m).length ≤ (decimal n).length := by
  have hpos : 0 < (decimal n).length := List.length_pos_iff.mpr (decimal_ne_nil n)
  rw [length_decimal_le_iff hpos]
  exact Nat.lt_of_le_of_lt h ((length_decimal_le_iff hpos).mp (Nat.le_refl _))

end Numeral

namespace Json

/-! ## Whole numbers -/

/-- A place where a value may end: the end of the text, or before a comma or a closing bracket. -/
def AtBreak (rest : Text) : Prop := ∀ c ∈ rest.head?, c = ',' ∨ c = ']' ∨ c = '}'

theorem atBreak_nil : AtBreak [] := by
  intro c hc
  cases hc

theorem atBreak_cons {c : Char} (h : c = ',' ∨ c = ']' ∨ c = '}') (rest : Text) :
    AtBreak (c :: rest) := by
  intro d hd
  obtain rfl := Option.some.inj hd
  exact h

section Break

variable {rest : Text}

theorem takeWhile_isDigit_of_atBreak (h : AtBreak rest) : rest.takeWhile isDigit = [] := by
  cases rest with
  | nil => rfl
  | cons c rest =>
      have hc : isDigit c = false := by
        rcases h c rfl with rfl | rfl | rfl <;> decide
      rw [List.takeWhile_cons, hc]
      rfl

theorem dropWhile_isDigit_of_atBreak (h : AtBreak rest) : rest.dropWhile isDigit = rest := by
  have hsplit := List.takeWhile_append_dropWhile (p := isDigit) (l := rest)
  rwa [takeWhile_isDigit_of_atBreak h] at hsplit

theorem fractionPart_of_atBreak (h : AtBreak rest) : fractionPart rest = ([], rest) := by
  unfold fractionPart
  split
  · next c => rcases h '.' rfl with h | h | h <;> cases h
  · rfl

theorem exponentPart_of_atBreak (h : AtBreak rest) : exponentPart rest = (none, rest) := by
  unfold exponentPart
  split
  · next c rest =>
      rw [if_neg]
      rcases h c rfl with rfl | rfl | rfl <;> decide
  · rfl

theorem wholePart?_decimal (h : AtBreak rest) (n : Nat) :
    wholePart? (Numeral.decimal n ++ rest) = some (Numeral.decimal n, rest) := by
  have hdigits : ∀ c ∈ Numeral.decimal n, isDigit c = true :=
    fun c hc => Numeral.isDigit_of_mem_decimal hc
  unfold wholePart?
  split
  · next other hzero =>
      -- a text that starts with a zero is that of zero
      rcases Nat.eq_zero_or_pos n with rfl | hpos
      · have : Numeral.decimal 0 = ['0'] := by cbv
        rw [this] at hzero ⊢
        obtain ⟨_, rfl⟩ := List.cons.inj hzero
        rfl
      · have hhead := congrArg List.head? hzero
        rw [List.head?_append_of_ne_nil _ (Numeral.decimal_ne_nil n)] at hhead
        exact absurd hhead (Numeral.head?_decimal_ne_zero hpos)
  · rw [List.takeWhile_append_of_pos hdigits, List.dropWhile_append_of_pos hdigits,
      takeWhile_isDigit_of_atBreak h, dropWhile_isDigit_of_atBreak h, List.append_nil,
      if_neg (by simpa using Numeral.decimal_ne_nil n)]

/-- What is read of a whole number: its value, unless there are too many digits. -/
def wholeNumber (n : Int) : Except Miss Json :=
  if Numeral.maxDigits < (Numeral.decimal n.natAbs).length then
    .error (.oversized (Numeral.decimal n.natAbs).length)
  else .ok (int n)

theorem readNumber?_decimalInt (h : AtBreak rest) (n : Int) :
    readNumber? (Numeral.decimalInt n ++ rest) = some (wholeNumber n, rest) := by
  have hwhole := wholePart?_decimal h n.natAbs
  unfold Numeral.decimalInt wholeNumber
  by_cases hn : n < 0
  · rw [if_pos hn]
    have hvalue : -Int.ofNat n.natAbs = n := by
      show -((n.natAbs : Nat) : Int) = n
      omega
    show readNumber? ('-' :: (Numeral.decimal n.natAbs ++ rest)) = _
    unfold readNumber?
    simp only [hwhole, fractionPart_of_atBreak h, exponentPart_of_atBreak h, List.isEmpty_nil,
      Option.isNone_none, Bool.and_self, if_true, Numeral.natOf_decimal, hvalue]
    split <;> rfl
  · rw [if_neg hn]
    have hvalue : Int.ofNat n.natAbs = n := by
      show ((n.natAbs : Nat) : Int) = n
      omega
    have hsign : ∀ u, Numeral.decimal n.natAbs ++ rest ≠ '-' :: u := by
      intro u hu
      have hhead := congrArg List.head? hu
      rw [List.head?_append_of_ne_nil _ (Numeral.decimal_ne_nil _)] at hhead
      have := Numeral.isDigit_of_mem_decimal (List.mem_of_head? hhead)
      revert this
      decide
    unfold readNumber?
    split
    next negative unsigned heq =>
    split at heq
    · next u hu => exact absurd hu (hsign u)
    · cases heq
      simp only [hwhole, fractionPart_of_atBreak h, exponentPart_of_atBreak h, List.isEmpty_nil,
        Option.isNone_none, Bool.and_self, if_true, Numeral.natOf_decimal, hvalue]
      split <;> rfl

/-- No word starts like a whole number. -/
theorem readWord?_decimalInt (n : Int) (rest : Text) :
    readWord? (Numeral.decimalInt n ++ rest) = none := by
  have hdigit : ∀ c, isDigit c = true → ∀ d ∈ ['n', 't', 'f', 'N', 'I', '-'], d ≠ c := by
    rintro c hc d hd rfl
    fin_cases hd <;> cases hc
  obtain ⟨c, digits, hdecimal⟩ := List.exists_cons_of_ne_nil (Numeral.decimal_ne_nil n.natAbs)
  have hc : isDigit c = true :=
    Numeral.isDigit_of_mem_decimal (by rw [hdecimal]; exact List.mem_cons_self)
  have hne := hdigit c hc
  unfold Numeral.decimalInt
  rw [hdecimal]
  split
  · simp_all [readWord?, words, List.isPrefixOf?]
  · simp_all [readWord?, words, List.isPrefixOf?]

theorem readScalar_decimalInt (h : AtBreak rest) (n : Int) :
    readScalar (Numeral.decimalInt n ++ rest) = (wholeNumber n).map (·, rest) := by
  unfold readScalar
  rw [readWord?_decimalInt, readNumber?_decimalInt h]
  cases wholeNumber n <;> rfl

end Break

/-! ## Strings -/

theorem hexValue?_hexDigit {d : Nat} (h : d < 16) : hexValue? (Text.hexDigit d) = some d := by
  have hall : ∀ d < 16, hexValue? (Text.hexDigit d) = some d := by decide
  exact hall d h

/-- A character is no half of a pair. -/
theorem isUnit_toNat (c : Char) :
    Text.isHighUnit c.toNat = false ∧ Text.isLowUnit c.toNat = false := by
  have hvalid : c.toNat < 0xD800 ∨ 0xDFFF < c.toNat ∧ c.toNat < 0x110000 := c.valid
  unfold Text.isHighUnit Text.isLowUnit
  constructor
  · rw [Bool.and_eq_false_iff, decide_eq_false_iff_not, decide_eq_false_iff_not]
    omega
  · rw [Bool.and_eq_false_iff, decide_eq_false_iff_not, decide_eq_false_iff_not]
    omega

/-- Only the first half of a pair is joined with what follows. -/
theorem joinUnit_of_not_high {unit : Nat} (h : Text.isHighUnit unit = false) (paired : Bool)
    (points : List Nat) : joinUnit paired unit points = unit :: points := by
  cases points with
  | nil => rfl
  | cons low points => simp [joinUnit, h]

section Points

variable (opening : Nat) {u : Text}

theorem stringPoints_short {e : Char} {point : Nat} (he : e ≠ 'u')
    (hpoint : shortEscape? e = some point) :
    stringPoints noHalf opening ('\\' :: e :: u) =
      (stringPoints noHalf opening u).map (Prod.map (point :: ·) id) := by
  rw [stringPoints, hpoint]
  · cases stringPoints noHalf opening u <;> rfl
  · exact fun _ _ _ _ _ _ h => absurd h he
  · exact he

theorem stringPoints_hex {a b c d : Char} {unit : Nat} (hu : u ≠ [])
    (hunit : hex4? a b c d = some unit) (hhigh : Text.isHighUnit unit = false) :
    stringPoints noHalf opening ('\\' :: 'u' :: a :: b :: c :: d :: u) =
      (stringPoints noHalf opening u).map (Prod.map (unit :: ·) id) := by
  obtain ⟨e, rest, rfl⟩ := List.exists_cons_of_ne_nil hu
  rw [stringPoints, hunit]
  simp only [joinUnit_of_not_high hhigh]
  cases stringPoints noHalf opening (e :: rest) <;> rfl

theorem stringPoints_plain {c : Char} (hslash : c ≠ '\\') (hmark : c ≠ Text.quotationMark)
    (hcontrol : ¬ c.toNat < 0x20) :
    stringPoints noHalf opening (c :: u) =
      (stringPoints noHalf opening u).map (Prod.map (c.toNat :: ·) id) := by
  rw [stringPoints, if_neg hmark, if_neg hcontrol]
  · cases stringPoints noHalf opening u <;> rfl
  · exact fun _ _ _ _ _ _ h _ => absurd h hslash
  · exact fun _ h _ => absurd h hslash
  · exact fun h _ => absurd h hslash
  · exact fun _ _ h _ => absurd h hslash

/-- The four digits that are written for a number are read as it. -/
theorem hex4?_hex {n : Nat} (h : n < 0x10000) :
    ∃ a b c d, Text.hex 4 n = [a, b, c, d] ∧ hex4? a b c d = some n := by
  refine ⟨_, _, _, _, rfl, ?_⟩
  have hdigit : ∀ m, hexValue? (Text.hexDigit (m % 16)) = some (m % 16) :=
    fun m => hexValue?_hexDigit (Nat.mod_lt m (by decide))
  unfold hex4?
  rw [hdigit, hdigit, hdigit, hdigit]
  refine congrArg some ?_
  show ((n / 16 / 16 / 16 % 16 * 16 + n / 16 / 16 % 16) * 16 + n / 16 % 16) * 16 + n % 16 = n
  omega

/-- A character is read from what is written for it. -/
theorem stringPoints_printChar (c : Char) (hu : u ≠ []) :
    stringPoints noHalf opening (printChar c ++ u) =
      (stringPoints noHalf opening u).map (Prod.map (c.toNat :: ·) id) := by
  unfold printChar
  split
  · next hc =>
      rcases hc with rfl | rfl
      · exact stringPoints_short opening (by decide) (by decide)
      · exact stringPoints_short opening (by decide) (by decide)
  · next hc =>
      obtain ⟨hmark, hslash⟩ := not_or.mp hc
      split
      · next hfeed =>
          subst hfeed
          exact stringPoints_short opening (by decide) (by decide)
      · split
        · next hreturn =>
            subst hreturn
            exact stringPoints_short opening (by decide) (by decide)
        · split
          · next htab =>
              subst htab
              exact stringPoints_short opening (by decide) (by decide)
          · split
            · next hcontrol =>
                obtain ⟨a, b, d, e, hhex, hunit⟩ := hex4?_hex (Nat.lt_trans hcontrol (by decide))
                rw [hhex]
                exact stringPoints_hex opening hu hunit (isUnit_toNat c).1
            · next hcontrol => exact stringPoints_plain opening hslash hmark hcontrol

end Points

theorem stringPoints_flatMap (opening : Nat) (t rest : Text) :
    stringPoints noHalf opening (t.flatMap printChar ++ Text.quotationMark :: rest) =
      .ok (t.map (·.toNat), rest) := by
  induction t with
  | nil => rfl
  | cons c t ih =>
      rw [List.flatMap_cons, List.append_assoc, stringPoints_printChar _ _ (by simp), ih]
      rfl

theorem ofPoints_map_toNat (t : Text) : Phrase.ofPoints (t.map (·.toNat)) = .text t := by
  have hwhole : ¬ (t.map (·.toNat)).any Text.isHalf = true := by
    simp only [List.any_map, List.any_eq_true, not_exists, not_and, Function.comp_apply]
    intro c _
    simp [Text.isHalf, isUnit_toNat c]
  have hchars : (t.map (·.toNat)).map Char.ofNat = t := by
    rw [List.map_map]
    exact List.map_id'' Char.ofNat_toNat t
  unfold Phrase.ofPoints
  rw [dif_neg hwhole, hchars]

theorem readString_flatMap (opening : Nat) (t rest : Text) :
    readString noHalf opening (t.flatMap printChar ++ Text.quotationMark :: rest) =
      .ok (.text t, rest) := by
  unfold readString
  rw [stringPoints_flatMap]
  show Except.ok (Phrase.ofPoints (t.map (·.toNat)), rest) = _
  rw [ofPoints_map_toNat]

/-! ## Values of one piece -/

/-- A value whose text is read as the value wherever it stands, given the depth of containers that
it has, and two steps for each character. -/
structure Legible (depth : Nat) (v : Json) : Prop where
  /-- The text starts neither with white space nor with the end of an array. -/
  opens : ∃ c t, v.print = c :: t ∧ isGap c = false ∧ c ≠ ']'
  reads : ∀ {budget room : Nat} {rest : Text}, 2 * v.print.length ≤ budget → depth ≤ room →
    AtBreak rest → readValue noHalf budget room (v.print ++ rest) = .ok (v, rest)

theorem skipGap_cons {c : Char} (h : isGap c = false) (t : Text) : skipGap (c :: t) = c :: t := by
  unfold skipGap
  rw [List.dropWhile_cons, h]
  rfl

theorem Legible.mono {depth depth' : Nat} {v : Json} (h : v.Legible depth) (hle : depth ≤ depth') :
    v.Legible depth' where
  opens := h.opens
  reads := fun hbudget hroom hrest => h.reads hbudget (Nat.le_trans hle hroom) hrest

theorem Legible.skipGap_print_append {depth : Nat} {v : Json} (h : v.Legible depth) (rest : Text) :
    skipGap (v.print ++ rest) = v.print ++ rest := by
  obtain ⟨c, t, hprint, hgap, _⟩ := h.opens
  rw [hprint]
  exact skipGap_cons hgap (t ++ rest)

section Cases

variable {budget room : Nat}

theorem readValue_string (t : Text) :
    readValue noHalf (budget + 1) room (Text.quotationMark :: t) =
      (readString noHalf (t.length + 1) t).map fun (value, rest) => (ofPhrase value, rest) := by
  rw [readValue.eq_def]
  simp only [if_true]
  cases readString noHalf (t.length + 1) t <;> rfl

theorem readValue_scalar {c : Char} (hmark : c ≠ Text.quotationMark) (harray : c ≠ '[')
    (hobject : c ≠ '{') (t : Text) :
    readValue noHalf (budget + 1) room (c :: t) = readScalar (c :: t) := by
  rw [readValue.eq_def]
  simp only [if_neg hmark, if_neg harray, if_neg hobject]

theorem readValue_array_nil (t : Text) :
    readValue noHalf (budget + 1) (room + 1) ('[' :: ']' :: t) = .ok (array [], t) := by
  rw [readValue.eq_def]
  rfl

theorem readValue_array {c : Char} (hgap : isGap c = false) (hc : c ≠ ']') (t : Text) :
    readValue noHalf (budget + 1) (room + 1) ('[' :: c :: t) =
      (readItems noHalf budget room (c :: t)).map fun (items, rest) => (array items, rest) := by
  rw [readValue.eq_def]
  simp only [skipGap_cons hgap]
  rw [if_neg (by decide), if_pos trivial]
  split
  · omega
  · next heq => exact absurd (List.cons.inj heq).1 hc
  · next heq _ =>
      cases heq
      cases readItems noHalf budget room (c :: t) <;> rfl

theorem readValue_object {c : Char} (hgap : isGap c = false) (hc : c ≠ '}') (t : Text) :
    readValue noHalf (budget + 1) (room + 1) ('{' :: c :: t) =
      (readFields noHalf budget room [] (c :: t)).map fun (fields, rest) =>
        (object fields, rest) := by
  rw [readValue.eq_def]
  simp only [skipGap_cons hgap]
  rw [if_neg (by decide), if_neg (by decide), if_pos trivial]
  split
  · omega
  · next heq => exact absurd (List.cons.inj heq).1 hc
  · next heq _ =>
      cases heq
      cases readFields noHalf budget room [] (c :: t) <;> rfl

end Cases

theorem legible_null : Legible 0 null where
  opens := ⟨'n', _, rfl, by decide, by decide⟩
  reads := by
    intro budget room rest hbudget _ _
    obtain ⟨budget, rfl⟩ : ∃ b, budget = b + 1 := ⟨budget - 1, by
      have : 2 * 4 ≤ budget := hbudget
      omega⟩
    show readValue noHalf (budget + 1) room ('n' :: ("ull".toList ++ rest)) = _
    rw [readValue_scalar (by decide) (by decide) (by decide)]
    rfl

theorem legible_str (t : Text) : Legible 0 (str t) where
  opens := ⟨Text.quotationMark, _, rfl, by decide, by decide⟩
  reads := by
    intro budget room rest hbudget _ _
    obtain ⟨budget, rfl⟩ : ∃ b, budget = b + 1 := ⟨budget - 1, by
      have : (printString t).length ≠ 0 := by simp [printString]
      change 2 * (printString t).length ≤ budget at hbudget
      omega⟩
    show readValue noHalf (budget + 1) room
      (Text.quotationMark :: (t.flatMap printChar ++ [Text.quotationMark] ++ rest)) = _
    rw [readValue_string, List.append_assoc, List.singleton_append, readString_flatMap]
    rfl

theorem legible_ofText? (t : Option Text) : Legible 0 (ofText? t) := by
  cases t with
  | none => exact legible_null
  | some t => exact legible_str t

theorem toNat_of_mem_decimalInt {n : Int} {c : Char} (h : c ∈ Numeral.decimalInt n) :
    0x2D ≤ c.toNat ∧ c.toNat ≤ 0x39 := by
  have hdigit : c ∈ Numeral.decimal n.natAbs → 0x2D ≤ c.toNat ∧ c.toNat ≤ 0x39 := by
    intro hc
    have hd := Numeral.isDigit_of_mem_decimal hc
    simp only [isDigit, Bool.and_eq_true, decide_eq_true_eq] at hd
    omega
  unfold Numeral.decimalInt at h
  split at h
  · rcases List.mem_cons.mp h with rfl | h
    · decide
    · exact hdigit h
  · exact hdigit h

theorem decimalInt_ne_nil (n : Int) : Numeral.decimalInt n ≠ [] := by
  unfold Numeral.decimalInt
  split
  · exact List.cons_ne_nil _ _
  · exact Numeral.decimal_ne_nil _

theorem readValue_int {budget room : Nat} {rest : Text} (h : AtBreak rest) (n : Int) :
    readValue noHalf (budget + 1) room ((int n).print ++ rest) = (wholeNumber n).map (·, rest) := by
  obtain ⟨c, t, ht⟩ := List.exists_cons_of_ne_nil (decimalInt_ne_nil n)
  have hc := toNat_of_mem_decimalInt (n := n) (c := c) (by rw [ht]; exact List.mem_cons_self)
  have hother : ∀ d, ¬ (0x2D ≤ d.toNat ∧ d.toNat ≤ 0x39) → c ≠ d := by
    rintro d hd rfl
    exact hd hc
  have hscalar := readScalar_decimalInt h n
  show readValue noHalf (budget + 1) room (Numeral.decimalInt n ++ rest) = _
  rw [ht] at hscalar ⊢
  rw [← hscalar]
  exact readValue_scalar (hother _ (by decide)) (hother _ (by decide)) (hother _ (by decide)) _

theorem isGap_eq_false {c : Char} (h : 0x20 < c.toNat) : isGap c = false := by
  rw [← Bool.not_eq_true]
  simp only [isGap, Bool.or_eq_true, beq_iff_eq, not_or]
  refine ⟨⟨⟨?_, ?_⟩, ?_⟩, ?_⟩ <;> rintro rfl <;> exact absurd h (by decide)

theorem opens_int (n : Int) : ∃ c t, (int n).print = c :: t ∧ isGap c = false ∧ c ≠ ']' := by
  obtain ⟨c, t, ht⟩ := List.exists_cons_of_ne_nil (decimalInt_ne_nil n)
  have hc := toNat_of_mem_decimalInt (n := n) (c := c) (by rw [ht]; exact List.mem_cons_self)
  refine ⟨c, t, ht, isGap_eq_false (by omega), ?_⟩
  rintro rfl
  exact absurd hc (by decide)

theorem legible_int {n : Int} (h : (Numeral.decimal n.natAbs).length ≤ Numeral.maxDigits) :
    Legible 0 (int n) where
  opens := opens_int n
  reads := by
    intro budget room rest hbudget _ hrest
    have hpos : 0 < (int n).print.length := List.length_pos_iff.mpr (decimalInt_ne_nil n)
    obtain ⟨budget, rfl⟩ : ∃ b, budget = b + 1 := ⟨budget - 1, by omega⟩
    rw [readValue_int hrest]
    unfold wholeNumber
    rw [if_neg (by omega)]
    rfl

/-! ## Arrays -/

section Array

variable {budget room : Nat} {v : Json} {t rest : Text}

theorem readItems_of_last (h : readValue noHalf budget room t = .ok (v, ']' :: rest)) :
    readItems noHalf (budget + 1) room t = .ok ([v], rest) := by
  rw [readItems, h]
  rfl

theorem readItems_of_comma (h : readValue noHalf budget room t = .ok (v, ',' :: rest)) :
    readItems noHalf (budget + 1) room t =
      (readItems noHalf budget room (skipGap rest)).map fun (items, rest) =>
        (v :: items, rest) := by
  rw [readItems, h]
  show (readItems noHalf budget room (skipGap rest) >>= fun x => pure (v :: x.1, x.2)) = _
  cases readItems noHalf budget room (skipGap rest) <;> rfl

end Array

theorem print_array (items : List Json) :
    (array items).print = '[' :: (printItems items ++ [']']) := rfl

theorem printItems_singleton (v : Json) : printItems [v] = v.print := rfl

theorem printItems_cons_cons (v w : Json) (items : List Json) :
    printItems (v :: w :: items) = v.print ++ ',' :: printItems (w :: items) := rfl

theorem Legible.opens_printItems {depth : Nat} {v : Json} (h : v.Legible depth)
    (items : List Json) : ∃ c t, printItems (v :: items) = c :: t ∧ isGap c = false ∧ c ≠ ']' := by
  obtain ⟨c, t, hprint, hc⟩ := h.opens
  cases items with
  | nil => exact ⟨c, t, hprint, hc⟩
  | cons w items =>
      exact ⟨c, t ++ ',' :: printItems (w :: items), by rw [printItems_cons_cons, hprint]; rfl, hc⟩

theorem readItems_printItems {depth : Nat} {items : List Json} (hne : items ≠ [])
    (h : ∀ v ∈ items, v.Legible depth) {budget room : Nat}
    (hbudget : 2 * (printItems items).length + 1 ≤ budget) (hroom : depth ≤ room) (rest : Text) :
    readItems noHalf budget room (printItems items ++ ']' :: rest) = .ok (items, rest) := by
  induction items generalizing budget with
  | nil => exact absurd rfl hne
  | cons v items ih =>
      obtain ⟨budget, rfl⟩ : ∃ b, budget = b + 1 := ⟨budget - 1, by omega⟩
      have hv := h v List.mem_cons_self
      cases items with
      | nil =>
          rw [printItems_singleton] at hbudget ⊢
          exact readItems_of_last (hv.reads (by omega) hroom (atBreak_cons (by decide) rest))
      | cons w items =>
          have hw := h w (List.mem_cons_of_mem v List.mem_cons_self)
          obtain ⟨c, t, hopens, hgap, _⟩ := hw.opens_printItems items
          rw [printItems_cons_cons, List.length_append, List.length_cons] at hbudget
          have hskip : skipGap (printItems (w :: items) ++ ']' :: rest) =
              printItems (w :: items) ++ ']' :: rest := by
            rw [hopens]
            exact skipGap_cons hgap _
          rw [printItems_cons_cons, List.append_assoc, List.cons_append,
            readItems_of_comma (hv.reads (by omega) hroom (atBreak_cons (by decide) _)), hskip,
            ih (by simp) (fun u hu => h u (List.mem_cons_of_mem v hu)) (by omega)]
          rfl

theorem legible_array {depth : Nat} {items : List Json} (h : ∀ v ∈ items, v.Legible depth) :
    Legible (depth + 1) (array items) where
  opens := ⟨'[', _, rfl, by decide, by decide⟩
  reads := by
    intro budget room rest hbudget hroom _
    rw [print_array, List.length_cons, List.length_append, List.length_singleton] at hbudget
    obtain ⟨budget, rfl⟩ : ∃ b, budget = b + 1 := ⟨budget - 1, by omega⟩
    obtain ⟨room, rfl⟩ : ∃ r, room = r + 1 := ⟨room - 1, by omega⟩
    rw [print_array, List.cons_append, List.append_assoc, List.singleton_append]
    cases items with
    | nil => exact readValue_array_nil rest
    | cons v items =>
        obtain ⟨c, t, hopens, hgap, hc⟩ := (h v List.mem_cons_self).opens_printItems items
        have hread : readItems noHalf budget room (printItems (v :: items) ++ ']' :: rest) =
            .ok (v :: items, rest) :=
          readItems_printItems (by simp) h (by omega) (by omega) rest
        rw [hopens] at hread ⊢
        rw [List.cons_append, readValue_array hgap hc, ← List.cons_append, hread]
        rfl

/-! ## Objects -/

theorem putField_of_not_mem {fields : List (Phrase × Json)} {key : Phrase}
    (h : key ∉ fields.map (·.1)) (value : Json) :
    putField fields key value = fields ++ [(key, value)] := by
  unfold putField
  rw [if_neg]
  simp only [List.any_eq_true, beq_iff_eq, not_exists, not_and]
  intro f hf hkey
  exact h (List.mem_map.mpr ⟨f, hf, hkey⟩)

theorem readName_printString (key : Text) {rest : Text} (h : skipGap rest = rest) :
    readName noHalf (printString key ++ ':' :: rest) = .ok (.text key, rest) := by
  show readName noHalf (Text.quotationMark :: (key.flatMap printChar ++ [Text.quotationMark]
    ++ ':' :: rest)) = _
  unfold readName
  simp only [if_true]
  rw [List.append_assoc, List.singleton_append, readString_flatMap]
  show Except.ok (Phrase.text key, skipGap rest) = _
  rw [h]

section Object

variable {budget room : Nat} {before : List (Phrase × Json)} {key : Phrase} {t value rest : Text}
  {v : Json}

theorem readFields_of_last (hname : readName noHalf t = .ok (key, value))
    (h : readValue noHalf budget room value = .ok (v, '}' :: rest)) :
    readFields noHalf (budget + 1) room before t =
      .ok (putField before key v, rest) := by
  rw [readFields, hname]
  show (readValue noHalf budget room value >>= _) = _
  rw [h]
  rfl

theorem readFields_of_comma (hname : readName noHalf t = .ok (key, value))
    (h : readValue noHalf budget room value = .ok (v, ',' :: rest)) :
    readFields noHalf (budget + 1) room before t =
      readFields noHalf budget room (putField before key v) (skipGap rest) := by
  rw [readFields, hname]
  show (readValue noHalf budget room value >>= _) = _
  rw [h]
  rfl

end Object

theorem print_object (fields : List (Phrase × Json)) :
    (object fields).print = '{' :: (printFields fields ++ ['}']) := rfl

theorem printFields_singleton (f : Phrase × Json) :
    printFields [f] = printPhrase f.1 ++ ':' :: f.2.print := rfl

theorem printFields_cons_cons (f g : Phrase × Json) (fields : List (Phrase × Json)) :
    printFields (f :: g :: fields) =
      printPhrase f.1 ++ ':' :: (f.2.print ++ ',' :: printFields (g :: fields)) := rfl

theorem opens_printFields (f : Phrase × Json) (fields : List (Phrase × Json)) :
    ∃ t, printFields (f :: fields) = Text.quotationMark :: t := by
  obtain ⟨t, ht⟩ : ∃ t, printPhrase f.1 = Text.quotationMark :: t := by
    cases f.1 <;> exact ⟨_, rfl⟩
  cases fields with
  | nil => exact ⟨_, by rw [printFields_singleton, ht]; rfl⟩
  | cons g fields => exact ⟨_, by rw [printFields_cons_cons, ht]; rfl⟩

theorem readFields_printFields {depth : Nat} (before : List (Phrase × Json))
    {fields : List (Phrase × Json)} (hne : fields ≠ [])
    (hkeys : ((before ++ fields).map (·.1)).Nodup) (hnames : ∀ f ∈ fields, ∃ t, f.1 = .text t)
    (h : ∀ f ∈ fields, f.2.Legible depth) {budget room : Nat}
    (hbudget : 2 * (printFields fields).length + 1 ≤ budget) (hroom : depth ≤ room) (rest : Text) :
    readFields noHalf budget room before (printFields fields ++ '}' :: rest) =
      .ok (before ++ fields, rest) := by
  induction fields generalizing before budget with
  | nil => exact absurd rfl hne
  | cons f fields ih =>
      obtain ⟨budget, rfl⟩ : ∃ b, budget = b + 1 := ⟨budget - 1, by omega⟩
      have hf := h f List.mem_cons_self
      have hkey : f.1 ∉ before.map (·.1) := by
        rw [List.map_append, List.nodup_append] at hkeys
        intro hmem
        exact hkeys.2.2 _ hmem _ List.mem_cons_self rfl
      have hput : putField before f.1 f.2 = before ++ [f] := putField_of_not_mem hkey f.2
      have hname : ∀ rest, skipGap rest = rest →
          readName noHalf (printPhrase f.1 ++ ':' :: rest) = .ok (f.1, rest) := by
        intro rest hrest
        obtain ⟨t, ht⟩ := hnames f List.mem_cons_self
        rw [ht]
        exact readName_printString t hrest
      cases fields with
      | nil =>
          rw [printFields_singleton, List.length_append, List.length_cons] at hbudget
          rw [printFields_singleton, List.append_assoc, List.cons_append,
            readFields_of_last (hname _ (hf.skipGap_print_append _))
              (hf.reads (by omega) hroom (atBreak_cons (by decide) rest)), hput]
      | cons g fields =>
          obtain ⟨t, hopens⟩ := opens_printFields g fields
          have hskip : skipGap (printFields (g :: fields) ++ '}' :: rest) =
              printFields (g :: fields) ++ '}' :: rest := by
            rw [hopens]
            exact skipGap_cons (by decide) _
          rw [printFields_cons_cons, List.length_append, List.length_cons, List.length_append,
            List.length_cons] at hbudget
          rw [printFields_cons_cons, List.append_assoc, List.cons_append, List.append_assoc,
            List.cons_append,
            readFields_of_comma (hname _ (hf.skipGap_print_append _))
              (hf.reads (by omega) hroom (atBreak_cons (by decide) _)), hput, hskip,
            ih _ (by simp) (by simpa using hkeys)
              (fun k hk => hnames k (List.mem_cons_of_mem f hk))
              (fun k hk => h k (List.mem_cons_of_mem f hk)) (by omega)]
          rw [List.append_assoc, List.singleton_append]

theorem legible_object {depth : Nat} {names : List Text} (hnodup : names.Nodup)
    {fields : List (Phrase × Json)} (hne : fields ≠ [])
    (hnames : fields.map (·.1) = names.map .text) (h : ∀ f ∈ fields, f.2.Legible depth) :
    Legible (depth + 1) (object fields) where
  opens := ⟨'{', _, rfl, by decide, by decide⟩
  reads := by
    intro budget room rest hbudget hroom _
    rw [print_object, List.length_cons, List.length_append, List.length_singleton] at hbudget
    obtain ⟨budget, rfl⟩ : ∃ b, budget = b + 1 := ⟨budget - 1, by omega⟩
    obtain ⟨room, rfl⟩ : ∃ r, room = r + 1 := ⟨room - 1, by omega⟩
    have hkeys : (fields.map (·.1)).Nodup := by
      rw [hnames]
      exact hnodup.map fun _ _ => Phrase.text.inj
    have htexts : ∀ f ∈ fields, ∃ t, f.1 = .text t := by
      intro f hf
      have hmem := List.mem_map_of_mem (f := (·.1)) hf
      rw [hnames] at hmem
      obtain ⟨t, _, ht⟩ := List.mem_map.mp hmem
      exact ⟨t, ht.symm⟩
    have hread : readFields noHalf budget room [] (printFields fields ++ '}' :: rest) =
        .ok (fields, rest) :=
      readFields_printFields [] hne hkeys htexts h (by omega) (by omega) rest
    obtain ⟨f, fields, rfl⟩ := List.exists_cons_of_ne_nil hne
    obtain ⟨t, hopens⟩ := opens_printFields f fields
    rw [print_object, List.cons_append, List.append_assoc, List.singleton_append]
    rw [hopens] at hread ⊢
    rw [List.cons_append, readValue_object (by decide) (by decide), ← List.cons_append, hread]
    rfl

/-! ## Whole texts -/

theorem encodeChar_ascii {c : Char} (h : 0 < c.toNat ∧ c.toNat < 0x80) :
    ∃ b, b ≠ 0 ∧ Text.Utf8.encodeChar c = [b] := by
  refine ⟨UInt8.ofNat c.toNat, ?_, if_pos h.2⟩
  intro hzero
  have hn := congrArg UInt8.toNat hzero
  rw [UInt8.toNat_ofNat', Nat.mod_eq_of_lt (by omega)] at hn
  exact absurd hn (by
    show c.toNat ≠ 0
    omega)

theorem detect?_of_ne_zero {first second : UInt8} (hfirst : first ≠ 0) (hsecond : second ≠ 0)
    (rest : Text.Bytes) : Wide.detect? (first :: second :: rest) = none := by
  unfold Wide.detect?
  split <;> simp_all

/-- Two characters of ASCII at the start rule out the wide encodings and a byte order mark. -/
theorem decode_of_ascii {t : Text} (h : ∀ c ∈ t.take 2, 0 < c.toNat ∧ c.toNat < 0x80) :
    decode t = .ok (.ofText t) := by
  have hdetect : Wide.detect? (Text.Utf8.encode (t.take 4)) = none := by
    match t, h with
    | [], _ => rfl
    | [c], h =>
        obtain ⟨b, _, hb⟩ := encodeChar_ascii (h c (by simp))
        show Wide.detect? (Text.Utf8.encodeChar c ++ []) = none
        rw [hb]
        unfold Wide.detect?
        split <;> simp_all
    | c :: d :: t, h =>
        obtain ⟨b, hzero, hb⟩ := encodeChar_ascii (h c (by simp))
        obtain ⟨b', hzero', hb'⟩ := encodeChar_ascii (h d (by simp))
        show Wide.detect? (Text.Utf8.encodeChar c ++ (Text.Utf8.encodeChar d
          ++ Text.Utf8.encode (t.take 2))) = none
        rw [hb, hb']
        exact detect?_of_ne_zero hzero hzero' _
  have hmark : dropMark t = t := by
    cases t with
    | nil => rfl
    | cons c t =>
        have hc := h c (by simp)
        show (if c.toNat = 0xFEFF then t else c :: t) = c :: t
        rw [if_neg (by omega)]
  unfold decode
  rw [hdetect]
  show Except.ok (Source.ofText (dropMark t)) = _
  rw [hmark]

theorem read_of_ascii {t : Text} (h : ∀ c ∈ t.take 2, 0 < c.toNat ∧ c.toNat < 0x80)
    (room : Nat) : read room t = (readWhole room (.ofText t)).mapError (·.inText t) := by
  unfold read
  rw [decode_of_ascii h]
  rfl

/-- What is written for a value is read as it. -/
theorem Legible.readWhole_print {depth room : Nat} {v : Json} (h : v.Legible depth)
    (hroom : depth ≤ room) : readWhole room (.ofText v.print) = .ok v := by
  have hvalue : readValue noHalf (2 * v.print.length + 2) room (v.print ++ []) = .ok (v, []) :=
    h.reads (by omega) hroom atBreak_nil
  have hskip := h.skipGap_print_append []
  rw [List.append_nil] at hvalue hskip
  show (readValue noHalf (2 * v.print.length + 2) room (skipGap v.print) >>= _) = _
  rw [hskip, hvalue]
  rfl

theorem read_print_object {depth room : Nat} {names : List Text} (hnodup : names.Nodup)
    {fields : List (Phrase × Json)} (hne : fields ≠ [])
    (hnames : fields.map (·.1) = names.map .text) (h : ∀ f ∈ fields, f.2.Legible depth)
    (hroom : depth < room) : read room (object fields).print = .ok (object fields) := by
  have hascii : ∀ c ∈ (object fields).print.take 2, 0 < c.toNat ∧ c.toNat < 0x80 := by
    obtain ⟨f, fields, rfl⟩ := List.exists_cons_of_ne_nil hne
    obtain ⟨t, hopens⟩ := opens_printFields f fields
    rw [print_object, hopens]
    show ∀ c ∈ ['{', Text.quotationMark], _
    simp [Text.quotationMark]
  rw [read_of_ascii hascii, (legible_object hnodup hne hnames h).readWhole_print hroom]
  rfl

/-- A whole number is read back exactly if its digits keep the bound. -/
theorem read_print_int_iff (room : Nat) (n : Int) :
    read room (int n).print = .ok (int n) ↔
      (Numeral.decimal n.natAbs).length ≤ Numeral.maxDigits := by
  have hascii : ∀ c ∈ (int n).print.take 2, 0 < c.toNat ∧ c.toNat < 0x80 := by
    intro c hc
    have := toNat_of_mem_decimalInt (n := n) (List.mem_of_mem_take hc)
    omega
  rw [read_of_ascii hascii]
  constructor
  · intro h
    by_contra hdigits
    have hvalue : readValue noHalf (2 * (int n).print.length + 2) room ((int n).print ++ []) =
        (wholeNumber n).map (·, []) := readValue_int atBreak_nil n
    unfold wholeNumber at hvalue
    rw [if_pos (by omega), List.append_nil] at hvalue
    obtain ⟨c, t, hprint, hgap, _⟩ := opens_int n
    have hskip : skipGap (int n).print = (int n).print := by
      rw [hprint]
      exact skipGap_cons hgap t
    change Except.mapError _ (readValue noHalf (2 * (int n).print.length + 2) room
      (skipGap (int n).print) >>= _) = _ at h
    rw [hskip, hvalue] at h
    cases h
  · intro h
    rw [(legible_int h).readWhole_print (Nat.zero_le _)]
    rfl

end Json

end LineJoin
