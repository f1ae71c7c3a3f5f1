import LineJoin.Numeral
import LineJoin.Proofs.Text.Trimming
import Mathlib.Data.Nat.Digits.Defs

/-!
# What a numeral is

The grammar of whole numbers, said without a reader: digits of any script, of which each may be
followed by one underscore if another digit comes next, a sign before them, and white space around.
`read?_eq_some_iff` says that exactly these texts are read, each as the number that it stands for.

No character of a numeral is blank, so whatever is blank around it can be told apart from it. White
space is less than what is blank: the information separators are blank and yet not skipped.

A number that is written in decimal is a numeral for itself, as long as it is short enough to be
read (`isNumeral_decimal`).
-/

namespace LineJoin

namespace Text

/-! ## Cutting both ends -/

/-- A text of characters of one class. -/
def Only (p : Char → Bool) (t : Text) : Prop := ∀ c ∈ t, p c = true

instance (p : Char → Bool) (t : Text) : Decidable (Only p t) := decidableForallMem _ t

variable {p : Char → Bool} {t pre post : Text}

theorem only_nil : Only p [] := fun _ hc => absurd hc List.not_mem_nil

theorem only_append {u : Text} (ht : Only p t) (hu : Only p u) : Only p (t ++ u) := by
  intro c hc
  rcases List.mem_append.mp hc with hc | hc
  · exact ht c hc
  · exact hu c hc

/-- What both ends lose is of the class that is cut. -/
theorem exists_only_around (p : Char → Bool) (t : Text) :
    ∃ pre post, Only p pre ∧ Only p post ∧ t = pre ++ ((t.dropWhile p).rdropWhile p ++ post) := by
  refine ⟨t.takeWhile p, (t.dropWhile p).rtakeWhile p, ?_, ?_, ?_⟩
  · intro c hc
    exact List.mem_takeWhile_imp hc
  · intro c hc
    exact List.mem_rtakeWhile_imp hc
  · rw [List.rdropWhile_append_rtakeWhile, List.takeWhile_append_dropWhile]

/-- All that is around a text is cut off if the text neither starts nor ends with such a
character. -/
theorem cut_around (hpre : Only p pre) (hpost : Only p post) (ht : t ≠ [])
    (hfirst : p (t.head ht) = false) (hlast : p (t.getLast ht) = false) :
    ((pre ++ (t ++ post)).dropWhile p).rdropWhile p = t := by
  have hstart : (pre ++ (t ++ post)).dropWhile p = t ++ post := by
    rw [List.dropWhile_append_of_pos hpre]
    cases t with
    | nil => exact absurd rfl ht
    | cons c cs => exact List.dropWhile_cons_of_neg (by simpa using hfirst)
  have hback : ∀ c ∈ post.reverse, p c = true := fun c hc => hpost c (List.mem_reverse.mp hc)
  have hkept : t.rdropWhile p = t := by
    rw [List.rdropWhile_eq_self_iff]
    intro _
    simpa using hlast
  rw [hstart, List.rdropWhile, List.reverse_append, List.dropWhile_append_of_pos hback]
  exact hkept

end Text

namespace Numeral

open Text

/-! ## Digits -/

/-- No digit of any script is blank. -/
theorem isBlank_of_digitValue? {c : Char} {d : Nat} (h : digitValue? c = some d) :
    isBlank c = false := by
  have htable : ∀ base ∈ digitZeros, ∀ k < 10, inRanges blankRanges (base + k) = false := by
    decide
  obtain ⟨base, hbase, _⟩ := Option.map_eq_some_iff.mp h
  have hfound := List.find?_some hbase
  simp only [Bool.and_eq_true, decide_eq_true_eq] at hfound
  have hclear := htable base (List.mem_of_find?_eq_some hbase) (c.toNat - base) (by omega)
  rwa [Nat.add_sub_cancel' hfound.1] at hclear

/-- Digits of any script with their values. A single underscore may stand between two digits. -/
inductive IsDigits : Text → List Nat → Prop
  | last {c : Char} {d : Nat} : digitValue? c = some d → IsDigits [c] [d]
  | next {c : Char} {d : Nat} {t : Text} {ds : List Nat} :
      digitValue? c = some d → IsDigits t ds → IsDigits (c :: t) (d :: ds)
  | apart {c : Char} {d : Nat} {t : Text} {ds : List Nat} :
      digitValue? c = some d → IsDigits t ds → IsDigits (c :: '_' :: t) (d :: ds)

variable {t : Text} {ds : List Nat}

theorem IsDigits.exists_cons (h : IsDigits t ds) :
    ∃ c rest d, t = c :: rest ∧ digitValue? c = some d := by
  cases h with
  | last hd => exact ⟨_, _, _, rfl, hd⟩
  | next hd _ => exact ⟨_, _, _, rfl, hd⟩
  | apart hd _ => exact ⟨_, _, _, rfl, hd⟩

theorem IsDigits.mem_cases (h : IsDigits t ds) :
    ∀ c ∈ t, (∃ d, digitValue? c = some d) ∨ c = '_' := by
  induction h with
  | last hd => simp [hd]
  | next hd _ ih => exact List.forall_mem_cons.mpr ⟨.inl ⟨_, hd⟩, ih⟩
  | apart hd _ ih =>
      exact List.forall_mem_cons.mpr ⟨.inl ⟨_, hd⟩, List.forall_mem_cons.mpr ⟨.inr rfl, ih⟩⟩

theorem isDigits_of_digits? (h : digits? t = some ds) : IsDigits t ds := by
  fun_induction digits? t generalizing ds with
  | case1 => cases h
  | case2 => cases h
  | case3 c d hd =>
      cases h
      exact .last hd
  | case4 c d hd more ih =>
      obtain ⟨es, hes, rfl⟩ := Option.map_eq_some_iff.mp h
      exact .apart hd (ih hes)
  | case5 c d hd _ _ _ ih =>
      obtain ⟨es, hes, rfl⟩ := Option.map_eq_some_iff.mp h
      exact .next hd (ih hes)

theorem IsDigits.digits?_eq (h : IsDigits t ds) : digits? t = some ds := by
  induction h with
  | last hd => simp [digits?, hd]
  | @next c d t ds hd hrest ih =>
      -- the rest starts with a digit, so it does not start with an underscore
      obtain ⟨c', rest, d', rfl, hd'⟩ := hrest.exists_cons
      have hne : c' ≠ '_' := by
        rintro rfl
        cases hd'
      rw [digits?, hd]
      simp only [ih, Option.map_some]
  | apart hd _ ih => simp [digits?, hd, ih]

/-! ## Numbers without white space -/

/-- The value of a run of digits is that of its positions, the last one counting ones. -/
theorem ofDigits_eq (ds : List Nat) : ofDigits ds = Nat.ofDigits 10 ds.reverse := by
  rw [Nat.ofDigits_eq_foldr, List.foldr_reverse]
  simp only [ofDigits, Nat.cast_id, Nat.add_comm]

/-- At most so many digits as are read, and the number that they stand for. -/
inductive IsMagnitude (t : Text) : Nat → Prop
  | of_digits {ds : List Nat} :
      IsDigits t ds → ds.length ≤ 4300 → IsMagnitude t (Nat.ofDigits 10 ds.reverse)

theorem magnitude?_eq_some_iff {n : Nat} : magnitude? t = some n ↔ IsMagnitude t n := by
  unfold magnitude?
  constructor
  · intro h
    split at h
    · next ds hds =>
        split at h
        · next hlength =>
            cases h
            rw [ofDigits_eq]
            exact .of_digits (isDigits_of_digits? hds) hlength
        · cases h
    · cases h
  · rintro ⟨hds, hlength⟩
    rw [hds.digits?_eq, ← ofDigits_eq]
    exact if_pos hlength

/-- A number with or without a plus sign. -/
inductive IsNumeral : Text → Nat → Prop
  | plain {t : Text} {n : Nat} : IsMagnitude t n → IsNumeral t n
  | plus {t : Text} {n : Nat} : IsMagnitude t n → IsNumeral ('+' :: t) n

/-- A number with or without a sign. -/
inductive IsSigned : Text → Int → Prop
  | numeral {t : Text} {n : Nat} : IsNumeral t n → IsSigned t n
  | minus {t : Text} {n : Nat} : IsMagnitude t n → IsSigned ('-' :: t) (-n)

theorem IsMagnitude.exists_cons {n : Nat} (h : IsMagnitude t n) :
    ∃ c rest d, t = c :: rest ∧ digitValue? c = some d := by
  obtain ⟨hds, _⟩ := h
  exact hds.exists_cons

theorem IsMagnitude.not_blank {n : Nat} (h : IsMagnitude t n) :
    ∀ c ∈ t, isBlank c = false ∧ c ≠ '-' := by
  obtain ⟨hds, _⟩ := h
  intro c hc
  rcases hds.mem_cases c hc with ⟨d, hd⟩ | rfl
  · refine ⟨isBlank_of_digitValue? hd, ?_⟩
    rintro rfl
    cases hd
  · decide

theorem IsNumeral.not_blank {n : Nat} (h : IsNumeral t n) :
    ∀ c ∈ t, isBlank c = false ∧ c ≠ '-' := by
  cases h with
  | plain hn => exact hn.not_blank
  | plus hn => exact List.forall_mem_cons.mpr ⟨by decide, hn.not_blank⟩

theorem IsNumeral.ne_nil {n : Nat} (h : IsNumeral t n) : t ≠ [] := by
  cases h with
  | plain hn =>
      obtain ⟨c, rest, _, rfl, _⟩ := hn.exists_cons
      exact List.cons_ne_nil c rest
  | plus hn => exact List.cons_ne_nil _ _

theorem IsSigned.not_blank {i : Int} (h : IsSigned t i) : ∀ c ∈ t, isBlank c = false := by
  cases h with
  | numeral hn => exact fun c hc => (hn.not_blank c hc).1
  | minus hn =>
      exact List.forall_mem_cons.mpr ⟨by decide, fun c hc => (hn.not_blank c hc).1⟩

theorem IsSigned.ne_nil {i : Int} (h : IsSigned t i) : t ≠ [] := by
  cases h with
  | numeral hn => exact hn.ne_nil
  | minus hn => exact List.cons_ne_nil _ _

/-! ## Numbers with white space around -/

/-- A number with white space around it. -/
inductive IsInteger : Text → Int → Prop
  | around {pre t post : Text} {i : Int} :
      Only isSpace pre → Only isSpace post → IsSigned t i → IsInteger (pre ++ (t ++ post)) i

theorem trimSpace_around {pre post : Text} {i : Int} (hpre : Only isSpace pre)
    (hpost : Only isSpace post) (h : IsSigned t i) : trimSpace (pre ++ (t ++ post)) = t := by
  have hspace : ∀ c ∈ t, isSpace c = false := by
    intro c hc
    rw [isSpace, h.not_blank c hc, Bool.false_and]
  exact cut_around hpre hpost h.ne_nil (hspace _ (List.head_mem _)) (hspace _ (List.getLast_mem _))

/-- Exactly the numbers with white space around are read. -/
theorem read?_eq_some_iff {i : Int} : read? t = some i ↔ IsInteger t i := by
  constructor
  · intro h
    have hsigned : IsSigned (trimSpace t) i := by
      unfold read? at h
      split at h
      · next rest heq =>
          obtain ⟨n, hn, rfl⟩ := Option.map_eq_some_iff.mp h
          rw [heq]
          exact .numeral (.plus (magnitude?_eq_some_iff.mp hn))
      · next rest heq =>
          obtain ⟨n, hn, rfl⟩ := Option.map_eq_some_iff.mp h
          rw [heq]
          exact .minus (magnitude?_eq_some_iff.mp hn)
      · obtain ⟨n, hn, rfl⟩ := Option.map_eq_some_iff.mp h
        exact .numeral (.plain (magnitude?_eq_some_iff.mp hn))
    obtain ⟨pre, post, hpre, hpost, ht⟩ := exists_only_around isSpace t
    rw [ht]
    exact .around hpre hpost hsigned
  · rintro ⟨hpre, hpost, hsigned⟩
    unfold read?
    rw [trimSpace_around hpre hpost hsigned]
    cases hsigned with
    | @minus t n hn =>
        show (magnitude? t).map (fun n => -Int.ofNat n) = some (-Int.ofNat n)
        rw [magnitude?_eq_some_iff.mpr hn]
        rfl
    | numeral hn =>
        cases hn with
        | @plus t _ hn =>
            show (magnitude? t).map Int.ofNat = some (Int.ofNat _)
            rw [magnitude?_eq_some_iff.mpr hn]
            rfl
        | plain hn =>
            -- a digit stands first, and no sign
            obtain ⟨c, rest, d, rfl, hd⟩ := hn.exists_cons
            split
            · next heq =>
                obtain ⟨rfl, _⟩ := List.cons.inj heq
                cases hd
            · next heq =>
                obtain ⟨rfl, _⟩ := List.cons.inj heq
                cases hd
            · rw [magnitude?_eq_some_iff.mpr hn]
              rfl

/-! ## Numbers in decimal -/

theorem digitValue?_digitChar {d : Nat} (h : d < 10) : digitValue? (digitChar d) = some d := by
  have hall : ∀ d < 10, digitValue? (digitChar d) = some d := by decide
  exact hall d h

/-- Digits with one more digit after them. -/
theorem IsDigits.concat {c : Char} {d : Nat} (h : IsDigits t ds) (hd : digitValue? c = some d) :
    IsDigits (t ++ [c]) (ds ++ [d]) := by
  induction h with
  | last hfirst => exact .next hfirst (.last hd)
  | next hfirst _ ih => exact .next hfirst ih
  | apart hfirst _ ih => exact .apart hfirst ih

/-- A number is written with one character for each of its digits. -/
theorem exists_isDigits_decimal (n : Nat) :
    ∃ ds, IsDigits (decimal n) ds ∧ ds.length = (decimal n).length ∧
      Nat.ofDigits 10 ds.reverse = n := by
  fun_induction decimal n with
  | case1 n hn => exact ⟨[n], .last (digitValue?_digitChar hn), rfl, Nat.ofDigits_singleton⟩
  | case2 n hn ih =>
      obtain ⟨ds, hds, hlength, hvalue⟩ := ih
      refine ⟨ds ++ [n % 10], hds.concat (digitValue?_digitChar (by omega)), ?_, ?_⟩
      · simp only [List.length_append, List.length_singleton, hlength]
      · rw [List.reverse_append, List.reverse_singleton, List.singleton_append, Nat.ofDigits_cons,
          hvalue]
        exact Nat.mod_add_div n 10

theorem isNumeral_decimal {n : Nat} (h : (decimal n).length ≤ 4300) : IsNumeral (decimal n) n := by
  obtain ⟨ds, hds, hlength, hvalue⟩ := exists_isDigits_decimal n
  have hmagnitude := IsMagnitude.of_digits hds (hlength.trans_le h)
  rw [hvalue] at hmagnitude
  exact .plain hmagnitude

/-! ## How large a numeral can be -/

theorem lt_of_digitValue? {c : Char} {d : Nat} (h : digitValue? c = some d) : d < 10 := by
  obtain ⟨base, hbase, rfl⟩ := Option.map_eq_some_iff.mp h
  have hfound := List.find?_some hbase
  simp only [Bool.and_eq_true, decide_eq_true_eq] at hfound
  omega

theorem IsDigits.lt_of_mem (h : IsDigits t ds) : ∀ d ∈ ds, d < 10 := by
  induction h with
  | last hd =>
      intro e he
      obtain rfl := List.mem_singleton.mp he
      exact lt_of_digitValue? hd
  | next hd _ ih => exact List.forall_mem_cons.mpr ⟨lt_of_digitValue? hd, ih⟩
  | apart hd _ ih => exact List.forall_mem_cons.mpr ⟨lt_of_digitValue? hd, ih⟩

theorem IsMagnitude.lt {n : Nat} (h : IsMagnitude t n) : n < 10 ^ maxDigits := by
  obtain ⟨hds, hlength⟩ := h
  have hlt := Nat.ofDigits_lt_base_pow_length (b := 10) (by decide) fun d hd =>
    hds.lt_of_mem d (List.mem_reverse.mp hd)
  rw [List.length_reverse] at hlt
  exact hlt.trans_le (Nat.pow_le_pow_right (by decide) hlength)

/-- A number that is read keeps the bound on digits. -/
theorem IsNumeral.lt {n : Nat} (h : IsNumeral t n) : n < 10 ^ maxDigits := by
  cases h with
  | plain hn => exact hn.lt
  | plus hn => exact hn.lt

end Numeral

end LineJoin
