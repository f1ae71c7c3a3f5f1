import Mathlib.Data.List.Basic
import LineJoin.Text.Utf8

/-!
# Decoding inverts encoding

The decoder works byte by byte and keeps what a character still owes. What it accepts is said
without it: a character is spelled by a first byte and by a tail that fits the ranges owed
(`Spells`), and the encoding of a character is its only spelling (`encodeChar_of_spells`,
`spells_encodeChar`). So bytes are decoded to a text exactly if the text is encoded to them
(`decode_eq_ok_iff`).
-/

namespace LineJoin.Text.Utf8

/-! ## First bytes -/

/-- A tail of bytes, each in the range owed for it. -/
def Fits (owed : List (Nat × Nat)) (tail : Bytes) : Prop :=
  List.Forall₂ (fun range byte => range.1 ≤ byte.toNat ∧ byte.toNat ≤ range.2) owed tail

/-- The number that a first byte's payload and a tail make up, six bits from each byte. -/
def assemble (payload : Nat) (tail : Bytes) : Nat :=
  tail.foldl (fun n byte => n * 64 + (byte.toNat - 0x80)) payload

theorem assemble_cons (payload : Nat) (byte : UInt8) (tail : Bytes) :
    assemble payload (byte :: tail) = assemble (payload * 64 + (byte.toNat - 0x80)) tail :=
  List.foldl_cons ..

/-- Bytes that spell a character. -/
def Spells (bytes : Bytes) (c : Char) : Prop :=
  ∃ byte tail payload owed, bytes = byte :: tail ∧ lead? byte.toNat = some (payload, owed) ∧
    Fits owed tail ∧ Char.ofNat (assemble payload tail) = c

section Lead

variable {byte : Nat}

theorem lead?_one (h : byte < 0x80) : lead? byte = some (byte, []) := if_pos (by omega)

theorem lead?_two (h : 0xC2 ≤ byte) (h' : byte < 0xE0) :
    lead? byte = some (byte - 0xC0, [tailRange]) := by
  unfold lead?
  rw [if_neg (by omega), if_neg (by omega), if_pos (by omega)]

/-- The second byte of three keeps the number above the shorter forms and out of the surrogates. -/
theorem lead?_three (byte : Nat) (h : 0xE0 ≤ byte) (h' : byte < 0xF0) :
    ∃ low high, lead? byte = some (byte - 0xE0, [(low, high), tailRange]) ∧
      ∀ second, low ≤ second ∧ second ≤ high ↔ 0x80 ≤ second ∧ second ≤ 0xBF ∧
        0x20 ≤ (byte - 0xE0) * 64 + (second - 0x80) ∧
        ¬ (0x360 ≤ (byte - 0xE0) * 64 + (second - 0x80) ∧
          (byte - 0xE0) * 64 + (second - 0x80) < 0x380) := by
  unfold lead?
  rw [if_neg (by omega), if_neg (by omega), if_neg (by omega)]
  by_cases hfirst : byte = 0xE0
  · subst hfirst
    exact ⟨0xA0, 0xBF, rfl, by omega⟩
  · by_cases hgap : byte = 0xED
    · subst hgap
      exact ⟨0x80, 0x9F, rfl, by omega⟩
    · rw [if_neg hfirst, if_neg hgap, if_pos (by omega)]
      exact ⟨0x80, 0xBF, rfl, by omega⟩

/-- The second byte of four keeps the number above the shorter forms and up to the last code
point. -/
theorem lead?_four (byte : Nat) (h : 0xF0 ≤ byte) (h' : byte < 0xF5) :
    ∃ low high, lead? byte = some (byte - 0xF0, [(low, high), tailRange, tailRange]) ∧
      ∀ second, low ≤ second ∧ second ≤ high ↔ 0x80 ≤ second ∧ second ≤ 0xBF ∧
        0x10 ≤ (byte - 0xF0) * 64 + (second - 0x80) ∧
        (byte - 0xF0) * 64 + (second - 0x80) < 0x110 := by
  unfold lead?
  rw [if_neg (by omega), if_neg (by omega), if_neg (by omega), if_neg (by omega),
    if_neg (by omega), if_neg (by omega)]
  by_cases hfirst : byte = 0xF0
  · subst hfirst
    exact ⟨0x90, 0xBF, rfl, by omega⟩
  · by_cases hlast : byte = 0xF4
    · subst hlast
      exact ⟨0x80, 0x8F, rfl, by omega⟩
    · rw [if_neg hfirst, if_pos (by omega)]
      exact ⟨0x80, 0xBF, rfl, by omega⟩

theorem lead?_eq_none (h : 0x80 ≤ byte ∧ byte < 0xC2 ∨ 0xF5 ≤ byte) : lead? byte = none := by
  unfold lead?
  rw [if_neg (by omega)]
  by_cases hlow : byte < 0xC2
  · rw [if_pos hlow]
  · rw [if_neg hlow, if_neg (by omega), if_neg (by omega), if_neg (by omega), if_neg (by omega),
      if_neg (by omega), if_neg (by omega), if_neg (by omega)]

end Lead

/-! ## One character -/

theorem ofNat_eq {n : Nat} (byte : UInt8) (h : n = byte.toNat) : UInt8.ofNat n = byte := by
  rw [h, UInt8.ofNat_toNat]

theorem tailByte_eq {n : Nat} (byte : UInt8) (h : 0x80 + n % 64 = byte.toNat) :
    tailByte n = byte := ofNat_eq byte h

theorem toNat_tailByte (n : Nat) : (tailByte n).toNat = 0x80 + n % 64 :=
  UInt8.toNat_ofNat_of_lt' (show 0x80 + n % 64 < 256 by omega)

/-- The encoding of a code point. -/
theorem encodeChar_ofNat {n : Nat} (h : n.isValidChar) :
    encodeChar (Char.ofNat n) =
      if n < 0x80 then [UInt8.ofNat n]
      else if n < 0x800 then [UInt8.ofNat (0xC0 + n / 64), tailByte n]
      else if n < 0x10000 then [UInt8.ofNat (0xE0 + n / 4096), tailByte (n / 64), tailByte n]
      else [UInt8.ofNat (0xF0 + n / 262144), tailByte (n / 4096), tailByte (n / 64),
        tailByte n] := by
  have hn : (Char.ofNat n).toNat = n := by
    unfold Char.ofNat
    rw [dif_pos h]
    rfl
  unfold encodeChar
  rw [hn]

/-- What a first byte and a fitting tail spell is encoded to them. -/
theorem encodeChar_of_spells {bytes : Bytes} {c : Char} (h : Spells bytes c) :
    encodeChar c = bytes := by
  obtain ⟨byte, tail, payload, owed, rfl, hlead, hfits, rfl⟩ := h
  have hbyte := byte.toNat_lt
  by_cases hnone : 0x80 ≤ byte.toNat ∧ byte.toNat < 0xC2 ∨ 0xF5 ≤ byte.toNat
  · rw [lead?_eq_none hnone] at hlead
    cases hlead
  by_cases hone : byte.toNat < 0x80
  · rw [lead?_one hone] at hlead
    obtain ⟨rfl, rfl⟩ := Prod.mk.inj (Option.some.inj hlead)
    cases hfits
    show encodeChar (Char.ofNat byte.toNat) = _
    rw [encodeChar_ofNat (by omega), if_pos (by omega), ofNat_eq byte rfl]
  by_cases htwo : byte.toNat < 0xE0
  · rw [lead?_two (by omega) htwo] at hlead
    obtain ⟨rfl, rfl⟩ := Prod.mk.inj (Option.some.inj hlead)
    obtain _ | @⟨_, second, _, _, hsecond, hfits⟩ := hfits
    cases hfits
    change 0x80 ≤ second.toNat ∧ second.toNat ≤ 0xBF at hsecond
    show encodeChar (Char.ofNat ((byte.toNat - 0xC0) * 64 + (second.toNat - 0x80))) = _
    rw [encodeChar_ofNat (by omega), if_neg (by omega), if_pos (by omega), ofNat_eq byte (by omega),
      tailByte_eq second (by omega)]
  by_cases hthree : byte.toNat < 0xF0
  · obtain ⟨low, high, hthree, hrange⟩ := lead?_three byte.toNat (by omega) hthree
    rw [hthree] at hlead
    obtain ⟨rfl, rfl⟩ := Prod.mk.inj (Option.some.inj hlead)
    obtain _ | @⟨_, second, _, _, hsecond, hfits⟩ := hfits
    obtain _ | @⟨_, third, _, _, hthird, hfits⟩ := hfits
    cases hfits
    rw [hrange] at hsecond
    change 0x80 ≤ third.toNat ∧ third.toNat ≤ 0xBF at hthird
    show encodeChar (Char.ofNat (((byte.toNat - 0xE0) * 64 + (second.toNat - 0x80)) * 64 +
      (third.toNat - 0x80))) = _
    rw [encodeChar_ofNat (by omega), if_neg (by omega), if_neg (by omega), if_pos (by omega),
      ofNat_eq byte (by omega), tailByte_eq second (by omega), tailByte_eq third (by omega)]
  · obtain ⟨low, high, hfour, hrange⟩ := lead?_four byte.toNat (by omega) (by omega)
    rw [hfour] at hlead
    obtain ⟨rfl, rfl⟩ := Prod.mk.inj (Option.some.inj hlead)
    obtain _ | @⟨_, second, _, _, hsecond, hfits⟩ := hfits
    obtain _ | @⟨_, third, _, _, hthird, hfits⟩ := hfits
    obtain _ | @⟨_, fourth, _, _, hfourth, hfits⟩ := hfits
    cases hfits
    rw [hrange] at hsecond
    change 0x80 ≤ third.toNat ∧ third.toNat ≤ 0xBF at hthird
    change 0x80 ≤ fourth.toNat ∧ fourth.toNat ≤ 0xBF at hfourth
    show encodeChar (Char.ofNat ((((byte.toNat - 0xF0) * 64 + (second.toNat - 0x80)) * 64 +
      (third.toNat - 0x80)) * 64 + (fourth.toNat - 0x80))) = _
    rw [encodeChar_ofNat (by omega), if_neg (by omega), if_neg (by omega), if_neg (by omega),
      ofNat_eq byte (by omega), tailByte_eq second (by omega), tailByte_eq third (by omega),
      tailByte_eq fourth (by omega)]

theorem fits_tailRange (n : Nat) : 0x80 ≤ (tailByte n).toNat ∧ (tailByte n).toNat ≤ 0xBF := by
  rw [toNat_tailByte]
  omega

/-- The encoding of a character spells it. -/
theorem spells_encodeChar (c : Char) : Spells (encodeChar c) c := by
  have hvalid : c.toNat.isValidChar := c.valid
  have hchar : ∀ n, n = c.toNat → Char.ofNat n = c := by
    rintro n rfl
    exact Char.ofNat_toNat c
  unfold encodeChar
  generalize c.toNat = n at hvalid hchar
  by_cases hone : n < 0x80
  · have hbyte := UInt8.toNat_ofNat_of_lt' (show n < 256 by omega)
    rw [if_pos hone]
    exact ⟨_, _, _, _, rfl, lead?_one (by omega), .nil, hchar _ hbyte⟩
  by_cases htwo : n < 0x800
  · have hbyte := UInt8.toNat_ofNat_of_lt' (show 0xC0 + n / 64 < 256 by omega)
    have hlow := toNat_tailByte n
    rw [if_neg hone, if_pos htwo]
    refine ⟨_, _, _, _, rfl, lead?_two (by omega) (by omega),
      .cons (fits_tailRange _) .nil, hchar _ ?_⟩
    show _ * 64 + _ = n
    omega
  by_cases hthree : n < 0x10000
  · have hbyte := UInt8.toNat_ofNat_of_lt' (show 0xE0 + n / 4096 < 256 by omega)
    have hsecond := toNat_tailByte (n / 64)
    have hlow := toNat_tailByte n
    obtain ⟨low, high, hlead, hrange⟩ :=
      lead?_three (UInt8.ofNat (0xE0 + n / 4096)).toNat (by omega) (by omega)
    rw [if_neg hone, if_neg htwo, if_pos hthree]
    refine ⟨_, _, _, _, rfl, hlead, .cons ((hrange _).mpr (by omega))
      (.cons (fits_tailRange _) .nil), hchar _ ?_⟩
    show (_ * 64 + _) * 64 + _ = n
    omega
  · have hbyte := UInt8.toNat_ofNat_of_lt' (show 0xF0 + n / 262144 < 256 by omega)
    have hsecond := toNat_tailByte (n / 4096)
    have hthird := toNat_tailByte (n / 64)
    have hlow := toNat_tailByte n
    obtain ⟨low, high, hlead, hrange⟩ :=
      lead?_four (UInt8.ofNat (0xF0 + n / 262144)).toNat (by omega) (by omega)
    rw [if_neg hone, if_neg htwo, if_neg hthree]
    refine ⟨_, _, _, _, rfl, hlead, .cons ((hrange _).mpr (by omega))
      (.cons (fits_tailRange _) (.cons (fits_tailRange _) .nil)), hchar _ ?_⟩
    show ((_ * 64 + _) * 64 + _) * 64 + _ = n
    omega

/-! ## The decoder -/

/-- What the decoder makes of one byte. -/
def take (position : Nat) (byte : UInt8) : Option Pending → Except Fault (Char ⊕ Pending)
  | none => start position byte
  | some pending => pending.push position byte

theorem decodeFrom_cons (position : Nat) (pending : Option Pending) (byte : UInt8)
    (bytes : Bytes) :
    decodeFrom position pending (byte :: bytes) =
      match take position byte pending with
      | .error fault => .error fault
      | .ok (.inl c) => (decodeFrom (position + 1) none bytes).map (c :: ·)
      | .ok (.inr pending) => decodeFrom (position + 1) (some pending) bytes := by
  cases pending <;> rfl

theorem map_cons_eq_ok_iff {decoded : Except Fault Text} {c : Char} {t : Text} :
    decoded.map (c :: ·) = .ok t ↔ ∃ t', t = c :: t' ∧ decoded = .ok t' := by
  cases decoded with
  | error fault => simp [Except.map]
  | ok t' => simp [Except.map, eq_comm]

/-- The bytes start with a tail that completes a character, and the text with this character; the
rest of the text is what the rest is decoded to. -/
def Completes (position payload : Nat) (owed : List (Nat × Nat)) (bytes : Bytes) (t : Text) : Prop :=
  ∃ tail rest t', bytes = tail ++ rest ∧ Fits owed tail ∧
    t = Char.ofNat (assemble payload tail) :: t' ∧
    decodeFrom (position + tail.length) none rest = .ok t'

section Completes

variable {position payload : Nat} {range : Nat × Nat} {owed : List (Nat × Nat)} {byte : UInt8}
  {bytes : Bytes} {t : Text}

/-- A character that owes nothing is complete. -/
theorem completes_nil :
    Completes position payload [] bytes t ↔
      (decodeFrom position none bytes).map (Char.ofNat payload :: ·) = .ok t := by
  rw [map_cons_eq_ok_iff]
  constructor
  · rintro ⟨tail, rest, t', rfl, hfits, ht, hrest⟩
    cases hfits
    exact ⟨t', ht, hrest⟩
  · rintro ⟨t', ht, hrest⟩
    exact ⟨[], bytes, t', rfl, .nil, ht, hrest⟩

theorem not_completes_of_end : ¬ Completes position payload (range :: owed) [] t := by
  rintro ⟨tail, rest, t', hbytes, hfits, -⟩
  obtain ⟨rfl, -⟩ := List.append_eq_nil_iff.mp hbytes.symm
  cases hfits

/-- A character that owes bytes takes the next one, which has to be in range. -/
theorem completes_cons :
    Completes position payload (range :: owed) (byte :: bytes) t ↔
      (range.1 ≤ byte.toNat ∧ byte.toNat ≤ range.2) ∧
        Completes (position + 1) (payload * 64 + (byte.toNat - 0x80)) owed bytes t := by
  constructor
  · rintro ⟨tail, rest, t', hbytes, hfits, ht, hrest⟩
    obtain _ | @⟨_, first, _, tail, hrange, hfits⟩ := hfits
    obtain ⟨rfl, rfl⟩ := List.cons.inj hbytes
    rw [assemble_cons] at ht
    rw [List.length_cons, ← Nat.add_assoc, Nat.add_right_comm] at hrest
    exact ⟨hrange, tail, rest, t', rfl, hfits, ht, hrest⟩
  · rintro ⟨hrange, tail, rest, t', rfl, hfits, ht, hrest⟩
    rw [← assemble_cons] at ht
    rw [Nat.add_right_comm, Nat.add_assoc, ← List.length_cons] at hrest
    exact ⟨byte :: tail, rest, t', rfl, .cons hrange hfits, ht, hrest⟩

/-- A pending character is decoded by completing it. -/
theorem decodeFrom_pending_eq_ok_iff (lead : UInt8) (first : Nat) :
    decodeFrom position (some ⟨lead, first, payload, range :: owed⟩) bytes = .ok t ↔
      Completes position payload (range :: owed) bytes t := by
  induction bytes generalizing position payload range owed with
  | nil => exact iff_of_false nofun not_completes_of_end
  | cons byte bytes ih =>
      rw [decodeFrom_cons, completes_cons]
      unfold take Pending.push
      by_cases hrange : range.1 ≤ byte.toNat ∧ byte.toNat ≤ range.2
      · rw [and_iff_right hrange]
        simp only [if_pos hrange]
        cases owed with
        | nil => exact completes_nil.symm
        | cons next owed => exact ih
      · simp only [if_neg hrange]
        exact iff_of_false nofun fun h => hrange h.1

/-- Between characters, a first byte is taken and its character completed. -/
theorem decodeFrom_none_eq_ok_iff :
    decodeFrom position none (byte :: bytes) = .ok t ↔
      ∃ payload owed, lead? byte.toNat = some (payload, owed) ∧
        Completes (position + 1) payload owed bytes t := by
  rw [decodeFrom_cons]
  unfold take start
  cases hlead : lead? byte.toNat with
  | none => exact iff_of_false nofun nofun
  | some found =>
      obtain ⟨payload, owed⟩ := found
      have hfound : (∃ payload' owed', some (payload, owed) = some (payload', owed') ∧
          Completes (position + 1) payload' owed' bytes t) ↔
          Completes (position + 1) payload owed bytes t := by
        constructor
        · rintro ⟨_, _, ⟨⟩, h⟩
          exact h
        · exact fun h => ⟨payload, owed, rfl, h⟩
      rw [hfound]
      cases owed with
      | nil => exact completes_nil.symm
      | cons range owed => exact decodeFrom_pending_eq_ok_iff byte position

end Completes

/-- A text that starts with a character is decoded from bytes that start with its encoding. -/
theorem decodeFrom_eq_ok_cons_iff {bytes : Bytes} {c : Char} {t : Text} (position : Nat) :
    decodeFrom position none bytes = .ok (c :: t) ↔
      ∃ rest, bytes = encodeChar c ++ rest ∧
        decodeFrom (position + (encodeChar c).length) none rest = .ok t := by
  constructor
  · intro h
    cases bytes with
    | nil => cases h
    | cons byte bytes =>
        obtain ⟨payload, owed, hlead, tail, rest, t', rfl, hfits, ht, hrest⟩ :=
          decodeFrom_none_eq_ok_iff.mp h
        obtain ⟨rfl, rfl⟩ := List.cons.inj ht
        have hbytes := encodeChar_of_spells ⟨byte, tail, payload, owed, rfl, hlead, hfits, rfl⟩
        rw [hbytes, List.length_cons, ← Nat.add_assoc, Nat.add_right_comm]
        exact ⟨rest, rfl, hrest⟩
  · rintro ⟨rest, rfl, hrest⟩
    obtain ⟨byte, tail, payload, owed, hbytes, hlead, hfits, hc⟩ := spells_encodeChar c
    rw [hbytes, List.length_cons, ← Nat.add_assoc, Nat.add_right_comm] at hrest
    rw [hbytes]
    exact decodeFrom_none_eq_ok_iff.mpr
      ⟨payload, owed, hlead, tail, rest, t, rfl, hfits, by rw [hc], hrest⟩

/-- Where the decoding starts does not matter to its success. -/
theorem decodeFrom_eq_ok_iff {bytes : Bytes} {t : Text} (position : Nat) :
    decodeFrom position none bytes = .ok t ↔ encode t = bytes := by
  induction t generalizing bytes position with
  | nil =>
      cases bytes with
      | nil => exact iff_of_true rfl rfl
      | cons byte bytes =>
          refine iff_of_false (fun h => ?_) nofun
          obtain ⟨_, _, _, _, _, _, _, _, ht, _⟩ := decodeFrom_none_eq_ok_iff.mp h
          cases ht
  | cons c t ih =>
      rw [decodeFrom_eq_ok_cons_iff]
      show _ ↔ encodeChar c ++ encode t = bytes
      constructor
      · rintro ⟨rest, rfl, hrest⟩
        rw [(ih _).mp hrest]
      · rintro rfl
        exact ⟨encode t, rfl, (ih _).mpr rfl⟩

/-- Bytes are decoded to a text exactly if the text is encoded to them. -/
theorem decode_eq_ok_iff {bytes : Bytes} {t : Text} : decode bytes = .ok t ↔ encode t = bytes :=
  decodeFrom_eq_ok_iff 0

end LineJoin.Text.Utf8
