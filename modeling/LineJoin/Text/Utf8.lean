import LineJoin.Numeral
import LineJoin.Text.Quoted

/-!
# UTF-8

Encoding, and decoding that says where and why it stops. After its first byte a character owes a
list of byte ranges: the second byte of some characters is held to a narrower range, which rules
out overlong forms, surrogates and code points beyond the last. The first byte that breaks the
promise, or the end of the data, ends the decoding; the fault spans the bytes already taken.
-/

namespace LineJoin.Text

/-- A sequence of bytes. -/
abbrev Bytes := List UInt8

namespace Utf8

/-- Why decoding stopped. -/
inductive Reason
  | invalidStart
  | invalidContinuation
  | unexpectedEnd
  deriving DecidableEq, Repr

/-- Where decoding stopped: the first byte of the character at fault, with its position, and the
position of the last byte taken for it. -/
structure Fault where
  lead : UInt8
  first : Nat
  last : Nat
  reason : Reason
  deriving DecidableEq, Repr

/-- The words for a reason. -/
def Reason.phrase : Reason → String
  | .invalidStart => "invalid start byte"
  | .invalidContinuation => "invalid continuation byte"
  | .unexpectedEnd => "unexpected end of data"

/-- The words that report a fault: one byte is named by its value, several by their positions. -/
def Fault.message (f : Fault) : Text :=
  "'utf-8' codec can't decode ".toList
    ++ (if f.first = f.last then
          "byte 0x".toList ++ hex 2 f.lead.toNat ++ " in position ".toList
            ++ Numeral.decimal f.first
        else
          "bytes in position ".toList ++ Numeral.decimal f.first ++ '-' :: Numeral.decimal f.last)
    ++ ": ".toList ++ f.reason.phrase.toList

/-- A byte that continues a character. -/
def tailRange : Nat × Nat := (0x80, 0xBF)

/-- The payload of a character's first byte, and the ranges of the bytes that it owes. -/
def lead? (byte : Nat) : Option (Nat × List (Nat × Nat)) :=
  if byte ≤ 0x7F then some (byte, [])
  else if byte < 0xC2 then none
  else if byte ≤ 0xDF then some (byte - 0xC0, [tailRange])
  else if byte = 0xE0 then some (0, [(0xA0, 0xBF), tailRange])
  else if byte = 0xED then some (0xD, [(0x80, 0x9F), tailRange])
  else if byte ≤ 0xEF then some (byte - 0xE0, [tailRange, tailRange])
  else if byte = 0xF0 then some (0, [(0x90, 0xBF), tailRange, tailRange])
  else if byte ≤ 0xF3 then some (byte - 0xF0, [tailRange, tailRange, tailRange])
  else if byte = 0xF4 then some (4, [(0x80, 0x8F), tailRange, tailRange])
  else none

/-- A character of which some bytes were taken. -/
structure Pending where
  lead : UInt8
  first : Nat
  payload : Nat
  owed : List (Nat × Nat)

/-- The character a first byte starts: complete, or owing more bytes. -/
def start (position : Nat) (byte : UInt8) : Except Fault (Char ⊕ Pending) :=
  match lead? byte.toNat with
  | none => .error ⟨byte, position, position, .invalidStart⟩
  | some (payload, []) => .ok (.inl (Char.ofNat payload))
  | some (payload, owed) => .ok (.inr ⟨byte, position, payload, owed⟩)

/-- A pending character after one more byte. -/
def Pending.push (pending : Pending) (position : Nat) (byte : UInt8) :
    Except Fault (Char ⊕ Pending) :=
  match pending.owed with
  | [] => .ok (.inl (Char.ofNat pending.payload))
  | (low, high) :: owed =>
    if low ≤ byte.toNat ∧ byte.toNat ≤ high then
      let payload := pending.payload * 64 + (byte.toNat - 0x80)
      match owed with
      | [] => .ok (.inl (Char.ofNat payload))
      | _ :: _ => .ok (.inr { pending with payload, owed })
    else .error ⟨pending.lead, pending.first, position - 1, .invalidContinuation⟩

/-- Decode from a position, where a character may be pending. -/
def decodeFrom (position : Nat) (pending : Option Pending) : Bytes → Except Fault Text
  | [] =>
    match pending with
    | none => .ok []
    | some p => .error ⟨p.lead, p.first, position - 1, .unexpectedEnd⟩
  | byte :: rest =>
    let taken := match pending with
      | none => start position byte
      | some p => p.push position byte
    match taken with
    | .error fault => .error fault
    | .ok (.inl c) => (decodeFrom (position + 1) none rest).map (c :: ·)
    | .ok (.inr p) => decodeFrom (position + 1) (some p) rest

/-- The text that bytes encode. -/
def decode (bytes : Bytes) : Except Fault Text := decodeFrom 0 none bytes

/-- The byte that continues a character with the lowest six bits of a number. -/
def tailByte (n : Nat) : UInt8 := UInt8.ofNat (0x80 + n % 64)

/-- The bytes of one character: six bits in each byte after the first. -/
def encodeChar (c : Char) : Bytes :=
  let n := c.toNat
  if n < 0x80 then [UInt8.ofNat n]
  else if n < 0x800 then [UInt8.ofNat (0xC0 + n / 64), tailByte n]
  else if n < 0x10000 then [UInt8.ofNat (0xE0 + n / 4096), tailByte (n / 64), tailByte n]
  else [UInt8.ofNat (0xF0 + n / 262144), tailByte (n / 4096), tailByte (n / 64), tailByte n]

/-- The bytes of a text. -/
def encode (t : Text) : Bytes := t.flatMap encodeChar

end Utf8

end LineJoin.Text
