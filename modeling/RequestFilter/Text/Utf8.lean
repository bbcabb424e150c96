/-!
# Bytes of a text

The UTF-8 bytes of characters, and the reading of arbitrary bytes as text: what
cannot begin or continue a character becomes one replacement character for each
longest piece that began like one.
-/

namespace RequestFilter

namespace Utf8

def encode (cs : List Char) : List UInt8 :=
  cs.flatMap String.utf8EncodeChar

/-- A character of which the first bytes are read. -/
structure Pending where
  /-- The bits read so far. -/
  bits : Nat
  /-- The number of bytes still owed, without the next one. -/
  owed : Nat
  /-- The least and the greatest byte that may come next. -/
  low : UInt8
  high : UInt8

/-- How a byte starts a character of several bytes. -/
def Pending.start? (b : UInt8) : Option Pending :=
  if b < 0xC2 then none
  else if b < 0xE0 then some ⟨b.toNat - 0xC0, 0, 0x80, 0xBF⟩
  else if b = 0xE0 then some ⟨0, 1, 0xA0, 0xBF⟩
  else if b = 0xED then some ⟨0xD, 1, 0x80, 0x9F⟩
  else if b < 0xF0 then some ⟨b.toNat - 0xE0, 1, 0x80, 0xBF⟩
  else if b = 0xF0 then some ⟨0, 2, 0x90, 0xBF⟩
  else if b < 0xF4 then some ⟨b.toNat - 0xF0, 2, 0x80, 0xBF⟩
  else if b = 0xF4 then some ⟨4, 2, 0x80, 0x8F⟩
  else none

/-- What stands for bytes that are no character. -/
def replacement : Char := '\ufffd'

/-- The characters of the bytes that follow the start of one, if there is one. -/
def decodeFrom : Option Pending → List UInt8 → List Char
  | none, [] => []
  | some _, [] => [replacement]
  | none, b :: rest =>
      if b < 0x80 then Char.ofNat b.toNat :: decodeFrom none rest
      else match Pending.start? b with
        | some pending => decodeFrom (some pending) rest
        | none => replacement :: decodeFrom none rest
  | some pending, b :: rest =>
      if pending.low ≤ b ∧ b ≤ pending.high then
        let bits := pending.bits * 64 + (b.toNat - 0x80)
        match pending.owed with
        | 0 => Char.ofNat bits :: decodeFrom none rest
        | owed + 1 => decodeFrom (some ⟨bits, owed, 0x80, 0xBF⟩) rest
      else if b < 0x80 then replacement :: Char.ofNat b.toNat :: decodeFrom none rest
      else match Pending.start? b with
        | some next => replacement :: decodeFrom (some next) rest
        | none => replacement :: replacement :: decodeFrom none rest

/-- The characters of any bytes. -/
def decode (bytes : List UInt8) : List Char :=
  decodeFrom none bytes

end Utf8

end RequestFilter
