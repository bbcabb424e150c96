import Mathlib.Data.UInt
import RequestFilter.Text.Utf8

/-!
# Reading the bytes of a text

The bytes of characters are read as those characters. The first byte of a
character says how many follow it, and which bytes may come next keeps out the
encodings that are too long and the surrogates.
-/

namespace RequestFilter.Utf8

/-- A byte that begins a character of several bytes, by its number. -/
theorem Pending.start?_ofNat {n : Nat} (h : n < 256) :
    Pending.start? (UInt8.ofNat n) =
      if n < 0xC2 then none
      else if n < 0xE0 then some ⟨n - 0xC0, 0, 0x80, 0xBF⟩
      else if n = 0xE0 then some ⟨0, 1, 0xA0, 0xBF⟩
      else if n = 0xED then some ⟨0xD, 1, 0x80, 0x9F⟩
      else if n < 0xF0 then some ⟨n - 0xE0, 1, 0x80, 0xBF⟩
      else if n = 0xF0 then some ⟨0, 2, 0x90, 0xBF⟩
      else if n < 0xF4 then some ⟨n - 0xF0, 2, 0x80, 0xBF⟩
      else if n = 0xF4 then some ⟨4, 2, 0x80, 0x8F⟩
      else none := by
  have hnat : (UInt8.ofNat n).toNat = n := UInt8.toNat_ofNat_of_lt h
  simp only [start?, UInt8.lt_iff_toNat_lt, ← UInt8.toNat_inj, hnat]
  rfl

theorem decodeFrom_none_of_start {n : Nat} {pending : Pending} (hn : n < 256) (hlow : 0x80 ≤ n)
    (h : Pending.start? (UInt8.ofNat n) = some pending) (rest : List UInt8) :
    decodeFrom none (UInt8.ofNat n :: rest) = decodeFrom (some pending) rest := by
  have hnat : (UInt8.ofNat n).toNat = n := UInt8.toNat_ofNat_of_lt hn
  have hnot : ¬ UInt8.ofNat n < 0x80 := by
    rw [UInt8.lt_iff_toNat_lt, hnat]
    exact Nat.not_lt.mpr hlow
  rw [decodeFrom, if_neg hnot, h]

/-- A byte between the bounds adds six bits. -/
theorem decodeFrom_some_ofNat {bits owed n : Nat} {low high : UInt8} (hn : n < 256)
    (hlow : low.toNat ≤ n) (hhigh : n ≤ high.toNat) (rest : List UInt8) :
    decodeFrom (some ⟨bits, owed, low, high⟩) (UInt8.ofNat n :: rest) =
      match owed with
      | 0 => Char.ofNat (bits * 64 + (n - 0x80)) :: decodeFrom none rest
      | owed + 1 =>
          decodeFrom (some ⟨bits * 64 + (n - 0x80), owed, 0x80, 0xBF⟩) rest := by
  have hnat : (UInt8.ofNat n).toNat = n := UInt8.toNat_ofNat_of_lt hn
  have hbounds : low ≤ UInt8.ofNat n ∧ UInt8.ofNat n ≤ high := by
    rw [UInt8.le_iff_toNat_le, UInt8.le_iff_toNat_le, hnat]
    exact ⟨hlow, hhigh⟩
  cases owed with
  | zero => simp only [decodeFrom, if_pos hbounds, hnat]
  | succ owed => simp only [decodeFrom, if_pos hbounds, hnat]

/-- The further bytes of a character, of which each has six bits. -/
theorem decodeFrom_continued {bits n : Nat} (hn : n < 64) (rest : List UInt8) :
    decodeFrom (some ⟨bits, 0, 0x80, 0xBF⟩) (UInt8.ofNat (n + 128) :: rest) =
      Char.ofNat (bits * 64 + n) :: decodeFrom none rest := by
  rw [decodeFrom_some_ofNat (by omega) (show 128 ≤ n + 128 by omega)
    (show n + 128 ≤ 191 by omega), Nat.add_sub_cancel]

/-- The first of three bytes bounds the second one: neither a shorter encoding nor a surrogate. -/
theorem Pending.exists_start?_three {v : Nat} (hlow : 0x800 ≤ v) (hhigh : v < 0x10000)
    (hvalid : v < 0xD800 ∨ 0xDFFF < v) :
    ∃ low high : UInt8,
      start? (UInt8.ofNat (v / 4096 % 16 + 224)) = some ⟨v / 4096, 1, low, high⟩ ∧
        low.toNat ≤ v / 64 % 64 + 128 ∧ v / 64 % 64 + 128 ≤ high.toNat := by
  rw [start?_ofNat (by omega), if_neg (by omega), if_neg (by omega)]
  by_cases hfirst : v / 4096 = 0
  · rw [if_pos (by omega), hfirst]
    exact ⟨0xA0, 0xBF, rfl, show 160 ≤ _ by omega, show _ ≤ 191 by omega⟩
  · rw [if_neg (by omega)]
    by_cases hsurrogate : v / 4096 = 0xD
    · rw [if_pos (by omega), hsurrogate]
      exact ⟨0x80, 0x9F, rfl, show 128 ≤ _ by omega, show _ ≤ 159 by omega⟩
    · rw [if_neg (by omega), if_pos (by omega), show v / 4096 % 16 + 224 - 0xE0 = v / 4096 by omega]
      exact ⟨0x80, 0xBF, rfl, show 128 ≤ _ by omega, show _ ≤ 191 by omega⟩

/-- The first of four bytes bounds the second one: no shorter encoding, and no code point too
great. -/
theorem Pending.exists_start?_four {v : Nat} (hlow : 0x10000 ≤ v) (hhigh : v < 0x110000) :
    ∃ low high : UInt8,
      start? (UInt8.ofNat (v / 262144 % 8 + 240)) = some ⟨v / 262144, 2, low, high⟩ ∧
        low.toNat ≤ v / 4096 % 64 + 128 ∧ v / 4096 % 64 + 128 ≤ high.toNat := by
  rw [start?_ofNat (by omega), if_neg (by omega), if_neg (by omega), if_neg (by omega),
    if_neg (by omega), if_neg (by omega)]
  by_cases hfirst : v / 262144 = 0
  · rw [if_pos (by omega), hfirst]
    exact ⟨0x90, 0xBF, rfl, show 144 ≤ _ by omega, show _ ≤ 191 by omega⟩
  · rw [if_neg (by omega)]
    by_cases hlast : v / 262144 = 4
    · rw [if_neg (by omega), if_pos (by omega), hlast]
      exact ⟨0x80, 0x8F, rfl, show 128 ≤ _ by omega, show _ ≤ 143 by omega⟩
    · rw [if_pos (by omega), show v / 262144 % 8 + 240 - 0xF0 = v / 262144 by omega]
      exact ⟨0x80, 0xBF, rfl, show 128 ≤ _ by omega, show _ ≤ 191 by omega⟩

theorem decodeFrom_utf8EncodeChar (c : Char) (rest : List UInt8) :
    decodeFrom none (String.utf8EncodeChar c ++ rest) = c :: decodeFrom none rest := by
  have hchar : Char.ofNat c.val.toNat = c := Char.ofNat_toNat c
  have hvalid : c.val.toNat < 0xD800 ∨ 0xDFFF < c.val.toNat ∧ c.val.toNat < 0x110000 := c.valid
  simp only [String.utf8EncodeChar]
  generalize c.val.toNat = v at hchar hvalid
  split
  next hone =>
    -- the bits of the code point are those of its only byte
    have hnat : (UInt8.ofNat v).toNat = v := UInt8.toNat_ofNat_of_lt (show v < 256 by omega)
    have hascii : UInt8.ofNat v < 0x80 := by
      rw [UInt8.lt_iff_toNat_lt, hnat]
      exact Nat.lt_succ_of_le hone
    rw [List.singleton_append, decodeFrom, if_pos hascii, hnat, hchar]
  next hone =>
  split
  next htwo =>
    have hstart : Pending.start? (UInt8.ofNat (v / 64 % 32 + 192)) =
        some ⟨v / 64, 0, 0x80, 0xBF⟩ := by
      rw [Pending.start?_ofNat (by omega), if_neg (by omega), if_pos (by omega),
        show v / 64 % 32 + 192 - 0xC0 = v / 64 by omega]
    rw [List.cons_append, decodeFrom_none_of_start (by omega) (by omega) hstart, List.cons_append,
      decodeFrom_continued (by omega), show v / 64 * 64 + v % 64 = v by omega, hchar]
    rfl
  next htwo =>
  split
  next hthree =>
    obtain ⟨low, high, hstart, hlow, hhigh⟩ :=
      Pending.exists_start?_three (show 0x800 ≤ v by omega) (by omega) (by omega)
    rw [List.cons_append, decodeFrom_none_of_start (by omega) (by omega) hstart, List.cons_append,
      decodeFrom_some_ofNat (by omega) hlow hhigh, List.cons_append]
    simp only
    rw [decodeFrom_continued (by omega),
      show (v / 4096 * 64 + (v / 64 % 64 + 128 - 0x80)) * 64 + v % 64 = v by omega, hchar]
    rfl
  next hthree =>
    obtain ⟨low, high, hstart, hlow, hhigh⟩ :=
      Pending.exists_start?_four (show 0x10000 ≤ v by omega) (by omega)
    rw [List.cons_append, decodeFrom_none_of_start (by omega) (by omega) hstart, List.cons_append,
      decodeFrom_some_ofNat (by omega) hlow hhigh, List.cons_append]
    simp only
    rw [decodeFrom_some_ofNat (by omega) (show 128 ≤ v / 64 % 64 + 128 by omega)
      (show v / 64 % 64 + 128 ≤ 191 by omega), List.cons_append]
    simp only
    rw [decodeFrom_continued (by omega),
      show ((v / 262144 * 64 + (v / 4096 % 64 + 128 - 0x80)) * 64 + (v / 64 % 64 + 128 - 0x80)) *
        64 + v % 64 = v by omega, hchar]
    rfl

theorem decode_encode (cs : List Char) : decode (encode cs) = cs := by
  unfold decode encode
  induction cs with
  | nil => rfl
  | cons c cs ih => rw [List.flatMap_cons, decodeFrom_utf8EncodeChar, ih]

end RequestFilter.Utf8
