import Mathlib.Data.List.Forall2
import RequestFilter.Bag.QueryString
import RequestFilter.Proofs.OrderedMap
import RequestFilter.Proofs.Text.Pieces
import RequestFilter.Proofs.Text.Utf8

/-!
# Bags as query strings

A bag of strings and of sequences of strings can be written as a query string:
one pair for a string, and one for each element of a sequence under the name of
the field with brackets behind it. With every byte of names and values escaped,
no character of them means anything to the reader, which finds the bag again.
-/

namespace RequestFilter

namespace QueryString

/-- A digit of a hexadecimal numeral, in either case. -/
def IsHexDigit (value : Nat) (digit : Char) : Prop :=
  digit = Nat.digitChar value ∨ digit = (Nat.digitChar value).toUpper

instance (value : Nat) (digit : Char) : Decidable (IsHexDigit value digit) :=
  inferInstanceAs (Decidable (_ ∨ _))

/-- Every byte is written as a percent sign and two hexadecimal digits. -/
inductive PercentEncodes : List UInt8 → List Char → Prop
  | nil : PercentEncodes [] []
  | cons {byte : UInt8} {bytes : List UInt8} {high low : Char} {written : List Char}
      (hhigh : IsHexDigit (byte.toNat / 16) high) (hlow : IsHexDigit (byte.toNat % 16) low)
      (h : PercentEncodes bytes written) :
      PercentEncodes (byte :: bytes) ('%' :: high :: low :: written)

/-- Bytes and their writing are compared three characters at a time. -/
instance decidablePercentEncodes (bytes : List UInt8) (written : List Char) :
    Decidable (PercentEncodes bytes written) :=
  match bytes, written with
  | [], [] => .isTrue .nil
  | [], _ :: _ => .isFalse nofun
  | byte :: bytes, sign :: high :: low :: written =>
      have := decidablePercentEncodes bytes written
      decidable_of_iff (sign = '%' ∧ IsHexDigit (byte.toNat / 16) high ∧
          IsHexDigit (byte.toNat % 16) low ∧ PercentEncodes bytes written)
        ⟨fun ⟨hsign, hhigh, hlow, h⟩ => hsign ▸ .cons hhigh hlow h,
          fun | .cons hhigh hlow h => ⟨rfl, hhigh, hlow, h⟩⟩
  | _ :: _, [] | _ :: _, [_] | _ :: _, [_, _] => .isFalse nofun

/-- A text with all its bytes written in this way. -/
def Escapes (text : String) (written : List Char) : Prop :=
  PercentEncodes (Utf8.encode text.toList) written

/-- The pairs that stand for an entry of a bag. -/
def entryPairs : String × Value → List (String × String)
  | (field, .scalar value) => [(field, value.text)]
  | (field, .sequence values) => values.map fun value => (field ++ "[]", value.text)
  | (_, .null) | (_, .composite _) => []

def WritesPair (pair : String × String) (written : List Char) : Prop :=
  ∃ key value, Escapes pair.1 key ∧ Escapes pair.2 value ∧ written = key ++ '=' :: value

/-- A pair as it is read. -/
def readPair (pair : String × String) : List Char × List Char :=
  (pair.1.toList, pair.2.toList)

/-- A query string of a bag: its pairs in order between ampersands, with or without a question
mark in front. -/
def Writes (bag : Bag) (query : String) : Prop :=
  ∃ parts, List.Forall₂ WritesPair (bag.entries.flatMap entryPairs) parts ∧
    (query.toList = ['&'].intercalate parts ∨ query.toList = '?' :: ['&'].intercalate parts)

/-- What query strings can give to a field: a string, unless the name of the field ends in
brackets, or some strings in a sequence. -/
def IsExpressible : String × Value → Prop
  | (field, .scalar value) => value.kind = .string ∧ ¬ ['[', ']'] <:+ field.toList
  | (_, .sequence values) => values ≠ [] ∧ ∀ value ∈ values, value.kind = .string
  | (_, .null) | (_, .composite _) => False

/-- A hexadecimal digit is one byte, which has its value and separates nothing. -/
theorem IsHexDigit.exists_byte {value : Nat} {digit : Char} (hvalue : value < 16)
    (h : IsHexDigit value digit) :
    ∃ b, String.utf8EncodeChar digit = [b] ∧ hexByte? b = some (UInt8.ofNat value) ∧
      b ≠ 0x26 ∧ b ≠ 0x3D := by
  have hall : ∀ value < 16, [Nat.digitChar value, (Nat.digitChar value).toUpper].all fun digit =>
      String.utf8EncodeChar digit = [digit.toUInt8] ∧
        hexByte? digit.toUInt8 = some (UInt8.ofNat value) ∧
        digit.toUInt8 ≠ 0x26 ∧ digit.toUInt8 ≠ 0x3D := by
    decide
  have hdigit := List.all_eq_true.mp (hall value hvalue) digit (by simpa [IsHexDigit] using h)
  exact ⟨digit.toUInt8, of_decide_eq_true hdigit⟩

/-- An escaped byte is read back, whatever stands behind it. -/
theorem unescape_percent {byte high low : UInt8}
    (hhigh : hexByte? high = some (UInt8.ofNat (byte.toNat / 16)))
    (hlow : hexByte? low = some (UInt8.ofNat (byte.toNat % 16))) (rest : List UInt8) :
    unescape (0x25 :: high :: low :: rest) = byte :: unescape rest := by
  have hbyte : UInt8.ofNat (byte.toNat / 16) * 16 + UInt8.ofNat (byte.toNat % 16) = byte := by
    have hbound : byte.toNat < 256 := byte.toNat_lt
    have hdigit : ∀ n < 16, (UInt8.ofNat n).toNat = n := fun n hn =>
      UInt8.toNat_ofNat_of_lt (Nat.lt_of_lt_of_le hn (by decide))
    refine UInt8.toNat_inj.mp ?_
    rw [UInt8.toNat_add, UInt8.toNat_mul, hdigit _ (by omega), hdigit _ (by omega),
      show (16 : UInt8).toNat = 16 from rfl]
    omega
  simp [unescape, hhigh, hlow, hbyte]

/-- Escaped bytes are read back, and none of them is a separator. -/
theorem PercentEncodes.unescape_encode {bytes : List UInt8} {written : List Char}
    (h : PercentEncodes bytes written) :
    unescape (Utf8.encode written) = bytes ∧ 0x26 ∉ Utf8.encode written ∧
      0x3D ∉ Utf8.encode written := by
  induction h with
  | nil => exact ⟨rfl, List.not_mem_nil, List.not_mem_nil⟩
  | @cons byte bytes high low written hhigh hlow _ ih =>
      have hbound : byte.toNat < 256 := byte.toNat_lt
      obtain ⟨bhigh, hhighByte, hhighValue, hhighPlain⟩ := hhigh.exists_byte (by omega)
      obtain ⟨blow, hlowByte, hlowValue, hlowPlain⟩ := hlow.exists_byte (by omega)
      have hencode : Utf8.encode ('%' :: high :: low :: written) =
          0x25 :: bhigh :: blow :: Utf8.encode written := by
        rw [Utf8.encode, List.flatMap_cons, List.flatMap_cons, List.flatMap_cons, hhighByte,
          hlowByte]
        rfl
      obtain ⟨hrest, hampersand, hequals⟩ := ih
      rw [hencode, unescape_percent hhighValue hlowValue, hrest]
      refine ⟨rfl, ?_, ?_⟩
      · simp [hampersand, hhighPlain.1.symm, hlowPlain.1.symm]
      · simp [hequals, hhighPlain.2.symm, hlowPlain.2.symm]

theorem PercentEncodes.head?_ne {bytes : List UInt8} {written : List Char}
    (h : PercentEncodes bytes written) : written.head? ≠ some '?' := by
  cases h <;> simp

/-- A written pair is read as that pair. -/
theorem WritesPair.decodePair_encode {pair : String × String} {written : List Char}
    (h : WritesPair pair written) :
    decodePair (Utf8.encode written) = readPair pair ∧
      Utf8.encode written ≠ [] ∧ 0x26 ∉ Utf8.encode written := by
  obtain ⟨key, value, hkey, hvalue, rfl⟩ := h
  obtain ⟨hkeyBytes, hkeyAmpersand, hkeyEquals⟩ := hkey.unescape_encode
  obtain ⟨hvalueBytes, hvalueAmpersand, _⟩ := hvalue.unescape_encode
  have hencode : Utf8.encode (key ++ '=' :: value) =
      Utf8.encode key ++ 0x3D :: Utf8.encode value := by
    rw [Utf8.encode, List.flatMap_append, List.flatMap_cons]
    rfl
  have hplain : ∀ b ∈ Utf8.encode key, (b != 0x3D) = true := by
    intro b hb
    exact bne_iff_ne.mpr fun heq => hkeyEquals (heq ▸ hb)
  have hsplit : splitPair (Utf8.encode key ++ 0x3D :: Utf8.encode value) =
      (Utf8.encode key, Utf8.encode value) := by
    simp [splitPair, List.takeWhile_append_of_pos hplain, List.dropWhile_append_of_pos hplain]
  rw [hencode, decodePair, hsplit]
  refine ⟨?_, by simp, by simp [hkeyAmpersand, hvalueAmpersand]⟩
  simp only [hkeyBytes, hvalueBytes, Utf8.decode_encode, readPair]

theorem WritesPair.exists_cons {pair : String × String} {written : List Char}
    (h : WritesPair pair written) : ∃ c rest, written = c :: rest ∧ c ≠ '?' := by
  obtain ⟨key, value, hkey, _, rfl⟩ := h
  cases key with
  | nil => exact ⟨'=', value, rfl, by decide⟩
  | cons c rest =>
      exact ⟨c, rest ++ '=' :: value, rfl, fun heq => hkey.head?_ne (congrArg some heq)⟩

theorem encode_intercalate (parts : List (List Char)) :
    Utf8.encode (['&'].intercalate parts) = [0x26].intercalate (parts.map Utf8.encode) := by
  induction parts with
  | nil => rfl
  | cons part rest ih =>
      cases rest with
      | nil => simp
      | cons next others =>
          rw [List.map_cons] at ih
          rw [List.intercalate_cons_cons, List.map_cons, List.map_cons, List.intercalate_cons_cons,
            ← ih, Utf8.encode, List.flatMap_append, List.flatMap_append]
          rfl

/-- Pairs in writing do not begin with a question mark of their own. -/
theorem dropQuestionMark_intercalate {keyed : List (String × String)} {parts : List (List Char)}
    (h : List.Forall₂ WritesPair keyed parts) :
    dropQuestionMark (['&'].intercalate parts) = ['&'].intercalate parts := by
  cases h with
  | nil => rfl
  | @cons pair part keyed parts hpair _ =>
      obtain ⟨c, rest, rfl, hc⟩ := hpair.exists_cons
      have hhead : ∃ others, ['&'].intercalate ((c :: rest) :: parts) = c :: others := by
        cases parts with
        | nil => exact ⟨rest, by simp⟩
        | cons next further => exact ⟨_, List.intercalate_cons_cons⟩
      obtain ⟨others, hothers⟩ := hhead
      rw [hothers, dropQuestionMark]
      rintro _ heq
      exact hc (List.cons.inj heq).1

/-- Every written pair is a piece of its own and is read as that pair. -/
theorem decodePairs_of_writes {keyed : List (String × String)} {parts : List (List Char)}
    (h : List.Forall₂ WritesPair keyed parts) :
    (∀ bytes ∈ parts.map Utf8.encode, bytes ≠ [] ∧ 0x26 ∉ bytes) ∧
      (parts.map Utf8.encode).map decodePair = keyed.map readPair := by
  induction h with
  | nil => exact ⟨by simp, rfl⟩
  | cons hpair _ ih =>
      obtain ⟨hread, hplain⟩ := hpair.decodePair_encode
      refine ⟨List.forall_mem_cons.mpr ⟨hplain, ih.1⟩, ?_⟩
      rw [List.map_cons, List.map_cons, List.map_cons, hread, ih.2]

/-- What is written for pairs is read as those pairs. -/
theorem pairs_eq_of_writes {keyed : List (String × String)} {parts : List (List Char)}
    (h : List.Forall₂ WritesPair keyed parts) {query : List Char}
    (hquery : query = ['&'].intercalate parts ∨ query = '?' :: ['&'].intercalate parts) :
    pairs query = keyed.map readPair := by
  have hdrop : dropQuestionMark query = ['&'].intercalate parts := by
    rcases hquery with rfl | rfl
    · exact dropQuestionMark_intercalate h
    · rfl
  obtain ⟨hplain, hread⟩ := decodePairs_of_writes h
  rw [pairs, hdrop, encode_intercalate, ← hread]
  cases parts with
  | nil => rfl
  | cons part rest =>
      have hkept : ∀ bytes ∈ (part :: rest).map Utf8.encode, (!bytes.isEmpty) = true := by
        intro bytes hbytes
        simpa using (hplain bytes hbytes).1
      rw [pieces_intercalate (by simp) fun bytes hbytes => (hplain bytes hbytes).2,
        List.filter_eq_self.mpr hkept]

theorem bracketedField?_append (field : List Char) :
    bracketedField? (field ++ ['[', ']']) = some field := by
  simp [bracketedField?]

theorem bracketedField?_eq_none {key : List Char} (h : ¬ ['[', ']'] <:+ key) :
    bracketedField? key = none := by
  unfold bracketedField?
  split
  next field hreverse =>
    refine absurd ⟨field.reverse, ?_⟩ h
    rw [← List.reverse_inj, hreverse]
    simp
  next => rfl

theorem string_text {value : Scalar} (h : value.kind = .string) : .string value.text = value := by
  cases value with
  | string s => rfl
  | bool _ | int _ | float _ => contradiction

theorem bracketedField?_readPair (field : String) (value : Scalar) :
    bracketedField? (readPair (field ++ "[]", value.text)).1 = some field.toList := by
  rw [readPair, String.toList_append]
  exact bracketedField?_append field.toList

/-- The first element of a sequence begins it. -/
theorem addPair_of_find?_eq_none {bag : Bag} {field : String} {value : Scalar}
    (hvalue : value.kind = .string) (hfresh : bag.find? field = none) :
    addPair bag (readPair (field ++ "[]", value.text)) = bag.insert field (.sequence [value]) := by
  rw [addPair, bracketedField?_readPair]
  simp only [String.ofList_toList, hfresh, readPair, string_text hvalue]

/-- A further element of a sequence goes to its end. -/
theorem addPair_of_find?_eq_some {bag : Bag} {field : String} {front : List Scalar}
    {value : Scalar} (hvalue : value.kind = .string)
    (hfront : bag.find? field = some (.sequence front)) :
    addPair bag (readPair (field ++ "[]", value.text)) =
      bag.insert field (.sequence (front ++ [value])) := by
  rw [addPair, bracketedField?_readPair]
  simp only [String.ofList_toList, hfront, readPair, string_text hvalue]

theorem foldl_addPair_sequence (bag : Bag) (field : String) (front : List Scalar)
    {values : List Scalar} (hvalues : ∀ value ∈ values, value.kind = .string) :
    (values.map fun value => readPair (field ++ "[]", value.text)).foldl addPair
        (bag.insert field (.sequence front)) =
      bag.insert field (.sequence (front ++ values)) := by
  induction values generalizing front with
  | nil => simp
  | cons value rest ih =>
      obtain ⟨hvalue, hrest⟩ := List.forall_mem_cons.mp hvalues
      rw [List.map_cons, List.foldl_cons,
        addPair_of_find?_eq_some hvalue (OrderedMap.find?_insert_self bag),
        OrderedMap.insert_insert, ih _ hrest, List.append_assoc, List.singleton_append]

/-- The pairs of an entry add that entry. -/
theorem foldl_addPair_entryPairs {bag : Bag} {field : String} {value : Value}
    (hfresh : field ∉ bag.names) (h : IsExpressible (field, value)) :
    ((entryPairs (field, value)).map readPair).foldl addPair bag = bag.insert field value := by
  cases value with
  | scalar value =>
      have hplain : bracketedField? field.toList = none := bracketedField?_eq_none h.2
      simp [entryPairs, addPair, readPair, hplain, string_text h.1]
  | sequence values =>
      cases values with
      | nil => exact absurd rfl h.1
      | cons value rest =>
          obtain ⟨hvalue, hrest⟩ := List.forall_mem_cons.mp h.2
          have hnone := (OrderedMap.find?_eq_none_iff bag).mpr hfresh
          have htail := foldl_addPair_sequence bag field [value] hrest
          rw [← addPair_of_find?_eq_none hvalue hnone] at htail
          simpa [entryPairs, Function.comp_def] using htail
  | null => exact h.elim
  | composite document => exact h.elim

/-- The pairs of entries with new names add those entries in order. -/
theorem foldl_addPair_flatMap {bag : Bag} {entries : List (String × Value)}
    (hnodup : (entries.map Prod.fst).Nodup) (hdisjoint : bag.names.Disjoint (entries.map Prod.fst))
    (h : ∀ entry ∈ entries, IsExpressible entry) :
    ((entries.flatMap entryPairs).map readPair).foldl addPair bag = bag.insertMany entries := by
  induction entries generalizing bag with
  | nil => rfl
  | cons entry rest ih =>
      obtain ⟨hentry, hrest⟩ := List.forall_mem_cons.mp h
      obtain ⟨hfresh, hnodup⟩ := List.nodup_cons.mp hnodup
      rw [List.map_cons, List.disjoint_cons_right] at hdisjoint
      have hnames : (bag.insert entry.1 entry.2).names.Disjoint (rest.map Prod.fst) :=
        OrderedMap.names_insert_disjoint hdisjoint.2 hfresh
      rw [List.flatMap_cons, List.map_append, List.foldl_append,
        foldl_addPair_entryPairs hdisjoint.1 hentry, ih hnodup hnames hrest]
      rfl

theorem exists_percentEncodes (bytes : List UInt8) : ∃ written, PercentEncodes bytes written := by
  induction bytes with
  | nil => exact ⟨[], .nil⟩
  | cons byte rest ih =>
      obtain ⟨written, hwritten⟩ := ih
      exact ⟨_, .cons (.inl rfl) (.inl rfl) hwritten⟩

theorem exists_writesPair (pair : String × String) : ∃ written, WritesPair pair written := by
  obtain ⟨key, hkey⟩ := exists_percentEncodes (Utf8.encode pair.1.toList)
  obtain ⟨value, hvalue⟩ := exists_percentEncodes (Utf8.encode pair.2.toList)
  exact ⟨_, key, value, hkey, hvalue, rfl⟩

/-- There is a query string for every bag. -/
theorem exists_writes (bag : Bag) : ∃ query, Writes bag query := by
  have hparts : ∀ keyed, ∃ parts, List.Forall₂ WritesPair keyed parts := by
    intro keyed
    induction keyed with
    | nil => exact ⟨[], .nil⟩
    | cons pair rest ih =>
        obtain ⟨part, hpart⟩ := exists_writesPair pair
        obtain ⟨parts, hparts⟩ := ih
        exact ⟨part :: parts, .cons hpart hparts⟩
  obtain ⟨parts, hparts⟩ := hparts (bag.entries.flatMap entryPairs)
  exact ⟨String.ofList (['&'].intercalate parts), parts, hparts, .inl String.toList_ofList⟩

/-- A bag of strings and of sequences of strings has query strings, and each of them is read as
the bag. -/
theorem ofQueryString_eq_of_writes {bag : Bag}
    (h : ∀ entry ∈ bag.entries, IsExpressible entry) :
    (∃ query, Writes bag query) ∧ ∀ query, Writes bag query → Bag.ofQueryString query = bag := by
  refine ⟨exists_writes bag, ?_⟩
  rintro query ⟨parts, hparts, hquery⟩
  have hdisjoint : (∅ : Bag).names.Disjoint (bag.entries.map Prod.fst) :=
    List.disjoint_nil_left _
  calc Bag.ofQueryString query
      = ((bag.entries.flatMap entryPairs).map readPair).foldl addPair ∅ := by
        rw [Bag.ofQueryString, pairs_eq_of_writes hparts hquery]
    _ = OrderedMap.ofList bag.entries := foldl_addPair_flatMap bag.nodup hdisjoint h
    _ = bag := bag.ofList_entries

/-- A field whose name is a pair of brackets has a sequence with an empty string in it, and another
one has the reader's own signs in its name and value. -/
theorem ofQueryString_eq_of_writes_brackets :
    let bag : Bag := .ofList [("é=", .scalar (.string "?")),
      ("[]", .sequence [.string "", .string "&+"])]
    let query := "?%c3%A9%3d=%3F&%5B%5d%5b%5D=&%5B%5D%5B%5D=%26%2B"
    (∀ entry ∈ bag.entries, IsExpressible entry) ∧ Writes bag query ∧
      Bag.ofQueryString query = bag := by
  intro bag query
  have hexpressible : ∀ entry ∈ bag.entries, IsExpressible entry := by
    refine List.forall_mem_cons.mpr ⟨⟨rfl, by decide⟩, List.forall_mem_singleton.mpr ⟨by simp, ?_⟩⟩
    simp [Scalar.kind]
  have hwrites : Writes bag query := by
    refine ⟨["%c3%A9%3d=%3F".toList, "%5B%5d%5b%5D=".toList, "%5B%5D%5B%5D=%26%2B".toList], ?_,
      .inr (by decide +kernel)⟩
    refine .cons ⟨"%c3%A9%3d".toList, "%3F".toList, ?_, ?_, rfl⟩
      (.cons ⟨"%5B%5d%5b%5D".toList, [], ?_, ?_, rfl⟩
        (.cons ⟨"%5B%5D%5B%5D".toList, "%26%2B".toList, ?_, ?_, rfl⟩ .nil))
    all_goals unfold Escapes; decide +kernel
  exact ⟨hexpressible, hwrites, (ofQueryString_eq_of_writes hexpressible).2 query hwrites⟩

end QueryString

end RequestFilter
