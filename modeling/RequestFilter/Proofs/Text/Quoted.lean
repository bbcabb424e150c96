import RequestFilter.Proofs.Text.Pieces
import RequestFilter.Text.Quoted

/-!
# Reading quoted text back

A quoted text is on one line and tells every character of the text it was made
from. A short escape is a backslash and a letter; a code point stands between
braces, which are no hexadecimal digits.
-/

namespace RequestFilter

/-- The value of a hexadecimal digit in lower case. -/
def hexDigitValue (c : Char) : Nat :=
  if c.isDigit then c.toNat - '0'.toNat else c.toNat - 'a'.toNat + 10

/-- The number that hexadecimal digits write. -/
def hexNumber (digits : List Char) : Nat :=
  digits.foldl (fun n c => 16 * n + hexDigitValue c) 0

theorem hexDigitValue_digitChar : ∀ d < 16, hexDigitValue (Nat.digitChar d) = d := by
  decide

theorem hexNumber_hexDigits (n : Nat) : hexNumber (hexDigits n) = n := by
  induction n using Nat.strongRecOn with
  | ind n ih =>
      unfold hexDigits
      rw [Nat.toDigits_eq_if (by omega)]
      split
      next h => simp [hexNumber, hexDigitValue_digitChar n h]
      next h =>
        have hfront : hexNumber (Nat.toDigits 16 (n / 16)) = n / 16 := ih (n / 16) (by omega)
        unfold hexNumber at hfront ⊢
        rw [List.foldl_append, hfront, List.foldl_cons, List.foldl_nil,
          hexDigitValue_digitChar _ (Nat.mod_lt n (by omega))]
        omega

theorem hexDigits_injective : Function.Injective hexDigits :=
  Function.LeftInverse.injective hexNumber_hexDigits

theorem mem_hexDigits {n : Nat} {c : Char} (h : c ∈ hexDigits n) :
    ∃ d < 16, c = Nat.digitChar d := by
  induction n using Nat.strongRecOn with
  | ind n ih =>
      unfold hexDigits at h ih
      rw [Nat.toDigits_eq_if (by omega)] at h
      split at h
      next hlt => exact ⟨n, hlt, List.mem_singleton.mp h⟩
      next hle =>
        rcases List.mem_append.mp h with hfront | hlast
        · exact ih (n / 16) (by omega) hfront
        · exact ⟨n % 16, Nat.mod_lt n (by omega), List.mem_singleton.mp hlast⟩

/-- What is no hexadecimal digit does not occur among them. -/
theorem not_mem_hexDigits {c : Char} (h : ∀ d < 16, c ≠ Nat.digitChar d) (n : Nat) :
    c ∉ hexDigits n := by
  intro hmem
  obtain ⟨d, hd, heq⟩ := mem_hexDigits hmem
  exact h d hd heq

namespace Quoted

/-- Characters with an escape of one letter, and that letter. -/
def shortEscapes : List (Char × Char) := [
  ('"', '"'), ('\\', '\\'), ('\n', 'n'), ('\r', 'r'), ('\t', 't'), ('\x00', '0')]

/-- The three ways in which a character is written. -/
inductive Form (c : Char) : List Char → Prop
  | itself (hquote : c ≠ '"') (hbackslash : c ≠ '\\') (hbreak : c ≠ '\n') : Form c [c]
  | short (letter : Char) (h : (c, letter) ∈ shortEscapes) : Form c ['\\', letter]
  | code : Form c ('\\' :: 'u' :: '\x7b' :: (hexDigits c.toNat ++ ['\x7d']))

theorem form_escapeChar (c : Char) : Form c (escapeChar c) := by
  unfold escapeChar
  split
  next h => exact .short '"' (by simp [shortEscapes, h])
  next hquote =>
  split
  next h => exact .short '\\' (by simp [shortEscapes, h])
  next hbackslash =>
  split
  next h => exact .short 'n' (by simp [shortEscapes, h])
  next hbreak =>
  split
  next h => exact .short 'r' (by simp [shortEscapes, h])
  split
  next h => exact .short 't' (by simp [shortEscapes, h])
  split
  next h => exact .short '0' (by simp [shortEscapes, h])
  split
  · exact .itself hquote hbackslash hbreak
  · exact .code

theorem Form.exists_cons {c : Char} {cs : List Char} (h : Form c cs) :
    ∃ first rest, cs = first :: rest ∧ first ≠ '"' := by
  cases h with
  | itself hquote _ _ => exact ⟨c, [], rfl, hquote⟩
  | short letter _ => exact ⟨'\\', [letter], rfl, by decide⟩
  | code => exact ⟨'\\', _, rfl, by decide⟩

/-- The letter of a short escape tells the character, and it begins no code point. -/
theorem eq_of_mem_shortEscapes {c d letter letter' : Char} (h : (c, letter) ∈ shortEscapes)
    (h' : (d, letter') ∈ shortEscapes) : letter ≠ 'u' ∧ (letter = letter' → c = d) := by
  have hall : ∀ entry ∈ shortEscapes, ∀ entry' ∈ shortEscapes,
      entry.2 ≠ 'u' ∧ (entry.2 = entry'.2 → entry.1 = entry'.1) := by decide
  exact hall _ h _ h'

/-- No form of a character begins a form of another one. -/
theorem Form.eq_of_append_eq {c d : Char} {cs ds rest rest' : List Char} (hc : Form c cs)
    (hd : Form d ds) (h : cs ++ rest = ds ++ rest') : c = d ∧ rest = rest' := by
  cases hc with
  | itself _ hbackslash _ =>
      cases hd with
      | itself => exact List.cons.inj h
      | short _ _ => exact absurd (List.cons.inj h).1 hbackslash
      | code => exact absurd (List.cons.inj h).1 hbackslash
  | short letter hletter =>
      cases hd with
      | itself _ hbackslash _ => exact absurd (List.cons.inj h).1.symm hbackslash
      | short letter' hletter' =>
          obtain ⟨-, hrest⟩ := List.cons.inj h
          obtain ⟨hsame, hrest⟩ := List.cons.inj hrest
          exact ⟨(eq_of_mem_shortEscapes hletter hletter').2 hsame, hrest⟩
      | code =>
          obtain ⟨-, hrest⟩ := List.cons.inj h
          exact absurd (List.cons.inj hrest).1 (eq_of_mem_shortEscapes hletter hletter).1
  | code =>
      cases hd with
      | itself _ hbackslash _ => exact absurd (List.cons.inj h).1.symm hbackslash
      | short letter' hletter' =>
          obtain ⟨-, hrest⟩ := List.cons.inj h
          exact absurd (List.cons.inj hrest).1.symm (eq_of_mem_shortEscapes hletter' hletter').1
      | code =>
          -- the first closing brace ends the digits
          have hbrace : ∀ n, '\x7d' ∉ hexDigits n := not_mem_hexDigits (by decide)
          simp only [List.cons_append, List.append_assoc, List.nil_append, List.cons.injEq,
            true_and] at h
          obtain ⟨hdigits, hrest⟩ := eq_of_append_separator_eq (hbrace _) (hbrace _) h
          exact ⟨Char.toNat_inj.mp (hexDigits_injective hdigits), hrest⟩

/-- The closing quote ends the text, and what stands before it tells the text. -/
theorem eq_of_flatMap_escapeChar_append_eq {cs ds rest rest' : List Char}
    (h : cs.flatMap escapeChar ++ '"' :: rest = ds.flatMap escapeChar ++ '"' :: rest') :
    cs = ds ∧ rest = rest' := by
  induction cs generalizing ds with
  | nil =>
      cases ds with
      | nil => exact ⟨rfl, (List.cons.inj h).2⟩
      | cons d ds =>
          obtain ⟨first, others, hform, hne⟩ := (form_escapeChar d).exists_cons
          rw [List.flatMap_cons, hform] at h
          exact absurd (List.cons.inj h).1.symm hne
  | cons c cs ih =>
      cases ds with
      | nil =>
          obtain ⟨first, others, hform, hne⟩ := (form_escapeChar c).exists_cons
          rw [List.flatMap_cons, hform] at h
          exact absurd (List.cons.inj h).1 hne
      | cons d ds =>
          rw [List.flatMap_cons, List.flatMap_cons, List.append_assoc, List.append_assoc] at h
          obtain ⟨rfl, htail⟩ := (form_escapeChar c).eq_of_append_eq (form_escapeChar d) h
          obtain ⟨hsame, hrest⟩ := ih htail
          exact ⟨congrArg _ hsame, hrest⟩

theorem encode_injective : Function.Injective encode := by
  intro cs ds h
  exact (eq_of_flatMap_escapeChar_append_eq (List.cons.inj h).2).1

theorem Form.newline_not_mem {c : Char} {cs : List Char} (h : Form c cs) : '\n' ∉ cs := by
  cases h with
  | itself _ _ hbreak => simpa using Ne.symm hbreak
  | short letter h =>
      have hall : ∀ entry ∈ shortEscapes, '\n' ∉ ['\\', entry.2] := by decide
      exact hall _ h
  | code =>
      have hdigits : '\n' ∉ hexDigits c.toNat := not_mem_hexDigits (by decide) _
      simp [hdigits]

/-- Quoted text is on one line. -/
theorem newline_not_mem_encode (cs : List Char) : '\n' ∉ encode cs := by
  have hcs : '\n' ∉ cs.flatMap escapeChar := by
    intro h
    obtain ⟨c, _, hc⟩ := List.mem_flatMap.mp h
    exact (form_escapeChar c).newline_not_mem hc
  simp [encode, hcs]

end Quoted

end RequestFilter
