import Mathlib.Data.List.Chain
import Mathlib.Tactic.FinCases
import RequestFilter.Proofs.Text.WordCase
import RequestFilter.Rule

/-!
# Spellings of a rule's name

A name of several words can be spelled with separators, in whatever case its
words are, or by capitals alone. Spellings with separators always lead to the
same rule. Without separators, two words of one letter each that stand side by
side run together into one word, unless the first of them is in lower case.
-/

namespace RequestFilter

/-- A word of the letters from a to z, at least one of them. -/
structure AsciiWord where
  first : Char
  others : List Char
  isLower_first : first.isLower = true
  isLower_others : ∀ c ∈ others, c.isLower = true

inductive LetterCase where
  | lower
  | upper
  | capitalized

namespace AsciiWord

/-- The word has only one letter. -/
def IsSingle (word : AsciiWord) : Prop :=
  word.others = []

instance : DecidablePred IsSingle :=
  fun word => inferInstanceAs (Decidable (word.others = []))

def write (word : AsciiWord) : LetterCase → List Char
  | .lower => word.first :: word.others
  | .upper => (word.first :: word.others).map Char.toUpper
  | .capitalized => word.first.toUpper :: word.others

end AsciiWord

/-- Words with a separator between every two, each word in one of the cases. -/
inductive Separated : List AsciiWord → List Char → Prop
  | last (word : AsciiWord) (letterCase : LetterCase) :
      Separated [word] (word.write letterCase)
  | next (word : AsciiWord) (letterCase : LetterCase) {separator : Char} {words : List AsciiWord}
      {text : List Char} (hseparator : separator ∈ ['_', '-', ' '])
      (hrest : Separated words text) :
      Separated (word :: words) (word.write letterCase ++ separator :: text)

/-- The capitalized words without separators. -/
def studlyCase (words : List AsciiWord) : List Char :=
  words.flatMap fun word => word.write .capitalized

theorem studlyCase_cons (word : AsciiWord) (others : List AsciiWord) :
    studlyCase (word :: others) = word.write .capitalized ++ studlyCase others :=
  List.flatMap_cons

/-- The first word in lower case, and the capitalized others. -/
def camelCase : List AsciiWord → List Char
  | [] => []
  | word :: others => word.write .lower ++ studlyCase others

/-- No two words side by side have only one letter each. -/
def NoSinglesMeet (words : List AsciiWord) : Prop :=
  words.IsChain fun word next => ¬(word.IsSingle ∧ next.IsSingle)

section Letters

variable {c : Char}

theorem not_isSeparatorChar_of_isAlpha (hc : c.isAlpha = true) : isSeparatorChar c = false := by
  cases hseparator : isSeparatorChar c with
  | false => rfl
  | true =>
      simp only [isSeparatorChar, Bool.or_eq_true, decide_eq_true_eq] at hseparator
      rcases hseparator with (rfl | rfl) | rfl <;> cases hc

theorem isAlpha_of_isLower (hc : c.isLower = true) : c.isAlpha = true := by
  have hletter : (c.isUpper || c.isLower) = true := by rw [hc, Bool.or_true]
  exact hletter

/-- What holds of all letters from a to z, checked one by one. -/
theorem forall_of_isLower {P : Char → Prop}
    (h : ∀ n, n < 128 → (Char.ofNat n).isLower = true → P (Char.ofNat n))
    (hc : c.isLower = true) : P c := by
  have hletter := h c.toNat (toNat_lt_of_isAlpha (isAlpha_of_isLower hc))
  rw [Char.ofNat_toNat] at hletter
  exact hletter hc

theorem isUpper_of_isLower (hc : c.isLower = true) : c.isUpper = false :=
  forall_of_isLower (P := fun c => c.isUpper = false) (by decide +kernel) hc

theorem toLower_of_isLower (hc : c.isLower = true) : c.toLower = c :=
  forall_of_isLower (P := fun c => c.toLower = c) (by decide +kernel) hc

theorem isUpper_toUpper_of_isLower (hc : c.isLower = true) : c.toUpper.isUpper = true :=
  forall_of_isLower (P := fun c => c.toUpper.isUpper = true) (by decide +kernel) hc

theorem isLower_toUpper_of_isLower (hc : c.isLower = true) : c.toUpper.isLower = false :=
  forall_of_isLower (P := fun c => c.toUpper.isLower = false) (by decide +kernel) hc

theorem toUpper_toUpper_of_isLower (hc : c.isLower = true) : c.toUpper.toUpper = c.toUpper :=
  forall_of_isLower (P := fun c => c.toUpper.toUpper = c.toUpper) (by decide +kernel) hc

theorem toLower_toUpper_of_isLower (hc : c.isLower = true) : c.toUpper.toLower = c :=
  forall_of_isLower (P := fun c => c.toUpper.toLower = c) (by decide +kernel) hc

theorem isAlpha_toUpper_of_isLower (hc : c.isLower = true) : c.toUpper.isAlpha = true := by
  have hletter : (c.toUpper.isUpper || c.toUpper.isLower) = true := by
    rw [isUpper_toUpper_of_isLower hc, Bool.true_or]
  exact hletter

/-- A letter is put in the case that its place in the word asks for. -/
theorem recased_of_isAlpha (hc : c.isAlpha = true) (begins : Bool) (rest : List Char) :
    recased begins (c :: rest) =
      (if begins then c.toUpper else c.toLower) :: recased (endsWordBefore c rest) rest := by
  rw [recased, not_isSeparatorChar_of_isAlpha hc]
  rfl

end Letters

/-- The text is at its end, or a separator is in front of it. -/
def Paused (text : List Char) : Prop :=
  ∀ c ∈ text.head?, isSeparatorChar c = true

/-- Behind a letter in lower case, the text is read as from its front. -/
def Resumed (text : List Char) : Prop :=
  ∀ c : Char, c.isLower = true → recased (endsWordBefore c text) text = recased true text

section Runs

variable {text : List Char}

theorem paused_nil : Paused [] := fun _ hc => nomatch hc

/-- A separator pauses. -/
theorem paused_separator {separator : Char} (h : separator ∈ ['_', '-', ' '])
    (text : List Char) : Paused (separator :: text) := by
  intro c hc
  cases hc
  fin_cases h <;> rfl

/-- It makes no difference to such a text what stands before it. -/
theorem Paused.recased_eq (h : Paused text) (begins : Bool) :
    recased begins text = recased true text := by
  cases text with
  | nil => rfl
  | cons c rest => simp [recased, h c rfl]

theorem Paused.resumed (h : Paused text) : Resumed text :=
  fun _ _ => h.recased_eq _

/-- Capitalized words begin anew behind a letter in lower case. -/
theorem resumed_studlyCase (words : List AsciiWord) : Resumed (studlyCase words) := by
  intro c hc
  cases words with
  | nil => rfl
  | cons word others =>
      have hends : endsWordBefore c (studlyCase (word :: others)) = true := by
        simp [studlyCase, AsciiWord.write, endsWordBefore, hc,
          isUpper_toUpper_of_isLower word.isLower_first]
      rw [hends]

variable {c : Char} {rest : List Char}

/-- A run of letters in lower case is one word, up to where the next one begins. -/
theorem recased_lower_run (hc : c.isLower = true) (hrest : ∀ d ∈ rest, d.isLower = true)
    (htext : Resumed text) (begins : Bool) :
    recased begins (c :: (rest ++ text)) =
      (if begins then c.toUpper else c) :: (rest ++ recased true text) := by
  induction rest generalizing c begins with
  | nil =>
      rw [recased_of_isAlpha (isAlpha_of_isLower hc), toLower_of_isLower hc, List.nil_append,
        List.nil_append, htext c hc]
  | cons d rest ih =>
      obtain ⟨hd, hrest⟩ := List.forall_mem_cons.mp hrest
      have hends : endsWordBefore c (d :: (rest ++ text)) = false := by
        simp [endsWordBefore, isUpper_of_isLower hc, isUpper_of_isLower hd]
      rw [recased_of_isAlpha (isAlpha_of_isLower hc), toLower_of_isLower hc, List.cons_append,
        hends, ih hd hrest]
      rfl

theorem Paused.any_isLower_head? (h : Paused text) : text.head?.any Char.isLower = false := by
  cases text with
  | nil => rfl
  | cons c rest =>
      cases hlower : c.isLower with
      | false => exact hlower
      | true =>
          have hseparator := h c rfl
          rw [not_isSeparatorChar_of_isAlpha (isAlpha_of_isLower hlower)] at hseparator
          cases hseparator

/-- So is a run of capitals, up to a separator. -/
theorem recased_upper_run (hc : c.isLower = true) (hrest : ∀ d ∈ rest, d.isLower = true)
    (htext : Paused text) (begins : Bool) :
    recased begins (c.toUpper :: (rest.map Char.toUpper ++ text)) =
      (if begins then c.toUpper else c) :: (rest ++ recased true text) := by
  induction rest generalizing c begins with
  | nil =>
      rw [recased_of_isAlpha (isAlpha_toUpper_of_isLower hc), toUpper_toUpper_of_isLower hc,
        toLower_toUpper_of_isLower hc, List.map_nil, List.nil_append, List.nil_append,
        htext.recased_eq]
  | cons d rest ih =>
      obtain ⟨hd, hrest⟩ := List.forall_mem_cons.mp hrest
      -- nothing in lower case follows two capitals here, so they are not cut apart
      have hthird : (rest.map Char.toUpper ++ text).head?.any Char.isLower = false := by
        cases rest with
        | nil => exact htext.any_isLower_head?
        | cons e others => exact isLower_toUpper_of_isLower (hrest e List.mem_cons_self)
      have hends : endsWordBefore c.toUpper (d.toUpper :: (rest.map Char.toUpper ++ text)) =
          false := by
        rw [endsWordBefore, isLower_toUpper_of_isLower hc, hthird, Bool.false_and, Bool.and_false,
          Bool.or_false]
      rw [recased_of_isAlpha (isAlpha_toUpper_of_isLower hc), toUpper_toUpper_of_isLower hc,
        toLower_toUpper_of_isLower hc, List.map_cons, List.cons_append, hends, ih hd hrest]
      rfl

end Runs

namespace AsciiWord

variable (word : AsciiWord) {text : List Char}

theorem recased_lower (htext : Resumed text) :
    recased true (word.write .lower ++ text) = word.write .capitalized ++ recased true text :=
  recased_lower_run word.isLower_first word.isLower_others htext true

theorem recased_upper (htext : Paused text) :
    recased true (word.write .upper ++ text) = word.write .capitalized ++ recased true text :=
  recased_upper_run word.isLower_first word.isLower_others htext true

theorem recased_capitalized (text : List Char) :
    recased true (word.write .capitalized ++ text) =
      word.first.toUpper :: recased (endsWordBefore word.first.toUpper (word.others ++ text))
        (word.others ++ text) := by
  have hcons : word.write .capitalized ++ text = word.first.toUpper :: (word.others ++ text) := rfl
  rw [hcons, recased_of_isAlpha (isAlpha_toUpper_of_isLower word.isLower_first),
    toUpper_toUpper_of_isLower word.isLower_first]
  rfl

/-- The letters behind the capital keep the word together. -/
theorem recased_capitalized_of_not_isSingle (hsingle : ¬word.IsSingle) (htext : Resumed text) :
    recased true (word.write .capitalized ++ text) =
      word.write .capitalized ++ recased true text := by
  rw [recased_capitalized, write]
  have hothers := word.isLower_others
  cases hletters : word.others with
  | nil => exact absurd hletters hsingle
  | cons c rest =>
      rw [hletters] at hothers
      obtain ⟨hc, hrest⟩ := List.forall_mem_cons.mp hothers
      have hends : endsWordBefore word.first.toUpper (c :: (rest ++ text)) = false := by
        simp [endsWordBefore, isUpper_of_isLower hc]
      rw [List.cons_append, hends, recased_lower_run hc hrest htext]
      rfl

/-- Before a separator, the case of a word makes no difference. -/
theorem recased_write (letterCase : LetterCase) (htext : Paused text) :
    recased true (word.write letterCase ++ text) =
      word.write .capitalized ++ recased true text := by
  cases letterCase with
  | lower => exact word.recased_lower htext.resumed
  | upper => exact word.recased_upper htext
  | capitalized =>
      by_cases hsingle : word.IsSingle
      · have hletter : word.write .capitalized = [word.first.toUpper] := congrArg _ hsingle
        rw [recased_capitalized, hsingle, List.nil_append, htext.recased_eq, hletter]
        rfl
      · exact word.recased_capitalized_of_not_isSingle hsingle htext.resumed

theorem isPlain_of_mem_write {letterCase : LetterCase} :
    ∀ c ∈ word.write letterCase, isPlain c = true := by
  have hplain : ∀ c : Char, c.isLower = true → isPlain c = true ∧ isPlain c.toUpper = true := by
    intro c hc
    rw [isPlain, isPlain, isAlpha_of_isLower hc, isAlpha_toUpper_of_isLower hc]
    exact ⟨rfl, rfl⟩
  have hfirst := hplain word.first word.isLower_first
  have hothers := fun c hc => hplain c (word.isLower_others c hc)
  cases letterCase with
  | lower => exact List.forall_mem_cons.mpr ⟨hfirst.1, fun c hc => (hothers c hc).1⟩
  | upper =>
      refine List.forall_mem_cons.mpr ⟨hfirst.2, List.forall_mem_map.mpr fun c hc => ?_⟩
      exact (hothers c hc).2
  | capitalized => exact List.forall_mem_cons.mpr ⟨hfirst.2, fun c hc => (hothers c hc).1⟩

end AsciiWord

theorem isPlain_of_mem_studlyCase (words : List AsciiWord) :
    ∀ c ∈ studlyCase words, isPlain c = true := by
  intro c hc
  obtain ⟨word, _, hword⟩ := List.mem_flatMap.mp hc
  exact word.isPlain_of_mem_write c hword

theorem Separated.isPlain {words : List AsciiWord} {text : List Char} (h : Separated words text) :
    ∀ c ∈ text, isPlain c = true := by
  induction h with
  | last word letterCase => exact word.isPlain_of_mem_write
  | next word letterCase hseparator hrest ih =>
      refine List.forall_mem_append.mpr ⟨word.isPlain_of_mem_write, ?_⟩
      refine List.forall_mem_cons.mpr ⟨?_, ih⟩
      fin_cases hseparator <;> rfl

/-- Each word of a text with separators is found and capitalized. -/
theorem Separated.recased_eq {words : List AsciiWord} {text : List Char}
    (h : Separated words text) : recased true text = studlyCase words := by
  induction h with
  | last word letterCase =>
      have hword := word.recased_write letterCase paused_nil
      rwa [List.append_nil] at hword
  | next word letterCase hseparator hrest ih =>
      have hpaused := paused_separator hseparator
      rw [word.recased_write letterCase (hpaused _), studlyCase_cons, ← ih]
      refine congrArg (word.write .capitalized ++ ·) ?_
      rw [recased, if_pos (hpaused [] _ rfl)]

/-- A capital ends a word before capitalized words exactly when the first of them has a second
letter. -/
theorem endsWordBefore_studlyCase {c : Char} (hc : c.isLower = true) (next : AsciiWord)
    (others : List AsciiWord) :
    endsWordBefore c.toUpper (studlyCase (next :: others)) = decide (¬next.IsSingle) := by
  have hcons : studlyCase (next :: others) =
      next.first.toUpper :: (next.others ++ studlyCase others) := studlyCase_cons next others
  rw [hcons, endsWordBefore, isLower_toUpper_of_isLower hc, isUpper_toUpper_of_isLower hc,
    isUpper_toUpper_of_isLower next.isLower_first, Bool.false_and, Bool.false_or, Bool.true_and, Bool.true_and]
  have hlower := next.isLower_others
  cases hletters : next.others with
  | nil =>
      have hhead : (studlyCase others).head?.any Char.isLower = false := by
        cases others with
        | nil => rfl
        | cons word rest => exact isLower_toUpper_of_isLower word.isLower_first
      have hsingle : next.IsSingle := hletters
      rw [List.nil_append, hhead, decide_eq_false (not_not_intro hsingle)]
  | cons d rest =>
      have hsingle : ¬next.IsSingle := fun h => List.cons_ne_nil d rest (hletters.symm.trans h)
      rw [hletters] at hlower
      rw [decide_eq_true hsingle]
      exact hlower d List.mem_cons_self

/-- A word in progress takes up the capital of the next one. -/
theorem recased_false_studlyCase_ne (next : AsciiWord) (others : List AsciiWord) :
    recased false (studlyCase (next :: others)) ≠ studlyCase (next :: others) := by
  have hcons : studlyCase (next :: others) =
      next.first.toUpper :: (next.others ++ studlyCase others) := studlyCase_cons next others
  rw [hcons, recased_of_isAlpha (isAlpha_toUpper_of_isLower next.isLower_first),
    toLower_toUpper_of_isLower next.isLower_first]
  intro hsame
  have hfirst : next.first = next.first.toUpper := (List.cons.inj hsame).1
  have hlower := next.isLower_first
  rw [hfirst, isLower_toUpper_of_isLower next.isLower_first] at hlower
  cases hlower

/-- Capitals alone tell the words apart unless two words of one letter stand side by side. -/
theorem recased_studlyCase_iff (words : List AsciiWord) :
    recased true (studlyCase words) = studlyCase words ↔ NoSinglesMeet words := by
  induction words with
  | nil => exact iff_of_true rfl .nil
  | cons word rest ih =>
      rw [studlyCase_cons, NoSinglesMeet]
      by_cases hsingle : word.IsSingle
      · have hletter : word.write .capitalized = [word.first.toUpper] := congrArg _ hsingle
        rw [word.recased_capitalized, hsingle, List.nil_append, hletter, List.singleton_append,
          List.cons.injEq, eq_self_iff_true, true_and]
        cases rest with
        | nil => exact iff_of_true rfl (.singleton word)
        | cons next others =>
            rw [endsWordBefore_studlyCase word.isLower_first, List.isChain_cons_cons]
            by_cases hnext : next.IsSingle
            · -- the second letter is read as a part of the first word, and loses its capital
              have hne := recased_false_studlyCase_ne next others
              rw [decide_eq_false (not_not_intro hnext)]
              exact iff_of_false hne fun hmeets => hmeets.1 ⟨hsingle, hnext⟩
            · rw [decide_eq_true hnext, ih]
              exact (and_iff_right fun hboth => hnext hboth.2).symm
      · have hmeets : ∀ next ∈ rest.head?, ¬(word.IsSingle ∧ next.IsSingle) :=
          fun _ _ hboth => hsingle hboth.1
        rw [word.recased_capitalized_of_not_isSingle hsingle (resumed_studlyCase rest),
          List.append_cancel_left_eq, ih, List.isChain_cons]
        exact (and_iff_right hmeets).symm

theorem recased_camelCase_iff (first : AsciiWord) (rest : List AsciiWord) :
    recased true (camelCase (first :: rest)) = studlyCase (first :: rest) ↔
      NoSinglesMeet rest := by
  rw [camelCase, first.recased_lower (resumed_studlyCase rest), studlyCase_cons,
    List.append_cancel_left_eq, recased_studlyCase_iff]

theorem ruleName_eq_iff {rulePrefix : String} {text name : List Char}
    (htext : ∀ c ∈ text, isPlain c = true) :
    ruleName rulePrefix (String.ofList text) = rulePrefix ++ String.ofList name ↔
      recased true text = name := by
  rw [ruleName, pascalCase, String.toList_ofList, pascalChars_eq_recased htext,
    String.append_right_inj, String.ofList_inj]

/-- Every spelling with separators leads to the rule that is named by the capitalized words. The
spelling in camel case leads there exactly when no two words behind the first one that stand side by
side have a single letter each, and the spelling by capitals exactly when no two words do. -/
theorem ruleName_of_spelling (rulePrefix : String) (first : AsciiWord) (rest : List AsciiWord) :
    let words := first :: rest
    let name := rulePrefix ++ String.ofList (studlyCase words)
    (∀ field : String, Separated words field.toList → ruleName rulePrefix field = name) ∧
    (ruleName rulePrefix (String.ofList (camelCase words)) = name ↔ NoSinglesMeet rest) ∧
    (ruleName rulePrefix (String.ofList (studlyCase words)) = name ↔ NoSinglesMeet words) := by
  intro words name
  refine ⟨fun field hfield => ?_, ?_, ?_⟩
  · rw [← String.ofList_toList (s := field)]
    exact (ruleName_eq_iff hfield.isPlain).mpr hfield.recased_eq
  · rw [← recased_camelCase_iff first rest]
    refine ruleName_eq_iff (List.forall_mem_append.mpr ⟨first.isPlain_of_mem_write, ?_⟩)
    exact isPlain_of_mem_studlyCase rest
  · rw [← recased_studlyCase_iff words]
    exact ruleName_eq_iff (isPlain_of_mem_studlyCase words)

namespace AsciiWord

def letterX : AsciiWord := ⟨'x', [], rfl, List.forall_mem_nil _⟩

def letterY : AsciiWord := ⟨'y', [], rfl, List.forall_mem_nil _⟩

def axis : AsciiWord := ⟨'a', ['x', 'i', 's'], rfl, by simp⟩

end AsciiWord

open AsciiWord in
/-- Two single letters are told apart by a separator, and by the lower case of the first; capitals
alone do not tell them apart. -/
theorem ruleName_of_spelling_axis :
    Separated [letterX, letterY, axis] "X-y_AXIS".toList ∧
      ruleName "criteria" "X-y_AXIS" = "criteriaXYAxis" ∧
      ruleName "criteria" "xYAxis" = "criteriaXYAxis" ∧
      ruleName "criteria" "XYAxis" ≠ "criteriaXYAxis" := by
  have hspelled : Separated [letterX, letterY, axis] "X-y_AXIS".toList :=
    .next letterX .capitalized (by simp : '-' ∈ _)
      (.next letterY .lower (by simp : '_' ∈ _) (.last axis .upper))
  obtain ⟨hseparated, hcamel, hstudly⟩ := ruleName_of_spelling "criteria" letterX [letterY, axis]
  refine ⟨hspelled, hseparated _ hspelled, hcamel.mpr ?_, fun hsame => ?_⟩
  · exact .cons_cons (fun hboth => List.cons_ne_nil _ _ hboth.2) (.singleton axis)
  · have hmeets := hstudly.mp hsame
    rw [NoSinglesMeet, List.isChain_cons_cons] at hmeets
    exact hmeets.1 ⟨rfl, rfl⟩

end RequestFilter
