import RequestFilter.Text.WordCase

/-!
# Letters of joined words

In a text of letters and separators of ASCII every character is a cluster. Where
such a text is cut into words can be told from a letter and the two behind it, so
its capitalized words can be joined in one pass: separators are dropped, a letter
is in upper case where a word begins, and in lower case elsewhere.
-/

namespace RequestFilter

def isSeparatorChar (c : Char) : Bool :=
  c = '_' || c = '-' || c = ' '

/-- The letters and the separators of ASCII. -/
def isPlain (c : Char) : Bool :=
  c.isAlpha || isSeparatorChar c

/-- Whether a word ends with this letter, given the characters behind it. -/
def endsWordBefore (c : Char) : List Char → Bool
  | [] => false
  | next :: rest => (c.isLower && next.isUpper) ||
      (c.isUpper && next.isUpper && rest.head?.any Char.isLower)

/-- The letters of a text, in upper case where words begin and in lower case elsewhere, given
whether one begins at its front. -/
def recased (begins : Bool) : List Char → List Char
  | [] => []
  | c :: rest =>
      if isSeparatorChar c then recased true rest
      else (if begins then c.toUpper else c.toLower) :: recased (endsWordBefore c rest) rest

section Plain

variable {c : Char}

/-- The letters that are meant are those of ASCII. -/
theorem toNat_lt_of_isAlpha (hc : c.isAlpha = true) : c.toNat < 128 := by
  have hletter : (c.isUpper || c.isLower) = true := hc
  rcases Bool.or_eq_true_iff.mp hletter with hupper | hlower
  · have hrange : 'A'.toNat ≤ c.toNat ∧ c.toNat ≤ 'Z'.toNat := of_decide_eq_true hupper
    exact Nat.lt_of_le_of_lt hrange.2 (by decide)
  · have hrange : (decide ('a'.toNat ≤ c.toNat) && decide (c.toNat ≤ 'z'.toNat)) = true := hlower
    exact Nat.lt_of_le_of_lt (of_decide_eq_true (Bool.and_eq_true_iff.mp hrange).2) (by decide)

/-- What holds of all characters of ASCII, checked one by one. -/
theorem forall_of_isPlain {P : Char → Prop}
    (h : ∀ n, n < 128 → isPlain (Char.ofNat n) = true → P (Char.ofNat n))
    (hc : isPlain c = true) : P c := by
  have hascii : c.toNat < 128 := by
    have hkind := hc
    simp only [isPlain, isSeparatorChar, Bool.or_eq_true, decide_eq_true_eq] at hkind
    rcases hkind with halpha | (rfl | rfl) | rfl
    · exact toNat_lt_of_isAlpha halpha
    all_goals decide
  have hplain := h c.toNat hascii
  rw [Char.ofNat_toNat] at hplain
  exact hplain hc

/-- No plain character joins with others to a cluster. -/
theorem clusterClass_of_isPlain (hc : isPlain c = true) : ClusterClass.of c = .other :=
  forall_of_isPlain (P := fun c => ClusterClass.of c = .other) (by decide +kernel) hc

/-- The full mapping to upper case is the simple one on plain characters. -/
theorem upperChar_of_isPlain (hc : isPlain c = true) : upperChar c = [c.toUpper] :=
  forall_of_isPlain (P := fun c => upperChar c = [c.toUpper]) (by decide +kernel) hc

/-- So is the one to lower case, and none of them is a sigma. -/
theorem lowerChar_of_isPlain (hc : isPlain c = true) : lowerChar c = [c.toLower] ∧ c ≠ 'Σ' :=
  forall_of_isPlain (P := fun c => lowerChar c = [c.toLower] ∧ c ≠ 'Σ') (by decide +kernel) hc

theorem isSeparator_singleton (c : Char) : Cluster.isSeparator [c] = isSeparatorChar c := by
  simp [Cluster.isSeparator, isSeparatorChar]

theorem isUpper_of_isPlain (hc : isPlain c = true) : Cluster.isUpper [c] = c.isUpper :=
  forall_of_isPlain (P := fun c => Cluster.isUpper [c] = c.isUpper) (by decide +kernel) hc

theorem isLower_of_isPlain (hc : isPlain c = true) : Cluster.isLower [c] = c.isLower :=
  forall_of_isPlain (P := fun c => Cluster.isLower [c] = c.isLower) (by decide +kernel) hc

theorem isDigit_of_isPlain (hc : isPlain c = true) : Cluster.isDigit [c] = false :=
  forall_of_isPlain (P := fun c => Cluster.isDigit [c] = false) (by decide +kernel) hc

end Plain

section Texts

variable {cs : List Char}

/-- A text as the clusters of its single characters. -/
def singletons (cs : List Char) : List Cluster :=
  cs.map fun c => [c]

theorem singletons_nil : singletons [] = [] := rfl

theorem singletons_cons (c : Char) (cs : List Char) :
    singletons (c :: cs) = [c] :: singletons cs := rfl

theorem flatten_singletons (cs : List Char) : (singletons cs).flatten = cs := by
  induction cs with
  | nil => rfl
  | cons c rest ih => exact congrArg (c :: ·) ih

/-- Every plain character begins a new cluster. -/
theorem clustersFrom_of_isPlain (first : Char) (hcs : ∀ c ∈ cs, isPlain c = true) :
    clustersFrom (.start .other) [first] cs = [first] :: singletons cs := by
  induction cs generalizing first with
  | nil => rfl
  | cons c rest ih =>
      obtain ⟨hc, hrest⟩ := List.forall_mem_cons.mp hcs
      have htakes : (ClusterState.start .other).takes .other = false := rfl
      simp only [clustersFrom, clusterClass_of_isPlain hc, htakes, Bool.false_eq_true, if_false,
        ih c hrest]
      rfl

/-- The clusters of a plain text are its characters. -/
theorem clusters_of_isPlain (hcs : ∀ c ∈ cs, isPlain c = true) : clusters cs = singletons cs := by
  cases cs with
  | nil => rfl
  | cons c rest =>
      obtain ⟨hc, hrest⟩ := List.forall_mem_cons.mp hcs
      rw [clusters, clusterClass_of_isPlain hc, clustersFrom_of_isPlain c hrest]
      rfl

/-- Where a word ends is told from the characters of a plain text. -/
theorem endsWord_of_isPlain {c : Char} (hc : isPlain c = true)
    (hcs : ∀ c ∈ cs, isPlain c = true) :
    Cluster.endsWord [c] (singletons cs) = endsWordBefore c cs := by
  cases cs with
  | nil => rfl
  | cons next rest =>
      obtain ⟨hnext, hrest⟩ := List.forall_mem_cons.mp hcs
      cases rest with
      | nil =>
          simp [singletons, Cluster.endsWord, endsWordBefore, isLower_of_isPlain,
            isUpper_of_isPlain, isDigit_of_isPlain, hc, hnext]
      | cons third others =>
          have hthird := List.forall_mem_cons.mp hrest |>.1
          simp [singletons, Cluster.endsWord, endsWordBefore, isLower_of_isPlain,
            isUpper_of_isPlain, isDigit_of_isPlain, hc, hnext, hthird]

/-- A plain text is put in lower case character by character, whatever stands before it. -/
theorem lowerAfter_of_isPlain (before : List Char) (hcs : ∀ c ∈ cs, isPlain c = true) :
    lowerAfter before cs = cs.map Char.toLower := by
  induction cs generalizing before with
  | nil => rfl
  | cons c rest ih =>
      obtain ⟨hc, hrest⟩ := List.forall_mem_cons.mp hcs
      obtain ⟨hlower, hsigma⟩ := lowerChar_of_isPlain hc
      rw [lowerAfter, if_neg hsigma, hlower, ih _ hrest]
      rfl

/-- A further letter of a word is put into lower case, the first one into upper case. -/
theorem capitalize_append_of_isPlain {c : Char} (hcs : ∀ c ∈ cs, isPlain c = true)
    (hc : isPlain c = true) :
    capitalize (cs ++ [c]) = capitalize cs ++ [if cs.isEmpty then c.toUpper else c.toLower] := by
  cases cs with
  | nil => simp [capitalize, upperChar_of_isPlain hc, lowerChars, lowerAfter]
  | cons first rest =>
      obtain ⟨hfirst, hrest⟩ := List.forall_mem_cons.mp hcs
      have hmore : ∀ d ∈ rest ++ [c], isPlain d = true :=
        List.forall_mem_append.mpr ⟨hrest, List.forall_mem_singleton.mpr hc⟩
      simp [capitalize, lowerChars, lowerAfter_of_isPlain _ hrest, lowerAfter_of_isPlain _ hmore]

/-- The capitalized words, joined. -/
def joinWords (split : List (List Cluster)) : List Char :=
  ((split.map List.flatten).map capitalize).flatten

theorem joinWords_cons (word : List Cluster) (others : List (List Cluster)) :
    joinWords (word :: others) = capitalize word.flatten ++ joinWords others := by
  simp [joinWords]

/-- The words cut behind a word in progress are joined behind it. -/
theorem joinWords_splitWords {done : List Char} (hdone : ∀ c ∈ done, isPlain c = true)
    (hcs : ∀ c ∈ cs, isPlain c = true) :
    joinWords (splitWords (singletons done) (singletons cs)) =
      capitalize done ++ recased done.isEmpty cs := by
  -- the word in progress grows until it is cut off, so it varies in the induction
  induction cs generalizing done with
  | nil =>
      rw [recased, singletons_nil, splitWords, joinWords_cons, flatten_singletons]
      rfl
  | cons c rest ih =>
      obtain ⟨hc, hrest⟩ := List.forall_mem_cons.mp hcs
      have hmore : ∀ d ∈ done ++ [c], isPlain d = true :=
        List.forall_mem_append.mpr ⟨hdone, List.forall_mem_singleton.mpr hc⟩
      have hsingletons : singletons done ++ [[c]] = singletons (done ++ [c]) := by
        simp [singletons]
      rw [singletons_cons, splitWords, isSeparator_singleton, endsWord_of_isPlain hc hrest,
        hsingletons, recased]
      split
      next hseparator =>
        rw [joinWords_cons, flatten_singletons, ← singletons_nil, ih (List.forall_mem_nil _) hrest]
        rfl
      next hseparator =>
        cases hends : endsWordBefore c rest with
        | true =>
            rw [if_pos rfl, joinWords_cons, flatten_singletons, ← singletons_nil,
              ih (List.forall_mem_nil _) hrest, capitalize_append_of_isPlain hdone hc,
              List.append_assoc]
            rfl
        | false =>
            have hstarted : (done ++ [c]).isEmpty = false := by cases done <;> rfl
            rw [if_neg Bool.false_ne_true, ih hmore hrest, capitalize_append_of_isPlain hdone hc,
              List.append_assoc, hstarted]
            rfl

/-- Words without letters add nothing to the joined ones. -/
theorem pascalChars_eq_joinWords (cs : List Char) :
    pascalChars cs = joinWords (splitWords [] (clusters cs)) := by
  rw [pascalChars, words, joinWords]
  induction (splitWords [] (clusters cs)).map List.flatten with
  | nil => rfl
  | cons word others ih =>
      cases word with
      | nil => exact ih
      | cons c rest => exact congrArg (capitalize (c :: rest) ++ ·) ih

/-- Joining the capitalized words of such a text is one pass over its letters. -/
theorem pascalChars_eq_recased (hcs : ∀ c ∈ cs, isPlain c = true) :
    pascalChars cs = recased true cs := by
  rw [pascalChars_eq_joinWords, clusters_of_isPlain hcs, ← singletons_nil,
    joinWords_splitWords (List.forall_mem_nil _) hcs]
  rfl

end Texts

end RequestFilter
