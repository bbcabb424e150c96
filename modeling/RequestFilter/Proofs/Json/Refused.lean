import Mathlib.Data.List.Forall2
import RequestFilter.Proofs.Json.Grammar

/-!
# What a document can be refused for

The text of a document is refused for brackets that are nested too deep or for a
numeral that is beyond all doubles, and for nothing else.
-/

namespace RequestFilter

namespace Json

namespace Written

mutual

/-- How many brackets are open at once. -/
def depth : Written → Nat
  | .null | .bool _ | .numeral _ | .string _ => 0
  | .array items => itemsDepth items + 1
  | .object members => membersDepth members + 1

def itemsDepth : List Written → Nat
  | [] => 0
  | item :: rest => max item.depth (itemsDepth rest)

def membersDepth : List (String × Written) → Nat
  | [] => 0
  | (_, value) :: rest => max value.depth (membersDepth rest)

end

mutual

/-- All numerals of a document. -/
def numerals : Written → List Numeral
  | .null | .bool _ | .string _ => []
  | .numeral n => [n]
  | .array items => itemsNumerals items
  | .object members => membersNumerals members

def itemsNumerals : List Written → List Numeral
  | [] => []
  | item :: rest => item.numerals ++ itemsNumerals rest

def membersNumerals : List (String × Written) → List Numeral
  | [] => []
  | (_, value) :: rest => value.numerals ++ membersNumerals rest

end

end Written

/-- The fault of too many brackets, or of a numeral that is no number. -/
inductive Fault.IsDue (levels depth : Nat) (numerals : List Numeral) : Fault → Prop
  | nestedTooDeep (h : levels < depth) : IsDue levels depth numerals .nestedTooDeep
  | numberOutOfRange {n : Numeral} (hn : n ∈ numerals) (h : n.number? = none) :
      IsDue levels depth numerals .numberOutOfRange

/-- A fault that is due to a part is due to the whole, which is no less deep and has no fewer
numerals. -/
theorem Fault.IsDue.mono {levels levels' depth depth' : Nat} {numerals numerals' : List Numeral}
    {fault : Fault} (h : IsDue levels depth numerals fault)
    (hdepth : levels < depth → levels' < depth') (hnumerals : numerals ⊆ numerals') :
    IsDue levels' depth' numerals' fault := by
  cases h with
  | nestedTooDeep hlevels => exact .nestedTooDeep (hdepth hlevels)
  | numberOutOfRange hn hnone => exact .numberOutOfRange (hnumerals hn) hnone

/-- A sequence fails by its first step, or by its second one behind an answer of the first. -/
theorem of_bind_eq_error {ε α β : Type} {result : Except ε α} {next : α → Except ε β} {fault : ε}
    (h : (result >>= next) = .error fault) :
    result = .error fault ∨ ∃ a, result = .ok a ∧ next a = .error fault := by
  cases result with
  | ok a => exact .inr ⟨a, rfl, h⟩
  | error other =>
      cases h
      exact .inl rfl

namespace Written

mutual

/-- Where a value cannot be read, its depth or one of its numerals is the reason. -/
theorem isDue_of_read : ∀ (levels : Nat) (written : Written) {fault : Fault},
    written.read levels = .error fault → fault.IsDue levels written.depth written.numerals
  | _, .null, _, h => by cases h
  | _, .bool _, _, h => by cases h
  | _, .string _, _, h => by cases h
  | levels, .numeral n, fault, h => by
      rw [read] at h
      rcases of_bind_eq_error h with hnumber | ⟨found, -, hpure⟩
      · cases hfound : n.number? with
        | none =>
            rw [hfound] at hnumber
            cases hnumber
            exact .numberOutOfRange List.mem_cons_self hfound
        | some found =>
            rw [hfound] at hnumber
            cases hnumber
      · cases hpure
  | 0, .array _, _, h => by
      cases h
      exact .nestedTooDeep (Nat.succ_pos _)
  | 0, .object _, _, h => by
      cases h
      exact .nestedTooDeep (Nat.succ_pos _)
  | levels + 1, .array items, fault, h => by
      rw [read] at h
      rcases of_bind_eq_error h with hitems | ⟨_, -, hpure⟩
      · exact (isDue_of_readItems levels items hitems).mono Nat.succ_lt_succ (List.Subset.refl _)
      · cases hpure
  | levels + 1, .object members, fault, h => by
      rw [read] at h
      rcases of_bind_eq_error h with hmembers | ⟨_, -, hpure⟩
      · exact (isDue_of_readMembers levels members hmembers).mono Nat.succ_lt_succ
          (List.Subset.refl _)
      · cases hpure

/-- The items of a list are read from the first on, and the first fault is the fault of the list. -/
theorem isDue_of_readItems : ∀ (levels : Nat) (items : List Written) {fault : Fault},
    readItems levels items = .error fault →
      fault.IsDue levels (itemsDepth items) (itemsNumerals items)
  | _, [], _, h => by cases h
  | levels, item :: rest, fault, h => by
      rw [readItems] at h
      rcases of_bind_eq_error h with hitem | ⟨_, -, hothers⟩
      · refine (isDue_of_read levels item hitem).mono (fun hlt => ?_) (List.subset_append_left _ _)
        exact Nat.lt_of_lt_of_le hlt (Nat.le_max_left _ _)
      · rcases of_bind_eq_error hothers with hrest | ⟨_, -, hpure⟩
        · refine (isDue_of_readItems levels rest hrest).mono (fun hlt => ?_)
            (List.subset_append_right _ _)
          exact Nat.lt_of_lt_of_le hlt (Nat.le_max_right _ _)
        · cases hpure

/-- So it is with the members of an object. -/
theorem isDue_of_readMembers : ∀ (levels : Nat) (members : List (String × Written)) {fault : Fault},
    readMembers levels members = .error fault →
      fault.IsDue levels (membersDepth members) (membersNumerals members)
  | _, [], _, h => by cases h
  | levels, (_, value) :: rest, fault, h => by
      rw [readMembers] at h
      rcases of_bind_eq_error h with hvalue | ⟨_, -, hothers⟩
      · refine (isDue_of_read levels value hvalue).mono (fun hlt => ?_)
          (List.subset_append_left _ _)
        exact Nat.lt_of_lt_of_le hlt (Nat.le_max_left _ _)
      · rcases of_bind_eq_error hothers with hrest | ⟨_, -, hpure⟩
        · refine (isDue_of_readMembers levels rest hrest).mono (fun hlt => ?_)
            (List.subset_append_right _ _)
          exact Nat.lt_of_lt_of_le hlt (Nat.le_max_right _ _)
        · cases hpure

end

/-- Every member is read by itself and keeps its name and its place. -/
theorem forall₂_of_readMembers {levels : Nat} {members : List (String × Written)}
    {read : List (String × Json)} (h : readMembers levels members = .ok read) :
    List.Forall₂ (fun member entry =>
      member.1 = entry.1 ∧ member.2.read levels = .ok entry.2) members read := by
  induction members generalizing read with
  | nil =>
      cases h
      exact .nil
  | cons member rest ih =>
      rw [readMembers] at h
      obtain ⟨first, hfirst, hothers⟩ := exists_of_bind_eq_ok h
      obtain ⟨others, hrest, hread⟩ := exists_of_bind_eq_ok hothers
      cases hread
      exact .cons ⟨rfl, hfirst⟩ (ih hrest)

end Written

end Json

end RequestFilter
