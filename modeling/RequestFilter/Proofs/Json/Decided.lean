import RequestFilter.Json.Typed
import RequestFilter.Proofs.Json.Passed
import RequestFilter.Proofs.Json.Refused

/-!
# Readers that decide

In front of the text of a document, a reader of a known type has one answer or none,
and which one is told from the document and not from its text. So are the answers of
readers that are put together, for documents that are neither nested too deep nor have
numerals beyond all doubles.
-/

namespace RequestFilter

namespace Json

section Calculus

variable {ε α β : Type} {reader : StateT Cursor (Except ε) α} {cs middle rest : List Char} {a : α}

/-- A reader goes the same way when it is taken for a typed one. -/
theorem Goes.ofReader {reader : Reader α} (h : Goes reader cs a rest) :
    Goes (TypedReader.ofReader reader) cs a rest := by
  intro place
  obtain ⟨place', hplace'⟩ := h place
  refine ⟨place', ?_⟩
  rw [TypedReader.ofReader, hplace']

/-- A reader of an ending goes on where the body has ended. -/
theorem Goes.close {body : TypedReader α} {ending : Reader Unit} (hbody : Goes body cs a middle)
    (hending : Goes ending middle () rest) (attempt : Cursor → Cursor) :
    Goes (TypedReader.close attempt ending body) cs a rest := by
  intro place
  obtain ⟨place', hplace'⟩ := hbody place
  obtain ⟨place'', hplace''⟩ := hending place'
  refine ⟨place'', ?_⟩
  rw [TypedReader.close, hplace']
  change (ending ⟨middle, place'⟩ >>= fun answer => Except.ok (a, answer.2)) = _
  rw [hplace'']
  rfl

/-- The reader fails wherever it stands. -/
def Refuses (reader : StateT Cursor (Except ε) α) : Prop :=
  ∀ cursor, ∃ error, reader cursor = .error error

/-- From any place in front of `cs`, the reader gives its answer and stops in front of `rest`; if
there is no answer, it fails. -/
def Decides (reader : StateT Cursor (Except ε) α) (cs : List Char) (answer : Option α)
    (rest : List Char) : Prop :=
  match answer with
  | some a => Goes reader cs a rest
  | none => ∀ place, ∃ error, reader ⟨cs, place⟩ = .error error

/-- Who refuses everything has no answer to anything. -/
theorem Refuses.decides (h : Refuses reader) (cs rest : List Char) : Decides reader cs none rest :=
  fun place => h ⟨cs, place⟩

/-- What fails behind every answer fails. -/
theorem refuses_bind {next : α → StateT Cursor (Except ε) β} (h : ∀ a, Refuses (next a)) :
    Refuses (reader >>= next) := by
  intro cursor
  change ∃ error, (reader cursor >>= fun answer => next answer.1 answer.2) = .error error
  cases hreader : reader cursor with
  | ok answer => exact h answer.1 answer.2
  | error error => exact ⟨error, rfl⟩

theorem Decides.pure (a : α) (cs : List Char) :
    Decides (ε := ε) (Pure.pure a) cs (some a) cs :=
  Goes.pure a cs

/-- Behind a reader that answers, the next one decides. -/
theorem Goes.decides {next : α → StateT Cursor (Except ε) β} {answer : Option β}
    (hreader : Goes reader cs a middle) (hnext : Decides (next a) middle answer rest) :
    Decides (reader >>= next) cs answer rest := by
  cases answer with
  | some b => exact hreader.bind hnext
  | none =>
      intro place
      obtain ⟨place', hplace'⟩ := hreader place
      obtain ⟨error, herror⟩ := hnext place'
      refine ⟨error, ?_⟩
      change (reader ⟨cs, place⟩ >>= fun answer => next answer.1 answer.2) = _
      rw [hplace']
      exact herror

/-- Readers in sequence have an answer when the first one has and the second one has behind it. -/
theorem Decides.bind {answer : Option α} {next : α → StateT Cursor (Except ε) β}
    {further : α → Option β} (hreader : Decides reader cs answer middle)
    (hnext : ∀ a, Decides (next a) middle (further a) rest) :
    Decides (reader >>= next) cs (answer.bind further) rest := by
  cases answer with
  | some a => exact Goes.decides hreader (hnext a)
  | none =>
      intro place
      obtain ⟨error, herror⟩ := hreader place
      refine ⟨error, ?_⟩
      change (reader ⟨cs, place⟩ >>= fun answer => next answer.1 answer.2) = _
      rw [herror]
      rfl

/-- What is made of an answer is there when the answer is. -/
theorem Decides.bind_pure {answer : Option α} (f : α → β) (h : Decides reader cs answer rest) :
    Decides (reader >>= fun a => Pure.pure (f a)) cs (answer.map f) rest := by
  rw [Option.map_eq_bind]
  exact h.bind fun a => .pure (f a) rest

theorem Decides.map {answer : Option α} (f : α → β) (h : Decides reader cs answer rest) :
    Decides (f <$> reader) cs (answer.map f) rest := by
  rw [map_eq_pure_bind]
  exact h.bind_pure f

/-- Whether an outcome is an answer is decided. -/
theorem Comes.decides {reader : Reader α} {outcome : Except Fault α}
    (h : Comes reader cs outcome rest) : Decides reader cs outcome.toOption rest := by
  cases outcome with
  | ok a => exact h
  | error fault =>
      intro place
      obtain ⟨place', hplace'⟩ := h place
      exact ⟨_, hplace'⟩

/-- Taken for a typed reader, a reader has the same answers. -/
theorem Decides.ofReader {reader : Reader α} {answer : Option α}
    (h : Decides reader cs answer rest) : Decides (TypedReader.ofReader reader) cs answer rest := by
  cases answer with
  | some a => exact Goes.ofReader h
  | none =>
      intro place
      obtain ⟨error, herror⟩ := h place
      refine ⟨.placed error, ?_⟩
      rw [TypedReader.ofReader, herror]

/-- What is refused inside brackets, or in front of their end, is refused with them. -/
theorem Decides.close {body : TypedReader α} {ending : Reader Unit} {answer : Option α}
    (hbody : Decides body cs answer middle) (ends : Option Unit)
    (hending : Decides ending middle ends rest) (attempt : Cursor → Cursor) :
    Decides (TypedReader.close attempt ending body) cs (ends.bind fun _ => answer) rest := by
  cases answer with
  | none =>
      have hrefused : Decides (TypedReader.close attempt ending body) cs none rest := by
        intro place
        obtain ⟨refusal, hrefusal⟩ := hbody place
        rw [TypedReader.close, hrefusal]
        cases refusal with
        | placed error => exact ⟨error, rfl⟩
        | unplaced fault cursor => exact ⟨_, rfl⟩
      cases ends <;> exact hrefused
  | some a =>
      cases ends with
      | some => exact Goes.close hbody hending attempt
      | none =>
          intro place
          obtain ⟨place', hplace'⟩ := hbody place
          obtain ⟨error, herror⟩ := hending place'
          refine ⟨error, ?_⟩
          rw [TypedReader.close, hplace']
          change (ending ⟨middle, place'⟩ >>= fun answer => Except.ok (a, answer.2)) = _
          rw [herror]
          rfl

end Calculus

section Refusals

variable {α : Type}

theorem refuses_failHere (fault : Fault) : Refuses (Reader.failHere fault : Reader α) :=
  fun _ => ⟨_, rfl⟩

theorem refuses_failNext (fault : Fault) : Refuses (Reader.failNext fault : Reader α) :=
  fun _ => ⟨_, rfl⟩

theorem refuses_refuse (fault : Fault) : Refuses (TypedReader.refuse fault : TypedReader α) :=
  fun _ => ⟨_, rfl⟩

theorem refuses_refuseType (expected : String) :
    Refuses (Reader.refuseType expected : Reader α) := by
  refine refuses_bind fun seen => ?_
  cases seen with
  | none => exact refuses_failHere _
  | some c =>
      dsimp only
      split
      next => exact refuses_failHere _
      next =>
      split
      next => exact refuses_failHere _
      next => exact refuses_bind fun _ => refuses_failHere _

end Refusals

namespace Written

/-- Nested less than a hundred levels deep, and every numeral is a number. -/
structure IsPlain (written : Written) : Prop where
  depth : written.depth < 100
  numbers : ∀ n ∈ written.numerals, n.number? ≠ none

/-- An item goes no deeper than the list it is in, and all its numerals are among those of the
list. -/
theorem depth_le_itemsDepth {items : List Written} {item : Written} (h : item ∈ items) :
    item.depth ≤ itemsDepth items ∧ item.numerals ⊆ itemsNumerals items := by
  induction items with
  | nil => cases h
  | cons first rest ih =>
      rw [itemsDepth, itemsNumerals]
      rcases List.mem_cons.mp h with rfl | hrest
      · exact ⟨Nat.le_max_left _ _, List.subset_append_left _ _⟩
      · obtain ⟨hdepth, hnumerals⟩ := ih hrest
        exact ⟨Nat.le_trans hdepth (Nat.le_max_right _ _), List.subset_append_of_subset_right _ hnumerals⟩

/-- The value of a member goes no deeper than the object, and its numerals are among those of it. -/
theorem depth_le_membersDepth {members : List (String × Written)} {member : String × Written}
    (h : member ∈ members) :
    member.2.depth ≤ membersDepth members ∧ member.2.numerals ⊆ membersNumerals members := by
  induction members with
  | nil => cases h
  | cons first rest ih =>
      rw [membersDepth, membersNumerals]
      rcases List.mem_cons.mp h with rfl | hrest
      · exact ⟨Nat.le_max_left _ _, List.subset_append_left _ _⟩
      · obtain ⟨hdepth, hnumerals⟩ := ih hrest
        exact ⟨Nat.le_trans hdepth (Nat.le_max_right _ _), List.subset_append_of_subset_right _ hnumerals⟩

/-- The items of a plain list are plain. -/
theorem IsPlain.item {items : List Written} (h : IsPlain (.array items)) :
    ∀ item ∈ items, item.IsPlain := by
  intro item hitem
  obtain ⟨hdepth, hnumerals⟩ := depth_le_itemsDepth hitem
  have hall : itemsDepth items + 1 < 100 := h.depth
  exact ⟨by omega, fun n hn => h.numbers n (hnumerals hn)⟩

/-- The values of a plain object are plain. -/
theorem IsPlain.member {members : List (String × Written)} (h : IsPlain (.object members)) :
    ∀ member ∈ members, member.2.IsPlain := by
  intro member hmember
  obtain ⟨hdepth, hnumerals⟩ := depth_le_membersDepth hmember
  have hall : membersDepth members + 1 < 100 := h.depth
  exact ⟨by omega, fun n hn => h.numbers n (hnumerals hn)⟩

/-- A plain document has a tree. -/
theorem IsPlain.exists_read {written : Written} (h : written.IsPlain) (levels : Nat)
    (hlevels : 100 ≤ levels) : ∃ document, written.read levels = .ok document := by
  cases hread : written.read levels with
  | ok document => exact ⟨document, rfl⟩
  | error fault =>
      cases isDue_of_read levels written hread with
      | nestedTooDeep hdeep => exact absurd h.depth (by omega)
      | numberOutOfRange hn hnone => exact absurd hnone (h.numbers _ hn)

/-- A plain object can be read where a hundred levels are left. -/
theorem IsPlain.exists_readMembers {members : List (String × Written)}
    (h : IsPlain (.object members)) (levels : Nat) (hlevels : 100 ≤ levels) :
    ∃ read, readMembers levels members = .ok read := by
  cases hread : readMembers levels members with
  | ok read => exact ⟨read, rfl⟩
  | error fault =>
      have hall : membersDepth members + 1 < 100 := h.depth
      cases isDue_of_readMembers levels members hread with
      | nestedTooDeep hdeep => exact absurd hall (by omega)
      | numberOutOfRange hn hnone => exact absurd hnone (h.numbers _ hn)

end Written

/-- In front of any text of a plain document, the reader has the answer that the document tells. -/
def Denotes {ε α : Type} (reader : StateT Cursor (Except ε) α) (meaning : Written → Option α) :
    Prop :=
  ∀ ⦃written : Written⦄ ⦃cs blanks rest : List Char⦄, written.IsPlain → Spelling written cs →
    AreBlank blanks → EndsNumeral rest →
      Decides reader (blanks ++ (cs ++ rest)) (meaning written) rest

/-- A reader that decides what stands before the last blanks of a text decides the text. -/
theorem Decides.run {α : Type} {reader : Reader α} {text : String} {answer : Option α}
    {blanks : List Char} (h : Decides reader text.toList answer blanks) (hblanks : AreBlank blanks) :
    (∀ a, answer = some a → reader.run text = .ok a) ∧
      (answer = none → ∃ error, reader.run text = .error error) := by
  constructor
  · rintro a rfl
    exact Reader.run_eq_ok h hblanks
  · rintro rfl
    obtain ⟨error, herror⟩ := h .start
    refine ⟨error, ?_⟩
    rw [Reader.run, Cursor.start, herror]
    rfl

/-- What the first character of a document tells about it. -/
structure Opens (written : Written) (c : Char) : Prop where
  notBlank : isDocumentBlank c = false
  null : c = 'n' ↔ written = .null
  text : c = '"' ↔ ∃ value, written = .string value
  list : c = '[' ↔ ∃ items, written = .array items
  object : c = '\x7b' ↔ ∃ members, written = .object members

/-- What begins with a sign or a digit is told from its first character to be a number. -/
theorem opens_numeral (n : Numeral) {c : Char} (hblank : isDocumentBlank c = false)
    (hc : c = '-' ∨ c.isDigit = true) : Opens (.numeral n) c := by
  have hne : ∀ d : Char, d ≠ '-' → d.isDigit = false → c ≠ d := by
    rintro d hd hdigit rfl
    rcases hc with rfl | hc
    · exact hd rfl
    · exact absurd (hc.symm.trans hdigit) (by decide)
  exact ⟨hblank, by simp [hne 'n'], by simp [hne '"'], by simp [hne '['], by simp [hne '\x7b']⟩

/-- Every spelling has a first character, and the kind of the value is told from it. -/
theorem Spelling.exists_opens {written : Written} {cs : List Char} (h : Spelling written cs) :
    ∃ c others, cs = c :: others ∧ Opens written c := by
  cases h with
  | null => exact ⟨'n', _, rfl, by decide, by simp, by simp, by simp, by simp⟩
  | truth => exact ⟨'t', _, rfl, by decide, by simp, by simp, by simp, by simp⟩
  | falsity => exact ⟨'f', _, rfl, by decide, by simp, by simp, by simp, by simp⟩
  | numeral n =>
      obtain ⟨d, others, htext, hd⟩ := n.exists_digit_cons
      rw [Numeral.text, signed]
      split
      next => exact ⟨'-', _, rfl, opens_numeral n (by decide) (.inl rfl)⟩
      next => exact ⟨d, _, htext, opens_numeral n (isDocumentBlank_of_isDigit hd) (.inr hd)⟩
  | string h => exact ⟨'"', _, rfl, by decide, by simp, by simp, by simp, by simp⟩
  | emptyArray hblanks => exact ⟨'[', _, rfl, by decide, by simp, by simp, by simp, by simp⟩
  | array hblanks hitem hitems =>
      exact ⟨'[', _, rfl, by decide, by simp, by simp, by simp, by simp⟩
  | emptyObject hblanks => exact ⟨'\x7b', _, rfl, by decide, by simp, by simp, by simp, by simp⟩
  | object hblanks hmembers =>
      exact ⟨'\x7b', _, rfl, by decide, by simp, by simp, by simp, by simp⟩

section Scalars

open Reader

/-- The string that a document is. -/
def Written.text? : Written → Option String
  | .string value => some value
  | _ => none

/-- The string that a document is, or nothing when it is null. -/
def Written.nullableText? : Written → Option (Option String)
  | .null => some none
  | written => written.text?.map some

/-- Only strings are texts. -/
theorem Written.text?_eq_none {written : Written} (h : ¬ ∃ value, written = .string value) :
    written.text? = none := by
  cases written with
  | string value => exact absurd ⟨value, rfl⟩ h
  | _ => rfl

/-- The reader of strings takes exactly the spellings of strings. -/
theorem denotes_string : Denotes Reader.string Written.text? := by
  intro written cs blanks rest hplain h hblanks hrest
  obtain ⟨c, others, rfl, hopens⟩ := h.exists_opens
  rw [List.cons_append]
  refine (goes_peekToken_cons hblanks hopens.notBlank _).decides ?_
  by_cases hc : c = '"'
  · obtain ⟨value, rfl⟩ := hopens.text.mp hc
    cases h with
    | @string _ inside h =>
        dsimp only
        rw [if_pos rfl, List.append_assoc]
        exact (goes_skip '"' _).bind (goes_text_of_textSpelling h rest)
  · rw [Written.text?_eq_none (hopens.text.not.mp hc)]
    dsimp only
    rw [if_neg hc]
    exact (refuses_refuseType _).decides _ _

/-- The reader of optional strings takes `null` as well. -/
theorem denotes_nullableString : Denotes Reader.nullableString Written.nullableText? := by
  intro written cs blanks rest hplain h hblanks hrest
  have hstring := (denotes_string hplain h areBlank_nil hrest).map some
  obtain ⟨c, others, rfl, hopens⟩ := h.exists_opens
  refine (goes_peekToken_cons hblanks hopens.notBlank _).decides ?_
  by_cases hc : c = 'n'
  · obtain rfl := hopens.null.mp hc
    cases h with
    | null => exact (goes_skip 'n' _).bind ((goes_word ['u', 'l', 'l'] rest).bind (.pure none rest))
  · have hmeaning : written.nullableText? = written.text?.map some := by
      cases written with
      | null => exact absurd (hopens.null.mpr rfl) hc
      | _ => rfl
    rw [hmeaning]
    split
    next heq => exact absurd (Option.some.inj heq) hc
    next => exact hstring

/-- The reader of values comes to what the written value is read as, also where this is a fault. -/
theorem comes_value {written : Written} {cs blanks rest : List Char} (h : Spelling written cs)
    (levels : Nat) (hblanks : AreBlank blanks) (hrest : EndsNumeral rest) :
    Comes (Reader.value levels) (blanks ++ (cs ++ rest)) (written.read levels) rest := by
  refine (goes_fuelLeft _).comes (comes_valueWithin h ?_ levels hblanks hrest)
  simp only [List.length_append]
  omega

theorem goes_value {written : Written} {document : Json} {cs blanks rest : List Char}
    {levels : Nat} (h : Spelling written cs) (hread : written.read levels = .ok document)
    (hblanks : AreBlank blanks) (hrest : EndsNumeral rest) :
    Goes (Reader.value levels) (blanks ++ (cs ++ rest)) document rest := by
  have hvalue := comes_value h levels hblanks hrest
  rwa [hread] at hvalue

/-- The tree of a document, if it has one. -/
def Written.tree? (levels : Nat) (written : Written) : Option Json :=
  (written.read levels).toOption

/-- The reader of values takes what is no deeper than its levels and has numbers in range. -/
theorem denotes_value (levels : Nat) : Denotes (Reader.value levels) (Written.tree? levels) :=
  fun _ _ _ _ _ h hblanks hrest => (comes_value h levels hblanks hrest).decides

end Scalars

end Json

end RequestFilter
