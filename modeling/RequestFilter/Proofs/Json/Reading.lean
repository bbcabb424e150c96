import RequestFilter.Json.Read
import RequestFilter.Json.Write

/-!
# Readers that succeed

Where a reader succeeds, its answer and what it leaves of the text depend on the
text alone and not on the place that it has in a document. Such runs follow each
other. Each character of a string is read back from every way of writing it.
-/

namespace RequestFilter

namespace Json

/-- From any place in front of `cs`, the reader answers `a` and stops in front of `rest`. -/
def Goes {ε α : Type} (reader : StateT Cursor (Except ε) α) (cs : List Char) (a : α)
    (rest : List Char) : Prop :=
  ∀ place, ∃ place', reader ⟨cs, place⟩ = .ok (a, ⟨rest, place'⟩)

namespace Goes

variable {ε α β : Type} {reader : StateT Cursor (Except ε) α} {cs middle rest : List Char} {a : α}

theorem pure (a : α) (cs : List Char) :
    Goes (ε := ε) (Pure.pure a) cs a cs :=
  fun place => ⟨place, rfl⟩

/-- The second reader starts where the first one stops. -/
theorem bind {next : α → StateT Cursor (Except ε) β} {b : β} (hreader : Goes reader cs a middle)
    (hnext : Goes (next a) middle b rest) : Goes (reader >>= next) cs b rest := by
  intro place
  obtain ⟨place', hplace'⟩ := hreader place
  obtain ⟨place'', hplace''⟩ := hnext place'
  refine ⟨place'', ?_⟩
  change (reader ⟨cs, place⟩ >>= fun answer => next answer.1 answer.2) = _
  rw [hplace']
  exact hplace''

/-- To change the answer does not change what is read. -/
theorem map (f : α → β) (h : Goes reader cs a rest) : Goes (f <$> reader) cs (f a) rest := by
  rw [map_eq_pure_bind]
  exact h.bind (.pure (f a) rest)

end Goes

def AreBlank (cs : List Char) : Prop :=
  ∀ c ∈ cs, isDocumentBlank c = true

theorem areBlank_nil : AreBlank [] :=
  List.forall_mem_nil _

theorem areBlank_space : AreBlank [' '] := by
  simp [AreBlank, isDocumentBlank]

theorem areBlank_lineBreak (depth : Nat) : AreBlank (lineBreak depth) := by
  refine List.forall_mem_cons.mpr ⟨rfl, fun c hc => ?_⟩
  rw [List.eq_of_mem_replicate hc]
  rfl

namespace Cursor

/-- Characters are skipped up to the first one that fails the test. -/
theorem exists_skipWhile_eq {test : Char → Bool} {front rest : List Char}
    (hfront : ∀ c ∈ front, test c = true) (hrest : ∀ c ∈ rest.head?, test c = false)
    (place : Place) : ∃ place', skipWhile test (front ++ rest) place = ⟨rest, place'⟩ := by
  induction front generalizing place with
  | nil =>
      cases rest with
      | nil => exact ⟨place, rfl⟩
      | cons c others => exact ⟨place, if_neg (Bool.eq_false_iff.mp (hrest c rfl))⟩
  | cons c others ih =>
      obtain ⟨hc, hothers⟩ := List.forall_mem_cons.mp hfront
      obtain ⟨place', hplace'⟩ := ih hothers (place.after c)
      exact ⟨place', (if_pos hc).trans hplace'⟩

end Cursor

namespace Reader

variable {rest : List Char}

/-- Blanks are passed over on the way to the next character. -/
theorem goes_peekToken {blanks : List Char} (hblanks : AreBlank blanks)
    (hrest : ∀ c ∈ rest.head?, isDocumentBlank c = false) :
    Goes peekToken (blanks ++ rest) rest.head? rest := by
  intro place
  obtain ⟨place', hplace'⟩ := Cursor.exists_skipWhile_eq hblanks hrest place
  exact ⟨place', congrArg (fun cursor : Cursor => Except.ok (cursor.rest.head?, cursor)) hplace'⟩

/-- Blanks are skipped on the way to the next token. -/
theorem goes_peekToken_cons {blanks : List Char} {c : Char} (hblanks : AreBlank blanks)
    (hc : isDocumentBlank c = false) (rest : List Char) :
    Goes peekToken (blanks ++ c :: rest) (some c) (c :: rest) :=
  goes_peekToken hblanks fun _ hd => Option.mem_some.mp hd ▸ hc

theorem goes_skip (c : Char) (rest : List Char) : Goes skip (c :: rest) () rest :=
  fun place => ⟨place.after c, rfl⟩

/-- A reader that leaves blanks at most has read the whole text. -/
theorem run_eq_ok {α : Type} {reader : Reader α} {text : String} {a : α} {blanks : List Char}
    (h : Goes reader text.toList a blanks) (hblanks : AreBlank blanks) :
    reader.run text = .ok a := by
  obtain ⟨place, hplace⟩ := h .start
  obtain ⟨place', hplace'⟩ : ∃ place', atEnd ⟨blanks, place⟩ = .ok ((), ⟨[], place'⟩) := by
    have hpeek : Goes peekToken (blanks ++ []) none [] := goes_peekToken hblanks (by simp)
    rw [List.append_nil] at hpeek
    exact hpeek.bind (.pure () []) place
  rw [run, Cursor.start, hplace]
  change (atEnd ⟨blanks, place⟩ >>= fun _ => Except.ok a) = _
  rw [hplace']
  rfl

/-- The fuel is told from the text that is left. -/
theorem goes_fuelLeft (cs : List Char) : Goes fuelLeft cs (2 * cs.length + 2) cs :=
  fun place => ⟨place, rfl⟩

end Reader

/-- The ways of writing one character of a string by itself. -/
inductive Escape (c : Char) : List Char → Prop
  | letter {letter : Char} (hunit : letter ≠ 'u') (hletter : escapeLetter? letter = some c) :
      Escape c ['\\', letter]
  | unit {h₁ h₂ h₃ h₄ : Char} (hunit : hexUnit? h₁ h₂ h₃ h₄ = some c.toNat) :
      Escape c ['\\', 'u', h₁, h₂, h₃, h₄]
  | plain (hquote : c ≠ '"') (hbackslash : c ≠ '\\') (hcontrol : isControl c = false) :
      Escape c [c]

/-- The form that an escape with a letter or a unit must have. -/
def isEscape (c : Char) : List Char → Bool
  | ['\\', letter] => letter ≠ 'u' && escapeLetter? letter = some c
  | ['\\', 'u', h₁, h₂, h₃, h₄] => hexUnit? h₁ h₂ h₃ h₄ = some c.toNat
  | _ => false

theorem Escape.of_isEscape {c : Char} {written : List Char} (h : isEscape c written = true) :
    Escape c written := by
  unfold isEscape at h
  split at h
  · rw [Bool.and_eq_true, decide_eq_true_iff, decide_eq_true_iff] at h
    exact .letter h.1 h.2
  · exact .unit (of_decide_eq_true h)
  · cases h

/-- What a writer of strings writes for a character is one of its escapes. -/
theorem escape_escapeChar (c : Char) : Escape c (escapeChar c) := by
  cases hcontrol : isControl c with
  | true =>
      have hall : ∀ n < 32, isEscape (Char.ofNat n) (escapeChar (Char.ofNat n)) = true := by decide
      have hescape := hall c.toNat (of_decide_eq_true hcontrol)
      rw [Char.ofNat_toNat] at hescape
      exact .of_isEscape hescape
  | false =>
      by_cases hquote : c = '"'
      · subst hquote
        exact .letter (by decide) rfl
      · by_cases hbackslash : c = '\\'
        · subst hbackslash
          exact .letter (by decide) rfl
        · have hne : ∀ d, isControl d = true → c ≠ d := by
            rintro d hd rfl
            rw [hcontrol] at hd
            cases hd
          have hlarge : ¬ c.toNat < 32 := of_decide_eq_false hcontrol
          have hplain : escapeChar c = [c] := by
            rw [escapeChar, if_neg hquote, if_neg hbackslash, if_neg (hne _ rfl),
              if_neg (hne _ rfl), if_neg (hne _ rfl), if_neg (hne _ rfl), if_neg (hne _ rfl),
              if_neg (by omega), if_neg hlarge]
          rw [hplain]
          exact .plain hquote hbackslash hcontrol

/-- Scalar values leave out the units of which two make one character. -/
theorem not_isSurrogate (c : Char) :
    isTrailingSurrogate c.toNat = false ∧ isLeadingSurrogate c.toNat = false := by
  have hvalid : c.toNat < 0xD800 ∨ 0xDFFF < c.toNat ∧ c.toNat < 0x110000 := c.valid
  simp only [isTrailingSurrogate, isLeadingSurrogate, Bool.and_eq_false_iff,
    decide_eq_false_iff_not]
  omega

/-- An escape is read as its character, and the text goes on behind it. -/
theorem readText_escape {c : Char} {written : List Char} (h : Escape c written) (cs : List Char)
    (place : Place) :
    ∃ place', readText (written ++ cs) place =
      (readText cs place').map fun answer => (c :: answer.1, answer.2) := by
  cases h with
  | @letter letter hunit hletter =>
      refine ⟨(place.after '\\').after letter, ?_⟩
      simp only [List.cons_append, List.nil_append, readText, Char.reduceEq, if_true, if_false,
        hunit, hletter]
      rfl
  | unit hunit =>
      obtain ⟨htrailing, hleading⟩ := not_isSurrogate c
      let behind := (place.after '\\').after 'u'
      refine ⟨⟨behind.line, behind.column + 4⟩, ?_⟩
      simp only [List.cons_append, List.nil_append, readText, Char.reduceEq, if_true, if_false,
        hunit, htrailing, hleading, Bool.false_eq_true, Char.ofNat_toNat]
      rfl
  | plain hquote hbackslash hcontrol =>
      refine ⟨place.after c, ?_⟩
      simp only [List.cons_append, List.nil_append, readText, hquote, hbackslash, hcontrol,
        if_false, Bool.false_eq_true]
      rfl

/-- An escape is passed over as a whole. -/
theorem skipText_escape {c : Char} {written : List Char} (h : Escape c written) (cs : List Char)
    (place : Place) : ∃ place', skipText (written ++ cs) place = skipText cs place' := by
  cases h with
  | @letter letter hunit hletter =>
      refine ⟨(place.after '\\').after letter, ?_⟩
      simp [skipText, hunit, hletter]
  | unit hunit =>
      let behind := (place.after '\\').after 'u'
      refine ⟨⟨behind.line, behind.column + 4⟩, ?_⟩
      simp [skipText, hunit, behind]
  | plain hquote hbackslash hcontrol =>
      refine ⟨place.after c, ?_⟩
      simp [skipText, hquote, hbackslash, hcontrol]

end Json

end RequestFilter
