import RequestFilter.Proofs.Json.Reading

/-!
# How readers come out

A reader comes to an answer or to a fault, and which one depends on the text
alone. A reader that is known to have answered is taken apart step by step, to
see what it has read.
-/

namespace RequestFilter

namespace Json

/-- From any place in front of `cs`, the reader does what is told: it answers and stops in front of
`rest`, or it has a fault. -/
def Comes {α : Type} (reader : Reader α) (cs : List Char) (outcome : Except Fault α)
    (rest : List Char) : Prop :=
  match outcome with
  | .ok a => Goes reader cs a rest
  | .error fault => ∀ place, ∃ place', reader ⟨cs, place⟩ = .error ⟨fault, place'⟩

section Sequence

variable {α β : Type} {reader : Reader α} {cs middle rest : List Char}

/-- Behind a reader that answers, the next one tells how both come out. -/
theorem Goes.comes {a : α} {next : α → Reader β} {outcome : Except Fault β}
    (hreader : Goes reader cs a middle) (hnext : Comes (next a) middle outcome rest) :
    Comes (reader >>= next) cs outcome rest := by
  cases outcome with
  | ok b => exact hreader.bind hnext
  | error fault =>
      intro place
      obtain ⟨place', hplace'⟩ := hreader place
      obtain ⟨place'', hplace''⟩ := hnext place'
      refine ⟨place'', ?_⟩
      change (reader ⟨cs, place⟩ >>= fun answer => next answer.1 answer.2) = _
      rw [hplace']
      exact hplace''

/-- A fault of the first reader is one of both. -/
theorem Comes.bind {outcome : Except Fault α} {next : α → Reader β} {further : α → Except Fault β}
    (hreader : Comes reader cs outcome middle)
    (hnext : ∀ a, Comes (next a) middle (further a) rest) :
    Comes (reader >>= next) cs (outcome >>= further) rest := by
  cases outcome with
  | ok a => exact Goes.comes hreader (hnext a)
  | error fault =>
      intro place
      obtain ⟨place', hplace'⟩ := hreader place
      refine ⟨place', ?_⟩
      change (reader ⟨cs, place⟩ >>= fun answer => next answer.1 answer.2) = _
      rw [hplace']
      rfl

theorem Comes.pure (a : α) (cs : List Char) : Comes (Pure.pure a) cs (.ok a) cs :=
  Goes.pure a cs

end Sequence

/-- From some place in front of `cs`, the reader has answered `a` and stopped in front of `rest`. -/
def Went {α : Type} (reader : Reader α) (cs : List Char) (a : α) (rest : List Char) : Prop :=
  ∃ place place', reader ⟨cs, place⟩ = .ok (a, ⟨rest, place'⟩)

namespace Went

variable {α β : Type} {reader : Reader α} {next : α → Reader β} {cs rest : List Char} {a : α}
  {b : β}

/-- A sequence that has answered went through both of its readers. -/
theorem of_bind (h : Went (reader >>= next) cs b rest) :
    ∃ a middle, Went reader cs a middle ∧ Went (next a) middle b rest := by
  obtain ⟨place, place', hplace⟩ := h
  change (reader ⟨cs, place⟩ >>= fun answer => next answer.1 answer.2) = _ at hplace
  cases hreader : reader ⟨cs, place⟩ with
  | ok answer =>
      rw [hreader] at hplace
      obtain ⟨a, ⟨middle, place''⟩⟩ := answer
      exact ⟨a, middle, ⟨place, place'', hreader⟩, ⟨place'', place', hplace⟩⟩
  | error error =>
      rw [hreader] at hplace
      cases hplace

/-- An answer without reading takes nothing. -/
theorem of_pure {a' : α} (h : Went (pure a) cs a' rest) : a' = a ∧ rest = cs := by
  obtain ⟨place, place', hplace⟩ := h
  cases hplace
  exact ⟨rfl, rfl⟩

/-- To look at the next character takes nothing. -/
theorem of_peek {next : Option Char → Reader β} (h : Went (Reader.peek >>= next) cs b rest) :
    Went (next cs.head?) cs b rest :=
  h

/-- To skip takes one character. -/
theorem of_skip {next : Unit → Reader β} {c : Char}
    (h : Went (Reader.skip >>= next) (c :: cs) b rest) : Went (next ()) cs b rest := by
  obtain ⟨place, place', hplace⟩ := h
  exact ⟨place.after c, place', hplace⟩

theorem of_skip_pure {c : Char} {a' : α}
    (h : Went (Reader.skip >>= fun _ => pure a) (c :: cs) a' rest) : rest = cs := by
  have hpure : Went (pure a) cs a' rest := of_skip h
  exact (of_pure hpure).2

/-- Where the reader stands can be any place. -/
theorem of_get {next : Cursor → Reader β} (h : Went (get >>= next) cs b rest) :
    ∃ cursor, Went (next cursor) cs b rest := by
  obtain ⟨place, place', hplace⟩ := h
  exact ⟨⟨cs, place⟩, place, place', hplace⟩

/-- A failure is no answer. -/
theorem not_failHere {fault : Fault} : ¬ Went (Reader.failHere fault) cs a rest := by
  rintro ⟨place, place', hplace⟩
  cases hplace

theorem not_failNext {fault : Fault} : ¬ Went (Reader.failNext fault) cs a rest := by
  rintro ⟨place, place', hplace⟩
  cases hplace

theorem not_throw {error : Error} : ¬ Went (throw error) cs a rest := by
  rintro ⟨place, place', hplace⟩
  cases hplace

/-- What a test lets through is passed over. -/
theorem exists_skipWhile_eq (test : Char → Bool) (cs : List Char) (place : Place) :
    ∃ place', Cursor.skipWhile test cs place = ⟨cs.dropWhile test, place'⟩ := by
  induction cs generalizing place with
  | nil => exact ⟨place, rfl⟩
  | cons c others ih =>
      rw [Cursor.skipWhile, List.dropWhile_cons]
      by_cases hc : test c = true
      · rw [if_pos hc, if_pos hc]
        exact ih (place.after c)
      · rw [if_neg hc, if_neg hc]
        exact ⟨place, rfl⟩

/-- Up to the next token there are blanks only. -/
theorem of_peekToken {next : Option Char → Reader β}
    (h : Went (Reader.peekToken >>= next) cs b rest) :
    ∃ blanks middle, AreBlank blanks ∧ cs = blanks ++ middle ∧
      Went (next middle.head?) middle b rest := by
  obtain ⟨place, place', hplace⟩ := h
  obtain ⟨place'', hskip⟩ := exists_skipWhile_eq isDocumentBlank cs place
  refine ⟨cs.takeWhile isDocumentBlank, cs.dropWhile isDocumentBlank, ?_,
    List.takeWhile_append_dropWhile.symm, place'', place', ?_⟩
  · exact fun c hc => List.all_eq_true.mp List.all_takeWhile c hc
  · change next (Cursor.skipWhile isDocumentBlank cs place).rest.head?
      (Cursor.skipWhile isDocumentBlank cs place) = _ at hplace
    rw [hskip] at hplace
    exact hplace

/-- A reader that fails at the end of the text has seen a character behind blanks. -/
theorem exists_cons_of_peekToken {next : Option Char → Reader β}
    (h : Went (Reader.peekToken >>= next) cs b rest) (hend : ¬ Went (next none) [] b rest) :
    ∃ blanks c others, AreBlank blanks ∧ cs = blanks ++ c :: others ∧
      Went (next (some c)) (c :: others) b rest := by
  obtain ⟨blanks, middle, hblanks, hcs, hnext⟩ := of_peekToken h
  cases middle with
  | nil => exact absurd hnext hend
  | cons c others => exact ⟨blanks, c, others, hblanks, hcs, hnext⟩

/-- Digits are taken up to where they end. -/
theorem of_digits {ds : List Char} (h : Went Reader.digits cs ds rest) :
    cs = ds ++ rest ∧ (∀ c ∈ ds, c.isDigit = true) ∧ ∀ c ∈ rest.head?, c.isDigit = false := by
  obtain ⟨place, place', hplace⟩ := h
  obtain ⟨place'', hskip⟩ := exists_skipWhile_eq Char.isDigit cs place
  rw [Reader.digits, hskip] at hplace
  cases hplace
  refine ⟨List.takeWhile_append_dropWhile.symm, ?_, fun c hc => ?_⟩
  · exact fun c hc => List.all_eq_true.mp List.all_takeWhile c hc
  · have hhead := List.head?_dropWhile_not Char.isDigit cs
    rw [Option.mem_def.mp hc] at hhead
    exact hhead

/-- A word is taken as it is expected. -/
theorem of_word {expected : List Char} (h : Went (Reader.word expected) cs () rest) :
    cs = expected ++ rest := by
  induction expected generalizing cs with
  | nil => exact (of_pure h).2.symm
  | cons c more ih =>
      replace h := of_peek h
      cases cs with
      | nil => exact absurd h not_failHere
      | cons d others =>
          by_cases hc : d = c
          · subst hc
            simp only [List.head?_cons, if_true] at h
            rw [ih (of_skip h), List.cons_append]
          · simp only [List.head?_cons, hc, if_false] at h
            exact absurd h not_failNext

theorem of_skip_word {expected : List Char} {c : Char} {b' : β}
    (h : Went (Reader.skip >>= fun _ => Reader.word expected >>= fun _ => pure b)
      (c :: cs) b' rest) : c :: cs = c :: expected ++ rest := by
  obtain ⟨_, middle, hword, hpure⟩ := of_bind (of_skip h)
  rw [of_word hword, (of_pure hpure).2, List.cons_append]

end Went

end Json

end RequestFilter
