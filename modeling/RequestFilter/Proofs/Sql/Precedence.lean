import Mathlib.Logic.Function.Iterate
import RequestFilter.Proofs.Sql.Outline

/-!
# Reading by precedence

The tokens of a condition are read from left to right. Operators wait until it is
known that nothing binds their last operand more tightly. What is proved here is
which tree is read from a rendered expression: every parenthesis encloses one
operator, and the negations at the start of its first operand wait for an operator
that binds more tightly than they do.
-/

namespace RequestFilter.Sql

/-- How tightly operators bind their operands. -/
structure Precedence where
  strength : Mark → Nat
  or_lt_and : strength .or < strength .and
  and_lt_not : strength .and < strength .not
  not_lt_sign : ∀ comparison, strength .not < strength (.sign comparison)
  not_lt_among : strength .not < strength .among
  not_lt_is : strength .not < strength .is

namespace Precedence

/-- Patterns and membership bind most tightly, then other comparisons, then tests for NULL. -/
def usual : Precedence where
  strength
    | .or => 1
    | .and => 2
    | .not => 3
    | .is => 4
    | .sign .like | .sign .likeIgnoringCase | .among => 6
    | .sign _ => 5
    | _ => 0
  or_lt_and := by decide
  and_lt_not := by decide
  not_lt_sign comparison := by cases comparison <;> decide
  not_lt_among := by decide
  not_lt_is := by decide

end Precedence

inductive Connective where
  | and
  | or
  | compare (comparison : Comparison)

namespace Connective

def mark : Connective → Mark
  | .and => .and
  | .or => .or
  | .compare comparison => .sign comparison

def join : Connective → Outline → Outline → Outline
  | .and, left, right => .and left right
  | .or, left, right => .or left right
  | .compare comparison, left, right => .compare left comparison right

def ofMark? : Mark → Option Connective
  | .and => some .and
  | .or => some .or
  | .sign comparison => some (.compare comparison)
  | _ => none

end Connective

/-- What waits for an operand to be complete. -/
inductive Frame where
  | group
  | negation
  | pending (left : Outline) (connective : Connective)
  /-- An open list of values with the items so far. -/
  | list (operand : Outline) (items : List Outline)

/-- What has been read behind the frames that wait. -/
inductive Focus where
  | wanted
  | path (names : List String)
  /-- Names with a period behind them. -/
  | qualifier (names : List String)
  | operand (tree : Outline)
  /-- An operand and the first word of a test for NULL. -/
  | tested (tree : Outline)
  /-- An operand that a list of values has to follow. -/
  | searched (tree : Outline)

def Focus.operand? : Focus → Option Outline
  | .path names => some (.column names)
  | .operand tree => some tree
  | .wanted | .qualifier _ | .tested _ | .searched _ => none

/-- A reader in the middle of a condition, the innermost frame first. -/
structure Reader where
  frames : List Frame
  focus : Focus

namespace Precedence

variable (precedence : Precedence)

/-- Complete the waiting operators that bind at least as tightly as `strength`. -/
def settle (strength : Nat) : List Frame → Outline → List Frame × Outline
  | .negation :: frames, tree =>
      if strength ≤ precedence.strength .not then settle strength frames (.not tree)
      else (.negation :: frames, tree)
  | .pending left connective :: frames, tree =>
      if strength ≤ precedence.strength connective.mark then
        settle strength frames (connective.join left tree)
      else (.pending left connective :: frames, tree)
  -- a group or a list stays open until it is closed
  | frames, tree => (frames, tree)

/-- Read a token where an operand is wanted. -/
def begin (frames : List Frame) : Token → Option Reader
  | .name name => some ⟨frames, .path [name]⟩
  | .literal text => some ⟨frames, .operand (.inline text)⟩
  | .bound value => some ⟨frames, .operand (.bound value)⟩
  | .mark .opening => some ⟨.group :: frames, .wanted⟩
  | .mark .not => some ⟨.negation :: frames, .wanted⟩
  -- nothing but an empty list ends where an operand is wanted
  | .mark .closing =>
      match frames with
      | .list operand [] :: frames => some ⟨frames, .operand (.among operand [])⟩
      | _ => none
  | _ => none

/-- Read a mark behind an operand. -/
def proceed (frames : List Frame) (tree : Outline) : Mark → Option Reader
  | .closing =>
      match precedence.settle 0 frames tree with
      | (.group :: frames, tree) => some ⟨frames, .operand tree⟩
      | (.list operand items :: frames, tree) =>
          some ⟨frames, .operand (.among operand (items ++ [tree]))⟩
      | _ => none
  | .comma =>
      match precedence.settle 0 frames tree with
      | (.list operand items :: frames, tree) =>
          some ⟨.list operand (items ++ [tree]) :: frames, .wanted⟩
      | _ => none
  | .is =>
      let settled := precedence.settle (precedence.strength .is) frames tree
      some ⟨settled.1, .tested settled.2⟩
  | .among =>
      let settled := precedence.settle (precedence.strength .among) frames tree
      some ⟨settled.1, .searched settled.2⟩
  | mark =>
      match Connective.ofMark? mark with
      | some connective =>
          let settled := precedence.settle (precedence.strength mark) frames tree
          some ⟨.pending settled.2 connective :: settled.1, .wanted⟩
      | none => none

def step (reader : Reader) (token : Token) : Option Reader :=
  match reader.focus, token with
  | .wanted, token => begin reader.frames token
  | .path names, .mark .period => some ⟨reader.frames, .qualifier names⟩
  | .path names, .mark mark => precedence.proceed reader.frames (.column names) mark
  | .operand tree, .mark mark => precedence.proceed reader.frames tree mark
  | .qualifier names, .name name => some ⟨reader.frames, .path (names ++ [name])⟩
  | .tested tree, .mark .null => some ⟨reader.frames, .operand (.isNull tree)⟩
  | .searched tree, .mark .opening => some ⟨.list tree [] :: reader.frames, .wanted⟩
  | _, _ => none

def run (reader : Reader) : List Token → Option Reader
  | [] => some reader
  | token :: rest =>
      match precedence.step reader token with
      | some next => run next rest
      | none => none

/-- The tree of a condition that the tokens are, if they are one. -/
def read (tokens : List Token) : Option Outline :=
  match precedence.run ⟨[], .wanted⟩ tokens with
  | some reader =>
      match reader.focus.operand? with
      | some tree =>
          match precedence.settle 0 reader.frames tree with
          | ([], tree) => some tree
          | _ => none
      | none => none
  | none => none

example : usual.read (tokensOf "\"a\" OR NOT \"b\" = 1 AND \"c\" IS NULL".toList) =
    some (.or (.column ["a"]) (.and (.not (.compare (.column ["b"]) .equal (.inline "1")))
      (.isNull (.column ["c"])))) := by
  rfl

/-- Reading tokens leaves frames that wait, and an operand behind them. -/
def Reads (reader : Reader) (tokens : List Token) (frames : List Frame) (tree : Outline) : Prop :=
  ∃ focus, precedence.run reader tokens = some ⟨frames, focus⟩ ∧ focus.operand? = some tree

/-- Tokens are read one after the other. -/
theorem run_append {reader next : Reader} {tokens : List Token}
    (h : precedence.run reader tokens = some next) (rest : List Token) :
    precedence.run reader (tokens ++ rest) = precedence.run next rest := by
  induction tokens generalizing reader with
  | nil =>
      cases h
      rfl
  | cons token tokens ih =>
      rw [run] at h
      rw [List.cons_append, run]
      cases hstep : precedence.step reader token with
      | none =>
          rw [hstep] at h
          contradiction
      | some middle =>
          rw [hstep] at h
          exact ih h

/-- A mark behind an operand, other than a period, which belongs to a path. -/
theorem step_mark {frames : List Frame} {focus : Focus} {tree : Outline} {mark : Mark}
    (hfocus : focus.operand? = some tree) (hmark : mark ≠ .period) :
    precedence.step ⟨frames, focus⟩ (.mark mark) = precedence.proceed frames tree mark := by
  cases focus with
  | path names =>
      cases hfocus
      cases mark <;> first | rfl | contradiction
  | operand tree =>
      cases hfocus
      rfl
  | wanted | qualifier _ | tested _ | searched _ => cases hfocus

theorem Reads.run_mark {reader next : Reader} {tokens : List Token} {frames : List Frame}
    {tree : Outline} {mark : Mark} (h : precedence.Reads reader tokens frames tree)
    (hmark : mark ≠ .period) (hnext : precedence.proceed frames tree mark = some next)
    (rest : List Token) :
    precedence.run reader (tokens ++ .mark mark :: rest) = precedence.run next rest := by
  obtain ⟨focus, hrun, hfocus⟩ := h
  rw [precedence.run_append hrun, run, precedence.step_mark hfocus hmark, hnext]

/-- Waiting negations are completed by what does not bind more tightly. -/
theorem settle_negations {strength : Nat} (h : strength ≤ precedence.strength .not) (count : Nat)
    (frames : List Frame) (tree : Outline) :
    precedence.settle strength (List.replicate count .negation ++ frames) tree =
      precedence.settle strength frames (Outline.not^[count] tree) := by
  induction count generalizing tree with
  | zero => rfl
  | succ count ih =>
      rw [List.replicate_succ, List.cons_append, settle, if_pos h, ih, Function.iterate_succ_apply]

/-- Waiting negations in a group go on waiting before what binds more tightly. -/
theorem settle_negations_of_lt {strength : Nat} (h : precedence.strength .not < strength)
    (count : Nat) (frames : List Frame) (tree : Outline) :
    precedence.settle strength (List.replicate count .negation ++ .group :: frames) tree =
      (List.replicate count .negation ++ .group :: frames, tree) := by
  cases count with
  | zero => rfl
  | succ count => rw [List.replicate_succ, List.cons_append, settle, if_neg (by omega)]

theorem settle_zero_pending (left tree : Outline) (connective : Connective)
    (frames : List Frame) :
    precedence.settle 0 (.pending left connective :: frames) tree =
      precedence.settle 0 frames (connective.join left tree) := by
  rw [settle, if_pos (Nat.zero_le _)]

/-- A connective settles what binds at least as tightly, and waits for its second operand. -/
theorem proceed_connective (connective : Connective) (frames : List Frame) (tree : Outline) :
    precedence.proceed frames tree connective.mark =
      some ⟨.pending (precedence.settle (precedence.strength connective.mark) frames tree).2
          connective ::
        (precedence.settle (precedence.strength connective.mark) frames tree).1, .wanted⟩ := by
  cases connective <;> rfl

/-- A closing parenthesis settles all that waits within its group. -/
theorem proceed_closing_group {frames waiting : List Frame} {tree settled : Outline}
    (h : precedence.settle 0 waiting tree = (.group :: frames, settled)) :
    precedence.proceed waiting tree .closing = some ⟨frames, .operand settled⟩ := by
  rw [proceed, h]

theorem proceed_closing_list {frames waiting : List Frame} {operand tree settled : Outline}
    {items : List Outline}
    (h : precedence.settle 0 waiting tree = (.list operand items :: frames, settled)) :
    precedence.proceed waiting tree .closing =
      some ⟨frames, .operand (.among operand (items ++ [settled]))⟩ := by
  rw [proceed, h]

theorem proceed_comma {frames waiting : List Frame} {operand tree settled : Outline}
    {items : List Outline}
    (h : precedence.settle 0 waiting tree = (.list operand items :: frames, settled)) :
    precedence.proceed waiting tree .comma =
      some ⟨.list operand (items ++ [settled]) :: frames, .wanted⟩ := by
  rw [proceed, h]

end Precedence

end RequestFilter.Sql
