import RequestFilter.Proofs.Sql.Precedence

/-!
# Grouping

Which tree is read from a rendered expression. Negations are written without
parentheses of their own, so a negation at the start of a comparison, a membership
or a test for NULL is read as a negation of the whole. Everything else is read as
it was meant.
-/

namespace RequestFilter.Sql

def negated (leading : Nat × Outline) : Outline :=
  Outline.not^[leading.1] leading.2

namespace Expression

mutual

/-- The negations that the text of an expression begins with, and what is read behind them. -/
def leading : Expression → Nat × Outline
  | .column table name => (0, .column (table.path ++ [name]))
  | .literal value => (0, literalOutline value)
  | .and left right => (0, .and (negated left.leading) (negated right.leading))
  | .or left right => (0, .or (negated left.leading) (negated right.leading))
  | .not operand => (operand.leading.1 + 1, operand.leading.2)
  | .compare left comparison right =>
      (0, negated (left.leading.1, .compare left.leading.2 comparison (negated right.leading)))
  | .among operand items =>
      (0, negated (operand.leading.1, .among operand.leading.2 (itemTrees items)))
  | .isNull operand => (0, negated (operand.leading.1, .isNull operand.leading.2))

def itemTrees : List Expression → List Outline
  | [] => []
  | item :: rest => negated item.leading :: itemTrees rest

end

/-- The tree that is read from the text of an expression. -/
def readTree (expression : Expression) : Outline :=
  negated expression.leading

theorem itemTrees_eq_map (items : List Expression) : itemTrees items = items.map readTree := by
  induction items with
  | nil => rfl
  | cons item rest ih => rw [itemTrees, ih, List.map_cons, readTree]

end Expression

namespace Precedence

variable (precedence : Precedence)

theorem run_path (frames : List Frame) (first : String) (others : List String) :
    precedence.run ⟨frames, .wanted⟩ (pathTokens (first :: others)) =
      some ⟨frames, .path (first :: others)⟩ := by
  have hothers : ∀ names : List String,
      precedence.run ⟨frames, .path names⟩
          (others.flatMap fun next => [.mark .period, .name next]) =
        some ⟨frames, .path (names ++ others)⟩ := by
    induction others with
    | nil =>
        intro names
        rw [List.append_nil]
        rfl
    | cons next others ih =>
        intro names
        calc precedence.run ⟨frames, .path names⟩
              ((next :: others).flatMap fun next => [.mark .period, .name next])
            = precedence.run ⟨frames, .path (names ++ [next])⟩
              (others.flatMap fun next => [.mark .period, .name next]) := rfl
          _ = some ⟨frames, .path (names ++ next :: others)⟩ := by
            rw [ih, List.append_assoc]
            rfl
  exact hothers [first]

theorem reads_path {names : List String} (hne : names ≠ []) (frames : List Frame) :
    precedence.Reads ⟨frames, .wanted⟩ (pathTokens names) frames (.column names) := by
  cases names with
  | nil => contradiction
  | cons first others => exact ⟨_, precedence.run_path frames first others, rfl⟩

theorem reads_literal (value : Scalar) (frames : List Frame) :
    precedence.Reads ⟨frames, .wanted⟩ [literalToken value] frames (literalOutline value) := by
  cases value <;> exact ⟨_, rfl, rfl⟩

end Precedence

/-- The frames that wait for the tree behind the first negations of an expression. -/
def Expression.waiting (expression : Expression) (frames : List Frame) : List Frame :=
  List.replicate expression.leading.1 .negation ++ frames

/-- Wherever an operand is wanted, the tokens of an expression leave its first negations waiting
and the tree behind them as the operand. -/
def Expression.ReadsBack (precedence : Precedence) (expression : Expression) : Prop :=
  ∀ frames, precedence.Reads ⟨frames, .wanted⟩ expression.tokens (expression.waiting frames)
    expression.leading.2

namespace Precedence

variable {precedence : Precedence}

theorem settle_waiting {strength : Nat} (h : strength ≤ precedence.strength .not)
    (expression : Expression) (frames : List Frame) (tree : Outline) :
    precedence.settle strength (expression.waiting frames) tree =
      precedence.settle strength frames (negated (expression.leading.1, tree)) :=
  precedence.settle_negations h _ frames tree

theorem settle_waiting_of_lt {strength : Nat} (h : precedence.strength .not < strength)
    (expression : Expression) (frames : List Frame) (tree : Outline) :
    precedence.settle strength (expression.waiting (.group :: frames)) tree =
      (expression.waiting (.group :: frames), tree) :=
  precedence.settle_negations_of_lt h _ frames tree

/-- The end of what the innermost frame encloses completes the negations of its last operand. -/
theorem settle_zero_leading (expression : Expression) (frames : List Frame) :
    precedence.settle 0 (expression.waiting frames) expression.leading.2 =
      precedence.settle 0 frames expression.readTree :=
  settle_waiting (Nat.zero_le _) expression frames _

/-- A parenthesis, the first operand behind it and the mark of an operator. -/
theorem run_first_operand {first : Expression} (hfirst : first.ReadsBack precedence)
    {mark : Mark} (hmark : mark ≠ .period) {frames : List Frame} {next : Reader}
    (hnext : precedence.proceed (first.waiting (.group :: frames)) first.leading.2 mark =
      some next) (rest : List Token) :
    precedence.run ⟨frames, .wanted⟩
        (.mark .opening :: (first.tokens ++ .mark mark :: rest)) =
      precedence.run next rest :=
  (hfirst (.group :: frames)).run_mark precedence hmark hnext rest

theorem run_closing {waiting frames : List Frame} {tree whole : Outline}
    (hwhole : precedence.settle 0 waiting tree = (.group :: frames, whole)) (rest : List Token) :
    precedence.run ⟨waiting, .operand tree⟩ (.mark .closing :: rest) =
      precedence.run ⟨frames, .operand whole⟩ rest := by
  rw [run, precedence.step_mark rfl (by simp), proceed_closing_group precedence hwhole]

/-- The last operand of a group and the parenthesis behind it. -/
theorem run_last_operand {last : Expression} (hlast : last.ReadsBack precedence)
    {left whole : Outline} {connective : Connective} {waiting frames : List Frame}
    (hwhole : precedence.settle 0 waiting (connective.join left last.readTree) =
      (.group :: frames, whole)) (rest : List Token) :
    precedence.run ⟨.pending left connective :: waiting, .wanted⟩
        (last.tokens ++ .mark .closing :: rest) =
      precedence.run ⟨frames, .operand whole⟩ rest := by
  refine (hlast _).run_mark precedence (by simp) (proceed_closing_group precedence ?_) rest
  rw [settle_zero_leading, settle_zero_pending, hwhole]

/-- An operator that binds less tightly than negations completes those before it. -/
theorem run_loose {left right : Expression} (connective : Connective)
    (hleft : left.ReadsBack precedence) (hright : right.ReadsBack precedence)
    (hloose : precedence.strength connective.mark < precedence.strength .not)
    (frames : List Frame) (rest : List Token) :
    precedence.run ⟨frames, .wanted⟩ (.mark .opening :: (left.tokens ++
        .mark connective.mark :: (right.tokens ++ .mark .closing :: rest))) =
      precedence.run ⟨frames, .operand (connective.join left.readTree right.readTree)⟩ rest := by
  have hmark : connective.mark ≠ .period := by cases connective <;> simp [Connective.mark]
  have hproceed : precedence.proceed (left.waiting (.group :: frames)) left.leading.2
      connective.mark = some ⟨.pending left.readTree connective :: .group :: frames, .wanted⟩ := by
    rw [proceed_connective, settle_waiting hloose.le]
    rfl
  rw [run_first_operand hleft hmark hproceed]
  exact run_last_operand hright rfl rest

/-- An operator that binds more tightly than negations leaves those before it waiting, and
they are completed with the group. -/
theorem run_tight {left right : Expression} (connective : Connective)
    (hleft : left.ReadsBack precedence) (hright : right.ReadsBack precedence)
    (htight : precedence.strength .not < precedence.strength connective.mark)
    (frames : List Frame) (rest : List Token) :
    precedence.run ⟨frames, .wanted⟩ (.mark .opening :: (left.tokens ++
        .mark connective.mark :: (right.tokens ++ .mark .closing :: rest))) =
      precedence.run ⟨frames, .operand
        (negated (left.leading.1, connective.join left.leading.2 right.readTree))⟩ rest := by
  have hmark : connective.mark ≠ .period := by cases connective <;> simp [Connective.mark]
  have hproceed : precedence.proceed (left.waiting (.group :: frames)) left.leading.2
      connective.mark =
      some ⟨.pending left.leading.2 connective :: left.waiting (.group :: frames), .wanted⟩ := by
    rw [proceed_connective, settle_waiting_of_lt htight]
  rw [run_first_operand hleft hmark hproceed]
  exact run_last_operand hright (settle_waiting (Nat.zero_le _) left _ _) rest

/-- The items of a list, from one of them on, and the parenthesis behind them. -/
theorem run_items_from {first : Expression} {others : List Expression}
    (hfirst : first.ReadsBack precedence) (hothers : ∀ item ∈ others, item.ReadsBack precedence)
    (operand : Outline) (done : List Outline) (frames : List Frame) (rest : List Token) :
    precedence.run ⟨.list operand done :: frames, .wanted⟩
        (first.tokens ++ ((others.flatMap fun next => .mark .comma :: next.tokens) ++
          .mark .closing :: rest)) =
      precedence.run ⟨frames, .operand
        (.among operand (done ++ first.readTree :: others.map Expression.readTree))⟩ rest := by
  have hsettled : ∀ (item : Expression) (done : List Outline),
      precedence.settle 0 (item.waiting (.list operand done :: frames)) item.leading.2 =
        (.list operand done :: frames, item.readTree) :=
    fun item _ => settle_zero_leading item _
  -- the items that are complete move from the tokens into the frame, one with each comma
  induction others generalizing first done with
  | nil =>
      exact (hfirst _).run_mark precedence (by simp)
        (proceed_closing_list precedence (hsettled first done)) rest
  | cons next others ih =>
      obtain ⟨hnext, hrest⟩ := List.forall_mem_cons.mp hothers
      rw [List.flatMap_cons, List.cons_append, List.cons_append, List.append_assoc,
        (hfirst _).run_mark precedence (by simp) (proceed_comma precedence (hsettled first done)),
        ih hnext hrest, List.append_assoc, List.map_cons]
      rfl

theorem run_items {items : List Expression} (hitems : ∀ item ∈ items, item.ReadsBack precedence)
    (operand : Outline) (frames : List Frame) (rest : List Token) :
    precedence.run ⟨.list operand [] :: frames, .wanted⟩
        (commaTokens (items.map Expression.tokens) ++ .mark .closing :: rest) =
      precedence.run ⟨frames, .operand (.among operand (items.map Expression.readTree))⟩ rest := by
  cases items with
  | nil => rfl
  | cons first others =>
      obtain ⟨hfirst, hothers⟩ := List.forall_mem_cons.mp hitems
      have hall := run_items_from hfirst hothers operand [] frames rest
      simpa [commaTokens, List.flatMap_map] using hall

theorem run_among {operand : Expression} {items : List Expression}
    (hoperand : operand.ReadsBack precedence) (hitems : ∀ item ∈ items, item.ReadsBack precedence)
    (frames : List Frame) (rest : List Token) :
    precedence.run ⟨frames, .wanted⟩ (.mark .opening :: (operand.tokens ++ .mark .among ::
        .mark .opening :: (commaTokens (items.map Expression.tokens) ++
          .mark .closing :: .mark .closing :: rest))) =
      precedence.run ⟨frames, .operand (negated (operand.leading.1,
        .among operand.leading.2 (items.map Expression.readTree)))⟩ rest := by
  have hproceed : precedence.proceed (operand.waiting (.group :: frames)) operand.leading.2
      .among = some ⟨operand.waiting (.group :: frames), .searched operand.leading.2⟩ := by
    rw [proceed, settle_waiting_of_lt precedence.not_lt_among]
  rw [run_first_operand hoperand (by simp) hproceed]
  calc precedence.run ⟨operand.waiting (.group :: frames), .searched operand.leading.2⟩
        (.mark .opening :: (commaTokens (items.map Expression.tokens) ++
          .mark .closing :: .mark .closing :: rest))
      = precedence.run ⟨.list operand.leading.2 [] :: operand.waiting (.group :: frames), .wanted⟩
        (commaTokens (items.map Expression.tokens) ++
          .mark .closing :: .mark .closing :: rest) := rfl
    _ = precedence.run ⟨operand.waiting (.group :: frames),
          .operand (.among operand.leading.2 (items.map Expression.readTree))⟩
        (.mark .closing :: rest) := run_items hitems operand.leading.2 _ _
    _ = precedence.run ⟨frames, .operand (negated (operand.leading.1,
        .among operand.leading.2 (items.map Expression.readTree)))⟩ rest :=
      run_closing (settle_waiting (Nat.zero_le _) operand _ _) rest

theorem run_isNull {operand : Expression} (hoperand : operand.ReadsBack precedence)
    (frames : List Frame) (rest : List Token) :
    precedence.run ⟨frames, .wanted⟩ (.mark .opening :: (operand.tokens ++
        .mark .is :: .mark .null :: .mark .closing :: rest)) =
      precedence.run ⟨frames, .operand
        (negated (operand.leading.1, .isNull operand.leading.2))⟩ rest := by
  have hproceed : precedence.proceed (operand.waiting (.group :: frames)) operand.leading.2
      .is = some ⟨operand.waiting (.group :: frames), .tested operand.leading.2⟩ := by
    rw [proceed, settle_waiting_of_lt precedence.not_lt_is]
  rw [run_first_operand hoperand (by simp) hproceed]
  exact run_closing (settle_waiting (Nat.zero_le _) operand _ _) rest

end Precedence

namespace Expression

def isNegation : Expression → Bool
  | .not _ => true
  | _ => false

mutual

/-- No negation is the first operand of a comparison, a membership or a test for NULL. -/
def NegationsApart : Expression → Prop
  | .column _ _ | .literal _ => True
  | .and left right | .or left right => left.NegationsApart ∧ right.NegationsApart
  | .not operand => operand.NegationsApart
  | .compare left _ right =>
      left.isNegation = false ∧ left.NegationsApart ∧ right.NegationsApart
  | .among operand items =>
      operand.isNegation = false ∧ operand.NegationsApart ∧ ItemsNegationsApart items
  | .isNull operand => operand.isNegation = false ∧ operand.NegationsApart

def ItemsNegationsApart : List Expression → Prop
  | [] => True
  | item :: rest => item.NegationsApart ∧ ItemsNegationsApart rest

end

/-- Every expression is read as a number of negations and a tree behind them. -/
theorem readsBack (precedence : Precedence) (expression : Expression) :
    expression.ReadsBack precedence := by
  induction expression with
  | column table name =>
      intro frames
      rw [tokens_column]
      exact precedence.reads_path (by simp) frames
  | literal value =>
      intro frames
      rw [tokens_literal]
      exact precedence.reads_literal value frames
  | not operand ih =>
      intro frames
      -- this negation waits behind those of its operand, which makes no difference to the frames
      obtain ⟨focus, hrun, hfocus⟩ := ih (.negation :: frames)
      refine ⟨focus, ?_, hfocus⟩
      rw [waiting, leading, List.replicate_succ', List.append_assoc]
      exact hrun
  | and left right ihleft ihright =>
      intro frames
      rw [tokens_of_parts? rfl]
      exact ⟨_, Precedence.run_loose .and ihleft ihright precedence.and_lt_not frames [], rfl⟩
  | or left right ihleft ihright =>
      intro frames
      have hloose : precedence.strength .or < precedence.strength .not :=
        precedence.or_lt_and.trans precedence.and_lt_not
      rw [tokens_of_parts? rfl]
      exact ⟨_, Precedence.run_loose .or ihleft ihright hloose frames [], rfl⟩
  | compare left comparison right ihleft ihright =>
      intro frames
      rw [tokens_of_parts? rfl]
      exact ⟨_, Precedence.run_tight (.compare comparison) ihleft ihright
        (precedence.not_lt_sign comparison) frames [], rfl⟩
  | among operand items ih ihitems =>
      intro frames
      rw [tokens_of_parts? rfl, waiting, leading, itemTrees_eq_map]
      exact ⟨_, Precedence.run_among ih ihitems frames [], rfl⟩
  | isNull operand ih =>
      intro frames
      rw [tokens_of_parts? rfl]
      exact ⟨_, Precedence.run_isNull ih frames [], rfl⟩

theorem read_tokens (precedence : Precedence) (expression : Expression) :
    precedence.read expression.tokens = some expression.readTree := by
  obtain ⟨focus, hrun, hfocus⟩ := expression.readsBack precedence []
  have hsettled := @Precedence.settle_zero_leading precedence expression []
  simp only [Precedence.read, hrun, hfocus, hsettled]
  rfl

theorem leading_fst_eq_zero_iff (expression : Expression) :
    expression.leading.1 = 0 ↔ expression.isNegation = false := by
  cases expression <;> simp [leading, isNegation]

theorem readTree_eq_of_not_isNegation {expression : Expression}
    (h : expression.isNegation = false) : expression.readTree = expression.leading.2 := by
  rw [readTree, negated, expression.leading_fst_eq_zero_iff.mpr h]
  rfl

theorem itemsNegationsApart_iff (items : List Expression) :
    ItemsNegationsApart items ↔ ∀ item ∈ items, item.NegationsApart := by
  induction items with
  | nil => simp [ItemsNegationsApart]
  | cons item rest ih => simp [ItemsNegationsApart, ih]

/-- An operator that negations are read before keeps its place when there are none. -/
theorem negated_eq_iff {operand : Expression} {tree outline : Outline}
    (houtline : ∀ inner, outline ≠ .not inner) :
    negated (operand.leading.1, tree) = outline ↔ operand.isNegation = false ∧ tree = outline := by
  rw [← operand.leading_fst_eq_zero_iff]
  cases hcount : operand.leading.1 with
  | zero => simp [negated]
  | succ count =>
      -- a negation is read around the operator, which then is not what the outline begins with
      have hne : negated (count + 1, tree) ≠ outline := by
        rw [negated, Function.iterate_succ_apply']
        exact (houtline _).symm
      simp [hne]

/-- An expression is read as its outline exactly when no negation stands where an operator that
binds more tightly would take its operand. -/
theorem readTree_eq_outline_iff (expression : Expression) :
    expression.readTree = expression.outline ↔ expression.NegationsApart := by
  induction expression with
  | column table name => simp [readTree, leading, negated, outline, NegationsApart]
  | literal value => simp [readTree, leading, negated, outline, NegationsApart]
  | and left right ihleft ihright =>
      have hread : (left.and right).readTree = .and left.readTree right.readTree := rfl
      rw [hread, outline, Outline.and.injEq, ihleft, ihright, NegationsApart]
  | or left right ihleft ihright =>
      have hread : (left.or right).readTree = .or left.readTree right.readTree := rfl
      rw [hread, outline, Outline.or.injEq, ihleft, ihright, NegationsApart]
  | not operand ih =>
      have hread : operand.not.readTree = .not operand.readTree :=
        Function.iterate_succ_apply' Outline.not operand.leading.1 operand.leading.2
      rw [hread, outline, Outline.not.injEq, ih, NegationsApart]
  | compare left comparison right ihleft ihright =>
      have hread : (left.compare comparison right).readTree = negated (left.leading.1,
          .compare left.leading.2 comparison right.readTree) := rfl
      rw [hread, outline, negated_eq_iff (by simp), NegationsApart]
      refine and_congr_right fun hleft => ?_
      rw [← readTree_eq_of_not_isNegation hleft, Outline.compare.injEq, ihleft, ihright]
      simp
  | among operand items ih ihitems =>
      have hread : (operand.among items).readTree = negated (operand.leading.1,
          .among operand.leading.2 (itemTrees items)) := rfl
      have hitems : items.map readTree = items.map outline ↔
          ∀ item ∈ items, item.NegationsApart := by
        rw [List.map_inj_left]
        exact forall₂_congr ihitems
      rw [hread, outline, negated_eq_iff (by simp), NegationsApart]
      refine and_congr_right fun hoperand => ?_
      rw [← readTree_eq_of_not_isNegation hoperand, Outline.among.injEq, ih, itemTrees_eq_map,
        outlines_eq_map, hitems, itemsNegationsApart_iff]
  | isNull operand ih =>
      have hread : operand.isNull.readTree = negated (operand.leading.1,
          .isNull operand.leading.2) := rfl
      rw [hread, outline, negated_eq_iff (by simp), NegationsApart]
      refine and_congr_right fun hoperand => ?_
      rw [← readTree_eq_of_not_isNegation hoperand, Outline.isNull.injEq, ih]

/-- The text of an expression is always read as one tree. That tree is the expression, as far
as text can show it, exactly when no negation is the first operand of a comparison, a membership
or a test for NULL; then the text has on every row the truth of the expression. -/
theorem read_statement_eq_outline_iff (precedence : Precedence) (expression : Expression) :
    ∃ tree, precedence.read (Statement.ofFragments expression.fragments).tokens = some tree ∧
      (tree = expression.outline ↔ expression.NegationsApart) ∧
      (expression.NegationsApart → ∀ (V : Type) (database : Reading V) (cells : Cells V),
        tree.truth database cells =
          expression.truth database.toInterpretation cells.row) := by
  refine ⟨expression.readTree, ?_, expression.readTree_eq_outline_iff, ?_⟩
  · rw [Statement.tokens_ofFragments expression.separable]
    exact expression.read_tokens precedence
  · intro hapart V database cells
    rw [expression.readTree_eq_outline_iff.mpr hapart, expression.truth_outline]

end Expression

def Reading.textual : Reading String where
  literal := Scalar.text
  text value := value
  compare _ left right := .ofBool (left = right)
  condition value := if value = "true" then .yes else if value = "false" then .no else .unknown
  folding := .exact
  text_string _ := rfl
  condition_bool b := by cases b <;> rfl
  inline text := text
  literal_eq_inline _ _ := rfl

def nullTestOfNegation : Expression :=
  .isNull (.not (.column (.aliased "t") "a"))

/-- The text of this test is read as the negation of a test, which holds where the column is
true, although the test itself does not. -/
theorem nullTestOfNegation_regrouped :
    Precedence.usual.read (Statement.ofFragments nullTestOfNegation.fragments).tokens =
        some (.not (.isNull (.column ["t", "a"]))) ∧
      Outline.not (.isNull (.column ["t", "a"])) ≠ nullTestOfNegation.outline ∧
      (Outline.not (.isNull (.column ["t", "a"]))).truth Reading.textual
        (fun _ => some "true") = .yes ∧
      nullTestOfNegation.truth Reading.textual.toInterpretation
        (Cells.row fun _ => some "true") = .no := by
  refine ⟨?_, nofun, by decide, by decide⟩
  rw [Statement.tokens_ofFragments nullTestOfNegation.separable]
  exact nullTestOfNegation.read_tokens Precedence.usual

end RequestFilter.Sql
