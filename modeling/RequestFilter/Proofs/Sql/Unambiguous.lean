import RequestFilter.Proofs.Sql.Determined

/-!
# Unambiguous statements

Selects whose statements have the same text and the same parameters are alike:
neither a name nor a value can pass for anything else.
-/

namespace RequestFilter.Sql

theorem columnTokens_determines (column : String × Expression) :
    Determines (fun _ => True) columnTokens
      (fun column column' => column.1 = column'.1 ∧ column.2.Alike column'.2) column := by
  intro column' rest rest' _ _ heq
  rw [columnTokens, columnTokens, List.append_assoc, List.append_assoc] at heq
  obtain ⟨hexpression, htail⟩ := column.2.determines column'.2 _ _ (outside_mark (by simp) _)
    (outside_mark (by simp) _) heq
  obtain ⟨hname, hend⟩ := List.cons.inj (List.cons.inj htail).2
  exact ⟨⟨Token.name.inj hname, hexpression⟩, hend⟩

theorem ends_columnTokens {rest : List Token}
    (h : Followed [.source, .left, .condition, .closing] rest) : Ends columnTokens rest := by
  obtain ⟨hcomma, hfirst⟩ := Expression.ends_tokens h (by simp) (by simp) (by simp)
  refine ⟨hcomma, fun column => ?_⟩
  obtain ⟨first, tail, htokens, hne⟩ := hfirst column.2
  refine ⟨first, tail ++ [.mark .alias, .name column.1], ?_, hne⟩
  rw [columnTokens, htokens]
  rfl

/-- A list of columns is empty or begins like an expression, so it is never a star. -/
theorem star_ne_commaTokens (listed : List (String × Expression)) {rest rest' : List Token}
    (h : Followed [.source, .left, .condition, .closing] rest') :
    .mark .star :: rest ≠ commaTokens (listed.map columnTokens) ++ rest' := by
  intro heq
  cases listed with
  | nil => exact h.head?_ne (by simp) (congrArg List.head? heq).symm
  | cons column others =>
      obtain ⟨tail, htokens⟩ := column.2.tokens_eq_cons
      simp only [List.map_cons, commaTokens, columnTokens, htokens] at heq
      exact column.2.firstToken_ne_mark (by simp) (by simp) (List.cons.inj heq).1.symm

theorem Projection.determines (projection : Projection) :
    Determines (Followed [.source, .left, .condition, .closing]) tokens Alike projection := by
  intro projection' rest rest' hrest hrest' heq
  cases projection with
  | all =>
      cases projection' with
      | all => exact ⟨trivial, (List.cons.inj heq).2⟩
      | columns listed' => exact absurd heq (star_ne_commaTokens listed' hrest')
  | columns listed =>
      cases projection' with
      | all => exact absurd heq.symm (star_ne_commaTokens listed hrest)
      | columns listed' =>
          exact forall₂_of_commaTokens_append_eq (fun column _ => columnTokens_determines column)
            (fun _ => trivial) trivial trivial (ends_columnTokens hrest)
            (ends_columnTokens hrest') heq

theorem Join.determines (join : Join) : Determines Outside furtherTokens Alike join := by
  intro join' rest rest' hrest hrest' heq
  simp only [furtherTokens, List.cons_append, List.append_assoc, List.cons.injEq,
    true_and] at heq
  obtain ⟨htable, htail⟩ := TableRef.alike_of_pathTokens_append_eq (outside_mark (by simp) _)
    (outside_mark (by simp) _) heq
  simp only [List.cons.injEq, true_and, Token.name.injEq] at htail
  obtain ⟨hcondition, hend⟩ := join.condition.determines join'.condition _ _ hrest hrest' htail.2
  exact ⟨⟨htable, htail.1, hcondition⟩, hend⟩

/-- Only the literal truth is left out, so that a condition left out is told as well. -/
theorem conditionTokens_determines (condition : Expression) :
    Determines (Followed [.closing]) conditionTokens Expression.Alike condition := by
  intro condition' rest rest' hrest hrest' heq
  unfold conditionTokens at heq
  split at heq
  next htrue =>
    split at heq
    next htrue' =>
      rw [(Expression.isBool_iff true _).mp htrue, (Expression.isBool_iff true _).mp htrue']
      exact ⟨Or.inl rfl, heq⟩
    next => exact absurd (congrArg List.head? heq) (hrest.head?_ne (by simp))
  next =>
    split at heq
    next => exact absurd (congrArg List.head? heq).symm (hrest'.head?_ne (by simp))
    next =>
      exact condition.determines condition' _ _ (hrest.outside (by simp))
        (hrest'.outside (by simp)) (List.cons.inj heq).2

/-- A source is told by its tokens when the select that it may contain is. -/
theorem sourceTokens_determines {source : Option Source}
    (hinner : ∀ select knownAs, source = some (.subquery select knownAs) →
      Determines (Followed [.closing]) Select.tokens Select.Alike select) :
    Determines (Followed [.left, .condition, .closing]) sourceTokens Source.AlikeOptions
      source := by
  intro source' rest rest' hrest hrest' heq
  cases source with
  | none =>
      cases source' with
      | none => exact ⟨trivial, heq⟩
      | some source' =>
          cases source' <;> exact absurd (congrArg List.head? heq) (hrest.head?_ne (by simp))
  | some source =>
      cases source' with
      | none =>
          cases source <;> exact absurd (congrArg List.head? heq).symm (hrest'.head?_ne (by simp))
      | some source' =>
          cases source with
          | table table knownAs =>
              cases source' with
              | subquery select' knownAs' =>
                  simp only [sourceTokens, List.cons_append, List.append_assoc,
                    List.cons.injEq, true_and] at heq
                  exact absurd heq (table.pathTokens_append_ne _ _)
              | table table' knownAs' =>
                  simp only [sourceTokens, List.cons_append, List.append_assoc,
                    List.cons.injEq, true_and] at heq
                  obtain ⟨htable, htail⟩ := TableRef.alike_of_pathTokens_append_eq
                    (outside_mark (by simp) _) (outside_mark (by simp) _) heq
                  obtain ⟨hname, hend⟩ := List.cons.inj (List.cons.inj htail).2
                  exact ⟨⟨htable, Token.name.inj hname⟩, hend⟩
          | subquery select knownAs =>
              cases source' with
              | table table' knownAs' =>
                  simp only [sourceTokens, List.cons_append, List.append_assoc,
                    List.cons.injEq, true_and] at heq
                  exact absurd heq.symm (table'.pathTokens_append_ne _ _)
              | subquery select' knownAs' =>
                  simp only [sourceTokens, List.cons_append, List.append_assoc,
                    List.cons.injEq, true_and] at heq
                  obtain ⟨hselect, htail⟩ := hinner select knownAs rfl select' _ _
                    (followed_mark (by simp) _) (followed_mark (by simp) _) heq
                  obtain ⟨hname, hend⟩ :=
                    List.cons.inj (List.cons.inj (List.cons.inj htail).2).2
                  exact ⟨⟨hselect, Token.name.inj hname⟩, hend⟩

theorem followed_conditionTokens (condition : Expression) {rest : List Token}
    (h : Followed [.closing] rest) :
    Followed [.condition, .closing] (conditionTokens condition ++ rest) := by
  refine h.append ?_
  unfold conditionTokens
  split
  · exact Or.inl rfl
  · exact Or.inr ⟨_, rfl⟩

theorem followed_joins (joins : List Join) {rest : List Token}
    (h : Followed [.condition, .closing] rest) :
    Followed [.left, .condition, .closing]
      ((joins.flatMap fun join => .mark .left :: join.furtherTokens) ++ rest) := by
  refine h.append ?_
  cases joins with
  | nil => exact Or.inl rfl
  | cons _ _ => exact Or.inr ⟨_, rfl⟩

theorem followed_sourceTokens (source : Option Source) {rest : List Token}
    (h : Followed [.left, .condition, .closing] rest) :
    Followed [.source, .left, .condition, .closing] (sourceTokens source ++ rest) := by
  refine h.append ?_
  rcases source with _ | ⟨_, _⟩ | ⟨_, _⟩
  · exact Or.inl rfl
  · exact Or.inr ⟨_, rfl⟩
  · exact Or.inr ⟨_, rfl⟩

/-- A select is told by its tokens when its source is: each clause ends where the mark of a
later one, or the end, follows. -/
theorem Select.determines_of_source {source : Option Source}
    (hsource : Determines (Followed [.left, .condition, .closing]) sourceTokens
      Source.AlikeOptions source)
    (projection : Projection) (joins : List Join) (condition : Expression) :
    Determines (Followed [.closing]) tokens Alike ⟨projection, source, joins, condition⟩ := by
  intro select' rest rest' hrest hrest' heq
  obtain ⟨projection', source', joins', condition'⟩ := select'
  simp only [tokens_eq, List.cons_append, List.append_assoc, List.cons.injEq, true_and] at heq
  -- what may follow each clause, from the last clause to the first
  have hlast := followed_conditionTokens condition hrest
  have hlast' := followed_conditionTokens condition' hrest'
  have hlater := followed_joins joins hlast
  have hlater' := followed_joins joins' hlast'
  obtain ⟨hprojection, heq⟩ := projection.determines projection' _ _
    (followed_sourceTokens source hlater) (followed_sourceTokens source' hlater') heq
  obtain ⟨hsource, heq⟩ := hsource source' _ _ hlater hlater' heq
  obtain ⟨hjoins, heq⟩ := forall₂_of_flatMap_append_eq (fun join _ => join.determines)
    (outside_mark (by simp)) (hlast.outside (by simp)) (hlast'.outside (by simp))
    (hlast.head?_ne (by simp)) (hlast'.head?_ne (by simp)) heq
  obtain ⟨hcondition, hend⟩ := conditionTokens_determines condition condition' _ _ hrest hrest' heq
  exact ⟨⟨hprojection, hsource, hjoins, hcondition⟩, hend⟩

theorem Select.determines (select : Select) :
    Determines (Followed [.closing]) tokens Alike select := by
  induction select with
  | bare projection joins condition =>
      exact determines_of_source (sourceTokens_determines (by simp)) _ _ _
  | table projection table knownAs joins condition =>
      exact determines_of_source (sourceTokens_determines (by simp)) _ _ _
  | subquery projection inner knownAs joins condition ih =>
      refine determines_of_source (sourceTokens_determines ?_) _ _ _
      rintro select knownAs' ⟨⟩
      exact ih

/-- Two selects have the same text and the same parameters exactly when they are alike. -/
theorem Select.statement_eq_iff_alike (select select' : Select) :
    (select.statement.text = select'.statement.text ∧
        select.statement.parameters = select'.statement.parameters) ↔
      select.Alike select' := by
  constructor
  · rintro ⟨htext, hparameters⟩
    -- the tokens depend on nothing but the text and the parameters
    have hstatements : select.statement.tokens = select'.statement.tokens := by
      rw [Statement.tokens, Statement.tokens, htext, hparameters]
    have htokens : select.tokens ++ [] = select'.tokens ++ [] := by
      rw [statement, statement, Statement.tokens_ofFragments select.separable,
        Statement.tokens_ofFragments select'.separable] at hstatements
      rw [List.append_nil, List.append_nil, tokens, tokens, hstatements]
    exact (select.determines select' [] [] (.nil _) (.nil _) htokens).1
  · intro h
    rw [statement, statement, h.fragments_eq]
    exact ⟨rfl, rfl⟩

end RequestFilter.Sql
