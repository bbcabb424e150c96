import RequestFilter.QueryBuilder

/-!
# Runs of building steps

What a sequence of steps leaves on a builder, from what each of them leaves.
-/

namespace RequestFilter.Building

variable {β ε α γ : Type}

@[simp]
theorem runOn_pure (a : α) (builder : β) :
    (pure a : Building β ε α).runOn builder = (.ok a, builder) := rfl

/-- The second step starts from what the first one left, unless that failed. -/
theorem runOn_bind (step : Building β ε α) (next : α → Building β ε γ) (builder : β) :
    (step >>= next).runOn builder =
      match step.runOn builder with
      | (.ok a, after) => (next a).runOn after
      | (.error error, after) => (.error error, after) := by
  change ExceptT.bindCont next (step.runOn builder).1 (step.runOn builder).2 = _
  cases step.runOn builder with
  | mk result after => cases result <;> rfl

@[simp]
theorem runOn_throw (error : ε) (builder : β) :
    (throw error : Building β ε α).runOn builder = (.error error, builder) := rfl

@[simp]
theorem runOn_get (builder : β) :
    (get : Building β ε β).runOn builder = (.ok builder, builder) := rfl

@[simp]
theorem runOn_set (builder after : β) :
    (set after : Building β ε PUnit).runOn builder = (.ok (), after) := rfl

theorem runOn_adapt {ε' : Type} (f : ε → ε') (step : Building β ε α) (builder : β) :
    Building.runOn (ExceptT.adapt f step) builder =
      ((step.runOn builder).1.mapError f, (step.runOn builder).2) := rfl

/-- A step that succeeds hands its answer and its builder on. -/
theorem runOn_bind_of_ok {step : Building β ε α} {next : α → Building β ε γ}
    {builder after : β} {a : α} (h : step.runOn builder = (.ok a, after)) :
    (step >>= next).runOn builder = (next a).runOn after := by
  rw [runOn_bind, h]

/-- A step that fails ends its sequence. -/
theorem runOn_bind_of_error {step : Building β ε α} {next : α → Building β ε γ}
    {builder after : β} {error : ε} (h : step.runOn builder = (.error error, after)) :
    (step >>= next).runOn builder = (.error error, after) := by
  rw [runOn_bind, h]

/-- A sequence succeeds only where both of its steps do. -/
theorem exists_of_runOn_bind_eq_ok {step : Building β ε α} {next : α → Building β ε γ}
    {builder after : β} {c : γ} (h : (step >>= next).runOn builder = (.ok c, after)) :
    ∃ a middle, step.runOn builder = (.ok a, middle) ∧
      (next a).runOn middle = (.ok c, after) := by
  rw [runOn_bind] at h
  split at h
  next a middle hstep => exact ⟨a, middle, hstep, h⟩
  next => cases h

/-- The given step as one that always succeeds, and answers with what the given one came to. -/
def observe (step : Building β ε α) : Building β ε (Except ε α) :=
  ExceptT.lift (ExceptT.run step)

@[simp]
theorem runOn_observe (step : Building β ε α) (builder : β) :
    step.observe.runOn builder = (.ok (step.runOn builder).1, (step.runOn builder).2) := rfl

@[simp]
theorem runOn_ofExcept (result : Except ε α) (builder : β) :
    (MonadExcept.ofExcept result : Building β ε α).runOn builder = (result, builder) := by
  cases result <;> rfl

end RequestFilter.Building
