import RequestFilter.Predicate
import RequestFilter.Rule

/-!
# Scripted rules

Rules written as a list of steps. The steps run in order, and the first failure
ends the rule. What a builder can do beyond predicates is a step of its own.
-/

namespace RequestFilter

inductive RuleStep (β ε : Type) where
  /-- Compare a field with every operand of the value. -/
  | compareEach (field : String) (comparison : Comparison)
  /-- Compare a field with a fixed operand. -/
  | compareWith (field : String) (comparison : Comparison) (operand : Scalar)
  /-- Membership in the operands of one kind, or in all of them. -/
  | membership (field : String) (kind : Option Scalar.Kind)
  /-- The generic predicate of an operator, without its warning. -/
  | generic (operator : Operator) (field : String)
  /-- Compare a field with the name of the target's table. -/
  | compareTable (field : String)
  | fail (error : ε)
  | run (handler : Handler β ε)

namespace RuleStep

variable {β ε : Type} [QueryBuilder β ε]

def handler : RuleStep β ε → Handler β ε
  | .compareEach field comparison => fun target value =>
      value.scalars.forM fun operand => target.whereCompares field comparison operand
  | .compareWith field comparison operand => fun target _ =>
      target.whereCompares field comparison operand
  | .membership field kind => fun target value =>
      target.whereIn field (value.scalars.filter fun operand =>
        match kind with
        | none => true
        | some kind => operand.kind = kind)
  | .generic operator field => fun target value => do
      let _ ← applyGeneric operator field value target
  | .compareTable field => fun target _ =>
      target.whereCompares field .equal (.string target.table)
  | .fail error => fun _ _ => throw error
  | .run handler => handler

end RuleStep

def scriptHandler {β ε : Type} [QueryBuilder β ε] (script : List (RuleStep β ε)) :
    Handler β ε :=
  fun target value => script.forM fun step => step.handler target value

end RequestFilter
