/-
**The first pass over expressions.**

An expression without calls gets its type at once. A call waits for the second pass, and so does
whatever takes its type from a call; but a comparison and a logical operator yield a boolean and an
arithmetic operator the type of its known side, so such an expression has a type already, and only
the side that waits is put on the queue.

* `checkExpr` — the type of an expression, or that it waits. The queue grows at its front; what was
  put on it stays there when an error follows.
-/

import TypedImp.Analysis.Pending
import TypedImp.Analysis.Rules

namespace TypedImp

/-- What the first pass finds out about an expression. -/
inductive Checked
  | known (type : DataType)
  | deferred
  deriving DecidableEq, Repr

/-- Computations that extend the queue, its newest entry first. -/
abbrev Queueing : Type → Type :=
  EStateM SemanticError (List Pending)

/-- Puts the waiting side of a binary operator on the queue. -/
def queueOperand (site : Site) (waiting : Occurrence) (operator : String) (other : OtherSide)
    (waitsLeft : Bool) : Queueing Unit :=
  modify (⟨waiting, site, .binaryOperand operator other waitsLeft⟩ :: ·)

/-- Checks a binary operator whose sides are checked. -/
def checkOperands (site : Site) (operator : String) (left right : Occurrence)
    (leftType rightType : Checked) : Queueing Checked := do
  let some category := OperatorCategory.of? operator | throw (.invalidOperator operator)
  match leftType, rightType with
  | .known leftType, .known rightType =>
    return .known (← MonadExcept.ofExcept (binaryResult operator leftType rightType))
  | .deferred, .known known =>
    let result ← MonadExcept.ofExcept (resultBeside operator category known)
    queueOperand site left operator (.known known) true
    return .known result
  | .known known, .deferred =>
    let result ← MonadExcept.ofExcept (resultBeside operator category known)
    queueOperand site right operator (.known known) false
    return .known result
  | .deferred, .deferred =>
    if category = .arithmetic then return .deferred
    queueOperand site left operator (.waiting right) true
    return .known .boolean

/-- Checks an expression that stands in a scope of a tree. -/
def checkExpr (tree : ScopeTree) (scope : ScopeId) (place : Place) : Expr → Queueing Checked
  | .literal type _ => return .known type
  | .identifier name => do
    return .known (← MonadExcept.ofExcept (variableType name (tree.lookupVariable scope name)))
  | .assign operator target value => do
    let expected ← MonadExcept.ofExcept (assignedType operator target (tree.lookupVariable scope))
    match ← checkExpr tree scope (1 :: place) value with
    | .known received =>
      if received ≠ expected then throw (.typeMismatch expected received)
      return .known expected
    | .deferred => return .deferred
  | .binary operator left right => do
    let leftType ← checkExpr tree scope (0 :: place) left
    let rightType ← checkExpr tree scope (1 :: place) right
    checkOperands ⟨scope, tree.declarations⟩ operator ⟨0 :: place, left⟩ ⟨1 :: place, right⟩
      leftType rightType
  | .unary _ _ operand => checkExpr tree scope (0 :: place) operand
  | .call _ _ => return .deferred

end TypedImp
