/-
**How deeply calls are nested.**

The nesting of calls in an expression is the largest number of calls that stand one inside the
arguments of another; operators, assignments and increments do not count. That of a statement or a
program is the largest nesting in any of its expressions.
-/

import TypedImp.Syntax

namespace TypedImp

mutual

/-- The largest number of calls one inside another's arguments. -/
def Expr.callDepth : Expr → Nat
  | .literal _ _ | .identifier _ => 0
  | .assign _ target value => max target.callDepth value.callDepth
  | .binary _ left right => max left.callDepth right.callDepth
  | .unary _ _ operand => operand.callDepth
  | .call _ arguments => argumentsDepth arguments + 1

/-- The largest nesting in any of the arguments of a call. -/
def argumentsDepth : List Expr → Nat
  | [] => 0
  | argument :: arguments => max argument.callDepth (argumentsDepth arguments)

end

mutual

/-- The largest nesting in any expression of a statement. -/
def Stmt.callDepth : Stmt → Nat
  | .variableDecl _ _ initializer => initializer.callDepth
  | .functionDecl _ _ _ body => stmtsDepth body
  | .expression value => value.callDepth
  | .returnValue value => (value.map Expr.callDepth).getD 0
  | .ifChain condition body alternatives =>
    max condition.callDepth (max (stmtsDepth body) alternatives.callDepth)
  | .whileLoop condition body => max condition.callDepth (stmtsDepth body)
  | .forLoop initializer condition increment body =>
    max initializer.callDepth
      (max condition.callDepth (max increment.callDepth (stmtsDepth body)))
  | .breakLoop | .continueLoop => 0

/-- The largest nesting in any expression behind the body of an `if`. -/
def Alternatives.callDepth : Alternatives → Nat
  | .none => 0
  | .otherwise body => stmtsDepth body
  | .elseIf condition body alternatives =>
    max condition.callDepth (max (stmtsDepth body) alternatives.callDepth)

/-- The largest nesting in any expression of several statements. -/
def stmtsDepth : List Stmt → Nat
  | [] => 0
  | stmt :: later => max stmt.callDepth (stmtsDepth later)

end

/-- The largest nesting in any expression of a program. -/
def Program.callDepth (program : Program) : Nat :=
  stmtsDepth program.body

end TypedImp
