/-
**Expressions that wait for the second pass.**

The type of a call is known only when all functions are declared. The first pass puts an expression
whose type depends on a call on a queue, together with the place where it stands, the site from
which its names are seen and the requirement that its type has to meet.
-/

import TypedImp.Scope.Tree

namespace TypedImp

/-- The place of a node in its program: the numbers of the branches that lead to it from the root,
the last one first. Two nodes of one program have different places. -/
abbrev Place : Type := List Nat

/-- An expression together with its place. -/
structure Occurrence where
  place : Place
  expr : Expr
  deriving Repr

/-- Where names are looked up: a scope, and the number of variables declared by then. -/
structure Site where
  scope : ScopeId
  declarations : Nat
  deriving DecidableEq, Repr

/-- The other side of a binary operator whose one side waits. -/
inductive OtherSide
  | known (type : DataType)
  | waiting (occurrence : Occurrence)
  deriving Repr

/-- What the type of a waiting expression has to meet. -/
inductive Requirement
  /-- Nothing but that the expression has a type. -/
  | bare
  /-- The type of the variable that the expression initializes. -/
  | assignTo (name : String) (expected : DataType)
  /-- The return type of the function around it. -/
  | returnValue (expected : DataType)
  /-- To be one side of an operator, with the other side given. -/
  | binaryOperand (operator : String) (other : OtherSide) (waitsLeft : Bool)
  /-- To be boolean, as a condition. -/
  | condition
  /-- To be numeric, as the operand of a loop increment. -/
  | numericOperand (operator : String)
  deriving Repr

/-- An entry of the queue. -/
structure Pending where
  occurrence : Occurrence
  site : Site
  requirement : Requirement
  deriving Repr

end TypedImp
