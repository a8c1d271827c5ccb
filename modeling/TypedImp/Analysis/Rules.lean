/-
**The typing rules of single operators.**

Both passes of the analysis apply these rules; they differ in how they find the types of operands
and variables.

* `binaryResult` — a binary operator over two known types: the types agree and the operator accepts
  them.
* `resultBeside` — a binary operator when only one side is known: what the known side says already.
* `assignedType` — the type that an assignment gives to its target.
-/

import TypedImp.Operator
import TypedImp.Scope.Lookup

namespace TypedImp

/-- The result of `left operator right` when both types are known. -/
def binaryResult (operator : String) (left right : DataType) : Except SemanticError DataType :=
  if left ≠ right then .error (.typeMismatch left right)
  else
    match OperatorCategory.of? operator with
    | some .comparison => .ok .boolean
    | some .logical =>
      if left = .boolean then .ok .boolean else .error (.nonBooleanOperand operator left)
    | some .arithmetic =>
      if left.isNumeric then .ok left else .error (.nonNumericOperand operator left)
    | none => .error (.invalidOperator operator)

/-- The result of an operator of a category with one side of type `known`, provided that the other
side turns out to agree with it. -/
def resultBeside (operator : String) (category : OperatorCategory) (known : DataType) :
    Except SemanticError DataType :=
  match category with
  | .comparison => .ok .boolean
  | .logical =>
    if known = .boolean then .ok .boolean else .error (.nonBooleanOperand operator known)
  | .arithmetic =>
    if known.isNumeric then .ok known else .error (.nonNumericOperand operator known)

/-- The type of the variable that a lookup of `name` found. -/
def variableType (name : String) (found : Option Variable) : Except SemanticError DataType :=
  match found with
  | some declared => .ok declared.type
  | none => .error (.variableNotDeclared name)

/-- The type of the target of an assignment, which must be a variable, and for a compound operator a
numeric one. -/
def assignedType (operator : String) (target : Expr) (lookup : String → Option Variable) :
    Except SemanticError DataType :=
  match target with
  | .identifier name => do
    let expected ← variableType name (lookup name)
    if isCompound operator && !expected.isNumeric then
      throw (.nonNumericOperand operator expected)
    return expected
  | _ => .error .invalidAssignmentTarget

end TypedImp
