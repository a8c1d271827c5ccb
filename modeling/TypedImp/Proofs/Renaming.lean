/-
**New names for variables and functions.**

A naming gives every variable a new name and every function a new name, and no two of one kind the
same. The two kinds are apart: a variable may get the new name of a function, and one that shares
its name with a function may get another one than the function gets.

* `Naming` — new names.
* `Expr.rename`, `Stmt.rename`, `Program.rename` — a program in the new names: its declarations,
  parameters, values and targets of assignments, and the functions that it calls.
* `Scope.rename`, `ScopeTree.rename`, `SemanticError.rename` — what an analysis holds and reports.
* `rename_same` — the naming that changes nothing changes nothing.
-/

import Mathlib.Logic.Equiv.Basic
import TypedImp.Proofs.Failures

namespace TypedImp

/-- New names for variables and for functions. -/
structure Naming where
  ofVariable : String → String
  ofFunction : String → String
  ofVariable_injective : Function.Injective ofVariable
  ofFunction_injective : Function.Injective ofFunction

/-- The naming that leaves every name as it is. -/
def Naming.same : Naming :=
  ⟨id, id, Function.injective_id, Function.injective_id⟩

/-- The naming that permutes the names of variables and those of functions. -/
def Naming.ofPerm (ofVariable ofFunction : Equiv.Perm String) : Naming :=
  ⟨ofVariable, ofFunction, ofVariable.injective, ofFunction.injective⟩

@[simp]
theorem Naming.ofVariable_same (name : String) : Naming.same.ofVariable name = name := rfl

@[simp]
theorem Naming.ofFunction_same (name : String) : Naming.same.ofFunction name = name := rfl

/-! ### Programs -/

mutual

/-- The expression in the new names. -/
def Expr.rename (naming : Naming) : Expr → Expr
  | .literal type value => .literal type value
  | .identifier name => .identifier (naming.ofVariable name)
  | .assign operator target value => .assign operator (target.rename naming) (value.rename naming)
  | .binary operator left right => .binary operator (left.rename naming) (right.rename naming)
  | .unary operator fixity operand => .unary operator fixity (operand.rename naming)
  | .call callee arguments => .call (naming.ofFunction callee) (renameArguments naming arguments)

/-- The arguments of a call in the new names. -/
def renameArguments (naming : Naming) : List Expr → List Expr
  | [] => []
  | argument :: arguments => argument.rename naming :: renameArguments naming arguments

end

@[simp]
theorem length_renameArguments (naming : Naming) (arguments : List Expr) :
    (renameArguments naming arguments).length = arguments.length := by
  induction arguments with
  | nil => rfl
  | cons argument arguments ih => simp [renameArguments, ih]

/-- The parameter in the new names; it is a variable. -/
def Parameter.rename (naming : Naming) (parameter : Parameter) : Parameter :=
  { parameter with name := naming.ofVariable parameter.name }

mutual

/-- The statement in the new names. -/
def Stmt.rename (naming : Naming) : Stmt → Stmt
  | .variableDecl type name initializer =>
    .variableDecl type (naming.ofVariable name) (initializer.rename naming)
  | .functionDecl returnType name parameters body =>
    .functionDecl returnType (naming.ofFunction name) (parameters.map (Parameter.rename naming))
      (renameStmts naming body)
  | .expression value => .expression (value.rename naming)
  | .returnValue value => .returnValue (value.map (Expr.rename naming))
  | .ifChain condition body alternatives =>
    .ifChain (condition.rename naming) (renameStmts naming body) (alternatives.rename naming)
  | .whileLoop condition body => .whileLoop (condition.rename naming) (renameStmts naming body)
  | .forLoop initializer condition increment body =>
    .forLoop (initializer.rename naming) (condition.rename naming) (increment.rename naming)
      (renameStmts naming body)
  | .breakLoop => .breakLoop
  | .continueLoop => .continueLoop

/-- What follows the body of an `if`, in the new names. -/
def Alternatives.rename (naming : Naming) : Alternatives → Alternatives
  | .none => .none
  | .otherwise body => .otherwise (renameStmts naming body)
  | .elseIf condition body alternatives =>
    .elseIf (condition.rename naming) (renameStmts naming body) (alternatives.rename naming)

/-- The statements of a block in the new names. -/
def renameStmts (naming : Naming) : List Stmt → List Stmt
  | [] => []
  | stmt :: later => stmt.rename naming :: renameStmts naming later

end

/-- The program in the new names. -/
def Program.rename (naming : Naming) (program : Program) : Program :=
  ⟨renameStmts naming program.body⟩

mutual

@[simp]
theorem Expr.rename_same : (expr : Expr) → expr.rename .same = expr
  | .literal _ _ | .identifier _ => rfl
  | .assign _ target value => by simp [Expr.rename, target.rename_same, value.rename_same]
  | .binary _ left right => by simp [Expr.rename, left.rename_same, right.rename_same]
  | .unary _ _ operand => by simp [Expr.rename, operand.rename_same]
  | .call _ arguments => by simp [Expr.rename, renameArguments_same arguments]

@[simp]
theorem renameArguments_same : (arguments : List Expr) → renameArguments .same arguments = arguments
  | [] => rfl
  | argument :: arguments => by
    simp [renameArguments, argument.rename_same, renameArguments_same arguments]

end

@[simp]
theorem Parameter.map_rename_same (parameters : List Parameter) :
    parameters.map (Parameter.rename .same) = parameters :=
  List.map_id parameters

mutual

theorem Stmt.rename_same : (stmt : Stmt) → stmt.rename .same = stmt
  | .variableDecl _ _ _ => by simp [Stmt.rename]
  | .functionDecl _ _ _ body => by simp [Stmt.rename, renameStmts_same body]
  | .expression _ => by simp [Stmt.rename]
  | .returnValue value => by cases value <;> simp [Stmt.rename]
  | .ifChain _ body alternatives => by
    simp [Stmt.rename, renameStmts_same body, alternatives.rename_same]
  | .whileLoop _ body => by simp [Stmt.rename, renameStmts_same body]
  | .forLoop initializer _ _ body => by
    simp [Stmt.rename, initializer.rename_same, renameStmts_same body]
  | .breakLoop | .continueLoop => rfl

theorem Alternatives.rename_same :
    (alternatives : Alternatives) → alternatives.rename .same = alternatives
  | .none => rfl
  | .otherwise body => by simp [Alternatives.rename, renameStmts_same body]
  | .elseIf _ body alternatives => by
    simp [Alternatives.rename, renameStmts_same body, alternatives.rename_same]

theorem renameStmts_same : (body : List Stmt) → renameStmts .same body = body
  | [] => rfl
  | stmt :: later => by simp [renameStmts, stmt.rename_same, renameStmts_same later]

end

/-! ### What an analysis holds and reports -/

/-- The signature in the new names. -/
def Signature.rename (naming : Naming) (signature : Signature) : Signature :=
  { signature with parameters := signature.parameters.map (Parameter.rename naming) }

/-- The kind of a scope in the new names. -/
def ScopeKind.rename (naming : Naming) : ScopeKind → ScopeKind
  | .global => .global
  | .function name => .function (naming.ofFunction name)
  | .block => .block

/-- The scope in the new names. -/
def Scope.rename (naming : Naming) (scope : Scope) : Scope :=
  { scope with
    kind := scope.kind.rename naming
    bindings := scope.bindings.map fun binding => (naming.ofVariable binding.1, binding.2)
    signatures := scope.signatures.map fun declared =>
      (naming.ofFunction declared.1, declared.2.rename naming) }

/-- The tree of scopes in the new names. -/
def ScopeTree.rename (naming : Naming) (tree : ScopeTree) : ScopeTree :=
  { tree with scopes := tree.scopes.map (Scope.rename naming) }

/-- The violation in the new names. It names at most one variable or one function. -/
def SemanticError.rename (naming : Naming) : SemanticError → SemanticError
  | .variableAlreadyDeclared name => .variableAlreadyDeclared (naming.ofVariable name)
  | .functionAlreadyDeclared function => .functionAlreadyDeclared (naming.ofFunction function)
  | .variableNotDeclared name => .variableNotDeclared (naming.ofVariable name)
  | .functionNotDeclared function => .functionNotDeclared (naming.ofFunction function)
  | .argumentMismatch function position expected received =>
    .argumentMismatch (naming.ofFunction function) position expected received
  | .unexpectedArguments function expected received =>
    .unexpectedArguments (naming.ofFunction function) expected received
  | .missingArguments function expected received =>
    .missingArguments (naming.ofFunction function) expected received
  | .resolutionCycle function => .resolutionCycle (naming.ofFunction function)
  | .typeMismatch expected received => .typeMismatch expected received
  | .nonBooleanCondition received => .nonBooleanCondition received
  | .invalidForInitializer => .invalidForInitializer
  | .invalidForIncrement => .invalidForIncrement
  | .nonNumericOperand operator received => .nonNumericOperand operator received
  | .nonBooleanOperand operator received => .nonBooleanOperand operator received
  | .invalidAssignmentTarget => .invalidAssignmentTarget
  | .invalidOperator operator => .invalidOperator operator
  | .invalidBreak => .invalidBreak
  | .invalidContinue => .invalidContinue
  | .returnOutsideFunction => .returnOutsideFunction
  | .missingReturnValue expected => .missingReturnValue expected
  | .resolutionTooDeep limit => .resolutionTooDeep limit
  | .unrecognisedNode node => .unrecognisedNode node

/-- A violation that names nothing is the same in all names. -/
theorem SemanticError.Nameless.rename {error : SemanticError} (nameless : error.Nameless)
    (naming : Naming) : error.rename naming = error := by
  cases error with
  | variableAlreadyDeclared | functionAlreadyDeclared | variableNotDeclared | functionNotDeclared
  | argumentMismatch | unexpectedArguments | missingArguments | resolutionCycle =>
    exact nameless.elim
  | _ => rfl

@[simp]
theorem Signature.rename_same (signature : Signature) : signature.rename .same = signature := by
  simp [Signature.rename]

@[simp]
theorem ScopeKind.rename_same (kind : ScopeKind) : kind.rename .same = kind := by
  cases kind <;> rfl

@[simp]
theorem SemanticError.rename_same (error : SemanticError) : error.rename .same = error := by
  cases error <;> rfl

end TypedImp
