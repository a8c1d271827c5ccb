/-
**The first pass over statements.**

Statements are walked in source order. Names are declared where the walk meets them, expressions are
checked against what is declared by then, and an expression that waits for a call is put on the
queue with the requirement of its statement.

* `checkStmt`, `checkStmts` — one statement, and the statements of a block.
* `checkProgram` — the top-level statements.
-/

import TypedImp.Analysis.Analyzer

namespace TypedImp

open Analyzer

/-- Checks an expression whose type has to pass `test`; an expression that waits is put on the queue
with its requirement. -/
def require (occurrence : Occurrence) (requirement : Requirement)
    (test : DataType → Except SemanticError Unit) : Analysis Unit := do
  match ← checkOccurrence occurrence with
  | .known received => MonadExcept.ofExcept (test received)
  | .deferred => defer occurrence requirement

/-- The test that a type is the expected one. -/
def expectType (expected received : DataType) : Except SemanticError Unit :=
  if received = expected then .ok () else .error (.typeMismatch expected received)

/-- The test that a type is that of a condition. -/
def expectCondition (received : DataType) : Except SemanticError Unit :=
  if received = .boolean then .ok () else .error (.nonBooleanCondition received)

/-- The test that a type is numeric, for an operand of `operator`. -/
def expectNumeric (operator : String) (received : DataType) : Except SemanticError Unit :=
  if received.isNumeric then .ok () else .error (.nonNumericOperand operator received)

/-- Checks the declaration of a variable. The initializer does not see the variable. -/
def checkVariableDecl (place : Place) (type : DataType) (name : String) (initializer : Expr) :
    Analysis Unit := do
  require ⟨0 :: place, initializer⟩ (.assignTo name type) (expectType type)
  declareVariable name type

/-- Checks a `return` with or without a value. -/
def checkReturn (place : Place) (value : Option Expr) : Analysis Unit := do
  let analyzer ← get
  let expected ← MonadExcept.ofExcept (analyzer.scopes.enclosingReturnType analyzer.current)
  match value with
  | some value => require ⟨0 :: place, value⟩ (.returnValue expected) (expectType expected)
  | none => if expected ≠ .void then throw (.missingReturnValue expected)

/-- Checks a condition. -/
def checkCondition (place : Place) (condition : Expr) : Analysis Unit :=
  require ⟨place, condition⟩ .condition expectCondition

/-- Checks the increment of a `for` loop, which increments or decrements something numeric. -/
def checkIncrement (place : Place) (increment : Expr) : Analysis Unit :=
  match increment with
  | .unary operator _ operand =>
    if isIncrement operator then
      require ⟨0 :: place, operand⟩ (.numericOperand operator) (expectNumeric operator)
    else throw .invalidForIncrement
  | _ => throw .invalidForIncrement

/-- Checks the initializer of a `for` loop, which declares a variable. -/
def checkInitializer (place : Place) (initializer : Stmt) : Analysis Unit :=
  match initializer with
  | .variableDecl type name value => checkVariableDecl place type name value
  | _ => throw .invalidForInitializer

/-- Declares the parameters of a function in the current scope. -/
def declareParameters (parameters : List Parameter) : Analysis Unit :=
  parameters.forM fun parameter => declareVariable parameter.name parameter.type

mutual

/-- Checks a statement. -/
def checkStmt (place : Place) : Stmt → Analysis Unit
  | .variableDecl type name initializer => checkVariableDecl place type name initializer
  | .functionDecl returnType name parameters body => do
    declareFunction name ⟨parameters, returnType⟩
    withScope (.function name) do
      declareParameters parameters
      withFrame .function (checkStmts (1 :: place) 0 body)
  | .expression value => require ⟨0 :: place, value⟩ .bare fun _ => .ok ()
  | .returnValue value => checkReturn place value
  | .ifChain condition body alternatives => do
    checkCondition (0 :: place) condition
    withScope .block (checkStmts (1 :: place) 0 body)
    checkAlternatives (2 :: place) alternatives
  | .whileLoop condition body => do
    checkCondition (0 :: place) condition
    withFrame .loop (withScope .block (checkStmts (1 :: place) 0 body))
  | .forLoop initializer condition increment body =>
    withFrame .loop do
      withScope .block do
        checkInitializer (0 :: place) initializer
        checkCondition (1 :: place) condition
        checkIncrement (2 :: place) increment
        checkStmts (3 :: place) 0 body
  | .breakLoop => do
    if !(← get).context.allowsBreak then throw .invalidBreak
  | .continueLoop => do
    if !(← get).context.allowsContinue then throw .invalidContinue

/-- Checks what follows the body of an `if`. -/
def checkAlternatives (place : Place) : Alternatives → Analysis Unit
  | .none => return
  | .otherwise body => withScope .block (checkStmts (1 :: place) 0 body)
  | .elseIf condition body alternatives => do
    checkCondition (0 :: place) condition
    withScope .block (checkStmts (1 :: place) 0 body)
    checkAlternatives (2 :: place) alternatives

/-- Checks the statements of a block, the first of which has the number `index`. -/
def checkStmts (place : Place) (index : Nat) : List Stmt → Analysis Unit
  | [] => return
  | stmt :: later => do
    checkStmt (index :: place) stmt
    checkStmts place (index + 1) later

end

/-- Checks statements inside a new block. -/
def checkBlock (place : Place) (body : List Stmt) : Analysis Unit :=
  withScope .block (checkStmts place 0 body)

/-- Checks the statements of a program. -/
def checkProgram (program : Program) : Analysis Unit :=
  checkStmts [] 0 program.body

end TypedImp
