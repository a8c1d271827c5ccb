/-
**The type system.**

The rules of the language as one pass over the tree, without a queue and without an order of work.
An expression is typed from what it sees: a type for each visible variable and a signature for each
visible function. A statement is typed from what surrounds it: the blocks around it with their
declarations, the return type of the function around it, and whether it stands in a loop of that
function.

* `HasType` — the type of an expression from a given view.
* `Surroundings` — where a statement stands. The bindings of a block are those declared so far; its
  signatures are those of the whole block, so that a function is visible before its declaration.
* `StmtTyped`, `StmtsTyped`, `BlockTyped` — the rules for statements.
* `Program.WellTyped` — a program that obeys them all.
-/

import TypedImp.Analysis.Rules

namespace TypedImp

/-! ### Expressions -/

/-- What an expression sees: the types of variables and the signatures of functions. -/
@[ext]
structure View where
  typeOf? : String → Option DataType
  signatureOf? : String → Option Signature

mutual

/-- The type of an expression. Operands of one operator agree as `binaryResult` says, and an
assignment needs a visible variable on its left, a numeric one if the operator is compound. -/
inductive HasType (view : View) : Expr → DataType → Prop
  | literal (type : DataType) (value : String) : HasType view (.literal type value) type
  | identifier {name : String} {type : DataType} (visible : view.typeOf? name = some type) :
      HasType view (.identifier name) type
  | assign {operator name : String} {value : Expr} {type : DataType}
      (visible : view.typeOf? name = some type)
      (numeric : isCompound operator = true → type.isNumeric = true)
      (typed : HasType view value type) :
      HasType view (.assign operator (.identifier name) value) type
  | binary {operator : String} {left right : Expr} {leftType rightType type : DataType}
      (leftTyped : HasType view left leftType) (rightTyped : HasType view right rightType)
      (result : binaryResult operator leftType rightType = .ok type) :
      HasType view (.binary operator left right) type
  | unary {operator : String} {fixity : Fixity} {operand : Expr} {type : DataType}
      (typed : HasType view operand type) : HasType view (.unary operator fixity operand) type
  | call {callee : String} {arguments : List Expr} {signature : Signature}
      (visible : view.signatureOf? callee = some signature)
      (agree : ArgumentsAgree view arguments signature.parameters) :
      HasType view (.call callee arguments) signature.returnType

/-- Arguments agree with parameters in number and type. -/
inductive ArgumentsAgree (view : View) : List Expr → List Parameter → Prop
  | nil : ArgumentsAgree view [] []
  | cons {argument : Expr} {parameter : Parameter} {arguments : List Expr}
      {parameters : List Parameter} (typed : HasType view argument parameter.type)
      (later : ArgumentsAgree view arguments parameters) :
      ArgumentsAgree view (argument :: arguments) (parameter :: parameters)

end

theorem ArgumentsAgree.length_eq {view : View} {arguments : List Expr}
    {parameters : List Parameter} (agree : ArgumentsAgree view arguments parameters) :
    arguments.length = parameters.length := by
  induction arguments generalizing parameters with
  | nil => cases agree; rfl
  | cons argument arguments ih =>
    cases agree with
    | cons typed later => rw [List.length_cons, List.length_cons, ih later]

/-! ### Declarations -/

/-- The variable that a statement declares in the block in which it stands. -/
def Stmt.bindings : Stmt → List (String × DataType)
  | .variableDecl type name _ => [(name, type)]
  | _ => []

/-- The function that a statement declares in the block in which it stands. -/
def Stmt.signatures : Stmt → List (String × Signature)
  | .functionDecl returnType name parameters _ => [(name, ⟨parameters, returnType⟩)]
  | _ => []

/-- The functions declared directly in a block. -/
def declaredSignatures (body : List Stmt) : List (String × Signature) :=
  body.flatMap Stmt.signatures

/-- A parameter as a variable. -/
def Parameter.binding (parameter : Parameter) : String × DataType :=
  (parameter.name, parameter.type)

/-! ### Surroundings -/

/-- The declarations of a block: its variables so far, and all its functions. -/
structure Block where
  bindings : List (String × DataType)
  signatures : List (String × Signature)

/-- Where a statement stands. -/
structure Surroundings where
  block : Block
  outer : List Block
  returnType : Option DataType
  inLoop : Bool

namespace Surroundings

/-- The blocks around, the innermost first. -/
def blocks (around : Surroundings) : List Block :=
  around.block :: around.outer

/-- What an expression sees: of each name the innermost declaration. -/
def view (around : Surroundings) : View where
  typeOf? name := around.blocks.findSome? (·.bindings.lookup name)
  signatureOf? name := around.blocks.findSome? (·.signatures.lookup name)

/-- Behind the declaration of further variables. -/
def declare (around : Surroundings) (bindings : List (String × DataType)) : Surroundings :=
  { around with block := { around.block with bindings := around.block.bindings ++ bindings } }

/-- At the start of a block with the statements `body`, which has some variables already. -/
def enter (around : Surroundings) (bindings : List (String × DataType)) (body : List Stmt) :
    Surroundings :=
  { around with block := ⟨bindings, declaredSignatures body⟩, outer := around.blocks }

/-- Inside a loop. -/
def enterLoop (around : Surroundings) : Surroundings :=
  { around with inLoop := true }

/-- Inside a function, outside all loops of it. -/
def enterFunction (around : Surroundings) (returnType : DataType) : Surroundings :=
  { around with returnType := some returnType, inLoop := false }

/-- At the start of a program. -/
def top (body : List Stmt) : Surroundings :=
  ⟨⟨[], declaredSignatures body⟩, [], none, false⟩

end Surroundings

/-! ### Statements -/

mutual

/-- A statement obeys the rules where it stands. -/
inductive StmtTyped : Surroundings → Stmt → Prop
  -- The initializer does not see the variable, and the block has no variable of the name so far.
  | variableDecl {around : Surroundings} {type : DataType} {name : String} {initializer : Expr}
      (fresh : around.block.bindings.lookup name = none)
      (typed : HasType around.view initializer type) :
      StmtTyped around (.variableDecl type name initializer)
  -- The parameters and the body are one block.
  | functionDecl {around : Surroundings} {returnType : DataType} {name : String}
      {parameters : List Parameter} {body : List Stmt}
      (distinct : (parameters.map (·.name)).Nodup)
      (typed : BlockTyped
        ((around.enterFunction returnType).enter (parameters.map Parameter.binding) body) body) :
      StmtTyped around (.functionDecl returnType name parameters body)
  | expression {around : Surroundings} {value : Expr} {type : DataType}
      (typed : HasType around.view value type) : StmtTyped around (.expression value)
  | returnValue {around : Surroundings} {value : Expr} {type : DataType}
      (inside : around.returnType = some type) (typed : HasType around.view value type) :
      StmtTyped around (.returnValue (some value))
  | returnNothing {around : Surroundings} (inside : around.returnType = some .void) :
      StmtTyped around (.returnValue none)
  | ifChain {around : Surroundings} {condition : Expr} {body : List Stmt}
      {alternatives : Alternatives} (test : HasType around.view condition .boolean)
      (typed : BlockTyped (around.enter [] body) body)
      (others : AlternativesTyped around alternatives) :
      StmtTyped around (.ifChain condition body alternatives)
  | whileLoop {around : Surroundings} {condition : Expr} {body : List Stmt}
      (test : HasType around.view condition .boolean)
      (typed : BlockTyped (around.enterLoop.enter [] body) body) :
      StmtTyped around (.whileLoop condition body)
  -- The initializer, the condition, the increment and the body are one block.
  | forLoop {around : Surroundings} {type operandType : DataType} {name operator : String}
      {initializer condition operand : Expr} {fixity : Fixity} {body : List Stmt}
      (start : HasType (around.enterLoop.enter [] body).view initializer type)
      (test : HasType ((around.enterLoop.enter [] body).declare [(name, type)]).view condition
        .boolean)
      (increments : isIncrement operator = true)
      (step : HasType ((around.enterLoop.enter [] body).declare [(name, type)]).view operand
        operandType)
      (numeric : operandType.isNumeric = true)
      (typed : BlockTyped ((around.enterLoop.enter [] body).declare [(name, type)]) body) :
      StmtTyped around (.forLoop (.variableDecl type name initializer) condition
        (.unary operator fixity operand) body)
  | breakLoop {around : Surroundings} (inside : around.inLoop = true) :
      StmtTyped around .breakLoop
  | continueLoop {around : Surroundings} (inside : around.inLoop = true) :
      StmtTyped around .continueLoop

/-- What follows the body of an `if` obeys the rules. -/
inductive AlternativesTyped : Surroundings → Alternatives → Prop
  | none {around : Surroundings} : AlternativesTyped around .none
  | otherwise {around : Surroundings} {body : List Stmt}
      (typed : BlockTyped (around.enter [] body) body) :
      AlternativesTyped around (.otherwise body)
  | elseIf {around : Surroundings} {condition : Expr} {body : List Stmt}
      {alternatives : Alternatives} (test : HasType around.view condition .boolean)
      (typed : BlockTyped (around.enter [] body) body)
      (others : AlternativesTyped around alternatives) :
      AlternativesTyped around (.elseIf condition body alternatives)

/-- Statements in a row obey the rules, each behind the declarations of those before it. -/
inductive StmtsTyped : Surroundings → List Stmt → Prop
  | nil {around : Surroundings} : StmtsTyped around []
  | cons {around : Surroundings} {stmt : Stmt} {later : List Stmt}
      (first : StmtTyped around stmt) (rest : StmtsTyped (around.declare stmt.bindings) later) :
      StmtsTyped around (stmt :: later)

/-- The statements of a block obey the rules inside it, and no two of its functions share a name. -/
inductive BlockTyped : Surroundings → List Stmt → Prop
  | block {inside : Surroundings} {body : List Stmt}
      (distinct : (inside.block.signatures.map Prod.fst).Nodup) (typed : StmtsTyped inside body) :
      BlockTyped inside body

end

/-- A program obeys the rules. -/
def Program.WellTyped (program : Program) : Prop :=
  BlockTyped (.top program.body) program.body

end TypedImp
