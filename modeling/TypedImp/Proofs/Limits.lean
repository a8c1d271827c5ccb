/-
**Readers that count their loops.**

The readers of the grammar call each other and repeat. Here they are written once more with both
kinds of repetition counted: a loop may run a given number of passes, and readers may stand one
inside the other to a given depth. A computation that needs more than that is cut off, so that
nothing in this module rests on the progress that readers make.

* `Limited` — computations that may be cut off.
* `Limited.separated`, `Limited.operators`, `Limited.alternatives`, `Limited.untilBrace`,
  `Limited.untilEnd` — the loops of the grammar; every pass that is begun is counted.
* `Limited.expr`, `Limited.stmt`, `Limited.body` — the readers that are entered again, given the
  readers inside.
* `Limited.nested` — the readers to a depth.
-/

import TypedImp.Proofs.Parsing

namespace TypedImp

/-- A computation that reads from the tokens left, may be stuck, and may be cut off. -/
abbrev Limited (α : Type) : Type :=
  StateT (List Token) (ExceptT Stuck Option) α

namespace Limited

variable {α : Type}

/-- What is left when a computation is cut off: nothing. -/
def cutOff : Limited α :=
  fun _ => none

/-- A computation that is not cut off. -/
def lift (read : Parsing α) : Limited α :=
  fun tokens => some (read tokens)

/-- A choice by the next token, which is left unread. -/
def peek (body : Option Token → Limited α) : Limited α :=
  fun tokens => body tokens.head? tokens

/-- A token with a given lexeme. -/
def lexeme (word : String) : Limited Token :=
  lift (Parsing.lexeme word)

/-- A token of a given kind. -/
def kind (sort : Token.Kind) (expected : String) : Limited Token :=
  lift (Parsing.kind sort expected)

/-- The keyword of a type. -/
def dataType (expected : String) : Limited DataType :=
  lift (Parsing.dataType expected)

/-- The readers that are entered again from inside. -/
structure Readers where
  expr : Nat → Limited Expr
  stmt : Limited Stmt
  body : Limited (List Stmt)

/-- Readers that are cut off at once. -/
def Readers.none : Readers :=
  ⟨fun _ => cutOff, cutOff, cutOff⟩

/-! ### Loops -/

/-- One or more items with commas between them, at most `passes`. -/
def separated (item : Limited α) : Nat → Limited (List α)
  | 0 => cutOff
  | passes + 1 => do
    let first ← item
    peek fun head =>
      if Parsing.startsWith "," head then do
        let _ ← lexeme ","
        let further ← separated item passes
        return first :: further
      else pure [first]

/-- The operators behind `left`, at most `passes` of them. A pass is begun while any token is
left. -/
def operators (inner : Readers) (minimum : Nat) : Nat → Expr → Limited Expr
  | 0, left => peek fun head =>
    match head with
    | none => pure left
    | some _ => cutOff
  | passes + 1, left => peek fun head =>
    match Parsing.ahead minimum head with
    | .stop => pure left
    | .behind => do
      let operator ← lift (Parsing.operator minimum .behind)
      operators inner minimum passes (.unary operator.lexeme .behind left)
    | .between power => do
      let operator ← lift (Parsing.operator minimum (.between power))
      let right ← inner.expr power
      operators inner minimum passes (.binary operator.lexeme left right)

/-- An expression in parentheses. -/
def condition (inner : Readers) : Limited Expr := do
  let _ ← lexeme "("
  let condition ← inner.expr 0
  let _ ← lexeme ")"
  return condition

/-- What follows the last body that has a condition, by the next token. -/
def otherwise (inner : Readers) (head : Option Token) : Limited Alternatives :=
  if Parsing.startsWith "else" head then do
    let _ ← lexeme "else"
    let body ← inner.body
    return .otherwise body
  else pure .none

/-- What follows the body of an `if`, with at most `passes` further conditions. -/
def alternatives (inner : Readers) : Nat → Limited Alternatives
  | 0 => peek fun head => if Parsing.startsWith "else if" head then cutOff else otherwise inner head
  | passes + 1 => peek fun head =>
    if Parsing.startsWith "else if" head then do
      let _ ← lexeme "else if"
      let condition ← condition inner
      let body ← inner.body
      let alternatives ← alternatives inner passes
      return .elseIf condition body alternatives
    else otherwise inner head

/-- Statements up to a closing brace, at most `passes`, and the brace. -/
def untilBrace (statement : Limited Stmt) : Nat → Limited (List Stmt)
  | 0 => peek fun head =>
    if Parsing.startsWith "\x7d" head then do
      let _ ← lexeme "\x7d"
      return []
    else cutOff
  | passes + 1 => peek fun head =>
    match head with
    | none => lift (Parsing.fail "`\x7d`")
    | some token =>
      if token.lexeme = "\x7d" then do
        let _ ← lexeme "\x7d"
        return []
      else do
        let stmt ← statement
        let further ← untilBrace statement passes
        return stmt :: further

/-- Statements up to the last token, at most `passes`. -/
def untilEnd (statement : Limited Stmt) : Nat → Limited (List Stmt)
  | 0 => peek fun head =>
    match head with
    | none => pure []
    | some _ => cutOff
  | passes + 1 => peek fun head =>
    match head with
    | none => pure []
    | some _ => do
      let stmt ← statement
      let further ← untilEnd statement passes
      return stmt :: further

/-! ### The readers of the grammar -/

section Grammar

variable (passes : Nat) (inner : Readers)

/-- A parenthesised expression. -/
def grouping : Limited Expr := do
  let _ ← lift (Parsing.accept (Option.guard (·.lexeme == "(")) "expression")
  let value ← inner.expr 0
  let _ ← lexeme ")"
  return value

/-- An increment operator and its operand. -/
def increment : Limited Expr := do
  let operator ← lift (Parsing.accept (Option.guard (isIncrement ·.lexeme)) "expression")
  let operand ← inner.expr BindingPower.increment.right
  return .unary operator.lexeme .before operand

/-- The arguments of a call and the parentheses around them. -/
def call (callee : String) : Limited Expr := do
  let _ ← lexeme "("
  peek fun head =>
    if Parsing.startsWith ")" head then do
      let _ ← lexeme ")"
      return .call callee []
    else do
      let arguments ← separated (inner.expr 0) passes
      let _ ← lexeme ")"
      return .call callee arguments

/-- An assigning operator and the value that is assigned. -/
def assign (name : String) : Limited Expr := do
  let operator ← lift (Parsing.accept (Option.guard (isAssignment ·.lexeme)) "assignment")
  let value ← inner.expr 0
  return .assign operator.lexeme (.identifier name) value

/-- An identifier, with the call or the assignment that it starts. -/
def identifier : Limited Expr := do
  let name ← kind .identifier "identifier"
  peek fun head =>
    if Parsing.startsWith "(" head then call passes inner name.lexeme
    else if head.any (isAssignment ·.lexeme) then assign inner name.lexeme
    else pure (.identifier name.lexeme)

/-- The start of an expression by a handler. -/
def start : ExprHandler → Limited Expr
  | .literal => lift Parsing.literal
  | .identifier => identifier passes inner
  | .grouping => grouping inner
  | .increment => increment inner

/-- An expression whose operators have at least the left power `minimum`. -/
def expr (minimum : Nat) : Limited Expr :=
  peek fun head =>
    match head.bind Tables.standard.exprHandler? with
    | none => lift (Parsing.fail "expression")
    | some handler => start passes inner handler >>= operators inner minimum passes

/-- An expression with a semicolon. -/
def expressionStmt : Limited Stmt := do
  let value ← inner.expr 0
  let _ ← lexeme ";"
  return .expression value

/-- What follows the type in the declaration of a variable. -/
def variableRest (type : DataType) : Limited Stmt := do
  let name ← kind .identifier "identifier"
  let _ ← lexeme "="
  let initializer ← inner.expr 0
  let _ ← lexeme ";"
  return .variableDecl type name.lexeme initializer

/-- One parameter. -/
def parameter : Limited Parameter := do
  let type ← dataType "parameter type"
  let name ← kind .identifier "parameter name"
  return ⟨name.lexeme, type⟩

/-- The parameters of a function and the parentheses around them. -/
def parameterList : Limited (List Parameter) := do
  let _ ← lexeme "("
  peek fun head =>
    if Parsing.startsWith ")" head then do
      let _ ← lexeme ")"
      return []
    else do
      let parameters ← separated parameter passes
      let _ ← lexeme ")"
      return parameters

/-- What follows the return type in the declaration of a function. -/
def functionRest (returnType : DataType) : Limited Stmt := do
  let _ ← lexeme "function"
  let name ← kind .identifier "function name"
  let parameters ← parameterList passes
  let body ← inner.body
  return .functionDecl returnType name.lexeme parameters body

/-- A declaration, of which the token behind the first one decides what is declared. -/
def declaration : Limited Stmt := fun tokens =>
  if Parsing.functionAhead tokens.tail.head? then
    (dataType "return type" >>= functionRest passes inner) tokens
  else (dataType "variable type" >>= variableRest inner) tokens

/-- An `if` with everything that belongs to it. -/
def ifChain : Limited Stmt := do
  let _ ← lexeme "if"
  let condition ← condition inner
  let body ← inner.body
  let alternatives ← alternatives inner passes
  return .ifChain condition body alternatives

/-- A `while` loop. -/
def whileLoop : Limited Stmt := do
  let _ ← lexeme "while"
  let condition ← condition inner
  let body ← inner.body
  return .whileLoop condition body

/-- A `for` loop. -/
def forLoop : Limited Stmt := do
  let _ ← lexeme "for"
  let _ ← lexeme "("
  let initializer ← inner.stmt
  let condition ← inner.expr 0
  let _ ← lexeme ";"
  let increment ← inner.expr 0
  let _ ← lexeme ")"
  let body ← inner.body
  return .forLoop initializer condition increment body

/-- A `return` with or without a value. -/
def returnStmt : Limited Stmt := do
  let _ ← lexeme "return"
  peek fun head =>
    if Parsing.startsWith ";" head then do
      let _ ← lexeme ";"
      return .returnValue none
    else do
      let value ← inner.expr 0
      let _ ← lexeme ";"
      return .returnValue (some value)

/-- A statement of a given form. -/
def form : StmtForm → Limited Stmt
  | .declaration => declaration passes inner
  | .variableDecl => dataType "variable type" >>= variableRest inner
  | .functionDecl => dataType "return type" >>= functionRest passes inner
  | .ifChain => ifChain passes inner
  | .whileLoop => whileLoop inner
  | .forLoop => forLoop inner
  | .returnValue => returnStmt inner
  | .control => lift Parsing.control

/-- A statement. -/
def stmt : Limited Stmt :=
  peek fun head =>
    match head with
    | none => lift (Parsing.fail "statement")
    | some token =>
      match Tables.standard.stmtForm? token with
      | some which => form passes inner which
      | none => if token.kind = .type then declaration passes inner else expressionStmt inner

/-- Statements in braces. -/
def body : Limited (List Stmt) :=
  lexeme "\x7b" >>= fun _ => untilBrace inner.stmt passes

/-- Statements up to the last token. -/
def program : Limited (List Stmt) :=
  untilEnd (stmt passes inner) passes

end Grammar

/-- The readers one inside the other to a depth, each of their loops with at most `passes`. -/
def nested (passes : Nat) : Nat → Readers
  | 0 => .none
  | depth + 1 =>
    let inner := nested passes depth
    ⟨expr passes inner, stmt passes inner, body passes inner⟩

end Limited

end TypedImp
