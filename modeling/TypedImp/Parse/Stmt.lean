/-
**Reading statements.**

A statement starts with a keyword that has a form of its own, or with the keyword of a type, which
starts a declaration, or else it is an expression with a semicolon. The word behind the type tells
a function from a variable.

* `readStmt` — a statement of any kind.
* `readForm` — a statement of a given form.
* `readBody` — statements in braces.
-/

import TypedImp.Parse.Expr

namespace TypedImp

/-- Reads an expression in parentheses. -/
def readCondition (tables : Tables) : Reader Expr := fun tokens => do
  let ⟨_, inside, first⟩ ← Reader.lexeme "(" tokens
  let ⟨condition, behind, second⟩ ← readExpr tables 0 inside
  let ⟨_, rest, third⟩ ← Reader.lexeme ")" behind
  return ⟨condition, rest, shorter_of_three first second third⟩

/-- Reads an expression and the semicolon that ends it. -/
def readExpressionStmt (tables : Tables) : Reader Stmt := fun tokens => do
  let ⟨value, behind, first⟩ ← readExpr tables 0 tokens
  let ⟨_, rest, second⟩ ← Reader.lexeme ";" behind
  return ⟨.expression value, rest, shorter_of_two first second⟩

/-- Reads the declaration of a variable with its initializer. -/
def readVariableDecl (tables : Tables) : Reader Stmt := fun tokens => do
  let ⟨type, behindType, _⟩ ← Reader.dataType "variable type" tokens
  let ⟨name, behindName, _⟩ ← Reader.kind .identifier "identifier" behindType
  let ⟨_, value, _⟩ ← Reader.lexeme "=" behindName
  let ⟨initializer, behind, _⟩ ← readExpr tables 0 value
  let ⟨_, rest, _⟩ ← Reader.lexeme ";" behind
  return ⟨.variableDecl type name.lexeme initializer, rest, by omega⟩

/-- Reads one or more parameters with commas between them. -/
def readParameters (tokens : List Token) :
    Except Stuck (Reading (List Parameter) tokens.length) := do
  let ⟨type, behindType, first⟩ ← Reader.dataType "parameter type" tokens
  let ⟨name, behind, second⟩ ← Reader.kind .identifier "parameter name" behindType
  match behind, second with
  | [], second => return ⟨[⟨name.lexeme, type⟩], [], shorter_of_two first second⟩
  | comma :: behind, (second : behind.length + 1 < behindType.length) =>
    if comma.lexeme == "," then
      let ⟨parameters, rest, third⟩ ← readParameters behind
      return ⟨⟨name.lexeme, type⟩ :: parameters, rest,
        shorter_of_three first (Nat.lt_of_succ_lt second) third⟩
    else return ⟨[⟨name.lexeme, type⟩], comma :: behind, shorter_of_two first second⟩
termination_by tokens.length

/-- Reads the parameters of a function and the parentheses around them. -/
def readParameterList : Reader (List Parameter) := fun tokens => do
  let ⟨_, inside, first⟩ ← Reader.lexeme "(" tokens
  if startsWith ")" inside then
    let ⟨_, rest, second⟩ ← Reader.lexeme ")" inside
    return ⟨[], rest, shorter_of_two first second⟩
  else
    let ⟨parameters, behind, second⟩ ← readParameters inside
    let ⟨_, rest, third⟩ ← Reader.lexeme ")" behind
    return ⟨parameters, rest, shorter_of_three first second third⟩

/-- Reads a `return` with or without a value. -/
def readReturn (tables : Tables) : Reader Stmt := fun tokens => do
  let ⟨_, behind, first⟩ ← Reader.lexeme "return" tokens
  if startsWith ";" behind then
    let ⟨_, rest, second⟩ ← Reader.lexeme ";" behind
    return ⟨.returnValue none, rest, shorter_of_two first second⟩
  else
    let ⟨value, behind, second⟩ ← readExpr tables 0 behind
    let ⟨_, rest, third⟩ ← Reader.lexeme ";" behind
    return ⟨.returnValue (some value), rest, shorter_of_three first second third⟩

/-- The statement that a single word makes. -/
def controlWord? (token : Token) : Option Stmt :=
  if token.lexeme = "break" then some .breakLoop
  else if token.lexeme = "continue" then some .continueLoop
  else none

/-- Reads a `break` or a `continue`. -/
def readControl : Reader Stmt := fun tokens => do
  let ⟨stmt, behind, first⟩ ← Reader.accept controlWord? "`break` or `continue`" tokens
  let ⟨_, rest, second⟩ ← Reader.lexeme ";" behind
  return ⟨stmt, rest, shorter_of_two first second⟩

mutual

/-- Reads a statement. -/
def readStmt (tables : Tables) (tokens : List Token) :
    Except Stuck (Reading Stmt tokens.length) :=
  match tokens with
  | [] => .error ⟨"statement", []⟩
  | token :: behind =>
    match tables.stmtForm? token with
    | some form => readForm tables form (token :: behind)
    | none =>
      if token.kind = .type then readForm tables .declaration (token :: behind)
      else readExpressionStmt tables (token :: behind)
termination_by 8 * tokens.length + 3

/-- Reads a statement of a given form. -/
def readForm (tables : Tables) (form : StmtForm) (tokens : List Token) :
    Except Stuck (Reading Stmt tokens.length) :=
  match form with
  | .declaration =>
    match tokens[1]? with
    | some word =>
      if word.kind = .keyword ∧ word.lexeme = "function" then readFunctionDecl tables tokens
      else readVariableDecl tables tokens
    | none => readVariableDecl tables tokens
  | .variableDecl => readVariableDecl tables tokens
  | .functionDecl => readFunctionDecl tables tokens
  | .ifChain => readIfChain tables tokens
  | .whileLoop => readWhileLoop tables tokens
  | .forLoop => readForLoop tables tokens
  | .returnValue => readReturn tables tokens
  | .control => readControl tokens
termination_by 8 * tokens.length + 2

/-- Reads the declaration of a function. -/
def readFunctionDecl (tables : Tables) (tokens : List Token) :
    Except Stuck (Reading Stmt tokens.length) := do
  let ⟨returnType, behindType, _⟩ ← Reader.dataType "return type" tokens
  let ⟨_, behindWord, _⟩ ← Reader.lexeme "function" behindType
  let ⟨name, behindName, _⟩ ← Reader.kind .identifier "function name" behindWord
  let ⟨parameters, behind, _⟩ ← readParameterList behindName
  let ⟨body, rest, _⟩ ← readBody tables behind
  return ⟨.functionDecl returnType name.lexeme parameters body, rest, by omega⟩
termination_by 8 * tokens.length

/-- Reads an `if` with everything that belongs to it. -/
def readIfChain (tables : Tables) (tokens : List Token) :
    Except Stuck (Reading Stmt tokens.length) := do
  let ⟨_, behindWord, _⟩ ← Reader.lexeme "if" tokens
  let ⟨condition, behindCondition, _⟩ ← readCondition tables behindWord
  let ⟨body, behind, _⟩ ← readBody tables behindCondition
  let ⟨alternatives, rest, _⟩ ← readAlternatives tables behind
  return ⟨.ifChain condition body alternatives, rest, by omega⟩
termination_by 8 * tokens.length

/-- Reads what follows the body of an `if`, which may be nothing. -/
def readAlternatives (tables : Tables) :
    (tokens : List Token) → Except Stuck (Reading Alternatives (tokens.length + 1))
  | [] => return ⟨.none, [], Nat.lt_succ_self _⟩
  | word :: behind => do
    if word.lexeme = "else if" then
      let ⟨condition, behindCondition, _⟩ ← readCondition tables behind
      let ⟨body, further, _⟩ ← readBody tables behindCondition
      let ⟨alternatives, rest, _⟩ ← readAlternatives tables further
      return ⟨.elseIf condition body alternatives, rest, by rw [List.length_cons]; omega⟩
    else if word.lexeme = "else" then
      let ⟨body, rest, _⟩ ← readBody tables behind
      return ⟨.otherwise body, rest, by rw [List.length_cons]; omega⟩
    else return ⟨.none, word :: behind, Nat.lt_succ_self _⟩
termination_by tokens => 8 * tokens.length

/-- Reads a `while` loop. -/
def readWhileLoop (tables : Tables) (tokens : List Token) :
    Except Stuck (Reading Stmt tokens.length) := do
  let ⟨_, behindWord, _⟩ ← Reader.lexeme "while" tokens
  let ⟨condition, behind, _⟩ ← readCondition tables behindWord
  let ⟨body, rest, _⟩ ← readBody tables behind
  return ⟨.whileLoop condition body, rest, by omega⟩
termination_by 8 * tokens.length

/-- Reads a `for` loop. The initializer is a statement and brings its own semicolon. -/
def readForLoop (tables : Tables) (tokens : List Token) :
    Except Stuck (Reading Stmt tokens.length) := do
  let ⟨_, behindWord, _⟩ ← Reader.lexeme "for" tokens
  let ⟨_, inside, _⟩ ← Reader.lexeme "(" behindWord
  let ⟨initializer, second, _⟩ ← readStmt tables inside
  let ⟨condition, behindCondition, _⟩ ← readExpr tables 0 second
  let ⟨_, third, _⟩ ← Reader.lexeme ";" behindCondition
  let ⟨increment, behindIncrement, _⟩ ← readExpr tables 0 third
  let ⟨_, behind, _⟩ ← Reader.lexeme ")" behindIncrement
  let ⟨body, rest, _⟩ ← readBody tables behind
  return ⟨.forLoop initializer condition increment body, rest, by omega⟩
termination_by 8 * tokens.length

/-- Reads statements in braces. -/
def readBody (tables : Tables) (tokens : List Token) :
    Except Stuck (Reading (List Stmt) tokens.length) := do
  let ⟨_, inside, _⟩ ← Reader.lexeme "\x7b" tokens
  let ⟨body, rest, _⟩ ← readUntilBrace tables inside
  return ⟨body, rest, by omega⟩
termination_by 8 * tokens.length

/-- Reads statements up to a closing brace, and the brace. -/
def readUntilBrace (tables : Tables) (tokens : List Token) :
    Except Stuck (Reading (List Stmt) tokens.length) :=
  match tokens with
  | [] => .error ⟨"`\x7d`", []⟩
  | token :: behind =>
    if token.lexeme = "\x7d" then .ok ⟨[], behind, Nat.lt_succ_self _⟩
    else do
      let ⟨stmt, further, (_ : further.length < behind.length + 1)⟩ ←
        readStmt tables (token :: behind)
      let ⟨body, rest, _⟩ ← readUntilBrace tables further
      return ⟨stmt :: body, rest, by rw [List.length_cons]; omega⟩
termination_by 8 * tokens.length + 4

end

end TypedImp
