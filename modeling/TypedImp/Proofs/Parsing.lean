/-
**Readers as computations on the tokens left.**

A reader carries the proof that it makes progress, which its recursion needs and which is in the way
of every other statement. `Parsing` forgets the proof: what is left is a computation that passes the
tokens on and may be stuck. In this form a reader is a chain of smaller ones, with a look at the next
token where it has a choice.

* `Parsing.ofReader` — the computation of a reader.
* `Parsing.peek` — a choice by the next token, which is not read yet.
* `Parsing.ahead` — what the next token is to the operator loop.
* `Parsing.expr_eq`, `Parsing.operators_eq`, …, `Parsing.program_eq` — **one equation for each
  reader of the grammar**, in terms of the others; nothing below opens a reader again.
-/

import TypedImp.Parse.Program

namespace TypedImp

/-- A computation that reads from the tokens left and may be stuck. -/
abbrev Parsing (α : Type) : Type :=
  StateT (List Token) (Except Stuck) α

namespace Parsing

variable {α β : Type}

/-- A reading without its bound. -/
def forget {bound : Nat} (result : Except Stuck (Reading α bound)) :
    Except Stuck (α × List Token) :=
  result.map fun reading => (reading.value, reading.rest)

/-- The computation of a reader. -/
def ofReader {bound : List Token → Nat}
    (read : (tokens : List Token) → Except Stuck (Reading α (bound tokens))) : Parsing α :=
  fun tokens => forget (read tokens)

theorem exists_of_ofReader {bound : List Token → Nat}
    {read : (tokens : List Token) → Except Stuck (Reading α (bound tokens))}
    {tokens rest : List Token} {value : α} (reads : ofReader read tokens = .ok (value, rest)) :
    ∃ shorter, read tokens = .ok ⟨value, rest, shorter⟩ := by
  unfold ofReader forget at reads
  cases outcome : read tokens with
  | error stuck =>
    rw [outcome] at reads
    cases reads
  | ok reading =>
    rw [outcome] at reads
    cases reads
    exact ⟨reading.shorter, rfl⟩

/-- A choice by the next token, which is left unread. -/
def peek (body : Option Token → Parsing α) : Parsing α :=
  fun tokens => body tokens.head? tokens

/-- Being stuck at once. -/
def fail (expected : String) : Parsing α :=
  fun tokens => .error ⟨expected, tokens⟩

theorem bind_apply (first : Parsing α) (next : α → Parsing β) (tokens : List Token) :
    (first >>= next) tokens =
      match first tokens with
      | .ok (value, rest) => next value rest
      | .error stuck => .error stuck := by
  show (first tokens >>= fun outcome => next outcome.1 outcome.2) = _
  cases first tokens <;> rfl

theorem bind_of_ok {first : Parsing α} {tokens rest : List Token} {value : α}
    (reads : first tokens = .ok (value, rest)) (next : α → Parsing β) :
    (first >>= next) tokens = next value rest := by
  rw [bind_apply, reads]

theorem bind_of_error {first : Parsing α} {tokens : List Token} {stuck : Stuck}
    (fails : first tokens = .error stuck) (next : α → Parsing β) :
    (first >>= next) tokens = .error stuck := by
  rw [bind_apply, fails]

@[simp]
theorem pure_apply (value : α) (tokens : List Token) :
    (pure value : Parsing α) tokens = .ok (value, tokens) := rfl

@[simp]
theorem peek_apply (body : Option Token → Parsing α) (tokens : List Token) :
    peek body tokens = body tokens.head? tokens := rfl

/-- A reader followed by the rest of a reader is the computation of the first followed by the
computation of the rest. -/
theorem forget_bind {bound : List Token → Nat} {inner : Nat}
    {read : (tokens : List Token) → Except Stuck (Reading α (bound tokens))}
    {tokens : List Token} {rest : Reading α (bound tokens) → Except Stuck (Reading β inner)}
    {next : α → Parsing β}
    (same : ∀ value behind shorter, forget (rest ⟨value, behind, shorter⟩) = next value behind) :
    forget (read tokens >>= rest) = (ofReader read >>= next) tokens := by
  rw [bind_apply]
  unfold ofReader
  cases read tokens with
  | error stuck => rfl
  | ok reading => exact same reading.value reading.rest reading.shorter

/-! ### One token -/

/-- One token that passes a test. -/
def accept (test : Token → Option α) (expected : String) : Parsing α :=
  ofReader (Reader.accept test expected)

/-- A token with a given lexeme. -/
def lexeme (lexeme : String) : Parsing Token :=
  ofReader (Reader.lexeme lexeme)

/-- A token of a given kind. -/
def kind (kind : Token.Kind) (expected : String) : Parsing Token :=
  ofReader (Reader.kind kind expected)

/-- The keyword of a type. -/
def dataType (expected : String) : Parsing DataType :=
  ofReader (Reader.dataType expected)

theorem accept_of_some {test : Token → Option α} {token : Token} {value : α}
    (passes : test token = some value) (expected : String) (rest : List Token) :
    accept test expected (token :: rest) = .ok (value, rest) := by
  show forget (Reader.accept test expected (token :: rest)) = _
  simp only [Reader.accept, passes]
  rfl

theorem accept_of_none {test : Token → Option α} {token : Token} (fails : test token = none)
    (expected : String) (rest : List Token) :
    accept test expected (token :: rest) = .error ⟨expected, token :: rest⟩ := by
  show forget (Reader.accept test expected (token :: rest)) = _
  simp only [Reader.accept, fails]
  rfl

theorem accept_nil (test : Token → Option α) (expected : String) :
    accept test expected [] = .error ⟨expected, []⟩ := rfl

theorem lexeme_cons {token : Token} {word : String} (is : token.lexeme = word)
    (rest : List Token) : lexeme word (token :: rest) = .ok (token, rest) :=
  accept_of_some (by simp [Option.guard, is]) _ rest

theorem kind_cons {token : Token} {sort : Token.Kind} (is : token.kind = sort)
    (expected : String) (rest : List Token) :
    kind sort expected (token :: rest) = .ok (token, rest) :=
  accept_of_some (by simp [Option.guard, is]) _ rest

theorem dataType_cons {token : Token} {type : DataType} (is : token.kind = .type)
    (names : token.lexeme = type.name) (expected : String) (rest : List Token) :
    dataType expected (token :: rest) = .ok (type, rest) :=
  accept_of_some (by simp [is, names, DataType.ofName?_eq_some_iff]) _ rest

/-- Whether the next token has a given lexeme. -/
def startsWith (word : String) (head : Option Token) : Bool :=
  head.any (·.lexeme == word)

theorem startsWith_head? (word : String) (tokens : List Token) :
    TypedImp.startsWith word tokens = startsWith word tokens.head? := by
  cases tokens <;> rfl

@[simp]
theorem startsWith_none (word : String) : startsWith word none = false := rfl

@[simp]
theorem startsWith_some (word : String) (token : Token) :
    startsWith word (some token) = (token.lexeme == word) := rfl

/-! ### The readers of the grammar -/

/-- An expression whose operators have at least the left power `minimum`. -/
def expr (minimum : Nat) : Parsing Expr :=
  ofReader (readExpr .standard minimum)

/-- The operators behind `left` that have at least the left power `minimum`. -/
def operators (minimum : Nat) (left : Expr) : Parsing Expr :=
  ofReader (readOperators .standard minimum left)

/-- A literal. -/
def literal : Parsing Expr :=
  ofReader readLiteral

/-- An identifier, with the call or the assignment that it starts. -/
def identifier : Parsing Expr :=
  ofReader (readIdentifier .standard)

/-- A parenthesised expression. -/
def grouping : Parsing Expr :=
  ofReader (readGrouping .standard)

/-- An increment operator and its operand. -/
def increment : Parsing Expr :=
  ofReader (readIncrement .standard)

/-- The arguments of a call and the parentheses around them. -/
def call (callee : String) : Parsing Expr :=
  ofReader (readCall .standard callee)

/-- One or more expressions with commas between them. -/
def arguments : Parsing (List Expr) :=
  ofReader (readArguments .standard)

/-- An expression in parentheses. -/
def condition : Parsing Expr :=
  ofReader (readCondition .standard)

/-- An expression with a semicolon. -/
def expressionStmt : Parsing Stmt :=
  ofReader (readExpressionStmt .standard)

/-- One or more parameters with commas between them. -/
def parameters : Parsing (List Parameter) :=
  ofReader readParameters

/-- The parameters of a function and the parentheses around them. -/
def parameterList : Parsing (List Parameter) :=
  ofReader readParameterList

/-- A `return` with or without a value. -/
def returnStmt : Parsing Stmt :=
  ofReader (readReturn .standard)

/-- A `break` or a `continue`. -/
def control : Parsing Stmt :=
  ofReader readControl

/-- A statement. -/
def stmt : Parsing Stmt :=
  ofReader (readStmt .standard)

/-- A declaration of a function or a variable. -/
def declaration : Parsing Stmt :=
  ofReader (readForm .standard .declaration)

/-- An `if` with everything that belongs to it. -/
def ifChain : Parsing Stmt :=
  ofReader (readIfChain .standard)

/-- What follows the body of an `if`. -/
def alternatives : Parsing Alternatives :=
  ofReader (readAlternatives .standard)

/-- A `while` loop. -/
def whileLoop : Parsing Stmt :=
  ofReader (readWhileLoop .standard)

/-- A `for` loop. -/
def forLoop : Parsing Stmt :=
  ofReader (readForLoop .standard)

/-- Statements in braces. -/
def body : Parsing (List Stmt) :=
  ofReader (readBody .standard)

/-- Statements up to a closing brace, and the brace. -/
def untilBrace : Parsing (List Stmt) :=
  ofReader (readUntilBrace .standard)

/-- Statements up to the last token. -/
def program : Parsing (List Stmt) :=
  fun tokens => (readProgram .standard tokens).map (·, [])

/-! ### Expressions -/

/-- What a token is to the operator loop. -/
inductive Ahead
  | stop
  | behind
  | between (rightPower : Nat)
  deriving DecidableEq

/-- What the next token is to an operator loop with a given minimum: an increment operator behind
the operand, an operator between two operands that binds tightly enough, or none of its business. -/
def ahead (minimum : Nat) (head : Option Token) : Ahead :=
  match head with
  | none => .stop
  | some token =>
    if token.kind ≠ .operator then .stop
    else if isIncrement token.lexeme then .behind
    else
      match BindingPower.of? token.lexeme with
      | none => .stop
      | some power => if power.left < minimum then .stop else .between power.right

/-- A token that the operator loop takes for `what`. -/
def operator (minimum : Nat) (what : Ahead) : Parsing Token :=
  accept (Option.guard fun token => ahead minimum (some token) = what) "operator"

theorem operator_cons {minimum : Nat} {what : Ahead} {token : Token}
    (is : ahead minimum (some token) = what) (rest : List Token) :
    operator minimum what (token :: rest) = .ok (token, rest) :=
  accept_of_some (by simp [Option.guard, is]) _ rest

/-- The start of an expression by a handler. -/
def start : ExprHandler → Parsing Expr
  | .literal => literal
  | .identifier => identifier
  | .grouping => grouping
  | .increment => increment

theorem ofReader_readStart (handler : ExprHandler) :
    ofReader (readStart .standard handler) = start handler := by
  funext tokens
  unfold ofReader
  cases handler <;> rw [readStart.eq_def] <;> rfl

theorem expr_eq (minimum : Nat) :
    expr minimum = peek fun head =>
      match head.bind Tables.standard.exprHandler? with
      | none => fail "expression"
      | some handler => start handler >>= operators minimum := by
  funext tokens
  unfold expr ofReader
  rw [readExpr, peek_apply]
  cases tokens.head?.bind Tables.standard.exprHandler? with
  | none => rfl
  | some handler =>
    dsimp only
    rw [← ofReader_readStart]
    refine forget_bind fun left behind _ => ?_
    rw [← bind_pure (operators minimum left)]
    exact forget_bind fun _ _ _ => rfl

theorem literal_eq :
    literal = accept
      (fun token => (literalType? token.kind).map (Expr.literal · token.lexeme)) "literal" := rfl

theorem grouping_eq :
    grouping = do
      let _ ← accept (Option.guard (·.lexeme == "(")) "expression"
      let inner ← expr 0
      let _ ← lexeme ")"
      return inner := by
  funext tokens
  unfold grouping ofReader
  rw [readGrouping]
  exact forget_bind fun _ _ _ => forget_bind fun _ _ _ => forget_bind fun _ _ _ => rfl

theorem increment_eq :
    increment = do
      let operator ← accept (Option.guard (isIncrement ·.lexeme)) "expression"
      let operand ← expr BindingPower.increment.right
      return .unary operator.lexeme .before operand := by
  funext tokens
  unfold increment ofReader
  rw [readIncrement]
  exact forget_bind fun _ _ _ => forget_bind fun _ _ _ => rfl

theorem identifier_eq :
    identifier = (do
      let name ← kind .identifier "identifier"
      peek fun head =>
        if startsWith "(" head then call name.lexeme
        else if head.any (isAssignment ·.lexeme) then do
          let operator ← accept (Option.guard (isAssignment ·.lexeme)) "assignment"
          let value ← expr 0
          return .assign operator.lexeme (.identifier name.lexeme) value
        else pure (.identifier name.lexeme)) := by
  funext tokens
  unfold identifier ofReader
  rw [readIdentifier]
  refine forget_bind fun name behind shorter => ?_
  dsimp only
  rw [startsWith_head?, peek_apply]
  by_cases calls : startsWith "(" behind.head?
  · rw [if_pos calls, if_pos calls, ← bind_pure (call name.lexeme)]
    exact forget_bind fun _ _ _ => rfl
  · rw [if_neg calls, if_neg calls]
    cases behind with
    | nil => rfl
    | cons operator behind =>
      rw [List.head?_cons, Option.any_some]
      dsimp only
      by_cases assigns : isAssignment operator.lexeme
      · have passes : Option.guard (isAssignment ·.lexeme) operator = some operator := by
          simp [Option.guard, assigns]
        rw [if_pos assigns, if_pos assigns, bind_of_ok (accept_of_some passes _ behind)]
        exact forget_bind fun _ _ _ => rfl
      · rw [if_neg assigns, if_neg assigns]
        rfl

theorem call_eq (callee : String) :
    call callee = (do
      let _ ← lexeme "("
      peek fun head =>
        if startsWith ")" head then do
          let _ ← lexeme ")"
          return .call callee []
        else do
          let arguments ← arguments
          let _ ← lexeme ")"
          pure (.call callee arguments)) := by
  funext tokens
  unfold call ofReader
  rw [readCall]
  refine forget_bind fun _ inside _ => ?_
  dsimp only
  rw [startsWith_head?, peek_apply]
  split
  · exact forget_bind fun _ _ _ => rfl
  · exact forget_bind fun _ _ _ => forget_bind fun _ _ _ => rfl

theorem arguments_eq :
    arguments = (do
      let argument ← expr 0
      peek fun head =>
        if startsWith "," head then do
          let _ ← lexeme ","
          let further ← arguments
          return argument :: further
        else pure [argument]) := by
  funext tokens
  show forget (readArguments .standard tokens) = _
  rw [readArguments]
  refine forget_bind fun argument behind shorter => ?_
  cases behind with
  | nil => rfl
  | cons comma behind =>
    rw [peek_apply, List.head?_cons, startsWith_some]
    dsimp only
    by_cases more : (comma.lexeme == ",") = true
    · rw [if_pos more, if_pos more, bind_of_ok (lexeme_cons (beq_iff_eq.mp more) behind)]
      exact forget_bind fun _ _ _ => rfl
    · rw [if_neg more, if_neg more]
      rfl

theorem operators_eq (minimum : Nat) (left : Expr) :
    operators minimum left = (peek fun head =>
      match ahead minimum head with
      | .stop => return left
      | .behind => do
        let operator ← operator minimum .behind
        operators minimum (.unary operator.lexeme .behind left)
      | .between power => do
        let operator ← operator minimum (.between power)
        let right ← expr power
        operators minimum (.binary operator.lexeme left right)) := by
  funext tokens
  show forget (readOperators .standard minimum left tokens) = _
  rw [peek_apply]
  cases tokens with
  | nil =>
    rw [readOperators]
    rfl
  | cons token behind =>
    rw [readOperators, List.head?_cons]
    by_cases other : token.kind ≠ .operator
    · rw [if_pos other, ahead, if_pos other]
      rfl
    · rw [if_neg other]
      by_cases increments : isIncrement token.lexeme
      · have is : ahead minimum (some token) = .behind := by
          rw [ahead, if_neg other, if_pos increments]
        rw [if_pos increments, is]
        dsimp only
        rw [bind_of_ok (operator_cons is behind)]
        rw [← bind_pure (operators minimum (.unary token.lexeme .behind left))]
        exact forget_bind fun _ _ _ => rfl
      · rw [if_neg increments]
        cases power : BindingPower.of? token.lexeme with
        | none =>
          simp only [ahead, other, increments, power]
          rfl
        | some power' =>
          by_cases loose : power'.left < minimum
          · simp only [ahead, other, increments, power, loose]
            rfl
          · have is : ahead minimum (some token) = .between power'.right := by
              simp [ahead, Decidable.not_not.mp other, increments, power, loose]
            rw [is]
            dsimp only
            rw [if_neg loose, bind_of_ok (operator_cons is behind)]
            refine forget_bind fun right further _ => ?_
            rw [← bind_pure (operators minimum (.binary token.lexeme left right))]
            exact forget_bind fun _ _ _ => rfl

/-! ### Statements -/

theorem condition_eq :
    condition = do
      let _ ← lexeme "("
      let condition ← expr 0
      let _ ← lexeme ")"
      return condition := by
  funext tokens
  exact forget_bind fun _ _ _ => forget_bind fun _ _ _ => forget_bind fun _ _ _ => rfl

theorem expressionStmt_eq :
    expressionStmt = do
      let value ← expr 0
      let _ ← lexeme ";"
      return .expression value := by
  funext tokens
  exact forget_bind fun _ _ _ => forget_bind fun _ _ _ => rfl

/-- What follows the type in the declaration of a variable. -/
def variableRest (type : DataType) : Parsing Stmt := do
  let name ← kind .identifier "identifier"
  let _ ← lexeme "="
  let initializer ← expr 0
  let _ ← lexeme ";"
  return .variableDecl type name.lexeme initializer

/-- What follows the return type in the declaration of a function. -/
def functionRest (returnType : DataType) : Parsing Stmt := do
  let _ ← lexeme "function"
  let name ← kind .identifier "function name"
  let parameters ← parameterList
  let body ← body
  return .functionDecl returnType name.lexeme parameters body

theorem ofReader_readVariableDecl :
    ofReader (readVariableDecl .standard) = dataType "variable type" >>= variableRest := by
  funext tokens
  exact forget_bind fun _ _ _ => forget_bind fun _ _ _ => forget_bind fun _ _ _ =>
    forget_bind fun _ _ _ => forget_bind fun _ _ _ => rfl

theorem ofReader_readFunctionDecl :
    ofReader (readFunctionDecl .standard) = dataType "return type" >>= functionRest := by
  funext tokens
  unfold ofReader
  rw [readFunctionDecl]
  exact forget_bind fun _ _ _ => forget_bind fun _ _ _ => forget_bind fun _ _ _ =>
    forget_bind fun _ _ _ => forget_bind fun _ _ _ => rfl

theorem parameters_eq :
    parameters = (do
      let type ← dataType "parameter type"
      let name ← kind .identifier "parameter name"
      peek fun head =>
        if startsWith "," head then do
          let _ ← lexeme ","
          let further ← parameters
          return ⟨name.lexeme, type⟩ :: further
        else pure [⟨name.lexeme, type⟩]) := by
  funext tokens
  show forget (readParameters tokens) = _
  rw [readParameters]
  refine forget_bind fun type behindType _ => forget_bind fun name behind shorter => ?_
  cases behind with
  | nil => rfl
  | cons comma behind =>
    rw [peek_apply, List.head?_cons, startsWith_some]
    dsimp only
    by_cases more : (comma.lexeme == ",") = true
    · rw [if_pos more, if_pos more, bind_of_ok (lexeme_cons (beq_iff_eq.mp more) behind)]
      exact forget_bind fun _ _ _ => rfl
    · rw [if_neg more, if_neg more]
      rfl

theorem parameterList_eq :
    parameterList = (do
      let _ ← lexeme "("
      peek fun head =>
        if startsWith ")" head then do
          let _ ← lexeme ")"
          return []
        else do
          let parameters ← parameters
          let _ ← lexeme ")"
          return parameters) := by
  funext tokens
  refine forget_bind fun _ inside _ => ?_
  dsimp only
  rw [startsWith_head?, peek_apply]
  split
  · exact forget_bind fun _ _ _ => rfl
  · exact forget_bind fun _ _ _ => forget_bind fun _ _ _ => rfl

theorem returnStmt_eq :
    returnStmt = (do
      let _ ← lexeme "return"
      peek fun head =>
        if startsWith ";" head then do
          let _ ← lexeme ";"
          return .returnValue none
        else do
          let value ← expr 0
          let _ ← lexeme ";"
          return .returnValue (some value)) := by
  funext tokens
  refine forget_bind fun _ behind _ => ?_
  dsimp only
  rw [startsWith_head?, peek_apply]
  split
  · exact forget_bind fun _ _ _ => rfl
  · exact forget_bind fun _ _ _ => forget_bind fun _ _ _ => rfl

theorem control_eq :
    control = do
      let stmt ← accept controlWord? "`break` or `continue`"
      let _ ← lexeme ";"
      return stmt := by
  funext tokens
  exact forget_bind fun _ _ _ => forget_bind fun _ _ _ => rfl

/-- The reader of a form of statements. -/
def form : StmtForm → Parsing Stmt
  | .declaration => declaration
  | .variableDecl => dataType "variable type" >>= variableRest
  | .functionDecl => dataType "return type" >>= functionRest
  | .ifChain => ifChain
  | .whileLoop => whileLoop
  | .forLoop => forLoop
  | .returnValue => returnStmt
  | .control => control

theorem ofReader_readForm (which : StmtForm) :
    ofReader (readForm .standard which) = form which := by
  cases which with
  | declaration => rfl
  | variableDecl =>
    rw [form, ← ofReader_readVariableDecl]
    funext tokens
    unfold ofReader
    rw [readForm.eq_def]
  | functionDecl =>
    rw [form, ← ofReader_readFunctionDecl]
    funext tokens
    unfold ofReader
    rw [readForm.eq_def]
  | ifChain | whileLoop | forLoop | returnValue | control =>
    funext tokens
    unfold ofReader
    rw [readForm.eq_def]
    rfl

theorem stmt_eq :
    stmt = peek fun head =>
      match head with
      | none => fail "statement"
      | some token =>
        match Tables.standard.stmtForm? token with
        | some which => form which
        | none => if token.kind = .type then declaration else expressionStmt := by
  funext tokens
  unfold stmt ofReader
  rw [readStmt.eq_def, peek_apply]
  cases tokens with
  | nil => rfl
  | cons token behind =>
    dsimp only [List.head?_cons]
    cases Tables.standard.stmtForm? token with
    | some which =>
      dsimp only
      rw [← ofReader_readForm]
      rfl
    | none =>
      dsimp only
      split <;> rfl

/-- Whether the next token is the keyword that makes a declaration one of a function. -/
def functionAhead (head : Option Token) : Bool :=
  head.any fun word => word.kind == .keyword && word.lexeme == "function"

/-- The token behind the first decides what is declared. -/
theorem declaration_cons (token : Token) (behind : List Token) :
    declaration (token :: behind) =
      if functionAhead behind.head? then (dataType "return type" >>= functionRest) (token :: behind)
      else (dataType "variable type" >>= variableRest) (token :: behind) := by
  rw [← ofReader_readVariableDecl, ← ofReader_readFunctionDecl]
  unfold declaration ofReader
  rw [readForm.eq_def]
  cases behind with
  | nil => rfl
  | cons word behind =>
    show forget (if word.kind = .keyword ∧ word.lexeme = "function" then _ else _) =
      if functionAhead (some word) then _ else _
    by_cases keyword : word.kind = .keyword ∧ word.lexeme = "function"
    · rw [if_pos keyword, if_pos (by simpa [functionAhead] using keyword)]
    · rw [if_neg keyword, if_neg (by simpa [functionAhead] using keyword)]

/-- The same of any tokens: without a second one a variable is declared. -/
theorem declaration_apply (tokens : List Token) :
    declaration tokens =
      if functionAhead tokens.tail.head? then (dataType "return type" >>= functionRest) tokens
      else (dataType "variable type" >>= variableRest) tokens := by
  cases tokens with
  | nil =>
    unfold declaration ofReader
    rw [readForm.eq_def]
    rfl
  | cons token behind => exact declaration_cons token behind

/-- A declaration, once its type is read. -/
def declarationRest (type : DataType) : Parsing Stmt :=
  peek fun head => if functionAhead head then functionRest type else variableRest type

/-- Behind the keyword of a type, the next token decides what is declared. -/
theorem declaration_of_type {token : Token} {type : DataType} (is : token.kind = .type)
    (names : token.lexeme = type.name) (behind : List Token) :
    declaration (token :: behind) =
      (dataType "variable type" >>= declarationRest) (token :: behind) := by
  rw [declaration_cons, bind_of_ok (dataType_cons is names _ behind),
    bind_of_ok (dataType_cons is names _ behind), bind_of_ok (dataType_cons is names _ behind),
    declarationRest, peek_apply]
  split <;> rfl

theorem ifChain_eq :
    ifChain = do
      let _ ← lexeme "if"
      let condition ← condition
      let body ← body
      let alternatives ← alternatives
      return .ifChain condition body alternatives := by
  funext tokens
  unfold ifChain ofReader
  rw [readIfChain]
  exact forget_bind fun _ _ _ => forget_bind fun _ _ _ => forget_bind fun _ _ _ =>
    forget_bind fun _ _ _ => rfl

theorem alternatives_eq :
    alternatives = (peek fun head =>
      if startsWith "else if" head then do
        let _ ← lexeme "else if"
        let condition ← condition
        let body ← body
        let alternatives ← alternatives
        return .elseIf condition body alternatives
      else if startsWith "else" head then do
        let _ ← lexeme "else"
        let body ← body
        return .otherwise body
      else pure .none) := by
  funext tokens
  show forget (readAlternatives .standard tokens) = _
  rw [peek_apply]
  cases tokens with
  | nil =>
    rw [readAlternatives]
    rfl
  | cons word behind =>
    rw [readAlternatives, List.head?_cons, startsWith_some, startsWith_some]
    by_cases again : word.lexeme = "else if"
    · rw [if_pos again, if_pos (beq_iff_eq.mpr again), bind_of_ok (lexeme_cons again behind)]
      exact forget_bind fun _ _ _ => forget_bind fun _ _ _ => forget_bind fun _ _ _ => rfl
    · rw [if_neg again, if_neg (mt beq_iff_eq.mp again)]
      by_cases last : word.lexeme = "else"
      · rw [if_pos last, if_pos (beq_iff_eq.mpr last), bind_of_ok (lexeme_cons last behind)]
        exact forget_bind fun _ _ _ => rfl
      · rw [if_neg last, if_neg (mt beq_iff_eq.mp last)]
        rfl

theorem whileLoop_eq :
    whileLoop = do
      let _ ← lexeme "while"
      let condition ← condition
      let body ← body
      return .whileLoop condition body := by
  funext tokens
  unfold whileLoop ofReader
  rw [readWhileLoop]
  exact forget_bind fun _ _ _ => forget_bind fun _ _ _ => forget_bind fun _ _ _ => rfl

theorem forLoop_eq :
    forLoop = do
      let _ ← lexeme "for"
      let _ ← lexeme "("
      let initializer ← stmt
      let condition ← expr 0
      let _ ← lexeme ";"
      let increment ← expr 0
      let _ ← lexeme ")"
      let body ← body
      return .forLoop initializer condition increment body := by
  funext tokens
  unfold forLoop ofReader
  rw [readForLoop]
  exact forget_bind fun _ _ _ => forget_bind fun _ _ _ => forget_bind fun _ _ _ =>
    forget_bind fun _ _ _ => forget_bind fun _ _ _ => forget_bind fun _ _ _ =>
      forget_bind fun _ _ _ => forget_bind fun _ _ _ => rfl

theorem body_eq :
    body = lexeme "\x7b" >>= fun _ => untilBrace := by
  funext tokens
  unfold body ofReader
  rw [readBody]
  refine forget_bind fun _ inside _ => ?_
  rw [← bind_pure untilBrace]
  exact forget_bind fun _ _ _ => rfl

theorem untilBrace_eq :
    untilBrace = (peek fun head =>
      match head with
      | none => fail "`\x7d`"
      | some token =>
        if token.lexeme = "\x7d" then do
          let _ ← lexeme "\x7d"
          return []
        else do
          let stmt ← stmt
          let further ← untilBrace
          return stmt :: further) := by
  funext tokens
  show forget (readUntilBrace .standard tokens) = _
  rw [peek_apply]
  cases tokens with
  | nil =>
    rw [readUntilBrace]
    rfl
  | cons token behind =>
    rw [readUntilBrace, List.head?_cons]
    dsimp only
    by_cases closes : token.lexeme = "\x7d"
    · rw [if_pos closes, if_pos closes, bind_of_ok (lexeme_cons closes behind)]
      rfl
    · rw [if_neg closes, if_neg closes]
      exact forget_bind fun _ _ _ => forget_bind fun _ _ _ => rfl

theorem program_eq :
    program = (peek fun head =>
      match head with
      | none => pure []
      | some _ => do
        let stmt ← stmt
        let further ← program
        return stmt :: further) := by
  funext tokens
  rw [peek_apply]
  cases tokens with
  | nil =>
    unfold program
    rw [readProgram]
    rfl
  | cons token behind =>
    show (readProgram .standard (token :: behind)).map (·, []) = (stmt >>= _) (token :: behind)
    rw [readProgram, bind_apply]
    unfold stmt ofReader
    cases readStmt .standard (token :: behind) with
    | error stuck => rfl
    | ok reading =>
      show _ = (program >>= _) reading.rest
      rw [bind_apply]
      unfold program
      show Except.map _ (readProgram .standard reading.rest >>= _) = _
      cases readProgram .standard reading.rest <;> rfl

theorem program_eq_ok_iff {tokens rest : List Token} {body : List Stmt} :
    program tokens = .ok (body, rest) ↔ readProgram .standard tokens = .ok body ∧ rest = [] := by
  unfold program
  cases readProgram .standard tokens <;> simp [Except.map, eq_comm]

theorem program_eq_error_iff {tokens : List Token} {stuck : Stuck} :
    program tokens = .error stuck ↔ readProgram .standard tokens = .error stuck := by
  unfold program
  cases readProgram .standard tokens <;> simp [Except.map]

theorem parse_eq_ok_iff {tokens : List Token} {result : Program} :
    parse tokens = .ok result ↔ program tokens = .ok (result.body, []) := by
  rw [program_eq_ok_iff]
  unfold parse
  cases readProgram .standard tokens with
  | error stuck => simp
  | ok body =>
    cases result
    simp

theorem parse_eq_error_iff {tokens : List Token} {error : ParseError} :
    parse tokens = .error error ↔
      ∃ stuck, program tokens = .error stuck ∧ stuck.error tokens = error := by
  simp only [program_eq_error_iff]
  unfold parse
  cases readProgram .standard tokens <;> simp

end Parsing

/-- Nothing is asked of the tokens that follow. -/
def Anything : List Token → Prop :=
  fun _ => True

end TypedImp
