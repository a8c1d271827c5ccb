/-
**The parser does not look at positions.**

A token has a position, but the readers of the grammar look at kinds and lexemes alone; positions
only come back in errors. So a list of tokens is read like the same tokens at any other positions,
and for comparison all of them are moved to the start of the text.

* `Token.unplaced`, `ParseError.unplaced` — a token and an error at the start of a text.
* `Placeless` — a computation does the same on tokens that are moved, for fewer tokens than a bound.
  The bound is what the induction over the grammar goes along.
* `placelessExprs`, `placelessStmts` — **the readers of the grammar are placeless.**
* `parse_unplaced` — **moving the tokens changes at most the position of an error.**
-/

import TypedImp.Proofs.Parsing

namespace TypedImp

open Parsing

/-- The token at the start of a text. -/
def Token.unplaced (token : Token) : Token :=
  { token with position := .start }

/-- The error at the start of a text. -/
def ParseError.unplaced (error : ParseError) : ParseError :=
  { error with position := .start }

/-- The tokens at the start of a text, all of them. -/
abbrev unplacedTokens (tokens : List Token) : List Token :=
  tokens.map Token.unplaced

variable {α β : Type}

/-- An outcome whose tokens are moved to the start, those in the value by `move`. -/
def unplacedOutcome (move : α → α) :
    Except Stuck (α × List Token) → Except Stuck (α × List Token)
  | .ok (value, rest) => .ok (move value, unplacedTokens rest)
  | .error stuck => .error ⟨stuck.expected, unplacedTokens stuck.rest⟩

/-- **A computation that does the same on tokens that are moved**, if there are fewer of them than
`bound`. When it succeeds it has read at least `least` tokens. -/
structure Placeless (move : α → α) (bound least : Nat) (read : Parsing α) : Prop where
  same : ∀ tokens, tokens.length < bound →
    read (unplacedTokens tokens) = unplacedOutcome move (read tokens)
  reads : ∀ tokens value rest, tokens.length < bound → read tokens = .ok (value, rest) →
    rest.length + least ≤ tokens.length

section Rules

variable {move : α → α} {moveNext : β → β} {bound least leastNext : Nat} {read : Parsing α}

/-- How much is read at least may be forgotten. -/
theorem Placeless.anyway (placeless : Placeless move bound least read) :
    Placeless move bound 0 read where
  same := placeless.same
  reads tokens value rest short ended :=
    Nat.le_of_add_right_le (placeless.reads tokens value rest short ended)

theorem Placeless.zero : Placeless move 0 least read :=
  ⟨nofun, nofun⟩

/-- **One computation after another**, of which the second does not see the position of a value. It
has as many tokens less to read as the first one takes at least. -/
theorem Placeless.bindWithin {rest : Nat} {next : α → Parsing β}
    (first : Placeless move bound least read) (unseen : ∀ value, next (move value) = next value)
    (second : ∀ value, Placeless moveNext rest leastNext (next value))
    (within : bound ≤ rest + least) : Placeless moveNext bound least (read >>= next) where
  same tokens short := by
    rw [Parsing.bind_apply, Parsing.bind_apply, first.same tokens short]
    cases ended : read tokens with
    | error stuck => rfl
    | ok outcome =>
      obtain ⟨value, behind⟩ := outcome
      have fewer := first.reads tokens value behind short ended
      show next (move value) (unplacedTokens behind) = _
      rw [unseen, (second value).same behind (by omega)]
  reads tokens result behind short ended := by
    rw [Parsing.bind_apply] at ended
    split at ended
    · rename_i value middle started
      have fewer := first.reads tokens value middle short started
      have further := (second value).reads middle result behind (by omega) ended
      omega
    · cases ended

theorem Placeless.pure (value : α) : Placeless id bound 0 (pure value : Parsing α) where
  same _ _ := rfl
  reads tokens result rest _ ended := by
    cases ended
    exact Nat.le_refl _

theorem Placeless.fail (expected : String) : Placeless move bound least (fail expected) where
  same _ _ := rfl
  reads _ _ _ _ ended := by cases ended

/-- A choice by the next token that does not see its position. -/
theorem Placeless.peek {body : Option Token → Parsing α}
    (unseen : ∀ head, body (head.map Token.unplaced) = body head)
    (each : ∀ head, Placeless move bound least (body head)) :
    Placeless move bound least (peek body) where
  same tokens short := by
    rw [peek_apply, peek_apply, List.head?_map, unseen]
    exact (each tokens.head?).same tokens short
  reads tokens value rest short ended := (each tokens.head?).reads tokens value rest short ended

/-- A token that passes a test, if the test does not see its position. -/
theorem Placeless.accept {test : Token → Option α}
    (unseen : ∀ token, test token.unplaced = (test token).map move) (expected : String) :
    Placeless move bound 1 (accept test expected) where
  same tokens _ := by
    cases tokens with
    | nil => rfl
    | cons token rest =>
      cases passes : test token with
      | none =>
        have moved : test token.unplaced = none := by rw [unseen, passes, Option.map_none]
        rw [accept_of_none passes]
        exact accept_of_none moved expected (unplacedTokens rest)
      | some value =>
        have moved : test token.unplaced = some (move value) := by
          rw [unseen, passes, Option.map_some]
        rw [accept_of_some passes]
        exact accept_of_some moved expected (unplacedTokens rest)
  reads tokens value rest _ ended := by
    cases tokens with
    | nil => cases ended
    | cons token later =>
      cases passes : test token with
      | none =>
        rw [accept_of_none passes] at ended
        cases ended
      | some found =>
        rw [accept_of_some passes] at ended
        cases ended
        exact Nat.le_refl _

/-- A token with a property that does not depend on its position. -/
theorem Placeless.guard {holds : Token → Bool} (unseen : ∀ token, holds token.unplaced = holds token)
    (expected : String) :
    Placeless Token.unplaced bound 1 (Parsing.accept (Option.guard holds) expected) := by
  refine .accept (fun token => ?_) expected
  unfold Option.guard
  rw [unseen]
  split <;> rfl

/-- A token whose meaning does not depend on its position. -/
theorem Placeless.meaning {test : Token → Option α}
    (unseen : ∀ token, test token.unplaced = test token) (expected : String) :
    Placeless id bound 1 (Parsing.accept test expected) := by
  refine .accept (fun token => ?_) expected
  rw [unseen, Option.map_id]
  rfl

theorem Placeless.dataType (expected : String) :
    Placeless id bound 1 (Parsing.dataType expected) :=
  .meaning (fun _ => rfl) _

/-! The rules for what stands at the start of a reader: another reader, a token whose position is
not seen behind it, and a word. Each rule has two forms, with and without counting the token that is
read. -/

theorem Placeless.bind {next : α → Parsing β} (first : Placeless id bound least read)
    (second : ∀ value, Placeless moveNext bound leastNext (next value)) :
    Placeless moveNext bound least (read >>= next) :=
  first.bindWithin (fun _ => rfl) second (Nat.le_add_right _ _)

theorem Placeless.then {next : α → Parsing β} (first : Placeless id (bound + 1) 1 read)
    (second : ∀ value, Placeless moveNext bound leastNext (next value)) :
    Placeless moveNext (bound + 1) 1 (read >>= next) :=
  first.bindWithin (fun _ => rfl) second (Nat.le_refl _)

section Tokens

variable {holds : Token → Bool} {expected text : String} {next : Token → Parsing β}
  {later : Parsing β}

theorem Placeless.token (unseenTest : ∀ token, holds token.unplaced = holds token)
    (unseen : ∀ token, next token.unplaced = next token)
    (second : ∀ token, Placeless moveNext bound leastNext (next token)) :
    Placeless moveNext bound 1 (Parsing.accept (Option.guard holds) expected >>= next) :=
  (Placeless.guard unseenTest expected).bindWithin unseen second (Nat.le_add_right _ _)

theorem Placeless.tokenThen (unseenTest : ∀ token, holds token.unplaced = holds token)
    (unseen : ∀ token, next token.unplaced = next token)
    (second : ∀ token, Placeless moveNext bound leastNext (next token)) :
    Placeless moveNext (bound + 1) 1 (Parsing.accept (Option.guard holds) expected >>= next) :=
  (Placeless.guard unseenTest expected).bindWithin unseen second (Nat.le_refl _)

theorem Placeless.word (second : Placeless moveNext bound leastNext later) :
    Placeless moveNext bound 1 (lexeme text >>= fun _ => later) :=
  .token (fun _ => rfl) (fun _ => rfl) fun _ => second

theorem Placeless.wordThen (second : Placeless moveNext bound leastNext later) :
    Placeless moveNext (bound + 1) 1 (lexeme text >>= fun _ => later) :=
  .tokenThen (fun _ => rfl) (fun _ => rfl) fun _ => second

end Tokens

/-- A choice by the lexeme of the next token. -/
theorem Placeless.ifWord {word : String} {yes no : Parsing α} {leastYes : Nat}
    (first : Placeless move bound leastYes yes) (second : Placeless move bound least no) :
    Placeless move bound 0
      (Parsing.peek fun head => if Parsing.startsWith word head then yes else no) := by
  refine .peek (fun head => ?_) fun head => ?_
  · cases head <;> rfl
  · split
    · exact first.anyway
    · exact second.anyway

end Rules

/-! ### Expressions -/

/-- The readers of expressions that call each other, for a bound. -/
structure PlacelessExprs (bound : Nat) : Prop where
  expr : ∀ minimum, Placeless id bound 1 (Parsing.expr minimum)
  operators : ∀ minimum left, Placeless id bound 0 (Parsing.operators minimum left)
  arguments : Placeless id bound 1 Parsing.arguments

section Expressions

variable {bound : Nat}

theorem placeless_literal : Placeless id bound 1 literal := by
  rw [literal_eq]
  exact .meaning (fun _ => rfl) _

theorem placeless_grouping (exprs : PlacelessExprs bound) :
    Placeless id (bound + 1) 1 grouping := by
  rw [grouping_eq]
  exact .tokenThen (fun _ => rfl) (fun _ => rfl) fun _ =>
    (exprs.expr 0).bind fun _ => .word (.pure _)

theorem placeless_increment (exprs : PlacelessExprs bound) :
    Placeless id (bound + 1) 1 increment := by
  rw [increment_eq]
  exact .tokenThen (fun _ => rfl) (fun _ => rfl) fun _ => (exprs.expr _).bind fun _ => .pure _

theorem placeless_call (exprs : PlacelessExprs bound) (callee : String) :
    Placeless id bound 1 (call callee) := by
  rw [call_eq]
  exact .word (.ifWord (.word (.pure _)) (exprs.arguments.bind fun _ => .word (.pure _)))

theorem placeless_assign (exprs : PlacelessExprs bound) (name : String) :
    Placeless id bound 1 (do
      let operator ← accept (Option.guard (isAssignment ·.lexeme)) "assignment"
      let value ← expr 0
      return Expr.assign operator.lexeme (.identifier name) value) :=
  .token (fun _ => rfl) (fun _ => rfl) fun _ => (exprs.expr 0).bind fun _ => .pure _

theorem placeless_identifierRest (exprs : PlacelessExprs bound) (name : String) :
    Placeless id bound 0 (peek fun head =>
      if Parsing.startsWith "(" head then call name
      else if head.any (isAssignment ·.lexeme) then do
        let operator ← accept (Option.guard (isAssignment ·.lexeme)) "assignment"
        let value ← expr 0
        return .assign operator.lexeme (.identifier name) value
      else pure (.identifier name)) := by
  refine .peek (fun head => ?_) fun head => ?_
  · cases head <;> rfl
  · split
    · exact (placeless_call exprs name).anyway
    · split
      · exact (placeless_assign exprs name).anyway
      · exact .pure _

theorem placeless_identifier (exprs : PlacelessExprs bound) :
    Placeless id (bound + 1) 1 identifier := by
  rw [identifier_eq]
  exact .tokenThen (fun _ => rfl) (fun _ => rfl) fun name =>
    placeless_identifierRest exprs name.lexeme

theorem placeless_start (exprs : PlacelessExprs bound) (handler : ExprHandler) :
    Placeless id (bound + 1) 1 (start handler) := by
  cases handler with
  | literal => exact placeless_literal
  | identifier => exact placeless_identifier exprs
  | grouping => exact placeless_grouping exprs
  | increment => exact placeless_increment exprs

theorem placeless_expr (exprs : PlacelessExprs bound) (minimum : Nat) :
    Placeless id (bound + 1) 1 (expr minimum) := by
  rw [expr_eq]
  refine .peek (fun head => ?_) fun head => ?_
  · cases head <;> rfl
  · split
    · exact .fail _
    · exact (placeless_start exprs _).then fun left => exprs.operators minimum left

theorem placeless_operators (exprs : PlacelessExprs bound) (minimum : Nat) (left : Expr) :
    Placeless id (bound + 1) 0 (operators minimum left) := by
  rw [operators_eq]
  refine .peek (fun head => ?_) fun head => ?_
  · cases head <;> rfl
  · split
    · exact .pure left
    · have unary : Placeless id (bound + 1) 1 (operator minimum .behind >>= fun operator =>
          operators minimum (.unary operator.lexeme .behind left)) :=
        .tokenThen (fun _ => rfl) (fun _ => rfl) fun _ => exprs.operators minimum _
      exact unary.anyway
    · rename_i power _
      have binary : Placeless id (bound + 1) 1 (operator minimum (.between power) >>= fun operator =>
          expr power >>= fun right => operators minimum (.binary operator.lexeme left right)) :=
        .tokenThen (fun _ => rfl) (fun _ => rfl) fun _ =>
          (exprs.expr power).bind fun _ => exprs.operators minimum _
      exact binary.anyway

theorem placeless_arguments (exprs : PlacelessExprs bound) :
    Placeless id (bound + 1) 1 arguments := by
  rw [arguments_eq]
  exact (placeless_expr exprs 0).then fun _ =>
    .ifWord (.word (exprs.arguments.bind fun _ => .pure _)) (.pure _)

/-- **The readers of expressions are placeless.** -/
theorem placelessExprs (bound : Nat) : PlacelessExprs bound := by
  induction bound with
  | zero => exact ⟨fun _ => .zero, fun _ _ => .zero, .zero⟩
  | succ bound exprs =>
    exact ⟨placeless_expr exprs, placeless_operators exprs, placeless_arguments exprs⟩

theorem placelessExpr (minimum : Nat) : Placeless id bound 1 (expr minimum) :=
  (placelessExprs bound).expr minimum

end Expressions

/-! ### Statements -/

/-- The readers of statements that call each other, for a bound. -/
structure PlacelessStmts (bound : Nat) : Prop where
  stmt : Placeless id bound 1 Parsing.stmt
  alternatives : Placeless id bound 0 Parsing.alternatives
  body : Placeless id bound 1 Parsing.body
  untilBrace : Placeless id bound 1 Parsing.untilBrace

section Statements

variable {bound : Nat}

theorem placeless_condition : Placeless id bound 1 condition := by
  rw [condition_eq]
  exact .word ((placelessExpr 0).bind fun _ => .word (.pure _))

theorem placeless_expressionStmt : Placeless id bound 1 expressionStmt := by
  rw [expressionStmt_eq]
  exact (placelessExpr 0).bind fun _ => .word (.pure _)

theorem placeless_variableRest (type : DataType) : Placeless id bound 1 (variableRest type) :=
  .token (fun _ => rfl) (fun _ => rfl) fun _ =>
    .word ((placelessExpr 0).bind fun _ => .word (.pure _))

theorem placeless_parameters (bound : Nat) : Placeless id bound 1 parameters := by
  induction bound with
  | zero => exact .zero
  | succ bound ih =>
    rw [parameters_eq]
    exact (Placeless.dataType _).then fun _ => .token (fun _ => rfl) (fun _ => rfl) fun _ =>
      .ifWord (.word (ih.bind fun _ => .pure _)) (.pure _)

theorem placeless_parameterList : Placeless id bound 1 parameterList := by
  rw [parameterList_eq]
  exact .word (.ifWord (.word (.pure _))
    ((placeless_parameters bound).bind fun _ => .word (.pure _)))

theorem placeless_returnStmt : Placeless id bound 1 returnStmt := by
  rw [returnStmt_eq]
  exact .word (.ifWord (.word (.pure _)) ((placelessExpr 0).bind fun _ => .word (.pure _)))

theorem placeless_control : Placeless id bound 1 control := by
  rw [control_eq]
  exact (Placeless.meaning (fun _ => rfl) _).bind fun _ => .word (.pure _)

theorem placeless_functionRest (stmts : PlacelessStmts bound) (returnType : DataType) :
    Placeless id bound 1 (functionRest returnType) :=
  .word (.token (fun _ => rfl) (fun _ => rfl) fun _ =>
    placeless_parameterList.bind fun _ => stmts.body.bind fun _ => .pure _)

/-- The token behind the type decides what is declared, by its kind and lexeme. -/
theorem placeless_declaration (stmts : PlacelessStmts bound) :
    Placeless id (bound + 1) 1 declaration := by
  have ofFunction : Placeless id (bound + 1) 1 (dataType "return type" >>= functionRest) :=
    (Placeless.dataType _).then fun type => placeless_functionRest stmts type
  have ofVariable : Placeless id (bound + 1) 1 (dataType "variable type" >>= variableRest) :=
    (Placeless.dataType _).then fun type => placeless_variableRest type
  constructor
  · intro tokens short
    have unseen : functionAhead (unplacedTokens tokens).tail.head? =
        functionAhead tokens.tail.head? := by
      rcases tokens with _ | ⟨_, _ | _⟩ <;> rfl
    rw [declaration_apply, declaration_apply, unseen]
    split
    · exact ofFunction.same tokens short
    · exact ofVariable.same tokens short
  · intro tokens value rest short ended
    rw [declaration_apply] at ended
    split at ended
    · exact ofFunction.reads tokens value rest short ended
    · exact ofVariable.reads tokens value rest short ended

theorem placeless_ifChain (stmts : PlacelessStmts bound) : Placeless id (bound + 1) 1 ifChain := by
  rw [ifChain_eq]
  exact .wordThen (placeless_condition.bind fun _ => stmts.body.bind fun _ =>
    stmts.alternatives.bind fun _ => .pure _)

theorem placeless_alternatives (stmts : PlacelessStmts bound) :
    Placeless id (bound + 1) 0 alternatives := by
  have elseIf : Placeless id (bound + 1) 1 (do
      let _ ← lexeme "else if"
      let condition ← condition
      let body ← Parsing.body
      let alternatives ← alternatives
      return Alternatives.elseIf condition body alternatives) :=
    .wordThen (placeless_condition.bind fun _ => stmts.body.bind fun _ =>
      stmts.alternatives.bind fun _ => .pure _)
  have otherwise : Placeless id (bound + 1) 1 (do
      let _ ← lexeme "else"
      let body ← Parsing.body
      return Alternatives.otherwise body) :=
    .wordThen (stmts.body.bind fun _ => .pure _)
  rw [alternatives_eq]
  refine .peek (fun head => ?_) fun head => ?_
  · cases head <;> rfl
  · split
    · exact elseIf.anyway
    · split
      · exact otherwise.anyway
      · exact .pure _

theorem placeless_whileLoop (stmts : PlacelessStmts bound) :
    Placeless id (bound + 1) 1 whileLoop := by
  rw [whileLoop_eq]
  exact .wordThen (placeless_condition.bind fun _ => stmts.body.bind fun _ => .pure _)

theorem placeless_forLoop (stmts : PlacelessStmts bound) : Placeless id (bound + 1) 1 forLoop := by
  rw [forLoop_eq]
  exact .wordThen (.word (stmts.stmt.bind fun _ => (placelessExpr 0).bind fun _ =>
    .word ((placelessExpr 0).bind fun _ => .word (stmts.body.bind fun _ => .pure _))))

theorem placeless_body (stmts : PlacelessStmts bound) : Placeless id (bound + 1) 1 body := by
  rw [body_eq]
  exact .wordThen stmts.untilBrace

theorem placeless_form (stmts : PlacelessStmts bound) (which : StmtForm) :
    Placeless id (bound + 1) 1 (form which) := by
  cases which with
  | declaration => exact placeless_declaration stmts
  | variableDecl => exact (Placeless.dataType _).then fun type => placeless_variableRest type
  | functionDecl => exact (Placeless.dataType _).then fun type => placeless_functionRest stmts type
  | ifChain => exact placeless_ifChain stmts
  | whileLoop => exact placeless_whileLoop stmts
  | forLoop => exact placeless_forLoop stmts
  | returnValue => exact placeless_returnStmt
  | control => exact placeless_control

theorem placeless_stmt (stmts : PlacelessStmts bound) : Placeless id (bound + 1) 1 stmt := by
  rw [stmt_eq]
  refine .peek (fun head => ?_) fun head => ?_
  · cases head <;> rfl
  · cases head with
    | none => exact .fail _
    | some token =>
      dsimp only
      split
      · exact placeless_form stmts _
      · split
        · exact placeless_declaration stmts
        · exact placeless_expressionStmt

theorem placeless_untilBrace (stmts : PlacelessStmts bound) :
    Placeless id (bound + 1) 1 untilBrace := by
  rw [untilBrace_eq]
  refine .peek (fun head => ?_) fun head => ?_
  · cases head <;> rfl
  · cases head with
    | none => exact .fail _
    | some token =>
      dsimp only
      split
      · exact .word (.pure [])
      · exact (placeless_stmt stmts).then fun _ => stmts.untilBrace.bind fun _ => .pure _

/-- **The readers of statements are placeless.** -/
theorem placelessStmts (bound : Nat) : PlacelessStmts bound := by
  induction bound with
  | zero => exact ⟨.zero, .zero, .zero, .zero⟩
  | succ bound stmts =>
    exact ⟨placeless_stmt stmts, placeless_alternatives stmts, placeless_body stmts,
      placeless_untilBrace stmts⟩

theorem placeless_program (bound : Nat) : Placeless id bound 0 program := by
  induction bound with
  | zero => exact .zero
  | succ bound ih =>
    rw [program_eq]
    refine .peek (fun head => ?_) fun head => ?_
    · cases head <;> rfl
    · cases head with
      | none => exact .pure []
      | some token =>
        have first : Placeless id (bound + 1) 1 (stmt >>= fun stmt => program >>= fun further =>
            pure (stmt :: further)) :=
          (placeless_stmt (placelessStmts bound)).then fun _ => ih.bind fun _ => .pure _
        exact first.anyway

end Statements

/-! ### Parsing -/

theorem foundAt_unplaced (rest : List Token) : foundAt (unplacedTokens rest) = foundAt rest := by
  cases rest <;> rfl

/-- Tokens at the start put every error at the start, also at the end of the tokens. -/
theorem positionAt_unplaced (tokens rest : List Token) :
    positionAt (unplacedTokens tokens) (unplacedTokens rest) = .start := by
  unfold positionAt
  rw [List.head?_map, List.getLast?_map]
  cases rest.head? with
  | some token => rfl
  | none => cases tokens.getLast? <;> rfl

theorem stuck_error_unplaced (tokens : List Token) (stuck : Stuck) :
    Stuck.error (unplacedTokens tokens) ⟨stuck.expected, unplacedTokens stuck.rest⟩ =
      (stuck.error tokens).unplaced := by
  unfold Stuck.error ParseError.unplaced
  rw [foundAt_unplaced, positionAt_unplaced]

/-- **Moving the tokens changes at most the position of an error.** -/
theorem parse_unplaced (tokens : List Token) :
    parse (unplacedTokens tokens) = (parse tokens).mapError ParseError.unplaced := by
  have same := (placeless_program (tokens.length + 1)).same tokens (Nat.lt_succ_self _)
  cases outcome : parse tokens with
  | ok program =>
    rw [parse_eq_ok_iff.mp outcome] at same
    exact parse_eq_ok_iff.mpr same
  | error error =>
    obtain ⟨stuck, stops, rfl⟩ := parse_eq_error_iff.mp outcome
    rw [stops] at same
    exact parse_eq_error_iff.mpr ⟨_, same, stuck_error_unplaced tokens stuck⟩

end TypedImp
