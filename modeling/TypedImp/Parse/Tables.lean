/-
**Tables of handlers.**

An expression starts with a token whose kind selects a handler, and a keyword at the start of a
statement selects one by its lexeme. The tables can be filled freely; `Tables.standard` is the
grammar of the language.

* `ExprHandler` — the four ways to read the start of an expression.
* `StmtForm`, `StmtHandler` — the forms of statements, and the reader of any statement.
-/

import TypedImp.Token.Basic

namespace TypedImp

/-- The ways to read the start of an expression. -/
inductive ExprHandler
  | literal
  | identifier
  | grouping
  | increment
  deriving DecidableEq, Repr

/-- The forms of statements; a declaration is one of a function or else one of a variable. -/
inductive StmtForm
  | declaration
  | variableDecl
  | functionDecl
  | ifChain
  | whileLoop
  | forLoop
  | returnValue
  | control
  deriving DecidableEq, Repr

/-- A reader of any statement or of one form. -/
inductive StmtHandler
  | any
  | form (form : StmtForm)
  deriving DecidableEq, Repr

/-- Handlers for the starts of expressions, by token kind, and for statements, by keyword. -/
structure Tables where
  expressions : List (Token.Kind × ExprHandler)
  statements : List (String × StmtHandler)
  deriving DecidableEq, Repr

namespace Tables

/-- No handlers. -/
def empty : Tables :=
  ⟨[], []⟩

/-- The grammar of the language. -/
def standard : Tables where
  expressions :=
    [(.int, .literal), (.float, .literal), (.string, .literal), (.boolean, .literal),
      (.identifier, .identifier), (.parenthesis, .grouping), (.operator, .increment)]
  statements :=
    [("if", .form .ifChain), ("while", .form .whileLoop), ("for", .form .forLoop),
      ("return", .form .returnValue), ("break", .form .control), ("continue", .form .control)]

/-- Registers a handler for the expressions that start with a token kind, in place of any other. -/
def registerExpr (tables : Tables) (kind : Token.Kind) (handler : ExprHandler) : Tables :=
  { tables with expressions := (kind, handler) :: tables.expressions.filter (·.1 != kind) }

/-- Registers a handler for the statements that start with a keyword, in place of any other. -/
def registerStmt (tables : Tables) (keyword : String) (handler : StmtHandler) : Tables :=
  { tables with statements := (keyword, handler) :: tables.statements.filter (·.1 != keyword) }

/-- The handler for an expression that starts with a token. -/
def exprHandler? (tables : Tables) (token : Token) : Option ExprHandler :=
  tables.expressions.lookup token.kind

/-- The form of a statement that starts with a token, if the token is a keyword with one. A keyword
registered for any statement has none: its handler would only ask this table again. -/
def stmtForm? (tables : Tables) (token : Token) : Option StmtForm :=
  if token.kind = .keyword then
    match tables.statements.lookup token.lexeme with
    | some (.form form) => some form
    | some .any | none => none
  else none

end Tables

end TypedImp
