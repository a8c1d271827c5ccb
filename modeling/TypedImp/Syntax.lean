/-
**Syntax trees.**

Expressions, statements and programs. Operators, names and literal values are texts, and a tree need
not be one that can be read from a source: an assignment may have any target, an operator may be
unknown.

* `Expr.kind`, `Stmt.kind` — the outermost form of a tree.
-/

import TypedImp.DataType

namespace TypedImp

/-- The side of its operand on which a one-sided operator stands. -/
inductive Fixity
  | before
  | behind
  deriving DecidableEq, Repr

/-- Expressions. -/
inductive Expr
  | literal (type : DataType) (value : String)
  | identifier (name : String)
  | assign (operator : String) (target value : Expr)
  | binary (operator : String) (left right : Expr)
  | unary (operator : String) (fixity : Fixity) (operand : Expr)
  | call (callee : String) (arguments : List Expr)
  deriving Repr

/-- The outermost form of an expression. -/
inductive Expr.Kind
  | literal
  | identifier
  | assignment
  | binary
  | unary
  | functionCall
  deriving DecidableEq, Repr

/-- The outermost form of an expression. -/
def Expr.kind : Expr → Expr.Kind
  | literal _ _ => .literal
  | identifier _ => .identifier
  | assign _ _ _ => .assignment
  | binary _ _ _ => .binary
  | unary _ _ _ => .unary
  | call _ _ => .functionCall

/-- A parameter of a function. -/
structure Parameter where
  name : String
  type : DataType
  deriving DecidableEq, Repr

mutual

/-- Statements. -/
inductive Stmt
  | variableDecl (type : DataType) (name : String) (initializer : Expr)
  | functionDecl (returnType : DataType) (name : String) (parameters : List Parameter)
      (body : List Stmt)
  | expression (value : Expr)
  | returnValue (value : Option Expr)
  | ifChain (condition : Expr) (body : List Stmt) (alternatives : Alternatives)
  | whileLoop (condition : Expr) (body : List Stmt)
  | forLoop (initializer : Stmt) (condition increment : Expr) (body : List Stmt)
  | breakLoop
  | continueLoop

/-- What may follow the body of an `if`: nothing, a last body, or a further condition with its body
and what follows that. -/
inductive Alternatives
  | none
  | otherwise (body : List Stmt)
  | elseIf (condition : Expr) (body : List Stmt) (alternatives : Alternatives)

end

/-- The outermost form of a statement. -/
inductive Stmt.Kind
  | variableDeclaration
  | functionDeclaration
  | expressionStatement
  | returnStatement
  | ifStatement
  | whileLoop
  | forLoop
  | controlFlowStatement
  deriving DecidableEq, Repr

/-- The outermost form of a statement. -/
def Stmt.kind : Stmt → Stmt.Kind
  | variableDecl _ _ _ => .variableDeclaration
  | functionDecl _ _ _ _ => .functionDeclaration
  | expression _ => .expressionStatement
  | returnValue _ => .returnStatement
  | ifChain _ _ _ => .ifStatement
  | whileLoop _ _ => .whileLoop
  | forLoop _ _ _ _ => .forLoop
  | breakLoop | continueLoop => .controlFlowStatement

/-- A program: its top-level statements in source order. -/
structure Program where
  body : List Stmt

/-- The forms of the top-level statements, in order. -/
def Program.kinds (program : Program) : List Stmt.Kind :=
  program.body.map Stmt.kind

end TypedImp
