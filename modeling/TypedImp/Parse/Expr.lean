/-
**Reading expressions.**

An expression is a start, read by the handler of its first token, and then the operators that bind
at least as tightly as a minimum asks. The two increment operators behind an operand bind whatever
the minimum. An assignment belongs to the start: it is read when an identifier is followed by an
assigning operator, and its value is a whole expression.

* `readExpr` — an expression with a given minimum.
* `readStart` — the start of an expression by a given handler.
* `readCall` — the arguments of a call whose callee is read already.
-/

import TypedImp.Operator
import TypedImp.Parse.Reading
import TypedImp.Parse.Tables
import TypedImp.Syntax

namespace TypedImp

open Reader (accept)

/-- The type of the literals that a token kind makes. -/
def literalType? : Token.Kind → Option DataType
  | .int => some .int
  | .float => some .float
  | .string => some .string
  | .boolean => some .boolean
  | _ => none

/-- Reads a literal; its value is the lexeme as it stands. -/
def readLiteral : Reader Expr :=
  accept (fun token => (literalType? token.kind).map (Expr.literal · token.lexeme)) "literal"

mutual

/-- Reads an expression whose operators have at least the left power `minimum`. -/
def readExpr (tables : Tables) (minimum : Nat) (tokens : List Token) :
    Except Stuck (Reading Expr tokens.length) := do
  match tokens.head?.bind tables.exprHandler? with
  | none => .error ⟨"expression", tokens⟩
  | some handler =>
    let ⟨start, behind, shorter⟩ ← readStart tables handler tokens
    let ⟨whole, rest, _⟩ ← readOperators tables minimum start behind
    return ⟨whole, rest, by omega⟩
termination_by 8 * tokens.length + 2

/-- Reads the start of an expression by a handler. -/
def readStart (tables : Tables) (handler : ExprHandler) (tokens : List Token) :
    Except Stuck (Reading Expr tokens.length) :=
  match handler with
  | .literal => readLiteral tokens
  | .identifier => readIdentifier tables tokens
  | .grouping => readGrouping tables tokens
  | .increment => readIncrement tables tokens
termination_by 8 * tokens.length + 1

/-- Reads an identifier, with the call or the assignment that it starts. -/
def readIdentifier (tables : Tables) (tokens : List Token) :
    Except Stuck (Reading Expr tokens.length) := do
  let ⟨name, behind, shorter⟩ ← Reader.kind .identifier "identifier" tokens
  if startsWith "(" behind then
    let ⟨call, rest, second⟩ ← readCall tables name.lexeme behind
    return ⟨call, rest, shorter_of_two shorter second⟩
  else
    match behind, shorter with
    | [], shorter => return ⟨.identifier name.lexeme, [], shorter⟩
    | operator :: behind, (shorter : behind.length + 1 < tokens.length) =>
      if isAssignment operator.lexeme then
        let ⟨value, rest, _⟩ ← readExpr tables 0 behind
        return ⟨.assign operator.lexeme (.identifier name.lexeme) value, rest, by omega⟩
      else return ⟨.identifier name.lexeme, operator :: behind, shorter⟩
termination_by 8 * tokens.length

/-- Reads a parenthesised expression; the parentheses leave no trace. -/
def readGrouping (tables : Tables) (tokens : List Token) :
    Except Stuck (Reading Expr tokens.length) := do
  let ⟨_, inside, first⟩ ← accept (Option.guard (·.lexeme == "(")) "expression" tokens
  let ⟨inner, behind, second⟩ ← readExpr tables 0 inside
  let ⟨_, rest, third⟩ ← Reader.lexeme ")" behind
  return ⟨inner, rest, shorter_of_three first second third⟩
termination_by 8 * tokens.length

/-- Reads an increment operator and its operand. -/
def readIncrement (tables : Tables) (tokens : List Token) :
    Except Stuck (Reading Expr tokens.length) := do
  let ⟨operator, behind, first⟩ ← accept (Option.guard (isIncrement ·.lexeme)) "expression" tokens
  let ⟨operand, rest, second⟩ ← readExpr tables BindingPower.increment.right behind
  return ⟨.unary operator.lexeme .before operand, rest, shorter_of_two first second⟩
termination_by 8 * tokens.length

/-- Reads the arguments of a call to `callee` and the parentheses around them. -/
def readCall (tables : Tables) (callee : String) (tokens : List Token) :
    Except Stuck (Reading Expr tokens.length) := do
  let ⟨_, inside, first⟩ ← Reader.lexeme "(" tokens
  if startsWith ")" inside then
    let ⟨_, rest, second⟩ ← Reader.lexeme ")" inside
    return ⟨.call callee [], rest, shorter_of_two first second⟩
  else
    let ⟨arguments, behind, second⟩ ← readArguments tables inside
    let ⟨_, rest, third⟩ ← Reader.lexeme ")" behind
    return ⟨.call callee arguments, rest, shorter_of_three first second third⟩
termination_by 8 * tokens.length

/-- Reads one or more expressions with commas between them. -/
def readArguments (tables : Tables) (tokens : List Token) :
    Except Stuck (Reading (List Expr) tokens.length) := do
  let ⟨argument, behind, shorter⟩ ← readExpr tables 0 tokens
  match behind, shorter with
  | [], shorter => return ⟨[argument], [], shorter⟩
  | comma :: behind, (shorter : behind.length + 1 < tokens.length) =>
    if comma.lexeme == "," then
      let ⟨arguments, rest, _⟩ ← readArguments tables behind
      return ⟨argument :: arguments, rest, by omega⟩
    else return ⟨[argument], comma :: behind, shorter⟩
termination_by 8 * tokens.length + 3

/-- Reads the operators behind `left` that have at least the left power `minimum`. -/
def readOperators (tables : Tables) (minimum : Nat) (left : Expr) :
    (tokens : List Token) → Except Stuck (Reading Expr (tokens.length + 1))
  | [] => return ⟨left, [], Nat.lt_succ_self _⟩
  | operator :: behind => do
    if operator.kind ≠ .operator then
      return ⟨left, operator :: behind, Nat.lt_succ_self _⟩
    else if isIncrement operator.lexeme then
      let ⟨whole, rest, shorter⟩ ←
        readOperators tables minimum (.unary operator.lexeme .behind left) behind
      return ⟨whole, rest, Nat.lt_succ_of_lt shorter⟩
    else
      match BindingPower.of? operator.lexeme with
      | none => return ⟨left, operator :: behind, Nat.lt_succ_self _⟩
      | some power =>
        if power.left < minimum then
          return ⟨left, operator :: behind, Nat.lt_succ_self _⟩
        else
          let ⟨right, further, first⟩ ← readExpr tables power.right behind
          let ⟨whole, rest, second⟩ ←
            readOperators tables minimum (.binary operator.lexeme left right) further
          return ⟨whole, rest, Nat.lt_succ_of_lt (shorter_of_optional first second)⟩
termination_by tokens => 8 * tokens.length

end

end TypedImp
