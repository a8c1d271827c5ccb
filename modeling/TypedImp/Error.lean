/-
**What the front end reports.**

Each of the three stages stops at its first failure: a character that starts no token, a token that
no statement or expression allows, or a violation of the rules on names and types. A failure is kept
as its cause; the wording is in the functions `message` and `tip?`, which show names between double
quotes in a message and as they are in a tip.
-/

import TypedImp.DataType
import TypedImp.Text.Position
import TypedImp.Text.Quoted

namespace TypedImp

open Text (quoted quotedChar)

/-- A character that starts no token. -/
structure ScanError where
  character : Char
  position : Position
  deriving DecidableEq, Repr

/-- The text of a scan error. -/
def ScanError.message (error : ScanError) : String :=
  "unrecognised character " ++ quotedChar error.character ++ " at " ++ error.position.text

/-- A place in the tokens where something else was expected. -/
structure ParseError where
  expected : String
  found : String
  position : Position
  deriving DecidableEq, Repr

/-- The text of a parse error. -/
def ParseError.message (error : ParseError) : String :=
  "expected " ++ error.expected ++ ", found `" ++ error.found ++ "` at " ++ error.position.text

/-- A violation of the rules on names, types and control flow. -/
inductive SemanticError
  | variableAlreadyDeclared (name : String)
  | functionAlreadyDeclared (function : String)
  | variableNotDeclared (name : String)
  | functionNotDeclared (function : String)
  | typeMismatch (expected received : DataType)
  | argumentMismatch (function : String) (position : Nat) (expected received : DataType)
  | unexpectedArguments (function : String) (expected received : Nat)
  | missingArguments (function : String) (expected received : Nat)
  | nonBooleanCondition (received : DataType)
  | invalidForInitializer
  | invalidForIncrement
  | nonNumericOperand (operator : String) (received : DataType)
  | nonBooleanOperand (operator : String) (received : DataType)
  | invalidAssignmentTarget
  | invalidOperator (operator : String)
  | invalidBreak
  | invalidContinue
  | returnOutsideFunction
  | missingReturnValue (expected : DataType)
  | resolutionCycle (function : String)
  | resolutionTooDeep (limit : Nat)
  | unrecognisedNode (node : String)
  deriving DecidableEq, Repr

namespace SemanticError

/-- The name under which a violation is reported. -/
def name : SemanticError → String
  | variableAlreadyDeclared _ => "VariableAlreadyDeclared"
  | functionAlreadyDeclared _ => "FunctionAlreadyDeclared"
  | variableNotDeclared _ => "VariableNotDeclared"
  | functionNotDeclared _ => "FunctionNotDeclared"
  | typeMismatch _ _ => "TypeMatchError"
  | argumentMismatch _ _ _ _ => "ArgumentTypeMatchError"
  | unexpectedArguments _ _ _ => "UnexpectedArguments"
  | missingArguments _ _ _ => "MissingArguments"
  | nonBooleanCondition _ => "NonBooleanCondition"
  | invalidForInitializer => "InvalidForInitializer"
  | invalidForIncrement => "InvalidForIncrement"
  | nonNumericOperand _ _ => "NonNumericOperand"
  | nonBooleanOperand _ _ => "NonBooleanOperand"
  | invalidAssignmentTarget => "InvalidAssignmentTarget"
  | invalidOperator _ => "InvalidOperator"
  | invalidBreak => "InvalidBreak"
  | invalidContinue => "InvalidContinue"
  | returnOutsideFunction => "ReturnOutsideFunction"
  | missingReturnValue _ => "MissingReturnValue"
  | resolutionCycle _ => "ResolutionCycle"
  | resolutionTooDeep _ => "ResolutionTooDeep"
  | unrecognisedNode _ => "UnrecognisedNode"

/-- What was expected and what was received, as a message ends. -/
def contrast (expected received : String) : String :=
  "expected " ++ expected ++ ", received " ++ received

/-- The text of a violation. -/
def message : SemanticError → String
  | variableAlreadyDeclared name => "variable " ++ quoted name ++ " already declared"
  | functionAlreadyDeclared function => "function " ++ quoted function ++ " already declared"
  | variableNotDeclared name => "variable " ++ quoted name ++ " not declared"
  | functionNotDeclared function => "function " ++ quoted function ++ " not declared"
  | typeMismatch expected received =>
    "types do not match: " ++ contrast expected.name received.name
  | argumentMismatch function position expected received =>
    "argument " ++ toString position ++ " of " ++ quoted function ++ " does not match: "
      ++ contrast expected.name received.name
  | unexpectedArguments function expected received =>
    "unexpected arguments to " ++ quoted function ++ ": "
      ++ contrast (toString expected) (toString received)
  | missingArguments function expected received =>
    "missing arguments to " ++ quoted function ++ ": "
      ++ contrast (toString expected) (toString received)
  | nonBooleanCondition received => "condition must be boolean, received " ++ received.name
  | invalidForInitializer => "for loop initializer must be a variable declaration"
  | invalidForIncrement => "for loop increment must be `++` or `--`"
  | nonNumericOperand operator received =>
    "operator " ++ quoted operator ++ " requires numeric operands, received " ++ received.name
  | nonBooleanOperand operator received =>
    "operator " ++ quoted operator ++ " requires boolean operands, received " ++ received.name
  | invalidAssignmentTarget => "left hand side of an assignment must be an identifier"
  | invalidOperator operator => "invalid operator " ++ quoted operator
  | invalidBreak => "`break` outside of a loop or switch"
  | invalidContinue => "`continue` outside of a loop"
  | returnOutsideFunction => "`return` outside of a function"
  | missingReturnValue expected => "missing return value in function returning " ++ expected.name
  | resolutionCycle function => "call to " ++ quoted function ++ " requires resolving itself"
  | resolutionTooDeep limit => "call resolution exceeded depth " ++ toString limit
  | unrecognisedNode node => "unrecognised node " ++ quoted node

/-- The advice that goes with a violation, if there is any. -/
def tip? : SemanticError → Option String
  | variableAlreadyDeclared name =>
    some ("`" ++ name ++ "` is already declared in this scope, "
      ++ "pick another name or declare it in a nested block")
  | functionAlreadyDeclared function => some ("Function `" ++ function ++ "` already declared")
  | variableNotDeclared name => some ("Declare `" ++ name ++ "` before using it")
  | functionNotDeclared function =>
    some ("No function named `" ++ function ++ "` is visible here")
  | unexpectedArguments _ expected received | missingArguments _ expected received =>
    some ("Expected " ++ toString expected ++ " arguments, received " ++ toString received)
  | argumentMismatch _ _ expected received | typeMismatch expected received =>
    some ("Expected type `" ++ expected.name ++ "`, received `" ++ received.name ++ "`")
  | nonBooleanCondition _ => some "Compare the value to produce a boolean"
  | invalidForIncrement => some "Use `i++`, `i--`, `++i` or `--i`"
  | missingReturnValue expected => some ("Return a value of type `" ++ expected.name ++ "`")
  | unrecognisedNode _ => some "The parser produced a node the analyzer does not handle"
  | nonNumericOperand _ _ | nonBooleanOperand _ _ | invalidForInitializer | invalidAssignmentTarget
  | invalidOperator _ | invalidBreak | invalidContinue | returnOutsideFunction | resolutionCycle _
  | resolutionTooDeep _ => none

end SemanticError

/-- The failure of any one of the three stages. -/
inductive Failure
  | scan (error : ScanError)
  | parse (error : ParseError)
  | semantic (error : SemanticError)
  deriving DecidableEq, Repr

/-- The text of a failure is that of the stage that failed. -/
def Failure.message : Failure → String
  | scan error => error.message
  | parse error => error.message
  | semantic error => error.message

end TypedImp
