/-
**Tokens.**

A token has a kind, a lexeme and the position of its first character. The kind and the lexeme are
independent: tokens need not come from a text.
-/

import TypedImp.Text.Position

namespace TypedImp

/-- The kinds of tokens. -/
inductive Token.Kind
  | keyword
  | type
  | identifier
  | operator
  | parenthesis
  | punctuation
  | brackets
  | string
  | int
  | float
  | boolean
  deriving DecidableEq, Repr

/-- The name of a kind. -/
def Token.Kind.name : Token.Kind → String
  | keyword => "Keyword"
  | type => "Type"
  | identifier => "Identifier"
  | operator => "Operator"
  | parenthesis => "Parenthesis"
  | punctuation => "Punctuation"
  | brackets => "Brackets"
  | string => "String"
  | int => "Int"
  | float => "Float"
  | boolean => "Boolean"

/-- A lexeme with its kind and the position of its first character. -/
structure Token where
  kind : Token.Kind
  lexeme : String
  position : Position
  deriving DecidableEq, Repr

/-- The form in which a message names the token. -/
def Token.describe (token : Token) : String :=
  token.kind.name ++ " `" ++ token.lexeme ++ "` at " ++ token.position.text

end TypedImp
