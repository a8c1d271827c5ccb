/-
**Reserved words.**

A word of the source is a statement keyword, the name of a type or a truth value if the table below
lists it, and an identifier otherwise.
-/

import TypedImp.Token.Basic

namespace TypedImp

/-- The reserved words with their kinds. -/
def reservedWords : List (String × Token.Kind) :=
  [("function", .keyword), ("if", .keyword), ("else", .keyword), ("while", .keyword),
    ("for", .keyword), ("return", .keyword), ("break", .keyword), ("continue", .keyword),
    ("int", .type), ("string", .type), ("boolean", .type), ("float", .type), ("char", .type),
    ("void", .type), ("null", .type),
    ("true", .boolean), ("false", .boolean)]

/-- The kind of a reserved word. -/
def reservedKind? (word : String) : Option Token.Kind :=
  reservedWords.lookup word

/-- The kind of any word. -/
def wordKind (word : String) : Token.Kind :=
  (reservedKind? word).getD .identifier

end TypedImp
