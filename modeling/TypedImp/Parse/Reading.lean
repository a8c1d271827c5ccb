/-
**Reading from a list of tokens.**

A reader looks at the tokens that are left. It succeeds with a value and the tokens behind what it
read, which are fewer than before, or it is stuck in front of some token: then it says what it
expected there. Progress is part of a reader's type, and the recursion of the grammar rests on it.

* `accept` — reads one token that passes a test; every other reader is built from it.
* `Stuck.error` — the parse error of a reader that is stuck. Behind the last token it stands at the
  position of the last token.
-/

import TypedImp.Error
import TypedImp.Token.Basic

namespace TypedImp

/-- Where a reader is stuck: what it expected, and the tokens it did not read. -/
structure Stuck where
  expected : String
  rest : List Token
  deriving DecidableEq, Repr

/-- A value read, with the tokens left, of which there are fewer than `bound`. -/
structure Reading (α : Type) (bound : Nat) where
  value : α
  rest : List Token
  shorter : rest.length < bound

/-- A reader of at least one token. -/
abbrev Reader (α : Type) : Type :=
  (tokens : List Token) → Except Stuck (Reading α tokens.length)

section Progress

variable {tokens behind further rest : List Token}

/-- Two readers one after the other make progress. -/
theorem shorter_of_two (first : behind.length < tokens.length)
    (second : rest.length < behind.length) : rest.length < tokens.length :=
  Nat.lt_trans second first

/-- So do three. -/
theorem shorter_of_three (first : behind.length < tokens.length)
    (second : further.length < behind.length) (third : rest.length < further.length) :
    rest.length < tokens.length :=
  shorter_of_two first (shorter_of_two second third)

/-- A reader makes progress, even if one behind it may read nothing. -/
theorem shorter_of_optional (first : behind.length < tokens.length)
    (second : rest.length < behind.length + 1) : rest.length < tokens.length + 1 :=
  Nat.lt_trans second (Nat.succ_lt_succ first)

end Progress

/-- The position of the first token left, or else of the last of all tokens. -/
def positionAt (tokens rest : List Token) : Position :=
  match rest.head?.or tokens.getLast? with
  | some token => token.position
  | none => .start

/-- The lexeme of the first token left, or else a phrase for the end of the tokens. -/
def foundAt (rest : List Token) : String :=
  match rest.head? with
  | some token => token.lexeme
  | none => "end of input"

/-- The error of a reader of `tokens` that is stuck. -/
def Stuck.error (tokens : List Token) (stuck : Stuck) : ParseError :=
  ⟨stuck.expected, foundAt stuck.rest, positionAt tokens stuck.rest⟩

/-- Whether the first token left has the given lexeme. -/
def startsWith (lexeme : String) (tokens : List Token) : Bool :=
  match tokens with
  | token :: _ => token.lexeme == lexeme
  | [] => false

namespace Reader

/-- Reads one token that passes `test`. -/
def accept {α : Type} (test : Token → Option α) (expected : String) : Reader α
  | [] => .error ⟨expected, []⟩
  | token :: rest =>
    match test token with
    | some value => .ok ⟨value, rest, Nat.lt_succ_self _⟩
    | none => .error ⟨expected, token :: rest⟩

/-- Reads a token with the given lexeme, of any kind. -/
def lexeme (lexeme : String) : Reader Token :=
  accept (Option.guard (·.lexeme == lexeme)) ("`" ++ lexeme ++ "`")

/-- Reads a token of the given kind, with any lexeme. -/
def kind (kind : Token.Kind) (expected : String) : Reader Token :=
  accept (Option.guard (·.kind == kind)) expected

/-- Reads the keyword of a type; `expected` says what the type is for. -/
def dataType (expected : String) : Reader DataType :=
  accept (fun token => if token.kind = .type then DataType.ofName? token.lexeme else none) expected

end Reader

end TypedImp
