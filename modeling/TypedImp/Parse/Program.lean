/-
**Reading programs.**

A program is read statement by statement until the tokens run out. The first reader that is stuck
ends it.

* `parse` — the program of a list of tokens, or the error at the token in front of which the reader
  is stuck.
-/

import TypedImp.Parse.Stmt

namespace TypedImp

/-- Reads statements until no token is left. -/
def readProgram (tables : Tables) : List Token → Except Stuck (List Stmt)
  | [] => .ok []
  | token :: behind => do
    let ⟨stmt, rest, (_ : rest.length < behind.length + 1)⟩ ← readStmt tables (token :: behind)
    let body ← readProgram tables rest
    return stmt :: body
termination_by tokens => tokens.length

/-- The program of a list of tokens. -/
def parse (tokens : List Token) : Except ParseError Program :=
  match readProgram .standard tokens with
  | .ok body => .ok ⟨body⟩
  | .error stuck => .error (stuck.error tokens)

end TypedImp
