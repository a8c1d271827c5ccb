/-
**A parsing session.**

A session keeps a list of tokens, the part of it that is still to be read and the tables of
handlers, so that readers can be run one after another. A reader that succeeds moves the session
behind what it read; one that is stuck leaves the session in front of the token it could not read.
-/

import TypedImp.Parse.Stmt

namespace TypedImp

/-- The tokens of a session, those still to be read, and the tables in use. -/
structure Session where
  tokens : List Token
  rest : List Token
  tables : Tables
  deriving Repr

namespace Session

/-- A session in front of the first of its tokens. -/
def start (tokens : List Token) (tables : Tables) : Session :=
  ⟨tokens, tokens, tables⟩

/-- The token to be read next. -/
def current? (session : Session) : Option Token :=
  session.rest.head?

/-- The token `distance` places behind the next one. -/
def peek? (session : Session) (distance : Nat) : Option Token :=
  session.rest[distance]?

/-- Passes the next token, if there is one. -/
def advance (session : Session) : Session :=
  { session with rest := session.rest.tail }

/-- The position of the next token, or else of the last token. -/
def position (session : Session) : Position :=
  positionAt session.tokens session.rest

/-- The error that something else was expected at the next token. -/
def unexpected (session : Session) (expected : String) : ParseError :=
  Stuck.error session.tokens ⟨expected, session.rest⟩

/-- The next token, or else the error that something was expected. -/
def currentOr (session : Session) (expected : String) : Except ParseError Token :=
  match session.current? with
  | some token => .ok token
  | none => .error (session.unexpected expected)

/-- Runs a reader on the tokens still to be read. -/
def run {α : Type} (session : Session) (reader : Reader α) : Except ParseError α × Session :=
  match reader session.rest with
  | .ok reading => (.ok reading.value, { session with rest := reading.rest })
  | .error stuck => (.error (stuck.error session.tokens), { session with rest := stuck.rest })

/-- Runs a statement handler. -/
def runStmt (session : Session) (handler : StmtHandler) : Except ParseError Stmt × Session :=
  match handler with
  | .any => session.run (readStmt session.tables)
  | .form form => session.run (readForm session.tables form)

end Session

end TypedImp
