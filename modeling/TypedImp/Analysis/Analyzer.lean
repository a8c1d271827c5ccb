/-
**The state of an analysis.**

An analyzer holds the tree of scopes and the current scope, the queue of waiting expressions, the
control-flow context, and for the second pass the limit on nested calls and the calls under way. Its
operations may fail; the state is then left as it stands, with nothing undone.

* `Analysis` — computations on an analyzer.
* `withScope`, `withFrame` — run a computation inside a new scope or frame and come back.
* `checkOccurrence` — checks an expression that stands where the analyzer is.
-/

import TypedImp.Analysis.Check
import TypedImp.Analysis.Context

namespace TypedImp

/-- The calls under way: how many are nested, and which they are. -/
structure Activation where
  depth : Nat
  resolving : List Place
  deriving DecidableEq, Repr

/-- No calls under way. -/
def Activation.idle : Activation := ⟨0, []⟩

/-- The state of an analysis. The queue has its newest entry first. -/
structure Analyzer where
  limit : Nat
  scopes : ScopeTree
  current : ScopeId
  pending : List Pending
  context : ContextStack
  activation : Activation
  deriving Repr

/-- How deeply calls may be nested unless a limit is given. -/
def defaultLimit : Nat := 256

/-- Computations on an analyzer. -/
abbrev Analysis : Type → Type :=
  EStateM SemanticError Analyzer

namespace Analyzer

/-- The analyzer at the start of an analysis. -/
def start (limit : Nat) : Analyzer where
  limit := limit
  scopes := .initial
  current := ScopeTree.globalId
  pending := []
  context := .empty
  activation := .idle

/-- The site of an expression that stands where the analyzer is. -/
def site (analyzer : Analyzer) : Site :=
  ⟨analyzer.current, analyzer.scopes.declarations⟩

/-- Puts an expression on the queue. -/
def defer (occurrence : Occurrence) (requirement : Requirement) : Analysis Unit :=
  modify fun analyzer =>
    { analyzer with pending := ⟨occurrence, analyzer.site, requirement⟩ :: analyzer.pending }

/-- Opens a scope inside the current one and makes it current; gives the scope that was current. -/
def enterScope (kind : ScopeKind) : Analysis ScopeId :=
  modifyGet fun analyzer =>
    let (id, scopes) := analyzer.scopes.addChild analyzer.current kind
    (analyzer.current, { analyzer with scopes := scopes, current := id })

/-- Makes a scope current. -/
def exitScope (id : ScopeId) : Analysis Unit :=
  modify fun analyzer => { analyzer with current := id }

/-- Changes the control-flow context. -/
def changeContext (change : ContextStack → ContextStack) : Analysis Unit :=
  modify fun analyzer => { analyzer with context := change analyzer.context }

/-- Runs a computation inside a new scope. -/
def withScope (kind : ScopeKind) (inside : Analysis Unit) : Analysis Unit := do
  let previous ← enterScope kind
  inside
  exitScope previous

/-- Runs a computation under a new frame. -/
def withFrame (frame : ContextFrame) (inside : Analysis Unit) : Analysis Unit := do
  changeContext (·.push frame)
  inside
  changeContext (·.exit)

/-- Changes the tree of scopes by an operation that may be refused. -/
def changeScopes (change : ScopeTree → ScopeId → Except SemanticError ScopeTree) :
    Analysis Unit := do
  let analyzer ← get
  let scopes ← MonadExcept.ofExcept (change analyzer.scopes analyzer.current)
  set { analyzer with scopes := scopes }

/-- Declares a variable in the current scope. -/
def declareVariable (name : String) (type : DataType) : Analysis Unit :=
  changeScopes fun scopes current => scopes.declareVariable current name type

/-- Declares a function in the current scope. -/
def declareFunction (name : String) (signature : Signature) : Analysis Unit :=
  changeScopes fun scopes current => scopes.declareFunction current name signature

/-- Checks an expression that stands in the current scope. -/
def checkOccurrence (occurrence : Occurrence) : Analysis Checked := fun analyzer =>
  match checkExpr analyzer.scopes analyzer.current occurrence.place occurrence.expr
    analyzer.pending with
  | .ok checked pending => .ok checked { analyzer with pending := pending }
  | .error error pending => .error error { analyzer with pending := pending }

end Analyzer

end TypedImp
