/-
**The second pass.**

Once all functions are declared, every expression has a type at its site, found by following its
calls. A call counts as under way while its arguments are resolved; calls may be nested only as deep
as the limit allows, and a call that is under way already is a cycle.

* `resolveType` — the type of an expression at a site.
* `resolvePending` — resolves an entry of the queue and tests its requirement.
* `Analyzer.drain` — resolves the whole queue.
* `analyze` — both passes over a program.
-/

import TypedImp.Analysis.Statements

namespace TypedImp

/-- Computations that follow calls. -/
abbrev Resolving : Type → Type :=
  EStateM SemanticError Activation

namespace Activation

/-- One more call under way. -/
def enter (activation : Activation) (place : Place) : Activation :=
  ⟨activation.depth + 1, place :: activation.resolving⟩

/-- One call less under way. -/
def leave (activation : Activation) (place : Place) : Activation :=
  ⟨activation.depth - 1, activation.resolving.erase place⟩

end Activation

/-- Runs a computation while the call at `place` is under way, and takes the call back however the
computation ends. -/
def during {α : Type} (place : Place) (inside : Resolving α) : Resolving α := fun activation =>
  match inside (activation.enter place) with
  | .ok value after => .ok value (after.leave place)
  | .error error after => .error error (after.leave place)

/-- Refuses a call that is nested too deep or is under way already. -/
def admitCall (limit : Nat) (place : Place) (callee : String) : Resolving Unit := do
  let activation ← get
  if limit ≤ activation.depth then throw (.resolutionTooDeep limit)
  if place ∈ activation.resolving then throw (.resolutionCycle callee)

/-- The signature of a function that is called with `received` arguments. -/
def calledSignature (tree : ScopeTree) (scope : ScopeId) (callee : String) (received : Nat) :
    Except SemanticError Signature :=
  match tree.lookupFunction scope callee with
  | none => .error (.functionNotDeclared callee)
  | some signature =>
    let expected := signature.parameters.length
    if expected < received then .error (.unexpectedArguments callee expected received)
    else if received < expected then .error (.missingArguments callee expected received)
    else .ok signature

mutual

/-- The type of an expression as seen from a site. -/
def resolveType (tree : ScopeTree) (limit : Nat) (site : Site) (place : Place) :
    Expr → Resolving DataType
  | .literal type _ => return type
  | .identifier name =>
    MonadExcept.ofExcept
      (variableType name (tree.lookupVariableBefore site.scope name site.declarations))
  | .assign operator target value => do
    let expected ← MonadExcept.ofExcept (assignedType operator target
      (tree.lookupVariableBefore site.scope · site.declarations))
    let received ← resolveType tree limit site (1 :: place) value
    if received ≠ expected then throw (.typeMismatch expected received)
    return expected
  | .binary operator left right => do
    let leftType ← resolveType tree limit site (0 :: place) left
    let rightType ← resolveType tree limit site (1 :: place) right
    MonadExcept.ofExcept (binaryResult operator leftType rightType)
  | .unary _ _ operand => resolveType tree limit site (0 :: place) operand
  | .call callee arguments => do
    admitCall limit place callee
    during place do
      let signature ← MonadExcept.ofExcept
        (calledSignature tree site.scope callee arguments.length)
      resolveArguments tree limit site place callee 0 arguments signature.parameters
      return signature.returnType

/-- Tests the arguments of a call to `callee` against its parameters, from the argument number
`index` on. -/
def resolveArguments (tree : ScopeTree) (limit : Nat) (site : Site) (place : Place)
    (callee : String) (index : Nat) : List Expr → List Parameter → Resolving Unit
  | argument :: arguments, parameter :: parameters => do
    let received ← resolveType tree limit site (index :: place) argument
    if received ≠ parameter.type then
      throw (.argumentMismatch callee (index + 1) parameter.type received)
    resolveArguments tree limit site place callee (index + 1) arguments parameters
  | _, _ => return

end

/-- The type of the other side of a binary operator. -/
def resolveOther (tree : ScopeTree) (limit : Nat) (site : Site) : OtherSide → Resolving DataType
  | .known type => return type
  | .waiting occurrence => resolveType tree limit site occurrence.place occurrence.expr

/-- Resolves an entry of the queue and tests its requirement. -/
def resolvePending (tree : ScopeTree) (limit : Nat) (entry : Pending) : Resolving Unit := do
  let received ← resolveType tree limit entry.site entry.occurrence.place entry.occurrence.expr
  match entry.requirement with
  | .bare => return
  | .assignTo _ expected | .returnValue expected =>
    MonadExcept.ofExcept (expectType expected received)
  | .binaryOperand operator other waitsLeft =>
    let other ← resolveOther tree limit entry.site other
    discard <| MonadExcept.ofExcept
      (if waitsLeft then binaryResult operator received other
        else binaryResult operator other received)
  | .condition => MonadExcept.ofExcept (expectCondition received)
  | .numericOperand operator => MonadExcept.ofExcept (expectNumeric operator received)

namespace Analyzer

/-- Runs a computation that follows calls in the tree of scopes as it is now. -/
def followCalls {α : Type} (inside : ScopeTree → Nat → Resolving α) : Analysis α := fun analyzer =>
  match inside analyzer.scopes analyzer.limit analyzer.activation with
  | .ok value activation => .ok value { analyzer with activation := activation }
  | .error error activation => .error error { analyzer with activation := activation }

/-- Takes entries off the queue one after another and resolves each. -/
def drainEach : List Pending → Analysis Unit
  | [] => return
  | entry :: older => do
    modify fun analyzer => { analyzer with pending := older }
    followCalls fun tree limit => resolvePending tree limit entry
    drainEach older

/-- Empties the queue, the newest entry first. An entry that fails is off the queue already, and the
older ones stay on it. -/
def drain : Analysis Unit := do
  drainEach (← get).pending

end Analyzer

/-- Both passes over a program; gives the finished tree of scopes. -/
def analyze (program : Program) (limit : Nat) : Except SemanticError ScopeTree :=
  match (do checkProgram program; Analyzer.drain : Analysis Unit) (.start limit) with
  | .ok _ analyzer => .ok analyzer.scopes
  | .error error _ => .error error

end TypedImp
