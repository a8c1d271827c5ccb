/-
**The statements to which the first pass comes.**

The first pass tells of a program only whether it fails and what it leaves behind. Here it also
writes down each statement when it comes to it, together with the analyzer as it stands there.
Writing down changes nothing else.

* `Visit` — a statement to which the pass has come.
* `recordStmt`, `recordStmts`, `recordProgram` — the first pass with a record of its visits.
* `Follows` — a computation with a record does what one without a record does.
* `forget_recordProgram` — **without its record, the recorded pass is the first pass.**
* `Program.visits` — the visits of the pass over a program, in the order in which they are made.
-/

import TypedImp.Proofs.FirstPass

namespace TypedImp

open Analyzer

/-! ### Computations with a record -/

/-- A statement to which the first pass comes, with its place and the analyzer at that moment. -/
structure Visit where
  place : Place
  stmt : Stmt
  analyzer : Analyzer

/-- An analyzer with the visits so far, the first one first. -/
structure Recorded where
  analyzer : Analyzer
  visits : List Visit

/-- Computations on an analyzer that record visits. -/
abbrev Recording : Type → Type :=
  EStateM SemanticError Recorded

/-- The same end without the record. -/
def forget {α : Type} :
    EStateM.Result SemanticError Recorded α → EStateM.Result SemanticError Analyzer α
  | .ok value after => .ok value after.analyzer
  | .error error after => .error error after.analyzer

/-- Runs a computation that makes no visits. -/
def unrecorded {α : Type} (walk : Analysis α) : Recording α := fun recorded =>
  match walk recorded.analyzer with
  | .ok value after => .ok value { recorded with analyzer := after }
  | .error error after => .error error { recorded with analyzer := after }

/-- Records that the pass has come to a statement. -/
def recordVisit (place : Place) (stmt : Stmt) : Recording Unit :=
  modify fun recorded =>
    { recorded with visits := recorded.visits ++ [⟨place, stmt, recorded.analyzer⟩] }

/-- Runs a computation inside a new scope. -/
def recordScope (kind : ScopeKind) (inside : Recording Unit) : Recording Unit := do
  let previous ← unrecorded (enterScope kind)
  inside
  unrecorded (exitScope previous)

/-- Runs a computation under a new frame. -/
def recordFrame (frame : ContextFrame) (inside : Recording Unit) : Recording Unit := do
  unrecorded (changeContext (·.push frame))
  inside
  unrecorded (changeContext (·.exit))

theorem recordScope_apply (kind : ScopeKind) (inside : Recording Unit) (recorded : Recorded) :
    recordScope kind inside recorded =
      match inside { recorded with analyzer := recorded.analyzer.opened kind } with
      | .ok _ after =>
        .ok () { after with analyzer := { after.analyzer with current := recorded.analyzer.current } }
      | .error error after => .error error after := by
  show (inside >>= fun _ => unrecorded (exitScope recorded.analyzer.current))
    { recorded with analyzer := recorded.analyzer.opened kind } = _
  rw [bind_apply]
  cases inside { recorded with analyzer := recorded.analyzer.opened kind } <;> rfl

theorem recordFrame_apply (frame : ContextFrame) (inside : Recording Unit) (recorded : Recorded) :
    recordFrame frame inside recorded =
      match inside { recorded with
        analyzer := { recorded.analyzer with context := recorded.analyzer.context.push frame } } with
      | .ok _ after => .ok () { after with
          analyzer := { after.analyzer with context := after.analyzer.context.exit } }
      | .error error after => .error error after := by
  show (inside >>= fun _ => unrecorded (changeContext (·.exit))) { recorded with
    analyzer := { recorded.analyzer with context := recorded.analyzer.context.push frame } } = _
  rw [bind_apply]
  cases inside { recorded with
    analyzer := { recorded.analyzer with context := recorded.analyzer.context.push frame } } <;> rfl

/-! ### The recorded pass -/

mutual

/-- Checks a statement and records the statements inside it. -/
def recordStmt (place : Place) : Stmt → Recording Unit
  | .functionDecl returnType name parameters body => do
    unrecorded (declareFunction name ⟨parameters, returnType⟩)
    recordScope (.function name) do
      unrecorded (declareParameters parameters)
      recordFrame .function (recordStmts (1 :: place) 0 body)
  | .ifChain condition body alternatives => do
    unrecorded (checkCondition (0 :: place) condition)
    recordScope .block (recordStmts (1 :: place) 0 body)
    recordAlternatives (2 :: place) alternatives
  | .whileLoop condition body => do
    unrecorded (checkCondition (0 :: place) condition)
    recordFrame .loop (recordScope .block (recordStmts (1 :: place) 0 body))
  | .forLoop initializer condition increment body =>
    recordFrame .loop do
      recordScope .block do
        recordVisit (0 :: place) initializer
        unrecorded (checkInitializer (0 :: place) initializer)
        unrecorded (checkCondition (1 :: place) condition)
        unrecorded (checkIncrement (2 :: place) increment)
        recordStmts (3 :: place) 0 body
  | .variableDecl type name initializer =>
    unrecorded (checkStmt place (.variableDecl type name initializer))
  | .expression value => unrecorded (checkStmt place (.expression value))
  | .returnValue value => unrecorded (checkStmt place (.returnValue value))
  | .breakLoop => unrecorded (checkStmt place .breakLoop)
  | .continueLoop => unrecorded (checkStmt place .continueLoop)

/-- Checks what follows the body of an `if` and records the statements inside it. -/
def recordAlternatives (place : Place) : Alternatives → Recording Unit
  | .none => unrecorded (checkAlternatives place .none)
  | .otherwise body => recordScope .block (recordStmts (1 :: place) 0 body)
  | .elseIf condition body alternatives => do
    unrecorded (checkCondition (0 :: place) condition)
    recordScope .block (recordStmts (1 :: place) 0 body)
    recordAlternatives (2 :: place) alternatives

/-- Checks the statements of a block, and records each one before it is checked. -/
def recordStmts (place : Place) (index : Nat) : List Stmt → Recording Unit
  | [] => unrecorded (checkStmts place index [])
  | stmt :: later => do
    recordVisit (index :: place) stmt
    recordStmt (index :: place) stmt
    recordStmts place (index + 1) later

end

/-- Checks the statements of a program and records them. -/
def recordProgram (program : Program) : Recording Unit :=
  recordStmts [] 0 program.body

/-- The visits of the first pass over a program, also when it fails. -/
def Program.visits (program : Program) (limit : Nat) : List Visit :=
  (finalState (recordProgram program) ⟨.start limit, []⟩).visits

/-! ### Recording changes nothing -/

/-- Without its record, the first computation does what the second one does. -/
def Follows {α : Type} (recording : Recording α) (walk : Analysis α) : Prop :=
  ∀ recorded, forget (recording recorded) = walk recorded.analyzer

namespace Follows

theorem unrecorded {α : Type} (walk : Analysis α) : Follows (unrecorded walk) walk := by
  intro recorded
  unfold TypedImp.unrecorded
  cases walk recorded.analyzer <;> rfl

theorem visit {rest : Recording Unit} {walk : Analysis Unit} (follows : Follows rest walk)
    (place : Place) (stmt : Stmt) :
    Follows (do recordVisit place stmt; rest) walk :=
  fun _ => follows _

theorem bind {first : Recording Unit} {next : Unit → Recording Unit} {walk : Analysis Unit}
    {further : Unit → Analysis Unit} (head : Follows first walk)
    (tail : ∀ nothing, Follows (next nothing) (further nothing)) :
    Follows (first >>= next) (walk >>= further) := by
  intro recorded
  have same := head recorded
  rw [bind_apply, bind_apply, ← same]
  cases first recorded with
  | ok nothing after => exact tail nothing after
  | error error after => rfl

theorem withScope {inside : Recording Unit} {walk : Analysis Unit} (kind : ScopeKind)
    (follows : Follows inside walk) : Follows (recordScope kind inside) (withScope kind walk) := by
  intro recorded
  have same := follows { recorded with analyzer := recorded.analyzer.opened kind }
  rw [recordScope_apply, withScope_apply, ← same]
  cases inside { recorded with analyzer := recorded.analyzer.opened kind } <;> rfl

theorem withFrame {inside : Recording Unit} {walk : Analysis Unit} (frame : ContextFrame)
    (follows : Follows inside walk) :
    Follows (recordFrame frame inside) (withFrame frame walk) := by
  intro recorded
  have same := follows { recorded with
    analyzer := { recorded.analyzer with context := recorded.analyzer.context.push frame } }
  rw [recordFrame_apply, withFrame_apply, ← same]
  cases inside { recorded with
    analyzer := { recorded.analyzer with context := recorded.analyzer.context.push frame } } <;> rfl

end Follows

mutual

/-- **Recording a statement changes nothing in how it is checked.** -/
theorem follows_recordStmt (place : Place) :
    (stmt : Stmt) → Follows (recordStmt place stmt) (checkStmt place stmt)
  | .functionDecl returnType name parameters body => by
    rw [recordStmt, checkStmt]
    exact .bind (.unrecorded _) fun _ => .withScope _ (.bind (.unrecorded _) fun _ =>
      .withFrame _ (follows_recordStmts _ _ body))
  | .ifChain condition body alternatives => by
    rw [recordStmt, checkStmt]
    exact .bind (.unrecorded _) fun _ => .bind (.withScope _ (follows_recordStmts _ _ body)) fun _ =>
      follows_recordAlternatives _ alternatives
  | .whileLoop condition body => by
    rw [recordStmt, checkStmt]
    exact .bind (.unrecorded _) fun _ =>
      .withFrame _ (.withScope _ (follows_recordStmts _ _ body))
  | .forLoop initializer condition increment body => by
    rw [recordStmt, checkStmt]
    exact .withFrame _ (.withScope _ (.visit (.bind (.unrecorded _) fun _ =>
      .bind (.unrecorded _) fun _ => .bind (.unrecorded _) fun _ =>
        follows_recordStmts _ _ body) _ _))
  | .variableDecl .. | .expression .. | .returnValue .. | .breakLoop | .continueLoop => by
    rw [recordStmt]
    exact .unrecorded _

theorem follows_recordAlternatives (place : Place) :
    (alternatives : Alternatives) →
      Follows (recordAlternatives place alternatives) (checkAlternatives place alternatives)
  | .none => by
    rw [recordAlternatives]
    exact .unrecorded _
  | .otherwise body => by
    rw [recordAlternatives, checkAlternatives]
    exact .withScope _ (follows_recordStmts _ _ body)
  | .elseIf condition body alternatives => by
    rw [recordAlternatives, checkAlternatives]
    exact .bind (.unrecorded _) fun _ => .bind (.withScope _ (follows_recordStmts _ _ body)) fun _ =>
      follows_recordAlternatives _ alternatives

theorem follows_recordStmts (place : Place) (index : Nat) :
    (body : List Stmt) → Follows (recordStmts place index body) (checkStmts place index body)
  | [] => by
    rw [recordStmts]
    exact .unrecorded _
  | stmt :: later => by
    rw [recordStmts, checkStmts]
    exact .visit (.bind (follows_recordStmt _ stmt) fun _ => follows_recordStmts _ _ later) _ _

end

/-- **Without its record, the recorded pass over a program is the first pass.** -/
theorem forget_recordProgram (program : Program) (recorded : Recorded) :
    forget (recordProgram program recorded) = checkProgram program recorded.analyzer :=
  follows_recordStmts [] 0 program.body recorded

end TypedImp
