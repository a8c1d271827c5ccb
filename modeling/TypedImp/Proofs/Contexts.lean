/-
**The control-flow context is lexical.**

Whether `break` and `continue` are allowed is kept on a stack of frames, and the return type is found
by the name of a function in the tree of scopes. Both are what the text of the program shows at the
statement: what encloses it.

* `Encloser`, `inLoop`, `returnType?` — what encloses a statement, and what it says about control
  flow.
* `Program.statements` — all statements of a program in source order, with what encloses them.
* `Analyzer.StandsIn` — the analyzer stands inside given enclosers. Walking on and going inside
  blocks, loops and functions lead to the enclosers there (`StandsIn.passes`, `StandsIn.block`,
  `StandsIn.loop`, `StandsIn.function`).
* `records_recordStmt`, `records_recordStmts` — the pass comes to the statements in source order,
  and stands each time inside what encloses them.
* `visits_lexical` — **at every statement to which the first pass comes, control flow is that of the
  enclosers of the statement.**
-/

import TypedImp.Proofs.Recording
import TypedImp.Proofs.WellTyped

namespace TypedImp

open Analyzer

/-! ### What encloses a statement -/

/-- What a statement may stand in, as far as control flow is concerned. -/
inductive Encloser
  /-- A `while` or a `for`. -/
  | loop
  /-- The declaration of a function with the return type that is written there. -/
  | function (returnType : DataType)
  deriving DecidableEq, Repr

/-- Whether the nearest encloser is a loop. -/
def inLoop : List Encloser → Bool
  | .loop :: _ => true
  | .function _ :: _ | [] => false

/-- The return type of the nearest function. -/
def returnType? : List Encloser → Option DataType
  | .loop :: outer => returnType? outer
  | .function returnType :: _ => some returnType
  | [] => none

/-- A statement in a program, with its place and its enclosers, the nearest one first. -/
structure Located where
  place : Place
  stmt : Stmt
  enclosers : List Encloser

mutual

/-- The statements inside a statement. -/
def Stmt.statements (enclosers : List Encloser) (place : Place) : Stmt → List Located
  | .functionDecl returnType _ _ body =>
    bodyStatements (.function returnType :: enclosers) (1 :: place) 0 body
  | .ifChain _ body alternatives =>
    bodyStatements enclosers (1 :: place) 0 body ++
      alternatives.statements enclosers (2 :: place)
  | .whileLoop _ body => bodyStatements (.loop :: enclosers) (1 :: place) 0 body
  | .forLoop initializer _ _ body =>
    ⟨0 :: place, initializer, .loop :: enclosers⟩ ::
      (initializer.statements (.loop :: enclosers) (0 :: place) ++
        bodyStatements (.loop :: enclosers) (3 :: place) 0 body)
  | .variableDecl _ _ _ | .expression _ | .returnValue _ | .breakLoop | .continueLoop => []

/-- The statements inside what follows the body of an `if`. -/
def Alternatives.statements (enclosers : List Encloser) (place : Place) :
    Alternatives → List Located
  | .none => []
  | .otherwise body => bodyStatements enclosers (1 :: place) 0 body
  | .elseIf _ body alternatives =>
    bodyStatements enclosers (1 :: place) 0 body ++
      alternatives.statements enclosers (2 :: place)

/-- The statements of a block, each followed by those inside it. -/
def bodyStatements (enclosers : List Encloser) (place : Place) (index : Nat) :
    List Stmt → List Located
  | [] => []
  | stmt :: later =>
    ⟨index :: place, stmt, enclosers⟩ :: (stmt.statements enclosers (index :: place) ++
      bodyStatements enclosers place (index + 1) later)

end

/-- All statements of a program in source order. -/
def Program.statements (program : Program) : List Located :=
  bodyStatements [] [] 0 program.body

/-! ### Standing inside enclosers -/

/-- The analyzer stands somewhere inside the enclosers. -/
def Analyzer.StandsIn (analyzer : Analyzer) (enclosers : List Encloser) : Prop :=
  ∃ around, analyzer.Stands around ∧ around.inLoop = inLoop enclosers ∧
    around.returnType = returnType? enclosers

namespace Analyzer.StandsIn

variable {analyzer middle : Analyzer} {enclosers : List Encloser}

theorem start (limit : Nat) : (start limit).StandsIn [] :=
  ⟨.top [], stands_start limit [], rfl, rfl⟩

/-- **Behind a part of the walk the enclosers are the same.** -/
theorem passes {bindings : List (String × DataType)} {signatures : List (String × Signature)}
    {α : Type} {walk : Analysis α} {value : α} (stands : analyzer.StandsIn enclosers)
    (pass : FirstPass bindings signatures walk) (ended : walk analyzer = .ok value middle) :
    middle.StandsIn enclosers := by
  obtain ⟨around, stands, loop, returns⟩ := stands
  exact ⟨around.declare bindings, stands.passes (pass.passes stands.sound.inRange ended), loop,
    returns⟩

theorem block (stands : analyzer.StandsIn enclosers) :
    (analyzer.opened .block).StandsIn enclosers := by
  obtain ⟨around, stands, loop, returns⟩ := stands
  exact ⟨around.enter [] [], stands.opened [], loop, returns⟩

theorem loop (stands : analyzer.StandsIn enclosers) :
    Analyzer.StandsIn { analyzer with context := analyzer.context.push .loop }
      (.loop :: enclosers) := by
  obtain ⟨around, stands, _, returns⟩ := stands
  exact ⟨around.enterLoop, stands.enterLoop, rfl, returns⟩

/-- **Inside a function** that was just declared, behind its parameters. -/
theorem function {name : String} {parameters : List Parameter} {returnType : DataType}
    {inside : Analyzer} (stands : analyzer.StandsIn enclosers)
    (declared : declareFunction name ⟨parameters, returnType⟩ analyzer = .ok () middle)
    (entered : declareParameters parameters (middle.opened (.function name)) = .ok () inside) :
    Analyzer.StandsIn { inside with context := inside.context.push .function }
      (.function returnType :: enclosers) := by
  obtain ⟨around, stands, _⟩ := stands
  have inRange := stands.sound.inRange
  obtain ⟨scope, found, named⟩ := functionNamed?_declareFunction inRange declared
  have behind := stands.passes ((FirstPass.declareFunction _ _).passes inRange declared)
  have opened := behind.opened_function found named []
  have within := opened.passes
    ((FirstPass.declareParameters parameters).passes opened.sound.inRange entered)
  exact ⟨_, within.enterFunction, rfl, rfl⟩

end Analyzer.StandsIn

/-- **At a visit the first pass is at the statement, and control flow there is that of its
enclosers.** -/
structure Visit.Agrees (visit : Visit) (located : Located) : Prop where
  place : visit.place = located.place
  stmt : visit.stmt = located.stmt
  breaks : visit.analyzer.context.allowsBreak = inLoop located.enclosers
  continues : visit.analyzer.context.allowsContinue = inLoop located.enclosers
  returns : visit.analyzer.scopes.enclosingReturnType visit.analyzer.current =
    (returnType? located.enclosers).elim (.error .returnOutsideFunction) .ok

theorem Analyzer.StandsIn.agrees {analyzer : Analyzer} {enclosers : List Encloser}
    (stands : analyzer.StandsIn enclosers) (place : Place) (stmt : Stmt) :
    Visit.Agrees ⟨place, stmt, analyzer⟩ ⟨place, stmt, enclosers⟩ := by
  obtain ⟨around, stands, loop, returns⟩ := stands
  exact ⟨rfl, rfl, stands.breaks.trans loop, stands.continues.trans loop,
    returns ▸ stands.returns.enclosingReturnType stands.sound.formed⟩

/-! ### What is recorded -/

/-- The first of the statements are recorded, and all of them if the computation succeeds. -/
def Records (recording : Recording Unit) (analyzer : Analyzer) (statements : List Located) : Prop :=
  ∀ earlier, ∃ visits reached unreached, statements = reached ++ unreached ∧
    (finalState recording ⟨analyzer, earlier⟩).visits = earlier ++ visits ∧
    List.Forall₂ Visit.Agrees visits reached ∧
    ∀ after, recording ⟨analyzer, earlier⟩ = .ok () after → unreached = []

namespace Records

variable {recording : Recording Unit} {analyzer : Analyzer} {statements later : List Located}

theorem unrecorded (walk : Analysis Unit) : Records (unrecorded walk) analyzer [] := by
  intro earlier
  refine ⟨[], [], [], rfl, ?_, .nil, fun _ _ => rfl⟩
  unfold finalState TypedImp.unrecorded
  cases walk analyzer <;> exact (List.append_nil earlier).symm

/-- A visit of a statement that has the enclosers. -/
theorem visit {enclosers : List Encloser} (stands : analyzer.StandsIn enclosers)
    (records : Records recording analyzer statements) (place : Place) (stmt : Stmt) :
    Records (do recordVisit place stmt; recording) analyzer
      (⟨place, stmt, enclosers⟩ :: statements) := by
  intro earlier
  obtain ⟨visits, reached, unreached, rfl, made, agree, all⟩ :=
    records (earlier ++ [⟨place, stmt, analyzer⟩])
  refine ⟨⟨place, stmt, analyzer⟩ :: visits, _ :: reached, unreached, rfl, ?_,
    .cons (stands.agrees place stmt) agree, all⟩
  rw [List.append_cons]
  exact made

/-- **Two computations one after the other record the statements of both.** -/
theorem bind {next : Unit → Recording Unit} {walk : Analysis Unit}
    (head : Records recording analyzer statements) (follows : Follows recording walk)
    (tail : ∀ middle, walk analyzer = .ok () middle → Records (next ()) middle later) :
    Records (recording >>= next) analyzer (statements ++ later) := by
  intro earlier
  obtain ⟨visits, reached, unreached, rfl, made, agree, all⟩ := head earlier
  have same := follows ⟨analyzer, earlier⟩
  unfold finalState at made ⊢
  rw [bind_apply]
  cases ended : recording ⟨analyzer, earlier⟩ with
  | error error after =>
    rw [ended] at made
    exact ⟨visits, reached, unreached ++ later, List.append_assoc _ _ _, made, agree, nofun⟩
  | ok nothing middle =>
    rw [ended] at made same
    -- The first computation has succeeded, so it has recorded all its statements.
    obtain rfl := all middle ended
    obtain ⟨furtherVisits, furtherReached, furtherUnreached, rfl, furtherMade, furtherAgree,
      furtherAll⟩ := tail middle.analyzer same.symm middle.visits
    refine ⟨visits ++ furtherVisits, reached ++ furtherReached, furtherUnreached, ?_, ?_,
      List.rel_append agree furtherAgree, furtherAll⟩
    · rw [List.append_nil, List.append_assoc]
    · dsimp only at made
      rw [← List.append_assoc, ← made]
      exact furtherMade

/-- A part without visits comes first. -/
theorem behind {next : Unit → Recording Unit} {walk : Analysis Unit}
    (tail : ∀ middle, walk analyzer = .ok () middle → Records (next ()) middle later) :
    Records (TypedImp.unrecorded walk >>= next) analyzer later :=
  bind (unrecorded walk) (.unrecorded walk) tail

/-- Inside a scope or a frame the visits are those of the computation inside. -/
theorem inside {other : Recording Unit} {inner : Analyzer}
    (records : Records recording inner statements)
    (same : ∀ earlier, (finalState other ⟨analyzer, earlier⟩).visits =
      (finalState recording ⟨inner, earlier⟩).visits)
    (succeeds : ∀ earlier after, other ⟨analyzer, earlier⟩ = .ok () after →
      ∃ left, recording ⟨inner, earlier⟩ = .ok () left) :
    Records other analyzer statements := by
  intro earlier
  obtain ⟨visits, reached, unreached, split, made, agree, all⟩ := records earlier
  refine ⟨visits, reached, unreached, split, (same earlier).trans made, agree, fun after ended => ?_⟩
  obtain ⟨left, inner⟩ := succeeds earlier after ended
  exact all left inner

theorem withScope {kind : ScopeKind}
    (records : Records recording (analyzer.opened kind) statements) :
    Records (recordScope kind recording) analyzer statements := by
  refine records.inside (fun earlier => ?_) fun earlier after ended => ?_
  · unfold finalState
    rw [recordScope_apply]
    cases recording ⟨analyzer.opened kind, earlier⟩ <;> rfl
  · rw [recordScope_apply] at ended
    cases inner : recording ⟨analyzer.opened kind, earlier⟩ with
    | ok nothing left => exact ⟨left, rfl⟩
    | error error left =>
      rw [inner] at ended
      cases ended

theorem withFrame {frame : ContextFrame}
    (records : Records recording { analyzer with context := analyzer.context.push frame }
      statements) :
    Records (recordFrame frame recording) analyzer statements := by
  refine records.inside (fun earlier => ?_) fun earlier after ended => ?_
  · unfold finalState
    rw [recordFrame_apply]
    cases recording ⟨{ analyzer with context := analyzer.context.push frame }, earlier⟩ <;> rfl
  · rw [recordFrame_apply] at ended
    cases inner : recording
        ⟨{ analyzer with context := analyzer.context.push frame }, earlier⟩ with
    | ok nothing left => exact ⟨left, rfl⟩
    | error error left =>
      rw [inner] at ended
      cases ended

end Records

/-! ### The visits of the pass -/

/-- An initializer that is not refused has no statements inside it. -/
theorem records_checkInitializer {initializer : Stmt} {analyzer : Analyzer} {place : Place}
    {enclosers : List Encloser} :
    Records (unrecorded (checkInitializer place initializer)) analyzer
      (initializer.statements enclosers place) := by
  cases initializer with
  | variableDecl =>
    rw [Stmt.statements]
    exact .unrecorded _
  | functionDecl | expression | returnValue | ifChain | whileLoop | forLoop | breakLoop
  | continueLoop =>
    exact fun earlier => ⟨[], [], _, rfl, (List.append_nil earlier).symm, .nil, nofun⟩

mutual

/-- **The pass comes to the statements inside a statement in source order**, and stands each time
inside what encloses them. -/
theorem records_recordStmt {place : Place} {enclosers : List Encloser} : (stmt : Stmt) →
    {analyzer : Analyzer} → analyzer.StandsIn enclosers →
      Records (recordStmt place stmt) analyzer (stmt.statements enclosers place)
  | .functionDecl returnType name parameters body, _, stands => by
    rw [recordStmt, Stmt.statements]
    exact .behind fun _ declared => .withScope (.behind fun _ entered =>
      .withFrame (records_recordStmts body (stands.function declared entered)))
  | .ifChain condition body alternatives, _, stands => by
    rw [recordStmt, Stmt.statements]
    refine .behind fun _ tested => ?_
    have behind := stands.passes (.checkCondition _ _) tested
    exact .bind (.withScope (records_recordStmts body behind.block))
      (.withScope _ (follows_recordStmts _ _ body)) fun _ ended =>
        records_recordAlternatives alternatives
          (behind.passes (.withScope _ (firstPass_checkStmts _ _ body)) ended)
  | .whileLoop condition body, _, stands => by
    rw [recordStmt, Stmt.statements]
    refine .behind fun _ tested => ?_
    have behind := stands.passes (.checkCondition _ _) tested
    exact .withFrame (.withScope (records_recordStmts body behind.loop.block))
  | .forLoop initializer condition increment body, _, stands => by
    rw [recordStmt, Stmt.statements]
    have inside := stands.loop.block
    refine .withFrame (.withScope (.visit inside (.bind records_checkInitializer (.unrecorded _)
      fun _ started => ?_) _ _))
    refine .behind fun _ tested => .behind fun _ stepped => records_recordStmts body ?_
    exact ((inside.passes (.checkInitializer _ _) started).passes (.checkCondition _ _)
      tested).passes (.checkIncrement _ _) stepped
  | .variableDecl .., _, _ | .expression .., _, _ | .returnValue .., _, _ | .breakLoop, _, _
  | .continueLoop, _, _ => by
    rw [recordStmt, Stmt.statements]
    exact .unrecorded _

theorem records_recordAlternatives {place : Place} {enclosers : List Encloser} :
    (alternatives : Alternatives) → {analyzer : Analyzer} → analyzer.StandsIn enclosers →
      Records (recordAlternatives place alternatives) analyzer
        (alternatives.statements enclosers place)
  | .none, _, _ => by
    rw [recordAlternatives, Alternatives.statements]
    exact .unrecorded _
  | .otherwise body, _, stands => by
    rw [recordAlternatives, Alternatives.statements]
    exact .withScope (records_recordStmts body stands.block)
  | .elseIf condition body alternatives, _, stands => by
    rw [recordAlternatives, Alternatives.statements]
    refine .behind fun _ tested => ?_
    have behind := stands.passes (.checkCondition _ _) tested
    exact .bind (.withScope (records_recordStmts body behind.block))
      (.withScope _ (follows_recordStmts _ _ body)) fun _ ended =>
        records_recordAlternatives alternatives
          (behind.passes (.withScope _ (firstPass_checkStmts _ _ body)) ended)

theorem records_recordStmts {place : Place} {enclosers : List Encloser} {index : Nat} :
    (body : List Stmt) → {analyzer : Analyzer} → analyzer.StandsIn enclosers →
      Records (recordStmts place index body) analyzer (bodyStatements enclosers place index body)
  | [], _, _ => by
    rw [recordStmts, bodyStatements]
    exact .unrecorded _
  | stmt :: later, _, stands => by
    rw [recordStmts, bodyStatements]
    exact .visit stands (.bind (records_recordStmt stmt stands) (follows_recordStmt _ stmt)
      fun _ ended => records_recordStmts later (stands.passes (firstPass_checkStmt _ stmt) ended))
      _ _

end

/-- **Control flow is lexical.** The first pass with a record of its visits is the first pass; it
comes to the statements of a program in source order, to all of them if it succeeds; and each time
`break` and `continue` are allowed exactly when the nearest loop or function around the statement is
a loop, and the return type is the one written in the nearest function around it, or there is none
around. -/
theorem visits_lexical (program : Program) (limit : Nat) :
    forget (recordProgram program ⟨.start limit, []⟩) = checkProgram program (.start limit) ∧
    ∃ reached unreached, program.statements = reached ++ unreached ∧
      List.Forall₂ Visit.Agrees (program.visits limit) reached ∧
      ∀ after, checkProgram program (.start limit) = .ok () after → unreached = [] := by
  have same := forget_recordProgram program ⟨.start limit, []⟩
  have records : Records (recordProgram program) (.start limit) program.statements :=
    records_recordStmts program.body (.start limit)
  obtain ⟨visits, reached, unreached, split, made, agree, all⟩ := records []
  have visited : program.visits limit = visits := made.trans (List.nil_append visits)
  refine ⟨same, reached, unreached, split, visited ▸ agree, fun after ended => ?_⟩
  cases recorded : recordProgram program ⟨.start limit, []⟩ with
  | ok nothing last => exact all last recorded
  | error error last =>
    rw [recorded, ended] at same
    cases same

/-- A function inside another one of the same name, and a loop. -/
theorem visits_lexical_nested :
    let program : Program := ⟨[
      .functionDecl .int "f" [] [
        .functionDecl .boolean "f" [] [.returnValue (some (.literal .boolean "true"))],
        .whileLoop (.literal .boolean "true") [.breakLoop],
        .returnValue (some (.literal .int "1"))]]⟩
    List.Forall₂ Visit.Agrees (program.visits 1) program.statements ∧
      program.statements.map (fun located => inLoop located.enclosers) =
        [false, false, false, false, true, false] ∧
      program.statements.map (fun located => returnType? located.enclosers) =
        [none, some .int, some .boolean, some .int, some .int, some .int] := by
  intro program
  have accepted : (outcome (checkProgram program) (.start 1)).toBool = true := by decide +kernel
  obtain ⟨_, after, ended⟩ := exists_eq_ok_of_outcome accepted
  obtain ⟨_, reached, unreached, split, agree, all⟩ := visits_lexical program 1
  obtain rfl := all after ended
  rw [List.append_nil] at split
  exact ⟨split ▸ agree, by decide, by decide⟩

end TypedImp
