/-
**Errors about names and calls report real violations.**

An error is found far from where it is reported: in the arguments of a call, in the second pass, in
a tree of scopes that has grown since. Yet what it says of a name or of a call is so in the program,
at a place where the expression stands and with what is visible from there.

* `Truthful` — a part of the walk ends in errors that the program bears, at once or from the entries
  that it leaves on the queue; closed under running one part after another (`Truthful.bind`).
* `truthful_require` — an expression that has to pass a test.
* `truthful_checkStmt`, `truthful_checkStmts`, `truthful_checkProgram` — the walk over the parts of
  the program is truthful, and so the walk over all of it.
* `bears_of_analyze` — **an error of an analysis is borne by the program.**
-/

import TypedImp.Proofs.Draining
import TypedImp.Proofs.Uses
import TypedImp.Proofs.WellTyped

namespace TypedImp

open Analyzer

section Truth

variable {program : Program}

/-! ### Truthful parts of the walk -/

/-- **A part of the walk ends in errors that the program bears**, at once or from the entries that it
leaves on the queue. -/
def Truthful (program : Program) (walk : Analysis Unit) (analyzer : Analyzer)
    (around : Surroundings) : Prop :=
  Leaves walk analyzer around program.Bears fun added final => ∀ entry ∈ added, ∀ limit,
    FailsWith program.Bears (outcome (resolvePending final limit entry) .idle)

variable {analyzer : Analyzer} {around : Surroundings}
variable {bindings moreBindings : List (String × DataType)}
variable {signatures moreSignatures : List (String × Signature)}

theorem Truthful.bind {first : Analysis Unit} {next : Unit → Analysis Unit}
    (stands : analyzer.Stands around) (pass : FirstPass bindings signatures first)
    (rest : FirstPass moreBindings moreSignatures (next ()))
    (head : Truthful program first analyzer around)
    (tail : ∀ {middle}, first analyzer = .ok () middle →
      Passes bindings signatures analyzer middle → middle.Stands (around.declare bindings) →
      Truthful program (next ()) middle (around.declare bindings)) :
    Truthful program (first >>= next) analyzer around := by
  refine (Leaves.bind stands pass rest head tail).mono (fun _ either => either.elim id id) ?_
  rintro _ final ⟨late, early, rfl, inEarly, inLate⟩
  exact List.forall_mem_append.mpr ⟨inLate, inEarly⟩

/-- What declares no variable leaves the surroundings as they are. -/
theorem Truthful.before {first : Analysis Unit} {next : Unit → Analysis Unit}
    (stands : analyzer.Stands around) (pass : FirstPass [] signatures first)
    (rest : FirstPass moreBindings moreSignatures (next ()))
    (head : Truthful program first analyzer around)
    (tail : ∀ {middle}, first analyzer = .ok () middle → Passes [] signatures analyzer middle →
      middle.Stands around → Truthful program (next ()) middle around) :
    Truthful program (first >>= next) analyzer around := by
  refine Truthful.bind stands pass rest head fun ended passes behind => ?_
  rw [Surroundings.declare_nil] at behind ⊢
  exact tail ended passes behind

/-- What succeeds and leaves nothing on the queue reports nothing. -/
theorem truthful_of_ok {walk : Analysis Unit} {after : Analyzer}
    (ended : walk analyzer = .ok () after) (queue : after.pending = analyzer.pending) :
    Truthful program walk analyzer around :=
  Leaves.of_ok ended queue fun _ => List.forall_mem_nil _

/-- **An expression that has to pass a test.** -/
theorem truthful_require {occurrence : Occurrence} {requirement : Requirement}
    {test : DataType → Except SemanticError Unit} (stands : analyzer.Stands around)
    (uses : around.uses occurrence.expr ⊆ program.uses)
    (nameless : ∀ type, FailsWith SemanticError.Nameless (test type))
    (alone : Pending.exprs ⟨occurrence, analyzer.site, requirement⟩ = [occurrence.expr]) :
    Truthful program (require occurrence requirement test) analyzer around := by
  have sees : around.view.Sees analyzer.scopes analyzer.current :=
    fun name => (stands.lookupVariable name).symm
  have reports : Maintains (Extends analyzer.site occurrence.expr.parts analyzer.pending) _
      (checkExpr analyzer.scopes analyzer.current occurrence.place occurrence.expr) :=
    reports_checkExpr sees occurrence.expr (List.Subset.refl _)
  have queued := reports analyzer.pending ⟨[], rfl, List.forall_mem_nil _⟩
  -- What waits on the queue sees in the finished tree what the surroundings show.
  have resolve {final : ScopeTree} (grows : analyzer.scopes.Grows final)
      (shows : final.Shows analyzer.current around) (limit : Nat) {entry : Pending}
      (within : entry.Within analyzer.site occurrence.expr.parts) :
      FailsWith program.Bears (outcome (resolvePending final limit entry) .idle) :=
    (reports_resolvePending within).mono fun _ faulty =>
      program.bears_of_faulty uses (stands.view_eq grows shows ▸ faulty)
  unfold Truthful Leaves
  rw [require, bind_apply]
  unfold checkOccurrence
  dsimp only
  cases ended : checkExpr analyzer.scopes analyzer.current occurrence.place occurrence.expr
    analyzer.pending with
  | error error queue =>
    rw [ended] at queued
    exact program.bears_of_faulty uses queued
  | ok checked queue =>
    rw [ended] at queued
    obtain ⟨added, rfl, within⟩ := queued
    cases checked with
    | known type =>
      dsimp only
      rw [ofExcept_apply]
      cases tested : test type with
      | error error => exact program.bears_of_nameless (nameless type error tested)
      | ok passed =>
        exact ⟨added, rfl, fun reaches _ shows entry member limit =>
          resolve (ScopeTree.grows_of_reaches reaches) shows limit (within entry member)⟩
    | deferred =>
      refine ⟨⟨occurrence, analyzer.site, requirement⟩ :: added, rfl,
        fun reaches _ shows entry member limit =>
          resolve (ScopeTree.grows_of_reaches reaches) shows limit ?_⟩
      refine (List.forall_mem_cons.mpr ⟨⟨rfl, ?_⟩, within⟩) entry member
      rw [alone, List.forall_mem_singleton]
      exact List.Subset.refl _

theorem truthful_changeScopes {change : ScopeTree → ScopeId → Except SemanticError ScopeTree}
    (fails : FailsWith program.Bears (change analyzer.scopes analyzer.current)) :
    Truthful program (changeScopes change) analyzer around := by
  have ended := changeScopes_apply change analyzer
  cases changed : change analyzer.scopes analyzer.current with
  | error error =>
    rw [changed] at ended
    exact Leaves.of_error ended (fails error changed)
  | ok next =>
    rw [changed] at ended
    exact truthful_of_ok ended rfl

/-- A variable is refused when its block declares it before. -/
theorem truthful_declareVariable {name : String} {type : DataType}
    (stands : analyzer.Stands around)
    (holds : program.HoldsVariables (around.block.bindings.map Prod.fst ++ [name])) :
    Truthful program (declareVariable name type) analyzer around := by
  obtain ⟨scope, found⟩ := ScopeTree.get?_eq_some_of_lt stands.sound.inRange
  obtain ⟨block, member, among⟩ := holds
  refine truthful_changeScopes fun error ended => ?_
  unfold ScopeTree.declareVariable at ended
  rw [found, Option.bind_some] at ended
  cases declared : scope.variableNamed? name with
  | none =>
    rw [declared] at ended
    cases ended
  | some known =>
    rw [declared] at ended
    cases ended
    have own : around.block.bindings.lookup name = some known.type := by
      rw [← stands.own_types found, Scope.lookup_types, declared]
      rfl
    exact ⟨block, member, two_le_count (mem_of_lookup own) among⟩

/-- A function is refused when its block declares it before. -/
theorem truthful_declareFunction {name : String} {signature : Signature}
    (stands : analyzer.Stands around)
    (holds : program.HoldsFunctions (analyzer.ownFunctions ++ [name])) :
    Truthful program (declareFunction name signature) analyzer around := by
  obtain ⟨scope, found⟩ := ScopeTree.get?_eq_some_of_lt stands.sound.inRange
  obtain ⟨block, member, among⟩ := holds
  refine truthful_changeScopes fun error ended => ?_
  unfold ScopeTree.declareFunction at ended
  rw [found, Option.bind_some] at ended
  cases declared : scope.functionNamed? name with
  | none =>
    rw [declared] at ended
    cases ended
  | some before =>
    rw [declared] at ended
    cases ended
    have own : name ∈ analyzer.ownFunctions := by
      unfold Analyzer.ownFunctions
      rw [found]
      exact mem_of_lookup declared
    exact ⟨block, member, two_le_count own among⟩

theorem truthful_declareParameters {parameters : List Parameter} (stands : analyzer.Stands around)
    (holds : program.HoldsVariables
      (around.block.bindings.map Prod.fst ++ parameters.map (·.name))) :
    Truthful program (declareParameters parameters) analyzer around := by
  induction parameters generalizing analyzer around with
  | nil => exact truthful_of_ok rfl rfl
  | cons parameter parameters ih =>
    rw [List.map_cons, List.append_cons] at holds
    have first : Truthful program (declareVariable parameter.name parameter.type) _ _ :=
      truthful_declareVariable stands (holds.sublist (List.sublist_append_left _ _))
    refine Truthful.bind stands (.declareVariable _ _) (.declareParameters parameters) first
      fun _ _ behind => ih behind ?_
    show program.HoldsVariables
      ((around.block.bindings ++ [(parameter.name, parameter.type)]).map Prod.fst ++ _)
    rw [List.map_append]
    exact holds

/-! ### The walk -/

theorem truthful_checkVariableDecl {place : Place} {type : DataType} {name : String}
    {initializer : Expr} (stands : analyzer.Stands around)
    (uses : around.uses initializer ⊆ program.uses)
    (holds : program.HoldsVariables (around.block.bindings.map Prod.fst ++ [name])) :
    Truthful program (checkVariableDecl place type name initializer) analyzer around :=
  .before stands (.require _ _ (shallow_expectType type)) (.declareVariable name type)
    (truthful_require stands uses (nameless_expectType type) rfl)
    fun _ _ behind => truthful_declareVariable behind holds

theorem truthful_checkCondition {place : Place} {condition : Expr}
    (stands : analyzer.Stands around) (uses : around.uses condition ⊆ program.uses) :
    Truthful program (checkCondition place condition) analyzer around :=
  truthful_require stands uses nameless_expectCondition rfl

theorem truthful_checkIncrement {place : Place} {increment : Expr}
    (stands : analyzer.Stands around) (uses : around.uses increment ⊆ program.uses) :
    Truthful program (checkIncrement place increment) analyzer around := by
  cases increment with
  | unary operator fixity operand =>
    unfold Surroundings.uses at uses
    rw [Expr.parts, List.map_cons, List.cons_subset] at uses
    unfold checkIncrement
    dsimp only
    split_ifs
    · exact truthful_require stands uses.2 (nameless_expectNumeric operator) rfl
    · exact Leaves.of_error rfl (program.bears_of_nameless trivial)
  | literal | identifier | assign | binary | call =>
    exact Leaves.of_error rfl (program.bears_of_nameless trivial)

theorem truthful_checkReturn {place : Place} {value : Option Expr}
    (stands : analyzer.Stands around) (uses : value.elim [] around.uses ⊆ program.uses) :
    Truthful program (checkReturn place value) analyzer around := by
  have ended : checkReturn place value analyzer = _ := checkReturn_apply stands
  cases inside : around.returnType with
  | none =>
    rw [inside] at ended
    exact Leaves.of_error ended (program.bears_of_nameless trivial)
  | some expected =>
    rw [inside] at ended
    cases value with
    | some value =>
      have test : Truthful program (require ⟨0 :: place, value⟩ (.returnValue expected)
          (expectType expected)) analyzer around :=
        truthful_require stands uses (nameless_expectType expected) rfl
      exact Leaves.of_eq test ended
    | none =>
      dsimp only at ended
      split_ifs at ended
      · exact Leaves.of_error ended (program.bears_of_nameless trivial)
      · exact truthful_of_ok ended rfl

theorem truthful_allowed {test : ContextStack → Bool} {error : SemanticError}
    (nameless : error.Nameless) :
    Truthful program (do if !test (← get).context then throw error) analyzer around := by
  have ended : (do if !test (← get).context then throw error : Analysis Unit) analyzer =
      (if !test analyzer.context then throw error else pure () : Analysis Unit) analyzer := rfl
  split_ifs at ended
  · exact Leaves.of_error ended (program.bears_of_nameless nameless)
  · exact truthful_of_ok ended rfl

/-- The walk over statements is truthful wherever they stand in the program. -/
def TruthfulBody (program : Program) (place : Place) (body : List Stmt) : Prop :=
  ∀ {inner : Analyzer} {within : Surroundings}, inner.Stands within →
    BodyPartOf program inner.ownFunctions within body →
      Truthful program (checkStmts place 0 body) inner within

theorem truthful_block {place : Place} {body : List Stmt} (stands : analyzer.Stands around)
    (part : BodyPartOf program [] (around.enter [] body) body)
    (inside : TruthfulBody program place body) :
    Truthful program (withScope .block (checkStmts place 0 body)) analyzer around := by
  have truthful := inside (stands.opened body)
    (by rw [ownFunctions_opened]; exact part)
  exact Leaves.withScope stands (firstPass_checkStmts place 0 body) truthful rfl

/-- A condition with its body, and what follows. -/
theorem truthful_branch {place : Place} {condition : Expr} {body : List Stmt}
    {alternatives : Alternatives} (stands : analyzer.Stands around)
    (uses : around.uses condition ⊆ program.uses)
    (part : BodyPartOf program [] (around.enter [] body) body)
    (inside : TruthfulBody program (1 :: place) body)
    (others : ∀ {behind : Analyzer}, behind.Stands around →
      Truthful program (checkAlternatives (2 :: place) alternatives) behind around) :
    Truthful program (do
      checkCondition (0 :: place) condition
      withScope .block (checkStmts (1 :: place) 0 body)
      checkAlternatives (2 :: place) alternatives) analyzer around := by
  have passOthers := firstPass_checkAlternatives (2 :: place) alternatives
  have passBody := FirstPass.withScope .block (firstPass_checkStmts (1 :: place) 0 body)
  exact .before stands (.checkCondition _ _) (.bind passBody fun _ => passOthers)
    (truthful_checkCondition stands uses) fun _ _ behind =>
      .before behind passBody passOthers (truthful_block behind part inside)
        fun _ _ behindBody => others behindBody

theorem truthful_functionDecl {place : Place} {returnType : DataType} {name : String}
    {parameters : List Parameter} {body : List Stmt} (stands : analyzer.Stands around)
    (part : Stmt.PartOf program analyzer.ownFunctions around
      (.functionDecl returnType name parameters body))
    (inside : TruthfulBody program place body) :
    Truthful program (do
      declareFunction name ⟨parameters, returnType⟩
      withScope (.function name) do
        declareParameters parameters
        withFrame .function (checkStmts place 0 body)) analyzer around := by
  obtain ⟨uses, blocks, _, functions⟩ := part
  have own := (itemBlocks_block (parameterItems parameters) blocks).1
  have bodyPart : BodyPartOf program []
      ((around.enterFunction returnType).enter (parameters.map Parameter.binding) body) body :=
    bodyPartOf_block own (among_parameterItems parameters) uses
  have names : program.HoldsVariables (parameters.map (·.name)) := by
    have holds := bodyPart.holdsVariables.sublist (List.sublist_append_left _ _)
    rw [show Surroundings.block _ = ⟨parameters.map Parameter.binding, _⟩ from rfl,
      List.map_map] at holds
    exact holds
  have passBody := firstPass_checkStmts place 0 body
  have passInside := FirstPass.bind (.declareParameters parameters) fun _ =>
    .withFrame .function passBody
  refine .before stands (.declareFunction _ _) (.withScope (.function name) passInside)
    (truthful_declareFunction stands functions) fun {middle} ended _ behind => ?_
  -- The function is in the tree, so its return type is known inside.
  obtain ⟨scope, found, declared⟩ := functionNamed?_declareFunction stands.sound.inRange ended
  have opened := behind.opened_function found declared body
  have within : Truthful program (do
      declareParameters parameters
      withFrame .function (checkStmts place 0 body)) (middle.opened (.function name))
      { around.enter [] body with returnType := some returnType } := by
    refine Truthful.bind opened (.declareParameters parameters) (.withFrame .function passBody)
      (truthful_declareParameters opened names) fun _ passes behindNames => ?_
    have free := (ownFunctions_of_passes opened passes).trans (ownFunctions_opened middle _)
    exact Leaves.withFrame (inside behindNames.enterFunction (free ▸ bodyPart)) rfl
  exact Leaves.withScope behind passInside within rfl

theorem truthful_checkInitializer {place : Place} {initializer : Stmt}
    (stands : analyzer.Stands around) (uses : initializer.startUses around ⊆ program.uses)
    (holds : program.HoldsVariables
      (around.block.bindings.map Prod.fst ++ initializer.bindings.map Prod.fst)) :
    Truthful program (checkInitializer place initializer) analyzer around := by
  cases initializer with
  | variableDecl type name value => exact truthful_checkVariableDecl stands uses holds
  | functionDecl | expression | returnValue | ifChain | whileLoop | forLoop | breakLoop
  | continueLoop => exact Leaves.of_error rfl (program.bears_of_nameless trivial)

/-- An initializer that is not refused declares no function. -/
theorem signatures_of_checkInitializer {place : Place} {initializer : Stmt} {after : Analyzer}
    (ended : checkInitializer place initializer analyzer = .ok () after) :
    initializer.signatures = [] := by
  cases initializer with
  | functionDecl => cases ended
  | _ => rfl

theorem truthful_forLoop {place : Place} {initializer : Stmt} {condition increment : Expr}
    {body : List Stmt} (stands : analyzer.Stands around)
    (part : Stmt.PartOf program analyzer.ownFunctions around
      (.forLoop initializer condition increment body))
    (inside : TruthfulBody program (3 :: place) body) :
    Truthful program (withFrame .loop do
      withScope .block do
        checkInitializer (0 :: place) initializer
        checkCondition (1 :: place) condition
        checkIncrement (2 :: place) increment
        checkStmts (3 :: place) 0 body) analyzer around := by
  obtain ⟨uses, blocks, _, _⟩ := part
  rw [Stmt.uses, List.append_subset, List.append_subset, List.append_subset] at uses
  obtain ⟨startUses, testUses, stepUses, bodyUses⟩ := uses
  have own := (itemBlocks_block initializer.items blocks).1
  obtain ⟨bindings, signatures⟩ := initializer.among_items
  have passBody := firstPass_checkStmts (3 :: place) 0 body
  have passStep := FirstPass.bind (.checkIncrement (2 :: place) increment) fun _ => passBody
  have passTest := FirstPass.bind (.checkCondition (1 :: place) condition) fun _ => passStep
  have passInside := FirstPass.bind (.checkInitializer (0 :: place) initializer) fun _ => passTest
  have looped := stands.enterLoop
  have opened := looped.opened body
  have names : program.HoldsVariables (initializer.bindings.map Prod.fst) := by
    refine ⟨_, own.1, ?_⟩
    unfold BlockContent.names
    rw [(among_append _ _).1, bindings, List.map_append]
    exact List.sublist_append_left _ _
  refine Leaves.withFrame (Leaves.withScope looped passInside (Truthful.bind opened
    (.checkInitializer _ _) passTest (truthful_checkInitializer opened startUses names)
    fun ended passes behind => ?_) rfl) rfl
  have bodyPart : BodyPartOf program []
      ((around.enterLoop.enter [] body).declare initializer.bindings) body :=
    bodyPartOf_block own ⟨bindings, signatures.trans (signatures_of_checkInitializer ended)⟩ bodyUses
  refine .before behind (.checkCondition _ _) passStep (truthful_checkCondition behind testUses)
    fun _ passesTest behindTest => ?_
  refine .before behindTest (.checkIncrement _ _) passBody
    (truthful_checkIncrement behindTest stepUses) fun _ passesStep behindStep => ?_
  have free := (ownFunctions_of_passes behindTest passesStep).trans
    ((ownFunctions_of_passes behind passesTest).trans
      ((ownFunctions_of_passes opened passes).trans (ownFunctions_opened _ _)))
  exact inside behindStep (free ▸ bodyPart)

mutual

/-- **The walk over a statement of the program is truthful.** -/
theorem truthful_checkStmt {place : Place} : (stmt : Stmt) →
    {analyzer : Analyzer} → {around : Surroundings} → (stands : analyzer.Stands around) →
      stmt.PartOf program analyzer.ownFunctions around →
        Truthful program (checkStmt place stmt) analyzer around
  | .variableDecl type name initializer, _, _, stands, part => by
    rw [checkStmt]
    exact truthful_checkVariableDecl stands part.uses part.holdsVariables
  | .functionDecl returnType name parameters body, _, _, stands, part => by
    rw [checkStmt]
    exact truthful_functionDecl stands part fun inner => truthful_checkStmts body inner
  | .expression value, _, _, stands, part => by
    rw [checkStmt]
    exact truthful_require stands part.uses (fun _ => .ok ()) rfl
  | .returnValue value, _, _, stands, part => by
    rw [checkStmt]
    exact truthful_checkReturn stands part.uses
  | .ifChain condition body alternatives, _, _, stands, ⟨uses, blocks, _, _⟩ => by
    rw [Stmt.uses, List.append_subset, List.append_subset] at uses
    obtain ⟨own, others⟩ := itemBlocks_block [] blocks
    rw [checkStmt]
    exact truthful_branch stands uses.1 (bodyPartOf_block own ⟨rfl, rfl⟩ uses.2.1)
      (fun inner => truthful_checkStmts body inner) fun behind =>
        truthful_checkAlternatives alternatives behind uses.2.2 others
  | .whileLoop condition body, _, _, stands, ⟨uses, blocks, _, _⟩ => by
    rw [Stmt.uses, List.append_subset] at uses
    obtain ⟨own, _⟩ := itemBlocks_block [] blocks
    rw [checkStmt]
    have passBody := FirstPass.withFrame .loop
      (.withScope .block (firstPass_checkStmts (1 :: place) 0 body))
    exact .before stands (.checkCondition _ _) passBody (truthful_checkCondition stands uses.1)
      fun _ _ behind => Leaves.withFrame (truthful_block behind.enterLoop
        (bodyPartOf_block own ⟨rfl, rfl⟩ uses.2) fun inner => truthful_checkStmts body inner) rfl
  | .forLoop initializer condition increment body, _, _, stands, part => by
    rw [checkStmt]
    exact truthful_forLoop stands part fun inner => truthful_checkStmts body inner
  | .breakLoop, _, _, _, _ => by
    rw [checkStmt]
    exact truthful_allowed trivial
  | .continueLoop, _, _, _, _ => by
    rw [checkStmt]
    exact truthful_allowed trivial

/-- The walk over what follows the body of an `if` is truthful. -/
theorem truthful_checkAlternatives {place : Place} : (alternatives : Alternatives) →
    {analyzer : Analyzer} → {around : Surroundings} → (stands : analyzer.Stands around) →
      alternatives.uses around ⊆ program.uses →
        itemBlocks alternatives.items ⊆ program.blocks →
          Truthful program (checkAlternatives place alternatives) analyzer around
  | .none, _, _, _, _, _ => by
    rw [checkAlternatives]
    exact truthful_of_ok rfl rfl
  | .otherwise body, _, _, stands, uses, blocks => by
    obtain ⟨own, _⟩ := itemBlocks_block [] blocks
    rw [checkAlternatives]
    exact truthful_block stands (bodyPartOf_block own ⟨rfl, rfl⟩ uses)
      fun inner => truthful_checkStmts body inner
  | .elseIf condition body alternatives, _, _, stands, uses, blocks => by
    rw [Alternatives.uses, List.append_subset, List.append_subset] at uses
    obtain ⟨own, others⟩ := itemBlocks_block [] blocks
    rw [checkAlternatives]
    exact truthful_branch stands uses.1 (bodyPartOf_block own ⟨rfl, rfl⟩ uses.2.1)
      (fun inner => truthful_checkStmts body inner) fun behind =>
        truthful_checkAlternatives alternatives behind uses.2.2 others

/-- **The walk over statements of the program is truthful.** -/
theorem truthful_checkStmts {place : Place} {index : Nat} : (body : List Stmt) →
    {analyzer : Analyzer} → {around : Surroundings} → (stands : analyzer.Stands around) →
      BodyPartOf program analyzer.ownFunctions around body →
        Truthful program (checkStmts place index body) analyzer around
  | [], _, _, _, _ => by
    rw [checkStmts]
    exact truthful_of_ok rfl rfl
  | stmt :: later, _, _, stands, part => by
    obtain ⟨first, rest⟩ := bodyPartOf_cons part
    rw [checkStmts]
    refine Truthful.bind stands (firstPass_checkStmt (index :: place) stmt)
      (firstPass_checkStmts place (index + 1) later) (truthful_checkStmt stmt stands first)
      fun _ passes behind => truthful_checkStmts later behind ?_
    rw [passes.ownFunctions stands.sound.inRange]
    exact rest

end

/-- The walk over a whole program is truthful. -/
theorem truthful_checkProgram (program : Program) (limit : Nat) :
    Truthful program (checkProgram program) (start limit) (.top program.body) := by
  have whole : ⟨.global, [] ++ bodyItems program.body⟩ ∈ program.blocks ∧
      itemBlocks (bodyItems program.body) ⊆ program.blocks :=
    ⟨List.mem_cons_self, List.subset_cons_self _ _⟩
  have part : BodyPartOf program (start limit).ownFunctions (.top program.body) program.body :=
    bodyPartOf_block whole ⟨rfl, rfl⟩ (List.Subset.refl _)
  exact truthful_checkStmts program.body (stands_start limit program.body) part

end Truth

/-- **An error of an analysis is borne by the program.** If it is about a name or about a call, the
program violates the rules as the error says: at a place of the program, with what is visible from
there, or in a block that declares a name twice. -/
theorem bears_of_analyze {program : Program} {limit : Nat} {error : SemanticError}
    (refused : analyze program limit = .error error) : program.Bears error := by
  obtain ⟨found, ended, bears⟩ | ⟨after, ended, borne, idle, _⟩ :=
    Leaves.analyze (truthful_checkProgram program limit)
  · rw [ended] at refused
    cases refused
    exact bears
  · have entries : FailsWith program.Bears (outcome drain after) :=
      failsWith_drain fun entry queued => idle ▸ borne entry queued after.limit
    exact entries.map _ error (ended.symm.trans refused)

/-- A call in the arguments of a call, both in front of the declaration of the function: the second
argument of the outer one is of the wrong type. -/
theorem bears_of_analyze_nested :
    let inner : Expr := .call "f" [.literal .int "1", .literal .boolean "true"]
    let program : Program := ⟨[
      .expression (.call "f" [inner, inner]),
      .functionDecl .int "f" [⟨"x", .int⟩, ⟨"y", .boolean⟩] [.returnValue (some (.identifier "x"))]]⟩
    analyze program 2 = .error (.argumentMismatch "f" 2 .boolean .int) ∧
      program.Bears (.argumentMismatch "f" 2 .boolean .int) := by
  intro inner program
  have refused : analyze program 2 = .error (.argumentMismatch "f" 2 .boolean .int) := by
    decide +kernel
  exact ⟨refused, bears_of_analyze refused⟩

end TypedImp
