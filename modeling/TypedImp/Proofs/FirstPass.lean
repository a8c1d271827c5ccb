/-
**What the first pass does to an analyzer.**

The walk over the statements is put together from a few actions: it looks at the tree, the current
scope and the context, checks an expression, puts one on the queue, declares a name, and runs a part
of the walk inside a new scope or frame. `FirstPass` lists them, together with what the computation
declares in the current scope; facts about the walk are proved by induction on it.

* `firstPass_checkStmt`, `firstPass_checkStmts` — the walk is made of these actions alone, and
  declares in the current scope what the statements declare themselves.
* `FirstPass.passes` — **a walk that succeeds is back where it was**: scope and context are the
  same, the queue has only grown, the tree is reached by operations on it, and of the scopes that
  were there the current one alone has gained declarations.
* `FirstPass.withLimit`, `FirstPass.shallow` — the walk never looks at the limit on nested calls,
  and never complains of it.
-/

import TypedImp.Proofs.Guesses
import TypedImp.Proofs.ScopeGains
import TypedImp.Proofs.Shallow

namespace TypedImp

open Analyzer

/-! ### The actions of the first pass -/

/-- **The computations of the first pass**, with the variables and the functions that they declare
in the current scope when they succeed. -/
inductive FirstPass : List (String × DataType) → List (String × Signature) → {α : Type} →
    Analysis α → Prop
  | ofExcept {α : Type} {value : Except SemanticError α} (shallow : ShallowValue value) :
      FirstPass [] [] (MonadExcept.ofExcept value : Analysis α)
  -- An error leaves nothing to be told of declarations.
  | throw {α : Type} {bindings : List (String × DataType)}
      {signatures : List (String × Signature)} {error : SemanticError} (shallow : error.Shallow) :
      FirstPass bindings signatures (throw error : Analysis α)
  | bind {α β : Type} {bindings moreBindings : List (String × DataType)}
      {signatures moreSignatures : List (String × Signature)} {first : Analysis α}
      {next : α → Analysis β} (head : FirstPass bindings signatures first)
      (tail : ∀ value, FirstPass moreBindings moreSignatures (next value)) :
      FirstPass (bindings ++ moreBindings) (signatures ++ moreSignatures) (first >>= next)
  | reading {α : Type} {bindings : List (String × DataType)}
      {signatures : List (String × Signature)}
      {inside : ScopeTree → ScopeId → ContextStack → Analysis α}
      (each : ∀ scopes current context,
        FirstPass bindings signatures (inside scopes current context)) :
      FirstPass bindings signatures
        (get >>= fun analyzer => inside analyzer.scopes analyzer.current analyzer.context)
  | checkOccurrence (occurrence : Occurrence) : FirstPass [] [] (checkOccurrence occurrence)
  | defer (occurrence : Occurrence) (requirement : Requirement) :
      FirstPass [] [] (defer occurrence requirement)
  | declareVariable (name : String) (type : DataType) :
      FirstPass [(name, type)] [] (declareVariable name type)
  | declareFunction (name : String) (signature : Signature) :
      FirstPass [] [(name, signature)] (declareFunction name signature)
  | withScope {bindings : List (String × DataType)} {signatures : List (String × Signature)}
      {inside : Analysis Unit} (kind : ScopeKind) (pass : FirstPass bindings signatures inside) :
      FirstPass [] [] (withScope kind inside)
  | withFrame {bindings : List (String × DataType)} {signatures : List (String × Signature)}
      {inside : Analysis Unit} (frame : ContextFrame)
      (pass : FirstPass bindings signatures inside) :
      FirstPass bindings signatures (withFrame frame inside)

namespace FirstPass

theorem pure {α : Type} (value : α) : FirstPass [] [] (pure value : Analysis α) :=
  .ofExcept (shallowValue_ok value)

theorem require (occurrence : Occurrence) (requirement : Requirement)
    {test : DataType → Except SemanticError Unit} (shallow : ∀ type, ShallowValue (test type)) :
    FirstPass [] [] (require occurrence requirement test) := by
  refine .bind (.checkOccurrence occurrence) fun checked => ?_
  cases checked with
  | known received => exact .ofExcept (shallow received)
  | deferred => exact .defer occurrence requirement

theorem checkVariableDecl (place : Place) (type : DataType) (name : String) (initializer : Expr) :
    FirstPass [(name, type)] [] (checkVariableDecl place type name initializer) :=
  .bind (.require _ _ (shallow_expectType type)) fun _ => .declareVariable name type

theorem checkReturn (place : Place) (value : Option Expr) :
    FirstPass [] [] (checkReturn place value) := by
  refine .reading fun scopes current _ =>
    .bind (.ofExcept (shallow_enclosingReturnType scopes current)) fun expected => ?_
  cases value with
  | some value => exact .require _ _ (shallow_expectType expected)
  | none =>
    dsimp only
    split
    · exact .throw nofun
    · exact .pure ()

theorem checkCondition (place : Place) (condition : Expr) :
    FirstPass [] [] (checkCondition place condition) :=
  .require _ _ shallow_expectCondition

theorem checkIncrement (place : Place) (increment : Expr) :
    FirstPass [] [] (checkIncrement place increment) := by
  cases increment with
  | unary operator fixity operand =>
    unfold TypedImp.checkIncrement
    dsimp only
    split
    · exact .require _ _ (shallow_expectNumeric operator)
    · exact .throw nofun
  | literal | identifier | assign | binary | call => exact .throw nofun

theorem checkInitializer (place : Place) (initializer : Stmt) :
    FirstPass initializer.bindings [] (checkInitializer place initializer) := by
  cases initializer with
  | variableDecl type name value => exact .checkVariableDecl place type name value
  | functionDecl | expression | returnValue | ifChain | whileLoop | forLoop | breakLoop
  | continueLoop => exact .throw nofun

theorem declareParameters (parameters : List Parameter) :
    FirstPass (parameters.map Parameter.binding) [] (declareParameters parameters) := by
  induction parameters with
  | nil => exact .pure ()
  | cons parameter parameters ih => exact .bind (.declareVariable _ _) fun _ => ih

end FirstPass

theorem firstPass_allowed {test : ContextStack → Bool} {error : SemanticError}
    (shallow : error.Shallow) :
    FirstPass [] [] (do if !test (← get).context then throw error : Analysis Unit) := by
  refine @FirstPass.reading _ _ _
    (fun _ _ context => if !test context then throw error else pure ()) fun _ _ context => ?_
  split
  · exact .throw shallow
  · exact .pure ()

mutual

/-- **The walk over a statement is made of the actions of the first pass**, and declares what the
statement declares. -/
theorem firstPass_checkStmt (place : Place) :
    (stmt : Stmt) → FirstPass stmt.bindings stmt.signatures (checkStmt place stmt)
  | .variableDecl type name initializer => by
    rw [checkStmt]
    exact .checkVariableDecl _ _ _ _
  | .functionDecl returnType name parameters body => by
    rw [checkStmt]
    exact .bind (.declareFunction _ _) fun _ => .withScope _ (.bind (.declareParameters _) fun _ =>
      .withFrame _ (firstPass_checkStmts _ _ body))
  | .expression value => by
    rw [checkStmt]
    exact .require _ _ fun _ => shallowValue_ok ()
  | .returnValue value => by
    rw [checkStmt]
    exact .checkReturn _ _
  | .ifChain condition body alternatives => by
    rw [checkStmt]
    exact .bind (.checkCondition _ _) fun _ =>
      .bind (.withScope _ (firstPass_checkStmts _ _ body)) fun _ =>
        firstPass_checkAlternatives _ alternatives
  | .whileLoop condition body => by
    rw [checkStmt]
    exact .bind (.checkCondition _ _) fun _ =>
      .withFrame _ (.withScope _ (firstPass_checkStmts _ _ body))
  | .forLoop initializer condition increment body => by
    rw [checkStmt]
    exact .withFrame _ (.withScope _ (.bind (.checkInitializer _ _) fun _ =>
      .bind (.checkCondition _ _) fun _ => .bind (.checkIncrement _ _) fun _ =>
        firstPass_checkStmts _ _ body))
  | .breakLoop => by
    have shallow : SemanticError.invalidBreak.Shallow := nofun
    rw [checkStmt]
    exact firstPass_allowed shallow
  | .continueLoop => by
    have shallow : SemanticError.invalidContinue.Shallow := nofun
    rw [checkStmt]
    exact firstPass_allowed shallow

/-- The walk over what follows the body of an `if` declares nothing in the current scope. -/
theorem firstPass_checkAlternatives (place : Place) :
    (alternatives : Alternatives) → FirstPass [] [] (checkAlternatives place alternatives)
  | .none => by
    rw [checkAlternatives]
    exact .pure ()
  | .otherwise body => by
    rw [checkAlternatives]
    exact .withScope _ (firstPass_checkStmts _ _ body)
  | .elseIf condition body alternatives => by
    rw [checkAlternatives]
    exact .bind (.checkCondition _ _) fun _ =>
      .bind (.withScope _ (firstPass_checkStmts _ _ body)) fun _ =>
        firstPass_checkAlternatives _ alternatives

/-- The walk over statements declares what they declare directly. -/
theorem firstPass_checkStmts (place : Place) (index : Nat) :
    (body : List Stmt) →
      FirstPass (body.flatMap Stmt.bindings) (declaredSignatures body) (checkStmts place index body)
  | [] => by
    rw [checkStmts]
    exact .pure ()
  | stmt :: later => by
    rw [checkStmts]
    exact .bind (firstPass_checkStmt _ stmt) fun _ => firstPass_checkStmts _ _ later

end

/-! ### The actions as equations -/

namespace Analyzer

/-- The analyzer inside a new scope. -/
def opened (analyzer : Analyzer) (kind : ScopeKind) : Analyzer :=
  { analyzer with
    scopes := (analyzer.scopes.addChild analyzer.current kind).2
    current := analyzer.scopes.count }

theorem withScope_apply (kind : ScopeKind) (inside : Analysis Unit) (analyzer : Analyzer) :
    withScope kind inside analyzer =
      match inside (analyzer.opened kind) with
      | .ok _ after => .ok () { after with current := analyzer.current }
      | .error error after => .error error after := by
  unfold withScope
  rw [bind_apply]
  show (inside >>= fun _ => exitScope analyzer.current) (analyzer.opened kind) = _
  rw [bind_apply]
  cases inside (analyzer.opened kind) <;> rfl

theorem withScope_eq_ok_iff {kind : ScopeKind} {inside : Analysis Unit}
    {analyzer after : Analyzer} {nothing : Unit} :
    withScope kind inside analyzer = .ok nothing after ↔
      ∃ left, inside (analyzer.opened kind) = .ok () left ∧
        after = { left with current := analyzer.current } := by
  rw [withScope_apply]
  cases inside (analyzer.opened kind) with
  | error error left => simp
  | ok nothing left => simp [eq_comm]

theorem withFrame_apply (frame : ContextFrame) (inside : Analysis Unit) (analyzer : Analyzer) :
    withFrame frame inside analyzer =
      match inside { analyzer with context := analyzer.context.push frame } with
      | .ok _ after => .ok () { after with context := after.context.exit }
      | .error error after => .error error after := by
  unfold withFrame
  rw [bind_apply]
  show (inside >>= fun _ => changeContext (·.exit))
    { analyzer with context := analyzer.context.push frame } = _
  rw [bind_apply]
  cases inside { analyzer with context := analyzer.context.push frame } <;> rfl

theorem withFrame_eq_ok_iff {frame : ContextFrame} {inside : Analysis Unit}
    {analyzer after : Analyzer} {nothing : Unit} :
    withFrame frame inside analyzer = .ok nothing after ↔
      ∃ left, inside { analyzer with context := analyzer.context.push frame } = .ok () left ∧
        after = { left with context := left.context.exit } := by
  rw [withFrame_apply]
  cases inside { analyzer with context := analyzer.context.push frame } with
  | error error left => simp
  | ok nothing left => simp [eq_comm]

theorem changeScopes_apply (change : ScopeTree → ScopeId → Except SemanticError ScopeTree)
    (analyzer : Analyzer) :
    changeScopes change analyzer =
      match change analyzer.scopes analyzer.current with
      | .ok scopes => .ok () { analyzer with scopes := scopes }
      | .error error => .error error analyzer := by
  unfold changeScopes
  rw [bind_apply]
  show (MonadExcept.ofExcept (change analyzer.scopes analyzer.current) >>= fun scopes =>
    set { analyzer with scopes := scopes } : Analysis Unit) analyzer = _
  rw [bind_apply, ofExcept_apply]
  cases change analyzer.scopes analyzer.current <;> rfl

theorem changeScopes_eq_ok_iff {change : ScopeTree → ScopeId → Except SemanticError ScopeTree}
    {analyzer after : Analyzer} {nothing : Unit} :
    changeScopes change analyzer = .ok nothing after ↔
      ∃ scopes, change analyzer.scopes analyzer.current = .ok scopes ∧
        after = { analyzer with scopes := scopes } := by
  rw [changeScopes_apply]
  cases change analyzer.scopes analyzer.current with
  | error error => simp
  | ok scopes => simp [eq_comm]

/-! ### What a walk that succeeds leaves behind -/

/-- The analyzer stands where it stood; only the tree and the queue have grown, the tree by the
given declarations in the current scope. -/
structure Passes (bindings : List (String × DataType)) (signatures : List (String × Signature))
    (before after : Analyzer) : Prop where
  limit : after.limit = before.limit
  current : after.current = before.current
  context : after.context = before.context
  activation : after.activation = before.activation
  queued : ∃ added, after.pending = added ++ before.pending
  scopes : before.scopes.Gains bindings signatures before.current after.scopes

theorem Passes.refl (analyzer : Analyzer) : Passes [] [] analyzer analyzer :=
  ⟨rfl, rfl, rfl, rfl, ⟨[], rfl⟩, .refl _ _⟩

theorem Passes.trans {bindings moreBindings : List (String × DataType)}
    {signatures moreSignatures : List (String × Signature)} {first second third : Analyzer}
    (before : Passes bindings signatures first second)
    (after : Passes moreBindings moreSignatures second third) :
    Passes (bindings ++ moreBindings) (signatures ++ moreSignatures) first third := by
  obtain ⟨early, queued⟩ := before.queued
  obtain ⟨late, furtherQueued⟩ := after.queued
  refine ⟨after.limit.trans before.limit, after.current.trans before.current,
    after.context.trans before.context, after.activation.trans before.activation,
    ⟨late ++ early, ?_⟩, before.scopes.trans (before.current ▸ after.scopes)⟩
  rw [furtherQueued, queued, List.append_assoc]

theorem Passes.inRange {bindings : List (String × DataType)}
    {signatures : List (String × Signature)} {before after : Analyzer}
    (passes : Passes bindings signatures before after)
    (inRange : before.current < before.scopes.count) : after.current < after.scopes.count := by
  rw [passes.current]
  exact (ScopeTree.grows_of_reaches passes.scopes.reaches).lt_count inRange

theorem opened_inRange (analyzer : Analyzer) (kind : ScopeKind) :
    (analyzer.opened kind).current < (analyzer.opened kind).scopes.count := by
  show analyzer.scopes.count < (analyzer.scopes.addChild analyzer.current kind).2.count
  rw [ScopeTree.count_addChild]
  exact Nat.lt_succ_self _

/-- An operation on the tree that is not refused. -/
theorem passes_changeScopes {bindings : List (String × DataType)}
    {signatures : List (String × Signature)}
    {change : ScopeTree → ScopeId → Except SemanticError ScopeTree} {before after : Analyzer}
    {nothing : Unit}
    (gains : ∀ {next}, change before.scopes before.current = .ok next →
      before.scopes.Gains bindings signatures before.current next)
    (ended : changeScopes change before = .ok nothing after) :
    Passes bindings signatures before after := by
  obtain ⟨next, changed, rfl⟩ := changeScopes_eq_ok_iff.mp ended
  exact ⟨rfl, rfl, rfl, rfl, ⟨[], rfl⟩, gains changed⟩

end Analyzer

/-- **A walk that succeeds is back where it was.** -/
theorem FirstPass.passes {bindings : List (String × DataType)}
    {signatures : List (String × Signature)} {α : Type} {walk : Analysis α}
    (pass : FirstPass bindings signatures walk) {before after : Analyzer} {value : α}
    (inRange : before.current < before.scopes.count) (ended : walk before = .ok value after) :
    Passes bindings signatures before after := by
  induction pass generalizing before after with
  | ofExcept _ =>
    obtain ⟨_, rfl⟩ := ofExcept_eq_ok_iff.mp ended
    exact .refl _
  | throw _ => cases ended
  | bind _ _ head tail =>
    obtain ⟨given, middle, first, rest⟩ := bind_eq_ok_iff.mp ended
    have early := head inRange first
    exact early.trans (tail given (early.inRange inRange) rest)
  | reading _ each => exact each _ _ _ inRange ended
  | checkOccurrence occurrence =>
    have guessed := guessed_checkExpr before.scopes before.current occurrence.place before.pending
      occurrence.expr
    unfold Analyzer.checkOccurrence at ended
    cases checked : checkExpr before.scopes before.current occurrence.place occurrence.expr
      before.pending with
    | error error queue =>
      rw [checked] at ended
      cases ended
    | ok found queue =>
      rw [checked] at ended guessed
      cases ended
      obtain ⟨added, grown, _⟩ := guessed.queued
      exact ⟨rfl, rfl, rfl, rfl, ⟨added, grown⟩, .refl _ _⟩
  | defer occurrence requirement =>
    cases ended
    exact ⟨rfl, rfl, rfl, rfl, ⟨[_], rfl⟩, .refl _ _⟩
  | declareVariable name type =>
    exact passes_changeScopes (ScopeTree.gains_declareVariable inRange) ended
  | declareFunction name signature =>
    exact passes_changeScopes (ScopeTree.gains_declareFunction inRange) ended
  | withScope kind _ ih =>
    obtain ⟨left, inner, rfl⟩ := withScope_eq_ok_iff.mp ended
    have passes := ih (before.opened_inRange kind) inner
    exact ⟨passes.limit, rfl, passes.context, passes.activation, passes.queued,
      ScopeTree.gains_inside inRange passes.scopes⟩
  | withFrame frame _ ih =>
    obtain ⟨left, inner, rfl⟩ := withFrame_eq_ok_iff.mp ended
    have here : before.current < before.scopes.count := inRange
    have passes := @ih { before with context := before.context.push frame } _ _ here inner
    refine ⟨passes.limit, passes.current, ?_, passes.activation, passes.queued, passes.scopes⟩
    show left.context.exit = before.context
    rw [passes.context]
    rfl

/-! ### The limit -/

theorem shallow_changeScopes {change : ScopeTree → ScopeId → Except SemanticError ScopeTree}
    (shallow : ∀ scopes current, ShallowValue (change scopes current)) :
    ShallowRun (changeScopes change) := by
  intro analyzer error after ended
  rw [changeScopes_apply] at ended
  cases changed : change analyzer.scopes analyzer.current with
  | error refusal =>
    rw [changed] at ended
    cases ended
    exact shallow _ _ _ changed
  | ok next =>
    rw [changed] at ended
    cases ended

/-- A walk does not complain of the limit. -/
theorem FirstPass.shallow {bindings : List (String × DataType)}
    {signatures : List (String × Signature)} {α : Type} {walk : Analysis α}
    (pass : FirstPass bindings signatures walk) : ShallowRun walk := by
  induction pass with
  | ofExcept shallow => exact shallowRun_ofExcept shallow
  | throw shallow => exact shallowRun_throw shallow
  | bind _ _ head tail => exact head.bind tail
  | reading _ each => exact fun analyzer => each _ _ _ analyzer
  | checkOccurrence occurrence =>
    intro analyzer error after ended
    unfold Analyzer.checkOccurrence at ended
    split at ended
    · cases ended
    · rename_i failed
      cases ended
      exact shallow_checkExpr _ _ _ _ _ _ _ failed
  | defer occurrence requirement => exact nofun
  | declareVariable name type =>
    exact shallow_changeScopes fun scopes current =>
      shallow_declareVariable scopes current name type
  | declareFunction name signature =>
    exact shallow_changeScopes fun scopes current =>
      shallow_declareFunction scopes current name signature
  | withScope kind _ ih =>
    intro analyzer error after ended
    rw [withScope_apply] at ended
    split at ended
    · cases ended
    · rename_i failed
      cases ended
      exact ih _ _ _ failed
  | withFrame frame _ ih =>
    intro analyzer error after ended
    rw [withFrame_apply] at ended
    split at ended
    · cases ended
    · rename_i failed
      cases ended
      exact ih _ _ _ failed

/-- The analyzer with another limit. -/
def Analyzer.withLimit (analyzer : Analyzer) (limit : Nat) : Analyzer :=
  { analyzer with limit := limit }

/-- The same end of a computation under another limit. -/
def endWithLimit {α : Type} (limit : Nat) :
    EStateM.Result SemanticError Analyzer α → EStateM.Result SemanticError Analyzer α
  | .ok value after => .ok value (after.withLimit limit)
  | .error error after => .error error (after.withLimit limit)

theorem changeScopes_withLimit (change : ScopeTree → ScopeId → Except SemanticError ScopeTree)
    (limit : Nat) (analyzer : Analyzer) :
    changeScopes change (analyzer.withLimit limit) =
      endWithLimit limit (changeScopes change analyzer) := by
  rw [changeScopes_apply, changeScopes_apply]
  show (match change analyzer.scopes analyzer.current with
    | .ok scopes => _
    | .error error => _) = _
  cases change analyzer.scopes analyzer.current <;> rfl

/-- **A walk does not look at the limit.** -/
theorem FirstPass.withLimit {bindings : List (String × DataType)}
    {signatures : List (String × Signature)} {α : Type} {walk : Analysis α}
    (pass : FirstPass bindings signatures walk) (limit : Nat) (analyzer : Analyzer) :
    walk (analyzer.withLimit limit) = endWithLimit limit (walk analyzer) := by
  induction pass generalizing analyzer with
  | @ofExcept _ value _ => cases value <;> rfl
  | throw _ => rfl
  | @bind _ _ _ _ _ _ first _ _ _ head tail =>
    rw [bind_apply, head, bind_apply]
    cases first analyzer with
    | ok value middle => exact tail value middle
    | error error middle => rfl
  | reading _ each => exact each _ _ _ analyzer
  | checkOccurrence occurrence =>
    unfold Analyzer.checkOccurrence Analyzer.withLimit
    dsimp only
    cases checkExpr analyzer.scopes analyzer.current occurrence.place occurrence.expr
      analyzer.pending <;> rfl
  | defer occurrence requirement => rfl
  | declareVariable name type => exact changeScopes_withLimit _ limit analyzer
  | declareFunction name signature => exact changeScopes_withLimit _ limit analyzer
  | @withScope _ _ inside kind _ ih =>
    have inner : inside ((analyzer.withLimit limit).opened kind) =
        endWithLimit limit (inside (analyzer.opened kind)) := ih (analyzer.opened kind)
    rw [withScope_apply, withScope_apply, inner]
    cases inside (analyzer.opened kind) <;> rfl
  | @withFrame _ _ inside frame _ ih =>
    let framed : Analyzer := { analyzer with context := analyzer.context.push frame }
    have inner : inside (framed.withLimit limit) = endWithLimit limit (inside framed) := ih framed
    rw [withFrame_apply, withFrame_apply]
    show (match inside (framed.withLimit limit) with
      | .ok _ after => _
      | .error error after => _) = _
    rw [inner]
    show _ = endWithLimit limit (match inside framed with
      | .ok _ after => _
      | .error error after => _)
    cases inside framed <;> rfl

end TypedImp
