/-
**Analyses that run side by side.**

An analysis looks at names, numbers of scopes and places only to compare them with each other. So it
can be carried over into another one, with other names, other numbers and other places: whatever the
first one does, the second one does in its own terms.

* `Translation` — new names, numbers, places and trees, such that every operation on a tree and every
  lookup in it can be carried over.
* `Translates` — a computation does in the new terms what another one does; closed under running one
  part after another.
* `translates_checkExpr`, `translates_checkStmt`, … — **the first pass over a program in the new
  terms does what the pass over the program does.**
* `resolved_translate`, `outcome_drainEach_translate` — **so does the second pass.**
* `Translation.analyze_eq` — an analysis whose first pass is carried over is carried over.
-/

import TypedImp.Proofs.CallLimit
import TypedImp.Proofs.Renaming

namespace TypedImp

open Analyzer

/-! ### Answers -/

/-- An answer in new terms: the value is changed, and an error gets the new names. -/
def Naming.answer {α β : Type} (naming : Naming) (change : α → β) :
    Except SemanticError α → Except SemanticError β
  | .ok value => .ok (change value)
  | .error error => .error (error.rename naming)

section Answers

variable {α β γ : Type} {naming : Naming}

/-- The answers of two parts one after the other are carried over part by part. -/
theorem Naming.answer_bind {change : α → β} {first : Except SemanticError α}
    {second : Except SemanticError β} {next : α → Except SemanticError γ}
    {other : β → Except SemanticError γ} (head : second = naming.answer change first)
    (tail : ∀ value, other (change value) = naming.answer id (next value)) :
    second >>= other = naming.answer id (first >>= next) := by
  rw [head]
  cases first with
  | error error => rfl
  | ok value => exact tail value

theorem Naming.answer_map {δ : Type} {change : α → β} {finish : γ → δ} {before : α → γ}
    {after : β → δ} (value : Except SemanticError α)
    (same : ∀ value, after (change value) = finish (before value)) :
    (naming.answer change value).map after = naming.answer finish (value.map before) := by
  cases value with
  | error error => rfl
  | ok value => exact congrArg Except.ok (same value)

/-- With the same names only the value is changed. -/
theorem Naming.answer_same (change : α → β) (value : Except SemanticError α) :
    Naming.same.answer change value = value.map change := by
  cases value with
  | error error => exact congrArg Except.error error.rename_same
  | ok value => rfl

end Answers

/-! ### Translations -/

/-- **A translation**: names, numbers of scopes and places of the one analysis in terms of the
other, and the tree of scopes that the other one has. Operations and lookups are carried over. -/
structure Translation where
  naming : Naming
  scope : ScopeId → ScopeId
  place : Place → Place
  tree : ScopeTree → ScopeTree
  place_cons : ∀ branch outer, place (branch :: outer) = branch :: place outer
  place_injective : Function.Injective place
  declarations_tree : ∀ old, (tree old).declarations = old.declarations
  addChild_tree : ∀ old id kind, kind ≠ .global →
    (tree old).addChild (scope id) (kind.rename naming) =
      (scope old.count, tree (old.addChild id kind).2)
  declareVariable_tree : ∀ old id name type,
    (tree old).declareVariable (scope id) (naming.ofVariable name) type =
      naming.answer tree (old.declareVariable id name type)
  declareFunction_tree : ∀ old id name signature,
    (tree old).declareFunction (scope id) (naming.ofFunction name) (signature.rename naming) =
      naming.answer tree (old.declareFunction id name signature)
  lookupVariable_tree : ∀ old id name,
    (tree old).lookupVariable (scope id) (naming.ofVariable name) = old.lookupVariable id name
  lookupVariableBefore_tree : ∀ old id name before,
    (tree old).lookupVariableBefore (scope id) (naming.ofVariable name) before =
      old.lookupVariableBefore id name before
  lookupFunction_tree : ∀ old id name,
    (tree old).lookupFunction (scope id) (naming.ofFunction name) =
      (old.lookupFunction id name).map (Signature.rename naming)
  enclosingReturnType_tree : ∀ old inner,
    (tree old).enclosingReturnType (scope inner) =
      naming.answer id (old.enclosingReturnType inner)

namespace Translation

variable (translation : Translation)

/-- The site in the new terms. -/
def site (site : Site) : Site :=
  { site with scope := translation.scope site.scope }

/-- The occurrence in the new terms. -/
def occurrence (occurrence : Occurrence) : Occurrence :=
  ⟨translation.place occurrence.place, occurrence.expr.rename translation.naming⟩

/-- The other side of an operator in the new terms. -/
def otherSide : OtherSide → OtherSide
  | .known type => .known type
  | .waiting occurrence => .waiting (translation.occurrence occurrence)

/-- The requirement in the new terms. -/
def requirement : Requirement → Requirement
  | .bare => .bare
  | .assignTo name expected => .assignTo (translation.naming.ofVariable name) expected
  | .returnValue expected => .returnValue expected
  | .binaryOperand operator other waitsLeft =>
    .binaryOperand operator (translation.otherSide other) waitsLeft
  | .condition => .condition
  | .numericOperand operator => .numericOperand operator

/-- The entry of the queue in the new terms. -/
def pending (entry : Pending) : Pending :=
  ⟨translation.occurrence entry.occurrence, translation.site entry.site,
    translation.requirement entry.requirement⟩

/-- The calls under way in the new terms. -/
def activation (activation : Activation) : Activation :=
  { activation with resolving := activation.resolving.map translation.place }

/-- The analyzer in the new terms. -/
def analyzer (analyzer : Analyzer) : Analyzer :=
  { analyzer with
    scopes := translation.tree analyzer.scopes
    current := translation.scope analyzer.current
    pending := analyzer.pending.map translation.pending
    activation := translation.activation analyzer.activation }

end Translation

/-! ### The rules -/

section Rules

variable {naming : Naming}

/-- An answer whose errors name nothing is the same in all terms. -/
theorem FailsWith.answer {α : Type} {value : Except SemanticError α}
    (nameless : FailsWith SemanticError.Nameless value) : naming.answer id value = value := by
  cases value with
  | ok value => rfl
  | error error => exact congrArg Except.error ((nameless error rfl).rename naming)

theorem answer_expectArgument (callee : String) (position : Nat) (expected received : DataType) :
    naming.answer id (expectArgument callee position expected received) =
      expectArgument (naming.ofFunction callee) position expected received := by
  unfold expectArgument
  split_ifs <;> rfl

theorem answer_variableType (name : String) (found : Option Variable) :
    naming.answer id (variableType name found) = variableType (naming.ofVariable name) found := by
  cases found <;> rfl

/-- What is assigned is looked up under the new name. -/
theorem answer_assignedType {operator : String} {target : Expr}
    {lookup other : String → Option Variable}
    (same : ∀ name, other (naming.ofVariable name) = lookup name) :
    naming.answer id (assignedType operator target lookup) =
      assignedType operator (target.rename naming) other := by
  cases target with
  | identifier name =>
    show naming.answer id (variableType name (lookup name) >>= _) =
      variableType (naming.ofVariable name) (other (naming.ofVariable name)) >>= _
    rw [same]
    refine (Naming.answer_bind (answer_variableType _ _).symm fun expected => ?_).symm
    dsimp only [id]
    split_ifs <;> rfl
  | literal | assign | binary | unary | call => rfl

end Rules

/-! ### Computations -/

/-- **The second computation does in the new terms what the first one does**: from a state that is
carried over it ends with the same value or the renamed error, in a state that is carried over. -/
def Translates {σ α : Type} (naming : Naming) (state : σ → σ)
    (first second : EStateM SemanticError σ α) : Prop :=
  ∀ before, second (state before) =
    match first before with
    | .ok value after => .ok value (state after)
    | .error error after => .error (error.rename naming) (state after)

namespace Translates

variable {σ α β : Type} {naming : Naming} {state : σ → σ}

theorem ofExcept {value other : Except SemanticError α} (same : naming.answer id value = other) :
    Translates naming state (MonadExcept.ofExcept value) (MonadExcept.ofExcept other) := by
  intro before
  rw [← same]
  cases value <;> rfl

theorem pure (value : α) :
    Translates naming state (pure value : EStateM SemanticError σ α) (pure value) :=
  fun _ => rfl

theorem throw (error : SemanticError) :
    Translates naming state (throw error : EStateM SemanticError σ α)
      (throw (error.rename naming)) :=
  fun _ => rfl

theorem bind {first second : EStateM SemanticError σ α}
    {next other : α → EStateM SemanticError σ β} (head : Translates naming state first second)
    (tail : ∀ value, Translates naming state (next value) (other value)) :
    Translates naming state (first >>= next) (second >>= other) := by
  intro before
  rw [bind_apply, bind_apply, head before]
  cases first before with
  | error error after => rfl
  | ok value after => exact tail value after

/-- What is read from the state is read from the state that is carried over. -/
theorem reading {next other : σ → EStateM SemanticError σ α}
    (each : ∀ before, Translates naming state (next before) (other (state before))) :
    Translates naming state (get >>= next) (get >>= other) :=
  fun before => each before before

theorem ite {condition : Prop} [Decidable condition] {yes no other : EStateM SemanticError σ α}
    {further : EStateM SemanticError σ α} (first : Translates naming state yes other)
    (second : Translates naming state no further) :
    Translates naming state (if condition then yes else no)
      (if condition then other else further) := by
  split
  · exact first
  · exact second

end Translates

/-! ### The first pass -/

section FirstPass

variable (translation : Translation)

theorem translates_checkOperands (site : Site) (operator : String) (left right : Occurrence)
    (leftType rightType : Checked) :
    Translates translation.naming (List.map translation.pending)
      (checkOperands site operator left right leftType rightType)
      (checkOperands (translation.site site) operator (translation.occurrence left)
        (translation.occurrence right) leftType rightType) := by
  unfold checkOperands
  cases OperatorCategory.of? operator with
  | none => exact .throw _
  | some category =>
    cases leftType with
    | known leftType =>
      cases rightType with
      | known rightType =>
        exact .bind (.ofExcept (nameless_binaryResult _ _ _).answer) fun _ => .pure _
      | deferred =>
        exact .bind (.ofExcept (nameless_resultBeside _ _ _).answer) fun _ =>
          .bind (fun _ => rfl) fun _ => .pure _
    | deferred =>
      cases rightType with
      | known rightType =>
        exact .bind (.ofExcept (nameless_resultBeside _ _ _).answer) fun _ =>
          .bind (fun _ => rfl) fun _ => .pure _
      | deferred => exact .ite (.pure _) (.bind (fun _ => rfl) fun _ => .pure _)

/-- **The first pass over an expression is carried over.** -/
theorem translates_checkExpr (tree : ScopeTree) (scope : ScopeId) (place : Place) (expr : Expr) :
    Translates translation.naming (List.map translation.pending)
      (checkExpr tree scope place expr)
      (checkExpr (translation.tree tree) (translation.scope scope) (translation.place place)
        (expr.rename translation.naming)) := by
  cases expr with
  | literal type value =>
    rw [Expr.rename, checkExpr, checkExpr]
    exact .pure _
  | identifier name =>
    rw [Expr.rename, checkExpr, checkExpr, translation.lookupVariable_tree]
    exact .bind (.ofExcept (answer_variableType _ _)) fun _ => .pure _
  | assign operator target value =>
    rw [Expr.rename, checkExpr, checkExpr]
    refine .bind (.ofExcept (answer_assignedType (translation.lookupVariable_tree tree scope)))
      fun expected => ?_
    rw [← translation.place_cons]
    refine .bind (translates_checkExpr tree scope _ value) fun checked => ?_
    cases checked with
    | known received => exact .ite (.throw _) (.pure _)
    | deferred => exact .pure _
  | binary operator left right =>
    rw [Expr.rename, checkExpr, checkExpr, translation.declarations_tree,
      ← translation.place_cons, ← translation.place_cons]
    exact .bind (translates_checkExpr tree scope _ left) fun leftType =>
      .bind (translates_checkExpr tree scope _ right) fun rightType =>
        translates_checkOperands translation ⟨scope, tree.declarations⟩ operator _ _ _ _
  | unary operator fixity operand =>
    rw [Expr.rename, checkExpr, checkExpr, ← translation.place_cons]
    exact translates_checkExpr tree scope _ operand
  | call callee arguments =>
    rw [Expr.rename, checkExpr, checkExpr]
    exact .pure _

/-! ### Statements -/

/-- A part of the first pass is carried over. -/
abbrev Carries {α : Type} (walk other : Analysis α) : Prop :=
  Translates translation.naming translation.analyzer walk other

variable {translation}

theorem carries_require {occurrence : Occurrence} {requirement : Requirement}
    {test : DataType → Except SemanticError Unit}
    (nameless : ∀ type, FailsWith SemanticError.Nameless (test type)) :
    Carries translation (require occurrence requirement test)
      (require (translation.occurrence occurrence) (translation.requirement requirement) test) := by
  have checks : Carries translation (checkOccurrence occurrence)
      (checkOccurrence (translation.occurrence occurrence)) := by
    intro analyzer
    have expr := translates_checkExpr translation analyzer.scopes analyzer.current occurrence.place
      occurrence.expr analyzer.pending
    unfold checkOccurrence
    dsimp only [Translation.analyzer, Translation.occurrence]
    rw [expr]
    cases checkExpr analyzer.scopes analyzer.current occurrence.place occurrence.expr
      analyzer.pending <;> rfl
  refine .bind checks fun checked => ?_
  cases checked with
  | known received => exact .ofExcept (nameless received).answer
  | deferred =>
    intro analyzer
    show EStateM.Result.ok () _ = EStateM.Result.ok () _
    congr 1
    unfold Translation.analyzer Analyzer.site
    simp [Translation.pending, Translation.site, translation.declarations_tree]

/-- An operation on the tree is carried over if its result is. -/
theorem carries_changeScopes
    {change other : ScopeTree → ScopeId → Except SemanticError ScopeTree}
    (same : ∀ tree id, other (translation.tree tree) (translation.scope id) =
      translation.naming.answer translation.tree (change tree id)) :
    Carries translation (changeScopes change) (changeScopes other) := by
  intro analyzer
  have changed := same analyzer.scopes analyzer.current
  rw [changeScopes_apply, changeScopes_apply]
  dsimp only [Translation.analyzer]
  rw [changed]
  cases change analyzer.scopes analyzer.current <;> rfl

theorem carries_declareVariable (name : String) (type : DataType) :
    Carries translation (declareVariable name type)
      (declareVariable (translation.naming.ofVariable name) type) :=
  carries_changeScopes fun tree id => translation.declareVariable_tree tree id name type

theorem carries_withScope {kind : ScopeKind} {inside other : Analysis Unit}
    (block : kind ≠ .global) (carries : Carries translation inside other) :
    Carries translation (withScope kind inside)
      (withScope (kind.rename translation.naming) other) := by
  intro analyzer
  have opened : (translation.analyzer analyzer).opened (kind.rename translation.naming) =
      translation.analyzer (analyzer.opened kind) := by
    have added := translation.addChild_tree analyzer.scopes analyzer.current kind block
    have number := congrArg Prod.fst added
    unfold Analyzer.opened Translation.analyzer
    dsimp only
    rw [added]
    congr 1
  have inner := carries (analyzer.opened kind)
  rw [withScope_apply, withScope_apply, opened, inner]
  cases inside (analyzer.opened kind) <;> rfl

theorem carries_withFrame {frame : ContextFrame} {inside other : Analysis Unit}
    (carries : Carries translation inside other) :
    Carries translation (withFrame frame inside) (withFrame frame other) := by
  intro analyzer
  have pushed : { translation.analyzer analyzer with
        context := (translation.analyzer analyzer).context.push frame } =
      translation.analyzer { analyzer with context := analyzer.context.push frame } := rfl
  rw [withFrame_apply, withFrame_apply, pushed, carries _]
  cases inside { analyzer with context := analyzer.context.push frame } <;> rfl

theorem carries_checkVariableDecl (place : Place) (type : DataType) (name : String)
    (initializer : Expr) :
    Carries translation (checkVariableDecl place type name initializer)
      (checkVariableDecl (translation.place place) type (translation.naming.ofVariable name)
        (initializer.rename translation.naming)) := by
  unfold checkVariableDecl
  rw [← translation.place_cons]
  exact .bind (carries_require (nameless_expectType type)) fun _ => carries_declareVariable _ _

theorem carries_checkCondition (place : Place) (condition : Expr) :
    Carries translation (checkCondition place condition)
      (checkCondition (translation.place place) (condition.rename translation.naming)) :=
  carries_require nameless_expectCondition

theorem carries_checkReturn (place : Place) (value : Option Expr) :
    Carries translation (checkReturn place value)
      (checkReturn (translation.place place) (value.map (Expr.rename translation.naming))) := by
  refine .reading fun analyzer => .bind (.ofExcept ?_) fun expected => ?_
  · exact (translation.enclosingReturnType_tree _ _).symm
  · cases value with
    | some value =>
      dsimp only [Option.map_some]
      rw [← translation.place_cons]
      exact carries_require (nameless_expectType expected)
    | none => exact .ite (.throw _) (.pure ())

theorem carries_checkIncrement (place : Place) (increment : Expr) :
    Carries translation (checkIncrement place increment)
      (checkIncrement (translation.place place) (increment.rename translation.naming)) := by
  cases increment with
  | unary operator fixity operand =>
    unfold checkIncrement Expr.rename
    dsimp only
    rw [← translation.place_cons]
    exact .ite (carries_require (nameless_expectNumeric operator)) (.throw _)
  | literal | identifier | assign | binary | call => exact .throw _

theorem carries_checkInitializer (place : Place) (initializer : Stmt) :
    Carries translation (checkInitializer place initializer)
      (checkInitializer (translation.place place) (initializer.rename translation.naming)) := by
  cases initializer with
  | variableDecl type name value => exact carries_checkVariableDecl _ _ _ _
  | functionDecl | expression | returnValue | ifChain | whileLoop | forLoop | breakLoop
  | continueLoop => exact .throw _

theorem carries_declareParameters (parameters : List Parameter) :
    Carries translation (declareParameters parameters)
      (declareParameters (parameters.map (Parameter.rename translation.naming))) := by
  induction parameters with
  | nil => exact .pure ()
  | cons parameter parameters ih => exact .bind (carries_declareVariable _ _) fun _ => ih

/-- A statement that is refused unless the context allows it, which has no names in it. -/
theorem carries_allowed {test : ContextStack → Bool} {error : SemanticError}
    (nameless : error.Nameless) :
    Carries translation (do if !test (← get).context then throw error)
      (do if !test (← get).context then throw error) := by
  refine .reading fun analyzer => .ite ?_ (.pure ())
  have thrown : Carries translation (throw error : Analysis Unit) _ := .throw error
  rwa [nameless.rename] at thrown

mutual

/-- **The first pass over a statement is carried over.** -/
theorem carries_checkStmt (place : Place) :
    (stmt : Stmt) → Carries translation (checkStmt place stmt)
      (checkStmt (translation.place place) (stmt.rename translation.naming))
  | .variableDecl type name initializer => by
    rw [Stmt.rename, checkStmt, checkStmt]
    exact carries_checkVariableDecl _ _ _ _
  | .functionDecl returnType name parameters body => by
    rw [Stmt.rename, checkStmt, checkStmt, ← translation.place_cons]
    have declared : Carries translation (declareFunction name ⟨parameters, returnType⟩)
        (declareFunction (translation.naming.ofFunction name)
          (Signature.rename translation.naming ⟨parameters, returnType⟩)) :=
      carries_changeScopes fun tree id => translation.declareFunction_tree tree id name _
    exact .bind declared fun _ => carries_withScope nofun (.bind (carries_declareParameters _)
      fun _ => carries_withFrame (carries_checkStmts _ 0 body))
  | .expression value => by
    rw [Stmt.rename, checkStmt, checkStmt, ← translation.place_cons]
    exact carries_require fun _ => .ok ()
  | .returnValue value => by
    rw [Stmt.rename, checkStmt, checkStmt]
    exact carries_checkReturn _ _
  | .ifChain condition body alternatives => by
    rw [Stmt.rename, checkStmt, checkStmt]
    simp only [← translation.place_cons]
    exact .bind (carries_checkCondition _ _) fun _ =>
      .bind (carries_withScope nofun (carries_checkStmts _ 0 body)) fun _ =>
        carries_checkAlternatives _ alternatives
  | .whileLoop condition body => by
    rw [Stmt.rename, checkStmt, checkStmt]
    simp only [← translation.place_cons]
    exact .bind (carries_checkCondition _ _) fun _ =>
      carries_withFrame (carries_withScope nofun (carries_checkStmts _ 0 body))
  | .forLoop initializer condition increment body => by
    rw [Stmt.rename, checkStmt, checkStmt]
    simp only [← translation.place_cons]
    exact carries_withFrame (carries_withScope nofun (.bind (carries_checkInitializer _ _)
      fun _ => .bind (carries_checkCondition _ _) fun _ => .bind (carries_checkIncrement _ _)
        fun _ => carries_checkStmts _ 0 body))
  | .breakLoop => by
    rw [Stmt.rename, checkStmt, checkStmt]
    exact carries_allowed trivial
  | .continueLoop => by
    rw [Stmt.rename, checkStmt, checkStmt]
    exact carries_allowed trivial

theorem carries_checkAlternatives (place : Place) :
    (alternatives : Alternatives) → Carries translation (checkAlternatives place alternatives)
      (checkAlternatives (translation.place place) (alternatives.rename translation.naming))
  | .none => by
    rw [Alternatives.rename, checkAlternatives, checkAlternatives]
    exact .pure ()
  | .otherwise body => by
    rw [Alternatives.rename, checkAlternatives, checkAlternatives, ← translation.place_cons]
    exact carries_withScope nofun (carries_checkStmts _ 0 body)
  | .elseIf condition body alternatives => by
    rw [Alternatives.rename, checkAlternatives, checkAlternatives]
    simp only [← translation.place_cons]
    exact .bind (carries_checkCondition _ _) fun _ =>
      .bind (carries_withScope nofun (carries_checkStmts _ 0 body)) fun _ =>
        carries_checkAlternatives _ alternatives

theorem carries_checkStmts (place : Place) (index : Nat) :
    (body : List Stmt) → Carries translation (checkStmts place index body)
      (checkStmts (translation.place place) index (renameStmts translation.naming body))
  | [] => by
    rw [renameStmts, checkStmts, checkStmts]
    exact .pure ()
  | stmt :: later => by
    rw [renameStmts, checkStmts, checkStmts, ← translation.place_cons]
    exact .bind (carries_checkStmt _ stmt) fun _ => carries_checkStmts _ _ later

end

end FirstPass

/-! ### The second pass -/

section Resolving

variable (translation : Translation)

theorem calledSignature_translate (tree : ScopeTree) (scope : ScopeId) (callee : String)
    (received : Nat) :
    calledSignature (translation.tree tree) (translation.scope scope)
        (translation.naming.ofFunction callee) received =
      translation.naming.answer (Signature.rename translation.naming)
        (calledSignature tree scope callee received) := by
  unfold calledSignature
  rw [translation.lookupFunction_tree]
  cases tree.lookupFunction scope callee with
  | none => rfl
  | some signature =>
    simp only [Option.map_some, Signature.rename, List.length_map]
    split_ifs <;> rfl

/-- A call is under way in the new terms if it is under way. -/
theorem Translation.mem_resolving_iff {place : Place} {activation : Activation} :
    translation.place place ∈ (translation.activation activation).resolving ↔
      place ∈ activation.resolving :=
  List.mem_map_of_injective translation.place_injective

variable {tree : ScopeTree} {limit : Nat} {site : Site}

mutual

/-- **Following the calls of an expression is carried over.** -/
theorem resolved_translate (activation : Activation) (place : Place) : (expr : Expr) →
    resolved (translation.tree tree) limit (translation.site site)
        (translation.activation activation) (translation.place place)
        (expr.rename translation.naming) =
      translation.naming.answer id (resolved tree limit site activation place expr)
  | .literal type value => by
    rw [Expr.rename, resolved_literal, resolved_literal]
    rfl
  | .identifier name => by
    rw [Expr.rename, resolved_identifier, resolved_identifier, answer_variableType]
    exact congrArg _ (translation.lookupVariableBefore_tree tree _ _ _)
  | .assign operator target value => by
    rw [Expr.rename, resolved_assign, resolved_assign]
    refine Naming.answer_bind (answer_assignedType fun name =>
      translation.lookupVariableBefore_tree tree _ _ _).symm fun expected => ?_
    rw [← translation.place_cons]
    refine Naming.answer_bind (resolved_translate activation _ value) fun received => ?_
    exact Naming.answer_bind (nameless_expectType _ _).answer.symm fun _ => rfl
  | .binary operator left right => by
    rw [Expr.rename, resolved_binary, resolved_binary, ← translation.place_cons,
      ← translation.place_cons]
    refine Naming.answer_bind (resolved_translate activation _ left) fun leftType => ?_
    refine Naming.answer_bind (resolved_translate activation _ right) fun rightType => ?_
    exact (nameless_binaryResult _ _ _).answer.symm
  | .unary operator fixity operand => by
    rw [Expr.rename, resolved_unary, resolved_unary, ← translation.place_cons]
    exact resolved_translate activation _ operand
  | .call callee arguments => by
    rw [Expr.rename, resolved_call, resolved_call]
    by_cases full : limit ≤ activation.depth
    · rw [if_pos full, if_pos (show limit ≤ (translation.activation activation).depth from full)]
      rfl
    · rw [if_neg full, if_neg (show ¬ limit ≤ (translation.activation activation).depth from full)]
      by_cases busy : place ∈ activation.resolving
      · rw [if_pos busy, if_pos (translation.mem_resolving_iff.mpr busy)]
        rfl
      · rw [if_neg busy, if_neg fun other => busy (translation.mem_resolving_iff.mp other),
          length_renameArguments]
        refine Naming.answer_bind (calledSignature_translate translation _ _ _ _)
          fun signature => ?_
        exact Naming.answer_bind (resolvedArguments_translate (activation.enter place) place callee 0
          arguments signature.parameters) fun _ => rfl

/-- Testing the arguments of a call is carried over. -/
theorem resolvedArguments_translate (activation : Activation) (place : Place) (callee : String)
    (index : Nat) : (arguments : List Expr) → (parameters : List Parameter) →
    resolvedArguments (translation.tree tree) limit (translation.site site)
        (translation.activation activation) (translation.place place)
        (translation.naming.ofFunction callee) index (renameArguments translation.naming arguments)
        (parameters.map (Parameter.rename translation.naming)) =
      translation.naming.answer id
        (resolvedArguments tree limit site activation place callee index arguments parameters)
  | argument :: arguments, parameter :: parameters => by
    rw [renameArguments, List.map_cons, resolvedArguments_cons, resolvedArguments_cons,
      ← translation.place_cons]
    refine Naming.answer_bind (resolved_translate activation _ argument) fun received => ?_
    exact Naming.answer_bind (answer_expectArgument _ _ _ _).symm fun _ =>
      resolvedArguments_translate activation place callee (index + 1) arguments parameters
  | [], _ => by
    unfold resolvedArguments
    rw [renameArguments, resolveArguments.eq_def, resolveArguments.eq_def]
    rfl
  | _ :: _, [] => by
    unfold resolvedArguments
    rw [renameArguments, resolveArguments.eq_def, resolveArguments.eq_def]
    rfl

end

/-- **Resolving an entry of the queue is carried over.** -/
theorem outcome_resolvePending_translate (entry : Pending) (activation : Activation) :
    outcome (resolvePending (translation.tree tree) limit (translation.pending entry))
        (translation.activation activation) =
      translation.naming.answer id (outcome (resolvePending tree limit entry) activation) := by
  rw [outcome_resolvePending, outcome_resolvePending]
  refine Naming.answer_bind (resolved_translate translation activation _ _) fun received => ?_
  unfold Translation.pending
  dsimp only
  cases entry.requirement with
  | bare => rfl
  | assignTo | returnValue => exact (nameless_expectType _ _).answer.symm
  | condition => exact (nameless_expectCondition _).answer.symm
  | numericOperand => exact (nameless_expectNumeric _ _).answer.symm
  | binaryOperand operator other waitsLeft =>
    have side : resolvedOther (translation.tree tree) limit (translation.site entry.site)
          (translation.activation activation) (translation.otherSide other) =
        translation.naming.answer id (resolvedOther tree limit entry.site activation other) := by
      cases other with
      | known type => rfl
      | waiting occurrence => exact resolved_translate translation activation _ _
    have both (otherType : DataType) : FailsWith SemanticError.Nameless
        (if waitsLeft then binaryResult operator received otherType
          else binaryResult operator otherType received) :=
      .ite (nameless_binaryResult _ _ _) (nameless_binaryResult _ _ _)
    exact Naming.answer_bind side fun otherType => ((both otherType).map _).answer.symm

end Resolving

/-- **Working off the queue is carried over**, wherever the analyzers stand. -/
theorem outcome_drainEach_translate (translation : Translation) (entries : List Pending)
    {analyzer other : Analyzer} (scopes : other.scopes = translation.tree analyzer.scopes)
    (limit : other.limit = analyzer.limit)
    (activation : other.activation = translation.activation analyzer.activation) :
    outcome (drainEach (entries.map translation.pending)) other =
      translation.naming.answer id (outcome (drainEach entries) analyzer) := by
  induction entries generalizing analyzer other with
  | nil => rfl
  | cons entry older ih =>
    rw [List.map_cons, outcome_drainEach_cons, outcome_drainEach_cons, scopes, limit, activation]
    exact Naming.answer_bind (outcome_resolvePending_translate translation entry _) fun _ =>
      ih rfl rfl rfl

/-- **An analysis whose first pass is carried over is carried over.** Where the first pass comes to
stand at its end does not matter. -/
theorem Translation.analyze_eq (translation : Translation) {program other : Program} {limit : Nat}
    (current : Analyzer → ScopeId)
    (pass : checkProgram other (start limit) =
      match checkProgram program (start limit) with
      | .ok _ after => .ok () { translation.analyzer after with current := current after }
      | .error error after =>
        .error (error.rename translation.naming) (translation.analyzer after)) :
    analyze other limit = translation.naming.answer translation.tree (analyze program limit) := by
  cases ended : checkProgram program (start limit) with
  | error error after =>
    rw [ended] at pass
    rw [analyze_of_error ended, analyze_of_error pass]
    rfl
  | ok nothing after =>
    rw [ended] at pass
    have drained : outcome drain { translation.analyzer after with current := current after } =
        translation.naming.answer id (outcome drain after) :=
      outcome_drainEach_translate translation after.pending rfl rfl rfl
    rw [analyze_of_ok ended, analyze_of_ok pass, drained]
    exact Naming.answer_map _ fun _ => rfl

end TypedImp
