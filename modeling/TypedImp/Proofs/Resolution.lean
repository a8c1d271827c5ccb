/-
**What the second pass finds.**

Following calls changes nothing: whichever way it ends, the calls under way are those that were
under way before. An expression is therefore resolved to a type or to an error, `resolved`, and the
second pass is read off equations between these, one for each form of expression.

* `resolveType_restores` — following calls restores the calls under way.
* `resolved_eq_ok_iff` — **an expression resolves to a type exactly when it has that type from its
  site and its calls fit under the limit.** The limit counts calls inside calls alone, and no call
  is found under way, since the calls under way around it have shorter places (`Fresh`).
* `outcome_resolvePending` — an entry of the queue is resolved to a type, which is then tested.
* `Pending.resolves_iff` — an entry is resolved exactly when its requirement is met.
* `drain_eq_ok_iff` — the queue is resolved exactly when each of its entries is, all in one tree.
-/

import Mathlib.Tactic.SplitIfs
import TypedImp.Analysis.Resolve
import TypedImp.Proofs.CallDepth
import TypedImp.Proofs.Computation
import TypedImp.Proofs.Typing

namespace TypedImp

/-! ### Following calls restores the calls under way -/

theorem admitCall_apply (limit : Nat) (place : Place) (callee : String)
    (activation : Activation) :
    admitCall limit place callee activation =
      if limit ≤ activation.depth then .error (.resolutionTooDeep limit) activation
      else if place ∈ activation.resolving then .error (.resolutionCycle callee) activation
      else .ok () activation := by
  unfold admitCall
  rw [bind_apply]
  show (if limit ≤ activation.depth then _ else _ : Resolving Unit) activation = _
  split
  · rfl
  · show (if place ∈ activation.resolving then _ else _ : Resolving Unit) activation = _
    split <;> rfl

theorem restores_admitCall (limit : Nat) (place : Place) (callee : String) :
    Restores (admitCall limit place callee) := by
  intro activation
  unfold outcome
  rw [admitCall_apply]
  split_ifs <;> rfl

@[simp]
theorem Activation.leave_enter (activation : Activation) (place : Place) :
    (activation.enter place).leave place = activation := by
  simp [enter, leave]

theorem Activation.depth_enter (activation : Activation) (place : Place) :
    (activation.enter place).depth = activation.depth + 1 := rfl

theorem during_apply {α : Type} {place : Place} {inside : Resolving α}
    (restores : Restores inside) (activation : Activation) :
    during place inside activation =
      match outcome inside (activation.enter place) with
      | .ok value => .ok value activation
      | .error error => .error error activation := by
  unfold during
  rw [restores (activation.enter place)]
  cases outcome inside (activation.enter place) <;> simp

theorem restores_during {α : Type} {inside : Resolving α} (restores : Restores inside)
    (place : Place) : Restores (during place inside) := by
  intro activation
  rw [outcome, during_apply restores]
  cases outcome inside (activation.enter place) <;> rfl

theorem outcome_during {α : Type} {place : Place} {inside : Resolving α}
    (restores : Restores inside) (activation : Activation) :
    outcome (during place inside) activation = outcome inside (activation.enter place) := by
  rw [outcome, during_apply restores]
  cases outcome inside (activation.enter place) <;> rfl

section Equations

variable {tree : ScopeTree} {limit : Nat} {site : Site}

/-- The test of one argument against its parameter. -/
def expectArgument (callee : String) (position : Nat) (expected received : DataType) :
    Except SemanticError Unit :=
  if received = expected then .ok ()
  else .error (.argumentMismatch callee position expected received)

/-- A test of a type, written as a computation. -/
theorem test_eq_ofExcept {α : Type} (expected received : DataType) (error : SemanticError)
    (next : Resolving α) :
    (do
      if received ≠ expected then throw error
      next) = (do
      MonadExcept.ofExcept (if received = expected then .ok () else .error error)
      next) := by
  by_cases same : received = expected
  · rw [if_neg (fun differ => differ same), if_pos same]
    rfl
  · rw [if_pos same, if_neg same]
    rfl

theorem resolveType_assign {place : Place} {operator : String} {target value : Expr} :
    resolveType tree limit site place (.assign operator target value) = (do
      let expected ← MonadExcept.ofExcept (assignedType operator target
        (tree.lookupVariableBefore site.scope · site.declarations))
      let received ← resolveType tree limit site (1 :: place) value
      MonadExcept.ofExcept (expectType expected received)
      return expected) := by
  rw [resolveType]
  refine congrArg _ (funext fun expected => congrArg _ (funext fun received => ?_))
  exact test_eq_ofExcept expected received _ _

theorem resolveArguments_cons {place : Place} {callee : String} {index : Nat} {argument : Expr}
    {arguments : List Expr} {parameter : Parameter} {parameters : List Parameter} :
    resolveArguments tree limit site place callee index (argument :: arguments)
        (parameter :: parameters) = (do
      let received ← resolveType tree limit site (index :: place) argument
      MonadExcept.ofExcept (expectArgument callee (index + 1) parameter.type received)
      resolveArguments tree limit site place callee (index + 1) arguments parameters) := by
  rw [resolveArguments]
  refine congrArg _ (funext fun received => ?_)
  exact test_eq_ofExcept parameter.type received _ _

mutual

/-- **Following the calls of an expression restores the calls under way.** -/
theorem resolveType_restores (place : Place) :
    (expr : Expr) → Restores (resolveType tree limit site place expr)
  | .literal type value => by
    rw [resolveType]
    exact restores_pure _
  | .identifier name => by
    rw [resolveType]
    exact restores_ofExcept _
  | .assign operator target value => by
    rw [resolveType_assign]
    exact (restores_ofExcept _).bind fun _ => (resolveType_restores _ value).bind fun _ =>
      (restores_ofExcept _).bind fun _ => restores_pure _
  | .binary operator left right => by
    rw [resolveType]
    exact (resolveType_restores _ left).bind fun _ => (resolveType_restores _ right).bind fun _ =>
      restores_ofExcept _
  | .unary operator fixity operand => by
    rw [resolveType]
    exact resolveType_restores _ operand
  | .call callee arguments => by
    rw [resolveType]
    refine (restores_admitCall _ _ _).bind fun _ => restores_during ?_ _
    exact (restores_ofExcept _).bind fun _ => (resolveArguments_restores _ _ _ arguments _).bind
      fun _ => restores_pure _

/-- Following the calls of arguments restores the calls under way. -/
theorem resolveArguments_restores (place : Place) (callee : String) (index : Nat) :
    (arguments : List Expr) → (parameters : List Parameter) →
      Restores (resolveArguments tree limit site place callee index arguments parameters)
  | argument :: arguments, parameter :: parameters => by
    rw [resolveArguments_cons]
    exact (resolveType_restores _ argument).bind fun _ => (restores_ofExcept _).bind fun _ =>
      resolveArguments_restores _ _ _ arguments parameters
  | [], _ => by
    rw [resolveArguments.eq_def]
    exact restores_pure _
  | _ :: _, [] => by
    rw [resolveArguments.eq_def]
    exact restores_pure _

end

/-! ### The second pass as equations -/

/-- The type to which an expression resolves, or why it does not. -/
def resolved (tree : ScopeTree) (limit : Nat) (site : Site) (activation : Activation)
    (place : Place) (expr : Expr) : Except SemanticError DataType :=
  outcome (resolveType tree limit site place expr) activation

/-- How the test of the arguments of a call ends. -/
def resolvedArguments (tree : ScopeTree) (limit : Nat) (site : Site) (activation : Activation)
    (place : Place) (callee : String) (index : Nat) (arguments : List Expr)
    (parameters : List Parameter) : Except SemanticError Unit :=
  outcome (resolveArguments tree limit site place callee index arguments parameters) activation

variable {activation : Activation} {place : Place}

theorem resolved_literal {type : DataType} {value : String} :
    resolved tree limit site activation place (.literal type value) = .ok type := by
  rw [resolved, resolveType]
  rfl

theorem resolved_identifier {name : String} :
    resolved tree limit site activation place (.identifier name) =
      variableType name (tree.lookupVariableBefore site.scope name site.declarations) := by
  rw [resolved, resolveType, outcome_ofExcept]

theorem resolved_assign {operator : String} {target value : Expr} :
    resolved tree limit site activation place (.assign operator target value) = (do
      let expected ← assignedType operator target
        (tree.lookupVariableBefore site.scope · site.declarations)
      let received ← resolved tree limit site activation (1 :: place) value
      expectType expected received
      return expected) := by
  rw [resolved, resolveType_assign, (restores_ofExcept _).outcome_bind, outcome_ofExcept]
  refine congrArg _ (funext fun expected => ?_)
  rw [(resolveType_restores _ value).outcome_bind]
  refine congrArg _ (funext fun received => ?_)
  rw [(restores_ofExcept _).outcome_bind, outcome_ofExcept]
  rfl

theorem resolved_binary {operator : String} {left right : Expr} :
    resolved tree limit site activation place (.binary operator left right) = (do
      let leftType ← resolved tree limit site activation (0 :: place) left
      let rightType ← resolved tree limit site activation (1 :: place) right
      binaryResult operator leftType rightType) := by
  rw [resolved, resolveType, (resolveType_restores _ left).outcome_bind]
  refine congrArg _ (funext fun leftType => ?_)
  rw [(resolveType_restores _ right).outcome_bind]
  refine congrArg _ (funext fun rightType => ?_)
  rw [outcome_ofExcept]

theorem resolved_unary {operator : String} {fixity : Fixity} {operand : Expr} :
    resolved tree limit site activation place (.unary operator fixity operand) =
      resolved tree limit site activation (0 :: place) operand := by
  rw [resolved, resolveType, resolved]

theorem resolved_call {callee : String} {arguments : List Expr} :
    resolved tree limit site activation place (.call callee arguments) =
      if limit ≤ activation.depth then .error (.resolutionTooDeep limit)
      else if place ∈ activation.resolving then .error (.resolutionCycle callee)
      else do
        let signature ← calledSignature tree site.scope callee arguments.length
        resolvedArguments tree limit site (activation.enter place) place callee 0 arguments
          signature.parameters
        return signature.returnType := by
  have restores : Restores (do
      let signature ← MonadExcept.ofExcept
        (calledSignature tree site.scope callee arguments.length)
      resolveArguments tree limit site place callee 0 arguments signature.parameters
      return signature.returnType : Resolving DataType) :=
    (restores_ofExcept _).bind fun _ => (resolveArguments_restores _ _ _ arguments _).bind
      fun _ => restores_pure _
  rw [resolved, resolveType, (restores_admitCall _ _ _).outcome_bind, outcome, admitCall_apply]
  split_ifs
  · rfl
  · rfl
  · show outcome (during place _) activation = _
    rw [outcome_during restores, (restores_ofExcept _).outcome_bind, outcome_ofExcept]
    refine congrArg _ (funext fun signature => ?_)
    rw [(resolveArguments_restores _ _ _ arguments _).outcome_bind]
    rfl

theorem resolvedArguments_cons {callee : String} {index : Nat} {argument : Expr}
    {arguments : List Expr} {parameter : Parameter} {parameters : List Parameter} :
    resolvedArguments tree limit site activation place callee index (argument :: arguments)
        (parameter :: parameters) = (do
      let received ← resolved tree limit site activation (index :: place) argument
      expectArgument callee (index + 1) parameter.type received
      resolvedArguments tree limit site activation place callee (index + 1) arguments
        parameters) := by
  rw [resolvedArguments, resolveArguments_cons, (resolveType_restores _ argument).outcome_bind]
  refine congrArg _ (funext fun received => ?_)
  rw [(restores_ofExcept _).outcome_bind, outcome_ofExcept]
  rfl

theorem resolvedArguments_nil {callee : String} {index : Nat} :
    resolvedArguments tree limit site activation place callee index [] [] = .ok () := by
  rw [resolvedArguments, resolveArguments.eq_def]
  rfl

end Equations

/-! ### What an expression sees from its site -/

/-- What an expression at a site sees in a tree. -/
def ScopeTree.view (tree : ScopeTree) (site : Site) : View where
  typeOf? name := (tree.lookupVariableBefore site.scope name site.declarations).map (·.type)
  signatureOf? name := tree.lookupFunction site.scope name

theorem variableType_eq_ok_iff {name : String} {found : Option Variable} {type : DataType} :
    variableType name found = .ok type ↔ found.map (·.type) = some type := by
  cases found <;> simp [variableType]

/-- Only a visible variable can be assigned to, and to a compound operator it is numeric. -/
theorem assignedType_eq_ok_iff {operator : String} {target : Expr}
    {lookup : String → Option Variable} {type : DataType} :
    assignedType operator target lookup = .ok type ↔
      ∃ name, target = .identifier name ∧ (lookup name).map (·.type) = some type ∧
        (isCompound operator = true → type.isNumeric = true) := by
  cases target with
  | identifier name =>
    simp only [assignedType, except_bind_eq_ok_iff, variableType_eq_ok_iff, Expr.identifier.injEq,
      exists_eq_left']
    constructor
    · rintro ⟨expected, found, rest⟩
      split_ifs at rest with refused
      · cases rest
      · cases rest
        exact ⟨found, by simpa using refused⟩
    · rintro ⟨found, numeric⟩
      refine ⟨type, found, ?_⟩
      rw [if_neg (by simpa using numeric)]
      rfl
  | literal | assign | binary | unary | call => simp [assignedType]

theorem calledSignature_eq_ok_iff {tree : ScopeTree} {scope : ScopeId} {callee : String}
    {received : Nat} {signature : Signature} :
    calledSignature tree scope callee received = .ok signature ↔
      tree.lookupFunction scope callee = some signature ∧
        received = signature.parameters.length := by
  unfold calledSignature
  cases tree.lookupFunction scope callee with
  | none => simp
  | some declared =>
    simp only [Option.some.injEq]
    split_ifs with tooMany tooFew
    · simp only [false_iff]
      rintro ⟨rfl, same⟩
      omega
    · simp only [false_iff]
      rintro ⟨rfl, same⟩
      omega
    · simp only [Except.ok.injEq, iff_self_and]
      rintro rfl
      omega

theorem expectType_eq_ok_iff {expected received : DataType} {passed : Unit} :
    expectType expected received = .ok passed ↔ received = expected := by
  unfold expectType
  split_ifs with same <;> simp [same]

theorem expectArgument_eq_ok_iff {callee : String} {position : Nat}
    {expected received : DataType} {passed : Unit} :
    expectArgument callee position expected received = .ok passed ↔ received = expected := by
  unfold expectArgument
  split_ifs with same <;> simp [same]

/-! ### Resolution against typing -/

/-- No call under way stands at the place or below it. -/
def Fresh (place : Place) (activation : Activation) : Prop :=
  ∀ busy ∈ activation.resolving, ¬ place <:+ busy

theorem fresh_idle (place : Place) : Fresh place .idle := by
  intro busy member
  cases member

theorem Fresh.not_mem {place : Place} {activation : Activation} (fresh : Fresh place activation) :
    place ∉ activation.resolving :=
  fun member => fresh place member (List.suffix_refl _)

theorem Fresh.child {place : Place} {activation : Activation} (fresh : Fresh place activation)
    (branch : Nat) : Fresh (branch :: place) activation :=
  fun busy member below => fresh busy member ((List.suffix_cons _ _).trans below)

/-- While a call is under way the places of its arguments are still fresh. -/
theorem Fresh.argument {place : Place} {activation : Activation} (fresh : Fresh place activation)
    (branch : Nat) : Fresh (branch :: place) (activation.enter place) := by
  intro busy member below
  rcases List.mem_cons.mp member with rfl | outer
  · have bound := below.length_le
    rw [List.length_cons] at bound
    omega
  · exact fresh.child branch busy outer below

section Typing

variable {tree : ScopeTree} {limit : Nat} {site : Site}

mutual

/-- **An expression resolves to a type exactly when it has the type from its site and its calls fit
under the limit.** The induction is on the expression; `depth` counts the calls around it. -/
theorem resolved_eq_ok_iff {activation : Activation} {place : Place}
    (within : activation.depth ≤ limit) (fresh : Fresh place activation) {type : DataType} :
    (expr : Expr) → (resolved tree limit site activation place expr = .ok type ↔
      HasType (tree.view site) expr type ∧ activation.depth + expr.callDepth ≤ limit)
  | .literal declared value => by
    rw [resolved_literal, Expr.callDepth]
    constructor
    · intro same
      cases same
      exact ⟨.literal _ _, within⟩
    · rintro ⟨typed, _⟩
      cases typed
      rfl
  | .identifier name => by
    rw [resolved_identifier, variableType_eq_ok_iff, Expr.callDepth]
    constructor
    · intro visible
      exact ⟨.identifier visible, within⟩
    · rintro ⟨typed, _⟩
      cases typed with
      | identifier visible => exact visible
  | .assign operator target value => by
    simp only [resolved_assign, except_bind_eq_ok_iff, assignedType_eq_ok_iff, expectType_eq_ok_iff,
      resolved_eq_ok_iff within (fresh.child 1) value]
    constructor
    · rintro ⟨expected, ⟨name, rfl, visible, numeric⟩, received, ⟨typed, fits⟩, _, rfl, same⟩
      cases same
      refine ⟨.assign visible numeric typed, ?_⟩
      simpa [Expr.callDepth] using fits
    · rintro ⟨typed, fits⟩
      cases typed with
      | assign visible numeric typed =>
        refine ⟨type, ⟨_, rfl, visible, numeric⟩, type, ⟨typed, ?_⟩, (), rfl, rfl⟩
        simpa [Expr.callDepth] using fits
  | .binary operator left right => by
    simp only [resolved_binary, except_bind_eq_ok_iff,
      resolved_eq_ok_iff within (fresh.child 0) left,
      resolved_eq_ok_iff within (fresh.child 1) right, Expr.callDepth]
    constructor
    · rintro ⟨leftType, ⟨leftTyped, leftFits⟩, rightType, ⟨rightTyped, rightFits⟩, result⟩
      exact ⟨.binary leftTyped rightTyped result, by omega⟩
    · rintro ⟨typed, fits⟩
      cases typed with
      | binary leftTyped rightTyped result =>
        exact ⟨_, ⟨leftTyped, by omega⟩, _, ⟨rightTyped, by omega⟩, result⟩
  | .unary operator fixity operand => by
    rw [resolved_unary, resolved_eq_ok_iff within (fresh.child 0) operand, Expr.callDepth]
    constructor
    · rintro ⟨typed, fits⟩
      exact ⟨.unary typed, fits⟩
    · rintro ⟨typed, fits⟩
      cases typed with
      | unary typed => exact ⟨typed, fits⟩
  | .call callee arguments => by
    rw [resolved_call, Expr.callDepth]
    by_cases full : limit ≤ activation.depth
    · rw [if_pos full]
      simp only [reduceCtorEq, false_iff]
      rintro ⟨_, fits⟩
      omega
    · -- The call is admitted: no call under way stands at its place.
      rw [if_neg full, if_neg fresh.not_mem]
      have inner : (activation.enter place).depth ≤ limit := Nat.lt_of_not_le full
      simp only [except_bind_eq_ok_iff, calledSignature_eq_ok_iff]
      constructor
      · rintro ⟨signature, ⟨visible, arity⟩, _, agreed, same⟩
        cases same
        obtain ⟨agree, fits⟩ :=
          (resolvedArguments_eq_ok_iff inner fresh.argument arguments arity).mp agreed
        refine ⟨.call visible agree, ?_⟩
        rw [Activation.depth_enter] at fits
        omega
      · rintro ⟨typed, fits⟩
        cases typed with
        | call visible agree =>
          refine ⟨_, ⟨visible, agree.length_eq⟩, (), ?_, rfl⟩
          refine (resolvedArguments_eq_ok_iff inner fresh.argument arguments agree.length_eq).mpr
            ⟨agree, ?_⟩
          rw [Activation.depth_enter]
          omega

/-- Arguments pass exactly when they agree with the parameters and their calls fit. -/
theorem resolvedArguments_eq_ok_iff {activation : Activation} {place : Place} {callee : String}
    {index : Nat} (within : activation.depth ≤ limit)
    (fresh : ∀ branch, Fresh (branch :: place) activation) :
    (arguments : List Expr) → {parameters : List Parameter} →
      (arity : arguments.length = parameters.length) →
      (resolvedArguments tree limit site activation place callee index arguments parameters =
          .ok () ↔
        ArgumentsAgree (tree.view site) arguments parameters ∧
          activation.depth + argumentsDepth arguments ≤ limit)
  | [], [], _ => by
    rw [resolvedArguments_nil, argumentsDepth]
    exact iff_of_true rfl ⟨.nil, within⟩
  | argument :: arguments, parameter :: parameters, arity => by
    have later := Nat.succ.inj arity
    simp only [resolvedArguments_cons, except_bind_eq_ok_iff, expectArgument_eq_ok_iff,
      resolved_eq_ok_iff within (fresh index) argument,
      resolvedArguments_eq_ok_iff within fresh arguments later, argumentsDepth]
    constructor
    · rintro ⟨received, ⟨typed, fits⟩, _, rfl, agree, laterFit⟩
      exact ⟨.cons typed agree, by omega⟩
    · rintro ⟨agree, fit⟩
      cases agree with
      | cons typed agree => exact ⟨_, ⟨typed, by omega⟩, (), rfl, agree, by omega⟩

end

end Typing

/-- The expression has the type, and its calls fit under the limit. -/
def TypedWithin (view : View) (limit : Nat) (expr : Expr) (type : DataType) : Prop :=
  HasType view expr type ∧ expr.callDepth ≤ limit

theorem resolved_idle_eq_ok_iff {tree : ScopeTree} {limit : Nat} {site : Site} {place : Place}
    {expr : Expr} {type : DataType} :
    resolved tree limit site .idle place expr = .ok type ↔
      TypedWithin (tree.view site) limit expr type := by
  rw [resolved_eq_ok_iff (Nat.zero_le limit) (fresh_idle place) expr, Activation.idle, Nat.zero_add]
  exact Iff.rfl

/-! ### Entries of the queue -/

/-- The other side of an operator has the type. -/
def OtherSide.Has (view : View) (limit : Nat) : OtherSide → DataType → Prop
  | .known given, type => type = given
  | .waiting occurrence, type => TypedWithin view limit occurrence.expr type

/-- The type of a waiting expression meets the requirement. -/
def Requirement.Met (view : View) (limit : Nat) (received : DataType) : Requirement → Prop
  | .bare => True
  | .assignTo _ expected | .returnValue expected => received = expected
  | .binaryOperand operator other waitsLeft => ∃ otherType result, other.Has view limit otherType ∧
      (if waitsLeft then binaryResult operator received otherType
        else binaryResult operator otherType received) = .ok result
  | .condition => received = .boolean
  | .numericOperand _ => received.isNumeric = true

/-- The waiting expression has a type, and the type meets the requirement. -/
def Pending.Met (view : View) (limit : Nat) (entry : Pending) : Prop :=
  ∃ received, TypedWithin view limit entry.occurrence.expr received ∧
    entry.requirement.Met view limit received

/-- The entry is resolved without an error when no call is under way. -/
def Pending.Resolves (tree : ScopeTree) (limit : Nat) (entry : Pending) : Prop :=
  outcome (resolvePending tree limit entry) .idle = .ok ()

theorem discard_ofExcept {α : Type} (value : Except SemanticError α) :
    (discard (MonadExcept.ofExcept value) : Resolving Unit) =
      MonadExcept.ofExcept (value.map fun _ => ()) := by
  cases value <;> rfl

theorem restores_resolveOther (tree : ScopeTree) (limit : Nat) (site : Site) (other : OtherSide) :
    Restores (resolveOther tree limit site other) := by
  cases other with
  | known type => exact restores_pure _
  | waiting occurrence => exact resolveType_restores _ _

/-- Resolving an entry restores the calls under way. -/
theorem restores_resolvePending (tree : ScopeTree) (limit : Nat) (entry : Pending) :
    Restores (resolvePending tree limit entry) := by
  unfold resolvePending
  refine (resolveType_restores _ _).bind fun received => ?_
  cases entry.requirement with
  | bare => exact restores_pure _
  | assignTo | returnValue | condition | numericOperand => exact restores_ofExcept _
  | binaryOperand operator other waitsLeft =>
    refine (restores_resolveOther _ _ _ _).bind fun otherType => ?_
    rw [discard_ofExcept]
    exact restores_ofExcept _

/-- The type of the other side of an operator, or why it has none. -/
def resolvedOther (tree : ScopeTree) (limit : Nat) (site : Site) (activation : Activation) :
    OtherSide → Except SemanticError DataType
  | .known type => .ok type
  | .waiting occurrence => resolved tree limit site activation occurrence.place occurrence.expr

/-- The test of a requirement, given the type of the waiting expression and how other sides are
resolved. -/
def Requirement.tested (received : DataType)
    (ofOther : OtherSide → Except SemanticError DataType) : Requirement → Except SemanticError Unit
  | .bare => .ok ()
  | .assignTo _ expected | .returnValue expected => expectType expected received
  | .binaryOperand operator other waitsLeft => do
    let otherType ← ofOther other
    (if waitsLeft then binaryResult operator received otherType
      else binaryResult operator otherType received).map fun _ => ()
  | .condition => expectCondition received
  | .numericOperand operator => expectNumeric operator received

/-- **An entry is resolved to a type, which is then tested.** -/
theorem outcome_resolvePending {tree : ScopeTree} {limit : Nat} {entry : Pending}
    {activation : Activation} :
    outcome (resolvePending tree limit entry) activation = (do
      let received ← resolved tree limit entry.site activation entry.occurrence.place
        entry.occurrence.expr
      entry.requirement.tested received (resolvedOther tree limit entry.site activation)) := by
  unfold resolvePending
  rw [(resolveType_restores _ _).outcome_bind]
  refine congrArg _ (funext fun received => ?_)
  cases entry.requirement with
  | bare => rfl
  | assignTo | returnValue | condition | numericOperand => exact outcome_ofExcept _ _
  | binaryOperand operator other waitsLeft =>
    dsimp only [Requirement.tested]
    rw [(restores_resolveOther _ _ _ _).outcome_bind]
    refine congr (congrArg _ ?_) (funext fun otherType => ?_)
    · cases other <;> rfl
    · rw [discard_ofExcept, outcome_ofExcept]

theorem resolvedOther_eq_ok_iff {tree : ScopeTree} {limit : Nat} {site : Site} {other : OtherSide}
    {type : DataType} :
    resolvedOther tree limit site .idle other = .ok type ↔ other.Has (tree.view site) limit type := by
  cases other with
  | known given =>
    rw [resolvedOther, OtherSide.Has, Except.ok.injEq]
    exact eq_comm
  | waiting occurrence => exact resolved_idle_eq_ok_iff

theorem expectCondition_eq_ok_iff {received : DataType} {passed : Unit} :
    expectCondition received = .ok passed ↔ received = .boolean := by
  unfold expectCondition
  split_ifs with same <;> simp [same]

theorem expectNumeric_eq_ok_iff {operator : String} {received : DataType} {passed : Unit} :
    expectNumeric operator received = .ok passed ↔ received.isNumeric = true := by
  unfold expectNumeric
  split_ifs with same <;> simp [same]

theorem map_unit_eq_ok_iff {α : Type} {value : Except SemanticError α} {passed : Unit} :
    value.map (fun _ => ()) = .ok passed ↔ ∃ result, value = .ok result := by
  cases value <;> simp [Except.map]

/-- **An entry is resolved exactly when its requirement is met from its site.** -/
theorem Pending.resolves_iff {tree : ScopeTree} {limit : Nat} {entry : Pending} :
    entry.Resolves tree limit ↔ entry.Met (tree.view entry.site) limit := by
  unfold Pending.Resolves
  rw [outcome_resolvePending, except_bind_eq_ok_iff]
  refine exists_congr fun received => and_congr resolved_idle_eq_ok_iff ?_
  cases entry.requirement with
  | bare => exact iff_of_true rfl trivial
  | assignTo | returnValue => exact expectType_eq_ok_iff
  | condition => exact expectCondition_eq_ok_iff
  | numericOperand => exact expectNumeric_eq_ok_iff
  | binaryOperand operator other waitsLeft =>
    rw [Requirement.tested, except_bind_eq_ok_iff]
    refine exists_congr fun otherType => ?_
    rw [map_unit_eq_ok_iff, exists_and_left]
    exact and_congr_left fun _ => resolvedOther_eq_ok_iff

/-! ### The queue -/

theorem followCalls_apply {α : Type} {inside : ScopeTree → Nat → Resolving α} (analyzer : Analyzer)
    (restores : Restores (inside analyzer.scopes analyzer.limit)) :
    Analyzer.followCalls inside analyzer =
      match outcome (inside analyzer.scopes analyzer.limit) analyzer.activation with
      | .ok value => .ok value analyzer
      | .error error => .error error analyzer := by
  unfold Analyzer.followCalls
  rw [restores analyzer.activation]
  cases outcome (inside analyzer.scopes analyzer.limit) analyzer.activation <;> rfl

/-- The entries are resolved one after another until one fails. Only the queue changes: an entry
that is reached is taken off. -/
theorem drainEach_apply (entries : List Pending) (analyzer : Analyzer) :
    Analyzer.drainEach entries analyzer =
      match entries with
      | [] => .ok () analyzer
      | entry :: older =>
        match outcome (resolvePending analyzer.scopes analyzer.limit entry) analyzer.activation with
        | .ok _ => Analyzer.drainEach older { analyzer with pending := older }
        | .error error => .error error { analyzer with pending := older } := by
  cases entries with
  | nil => rfl
  | cons entry older =>
    rw [Analyzer.drainEach]
    show (Analyzer.followCalls _ >>= fun _ => Analyzer.drainEach older)
      { analyzer with pending := older } = _
    rw [bind_apply, followCalls_apply _ (restores_resolvePending _ _ _)]
    dsimp only
    cases outcome (resolvePending analyzer.scopes analyzer.limit entry) analyzer.activation <;> rfl

theorem drainEach_eq_ok_iff {entries : List Pending} {analyzer final : Analyzer}
    (queued : analyzer.pending = entries) :
    Analyzer.drainEach entries analyzer = .ok () final ↔
      (∀ entry ∈ entries,
        outcome (resolvePending analyzer.scopes analyzer.limit entry) analyzer.activation =
          .ok ()) ∧
      final = { analyzer with pending := [] } := by
  induction entries generalizing analyzer with
  | nil =>
    have same : { analyzer with pending := [] } = analyzer := by rw [← queued]
    rw [drainEach_apply, same]
    simp [eq_comm]
  | cons entry older ih =>
    rw [drainEach_apply]
    dsimp only
    cases first : outcome (resolvePending analyzer.scopes analyzer.limit entry)
      analyzer.activation with
    | error error => simp [first]
    | ok value =>
      dsimp only
      rw [ih rfl, List.forall_mem_cons, first]
      simp

/-- **The queue is resolved when every entry is**, each in the tree as it stands. -/
theorem drain_eq_ok_iff {analyzer final : Analyzer} :
    Analyzer.drain analyzer = .ok () final ↔
      (∀ entry ∈ analyzer.pending,
        outcome (resolvePending analyzer.scopes analyzer.limit entry) analyzer.activation =
          .ok ()) ∧
      final = { analyzer with pending := [] } :=
  drainEach_eq_ok_iff rfl

end TypedImp
