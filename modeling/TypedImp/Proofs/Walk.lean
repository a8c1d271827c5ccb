/-
**What the walk over a program decides.**

Every part of the walk over a program decides whether that part of the program fits. The proof
follows the walk: the decisions on the parts of a statement are put together to the decision on the
statement.

* `decides_checkVariableDecl`, `decides_checkReturn_value`, … — the parts of which statements are
  made.
* `decides_block`, `decides_branch`, `decides_functionDecl`, `decides_forLoop` — the statements with
  a scope of their own, given the decision on their bodies.
* `decides_checkStmt`, `decides_checkAlternatives`, `decides_checkStmts` — **the walk decides
  whether a program fits**, by induction on the program.
-/

import TypedImp.Proofs.Fitting

namespace TypedImp

open Analyzer

/-! ### Inside loops and functions -/

section Frames

variable {analyzer : Analyzer} {around : Surroundings}

/-- Inside a loop. -/
theorem Analyzer.Stands.enterLoop (stands : analyzer.Stands around) :
    Analyzer.Stands { analyzer with context := analyzer.context.push .loop } around.enterLoop :=
  ⟨⟨stands.sound.reaches, stands.sound.inRange⟩, stands.types, stands.returns, rfl, rfl⟩

/-- Inside the scope of a function, whose frame is still to come. -/
theorem Analyzer.Stands.opened_function {name : String} {signature : Signature} {scope : Scope}
    (stands : analyzer.Stands around)
    (found : analyzer.scopes.get? analyzer.current = some scope)
    (declared : scope.functionNamed? name = some signature) (body : List Stmt) :
    (analyzer.opened (.function name)).Stands
      { around.enter [] body with returnType := some signature.returnType } := by
  have sound := stands.sound
  exact ⟨sound.opened _, stands.types_opened _,
    ScopeTree.Returns.function sound.formed sound.inRange found declared,
    stands.breaks, stands.continues⟩

/-- Inside a function and its frame, which hides the loops around it. -/
theorem Analyzer.Stands.enterFunction (stands : analyzer.Stands around) :
    Analyzer.Stands { analyzer with context := analyzer.context.push .function }
      { around with inLoop := false } :=
  ⟨⟨stands.sound.reaches, stands.sound.inRange⟩, stands.types, stands.returns, rfl, rfl⟩

end Frames

/-- The function just declared is found in its scope. -/
theorem functionNamed?_declareFunction {analyzer after : Analyzer} {name : String}
    {signature : Signature} (inRange : analyzer.current < analyzer.scopes.count)
    (ended : declareFunction name signature analyzer = .ok () after) :
    ∃ scope, after.scopes.get? after.current = some scope ∧
      scope.functionNamed? name = some signature := by
  obtain ⟨next, declared, rfl⟩ := changeScopes_eq_ok_iff.mp ended
  obtain ⟨scope, found⟩ := ScopeTree.get?_eq_some_of_lt inRange
  have free := (ScopeTree.declareFunction_eq_ok_iff.mp declared).1
  rw [found, Option.bind_some] at free
  refine ⟨scope.withFunction name signature, ?_, ?_⟩
  · rw [ScopeTree.get?_declareFunction declared, if_pos rfl, found]
    rfl
  · unfold Scope.functionNamed? at free ⊢
    unfold Scope.withFunction
    rw [List.lookup_append, free]
    simp

/-! ### The parts of statements -/

section Parts

variable {analyzer : Analyzer} {around : Surroundings}

theorem decides_checkVariableDecl {own : List String} {place : Place} {type : DataType}
    {name : String} {initializer : Expr} (stands : analyzer.Stands around) :
    Decides (checkVariableDecl place type name initializer) analyzer around
      (StmtFits own around (.variableDecl type name initializer)) := by
  have value : Decides (require ⟨0 :: place, initializer⟩ (.assignTo name type) (expectType type))
      analyzer around _ :=
    decides_require stands fun _ _ _ => expectType_eq_ok_iff.symm
  refine (Decides.bind stands (.require _ _ (shallow_expectType type)) (.declareVariable name type)
    value fun _ _ behind => decides_declareVariable behind).congr fun limit => ?_
  rw [stmtFits_variableDecl, Surroundings.declare_nil]
  refine and_congr_left fun _ => ?_
  simp only [expectType_eq_ok_iff, exists_eq_right]

theorem decides_checkCondition {place : Place} {condition : Expr}
    (stands : analyzer.Stands around) :
    Decides (checkCondition place condition) analyzer around fun limit =>
      TypedWithin around.view limit condition .boolean := by
  have test : Decides (require ⟨place, condition⟩ .condition expectCondition) analyzer around _ :=
    decides_require stands fun _ _ _ => expectCondition_eq_ok_iff.symm
  refine test.congr fun limit => ?_
  simp only [expectCondition_eq_ok_iff, exists_eq_right]

theorem decides_checkInitializer {place : Place} {initializer : Stmt}
    (stands : analyzer.Stands around) :
    Decides (checkInitializer place initializer) analyzer around
      (InitializerFits around initializer) := by
  cases initializer with
  | variableDecl type name value =>
    have decides : Decides (checkVariableDecl place type name value) analyzer around
        (StmtFits [] around (.variableDecl type name value)) := decides_checkVariableDecl stands
    refine decides.congr fun limit => ⟨fun fits => ⟨type, name, value, rfl, fits⟩, ?_⟩
    rintro ⟨_, _, _, same, fits⟩
    cases same
    exact fits
  | functionDecl | expression | returnValue | ifChain | whileLoop | forLoop | breakLoop
  | continueLoop =>
    refine decides_of_error rfl fun limit => ?_
    rintro ⟨_, _, _, same, _⟩
    cases same

theorem decides_checkIncrement {place : Place} {increment : Expr}
    (stands : analyzer.Stands around) :
    Decides (checkIncrement place increment) analyzer around
      (IncrementFits around increment) := by
  cases increment with
  | unary operator fixity operand =>
    unfold checkIncrement
    dsimp only
    by_cases increments : isIncrement operator = true
    · rw [if_pos increments]
      have step : Decides (require ⟨0 :: place, operand⟩ (.numericOperand operator)
          (expectNumeric operator)) analyzer around _ :=
        decides_require stands fun _ _ _ => expectNumeric_eq_ok_iff.symm
      refine step.congr fun limit => ?_
      simp only [expectNumeric_eq_ok_iff]
      constructor
      · rintro ⟨type, typed, numeric⟩
        exact ⟨operator, fixity, operand, type, rfl, increments, typed, numeric⟩
      · rintro ⟨_, _, _, type, same, _, typed, numeric⟩
        cases same
        exact ⟨type, typed, numeric⟩
    · rw [if_neg increments]
      refine decides_of_error rfl fun limit => ?_
      rintro ⟨_, _, _, _, same, other, _⟩
      cases same
      exact increments other
  | literal | identifier | assign | binary | call =>
    refine decides_of_error rfl fun limit => ?_
    rintro ⟨_, _, _, _, same, _⟩
    cases same

/-- The analyzer finds the return type that the surroundings give, or stops. -/
theorem checkReturn_apply {place : Place} {value : Option Expr} (stands : analyzer.Stands around) :
    checkReturn place value analyzer =
      match around.returnType with
      | none => .error .returnOutsideFunction analyzer
      | some expected =>
        (match value with
        | some value => require ⟨0 :: place, value⟩ (.returnValue expected) (expectType expected)
        | none => if expected ≠ .void then throw (.missingReturnValue expected) else pure () :
          Analysis Unit) analyzer := by
  have found := stands.returns.enclosingReturnType stands.sound.formed
  unfold checkReturn
  rw [bind_apply]
  show (MonadExcept.ofExcept (analyzer.scopes.enclosingReturnType analyzer.current) >>= _ :
    Analysis Unit) analyzer = _
  rw [found]
  cases around.returnType with
  | none => rfl
  | some expected => cases value <;> rfl

theorem decides_checkReturn_value {own : List String} {place : Place} {value : Expr}
    (stands : analyzer.Stands around) :
    Decides (checkReturn place (some value)) analyzer around
      (StmtFits own around (.returnValue (some value))) := by
  have ended : checkReturn place (some value) analyzer = _ := checkReturn_apply stands
  cases inside : around.returnType with
  | none =>
    rw [inside] at ended
    refine decides_of_error ended fun limit fits => ?_
    obtain ⟨type, same, _⟩ := stmtFits_returnValue.mp fits
    rw [inside] at same
    cases same
  | some expected =>
    rw [inside] at ended
    have passes : Decides (require ⟨0 :: place, value⟩ (.returnValue expected)
        (expectType expected)) analyzer around _ :=
      decides_require stands fun _ _ _ => expectType_eq_ok_iff.symm
    refine (passes.of_eq ended).congr fun limit => ?_
    rw [stmtFits_returnValue, inside]
    simp only [expectType_eq_ok_iff, exists_eq_right, Option.some.injEq, exists_eq_left']

theorem decides_checkReturn_nothing {own : List String} {place : Place}
    (stands : analyzer.Stands around) :
    Decides (checkReturn place none) analyzer around
      (StmtFits own around (.returnValue none)) := by
  have ended : checkReturn place none analyzer = _ := checkReturn_apply stands
  have means : ∀ limit, StmtFits own around (.returnValue none) limit ↔
      around.returnType = some .void := fun _ => stmtFits_returnNothing
  cases inside : around.returnType with
  | none =>
    rw [inside] at ended
    refine decides_of_error ended fun limit fits => ?_
    have same := (means limit).mp fits
    rw [inside] at same
    cases same
  | some expected =>
    rw [inside] at ended
    dsimp only at ended
    by_cases nothing : expected = .void
    · rw [if_neg (fun differ => differ nothing)] at ended
      refine decides_of_ok ended rfl fun limit => (means limit).mpr ?_
      rw [inside, nothing]
    · rw [if_pos nothing] at ended
      refine decides_of_error ended fun limit fits => ?_
      have same := (means limit).mp fits
      rw [inside] at same
      exact nothing (Option.some.inj same)

/-- The parameters of a function need different names. -/
theorem decides_declareParameters {parameters : List Parameter}
    (stands : analyzer.Stands around) :
    Decides (declareParameters parameters) analyzer around fun _ =>
      Undeclared (around.block.bindings.map Prod.fst) (parameters.map (·.name)) := by
  induction parameters generalizing analyzer around with
  | nil => exact decides_of_ok rfl rfl fun _ => undeclared_nil _
  | cons parameter parameters ih =>
    have first : Decides (declareVariable parameter.name parameter.type) analyzer around _ :=
      decides_declareVariable stands
    refine (Decides.bind stands (.declareVariable _ _) (.declareParameters parameters) first
      fun _ _ behind => ih behind).congr fun limit => ?_
    have names : ((around.declare [(parameter.name, parameter.type)]).block.bindings).map Prod.fst =
        around.block.bindings.map Prod.fst ++ [parameter.name] := by
      show (around.block.bindings ++ [(parameter.name, parameter.type)]).map Prod.fst = _
      rw [List.map_append]
      rfl
    rw [names, ← undeclared_append]
    rfl

theorem decides_allowed {test : ContextStack → Bool} {error : SemanticError}
    (stands : test analyzer.context = around.inLoop) :
    Decides (do if !test (← get).context then throw error) analyzer around fun _ =>
      around.inLoop = true := by
  have ended : (do if !test (← get).context then throw error : Analysis Unit) analyzer =
      (if !test analyzer.context then throw error else pure () : Analysis Unit) analyzer := rfl
  rw [stands] at ended
  cases inside : around.inLoop with
  | true =>
    rw [inside] at ended
    exact decides_of_ok ended rfl fun _ => rfl
  | false =>
    rw [inside] at ended
    exact decides_of_error ended fun _ => Bool.false_ne_true

end Parts

/-! ### The walk over statements -/

section Walk

variable {analyzer : Analyzer} {around : Surroundings}

/-- The walk over statements decides whether they fit, wherever they stand. -/
def DecidesBody (place : Place) (body : List Stmt) : Prop :=
  ∀ {inner : Analyzer} {within : Surroundings}, inner.Stands within →
    Decides (checkStmts place 0 body) inner within (BodyFits inner.ownFunctions within body)

/-- A block decides whether its statements fit inside it. -/
theorem decides_block {place : Place} {body : List Stmt} (stands : analyzer.Stands around)
    (inside : DecidesBody place body) :
    Decides (withScope .block (checkStmts place 0 body)) analyzer around
      (BodyFits [] (around.enter [] body) body) := by
  have decides := inside (stands.opened body)
  rw [ownFunctions_opened] at decides
  exact decides.withScope stands (firstPass_checkStmts place 0 body) rfl

/-- A condition with its body, and what follows. -/
theorem decides_branch {place : Place} {condition : Expr} {body : List Stmt}
    {alternatives : Alternatives} (stands : analyzer.Stands around)
    (inside : DecidesBody (1 :: place) body)
    (others : ∀ {behind : Analyzer}, behind.Stands around →
      Decides (checkAlternatives (2 :: place) alternatives) behind around
        (AlternativesFit around alternatives)) :
    Decides (do
      checkCondition (0 :: place) condition
      withScope .block (checkStmts (1 :: place) 0 body)
      checkAlternatives (2 :: place) alternatives) analyzer around fun limit =>
        TypedWithin around.view limit condition .boolean ∧
          BodyFits [] (around.enter [] body) body limit ∧
            AlternativesFit around alternatives limit := by
  have passOthers := firstPass_checkAlternatives (2 :: place) alternatives
  have passBody := FirstPass.withScope .block (firstPass_checkStmts (1 :: place) 0 body)
  refine Decides.bind stands (.checkCondition _ _) (.bind passBody fun _ => passOthers)
    (decides_checkCondition stands) fun _ _ behind => ?_
  rw [Surroundings.declare_nil] at behind ⊢
  refine Decides.bind behind passBody passOthers (decides_block behind inside)
    fun _ _ behindBody => ?_
  rw [Surroundings.declare_nil] at behindBody ⊢
  exact others behindBody

/-- The names of the functions in scope behind a part that declares none. -/
theorem ownFunctions_of_passes {bindings : List (String × DataType)} {middle : Analyzer}
    (stands : analyzer.Stands around) (passes : Passes bindings [] analyzer middle) :
    middle.ownFunctions = analyzer.ownFunctions := by
  rw [passes.ownFunctions stands.sound.inRange, List.map_nil, List.append_nil]

theorem decides_functionDecl {place : Place} {returnType : DataType} {name : String}
    {parameters : List Parameter} {body : List Stmt} (stands : analyzer.Stands around)
    (inside : DecidesBody place body) :
    Decides (do
      declareFunction name ⟨parameters, returnType⟩
      withScope (.function name) do
        declareParameters parameters
        withFrame .function (checkStmts place 0 body)) analyzer around
      (StmtFits analyzer.ownFunctions around (.functionDecl returnType name parameters body)) := by
  have passBody := firstPass_checkStmts place 0 body
  have passInside := FirstPass.bind (.declareParameters parameters) fun _ =>
    .withFrame .function passBody
  have head : Decides (declareFunction name ⟨parameters, returnType⟩) analyzer around _ :=
    decides_declareFunction stands
  refine (Decides.bind stands (.declareFunction _ _) (.withScope (.function name) passInside) head
    fun {middle} ended _ behind => ?_).congr fun limit => stmtFits_functionDecl.symm
  rw [Surroundings.declare_nil] at behind ⊢
  -- The function is in the tree, so its return type is known inside.
  obtain ⟨scope, found, declared⟩ := functionNamed?_declareFunction stands.sound.inRange ended
  let within : Surroundings := { around.enter [] body with returnType := some returnType }
  have opened : (middle.opened (.function name)).Stands within :=
    behind.opened_function found declared body
  have functions : within.functions = ([] ++ declaredSignatures body) :: around.functions := rfl
  have names : Decides (declareParameters parameters) (middle.opened (.function name)) within _ :=
    decides_declareParameters opened
  refine Decides.withScope behind passInside ?_ functions
  refine Decides.bind opened (.declareParameters parameters) (.withFrame .function passBody) names
    fun _ passes behindNames => ?_
  have bodyDecides := inside behindNames.enterFunction
  have own := (ownFunctions_of_passes opened passes).trans (ownFunctions_opened middle _)
  refine Decides.withFrame ?_ rfl
  exact own ▸ bodyDecides

theorem decides_forLoop {place : Place} {initializer : Stmt} {condition increment : Expr}
    {body : List Stmt} (stands : analyzer.Stands around)
    (inside : DecidesBody (3 :: place) body) :
    Decides (withFrame .loop do
      withScope .block do
        checkInitializer (0 :: place) initializer
        checkCondition (1 :: place) condition
        checkIncrement (2 :: place) increment
        checkStmts (3 :: place) 0 body) analyzer around
      (StmtFits analyzer.ownFunctions around (.forLoop initializer condition increment body)) := by
  have passBody := firstPass_checkStmts (3 :: place) 0 body
  have passStep := FirstPass.bind (.checkIncrement (2 :: place) increment) fun _ => passBody
  have passTest := FirstPass.bind (.checkCondition (1 :: place) condition) fun _ => passStep
  have passInside := FirstPass.bind (.checkInitializer (0 :: place) initializer) fun _ => passTest
  have looped := stands.enterLoop
  have opened := looped.opened body
  have start : Decides (checkInitializer (0 :: place) initializer) _ _ _ :=
    decides_checkInitializer opened
  have functions : (around.enterLoop.enter [] body).functions =
      ([] ++ ([] ++ ([] ++ declaredSignatures body))) :: around.enterLoop.functions := rfl
  refine (Decides.withFrame (Decides.withScope looped passInside (Decides.bind opened
    (.checkInitializer _ _) passTest start fun _ passes behind => ?_) functions) rfl).congr
    fun limit => stmtFits_forLoop.symm
  refine Decides.bind behind (.checkCondition _ _) passStep (decides_checkCondition behind)
    fun _ passesTest behindTest => ?_
  rw [Surroundings.declare_nil] at behindTest ⊢
  refine Decides.bind behindTest (.checkIncrement _ _) passBody (decides_checkIncrement behindTest)
    fun _ passesStep behindStep => ?_
  rw [Surroundings.declare_nil] at behindStep ⊢
  have own := (ownFunctions_of_passes behindTest passesStep).trans
    ((ownFunctions_of_passes behind passesTest).trans
      ((ownFunctions_of_passes opened passes).trans (ownFunctions_opened _ _)))
  exact own ▸ inside behindStep

end Walk

mutual

/-- **The walk over a statement decides whether it fits.** -/
theorem decides_checkStmt {place : Place} : (stmt : Stmt) →
    {analyzer : Analyzer} → {around : Surroundings} → (stands : analyzer.Stands around) →
      Decides (checkStmt place stmt) analyzer around
        (StmtFits analyzer.ownFunctions around stmt)
  | .variableDecl type name initializer, _, _, stands => by
    rw [checkStmt]
    exact decides_checkVariableDecl stands
  | .functionDecl returnType name parameters body, _, _, stands => by
    rw [checkStmt]
    exact decides_functionDecl stands fun inner => decides_checkStmts body inner
  | .expression value, _, _, stands => by
    rw [checkStmt]
    have bare : Decides (require ⟨0 :: place, value⟩ .bare fun _ => .ok ()) _ _ _ :=
      decides_require stands fun _ _ _ => iff_of_true trivial rfl
    refine bare.congr fun limit => ?_
    rw [stmtFits_expression]
    exact exists_congr fun type => and_iff_left rfl
  | .returnValue (some value), _, _, stands => by
    rw [checkStmt]
    exact decides_checkReturn_value stands
  | .returnValue none, _, _, stands => by
    rw [checkStmt]
    exact decides_checkReturn_nothing stands
  | .ifChain condition body alternatives, _, _, stands => by
    rw [checkStmt]
    exact (decides_branch stands (fun inner => decides_checkStmts body inner) fun behind =>
      decides_checkAlternatives alternatives behind).congr fun limit => stmtFits_ifChain.symm
  | .whileLoop condition body, _, _, stands => by
    rw [checkStmt]
    have passBody := FirstPass.withFrame .loop
      (.withScope .block (firstPass_checkStmts (1 :: place) 0 body))
    refine (Decides.bind stands (.checkCondition _ _) passBody (decides_checkCondition stands)
      fun _ _ behind => ?_).congr fun limit => stmtFits_whileLoop.symm
    rw [Surroundings.declare_nil] at behind ⊢
    exact (decides_block behind.enterLoop fun inner => decides_checkStmts body inner).withFrame rfl
  | .forLoop initializer condition increment body, _, _, stands => by
    rw [checkStmt]
    exact decides_forLoop stands fun inner => decides_checkStmts body inner
  | .breakLoop, _, _, stands => by
    rw [checkStmt]
    exact (decides_allowed stands.breaks).congr fun limit => stmtFits_breakLoop.symm
  | .continueLoop, _, _, stands => by
    rw [checkStmt]
    exact (decides_allowed stands.continues).congr fun limit => stmtFits_continueLoop.symm

/-- The walk over what follows the body of an `if` decides whether it fits. -/
theorem decides_checkAlternatives {place : Place} : (alternatives : Alternatives) →
    {analyzer : Analyzer} → {around : Surroundings} → (stands : analyzer.Stands around) →
      Decides (checkAlternatives place alternatives) analyzer around
        (AlternativesFit around alternatives)
  | .none, _, _, stands => by
    rw [checkAlternatives]
    exact decides_of_ok rfl rfl fun _ => ⟨.none, Nat.zero_le _⟩
  | .otherwise body, _, _, stands => by
    rw [checkAlternatives]
    exact (decides_block stands fun inner => decides_checkStmts body inner).congr
      fun limit => alternativesFit_otherwise.symm
  | .elseIf condition body alternatives, _, _, stands => by
    rw [checkAlternatives]
    exact (decides_branch stands (fun inner => decides_checkStmts body inner) fun behind =>
      decides_checkAlternatives alternatives behind).congr fun limit => alternativesFit_elseIf.symm

/-- The walk over statements decides whether they fit. -/
theorem decides_checkStmts {place : Place} {index : Nat} : (body : List Stmt) →
    {analyzer : Analyzer} → {around : Surroundings} → (stands : analyzer.Stands around) →
      Decides (checkStmts place index body) analyzer around
        (BodyFits analyzer.ownFunctions around body)
  | [], _, _, stands => by
    rw [checkStmts]
    exact decides_of_ok rfl rfl fun _ => ⟨undeclared_nil _, .nil, Nat.zero_le _⟩
  | stmt :: later, _, _, stands => by
    rw [checkStmts]
    have passFirst := firstPass_checkStmt (index :: place) stmt
    refine (Decides.bind stands passFirst (firstPass_checkStmts place (index + 1) later)
      (decides_checkStmt stmt stands) fun _ passes behind => ?_).congr
      fun limit => bodyFits_cons.symm
    rw [← passes.ownFunctions stands.sound.inRange]
    exact decides_checkStmts later behind

end

end TypedImp
