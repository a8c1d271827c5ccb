/-
**What is asserted of the parts of a program.**

A part of a program fits where it stands if it obeys the rules of the type system, the names of its
functions are free, and its calls fit under the limit. What fits is taken apart here as the walk of
the first pass takes a program apart, one equivalence for each form.

* `StmtFits`, `AlternativesFit`, `BodyFits` — the assertion for a statement, for what follows the
  body of an `if`, and for statements in a row.
* `bodyFits_iff` — for a whole block the assertion is `BlockTyped`, besides the limit.
-/

import TypedImp.Proofs.Decisions

namespace TypedImp

/-- The statement obeys the rules, its function has a free name, and its calls fit. -/
def StmtFits (own : List String) (around : Surroundings) (stmt : Stmt) (limit : Nat) : Prop :=
  Undeclared own (stmt.signatures.map Prod.fst) ∧ StmtTyped around stmt ∧ stmt.callDepth ≤ limit

/-- What follows the body of an `if` obeys the rules, and its calls fit. -/
def AlternativesFit (around : Surroundings) (alternatives : Alternatives) (limit : Nat) : Prop :=
  AlternativesTyped around alternatives ∧ alternatives.callDepth ≤ limit

/-- The statements obey the rules, their functions have free names, and their calls fit. -/
def BodyFits (own : List String) (around : Surroundings) (body : List Stmt) (limit : Nat) : Prop :=
  Undeclared own ((declaredSignatures body).map Prod.fst) ∧ StmtsTyped around body ∧
    stmtsDepth body ≤ limit

/-! ### Part by part -/

section Forms

variable {own : List String} {around : Surroundings} {limit : Nat}

/-- A statement that declares no function needs no free name. -/
theorem stmtFits_iff {stmt : Stmt} (none : stmt.signatures = []) :
    StmtFits own around stmt limit ↔ StmtTyped around stmt ∧ stmt.callDepth ≤ limit := by
  unfold StmtFits
  rw [none]
  exact and_iff_right (undeclared_nil own)

/-- A block is typed as a whole when its functions have different names. -/
theorem bodyFits_iff {body : List Stmt}
    (functions : around.block.signatures = declaredSignatures body) :
    BodyFits [] around body limit ↔ BlockTyped around body ∧ stmtsDepth body ≤ limit := by
  unfold BodyFits
  rw [undeclared_fresh, ← and_assoc]
  refine and_congr_left fun _ => ⟨?_, ?_⟩
  · rintro ⟨distinct, typed⟩
    exact .block (functions ▸ distinct) typed
  · rintro ⟨distinct, typed⟩
    exact ⟨functions ▸ distinct, typed⟩

theorem stmtFits_variableDecl {type : DataType} {name : String} {initializer : Expr} :
    StmtFits own around (.variableDecl type name initializer) limit ↔
      TypedWithin around.view limit initializer type ∧
        Undeclared (around.block.bindings.map Prod.fst) [name] := by
  rw [stmtFits_iff rfl, ← lookup_eq_none_iff_undeclared]
  constructor
  · rintro ⟨obeys, fits⟩
    cases obeys with
    | variableDecl fresh typed => exact ⟨⟨typed, fits⟩, fresh⟩
  · rintro ⟨⟨typed, fits⟩, fresh⟩
    exact ⟨.variableDecl fresh typed, fits⟩

theorem stmtFits_functionDecl {returnType : DataType} {name : String}
    {parameters : List Parameter} {body : List Stmt} :
    StmtFits own around (.functionDecl returnType name parameters body) limit ↔
      Undeclared own [name] ∧ Undeclared [] (parameters.map (·.name)) ∧
        BodyFits []
          ((around.enterFunction returnType).enter (parameters.map Parameter.binding) body) body
          limit := by
  rw [bodyFits_iff rfl, undeclared_fresh]
  refine and_congr_right fun _ => ⟨?_, ?_⟩
  · rintro ⟨obeys, fits⟩
    cases obeys with
    | functionDecl distinct typed => exact ⟨distinct, typed, fits⟩
  · rintro ⟨distinct, typed, fits⟩
    exact ⟨.functionDecl distinct typed, fits⟩

theorem stmtFits_expression {value : Expr} :
    StmtFits own around (.expression value) limit ↔
      ∃ type, TypedWithin around.view limit value type := by
  rw [stmtFits_iff rfl]
  constructor
  · rintro ⟨obeys, fits⟩
    cases obeys with
    | expression typed => exact ⟨_, typed, fits⟩
  · rintro ⟨type, typed, fits⟩
    exact ⟨.expression typed, fits⟩

theorem stmtFits_returnValue {value : Expr} :
    StmtFits own around (.returnValue (some value)) limit ↔
      ∃ type, around.returnType = some type ∧ TypedWithin around.view limit value type := by
  rw [stmtFits_iff rfl]
  constructor
  · rintro ⟨obeys, fits⟩
    cases obeys with
    | returnValue inside typed => exact ⟨_, inside, typed, fits⟩
  · rintro ⟨type, inside, typed, fits⟩
    exact ⟨.returnValue inside typed, fits⟩

theorem stmtFits_returnNothing :
    StmtFits own around (.returnValue none) limit ↔ around.returnType = some .void := by
  rw [stmtFits_iff rfl]
  constructor
  · rintro ⟨obeys, _⟩
    cases obeys with
    | returnNothing inside => exact inside
  · intro inside
    exact ⟨.returnNothing inside, Nat.zero_le _⟩

theorem stmtFits_ifChain {condition : Expr} {body : List Stmt} {alternatives : Alternatives} :
    StmtFits own around (.ifChain condition body alternatives) limit ↔
      TypedWithin around.view limit condition .boolean ∧
        BodyFits [] (around.enter [] body) body limit ∧
          AlternativesFit around alternatives limit := by
  rw [stmtFits_iff rfl, bodyFits_iff rfl, Stmt.callDepth, Nat.max_le, Nat.max_le]
  constructor
  · rintro ⟨obeys, testFits, fits, othersFit⟩
    cases obeys with
    | ifChain test typed others => exact ⟨⟨test, testFits⟩, ⟨typed, fits⟩, others, othersFit⟩
  · rintro ⟨⟨test, testFits⟩, ⟨typed, fits⟩, others, othersFit⟩
    exact ⟨.ifChain test typed others, testFits, fits, othersFit⟩

theorem stmtFits_whileLoop {condition : Expr} {body : List Stmt} :
    StmtFits own around (.whileLoop condition body) limit ↔
      TypedWithin around.view limit condition .boolean ∧
        BodyFits [] (around.enterLoop.enter [] body) body limit := by
  rw [stmtFits_iff rfl, bodyFits_iff rfl, Stmt.callDepth, Nat.max_le]
  constructor
  · rintro ⟨obeys, testFits, fits⟩
    cases obeys with
    | whileLoop test typed => exact ⟨⟨test, testFits⟩, typed, fits⟩
  · rintro ⟨⟨test, testFits⟩, typed, fits⟩
    exact ⟨.whileLoop test typed, testFits, fits⟩

/-- The initializer of a `for` loop declares a variable. -/
def InitializerFits (around : Surroundings) (initializer : Stmt) (limit : Nat) : Prop :=
  ∃ type name value, initializer = .variableDecl type name value ∧
    StmtFits [] around (.variableDecl type name value) limit

/-- The increment of a `for` loop increments or decrements something numeric. -/
def IncrementFits (around : Surroundings) (increment : Expr) (limit : Nat) : Prop :=
  ∃ operator fixity operand type, increment = .unary operator fixity operand ∧
    isIncrement operator = true ∧ TypedWithin around.view limit operand type ∧
    type.isNumeric = true

theorem stmtFits_forLoop {initializer : Stmt} {condition increment : Expr} {body : List Stmt} :
    StmtFits own around (.forLoop initializer condition increment body) limit ↔
      InitializerFits (around.enterLoop.enter [] body) initializer limit ∧
        TypedWithin ((around.enterLoop.enter [] body).declare initializer.bindings).view limit
          condition .boolean ∧
        IncrementFits ((around.enterLoop.enter [] body).declare initializer.bindings) increment
          limit ∧
        BodyFits [] ((around.enterLoop.enter [] body).declare initializer.bindings) body limit := by
  rw [stmtFits_iff rfl, bodyFits_iff rfl, Stmt.callDepth, Nat.max_le, Nat.max_le, Nat.max_le]
  constructor
  · rintro ⟨obeys, startFits, testFits, stepFits, fits⟩
    cases obeys with
    | forLoop start test increments step numeric typed =>
      exact ⟨⟨_, _, _, rfl, stmtFits_variableDecl.mpr
          ⟨⟨start, startFits⟩, undeclared_fresh.mpr (List.nodup_singleton _)⟩⟩,
        ⟨test, testFits⟩, ⟨_, _, _, _, rfl, increments, ⟨step, stepFits⟩, numeric⟩, typed, fits⟩
  · rintro ⟨⟨type, name, value, rfl, starts⟩, ⟨test, testFits⟩,
      ⟨operator, fixity, operand, operandType, rfl, increments, ⟨step, stepFits⟩, numeric⟩, typed,
      fits⟩
    obtain ⟨⟨start, startFits⟩, _⟩ := stmtFits_variableDecl.mp starts
    exact ⟨.forLoop start test increments step numeric typed, startFits, testFits, stepFits, fits⟩

theorem stmtFits_breakLoop :
    StmtFits own around .breakLoop limit ↔ around.inLoop = true := by
  rw [stmtFits_iff rfl]
  constructor
  · rintro ⟨obeys, _⟩
    cases obeys with
    | breakLoop inside => exact inside
  · intro inside
    exact ⟨.breakLoop inside, Nat.zero_le _⟩

theorem stmtFits_continueLoop :
    StmtFits own around .continueLoop limit ↔ around.inLoop = true := by
  rw [stmtFits_iff rfl]
  constructor
  · rintro ⟨obeys, _⟩
    cases obeys with
    | continueLoop inside => exact inside
  · intro inside
    exact ⟨.continueLoop inside, Nat.zero_le _⟩

theorem alternativesFit_otherwise {body : List Stmt} :
    AlternativesFit around (.otherwise body) limit ↔
      BodyFits [] (around.enter [] body) body limit := by
  rw [bodyFits_iff rfl]
  constructor
  · rintro ⟨obeys, fits⟩
    cases obeys with
    | otherwise typed => exact ⟨typed, fits⟩
  · rintro ⟨typed, fits⟩
    exact ⟨.otherwise typed, fits⟩

theorem alternativesFit_elseIf {condition : Expr} {body : List Stmt}
    {alternatives : Alternatives} :
    AlternativesFit around (.elseIf condition body alternatives) limit ↔
      TypedWithin around.view limit condition .boolean ∧
        BodyFits [] (around.enter [] body) body limit ∧
          AlternativesFit around alternatives limit := by
  rw [bodyFits_iff rfl]
  unfold AlternativesFit
  rw [Alternatives.callDepth, Nat.max_le, Nat.max_le]
  constructor
  · rintro ⟨obeys, testFits, fits, othersFit⟩
    cases obeys with
    | elseIf test typed others => exact ⟨⟨test, testFits⟩, ⟨typed, fits⟩, others, othersFit⟩
  · rintro ⟨⟨test, testFits⟩, ⟨typed, fits⟩, others, othersFit⟩
    exact ⟨.elseIf test typed others, testFits, fits, othersFit⟩

theorem bodyFits_cons {stmt : Stmt} {later : List Stmt} :
    BodyFits own around (stmt :: later) limit ↔
      StmtFits own around stmt limit ∧
        BodyFits (own ++ stmt.signatures.map Prod.fst) (around.declare stmt.bindings) later
          limit := by
  unfold BodyFits StmtFits
  have functions : (declaredSignatures (stmt :: later)).map Prod.fst =
      stmt.signatures.map Prod.fst ++ (declaredSignatures later).map Prod.fst := by
    unfold declaredSignatures
    rw [List.flatMap_cons, List.map_append]
  rw [functions, undeclared_append, stmtsDepth, Nat.max_le]
  constructor
  · rintro ⟨⟨free, laterFree⟩, obey, fits, laterFit⟩
    cases obey with
    | cons first rest => exact ⟨⟨free, first, fits⟩, laterFree, rest, laterFit⟩
  · rintro ⟨⟨free, first, fits⟩, laterFree, rest, laterFit⟩
    exact ⟨⟨free, laterFree⟩, .cons first rest, fits, laterFit⟩

end Forms

end TypedImp
