/-
**Errors that have nothing to do with the limit.**

Only the second pass counts nested calls. The rules of the language and the first pass over
expressions know other errors alone; such errors are called shallow.

* `ShallowValue`, `ShallowRun` — the same of a value and of a computation; computations are closed
  under running one part after another.
* `shallow_checkExpr` — the first pass over an expression does not complain of the limit.
-/

import TypedImp.Proofs.Failures

namespace TypedImp

/-- The error is another one than that calls are nested too deep. -/
def SemanticError.Shallow (error : SemanticError) : Prop :=
  ∀ limit, error ≠ .resolutionTooDeep limit

/-- A value, or an error that has nothing to do with the limit. -/
def ShallowValue {α : Type} (value : Except SemanticError α) : Prop :=
  ∀ error, value = .error error → error.Shallow

/-- A computation whose errors have nothing to do with the limit. -/
def ShallowRun {σ α : Type} (computation : EStateM SemanticError σ α) : Prop :=
  ∀ state error after, computation state = .error error after → error.Shallow

section Shallow

variable {σ α β : Type}

theorem shallowValue_ok (value : α) : ShallowValue (.ok value) :=
  FailsWith.ok value

theorem shallowValue_error {error : SemanticError} (shallow : error.Shallow) :
    ShallowValue (.error error : Except SemanticError α) :=
  FailsWith.error shallow

theorem shallowValue_ite {condition : Prop} [Decidable condition]
    {yes no : Except SemanticError α} (first : ShallowValue yes) (second : ShallowValue no) :
    ShallowValue (if condition then yes else no) :=
  FailsWith.ite first second

theorem shallowRun_iff {computation : EStateM SemanticError σ α} :
    ShallowRun computation ↔ Maintains (fun _ => True) SemanticError.Shallow computation := by
  refine forall_congr' fun state => ?_
  cases computation state with
  | ok value after => exact iff_of_true nofun fun _ => trivial
  | error error after =>
    constructor
    · intro shallow _
      exact shallow error after rfl
    · intro shallow other last same
      cases same
      exact shallow trivial

theorem shallowRun_ofExcept {value : Except SemanticError α} (shallow : ShallowValue value) :
    ShallowRun (MonadExcept.ofExcept value : EStateM SemanticError σ α) :=
  shallowRun_iff.mpr (.ofExcept shallow)

theorem shallowRun_pure (value : α) : ShallowRun (pure value : EStateM SemanticError σ α) :=
  shallowRun_iff.mpr (.pure value)

theorem shallowRun_throw {error : SemanticError} (shallow : error.Shallow) :
    ShallowRun (throw error : EStateM SemanticError σ α) :=
  shallowRun_iff.mpr (.throw shallow)

theorem ShallowRun.bind {first : EStateM SemanticError σ α}
    {next : α → EStateM SemanticError σ β} (head : ShallowRun first)
    (tail : ∀ value, ShallowRun (next value)) : ShallowRun (first >>= next) :=
  shallowRun_iff.mpr ((shallowRun_iff.mp head).bind fun value => shallowRun_iff.mp (tail value))

end Shallow

/-! ### The rules -/

theorem SemanticError.Plain.shallow {error : SemanticError} (plain : error.Plain) :
    error.Shallow := by
  rintro limit rfl
  exact plain

/-- What fails with the errors of the rules has nothing to do with the limit. -/
theorem FailsWith.shallow {α : Type} {value : Except SemanticError α}
    (plain : FailsWith SemanticError.Plain value) : ShallowValue value :=
  plain.mono fun _ => SemanticError.Plain.shallow

theorem shallow_binaryResult (operator : String) (left right : DataType) :
    ShallowValue (binaryResult operator left right) := by
  refine (failsWith_binaryResult operator left right).mono ?_
  rintro error (plain | ⟨_, rfl⟩)
  · exact plain.shallow
  · exact nofun

theorem shallow_resultBeside (operator : String) (category : OperatorCategory)
    (known : DataType) : ShallowValue (resultBeside operator category known) :=
  (plain_resultBeside operator category known).shallow

theorem shallow_variableType (name : String) (found : Option Variable) :
    ShallowValue (variableType name found) :=
  (plain_variableType name found).shallow

theorem shallow_assignedType (operator : String) (target : Expr)
    (lookup : String → Option Variable) :
    ShallowValue (assignedType operator target lookup) := by
  refine (failsWith_assignedType operator target lookup).mono ?_
  rintro error (plain | ⟨_, rfl⟩)
  · exact plain.shallow
  · exact nofun

theorem shallow_expectType (expected received : DataType) :
    ShallowValue (expectType expected received) :=
  (plain_expectType expected received).shallow

theorem shallow_expectCondition (received : DataType) :
    ShallowValue (expectCondition received) :=
  (plain_expectCondition received).shallow

theorem shallow_expectNumeric (operator : String) (received : DataType) :
    ShallowValue (expectNumeric operator received) :=
  (plain_expectNumeric operator received).shallow

theorem shallow_enclosingReturnType (tree : ScopeTree) (id : ScopeId) :
    ShallowValue (tree.enclosingReturnType id) :=
  (plain_enclosingReturnType tree id).shallow

theorem shallow_declareVariable (tree : ScopeTree) (id : ScopeId) (name : String)
    (type : DataType) : ShallowValue (tree.declareVariable id name type) :=
  (plain_declareVariable tree id name type).shallow

theorem shallow_declareFunction (tree : ScopeTree) (id : ScopeId) (name : String)
    (signature : Signature) : ShallowValue (tree.declareFunction id name signature) :=
  (plain_declareFunction tree id name signature).shallow

/-! ### Expressions -/

theorem shallow_queueOperand (site : Site) (waiting : Occurrence) (operator : String)
    (other : OtherSide) (waitsLeft : Bool) :
    ShallowRun (queueOperand site waiting operator other waitsLeft) :=
  nofun

theorem shallow_checkOperands (site : Site) (operator : String) (left right : Occurrence)
    (leftType rightType : Checked) :
    ShallowRun (checkOperands site operator left right leftType rightType) := by
  unfold checkOperands
  cases OperatorCategory.of? operator with
  | none => exact shallowRun_throw nofun
  | some category =>
    cases leftType with
    | known leftType =>
      cases rightType with
      | known rightType =>
        exact (shallowRun_ofExcept (shallow_binaryResult _ _ _)).bind fun type => shallowRun_pure _
      | deferred =>
        exact (shallowRun_ofExcept (shallow_resultBeside _ _ _)).bind fun type =>
          (shallow_queueOperand _ _ _ _ _).bind fun _ => shallowRun_pure _
    | deferred =>
      cases rightType with
      | known rightType =>
        exact (shallowRun_ofExcept (shallow_resultBeside _ _ _)).bind fun type =>
          (shallow_queueOperand _ _ _ _ _).bind fun _ => shallowRun_pure _
      | deferred =>
        dsimp only
        split_ifs
        · exact shallowRun_pure _
        · exact (shallow_queueOperand _ _ _ _ _).bind fun _ => shallowRun_pure _

/-- **The first pass over an expression does not complain of the limit.** -/
theorem shallow_checkExpr (tree : ScopeTree) (scope : ScopeId) (place : Place) (expr : Expr) :
    ShallowRun (checkExpr tree scope place expr) := by
  cases expr with
  | literal type value => exact shallowRun_pure _
  | identifier name =>
    exact (shallowRun_ofExcept (shallow_variableType _ _)).bind fun type => shallowRun_pure _
  | assign operator target value =>
    refine (shallowRun_ofExcept (shallow_assignedType _ _ _)).bind fun expected =>
      (shallow_checkExpr tree scope _ value).bind fun checked => ?_
    cases checked with
    | known received =>
      dsimp only
      split_ifs
      · exact shallowRun_throw nofun
      · exact shallowRun_pure _
    | deferred => exact shallowRun_pure _
  | binary operator left right =>
    exact (shallow_checkExpr tree scope _ left).bind fun leftType =>
      (shallow_checkExpr tree scope _ right).bind fun rightType =>
        shallow_checkOperands _ _ _ _ _ _
  | unary operator fixity operand => exact shallow_checkExpr tree scope _ operand
  | call callee arguments => exact shallowRun_pure _

end TypedImp
