/-
**The errors with which a computation fails.**

What can go wrong is known rule by rule, and it stays known when rules are put together: a
computation fails with errors of a kind if each of its parts does.

* `FailsWith` — a value, or an error of a kind.
* `Maintains` — a computation keeps an invariant of its state, or fails with an error of a kind.
  Both are closed under running one part after another.
* `SemanticError.Plain` — the errors about names, types and control flow. The rules of the language
  know no others (`plain_variableType`, …), apart from an operator that has no category and an
  assignment to something else than a variable (`failsWith_binaryResult`,
  `failsWith_assignedType`).
* `SemanticError.Nameless` — the errors that name no variable and no function, such as those of the
  rules that look at types alone (`nameless_binaryResult`, …).
-/

import Mathlib.Tactic.SplitIfs
import TypedImp.Analysis.Resolve
import TypedImp.Proofs.Computation

namespace TypedImp

/-! ### Kinds of errors -/

/-- A value, or an error of a kind. -/
def FailsWith {ε α : Type} (kind : ε → Prop) (value : Except ε α) : Prop :=
  ∀ error, value = .error error → kind error

/-- From a state with the invariant the computation ends in another one, or in an error of a kind. -/
def Maintains {ε σ α : Type} (invariant : σ → Prop) (kind : ε → Prop)
    (computation : EStateM ε σ α) : Prop :=
  ∀ state, invariant state →
    match computation state with
    | .ok _ after => invariant after
    | .error error _ => kind error

section Kinds

variable {ε σ α β : Type} {kind other : ε → Prop} {invariant : σ → Prop}

theorem FailsWith.ok (value : α) : FailsWith kind (.ok value) :=
  nofun

theorem FailsWith.error {error : ε} (holds : kind error) :
    FailsWith kind (.error error : Except ε α) := by
  intro other same
  cases same
  exact holds

theorem FailsWith.ite {condition : Prop} [Decidable condition] {yes no : Except ε α}
    (first : FailsWith kind yes) (second : FailsWith kind no) :
    FailsWith kind (if condition then yes else no) := by
  split
  · exact first
  · exact second

theorem FailsWith.bind {first : Except ε α} {next : α → Except ε β} (head : FailsWith kind first)
    (tail : ∀ value, FailsWith kind (next value)) : FailsWith kind (first >>= next) := by
  cases first with
  | error error => exact .error (head error rfl)
  | ok value => exact tail value

theorem FailsWith.map {value : Except ε α} (fails : FailsWith kind value) (change : α → β) :
    FailsWith kind (value.map change) := by
  cases value with
  | error error => exact .error (fails error rfl)
  | ok value => exact .ok (change value)

theorem FailsWith.mono {value : Except ε α} (fails : FailsWith kind value)
    (weaker : ∀ error, kind error → other error) : FailsWith other value :=
  fun error ended => weaker error (fails error ended)

theorem Maintains.ofExcept {value : Except ε α} (fails : FailsWith kind value) :
    Maintains invariant kind (MonadExcept.ofExcept value : EStateM ε σ α) := by
  intro state holds
  rw [ofExcept_apply]
  cases value with
  | error error => exact fails error rfl
  | ok value => exact holds

theorem Maintains.pure (value : α) :
    Maintains invariant kind (pure value : EStateM ε σ α) :=
  .ofExcept (.ok value)

theorem Maintains.throw {error : ε} (holds : kind error) :
    Maintains invariant kind (throw error : EStateM ε σ α) :=
  .ofExcept (.error holds)

theorem Maintains.bind {first : EStateM ε σ α} {next : α → EStateM ε σ β}
    (head : Maintains invariant kind first)
    (tail : ∀ value, Maintains invariant kind (next value)) :
    Maintains invariant kind (first >>= next) := by
  intro state holds
  have middle := head state holds
  rw [bind_apply]
  cases ended : first state with
  | error error after =>
    rw [ended] at middle
    exact middle
  | ok value after =>
    rw [ended] at middle
    exact tail value after middle

theorem Maintains.ite {condition : Prop} [Decidable condition] {yes no : EStateM ε σ α}
    (first : Maintains invariant kind yes) (second : Maintains invariant kind no) :
    Maintains invariant kind (if condition then yes else no) := by
  split
  · exact first
  · exact second

end Kinds

/-! ### The rules -/

namespace SemanticError

/-- An error about names, types or control flow. The others are about the shape of a tree and about
the following of calls. -/
def Plain : SemanticError → Prop
  | invalidAssignmentTarget | invalidOperator _ | resolutionCycle _ | resolutionTooDeep _ => False
  | _ => True

end SemanticError

/-- A binary operator fails for its types, or because it is no operator. -/
theorem failsWith_binaryResult (operator : String) (left right : DataType) :
    FailsWith (fun error => error.Plain ∨
        OperatorCategory.of? operator = none ∧ error = .invalidOperator operator)
      (binaryResult operator left right) := by
  refine .ite (.error (.inl trivial)) ?_
  cases OperatorCategory.of? operator with
  | none => exact .error (.inr ⟨rfl, rfl⟩)
  | some category =>
    cases category with
    | comparison => exact .ok _
    | logical | arithmetic => exact .ite (.ok _) (.error (.inl trivial))

theorem plain_resultBeside (operator : String) (category : OperatorCategory) (known : DataType) :
    FailsWith SemanticError.Plain (resultBeside operator category known) := by
  cases category with
  | comparison => exact .ok _
  | logical | arithmetic => exact .ite (.ok _) (.error trivial)

theorem plain_variableType (name : String) (found : Option Variable) :
    FailsWith SemanticError.Plain (variableType name found) := by
  cases found with
  | none => exact .error trivial
  | some declared => exact .ok _

/-- An assignment fails for its types, or because it assigns to no variable. -/
theorem failsWith_assignedType (operator : String) (target : Expr)
    (lookup : String → Option Variable) :
    FailsWith (fun error => error.Plain ∨
        (∀ name, target ≠ .identifier name) ∧ error = .invalidAssignmentTarget)
      (assignedType operator target lookup) := by
  cases target with
  | identifier name =>
    exact ((plain_variableType _ _).mono fun _ => .inl).bind fun expected =>
      .ite (.error (.inl trivial)) (.ok _)
  | literal | assign | binary | unary | call => exact .error (.inr ⟨nofun, rfl⟩)

theorem plain_expectType (expected received : DataType) :
    FailsWith SemanticError.Plain (expectType expected received) :=
  .ite (.ok _) (.error trivial)

theorem plain_expectCondition (received : DataType) :
    FailsWith SemanticError.Plain (expectCondition received) :=
  .ite (.ok _) (.error trivial)

theorem plain_expectNumeric (operator : String) (received : DataType) :
    FailsWith SemanticError.Plain (expectNumeric operator received) :=
  .ite (.ok _) (.error trivial)

theorem plain_enclosingReturnType (tree : ScopeTree) (id : ScopeId) :
    FailsWith SemanticError.Plain (tree.enclosingReturnType id) := by
  unfold ScopeTree.enclosingReturnType
  split
  · exact .error trivial
  · split
    · exact .ok _
    · exact .error trivial

theorem plain_declareVariable (tree : ScopeTree) (id : ScopeId) (name : String)
    (type : DataType) : FailsWith SemanticError.Plain (tree.declareVariable id name type) := by
  unfold ScopeTree.declareVariable
  split
  · exact .error trivial
  · exact .ok _

theorem plain_declareFunction (tree : ScopeTree) (id : ScopeId) (name : String)
    (signature : Signature) :
    FailsWith SemanticError.Plain (tree.declareFunction id name signature) := by
  unfold ScopeTree.declareFunction
  split
  · exact .error trivial
  · exact .ok _

theorem plain_calledSignature (tree : ScopeTree) (scope : ScopeId) (callee : String)
    (received : Nat) : FailsWith SemanticError.Plain (calledSignature tree scope callee received) := by
  unfold calledSignature
  cases tree.lookupFunction scope callee with
  | none => exact .error trivial
  | some signature => exact .ite (.error trivial) (.ite (.error trivial) (.ok _))

/-! ### Errors that name nothing -/

namespace SemanticError

/-- An error that names no variable and no function. -/
def Nameless : SemanticError → Prop
  | variableAlreadyDeclared _ | functionAlreadyDeclared _ | variableNotDeclared _
  | functionNotDeclared _ | argumentMismatch _ _ _ _ | unexpectedArguments _ _ _
  | missingArguments _ _ _ | resolutionCycle _ => False
  | _ => True

end SemanticError

theorem nameless_binaryResult (operator : String) (left right : DataType) :
    FailsWith SemanticError.Nameless (binaryResult operator left right) := by
  refine .ite (.error trivial) ?_
  cases OperatorCategory.of? operator with
  | none => exact .error trivial
  | some category =>
    cases category with
    | comparison => exact .ok _
    | logical | arithmetic => exact .ite (.ok _) (.error trivial)

theorem nameless_resultBeside (operator : String) (category : OperatorCategory)
    (known : DataType) : FailsWith SemanticError.Nameless (resultBeside operator category known) := by
  cases category with
  | comparison => exact .ok _
  | logical | arithmetic => exact .ite (.ok _) (.error trivial)

theorem nameless_expectType (expected received : DataType) :
    FailsWith SemanticError.Nameless (expectType expected received) :=
  .ite (.ok _) (.error trivial)

theorem nameless_expectCondition (received : DataType) :
    FailsWith SemanticError.Nameless (expectCondition received) :=
  .ite (.ok _) (.error trivial)

theorem nameless_expectNumeric (operator : String) (received : DataType) :
    FailsWith SemanticError.Nameless (expectNumeric operator received) :=
  .ite (.ok _) (.error trivial)

end TypedImp
