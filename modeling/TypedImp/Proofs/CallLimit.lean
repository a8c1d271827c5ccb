/-
**What the limit on nested calls does.**

The limit is looked at in one place, where a call is admitted. Two analyses of one program under
different limits therefore run in step: up to the first call that the smaller limit refuses they do
the same, and if there is no such call they end the same.

* `InStep` — a result under a limit and one under a larger limit: the same, or the first is that
  calls are nested too deep. It is closed under running one part after another.
* `inStep_resolved`, `inStep_drainEach` — the second pass runs in step, over an expression and over
  the queue.
* `inStep_analyze` — **so does an analysis.** The first pass does not look at the limit.
* `analyze_limit` — **the limit cuts exactly at the nesting of calls and changes nothing else.**
-/

import TypedImp.Proofs.WellTyped

namespace TypedImp

open Analyzer

/-! ### Results in step -/

/-- Of the results under two limits the first reports the smaller limit, or they are the same and
have nothing to do with the limit. -/
def InStep {α : Type} (limit : Nat) (small large : Except SemanticError α) : Prop :=
  small = .error (.resolutionTooDeep limit) ∨ (small = large ∧ ShallowValue small)

section InStep

variable {α β : Type} {limit : Nat}

theorem inStep_refl {value : Except SemanticError α} (shallow : ShallowValue value) :
    InStep limit value value :=
  .inr ⟨rfl, shallow⟩

theorem inStep_ok (value : α) : InStep limit (.ok value) (.ok value) :=
  inStep_refl (shallowValue_ok value)

theorem InStep.bind {small large : Except SemanticError α}
    {next other : α → Except SemanticError β} (head : InStep limit small large)
    (tail : ∀ value, InStep limit (next value) (other value)) :
    InStep limit (small >>= next) (large >>= other) := by
  rcases head with refused | ⟨rfl, shallow⟩
  · rw [refused]
    exact .inl rfl
  · cases small with
    | error error => exact inStep_refl (shallowValue_error (shallow error rfl))
    | ok value => exact tail value

theorem InStep.map {small large : Except SemanticError α} (head : InStep limit small large)
    (change : α → β) : InStep limit (small.map change) (large.map change) := by
  rcases head with refused | ⟨rfl, shallow⟩
  · rw [refused]
    exact .inl rfl
  · cases small with
    | error error => exact inStep_refl (shallowValue_error (shallow error rfl))
    | ok value => exact inStep_ok (change value)

end InStep

/-! ### The second pass -/

theorem shallow_calledSignature (tree : ScopeTree) (scope : ScopeId) (callee : String)
    (received : Nat) : ShallowValue (calledSignature tree scope callee received) :=
  (plain_calledSignature tree scope callee received).shallow

theorem shallow_expectArgument (callee : String) (position : Nat) (expected received : DataType) :
    ShallowValue (expectArgument callee position expected received) :=
  shallowValue_ite (shallowValue_ok _) (shallowValue_error nofun)

section Resolving

variable {tree : ScopeTree} {limit larger : Nat} {site : Site}

mutual

/-- **Following the calls of an expression under two limits runs in step.** -/
theorem inStep_resolved (within : limit ≤ larger) {activation : Activation} {place : Place} :
    (expr : Expr) → InStep limit (resolved tree limit site activation place expr)
      (resolved tree larger site activation place expr)
  | .literal type value => by
    rw [resolved_literal, resolved_literal]
    exact inStep_ok type
  | .identifier name => by
    rw [resolved_identifier, resolved_identifier]
    exact inStep_refl (shallow_variableType _ _)
  | .assign operator target value => by
    rw [resolved_assign, resolved_assign]
    exact (inStep_refl (shallow_assignedType _ _ _)).bind fun expected =>
      (inStep_resolved within value).bind fun received =>
        (inStep_refl (shallow_expectType _ _)).bind fun _ => inStep_ok expected
  | .binary operator left right => by
    rw [resolved_binary, resolved_binary]
    exact (inStep_resolved within left).bind fun leftType =>
      (inStep_resolved within right).bind fun rightType => inStep_refl (shallow_binaryResult _ _ _)
  | .unary operator fixity operand => by
    rw [resolved_unary, resolved_unary]
    exact inStep_resolved within operand
  | .call callee arguments => by
    rw [resolved_call, resolved_call]
    by_cases full : limit ≤ activation.depth
    · rw [if_pos full]
      exact .inl rfl
    · rw [if_neg full, if_neg fun fuller => full (Nat.le_trans within fuller)]
      by_cases busy : place ∈ activation.resolving
      · rw [if_pos busy, if_pos busy]
        exact inStep_refl (shallowValue_error nofun)
      · rw [if_neg busy, if_neg busy]
        exact (inStep_refl (shallow_calledSignature _ _ _ _)).bind fun signature =>
          (inStep_resolvedArguments within arguments signature.parameters).bind fun _ =>
            inStep_ok signature.returnType

/-- Testing arguments under two limits runs in step. -/
theorem inStep_resolvedArguments (within : limit ≤ larger) {activation : Activation}
    {place : Place} {callee : String} {index : Nat} :
    (arguments : List Expr) → (parameters : List Parameter) →
      InStep limit
        (resolvedArguments tree limit site activation place callee index arguments parameters)
        (resolvedArguments tree larger site activation place callee index arguments parameters)
  | argument :: arguments, parameter :: parameters => by
    rw [resolvedArguments_cons, resolvedArguments_cons]
    exact (inStep_resolved within argument).bind fun received =>
      (inStep_refl (shallow_expectArgument _ _ _ _)).bind fun _ =>
        inStep_resolvedArguments within arguments parameters
  | [], _ => by
    unfold resolvedArguments
    rw [resolveArguments.eq_def, resolveArguments.eq_def]
    exact inStep_ok ()
  | _ :: _, [] => by
    unfold resolvedArguments
    rw [resolveArguments.eq_def, resolveArguments.eq_def]
    exact inStep_ok ()

end

/-- Resolving an entry under two limits runs in step. -/
theorem inStep_resolvePending (within : limit ≤ larger) (entry : Pending)
    (activation : Activation) :
    InStep limit (outcome (resolvePending tree limit entry) activation)
      (outcome (resolvePending tree larger entry) activation) := by
  rw [outcome_resolvePending, outcome_resolvePending]
  refine (inStep_resolved within entry.occurrence.expr).bind fun received => ?_
  cases entry.requirement with
  | bare => exact inStep_ok ()
  | assignTo | returnValue => exact inStep_refl (shallow_expectType _ _)
  | condition => exact inStep_refl (shallow_expectCondition _)
  | numericOperand => exact inStep_refl (shallow_expectNumeric _ _)
  | binaryOperand operator other waitsLeft =>
    have side : InStep limit (resolvedOther tree limit entry.site activation other)
        (resolvedOther tree larger entry.site activation other) := by
      cases other with
      | known type => exact inStep_ok type
      | waiting occurrence => exact inStep_resolved within occurrence.expr
    exact side.bind fun otherType =>
      (inStep_refl (shallowValue_ite (shallow_binaryResult _ _ _) (shallow_binaryResult _ _ _))).map _

end Resolving

/-! ### The queue -/

theorem outcome_drainEach_cons (entry : Pending) (older : List Pending) (analyzer : Analyzer) :
    outcome (drainEach (entry :: older)) analyzer =
      outcome (resolvePending analyzer.scopes analyzer.limit entry) analyzer.activation >>= fun _ =>
        outcome (drainEach older) { analyzer with pending := older } := by
  rw [outcome, drainEach_apply]
  dsimp only
  cases outcome (resolvePending analyzer.scopes analyzer.limit entry) analyzer.activation <;> rfl

/-- **The queue is worked off in step.** -/
theorem inStep_drainEach {larger : Nat} (entries : List Pending) {analyzer : Analyzer}
    (within : analyzer.limit ≤ larger) :
    InStep analyzer.limit (outcome (drainEach entries) analyzer)
      (outcome (drainEach entries) (analyzer.withLimit larger)) := by
  induction entries generalizing analyzer with
  | nil => exact inStep_ok ()
  | cons entry older ih =>
    rw [outcome_drainEach_cons, outcome_drainEach_cons]
    have rest := @ih { analyzer with pending := older } within
    exact (inStep_resolvePending within entry analyzer.activation).bind fun _ => rest

/-! ### An analysis -/

/-- **Analyses of a program under two limits run in step.** -/
theorem inStep_analyze {limit larger : Nat} (within : limit ≤ larger) (program : Program) :
    InStep limit (analyze program limit) (analyze program larger) := by
  have pass := firstPass_checkStmts [] 0 program.body
  have same : checkProgram program (start larger) =
      endWithLimit larger (checkProgram program (start limit)) :=
    pass.withLimit larger (start limit)
  cases ended : checkProgram program (start limit) with
  | error error after =>
    rw [ended] at same
    rw [analyze_of_error ended, analyze_of_error same]
    exact inStep_refl (shallowValue_error (pass.shallow _ _ _ ended))
  | ok nothing after =>
    rw [ended] at same
    rw [analyze_of_ok ended, analyze_of_ok same]
    have unchanged : after.limit = limit := (pass.passes (sound_start limit).inRange ended).limit
    have queue : InStep limit (outcome drain after) (outcome drain (after.withLimit larger)) := by
      have drained := inStep_drainEach after.pending (Nat.le_trans (Nat.le_of_eq unchanged) within)
      rw [unchanged] at drained
      exact drained
    exact queue.map _

/-- A limit that is reported is the limit of the analysis. -/
theorem reported_eq_limit {program : Program} {limit reported : Nat}
    (refused : analyze program limit = .error (.resolutionTooDeep reported)) :
    reported = limit := by
  rcases inStep_analyze (Nat.le_refl limit) program with own | ⟨_, shallow⟩
  · rw [own] at refused
    cases refused
    rfl
  · exact absurd rfl (shallow _ refused reported)

/-- **The limit cuts exactly at the nesting of calls and changes nothing else.** A program is
accepted under a limit when its calls are nested no deeper and it is accepted under the limit that
just admits them; a result that does not report the limit is the result under every larger limit;
and the limit that is reported is the one given. -/
theorem analyze_limit (program : Program) :
    (∀ limit, (∃ tree, analyze program limit = .ok tree) ↔
      program.callDepth ≤ limit ∧ ∃ tree, analyze program program.callDepth = .ok tree) ∧
    (∀ limit larger, limit ≤ larger →
      (∀ reported, analyze program limit ≠ .error (.resolutionTooDeep reported)) →
        analyze program larger = analyze program limit) ∧
    ∀ limit reported, analyze program limit = .error (.resolutionTooDeep reported) →
      reported = limit := by
  refine ⟨fun limit => ?_, fun limit larger within admitted => ?_, fun limit reported => ?_⟩
  · rw [analyze_eq_ok_iff, analyze_eq_ok_iff, and_iff_left (Nat.le_refl program.callDepth)]
    exact and_comm
  · rcases inStep_analyze within program with refused | ⟨same, _⟩
    · exact absurd refused (admitted limit)
    · exact same.symm
  · exact reported_eq_limit

/-- A call inside the argument of a call of the same function. -/
theorem analyze_limit_nested :
    let program : Program := ⟨[
      .functionDecl .int "f" [⟨"y", .int⟩] [.returnValue (some (.identifier "y"))],
      .expression (.call "f" [.call "f" [.literal .int "1"]])]⟩
    program.callDepth = 2 ∧ analyze program 1 = .error (.resolutionTooDeep 1) ∧
      (∃ tree, analyze program 5 = .ok tree) ∧ analyze program 5 = analyze program 2 := by
  intro program
  obtain ⟨cuts, keeps, _⟩ := analyze_limit program
  have refused : analyze program 1 = .error (.resolutionTooDeep 1) := by decide +kernel
  have accepted : ∃ tree, analyze program 2 = .ok tree :=
    exists_eq_ok_of_toBool (by decide +kernel)
  obtain ⟨tree, ended⟩ := accepted
  have admitted : ∀ reported, analyze program 2 ≠ .error (.resolutionTooDeep reported) := by
    rw [ended]
    exact nofun
  exact ⟨rfl, refused, (cuts 5).mpr ⟨by decide, tree, ended⟩, keeps 2 5 (by decide) admitted⟩

end TypedImp
