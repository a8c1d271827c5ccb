/-
**Calls that are under way.**

A call counts as under way while its arguments are resolved. It is a cycle to come to a call that is
under way already; two calls are the same if they have the same place. Inside an expression this
cannot come about: the calls in the arguments of a call have longer places than the call itself. So
only a call that was under way before can be a cycle, and when nothing is under way, none is.

* `Expr.callNodes` — all calls of an expression, those inside the arguments of others included.
* `Reenters` — a cycle that is reported is a call of the expression that was under way.
* `reenters_resolved` — **resolving an expression reports no other cycles**, one case for each form
  of expression.
* `acyclic_analyze` — no analysis of a program reports one.
* `resolution_exact` — **resolving an expression leaves the analyzer as it is, however it ends, and
  only a call that is entered again is a cycle.**
-/

import TypedImp.Proofs.Reports

namespace TypedImp

/-! ### All calls of an expression -/

mutual

/-- All calls of an expression, each in front of those inside its arguments. -/
def Expr.callNodes (place : Place) : Expr → List Occurrence
  | .literal _ _ | .identifier _ => []
  | .assign _ target value => target.callNodes (0 :: place) ++ value.callNodes (1 :: place)
  | .binary _ left right => left.callNodes (0 :: place) ++ right.callNodes (1 :: place)
  | .unary _ _ operand => operand.callNodes (0 :: place)
  | .call callee arguments => ⟨place, .call callee arguments⟩ :: argumentNodes place 0 arguments

/-- All calls inside the arguments of a call, from the argument number `index` on. -/
def argumentNodes (place : Place) (index : Nat) : List Expr → List Occurrence
  | [] => []
  | argument :: arguments =>
    argument.callNodes (index :: place) ++ argumentNodes place (index + 1) arguments

end

mutual

/-- The calls of an expression stand at its place or further inside. -/
theorem length_le_of_mem_callNodes {place : Place} {node : Occurrence} :
    {expr : Expr} → node ∈ expr.callNodes place → place.length ≤ node.place.length
  | .literal _ _, member => by cases member
  | .identifier _, member => by cases member
  | .assign _ target value, member => by
    rcases List.mem_append.mp member with inside | inside
    · exact Nat.le_of_succ_le (length_le_of_mem_callNodes inside)
    · exact Nat.le_of_succ_le (length_le_of_mem_callNodes inside)
  | .binary _ left right, member => by
    rcases List.mem_append.mp member with inside | inside
    · exact Nat.le_of_succ_le (length_le_of_mem_callNodes inside)
    · exact Nat.le_of_succ_le (length_le_of_mem_callNodes inside)
  | .unary _ _ operand, member => by
    have inside : node ∈ operand.callNodes (0 :: place) := member
    exact Nat.le_of_succ_le (length_le_of_mem_callNodes inside)
  | .call _ arguments, member => by
    rcases List.mem_cons.mp member with rfl | inside
    · exact Nat.le_refl _
    · exact Nat.le_of_lt (length_lt_of_mem_argumentNodes inside)

/-- The calls inside the arguments of a call stand further inside than the call. -/
theorem length_lt_of_mem_argumentNodes {place : Place} {index : Nat} {node : Occurrence} :
    {arguments : List Expr} → node ∈ argumentNodes place index arguments →
      place.length < node.place.length
  | argument :: arguments, member => by
    rcases List.mem_append.mp member with inside | later
    · exact length_le_of_mem_callNodes inside
    · exact length_lt_of_mem_argumentNodes later

end

/-! ### Errors that are no cycles -/

/-- The error is another one than that a call is a cycle. -/
def SemanticError.Acyclic (error : SemanticError) : Prop :=
  ∀ function, error ≠ .resolutionCycle function

theorem SemanticError.Plain.acyclic {error : SemanticError} (plain : error.Plain) :
    error.Acyclic := by
  rintro function rfl
  exact plain

theorem SemanticError.Nameless.acyclic {error : SemanticError} (nameless : error.Nameless) :
    error.Acyclic := by
  rintro function rfl
  exact nameless

theorem acyclic_assignedType (operator : String) (target : Expr)
    (lookup : String → Option Variable) :
    FailsWith SemanticError.Acyclic (assignedType operator target lookup) := by
  refine (failsWith_assignedType operator target lookup).mono ?_
  rintro error (plain | ⟨_, rfl⟩)
  · exact plain.acyclic
  · exact nofun

theorem acyclic_binaryResult (operator : String) (left right : DataType) :
    FailsWith SemanticError.Acyclic (binaryResult operator left right) :=
  (nameless_binaryResult operator left right).mono fun _ => SemanticError.Nameless.acyclic

/-! ### Cycles that are reported -/

/-- If the error is that a call is a cycle, then it is one of the calls given, and under way. -/
def Reenters (nodes : List Occurrence) (underWay : List Place) (error : SemanticError) : Prop :=
  ∀ function, error = .resolutionCycle function →
    ∃ node ∈ nodes, (∃ arguments, node.expr = .call function arguments) ∧ node.place ∈ underWay

section Reenters

variable {nodes more : List Occurrence} {underWay : List Place} {error : SemanticError} {α : Type}
  {value : Except SemanticError α}

theorem SemanticError.Acyclic.reenters (acyclic : error.Acyclic) :
    Reenters nodes underWay error :=
  fun function same => absurd same (acyclic function)

theorem FailsWith.reenters (acyclic : FailsWith SemanticError.Acyclic value) :
    FailsWith (Reenters nodes underWay) value :=
  acyclic.mono fun _ => SemanticError.Acyclic.reenters

theorem FailsWith.reenters_plain (plain : FailsWith SemanticError.Plain value) :
    FailsWith (Reenters nodes underWay) value :=
  (plain.mono fun _ => SemanticError.Plain.acyclic).reenters

/-- What is reported of some calls is reported of more of them. -/
theorem FailsWith.reenters_mono (reports : FailsWith (Reenters nodes underWay) value)
    (among : nodes ⊆ more) : FailsWith (Reenters more underWay) value := by
  refine reports.mono fun error reenters function same => ?_
  obtain ⟨node, member, rest⟩ := reenters function same
  exact ⟨node, among member, rest⟩

/-- When nothing is under way, nothing is entered again. -/
theorem FailsWith.acyclic_of_idle (reports : FailsWith (Reenters nodes []) value) :
    FailsWith SemanticError.Acyclic value := by
  refine reports.mono fun error reenters function same => ?_
  obtain ⟨node, _, _, underWay⟩ := reenters function same
  exact List.not_mem_nil underWay

end Reenters

section Resolving

variable {tree : ScopeTree} {limit : Nat} {site : Site}

mutual

/-- **Resolving an expression reports only a call of it that was under way before.** -/
theorem reenters_resolved {activation : Activation} {place : Place} : (expr : Expr) →
    FailsWith (Reenters (expr.callNodes place) activation.resolving)
      (resolved tree limit site activation place expr)
  | .literal _ _ => by
    rw [resolved_literal]
    exact .ok _
  | .identifier _ => by
    rw [resolved_identifier]
    exact (plain_variableType _ _).reenters_plain
  | .assign operator target value => by
    rw [resolved_assign]
    exact .bind (acyclic_assignedType _ _ _).reenters fun expected =>
      .bind ((reenters_resolved value).reenters_mono (List.subset_append_right _ _)) fun _ =>
        .bind (plain_expectType _ _).reenters_plain fun _ => .ok expected
  | .binary operator left right => by
    rw [resolved_binary]
    exact .bind ((reenters_resolved left).reenters_mono (List.subset_append_left _ _)) fun _ =>
      .bind ((reenters_resolved right).reenters_mono (List.subset_append_right _ _)) fun _ =>
        (acyclic_binaryResult _ _ _).reenters
  | .unary _ _ operand => by
    rw [resolved_unary]
    exact reenters_resolved operand
  | .call callee arguments => by
    rw [resolved_call]
    split_ifs with tooDeep underWay
    · exact .error nofun
    · refine .error fun function same => ?_
      obtain rfl : callee = function := SemanticError.resolutionCycle.inj same
      exact ⟨_, List.mem_cons_self, ⟨arguments, rfl⟩, underWay⟩
    · refine .bind (plain_calledSignature _ _ _ _).reenters_plain fun signature =>
        .bind ?_ fun _ => .ok _
      refine (reenters_resolvedArguments (activation.enter place) place callee 0 arguments
        signature.parameters).mono fun error reenters function same => ?_
      -- The call itself is under way now, but it is not inside its own arguments.
      obtain ⟨node, member, called, entered⟩ := reenters function same
      have further := length_lt_of_mem_argumentNodes member
      rcases List.mem_cons.mp entered with isCall | before
      · rw [isCall] at further
        exact absurd further (Nat.lt_irrefl _)
      · exact ⟨node, List.mem_cons_of_mem _ member, called, before⟩

/-- Testing the arguments of a call reports only a call inside them that was under way before. -/
theorem reenters_resolvedArguments (activation : Activation) (place : Place) (callee : String)
    (index : Nat) : (arguments : List Expr) → (parameters : List Parameter) →
      FailsWith (Reenters (argumentNodes place index arguments) activation.resolving)
        (resolvedArguments tree limit site activation place callee index arguments parameters)
  | argument :: arguments, parameter :: parameters => by
    rw [resolvedArguments_cons]
    exact .bind ((reenters_resolved argument).reenters_mono (List.subset_append_left _ _))
      fun received => .bind (FailsWith.reenters_plain (.ite (.ok _) (.error trivial))) fun _ =>
        (reenters_resolvedArguments activation place callee (index + 1) arguments
          parameters).reenters_mono (List.subset_append_right _ _)
  | [], _ => by
    unfold resolvedArguments
    rw [resolveArguments.eq_def]
    exact .ok ()
  | _ :: _, [] => by
    unfold resolvedArguments
    rw [resolveArguments.eq_def]
    exact .ok ()

end

/-- An entry of the queue is resolved without a cycle when nothing is under way. -/
theorem acyclic_resolvePending (entry : Pending) :
    FailsWith SemanticError.Acyclic (outcome (resolvePending tree limit entry) .idle) := by
  have idle : ∀ (place : Place) (expr : Expr),
      FailsWith SemanticError.Acyclic (resolved tree limit entry.site .idle place expr) :=
    fun place expr => (reenters_resolved expr).acyclic_of_idle
  rw [outcome_resolvePending]
  refine .bind (idle _ _) fun received => ?_
  cases entry.requirement with
  | bare => exact .ok ()
  | assignTo | returnValue =>
    exact (plain_expectType _ _).mono fun _ => SemanticError.Plain.acyclic
  | condition => exact (plain_expectCondition _).mono fun _ => SemanticError.Plain.acyclic
  | numericOperand => exact (plain_expectNumeric _ _).mono fun _ => SemanticError.Plain.acyclic
  | binaryOperand operator other waitsLeft =>
    have side : FailsWith SemanticError.Acyclic
        (resolvedOther tree limit entry.site .idle other) := by
      cases other with
      | known type => exact .ok type
      | waiting occurrence => exact idle _ _
    exact .bind side fun otherType =>
      .map (.ite (acyclic_binaryResult _ _ _) (acyclic_binaryResult _ _ _)) _

end Resolving

/-! ### Analyses -/

theorem Program.Bears.acyclic {program : Program} {error : SemanticError}
    (bears : program.Bears error) : error.Acyclic := by
  rintro function rfl
  obtain nameless | ⟨use, _, violates⟩ := bears
  · exact nameless
  · exact violates

/-- **No analysis reports a cycle**: the first pass follows no calls, and the second one starts with
none under way. -/
theorem acyclic_analyze (program : Program) (limit : Nat) :
    FailsWith SemanticError.Acyclic (analyze program limit) := by
  obtain ⟨found, ended, bears⟩ | ⟨after, ended, _, idle, _⟩ :=
    Leaves.analyze (truthful_checkProgram program limit)
  · rw [ended]
    exact .error bears.acyclic
  · rw [ended]
    refine (Analyzer.failsWith_drain fun entry _ => ?_).map _
    rw [idle]
    exact acyclic_resolvePending entry

namespace Analyzer

/-- Resolves an expression that is seen from a site, as the analyzer stands. -/
def resolveOccurrence (site : Site) (occurrence : Occurrence) : Analysis DataType :=
  followCalls fun tree limit => resolveType tree limit site occurrence.place occurrence.expr

/-- **Resolving an expression leaves the analyzer as it is, however it ends, and only a call that is
entered again is a cycle.** The calls under way are arbitrary; a cycle that is reported is a call of
the expression itself that was among them before. No analysis of a program comes to one. -/
theorem resolution_exact :
    (∀ (analyzer : Analyzer) (site : Site) (occurrence : Occurrence),
      finalState (resolveOccurrence site occurrence) analyzer = analyzer ∧
        ∀ function,
          outcome (resolveOccurrence site occurrence) analyzer =
              .error (.resolutionCycle function) →
            ∃ node ∈ occurrence.expr.callNodes occurrence.place,
              (∃ arguments, node.expr = .call function arguments) ∧
                node.place ∈ analyzer.activation.resolving) ∧
      ∀ program limit function, analyze program limit ≠ .error (.resolutionCycle function) := by
  refine ⟨fun analyzer site occurrence => ⟨?_, fun function cycle => ?_⟩,
    fun program limit function cycle => acyclic_analyze program limit _ cycle function rfl⟩
  · have restores : Restores (resolveOccurrence site occurrence) :=
      restores_followCalls fun tree limit => resolveType_restores _ _
    exact restores.finalState_eq analyzer
  · unfold resolveOccurrence at cycle
    rw [outcome_followCalls fun tree limit => resolveType_restores _ _] at cycle
    exact reenters_resolved occurrence.expr _ cycle function rfl

/-- A call in the arguments of another one, and the inner one is under way. -/
theorem resolution_exact_inner :
    let outer : Occurrence := ⟨[], .call "f" [.call "g" []]⟩
    let scopes : ScopeTree := ((ScopeTree.initial.perform
      (.declareFunction 0 "f" ⟨[⟨"x", .int⟩], .int⟩)).perform (.declareFunction 0 "g" ⟨[], .int⟩))
    let analyzer : Analyzer := { start 5 with scopes := scopes, activation := ⟨1, [[0]]⟩ }
    outcome (resolveOccurrence ⟨0, 0⟩ outer) analyzer = .error (.resolutionCycle "g") ∧
      finalState (resolveOccurrence ⟨0, 0⟩ outer) analyzer = analyzer ∧
      ∃ node ∈ outer.expr.callNodes outer.place,
        (∃ arguments, node.expr = .call "g" arguments) ∧
          node.place ∈ analyzer.activation.resolving := by
  intro outer scopes analyzer
  obtain ⟨same, cycle⟩ := resolution_exact.1 analyzer ⟨0, 0⟩ outer
  have ended : outcome (resolveOccurrence ⟨0, 0⟩ outer) analyzer =
      .error (.resolutionCycle "g") := by decide +kernel
  exact ⟨ended, same, cycle "g" ended⟩

end Analyzer

end TypedImp
