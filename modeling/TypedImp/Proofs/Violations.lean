/-
**What an error about names and calls says of an expression.**

Such an error names a variable that is not visible, a function that is not visible, a call with the
wrong number of arguments, or an argument of the wrong type. Each time it can be said of one
expression, and of what is visible from where it stands, that it violates the rules in just this way.

* `Expr.parts` — the values in an expression.
* `Expr.Violates` — an expression itself is what an error reports; `MismatchAt` — its first argument
  of the wrong type is at a given place.
* `reports_checkExpr` — **an error of the first pass over an expression reports one of its parts**,
  and what is put on the queue are parts of it.
* `reports_resolved`, `reports_resolvePending` — **so does an error of the second pass.**
-/

import TypedImp.Proofs.Failures
import TypedImp.Proofs.Guesses

namespace TypedImp

/-! ### Parts of an expression -/

mutual

/-- The values in an expression: the expression itself, its operands, what it assigns, and the
arguments of its calls. The target of an assignment is not a value. -/
def Expr.parts : Expr → List Expr
  | .literal type value => [.literal type value]
  | .identifier name => [.identifier name]
  | .assign operator target value => .assign operator target value :: value.parts
  | .binary operator left right => .binary operator left right :: (left.parts ++ right.parts)
  | .unary operator fixity operand => .unary operator fixity operand :: operand.parts
  | .call callee arguments => .call callee arguments :: argumentParts arguments

/-- The values in the arguments of a call. -/
def argumentParts : List Expr → List Expr
  | [] => []
  | argument :: arguments => argument.parts ++ argumentParts arguments

end

theorem Expr.mem_parts (expr : Expr) : expr ∈ expr.parts := by
  cases expr <;> exact List.mem_cons_self

/-! ### Violations -/

/-- The name is that of an identifier, or of the target of an assignment. -/
def Expr.UsesVariable (name : String) : Expr → Prop
  | .identifier used => used = name
  | .assign _ (.identifier target) _ => target = name
  | _ => False

/-- The first argument that does not match its parameter is the one behind `index` others. -/
structure MismatchAt (view : View) (arguments : List Expr) (parameters : List Parameter)
    (index : Nat) (expected received : DataType) : Prop where
  length_eq : arguments.length = parameters.length
  within : index < arguments.length
  parameter : parameters[index]?.map (·.type) = some expected
  argument : ∃ argument, arguments[index]? = some argument ∧ HasType view argument received
  differ : received ≠ expected
  earlier : ArgumentsAgree view (arguments.take index) (parameters.take index)

/-- **The expression itself is what an error about names or calls reports.** Positions of arguments
are counted from one. An expression declares nothing and no call needs itself, and of errors that
name nothing nothing is said. -/
def Expr.Violates (view : View) (expr : Expr) : SemanticError → Prop
  | .variableNotDeclared name => expr.UsesVariable name ∧ view.typeOf? name = none
  | .functionNotDeclared function => ∃ arguments,
    expr = .call function arguments ∧ view.signatureOf? function = none
  | .unexpectedArguments function expected received => ∃ arguments signature,
    expr = .call function arguments ∧ view.signatureOf? function = some signature ∧
      arguments.length = received ∧ signature.parameters.length = expected ∧ expected < received
  | .missingArguments function expected received => ∃ arguments signature,
    expr = .call function arguments ∧ view.signatureOf? function = some signature ∧
      arguments.length = received ∧ signature.parameters.length = expected ∧ received < expected
  | .argumentMismatch function position expected received => ∃ arguments signature index,
    expr = .call function arguments ∧ view.signatureOf? function = some signature ∧
      position = index + 1 ∧
        MismatchAt view arguments signature.parameters index expected received
  | .variableAlreadyDeclared _ | .functionAlreadyDeclared _ | .resolutionCycle _ => False
  | _ => True

/-- One of the expressions is what the error reports. -/
def Faulty (view : View) (exprs : List Expr) (error : SemanticError) : Prop :=
  ∃ expr ∈ exprs, expr.Violates view error

section Violations

variable {view : View} {expr : Expr} {exprs : List Expr}

theorem SemanticError.Nameless.violates {error : SemanticError} (nameless : error.Nameless)
    (view : View) (expr : Expr) : expr.Violates view error := by
  cases error with
  | variableAlreadyDeclared | functionAlreadyDeclared | variableNotDeclared | functionNotDeclared
  | argumentMismatch | unexpectedArguments | missingArguments | resolutionCycle =>
    exact nameless.elim
  | _ => trivial

/-- What fails with errors about an expression fails with errors about any that has it. -/
theorem FailsWith.faulty {α : Type} {value : Except SemanticError α}
    (fails : FailsWith (expr.Violates view) value) (member : expr ∈ exprs) :
    FailsWith (Faulty view exprs) value :=
  fails.mono fun _ violates => ⟨expr, member, violates⟩

theorem FailsWith.violates {α : Type} {value : Except SemanticError α}
    (fails : FailsWith SemanticError.Nameless value) (view : View) (expr : Expr) :
    FailsWith (expr.Violates view) value :=
  fails.mono fun _ nameless => nameless.violates view expr

theorem violates_variableType {name : String} {found : Option Variable}
    (uses : expr.UsesVariable name) (sees : found.map (·.type) = view.typeOf? name) :
    FailsWith (expr.Violates view) (variableType name found) := by
  cases found with
  | none => exact .error ⟨uses, sees.symm⟩
  | some declared => exact .ok _

theorem violates_assignedType {operator : String} {target value : Expr}
    {lookup : String → Option Variable}
    (sees : ∀ name, (lookup name).map (·.type) = view.typeOf? name) :
    FailsWith ((Expr.assign operator target value).Violates view)
      (assignedType operator target lookup) := by
  cases target with
  | identifier name =>
    exact .bind (violates_variableType rfl (sees name)) fun _ => .ite (.error trivial) (.ok _)
  | literal | assign | binary | unary | call => exact .error trivial

end Violations

/-! ### The first pass -/

/-- The expressions of an entry of the queue: the one that waits, and the other side of its
operator if that waits too. -/
def Pending.exprs (entry : Pending) : List Expr :=
  entry.occurrence.expr ::
    match entry.requirement with
    | .binaryOperand _ (.waiting other) _ => [other.expr]
    | _ => []

/-- The entry stands at the site, and all values in it are among the expressions. -/
structure Pending.Within (site : Site) (exprs : List Expr) (entry : Pending) : Prop where
  site_eq : entry.site = site
  parts : ∀ expr ∈ entry.exprs, expr.parts ⊆ exprs

/-- Entries that stand at the site, with values among the expressions, have come to the queue. -/
def Extends (site : Site) (exprs : List Expr) (before queue : List Pending) : Prop :=
  ∃ added, queue = added ++ before ∧ ∀ entry ∈ added, entry.Within site exprs

section FirstPass

variable {tree : ScopeTree} {scope : ScopeId} {view : View} {exprs : List Expr}
variable {before : List Pending}

theorem Extends.cons {site : Site} {queue : List Pending} {entry : Pending}
    (extended : Extends site exprs before queue) (within : entry.Within site exprs) :
    Extends site exprs before (entry :: queue) := by
  obtain ⟨added, rfl, all⟩ := extended
  exact ⟨entry :: added, rfl, List.forall_mem_cons.mpr ⟨within, all⟩⟩

theorem maintains_queueOperand_known {site : Site} {waiting : Occurrence} {operator : String}
    {type : DataType} {waitsLeft : Bool} (parts : waiting.expr.parts ⊆ exprs) :
    Maintains (Extends site exprs before) (Faulty view exprs)
      (queueOperand site waiting operator (.known type) waitsLeft) :=
  fun _ extended => extended.cons ⟨rfl, List.forall_mem_singleton.mpr parts⟩

theorem maintains_queueOperand_waiting {site : Site} {waiting other : Occurrence}
    {operator : String} {waitsLeft : Bool} (parts : waiting.expr.parts ⊆ exprs)
    (otherParts : other.expr.parts ⊆ exprs) :
    Maintains (Extends site exprs before) (Faulty view exprs)
      (queueOperand site waiting operator (.waiting other) waitsLeft) :=
  fun _ extended => extended.cons
    ⟨rfl, List.forall_mem_cons.mpr ⟨parts, List.forall_mem_singleton.mpr otherParts⟩⟩

theorem reports_checkOperands {site : Site} {operator : String} {left right : Occurrence}
    (whole : expr ∈ exprs) (leftParts : left.expr.parts ⊆ exprs)
    (rightParts : right.expr.parts ⊆ exprs) (leftType rightType : Checked) :
    Maintains (Extends site exprs before) (Faulty view exprs)
      (checkOperands site operator left right leftType rightType) := by
  unfold checkOperands
  cases OperatorCategory.of? operator with
  | none => exact .throw ⟨_, whole, trivial⟩
  | some category =>
    cases leftType with
    | known leftType =>
      cases rightType with
      | known rightType =>
        exact .bind (.ofExcept (((nameless_binaryResult _ _ _).violates view _).faulty whole))
          fun _ => .pure _
      | deferred =>
        exact .bind (.ofExcept (((nameless_resultBeside _ _ _).violates view _).faulty whole))
          fun _ => .bind (maintains_queueOperand_known rightParts) fun _ => .pure _
    | deferred =>
      cases rightType with
      | known rightType =>
        exact .bind (.ofExcept (((nameless_resultBeside _ _ _).violates view _).faulty whole))
          fun _ => .bind (maintains_queueOperand_known leftParts) fun _ => .pure _
      | deferred =>
        exact .ite (.pure _)
          (.bind (maintains_queueOperand_waiting leftParts rightParts) fun _ => .pure _)

/-- **An error of the first pass over an expression reports one of its parts**, and the parts that
wait are put on the queue. -/
theorem reports_checkExpr (sees : view.Sees tree scope) {place : Place} : (expr : Expr) →
    expr.parts ⊆ exprs →
      Maintains (Extends ⟨scope, tree.declarations⟩ exprs before) (Faulty view exprs)
        (checkExpr tree scope place expr)
  | .literal type value, _ => by
    rw [checkExpr]
    exact .pure _
  | .identifier name, parts => by
    rw [checkExpr]
    have fails : FailsWith ((Expr.identifier name).Violates view) _ :=
      violates_variableType rfl (sees name).symm
    exact .bind (.ofExcept (fails.faulty (parts (Expr.mem_parts _)))) fun _ => .pure _
  | .assign operator target value, parts => by
    have whole := parts (Expr.mem_parts _)
    rw [Expr.parts, List.cons_subset] at parts
    rw [checkExpr]
    have fails : FailsWith ((Expr.assign operator target value).Violates view) _ :=
      violates_assignedType fun name => (sees name).symm
    refine .bind (.ofExcept (fails.faulty whole)) fun expected =>
      .bind (reports_checkExpr sees value parts.2) fun checked => ?_
    cases checked with
    | known received => exact .ite (.throw ⟨_, whole, trivial⟩) (.pure _)
    | deferred => exact .pure _
  | .binary operator left right, parts => by
    have whole := parts (Expr.mem_parts _)
    rw [Expr.parts, List.cons_subset, List.append_subset] at parts
    rw [checkExpr]
    exact .bind (reports_checkExpr sees left parts.2.1) fun leftType =>
      .bind (reports_checkExpr sees right parts.2.2) fun rightType =>
        reports_checkOperands whole parts.2.1 parts.2.2 leftType rightType
  | .unary operator fixity operand, parts => by
    rw [Expr.parts, List.cons_subset] at parts
    rw [checkExpr]
    exact reports_checkExpr sees operand parts.2
  | .call callee arguments, _ => by
    rw [checkExpr]
    exact .pure _

end FirstPass

/-! ### The second pass -/

theorem violates_calledSignature {tree : ScopeTree} {site : Site} {callee : String}
    {arguments : List Expr} :
    FailsWith ((Expr.call callee arguments).Violates (tree.view site))
      (calledSignature tree site.scope callee arguments.length) := by
  unfold calledSignature
  cases found : tree.lookupFunction site.scope callee with
  | none => exact .error ⟨arguments, rfl, found⟩
  | some signature =>
    refine fun error ended => ?_
    dsimp only at ended
    split_ifs at ended with tooMany tooFew
    · cases ended
      exact ⟨arguments, signature, rfl, found, rfl, rfl, tooMany⟩
    · cases ended
      exact ⟨arguments, signature, rfl, found, rfl, rfl, tooFew⟩

/-- The first argument is of the wrong type. -/
theorem MismatchAt.head {view : View} {argument : Expr} {arguments : List Expr}
    {parameter : Parameter} {parameters : List Parameter} {received : DataType}
    (arity : arguments.length = parameters.length) (typed : HasType view argument received)
    (differ : received ≠ parameter.type) :
    MismatchAt view (argument :: arguments) (parameter :: parameters) 0 parameter.type received :=
  ⟨congrArg (· + 1) arity, Nat.succ_pos _, rfl, ⟨argument, rfl, typed⟩, differ, .nil⟩

/-- The first argument is of the right type, and a later one is of the wrong type. -/
theorem MismatchAt.cons {view : View} {argument : Expr} {arguments : List Expr}
    {parameter : Parameter} {parameters : List Parameter} {index : Nat}
    {expected received : DataType} (typed : HasType view argument parameter.type)
    (mismatch : MismatchAt view arguments parameters index expected received) :
    MismatchAt view (argument :: arguments) (parameter :: parameters) (index + 1) expected
      received :=
  ⟨congrArg (· + 1) mismatch.length_eq, Nat.succ_lt_succ mismatch.within, mismatch.parameter,
    mismatch.argument, mismatch.differ, .cons typed mismatch.earlier⟩

section SecondPass

variable {tree : ScopeTree} {limit : Nat} {site : Site} {exprs : List Expr}

mutual

/-- **An error while the calls of an expression are followed reports one of its parts.** -/
theorem reports_resolved {activation : Activation} {place : Place}
    (within : activation.depth ≤ limit) (fresh : Fresh place activation) : (expr : Expr) →
    expr.parts ⊆ exprs →
      FailsWith (Faulty (tree.view site) exprs) (resolved tree limit site activation place expr)
  | .literal type value, _ => by
    rw [resolved_literal]
    exact .ok _
  | .identifier name, parts => by
    rw [resolved_identifier]
    have fails : FailsWith ((Expr.identifier name).Violates (tree.view site)) _ :=
      violates_variableType rfl rfl
    exact fails.faulty (parts (Expr.mem_parts _))
  | .assign operator target value, parts => by
    have whole := parts (Expr.mem_parts _)
    rw [Expr.parts, List.cons_subset] at parts
    rw [resolved_assign]
    have fails : FailsWith ((Expr.assign operator target value).Violates (tree.view site)) _ :=
      violates_assignedType fun name => rfl
    exact .bind (fails.faulty whole) fun expected =>
      .bind (reports_resolved within (fresh.child 1) value parts.2) fun received =>
        .bind (((nameless_expectType _ _).violates _ _).faulty whole) fun _ => .ok _
  | .binary operator left right, parts => by
    have whole := parts (Expr.mem_parts _)
    rw [Expr.parts, List.cons_subset, List.append_subset] at parts
    rw [resolved_binary]
    exact .bind (reports_resolved within (fresh.child 0) left parts.2.1) fun leftType =>
      .bind (reports_resolved within (fresh.child 1) right parts.2.2) fun rightType =>
        ((nameless_binaryResult _ _ _).violates _ _).faulty whole
  | .unary operator fixity operand, parts => by
    rw [Expr.parts, List.cons_subset] at parts
    rw [resolved_unary]
    exact reports_resolved within (fresh.child 0) operand parts.2
  | .call callee arguments, parts => by
    have whole := parts (Expr.mem_parts _)
    rw [Expr.parts, List.cons_subset] at parts
    rw [resolved_call]
    by_cases full : limit ≤ activation.depth
    · rw [if_pos full]
      exact .error ⟨_, whole, trivial⟩
    · rw [if_neg full, if_neg fresh.not_mem]
      have inner : (activation.enter place).depth ≤ limit := Nat.lt_of_not_le full
      cases found : calledSignature tree site.scope callee arguments.length with
      | error error => exact .error (violates_calledSignature.faulty whole error found)
      | ok signature =>
        obtain ⟨visible, arity⟩ := calledSignature_eq_ok_iff.mp found
        show FailsWith _ (resolvedArguments tree limit site (activation.enter place) place callee 0
          arguments signature.parameters >>= fun _ => _)
        refine .bind (fun error ended => ?_) fun _ => .ok _
        obtain faulty | ⟨index, expected, received, rfl, mismatch⟩ :=
          reports_resolvedArguments inner fresh.argument arguments arity parts.2 error ended
        · exact faulty
        · rw [Nat.zero_add]
          exact ⟨_, whole, arguments, signature, index, rfl, visible, rfl, mismatch⟩

/-- An error in the arguments of a call reports one of their parts, or the first argument of the
wrong type. -/
theorem reports_resolvedArguments {activation : Activation} {place : Place} {callee : String}
    {index : Nat} (within : activation.depth ≤ limit)
    (fresh : ∀ branch, Fresh (branch :: place) activation) :
    (arguments : List Expr) → {parameters : List Parameter} →
      (arity : arguments.length = parameters.length) → argumentParts arguments ⊆ exprs →
      FailsWith
        (fun error => Faulty (tree.view site) exprs error ∨ ∃ further expected received,
          error = .argumentMismatch callee (index + further + 1) expected received ∧
            MismatchAt (tree.view site) arguments parameters further expected received)
        (resolvedArguments tree limit site activation place callee index arguments parameters)
  | [], [], _, _ => by
    rw [resolvedArguments_nil]
    exact .ok _
  | argument :: arguments, parameter :: parameters, arity, parts => by
    have later := Nat.succ.inj arity
    rw [argumentParts, List.append_subset] at parts
    rw [resolvedArguments_cons]
    cases ended : resolved tree limit site activation (index :: place) argument with
    | error error =>
      exact .error (.inl (reports_resolved within (fresh index) argument parts.1 error ended))
    | ok received =>
      have typed := ((resolved_eq_ok_iff within (fresh index) argument).mp ended).1
      show FailsWith _ (expectArgument callee (index + 1) parameter.type received >>= fun _ =>
        resolvedArguments tree limit site activation place callee (index + 1) arguments parameters)
      by_cases same : received = parameter.type
      · subst same
        rw [show expectArgument callee (index + 1) parameter.type parameter.type = .ok () from
          expectArgument_eq_ok_iff.mpr rfl]
        refine fun error failed => ?_
        obtain faulty | ⟨further, expected, other, rfl, mismatch⟩ :=
          reports_resolvedArguments within fresh arguments later parts.2 error failed
        · exact .inl faulty
        · refine .inr ⟨further + 1, expected, other, ?_, mismatch.cons typed⟩
          rw [Nat.add_right_comm index 1 further]
          rfl
      · rw [show expectArgument callee (index + 1) parameter.type received =
          .error (.argumentMismatch callee (index + 1) parameter.type received) from if_neg same]
        exact .error (.inr ⟨0, _, _, rfl, .head later typed same⟩)

end

/-- **An error while an entry of the queue is resolved reports a part of the entry.** -/
theorem reports_resolvePending {entry : Pending} (within : entry.Within site exprs) :
    FailsWith (Faulty (tree.view site) exprs)
      (outcome (resolvePending tree limit entry) .idle) := by
  obtain ⟨⟨place, expr⟩, stands, requirement⟩ := entry
  obtain ⟨rfl, parts⟩ := within
  have own : expr.parts ⊆ exprs := parts _ List.mem_cons_self
  have nameless {value : Except SemanticError Unit}
      (fails : FailsWith SemanticError.Nameless value) : FailsWith (Faulty _ exprs) value :=
    (fails.violates (tree.view stands) expr).faulty (own expr.mem_parts)
  have follow (place : Place) (expr : Expr) (inside : expr.parts ⊆ exprs) :
      FailsWith (Faulty (tree.view stands) exprs) (resolved tree limit stands .idle place expr) :=
    reports_resolved (Nat.zero_le limit) (fresh_idle place) expr inside
  rw [outcome_resolvePending]
  refine .bind (follow place expr own) fun received => ?_
  cases requirement with
  | bare => exact .ok _
  | assignTo | returnValue => exact nameless (nameless_expectType _ _)
  | condition => exact nameless (nameless_expectCondition _)
  | numericOperand => exact nameless (nameless_expectNumeric _ _)
  | binaryOperand operator other waitsLeft =>
    have side : FailsWith (Faulty (tree.view stands) exprs)
        (resolvedOther tree limit stands .idle other) := by
      cases other with
      | known type => exact .ok _
      | waiting occurrence =>
        exact follow occurrence.place occurrence.expr
          (parts _ (List.mem_cons_of_mem _ List.mem_cons_self))
    exact .bind side fun otherType => nameless
      (.map (.ite (nameless_binaryResult _ _ _) (nameless_binaryResult _ _ _)) _)

end SecondPass

end TypedImp
