/-
**Regular trees are analyzed without complaint of their shape.**

Two errors of the analysis are about the shape of a tree: an operator without a category and an
assignment to something else than a variable. Neither pass meets them in a regular tree. The first
pass puts regular expressions on the queue only, and the second one, which looks into the arguments
of calls too, finds nothing else there.

* `SemanticError.Regular` — the other errors.
* `Pending.Regular` — the entries that the first pass makes of a regular tree.
* `maintains_checkExpr`, `keepsRegular_checkStmt`, … — the first pass keeps such a queue, or fails
  with such an error.
* `regular_resolved`, `regular_resolvePending` — the second pass fails with such an error.
* `regular_analyze` — **so does an analysis of a regular program**, whatever its limit.
* `regular_of_parse` — **a parsed program is regular and analyzed without complaint of its
  shape.**
-/

import TypedImp.Proofs.Draining
import TypedImp.Proofs.RegularTrees
import TypedImp.Proofs.WellTyped

namespace TypedImp

open Analyzer Parsing

/-! ### The errors of regular trees -/

/-- The errors of which a regular tree is no cause are those about the shape of a tree. -/
def SemanticError.Regular : SemanticError → Prop
  | invalidAssignmentTarget | invalidOperator _ => False
  | _ => True

theorem SemanticError.Plain.regular {error : SemanticError} (plain : error.Plain) :
    error.Regular := by
  cases error <;> trivial

theorem FailsWith.regular {α : Type} {value : Except SemanticError α}
    (plain : FailsWith SemanticError.Plain value) : FailsWith SemanticError.Regular value :=
  plain.mono fun _ => SemanticError.Plain.regular

theorem regular_binaryResult {operator : String}
    (known : (OperatorCategory.of? operator).isSome = true) (left right : DataType) :
    FailsWith SemanticError.Regular (binaryResult operator left right) := by
  refine (failsWith_binaryResult operator left right).mono ?_
  rintro error (plain | ⟨unknown, _⟩)
  · exact plain.regular
  · rw [unknown] at known
    cases known

theorem regular_assignedType (operator name : String) (lookup : String → Option Variable) :
    FailsWith SemanticError.Regular (assignedType operator (.identifier name) lookup) := by
  refine (failsWith_assignedType operator (.identifier name) lookup).mono ?_
  rintro error (plain | ⟨other, _⟩)
  · exact plain.regular
  · exact absurd rfl (other name)

/-! ### The queue of a regular tree -/

/-- The other side of an operator is regular if it waits. -/
def OtherSide.Regular : OtherSide → Prop
  | .known _ => True
  | .waiting occurrence => occurrence.expr.Regular

/-- What a requirement holds of a tree is regular. -/
def Requirement.Regular : Requirement → Prop
  | .binaryOperand operator other _ =>
    (OperatorCategory.of? operator).isSome = true ∧ other.Regular
  | _ => True

/-- An entry for a part of a regular tree. -/
def Pending.Regular (entry : Pending) : Prop :=
  entry.occurrence.expr.Regular ∧ entry.requirement.Regular

/-- A queue with such entries alone. -/
def RegularQueue (queue : List Pending) : Prop :=
  ∀ entry ∈ queue, entry.Regular

/-! ### The first pass over expressions -/

theorem maintains_queueOperand {site : Site} {waiting : Occurrence} {operator : String}
    {other : OtherSide} {waitsLeft : Bool} (inside : waiting.expr.Regular)
    (known : (OperatorCategory.of? operator).isSome = true) (beside : other.Regular) :
    Maintains RegularQueue SemanticError.Regular
      (queueOperand site waiting operator other waitsLeft) :=
  fun _ regular => List.forall_mem_cons.mpr ⟨⟨inside, known, beside⟩, regular⟩

theorem maintains_checkOperands {site : Site} {operator : String} {left right : Occurrence}
    (known : (OperatorCategory.of? operator).isSome = true) (leftInside : left.expr.Regular)
    (rightInside : right.expr.Regular) (leftType rightType : Checked) :
    Maintains RegularQueue SemanticError.Regular
      (checkOperands site operator left right leftType rightType) := by
  unfold checkOperands
  cases found : OperatorCategory.of? operator with
  | none =>
    rw [found] at known
    cases known
  | some category =>
    cases leftType with
    | known leftType =>
      cases rightType with
      | known rightType =>
        exact .bind (.ofExcept (regular_binaryResult known _ _)) fun type => .pure _
      | deferred =>
        exact .bind (.ofExcept (plain_resultBeside _ _ _).regular) fun type =>
          .bind (maintains_queueOperand rightInside known trivial) fun _ => .pure _
    | deferred =>
      cases rightType with
      | known rightType =>
        exact .bind (.ofExcept (plain_resultBeside _ _ _).regular) fun type =>
          .bind (maintains_queueOperand leftInside known trivial) fun _ => .pure _
      | deferred =>
        exact .ite (.pure _)
          (.bind (maintains_queueOperand leftInside known rightInside) fun _ => .pure _)

/-- **The first pass over a regular expression puts regular entries on the queue**, or fails with an
error that is not about its shape. -/
theorem maintains_checkExpr {tree : ScopeTree} {scope : ScopeId} {place : Place} {expr : Expr}
    (regular : expr.Regular) :
    Maintains RegularQueue SemanticError.Regular (checkExpr tree scope place expr) := by
  induction regular generalizing place with
  | literal known => exact .pure _
  | identifier => exact .bind (.ofExcept (plain_variableType _ _).regular) fun type => .pure _
  | assign known inside ih =>
    refine .bind (.ofExcept (regular_assignedType _ _ _)) fun expected => .bind ih fun checked => ?_
    cases checked with
    | known received => exact .ite (.throw trivial) (.pure _)
    | deferred => exact .pure _
  | binary known leftInside rightInside left right =>
    exact .bind left fun leftType => .bind right fun rightType =>
      maintains_checkOperands known leftInside rightInside leftType rightType
  | unary known inside ih =>
    rw [checkExpr]
    exact ih
  | call inside ih => exact .pure _

/-! ### The first pass over statements -/

/-- A part of the first pass keeps a queue regular, or fails with an error that is not about the
shape of a tree. -/
def KeepsRegular {α : Type} (walk : Analysis α) : Prop :=
  Maintains (fun analyzer => RegularQueue analyzer.pending) SemanticError.Regular walk

theorem keepsRegular_get : KeepsRegular (get : Analysis Analyzer) :=
  fun _ regular => regular

theorem keepsRegular_require {occurrence : Occurrence} {requirement : Requirement}
    {test : DataType → Except SemanticError Unit} (inside : occurrence.expr.Regular)
    (demand : requirement.Regular) (plain : ∀ type, FailsWith SemanticError.Plain (test type)) :
    KeepsRegular (require occurrence requirement test) := by
  have first : KeepsRegular (checkOccurrence occurrence) := by
    intro analyzer regular
    have checks : Maintains RegularQueue SemanticError.Regular (checkExpr analyzer.scopes
        analyzer.current occurrence.place occurrence.expr) := maintains_checkExpr inside
    have ends := checks analyzer.pending regular
    unfold checkOccurrence
    cases ended : checkExpr analyzer.scopes analyzer.current occurrence.place occurrence.expr
      analyzer.pending <;> rw [ended] at ends <;> exact ends
  refine first.bind fun checked => ?_
  cases checked with
  | known received => exact .ofExcept (plain received).regular
  | deferred => exact fun _ regular => List.forall_mem_cons.mpr ⟨⟨inside, demand⟩, regular⟩

theorem keepsRegular_changeScopes
    {change : ScopeTree → ScopeId → Except SemanticError ScopeTree}
    (plain : ∀ scopes current, FailsWith SemanticError.Plain (change scopes current)) :
    KeepsRegular (changeScopes change) := by
  intro analyzer regular
  rw [changeScopes_apply]
  cases changed : change analyzer.scopes analyzer.current with
  | error error => exact (plain _ _ error changed).regular
  | ok scopes => exact regular

theorem keepsRegular_declareVariable (name : String) (type : DataType) :
    KeepsRegular (declareVariable name type) :=
  keepsRegular_changeScopes fun scopes current => plain_declareVariable scopes current name type

theorem keepsRegular_withScope {kind : ScopeKind} {inside : Analysis Unit}
    (keeps : KeepsRegular inside) : KeepsRegular (withScope kind inside) := by
  intro analyzer regular
  have ended := keeps (analyzer.opened kind) regular
  rw [withScope_apply]
  cases result : inside (analyzer.opened kind) <;> rw [result] at ended <;> exact ended

theorem keepsRegular_withFrame {frame : ContextFrame} {inside : Analysis Unit}
    (keeps : KeepsRegular inside) : KeepsRegular (withFrame frame inside) := by
  intro analyzer regular
  have ended := keeps { analyzer with context := analyzer.context.push frame } regular
  rw [withFrame_apply]
  cases result : inside { analyzer with context := analyzer.context.push frame } <;>
    rw [result] at ended <;> exact ended

theorem keepsRegular_checkVariableDecl {place : Place} {type : DataType} {name : String}
    {initializer : Expr} (inside : initializer.Regular) :
    KeepsRegular (checkVariableDecl place type name initializer) :=
  .bind (keepsRegular_require inside trivial (plain_expectType type)) fun _ =>
    keepsRegular_declareVariable name type

theorem keepsRegular_checkCondition {place : Place} {condition : Expr}
    (inside : condition.Regular) : KeepsRegular (checkCondition place condition) :=
  keepsRegular_require inside trivial plain_expectCondition

theorem keepsRegular_checkReturn {place : Place} {value : Option Expr}
    (inside : ∀ expr ∈ value, expr.Regular) : KeepsRegular (checkReturn place value) := by
  refine .bind keepsRegular_get fun analyzer =>
    .bind (.ofExcept (plain_enclosingReturnType _ _).regular) fun expected => ?_
  cases value with
  | some value => exact keepsRegular_require (inside value rfl) trivial (plain_expectType expected)
  | none => exact .ite (.throw trivial) (.pure ())

theorem keepsRegular_checkInitializer {place : Place} {initializer : Stmt}
    (inside : initializer.Regular) : KeepsRegular (checkInitializer place initializer) := by
  cases inside with
  | variableDecl inside => exact keepsRegular_checkVariableDecl inside
  | functionDecl | expression | returnValue | ifChain | whileLoop | forLoop | breakLoop
  | continueLoop => exact .throw trivial

theorem keepsRegular_checkIncrement {place : Place} {increment : Expr}
    (inside : increment.Regular) : KeepsRegular (checkIncrement place increment) := by
  cases inside with
  | unary known inside =>
    exact .ite (keepsRegular_require inside trivial (plain_expectNumeric _)) (.throw trivial)
  | literal | identifier | assign | binary | call => exact .throw trivial

theorem keepsRegular_declareParameters (parameters : List Parameter) :
    KeepsRegular (declareParameters parameters) := by
  induction parameters with
  | nil => exact .pure ()
  | cons parameter parameters ih => exact .bind (keepsRegular_declareVariable _ _) fun _ => ih

/-- A statement that is refused unless the context allows it. -/
theorem keepsRegular_allowed {test : ContextStack → Bool} {error : SemanticError}
    (regular : error.Regular) :
    KeepsRegular (do if !test (← get).context then throw error : Analysis Unit) :=
  .bind keepsRegular_get fun _ => .ite (.throw regular) (.pure ())

mutual

/-- **The first pass over a regular statement keeps the queue regular.** -/
theorem keepsRegular_checkStmt {stmt : Stmt} {place : Place} :
    stmt.Regular → KeepsRegular (checkStmt place stmt)
  | .variableDecl inside => by
    rw [checkStmt]
    exact keepsRegular_checkVariableDecl inside
  | .functionDecl inside => by
    rw [checkStmt]
    exact .bind (keepsRegular_changeScopes fun _ _ => plain_declareFunction _ _ _ _) fun _ =>
      keepsRegular_withScope (.bind (keepsRegular_declareParameters _) fun _ =>
        keepsRegular_withFrame (keepsRegular_checkStmts inside))
  | .expression inside => by
    rw [checkStmt]
    exact keepsRegular_require inside trivial fun _ => .ok ()
  | .returnValue inside => by
    rw [checkStmt]
    exact keepsRegular_checkReturn inside
  | .ifChain test inside further => by
    rw [checkStmt]
    exact .bind (keepsRegular_checkCondition test) fun _ =>
      .bind (keepsRegular_withScope (keepsRegular_checkStmts inside)) fun _ =>
        keepsRegular_checkAlternatives further
  | .whileLoop test inside => by
    rw [checkStmt]
    exact .bind (keepsRegular_checkCondition test) fun _ =>
      keepsRegular_withFrame (keepsRegular_withScope (keepsRegular_checkStmts inside))
  | .forLoop first test step inside => by
    rw [checkStmt]
    exact keepsRegular_withFrame (keepsRegular_withScope (.bind (keepsRegular_checkInitializer first) fun _ =>
      .bind (keepsRegular_checkCondition test) fun _ =>
        .bind (keepsRegular_checkIncrement step) fun _ => keepsRegular_checkStmts inside))
  | .breakLoop => by
    rw [checkStmt]
    exact keepsRegular_allowed trivial
  | .continueLoop => by
    rw [checkStmt]
    exact keepsRegular_allowed trivial

theorem keepsRegular_checkAlternatives {alternatives : Alternatives} {place : Place} :
    alternatives.Regular → KeepsRegular (checkAlternatives place alternatives)
  | .none => by
    rw [checkAlternatives]
    exact .pure ()
  | .otherwise inside => by
    rw [checkAlternatives]
    exact keepsRegular_withScope (keepsRegular_checkStmts inside)
  | .elseIf test inside further => by
    rw [checkAlternatives]
    exact .bind (keepsRegular_checkCondition test) fun _ =>
      .bind (keepsRegular_withScope (keepsRegular_checkStmts inside)) fun _ =>
        keepsRegular_checkAlternatives further

theorem keepsRegular_checkStmts {body : List Stmt} {place : Place} {index : Nat}
    (inside : ∀ stmt ∈ body, stmt.Regular) : KeepsRegular (checkStmts place index body) :=
  match body, inside with
  | [], _ => by
    rw [checkStmts]
    exact .pure ()
  | stmt :: later, inside => by
    rw [checkStmts]
    exact .bind (keepsRegular_checkStmt (inside stmt List.mem_cons_self)) fun _ =>
      keepsRegular_checkStmts fun other member => inside other (List.mem_cons_of_mem _ member)

end

/-! ### The second pass -/

section Resolving

variable {tree : ScopeTree} {limit : Nat} {site : Site}

theorem regular_expectArgument (callee : String) (position : Nat) (expected received : DataType) :
    FailsWith SemanticError.Regular (expectArgument callee position expected received) :=
  .ite (.ok _) (.error trivial)

mutual

/-- **A regular expression is resolved without complaint of its shape**, the arguments of its calls
included. -/
theorem regular_resolved {activation : Activation} {place : Place} {expr : Expr} :
    expr.Regular →
      FailsWith SemanticError.Regular (resolved tree limit site activation place expr)
  | .literal _ => by
    rw [resolved_literal]
    exact .ok _
  | .identifier => by
    rw [resolved_identifier]
    exact (plain_variableType _ _).regular
  | .assign _ inside => by
    rw [resolved_assign]
    exact .bind (regular_assignedType _ _ _) fun expected =>
      .bind (regular_resolved inside) fun received =>
        .bind (plain_expectType _ _).regular fun _ => .ok expected
  | .binary known leftInside rightInside => by
    rw [resolved_binary]
    exact .bind (regular_resolved leftInside) fun leftType =>
      .bind (regular_resolved rightInside) fun rightType => regular_binaryResult known _ _
  | .unary _ inside => by
    rw [resolved_unary]
    exact regular_resolved inside
  | .call inside => by
    rw [resolved_call]
    exact .ite (.error trivial) (.ite (.error trivial)
      (.bind (plain_calledSignature _ _ _ _).regular fun signature =>
        .bind (regular_resolvedArguments inside signature.parameters) fun _ => .ok _))

theorem regular_resolvedArguments {activation : Activation} {place : Place} {callee : String}
    {index : Nat} {arguments : List Expr} (inside : ∀ argument ∈ arguments, argument.Regular)
    (parameters : List Parameter) :
    FailsWith SemanticError.Regular
      (resolvedArguments tree limit site activation place callee index arguments parameters) :=
  match arguments, inside, parameters with
  | argument :: arguments, inside, parameter :: parameters => by
    rw [resolvedArguments_cons]
    exact .bind (regular_resolved (inside argument List.mem_cons_self)) fun received =>
      .bind (regular_expectArgument _ _ _ _) fun _ =>
        regular_resolvedArguments (fun other member => inside other (List.mem_cons_of_mem _ member))
          parameters
  | [], _, _ => by
    unfold resolvedArguments
    rw [resolveArguments.eq_def]
    exact .ok ()
  | _ :: _, _, [] => by
    unfold resolvedArguments
    rw [resolveArguments.eq_def]
    exact .ok ()

end

/-- **An entry for a part of a regular tree is resolved without complaint of its shape.** -/
theorem regular_resolvePending {entry : Pending} (regular : entry.Regular)
    (activation : Activation) :
    FailsWith SemanticError.Regular (outcome (resolvePending tree limit entry) activation) := by
  obtain ⟨inside, demand⟩ := regular
  rw [outcome_resolvePending]
  refine .bind (regular_resolved inside) fun received => ?_
  cases required : entry.requirement with
  | bare => exact .ok ()
  | assignTo | returnValue => exact (plain_expectType _ _).regular
  | condition => exact (plain_expectCondition _).regular
  | numericOperand => exact (plain_expectNumeric _ _).regular
  | binaryOperand operator other waitsLeft =>
    rw [required] at demand
    obtain ⟨known, beside⟩ := demand
    have side : FailsWith SemanticError.Regular
        (resolvedOther tree limit entry.site activation other) := by
      cases other with
      | known type => exact .ok type
      | waiting occurrence => exact regular_resolved beside
    exact .bind side fun otherType =>
      .map (.ite (regular_binaryResult known _ _) (regular_binaryResult known _ _)) _

end Resolving

/-! ### An analysis -/

/-- **A regular program is analyzed without complaint of its shape**, in either pass and whatever
the limit is. -/
theorem regular_analyze {program : Program} (regular : program.Regular) (limit : Nat) :
    FailsWith SemanticError.Regular (analyze program limit) := by
  have pass : KeepsRegular (checkProgram program) := keepsRegular_checkStmts regular
  have queue := pass (start limit) (List.forall_mem_nil _)
  cases ended : checkProgram program (start limit) with
  | error error after =>
    rw [ended] at queue
    rw [analyze_of_error ended]
    exact .error queue
  | ok nothing after =>
    rw [ended] at queue
    rw [analyze_of_ok ended]
    exact (failsWith_drain fun entry queued =>
      regular_resolvePending (queue entry queued) _).map _

/-- **A parsed program is regular**, whatever the kinds and the lexemes of its tokens are, **and
therefore analyzed without complaint of its shape.** -/
theorem regular_of_parse {tokens : List Token} {program : Program}
    (parsed : parse tokens = .ok program) :
    program.Regular ∧ ∀ limit error, analyze program limit = .error error →
      error ≠ .invalidAssignmentTarget ∧ ∀ operator, error ≠ .invalidOperator operator := by
  have regular : program.Regular := regular_of_program (parse_eq_ok_iff.mp parsed)
  refine ⟨regular, fun limit error ended => ?_⟩
  have other := regular_analyze regular limit error ended
  constructor
  · rintro rfl
    exact other
  · rintro operator rfl
    exact other

/-- The text `f(x += 1 ^ y++);`: the first pass does not look into the argument, and the second one
misses the function. -/
theorem regular_of_parse_argument :
    let tokens := ["f", "(", "x", "+=", "1", "^", "y", "++", ")", ";"].map Token.ofLexeme
    let program : Program := ⟨[.expression (.call "f" [.assign "+=" (.identifier "x")
      (.binary "^" (.literal .int "1") (.unary "++" .behind (.identifier "y")))])]⟩
    parse tokens = .ok program ∧ program.Regular ∧
      analyze program 1 = .error (.functionNotDeclared "f") ∧
      SemanticError.functionNotDeclared "f" ≠ .invalidAssignmentTarget ∧
      ∀ operator, SemanticError.functionNotDeclared "f" ≠ .invalidOperator operator := by
  intro tokens program
  have inside : program.InLanguage :=
    List.forall_mem_singleton.mpr (.expression (.call (by decide) (List.forall_mem_singleton.mpr
      (.assign rfl (by decide) (.binary rfl (.literal (by decide))
        (.unary rfl (.identifier (by decide))))))))
  have known : literalType? .int = some .int := rfl
  have parsed := parse_of_bodySpelling inside
    (.cons (.expression ⟨false, .call (.last (.assign rfl (.binary rfl (.literal known) nofun
      (.behind rfl .identifier nofun) nofun)))⟩) .nil)
    (carry_map_ofLexeme (by decide))
  have ended : analyze program 1 = .error (.functionNotDeclared "f") := by decide +kernel
  obtain ⟨regular, others⟩ := regular_of_parse parsed
  exact ⟨parsed, regular, ended, others 1 _ ended⟩

end TypedImp
