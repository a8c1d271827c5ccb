/-
**Every call is put on the queue once.**

Which part of the first pass puts a call on the queue depends on the types of the operands around it:
an operator, an assignment or the statement. Wherever that is decided, each call ends up in one
entry, and the entry has the site at which the call stands.

* `Pending.calls` — the calls of an entry, those of the other side of an operator included.
* `Holds` — entries that hold given calls, each of them once.
* `handsOver_checkExpr` — an expression of known type has its calls on the queue; one that waits has
  a call and leaves its calls to whoever checks it.
* `Queues` — a part of the first pass, from one layout to another, puts given calls on the queue.
* `queues_checkStmt`, `queues_checkStmts` — so does the walk over a statement with its calls.
* `queue_holds_calls` — **behind the first pass each call is in one entry, each entry has a call, and
  the sites are those of the calls.**
-/

import TypedImp.Proofs.CallSites
import TypedImp.Proofs.FirstPass

namespace TypedImp

open Analyzer

/-! ### The calls of entries -/

/-- The calls of the other side of an operator, if that side waits. -/
def Requirement.calls : Requirement → List Occurrence
  | .binaryOperand _ (.waiting other) _ => other.calls
  | _ => []

/-- The calls of an entry: of its expression and of the other side of an operator. -/
def Pending.calls (entry : Pending) : List Occurrence :=
  entry.occurrence.calls ++ entry.requirement.calls

/-- The calls of an entry with the site of the entry. -/
def Pending.callSites (entry : Pending) : List CallSite :=
  callsFrom entry.site entry.calls

/-- The entries hold the calls, each of them once, and each entry holds a call. -/
structure Holds (entries : List Pending) (found : List CallSite) : Prop where
  once : (entries.flatMap Pending.callSites).Perm found
  filled : ∀ entry ∈ entries, entry.calls ≠ []

section Holds

variable {early late : List Pending} {found others : List CallSite}

theorem holds_nil : Holds [] [] :=
  ⟨.nil, List.forall_mem_nil _⟩

theorem holds_entry {entry : Pending} (filled : entry.calls ≠ []) :
    Holds [entry] entry.callSites :=
  ⟨.of_eq (List.flatMap_singleton _ _), List.forall_mem_singleton.mpr filled⟩

/-- Later entries stand before the earlier ones. -/
theorem Holds.append (first : Holds early found) (further : Holds late others) :
    Holds (late ++ early) (found ++ others) := by
  refine ⟨?_, List.forall_mem_append.mpr ⟨further.filled, first.filled⟩⟩
  rw [List.flatMap_append]
  exact (further.once.append first.once).trans List.perm_append_comm

theorem Holds.perm (holds : Holds early found) (permuted : found.Perm others) :
    Holds early others :=
  ⟨holds.once.trans permuted, holds.filled⟩

end Holds

/-! ### Expressions -/

theorem callsFrom_append (site : Site) (first others : List Occurrence) :
    callsFrom site (first ++ others) = callsFrom site first ++ callsFrom site others :=
  List.map_append

/-- **What becomes of the calls of an expression.** If its type is known they are on the queue. If it
waits, there are some, and whoever checks the expression has to see to them. -/
def HandsOver (site : Site) (before : List Pending) (calls : List Occurrence) :
    EStateM.Result SemanticError (List Pending) Checked → Prop
  | .ok (.known _) after => ∃ added, after = added ++ before ∧ Holds added (callsFrom site calls)
  | .ok .deferred after => after = before ∧ calls ≠ []
  | .error _ _ => True

section Operators

variable {site : Site} {before middle after : List Pending} {operator : String}
variable {left right : Occurrence}

/-- One side waits and is put on the queue beside a known one. -/
theorem handsOver_beside {calls : List Occurrence} {entry : Pending} {known : DataType}
    {waiting beside : List Occurrence} {result : Except SemanticError DataType}
    (side : HandsOver site before beside (.ok (.known known) after))
    (entrySite : entry.site = site) (entryCalls : entry.calls = waiting) (filled : waiting ≠ [])
    (all : (beside ++ waiting).Perm calls) :
    HandsOver site before calls
      (match result with
        | .ok type => .ok (.known type) (entry :: after)
        | .error error => .error error after) := by
  obtain ⟨added, rfl, holds⟩ := side
  cases result with
  | error error => exact trivial
  | ok type =>
    have both := holds.append (holds_entry (entryCalls ▸ filled : entry.calls ≠ []))
    refine ⟨[entry] ++ added, rfl, both.perm ?_⟩
    rw [Pending.callSites, entrySite, entryCalls, ← callsFrom_append]
    exact all.map _

/-- **An operator puts the calls of its sides on the queue, or leaves all of them.** -/
theorem handsOver_checkOperands {leftChecked rightChecked : Checked}
    (first : HandsOver site before left.calls (.ok leftChecked middle))
    (second : HandsOver site middle right.calls (.ok rightChecked after)) :
    HandsOver site before (left.calls ++ right.calls)
      (checkOperands site operator left right leftChecked rightChecked after) := by
  cases found : OperatorCategory.of? operator with
  | none =>
    unfold checkOperands
    rw [found]
    exact trivial
  | some category =>
    cases leftChecked with
    | known leftType =>
      cases rightChecked with
      | known rightType =>
        obtain ⟨early, rfl, leftHolds⟩ := first
        obtain ⟨late, rfl, rightHolds⟩ := second
        unfold checkOperands
        rw [found]
        dsimp only
        rw [bind_apply, ofExcept_apply]
        cases binaryResult operator leftType rightType with
        | error error => exact trivial
        | ok type =>
          refine ⟨late ++ early, (List.append_assoc _ _ _).symm, ?_⟩
          rw [callsFrom_append]
          exact leftHolds.append rightHolds
      | deferred =>
        obtain ⟨rfl, filled⟩ := second
        rw [checkOperands_known_deferred found]
        exact handsOver_beside first rfl (List.append_nil right.calls) filled (.refl _)
    | deferred =>
      obtain ⟨rfl, filled⟩ := first
      cases rightChecked with
      | known rightType =>
        rw [checkOperands_deferred_known found]
        exact handsOver_beside second rfl (List.append_nil left.calls) filled
          List.perm_append_comm
      | deferred =>
        -- Arithmetic leaves the calls of both sides to whoever checks it; any other operator puts the
        -- left side on the queue, and the right one with it.
        obtain ⟨rfl, _⟩ := second
        have some : left.calls ++ right.calls ≠ [] := List.append_ne_nil_of_left_ne_nil filled _
        unfold checkOperands
        rw [found]
        dsimp only
        by_cases arithmetic : category = .arithmetic
        · rw [if_pos arithmetic]
          exact ⟨rfl, some⟩
        · rw [if_neg arithmetic]
          exact ⟨[_], rfl, holds_entry some⟩

end Operators

/-- **An expression of known type has its calls on the queue**, and one that waits has a call. -/
theorem handsOver_checkExpr (tree : ScopeTree) (scope : ScopeId) (place : Place)
    (before : List Pending) (expr : Expr) :
    HandsOver ⟨scope, tree.declarations⟩ before (expr.calls place)
      (checkExpr tree scope place expr before) := by
  cases expr with
  | literal type value => exact ⟨[], rfl, holds_nil⟩
  | identifier name =>
    rw [checkExpr, bind_apply, ofExcept_apply]
    cases variableType name (tree.lookupVariable scope name) with
    | error error => exact trivial
    | ok type => exact ⟨[], rfl, holds_nil⟩
  | assign operator target value =>
    rw [checkExpr, bind_apply, ofExcept_apply]
    cases assigned : assignedType operator target (tree.lookupVariable scope) with
    | error error => exact trivial
    | ok expected =>
      -- The target is an identifier, so all calls are in the value.
      obtain ⟨name, rfl, _⟩ := assignedType_eq_ok_iff.mp assigned
      have inner := handsOver_checkExpr tree scope (1 :: place) before value
      dsimp only
      rw [bind_apply]
      cases ended : checkExpr tree scope (1 :: place) value before with
      | error error after => exact trivial
      | ok checked after =>
        rw [ended] at inner
        cases checked with
        | deferred => exact inner
        | known received =>
          dsimp only
          split
          · exact trivial
          · exact inner
  | binary operator left right =>
    have first := handsOver_checkExpr tree scope (0 :: place) before left
    rw [checkExpr, bind_apply]
    cases leftEnd : checkExpr tree scope (0 :: place) left before with
    | error error after => exact trivial
    | ok leftChecked middle =>
      rw [leftEnd] at first
      have second := handsOver_checkExpr tree scope (1 :: place) middle right
      dsimp only
      rw [bind_apply]
      cases rightEnd : checkExpr tree scope (1 :: place) right middle with
      | error error after => exact trivial
      | ok rightChecked after =>
        rw [rightEnd] at second
        exact handsOver_checkOperands first second
  | unary operator fixity operand =>
    rw [checkExpr]
    exact handsOver_checkExpr tree scope (0 :: place) before operand
  | call callee arguments => exact ⟨rfl, List.cons_ne_nil _ _⟩

/-! ### The layout of an analyzer -/

namespace ScopeTree

/-- The kinds and the parents of the scopes. -/
def outline (tree : ScopeTree) : List (ScopeKind × Option ScopeId) :=
  tree.scopes.toList.map fun scope => (scope.kind, scope.parent)

/-- A change of one scope that leaves its kind and its parent alone does not show. -/
theorem map_modify {scopes : Array Scope} (change : Scope → Scope) (id : ScopeId)
    (same : ∀ scope, ((change scope).kind, (change scope).parent) = (scope.kind, scope.parent)) :
    (scopes.modify id change).toList.map (fun scope => (scope.kind, scope.parent)) =
      scopes.toList.map fun scope => (scope.kind, scope.parent) := by
  rw [Array.toList_modify]
  refine List.ext_getElem? fun position => ?_
  rw [List.getElem?_map, List.getElem?_map, List.getElem?_modify]
  cases scopes.toList[position]? with
  | none => rfl
  | some scope =>
    split
    · exact congrArg some (same scope)
    · rfl

theorem outline_addChild (tree : ScopeTree) (parent : ScopeId) (kind : ScopeKind) :
    (tree.addChild parent kind).2.outline = tree.outline ++ [(kind, some parent)] := by
  unfold outline addChild
  dsimp only
  rw [Array.toList_push, List.map_append, map_modify (·.withChild tree.count) _ fun _ => rfl]
  rfl

theorem outline_declareVariable {tree next : ScopeTree} {id : ScopeId} {name : String}
    {type : DataType} (declared : tree.declareVariable id name type = .ok next) :
    next.outline = tree.outline := by
  obtain ⟨_, rfl⟩ := declareVariable_eq_ok_iff.mp declared
  exact map_modify (·.withVariable name _) _ fun _ => rfl

theorem outline_declareFunction {tree next : ScopeTree} {id : ScopeId} {name : String}
    {signature : Signature} (declared : tree.declareFunction id name signature = .ok next) :
    next.outline = tree.outline := by
  obtain ⟨_, rfl⟩ := declareFunction_eq_ok_iff.mp declared
  exact map_modify (·.withFunction name signature) _ fun _ => rfl

end ScopeTree

namespace Analyzer

/-- The scopes of the tree and the number of variables. -/
def layout (analyzer : Analyzer) : Layout :=
  ⟨analyzer.scopes.outline, analyzer.scopes.declarations⟩

theorem next_layout (analyzer : Analyzer) : analyzer.layout.next = analyzer.scopes.count := by
  unfold Layout.next layout ScopeTree.outline ScopeTree.count
  rw [List.length_map, Array.length_toList]

theorem layout_opened (analyzer : Analyzer) (kind : ScopeKind) :
    (analyzer.opened kind).layout = analyzer.layout.openScope kind analyzer.current :=
  congrArg (Layout.mk · analyzer.scopes.declarations) (ScopeTree.outline_addChild _ _ kind)

end Analyzer

/-! ### The walk over statements -/

/-- **A part of the first pass that starts in `scope` with the layout `before`** comes back to the
scope, ends with the layout `behind` and puts the calls on the queue, if it succeeds. -/
def Queues {α : Type} (walk : Analysis α) (scope : ScopeId) (before behind : Layout)
    (found : List CallSite) : Prop :=
  ∀ analyzer after value, analyzer.current = scope → analyzer.layout = before →
    walk analyzer = .ok value after →
      after.current = scope ∧ after.layout = behind ∧
        ∃ added, after.pending = added ++ analyzer.pending ∧ Holds added found

section Queues

variable {scope : ScopeId} {before middle behind : Layout} {found others : List CallSite}

theorem Queues.bind {α β : Type} {first : Analysis α} {next : α → Analysis β}
    (head : Queues first scope before middle found)
    (tail : ∀ value, Queues (next value) scope middle behind others) :
    Queues (first >>= next) scope before behind (found ++ others) := by
  intro analyzer after value current layout ended
  obtain ⟨given, between, started, ended⟩ := bind_eq_ok_iff.mp ended
  obtain ⟨currentBetween, layoutBetween, early, queued, holds⟩ :=
    head analyzer between given current layout started
  obtain ⟨currentAfter, layoutAfter, late, queuedLater, holdsLater⟩ :=
    tail given between after value currentBetween layoutBetween ended
  refine ⟨currentAfter, layoutAfter, late ++ early, ?_, holds.append holdsLater⟩
  rw [queuedLater, queued, List.append_assoc]

/-- A part that leaves the analyzer as it is. -/
theorem queues_of_unchanged {α : Type} {walk : Analysis α}
    (unchanged : ∀ analyzer after value, walk analyzer = .ok value after → after = analyzer) :
    Queues walk scope before before [] := by
  intro analyzer after value current layout ended
  obtain rfl := unchanged analyzer after value ended
  exact ⟨current, layout, [], rfl, holds_nil⟩

theorem queues_get : Queues (get : Analysis Analyzer) scope before before [] :=
  queues_of_unchanged fun _ _ _ ended => by cases ended; rfl

theorem queues_ofExcept {α : Type} (given : Except SemanticError α) :
    Queues (MonadExcept.ofExcept given : Analysis α) scope before before [] := by
  exact queues_of_unchanged fun _ _ _ ended => (ofExcept_eq_ok_iff.mp ended).2

/-- A part that fails has nothing to show. -/
theorem queues_throw {α : Type} (error : SemanticError) :
    Queues (throw error : Analysis α) scope before behind found := by
  intro analyzer after value _ _ ended
  cases ended

/-- **A part inside a new scope.** -/
theorem Queues.withScope {kind : ScopeKind} {inside : Analysis Unit}
    (queues : Queues inside before.next (before.openScope kind scope) behind found) :
    Queues (withScope kind inside) scope before behind found := by
  rintro analyzer after value rfl rfl ended
  obtain ⟨left, inner, rfl⟩ := withScope_eq_ok_iff.mp ended
  obtain ⟨_, layout, queued⟩ := queues _ left () analyzer.next_layout.symm
    (analyzer.layout_opened kind) inner
  exact ⟨rfl, layout, queued⟩

theorem Queues.withFrame {frame : ContextFrame} {inside : Analysis Unit}
    (queues : Queues inside scope before behind found) :
    Queues (withFrame frame inside) scope before behind found := by
  rintro analyzer after value rfl rfl ended
  obtain ⟨left, inner, rfl⟩ := withFrame_eq_ok_iff.mp ended
  exact queues { analyzer with context := analyzer.context.push frame } left () rfl rfl inner

/-- A part that declares names in the current scope, a number of variables among them. -/
theorem queues_changeScopes {change : ScopeTree → ScopeId → Except SemanticError ScopeTree}
    (count : Nat) (adds : ∀ {tree next : ScopeTree} {id : ScopeId}, change tree id = .ok next →
      next.outline = tree.outline ∧ next.declarations = tree.declarations + count) :
    Queues (changeScopes change) scope before (before.declare count) [] := by
  rintro analyzer after value rfl rfl ended
  obtain ⟨next, changed, rfl⟩ := changeScopes_eq_ok_iff.mp ended
  obtain ⟨outline, declarations⟩ := adds changed
  exact ⟨rfl, congrArg₂ Layout.mk outline declarations, [], rfl, holds_nil⟩

theorem queues_declareVariable (name : String) (type : DataType) :
    Queues (declareVariable name type) scope before (before.declare 1) [] :=
  queues_changeScopes 1 fun declared =>
    ⟨ScopeTree.outline_declareVariable declared, ScopeTree.declarations_declareVariable declared⟩

theorem queues_declareFunction (name : String) (signature : Signature) :
    Queues (declareFunction name signature) scope before before [] :=
  queues_changeScopes 0 fun declared =>
    ⟨ScopeTree.outline_declareFunction declared, ScopeTree.declarations_declareFunction declared⟩

theorem queues_declareParameters (parameters : List Parameter) :
    Queues (declareParameters parameters) scope before (before.declare parameters.length) [] := by
  induction parameters generalizing before with
  | nil => exact queues_of_unchanged fun _ _ _ ended => by cases ended; rfl
  | cons parameter parameters ih =>
    have counted : (before.declare 1).declare parameters.length =
        before.declare (parameters.length + 1) := by
      unfold Layout.declare
      rw [Nat.add_assoc, Nat.add_comm 1]
    rw [List.length_cons, ← counted]
    exact (queues_declareVariable parameter.name parameter.type).bind fun _ => ih

/-- **An expression that has to pass a test has its calls on the queue**, or is on the queue itself
with its requirement, which holds no other calls. -/
theorem queues_require {occurrence : Occurrence} {requirement : Requirement}
    {test : DataType → Except SemanticError Unit} (alone : requirement.calls = []) :
    Queues (require occurrence requirement test) scope before before
      (callsFrom (before.site scope) occurrence.calls) := by
  rintro analyzer after value rfl rfl ended
  have hands := handsOver_checkExpr analyzer.scopes analyzer.current occurrence.place
    analyzer.pending occurrence.expr
  obtain ⟨checked, between, started, ended⟩ := bind_eq_ok_iff.mp ended
  unfold checkOccurrence at started
  cases result : checkExpr analyzer.scopes analyzer.current occurrence.place occurrence.expr
    analyzer.pending with
  | error error queue =>
    rw [result] at started
    cases started
  | ok found queue =>
    rw [result] at started hands
    cases started
    cases checked with
    | known type =>
      obtain ⟨added, queued, holds⟩ := hands
      obtain ⟨_, rfl⟩ := ofExcept_eq_ok_iff.mp ended
      exact ⟨rfl, rfl, added, queued, holds⟩
    | deferred =>
      obtain ⟨rfl, filled⟩ := hands
      cases ended
      let entry : Pending := ⟨occurrence, analyzer.site, requirement⟩
      have calls : entry.calls = occurrence.calls := by
        show occurrence.calls ++ requirement.calls = occurrence.calls
        rw [alone, List.append_nil]
      have some : entry.calls ≠ [] := calls.symm ▸ filled
      have holds := holds_entry some
      unfold Pending.callSites at holds
      rw [calls] at holds
      exact ⟨rfl, rfl, [entry], rfl, holds⟩

theorem queues_checkVariableDecl {place : Place} {type : DataType} {name : String}
    {initializer : Expr} :
    Queues (checkVariableDecl place type name initializer) scope before (before.declare 1)
      (callsFrom (before.site scope) (initializer.calls (0 :: place))) := by
  have value : Queues (require ⟨0 :: place, initializer⟩ (.assignTo name type) (expectType type))
      scope before before (callsFrom (before.site scope) (initializer.calls (0 :: place))) :=
    queues_require rfl
  have both := value.bind fun _ => queues_declareVariable name type
  rwa [List.append_nil] at both

theorem queues_checkCondition {place : Place} {condition : Expr} :
    Queues (checkCondition place condition) scope before before
      (callsFrom (before.site scope) (condition.calls place)) :=
  queues_require rfl

theorem queues_checkReturn {place : Place} {value : Option Expr} :
    Queues (checkReturn place value) scope before before
      ((Stmt.returnValue value).callSites place scope before) := by
  refine queues_get.bind fun analyzer => (queues_ofExcept _).bind fun expected => ?_
  cases value with
  | some value => exact queues_require rfl
  | none =>
    dsimp only
    split
    · exact queues_throw _
    · exact queues_ofExcept (.ok ())

/-- An increment that is not refused increments an operand, which has its calls. -/
theorem queues_checkIncrement {place : Place} {increment : Expr} :
    Queues (checkIncrement place increment) scope before before
      (callsFrom (before.site scope) (increment.calls place)) := by
  cases increment with
  | unary operator fixity operand =>
    unfold checkIncrement
    dsimp only
    split
    · exact queues_require rfl
    · exact queues_throw _
  | literal | identifier | assign | binary | call => exact queues_throw _

theorem queues_checkInitializer {place : Place} {initializer : Stmt} :
    Queues (checkInitializer place initializer) scope before (initializer.layout scope before)
      (initializer.callSites place scope before) := by
  cases initializer with
  | variableDecl type name value => exact queues_checkVariableDecl
  | functionDecl | expression | returnValue | ifChain | whileLoop | forLoop | breakLoop
  | continueLoop => exact queues_throw _

/-- A statement that is refused unless the context allows it. -/
theorem queues_allowed {test : ContextStack → Bool} {error : SemanticError} :
    Queues (do if !test (← get).context then throw error : Analysis Unit) scope before before
      [] := by
  refine queues_get.bind fun analyzer => ?_
  split
  · exact queues_throw _
  · exact queues_ofExcept (.ok ())

end Queues

mutual

/-- **The walk over a statement puts its calls on the queue**, with their sites. -/
theorem queues_checkStmt {place : Place} {scope : ScopeId} {before : Layout} : (stmt : Stmt) →
    Queues (checkStmt place stmt) scope before (stmt.layout scope before)
      (stmt.callSites place scope before)
  | .variableDecl type name initializer => by
    rw [checkStmt]
    exact queues_checkVariableDecl
  | .functionDecl returnType name parameters body => by
    rw [checkStmt]
    exact (queues_declareFunction _ _).bind fun _ =>
      .withScope ((queues_declareParameters parameters).bind fun _ =>
        .withFrame (queues_checkStmts body))
  | .expression value => by
    rw [checkStmt]
    exact queues_require rfl
  | .returnValue value => by
    rw [checkStmt]
    exact queues_checkReturn
  | .ifChain condition body alternatives => by
    rw [checkStmt]
    exact queues_checkCondition.bind fun _ =>
      (Queues.withScope (queues_checkStmts body)).bind fun _ =>
        queues_checkAlternatives alternatives
  | .whileLoop condition body => by
    rw [checkStmt]
    exact queues_checkCondition.bind fun _ => .withFrame (.withScope (queues_checkStmts body))
  | .forLoop initializer condition increment body => by
    rw [checkStmt]
    exact .withFrame (.withScope (queues_checkInitializer.bind fun _ =>
      queues_checkCondition.bind fun _ => queues_checkIncrement.bind fun _ =>
        queues_checkStmts body))
  | .breakLoop => by
    rw [checkStmt]
    exact queues_allowed
  | .continueLoop => by
    rw [checkStmt]
    exact queues_allowed

theorem queues_checkAlternatives {place : Place} {scope : ScopeId} {before : Layout} :
    (alternatives : Alternatives) →
      Queues (checkAlternatives place alternatives) scope before (alternatives.layout scope before)
        (alternatives.callSites place scope before)
  | .none => by
    rw [checkAlternatives]
    exact queues_ofExcept (.ok ())
  | .otherwise body => by
    rw [checkAlternatives]
    exact .withScope (queues_checkStmts body)
  | .elseIf condition body alternatives => by
    rw [checkAlternatives]
    exact queues_checkCondition.bind fun _ =>
      (Queues.withScope (queues_checkStmts body)).bind fun _ =>
        queues_checkAlternatives alternatives

theorem queues_checkStmts {place : Place} {index : Nat} {scope : ScopeId} {before : Layout} :
    (body : List Stmt) →
      Queues (checkStmts place index body) scope before (bodyLayout scope before body)
        (bodyCallSites place index scope before body)
  | [] => by
    rw [checkStmts]
    exact queues_ofExcept (.ok ())
  | stmt :: later => by
    rw [checkStmts]
    exact (queues_checkStmt stmt).bind fun _ => queues_checkStmts later

end

/-! ### The queue behind the first pass -/

theorem mem_callsFrom {site : Site} {calls : List Occurrence} {found : CallSite} :
    found ∈ callsFrom site calls ↔ found.call ∈ calls ∧ found.site = site := by
  unfold callsFrom
  rw [List.mem_map]
  constructor
  · rintro ⟨call, member, rfl⟩
    exact ⟨member, rfl⟩
  · rintro ⟨member, rfl⟩
    exact ⟨found.call, member, rfl⟩

/-- **A call with a place of its own is in exactly one of the entries that hold it.** -/
theorem Holds.exactly_one {entries : List Pending} {found : List CallSite}
    (holds : Holds entries found) (different : (places found).Nodup) {one : CallSite}
    (member : one ∈ found) :
    ∃ newer entry older, entries = newer ++ entry :: older ∧ one.call ∈ entry.calls ∧
      entry.site = one.site ∧
      ∀ other ∈ newer ++ older, ∀ call ∈ other.calls, call.place ≠ one.call.place := by
  obtain ⟨entry, queued, inside⟩ := List.mem_flatMap.mp (holds.once.mem_iff.mpr member)
  obtain ⟨newer, older, rfl⟩ := List.append_of_mem queued
  obtain ⟨here, site⟩ := mem_callsFrom.mp inside
  refine ⟨newer, entry, older, rfl, here, site.symm, fun other among call called same => ?_⟩
  -- With the entry in front, its places are apart from those of the others.
  have moved : (places ((entry :: (newer ++ older)).flatMap Pending.callSites)).Nodup :=
    (((List.perm_middle.flatMap_right Pending.callSites).symm.trans holds.once).map _).nodup_iff.mpr
      different
  rw [List.flatMap_cons, places_append] at moved
  have elsewhere : (⟨call, other.site⟩ : CallSite) ∈
      (newer ++ older).flatMap Pending.callSites :=
    List.mem_flatMap.mpr ⟨other, among, mem_callsFrom.mpr ⟨called, rfl⟩⟩
  exact (List.nodup_append.mp moved).2.2 one.call.place (List.mem_map_of_mem inside)
    call.place (List.mem_map_of_mem elsewhere) same.symm

/-- **No call is lost and none is queued twice.** When the first pass over a program succeeds, each
call that is not inside the arguments of another one is in exactly one entry of the queue, told from
the others by its place; each entry has such a call; and the site of an entry is that of its calls: the
scope in which they stand and the number of variables declared before them. The scopes of the tree
are those of the program. -/
theorem queue_holds_calls {program : Program} {limit : Nat} {after : Analyzer}
    (ended : checkProgram program (.start limit) = .ok () after) :
    after.layout = program.layout ∧
    (places program.callSites).Nodup ∧
    (after.pending.flatMap Pending.callSites).Perm program.callSites ∧
    (∀ one ∈ program.callSites, ∃ newer entry older, after.pending = newer ++ entry :: older ∧
      one.call ∈ entry.calls ∧ entry.site = one.site ∧
      ∀ other ∈ newer ++ older, ∀ call ∈ other.calls, call.place ≠ one.call.place) ∧
    ∀ entry ∈ after.pending, entry.calls ≠ [] ∧
      ∀ call ∈ entry.calls, (⟨call, entry.site⟩ : CallSite) ∈ program.callSites := by
  have different := nodup_places_callSites program
  obtain ⟨_, layout, added, queued, holds⟩ :=
    queues_checkStmts program.body (.start limit) after () rfl rfl ended
  have queue : after.pending = added := queued.trans (List.append_nil added)
  rw [queue]
  refine ⟨layout, different, holds.once, fun one member => holds.exactly_one different member,
    fun entry member => ⟨holds.filled entry member, fun call called => ?_⟩⟩
  exact holds.once.mem_iff.mp (List.mem_flatMap.mpr ⟨entry, member,
    mem_callsFrom.mpr ⟨called, rfl⟩⟩)

/-- Calls beside a known operand, on both sides of an arithmetic operator and of a comparison, in a
condition, and with a call in its argument. -/
theorem queue_holds_calls_mixed :
    let call : Expr := .call "f" [.literal .int "1"]
    let program : Program := ⟨[
      .functionDecl .int "f" [⟨"a", .int⟩] [.returnValue (some (.identifier "a"))],
      .variableDecl .int "x" (.binary "*" (.binary "+" call (.literal .int "1")) (.literal .int "2")),
      .variableDecl .int "y" (.binary "+" call call),
      .whileLoop (.binary "<" call call) [.expression (.call "f" [call])]]⟩
    ∃ after, checkProgram program (.start 1) = .ok () after ∧
      after.layout = program.layout ∧
      (after.pending.flatMap Pending.callSites).Perm program.callSites ∧
      (∀ entry ∈ after.pending, entry.calls ≠ []) ∧
      program.layout = ⟨[(.global, none), (.function "f", some 0), (.block, some 0)], 3⟩ ∧
      program.callSites.map (fun found => (found.call.place, found.site)) =
        [([0, 0, 0, 1], ⟨0, 1⟩), ([0, 0, 2], ⟨0, 2⟩), ([1, 0, 2], ⟨0, 2⟩),
          ([0, 0, 3], ⟨0, 3⟩), ([1, 0, 3], ⟨0, 3⟩), ([0, 0, 1, 3], ⟨2, 3⟩)] := by
  intro call program
  have accepted : (outcome (checkProgram program) (.start 1)).toBool = true := by decide +kernel
  obtain ⟨_, after, ended⟩ := exists_eq_ok_of_outcome accepted
  obtain ⟨layout, _, once, _, entries⟩ := queue_holds_calls ended
  exact ⟨after, ended, layout, once, fun entry member => (entries entry member).1, by decide,
    by decide⟩

end TypedImp
