/-
**Checking a statement is balanced.**

A part of the walk may enter scopes and push frames, and an error may come in the middle of them. On
every way out the analyzer has only gained: scopes and declarations behind those that were there,
and entries in front of the queue. If there is no error, the walk has also come back: it has left
what it entered, and of the scopes that were there it has changed none but the one in which it
stands.

* `Scope.Keeps`, `ScopeTree.Keeps` — scopes keep what they had; every operation on a tree is of this
  kind (`keeps_step`), and so is every run of them (`keeps_of_reaches`).
* `Appends` — a part of the check of an expression puts entries of one site on the queue, also when
  it fails.
* `Analyzer.Extended` — the analyzer has only gained. One case for each action of the first pass
  shows it of the whole walk, whatever its result is (`FirstPass.extended`).
* `FirstPass.elsewhere` — a walk that succeeds changes no scope around it.
* `checkStmt_balanced` — **all of this together, for a statement in any state.**
-/

import TypedImp.Proofs.ReachableStates

namespace TypedImp

open Analyzer

/-! ### Scopes keep what they had -/

/-- A scope after some run: it is the same one, and what it has gained stands behind what it had. -/
structure Scope.Keeps (before after : Scope) : Prop where
  id : after.id = before.id
  kind : after.kind = before.kind
  parent : after.parent = before.parent
  children : before.children <+: after.children
  bindings : before.bindings <+: after.bindings
  signatures : before.signatures <+: after.signatures

namespace Scope

theorem Keeps.refl (scope : Scope) : scope.Keeps scope :=
  ⟨rfl, rfl, rfl, List.prefix_rfl, List.prefix_rfl, List.prefix_rfl⟩

theorem Keeps.trans {first second third : Scope} (before : first.Keeps second)
    (after : second.Keeps third) : first.Keeps third where
  id := after.id.trans before.id
  kind := after.kind.trans before.kind
  parent := after.parent.trans before.parent
  children := before.children.trans after.children
  bindings := before.bindings.trans after.bindings
  signatures := before.signatures.trans after.signatures

theorem keeps_withChild (scope : Scope) (child : ScopeId) : scope.Keeps (scope.withChild child) :=
  { Keeps.refl scope with children := List.prefix_append _ _ }

theorem keeps_withVariable (scope : Scope) (name : String) (declared : Variable) :
    scope.Keeps (scope.withVariable name declared) :=
  { Keeps.refl scope with bindings := List.prefix_append _ _ }

theorem keeps_withFunction (scope : Scope) (name : String) (signature : Signature) :
    scope.Keeps (scope.withFunction name signature) :=
  { Keeps.refl scope with signatures := List.prefix_append _ _ }

end Scope

namespace ScopeTree

/-- Every scope is still there, with what it had. -/
def Keeps (tree later : ScopeTree) : Prop :=
  ∀ {id scope}, tree.get? id = some scope → ∃ kept, later.get? id = some kept ∧ scope.Keeps kept

/-- One operation keeps all scopes. -/
theorem keeps_step {tree next : ScopeTree} (step : Step tree next) : tree.Keeps next := by
  intro other scope found
  obtain rfl | ⟨parent, kind, _, rfl⟩ | ⟨id, name, type, _, declared⟩ |
    ⟨id, name, signature, _, declared⟩ := step_cases step
  · exact ⟨scope, found, .refl scope⟩
  · rw [get?_addChild, if_neg (Nat.ne_of_lt (lt_count_of_get? found)), found]
    split
    · exact ⟨_, rfl, scope.keeps_withChild _⟩
    · exact ⟨_, rfl, .refl scope⟩
  · rw [get?_declareVariable declared, found]
    split
    · exact ⟨_, rfl, scope.keeps_withVariable _ _⟩
    · exact ⟨_, rfl, .refl scope⟩
  · rw [get?_declareFunction declared, found]
    split
    · exact ⟨_, rfl, scope.keeps_withFunction _ _⟩
    · exact ⟨_, rfl, .refl scope⟩

/-- Every run keeps all scopes. -/
theorem keeps_of_reaches {tree later : ScopeTree} (grown : Reaches tree later) :
    tree.Keeps later := by
  induction grown with
  | refl => exact fun found => ⟨_, found, .refl _⟩
  | tail _ step ih =>
    intro id scope found
    obtain ⟨middle, foundMiddle, early⟩ := ih found
    obtain ⟨last, foundLast, late⟩ := keeps_step step foundMiddle
    exact ⟨last, foundLast, early.trans late⟩

end ScopeTree

/-! ### What an expression puts on the queue -/

/-- A queue is another one with entries in front of it, all of the site. -/
def QueuedAt (site : Site) (queue later : List Pending) : Prop :=
  ∃ added, later = added ++ queue ∧ ∀ entry ∈ added, entry.site = site

/-- However the computation ends, it has put entries in front of the queue, all of the site. -/
def Appends {α : Type} (site : Site) (computation : Queueing α) : Prop :=
  ∀ queue, QueuedAt site queue (finalState computation queue)

section Appends

variable {α β : Type} {site : Site}

theorem QueuedAt.trans {queue middle later : List Pending} (early : QueuedAt site queue middle)
    (late : QueuedAt site middle later) : QueuedAt site queue later := by
  obtain ⟨before, rfl, stands⟩ := early
  obtain ⟨behind, rfl, standsFurther⟩ := late
  exact ⟨behind ++ before, (List.append_assoc behind before queue).symm,
    List.forall_mem_append.mpr ⟨standsFurther, stands⟩⟩

theorem Appends.of_restores {computation : Queueing α} (restores : Restores computation) :
    Appends site computation :=
  fun queue => ⟨[], restores.finalState_eq queue, List.forall_mem_nil _⟩

theorem Appends.pure (value : α) : Appends site (pure value : Queueing α) :=
  .of_restores (restores_pure value)

theorem Appends.ofExcept (value : Except SemanticError α) :
    Appends site (MonadExcept.ofExcept value : Queueing α) :=
  .of_restores (restores_ofExcept value)

theorem Appends.throw (error : SemanticError) : Appends site (throw error : Queueing α) :=
  fun _ => ⟨[], rfl, List.forall_mem_nil _⟩

theorem Appends.bind {first : Queueing α} {next : α → Queueing β} (head : Appends site first)
    (tail : ∀ value, Appends site (next value)) : Appends site (first >>= next) :=
  fun queue => finalState_bind (head queue) fun value middle _ early =>
    early.trans (tail value middle)

theorem appends_queueOperand (waiting : Occurrence) (operator : String) (other : OtherSide)
    (waitsLeft : Bool) : Appends site (queueOperand site waiting operator other waitsLeft) :=
  fun _ => ⟨[_], rfl, List.forall_mem_singleton.mpr rfl⟩

theorem appends_checkOperands (operator : String) (left right : Occurrence)
    (leftType rightType : Checked) :
    Appends site (checkOperands site operator left right leftType rightType) := by
  unfold checkOperands
  cases OperatorCategory.of? operator with
  | none => exact .throw _
  | some category =>
    cases leftType with
    | known leftType =>
      cases rightType with
      | known rightType => exact (Appends.ofExcept _).bind fun type => .pure _
      | deferred =>
        exact (Appends.ofExcept _).bind fun type =>
          (appends_queueOperand _ _ _ _).bind fun _ => .pure _
    | deferred =>
      cases rightType with
      | known rightType =>
        exact (Appends.ofExcept _).bind fun type =>
          (appends_queueOperand _ _ _ _).bind fun _ => .pure _
      | deferred =>
        dsimp only
        split_ifs
        · exact .pure _
        · exact (appends_queueOperand _ _ _ _).bind fun _ => .pure _

/-- **The first pass over an expression only puts entries of its site on the queue**, also when it
fails. -/
theorem appends_checkExpr (tree : ScopeTree) (scope : ScopeId) (place : Place) (expr : Expr) :
    Appends ⟨scope, tree.declarations⟩ (checkExpr tree scope place expr) := by
  cases expr with
  | literal type value => exact .pure _
  | identifier name => exact (Appends.ofExcept _).bind fun type => .pure _
  | assign operator target value =>
    refine (Appends.ofExcept _).bind fun expected =>
      (appends_checkExpr tree scope _ value).bind fun checked => ?_
    cases checked with
    | known received =>
      dsimp only
      split_ifs
      · exact .throw _
      · exact .pure _
    | deferred => exact .pure _
  | binary operator left right =>
    exact (appends_checkExpr tree scope _ left).bind fun leftType =>
      (appends_checkExpr tree scope _ right).bind fun rightType =>
        appends_checkOperands _ _ _ _ _
  | unary operator fixity operand => exact appends_checkExpr tree scope _ operand
  | call callee arguments => exact .pure _

end Appends

/-! ### An analyzer only gains -/

namespace Analyzer

/-- An analyzer after some part of the walk: the tree is reached by operations, and the entries put
on the queue have sites of the time in between. Where the analyzer stands is left open. -/
structure Extended (before after : Analyzer) : Prop where
  limit : after.limit = before.limit
  activation : after.activation = before.activation
  reaches : ScopeTree.Reaches before.scopes after.scopes
  queued : ∃ added, after.pending = added ++ before.pending ∧ ∀ entry ∈ added,
    entry.site.scope < after.scopes.count ∧
      before.scopes.declarations ≤ entry.site.declarations ∧
      entry.site.declarations ≤ after.scopes.declarations

variable {before after : Analyzer}

theorem Extended.refl (analyzer : Analyzer) : analyzer.Extended analyzer :=
  ⟨rfl, rfl, .refl, [], rfl, List.forall_mem_nil _⟩

theorem Extended.trans {first second third : Analyzer} (early : first.Extended second)
    (late : second.Extended third) : first.Extended third := by
  obtain ⟨added, queued, sites⟩ := early.queued
  obtain ⟨further, queuedFurther, sitesFurther⟩ := late.queued
  have grown := ScopeTree.grows_of_reaches early.reaches
  have grownFurther := ScopeTree.grows_of_reaches late.reaches
  refine ⟨late.limit.trans early.limit, late.activation.trans early.activation,
    early.reaches.trans late.reaches, further ++ added, ?_, fun entry member => ?_⟩
  · rw [queuedFurther, queued, List.append_assoc]
  · have declarations := grown.declarations_le
    have declarationsFurther := grownFurther.declarations_le
    have count := grownFurther.count_le
    rcases List.mem_append.mp member with isLate | isEarly
    · obtain ⟨inRange, above, below⟩ := sitesFurther entry isLate
      exact ⟨inRange, by omega, below⟩
    · obtain ⟨inRange, above, below⟩ := sites entry isEarly
      exact ⟨Nat.lt_of_lt_of_le inRange count, above, by omega⟩

/-- Entries of the site at which the analyzer stands. -/
theorem extended_of_queued (inRange : before.current < before.scopes.count) {added : List Pending}
    (stands : ∀ entry ∈ added, entry.site = before.site) :
    before.Extended { before with pending := added ++ before.pending } := by
  refine ⟨rfl, rfl, .refl, added, rfl, fun entry member => ?_⟩
  rw [stands entry member]
  exact ⟨inRange, Nat.le_refl _, Nat.le_refl _⟩

theorem extended_checkOccurrence (inRange : before.current < before.scopes.count)
    (occurrence : Occurrence) :
    before.Extended (finalState (checkOccurrence occurrence) before) := by
  obtain ⟨added, grown, stands⟩ := appends_checkExpr before.scopes before.current occurrence.place
    occurrence.expr before.pending
  have behind : finalState (checkOccurrence occurrence) before =
      { before with pending := added ++ before.pending } := by
    rw [← grown]
    unfold finalState checkOccurrence
    cases checkExpr before.scopes before.current occurrence.place occurrence.expr
      before.pending <;> rfl
  rw [behind]
  exact extended_of_queued inRange stands

/-- An operation on the tree, also when it is refused. -/
theorem extended_changeScopes
    {change : ScopeTree → ScopeId → Except SemanticError ScopeTree}
    (reaches : ∀ {next}, change before.scopes before.current = .ok next →
      ScopeTree.Reaches before.scopes next) :
    before.Extended (finalState (changeScopes change) before) := by
  unfold finalState
  rw [changeScopes_apply]
  cases changed : change before.scopes before.current with
  | error error => exact .refl before
  | ok next => exact ⟨rfl, rfl, reaches changed, [], rfl, List.forall_mem_nil _⟩

end Analyzer

/-- **However a walk ends, the analyzer has only gained.** -/
theorem FirstPass.extended {bindings : List (String × DataType)}
    {signatures : List (String × Signature)} {α : Type} {walk : Analysis α}
    (pass : FirstPass bindings signatures walk) {before : Analyzer}
    (inRange : before.current < before.scopes.count) :
    before.Extended (finalState walk before) := by
  induction pass generalizing before with
  | ofExcept _ =>
    rw [(restores_ofExcept _).finalState_eq]
    exact .refl before
  | throw _ => exact .refl before
  | bind pass _ head tail =>
    exact finalState_bind (head inRange) fun value _ ended early =>
      early.trans (tail value ((pass.passes inRange ended).inRange inRange))
  | reading _ each => exact each _ _ _ inRange
  | checkOccurrence occurrence => exact extended_checkOccurrence inRange occurrence
  | defer occurrence requirement =>
    exact extended_of_queued inRange (List.forall_mem_singleton.mpr rfl)
  | declareVariable name type => exact extended_changeScopes (.declareVariable inRange)
  | declareFunction name signature => exact extended_changeScopes (.declareFunction inRange)
  | @withScope _ _ inside kind _ ih =>
    have inner := ih (before.opened_inRange kind)
    -- Whether the scope is left again or not, the tree and the queue are those of the inside.
    have behind : (before.opened kind).Extended
        (finalState (Analyzer.withScope kind inside) before) := by
      unfold finalState at inner ⊢
      rw [withScope_apply]
      cases ended : inside (before.opened kind) <;> rw [ended] at inner <;> exact { inner with }
    exact { behind with reaches := (ScopeTree.Reaches.addChild inRange kind).trans behind.reaches }
  | @withFrame _ _ inside frame _ ih =>
    let framed : Analyzer := { before with context := before.context.push frame }
    have inner : framed.Extended (finalState inside framed) := ih inRange
    unfold finalState at inner ⊢
    rw [withFrame_apply]
    cases ended : inside framed <;> rw [ended] at inner <;> exact { inner with }

/-- **A walk that succeeds changes no scope around the one in which it stands.** -/
theorem FirstPass.elsewhere {bindings : List (String × DataType)}
    {signatures : List (String × Signature)} {α : Type} {walk : Analysis α}
    (pass : FirstPass bindings signatures walk) {before after : Analyzer} {value : α}
    (inRange : before.current < before.scopes.count) (ended : walk before = .ok value after)
    {id : ScopeId} {scope : Scope} (other : id ≠ before.current)
    (found : before.scopes.get? id = some scope) : after.scopes.get? id = some scope := by
  induction pass generalizing before after with
  | ofExcept _ =>
    obtain ⟨_, rfl⟩ := ofExcept_eq_ok_iff.mp ended
    exact found
  | throw _ => cases ended
  | bind first _ head tail =>
    obtain ⟨given, middle, early, late⟩ := bind_eq_ok_iff.mp ended
    have passes := first.passes inRange early
    exact tail given (passes.inRange inRange) late (passes.current ▸ other)
      (head inRange early other found)
  | reading _ each => exact each _ _ _ inRange ended other found
  | checkOccurrence occurrence =>
    unfold Analyzer.checkOccurrence at ended
    split at ended
    · cases ended
      exact found
    · cases ended
  | defer occurrence requirement =>
    cases ended
    exact found
  | declareVariable name type =>
    obtain ⟨next, declared, rfl⟩ := changeScopes_eq_ok_iff.mp ended
    rw [ScopeTree.get?_declareVariable declared, if_neg other.symm]
    exact found
  | declareFunction name signature =>
    obtain ⟨next, declared, rfl⟩ := changeScopes_eq_ok_iff.mp ended
    rw [ScopeTree.get?_declareFunction declared, if_neg other.symm]
    exact found
  | withScope kind _ ih =>
    obtain ⟨left, inner, rfl⟩ := withScope_eq_ok_iff.mp ended
    have old : id ≠ before.scopes.count := Nat.ne_of_lt (ScopeTree.lt_count_of_get? found)
    have opened : (before.opened kind).scopes.get? id = some scope := by
      show (before.scopes.addChild before.current kind).2.get? id = some scope
      rw [ScopeTree.get?_addChild, if_neg old, if_neg other.symm]
      exact found
    have still : left.scopes.get? id = some scope :=
      ih (before.opened_inRange kind) inner old opened
    exact still
  | withFrame frame _ ih =>
    obtain ⟨left, inner, rfl⟩ := withFrame_eq_ok_iff.mp ended
    let framed : Analyzer := { before with context := before.context.push frame }
    have here : framed.current < framed.scopes.count := inRange
    have foundHere : framed.scopes.get? id = some scope := found
    have still : left.scopes.get? id = some scope := ih here inner other foundHere
    exact still

/-! ### Statements -/

/-- **Checking a statement is balanced and only extends the analyzer.** Whatever the result is,
every scope keeps what it had, the entries that were on the queue are still there behind new ones of
sites of the time in between, and limit and calls under way are the same. If the check succeeds, the
analyzer also stands where it stood, and of the scopes that were there the current one alone may
have changed. -/
theorem checkStmt_balanced {analyzer : Analyzer} (sound : analyzer.Sound) (place : Place)
    (stmt : Stmt) :
    let after := finalState (checkStmt place stmt) analyzer
    analyzer.Extended after ∧ analyzer.scopes.Keeps after.scopes ∧
      (outcome (checkStmt place stmt) analyzer = .ok () →
        after.current = analyzer.current ∧ after.context = analyzer.context ∧
          ∀ id scope, id ≠ analyzer.current → analyzer.scopes.get? id = some scope →
            after.scopes.get? id = some scope) := by
  intro after
  have pass := firstPass_checkStmt place stmt
  have extended : analyzer.Extended after := pass.extended sound.inRange
  refine ⟨extended, ScopeTree.keeps_of_reaches extended.reaches, fun succeeds => ?_⟩
  obtain ⟨nothing, final, ended⟩ := exists_eq_ok_of_outcome (by rw [succeeds]; rfl)
  obtain rfl : after = final := by
    show finalState (checkStmt place stmt) analyzer = final
    rw [finalState, ended]
  have passes := pass.passes sound.inRange ended
  exact ⟨passes.current, passes.context, fun id scope other found =>
    pass.elsewhere sound.inRange ended other found⟩

/-- A loop with a call in its body, once as it should be and once with a `return` outside of a
function, at which the walk stops inside the loop. -/
theorem checkStmt_balanced_stopped :
    let loop : Stmt → Stmt := fun last =>
      .whileLoop (.literal .boolean "true") [.variableDecl .int "x" (.call "f" []), last]
    let whole := checkStmt [0] (loop .breakLoop)
    let stopped := checkStmt [0] (loop (.returnValue none))
    let analyzer := start 1
    analyzer.Sound ∧ outcome whole analyzer = .ok () ∧
      (finalState whole analyzer).context = analyzer.context ∧
      analyzer.Extended (finalState stopped analyzer) ∧
      outcome stopped analyzer = .error .returnOutsideFunction ∧
      (finalState stopped analyzer).context = analyzer.context.push .loop := by
  intro loop whole stopped analyzer
  have sound : analyzer.Sound := sound_start 1
  have succeeds : outcome whole analyzer = .ok () := by decide +kernel
  obtain ⟨_, _, back⟩ := checkStmt_balanced sound [0] (loop .breakLoop)
  obtain ⟨extended, _, _⟩ := checkStmt_balanced sound [0] (loop (.returnValue none))
  exact ⟨sound, succeeds, (back succeeds).2.1, extended, by decide +kernel, by decide +kernel⟩

end TypedImp
