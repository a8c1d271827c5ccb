/-
**What a stretch of operations declares.**

A part of the walk works on one scope of the tree and on scopes that it opens itself. Of the scopes
that were there before, that one alone gains declarations, and it is known which: the part of the
walk declares them, whatever else happens inside.

* `Scope.Gains` — a scope has further variables and functions, behind those that it had.
* `ScopeTree.Gains` — a scope gains declarations, and every other one gains nothing. The operations
  on a tree are of this kind, and such changes compose (`Gains.trans`).
* `gains_inside` — what happens inside a scope that is opened and left again is not seen outside.
* `Gains.ancestors` — **of a chain of scopes, the innermost one alone changes.**
-/

import TypedImp.Proofs.ScopeGrowth

namespace TypedImp

/-- The variables of a scope with their types. -/
def Scope.types (scope : Scope) : List (String × DataType) :=
  scope.bindings.map fun binding => (binding.1, binding.2.type)

/-- A scope with further declarations. -/
structure Scope.Gains (bindings : List (String × DataType)) (signatures : List (String × Signature))
    (before after : Scope) : Prop where
  types : after.types = before.types ++ bindings
  signatures : after.signatures = before.signatures ++ signatures

theorem Scope.Gains.refl (scope : Scope) : scope.Gains [] [] scope :=
  ⟨(List.append_nil _).symm, (List.append_nil _).symm⟩

theorem Scope.Gains.trans {bindings moreBindings : List (String × DataType)}
    {signatures moreSignatures : List (String × Signature)} {first second third : Scope}
    (before : first.Gains bindings signatures second)
    (after : second.Gains moreBindings moreSignatures third) :
    first.Gains (bindings ++ moreBindings) (signatures ++ moreSignatures) third := by
  constructor
  · rw [after.types, before.types, List.append_assoc]
  · rw [after.signatures, before.signatures, List.append_assoc]

theorem Scope.gains_withChild (scope : Scope) (child : ScopeId) :
    scope.Gains [] [] (scope.withChild child) :=
  ⟨(List.append_nil _).symm, (List.append_nil _).symm⟩

theorem Scope.gains_withVariable (scope : Scope) (name : String) (declared : Variable) :
    scope.Gains [(name, declared.type)] [] (scope.withVariable name declared) := by
  refine ⟨?_, (List.append_nil _).symm⟩
  unfold types withVariable
  rw [List.map_append]
  rfl

theorem Scope.gains_withFunction (scope : Scope) (name : String) (signature : Signature) :
    scope.Gains [] [(name, signature)] (scope.withFunction name signature) :=
  ⟨(List.append_nil _).symm, rfl⟩

namespace ScopeTree

/-- A tree in which a scope has gained declarations, and no other scope that was there. -/
structure Gains (bindings : List (String × DataType)) (signatures : List (String × Signature))
    (id : ScopeId) (tree later : ScopeTree) : Prop where
  reaches : Reaches tree later
  own : ∀ {scope grown}, tree.get? id = some scope → later.get? id = some grown →
    scope.Gains bindings signatures grown
  elsewhere : ∀ {other scope grown}, other ≠ id → tree.get? other = some scope →
    later.get? other = some grown → scope.Gains [] [] grown

theorem Gains.refl (id : ScopeId) (tree : ScopeTree) : tree.Gains [] [] id tree := by
  have same : ∀ {other scope grown}, tree.get? other = some scope → tree.get? other = some grown →
      scope.Gains [] [] grown := by
    intro other scope grown found foundLater
    rw [found] at foundLater
    cases foundLater
    exact .refl scope
  exact ⟨.refl, same, fun _ => same⟩

theorem Gains.trans {bindings moreBindings : List (String × DataType)}
    {signatures moreSignatures : List (String × Signature)} {id : ScopeId}
    {first second third : ScopeTree} (before : first.Gains bindings signatures id second)
    (after : second.Gains moreBindings moreSignatures id third) :
    first.Gains (bindings ++ moreBindings) (signatures ++ moreSignatures) id third := by
  refine ⟨before.reaches.trans after.reaches, fun found foundLast => ?_,
    fun differ found foundLast => ?_⟩
  · obtain ⟨middle, foundMiddle, _⟩ := (grows_of_reaches before.reaches).scope found
    exact (before.own found foundMiddle).trans (after.own foundMiddle foundLast)
  · obtain ⟨middle, foundMiddle, _⟩ := (grows_of_reaches before.reaches).scope found
    exact (before.elsewhere differ found foundMiddle).trans
      (after.elsewhere differ foundMiddle foundLast)

theorem gains_declareVariable {tree next : ScopeTree} {id : ScopeId} (inRange : id < tree.count)
    {name : String} {type : DataType} (declared : tree.declareVariable id name type = .ok next) :
    tree.Gains [(name, type)] [] id next := by
  refine ⟨.declareVariable inRange declared, fun {scope grown} found foundLater => ?_,
    fun {other scope grown} differ found foundLater => ?_⟩
  · rw [get?_declareVariable declared, if_pos rfl, found] at foundLater
    cases foundLater
    exact scope.gains_withVariable name ⟨type, tree.declarations⟩
  · rw [get?_declareVariable declared, if_neg differ.symm, found] at foundLater
    cases foundLater
    exact .refl scope

theorem gains_declareFunction {tree next : ScopeTree} {id : ScopeId} (inRange : id < tree.count)
    {name : String} {signature : Signature}
    (declared : tree.declareFunction id name signature = .ok next) :
    tree.Gains [] [(name, signature)] id next := by
  refine ⟨.declareFunction inRange declared, fun {scope grown} found foundLater => ?_,
    fun {other scope grown} differ found foundLater => ?_⟩
  · rw [get?_declareFunction declared, if_pos rfl, found] at foundLater
    cases foundLater
    exact scope.gains_withFunction name signature
  · rw [get?_declareFunction declared, if_neg differ.symm, found] at foundLater
    cases foundLater
    exact .refl scope

/-- **Declarations inside a scope of its own are not seen outside.** -/
theorem gains_inside {bindings : List (String × DataType)}
    {signatures : List (String × Signature)} {tree later : ScopeTree} {id : ScopeId}
    (inRange : id < tree.count) {kind : ScopeKind}
    (inside : (tree.addChild id kind).2.Gains bindings signatures tree.count later) :
    tree.Gains [] [] id later := by
  have same : ∀ {other scope grown}, tree.get? other = some scope →
      later.get? other = some grown → scope.Gains [] [] grown := by
    intro other scope grown found foundLater
    have old : other ≠ tree.count := Nat.ne_of_lt (lt_count_of_get? found)
    have opened : (tree.addChild id kind).2.get? other =
        if id = other then some (scope.withChild tree.count) else some scope := by
      rw [get?_addChild, if_neg old, found]
      rfl
    by_cases isParent : id = other
    · rw [if_pos isParent] at opened
      exact (scope.gains_withChild _).trans (inside.elsewhere old opened foundLater)
    · rw [if_neg isParent] at opened
      exact inside.elsewhere old opened foundLater
  exact ⟨(Reaches.addChild inRange kind).trans inside.reaches, same, fun _ => same⟩

/-! ### Chains -/

/-- A chain is the same in a grown tree, up to what has changed in its scopes. -/
theorem Grows.map_ancestors {tree later : ScopeTree} (grows : tree.Grows later) {β : Type}
    {f : Scope → β} {id : ScopeId} (inRange : id < tree.count)
    (same : ∀ {other scope grown}, other ≤ id → tree.get? other = some scope →
      later.get? other = some grown → f grown = f scope) :
    (later.ancestors id).map f = (tree.ancestors id).map f := by
  induction id using Nat.strongRecOn with
  | ind id ih =>
    obtain ⟨scope, found⟩ := get?_eq_some_of_lt inRange
    obtain ⟨grown, foundLater, growing⟩ := grows.scope found
    have head : f grown = f scope := same (Nat.le_refl id) found foundLater
    rw [ScopeTree.ancestors, foundLater, ScopeTree.ancestors, found]
    simp only [growing.parent]
    cases scope.parent with
    | none => simp [head]
    | some parent =>
      dsimp only
      split_ifs with below
      · have rest := ih parent below (Nat.lt_trans below inRange) fun lower =>
          same (Nat.le_trans lower (Nat.le_of_lt below))
        rw [List.map_cons, List.map_cons, head, rest]
      · rw [List.map_singleton, List.map_singleton, head]

/-- **Of the chain from a scope that gains declarations, the innermost scope alone changes.** -/
theorem Gains.ancestors {bindings : List (String × DataType)}
    {signatures : List (String × Signature)} {tree later : ScopeTree} {id : ScopeId}
    (formed : tree.Formed) (inRange : id < tree.count)
    (gains : tree.Gains bindings signatures id later) :
    ∃ scope grown outer outerLater, tree.ancestors id = scope :: outer ∧
      later.ancestors id = grown :: outerLater ∧ scope.Gains bindings signatures grown ∧
      outerLater.map Scope.types = outer.map Scope.types := by
  have grows := grows_of_reaches gains.reaches
  obtain ⟨scope, found⟩ := get?_eq_some_of_lt inRange
  obtain ⟨grown, foundLater, growing⟩ := grows.scope found
  refine ⟨scope, grown, scope.parent.elim [] tree.ancestors, scope.parent.elim [] later.ancestors,
    ancestors_of_get? formed found, ?_, gains.own found foundLater, ?_⟩
  · rw [ancestors_of_get? (formed_of_reaches formed gains.reaches) foundLater, growing.parent]
  · cases parent : scope.parent with
    | none => rfl
    | some outer =>
      have below : outer < id := formed.parent_lt found parent
      refine grows.map_ancestors (Nat.lt_trans below inRange) fun lower foundOther foundGrown => ?_
      have differ := Nat.ne_of_lt (Nat.lt_of_le_of_lt lower below)
      rw [(gains.elsewhere differ foundOther foundGrown).types, List.append_nil]

end ScopeTree

end TypedImp
