/-
**An analyzer and the surroundings for which it stands.**

The type system follows the blocks around a statement; the analyzer follows a tree of scopes, a
stack of frames and the kinds of scopes. `Analyzer.Stands` says that the two are at the same point
of a program.

* `ScopeTree.Returns` — the function around a scope, seen in the tree: its name, and its signature
  among those of the scope in which it stands. It is kept while the tree grows, although the
  function is sought by its name (`Returns.enclosingReturnType`).
* `Stands.passes`, `Stands.opened` — **walking on and opening a scope lead to the surroundings
  behind a declaration and inside a block.**
* `Stands.view_eq` — in a later tree with the functions of the surroundings, an expression sees from
  its site exactly what the surroundings show it.
-/

import TypedImp.Proofs.ReachableStates

namespace TypedImp

open Analyzer

/-! ### The function around a scope -/

/-- A function that is declared directly in a scope stays so. -/
theorem Scope.Grows.functionNamed? {ordinal : Nat} {before after : Scope}
    (grows : before.Grows ordinal after) {name : String} {signature : Signature}
    (declared : before.functionNamed? name = some signature) :
    after.functionNamed? name = some signature := by
  obtain ⟨added, signatures⟩ := grows.signatures
  unfold Scope.functionNamed? at declared ⊢
  rw [signatures, List.lookup_append, declared]
  rfl

namespace ScopeTree

/-- The return type of the function around a scope, or that there is none. The function is declared
directly in the scope in which it stands. -/
def Returns (tree : ScopeTree) (id : ScopeId) : Option DataType → Prop
  | none => (tree.ancestors id).findSome? functionAround? = none
  | some type => ∃ name parent scope signature,
      (tree.ancestors id).findSome? functionAround? = some (name, some parent) ∧
        tree.get? parent = some scope ∧ scope.functionNamed? name = some signature ∧
        signature.returnType = type

/-- The function around a scope does not change. -/
theorem Grows.findSome?_functionAround? {tree later : ScopeTree} (grows : tree.Grows later)
    {id : ScopeId} (inRange : id < tree.count) :
    (later.ancestors id).findSome? functionAround? =
      (tree.ancestors id).findSome? functionAround? := by
  refine (findSome?_eq_of_forall₂ ?_ (grows.ancestors inRange)).symm
  intro before after growing
  unfold functionAround?
  rw [growing.kind, growing.parent]

theorem Returns.grows {tree later : ScopeTree} {id : ScopeId} {type : Option DataType}
    (returns : tree.Returns id type) (grows : tree.Grows later) (inRange : id < tree.count) :
    later.Returns id type := by
  cases type with
  | none =>
    unfold Returns
    rw [grows.findSome?_functionAround? inRange]
    exact returns
  | some type =>
    obtain ⟨name, parent, scope, signature, around, found, declared, same⟩ := returns
    obtain ⟨grown, foundLater, growing⟩ := grows.scope found
    refine ⟨name, parent, grown, signature, ?_, foundLater, growing.functionNamed? declared, same⟩
    rw [grows.findSome?_functionAround? inRange]
    exact around

/-- The chain from a new scope goes on with that of the scope around it. -/
theorem ancestors_addChild {tree : ScopeTree} (formed : tree.Formed) {id : ScopeId}
    (inRange : id < tree.count) (kind : ScopeKind) :
    (tree.addChild id kind).2.ancestors tree.count =
      .fresh tree.count kind (some id) :: (tree.addChild id kind).2.ancestors id :=
  ancestors_of_get? (formed_addChild formed inRange kind) (get?_addChild_self tree id kind)

theorem Returns.block {tree : ScopeTree} (formed : tree.Formed) {id : ScopeId}
    {type : Option DataType} (returns : tree.Returns id type) (inRange : id < tree.count) :
    (tree.addChild id .block).2.Returns tree.count type := by
  have grown := returns.grows (grows_addChild tree id .block) inRange
  have outward : ((tree.addChild id .block).2.ancestors tree.count).findSome? functionAround? =
      ((tree.addChild id .block).2.ancestors id).findSome? functionAround? := by
    rw [ancestors_addChild formed inRange]
    rfl
  cases type with
  | none => exact outward.trans grown
  | some type =>
    obtain ⟨name, parent, scope, signature, around, rest⟩ := grown
    exact ⟨name, parent, scope, signature, outward.trans around, rest⟩

theorem Returns.function {tree : ScopeTree} (formed : tree.Formed) {id : ScopeId}
    (inRange : id < tree.count) {name : String} {scope : Scope} {signature : Signature}
    (found : tree.get? id = some scope) (declared : scope.functionNamed? name = some signature) :
    (tree.addChild id (.function name)).2.Returns tree.count (some signature.returnType) := by
  obtain ⟨grown, foundLater, growing⟩ := (grows_addChild tree id (.function name)).scope found
  refine ⟨name, id, grown, signature, ?_, foundLater, growing.functionNamed? declared, rfl⟩
  rw [ancestors_addChild formed inRange]
  rfl

/-- **The return type is found by the name of the function.** -/
theorem Returns.enclosingReturnType {tree : ScopeTree} (formed : tree.Formed) {id : ScopeId}
    {type : Option DataType} (returns : tree.Returns id type) :
    tree.enclosingReturnType id = type.elim (.error .returnOutsideFunction) .ok := by
  unfold ScopeTree.enclosingReturnType
  cases type with
  | none =>
    have around : (tree.ancestors id).findSome? functionAround? = none := returns
    rw [around]
    rfl
  | some type =>
    obtain ⟨name, parent, scope, signature, around, found, declared, rfl⟩ := returns
    have visible : tree.lookupFunction parent name = some signature := by
      unfold lookupFunction
      rw [ancestors_of_get? formed found, List.findSome?_cons, declared]
    rw [around]
    dsimp only [Option.bind_some]
    rw [visible]
    rfl

end ScopeTree

/-! ### Standing for surroundings -/

theorem Scope.lookup_types (scope : Scope) (name : String) :
    scope.types.lookup name = (scope.variableNamed? name).map (·.type) := by
  unfold types variableNamed?
  induction scope.bindings with
  | nil => rfl
  | cons binding bindings ih =>
    rw [List.map_cons, List.lookup_cons, List.lookup_cons, ih]
    cases name == binding.1 <;> rfl

namespace Surroundings

/-- The functions of the blocks around, the innermost block first. -/
def functions (around : Surroundings) : List (List (String × Signature)) :=
  around.blocks.map Block.signatures

@[simp]
theorem declare_nil (around : Surroundings) : around.declare [] = around := by
  unfold declare
  rw [List.append_nil]

end Surroundings

namespace Analyzer

/-- **The analyzer stands where the surroundings say**: variables, return type and loops are the
same. The functions of the surroundings are those to come, of which the tree knows some only. -/
structure Stands (analyzer : Analyzer) (around : Surroundings) : Prop where
  sound : analyzer.Sound
  types : (analyzer.scopes.ancestors analyzer.current).map Scope.types =
    around.blocks.map Block.bindings
  returns : analyzer.scopes.Returns analyzer.current around.returnType
  breaks : analyzer.context.allowsBreak = around.inLoop
  continues : analyzer.context.allowsContinue = around.inLoop

/-- **Behind a part of the walk the analyzer stands behind what it has declared.** -/
theorem Stands.passes {analyzer after : Analyzer} {around : Surroundings}
    {bindings : List (String × DataType)} {signatures : List (String × Signature)}
    (stands : analyzer.Stands around) (passes : Passes bindings signatures analyzer after) :
    after.Stands (around.declare bindings) := by
  have sound := stands.sound
  refine ⟨passes.sound sound, ?_, ?_, ?_, ?_⟩
  · obtain ⟨scope, grown, outer, outerLater, chain, chainLater, gains, same⟩ :=
      passes.scopes.ancestors sound.formed sound.inRange
    have before := stands.types
    rw [chain, List.map_cons] at before
    obtain ⟨own, others⟩ := List.cons_eq_cons.mp before
    rw [passes.current, chainLater, List.map_cons, gains.types, own, same, others]
    rfl
  · rw [passes.current]
    exact stands.returns.grows (ScopeTree.grows_of_reaches passes.scopes.reaches) sound.inRange
  · rw [passes.context]
    exact stands.breaks
  · rw [passes.context]
    exact stands.continues

/-- The chain from a new scope shows no variables of its own, and those from outside. -/
theorem Stands.types_opened {analyzer : Analyzer} {around : Surroundings}
    (stands : analyzer.Stands around) (kind : ScopeKind) :
    ((analyzer.opened kind).scopes.ancestors (analyzer.opened kind).current).map Scope.types =
      [] :: around.blocks.map Block.bindings := by
  have sound := stands.sound
  have grows := ScopeTree.grows_addChild analyzer.scopes analyzer.current kind
  have outward : ((analyzer.scopes.addChild analyzer.current kind).2.ancestors
      analyzer.current).map Scope.types =
      (analyzer.scopes.ancestors analyzer.current).map Scope.types := by
    refine grows.map_ancestors sound.inRange fun {other scope grown} _ found foundLater => ?_
    rw [ScopeTree.get?_addChild, if_neg (Nat.ne_of_lt (ScopeTree.lt_count_of_get? found)),
      found] at foundLater
    split_ifs at foundLater <;> cases foundLater <;> rfl
  show ((analyzer.scopes.addChild analyzer.current kind).2.ancestors
    analyzer.scopes.count).map Scope.types = _
  rw [ScopeTree.ancestors_addChild sound.formed sound.inRange, List.map_cons, outward,
    stands.types]
  rfl

/-- **Inside a new block.** -/
theorem Stands.opened {analyzer : Analyzer} {around : Surroundings}
    (stands : analyzer.Stands around) (body : List Stmt) :
    (analyzer.opened .block).Stands (around.enter [] body) :=
  ⟨stands.sound.opened .block, stands.types_opened .block,
    stands.returns.block stands.sound.formed stands.sound.inRange, stands.breaks, stands.continues⟩

/-- The variables of the current scope are those of the innermost block. -/
theorem Stands.own_types {analyzer : Analyzer} {around : Surroundings}
    (stands : analyzer.Stands around) {scope : Scope}
    (found : analyzer.scopes.get? analyzer.current = some scope) :
    scope.types = around.block.bindings := by
  have types := stands.types
  rw [ScopeTree.ancestors_of_get? stands.sound.formed found, List.map_cons] at types
  exact (List.cons_eq_cons.mp types).1

/-- A variable that is visible in the tree is visible from the surroundings, with its type. -/
theorem Stands.lookupVariable {analyzer : Analyzer} {around : Surroundings}
    (stands : analyzer.Stands around) (name : String) :
    (analyzer.scopes.lookupVariable analyzer.current name).map (·.type) =
      around.view.typeOf? name := by
  have typed : (Option.map (·.type) ∘ fun scope : Scope => scope.variableNamed? name) =
      (·.lookup name) ∘ Scope.types := by
    funext scope
    exact (scope.lookup_types name).symm
  unfold ScopeTree.lookupVariable
  rw [List.map_findSome?, typed, ← List.findSome?_map, stands.types, List.findSome?_map]
  rfl

/-- **In a later tree with the functions of the surroundings, an expression sees what they
show.** -/
theorem Stands.view_eq {analyzer : Analyzer} {around : Surroundings}
    (stands : analyzer.Stands around) {final : ScopeTree} (grows : analyzer.scopes.Grows final)
    (functions : (final.ancestors analyzer.current).map (·.signatures) = around.functions) :
    final.view analyzer.site = around.view := by
  refine View.ext (funext fun name => ?_) (funext fun name => ?_)
  · rw [stands.sound.sees_site grows name]
    exact stands.lookupVariable name
  · have called : (fun scope : Scope => scope.functionNamed? name) =
        (·.lookup name) ∘ Scope.signatures := rfl
    show (final.ancestors analyzer.current).findSome? (fun scope => scope.functionNamed? name) = _
    rw [called, ← List.findSome?_map, functions]
    unfold Surroundings.functions
    rw [List.findSome?_map]
    rfl

end Analyzer

end TypedImp
