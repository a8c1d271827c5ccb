/-
**The representation invariant of trees of scopes.**

A tree says some things twice: the number of a scope is its place and is also kept in the scope, and
a scope knows its parent as well as its children. `Linked` says that these agree, that the way
outward from a scope ends at the global one, and that the ordinals of the variables number them
without gaps.

* `Chain` — the way outward from a scope to the global scope.
* `linked_tree` — a tree that is drawn from a census is linked.
* `linked_of_reaches` — **every tree that operations reach is linked**, refused ones included.
-/

import Mathlib.Data.List.Nodup
import TypedImp.Proofs.Census

namespace TypedImp.ScopeTree

/-- The way outward from a scope to the global scope: each scope on it is the parent of the one
before and has a smaller number. -/
inductive Chain (tree : ScopeTree) : ScopeId → List Scope → Prop
  | global {scope : Scope} (found : tree.get? globalId = some scope)
      (outermost : scope.parent = none) : Chain tree globalId [scope]
  | inner {id parent : ScopeId} {scope : Scope} {outer : List Scope}
      (found : tree.get? id = some scope) (inside : scope.parent = some parent)
      (below : parent < id) (rest : Chain tree parent outer) : Chain tree id (scope :: outer)

/-- The ordinals of all variables, scope by scope. -/
def ordinals (tree : ScopeTree) : List Nat :=
  tree.scopes.toList.flatMap fun scope => scope.bindings.map (·.2.ordinal)

/-- **The representation invariant.** Numbers are places, parents come first, children are the
scopes that name a scope as their parent, every chain ends at the global scope, and the ordinals of
the variables are the numbers below the number of declarations, each one once. -/
structure Linked (tree : ScopeTree) : Prop where
  id_eq : ∀ {id scope}, tree.get? id = some scope → scope.id = id
  parent_eq_none_iff : ∀ {id scope}, tree.get? id = some scope →
    (scope.parent = none ↔ id = globalId)
  parent_lt : ∀ {id scope parent}, tree.get? id = some scope → scope.parent = some parent →
    parent < id
  mem_children_iff : ∀ {id scope}, tree.get? id = some scope → ∀ child,
    child ∈ scope.children ↔ ∃ inner, tree.get? child = some inner ∧ inner.parent = some id
  children_increase : ∀ {id scope}, tree.get? id = some scope →
    scope.children.Pairwise (· < ·)
  chain : ∀ {id}, id < tree.count → tree.Chain id (tree.ancestors id)
  ordinals_perm : tree.ordinals.Perm (List.range tree.declarations)

section Drawn

variable {census : Census}

theorem mem_ordinals_iff {id : ScopeId} {ordinal : Nat} :
    ordinal ∈ (census.bindings id).map (·.2.ordinal) ↔
      ∃ name type, census.variableList[ordinal]? = some (id, name, type) := by
  rw [List.mem_map]
  constructor
  · rintro ⟨⟨name, declared⟩, member, rfl⟩
    exact ⟨name, declared.type, Census.mem_bindings_iff.mp member⟩
  · rintro ⟨name, type, found⟩
    exact ⟨(name, ⟨type, ordinal⟩), Census.mem_bindings_iff.mpr found, rfl⟩

theorem ordinals_tree (census : Census) :
    census.tree.ordinals =
      (census.scopes.mapIdx census.scope).flatMap fun scope => scope.bindings.map (·.2.ordinal) :=
  rfl

/-- No two variables have the same ordinal: each one is in one scope, and there once. -/
theorem nodup_ordinals : census.tree.ordinals.Nodup := by
  rw [ordinals_tree, List.nodup_flatMap]
  constructor
  · intro scope member
    obtain ⟨id, inRange, rfl⟩ := List.mem_mapIdx.mp member
    exact (census.pairwise_ordinals id).imp Nat.ne_of_lt
  · rw [List.pairwise_iff_getElem]
    intro id other _ _ before ordinal inFirst inSecond
    rw [List.getElem_mapIdx] at inFirst inSecond
    obtain ⟨_, _, found⟩ := mem_ordinals_iff.mp inFirst
    obtain ⟨_, _, foundAgain⟩ := mem_ordinals_iff.mp inSecond
    have same := (Prod.mk.inj (Option.some.inj (found.symm.trans foundAgain))).1
    exact Nat.ne_of_lt before same

/-- Every variable of the census is in a scope of the tree. -/
theorem mem_ordinals_tree_iff (formed : census.Formed) {ordinal : Nat} :
    ordinal ∈ census.tree.ordinals ↔ ordinal < census.tree.declarations := by
  rw [ordinals_tree, List.mem_flatMap]
  constructor
  · rintro ⟨scope, member, inScope⟩
    obtain ⟨id, inRange, rfl⟩ := List.mem_mapIdx.mp member
    obtain ⟨_, _, found⟩ := mem_ordinals_iff.mp inScope
    exact (List.getElem?_eq_some_iff.mp found).1
  · intro below
    obtain ⟨⟨id, name, type⟩, found⟩ : ∃ entry, census.variableList[ordinal]? = some entry :=
      ⟨_, List.getElem?_eq_getElem below⟩
    have inRange := formed.variable_lt found
    exact ⟨census.scope id census.scopes[id], List.mem_mapIdx.mpr ⟨id, inRange, rfl⟩,
      mem_ordinals_iff.mpr ⟨name, type, found⟩⟩

/-- In a drawn tree the way outward from every scope ends at the global one. -/
theorem chain_tree (formed : census.Formed) {id : ScopeId} (inRange : id < census.scopes.length) :
    census.tree.Chain id (census.tree.ancestors id) := by
  induction id using Nat.strongRecOn with
  | ind id further =>
    have listed := List.getElem?_eq_getElem inRange
    have found : census.tree.get? id = some (census.scope id census.scopes[id]) := by
      rw [Census.get?_tree, listed, Option.map_some]
    by_cases isGlobal : id = globalId
    · subst isGlobal
      have outermost : (census.scope globalId census.scopes[globalId]).parent = none := by
        rw [formed.global] at listed
        exact (congrArg Prod.snd (Option.some.inj listed)).symm
      rw [ancestors, found]
      simp only [outermost]
      exact .global found outermost
    · obtain ⟨parent, below, inside⟩ := formed.inside listed isGlobal
      have named : (census.scope id census.scopes[id]).parent = some parent := inside
      rw [ancestors, found]
      simp only [named, below, if_true]
      exact .inner found named below (further parent below (Nat.lt_trans below inRange))

/-- **A tree that is drawn from a census is linked.** -/
theorem linked_tree (formed : census.Formed) : census.tree.Linked where
  id_eq found := by
    obtain ⟨outline, _, rfl⟩ := Census.get?_tree_eq_some_iff.mp found
    rfl
  parent_eq_none_iff {id scope} found := by
    obtain ⟨outline, listed, rfl⟩ := Census.get?_tree_eq_some_iff.mp found
    show outline.2 = none ↔ id = globalId
    constructor
    · intro outermost
      by_contra isGlobal
      obtain ⟨parent, _, inside⟩ := formed.inside listed isGlobal
      rw [outermost] at inside
      cases inside
    · rintro rfl
      rw [formed.global] at listed
      cases listed
      rfl
  parent_lt {id scope parent} found inside := by
    obtain ⟨outline, listed, rfl⟩ := Census.get?_tree_eq_some_iff.mp found
    have named : outline.2 = some parent := inside
    by_cases isGlobal : id = globalId
    · subst isGlobal
      rw [formed.global] at listed
      cases listed
      cases named
    · obtain ⟨other, below, inside⟩ := formed.inside listed isGlobal
      rw [named] at inside
      cases inside
      exact below
  mem_children_iff {id scope} found child := by
    obtain ⟨outline, _, rfl⟩ := Census.get?_tree_eq_some_iff.mp found
    show child ∈ census.children id ↔ _
    rw [Census.mem_children_iff]
    constructor
    · rintro ⟨kind, listed⟩
      exact ⟨_, Census.get?_tree_eq_some_iff.mpr ⟨_, listed, rfl⟩, rfl⟩
    · rintro ⟨inner, foundInner, inside⟩
      obtain ⟨⟨kind, parent⟩, listed, rfl⟩ := Census.get?_tree_eq_some_iff.mp foundInner
      obtain rfl : parent = some id := inside
      exact ⟨kind, listed⟩
  children_increase found := by
    obtain ⟨outline, _, rfl⟩ := Census.get?_tree_eq_some_iff.mp found
    exact census.pairwise_children _
  chain inRange := chain_tree formed (census.count_tree ▸ inRange)
  ordinals_perm := by
    refine (List.perm_ext_iff_of_nodup nodup_ordinals List.nodup_range).mpr fun ordinal => ?_
    rw [List.mem_range]
    exact mem_ordinals_tree_iff formed

end Drawn

/-- **Every tree that operations reach is linked**, whichever of them were refused. -/
theorem linked_of_reaches {tree : ScopeTree} (reached : Reaches .initial tree) : tree.Linked := by
  obtain ⟨census, formed, rfl⟩ := Census.exists_census_of_reaches reached
  exact linked_tree formed

/-- A function with two parameters of one name, the second one refused, a block inside it, and a
variable of the global scope behind. -/
theorem linked_of_reaches_refused :
    let opened := (initial.perform (.addChild 0 (.function "f"))).perform
      (.declareVariable 1 "x" .int)
    let refused := opened.perform (.declareVariable 1 "x" .float)
    let tree := ((refused.perform (.addChild 1 .block)).perform
      (.declareVariable 2 "x" .string)).perform (.declareVariable 0 "y" .int)
    Reaches .initial tree ∧ tree.Linked ∧ refused = opened ∧
      tree.scopes.toList.map (fun scope => (scope.parent, scope.children)) =
        [(none, [1]), (some 0, [2]), (some 1, [])] ∧
      (tree.ancestors 2).map (·.id) = [2, 1, 0] ∧ tree.ordinals = [2, 0, 1] := by
  intro opened refused tree
  have reached : Reaches .initial tree := by
    have first : Reaches .initial refused :=
      ((Relation.ReflTransGen.single ⟨.addChild 0 (.function "f"), by decide, rfl⟩).tail
        ⟨.declareVariable 1 "x" .int, by decide, rfl⟩).tail
        ⟨.declareVariable 1 "x" .float, by decide, rfl⟩
    exact ((first.tail ⟨.addChild 1 .block, by decide, rfl⟩).tail
      ⟨.declareVariable 2 "x" .string, by decide, rfl⟩).tail
      ⟨.declareVariable 0 "y" .int, by decide, rfl⟩
  exact ⟨reached, linked_of_reaches reached, by decide +kernel, by decide +kernel,
    by decide +kernel, by decide +kernel⟩

end TypedImp.ScopeTree
