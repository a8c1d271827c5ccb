/-
**An `if` around a whole program changes nothing.**

The statements of a program may be put into the body of an `if` whose condition is `true`. All scopes
then get the next number, the way outward from each of them is one scope longer, and all places are
deeper. The scope that is added declares nothing, so no lookup ends in it, and the global scope was
nothing special.

* `Program.nested`, `ScopeTree.nested` — the program inside the `if`, and the tree of its scopes.
* `findSome?_ancestors_nested` — a search outward finds what it found before.
* `Translation.nesting` — every operation on a tree and every lookup in it is carried over.
* `analyze_nested` — **the analysis gives the same answer**, and as its tree the one with the further
  scope.
-/

import TypedImp.Proofs.Translation

namespace TypedImp

open Analyzer

/-- The program whose only statement is an `if` around the statements. -/
def Program.nested (program : Program) : Program :=
  ⟨[.ifChain (.literal .boolean "true") program.body .none]⟩

/-! ### Scopes one further inside -/

/-- The kind of a scope inside the `if`: what was the global scope is the inside of a block. -/
def ScopeKind.nested : ScopeKind → ScopeKind
  | .function name => .function name
  | .global | .block => .block

/-- The scope inside the `if`. What has no parent elsewhere has the global scope as its parent. -/
def Scope.nested (scope : Scope) : Scope where
  id := scope.id + 1
  kind := scope.kind.nested
  parent := some (scope.parent.elim ScopeTree.globalId (· + 1))
  children := scope.children.map (· + 1)
  bindings := scope.bindings
  signatures := scope.signatures

theorem Scope.withChild_nested (scope : Scope) (child : ScopeId) :
    scope.nested.withChild (child + 1) = (scope.withChild child).nested := by
  unfold Scope.withChild Scope.nested
  rw [List.map_append]
  rfl

theorem Scope.withVariable_nested (scope : Scope) (name : String) (declared : Variable) :
    scope.nested.withVariable name declared = (scope.withVariable name declared).nested :=
  rfl

theorem Scope.withFunction_nested (scope : Scope) (name : String) (signature : Signature) :
    scope.nested.withFunction name signature = (scope.withFunction name signature).nested :=
  rfl

/-- The global scope around the `if`. -/
def Scope.surrounding : Scope :=
  ⟨ScopeTree.globalId, .global, none, [1], [], []⟩

/-- The scopes with a further one around all of them. -/
def nestedScopes (scopes : Array Scope) : Array Scope :=
  #[Scope.surrounding] ++ scopes.map Scope.nested

section Scopes

variable (scopes : Array Scope)

theorem getElem?_nestedScopes_zero : (nestedScopes scopes)[0]? = some .surrounding := by
  unfold nestedScopes
  rw [Array.getElem?_append_left (Nat.zero_lt_one)]
  rfl

theorem getElem?_nestedScopes_succ (id : ScopeId) :
    (nestedScopes scopes)[id + 1]? = scopes[id]?.map Scope.nested := by
  unfold nestedScopes
  rw [Array.getElem?_append_right (Nat.le_add_left 1 id), Array.getElem?_map]
  rfl

theorem push_nestedScopes (scope : Scope) :
    (nestedScopes scopes).push scope.nested = nestedScopes (scopes.push scope) := by
  unfold nestedScopes
  rw [Array.map_push, Array.append_push]

/-- A change of one scope is a change of the one with the next number. -/
theorem modify_nestedScopes {change other : Scope → Scope}
    (same : ∀ scope : Scope, other scope.nested = (change scope).nested) (id : ScopeId) :
    (nestedScopes scopes).modify (id + 1) other = nestedScopes (scopes.modify id change) := by
  apply Array.ext_getElem?
  intro index
  cases index with
  | zero =>
    rw [Array.getElem?_modify, if_neg (Nat.succ_ne_zero id), getElem?_nestedScopes_zero,
      getElem?_nestedScopes_zero]
  | succ index =>
    rw [Array.getElem?_modify, getElem?_nestedScopes_succ, getElem?_nestedScopes_succ,
      Array.getElem?_modify]
    simp only [Nat.add_right_cancel_iff]
    split_ifs
    · rw [Option.map_map, Option.map_map]
      exact congrArg (Option.map · _) (funext same)
    · rfl

end Scopes

namespace ScopeTree

/-- The tree with a further scope around all others. -/
def nested (tree : ScopeTree) : ScopeTree :=
  ⟨nestedScopes tree.scopes, tree.declarations⟩

variable (tree : ScopeTree)

theorem get?_nested_succ (id : ScopeId) :
    tree.nested.get? (id + 1) = (tree.get? id).map Scope.nested :=
  getElem?_nestedScopes_succ tree.scopes id

theorem ancestors_nested_globalId : tree.nested.ancestors globalId = [.surrounding] := by
  have outermost : tree.nested.get? globalId = some .surrounding :=
    getElem?_nestedScopes_zero tree.scopes
  rw [ancestors, outermost]
  rfl

/-- A search outward from a scope finds what it found before. -/
theorem findSome?_ancestors_nested {α : Type} {search other : Scope → Option α}
    (same : ∀ scope : Scope, other scope.nested = search scope)
    (nothing : other .surrounding = none) (id : ScopeId) :
    (tree.nested.ancestors (id + 1)).findSome? other = (tree.ancestors id).findSome? search := by
  induction id using Nat.strongRecOn with
  | ind id ih =>
    rw [ancestors, ancestors, get?_nested_succ]
    cases tree.get? id with
    | none => rfl
    | some scope =>
      have outward : scope.nested.parent = some (scope.parent.elim globalId (· + 1)) := rfl
      rw [Option.map_some]
      dsimp only
      rw [outward]
      cases scope.parent with
      | none =>
        have below : globalId < id + 1 := Nat.succ_pos id
        simp only [Option.elim_none, if_pos below, ancestors_nested_globalId, List.findSome?_cons,
          same, nothing, List.findSome?_nil]
      | some parent =>
        simp only [Option.elim_some, Nat.add_lt_add_iff_right]
        split_ifs with below
        · rw [List.findSome?_cons, List.findSome?_cons, same, ih parent below]
        · rw [List.findSome?_singleton, List.findSome?_singleton, same]

/-! ### Operations -/

/-- Every scope that is opened is the inside of a function or of a block. -/
theorem addChild_nested (id : ScopeId) {kind : ScopeKind} (opened : kind ≠ .global) :
    tree.nested.addChild (id + 1) kind = (tree.count + 1, (tree.addChild id kind).2.nested) := by
  have count : tree.nested.count = tree.count + 1 := by
    unfold ScopeTree.count nested nestedScopes
    rw [Array.size_append, Array.size_map]
    exact Nat.add_comm _ _
  have fresh : Scope.fresh (tree.count + 1) kind (some (id + 1)) =
      (Scope.fresh tree.count kind (some id)).nested := by
    cases kind with
    | global => exact absurd rfl opened
    | function | block => rfl
  unfold addChild
  dsimp only
  rw [count, fresh]
  unfold nested
  dsimp only
  rw [modify_nestedScopes _ fun scope => scope.withChild_nested tree.count, push_nestedScopes]

theorem declareVariable_nested (id : ScopeId) (name : String) (type : DataType) :
    tree.nested.declareVariable (id + 1) name type =
      (tree.declareVariable id name type).map nested := by
  have found : (tree.nested.get? (id + 1)).bind (·.variableNamed? name) =
      (tree.get? id).bind (·.variableNamed? name) := by
    rw [get?_nested_succ, Option.bind_map]
    rfl
  unfold declareVariable
  rw [found]
  cases (tree.get? id).bind (·.variableNamed? name) with
  | some declared => rfl
  | none =>
    unfold nested
    dsimp only
    rw [modify_nestedScopes _ fun scope => scope.withVariable_nested name _]
    rfl

theorem declareFunction_nested (id : ScopeId) (name : String) (signature : Signature) :
    tree.nested.declareFunction (id + 1) name signature =
      (tree.declareFunction id name signature).map nested := by
  have found : (tree.nested.get? (id + 1)).bind (·.functionNamed? name) =
      (tree.get? id).bind (·.functionNamed? name) := by
    rw [get?_nested_succ, Option.bind_map]
    rfl
  unfold declareFunction
  rw [found]
  cases (tree.get? id).bind (·.functionNamed? name) with
  | some declared => rfl
  | none =>
    unfold nested
    dsimp only
    rw [modify_nestedScopes _ fun scope => scope.withFunction_nested name signature]
    rfl

/-! ### Lookups -/

theorem lookupFunction_nested (id : ScopeId) (name : String) :
    tree.nested.lookupFunction (id + 1) name = tree.lookupFunction id name :=
  tree.findSome?_ancestors_nested (fun _ => rfl) rfl id

/-- The function around a scope is the same one. One without a parent has now the global scope
around it, where no function is declared. -/
theorem enclosingReturnType_nested (inner : ScopeId) :
    tree.nested.enclosingReturnType (inner + 1) = tree.enclosingReturnType inner := by
  have around : (tree.nested.ancestors (inner + 1)).findSome? functionAround? =
      ((tree.ancestors inner).findSome? functionAround?).map
        fun around => (around.1, some (around.2.elim globalId (· + 1))) := by
    rw [List.map_findSome?]
    refine tree.findSome?_ancestors_nested (fun scope => ?_) rfl inner
    unfold functionAround? Scope.nested
    dsimp only [Function.comp_apply]
    cases scope.kind <;> rfl
  have nothing (name : String) : tree.nested.lookupFunction globalId name = none := by
    unfold lookupFunction
    rw [ancestors_nested_globalId]
    rfl
  unfold enclosingReturnType
  rw [around]
  cases (tree.ancestors inner).findSome? functionAround? with
  | none => rfl
  | some found =>
    obtain ⟨name, parent⟩ := found
    cases parent with
    | none => simp [nothing]
    | some parent => simp [lookupFunction_nested]

end ScopeTree

/-! ### The analysis -/

/-- **The program inside the `if` is a translation**; all names are the same. -/
def Translation.nesting : Translation where
  naming := .same
  scope id := id + 1
  place place := place ++ [1, 0]
  tree := ScopeTree.nested
  place_cons _ _ := rfl
  place_injective := List.append_left_injective [1, 0]
  declarations_tree _ := rfl
  addChild_tree tree id kind opened := by
    rw [ScopeKind.rename_same]
    exact tree.addChild_nested id opened
  declareVariable_tree tree id name type := by
    rw [Naming.answer_same]
    exact tree.declareVariable_nested id name type
  declareFunction_tree tree id name signature := by
    rw [Naming.answer_same, Signature.rename_same]
    exact tree.declareFunction_nested id name signature
  lookupVariable_tree tree id name :=
    tree.findSome?_ancestors_nested (fun _ => rfl) rfl id
  lookupVariableBefore_tree tree id name before :=
    tree.findSome?_ancestors_nested (fun _ => rfl) rfl id
  lookupFunction_tree tree id name := by
    rw [funext Signature.rename_same, Option.map_id']
    exact tree.lookupFunction_nested id name
  enclosingReturnType_tree tree inner := by
    rw [Naming.answer_same, tree.enclosingReturnType_nested]
    cases tree.enclosingReturnType inner <;> rfl

/-- Inside the body of the `if` the analysis stands as at the start of the program, translated. -/
theorem opened_start (limit : Nat) :
    (start limit).opened .block = Translation.nesting.analyzer (start limit) := by
  have scopes : (ScopeTree.initial.addChild ScopeTree.globalId .block).2 =
      ScopeTree.initial.nested := by decide +kernel
  show Analyzer.mk _ _ _ _ _ _ = Analyzer.mk _ _ _ _ _ _
  congr 1

/-- The first pass over the program inside the `if`: the condition is boolean, a block is opened, and
the statements follow. -/
theorem checkProgram_nested (program : Program) (limit : Nat) :
    checkProgram program.nested (start limit) =
      match checkStmts [1, 0] 0 program.body (Translation.nesting.analyzer (start limit)) with
      | .ok _ after => .ok () { after with current := ScopeTree.globalId }
      | .error error after => .error error after := by
  have condition : checkCondition [0, 0] (.literal .boolean "true") (start limit) =
      .ok () (start limit) := by
    unfold checkCondition require checkOccurrence
    rfl
  unfold checkProgram Program.nested
  rw [checkStmts, checkStmt, bind_apply, bind_apply, condition]
  dsimp only
  rw [bind_apply, withScope_apply, opened_start]
  cases checkStmts [1, 0] 0 program.body (Translation.nesting.analyzer (start limit)) with
  | error error after => rfl
  | ok nothing after =>
    dsimp only
    rw [checkAlternatives, checkStmts]
    rfl

/-- **The program inside an `if` gets the same answer as the program**: it is accepted when the
program is, and otherwise refused with the same error. -/
theorem analyze_nested (program : Program) (limit : Nat) :
    analyze program.nested limit = (analyze program limit).map ScopeTree.nested := by
  have inside := (carries_checkStmts [] 0 program.body : Carries Translation.nesting _ _)
    (start limit)
  rw [show Translation.nesting.naming = .same from rfl, renameStmts_same] at inside
  rw [← Naming.answer_same]
  refine Translation.nesting.analyze_eq (fun _ => ScopeTree.globalId) ?_
  rw [checkProgram_nested, show checkStmts [1, 0] 0 program.body _ = _ from inside]
  unfold checkProgram
  cases checkStmts [] 0 program.body (start limit) <;> rfl

end TypedImp
