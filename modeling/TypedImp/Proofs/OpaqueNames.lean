/-
**Names are opaque, and the two kinds of names never meet.**

Lookups compare a variable with variables and a function with functions, and for nothing but
equality. So new names, each kind by a map of its own that keeps different names different, change
nothing in an analysis but the names: it ends the same way, and an error reports the new name.

* `lookup_map` — what is listed under a name is listed under its new name.
* `ancestors_rename` — the way outward from a scope is the old one, scope by scope.
* `Naming.translation` — every operation on a tree and every lookup in it is carried over.
* `analyze_rename` — **the analysis of the renamed program is the renamed analysis.**
-/

import TypedImp.Proofs.Translation

namespace TypedImp

open Analyzer

/-! ### Scopes in the new names -/

/-- What is listed under a key is listed under the new key when different keys stay different. -/
theorem lookup_map {β γ : Type} {key : String → String} (injective : Function.Injective key)
    (change : β → γ) (entries : List (String × β)) (name : String) :
    (entries.map fun entry => (key entry.1, change entry.2)).lookup (key name) =
      (entries.lookup name).map change := by
  induction entries with
  | nil => rfl
  | cons entry entries ih =>
    obtain ⟨other, value⟩ := entry
    rw [List.map_cons, List.lookup_cons, List.lookup_cons]
    dsimp only
    by_cases same : name = other
    · subst same
      rw [beq_self_eq_true, beq_self_eq_true]
      rfl
    · rw [beq_false_of_ne same, beq_false_of_ne fun equal => same (injective equal)]
      exact ih

variable (naming : Naming)

theorem Scope.variableNamed?_rename (scope : Scope) (name : String) :
    (scope.rename naming).variableNamed? (naming.ofVariable name) = scope.variableNamed? name :=
  (lookup_map naming.ofVariable_injective (fun declared => declared) scope.bindings name).trans
    Option.map_id'

theorem Scope.functionNamed?_rename (scope : Scope) (name : String) :
    (scope.rename naming).functionNamed? (naming.ofFunction name) =
      (scope.functionNamed? name).map (Signature.rename naming) :=
  lookup_map naming.ofFunction_injective (Signature.rename naming) scope.signatures name

theorem Scope.withChild_rename (scope : Scope) (child : ScopeId) :
    (scope.rename naming).withChild child = (scope.withChild child).rename naming :=
  rfl

theorem Scope.withVariable_rename (scope : Scope) (name : String) (declared : Variable) :
    (scope.rename naming).withVariable (naming.ofVariable name) declared =
      (scope.withVariable name declared).rename naming := by
  unfold Scope.withVariable Scope.rename
  rw [List.map_append]
  rfl

theorem Scope.withFunction_rename (scope : Scope) (name : String) (signature : Signature) :
    (scope.rename naming).withFunction (naming.ofFunction name) (signature.rename naming) =
      (scope.withFunction name signature).rename naming := by
  unfold Scope.withFunction Scope.rename
  rw [List.map_append]
  rfl

/-! ### Trees in the new names -/

namespace ScopeTree

variable (tree : ScopeTree)

theorem get?_rename (id : ScopeId) :
    (tree.rename naming).get? id = (tree.get? id).map (Scope.rename naming) :=
  Array.getElem?_map

/-- A change of one scope is carried over if the change of the scope is. -/
theorem modify_map {rename change other : Scope → Scope}
    (same : ∀ scope, other (rename scope) = rename (change scope)) (scopes : Array Scope)
    (id : ScopeId) :
    (scopes.map rename).modify id other = (scopes.modify id change).map rename := by
  apply Array.ext_getElem?
  intro index
  rw [Array.getElem?_modify, Array.getElem?_map, Array.getElem?_map, Array.getElem?_modify]
  split
  · rw [Option.map_map, Option.map_map]
    exact congrArg (Option.map · _) (funext same)
  · rfl

theorem ancestors_rename (id : ScopeId) :
    (tree.rename naming).ancestors id = (tree.ancestors id).map (Scope.rename naming) := by
  have parent : ∀ scope, (Scope.rename naming scope).parent = scope.parent := fun _ => rfl
  exact ancestors_map parent (get?_rename naming tree) id

theorem initial_rename : ScopeTree.initial.rename naming = .initial := by
  unfold initial ScopeTree.rename
  rw [List.map_toArray]
  rfl

theorem addChild_rename (id : ScopeId) (kind : ScopeKind) :
    (tree.rename naming).addChild id (kind.rename naming) =
      (tree.count, (tree.addChild id kind).2.rename naming) := by
  have count : (tree.rename naming).count = tree.count := Array.size_map
  unfold addChild
  dsimp only
  rw [count]
  unfold ScopeTree.rename
  dsimp only
  rw [modify_map fun scope => scope.withChild_rename naming tree.count, Array.map_push]
  rfl

theorem declareVariable_rename (id : ScopeId) (name : String) (type : DataType) :
    (tree.rename naming).declareVariable id (naming.ofVariable name) type =
      naming.answer (ScopeTree.rename naming) (tree.declareVariable id name type) := by
  have found : ((tree.rename naming).get? id).bind (·.variableNamed? (naming.ofVariable name)) =
      (tree.get? id).bind (·.variableNamed? name) := by
    rw [get?_rename, Option.bind_map]
    exact congrArg _ (funext fun scope => scope.variableNamed?_rename naming name)
  unfold declareVariable
  rw [found]
  cases (tree.get? id).bind (·.variableNamed? name) with
  | some declared => rfl
  | none =>
    show Except.ok (ScopeTree.mk _ _) = Except.ok (ScopeTree.mk _ _)
    unfold ScopeTree.rename
    dsimp only
    rw [modify_map fun scope => scope.withVariable_rename naming name _]

theorem declareFunction_rename (id : ScopeId) (name : String) (signature : Signature) :
    (tree.rename naming).declareFunction id (naming.ofFunction name) (signature.rename naming) =
      naming.answer (ScopeTree.rename naming) (tree.declareFunction id name signature) := by
  have found : ((tree.rename naming).get? id).bind (·.functionNamed? (naming.ofFunction name)) =
      ((tree.get? id).bind (·.functionNamed? name)).map (Signature.rename naming) := by
    rw [get?_rename, Option.bind_map, Option.map_bind]
    exact congrArg _ (funext fun scope => scope.functionNamed?_rename naming name)
  unfold declareFunction
  rw [found]
  cases (tree.get? id).bind (·.functionNamed? name) with
  | some declared => rfl
  | none =>
    show Except.ok (ScopeTree.mk _ _) = Except.ok (ScopeTree.mk _ _)
    unfold ScopeTree.rename
    dsimp only
    rw [modify_map fun scope => scope.withFunction_rename naming name signature]

/-! ### Lookups -/

theorem lookupVariable_rename (id : ScopeId) (name : String) :
    (tree.rename naming).lookupVariable id (naming.ofVariable name) =
      tree.lookupVariable id name := by
  unfold lookupVariable
  rw [ancestors_rename, List.findSome?_map]
  exact congrArg (List.findSome? · _)
    (funext fun scope => scope.variableNamed?_rename naming name)

theorem lookupVariableBefore_rename (id : ScopeId) (name : String) (before : Nat) :
    (tree.rename naming).lookupVariableBefore id (naming.ofVariable name) before =
      tree.lookupVariableBefore id name before := by
  unfold lookupVariableBefore
  rw [ancestors_rename, List.findSome?_map]
  exact congrArg (List.findSome? · _)
    (funext fun scope => congrArg _ (scope.variableNamed?_rename naming name))

theorem lookupFunction_rename (id : ScopeId) (name : String) :
    (tree.rename naming).lookupFunction id (naming.ofFunction name) =
      (tree.lookupFunction id name).map (Signature.rename naming) := by
  unfold lookupFunction
  rw [ancestors_rename, List.findSome?_map, List.map_findSome?]
  exact congrArg (List.findSome? · _)
    (funext fun scope => scope.functionNamed?_rename naming name)

theorem functionAround?_rename (scope : Scope) :
    functionAround? (scope.rename naming) =
      (functionAround? scope).map fun around => (naming.ofFunction around.1, around.2) := by
  unfold functionAround? Scope.rename
  cases scope.kind <;> rfl

/-- The name of the function around a scope is looked up as a function. -/
theorem enclosingReturnType_rename (inner : ScopeId) :
    (tree.rename naming).enclosingReturnType inner =
      naming.answer id (tree.enclosingReturnType inner) := by
  have around : ((tree.rename naming).ancestors inner).findSome? functionAround? =
      ((tree.ancestors inner).findSome? functionAround?).map
        fun around => (naming.ofFunction around.1, around.2) := by
    rw [ancestors_rename, List.findSome?_map, List.map_findSome?]
    exact congrArg (List.findSome? · _) (funext (functionAround?_rename naming))
  unfold enclosingReturnType
  rw [around]
  cases (tree.ancestors inner).findSome? functionAround? with
  | none => rfl
  | some found =>
    obtain ⟨name, parent⟩ := found
    cases parent with
    | none => rfl
    | some parent =>
      rw [Option.map_some]
      dsimp only
      rw [Option.bind_some, Option.bind_some, lookupFunction_rename]
      cases tree.lookupFunction parent name <;> rfl

end ScopeTree

/-! ### The analysis -/

/-- **New names are a translation**; numbers and places stay as they are. -/
def Naming.translation : Translation where
  naming := naming
  scope id := id
  place place := place
  tree := ScopeTree.rename naming
  place_cons _ _ := rfl
  place_injective := Function.injective_id
  declarations_tree _ := rfl
  addChild_tree tree id kind _ := tree.addChild_rename naming id kind
  declareVariable_tree tree := tree.declareVariable_rename naming
  declareFunction_tree tree := tree.declareFunction_rename naming
  lookupVariable_tree tree := tree.lookupVariable_rename naming
  lookupVariableBefore_tree tree := tree.lookupVariableBefore_rename naming
  lookupFunction_tree tree := tree.lookupFunction_rename naming
  enclosingReturnType_tree tree := tree.enclosingReturnType_rename naming

/-- **The analysis of the renamed program is the renamed analysis**: it succeeds exactly when the
analysis of the program does, with the tree in the new names, and otherwise ends with the same error
in the new names. -/
theorem analyze_rename (program : Program) (limit : Nat) :
    analyze (program.rename naming) limit =
      match analyze program limit with
      | .ok tree => .ok (tree.rename naming)
      | .error error => .error (error.rename naming) := by
  have begins : naming.translation.analyzer (start limit) = start limit := by
    unfold Translation.analyzer
    rw [show naming.translation.tree (start limit).scopes = .initial from
      ScopeTree.initial_rename naming]
    rfl
  have pass : checkProgram (program.rename naming) (start limit) = _ :=
    begins ▸ (carries_checkStmts [] 0 program.body : Carries naming.translation _ _) (start limit)
  have carried : analyze (program.rename naming) limit =
      naming.answer (ScopeTree.rename naming) (analyze program limit) := by
    refine naming.translation.analyze_eq (·.current) (pass.trans ?_)
    unfold checkProgram
    cases checkStmts [] 0 program.body (start limit) <;> rfl
  rw [carried]
  cases analyze program limit <;> rfl

/-- A variable and a function get one name, and the variable that had it before gets another. The
program is accepted in the old names and in the new ones. A call with too few arguments is refused
in both, under the name that the function has there. -/
theorem analyze_rename_merged :
    let naming := Naming.ofPerm (Equiv.swap "x" "n") (Equiv.swap "f" "n")
    let declared (x n f : String) : List Stmt := [
      .functionDecl .int f [⟨x, .int⟩] [.returnValue (some (.identifier x))],
      .variableDecl .int x (.call f [.literal .int "1"]),
      .variableDecl .int n (.call f [.identifier x])]
    let accepted : Program := ⟨declared "x" "n" "f"⟩
    let refused : Program := ⟨declared "x" "n" "f" ++ [.expression (.call "f" [])]⟩
    accepted.rename naming = ⟨declared "n" "x" "n"⟩ ∧
      (∃ tree, analyze accepted 1 = .ok tree ∧
        analyze (accepted.rename naming) 1 = .ok (tree.rename naming)) ∧
      analyze refused 1 = .error (.missingArguments "f" 1 0) ∧
      analyze (refused.rename naming) 1 = .error (.missingArguments "n" 1 0) := by
  intro naming declared accepted refused
  have succeeds : ∃ tree, analyze accepted 1 = .ok tree :=
    exists_eq_ok_of_toBool (by decide +kernel)
  have fails : analyze refused 1 = .error (.missingArguments "f" 1 0) := by decide +kernel
  have newName : naming.ofFunction "f" = "n" := Equiv.swap_apply_left "f" "n"
  refine ⟨rfl, ?_, fails, ?_⟩
  · obtain ⟨tree, ended⟩ := succeeds
    refine ⟨tree, ended, ?_⟩
    rw [analyze_rename, ended]
  · rw [analyze_rename, fails]
    simp only [SemanticError.rename, newName]

end TypedImp
