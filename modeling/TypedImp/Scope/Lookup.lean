/-
**Looking names up.**

A name is sought in a scope, then in its parent, and so on outward to the global scope; the
innermost declaration is found.

* `ScopeTree.ancestors` — the scopes in which a name is sought, in order. Every parent has a smaller
  number than its child, so the chain ends.
* `ScopeTree.lookupVariable`, `ScopeTree.lookupFunction` — the innermost declaration of a name.
* `ScopeTree.lookupVariableBefore` — the same among the variables declared before a given moment.
* `ScopeTree.enclosingReturnType` — the return type of the function around a scope.
-/

import TypedImp.Scope.Tree

namespace TypedImp.ScopeTree

/-- The chain of scopes from a scope outward. -/
def ancestors (tree : ScopeTree) (id : ScopeId) : List Scope :=
  match tree.get? id with
  | none => []
  | some scope =>
    match scope.parent with
    | none => [scope]
    | some parent => if parent < id then scope :: tree.ancestors parent else [scope]
termination_by id

/-- The innermost variable of a name that is visible from a scope. -/
def lookupVariable (tree : ScopeTree) (id : ScopeId) (name : String) : Option Variable :=
  (tree.ancestors id).findSome? (·.variableNamed? name)

/-- The innermost variable of a name among those with an ordinal below `before`. -/
def lookupVariableBefore (tree : ScopeTree) (id : ScopeId) (name : String) (before : Nat) :
    Option Variable :=
  (tree.ancestors id).findSome? fun scope => (scope.variableNamed? name).filter (·.ordinal < before)

/-- The innermost function of a name that is visible from a scope. -/
def lookupFunction (tree : ScopeTree) (id : ScopeId) (name : String) : Option Signature :=
  (tree.ancestors id).findSome? (·.functionNamed? name)

/-- The name of the function of which a scope is the inside, and the scope around it. -/
def functionAround? (scope : Scope) : Option (String × Option ScopeId) :=
  match scope.kind with
  | .function name => some (name, scope.parent)
  | .global | .block => none

/-- The return type of the innermost function around a scope. Its signature is sought from the scope
in which the function stands. -/
def enclosingReturnType (tree : ScopeTree) (id : ScopeId) : Except SemanticError DataType :=
  match (tree.ancestors id).findSome? functionAround? with
  | none => .error .returnOutsideFunction
  | some (name, parent) =>
    match parent.bind (tree.lookupFunction · name) with
    | some signature => .ok signature.returnType
    | none => .error (.functionNotDeclared name)

end TypedImp.ScopeTree
