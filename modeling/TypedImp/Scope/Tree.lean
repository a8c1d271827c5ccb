/-
**The tree of scopes.**

Scopes are numbered in the order in which they are opened, the global scope first. A scope knows its
parent, its children and what is declared directly in it; declarations stand in the order in which
they were made. Variables are numbered over the whole tree, so that of any two of them it is known
which came first.

* `ScopeTree.addChild` — opens a scope.
* `ScopeTree.declareVariable`, `ScopeTree.declareFunction` — declare a name in a scope. Variables
  and functions are apart; a name that the scope already has is refused.
-/

import TypedImp.Error
import TypedImp.Syntax

namespace TypedImp

/-- The number of a scope. -/
abbrev ScopeId : Type := Nat

/-- What a scope is the inside of. -/
inductive ScopeKind
  | global
  | function (name : String)
  | block
  deriving DecidableEq, Repr

/-- A declared variable: its type, and the number of variables declared before it. -/
structure Variable where
  type : DataType
  ordinal : Nat
  deriving DecidableEq, Repr

/-- The parameters and the return type of a function. -/
structure Signature where
  parameters : List Parameter
  returnType : DataType
  deriving DecidableEq, Repr

/-- A scope with what is declared directly in it. -/
structure Scope where
  id : ScopeId
  kind : ScopeKind
  parent : Option ScopeId
  children : List ScopeId
  bindings : List (String × Variable)
  signatures : List (String × Signature)
  deriving DecidableEq, Repr

namespace Scope

/-- A scope without children and declarations. -/
def fresh (id : ScopeId) (kind : ScopeKind) (parent : Option ScopeId) : Scope :=
  ⟨id, kind, parent, [], [], []⟩

/-- The variable of a name that is declared directly in the scope. -/
def variableNamed? (scope : Scope) (name : String) : Option Variable :=
  scope.bindings.lookup name

/-- The function of a name that is declared directly in the scope. -/
def functionNamed? (scope : Scope) (name : String) : Option Signature :=
  scope.signatures.lookup name

/-- The scope with a further child. -/
def withChild (scope : Scope) (child : ScopeId) : Scope :=
  { scope with children := scope.children ++ [child] }

/-- The scope with a further variable. -/
def withVariable (scope : Scope) (name : String) (declared : Variable) : Scope :=
  { scope with bindings := scope.bindings ++ [(name, declared)] }

/-- The scope with a further function. -/
def withFunction (scope : Scope) (name : String) (signature : Signature) : Scope :=
  { scope with signatures := scope.signatures ++ [(name, signature)] }

end Scope

/-- All scopes by number, and the number of variables declared in them. -/
structure ScopeTree where
  scopes : Array Scope
  declarations : Nat
  deriving DecidableEq, Repr

namespace ScopeTree

/-- The number of the global scope. -/
def globalId : ScopeId := 0

/-- The tree of the global scope alone. -/
def initial : ScopeTree :=
  ⟨#[.fresh globalId .global none], 0⟩

/-- The number of scopes. -/
def count (tree : ScopeTree) : Nat :=
  tree.scopes.size

/-- The scope of a number. -/
def get? (tree : ScopeTree) (id : ScopeId) : Option Scope :=
  tree.scopes[id]?

/-- Opens a scope inside `parent`; its number is the next one. -/
def addChild (tree : ScopeTree) (parent : ScopeId) (kind : ScopeKind) : ScopeId × ScopeTree :=
  let id := tree.count
  (id, { tree with
    scopes := (tree.scopes.modify parent (·.withChild id)).push (.fresh id kind (some parent)) })

/-- Declares a variable directly in a scope. -/
def declareVariable (tree : ScopeTree) (id : ScopeId) (name : String) (type : DataType) :
    Except SemanticError ScopeTree :=
  match tree.get? id |>.bind (·.variableNamed? name) with
  | some _ => .error (.variableAlreadyDeclared name)
  | none => .ok
    { scopes := tree.scopes.modify id (·.withVariable name ⟨type, tree.declarations⟩),
      declarations := tree.declarations + 1 }

/-- Declares a function directly in a scope. -/
def declareFunction (tree : ScopeTree) (id : ScopeId) (name : String) (signature : Signature) :
    Except SemanticError ScopeTree :=
  match tree.get? id |>.bind (·.functionNamed? name) with
  | some _ => .error (.functionAlreadyDeclared name)
  | none => .ok { tree with scopes := tree.scopes.modify id (·.withFunction name signature) }

end ScopeTree

end TypedImp
