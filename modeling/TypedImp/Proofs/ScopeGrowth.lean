/-
**Growing trees of scopes.**

A tree changes by three operations, each applied to one of its scopes: a scope is opened, a variable
is declared, a function is declared. A declaration may be refused, and the tree is then as before.

* `Reaches` — one tree comes from another by a run of operations, refused ones included.
* `Formed` — every parent has a smaller number than its child, and the ordinal of every variable is
  below the number of declarations. It holds of the initial tree and is kept by every operation
  (`formed_step`), so it holds of every tree that is reached (`formed_of_reaches`).
* `Grows` — a scope keeps its number, kind and parent and only gains declarations behind the old
  ones; the ordinals of the variables gained are at or above the old number of declarations. One
  operation grows the tree (`grows_step`), and growth composes, so a run grows it
  (`grows_of_reaches`).
* `lookupVariableBefore_of_reaches` — **late lookup sees what early lookup saw**: with the number of
  declarations at some moment as its bound, a lookup in any later tree finds what a plain lookup
  found at that moment.

The last fact is the point of the ordinals. Later variables of the same name may be declared in the
scope itself, in a scope between it and the one that holds the variable, or outside; wherever they
are, the bound hides them, and the search goes on outward.
-/

import Mathlib.Data.List.Forall2
import Mathlib.Logic.Relation
import TypedImp.Scope.Lookup

namespace TypedImp

/-! ### Operations and runs -/

namespace ScopeTree

/-- The operations that change a tree of scopes. -/
inductive Operation
  | addChild (parent : ScopeId) (kind : ScopeKind)
  | declareVariable (id : ScopeId) (name : String) (type : DataType)
  | declareFunction (id : ScopeId) (name : String) (signature : Signature)

/-- The scope to which an operation is applied. -/
def Operation.scope : Operation → ScopeId
  | addChild parent _ => parent
  | declareVariable id _ _ => id
  | declareFunction id _ _ => id

/-- The tree behind an operation; a refused declaration leaves it as it is. -/
def perform (tree : ScopeTree) : Operation → ScopeTree
  | .addChild parent kind => (tree.addChild parent kind).2
  | .declareVariable id name type => (tree.declareVariable id name type).toOption.getD tree
  | .declareFunction id name signature =>
    (tree.declareFunction id name signature).toOption.getD tree

/-- One operation on an existing scope. -/
def Step (tree next : ScopeTree) : Prop :=
  ∃ operation : Operation, operation.scope < tree.count ∧ next = tree.perform operation

/-- A run of operations, each on a scope that exists at its time. -/
abbrev Reaches : ScopeTree → ScopeTree → Prop :=
  Relation.ReflTransGen Step

theorem Reaches.addChild {tree : ScopeTree} {parent : ScopeId} (inRange : parent < tree.count)
    (kind : ScopeKind) : Reaches tree (tree.addChild parent kind).2 :=
  .single ⟨.addChild parent kind, inRange, rfl⟩

theorem Reaches.declareVariable {tree next : ScopeTree} {id : ScopeId} {name : String}
    {type : DataType} (inRange : id < tree.count)
    (declared : tree.declareVariable id name type = .ok next) : Reaches tree next :=
  .single ⟨.declareVariable id name type, inRange, by rw [perform, declared]; rfl⟩

theorem Reaches.declareFunction {tree next : ScopeTree} {id : ScopeId} {name : String}
    {signature : Signature} (inRange : id < tree.count)
    (declared : tree.declareFunction id name signature = .ok next) : Reaches tree next :=
  .single ⟨.declareFunction id name signature, inRange, by rw [perform, declared]; rfl⟩

/-! ### The scopes behind an operation -/

theorem get?_eq_some_of_lt {tree : ScopeTree} {id : ScopeId} (inRange : id < tree.count) :
    ∃ scope, tree.get? id = some scope :=
  ⟨tree.scopes[id], Array.getElem?_eq_getElem inRange⟩

theorem lt_count_of_get? {tree : ScopeTree} {id : ScopeId} {scope : Scope}
    (found : tree.get? id = some scope) : id < tree.count :=
  (Array.getElem?_eq_some_iff.mp found).1

theorem get?_addChild {tree : ScopeTree} {parent : ScopeId} {kind : ScopeKind} (id : ScopeId) :
    (tree.addChild parent kind).2.get? id =
      if id = tree.count then some (.fresh tree.count kind (some parent))
      else if parent = id then (tree.get? id).map (·.withChild tree.count) else tree.get? id := by
  unfold addChild get? count
  rw [Array.getElem?_push, Array.size_modify, Array.getElem?_modify]

/-- The scope that is opened. -/
theorem get?_addChild_self (tree : ScopeTree) (parent : ScopeId) (kind : ScopeKind) :
    (tree.addChild parent kind).2.get? tree.count =
      some (.fresh tree.count kind (some parent)) := by
  rw [get?_addChild, if_pos rfl]

theorem count_addChild {tree : ScopeTree} {parent : ScopeId} {kind : ScopeKind} :
    (tree.addChild parent kind).2.count = tree.count + 1 := by
  unfold addChild count
  rw [Array.size_push, Array.size_modify]

/-- What a declaration of a variable that is not refused does. -/
theorem declareVariable_eq_ok_iff {tree next : ScopeTree} {id : ScopeId} {name : String}
    {type : DataType} :
    tree.declareVariable id name type = .ok next ↔
      (tree.get? id).bind (·.variableNamed? name) = none ∧
        next = ⟨tree.scopes.modify id (·.withVariable name ⟨type, tree.declarations⟩),
          tree.declarations + 1⟩ := by
  unfold declareVariable
  split
  · rename_i found
    simp [found]
  · rename_i absent
    simp [absent, eq_comm]

theorem get?_declareVariable {tree next : ScopeTree} {id : ScopeId} {name : String}
    {type : DataType} (declared : tree.declareVariable id name type = .ok next) (other : ScopeId) :
    next.get? other =
      if id = other then (tree.get? other).map (·.withVariable name ⟨type, tree.declarations⟩)
      else tree.get? other := by
  obtain ⟨_, rfl⟩ := declareVariable_eq_ok_iff.mp declared
  exact Array.getElem?_modify

theorem declarations_declareVariable {tree next : ScopeTree} {id : ScopeId} {name : String}
    {type : DataType} (declared : tree.declareVariable id name type = .ok next) :
    next.declarations = tree.declarations + 1 := by
  obtain ⟨_, rfl⟩ := declareVariable_eq_ok_iff.mp declared
  rfl

/-- What a declaration of a function that is not refused does. -/
theorem declareFunction_eq_ok_iff {tree next : ScopeTree} {id : ScopeId} {name : String}
    {signature : Signature} :
    tree.declareFunction id name signature = .ok next ↔
      (tree.get? id).bind (·.functionNamed? name) = none ∧
        next = { tree with scopes := tree.scopes.modify id (·.withFunction name signature) } := by
  unfold declareFunction
  split
  · rename_i found
    simp [found]
  · rename_i absent
    simp [absent, eq_comm]

theorem get?_declareFunction {tree next : ScopeTree} {id : ScopeId} {name : String}
    {signature : Signature} (declared : tree.declareFunction id name signature = .ok next)
    (other : ScopeId) :
    next.get? other =
      if id = other then (tree.get? other).map (·.withFunction name signature)
      else tree.get? other := by
  obtain ⟨_, rfl⟩ := declareFunction_eq_ok_iff.mp declared
  exact Array.getElem?_modify

theorem declarations_declareFunction {tree next : ScopeTree} {id : ScopeId} {name : String}
    {signature : Signature} (declared : tree.declareFunction id name signature = .ok next) :
    next.declarations = tree.declarations := by
  obtain ⟨_, rfl⟩ := declareFunction_eq_ok_iff.mp declared
  rfl

/-- **What one operation can do.** It is refused, opens a scope, declares a variable or declares a
function. -/
theorem step_cases {tree next : ScopeTree} (step : Step tree next) :
    next = tree ∨
      (∃ parent kind, parent < tree.count ∧ next = (tree.addChild parent kind).2) ∨
      (∃ id name type, id < tree.count ∧ tree.declareVariable id name type = .ok next) ∨
      ∃ id name signature, id < tree.count ∧ tree.declareFunction id name signature = .ok next := by
  obtain ⟨operation, inRange, rfl⟩ := step
  cases operation with
  | addChild parent kind => exact .inr (.inl ⟨parent, kind, inRange, rfl⟩)
  | declareVariable id name type =>
    cases declared : tree.declareVariable id name type with
    | error error => exact .inl (by rw [perform, declared]; rfl)
    | ok declaring =>
      refine .inr (.inr (.inl ⟨id, name, type, inRange, ?_⟩))
      rw [perform, declared]
      rfl
  | declareFunction id name signature =>
    cases declared : tree.declareFunction id name signature with
    | error error => exact .inl (by rw [perform, declared]; rfl)
    | ok declaring =>
      refine .inr (.inr (.inr ⟨id, name, signature, inRange, ?_⟩))
      rw [perform, declared]
      rfl

/-! ### Well-formed trees -/

/-- **The invariant of a tree of scopes**: parents come first, and ordinals count declarations. -/
structure Formed (tree : ScopeTree) : Prop where
  parent_lt : ∀ {id scope parent}, tree.get? id = some scope → scope.parent = some parent →
    parent < id
  ordinal_lt : ∀ {id scope}, tree.get? id = some scope → ∀ binding ∈ scope.bindings,
    binding.2.ordinal < tree.declarations

theorem formed_initial : Formed .initial := by
  have only : ∀ {id scope}, ScopeTree.initial.get? id = some scope →
      scope = .fresh globalId .global none := by
    intro id scope found
    have inRange : id < 1 := lt_count_of_get? found
    obtain rfl := Nat.lt_one_iff.mp inRange
    exact (Option.some.inj found).symm
  constructor
  · intro id scope parent found inside
    rw [only found] at inside
    cases inside
  · intro id scope found binding member
    rw [only found] at member
    cases member

theorem formed_addChild {tree : ScopeTree} (formed : tree.Formed) {parent : ScopeId}
    (inRange : parent < tree.count) (kind : ScopeKind) : (tree.addChild parent kind).2.Formed := by
  constructor
  · intro id scope outer found inside
    rw [get?_addChild] at found
    split_ifs at found with isNew isParent
    · cases found
      cases inside
      rwa [isNew]
    · obtain ⟨old, foundOld, rfl⟩ := Option.map_eq_some_iff.mp found
      exact formed.parent_lt foundOld inside
    · exact formed.parent_lt found inside
  · intro id scope found binding member
    rw [get?_addChild] at found
    split_ifs at found with isNew isParent
    · cases found
      cases member
    · obtain ⟨old, foundOld, rfl⟩ := Option.map_eq_some_iff.mp found
      exact formed.ordinal_lt foundOld binding member
    · exact formed.ordinal_lt found binding member

theorem formed_declareVariable {tree next : ScopeTree} (formed : tree.Formed) {id : ScopeId}
    {name : String} {type : DataType} (declared : tree.declareVariable id name type = .ok next) :
    next.Formed := by
  constructor
  · intro other scope parent found inside
    rw [get?_declareVariable declared] at found
    split_ifs at found
    · obtain ⟨old, foundOld, rfl⟩ := Option.map_eq_some_iff.mp found
      exact formed.parent_lt foundOld inside
    · exact formed.parent_lt found inside
  · intro other scope found binding member
    rw [declarations_declareVariable declared]
    rw [get?_declareVariable declared] at found
    split_ifs at found
    · obtain ⟨old, foundOld, rfl⟩ := Option.map_eq_some_iff.mp found
      rcases List.mem_append.mp member with before | added
      · exact Nat.lt_succ_of_lt (formed.ordinal_lt foundOld binding before)
      · rw [List.mem_singleton.mp added]
        exact Nat.lt_succ_self _
    · exact Nat.lt_succ_of_lt (formed.ordinal_lt found binding member)

theorem formed_declareFunction {tree next : ScopeTree} (formed : tree.Formed) {id : ScopeId}
    {name : String} {signature : Signature}
    (declared : tree.declareFunction id name signature = .ok next) : next.Formed := by
  constructor
  · intro other scope parent found inside
    rw [get?_declareFunction declared] at found
    split_ifs at found
    · obtain ⟨old, foundOld, rfl⟩ := Option.map_eq_some_iff.mp found
      exact formed.parent_lt foundOld inside
    · exact formed.parent_lt found inside
  · intro other scope found binding member
    rw [declarations_declareFunction declared]
    rw [get?_declareFunction declared] at found
    split_ifs at found
    · obtain ⟨old, foundOld, rfl⟩ := Option.map_eq_some_iff.mp found
      exact formed.ordinal_lt foundOld binding member
    · exact formed.ordinal_lt found binding member

/-- One operation keeps the invariant. -/
theorem formed_step {tree next : ScopeTree} (formed : tree.Formed) (step : Step tree next) :
    next.Formed := by
  obtain rfl | ⟨parent, kind, inRange, rfl⟩ | ⟨id, name, type, _, declared⟩ |
    ⟨id, name, signature, _, declared⟩ := step_cases step
  · exact formed
  · exact formed_addChild formed inRange kind
  · exact formed_declareVariable formed declared
  · exact formed_declareFunction formed declared

/-- Every run keeps the invariant. -/
theorem formed_of_reaches {tree later : ScopeTree} (formed : tree.Formed)
    (grown : Reaches tree later) : later.Formed := by
  induction grown with
  | refl => exact formed
  | tail _ step ih => exact formed_step ih step

end ScopeTree

/-! ### Growth -/

/-- A scope after some run. What it gains stands behind what it had, and the variables gained have
ordinals from `ordinal` on. -/
structure Scope.Grows (ordinal : Nat) (before after : Scope) : Prop where
  kind : after.kind = before.kind
  parent : after.parent = before.parent
  bindings : ∃ added, after.bindings = before.bindings ++ added ∧
    ∀ binding ∈ added, ordinal ≤ binding.2.ordinal
  signatures : ∃ added, after.signatures = before.signatures ++ added

theorem Scope.Grows.refl (ordinal : Nat) (scope : Scope) : scope.Grows ordinal scope :=
  ⟨rfl, rfl, ⟨[], (List.append_nil _).symm, fun _ member => by cases member⟩,
    ⟨[], (List.append_nil _).symm⟩⟩

theorem Scope.Grows.trans {ordinal later : Nat} {first second third : Scope}
    (before : first.Grows ordinal second) (after : second.Grows later third)
    (ordered : ordinal ≤ later) : first.Grows ordinal third := by
  obtain ⟨added, bindings, above⟩ := before.bindings
  obtain ⟨further, furtherBindings, furtherAbove⟩ := after.bindings
  obtain ⟨functions, signatures⟩ := before.signatures
  obtain ⟨moreFunctions, moreSignatures⟩ := after.signatures
  refine ⟨after.kind.trans before.kind, after.parent.trans before.parent,
    ⟨added ++ further, ?_, fun binding member => ?_⟩, ⟨functions ++ moreFunctions, ?_⟩⟩
  · rw [furtherBindings, bindings, List.append_assoc]
  · rcases List.mem_append.mp member with early | late
    · exact above binding early
    · exact Nat.le_trans ordered (furtherAbove binding late)
  · rw [moreSignatures, signatures, List.append_assoc]

theorem Scope.grows_withChild (ordinal : Nat) (scope : Scope) (child : ScopeId) :
    scope.Grows ordinal (scope.withChild child) :=
  ⟨rfl, rfl, (Scope.Grows.refl ordinal scope).bindings, (Scope.Grows.refl ordinal scope).signatures⟩

theorem Scope.grows_withVariable (scope : Scope) (name : String) (declared : Variable) :
    scope.Grows declared.ordinal (scope.withVariable name declared) := by
  refine ⟨rfl, rfl, ⟨_, rfl, fun binding member => ?_⟩, ⟨[], (List.append_nil _).symm⟩⟩
  obtain rfl := List.mem_singleton.mp member
  exact Nat.le_refl _

theorem Scope.grows_withFunction (ordinal : Nat) (scope : Scope) (name : String)
    (signature : Signature) : scope.Grows ordinal (scope.withFunction name signature) :=
  ⟨rfl, rfl, (Scope.Grows.refl ordinal scope).bindings, ⟨_, rfl⟩⟩

namespace ScopeTree

/-- A tree after some run: no scope is lost, and every scope has only grown. -/
structure Grows (tree later : ScopeTree) : Prop where
  declarations_le : tree.declarations ≤ later.declarations
  scope : ∀ {id scope}, tree.get? id = some scope →
    ∃ grown, later.get? id = some grown ∧ scope.Grows tree.declarations grown

theorem Grows.refl (tree : ScopeTree) : tree.Grows tree :=
  ⟨Nat.le_refl _, fun found => ⟨_, found, .refl _ _⟩⟩

theorem Grows.trans {first second third : ScopeTree} (before : first.Grows second)
    (after : second.Grows third) : first.Grows third := by
  refine ⟨Nat.le_trans before.declarations_le after.declarations_le, fun found => ?_⟩
  obtain ⟨middle, foundMiddle, early⟩ := before.scope found
  obtain ⟨last, foundLast, late⟩ := after.scope foundMiddle
  exact ⟨last, foundLast, early.trans late before.declarations_le⟩

theorem Grows.lt_count {tree later : ScopeTree} (grows : tree.Grows later) {id : ScopeId}
    (inRange : id < tree.count) : id < later.count := by
  obtain ⟨scope, found⟩ := get?_eq_some_of_lt inRange
  obtain ⟨grown, foundLater, _⟩ := grows.scope found
  exact lt_count_of_get? foundLater

theorem Grows.count_le {tree later : ScopeTree} (grows : tree.Grows later) :
    tree.count ≤ later.count :=
  Nat.le_of_not_lt fun fewer => Nat.lt_irrefl _ (grows.lt_count fewer)

theorem grows_addChild (tree : ScopeTree) (parent : ScopeId) (kind : ScopeKind) :
    tree.Grows (tree.addChild parent kind).2 := by
  refine ⟨Nat.le_refl _, fun {id scope} found => ?_⟩
  rw [get?_addChild, if_neg (Nat.ne_of_lt (lt_count_of_get? found)), found]
  split
  · exact ⟨_, rfl, scope.grows_withChild _ _⟩
  · exact ⟨_, rfl, .refl _ _⟩

theorem grows_declareVariable {tree next : ScopeTree} {id : ScopeId} {name : String}
    {type : DataType} (declared : tree.declareVariable id name type = .ok next) :
    tree.Grows next := by
  refine ⟨declarations_declareVariable declared ▸ Nat.le_succ _, fun {other scope} found => ?_⟩
  rw [get?_declareVariable declared, found]
  split
  · exact ⟨_, rfl, scope.grows_withVariable name ⟨type, tree.declarations⟩⟩
  · exact ⟨_, rfl, .refl _ _⟩

theorem grows_declareFunction {tree next : ScopeTree} {id : ScopeId} {name : String}
    {signature : Signature} (declared : tree.declareFunction id name signature = .ok next) :
    tree.Grows next := by
  refine ⟨Nat.le_of_eq (declarations_declareFunction declared).symm, fun {other scope} found => ?_⟩
  rw [get?_declareFunction declared, found]
  split
  · exact ⟨_, rfl, scope.grows_withFunction _ name signature⟩
  · exact ⟨_, rfl, .refl _ _⟩

/-- One operation grows the tree. -/
theorem grows_step {tree next : ScopeTree} (step : Step tree next) : tree.Grows next := by
  obtain rfl | ⟨parent, kind, _, rfl⟩ | ⟨id, name, type, _, declared⟩ |
    ⟨id, name, signature, _, declared⟩ := step_cases step
  · exact .refl _
  · exact grows_addChild tree parent kind
  · exact grows_declareVariable declared
  · exact grows_declareFunction declared

/-- Every run grows the tree. -/
theorem grows_of_reaches {tree later : ScopeTree} (grown : Reaches tree later) :
    tree.Grows later := by
  induction grown with
  | refl => exact .refl tree
  | tail _ step ih => exact ih.trans (grows_step step)

/-! ### The chain of scopes -/

/-- In a well-formed tree the chain from a scope goes on with that of its parent. -/
theorem ancestors_of_get? {tree : ScopeTree} (formed : tree.Formed) {id : ScopeId} {scope : Scope}
    (found : tree.get? id = some scope) :
    tree.ancestors id = scope :: scope.parent.elim [] tree.ancestors := by
  rw [ancestors, found]
  cases parent : scope.parent with
  | none => simp [parent]
  | some outer => simp [parent, formed.parent_lt found parent]

theorem exists_get?_of_mem_ancestors {tree : ScopeTree} {id : ScopeId} {scope : Scope}
    (member : scope ∈ tree.ancestors id) : ∃ other, tree.get? other = some scope := by
  fun_induction ancestors tree id with
  | case1 => cases member
  | case2 id own found => exact ⟨id, by rw [found, List.mem_singleton.mp member]⟩
  | case3 id own found parent _ _ ih =>
    rcases List.mem_cons.mp member with rfl | outer
    · exact ⟨id, found⟩
    · exact ih outer
  | case4 id own found => exact ⟨id, by rw [found, List.mem_singleton.mp member]⟩

/-- If the scopes of a tree are those of another with a change that keeps their parents, then so
are the chains. -/
theorem ancestors_map {tree next : ScopeTree} {change : Scope → Scope}
    (parent : ∀ scope, (change scope).parent = scope.parent)
    (changed : ∀ id, next.get? id = (tree.get? id).map change) (id : ScopeId) :
    next.ancestors id = (tree.ancestors id).map change := by
  induction id using Nat.strongRecOn with
  | ind id ih =>
    rw [ancestors, ancestors, changed]
    cases tree.get? id with
    | none => rfl
    | some scope =>
      rw [Option.map_some]
      dsimp only
      rw [parent]
      cases scope.parent with
      | none => rfl
      | some outer =>
        dsimp only
        split_ifs with below
        · rw [ih outer below, List.map_cons]
        · rfl

/-- Growth keeps every chain, scope by scope. -/
theorem Grows.ancestors {tree later : ScopeTree} (grows : tree.Grows later) {id : ScopeId}
    (inRange : id < tree.count) :
    List.Forall₂ (Scope.Grows tree.declarations) (tree.ancestors id) (later.ancestors id) := by
  induction id using Nat.strongRecOn with
  | ind id ih =>
    obtain ⟨scope, found⟩ := get?_eq_some_of_lt inRange
    obtain ⟨grown, foundLater, growing⟩ := grows.scope found
    rw [ScopeTree.ancestors, found, ScopeTree.ancestors, foundLater]
    simp only [growing.parent]
    cases scope.parent with
    | none => exact .cons growing .nil
    | some parent =>
      dsimp only
      split_ifs with below
      · exact .cons growing (ih parent below (Nat.lt_trans below inRange))
      · exact .cons growing .nil

end ScopeTree

/-! ### Late lookup -/

/-- A bounded lookup in a scope that has grown finds what the scope had. -/
theorem Scope.Grows.filter_variableNamed? {ordinal : Nat} {before after : Scope}
    (grows : before.Grows ordinal after)
    (below : ∀ binding ∈ before.bindings, binding.2.ordinal < ordinal) (name : String) :
    (after.variableNamed? name).filter (·.ordinal < ordinal) = before.variableNamed? name := by
  obtain ⟨added, bindings, above⟩ := grows.bindings
  unfold variableNamed?
  rw [bindings, List.lookup_append]
  cases own : before.bindings.lookup name with
  | some declared =>
    have early : declared.ordinal < ordinal := by
      obtain ⟨left, right, split, _⟩ := List.lookup_eq_some_iff.mp own
      exact below (name, declared) (by simp [split])
    simp [early]
  | none =>
    cases late : added.lookup name with
    | none => rfl
    | some declared =>
      have bound : ordinal ≤ declared.ordinal := by
        obtain ⟨left, right, split, _⟩ := List.lookup_eq_some_iff.mp late
        exact above (name, declared) (by simp [split])
      simpa using bound

theorem findSome?_eq_of_forall₂ {α β γ : Type} {relation : α → β → Prop} {f : α → Option γ}
    {g : β → Option γ} (same : ∀ a b, relation a b → f a = g b) {as : List α} {bs : List β}
    (related : List.Forall₂ relation as bs) : as.findSome? f = bs.findSome? g := by
  induction related with
  | nil => rfl
  | cons head _ ih => rw [List.findSome?_cons, List.findSome?_cons, same _ _ head, ih]

namespace ScopeTree

/-- Late lookup in a tree that has grown. -/
theorem Grows.lookupVariableBefore {tree later : ScopeTree} (formed : tree.Formed)
    (grows : tree.Grows later) {id : ScopeId} (inRange : id < tree.count) (name : String) :
    later.lookupVariableBefore id name tree.declarations = tree.lookupVariable id name := by
  have bounded : ∀ scope ∈ tree.ancestors id, ∀ binding ∈ scope.bindings,
      binding.2.ordinal < tree.declarations := by
    intro scope member
    obtain ⟨other, found⟩ := exists_get?_of_mem_ancestors member
    exact formed.ordinal_lt found
  refine (findSome?_eq_of_forall₂ ?_
    ((List.forall₂_and_left _ _).mpr ⟨bounded, grows.ancestors inRange⟩)).symm
  rintro before after ⟨below, growing⟩
  exact (growing.filter_variableNamed? below name).symm

/-- **Late lookup sees exactly the bindings of its site.** -/
theorem lookupVariableBefore_of_reaches {tree later : ScopeTree} (reached : Reaches .initial tree)
    (grown : Reaches tree later) {id : ScopeId} (inRange : id < tree.count) (name : String) :
    later.lookupVariableBefore id name tree.declarations = tree.lookupVariable id name :=
  (grows_of_reaches grown).lookupVariableBefore (formed_of_reaches formed_initial reached)
    inRange name

/-- A variable of the block and a refused one of the global scope come after the lookup. -/
theorem lookupVariableBefore_of_reaches_shadowed :
    let tree := (initial.perform (.declareVariable 0 "x" .int)).perform (.addChild 0 .block)
    let later := (tree.perform (.declareVariable 1 "x" .float)).perform
      (.declareVariable 0 "x" .string)
    Reaches .initial tree ∧ Reaches tree later ∧ 1 < tree.count ∧
      later.lookupVariableBefore 1 "x" tree.declarations = tree.lookupVariable 1 "x" ∧
      tree.lookupVariable 1 "x" = some ⟨.int, 0⟩ ∧
      later.lookupVariable 1 "x" = some ⟨.float, 1⟩ := by
  intro tree later
  have reached : Reaches .initial tree :=
    .tail (.single ⟨.declareVariable 0 "x" .int, by decide, rfl⟩)
      ⟨.addChild 0 .block, by decide, rfl⟩
  have grown : Reaches tree later :=
    .tail (.single ⟨.declareVariable 1 "x" .float, by decide, rfl⟩)
      ⟨.declareVariable 0 "x" .string, by decide, rfl⟩
  have inRange : 1 < tree.count := by decide
  exact ⟨reached, grown, inRange, lookupVariableBefore_of_reaches reached grown inRange "x",
    by decide +kernel, by decide +kernel⟩

end ScopeTree

end TypedImp
