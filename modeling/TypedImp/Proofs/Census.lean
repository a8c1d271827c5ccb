/-
**Trees of scopes drawn from a census.**

All that there is to a tree of scopes is in which order its scopes were opened, each one inside
which other, and in which order names were declared, each one in which scope. A census keeps just
these two lists. Everything else follows from places in them: the number of a scope is its place in
the first list, its children are the places that name it, and the ordinal of a variable is its place
among the variables.

* `Census.tree` — the tree that a census draws.
* `tree_openScope`, `tree_declareVariable`, `tree_declareFunction` — **an operation on the tree adds
  one entry to the census**, and nothing has to be changed in it.
* `exists_census_of_reaches` — so every tree that is reached is drawn from a census, one in which no
  scope is named before it is opened (`Formed`).
-/

import TypedImp.Proofs.ScopeGrowth

namespace TypedImp

/-- What a name is declared to be. -/
inductive Declaration
  | variable (type : DataType)
  | function (signature : Signature)
  deriving DecidableEq, Repr

/-- A declared name and the scope in which it is declared. -/
structure Declared where
  scope : ScopeId
  name : String
  declaration : Declaration
  deriving DecidableEq, Repr

/-- The scopes in the order in which they are opened, each one with its kind and the number of the
scope around it, and the declarations in the order in which they are made. -/
structure Census where
  scopes : List (ScopeKind × Option ScopeId)
  declared : List Declared
  deriving DecidableEq, Repr

/-- A declared variable: its scope, its name and its type. -/
def Declared.typed? (entry : Declared) : Option (ScopeId × String × DataType) :=
  match entry.declaration with
  | .variable type => some (entry.scope, entry.name, type)
  | .function _ => none

/-- The function that is declared, if it is in the given scope. -/
def Declared.functionIn? (id : ScopeId) (entry : Declared) : Option (String × Signature) :=
  match entry.declaration with
  | .variable _ => none
  | .function signature => if entry.scope = id then some (entry.name, signature) else none

namespace Census

/-! ### The drawing -/

/-- The variables of all scopes, in the order in which they are declared. -/
def variableList (census : Census) : List (ScopeId × String × DataType) :=
  census.declared.filterMap Declared.typed?

/-- The scopes directly inside a scope. -/
def children (census : Census) (id : ScopeId) : List ScopeId :=
  (census.scopes.zipIdx.filter (·.1.2 = some id)).map (·.2)

/-- The variables of a scope, each one with its place among those of all scopes. -/
def bindings (census : Census) (id : ScopeId) : List (String × Variable) :=
  (census.variableList.zipIdx.filter (·.1.1 = id)).map fun entry =>
    (entry.1.2.1, ⟨entry.1.2.2, entry.2⟩)

/-- The functions of a scope. -/
def signatures (census : Census) (id : ScopeId) : List (String × Signature) :=
  census.declared.filterMap (Declared.functionIn? id)

/-- The scope of a number, given its kind and the scope around it. -/
def scope (census : Census) (id : ScopeId) (outline : ScopeKind × Option ScopeId) : Scope where
  id := id
  kind := outline.1
  parent := outline.2
  children := census.children id
  bindings := census.bindings id
  signatures := census.signatures id

/-- The tree that the census draws. -/
def tree (census : Census) : ScopeTree where
  scopes := (census.scopes.mapIdx census.scope).toArray
  declarations := census.variableList.length

theorem get?_tree (census : Census) (id : ScopeId) :
    census.tree.get? id = census.scopes[id]?.map (census.scope id) := by
  simp [tree, ScopeTree.get?]

theorem get?_tree_eq_some_iff {census : Census} {id : ScopeId} {found : Scope} :
    census.tree.get? id = some found ↔
      ∃ outline, census.scopes[id]? = some outline ∧ census.scope id outline = found := by
  rw [get?_tree, Option.map_eq_some_iff]

theorem count_tree (census : Census) : census.tree.count = census.scopes.length := by
  simp [tree, ScopeTree.count]

theorem mem_children_iff {census : Census} {id child : ScopeId} :
    child ∈ census.children id ↔ ∃ kind, census.scopes[child]? = some (kind, some id) := by
  simp only [children, List.mem_map, List.mem_filter, decide_eq_true_eq, Prod.exists,
    List.mem_zipIdx_iff_getElem?]
  constructor
  · rintro ⟨kind, parent, place, ⟨found, rfl⟩, rfl⟩
    exact ⟨kind, found⟩
  · rintro ⟨kind, found⟩
    exact ⟨kind, some id, child, ⟨found, rfl⟩, rfl⟩

theorem mem_bindings_iff {census : Census} {id : ScopeId} {name : String} {declared : Variable} :
    (name, declared) ∈ census.bindings id ↔
      census.variableList[declared.ordinal]? = some (id, name, declared.type) := by
  simp only [bindings, List.mem_map, List.mem_filter, decide_eq_true_eq, Prod.exists,
    List.mem_zipIdx_iff_getElem?]
  constructor
  · rintro ⟨scope, name, type, place, ⟨found, rfl⟩, same⟩
    cases same
    exact found
  · intro found
    exact ⟨id, name, declared.type, declared.ordinal, ⟨found, rfl⟩, rfl⟩

/-- Places in a list come in increasing order, also if only some of them are taken. -/
theorem pairwise_places {α : Type} (entries : List α) (taken : α × Nat → Bool) :
    ((entries.zipIdx.filter taken).map (·.2)).Pairwise (· < ·) := by
  have places : (entries.zipIdx.map (·.2)).Pairwise (· < ·) := by
    rw [List.zipIdx_map_snd]
    exact List.pairwise_lt_range'
  exact places.sublist (List.filter_sublist.map _)

theorem pairwise_children (census : Census) (id : ScopeId) :
    (census.children id).Pairwise (· < ·) :=
  pairwise_places _ _

theorem pairwise_ordinals (census : Census) (id : ScopeId) :
    ((census.bindings id).map (·.2.ordinal)).Pairwise (· < ·) := by
  rw [bindings, List.map_map]
  exact pairwise_places _ _

/-! ### Well-formed censuses -/

/-- **No scope is named before it is opened.** The first scope alone stands in no other one. -/
structure Formed (census : Census) : Prop where
  global : census.scopes[ScopeTree.globalId]? = some (.global, none)
  inside : ∀ {id outline}, census.scopes[id]? = some outline → id ≠ ScopeTree.globalId →
    ∃ parent < id, outline.2 = some parent
  scope_lt : ∀ entry ∈ census.declared, entry.scope < census.scopes.length

/-- The global scope alone, without declarations. -/
def initial : Census :=
  ⟨[(.global, none)], []⟩

/-- The census behind the opening of a scope inside `parent`. -/
def openScope (census : Census) (kind : ScopeKind) (parent : ScopeId) : Census :=
  { census with scopes := census.scopes ++ [(kind, some parent)] }

/-- The census behind a declaration. -/
def declare (census : Census) (entry : Declared) : Census :=
  { census with declared := census.declared ++ [entry] }

theorem formed_initial : Formed initial := by
  refine ⟨rfl, fun {id outline} found other => ?_, nofun⟩
  cases id with
  | zero => exact absurd rfl other
  | succ id => cases found

theorem Formed.openScope {census : Census} (formed : census.Formed) (kind : ScopeKind)
    {parent : ScopeId} (inRange : parent < census.scopes.length) :
    (census.openScope kind parent).Formed := by
  refine ⟨?_, fun {id outline} found other => ?_, fun entry member => ?_⟩
  · show (census.scopes ++ [(kind, some parent)])[ScopeTree.globalId]? = _
    have filled : ScopeTree.globalId < census.scopes.length := Nat.zero_lt_of_lt inRange
    rw [List.getElem?_append_left filled, formed.global]
  · change (census.scopes ++ [(kind, some parent)])[id]? = some outline at found
    rcases Nat.lt_trichotomy id census.scopes.length with before | rfl | behind
    · rw [List.getElem?_append_left before] at found
      exact formed.inside found other
    · rw [List.getElem?_concat_length] at found
      cases found
      exact ⟨parent, inRange, rfl⟩
    · have outside : (census.scopes ++ [(kind, some parent)]).length ≤ id := by
        simpa using Nat.succ_le_of_lt behind
      rw [List.getElem?_eq_none outside] at found
      cases found
  · show entry.scope < (census.scopes ++ [(kind, some parent)]).length
    rw [List.length_append]
    exact Nat.lt_add_right _ (formed.scope_lt entry member)

theorem Formed.declare {census : Census} (formed : census.Formed) {entry : Declared}
    (inRange : entry.scope < census.scopes.length) : (census.declare entry).Formed := by
  refine ⟨formed.global, formed.inside, fun other member => ?_⟩
  rcases List.mem_append.mp member with before | added
  · exact formed.scope_lt other before
  · rw [List.mem_singleton.mp added]
    exact inRange

/-- Every variable is declared in an open scope. -/
theorem Formed.variable_lt {census : Census} (formed : census.Formed) {ordinal : Nat}
    {id : ScopeId} {name : String} {type : DataType}
    (found : census.variableList[ordinal]? = some (id, name, type)) :
    id < census.scopes.length := by
  obtain ⟨entry, member, isVariable⟩ := List.mem_filterMap.mp (List.mem_of_getElem? found)
  have scope_lt := formed.scope_lt entry member
  unfold Declared.typed? at isVariable
  split at isVariable
  · rwa [(Prod.mk.inj (Option.some.inj isVariable)).1] at scope_lt
  · cases isVariable

/-- Nothing is declared in a scope that is not open. -/
theorem Formed.nothing_declared {census : Census} (formed : census.Formed) :
    census.bindings census.scopes.length = [] ∧ census.signatures census.scopes.length = [] := by
  constructor
  · rw [List.eq_nil_iff_forall_not_mem]
    rintro ⟨name, found⟩ member
    exact Nat.lt_irrefl _ (formed.variable_lt (mem_bindings_iff.mp member))
  · rw [signatures, List.filterMap_eq_nil_iff]
    intro entry declared
    unfold Declared.functionIn?
    split
    · rfl
    · exact if_neg (Nat.ne_of_lt (formed.scope_lt entry declared))

/-- Nothing stands in a scope that is not open. -/
theorem Formed.no_children {census : Census} (formed : census.Formed) :
    census.children census.scopes.length = [] := by
  rw [List.eq_nil_iff_forall_not_mem]
  intro child member
  obtain ⟨kind, found⟩ := mem_children_iff.mp member
  have opened : child < census.scopes.length := (List.getElem?_eq_some_iff.mp found).1
  by_cases isGlobal : child = ScopeTree.globalId
  · rw [isGlobal, formed.global] at found
    cases found
  · obtain ⟨parent, below, is⟩ := formed.inside found isGlobal
    cases is
    exact absurd opened (Nat.lt_asymm below)

/-! ### Operations on the drawing -/

theorem children_openScope (census : Census) (kind : ScopeKind) (parent id : ScopeId) :
    (census.openScope kind parent).children id =
      if parent = id then census.children id ++ [census.scopes.length] else census.children id := by
  by_cases isParent : parent = id <;>
    simp [children, openScope, List.zipIdx_append, isParent]

theorem scope_openScope (census : Census) (kind : ScopeKind) (parent id : ScopeId)
    (outline : ScopeKind × Option ScopeId) :
    (census.openScope kind parent).scope id outline =
      if parent = id then (census.scope id outline).withChild census.scopes.length
      else census.scope id outline := by
  have children := children_openScope census kind parent id
  unfold scope
  rw [children]
  split <;> rfl

theorem variableList_declare_variable (census : Census) (id : ScopeId) (name : String)
    (type : DataType) :
    (census.declare ⟨id, name, .variable type⟩).variableList =
      census.variableList ++ [(id, name, type)] := by
  simp [variableList, declare, Declared.typed?]

theorem variableList_declare_function (census : Census) (id : ScopeId) (name : String)
    (signature : Signature) :
    (census.declare ⟨id, name, .function signature⟩).variableList = census.variableList := by
  simp [variableList, declare, Declared.typed?]

theorem scope_declare_variable (census : Census) (id other : ScopeId) (name : String)
    (type : DataType) (outline : ScopeKind × Option ScopeId) :
    (census.declare ⟨id, name, .variable type⟩).scope other outline =
      if id = other then
        (census.scope other outline).withVariable name ⟨type, census.variableList.length⟩
      else census.scope other outline := by
  have signatures : (census.declare ⟨id, name, .variable type⟩).signatures other =
      census.signatures other := by
    simp [Census.signatures, declare, Declared.functionIn?]
  unfold scope bindings
  rw [variableList_declare_variable, List.zipIdx_append, signatures]
  by_cases own : id = other
  · simp [own, Scope.withVariable]
    rfl
  · simp [own]
    rfl

theorem scope_declare_function (census : Census) (id other : ScopeId) (name : String)
    (signature : Signature) (outline : ScopeKind × Option ScopeId) :
    (census.declare ⟨id, name, .function signature⟩).scope other outline =
      if id = other then (census.scope other outline).withFunction name signature
      else census.scope other outline := by
  have signatures : (census.declare ⟨id, name, .function signature⟩).signatures other =
      if id = other then census.signatures other ++ [(name, signature)]
      else census.signatures other := by
    by_cases own : id = other <;> simp [Census.signatures, declare, Declared.functionIn?, own]
  unfold scope bindings
  rw [variableList_declare_function, signatures]
  split <;> rfl

/-- A tree is known by its scopes and the number of its variables. -/
theorem tree_ext {tree other : ScopeTree} (scopes : ∀ id, tree.get? id = other.get? id)
    (declarations : tree.declarations = other.declarations) : tree = other := by
  cases tree
  cases other
  congr
  exact Array.ext_getElem? scopes

theorem tree_initial : initial.tree = ScopeTree.initial := by
  decide

/-- **Opening a scope adds it to the census.** -/
theorem tree_openScope {census : Census} (formed : census.Formed) (kind : ScopeKind)
    {parent : ScopeId} (inRange : parent < census.scopes.length) :
    (census.tree.addChild parent kind).2 = (census.openScope kind parent).tree := by
  refine tree_ext (fun id => ?_) rfl
  rw [ScopeTree.get?_addChild, count_tree, get?_tree, get?_tree]
  show _ = (census.scopes ++ [(kind, some parent)])[id]?.map _
  by_cases isNew : id = census.scopes.length
  · obtain ⟨noBindings, noSignatures⟩ := formed.nothing_declared
    have fresh : census.scope census.scopes.length (kind, some parent) =
        .fresh census.scopes.length kind (some parent) := by
      simp [scope, Scope.fresh, formed.no_children, noBindings, noSignatures]
    subst isNew
    rw [if_pos rfl, List.getElem?_concat_length, Option.map_some, scope_openScope,
      if_neg (Nat.ne_of_lt inRange), fresh]
  · have listed : (census.scopes ++ [(kind, some parent)])[id]? = census.scopes[id]? := by
      rcases Nat.lt_or_gt_of_ne isNew with before | behind
      · rw [List.getElem?_append_left before]
      · rw [List.getElem?_eq_none (by simpa using Nat.succ_le_of_lt behind),
          List.getElem?_eq_none (Nat.le_of_lt behind)]
    rw [if_neg isNew, listed]
    cases census.scopes[id]? with
    | none => simp
    | some outline =>
      simp only [Option.map_some, scope_openScope]
      split <;> rfl

/-- **Declaring a variable adds it to the census.** -/
theorem tree_declareVariable {census : Census} {id : ScopeId} {name : String} {type : DataType}
    {next : ScopeTree} (declared : census.tree.declareVariable id name type = .ok next) :
    next = (census.declare ⟨id, name, .variable type⟩).tree := by
  refine tree_ext (fun other => ?_) ?_
  · rw [ScopeTree.get?_declareVariable declared, get?_tree, get?_tree]
    show _ = census.scopes[other]?.map _
    cases census.scopes[other]? with
    | none => simp
    | some outline =>
      simp only [Option.map_some, scope_declare_variable]
      split <;> rfl
  · rw [ScopeTree.declarations_declareVariable declared]
    show census.variableList.length + 1 = (census.declare _).variableList.length
    rw [variableList_declare_variable, List.length_append, List.length_singleton]

/-- **Declaring a function adds it to the census.** -/
theorem tree_declareFunction {census : Census} {id : ScopeId} {name : String}
    {signature : Signature} {next : ScopeTree}
    (declared : census.tree.declareFunction id name signature = .ok next) :
    next = (census.declare ⟨id, name, .function signature⟩).tree := by
  refine tree_ext (fun other => ?_) ?_
  · rw [ScopeTree.get?_declareFunction declared, get?_tree, get?_tree]
    show _ = census.scopes[other]?.map _
    cases census.scopes[other]? with
    | none => simp
    | some outline =>
      simp only [Option.map_some, scope_declare_function]
      split <;> rfl
  · rw [ScopeTree.declarations_declareFunction declared]
    show census.variableList.length = (census.declare _).variableList.length
    rw [variableList_declare_function]

/-- One operation on the drawing draws another well-formed census. -/
theorem exists_census_of_step {census : Census} (formed : census.Formed) {next : ScopeTree}
    (step : census.tree.Step next) : ∃ later : Census, later.Formed ∧ later.tree = next := by
  obtain rfl | ⟨parent, kind, inRange, rfl⟩ | ⟨id, name, type, inRange, declared⟩ |
    ⟨id, name, signature, inRange, declared⟩ := ScopeTree.step_cases step
  · exact ⟨census, formed, rfl⟩
  · rw [count_tree] at inRange
    exact ⟨_, formed.openScope kind inRange, (tree_openScope formed kind inRange).symm⟩
  · rw [count_tree] at inRange
    exact ⟨_, formed.declare inRange, (tree_declareVariable declared).symm⟩
  · rw [count_tree] at inRange
    exact ⟨_, formed.declare inRange, (tree_declareFunction declared).symm⟩

/-- **Every tree that is reached is drawn from a census.** -/
theorem exists_census_of_reaches {tree : ScopeTree} (reached : ScopeTree.Reaches .initial tree) :
    ∃ census : Census, census.Formed ∧ census.tree = tree := by
  induction reached with
  | refl => exact ⟨initial, formed_initial, tree_initial⟩
  | tail _ step further =>
    obtain ⟨census, formed, rfl⟩ := further
    exact exists_census_of_step formed step

end Census

end TypedImp
