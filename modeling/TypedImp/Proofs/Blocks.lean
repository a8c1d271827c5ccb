/-
**The blocks of a program and their census.**

Of a program the tree of scopes shows the blocks and the declared names alone. A block is the body
of a function behind its parameters, of an `if`, an `else if`, an `else` or a `while`, or a whole
`for` with its initializer. What stands directly in a block is a list of items, read off the
statements; the census of the program numbers the blocks in the order in which they open.

* `Item`, `Stmt.items`, `Program.items` — what stands directly in a block, in source order.
* `drawItems`, `Program.census` — a block opens a scope inside the one of the block around it, a
  name is declared in the scope of its block.
* `Program.blocks` — the blocks in the order in which they open, the whole program being the first
  one.
* `Program.entryOf_census` — **the scope with the number of a block has the kind of the block, the
  names that are declared directly in it and, as its children, the blocks directly inside it.**
* `Program.variables`, `Program.variableList_census` — **the census has the variables of the program
  in source order**, each one in the scope with the number of its block.
-/

import TypedImp.Proofs.Census

namespace TypedImp

/-! ### Items -/

/-- What stands in a block: a declared name, or a further block. -/
inductive Item
  | declaration (name : String) (declared : Declaration)
  | block (kind : ScopeKind) (inside : List Item)

/-- The parameters of a function, which are variables of its body. -/
def parameterItems (parameters : List Parameter) : List Item :=
  parameters.map fun parameter => .declaration parameter.name (.variable parameter.type)

mutual

/-- What a statement puts into the block in which it stands. -/
def Stmt.items : Stmt → List Item
  | .variableDecl type name _ => [.declaration name (.variable type)]
  | .functionDecl returnType name parameters body =>
    [.declaration name (.function ⟨parameters, returnType⟩),
      .block (.function name) (parameterItems parameters ++ bodyItems body)]
  | .ifChain _ body alternatives => .block .block (bodyItems body) :: alternatives.items
  | .whileLoop _ body => [.block .block (bodyItems body)]
  | .forLoop initializer _ _ body => [.block .block (initializer.items ++ bodyItems body)]
  | .expression _ | .returnValue _ | .breakLoop | .continueLoop => []

/-- What the branches behind the body of an `if` put into the block in which it stands. -/
def Alternatives.items : Alternatives → List Item
  | .none => []
  | .otherwise body => [.block .block (bodyItems body)]
  | .elseIf _ body alternatives => .block .block (bodyItems body) :: alternatives.items

/-- What stands directly in the block of statements. -/
def bodyItems : List Stmt → List Item
  | [] => []
  | stmt :: later => stmt.items ++ bodyItems later

end

/-- What stands outside all blocks of a program. -/
def Program.items (program : Program) : List Item :=
  bodyItems program.body

/-! ### The census -/

mutual

/-- The census behind an item that stands in the block of `scope`. A block gets the next number. -/
def Item.draw (scope : ScopeId) (before : Census) : Item → Census
  | .declaration name declared => before.declare ⟨scope, name, declared⟩
  | .block kind inside => drawItems before.scopes.length (before.openScope kind scope) inside

/-- The census behind items that stand in the block of `scope`. -/
def drawItems (scope : ScopeId) (before : Census) : List Item → Census
  | [] => before
  | item :: later => drawItems scope (item.draw scope before) later

end

/-- The census of a program. -/
def Program.census (program : Program) : Census :=
  drawItems ScopeTree.globalId .initial program.items

theorem drawItems_append (scope : ScopeId) (before : Census) (items later : List Item) :
    drawItems scope before (items ++ later) =
      drawItems scope (drawItems scope before items) later := by
  induction items generalizing before with
  | nil => rw [drawItems, List.nil_append]
  | cons item items ih => rw [List.cons_append, drawItems, drawItems, ih]

/-! ### The blocks in the order in which they open -/

/-- A block: its kind and what stands directly in it. -/
structure BlockContent where
  kind : ScopeKind
  inside : List Item

mutual

/-- The blocks of an item in the order in which they open. -/
def Item.blocks : Item → List BlockContent
  | .declaration _ _ => []
  | .block kind inside => ⟨kind, inside⟩ :: itemBlocks inside

/-- The blocks of items in the order in which they open. -/
def itemBlocks : List Item → List BlockContent
  | [] => []
  | item :: later => item.blocks ++ itemBlocks later

end

/-- The blocks of a program in the order in which they open. -/
def Program.blocks (program : Program) : List BlockContent :=
  ⟨.global, program.items⟩ :: itemBlocks program.items

/-- The numbers of the blocks directly among items, if the next block gets the number `next`. -/
def innerNumbers (next : ScopeId) : List Item → List ScopeId
  | [] => []
  | .declaration _ _ :: later => innerNumbers next later
  | .block _ inside :: later =>
    next :: innerNumbers (next + (1 + (itemBlocks inside).length)) later

/-- A name that is declared directly. -/
def Item.name? : Item → Option (String × Declaration)
  | .declaration name declared => some (name, declared)
  | .block _ _ => none

theorem Census.length_openScope (census : Census) (kind : ScopeKind) (parent : ScopeId) :
    (census.openScope kind parent).scopes.length = census.scopes.length + 1 :=
  List.length_append

/-- A scope that is opened is there, and those before it still are. -/
theorem Census.lt_openScope {census : Census} {id : ScopeId} (within : id ≤ census.scopes.length)
    (kind : ScopeKind) (parent : ScopeId) : id < (census.openScope kind parent).scopes.length := by
  rw [length_openScope]
  exact Nat.lt_succ_of_le within

mutual

theorem Item.length_draw (scope : ScopeId) (before : Census) : (item : Item) →
    (item.draw scope before).scopes.length = before.scopes.length + item.blocks.length
  | .declaration _ _ => rfl
  | .block kind inside => by
    rw [Item.draw, Item.blocks, length_drawItems, Census.length_openScope, List.length_cons]
    omega

/-- Every block opens one scope. -/
theorem length_drawItems (scope : ScopeId) (before : Census) : (items : List Item) →
    (drawItems scope before items).scopes.length = before.scopes.length + (itemBlocks items).length
  | [] => rfl
  | item :: later => by
    rw [drawItems, itemBlocks, length_drawItems, item.length_draw, List.length_append,
      Nat.add_assoc]

end

theorem Item.lt_draw {scope id : ScopeId} {before : Census} (inRange : id < before.scopes.length)
    (item : Item) : id < (item.draw scope before).scopes.length := by
  rw [item.length_draw]
  exact Nat.lt_add_right _ inRange

mutual

theorem Item.formed_draw {scope : ScopeId} {before : Census} (formed : before.Formed)
    (inRange : scope < before.scopes.length) : (item : Item) → (item.draw scope before).Formed
  | .declaration _ _ => formed.declare inRange
  | .block kind inside => by
    have deeper := Census.lt_openScope (Nat.le_refl before.scopes.length) kind scope
    rw [Item.draw]
    exact formed_drawItems (formed.openScope kind inRange) deeper inside

/-- The census behind items is well formed. -/
theorem formed_drawItems {scope : ScopeId} {before : Census} (formed : before.Formed)
    (inRange : scope < before.scopes.length) :
    (items : List Item) → (drawItems scope before items).Formed
  | [] => formed
  | item :: later => by
    rw [drawItems]
    exact formed_drawItems (item.formed_draw formed inRange) (item.lt_draw inRange) later

end

/-! ### What the census tells of a scope -/

namespace Census

/-- The names declared in a scope. -/
def declaredIn (census : Census) (id : ScopeId) : List (String × Declaration) :=
  census.declared.filterMap fun entry =>
    if entry.scope = id then some (entry.name, entry.declaration) else none

/-- What a census tells of a scope. -/
structure Entry where
  outline? : Option (ScopeKind × Option ScopeId)
  declared : List (String × Declaration)
  children : List ScopeId

/-- The entry of a scope. -/
def entry (census : Census) (id : ScopeId) : Entry :=
  ⟨census.scopes[id]?, census.declaredIn id, census.children id⟩

/-- The entry of a scope with further names and children. -/
def Entry.add (entry : Entry) (declared : List (String × Declaration)) (children : List ScopeId) :
    Entry :=
  ⟨entry.outline?, entry.declared ++ declared, entry.children ++ children⟩

theorem Entry.add_add (entry : Entry) (declared later : List (String × Declaration))
    (children further : List ScopeId) :
    (entry.add declared children).add later further =
      entry.add (declared ++ later) (children ++ further) := by
  unfold Entry.add
  rw [List.append_assoc, List.append_assoc]

theorem Entry.add_nil (entry : Entry) : entry.add [] [] = entry := by
  unfold Entry.add
  rw [List.append_nil, List.append_nil]

theorem entry_declare (census : Census) (declared : Declared) (id : ScopeId) :
    (census.declare declared).entry id =
      if declared.scope = id then
        (census.entry id).add [(declared.name, declared.declaration)] []
      else census.entry id := by
  by_cases own : declared.scope = id
  · simp [entry, Entry.add, declaredIn, declare, children, own]
  · simp [entry, declaredIn, declare, children, own]

theorem entry_openScope (census : Census) (kind : ScopeKind) (parent : ScopeId) {id : ScopeId}
    (inRange : id < census.scopes.length) :
    (census.openScope kind parent).entry id =
      if parent = id then (census.entry id).add [] [census.scopes.length]
      else census.entry id := by
  have listed : (census.openScope kind parent).scopes[id]? = census.scopes[id]? :=
    List.getElem?_append_left inRange
  unfold entry
  rw [listed, children_openScope]
  split
  · unfold Entry.add
    rw [List.append_nil]
    rfl
  · rfl

/-- Nothing stands yet in a scope that is just opened. -/
theorem Formed.entry_opened {census : Census} (formed : census.Formed) (kind : ScopeKind)
    {parent : ScopeId} (inRange : parent < census.scopes.length) :
    (census.openScope kind parent).entry census.scopes.length =
      ⟨some (kind, some parent), [], []⟩ := by
  have listed : (census.openScope kind parent).scopes[census.scopes.length]? =
      some (kind, some parent) := List.getElem?_concat_length
  have nothing : (census.openScope kind parent).declaredIn census.scopes.length = [] := by
    rw [declaredIn, List.filterMap_eq_nil_iff]
    intro entry declared
    exact if_neg (Nat.ne_of_lt (formed.scope_lt entry declared))
  unfold entry
  rw [listed, nothing, children_openScope, if_neg (Nat.ne_of_lt inRange), formed.no_children]

end Census

mutual

theorem Item.entry_elsewhere {scope id : ScopeId} {before : Census}
    (inRange : id < before.scopes.length) (other : scope ≠ id) :
    (item : Item) → (item.draw scope before).entry id = before.entry id
  | .declaration _ _ => by
    rw [Item.draw, Census.entry_declare, if_neg other]
  | .block kind inside => by
    have deeper := Census.lt_openScope (Nat.le_of_lt inRange) kind scope
    rw [Item.draw, entry_elsewhere deeper (Nat.ne_of_gt inRange) inside,
      Census.entry_openScope before kind scope inRange, if_neg other]

/-- **Items leave the other scopes alone.** -/
theorem entry_elsewhere {scope id : ScopeId} {before : Census}
    (inRange : id < before.scopes.length) (other : scope ≠ id) :
    (items : List Item) → (drawItems scope before items).entry id = before.entry id
  | [] => rfl
  | item :: later => by
    rw [drawItems, entry_elsewhere (item.lt_draw inRange) other later,
      item.entry_elsewhere inRange other]

end

/-- **Items add their names and their blocks to the scope of their block.** -/
theorem entry_own {scope : ScopeId} {before : Census} (inRange : scope < before.scopes.length)
    (items : List Item) :
    (drawItems scope before items).entry scope =
      (before.entry scope).add (items.filterMap Item.name?)
        (innerNumbers before.scopes.length items) := by
  induction items generalizing before with
  | nil => exact (Census.Entry.add_nil _).symm
  | cons item later ih =>
    rw [drawItems, ih (item.lt_draw inRange), item.length_draw]
    cases item with
    | declaration name declared =>
      rw [Item.draw, Census.entry_declare, if_pos rfl, Census.Entry.add_add]
      rfl
    | block kind inside =>
      have deeper := Census.lt_openScope (Nat.le_of_lt inRange) kind scope
      rw [Item.draw, entry_elsewhere deeper (Nat.ne_of_gt inRange),
        Census.entry_openScope before kind scope inRange, if_pos rfl, Census.Entry.add_add,
        Item.blocks, List.length_cons, Nat.add_comm (itemBlocks inside).length]
      rfl

/-- The names that are declared directly in a block. -/
def BlockContent.names (block : BlockContent) : List (String × Declaration) :=
  block.inside.filterMap Item.name?

/-- The entry of a scope that shows a block. The first block inside it has the next number. -/
def Census.EntryOf (census : Census) (id : ScopeId) (block : BlockContent) : Prop :=
  ∃ parent, census.entry id =
    ⟨some (block.kind, parent), block.names, innerNumbers (id + 1) block.inside⟩

mutual

theorem Item.entryOf_draw {scope : ScopeId} {before : Census} {place : Nat} {block : BlockContent}
    (formed : before.Formed) (inRange : scope < before.scopes.length) :
    (item : Item) → item.blocks[place]? = some block →
      (item.draw scope before).EntryOf (before.scopes.length + place) block
  | .declaration _ _, found => by
    rw [Item.blocks] at found
    cases found
  | .block kind inside, found => by
    have deeper := Census.lt_openScope (Nat.le_refl before.scopes.length) kind scope
    rw [Item.blocks] at found
    rw [Item.draw]
    cases place with
    | zero =>
      cases found
      refine ⟨some scope, ?_⟩
      rw [Nat.add_zero, entry_own deeper, formed.entry_opened kind inRange, Census.length_openScope]
      rfl
    | succ place =>
      have shown := entryOf_drawItems (formed.openScope kind inRange) deeper inside found
      rw [Census.length_openScope] at shown
      rwa [Nat.add_succ, ← Nat.succ_add]

/-- **The scope with the number of a block shows the block.** -/
theorem entryOf_drawItems {scope : ScopeId} {before : Census} {place : Nat} {block : BlockContent}
    (formed : before.Formed) (inRange : scope < before.scopes.length) :
    (items : List Item) → (itemBlocks items)[place]? = some block →
      (drawItems scope before items).EntryOf (before.scopes.length + place) block
  | [], found => by cases found
  | item :: later, found => by
    rw [itemBlocks] at found
    rw [drawItems]
    rcases Nat.lt_or_ge place item.blocks.length with here | further
    · rw [List.getElem?_append_left here] at found
      obtain ⟨parent, shown⟩ := item.entryOf_draw formed inRange found
      have opened : before.scopes.length + place < (item.draw scope before).scopes.length := by
        rw [item.length_draw]
        exact Nat.add_lt_add_left here _
      have other : scope ≠ before.scopes.length + place :=
        Nat.ne_of_lt (Nat.lt_add_right _ inRange)
      exact ⟨parent, (entry_elsewhere opened other later).trans shown⟩
    · rw [List.getElem?_append_right further] at found
      have shown := entryOf_drawItems (item.formed_draw formed inRange) (item.lt_draw inRange)
        later found
      have number : (item.draw scope before).scopes.length + (place - item.blocks.length) =
          before.scopes.length + place := by
        rw [item.length_draw]
        omega
      rwa [number] at shown

end

/-- **The census of a program shows its blocks**, each one at its number. -/
theorem Program.entryOf_census {program : Program} {id : ScopeId} {block : BlockContent}
    (found : program.blocks[id]? = some block) : program.census.EntryOf id block := by
  have inRange : ScopeTree.globalId < Census.initial.scopes.length := Nat.zero_lt_one
  cases id with
  | zero =>
    cases found
    exact ⟨none, entry_own inRange program.items⟩
  | succ place =>
    have shown := entryOf_drawItems Census.formed_initial inRange program.items found
    have number : Census.initial.scopes.length + place = place + 1 := Nat.add_comm 1 place
    rwa [number] at shown

/-! ### All variables -/

mutual

/-- The variables of an item that stands in the block with the number `scope`, in source order, each
one with the number of its block. The next block gets the number `next`. -/
def Item.variables (scope next : ScopeId) : Item → List (ScopeId × String × DataType)
  | .declaration name (.variable type) => [(scope, name, type)]
  | .declaration _ (.function _) => []
  | .block _ inside => itemVariables next (next + 1) inside

/-- The variables of items, in source order. -/
def itemVariables (scope next : ScopeId) : List Item → List (ScopeId × String × DataType)
  | [] => []
  | item :: later =>
    item.variables scope next ++ itemVariables scope (next + item.blocks.length) later

end

/-- The variables of a program in source order, each one with the number of its block. -/
def Program.variables (program : Program) : List (ScopeId × String × DataType) :=
  itemVariables ScopeTree.globalId 1 program.items

mutual

theorem Item.variableList_draw (scope : ScopeId) (before : Census) : (item : Item) →
    (item.draw scope before).variableList =
      before.variableList ++ item.variables scope before.scopes.length
  | .declaration name (.variable type) =>
    Census.variableList_declare_variable before scope name type
  | .declaration name (.function signature) => by
    rw [Item.variables, List.append_nil]
    exact Census.variableList_declare_function before scope name signature
  | .block kind inside => by
    rw [Item.draw, Item.variables, variableList_drawItems, Census.length_openScope]
    rfl

/-- **Items add their variables in source order.** -/
theorem variableList_drawItems (scope : ScopeId) (before : Census) : (items : List Item) →
    (drawItems scope before items).variableList =
      before.variableList ++ itemVariables scope before.scopes.length items
  | [] => (List.append_nil _).symm
  | item :: later => by
    rw [drawItems, itemVariables, variableList_drawItems, item.variableList_draw, item.length_draw,
      List.append_assoc]

end

theorem Program.variableList_census (program : Program) :
    program.census.variableList = program.variables :=
  variableList_drawItems ScopeTree.globalId .initial program.items

theorem Program.formed_census (program : Program) : program.census.Formed :=
  formed_drawItems Census.formed_initial Nat.zero_lt_one program.items

/-! ### Variables and functions -/

/-- The variables among names, with their types. -/
def variablesAmong (names : List (String × Declaration)) : List (String × DataType) :=
  names.filterMap fun
    | (name, .variable type) => some (name, type)
    | (_, .function _) => none

/-- The functions among names, with their signatures. -/
def functionsAmong (names : List (String × Declaration)) : List (String × Signature) :=
  names.filterMap fun
    | (name, .function signature) => some (name, signature)
    | (_, .variable _) => none

namespace Census

theorem signatures_eq (census : Census) (id : ScopeId) :
    census.signatures id = functionsAmong (census.declaredIn id) := by
  unfold signatures functionsAmong declaredIn
  rw [List.filterMap_filterMap]
  refine List.filterMap_congr fun entry _ => ?_
  cases entry with
  | mk scope name declared =>
    cases declared <;> by_cases own : scope = id <;> simp [Declared.functionIn?, own]

/-- The variables of a scope without their ordinals. -/
theorem typed_bindings (census : Census) (id : ScopeId) :
    (census.bindings id).map (fun entry => (entry.1, entry.2.type)) =
      variablesAmong (census.declaredIn id) := by
  have unnumbered : (census.bindings id).map (fun entry => (entry.1, entry.2.type)) =
      (census.variableList.filter (·.1 = id)).map (·.2) := by
    conv_rhs => rw [← List.zipIdx_map_fst 0 census.variableList, List.filter_map, List.map_map]
    unfold bindings
    rw [List.map_map]
    rfl
  rw [unnumbered]
  unfold variableList variablesAmong declaredIn
  rw [List.filter_filterMap, List.map_filterMap, List.filterMap_filterMap]
  refine List.filterMap_congr fun entry _ => ?_
  cases entry with
  | mk scope name declared =>
    cases declared <;> by_cases own : scope = id <;> simp [Declared.typed?, own]

end Census

end TypedImp
