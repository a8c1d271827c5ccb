/-
**What a program uses and declares.**

A program is laid out here as the lists of its values, each with what surrounds it, and of its
blocks, each with the names that it declares. These are what an error about a name or a call speaks
of.

* `Use`, `Program.uses` — all values in a program, each with its surroundings.
* `Program.Bears` — **the program violates the rules as an error about names and calls says.**
* `Program.HoldsVariables`, `Program.HoldsFunctions` — names that one block of the program declares.
* `Part` — a part of a block of the program, by what it uses and declares; `bodyPartOf_cons` and
  `bodyPartOf_block` take it apart as the walk over the program does.
-/

import TypedImp.Proofs.Blocks
import TypedImp.Proofs.Decisions
import TypedImp.Proofs.Violations

namespace TypedImp

/-! ### Uses -/

/-- A value in a program, with what surrounds it. -/
structure Use where
  around : Surroundings
  expr : Expr

/-- The values in an expression that stands in the surroundings. -/
def Surroundings.uses (around : Surroundings) (expr : Expr) : List Use :=
  expr.parts.map (Use.mk around)

/-- The values in the initializer of a `for` loop, which declares a variable. -/
def Stmt.startUses (around : Surroundings) : Stmt → List Use
  | .variableDecl _ _ initializer => around.uses initializer
  | _ => []

mutual

/-- The values in a statement that stands in the surroundings. -/
def Stmt.uses (around : Surroundings) : Stmt → List Use
  | .variableDecl _ _ initializer => around.uses initializer
  | .functionDecl returnType _ parameters body =>
    bodyUses ((around.enterFunction returnType).enter (parameters.map Parameter.binding) body) body
  | .expression value => around.uses value
  | .returnValue value => value.elim [] around.uses
  | .ifChain condition body alternatives =>
    around.uses condition ++ (bodyUses (around.enter [] body) body ++ alternatives.uses around)
  | .whileLoop condition body =>
    around.uses condition ++ bodyUses (around.enterLoop.enter [] body) body
  | .forLoop initializer condition increment body =>
    let inside := around.enterLoop.enter [] body
    let behind := inside.declare initializer.bindings
    initializer.startUses inside ++
      (behind.uses condition ++ (behind.uses increment ++ bodyUses behind body))
  | .breakLoop | .continueLoop => []

/-- The values in what follows the body of an `if`. -/
def Alternatives.uses (around : Surroundings) : Alternatives → List Use
  | .none => []
  | .otherwise body => bodyUses (around.enter [] body) body
  | .elseIf condition body alternatives =>
    around.uses condition ++ (bodyUses (around.enter [] body) body ++ alternatives.uses around)

/-- The values in statements in a row, each behind the declarations of those before it. -/
def bodyUses (around : Surroundings) : List Stmt → List Use
  | [] => []
  | stmt :: later => stmt.uses around ++ bodyUses (around.declare stmt.bindings) later

end

/-- All values in a program. -/
def Program.uses (program : Program) : List Use :=
  bodyUses (.top program.body) program.body

/-- **The program violates the rules as the error says.** A name that is declared already is declared
twice in one block, where parameters count among the variables of the body. Every other error about
a name or a call is about a value in the program, and what is visible from where it stands. -/
def Program.Bears (program : Program) : SemanticError → Prop
  | .variableAlreadyDeclared name => ∃ block ∈ program.blocks,
    2 ≤ ((variablesAmong block.names).map Prod.fst).count name
  | .functionAlreadyDeclared function => ∃ block ∈ program.blocks,
    2 ≤ ((functionsAmong block.names).map Prod.fst).count function
  | error => error.Nameless ∨ ∃ use ∈ program.uses, use.expr.Violates use.around.view error

section Laid

variable {program : Program}

theorem Program.bears_of_nameless {error : SemanticError} (nameless : error.Nameless) :
    program.Bears error := by
  cases error with
  | variableAlreadyDeclared | functionAlreadyDeclared | variableNotDeclared | functionNotDeclared
  | argumentMismatch | unexpectedArguments | missingArguments | resolutionCycle =>
    exact nameless.elim
  | _ => exact .inl trivial

/-- What an error reports of the values in an expression, the program bears. -/
theorem Program.bears_of_faulty {around : Surroundings} {expr : Expr} {error : SemanticError}
    (uses : around.uses expr ⊆ program.uses) (faulty : Faulty around.view expr.parts error) :
    program.Bears error := by
  obtain ⟨part, member, violates⟩ := faulty
  have used := uses (List.mem_map_of_mem member)
  cases error with
  | variableAlreadyDeclared | functionAlreadyDeclared => exact violates.elim
  | _ => exact .inr ⟨_, used, violates⟩

/-! ### Names in a block -/

/-- Names of variables that one block of the program declares, in this order. -/
def Program.HoldsVariables (program : Program) (names : List String) : Prop :=
  ∃ block ∈ program.blocks, names.Sublist ((variablesAmong block.names).map Prod.fst)

/-- Names of functions that one block of the program declares, in this order. -/
def Program.HoldsFunctions (program : Program) (names : List String) : Prop :=
  ∃ block ∈ program.blocks, names.Sublist ((functionsAmong block.names).map Prod.fst)

theorem Program.HoldsVariables.sublist {names fewer : List String}
    (holds : program.HoldsVariables names) (among : fewer.Sublist names) :
    program.HoldsVariables fewer := by
  obtain ⟨block, member, inside⟩ := holds
  exact ⟨block, member, among.trans inside⟩

theorem Program.HoldsFunctions.sublist {names fewer : List String}
    (holds : program.HoldsFunctions names) (among : fewer.Sublist names) :
    program.HoldsFunctions fewer := by
  obtain ⟨block, member, inside⟩ := holds
  exact ⟨block, member, among.trans inside⟩

theorem two_le_count {own names : List String} {name : String} (declared : name ∈ own)
    (among : (own ++ [name]).Sublist names) : 2 ≤ names.count name := by
  have once := List.one_le_count_iff.mpr declared
  have bound := among.count_le name
  rw [List.count_append, List.count_singleton_self] at bound
  exact Nat.le_trans (Nat.succ_le_succ once) bound

theorem mem_of_lookup {β : Type} {own : List (String × β)} {name : String} {value : β}
    (found : own.lookup name = some value) : name ∈ own.map Prod.fst := by
  by_contra absent
  rw [lookup_eq_none_iff_undeclared.mpr (undeclared_singleton.mpr absent)] at found
  cases found

variable {around : Surroundings}

/-! ### Parts of a block -/

theorem Alternatives.filterMap_items (alternatives : Alternatives) :
    alternatives.items.filterMap Item.name? = [] := by
  cases alternatives with
  | none | otherwise => rfl
  | elseIf condition body alternatives =>
    rw [Alternatives.items, List.filterMap_cons]
    exact alternatives.filterMap_items

/-- A statement declares its variable and its function in the block in which it stands. -/
theorem Stmt.among_items (stmt : Stmt) :
    variablesAmong (stmt.items.filterMap Item.name?) = stmt.bindings ∧
      functionsAmong (stmt.items.filterMap Item.name?) = stmt.signatures := by
  cases stmt with
  | ifChain condition body alternatives =>
    rw [Stmt.items, List.filterMap_cons]
    dsimp only [Item.name?]
    rw [alternatives.filterMap_items]
    exact ⟨rfl, rfl⟩
  | _ => exact ⟨rfl, rfl⟩

theorem among_append (items later : List Item) :
    variablesAmong ((items ++ later).filterMap Item.name?) =
        variablesAmong (items.filterMap Item.name?) ++
          variablesAmong (later.filterMap Item.name?) ∧
      functionsAmong ((items ++ later).filterMap Item.name?) =
        functionsAmong (items.filterMap Item.name?) ++
          functionsAmong (later.filterMap Item.name?) := by
  unfold variablesAmong functionsAmong
  simp only [List.filterMap_append, and_self]

theorem among_bodyItems (body : List Stmt) :
    variablesAmong ((bodyItems body).filterMap Item.name?) = body.flatMap Stmt.bindings ∧
      functionsAmong ((bodyItems body).filterMap Item.name?) = declaredSignatures body := by
  induction body with
  | nil => exact ⟨rfl, rfl⟩
  | cons stmt later ih =>
    obtain ⟨bindings, functions⟩ := stmt.among_items
    obtain ⟨both, bothFunctions⟩ := among_append stmt.items (bodyItems later)
    rw [bodyItems, both, bothFunctions, bindings, functions, ih.1, ih.2]
    exact ⟨rfl, rfl⟩

theorem among_parameterItems (parameters : List Parameter) :
    variablesAmong ((parameterItems parameters).filterMap Item.name?) =
        parameters.map Parameter.binding ∧
      functionsAmong ((parameterItems parameters).filterMap Item.name?) = [] := by
  induction parameters with
  | nil => exact ⟨rfl, rfl⟩
  | cons parameter parameters ih => exact ⟨congrArg (parameter.binding :: ·) ih.1, ih.2⟩

theorem itemBlocks_append (items later : List Item) :
    itemBlocks (items ++ later) = itemBlocks items ++ itemBlocks later := by
  induction items with
  | nil => rfl
  | cons item items ih => rw [List.cons_append, itemBlocks, itemBlocks, ih, List.append_assoc]

/-- **A part of a block of the program**: its values and the blocks inside it are those of the
program, and what it declares comes in the block behind what is declared already. -/
structure Part (program : Program) (own : List String) (around : Surroundings)
    (bindings : List (String × DataType)) (signatures : List (String × Signature))
    (uses : List Use) (items : List Item) : Prop where
  uses : uses ⊆ program.uses
  blocks : itemBlocks items ⊆ program.blocks
  holdsVariables : program.HoldsVariables
    (around.block.bindings.map Prod.fst ++ bindings.map Prod.fst)
  holdsFunctions : program.HoldsFunctions (own ++ signatures.map Prod.fst)

/-- A statement of the program that stands in the surroundings. -/
abbrev Stmt.PartOf (program : Program) (own : List String) (around : Surroundings) (stmt : Stmt) :
    Prop :=
  Part program own around stmt.bindings stmt.signatures (stmt.uses around) stmt.items

/-- Statements in a row. -/
abbrev BodyPartOf (program : Program) (own : List String) (around : Surroundings)
    (body : List Stmt) : Prop :=
  Part program own around (body.flatMap Stmt.bindings) (declaredSignatures body)
    (bodyUses around body) (bodyItems body)

/-- The first one of statements in a row, and the others. -/
theorem bodyPartOf_cons {own : List String} {stmt : Stmt} {later : List Stmt}
    (part : BodyPartOf program own around (stmt :: later)) :
    stmt.PartOf program own around ∧
      BodyPartOf program (own ++ stmt.signatures.map Prod.fst) (around.declare stmt.bindings)
        later := by
  obtain ⟨uses, blocks, names, functions⟩ := part
  rw [bodyUses, List.append_subset] at uses
  rw [bodyItems, itemBlocks_append, List.append_subset] at blocks
  unfold declaredSignatures at functions
  rw [List.flatMap_cons, List.map_append, ← List.append_assoc] at names functions
  refine ⟨⟨uses.1, blocks.1, names.sublist (List.sublist_append_left _ _),
    functions.sublist (List.sublist_append_left _ _)⟩, uses.2, blocks.2, ?_, functions⟩
  show program.HoldsVariables ((around.block.bindings ++ stmt.bindings).map Prod.fst ++ _)
  rw [List.map_append]
  exact names

/-- A block of the program with the blocks inside it, and the blocks behind it. -/
theorem itemBlocks_block {kind : ScopeKind} (items : List Item) {later : List Item}
    {body : List Stmt}
    (blocks : itemBlocks (.block kind (items ++ bodyItems body) :: later) ⊆ program.blocks) :
    (⟨kind, items ++ bodyItems body⟩ ∈ program.blocks ∧
      itemBlocks (bodyItems body) ⊆ program.blocks) ∧ itemBlocks later ⊆ program.blocks := by
  rw [itemBlocks, Item.blocks, List.append_subset, List.cons_subset, itemBlocks_append,
    List.append_subset] at blocks
  exact ⟨⟨blocks.1.1, blocks.1.2.2⟩, blocks.2⟩

/-- The statements of a block of the program, which has some variables in front of them. -/
theorem bodyPartOf_block {kind : ScopeKind} {items : List Item} {body : List Stmt}
    (blocks : ⟨kind, items ++ bodyItems body⟩ ∈ program.blocks ∧
      itemBlocks (bodyItems body) ⊆ program.blocks)
    (among : variablesAmong (items.filterMap Item.name?) = around.block.bindings ∧
      functionsAmong (items.filterMap Item.name?) = [])
    (uses : bodyUses around body ⊆ program.uses) : BodyPartOf program [] around body := by
  obtain ⟨both, bothFunctions⟩ := among_append items (bodyItems body)
  refine ⟨uses, blocks.2, ⟨_, blocks.1, ?_⟩, ⟨_, blocks.1, ?_⟩⟩
  · unfold BlockContent.names
    rw [both, among.1, (among_bodyItems body).1, List.map_append]
  · unfold BlockContent.names
    rw [bothFunctions, among.2, (among_bodyItems body).2]
    exact List.Sublist.refl _

end Laid

end TypedImp
