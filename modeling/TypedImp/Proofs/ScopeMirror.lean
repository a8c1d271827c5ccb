/-
**The finished tree of scopes mirrors the program.**

The walk over the statements opens a scope where a block begins and declares a name where it is
declared, and comes back to the scope from which it set out. So what a statement adds to the tree
can be read off the statement: its items.

* `Draws` — a part of the first pass adds given items to the census whose tree the analyzer shows.
* `draws_checkStmt`, `draws_checkStmts` — **the walk over a statement adds its items.**
* `Mirrors` — a tree is drawn from the census of a program, so that each scope shows its block.
* `mirrors_checkProgram` — **behind the first pass the tree mirrors the program.**
-/

import TypedImp.Proofs.Blocks
import TypedImp.Proofs.FirstPass
import TypedImp.Proofs.ScopeLinks

namespace TypedImp

open Analyzer

/-! ### The walk over statements -/

namespace Analyzer

/-- The tree of the analyzer is the one that the census draws, and the current scope is in it. -/
structure Shows (analyzer : Analyzer) (census : Census) : Prop where
  formed : census.Formed
  inRange : analyzer.current < census.scopes.length
  scopes : analyzer.scopes = census.tree

theorem Shows.opened {analyzer : Analyzer} {census : Census} (shows : analyzer.Shows census)
    (kind : ScopeKind) : (analyzer.opened kind).Shows (census.openScope kind analyzer.current) where
  formed := shows.formed.openScope kind shows.inRange
  inRange := by
    show analyzer.scopes.count < _
    rw [shows.scopes, census.count_tree]
    exact Census.lt_openScope (Nat.le_refl _) kind analyzer.current
  scopes := by
    rw [← Census.tree_openScope shows.formed kind shows.inRange, ← shows.scopes]
    rfl

end Analyzer

/-- **A part of the first pass adds items to the census**, in the scope that is current, and comes
back to that scope, if it succeeds. -/
def Draws {α : Type} (walk : Analysis α) (items : List Item) : Prop :=
  ∀ analyzer after value census, analyzer.Shows census → walk analyzer = .ok value after →
    after.current = analyzer.current ∧ after.Shows (drawItems analyzer.current census items)

section Draws

variable {items later : List Item}

theorem Draws.bind {α β : Type} {first : Analysis α} {next : α → Analysis β}
    (head : Draws first items) (tail : ∀ value, Draws (next value) later) :
    Draws (first >>= next) (items ++ later) := by
  intro analyzer after value census shows ended
  obtain ⟨given, between, started, ended⟩ := bind_eq_ok_iff.mp ended
  obtain ⟨same, showsBetween⟩ := head analyzer between given census shows started
  obtain ⟨sameAfter, showsAfter⟩ := tail given between after value _ showsBetween ended
  rw [same] at sameAfter showsAfter
  rw [drawItems_append]
  exact ⟨sameAfter, showsAfter⟩

/-- A part of the first pass that declares nothing and opens no scope. -/
theorem draws_of_unchanged {α : Type} {walk : Analysis α}
    (unchanged : ∀ analyzer after value, walk analyzer = .ok value after →
      after.current = analyzer.current ∧ after.scopes = analyzer.scopes) :
    Draws walk [] := by
  intro analyzer after value census shows ended
  obtain ⟨current, scopes⟩ := unchanged analyzer after value ended
  exact ⟨current, shows.formed, current ▸ shows.inRange, scopes.trans shows.scopes⟩

theorem draws_get : Draws (get : Analysis Analyzer) [] :=
  draws_of_unchanged fun _ _ _ ended => by cases ended; exact ⟨rfl, rfl⟩

theorem draws_ofExcept {α : Type} (value : Except SemanticError α) :
    Draws (MonadExcept.ofExcept value : Analysis α) [] := by
  refine draws_of_unchanged fun analyzer after found ended => ?_
  obtain ⟨_, rfl⟩ := ofExcept_eq_ok_iff.mp ended
  exact ⟨rfl, rfl⟩

/-- A part that fails has nothing to show. -/
theorem draws_throw {α : Type} (error : SemanticError) :
    Draws (throw error : Analysis α) items := by
  intro analyzer after value census _ ended
  cases ended

/-- **A part inside a new scope adds a block.** -/
theorem Draws.withScope {inside : Analysis Unit} (draws : Draws inside items) (kind : ScopeKind) :
    Draws (withScope kind inside) [.block kind items] := by
  intro analyzer after value census shows ended
  obtain ⟨left, inner, rfl⟩ := withScope_eq_ok_iff.mp ended
  obtain ⟨_, shown⟩ := draws _ left () _ (shows.opened kind) inner
  have number : (analyzer.opened kind).current = census.scopes.length := by
    rw [← census.count_tree, ← shows.scopes]
    rfl
  rw [number] at shown
  rw [drawItems, Item.draw, drawItems]
  have kept : analyzer.current <
      ((Item.block kind items).draw analyzer.current census).scopes.length :=
    Item.lt_draw shows.inRange _
  exact ⟨rfl, shown.formed, kept, shown.scopes⟩

theorem Draws.withFrame {inside : Analysis Unit} (draws : Draws inside items)
    (frame : ContextFrame) : Draws (withFrame frame inside) items := by
  intro analyzer after value census shows ended
  obtain ⟨left, inner, rfl⟩ := withFrame_eq_ok_iff.mp ended
  obtain ⟨current, shown⟩ := draws { analyzer with context := analyzer.context.push frame } left ()
    census ⟨shows.formed, shows.inRange, shows.scopes⟩ inner
  exact ⟨current, shown.formed, shown.inRange, shown.scopes⟩

/-- A declaration in the current scope. -/
theorem draws_changeScopes {change : ScopeTree → ScopeId → Except SemanticError ScopeTree}
    {name : String} {declared : Declaration}
    (adds : ∀ {census : Census} {id next}, change census.tree id = .ok next →
      next = (census.declare ⟨id, name, declared⟩).tree) :
    Draws (changeScopes change) [.declaration name declared] := by
  intro analyzer after value census shows ended
  obtain ⟨next, changed, rfl⟩ := changeScopes_eq_ok_iff.mp ended
  rw [shows.scopes] at changed
  exact ⟨rfl, shows.formed.declare shows.inRange, shows.inRange, adds changed⟩

theorem draws_declareVariable (name : String) (type : DataType) :
    Draws (declareVariable name type) [.declaration name (.variable type)] :=
  draws_changeScopes Census.tree_declareVariable

theorem draws_declareFunction (name : String) (signature : Signature) :
    Draws (declareFunction name signature) [.declaration name (.function signature)] :=
  draws_changeScopes Census.tree_declareFunction

theorem draws_declareParameters (parameters : List Parameter) :
    Draws (declareParameters parameters) (parameterItems parameters) := by
  induction parameters with
  | nil => exact draws_ofExcept (.ok ())
  | cons parameter parameters ih =>
    exact (draws_declareVariable parameter.name parameter.type).bind fun _ => ih

theorem draws_require {occurrence : Occurrence} {requirement : Requirement}
    {test : DataType → Except SemanticError Unit} :
    Draws (require occurrence requirement test) [] := by
  refine draws_of_unchanged fun analyzer after value ended => ?_
  obtain ⟨checked, between, started, ended⟩ := bind_eq_ok_iff.mp ended
  unfold checkOccurrence at started
  split at started
  · cases started
    cases checked with
    | known type =>
      obtain ⟨_, rfl⟩ := ofExcept_eq_ok_iff.mp ended
      exact ⟨rfl, rfl⟩
    | deferred =>
      cases ended
      exact ⟨rfl, rfl⟩
  · cases started

theorem draws_checkVariableDecl {place : Place} {type : DataType} {name : String}
    {initializer : Expr} :
    Draws (checkVariableDecl place type name initializer) [.declaration name (.variable type)] :=
  draws_require.bind fun _ => draws_declareVariable name type

theorem draws_checkReturn {place : Place} {value : Option Expr} :
    Draws (checkReturn place value) [] := by
  refine draws_get.bind fun analyzer => (draws_ofExcept _).bind fun expected => ?_
  cases value with
  | some value => exact draws_require
  | none =>
    dsimp only
    split
    · exact draws_throw _
    · exact draws_ofExcept (.ok ())

theorem draws_checkIncrement {place : Place} {increment : Expr} :
    Draws (checkIncrement place increment) [] := by
  cases increment with
  | unary operator fixity operand =>
    unfold checkIncrement
    dsimp only
    split
    · exact draws_require
    · exact draws_throw _
  | literal | identifier | assign | binary | call => exact draws_throw _

theorem draws_checkInitializer {place : Place} {initializer : Stmt} :
    Draws (checkInitializer place initializer) initializer.items := by
  cases initializer with
  | variableDecl type name value =>
    rw [Stmt.items]
    exact draws_checkVariableDecl
  | functionDecl | expression | returnValue | ifChain | whileLoop | forLoop | breakLoop
  | continueLoop => exact draws_throw _

/-- A statement that is refused unless the context allows it. -/
theorem draws_allowed {test : ContextStack → Bool} {error : SemanticError} :
    Draws (do if !test (← get).context then throw error : Analysis Unit) [] := by
  refine draws_get.bind fun analyzer => ?_
  split
  · exact draws_throw _
  · exact draws_ofExcept (.ok ())

end Draws

mutual

/-- **The walk over a statement adds its items to the census.** -/
theorem draws_checkStmt {place : Place} : (stmt : Stmt) → Draws (checkStmt place stmt) stmt.items
  | .variableDecl type name initializer => by
    rw [checkStmt, Stmt.items]
    exact draws_checkVariableDecl
  | .functionDecl returnType name parameters body => by
    rw [checkStmt, Stmt.items]
    exact (draws_declareFunction _ _).bind fun _ =>
      .withScope ((draws_declareParameters parameters).bind fun _ =>
        (draws_checkStmts body).withFrame _) _
  | .expression value => by
    rw [checkStmt, Stmt.items]
    exact draws_require
  | .returnValue value => by
    rw [checkStmt, Stmt.items]
    exact draws_checkReturn
  | .ifChain condition body alternatives => by
    rw [checkStmt, Stmt.items]
    exact draws_require.bind fun _ =>
      ((draws_checkStmts body).withScope _).bind fun _ => draws_checkAlternatives alternatives
  | .whileLoop condition body => by
    rw [checkStmt, Stmt.items]
    exact draws_require.bind fun _ => ((draws_checkStmts body).withScope _).withFrame _
  | .forLoop initializer condition increment body => by
    rw [checkStmt, Stmt.items]
    exact .withFrame (.withScope (draws_checkInitializer.bind fun _ =>
      draws_require.bind fun _ => draws_checkIncrement.bind fun _ => draws_checkStmts body) _) _
  | .breakLoop => by
    rw [checkStmt, Stmt.items]
    exact draws_allowed
  | .continueLoop => by
    rw [checkStmt, Stmt.items]
    exact draws_allowed

theorem draws_checkAlternatives {place : Place} : (alternatives : Alternatives) →
    Draws (checkAlternatives place alternatives) alternatives.items
  | .none => by
    rw [checkAlternatives, Alternatives.items]
    exact draws_ofExcept (.ok ())
  | .otherwise body => by
    rw [checkAlternatives, Alternatives.items]
    exact (draws_checkStmts body).withScope _
  | .elseIf condition body alternatives => by
    rw [checkAlternatives, Alternatives.items]
    exact draws_require.bind fun _ =>
      ((draws_checkStmts body).withScope _).bind fun _ => draws_checkAlternatives alternatives

/-- The walk over statements adds what stands directly in their block. -/
theorem draws_checkStmts {place : Place} {index : Nat} :
    (body : List Stmt) → Draws (checkStmts place index body) (bodyItems body)
  | [] => by
    rw [checkStmts, bodyItems]
    exact draws_ofExcept (.ok ())
  | stmt :: later => by
    rw [checkStmts, bodyItems]
    exact (draws_checkStmt stmt).bind fun _ => draws_checkStmts later

end

theorem shows_start (limit : Nat) : (Analyzer.start limit).Shows .initial where
  formed := Census.formed_initial
  inRange := Nat.zero_lt_one
  scopes := Census.tree_initial.symm

/-- **The tree mirrors the program.** It is drawn from the census of the program and linked, so that
the parent of a scope is the one that has it as a child. It has one scope for each block; the scope
with the number of a block has the kind of the block, its variables and functions are those declared
directly in the block, and its children the blocks directly inside it. The ordinal of a variable is
its place among the variables of the program. -/
structure ScopeTree.Mirrors (tree : ScopeTree) (program : Program) : Prop where
  drawn : tree = program.census.tree
  linked : tree.Linked
  count_eq : tree.count = program.blocks.length
  shows : ∀ {id block}, program.blocks[id]? = some block → ∃ scope, tree.get? id = some scope ∧
    scope.kind = block.kind ∧
    scope.bindings.map (fun entry => (entry.1, entry.2.type)) = variablesAmong block.names ∧
    scope.signatures = functionsAmong block.names ∧
    scope.children = innerNumbers (id + 1) block.inside
  ordinal_iff : ∀ {id name declared},
    (∃ scope, tree.get? id = some scope ∧ (name, declared) ∈ scope.bindings) ↔
      program.variables[declared.ordinal]? = some (id, name, declared.type)

/-- The variables of the scopes of a drawn tree are those of the census. -/
theorem Census.Formed.exists_mem_bindings_iff {census : Census} (formed : census.Formed)
    {id : ScopeId} {name : String} {declared : Variable} :
    (∃ scope, census.tree.get? id = some scope ∧ (name, declared) ∈ scope.bindings) ↔
      census.variableList[declared.ordinal]? = some (id, name, declared.type) := by
  rw [← Census.mem_bindings_iff]
  constructor
  · rintro ⟨scope, found, member⟩
    obtain ⟨outline, _, rfl⟩ := Census.get?_tree_eq_some_iff.mp found
    exact member
  · intro member
    have inRange := formed.variable_lt (Census.mem_bindings_iff.mp member)
    exact ⟨_, Census.get?_tree_eq_some_iff.mpr ⟨_, List.getElem?_eq_getElem inRange, rfl⟩, member⟩

theorem mirrors_tree (program : Program) : program.census.tree.Mirrors program where
  drawn := rfl
  linked := ScopeTree.linked_tree program.formed_census
  count_eq := by
    rw [Census.count_tree, Program.census, length_drawItems, Program.blocks, List.length_cons,
      Nat.add_comm]
    rfl
  shows {id block} found := by
    obtain ⟨parent, shown⟩ := Program.entryOf_census found
    obtain ⟨listed, declared, children⟩ := Census.Entry.mk.inj shown
    refine ⟨program.census.scope id (block.kind, parent), ?_, rfl, ?_, ?_, children⟩
    · rw [Census.get?_tree, listed, Option.map_some]
    · show (program.census.bindings id).map _ = _
      rw [Census.typed_bindings, declared]
    · show program.census.signatures id = _
      rw [Census.signatures_eq, declared]
  ordinal_iff {id name declared} := by
    rw [program.formed_census.exists_mem_bindings_iff, program.variableList_census]

/-- **When the first pass over a program succeeds, the tree mirrors the program.** -/
theorem mirrors_checkProgram {program : Program} {limit : Nat} {after : Analyzer}
    (ended : checkProgram program (.start limit) = .ok () after) :
    after.scopes.Mirrors program := by
  obtain ⟨_, shown⟩ := draws_checkStmts program.body (.start limit) after () .initial
    (shows_start limit) ended
  have drawn : after.scopes = program.census.tree := shown.scopes
  rw [drawn]
  exact mirrors_tree program

/-- A function with two parameters, both branches of an `if` and a `for` inside it, variables of one
name in blocks beside each other, and a loop behind it. -/
theorem mirrors_checkProgram_nested :
    let one : Expr := .literal .int "1"
    let less (name : String) : Expr := .binary "<" (.identifier name) one
    let program : Program := ⟨[
      .variableDecl .int "x" one,
      .functionDecl .int "f" [⟨"a", .int⟩, ⟨"b", .float⟩] [
        .ifChain (less "a") [.variableDecl .int "x" (.identifier "a")]
          (.otherwise [.variableDecl .float "x" (.identifier "b")]),
        .forLoop (.variableDecl .int "i" one) (less "i") (.unary "++" .behind (.identifier "i"))
          [.variableDecl .int "x" (.identifier "i")],
        .returnValue (some (.identifier "a"))],
      .whileLoop (less "x") [.breakLoop],
      .variableDecl .int "y" one]⟩
    ∃ after, checkProgram program (.start 1) = .ok () after ∧ after.scopes.Mirrors program ∧
      after.scopes.scopes.toList.map (fun scope => (scope.kind, scope.parent, scope.children)) =
        [(.global, none, [1, 5]), (.function "f", some 0, [2, 3, 4]), (.block, some 1, []),
          (.block, some 1, []), (.block, some 1, []), (.block, some 0, [])] ∧
      after.scopes.scopes.toList.map (fun scope =>
          scope.bindings.map fun entry => (entry.1, entry.2.ordinal)) =
        [[("x", 0), ("y", 7)], [("a", 1), ("b", 2)], [("x", 3)], [("x", 4)], [("i", 5), ("x", 6)],
          []] ∧
      after.scopes.scopes.toList.map (fun scope => scope.signatures.map (·.1)) =
        [["f"], [], [], [], [], []] := by
  intro one less program
  have accepted : (outcome (checkProgram program) (.start 1)).toBool = true := by decide +kernel
  obtain ⟨_, after, ended⟩ := exists_eq_ok_of_outcome accepted
  have mirrors := mirrors_checkProgram ended
  refine ⟨after, ended, mirrors, ?_⟩
  rw [mirrors.drawn]
  decide +kernel

end TypedImp
