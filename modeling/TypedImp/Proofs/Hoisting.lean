/-
**Functions are hoisted within their block.**

A function is visible in its whole block, before its declaration as well as behind it. So in any
block of a program the declaration of a function may change places with a neighbour that declares no
variable: the program is accepted as before, under every limit. A neighbour that is itself the
declaration of a function is one of these.

* `BodySwap` — two neighbours change places, somewhere in a block or in a block inside it.
* `Surroundings.Alike` — the same is visible from two places; what fits in one of them fits in the
  other (`stmtFits_congr`).
* `bodyFits_swap` — a block fits before the change exactly when it does behind it, seen from the same
  place; `bodyFits_of_perm` — and seen from inside the changed block.
* `accepts_swap` — **the change does not matter for whether a program is accepted.**
-/

import TypedImp.Proofs.WellTyped

namespace TypedImp

/-! ### Changing places -/

/-- One of two statements declares a function, and the other one does not declare a variable. -/
def Swappable (first second : Stmt) : Prop :=
  first.kind = .functionDeclaration ∧ second.kind ≠ .variableDeclaration ∨
    second.kind = .functionDeclaration ∧ first.kind ≠ .variableDeclaration

mutual

/-- Two neighbours in a block inside the statement change places. -/
inductive StmtSwap : Stmt → Stmt → Prop
  | functionBody {returnType : DataType} {name : String} {parameters : List Parameter}
      {body other : List Stmt} (swap : BodySwap body other) :
      StmtSwap (.functionDecl returnType name parameters body)
        (.functionDecl returnType name parameters other)
  | ifBody {condition : Expr} {body other : List Stmt} {alternatives : Alternatives}
      (swap : BodySwap body other) :
      StmtSwap (.ifChain condition body alternatives) (.ifChain condition other alternatives)
  | alternatives {condition : Expr} {body : List Stmt} {alternatives others : Alternatives}
      (swap : AlternativesSwap alternatives others) :
      StmtSwap (.ifChain condition body alternatives) (.ifChain condition body others)
  | whileBody {condition : Expr} {body other : List Stmt} (swap : BodySwap body other) :
      StmtSwap (.whileLoop condition body) (.whileLoop condition other)
  -- A tree may have any statement where a variable should be declared.
  | initializer {initializer other : Stmt} {condition increment : Expr} {body : List Stmt}
      (swap : StmtSwap initializer other) :
      StmtSwap (.forLoop initializer condition increment body)
        (.forLoop other condition increment body)
  | forBody {initializer : Stmt} {condition increment : Expr} {body other : List Stmt}
      (swap : BodySwap body other) :
      StmtSwap (.forLoop initializer condition increment body)
        (.forLoop initializer condition increment other)

/-- Two neighbours in a block behind the body of an `if` change places. -/
inductive AlternativesSwap : Alternatives → Alternatives → Prop
  | otherwise {body other : List Stmt} (swap : BodySwap body other) :
      AlternativesSwap (.otherwise body) (.otherwise other)
  | elseIfBody {condition : Expr} {body other : List Stmt} {alternatives : Alternatives}
      (swap : BodySwap body other) :
      AlternativesSwap (.elseIf condition body alternatives) (.elseIf condition other alternatives)
  | elseIfAlternatives {condition : Expr} {body : List Stmt} {alternatives others : Alternatives}
      (swap : AlternativesSwap alternatives others) :
      AlternativesSwap (.elseIf condition body alternatives) (.elseIf condition body others)

/-- **Two neighbours change places**, in the block itself or in a block inside it. -/
inductive BodySwap : List Stmt → List Stmt → Prop
  | here {first second : Stmt} {later : List Stmt} (swappable : Swappable first second) :
      BodySwap (first :: second :: later) (second :: first :: later)
  | inside {stmt other : Stmt} {later : List Stmt} (swap : StmtSwap stmt other) :
      BodySwap (stmt :: later) (other :: later)
  | behind {stmt : Stmt} {later others : List Stmt} (swap : BodySwap later others) :
      BodySwap (stmt :: later) (stmt :: others)

end

/-- Neither of two statements that may change places declares a variable. -/
theorem Swappable.bindings_eq_nil {first second : Stmt} (swappable : Swappable first second) :
    first.bindings = [] ∧ second.bindings = [] := by
  have nothing {stmt : Stmt} (other : stmt.kind ≠ .variableDeclaration) : stmt.bindings = [] := by
    cases stmt with
    | variableDecl => exact absurd rfl other
    | _ => rfl
  obtain ⟨function, other⟩ | ⟨function, other⟩ := swappable
  · exact ⟨nothing (function ▸ nofun), nothing other⟩
  · exact ⟨nothing other, nothing (function ▸ nofun)⟩

/-- A statement declares the same when its inside changes. -/
theorem StmtSwap.declares {stmt other : Stmt} (swap : StmtSwap stmt other) :
    other.bindings = stmt.bindings ∧ other.signatures = stmt.signatures := by
  cases swap <;> exact ⟨rfl, rfl⟩

/-- A block keeps its functions, in another order perhaps. -/
theorem BodySwap.declaredSignatures_perm {body other : List Stmt} (swap : BodySwap body other) :
    (declaredSignatures body).Perm (declaredSignatures other) := by
  induction body generalizing other with
  | nil => cases swap
  | cons stmt later ih =>
    cases swap with
    | @here _ second later swappable =>
      show (stmt.signatures ++ (second.signatures ++ declaredSignatures later)).Perm
        (second.signatures ++ (stmt.signatures ++ declaredSignatures later))
      rw [← List.append_assoc, ← List.append_assoc]
      exact List.perm_append_comm.append_right _
    | inside swap =>
      unfold declaredSignatures
      rw [List.flatMap_cons, List.flatMap_cons, swap.declares.2]
    | behind swap => exact (ih swap).append_left _

/-! ### Places from which the same is visible -/

/-- What is listed under a name does not depend on the order when all names are different. -/
theorem lookup_eq_of_perm {β : Type} {entries others : List (String × β)}
    (permuted : entries.Perm others) (distinct : (entries.map Prod.fst).Nodup) (name : String) :
    entries.lookup name = others.lookup name := by
  induction permuted with
  | nil => rfl
  | cons entry _ ih =>
    rw [List.lookup_cons, List.lookup_cons, ih (List.nodup_cons.mp distinct).2]
  | swap first second later =>
    have differ : second.1 ≠ first.1 := fun same =>
      (List.nodup_cons.mp distinct).1 (same ▸ List.mem_cons_self)
    rw [List.lookup_cons, List.lookup_cons, List.lookup_cons, List.lookup_cons]
    cases isFirst : name == first.1 with
    | false => rfl
    | true =>
      have isSecond : (name == second.1) = false :=
        beq_false_of_ne fun same => differ (same.symm.trans (beq_iff_eq.mp isFirst))
      rw [isSecond]
  | trans permuted _ ih further =>
    exact (ih distinct).trans (further ((permuted.map Prod.fst).nodup_iff.mp distinct))

/-- Two blocks in which the same is declared. -/
structure Block.Alike (block other : Block) : Prop where
  bindings : block.bindings = other.bindings
  signatures : ∀ name, block.signatures.lookup name = other.signatures.lookup name

theorem Block.Alike.refl (block : Block) : block.Alike block :=
  ⟨rfl, fun _ => rfl⟩

/-- Surroundings from which the same is visible. -/
structure Surroundings.Alike (around other : Surroundings) : Prop where
  block : around.block.Alike other.block
  outer : List.Forall₂ Block.Alike around.outer other.outer
  returnType : around.returnType = other.returnType
  inLoop : around.inLoop = other.inLoop

namespace Surroundings.Alike

variable {around other : Surroundings}

theorem view_eq (alike : around.Alike other) : around.view = other.view := by
  have blocks : List.Forall₂ Block.Alike around.blocks other.blocks := .cons alike.block alike.outer
  refine View.ext (funext fun name => ?_) (funext fun name => ?_)
  · refine findSome?_eq_of_forall₂ (fun block other same => ?_) blocks
    rw [same.bindings]
  · exact findSome?_eq_of_forall₂ (fun block other same => same.signatures name) blocks

theorem declare (alike : around.Alike other) (bindings : List (String × DataType)) :
    (around.declare bindings).Alike (other.declare bindings) :=
  ⟨⟨congrArg (· ++ bindings) alike.block.bindings, alike.block.signatures⟩, alike.outer,
    alike.returnType, alike.inLoop⟩

theorem enter (alike : around.Alike other) (bindings : List (String × DataType))
    (body : List Stmt) : (around.enter bindings body).Alike (other.enter bindings body) :=
  ⟨.refl _, .cons alike.block alike.outer, alike.returnType, alike.inLoop⟩

theorem enterLoop (alike : around.Alike other) : around.enterLoop.Alike other.enterLoop :=
  ⟨alike.block, alike.outer, alike.returnType, rfl⟩

theorem enterFunction (alike : around.Alike other) (returnType : DataType) :
    (around.enterFunction returnType).Alike (other.enterFunction returnType) :=
  ⟨alike.block, alike.outer, rfl, rfl⟩

end Surroundings.Alike

section Congruence

variable {own : List String} {around other : Surroundings} {limit : Nat}

theorem initializerFits_congr (alike : around.Alike other) (initializer : Stmt) :
    InitializerFits around initializer limit ↔ InitializerFits other initializer limit := by
  unfold InitializerFits
  simp only [stmtFits_variableDecl, alike.view_eq, alike.block.bindings]

theorem incrementFits_congr (alike : around.Alike other) (increment : Expr) :
    IncrementFits around increment limit ↔ IncrementFits other increment limit := by
  unfold IncrementFits
  rw [alike.view_eq]

mutual

/-- **What fits in one place fits where the same is visible.** -/
theorem stmtFits_congr {own : List String} {around other : Surroundings}
    (alike : around.Alike other) : (stmt : Stmt) →
    (StmtFits own around stmt limit ↔ StmtFits own other stmt limit)
  | .variableDecl type name initializer => by
    rw [stmtFits_variableDecl, stmtFits_variableDecl, alike.view_eq, alike.block.bindings]
  | .functionDecl returnType name parameters body => by
    rw [stmtFits_functionDecl, stmtFits_functionDecl,
      bodyFits_congr ((alike.enterFunction returnType).enter _ body) body]
  | .expression value => by
    rw [stmtFits_expression, stmtFits_expression, alike.view_eq]
  | .returnValue (some value) => by
    rw [stmtFits_returnValue, stmtFits_returnValue, alike.view_eq, alike.returnType]
  | .returnValue none => by
    rw [stmtFits_returnNothing, stmtFits_returnNothing, alike.returnType]
  | .ifChain condition body alternatives => by
    rw [stmtFits_ifChain, stmtFits_ifChain, alike.view_eq,
      bodyFits_congr (alike.enter [] body) body, alternativesFit_congr alike alternatives]
  | .whileLoop condition body => by
    rw [stmtFits_whileLoop, stmtFits_whileLoop, alike.view_eq,
      bodyFits_congr (alike.enterLoop.enter [] body) body]
  | .forLoop initializer condition increment body => by
    have inside := alike.enterLoop.enter [] body
    have behind := inside.declare initializer.bindings
    rw [stmtFits_forLoop, stmtFits_forLoop, initializerFits_congr inside, behind.view_eq,
      incrementFits_congr behind, bodyFits_congr behind body]
  | .breakLoop => by
    rw [stmtFits_breakLoop, stmtFits_breakLoop, alike.inLoop]
  | .continueLoop => by
    rw [stmtFits_continueLoop, stmtFits_continueLoop, alike.inLoop]

theorem alternativesFit_congr {around other : Surroundings} (alike : around.Alike other) :
    (alternatives : Alternatives) →
    (AlternativesFit around alternatives limit ↔ AlternativesFit other alternatives limit)
  | .none => ⟨fun fits => ⟨.none, fits.2⟩, fun fits => ⟨.none, fits.2⟩⟩
  | .otherwise body => by
    rw [alternativesFit_otherwise, alternativesFit_otherwise,
      bodyFits_congr (alike.enter [] body) body]
  | .elseIf condition body alternatives => by
    rw [alternativesFit_elseIf, alternativesFit_elseIf, alike.view_eq,
      bodyFits_congr (alike.enter [] body) body, alternativesFit_congr alike alternatives]

theorem bodyFits_congr {own : List String} {around other : Surroundings}
    (alike : around.Alike other) : (body : List Stmt) →
    (BodyFits own around body limit ↔ BodyFits own other body limit)
  | [] => ⟨fun fits => ⟨fits.1, .nil, fits.2.2⟩, fun fits => ⟨fits.1, .nil, fits.2.2⟩⟩
  | stmt :: later => by
    rw [bodyFits_cons, bodyFits_cons, stmtFits_congr alike stmt,
      bodyFits_congr (alike.declare stmt.bindings) later]

end

/-! ### Behind the change -/

/-- Names are free in any order. -/
theorem undeclared_perm {names others : List String} (permuted : names.Perm others) :
    Undeclared own names ↔ Undeclared own others :=
  and_congr permuted.nodup_iff (forall_congr' fun _ => imp_congr_left permuted.mem_iff)

theorem Swappable.symm {first second : Stmt} (swappable : Swappable first second) :
    Swappable second first :=
  Or.symm swappable

/-- Two neighbours that declare no variable stand at the same place in either order. -/
theorem bodyFits_here {first second : Stmt} {later : List Stmt}
    (swappable : Swappable first second)
    (fits : BodyFits own around (first :: second :: later) limit) :
    BodyFits own around (second :: first :: later) limit := by
  obtain ⟨firstNothing, secondNothing⟩ := swappable.bindings_eq_nil
  obtain ⟨free, typed, depth⟩ := fits
  have swap : BodySwap (first :: second :: later) (second :: first :: later) := .here swappable
  have permuted := swap.declaredSignatures_perm
  refine ⟨(undeclared_perm (permuted.map Prod.fst)).mp free, ?_, ?_⟩
  · cases typed with
    | cons firstTyped rest =>
      rw [firstNothing, around.declare_nil] at rest
      cases rest with
      | cons secondTyped rest =>
        refine .cons secondTyped ?_
        rw [secondNothing, around.declare_nil] at rest ⊢
        refine .cons firstTyped ?_
        rwa [firstNothing, around.declare_nil]
  · rw [stmtsDepth, stmtsDepth] at depth ⊢
    rwa [Nat.max_left_comm]

/-- Inside the changed block the same is visible when no two functions share a name. -/
theorem alike_of_perm {body changed : List Stmt}
    (functions : around.block.signatures = declaredSignatures body)
    (permuted : (declaredSignatures body).Perm (declaredSignatures changed))
    (distinct : ((declaredSignatures body).map Prod.fst).Nodup) :
    around.Alike
      { around with block := ⟨around.block.bindings, declaredSignatures changed⟩ } := by
  refine ⟨⟨rfl, fun name => ?_⟩, List.forall₂_same.mpr fun block _ => .refl block, rfl, rfl⟩
  rw [functions]
  exact lookup_eq_of_perm permuted distinct name

/-- Nothing fits in a block with two functions of one name. -/
theorem not_bodyFits {body : List Stmt}
    (shared : ¬ ((declaredSignatures body).map Prod.fst).Nodup) : ¬ BodyFits [] around body limit :=
  fun fits => shared (undeclared_fresh.mp fits.1)

/-- A block fits before the change exactly when it does behind it, each seen from inside itself. -/
theorem bodyFits_of_perm {body changed : List Stmt}
    (functions : around.block.signatures = declaredSignatures body)
    (permuted : (declaredSignatures body).Perm (declaredSignatures changed))
    (same : BodyFits [] around body limit ↔ BodyFits [] around changed limit) :
    BodyFits [] around body limit ↔
      BodyFits [] { around with block := ⟨around.block.bindings, declaredSignatures changed⟩ }
        changed limit := by
  by_cases distinct : ((declaredSignatures body).map Prod.fst).Nodup
  · rw [same, bodyFits_congr (alike_of_perm functions permuted distinct)]
  · refine iff_of_false (not_bodyFits distinct) (not_bodyFits ?_)
    rwa [← (permuted.map Prod.fst).nodup_iff]

mutual

/-- A statement fits before the change exactly when it does behind it. -/
theorem stmtFits_swap {own : List String} {around : Surroundings} : {stmt changed : Stmt} →
    StmtSwap stmt changed → (StmtFits own around stmt limit ↔ StmtFits own around changed limit)
  | _, _, .functionBody swap => by
    rw [stmtFits_functionDecl, stmtFits_functionDecl,
      bodyFits_of_perm rfl swap.declaredSignatures_perm (bodyFits_swap swap)]
    rfl
  | _, _, .ifBody swap => by
    rw [stmtFits_ifChain, stmtFits_ifChain,
      bodyFits_of_perm rfl swap.declaredSignatures_perm (bodyFits_swap swap)]
    rfl
  | _, _, .alternatives swap => by
    rw [stmtFits_ifChain, stmtFits_ifChain, alternativesFit_swap swap]
  | _, _, .whileBody swap => by
    rw [stmtFits_whileLoop, stmtFits_whileLoop,
      bodyFits_of_perm rfl swap.declaredSignatures_perm (bodyFits_swap swap)]
    rfl
  | _, _, .initializer swap => by
    rw [stmtFits_forLoop, stmtFits_forLoop]
    refine iff_of_false ?_ ?_
    · rintro ⟨⟨_, _, _, rfl, _⟩, _⟩
      cases swap
    · rintro ⟨⟨_, _, _, rfl, _⟩, _⟩
      cases swap
  | .forLoop initializer _ _ body, .forLoop _ _ _ changed, .forBody swap => by
    have permuted := swap.declaredSignatures_perm
    rw [stmtFits_forLoop, stmtFits_forLoop]
    by_cases distinct : ((declaredSignatures body).map Prod.fst).Nodup
    · have inside : (around.enterLoop.enter [] body).Alike (around.enterLoop.enter [] changed) :=
        alike_of_perm rfl permuted distinct
      have behind := inside.declare initializer.bindings
      rw [initializerFits_congr inside, behind.view_eq, incrementFits_congr behind,
        bodyFits_congr behind, bodyFits_swap swap]
    · refine iff_of_false (fun fits => not_bodyFits distinct fits.2.2.2) fun fits => ?_
      rw [(permuted.map Prod.fst).nodup_iff] at distinct
      exact not_bodyFits distinct fits.2.2.2

theorem alternativesFit_swap {around : Surroundings} : {alternatives changed : Alternatives} →
    AlternativesSwap alternatives changed →
    (AlternativesFit around alternatives limit ↔ AlternativesFit around changed limit)
  | _, _, .otherwise swap => by
    rw [alternativesFit_otherwise, alternativesFit_otherwise,
      bodyFits_of_perm rfl swap.declaredSignatures_perm (bodyFits_swap swap)]
    rfl
  | _, _, .elseIfBody swap => by
    rw [alternativesFit_elseIf, alternativesFit_elseIf,
      bodyFits_of_perm rfl swap.declaredSignatures_perm (bodyFits_swap swap)]
    rfl
  | _, _, .elseIfAlternatives swap => by
    rw [alternativesFit_elseIf, alternativesFit_elseIf, alternativesFit_swap swap]

/-- **Statements fit before the change exactly when they do behind it.** -/
theorem bodyFits_swap {own : List String} {around : Surroundings} : {body changed : List Stmt} →
    BodySwap body changed → (BodyFits own around body limit ↔ BodyFits own around changed limit)
  | _, _, .here swappable => ⟨bodyFits_here swappable, bodyFits_here swappable.symm⟩
  | _, _, .inside swap => by
    rw [bodyFits_cons, bodyFits_cons, stmtFits_swap swap, swap.declares.1, swap.declares.2]
  | _, _, .behind swap => by
    rw [bodyFits_cons, bodyFits_cons, bodyFits_swap swap]

end

end Congruence

/-- **Where a function is declared in its block does not matter**: the program is accepted before
the change exactly when it is accepted behind it, under every limit. -/
theorem accepts_swap {program changed : Program} (swap : BodySwap program.body changed.body)
    (limit : Nat) :
    (∃ tree, analyze program limit = .ok tree) ↔ ∃ tree, analyze changed limit = .ok tree := by
  have accepts (program : Program) : (∃ tree, analyze program limit = .ok tree) ↔
      BodyFits [] (.top program.body) program.body limit := by
    rw [analyze_eq_ok_iff, bodyFits_iff rfl]
    rfl
  rw [accepts, accepts]
  exact bodyFits_of_perm rfl swap.declaredSignatures_perm (bodyFits_swap swap)

/-- In the body of an `if`, a call of a function that is declared behind it, and of one that is
declared in front of the `if`. -/
theorem accepts_swap_forward :
    let function (name callee : String) : Stmt :=
      .functionDecl .int name [] [.returnValue (some (.call callee []))]
    let program : Program := ⟨[function "g" "g", .ifChain (.literal .boolean "true")
      [.expression (.call "f" []), function "f" "g"] .none]⟩
    let changed : Program := ⟨[function "g" "g", .ifChain (.literal .boolean "true")
      [function "f" "g", .expression (.call "f" [])] .none]⟩
    BodySwap program.body changed.body ∧
      ((∃ tree, analyze program 1 = .ok tree) ↔ ∃ tree, analyze changed 1 = .ok tree) ∧
      (analyze program 1).toBool = true := by
  intro function program changed
  have swap : BodySwap program.body changed.body :=
    .behind (.inside (.ifBody (.here (.inr ⟨rfl, nofun⟩))))
  exact ⟨swap, accepts_swap swap 1, by decide +kernel⟩

end TypedImp
