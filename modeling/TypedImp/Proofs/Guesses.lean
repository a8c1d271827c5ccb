/-
**What the first pass says of an expression.**

The first pass commits itself to the type of an operator while a side of it still waits for a call,
and puts that side on the queue. The entries then stand for what it has not looked at: the type is
right exactly when they are all met.

* `binaryResult_eq_ok_iff` — the rule for two known sides is the rule for one known side together
  with the agreement of the sides.
* `Guessed` — what a result of the first pass means, from any site that sees the same variables.
* `guessed_checkExpr` — **every result of the first pass means that**, by induction on the
  expression.
-/

import TypedImp.Proofs.Resolution

namespace TypedImp

/-! ### One known side and two -/

/-- **Both sides agree, and one alone gives the result.** -/
theorem binaryResult_eq_ok_iff {operator : String} {left right type : DataType} :
    binaryResult operator left right = .ok type ↔
      left = right ∧ ∃ category, OperatorCategory.of? operator = some category ∧
        resultBeside operator category left = .ok type := by
  unfold binaryResult
  by_cases same : left = right
  · rw [if_neg (fun differ => differ same)]
    cases OperatorCategory.of? operator with
    | none => simp
    | some category => cases category <;> simp [resultBeside, same]
  · rw [if_pos same]
    simp [same]

theorem resultBeside_eq_boolean {operator : String} {category : OperatorCategory}
    {known type : DataType} (logic : category ≠ .arithmetic)
    (result : resultBeside operator category known = .ok type) : type = .boolean := by
  cases category with
  | comparison =>
    cases result
    rfl
  | logical =>
    by_cases boolean : known = .boolean
    · rw [resultBeside, if_pos boolean] at result
      cases result
      rfl
    · rw [resultBeside, if_neg boolean] at result
      cases result
  | arithmetic => exact absurd rfl logic

/-! ### Typing within a limit, form by form -/

section Forms

variable {view : View} {limit : Nat} {type : DataType}

theorem typedWithin_literal {declared : DataType} {value : String} :
    TypedWithin view limit (.literal declared value) type ↔ type = declared := by
  constructor
  · rintro ⟨typed, _⟩
    cases typed
    rfl
  · rintro rfl
    exact ⟨.literal _ _, Nat.zero_le _⟩

theorem typedWithin_identifier {name : String} :
    TypedWithin view limit (.identifier name) type ↔ view.typeOf? name = some type := by
  constructor
  · rintro ⟨typed, _⟩
    cases typed with
    | identifier visible => exact visible
  · intro visible
    exact ⟨.identifier visible, Nat.zero_le _⟩

theorem typedWithin_assign {operator : String} {target value : Expr} :
    TypedWithin view limit (.assign operator target value) type ↔
      (∃ name, target = .identifier name ∧ view.typeOf? name = some type ∧
        (isCompound operator = true → type.isNumeric = true)) ∧
      TypedWithin view limit value type := by
  constructor
  · rintro ⟨typed, fits⟩
    rw [Expr.callDepth, Nat.max_le] at fits
    cases typed with
    | assign visible numeric typed => exact ⟨⟨_, rfl, visible, numeric⟩, typed, fits.2⟩
  · rintro ⟨⟨name, rfl, visible, numeric⟩, typed, fits⟩
    refine ⟨.assign visible numeric typed, ?_⟩
    rw [Expr.callDepth, Nat.max_le]
    exact ⟨Nat.zero_le _, fits⟩

theorem typedWithin_binary {operator : String} {left right : Expr} :
    TypedWithin view limit (.binary operator left right) type ↔
      ∃ leftType rightType, TypedWithin view limit left leftType ∧
        TypedWithin view limit right rightType ∧
        binaryResult operator leftType rightType = .ok type := by
  constructor
  · rintro ⟨typed, fits⟩
    rw [Expr.callDepth, Nat.max_le] at fits
    cases typed with
    | binary leftTyped rightTyped result =>
      exact ⟨_, _, ⟨leftTyped, fits.1⟩, ⟨rightTyped, fits.2⟩, result⟩
  · rintro ⟨leftType, rightType, ⟨leftTyped, leftFits⟩, ⟨rightTyped, rightFits⟩, result⟩
    refine ⟨.binary leftTyped rightTyped result, ?_⟩
    rw [Expr.callDepth, Nat.max_le]
    exact ⟨leftFits, rightFits⟩

theorem typedWithin_unary {operator : String} {fixity : Fixity} {operand : Expr} :
    TypedWithin view limit (.unary operator fixity operand) type ↔
      TypedWithin view limit operand type := by
  constructor
  · rintro ⟨typed, fits⟩
    cases typed with
    | unary typed => exact ⟨typed, fits⟩
  · rintro ⟨typed, fits⟩
    exact ⟨.unary typed, fits⟩

/-- The sides of an operator have one type, and the operator accepts it. -/
theorem typedWithin_operator {operator : String} {category : OperatorCategory} {left right : Expr}
    (found : OperatorCategory.of? operator = some category) :
    TypedWithin view limit (.binary operator left right) type ↔
      ∃ operand, TypedWithin view limit left operand ∧ TypedWithin view limit right operand ∧
        resultBeside operator category operand = .ok type := by
  rw [typedWithin_binary]
  constructor
  · rintro ⟨leftType, rightType, leftTyped, rightTyped, result⟩
    obtain ⟨rfl, other, foundOther, beside⟩ := binaryResult_eq_ok_iff.mp result
    rw [found] at foundOther
    cases foundOther
    exact ⟨leftType, leftTyped, rightTyped, beside⟩
  · rintro ⟨operand, leftTyped, rightTyped, beside⟩
    exact ⟨operand, operand, leftTyped, rightTyped,
      binaryResult_eq_ok_iff.mpr ⟨rfl, category, found, beside⟩⟩

theorem not_typedWithin_operator {operator : String} {left right : Expr}
    (unknown : OperatorCategory.of? operator = none) :
    ¬ TypedWithin view limit (.binary operator left right) type := by
  intro typed
  obtain ⟨_, _, _, _, result⟩ := typedWithin_binary.mp typed
  obtain ⟨_, category, found, _⟩ := binaryResult_eq_ok_iff.mp result
  rw [unknown] at found
  cases found

/-- An entry for a side of an operator is met when both sides have one type and the operator accepts
it, whichever side waits. -/
theorem met_binaryOperand {operator : String} {category : OperatorCategory} {site : Site}
    {waiting : Occurrence} {other : OtherSide} {waitsLeft : Bool}
    (found : OperatorCategory.of? operator = some category) :
    Pending.Met view limit ⟨waiting, site, .binaryOperand operator other waitsLeft⟩ ↔
      ∃ operand, TypedWithin view limit waiting.expr operand ∧ other.Has view limit operand ∧
        ∃ result, resultBeside operator category operand = .ok result := by
  have accepted : ∀ received otherType result : DataType,
      (if waitsLeft then binaryResult operator received otherType
        else binaryResult operator otherType received) = .ok result ↔
      received = otherType ∧ resultBeside operator category received = .ok result := by
    intro received otherType result
    cases waitsLeft with
    | true => simp [binaryResult_eq_ok_iff, found]
    | false =>
      rw [if_neg Bool.false_ne_true, binaryResult_eq_ok_iff, found]
      constructor
      · rintro ⟨rfl, _, foundOther, beside⟩
        cases foundOther
        exact ⟨rfl, beside⟩
      · rintro ⟨rfl, beside⟩
        exact ⟨rfl, category, rfl, beside⟩
  constructor
  · rintro ⟨received, typed, otherType, result, has, both⟩
    obtain ⟨rfl, beside⟩ := (accepted _ _ _).mp both
    exact ⟨received, typed, has, result, beside⟩
  · rintro ⟨operand, typed, has, result, beside⟩
    exact ⟨operand, typed, operand, result, has, (accepted _ _ _).mpr ⟨rfl, beside⟩⟩

end Forms

/-! ### The meaning of a result -/

/-- From the view, every variable has the type that it has in the tree now. -/
def View.Sees (view : View) (tree : ScopeTree) (scope : ScopeId) : Prop :=
  ∀ name, view.typeOf? name = (tree.lookupVariable scope name).map (·.type)

/-- **What a result of the first pass means.** A known type is the type of the expression exactly
when the entries put on the queue are met, whatever the signatures of functions will be. An
expression that waits puts nothing on the queue itself. An error says that there is no type. -/
def Guessed (tree : ScopeTree) (site : Site) (before : List Pending) (expr : Expr) :
    EStateM.Result SemanticError (List Pending) Checked → Prop
  | .ok (.known type) after =>
    ∃ added, after = added ++ before ∧ (∀ entry ∈ added, entry.site = site) ∧
      ∀ view : View, view.Sees tree site.scope → ∀ limit received,
        TypedWithin view limit expr received ↔
          received = type ∧ ∀ entry ∈ added, entry.Met view limit
  | .ok .deferred after => after = before
  | .error _ _ =>
    ∀ view : View, view.Sees tree site.scope → ∀ limit received,
      ¬ TypedWithin view limit expr received

/-- The queue only grows, and all that is put on it stands at the site. -/
theorem Guessed.queued {tree : ScopeTree} {site : Site} {before after : List Pending} {expr : Expr}
    {checked : Checked} (guessed : Guessed tree site before expr (.ok checked after)) :
    ∃ added, after = added ++ before ∧ ∀ entry ∈ added, entry.site = site := by
  cases checked with
  | known type =>
    obtain ⟨added, grown, addedSite, _⟩ := guessed
    exact ⟨added, grown, addedSite⟩
  | deferred => exact ⟨[], guessed, List.forall_mem_nil _⟩

/-- An entry is resolved in a tree when it is met from the site, all entries standing there. -/
theorem resolves_iff_of_site {tree : ScopeTree} {limit : Nat} {site : Site} {entries : List Pending}
    (stands : ∀ entry ∈ entries, entry.site = site) :
    (∀ entry ∈ entries, entry.Resolves tree limit) ↔
      ∀ entry ∈ entries, entry.Met (tree.view site) limit := by
  refine forall₂_congr fun entry member => ?_
  rw [Pending.resolves_iff, stands entry member]

section Operators

variable {tree : ScopeTree} {site : Site} {before middle after : List Pending} {operator : String}
variable {left right : Expr} {leftPlace rightPlace : Place}

/-- Both sides are known. -/
theorem guessed_operands_known {leftType rightType : DataType}
    (first : Guessed tree site before left (.ok (.known leftType) middle))
    (second : Guessed tree site middle right (.ok (.known rightType) after)) :
    Guessed tree site before (.binary operator left right)
      (checkOperands site operator ⟨leftPlace, left⟩ ⟨rightPlace, right⟩ (.known leftType)
        (.known rightType) after) := by
  obtain ⟨leftAdded, rfl, leftSite, leftMeans⟩ := first
  obtain ⟨rightAdded, rfl, rightSite, rightMeans⟩ := second
  unfold checkOperands
  cases found : OperatorCategory.of? operator with
  | none => exact fun _ _ _ _ => not_typedWithin_operator found
  | some category =>
    dsimp only
    rw [bind_apply, ofExcept_apply]
    cases result : binaryResult operator leftType rightType with
    | error error =>
      intro view sees limit received typed
      obtain ⟨_, _, leftTyped, rightTyped, both⟩ := typedWithin_binary.mp typed
      have leftSame := ((leftMeans view sees _ _).mp leftTyped).1
      have rightSame := ((rightMeans view sees _ _).mp rightTyped).1
      rw [leftSame, rightSame, result] at both
      cases both
    | ok type =>
      refine ⟨rightAdded ++ leftAdded, (List.append_assoc _ _ _).symm, ?_, ?_⟩
      · exact List.forall_mem_append.mpr ⟨rightSite, leftSite⟩
      · intro view sees limit received
        rw [typedWithin_binary, List.forall_mem_append]
        simp only [leftMeans view sees, rightMeans view sees]
        constructor
        · rintro ⟨_, _, ⟨rfl, leftMet⟩, ⟨rfl, rightMet⟩, both⟩
          rw [result] at both
          cases both
          exact ⟨rfl, rightMet, leftMet⟩
        · rintro ⟨rfl, rightMet, leftMet⟩
          exact ⟨_, _, ⟨rfl, leftMet⟩, ⟨rfl, rightMet⟩, result⟩

/-- One side is known, and the other one waits on the queue. -/
theorem guessed_beside {whole waiting known : Expr} {category : OperatorCategory}
    {knownType : DataType} {entry : Pending} (entrySite : entry.site = site)
    (sides : ∀ view limit received, TypedWithin view limit whole received ↔
      ∃ operand, TypedWithin view limit waiting operand ∧ TypedWithin view limit known operand ∧
        resultBeside operator category operand = .ok received)
    (met : ∀ view limit, entry.Met view limit ↔
      ∃ operand, TypedWithin view limit waiting operand ∧ operand = knownType ∧
        ∃ result, resultBeside operator category operand = .ok result)
    (side : Guessed tree site before known (.ok (.known knownType) after)) :
    Guessed tree site before whole
      (match resultBeside operator category knownType with
        | .ok type => .ok (.known type) (entry :: after)
        | .error error => .error error after) := by
  obtain ⟨added, rfl, addedSite, means⟩ := side
  cases result : resultBeside operator category knownType with
  | error error =>
    intro view sees limit received typed
    obtain ⟨operand, _, knownTyped, beside⟩ := (sides _ _ _).mp typed
    have same : operand = knownType := ((means view sees _ _).mp knownTyped).1
    rw [same, result] at beside
    cases beside
  | ok type =>
    refine ⟨entry :: added, rfl, List.forall_mem_cons.mpr ⟨entrySite, addedSite⟩, ?_⟩
    intro view sees limit received
    rw [sides, List.forall_mem_cons, met]
    simp only [means view sees]
    constructor
    · rintro ⟨_, waits, ⟨rfl, addedMet⟩, beside⟩
      rw [result] at beside
      cases beside
      exact ⟨rfl, ⟨_, waits, rfl, _, result⟩, addedMet⟩
    · rintro ⟨rfl, ⟨_, waits, rfl, _⟩, addedMet⟩
      exact ⟨_, waits, ⟨rfl, addedMet⟩, result⟩

theorem checkOperands_known_deferred {category : OperatorCategory} {known : DataType}
    (found : OperatorCategory.of? operator = some category) :
    checkOperands site operator ⟨leftPlace, left⟩ ⟨rightPlace, right⟩ (.known known) .deferred
        before =
      match resultBeside operator category known with
      | .ok type => .ok (.known type)
          (⟨⟨rightPlace, right⟩, site, .binaryOperand operator (.known known) false⟩ :: before)
      | .error error => .error error before := by
  unfold checkOperands
  rw [found]
  dsimp only
  rw [bind_apply, ofExcept_apply]
  cases resultBeside operator category known <;> rfl

theorem checkOperands_deferred_known {category : OperatorCategory} {known : DataType}
    (found : OperatorCategory.of? operator = some category) :
    checkOperands site operator ⟨leftPlace, left⟩ ⟨rightPlace, right⟩ .deferred (.known known)
        before =
      match resultBeside operator category known with
      | .ok type => .ok (.known type)
          (⟨⟨leftPlace, left⟩, site, .binaryOperand operator (.known known) true⟩ :: before)
      | .error error => .error error before := by
  unfold checkOperands
  rw [found]
  dsimp only
  rw [bind_apply, ofExcept_apply]
  cases resultBeside operator category known <;> rfl

/-- Both sides wait. A comparison and a logical operator yield a boolean all the same. -/
theorem guessed_operands_deferred {category : OperatorCategory}
    (found : OperatorCategory.of? operator = some category) :
    Guessed tree site before (.binary operator left right)
      (checkOperands site operator ⟨leftPlace, left⟩ ⟨rightPlace, right⟩ .deferred .deferred
        before) := by
  unfold checkOperands
  rw [found]
  dsimp only
  by_cases arithmetic : category = .arithmetic
  · rw [if_pos arithmetic]
    exact rfl
  · rw [if_neg arithmetic]
    refine ⟨[_], rfl, List.forall_mem_singleton.mpr rfl, ?_⟩
    intro view sees limit received
    rw [typedWithin_operator found, List.forall_mem_singleton, met_binaryOperand found]
    constructor
    · rintro ⟨operand, leftTyped, rightTyped, beside⟩
      exact ⟨resultBeside_eq_boolean arithmetic beside,
        operand, leftTyped, rightTyped, received, beside⟩
    · rintro ⟨rfl, operand, leftTyped, rightTyped, result, beside⟩
      refine ⟨operand, leftTyped, rightTyped, ?_⟩
      rw [beside, resultBeside_eq_boolean arithmetic beside]

/-- **The first pass is right about an operator if it is right about the sides.** -/
theorem guessed_checkOperands {leftChecked rightChecked : Checked}
    (first : Guessed tree site before left (.ok leftChecked middle))
    (second : Guessed tree site middle right (.ok rightChecked after)) :
    Guessed tree site before (.binary operator left right)
      (checkOperands site operator ⟨leftPlace, left⟩ ⟨rightPlace, right⟩ leftChecked rightChecked
        after) := by
  cases found : OperatorCategory.of? operator with
  | none =>
    unfold checkOperands
    rw [found]
    exact fun _ _ _ _ => not_typedWithin_operator found
  | some category =>
    cases leftChecked with
    | known leftType =>
      cases rightChecked with
      | known rightType => exact guessed_operands_known first second
      | deferred =>
        obtain rfl : after = middle := second
        rw [checkOperands_known_deferred found]
        refine guessed_beside rfl (fun view limit received => ?_)
          (fun view limit => met_binaryOperand found) first
        rw [typedWithin_operator found]
        exact exists_congr fun operand => and_left_comm
    | deferred =>
      obtain rfl : middle = before := first
      cases rightChecked with
      | known rightType =>
        rw [checkOperands_deferred_known found]
        exact guessed_beside rfl (fun view limit received => typedWithin_operator found)
          (fun view limit => met_binaryOperand found) second
      | deferred =>
        obtain rfl : after = middle := second
        exact guessed_operands_deferred found

end Operators

/-! ### Expressions -/

/-- The first pass is right about an expression without a call whose type it reads off. -/
theorem guessed_of_typedWithin_iff {tree : ScopeTree} {site : Site} {before : List Pending}
    {expr : Expr} {type : DataType}
    (means : ∀ view : View, view.Sees tree site.scope → ∀ limit received,
      TypedWithin view limit expr received ↔ received = type) :
    Guessed tree site before expr (.ok (.known type) before) := by
  refine ⟨[], rfl, List.forall_mem_nil _, fun view sees limit received => ?_⟩
  rw [means view sees]
  exact (and_iff_left (List.forall_mem_nil _)).symm

/-- What is assigned is the target's type, and the value has it. -/
theorem typedWithin_assign_iff {tree : ScopeTree} {scope : ScopeId} {view : View}
    (sees : view.Sees tree scope) {limit : Nat} {operator : String} {target value : Expr}
    {received : DataType} :
    TypedWithin view limit (.assign operator target value) received ↔
      assignedType operator target (tree.lookupVariable scope) = .ok received ∧
        TypedWithin view limit value received := by
  rw [typedWithin_assign, assignedType_eq_ok_iff]
  simp only [sees _]

/-- **The first pass is right about every expression.** -/
theorem guessed_checkExpr (tree : ScopeTree) (scope : ScopeId) (place : Place)
    (before : List Pending) (expr : Expr) :
    Guessed tree ⟨scope, tree.declarations⟩ before expr
      (checkExpr tree scope place expr before) := by
  cases expr with
  | literal type value =>
    rw [checkExpr]
    exact guessed_of_typedWithin_iff fun _ _ _ _ => typedWithin_literal
  | identifier name =>
    rw [checkExpr, bind_apply, ofExcept_apply]
    cases found : tree.lookupVariable scope name with
    | none =>
      intro view sees limit received typed
      rw [typedWithin_identifier, sees, found] at typed
      cases typed
    | some declared =>
      refine guessed_of_typedWithin_iff fun view sees limit received => ?_
      rw [typedWithin_identifier, sees, found]
      simp [eq_comm]
  | assign operator target value =>
    rw [checkExpr, bind_apply, ofExcept_apply]
    cases assigned : assignedType operator target (tree.lookupVariable scope) with
    | error error =>
      intro view sees limit received typed
      rw [typedWithin_assign_iff sees, assigned] at typed
      cases typed.1
    | ok expected =>
      have inner := guessed_checkExpr tree scope (1 :: place) before value
      dsimp only
      rw [bind_apply]
      cases ended : checkExpr tree scope (1 :: place) value before with
      | error error after =>
        rw [ended] at inner
        intro view sees limit received typed
        exact inner view sees limit received ((typedWithin_assign_iff sees).mp typed).2
      | ok checked after =>
        rw [ended] at inner
        cases checked with
        | deferred => exact inner
        | known received =>
          obtain ⟨added, grown, addedSite, means⟩ := inner
          dsimp only
          by_cases same : received = expected
          · rw [if_neg (fun differ => differ same)]
            refine ⟨added, grown, addedSite, fun view sees limit other => ?_⟩
            rw [typedWithin_assign_iff sees, assigned, means view sees, same]
            constructor
            · rintro ⟨_, rfl, met⟩
              exact ⟨rfl, met⟩
            · rintro ⟨rfl, met⟩
              exact ⟨rfl, rfl, met⟩
          · rw [if_pos same]
            intro view sees limit other typed
            rw [typedWithin_assign_iff sees, assigned, means view sees] at typed
            obtain ⟨sameType, rfl, _⟩ := typed
            cases sameType
            exact same rfl
  | binary operator left right =>
    have first := guessed_checkExpr tree scope (0 :: place) before left
    rw [checkExpr, bind_apply]
    cases leftEnd : checkExpr tree scope (0 :: place) left before with
    | error error after =>
      rw [leftEnd] at first
      intro view sees limit received typed
      obtain ⟨_, _, leftTyped, _⟩ := typedWithin_binary.mp typed
      exact first view sees limit _ leftTyped
    | ok leftChecked middle =>
      rw [leftEnd] at first
      have second := guessed_checkExpr tree scope (1 :: place) middle right
      dsimp only
      rw [bind_apply]
      cases rightEnd : checkExpr tree scope (1 :: place) right middle with
      | error error after =>
        rw [rightEnd] at second
        intro view sees limit received typed
        obtain ⟨_, _, _, rightTyped, _⟩ := typedWithin_binary.mp typed
        exact second view sees limit _ rightTyped
      | ok rightChecked after =>
        rw [rightEnd] at second
        exact guessed_checkOperands first second
  | unary operator fixity operand =>
    have inner := guessed_checkExpr tree scope (0 :: place) before operand
    rw [checkExpr]
    cases ended : checkExpr tree scope (0 :: place) operand before with
    | error error after =>
      rw [ended] at inner
      intro view sees limit received typed
      exact inner view sees limit received (typedWithin_unary.mp typed)
    | ok checked after =>
      rw [ended] at inner
      cases checked with
      | deferred => exact inner
      | known type =>
        obtain ⟨added, grown, addedSite, means⟩ := inner
        refine ⟨added, grown, addedSite, fun view sees limit received => ?_⟩
        rw [typedWithin_unary, means view sees]
  | call callee arguments =>
    rw [checkExpr]
    exact rfl

end TypedImp
