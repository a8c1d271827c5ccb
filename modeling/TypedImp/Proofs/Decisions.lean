/-
**What a part of the walk leaves and decides.**

A part of the walk over the statements either fails, or it leaves entries on the queue. `Decides`
says of an assertion about the program that the part decides it: if it fails, the assertion is
false, and else the assertion is true exactly when the entries are resolved in the finished tree.
The assertion may speak of functions that are declared only later; so what is known of the finished
tree is that it has the functions of the surroundings, and that the scopes opened by the part itself
gain no further ones (`ScopeTree.Settled`).

* `Leaves` — an error of a kind, or entries of which something is known in the finished tree; closed
  under running one part after another and under new scopes and frames (`Leaves.bind`,
  `Leaves.withScope`, `Leaves.withFrame`).
* `decides_require` — an expression that has to pass a test.
* `decides_declareVariable`, `decides_declareFunction` — a declaration.
* `Decides.bind`, `Decides.withScope`, `Decides.withFrame` — what parts decide together, from what
  they leave (`decides_iff_leaves`).
-/

import Mathlib.Data.List.Nodup
import TypedImp.Proofs.Standing

namespace TypedImp

open Analyzer

/-! ### Names that are free -/

/-- The names differ from each other and from those declared already. -/
def Undeclared (own names : List String) : Prop :=
  names.Nodup ∧ ∀ name ∈ names, name ∉ own

theorem undeclared_nil (own : List String) : Undeclared own [] :=
  ⟨List.nodup_nil, List.forall_mem_nil _⟩

theorem undeclared_singleton {own : List String} {name : String} :
    Undeclared own [name] ↔ name ∉ own := by
  unfold Undeclared
  rw [List.forall_mem_singleton]
  exact and_iff_right (List.nodup_singleton name)

theorem undeclared_fresh {names : List String} : Undeclared [] names ↔ names.Nodup :=
  and_iff_left fun _ _ => List.not_mem_nil

/-- Names can be declared if the first ones can, and then the others. -/
theorem undeclared_append {own first second : List String} :
    Undeclared own (first ++ second) ↔
      Undeclared own first ∧ Undeclared (own ++ first) second := by
  unfold Undeclared
  rw [List.nodup_append', List.forall_mem_append]
  constructor
  · rintro ⟨⟨firstNodup, secondNodup, disjoint⟩, firstFree, secondFree⟩
    refine ⟨⟨firstNodup, firstFree⟩, secondNodup, fun name member => ?_⟩
    rw [List.mem_append]
    rintro (declared | before)
    · exact secondFree name member declared
    · exact disjoint before member
  · rintro ⟨⟨firstNodup, firstFree⟩, secondNodup, secondFree⟩
    refine ⟨⟨firstNodup, secondNodup, fun name before member => ?_⟩, firstFree, ?_⟩
    · exact secondFree name member (List.mem_append_right own before)
    · intro name member declared
      exact secondFree name member (List.mem_append_left first declared)

theorem lookup_eq_none_iff_undeclared {β : Type} {own : List (String × β)} {name : String} :
    own.lookup name = none ↔ Undeclared (own.map Prod.fst) [name] := by
  rw [undeclared_singleton, List.lookup_eq_none_iff, List.mem_map]
  constructor
  · rintro absent ⟨binding, member, rfl⟩
    exact bne_iff_ne.mp (absent binding member) rfl
  · intro absent binding member
    exact bne_iff_ne.mpr fun same => absent ⟨binding, member, same.symm⟩

namespace Analyzer

/-- The names of the functions declared in the current scope. -/
def ownFunctions (analyzer : Analyzer) : List String :=
  ((analyzer.scopes.get? analyzer.current).elim [] (·.signatures)).map Prod.fst

theorem Passes.ownFunctions {bindings : List (String × DataType)}
    {signatures : List (String × Signature)} {before after : Analyzer}
    (passes : Passes bindings signatures before after)
    (inRange : before.current < before.scopes.count) :
    after.ownFunctions = before.ownFunctions ++ signatures.map Prod.fst := by
  obtain ⟨scope, found⟩ := ScopeTree.get?_eq_some_of_lt inRange
  obtain ⟨grown, foundLater, _⟩ := (ScopeTree.grows_of_reaches passes.scopes.reaches).scope found
  unfold Analyzer.ownFunctions
  rw [passes.current, found, foundLater, Option.elim_some, Option.elim_some,
    (passes.scopes.own found foundLater).signatures, List.map_append]

theorem ownFunctions_opened (analyzer : Analyzer) (kind : ScopeKind) :
    (analyzer.opened kind).ownFunctions = [] := by
  have found : (analyzer.opened kind).scopes.get? (analyzer.opened kind).current = _ :=
    ScopeTree.get?_addChild_self analyzer.scopes analyzer.current kind
  unfold ownFunctions
  rw [found]
  rfl

end Analyzer

/-! ### Decisions -/

/-- The scopes opened between two trees have in the final tree the functions that they have in the
second one. -/
def ScopeTree.Settled (before after final : ScopeTree) : Prop :=
  ∀ {id : ScopeId} {scope settled : Scope}, before.count ≤ id → after.get? id = some scope →
    final.get? id = some settled → settled.signatures = scope.signatures

/-- The second tree may be the final one. -/
theorem ScopeTree.settled_self (before after : ScopeTree) : Settled before after after := by
  intro id scope settled _ found foundLast
  rw [found] at foundLast
  cases foundLast
  rfl

/-- The final tree shows from a scope the functions of the surroundings. -/
def ScopeTree.Shows (final : ScopeTree) (id : ScopeId) (around : Surroundings) : Prop :=
  (final.ancestors id).map (·.signatures) = around.functions

/-- What a part of the walk leaves behind: an error of a kind if it fails, and else entries on the
queue, of which something is known in every final tree that shows the functions of the
surroundings. -/
def Leaves (walk : Analysis Unit) (analyzer : Analyzer) (around : Surroundings)
    (failed : SemanticError → Prop) (left : List Pending → ScopeTree → Prop) : Prop :=
  match walk analyzer with
  | .ok _ after => ∃ added, after.pending = added ++ analyzer.pending ∧
      ∀ {final : ScopeTree}, ScopeTree.Reaches after.scopes final →
        ScopeTree.Settled analyzer.scopes after.scopes final →
        final.Shows analyzer.current around → left added final
  | .error error _ => failed error

theorem Leaves.mono {walk : Analysis Unit} {analyzer : Analyzer} {around : Surroundings}
    {failed fails : SemanticError → Prop} {left leaves : List Pending → ScopeTree → Prop}
    (known : Leaves walk analyzer around failed left) (errors : ∀ error, failed error → fails error)
    (entries : ∀ added final, left added final → leaves added final) :
    Leaves walk analyzer around fails leaves := by
  unfold Leaves at known ⊢
  cases ended : walk analyzer with
  | error error after =>
    rw [ended] at known
    exact errors error known
  | ok nothing after =>
    rw [ended] at known
    obtain ⟨added, queued, means⟩ := known
    exact ⟨added, queued, fun reaches settled shows =>
      entries added _ (means reaches settled shows)⟩

section Leaves

variable {walk other : Analysis Unit} {analyzer after : Analyzer} {around : Surroundings}
variable {failed : SemanticError → Prop} {left : List Pending → ScopeTree → Prop}

/-- Only what a part does from the analyzer counts. -/
theorem Leaves.of_eq (leaves : Leaves other analyzer around failed left)
    (same : walk analyzer = other analyzer) : Leaves walk analyzer around failed left := by
  unfold Leaves
  rw [same]
  exact leaves

theorem Leaves.of_error {error : SemanticError} (ended : walk analyzer = .error error after)
    (fails : failed error) : Leaves walk analyzer around failed left := by
  unfold Leaves
  rw [ended]
  exact fails

/-- A part that succeeds may leave nothing on the queue. -/
theorem Leaves.of_ok (ended : walk analyzer = .ok () after)
    (queue : after.pending = analyzer.pending) (nothing : ∀ final, left [] final) :
    Leaves walk analyzer around failed left := by
  unfold Leaves
  rw [ended]
  exact ⟨[], queue, fun _ _ _ => nothing _⟩

end Leaves

/-- **A part of the walk decides an assertion.** If it fails, the assertion is false; else the
assertion is true exactly when the entries that it leaves are resolved in the final tree. -/
def Decides (walk : Analysis Unit) (analyzer : Analyzer) (around : Surroundings)
    (assertion : Nat → Prop) : Prop :=
  match walk analyzer with
  | .ok _ after => ∃ added, after.pending = added ++ analyzer.pending ∧
      ∀ {final : ScopeTree} {limit : Nat}, ScopeTree.Reaches after.scopes final →
        ScopeTree.Settled analyzer.scopes after.scopes final →
        final.Shows analyzer.current around →
        ((∀ entry ∈ added, entry.Resolves final limit) ↔ assertion limit)
  | .error _ _ => ∀ limit, ¬ assertion limit

/-- What a part decides it leaves behind, as its error or as its entries. -/
theorem decides_iff_leaves {walk : Analysis Unit} {analyzer : Analyzer} {around : Surroundings}
    {assertion : Nat → Prop} :
    Decides walk analyzer around assertion ↔
      Leaves walk analyzer around (fun _ => ∀ limit, ¬ assertion limit) fun added final =>
        ∀ limit, (∀ entry ∈ added, entry.Resolves final limit) ↔ assertion limit := by
  unfold Decides Leaves
  cases walk analyzer with
  | error error after => exact Iff.rfl
  | ok nothing after =>
    refine exists_congr fun added => and_congr_right fun _ => ⟨?_, ?_⟩
    · exact fun means final reaches settled shows limit => means reaches settled shows
    · exact fun means final limit reaches settled shows => means reaches settled shows limit

theorem Decides.congr {walk : Analysis Unit} {analyzer : Analyzer} {around : Surroundings}
    {assertion other : Nat → Prop} (decides : Decides walk analyzer around assertion)
    (same : ∀ limit, assertion limit ↔ other limit) : Decides walk analyzer around other := by
  obtain rfl : assertion = other := funext fun limit => propext (same limit)
  exact decides

theorem Decides.of_eq {walk other : Analysis Unit} {analyzer : Analyzer} {around : Surroundings}
    {assertion : Nat → Prop} (decides : Decides other analyzer around assertion)
    (same : walk analyzer = other analyzer) : Decides walk analyzer around assertion :=
  decides_iff_leaves.mpr ((decides_iff_leaves.mp decides).of_eq same)

/-- A part that fails decides what is false. -/
theorem decides_of_error {walk : Analysis Unit} {analyzer after : Analyzer} {around : Surroundings}
    {assertion : Nat → Prop} {error : SemanticError} (ended : walk analyzer = .error error after)
    (never : ∀ limit, ¬ assertion limit) : Decides walk analyzer around assertion :=
  decides_iff_leaves.mpr (.of_error ended never)

/-- A part that succeeds and puts nothing on the queue decides what is true. -/
theorem decides_of_ok {walk : Analysis Unit} {analyzer after : Analyzer} {around : Surroundings}
    {assertion : Nat → Prop} (ended : walk analyzer = .ok () after)
    (queue : after.pending = analyzer.pending) (always : ∀ limit, assertion limit) :
    Decides walk analyzer around assertion :=
  decides_iff_leaves.mpr (.of_ok ended queue fun _ limit =>
    iff_of_true (List.forall_mem_nil _) (always limit))

section Rules

variable {analyzer : Analyzer} {around : Surroundings}
variable {bindings moreBindings : List (String × DataType)}
variable {signatures moreSignatures : List (String × Signature)}

/-- **Two parts one after the other** leave the error of one of them, or the entries of both. -/
theorem Leaves.bind {first : Analysis Unit} {next : Unit → Analysis Unit}
    {failed failedNext : SemanticError → Prop} {left leftNext : List Pending → ScopeTree → Prop}
    (stands : analyzer.Stands around)
    (pass : FirstPass bindings signatures first)
    (rest : FirstPass moreBindings moreSignatures (next ()))
    (head : Leaves first analyzer around failed left)
    (tail : ∀ {middle}, first analyzer = .ok () middle →
      Passes bindings signatures analyzer middle → middle.Stands (around.declare bindings) →
      Leaves (next ()) middle (around.declare bindings) failedNext leftNext) :
    Leaves (first >>= next) analyzer around (fun error => failed error ∨ failedNext error)
      fun added final => ∃ late early, added = late ++ early ∧ left early final ∧
        leftNext late final := by
  unfold Leaves at head ⊢
  rw [bind_apply]
  cases ended : first analyzer with
  | error error after =>
    rw [ended] at head
    exact .inl head
  | ok nothing middle =>
    rw [ended] at head
    obtain ⟨early, queued, means⟩ := head
    have passes := pass.passes stands.sound.inRange ended
    have later := tail ended passes (stands.passes passes)
    unfold Leaves at later
    dsimp only
    cases endedLater : next () middle with
    | error error after =>
      rw [endedLater] at later
      exact .inr later
    | ok nothing after =>
      rw [endedLater] at later
      obtain ⟨late, queuedLater, meansLater⟩ := later
      have passesLater := rest.passes (passes.inRange stands.sound.inRange) endedLater
      have grown := ScopeTree.grows_of_reaches passes.scopes.reaches
      refine ⟨late ++ early, ?_, fun {final} reaches settled shows => ?_⟩
      · rw [queuedLater, queued, List.append_assoc]
      · have settledEarly : ScopeTree.Settled analyzer.scopes middle.scopes final := by
          intro id scope last opened found foundLast
          -- The second part declares in the current scope alone, which the first did not open.
          obtain ⟨grown, foundAfter, _⟩ :=
            (ScopeTree.grows_of_reaches passesLater.scopes.reaches).scope found
          have differ : id ≠ middle.current := by
            rw [passes.current]
            exact (Nat.ne_of_lt (Nat.lt_of_lt_of_le stands.sound.inRange opened)).symm
          rw [settled opened foundAfter foundLast,
            (passesLater.scopes.elsewhere differ found foundAfter).signatures, List.append_nil]
        have settledLate : ScopeTree.Settled middle.scopes after.scopes final :=
          fun opened => settled (Nat.le_trans grown.count_le opened)
        have showsLater : final.Shows middle.current (around.declare bindings) := by
          rw [passes.current]
          exact shows
        exact ⟨late, early, rfl,
          means (passesLater.scopes.reaches.trans reaches) settledEarly shows,
          meansLater reaches settledLate showsLater⟩

/-- A part under a frame leaves what it leaves inside. -/
theorem Leaves.withFrame {frame : ContextFrame} {inside : Analysis Unit} {inner : Surroundings}
    {failed : SemanticError → Prop} {left : List Pending → ScopeTree → Prop}
    (leaves : Leaves inside { analyzer with context := analyzer.context.push frame } inner failed
      left)
    (functions : inner.functions = around.functions) :
    Leaves (withFrame frame inside) analyzer around failed left := by
  unfold Leaves at leaves ⊢
  rw [withFrame_apply]
  cases ended : inside { analyzer with context := analyzer.context.push frame } with
  | error error after =>
    rw [ended] at leaves
    exact leaves
  | ok nothing after =>
    rw [ended] at leaves
    obtain ⟨added, queued, means⟩ := leaves
    refine ⟨added, queued, fun reaches settled shows => means reaches settled ?_⟩
    unfold ScopeTree.Shows at shows ⊢
    rw [functions]
    exact shows

/-- **A part inside a new scope leaves what it leaves inside**, if the surroundings there show the
functions that it declares. -/
theorem Leaves.withScope {kind : ScopeKind} {inside : Analysis Unit} {inner : Surroundings}
    {failed : SemanticError → Prop} {left : List Pending → ScopeTree → Prop}
    (stands : analyzer.Stands around)
    (pass : FirstPass bindings signatures inside)
    (leaves : Leaves inside (analyzer.opened kind) inner failed left)
    (functions : inner.functions = signatures :: around.functions) :
    Leaves (withScope kind inside) analyzer around failed left := by
  have sound := stands.sound.opened kind
  unfold Leaves at leaves ⊢
  rw [withScope_apply]
  cases ended : inside (analyzer.opened kind) with
  | error error after =>
    rw [ended] at leaves
    exact leaves
  | ok nothing after =>
    rw [ended] at leaves
    obtain ⟨added, queued, means⟩ := leaves
    have passes := pass.passes sound.inRange ended
    refine ⟨added, queued, fun {final} reaches settled shows => means reaches ?_ ?_⟩
    · intro id scope last opened
      have before := ScopeTree.grows_addChild analyzer.scopes analyzer.current kind
      exact settled (Nat.le_trans before.count_le opened)
    · have new : (analyzer.opened kind).scopes.get? analyzer.scopes.count = _ :=
        ScopeTree.get?_addChild_self analyzer.scopes analyzer.current kind
      obtain ⟨scope, found, growing⟩ :=
        (ScopeTree.grows_of_reaches passes.scopes.reaches).scope new
      obtain ⟨last, foundLast, growingLast⟩ := (ScopeTree.grows_of_reaches reaches).scope found
      have formed := ScopeTree.formed_of_reaches (passes.sound sound).formed reaches
      -- The scope is left for good, so in the end it has what the part has declared.
      have own : last.signatures = signatures := by
        rw [settled (Nat.le_refl _) found foundLast, (passes.scopes.own new found).signatures]
        rfl
      have parent : last.parent = some analyzer.current := by
        rw [growingLast.parent, growing.parent]
        rfl
      unfold ScopeTree.Shows at shows ⊢
      show (final.ancestors analyzer.scopes.count).map _ = _
      rw [ScopeTree.ancestors_of_get? formed foundLast, List.map_cons, own, parent,
        Option.elim_some, shows, functions]

/-- **Two parts one after the other decide both assertions.** -/
theorem Decides.bind {first : Analysis Unit} {next : Unit → Analysis Unit}
    {assertion other : Nat → Prop} (stands : analyzer.Stands around)
    (pass : FirstPass bindings signatures first)
    (rest : FirstPass moreBindings moreSignatures (next ()))
    (head : Decides first analyzer around assertion)
    (tail : ∀ {middle}, first analyzer = .ok () middle →
      Passes bindings signatures analyzer middle → middle.Stands (around.declare bindings) →
      Decides (next ()) middle (around.declare bindings) other) :
    Decides (first >>= next) analyzer around fun limit => assertion limit ∧ other limit := by
  rw [decides_iff_leaves] at head ⊢
  refine (Leaves.bind stands pass rest head fun ended passes behind =>
    decides_iff_leaves.mp (tail ended passes behind)).mono ?_ ?_
  · rintro error (never | never) limit both
    · exact never limit both.1
    · exact never limit both.2
  · rintro _ final ⟨late, early, rfl, means, meansLater⟩ limit
    rw [List.forall_mem_append, means limit, meansLater limit]
    exact and_comm

/-- A part under a frame decides what it decides inside. -/
theorem Decides.withFrame {frame : ContextFrame} {inside : Analysis Unit} {inner : Surroundings}
    {assertion : Nat → Prop}
    (decides : Decides inside { analyzer with context := analyzer.context.push frame } inner
      assertion)
    (functions : inner.functions = around.functions) :
    Decides (withFrame frame inside) analyzer around assertion :=
  decides_iff_leaves.mpr ((decides_iff_leaves.mp decides).withFrame functions)

/-- **A part inside a new scope decides what it decides inside**, if the surroundings there show the
functions that it declares. -/
theorem Decides.withScope {kind : ScopeKind} {inside : Analysis Unit} {inner : Surroundings}
    {assertion : Nat → Prop} (stands : analyzer.Stands around)
    (pass : FirstPass bindings signatures inside)
    (decides : Decides inside (analyzer.opened kind) inner assertion)
    (functions : inner.functions = signatures :: around.functions) :
    Decides (withScope kind inside) analyzer around assertion :=
  decides_iff_leaves.mpr ((decides_iff_leaves.mp decides).withScope stands pass functions)

/-- **An expression that has to pass a test** has a type from where it stands that passes it, if the
requirement with which it is put on the queue is the same test. -/
theorem decides_require {occurrence : Occurrence} {requirement : Requirement}
    {test : DataType → Except SemanticError Unit} (stands : analyzer.Stands around)
    (agree : ∀ view limit type, requirement.Met view limit type ↔ test type = .ok ()) :
    Decides (require occurrence requirement test) analyzer around fun limit =>
      ∃ type, TypedWithin around.view limit occurrence.expr type ∧ test type = .ok () := by
  have guessed := guessed_checkExpr analyzer.scopes analyzer.current occurrence.place
    analyzer.pending occurrence.expr
  have sees : around.view.Sees analyzer.scopes analyzer.current :=
    fun name => (stands.lookupVariable name).symm
  unfold Decides
  rw [require, bind_apply]
  unfold checkOccurrence
  dsimp only
  cases ended : checkExpr analyzer.scopes analyzer.current occurrence.place occurrence.expr
    analyzer.pending with
  | error error queue =>
    rw [ended] at guessed
    rintro limit ⟨type, typed, _⟩
    exact guessed _ sees limit type typed
  | ok checked queue =>
    rw [ended] at guessed
    cases checked with
    | known type =>
      obtain ⟨added, queued, site, means⟩ := guessed
      dsimp only
      rw [ofExcept_apply]
      cases tested : test type with
      | error error =>
        rintro limit ⟨other, typed, passed⟩
        have same : other = type := ((means _ sees limit other).mp typed).1
        rw [same, tested] at passed
        cases passed
      | ok passed =>
        refine ⟨added, queued, fun {final limit} reaches _ shows => ?_⟩
        have seen := stands.view_eq (ScopeTree.grows_of_reaches reaches) shows
        have resolved : (∀ entry ∈ added, entry.Resolves final limit) ↔
            ∀ entry ∈ added, entry.Met around.view limit := by
          rw [← seen]
          exact resolves_iff_of_site site
        rw [resolved]
        constructor
        · intro met
          exact ⟨type, (means _ sees limit type).mpr ⟨rfl, met⟩, tested⟩
        · rintro ⟨other, typed, _⟩
          exact ((means _ sees limit other).mp typed).2
    | deferred =>
      obtain rfl : queue = analyzer.pending := guessed
      refine ⟨[_], rfl, fun {final limit} reaches _ shows => ?_⟩
      have seen := stands.view_eq (ScopeTree.grows_of_reaches reaches) shows
      rw [List.forall_mem_singleton, Pending.resolves_iff, ← seen]
      exact exists_congr fun received => and_congr_right fun _ => agree _ _ _

/-- A variable can be declared when its block has none of the name so far. -/
theorem decides_declareVariable {name : String} {type : DataType}
    (stands : analyzer.Stands around) :
    Decides (declareVariable name type) analyzer around fun _ =>
      Undeclared (around.block.bindings.map Prod.fst) [name] := by
  obtain ⟨scope, found⟩ := ScopeTree.get?_eq_some_of_lt stands.sound.inRange
  have free : (analyzer.scopes.get? analyzer.current).bind (·.variableNamed? name) = none ↔
      Undeclared (around.block.bindings.map Prod.fst) [name] := by
    rw [← lookup_eq_none_iff_undeclared, ← stands.own_types found, Scope.lookup_types, found,
      Option.bind_some, Option.map_eq_none_iff]
  have ended := changeScopes_apply (·.declareVariable · name type) analyzer
  cases declared : analyzer.scopes.declareVariable analyzer.current name type with
  | error error =>
    rw [declared] at ended
    refine decides_of_error ended fun _ undeclared => ?_
    rw [ScopeTree.declareVariable_eq_ok_iff.mpr ⟨free.mpr undeclared, rfl⟩] at declared
    cases declared
  | ok next =>
    rw [declared] at ended
    have undeclared := free.mp (ScopeTree.declareVariable_eq_ok_iff.mp declared).1
    exact decides_of_ok ended rfl fun _ => undeclared

/-- A function can be declared when its block has none of the name so far. -/
theorem decides_declareFunction {name : String} {signature : Signature}
    (stands : analyzer.Stands around) :
    Decides (declareFunction name signature) analyzer around fun _ =>
      Undeclared analyzer.ownFunctions [name] := by
  obtain ⟨scope, found⟩ := ScopeTree.get?_eq_some_of_lt stands.sound.inRange
  have free : (analyzer.scopes.get? analyzer.current).bind (·.functionNamed? name) = none ↔
      Undeclared analyzer.ownFunctions [name] := by
    unfold Analyzer.ownFunctions
    rw [← lookup_eq_none_iff_undeclared, found]
    exact Iff.rfl
  have ended := changeScopes_apply (·.declareFunction · name signature) analyzer
  cases declared : analyzer.scopes.declareFunction analyzer.current name signature with
  | error error =>
    rw [declared] at ended
    refine decides_of_error ended fun _ undeclared => ?_
    rw [ScopeTree.declareFunction_eq_ok_iff.mpr ⟨free.mpr undeclared, rfl⟩] at declared
    cases declared
  | ok next =>
    rw [declared] at ended
    have undeclared := free.mp (ScopeTree.declareFunction_eq_ok_iff.mp declared).1
    exact decides_of_ok ended rfl fun _ => undeclared

end Rules

end TypedImp
