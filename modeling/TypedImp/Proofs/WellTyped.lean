/-
**An analysis accepts the well-typed programs.**

At the end of the walk over a program the finished tree shows the functions that the rules speak of,
so the decision of the walk is the verdict of the type system.

* `analyze_of_error`, `analyze_of_ok` — an analysis is the first pass and then the second.
* `Leaves.analyze` — what the first pass leaves behind is the error of the analysis, or the queue for
  the second pass.
* `analyze_eq_ok_iff` — an analysis succeeds exactly when the program obeys the rules and its calls
  fit under the limit.
* `analyze_succeeds_iff_wellTyped` — **under a limit that its calls do not exceed, a program passes
  both passes exactly when it is well typed.**
-/

import TypedImp.Proofs.Walk

namespace TypedImp

open Analyzer

/-- A new analyzer stands at the start of a program. -/
theorem stands_start (limit : Nat) (body : List Stmt) : (start limit).Stands (.top body) := by
  have sound := sound_start limit
  have chain : (start limit).scopes.ancestors (start limit).current =
      [.fresh ScopeTree.globalId .global none] :=
    ScopeTree.ancestors_of_get? sound.formed rfl
  refine ⟨sound, ?_, ?_, rfl, rfl⟩
  · rw [chain]
    rfl
  · show ((start limit).scopes.ancestors (start limit).current).findSome? _ = none
    rw [chain]
    rfl

/-- The finished tree shows from the global scope the functions of the program. -/
theorem shows_top {limit : Nat} {body : List Stmt} {bindings : List (String × DataType)}
    {after : Analyzer} (passes : Passes bindings (declaredSignatures body) (start limit) after) :
    after.scopes.Shows (start limit).current (.top body) := by
  have sound := sound_start limit
  have globalScope : (start limit).scopes.get? (start limit).current =
      some (.fresh ScopeTree.globalId .global none) := rfl
  obtain ⟨grown, found, growing⟩ :=
    (ScopeTree.grows_of_reaches passes.scopes.reaches).scope globalScope
  have signatures : grown.signatures = declaredSignatures body :=
    (passes.scopes.own globalScope found).signatures
  have outermost : grown.parent = none := growing.parent
  unfold ScopeTree.Shows
  rw [ScopeTree.ancestors_of_get? (passes.sound sound).formed found, outermost, List.map_cons,
    signatures]
  rfl

/-- The second pass succeeds when all entries are resolved in the finished tree. -/
theorem outcome_drain_eq_ok_iff {analyzer : Analyzer} (idle : analyzer.activation = .idle) :
    outcome drain analyzer = .ok () ↔
      ∀ entry ∈ analyzer.pending, entry.Resolves analyzer.scopes analyzer.limit := by
  unfold Pending.Resolves outcome
  rw [← idle]
  constructor
  · intro succeeds
    cases drained : drain analyzer with
    | error error last =>
      rw [drained] at succeeds
      cases succeeds
    | ok nothing last => exact (drain_eq_ok_iff.mp drained).1
  · intro resolve
    rw [drain_eq_ok_iff.mpr ⟨resolve, rfl⟩]

/-- The first pass fails, and the analysis with it. -/
theorem analyze_of_error {program : Program} {limit : Nat} {error : SemanticError}
    {after : Analyzer} (ended : checkProgram program (start limit) = .error error after) :
    analyze program limit = .error error := by
  unfold analyze
  rw [bind_apply, ended]

/-- The first pass succeeds, and the second one follows. It leaves the tree as it is. -/
theorem analyze_of_ok {program : Program} {limit : Nat} {after : Analyzer}
    (ended : checkProgram program (start limit) = .ok () after) :
    analyze program limit = (outcome drain after).map fun _ => after.scopes := by
  unfold analyze outcome
  rw [bind_apply, ended]
  dsimp only
  cases drained : drain after with
  | error error last => rfl
  | ok nothing last =>
    obtain ⟨_, rfl⟩ := drain_eq_ok_iff.mp drained
    rfl

/-- **What the first pass leaves behind** is the error of the analysis, or the queue that the second
pass works off in the finished tree. -/
theorem Leaves.analyze {program : Program} {limit : Nat} {failed : SemanticError → Prop}
    {left : List Pending → ScopeTree → Prop}
    (leaves : Leaves (checkProgram program) (start limit) (.top program.body) failed left) :
    (∃ error, analyze program limit = .error error ∧ failed error) ∨
      ∃ after, analyze program limit = (outcome drain after).map (fun _ => after.scopes) ∧
        left after.pending after.scopes ∧ after.activation = .idle ∧ after.limit = limit := by
  unfold Leaves at leaves
  cases ended : checkProgram program (start limit) with
  | error error after =>
    rw [ended] at leaves
    exact .inl ⟨error, analyze_of_error ended, leaves⟩
  | ok nothing after =>
    rw [ended] at leaves
    obtain ⟨added, queued, means⟩ := leaves
    have passes := (firstPass_checkStmts [] 0 program.body).passes (sound_start limit).inRange ended
    have queue : after.pending = added := queued.trans (List.append_nil added)
    refine .inr ⟨after, analyze_of_ok ended, ?_, passes.activation, passes.limit⟩
    rw [queue]
    exact means .refl (ScopeTree.settled_self _ _) (shows_top passes)

/-- **An analysis succeeds exactly when the program obeys the rules and its calls fit.** -/
theorem analyze_eq_ok_iff {program : Program} {limit : Nat} :
    (∃ tree, analyze program limit = .ok tree) ↔
      program.WellTyped ∧ program.callDepth ≤ limit := by
  have fits : BodyFits (start limit).ownFunctions (.top program.body) program.body limit ↔
      program.WellTyped ∧ program.callDepth ≤ limit := bodyFits_iff rfl
  have decides : Decides (checkProgram program) (start limit) (.top program.body) _ :=
    decides_checkStmts program.body (stands_start limit program.body)
  rw [← fits]
  obtain ⟨error, ended, never⟩ | ⟨after, ended, means, idle, bound⟩ :=
    (decides_iff_leaves.mp decides).analyze
  · rw [ended]
    exact iff_of_false nofun (never limit)
  · rw [ended, ← means limit, ← bound, ← outcome_drain_eq_ok_iff idle]
    cases outcome drain after with
    | error error => exact iff_of_false nofun nofun
    | ok nothing => exact iff_of_true ⟨_, rfl⟩ rfl

/-- **Under a limit that its calls do not exceed, a program passes both passes exactly when it is
well typed.** -/
theorem analyze_succeeds_iff_wellTyped {program : Program} {limit : Nat}
    (within : program.callDepth ≤ limit) :
    (∃ tree, analyze program limit = .ok tree) ↔ program.WellTyped := by
  rw [analyze_eq_ok_iff]
  exact and_iff_left within

/-- A function is called before its declaration, from the initializer of a variable. -/
theorem analyze_succeeds_iff_wellTyped_forward :
    let program : Program := ⟨[
      .variableDecl .int "x" (.binary "+" (.call "f" [.literal .int "1"]) (.literal .int "2")),
      .functionDecl .int "f" [⟨"y", .int⟩] [.returnValue (some (.identifier "y"))]]⟩
    program.callDepth ≤ 1 ∧ (∃ tree, analyze program 1 = .ok tree) ∧ program.WellTyped := by
  intro program
  have within : program.callDepth ≤ 1 := by decide
  have succeeds : ∃ tree, analyze program 1 = .ok tree :=
    exists_eq_ok_of_toBool (by decide +kernel)
  exact ⟨within, succeeds, (analyze_succeeds_iff_wellTyped within).mp succeeds⟩

end TypedImp
