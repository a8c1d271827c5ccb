/-
**Both passes agree on every expression.**

The first pass checks an expression against the tree as it stands, the second one against the
finished tree, from the site of the expression. In between the tree may have grown in any way: the
second pass sees the same variables (`Sound.sees_site`), and of the functions the first pass has
said nothing.

* `checkOccurrence_agrees` — **a known type is what the second pass finds, exactly when the entries
  put on the queue are resolved; an expression that waits adds no entry; an error is found again.**
-/

import TypedImp.Proofs.ReachableStates

namespace TypedImp

open Analyzer

/-- **The first pass agrees with the second one on every expression**, in every reachable state, for
every tree that comes later and under every limit. -/
theorem checkOccurrence_agrees {analyzer : Analyzer} (reachable : analyzer.Reachable)
    {later : ScopeTree} (grown : ScopeTree.Reaches analyzer.scopes later) (limit : Nat)
    (place : Place) (expr : Expr) :
    match checkOccurrence ⟨place, expr⟩ analyzer with
    | .ok (.known type) after =>
      ∃ added, after.pending = added ++ analyzer.pending ∧
        ((∃ received,
            outcome (resolveType later limit analyzer.site place expr) .idle = .ok received) ↔
          ∀ entry ∈ added, outcome (resolvePending later limit entry) .idle = .ok ()) ∧
        ∀ received,
          outcome (resolveType later limit analyzer.site place expr) .idle = .ok received →
            received = type
    | .ok .deferred after => after.pending = analyzer.pending
    | .error _ _ =>
      ∃ error, outcome (resolveType later limit analyzer.site place expr) .idle = .error error := by
  have sees := reachable.sound.sees_site (ScopeTree.grows_of_reaches grown)
  have guessed := guessed_checkExpr analyzer.scopes analyzer.current place analyzer.pending expr
  have typed : ∀ received,
      outcome (resolveType later limit analyzer.site place expr) .idle = .ok received ↔
        TypedWithin (later.view analyzer.site) limit expr received :=
    fun received => resolved_idle_eq_ok_iff
  unfold checkOccurrence
  dsimp only
  cases ended : checkExpr analyzer.scopes analyzer.current place expr analyzer.pending with
  | error error queue =>
    rw [ended] at guessed
    cases end' : outcome (resolveType later limit analyzer.site place expr) .idle with
    | error other => exact ⟨other, rfl⟩
    | ok received => exact absurd ((typed received).mp end') (guessed _ sees limit received)
  | ok checked queue =>
    rw [ended] at guessed
    cases checked with
    | deferred => exact guessed
    | known type =>
      obtain ⟨added, queued, stands, means⟩ := guessed
      refine ⟨added, queued, ?_, fun received found => ?_⟩
      · refine Iff.trans ?_ (resolves_iff_of_site stands).symm
        constructor
        · rintro ⟨received, found⟩
          exact ((means _ sees limit received).mp ((typed received).mp found)).2
        · intro met
          exact ⟨type, (typed type).mpr ((means _ sees limit type).mpr ⟨rfl, met⟩)⟩
      · exact ((means _ sees limit received).mp ((typed received).mp found)).1

/-- A comparison with a call of a function that is declared later, among other names. -/
theorem checkOccurrence_agrees_comparison :
    let analyzer := finalState (declareVariable "x" .int) (start 1)
    let signature : Signature := ⟨[⟨"y", .int⟩], .int⟩
    let later := (analyzer.scopes.perform (.declareFunction 0 "f" signature)).perform
      (.addChild 0 .block)
    let expr : Expr := .binary "<" (.identifier "x") (.call "f" [.identifier "x"])
    let entry : Pending := ⟨⟨[1], .call "f" [.identifier "x"]⟩, analyzer.site,
      .binaryOperand "<" (.known .int) false⟩
    analyzer.Reachable ∧ ScopeTree.Reaches analyzer.scopes later ∧
      checkOccurrence ⟨[], expr⟩ analyzer =
        .ok (.known .boolean) { analyzer with pending := [entry] } ∧
      outcome (resolvePending later 1 entry) .idle = .ok () ∧
      outcome (resolveType later 1 analyzer.site [] expr) .idle = .ok .boolean := by
  intro analyzer signature later expr entry
  have reachable : analyzer.Reachable := (reachable_start 1).step (.declareVariable "x" .int)
  have grown : ScopeTree.Reaches analyzer.scopes later :=
    .tail (.single ⟨.declareFunction 0 "f" signature, by decide, rfl⟩)
      ⟨.addChild 0 .block, by decide, rfl⟩
  have checked : checkOccurrence ⟨[], expr⟩ analyzer =
      .ok (.known .boolean) { analyzer with pending := [entry] } := by
    have found : analyzer.scopes.lookupVariable analyzer.current "x" = some ⟨.int, 0⟩ := by
      decide +kernel
    unfold checkOccurrence
    simp only [expr, checkExpr, found, variableType]
    rfl
  have resolves : outcome (resolvePending later 1 entry) .idle = .ok () := by
    decide +kernel
  have agrees := checkOccurrence_agrees reachable grown 1 [] expr
  rw [checked] at agrees
  obtain ⟨added, queued, succeeds, yields⟩ := agrees
  obtain rfl : [entry] = added := by
    rw [← List.append_nil added]
    exact queued
  obtain ⟨received, found⟩ := succeeds.mpr (List.forall_mem_singleton.mpr resolves)
  refine ⟨reachable, grown, checked, resolves, ?_⟩
  rw [found, yields received found]

end TypedImp
