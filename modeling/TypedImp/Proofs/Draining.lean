/-
**The queue is worked off entry by entry.**

An entry of the queue is resolved in the tree as it stands and under the calls under way, and both
are afterwards what they were before, also when the entry fails. So the entries do not know of each
other: each one succeeds or fails as it does alone, and only which of several failures is met first
depends on their order.

* `Analyzer.resolveEntry` — resolves one entry, whatever is on the queue.
* `restores_resolveEntry` — **it leaves the analyzer as it is**, also when it fails.
* `drainEach_eq_error_iff` — the queue fails with the first entry that fails alone; that one and the
  newer ones are off the queue then, and nothing else has changed.
* `drain_exact` — **both ways in which the queue is worked off, and that its order does not matter
  for which of them it is.**
-/

import TypedImp.Proofs.Failures
import TypedImp.Proofs.Resolution

namespace TypedImp

namespace Analyzer

/-! ### One entry alone -/

section FollowCalls

variable {α : Type} {inside : ScopeTree → Nat → Resolving α}

theorem outcome_followCalls (restores : ∀ tree limit, Restores (inside tree limit))
    (analyzer : Analyzer) :
    outcome (followCalls inside) analyzer =
      outcome (inside analyzer.scopes analyzer.limit) analyzer.activation := by
  rw [outcome, followCalls_apply analyzer (restores _ _)]
  cases outcome (inside analyzer.scopes analyzer.limit) analyzer.activation <;> rfl

/-- Following calls leaves the analyzer as it is if it leaves the calls under way as they are. -/
theorem restores_followCalls (restores : ∀ tree limit, Restores (inside tree limit)) :
    Restores (followCalls inside) := by
  intro analyzer
  rw [outcome_followCalls restores, followCalls_apply analyzer (restores _ _)]
  cases outcome (inside analyzer.scopes analyzer.limit) analyzer.activation <;> rfl

end FollowCalls

/-- Resolves an entry as the analyzer stands. -/
def resolveEntry (entry : Pending) : Analysis Unit :=
  followCalls fun tree limit => resolvePending tree limit entry

theorem outcome_resolveEntry (entry : Pending) (analyzer : Analyzer) :
    outcome (resolveEntry entry) analyzer =
      outcome (resolvePending analyzer.scopes analyzer.limit entry) analyzer.activation :=
  outcome_followCalls (fun tree limit => restores_resolvePending tree limit entry) analyzer

/-- **Resolving an entry leaves the analyzer as it is**, also when the entry fails. -/
theorem restores_resolveEntry (entry : Pending) : Restores (resolveEntry entry) :=
  restores_followCalls fun tree limit => restores_resolvePending tree limit entry

/-- What is on the queue does not matter for an entry. -/
theorem outcome_resolveEntry_withQueue (entry : Pending) (analyzer : Analyzer)
    (queue : List Pending) :
    outcome (resolveEntry entry) { analyzer with pending := queue } =
      outcome (resolveEntry entry) analyzer := by
  rw [outcome_resolveEntry, outcome_resolveEntry]

/-! ### The queue -/

/-- One entry is taken off and resolved, and then the older ones if it succeeds. -/
theorem drainEach_cons (entry : Pending) (older : List Pending) (analyzer : Analyzer) :
    drainEach (entry :: older) analyzer =
      match outcome (resolveEntry entry) analyzer with
      | .ok _ => drainEach older { analyzer with pending := older }
      | .error error => .error error { analyzer with pending := older } := by
  show (resolveEntry entry >>= fun _ => drainEach older) { analyzer with pending := older } = _
  rw [bind_apply, restores_resolveEntry, outcome_resolveEntry_withQueue]
  cases outcome (resolveEntry entry) analyzer <;> rfl

/-- **The queue fails with its first entry that fails alone.** The older entries stay. -/
theorem drainEach_eq_error_iff {entries : List Pending} {analyzer final : Analyzer}
    {error : SemanticError} :
    drainEach entries analyzer = .error error final ↔
      ∃ newer entry older, entries = newer ++ entry :: older ∧
        (∀ other ∈ newer, outcome (resolveEntry other) analyzer = .ok ()) ∧
        outcome (resolveEntry entry) analyzer = .error error ∧
        final = { analyzer with pending := older } := by
  induction entries generalizing analyzer with
  | nil =>
    refine iff_of_false nofun ?_
    rintro ⟨newer, entry, older, split, _⟩
    exact List.cons_ne_nil _ _ (List.append_eq_nil_iff.mp split.symm).2
  | cons first rest ih =>
    rw [drainEach_cons]
    cases ended : outcome (resolveEntry first) analyzer with
    | error other =>
      dsimp only
      constructor
      · intro failed
        cases failed
        exact ⟨[], first, rest, rfl, List.forall_mem_nil _, ended, rfl⟩
      · rintro ⟨newer, entry, older, split, succeed, fails, rfl⟩
        cases newer with
        | nil =>
          obtain ⟨rfl, rfl⟩ := List.cons_eq_cons.mp split
          rw [ended] at fails
          cases fails
          rfl
        | cons newest newer =>
          obtain ⟨rfl, _⟩ := List.cons_eq_cons.mp split
          rw [succeed first List.mem_cons_self] at ended
          cases ended
    | ok nothing =>
      dsimp only
      rw [ih]
      simp only [outcome_resolveEntry_withQueue]
      constructor
      · rintro ⟨newer, entry, older, rfl, succeed, fails, rfl⟩
        exact ⟨first :: newer, entry, older, rfl, List.forall_mem_cons.mpr ⟨ended, succeed⟩, fails,
          rfl⟩
      · rintro ⟨newer, entry, older, split, succeed, fails, rfl⟩
        cases newer with
        | nil =>
          obtain ⟨rfl, _⟩ := List.cons_eq_cons.mp split
          rw [ended] at fails
          cases fails
        | cons newest newer =>
          obtain ⟨_, rfl⟩ := List.cons_eq_cons.mp split
          exact ⟨newer, entry, older, rfl, (List.forall_mem_cons.mp succeed).2, fails, rfl⟩

/-- The errors of the queue are those of its entries. -/
theorem failsWith_drain {kind : SemanticError → Prop} {analyzer : Analyzer}
    (each : ∀ entry ∈ analyzer.pending, FailsWith kind
      (outcome (resolvePending analyzer.scopes analyzer.limit entry) analyzer.activation)) :
    FailsWith kind (outcome drain analyzer) := by
  unfold outcome
  cases ended : drain analyzer with
  | ok nothing after => exact .ok nothing
  | error error after =>
    obtain ⟨newer, entry, older, split, _, fails, _⟩ := drainEach_eq_error_iff.mp ended
    have queued : entry ∈ analyzer.pending := by
      rw [split]
      exact List.mem_append_right _ List.mem_cons_self
    rw [outcome_resolveEntry] at fails
    exact .error (each entry queued error fails)

/-- The queue is worked off when every entry succeeds alone. -/
theorem drain_eq_ok_iff_forall {analyzer final : Analyzer} :
    drain analyzer = .ok () final ↔
      (∀ entry ∈ analyzer.pending, outcome (resolveEntry entry) analyzer = .ok ()) ∧
        final = { analyzer with pending := [] } := by
  simp only [outcome_resolveEntry]
  exact drain_eq_ok_iff

/-- Whether the queue is worked off says nothing of the order of its entries. -/
theorem exists_drain_eq_ok_iff {analyzer : Analyzer} {queue : List Pending} :
    (∃ final, drain { analyzer with pending := queue } = .ok () final) ↔
      ∀ entry ∈ queue, outcome (resolveEntry entry) analyzer = .ok () := by
  simp only [drain_eq_ok_iff_forall, outcome_resolveEntry_withQueue, exists_and_left,
    exists_eq, and_true]

/-- **Working off the queue is independent of its order in its verdict, and exact in its failure.**
It succeeds when every entry succeeds alone, and then the queue is empty and nothing else has
changed. It fails with the error of the newest entry that fails alone, and then the entries older
than that one are left and nothing else has changed. -/
theorem drain_exact (analyzer : Analyzer) :
    (∀ final, drain analyzer = .ok () final ↔
      (∀ entry ∈ analyzer.pending, outcome (resolveEntry entry) analyzer = .ok ()) ∧
        final = { analyzer with pending := [] }) ∧
    (∀ error final, drain analyzer = .error error final ↔
      ∃ newer entry older, analyzer.pending = newer ++ entry :: older ∧
        (∀ other ∈ newer, outcome (resolveEntry other) analyzer = .ok ()) ∧
        outcome (resolveEntry entry) analyzer = .error error ∧
        final = { analyzer with pending := older }) ∧
    ∀ queue, queue.Perm analyzer.pending →
      ((∃ final, drain { analyzer with pending := queue } = .ok () final) ↔
        ∃ final, drain analyzer = .ok () final) := by
  refine ⟨fun final => drain_eq_ok_iff_forall, fun error final => drainEach_eq_error_iff,
    fun queue permuted => ?_⟩
  have own : (∃ final, drain analyzer = .ok () final) ↔
      ∀ entry ∈ analyzer.pending, outcome (resolveEntry entry) analyzer = .ok () :=
    exists_drain_eq_ok_iff
  rw [exists_drain_eq_ok_iff, own]
  exact forall_congr' fun entry => by rw [permuted.mem_iff]

/-- Two entries that fail, with one that succeeds before them, and the same queue turned around. -/
theorem drain_exact_reversed :
    let fits : Pending := ⟨⟨[0], .literal .int "1"⟩, ⟨ScopeTree.globalId, 0⟩, .bare⟩
    let first : Pending := ⟨⟨[1], .literal .int "2"⟩, ⟨ScopeTree.globalId, 0⟩, .condition⟩
    let second : Pending := ⟨⟨[2], .identifier "x"⟩, ⟨ScopeTree.globalId, 0⟩, .bare⟩
    let analyzer : Analyzer := { start 1 with pending := [fits, first, second] }
    drain analyzer = .error (.nonBooleanCondition .int) { analyzer with pending := [second] } ∧
      ¬ ∃ final, drain { analyzer with pending := [second, first, fits] } = .ok () final := by
  intro fits first second analyzer
  obtain ⟨_, fails, permuted⟩ := drain_exact analyzer
  have ended := (fails (.nonBooleanCondition .int) _).mpr ⟨[fits], first, [second], rfl,
    List.forall_mem_singleton.mpr rfl, rfl, rfl⟩
  have turned : [second, first, fits].Perm analyzer.pending := List.reverse_perm analyzer.pending
  refine ⟨ended, fun succeeds => ?_⟩
  obtain ⟨final, succeeds⟩ := (permuted _ turned).mp succeeds
  rw [ended] at succeeds
  cases succeeds

end Analyzer

end TypedImp
