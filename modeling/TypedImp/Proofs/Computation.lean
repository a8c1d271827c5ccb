/-
**Computations that may fail.**

The passes of the analysis are written in two monads: `Except`, for a value or an error, and
`EStateM`, where besides a state is passed on, which an error leaves as it is. This module holds
what is used of them in all proofs.

* `outcome` — how a computation ends, without the state in which it ends.
* `finalState` — the state in which a computation ends.
* `Restores` — the computation ends in the state in which it began, whether it fails or not. Such
  computations can be followed by their outcomes alone (`Restores.outcome_bind`).
-/

namespace TypedImp

variable {ε σ α β : Type}

theorem except_bind_eq_ok_iff {first : Except ε α} {next : α → Except ε β} {result : β} :
    first >>= next = .ok result ↔ ∃ value, first = .ok value ∧ next value = .ok result := by
  cases first <;> simp [bind, Except.bind]

/-- Whether there is a value can be evaluated where the values cannot be compared. -/
theorem exists_eq_ok_of_toBool {result : Except ε α} (succeeds : result.toBool = true) :
    ∃ value, result = .ok value := by
  cases result with
  | ok value => exact ⟨value, rfl⟩
  | error error => cases succeeds

/-- The first part runs, and then the next one unless there is an error. -/
theorem bind_apply (first : EStateM ε σ α) (next : α → EStateM ε σ β) (state : σ) :
    (first >>= next) state =
      match first state with
      | .ok value middle => next value middle
      | .error error middle => .error error middle := rfl

theorem bind_eq_ok_iff {first : EStateM ε σ α} {next : α → EStateM ε σ β} {state final : σ}
    {result : β} :
    (first >>= next) state = .ok result final ↔
      ∃ value middle, first state = .ok value middle ∧ next value middle = .ok result final := by
  rw [bind_apply]
  constructor
  · intro ended
    split at ended
    · rename_i value middle head
      exact ⟨value, middle, head, ended⟩
    · cases ended
  · rintro ⟨value, middle, head, tail⟩
    rw [head]
    exact tail

theorem ofExcept_apply (value : Except ε α) (state : σ) :
    (MonadExcept.ofExcept value : EStateM ε σ α) state =
      match value with
      | .ok value => .ok value state
      | .error error => .error error state := by
  cases value <;> rfl

theorem ofExcept_eq_ok_iff {value : Except ε α} {state final : σ} {result : α} :
    (MonadExcept.ofExcept value : EStateM ε σ α) state = .ok result final ↔
      value = .ok result ∧ final = state := by
  rw [ofExcept_apply]
  cases value with
  | error error => exact iff_of_false nofun nofun
  | ok value =>
    constructor
    · rintro ⟨⟩
      exact ⟨rfl, rfl⟩
    · rintro ⟨⟨⟩, rfl⟩
      rfl

/-! ### Outcomes -/

/-- How a computation ends, without the state in which it ends. -/
def outcome (computation : EStateM ε σ α) (state : σ) : Except ε α :=
  match computation state with
  | .ok value _ => .ok value
  | .error error _ => .error error

/-- The state in which a computation ends, also when it fails. -/
def finalState (computation : EStateM ε σ α) (state : σ) : σ :=
  match computation state with
  | .ok _ final => final
  | .error _ final => final

/-- What holds of the state in which the first computation ends, and of the state behind the second
one whenever there is a second one, holds of the state in which both end. -/
theorem finalState_bind {holds : σ → Prop} {first : EStateM ε σ α} {next : α → EStateM ε σ β}
    {state : σ} (early : holds (finalState first state))
    (late : ∀ value middle, first state = .ok value middle → holds middle →
      holds (finalState (next value) middle)) :
    holds (finalState (first >>= next) state) := by
  unfold finalState at early ⊢
  rw [bind_apply]
  cases ended : first state with
  | error error middle =>
    rw [ended] at early
    exact early
  | ok value middle =>
    rw [ended] at early
    exact late value middle ended early

/-- The computation ends in the state in which it began, also when it fails. -/
def Restores (computation : EStateM ε σ α) : Prop :=
  ∀ state, computation state =
    match outcome computation state with
    | .ok value => .ok value state
    | .error error => .error error state

/-- Whether a computation succeeds can be read off its outcome. -/
theorem exists_eq_ok_of_outcome {computation : EStateM ε σ α} {state : σ}
    (succeeds : (outcome computation state).toBool = true) :
    ∃ value final, computation state = .ok value final := by
  unfold outcome at succeeds
  cases ended : computation state with
  | ok value final => exact ⟨value, final, rfl⟩
  | error error final =>
    rw [ended] at succeeds
    cases succeeds

theorem Restores.finalState_eq {computation : EStateM ε σ α} (restores : Restores computation)
    (state : σ) : finalState computation state = state := by
  rw [finalState, restores state]
  cases outcome computation state <;> rfl

theorem restores_pure (value : α) : Restores (pure value : EStateM ε σ α) :=
  fun _ => rfl

theorem restores_ofExcept (value : Except ε α) :
    Restores (MonadExcept.ofExcept value : EStateM ε σ α) := by
  intro state
  cases value <;> rfl

theorem Restores.bind {first : EStateM ε σ α} {next : α → EStateM ε σ β}
    (head : Restores first) (tail : ∀ value, Restores (next value)) :
    Restores (first >>= next) := by
  intro state
  have headEnd := head state
  unfold outcome
  rw [bind_apply]
  cases ended : outcome first state with
  | error error =>
    rw [ended] at headEnd
    rw [headEnd]
  | ok value =>
    rw [ended] at headEnd
    rw [headEnd]
    exact tail value state

theorem outcome_ofExcept (value : Except ε α) (state : σ) :
    outcome (MonadExcept.ofExcept value : EStateM ε σ α) state = value := by
  cases value <;> rfl

/-- Computations that restore the state are run one after another from the same state. -/
theorem Restores.outcome_bind {first : EStateM ε σ α} (head : Restores first)
    (next : α → EStateM ε σ β) (state : σ) :
    outcome (first >>= next) state =
      outcome first state >>= fun value => outcome (next value) state := by
  have headEnd := head state
  unfold outcome
  rw [bind_apply]
  cases ended : outcome first state <;> rw [ended] at headEnd <;> rw [headEnd] <;> rfl

end TypedImp
