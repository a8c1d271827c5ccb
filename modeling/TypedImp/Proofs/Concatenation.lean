/-
**Parsing tokens one list behind another.**

Each form of statement stops at a last token of its own, and only an `if` looks past its last token,
for an alternative. So tokens that are parsed to a program are parsed to the same statements in
front of any tokens that do not go on with an `if`, and what stands behind them is parsed as if it
stood alone. Positions are those of the tokens, so even an error at their end is the same.

* `stmt_append` — a statement stops at the same token whatever follows.
* `program_append` — the reader of programs goes on behind the first statements.
* `parse_append` — **the parse of two lists is put together from their parses**, and an error in the
  second list is the error of both.
-/

import TypedImp.Proofs.Computation
import TypedImp.Proofs.PromptStmt

namespace TypedImp

open Parsing

/-! ### Reading on behind other tokens -/

section Reading

variable {first later rest : List Token} {body : List Stmt}

/-- Tokens that do not go on with an `if` do not do so behind others that end. -/
theorem head?_append_or (ends : EndsChain later) :
    (rest ++ later).head? = rest.head? ∨ EndsChain (rest ++ later) := by
  cases rest with
  | nil => exact .inr ends
  | cons token rest => exact .inl rfl

/-- A statement stops at the same token whatever follows, but for what goes on with an `if`. -/
theorem stmt_append {value : Stmt} (reads : stmt first = .ok (value, rest))
    (ends : EndsChain later) :
    stmt (first ++ later) = .ok (value, rest ++ later) ∧ rest.length < first.length := by
  obtain ⟨consumed, rfl, _, takes, nothing⟩ :=
    (steadyStmts (first.length + 1)).stmt.success (Nat.lt_succ_self _) reads
  refine ⟨?_, ?_⟩
  · rw [List.append_assoc]
    exact takes _ (head?_append_or ends)
  · rw [List.length_append]
    exact Nat.lt_add_of_pos_left (List.length_pos_iff.mpr nothing)

/-- A program that is not empty is a statement and a program. -/
theorem program_of_filled (filled : first ≠ []) :
    program first = (do
      let stmt ← stmt
      let further ← program
      return stmt :: further : Parsing (List Stmt)) first := by
  obtain ⟨token, behind, rfl⟩ := List.exists_cons_of_ne_nil filled
  exact congrFun program_eq (token :: behind)

theorem exists_of_program (filled : first ≠ []) (reads : program first = .ok (body, [])) :
    ∃ value rest further, stmt first = .ok (value, rest) ∧ program rest = .ok (further, []) ∧
      body = value :: further := by
  rw [program_of_filled filled, Parsing.bind_apply] at reads
  split at reads
  · rename_i value rest readsFirst
    rw [Parsing.bind_apply] at reads
    split at reads
    · rename_i further left readsRest
      cases reads
      exact ⟨value, rest, further, readsFirst, readsRest, rfl⟩
    · cases reads
  · cases reads

/-- **The reader of programs goes on behind the statements that it has read.** -/
theorem program_append (reads : program first = .ok (body, [])) (ends : EndsChain later) :
    program (first ++ later) =
      (program later).map fun (further, left) => (body ++ further, left) := by
  -- Each statement leaves fewer tokens of the first list.
  induction size : first.length using Nat.strongRecOn generalizing first body with
  | ind size ih =>
    by_cases filled : first = []
    · subst filled
      rw [program_eq] at reads
      cases reads
      rw [List.nil_append]
      cases program later <;> rfl
    · obtain ⟨value, rest, further, readsFirst, readsRest, rfl⟩ := exists_of_program filled reads
      obtain ⟨readsAlike, shorter⟩ := stmt_append readsFirst ends
      rw [program_of_filled (List.append_ne_nil_of_left_ne_nil filled later), bind_of_ok readsAlike,
        Parsing.bind_apply, ih _ (size ▸ shorter) readsRest rfl]
      cases program later <;> rfl

end Reading

/-! ### Errors behind other tokens -/

/-- An error is the same behind other tokens: it is put at a token that is left, or else at the last
one. -/
theorem stuck_error_append {first later : List Token} (filled : later ≠ []) (stuck : Stuck) :
    stuck.error (first ++ later) = stuck.error later := by
  unfold Stuck.error positionAt
  rw [List.getLast?_append_of_ne_nil _ filled]

/-- **The parse of two lists of tokens is put together from their parses**, if the second does
not go on with an `if`: the statements of the first stand before those of the second, and an
error of the second is the error of both. -/
theorem parse_append {first later : List Token} {program : Program}
    (parsed : parse first = .ok program) (ends : EndsChain later) :
    parse (first ++ later) = (parse later).map fun further => ⟨program.body ++ further.body⟩ := by
  have reads := program_append (parse_eq_ok_iff.mp parsed) ends
  cases outcome : parse later with
  | ok further =>
    rw [parse_eq_ok_iff.mp outcome] at reads
    exact parse_eq_ok_iff.mpr reads
  | error error =>
    obtain ⟨stuck, stops, rfl⟩ := parse_eq_error_iff.mp outcome
    have filled : later ≠ [] := by
      rintro rfl
      rw [program_eq] at stops
      cases stops
    rw [stops] at reads
    exact parse_eq_error_iff.mpr ⟨stuck, reads, stuck_error_append filled stuck⟩

/-- The text `if (true) {}` with `if (` on a second line, where the tokens end too early. -/
theorem parse_append_chain :
    let first : List Token := [⟨.keyword, "if", ⟨1, 1⟩⟩, ⟨.parenthesis, "(", ⟨1, 4⟩⟩,
      ⟨.boolean, "true", ⟨1, 5⟩⟩, ⟨.parenthesis, ")", ⟨1, 9⟩⟩, ⟨.brackets, "\x7b", ⟨1, 11⟩⟩,
      ⟨.brackets, "\x7d", ⟨1, 12⟩⟩]
    let later : List Token := [⟨.keyword, "if", ⟨2, 1⟩⟩, ⟨.parenthesis, "(", ⟨2, 4⟩⟩]
    EndsChain later ∧
      (parse later).map (fun _ => ()) = .error ⟨"expression", "end of input", ⟨2, 4⟩⟩ ∧
      ∃ program, parse first = .ok program ∧
        parse (first ++ later) =
          (parse later).map fun further => ⟨program.body ++ further.body⟩ := by
  intro first later
  have accepted : ∃ program, parse first = .ok program :=
    exists_eq_ok_of_toBool (by decide +kernel)
  have fails : (parse later).map (fun _ => ()) =
      .error ⟨"expression", "end of input", ⟨2, 4⟩⟩ := by decide +kernel
  have ends : EndsChain later := by
    rintro token ⟨⟩
    decide
  obtain ⟨program, parsed⟩ := accepted
  exact ⟨ends, fails, program, parsed, parse_append parsed ends⟩

end TypedImp
