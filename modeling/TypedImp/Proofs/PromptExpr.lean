/-
**The readers of expressions are prompt.**

What they read spells the expression, with whatever brackets there were. They stop for good in front
of tokens that belong to no expression; how an expression goes on is settled by the next token. The
proof goes along a bound on the tokens: each reader calls itself, or one before it in the grammar, for
fewer tokens than its own.

* `SteadyExprs` — what is shown of all readers that call each other, for a bound.
* `steadyExprs` — **the promises hold for every bound.**
* `prompt_expr` — **the reader of expressions is prompt.**
-/

import TypedImp.Proofs.Prompt
import TypedImp.Proofs.RoundTrip

namespace TypedImp

open Parsing

/-! ### What is read -/

/-- What the operator loop reads behind `left` spells, behind the lexemes of `left`, the result. -/
def Continues (left result : Expr) (later : List String) : Prop :=
  ∀ lexemes, Spells .optional left lexemes → Spells .optional result (lexemes ++ later)

/-- The lexemes spell one or more expressions with commas between them. -/
def SpellsArguments (arguments : List Expr) (lexemes : List String) : Prop :=
  arguments ≠ [] ∧ ArgumentsSpelling .optional arguments lexemes

/-- The lexemes spell the arguments of a call and the parentheses around them. -/
def SpellsCall (callee : String) (result : Expr) (lexemes : List String) : Prop :=
  ∃ arguments inner, result = .call callee arguments ∧
    ArgumentsSpelling .optional arguments inner ∧ lexemes = "(" :: (inner ++ [")"])

theorem Spelling.ne_nil {brackets : Brackets} {enclosed : Bool} {expr : Expr}
    {lexemes : List String} (spelt : Spelling brackets enclosed expr lexemes) : lexemes ≠ [] := by
  cases spelt <;> simp

theorem Spells.length_pos {brackets : Brackets} {expr : Expr} {lexemes : List String}
    (spelt : Spells brackets expr lexemes) : 0 < lexemes.length :=
  spelt.elim fun _ spelling => List.length_pos_iff.mpr spelling.ne_nil

theorem heads_stops {word : String} (ends : word ∈ [";", ",", ")"]) {tokens : List Token}
    (heads : Heads word tokens) : Stops 0 tokens := by
  cases tokens with
  | nil => cases heads
  | cons token behind =>
    have is : token.lexeme = word := by simpa [Heads] using heads
    exact stops_of_lexeme (is ▸ ends) behind

/-! ### Samples -/

/-- The shortest expression. -/
theorem sampled_expr (minimum : Nat) :
    Sampled EndsChain (Stops 0) (Spells .optional) (expr minimum) := by
  have written : IsLiteral .int "1" := by decide
  have carries : (Token.ofLexeme "1").Carries "1" := ⟨rfl, by decide⟩
  have known : literalType? .int = some .int := rfl
  refine ⟨[Token.ofLexeme "1"], .literal .int "1", ⟨false, .literal known⟩, ?_, ?_⟩
  · intro later stops
    exact (expr_of_literal written carries later).trans
      (operators_of_halts (stops.halts.mono (Nat.zero_le _)))
  · rintro later _ _ ⟨⟩
    decide

theorem sampled_operators (minimum : Nat) (left : Expr) :
    Sampled (Stops 0) (Stops 0) (Continues left) (operators minimum left) := by
  refine ⟨[], left, fun lexemes spelt => by rwa [lexemesOf, List.map_nil, List.append_nil], ?_, ?_⟩
  · exact fun later stops => operators_of_halts (stops.halts.mono (Nat.zero_le _))
  · exact fun later stops => stops

/-! ### The readers -/

/-- The promises about the readers of expressions that call each other, for a bound. -/
structure SteadyExprs (bound : Nat) : Prop where
  expr : ∀ minimum, Steady False bound (Stops 0) (Spells .optional) (Parsing.expr minimum)
  operators : ∀ minimum left,
    Steady True bound (Stops 0) (Continues left) (Parsing.operators minimum left)
  arguments : Steady False bound (Heads ")") SpellsArguments Parsing.arguments

section Readers

variable {idle : Prop} {bound : Nat}

theorem SteadyExprs.mono (steady : SteadyExprs bound) {smaller : Nat} (within : smaller ≤ bound) :
    SteadyExprs smaller where
  expr minimum := (steady.expr minimum).mono id within fun _ _ => id
  operators minimum left := (steady.operators minimum left).mono id within fun _ _ => id
  arguments := steady.arguments.mono id within fun _ _ => id

theorem SteadyExprs.promptExpr (steady : SteadyExprs bound) (minimum : Nat) :
    Prompt idle bound EndsChain (Stops 0) (Spells .optional) (Parsing.expr minimum) :=
  ⟨sampled_expr minimum, (steady.expr minimum).mono False.elim (Nat.le_refl _) fun _ _ => id⟩

theorem SteadyExprs.promptOperators (steady : SteadyExprs bound) (minimum : Nat) (left : Expr)
    (isIdle : idle) :
    Prompt idle bound (Stops 0) (Stops 0) (Continues left) (Parsing.operators minimum left) :=
  ⟨sampled_operators minimum left,
    (steady.operators minimum left).mono (fun _ => isIdle) (Nat.le_refl _) fun _ _ => id⟩

/-- An expression and a lexeme that ends it. -/
theorem Prompt.exprThen {α : Type} {opens follows : List Token → Prop}
    {spec : α → List String → Prop} {next : Expr → Token → Parsing α} {word : String}
    (first : Prompt idle bound EndsChain (Stops 0) (Spells .optional) (expr 0))
    (ends : word ∈ [";", ",", ")"])
    (second : ∀ value lexemes, Spells .optional value lexemes → ∀ token,
      Prompt True (bound - 1) opens follows
        (fun result later => spec result (lexemes ++ word :: later)) (next value token)) :
    Prompt idle bound EndsChain follows spec
      (expr 0 >>= fun value => lexeme word >>= next value) := by
  have rest : ∀ value lexemes, Spells .optional value lexemes →
      Prompt (∀ later, follows later → Stops 0 later) (bound - lexemes.length) (Heads word) follows
        (fun result later => spec result (lexemes ++ later)) (lexeme word >>= next value) := by
    intro value lexemes spelt
    have positive := spelt.length_pos
    exact .word fun token =>
      (second value lexemes spelt token).mono id (by omega) (fun _ => id) fun _ _ => id
  exact first.bind rest fun _ => heads_stops ends

theorem steady_literal : Steady idle bound (Stops 0) (Spells .optional) literal := by
  rw [literal_eq]
  refine .accept fun token value passes => ?_
  obtain ⟨type, known, rfl⟩ := Option.map_eq_some_iff.mp passes
  exact ⟨false, .literal known⟩

theorem steady_grouping (steady : SteadyExprs bound) :
    Steady idle (bound + 1) (Stops 0) (Spells .optional) grouping := by
  rw [grouping_eq]
  refine .acceptThen fun token _ passes => .exprThen (steady.promptExpr 0) (by decide)
    fun value lexemes spelt _ => .pure ?_ trivial
  obtain ⟨_, is⟩ := Option.guard_eq_some_iff.mp passes
  obtain ⟨enclosed, spelling⟩ := spelt
  rw [beq_iff_eq.mp is]
  exact ⟨true, .enclosed spelling⟩

theorem steady_increment (steady : SteadyExprs bound) :
    Steady idle (bound + 1) (Stops 0) (Spells .optional) increment := by
  rw [increment_eq]
  refine .acceptThen fun token _ passes => (steady.promptExpr _).bind
    (fun value lexemes spelt => .pure ?_ fun _ stops => stops) fun _ stops => stops
  obtain ⟨rfl, increments⟩ := Option.guard_eq_some_iff.mp passes
  obtain ⟨enclosed, spelling⟩ := spelt
  rw [List.append_nil]
  exact ⟨false, .before increments spelling nofun⟩

theorem prompt_call {follows : List Token → Prop} (steady : SteadyExprs bound) (callee : String) :
    Prompt idle bound (Heads "(") follows (SpellsCall callee) (call callee) := by
  rw [call_eq]
  have fewer : SteadyExprs (bound - 1) := steady.mono (Nat.sub_le _ _)
  refine .word fun _ => .ifWord (.word fun _ => .pure ?_ trivial)
    (fewer.arguments.bind (fun arguments inner spelt => .word fun _ => .pure ?_ trivial) fun _ => id)
  · exact ⟨[], [], rfl, .nil, rfl⟩
  · exact ⟨arguments, inner, rfl, spelt.2, rfl⟩

/-- An assignment behind the name that it assigns to. -/
theorem steady_assign (steady : SteadyExprs bound) (name : String) :
    Steady idle bound (Stops 0) (fun result later => Spells .optional result (name :: later)) (do
      let operator ← accept (Option.guard (isAssignment ·.lexeme)) "assignment"
      let value ← expr 0
      return .assign operator.lexeme (.identifier name) value) := by
  have fewer : SteadyExprs (bound - 1) := steady.mono (Nat.sub_le _ _)
  refine .acceptThen fun token _ passes => (fewer.promptExpr 0).bind
    (fun value lexemes spelt => .pure ?_ fun _ stops => stops) fun _ stops => stops
  obtain ⟨rfl, assigns⟩ := Option.guard_eq_some_iff.mp passes
  obtain ⟨enclosed, spelling⟩ := spelt
  rw [List.append_nil]
  exact ⟨false, .assign assigns spelling⟩

/-- What follows a name: a call, an assignment or nothing. -/
theorem prompt_applied (steady : SteadyExprs bound) (name : String) :
    Prompt True bound (Stops 0) (Stops 0) (fun result later => Spells .optional result (name :: later))
      (peek fun head =>
        if Parsing.startsWith "(" head then call name
        else if head.any (isAssignment ·.lexeme) then do
          let operator ← accept (Option.guard (isAssignment ·.lexeme)) "assignment"
          let value ← expr 0
          return .assign operator.lexeme (.identifier name) value
        else pure (.identifier name)) := by
  have ended : ∀ tokens, Stops 0 tokens → Parsing.startsWith "(" tokens.head? = false ∧
      tokens.head?.any (isAssignment ·.lexeme) = false := by
    intro tokens stops
    cases tokens with
    | nil => exact ⟨rfl, rfl⟩
    | cons token behind =>
      obtain ⟨noCall, noAssignment⟩ := stops.unapplied token rfl
      simp [noCall, noAssignment]
  have finish : Prompt True bound (Stops 0) (Stops 0)
      (fun result later => Spells .optional result (name :: later)) (pure (.identifier name)) :=
    .pure ⟨false, .identifier⟩ trivial
  refine ⟨finish.sampled.peek fun tokens stops => ?_, .peek fun head => ?_⟩
  · rw [(ended tokens stops).1, (ended tokens stops).2]
    rfl
  · by_cases calls : Parsing.startsWith "(" head = true
    · rw [if_pos calls]
      refine ((prompt_call steady name).spell ?_).steady
      rintro _ _ ⟨arguments, inner, rfl, spelt, rfl⟩
      exact ⟨false, .call spelt⟩
    · rw [if_neg calls]
      by_cases assigns : head.any (isAssignment ·.lexeme) = true
      · rw [if_pos assigns]
        exact steady_assign steady name
      · rw [if_neg assigns]
        refine (Prompt.pure ⟨false, .identifier⟩ ⟨trivial, fun later stops => ?_⟩).steady
        rw [(ended later stops).1, (ended later stops).2]
        rfl

theorem prompt_identifier (steady : SteadyExprs bound) :
    Prompt idle (bound + 1) (HeadKind .identifier) (Stops 0) (Spells .optional) identifier := by
  rw [identifier_eq]
  exact .kind fun name => prompt_applied steady name.lexeme

theorem steady_start (steady : SteadyExprs bound) (handler : ExprHandler) :
    Steady idle (bound + 1) (Stops 0) (Spells .optional) (start handler) := by
  cases handler with
  | literal => exact steady_literal
  | identifier => exact (prompt_identifier steady).steady
  | grouping => exact steady_grouping steady
  | increment => exact steady_increment steady

end Readers

/-! ### The induction -/

section Step

variable {bound minimum : Nat}

theorem isIncrement_of_ahead {token : Token} (is : ahead minimum (some token) = .behind) :
    isIncrement token.lexeme = true := by
  by_contra other
  unfold ahead at is
  dsimp only at is
  rw [if_neg other] at is
  split at is
  · cases is
  · split at is
    · cases is
    · split at is <;> cases is

theorem isBinary_of_ahead {token : Token} {power : Nat}
    (is : ahead minimum (some token) = .between power) : isBinary token.lexeme = true := by
  unfold ahead at is
  dsimp only at is
  split at is
  · cases is
  · split at is
    · cases is
    · rename_i other
      split at is
      · cases is
      · rename_i found
        simp [isBinary, BindingPower.binary?, other, found]

theorem steady_operators (steady : SteadyExprs bound) (minimum : Nat) (left : Expr) :
    Steady True (bound + 1) (Stops 0) (Continues left) (operators minimum left) := by
  rw [operators_eq]
  refine .peek fun head => ?_
  cases is : ahead minimum head with
  | stop =>
    refine (Prompt.pure (fun lexemes spelt => ?_) ⟨trivial, fun later stops => ?_⟩).steady
    · rwa [List.append_nil]
    · have halts : ahead minimum later.head? = .stop := stops.halts.mono (Nat.zero_le _)
      rw [halts]
  | behind =>
    refine .acceptThen fun token _ passes => (steady.promptOperators minimum _ trivial).spell ?_
    intro result later continues lexemes spelt
    obtain ⟨rfl, taken⟩ := Option.guard_eq_some_iff.mp passes
    obtain ⟨enclosed, spelling⟩ := spelt
    have increments := isIncrement_of_ahead (of_decide_eq_true taken)
    have whole := continues _ ⟨false, .behind increments spelling nofun⟩
    rwa [List.append_assoc, List.singleton_append] at whole
  | between power =>
    refine .acceptThen fun token _ passes => (steady.promptExpr power).bind
      (fun right inner rightSpelt =>
        ((steady.mono (Nat.sub_le _ _)).promptOperators minimum _ fun _ => id).spell ?_)
      fun _ => id
    intro result later continues lexemes spelt
    obtain ⟨rfl, taken⟩ := Option.guard_eq_some_iff.mp passes
    obtain ⟨leftEnclosed, leftSpelling⟩ := spelt
    obtain ⟨rightEnclosed, rightSpelling⟩ := rightSpelt
    have between := isBinary_of_ahead (of_decide_eq_true taken)
    have whole := continues _ ⟨false, .binary between leftSpelling nofun rightSpelling nofun⟩
    rwa [List.append_assoc, List.cons_append] at whole

theorem steady_expr (steady : SteadyExprs bound) (minimum : Nat) :
    Steady False (bound + 1) (Stops 0) (Spells .optional) (expr minimum) := by
  rw [expr_eq]
  refine .peek fun head => ?_
  cases head.bind Tables.standard.exprHandler? with
  | none => exact .fail _
  | some handler =>
    refine (steady_start steady handler).bind (fun left lexemes spelt => ?_) fun _ => id
    have positive := spelt.length_pos
    have fewer : SteadyExprs (bound + 1 - lexemes.length) := steady.mono (by omega)
    exact (fewer.promptOperators minimum left fun _ => id).spell
      fun result later continues => continues lexemes spelt

/-- What follows an argument: a comma and further arguments, or nothing. -/
theorem prompt_moreArguments {argument : Expr} {lexemes : List String}
    (spelt : Spells .optional argument lexemes)
    (steady : Steady False bound (Heads ")")
      (fun result later => SpellsArguments result (lexemes ++ later)) (do
        let _ ← lexeme ","
        let further ← arguments
        return argument :: further)) :
    Prompt (∀ later, Heads ")" later → Stops 0 later) bound (Heads ")") (Heads ")")
      (fun result later => SpellsArguments result (lexemes ++ later)) (peek fun head =>
        if Parsing.startsWith "," head then do
          let _ ← lexeme ","
          let further ← arguments
          return argument :: further
        else pure [argument]) := by
  refine .ifMore steady ?_ (fun _ => heads_stops (by decide)) fun tokens closes =>
    closes.startsWith (by decide)
  obtain ⟨enclosed, spelling⟩ := spelt
  rw [List.append_nil]
  exact ⟨nofun, .last spelling⟩

theorem sampled_arguments : Sampled Anything (Heads ")") SpellsArguments arguments := by
  rw [arguments_eq]
  have first : Sampled Anything (Stops 0) (Spells .optional) (expr 0) :=
    (sampled_expr 0).mono (fun _ _ => trivial) fun _ _ => id
  have ends : ∀ tokens, Heads ")" tokens → Stops 0 tokens := fun _ => heads_stops (by decide)
  exact first.bind (fun _ _ spelt => (prompt_moreArguments spelt .zero).sampled) ends

theorem steady_arguments (steady : SteadyExprs bound)
    (first : Steady False (bound + 1) (Stops 0) (Spells .optional) (expr 0)) :
    Steady False (bound + 1) (Heads ")") SpellsArguments arguments := by
  rw [arguments_eq]
  have ends : ∀ tokens, Heads ")" tokens → Stops 0 tokens := fun _ => heads_stops (by decide)
  refine first.bind (fun argument lexemes spelt => prompt_moreArguments spelt ?_) ends
  have positive := spelt.length_pos
  have fewer : SteadyExprs (bound + 1 - lexemes.length - 1) := steady.mono (by omega)
  have further : Prompt True (bound + 1 - lexemes.length - 1) Anything (Heads ")") SpellsArguments
      arguments :=
    ⟨sampled_arguments, fewer.arguments.mono False.elim (Nat.le_refl _) fun _ _ => id⟩
  refine (Prompt.word fun _ => further.bind (fun results more speltMore => .pure ?_ fun _ => id)
    fun _ => id).steady
  obtain ⟨enclosed, spelling⟩ := spelt
  obtain ⟨nonempty, speltMore⟩ := speltMore
  obtain ⟨next, others, rfl⟩ := List.exists_cons_of_ne_nil nonempty
  rw [List.append_nil]
  exact ⟨nofun, .cons spelling speltMore⟩

/-- **The readers of expressions are steady for every bound.** -/
theorem steadyExprs (bound : Nat) : SteadyExprs bound := by
  induction bound with
  | zero => exact ⟨fun _ => .zero, fun _ _ => .zero, .zero⟩
  | succ bound steady =>
    exact ⟨steady_expr steady, steady_operators steady,
      steady_arguments steady (steady_expr steady 0)⟩

end Step

/-- **The reader of expressions is prompt.** -/
theorem prompt_expr {idle : Prop} {bound : Nat} (minimum : Nat) :
    Prompt idle bound EndsChain (Stops 0) (Spells .optional) (expr minimum) :=
  (steadyExprs bound).promptExpr minimum

end TypedImp
