/-
**The readers of statements are prompt.**

What they read spells the statement, with whatever brackets there were around its expressions. Two of
them look ahead: behind the body of an `if` an `else` goes on with it, and behind the keyword of a type
the keyword `function` decides what is declared. Both looks are at the next token only, if the
token of a type carries the keyword of one.

* `SteadyStmts` — what is shown of all readers that call each other, for a bound.
* `steadyStmts` — **the promises hold for every bound.**
* `steady_program` — the reader of programs.
-/

import TypedImp.Proofs.PromptExpr

namespace TypedImp

open Parsing

/-! ### What is read -/

/-- The lexemes spell the statements and the brace behind them. -/
def SpellsBlock (body : List Stmt) (lexemes : List String) : Prop :=
  ∃ inner, BodySpelling .optional body inner ∧ lexemes = inner ++ ["\x7d"]

/-- The lexemes spell one or more parameters with commas between them. -/
def SpellsParameters (parameters : List Parameter) (lexemes : List String) : Prop :=
  parameters ≠ [] ∧ lexemes = parameterLexemes parameters

theorem StmtSpelling.length_pos {brackets : Brackets} {stmt : Stmt} {lexemes : List String}
    (spelt : StmtSpelling brackets stmt lexemes) : 0 < lexemes.length := by
  cases spelt <;> simp

/-! ### Parts of statements -/

section Parts

variable {α : Type} {idle : Prop} {bound : Nat} {opens follows : List Token → Prop}
  {spec : α → List String → Prop}

/-- A condition in parentheses, and what follows it. -/
theorem Prompt.conditionThen {next : Expr → Parsing α}
    (second : ∀ value lexemes, Spells .optional value lexemes →
      Prompt True (bound - 1) opens follows
        (fun result later => spec result ("(" :: (lexemes ++ ")" :: later))) (next value)) :
    Prompt idle bound (Heads "(") follows spec (condition >>= next) := by
  have first : Prompt idle bound (Heads "(") Anything (fun value lexemes =>
      ∃ inner, Spells .optional value inner ∧ lexemes = "(" :: (inner ++ [")"])) condition := by
    rw [condition_eq]
    exact .word fun _ => .exprThen (prompt_expr 0) (by decide) fun value inner spelt _ =>
      .pure ⟨inner, spelt, rfl⟩ trivial
  refine first.bind (fun value lexemes spelt => ?_) fun tokens (_ : opens tokens) => trivial
  obtain ⟨inner, spelt, rfl⟩ := spelt
  refine (second value inner spelt).mono (fun _ _ _ => trivial) ?_ (fun _ => id)
    fun result later spells => ?_
  · simp only [List.length_cons]
    omega
  · rwa [List.cons_append, List.append_assoc, List.singleton_append]

end Parts

/-! ### Parameters -/

section Parameters

variable {idle : Prop} {bound : Nat}

/-- What follows a parameter: a comma and further parameters, or nothing. -/
theorem prompt_moreParameters (parameter : Parameter)
    (steady : Steady False bound (Heads ")") (fun result later =>
      SpellsParameters result (parameter.type.name :: parameter.name :: later)) (do
        let _ ← lexeme ","
        let further ← parameters
        return parameter :: further)) :
    Prompt True bound (Heads ")") (Heads ")") (fun result later =>
      SpellsParameters result (parameter.type.name :: parameter.name :: later)) (peek fun head =>
        if Parsing.startsWith "," head then do
          let _ ← lexeme ","
          let further ← parameters
          return parameter :: further
        else pure [parameter]) :=
  .ifMore steady ⟨nofun, rfl⟩ trivial fun _ closes => closes.startsWith (by decide)

theorem prompt_parameters_zero :
    Prompt idle 0 Anything (Heads ")") SpellsParameters parameters := by
  rw [parameters_eq]
  exact .dataType fun type => (Prompt.kind fun name =>
    prompt_moreParameters ⟨name.lexeme, type⟩ .zero)

theorem prompt_parameters :
    Prompt False bound Anything (Heads ")") SpellsParameters parameters := by
  induction bound with
  | zero => exact prompt_parameters_zero
  | succ bound ih =>
    rw [parameters_eq]
    refine .dataType fun type => .kind fun name => prompt_moreParameters ⟨name.lexeme, type⟩ ?_
    have further : Prompt True (bound - 1 - 1) Anything (Heads ")") SpellsParameters parameters :=
      ih.eager (by omega)
    refine (Prompt.word fun _ => further.bind (fun results more spelt => .pure ?_ fun _ => id)
      fun _ => id).steady
    obtain ⟨nonempty, rfl⟩ := spelt
    obtain ⟨next, others, rfl⟩ := List.exists_cons_of_ne_nil nonempty
    rw [List.append_nil]
    exact ⟨nofun, rfl⟩

theorem prompt_parameterList :
    Prompt idle bound (Heads "(") Anything (fun result lexemes =>
      lexemes = "(" :: (parameterLexemes result ++ [")"])) parameterList := by
  rw [parameterList_eq]
  refine .word fun _ => .ifWord (.word fun _ => .pure rfl trivial)
    (prompt_parameters.steady.bind (fun result lexemes spelt => .word fun _ => .pure ?_ trivial)
      fun _ => id)
  rw [spelt.2]

end Parameters

/-! ### Samples -/

/-- The shortest statement of its own form. -/
theorem sampled_stmt : Sampled Anything EndsChain (StmtSpelling .optional) stmt := by
  have known : ∀ lexeme ∈ ["break", ";"], (lexemeKind? lexeme).isSome = true := by decide
  exact ⟨_, .breakLoop, .breakLoop, reads_stmt .breakLoop .breakLoop (carry_map_ofLexeme known),
    fun _ _ => trivial⟩

theorem alternatives_of_endsChain {tokens : List Token} (ends : EndsChain tokens) :
    alternatives tokens = .ok (.none, tokens) := by
  rw [alternatives_eq, peek_apply, ends.startsWith.1, ends.startsWith.2]
  rfl

theorem sampled_alternatives :
    Sampled EndsChain EndsChain (AlternativesSpelling .optional) alternatives :=
  ⟨[], .none, .none, fun _ => alternatives_of_endsChain, fun _ ends => ends⟩

theorem untilBrace_of_brace {token : Token} (closes : token.lexeme = "\x7d") (rest : List Token) :
    untilBrace (token :: rest) = .ok ([], rest) := by
  rw [untilBrace_eq, peek_apply, List.head?_cons]
  dsimp only
  rw [if_pos closes, bind_of_ok (lexeme_cons closes rest)]
  rfl

theorem sampled_untilBrace : Sampled EndsChain Anything SpellsBlock untilBrace := by
  refine ⟨[Token.ofLexeme "\x7d"], [], ⟨[], .nil, rfl⟩, fun later _ => untilBrace_of_brace rfl later, ?_⟩
  rintro later _ _ ⟨⟩
  decide

/-! ### The readers -/

/-- The promises about the readers of statements that call each other, for a bound. -/
structure SteadyStmts (bound : Nat) : Prop where
  stmt : Steady False bound EndsChain (StmtSpelling .optional) Parsing.stmt
  alternatives : Steady True bound EndsChain (AlternativesSpelling .optional) Parsing.alternatives
  untilBrace : Steady False bound Anything SpellsBlock Parsing.untilBrace

section Readers

variable {idle : Prop} {bound : Nat}

theorem SteadyStmts.mono (steady : SteadyStmts bound) {smaller : Nat} (within : smaller ≤ bound) :
    SteadyStmts smaller where
  stmt := steady.stmt.mono id within fun _ _ => id
  alternatives := steady.alternatives.mono id within fun _ _ => id
  untilBrace := steady.untilBrace.mono id within fun _ _ => id

theorem SteadyStmts.promptStmt (steady : SteadyStmts bound) :
    Prompt idle bound Anything EndsChain (StmtSpelling .optional) Parsing.stmt :=
  ⟨sampled_stmt, steady.stmt.mono False.elim (Nat.le_refl _) fun _ _ => id⟩

theorem SteadyStmts.promptAlternatives (steady : SteadyStmts bound) (isIdle : idle) :
    Prompt idle bound EndsChain EndsChain (AlternativesSpelling .optional) Parsing.alternatives :=
  ⟨sampled_alternatives, steady.alternatives.mono (fun _ => isIdle) (Nat.le_refl _) fun _ _ => id⟩

theorem SteadyStmts.promptBlock (steady : SteadyStmts bound) :
    Prompt idle bound EndsChain Anything SpellsBlock Parsing.untilBrace :=
  ⟨sampled_untilBrace, steady.untilBrace.mono False.elim (Nat.le_refl _) fun _ _ => id⟩

/-- A block, and what follows it. -/
theorem Prompt.bodyThen {α : Type} {opens follows : List Token → Prop}
    {spec : α → List String → Prop} {next : List Stmt → Parsing α} (steady : SteadyStmts bound)
    (second : ∀ body inner, BodySpelling .optional body inner →
      Prompt True (bound - 1) opens follows
        (fun result later => spec result ("\x7b" :: (inner ++ "\x7d" :: later))) (next body)) :
    Prompt idle bound (Heads "\x7b") follows spec (body >>= next) := by
  have first : Prompt idle bound (Heads "\x7b") Anything
      (fun body lexemes => ∃ inner, BodySpelling .optional body inner ∧
        lexemes = "\x7b" :: (inner ++ ["\x7d"])) body := by
    rw [body_eq]
    have fewer : SteadyStmts (bound - 1) := steady.mono (Nat.sub_le _ _)
    refine .word fun _ => fewer.promptBlock.spell ?_
    rintro body _ ⟨inner, spelt, rfl⟩
    exact ⟨inner, spelt, rfl⟩
  refine first.bind (fun body lexemes spelt => ?_) fun tokens (_ : opens tokens) => trivial
  obtain ⟨inner, spelt, rfl⟩ := spelt
  refine (second body inner spelt).mono (fun _ _ _ => trivial) ?_ (fun _ => id)
    fun result later spells => ?_
  · simp only [List.length_cons]
    omega
  · rwa [List.cons_append, List.append_assoc, List.singleton_append]

/-- A keyword, a condition, a block and what follows it in a chain. -/
theorem prompt_chain {α : Type} {spec : α → List String → Prop} (steady : SteadyStmts bound)
    {word : String} {make : Expr → List Stmt → Alternatives → α}
    (spelt : ∀ {condition body alternatives test inner further}, Spells .optional condition test →
      BodySpelling .optional body inner → AlternativesSpelling .optional alternatives further →
        spec (make condition body alternatives)
          (word :: "(" :: (test ++ ")" :: "\x7b" :: (inner ++ "\x7d" :: further)))) :
    Prompt idle (bound + 1) (Heads word) EndsChain spec (do
      let _ ← lexeme word
      let condition ← condition
      let body ← body
      let alternatives ← alternatives
      return make condition body alternatives) := by
  have fewer : SteadyStmts (bound - 1) := steady.mono (Nat.sub_le _ _)
  have fewest : SteadyStmts (bound - 1 - 1) := fewer.mono (Nat.sub_le _ _)
  refine .word fun _ => .conditionThen fun condition test conditionSpelt =>
    .bodyThen fewer fun body inner bodySpelt =>
      (fewest.promptAlternatives trivial).bind (fun alternatives further furtherSpelt =>
        .pure ?_ fun _ => id) fun _ => id
  rw [List.append_nil]
  exact spelt conditionSpelt bodySpelt furtherSpelt

theorem prompt_ifChain (steady : SteadyStmts bound) :
    Prompt idle (bound + 1) (Heads "if") EndsChain (StmtSpelling .optional) ifChain := by
  rw [ifChain_eq]
  exact prompt_chain steady .ifChain

theorem prompt_otherwise {follows : List Token → Prop} (steady : SteadyStmts bound) :
    Prompt idle (bound + 1) (Heads "else") follows (AlternativesSpelling .optional) (do
      let _ ← lexeme "else"
      let body ← body
      return .otherwise body) :=
  .word fun _ => .bodyThen steady fun _ _ spelt => .pure (.otherwise spelt) trivial

theorem prompt_brace {follows : List Token → Prop} :
    Prompt idle bound (Heads "\x7d") follows SpellsBlock (do
      let _ ← lexeme "\x7d"
      return []) :=
  .word fun _ => .pure ⟨[], .nil, rfl⟩ trivial

theorem prompt_whileLoop {follows : List Token → Prop} (steady : SteadyStmts bound) :
    Prompt idle (bound + 1) (Heads "while") follows (StmtSpelling .optional) whileLoop := by
  rw [whileLoop_eq]
  have fewer : SteadyStmts (bound - 1) := steady.mono (Nat.sub_le _ _)
  exact .word fun _ => .conditionThen fun condition test conditionSpelt =>
    .bodyThen fewer fun body inner bodySpelt => .pure (.whileLoop conditionSpelt bodySpelt) trivial

theorem prompt_forLoop {follows : List Token → Prop} (steady : SteadyStmts bound) :
    Prompt idle (bound + 1) (Heads "for") follows (StmtSpelling .optional) forLoop := by
  rw [forLoop_eq]
  have fewer : SteadyStmts (bound - 1) := steady.mono (Nat.sub_le _ _)
  refine .word fun _ => .word fun _ => fewer.promptStmt.bind
    (fun initializer first initializerSpelt => .exprThen (prompt_expr 0) (by decide)
      fun condition test conditionSpelt _ => .exprThen (prompt_expr 0) (by decide)
        fun increment step incrementSpelt _ => .bodyThen (fewer.mono ?_)
          fun body inner bodySpelt => .pure ?_ trivial) fun _ => id
  · omega
  · exact .forLoop initializerSpelt conditionSpelt incrementSpelt bodySpelt

theorem prompt_returnStmt {follows : List Token → Prop} :
    Prompt idle bound (Heads "return") follows (StmtSpelling .optional) returnStmt := by
  rw [returnStmt_eq]
  refine .word fun _ => .ifWord (.word fun _ => .pure .returnNothing trivial) ?_
  have value : Prompt False (bound - 1) EndsChain follows
      (fun result later => StmtSpelling .optional result ("return" :: later)) (do
        let value ← expr 0
        let _ ← lexeme ";"
        return .returnValue (some value)) :=
    .exprThen (prompt_expr 0) (by decide) fun _ _ spelt _ => .pure (.returnValue spelt) trivial
  exact value.steady

theorem steady_control {follows : List Token → Prop} :
    Steady idle bound follows (StmtSpelling .optional) control := by
  rw [control_eq]
  refine .acceptThen fun token stmt passes => .word fun _ => .pure ?_ trivial
  unfold controlWord? at passes
  split at passes
  · rename_i is
    cases passes
    rw [is]
    exact .breakLoop
  · split at passes
    · rename_i is
      cases passes
      rw [is]
      exact .continueLoop
    · cases passes

theorem prompt_expressionStmt {follows : List Token → Prop} :
    Prompt idle bound EndsChain follows (StmtSpelling .optional) expressionStmt := by
  rw [expressionStmt_eq]
  exact .exprThen (prompt_expr 0) (by decide) fun _ _ spelt _ => .pure (.expression spelt) trivial

theorem prompt_variableRest {follows : List Token → Prop} (type : DataType) :
    Prompt idle bound (HeadKind .identifier) follows
      (fun result later => StmtSpelling .optional result (type.name :: later))
      (variableRest type) :=
  .kind fun _ => .word fun _ => .exprThen (prompt_expr 0) (by decide) fun _ _ spelt _ =>
    .pure (.variableDecl spelt) trivial

theorem prompt_functionRest {follows : List Token → Prop} (steady : SteadyStmts bound)
    (type : DataType) :
    Prompt idle bound (Heads "function") follows
      (fun result later => StmtSpelling .optional result (type.name :: later))
      (functionRest type) := by
  refine .word fun _ => .kind fun name => prompt_parameterList.bind
    (fun parameters lexemes spelt => .bodyThen (steady.mono ?_) fun body inner bodySpelt =>
      .pure ?_ trivial) fun _ _ => trivial
  · omega
  · rw [spelt, List.cons_append, List.append_assoc, List.singleton_append]
    exact .functionDecl bodySpelt

/-- A declaration in front of the keyword of a type. -/
theorem steady_declaration {follows : List Token → Prop} (steady : SteadyStmts bound) :
    Steady idle (bound + 1) follows (StmtSpelling .optional)
      (dataType "variable type" >>= declarationRest) := by
  have rest : ∀ type, Prompt True bound (HeadKind .identifier) follows
      (fun result later => StmtSpelling .optional result (type.name :: later))
      (declarationRest type) := by
    intro type
    have variableDecl : Prompt True bound (HeadKind .identifier) follows
        (fun result later => StmtSpelling .optional result (type.name :: later))
        (variableRest type) := prompt_variableRest type
    refine ⟨variableDecl.sampled.peek fun tokens named => ?_, .peek fun head => ?_⟩
    · obtain ⟨token, first, is⟩ := named
      rw [first]
      simp [functionAhead, is]
    · split
      · exact (prompt_functionRest steady type).steady
      · exact (prompt_variableRest type).steady
  have prompt : Prompt idle (bound + 1) Anything follows (StmtSpelling .optional)
      (dataType "variable type" >>= declarationRest) := .dataType rest
  exact prompt.steady

theorem stmtForm?_mem {token : Token} {which : StmtForm}
    (found : Tables.standard.stmtForm? token = some which) :
    which ∈ [StmtForm.ifChain, .whileLoop, .forLoop, .returnValue, .control] := by
  unfold Tables.stmtForm? at found
  split at found
  · split at found
    · rename_i form listed
      cases found
      obtain ⟨before, behind, split, _⟩ := List.lookup_eq_some_iff.mp listed
      have forms : ∀ entry ∈ Tables.standard.statements, entry.2 ∈
          [StmtForm.ifChain, .whileLoop, .forLoop, .returnValue, .control].map .form := by
        decide
      have member := forms (token.lexeme, .form which) (by simp [split])
      simpa using member
    · cases found
    · cases found
  · cases found

theorem steady_form (steady : SteadyStmts bound) {which : StmtForm}
    (member : which ∈ [StmtForm.ifChain, .whileLoop, .forLoop, .returnValue, .control]) :
    Steady idle (bound + 1) EndsChain (StmtSpelling .optional) (form which) := by
  cases which with
  | ifChain => exact (prompt_ifChain steady).steady
  | whileLoop => exact (prompt_whileLoop steady).steady
  | forLoop => exact (prompt_forLoop steady).steady
  | returnValue => exact prompt_returnStmt.steady
  | control => exact steady_control
  | declaration | variableDecl | functionDecl => simp at member

end Readers

/-! ### The induction -/

section Step

variable {bound : Nat}

/-- No statement is read that starts with the token of a type without the keyword of one. -/
theorem headTyped_of_stmt {tokens rest : List Token} {value : Stmt}
    (reads : stmt tokens = .ok (value, rest)) : HeadTyped tokens := by
  rintro token first isType
  obtain ⟨behind, rfl⟩ := List.head?_eq_some_iff.mp first
  have noForm : Tables.standard.stmtForm? token = none := stmtForm?_of_kind_ne (by simp [isType])
  rw [stmt_eq, peek_apply, List.head?_cons] at reads
  dsimp only at reads
  rw [noForm] at reads
  dsimp only at reads
  rw [if_pos isType, declaration_cons] at reads
  have typed : ∀ (expected : String) (next : DataType → Parsing Stmt),
      (dataType expected >>= next) (token :: behind) = .ok (value, rest) →
        (DataType.ofName? token.lexeme).isSome = true := by
    intro expected next reads
    rw [Parsing.bind_apply] at reads
    split at reads
    · rename_i type middle readsType
      obtain ⟨_, same, passes⟩ := exists_of_accept readsType
      cases same
      rw [if_pos isType] at passes
      simp [passes]
    · cases reads
  split at reads
  · exact typed _ _ reads
  · exact typed _ _ reads

/-- If the token of a type carries the keyword of one, the look at the word behind it can wait until
the type is read. -/
theorem steady_stmtOfTyped (steady : SteadyStmts bound) :
    Steady False (bound + 1) EndsChain (StmtSpelling .optional) (peek fun head =>
      match head with
      | none => fail "statement"
      | some token =>
        match Tables.standard.stmtForm? token with
        | some which => form which
        | none =>
          if token.kind = .type then dataType "variable type" >>= declarationRest
          else expressionStmt) := by
  refine .peek fun head => ?_
  cases head with
  | none => exact .fail _
  | some token =>
    cases found : Tables.standard.stmtForm? token with
    | some which =>
      dsimp only
      rw [found]
      exact steady_form steady (stmtForm?_mem found)
    | none =>
      dsimp only
      rw [found]
      dsimp only
      by_cases isType : token.kind = .type
      · rw [if_pos isType]
        exact steady_declaration steady
      · rw [if_neg isType]
        exact prompt_expressionStmt.steady

theorem steady_stmt (steady : SteadyStmts bound) :
    Steady False (bound + 1) EndsChain (StmtSpelling .optional) stmt := by
  refine (steady_stmtOfTyped steady).ofHeadTyped (fun tokens typed => ?_)
    fun _ _ _ => headTyped_of_stmt
  rw [stmt_eq, peek_apply, peek_apply]
  cases tokens with
  | nil => rfl
  | cons token behind =>
    rw [List.head?_cons]
    dsimp only
    cases Tables.standard.stmtForm? token with
    | some which => rfl
    | none =>
      dsimp only
      by_cases isType : token.kind = .type
      · obtain ⟨type, names⟩ := Option.isSome_iff_exists.mp (typed token rfl isType)
        rw [if_pos isType, if_pos isType,
          declaration_of_type isType (DataType.ofName?_eq_some_iff.mp names).symm]
      · rw [if_neg isType, if_neg isType]

theorem steady_alternatives (steady : SteadyStmts bound) :
    Steady True (bound + 1) EndsChain (AlternativesSpelling .optional) alternatives := by
  rw [alternatives_eq]
  refine .peek fun head => ?_
  by_cases again : Parsing.startsWith "else if" head = true
  · rw [if_pos again]
    exact (prompt_chain steady .elseIf).steady
  · rw [if_neg again]
    by_cases last : Parsing.startsWith "else" head = true
    · rw [if_pos last]
      exact (prompt_otherwise steady).steady
    · rw [if_neg last]
      refine (Prompt.pure .none ⟨trivial, fun later ends => ?_⟩).steady
      rw [ends.startsWith.1, ends.startsWith.2]
      rfl

theorem steady_untilBrace (steady : SteadyStmts bound)
    (first : Steady False (bound + 1) EndsChain (StmtSpelling .optional) stmt) :
    Steady False (bound + 1) Anything SpellsBlock untilBrace := by
  rw [untilBrace_eq]
  refine .peek fun head => ?_
  cases head with
  | none => exact .fail _
  | some token =>
    dsimp only
    by_cases closes : token.lexeme = "\x7d"
    · rw [if_pos closes]
      exact prompt_brace.steady
    · rw [if_neg closes]
      refine (first.mono False.elim (Nat.le_refl _) fun _ _ => id).bind
        (fun stmt lexemes spelt => ?_) fun _ => id
      have positive := spelt.length_pos
      have fewer : SteadyStmts (bound + 1 - lexemes.length) := steady.mono (by omega)
      refine fewer.promptBlock.bind (fun body more speltMore => .pure ?_ fun _ => id) fun _ => id
      obtain ⟨inner, spelling, rfl⟩ := speltMore
      refine ⟨lexemes ++ inner, .cons spelt spelling, ?_⟩
      rw [List.append_nil, List.append_assoc]

/-- **The readers of statements are steady for every bound.** -/
theorem steadyStmts (bound : Nat) : SteadyStmts bound := by
  induction bound with
  | zero => exact ⟨.zero, .zero, .zero⟩
  | succ bound steady =>
    have first := steady_stmt steady
    exact ⟨first, steady_alternatives steady, steady_untilBrace steady first⟩

end Step

/-- **The reader of programs is steady.** -/
theorem steady_program (bound : Nat) :
    Steady True bound (· = []) (BodySpelling .optional) program := by
  induction bound with
  | zero => exact .zero
  | succ bound steady =>
    rw [program_eq]
    refine .peek fun head => ?_
    cases head with
    | none =>
      refine (Prompt.pure .nil ⟨trivial, ?_⟩).steady
      rintro _ rfl
      rfl
    | some token =>
      have first := (steadyStmts (bound + 1)).stmt
      refine (first.mono False.elim (Nat.le_refl _) fun _ _ => id).bind
        (fun stmt lexemes spelt => ?_) fun _ => id
      have positive := spelt.length_pos
      have sample : Sampled EndsChain (· = []) (BodySpelling .optional) program := by
        refine ⟨[], [], .nil, ?_, ?_⟩
        · rintro _ rfl
          rw [program_eq]
          rfl
        · rintro _ rfl
          exact nofun
      have rest : Prompt (∀ later, later = [] → EndsChain later) (bound + 1 - lexemes.length)
          EndsChain (· = []) (BodySpelling .optional) program := by
        refine ⟨sample, steady.mono (fun _ => ?_) (by omega) fun _ _ => id⟩
        rintro _ rfl
        exact nofun
      refine rest.bind (fun body more speltMore => .pure ?_ fun _ => id) ?_
      · rw [List.append_nil]
        exact .cons spelt speltMore
      · rintro _ rfl
        rfl

end TypedImp
