/-
**Reading makes progress and ends.**

A reader that is stuck has moved forward at most, and one that succeeds has read at least one token.
So each pass of a loop has fewer tokens left than the one before, and so has each reader that is
entered from inside another one, apart from the start of a statement that is an expression. As many
passes as there are tokens are therefore enough for every loop, and a depth of two more is enough
for the readers inside each other.

* `Moves` — an outcome is reached by reading forward only, with at least so many tokens.
* `Agrees` — on fewer tokens than a bound, a computation is not cut off, does what a reader of the
  grammar does, and moves forward only. The bound is what the induction goes along.
* `agreesNested` — **readers that count their loops agree with the readers of the grammar**, one
  lemma for each of them.
* `Entry` — the readers at which a session may be entered.
* `parsing_ends` — **every reader ends, within as many passes as there are tokens, and only moves
  forward.**
-/

import TypedImp.Parse.Session
import TypedImp.Proofs.Computation
import TypedImp.Proofs.Limits

namespace TypedImp

variable {α β : Type}

/-- The outcome is reached by reading forward only; a success has read at least `least` tokens. -/
def Moves (least : Nat) (tokens : List Token) : Except Stuck (α × List Token) → Prop
  | .ok (_, rest) => rest <:+ tokens ∧ rest.length + least ≤ tokens.length
  | .error stuck => stuck.rest <:+ tokens

/-- **On fewer tokens than `bound` the limited computation is not cut off**: it does what the other
one does, and that moves forward only. -/
structure Agrees (bound least : Nat) (limited : Limited α) (read : Parsing α) : Prop where
  same : ∀ tokens, tokens.length < bound → limited tokens = some (read tokens)
  moves : ∀ tokens, tokens.length < bound → Moves least tokens (read tokens)

namespace Agrees

variable {bound least leastNext : Nat} {limited : Limited α} {read : Parsing α}
  {next : α → Limited β} {readNext : α → Parsing β}

theorem zero : Agrees 0 least limited read :=
  ⟨nofun, nofun⟩

/-- How much is read at least may be forgotten. -/
theorem anyway (agrees : Agrees bound least limited read) : Agrees bound 0 limited read := by
  refine ⟨agrees.same, fun tokens short => ?_⟩
  have moves := agrees.moves tokens short
  cases ended : read tokens with
  | error stuck =>
    rw [ended] at moves
    exact moves
  | ok result =>
    rw [ended] at moves
    exact ⟨moves.1, Nat.le_of_add_right_le moves.2⟩

/-- A smaller bound is enough. -/
theorem below {smaller : Nat} (agrees : Agrees bound least limited read)
    (within : smaller ≤ bound) : Agrees smaller least limited read :=
  ⟨fun tokens short => agrees.same tokens (Nat.lt_of_lt_of_le short within),
    fun tokens short => agrees.moves tokens (Nat.lt_of_lt_of_le short within)⟩

/-- **One computation after another**, of which the second has as many tokens less to read as the
first one takes at least. -/
theorem bindWithin {rest : Nat} (first : Agrees bound least limited read)
    (second : ∀ value, Agrees rest leastNext (next value) (readNext value))
    (within : bound ≤ rest + least) :
    Agrees bound least (limited >>= next) (read >>= readNext) where
  same tokens short := by
    rw [Parsing.bind_apply]
    show (limited tokens >>= fun outcome => next outcome.1 outcome.2 :
      ExceptT Stuck Option (β × List Token)) = _
    rw [first.same tokens short]
    have moves := first.moves tokens short
    cases ended : read tokens with
    | error stuck => rfl
    | ok result =>
      rw [ended] at moves
      have fewer := moves.2
      exact (second result.1).same result.2 (by omega)
  moves tokens short := by
    rw [Parsing.bind_apply]
    have moves := first.moves tokens short
    cases ended : read tokens with
    | error stuck =>
      rw [ended] at moves
      exact moves
    | ok result =>
      obtain ⟨value, middle⟩ := result
      rw [ended] at moves
      obtain ⟨forward, fewer⟩ := moves
      have movesNext := (second value).moves middle (by omega)
      dsimp only
      cases endedNext : readNext value middle with
      | error stuck =>
        rw [endedNext] at movesNext
        exact List.IsSuffix.trans movesNext forward
      | ok last =>
        rw [endedNext] at movesNext
        obtain ⟨forwardNext, fewerNext⟩ := movesNext
        exact ⟨forwardNext.trans forward, by omega⟩

theorem bind (first : Agrees bound least limited read)
    (second : ∀ value, Agrees bound leastNext (next value) (readNext value)) :
    Agrees bound least (limited >>= next) (read >>= readNext) :=
  first.bindWithin second (Nat.le_add_right _ _)

theorem «then» (first : Agrees (bound + 1) 1 limited read)
    (second : ∀ value, Agrees bound leastNext (next value) (readNext value)) :
    Agrees (bound + 1) 1 (limited >>= next) (read >>= readNext) :=
  first.bindWithin second (Nat.le_refl _)

theorem pure (value : α) : Agrees bound 0 (pure value : Limited α) (pure value : Parsing α) :=
  ⟨fun _ _ => rfl, fun _ _ => ⟨List.suffix_rfl, Nat.le_refl _⟩⟩

theorem fail (expected : String) :
    Agrees bound least (Limited.lift (Parsing.fail expected) : Limited α) (Parsing.fail expected) :=
  ⟨fun _ _ => rfl, fun _ _ => List.suffix_rfl⟩

theorem peek {body : Option Token → Limited α} {readBody : Option Token → Parsing α}
    (each : ∀ head, Agrees bound least (body head) (readBody head)) :
    Agrees bound least (Limited.peek body) (Parsing.peek readBody) :=
  ⟨fun tokens short => (each tokens.head?).same tokens short,
    fun tokens short => (each tokens.head?).moves tokens short⟩

theorem ite {condition : Prop} [Decidable condition] {other : Limited α} {readOther : Parsing α}
    (yes : Agrees bound least limited read) (no : Agrees bound least other readOther) :
    Agrees bound least (if condition then limited else other)
      (if condition then read else readOther) := by
  split
  · exact yes
  · exact no

/-- A choice, of which nothing need be read. -/
theorem choice {condition : Prop} [Decidable condition] {other : Limited α} {readOther : Parsing α}
    (yes : Agrees bound least limited read) (no : Agrees bound leastNext other readOther) :
    Agrees bound 0 (if condition then limited else other)
      (if condition then read else readOther) :=
  yes.anyway.ite no.anyway

/-- A token that passes a test. -/
theorem accept (test : Token → Option α) (expected : String) :
    Agrees bound 1 (Limited.lift (Parsing.accept test expected))
      (Parsing.accept test expected) := by
  refine ⟨fun _ _ => rfl, fun tokens _ => ?_⟩
  cases tokens with
  | nil => exact List.suffix_rfl
  | cons token rest =>
    cases passes : test token with
    | none =>
      rw [Parsing.accept_of_none passes]
      exact List.suffix_rfl
    | some value =>
      rw [Parsing.accept_of_some passes]
      exact ⟨List.suffix_cons _ _, Nat.le_refl _⟩

theorem lexeme (word : String) : Agrees bound 1 (Limited.lexeme word) (Parsing.lexeme word) :=
  accept _ _

theorem kind (sort : Token.Kind) (expected : String) :
    Agrees bound 1 (Limited.kind sort expected) (Parsing.kind sort expected) :=
  accept _ _

theorem dataType (expected : String) :
    Agrees bound 1 (Limited.dataType expected) (Parsing.dataType expected) :=
  accept _ _

end Agrees

/-- The readers inside agree with those of the grammar: those of expressions below a bound, those
that may start with an expression below a smaller one. -/
structure AgreesInside (bound : Nat) (inner : Limited.Readers) : Prop where
  expr : ∀ minimum, Agrees bound 1 (inner.expr minimum) (Parsing.expr minimum)
  stmt : Agrees (bound - 1) 1 inner.stmt Parsing.stmt
  body : Agrees (bound - 1) 1 inner.body Parsing.body

theorem AgreesInside.below {bound smaller : Nat} {inner : Limited.Readers}
    (inside : AgreesInside bound inner) (within : smaller ≤ bound) : AgreesInside smaller inner :=
  ⟨fun minimum => (inside.expr minimum).below within,
    inside.stmt.below (Nat.sub_le_sub_right within 1),
    inside.body.below (Nat.sub_le_sub_right within 1)⟩

namespace Limited

open Agrees

/-! ### Expressions -/

/-- A bound on the tokens that is not passed by the number of passes. -/
theorem exists_passes {bound passes : Nat} (enough : bound + 1 ≤ passes) :
    ∃ fewer, passes = fewer + 1 ∧ bound ≤ fewer :=
  ⟨passes - 1, by omega, by omega⟩

/-- **A list with commas**: each item takes a token, so as many passes are enough as there are
tokens. -/
theorem agrees_separated {item : Limited α} {readItem : Parsing α} {list : Parsing (List α)}
    (unfolds : list = readItem >>= fun first => Parsing.peek fun head =>
      if Parsing.startsWith "," head then do
        let _ ← Parsing.lexeme ","
        let further ← list
        return first :: further
      else Pure.pure [first])
    {bound passes : Nat} (inside : Agrees bound 1 item readItem) (enough : bound ≤ passes) :
    Agrees bound 1 (separated item passes) list := by
  induction bound generalizing passes with
  | zero => exact .zero
  | succ bound ih =>
    obtain ⟨fewer, rfl, within⟩ := exists_passes enough
    rw [unfolds, separated]
    have later := ih (inside.below (Nat.le_succ bound)) within
    exact inside.then fun first => .peek fun head => .choice
      ((Agrees.lexeme ",").bind fun _ => later.bind fun _ => .pure _) (.pure _)

section Expressions

variable {bound : Nat} {inner : Readers}

/-- **The loop of the operators**: each pass that goes on takes a token. -/
theorem agrees_operators {passes : Nat}
    (inside : ∀ minimum, Agrees bound 1 (inner.expr minimum) (Parsing.expr minimum))
    (enough : bound ≤ passes) (minimum : Nat) (left : Expr) :
    Agrees bound 0 (operators inner minimum passes left) (Parsing.operators minimum left) := by
  induction bound generalizing passes left with
  | zero => exact .zero
  | succ bound ih =>
    obtain ⟨fewer, rfl, within⟩ := exists_passes enough
    have operand := fun power => (inside power).below (Nat.le_succ bound)
    have later := ih operand within
    rw [Parsing.operators_eq, operators]
    refine .peek fun head => ?_
    cases Parsing.ahead minimum head with
    | stop => exact .pure left
    | behind => exact ((Agrees.accept _ _).then fun operator => later _).anyway
    | between power =>
      exact ((Agrees.accept _ _).then fun operator =>
        (operand power).bind fun right => later _).anyway

variable {passes : Nat} (inside : AgreesInside bound inner)

include inside

theorem agrees_grouping : Agrees (bound + 1) 1 (grouping inner) Parsing.grouping := by
  rw [Parsing.grouping_eq]
  exact (Agrees.accept _ _).then fun _ => (inside.expr 0).bind fun _ =>
    (Agrees.lexeme _).bind fun _ => .pure _

theorem agrees_increment : Agrees (bound + 1) 1 (increment inner) Parsing.increment := by
  rw [Parsing.increment_eq]
  exact (Agrees.accept _ _).then fun _ => (inside.expr _).bind fun _ => .pure _

theorem agrees_call (enough : bound ≤ passes) (callee : String) :
    Agrees (bound + 1) 1 (call passes inner callee) (Parsing.call callee) := by
  have arguments := agrees_separated Parsing.arguments_eq (inside.expr 0) enough
  rw [Parsing.call_eq]
  exact (Agrees.lexeme _).then fun _ => .peek fun head => .choice
    ((Agrees.lexeme _).bind fun _ => .pure _)
    (arguments.bind fun _ => (Agrees.lexeme _).bind fun _ => .pure _)

theorem agrees_identifier (enough : bound ≤ passes) :
    Agrees (bound + 1) 1 (identifier passes inner) Parsing.identifier := by
  have called := fun callee => (agrees_call inside enough callee).below (Nat.le_succ bound)
  have assigned : ∀ name, Agrees bound 1 (assign inner name) (do
      let operator ← Parsing.accept (Option.guard (isAssignment ·.lexeme)) "assignment"
      let value ← Parsing.expr 0
      return Expr.assign operator.lexeme (.identifier name) value) := fun name =>
    (Agrees.accept _ _).bind fun _ => (inside.expr 0).bind fun _ => .pure _
  rw [Parsing.identifier_eq]
  exact (Agrees.kind _ _).then fun name => .peek fun head =>
    .choice (called name.lexeme) (.choice (assigned name.lexeme) (.pure _))

theorem agrees_start (enough : bound ≤ passes) (handler : ExprHandler) :
    Agrees (bound + 1) 1 (start passes inner handler) (Parsing.start handler) := by
  cases handler with
  | literal => exact .accept _ _
  | identifier => exact agrees_identifier inside enough
  | grouping => exact agrees_grouping inside
  | increment => exact agrees_increment inside

/-- **An expression is entered again only behind a token.** -/
theorem agrees_expr (enough : bound ≤ passes) (minimum : Nat) :
    Agrees (bound + 1) 1 (expr passes inner minimum) (Parsing.expr minimum) := by
  rw [Parsing.expr_eq]
  refine .peek fun head => ?_
  cases head.bind Tables.standard.exprHandler? with
  | none => exact .fail _
  | some handler =>
    exact (agrees_start inside enough handler).then fun left =>
      agrees_operators inside.expr enough minimum left

end Expressions

/-! ### Statements -/

/-- **The loop of the further conditions of an `if`**: each pass takes a word. -/
theorem agrees_alternatives {bound passes : Nat} {inner : Readers}
    (tested : Agrees bound 1 (condition inner) Parsing.condition)
    (inBraces : Agrees bound 1 inner.body Parsing.body) (enough : bound ≤ passes) :
    Agrees bound 0 (alternatives inner passes) Parsing.alternatives := by
  induction bound generalizing passes with
  | zero => exact .zero
  | succ bound ih =>
    obtain ⟨fewer, rfl, within⟩ := exists_passes enough
    have test := tested.below (Nat.le_succ bound)
    have block := inBraces.below (Nat.le_succ bound)
    have later := ih test block within
    have elseIf : Agrees (bound + 1) 1 (do
        let _ ← lexeme "else if"
        let condition ← condition inner
        let body ← inner.body
        let alternatives ← alternatives inner fewer
        return Alternatives.elseIf condition body alternatives) (do
        let _ ← Parsing.lexeme "else if"
        let condition ← Parsing.condition
        let body ← Parsing.body
        let alternatives ← Parsing.alternatives
        return Alternatives.elseIf condition body alternatives) :=
      (Agrees.lexeme _).then fun _ => test.bind fun _ => block.bind fun _ =>
        later.bind fun _ => .pure _
    have otherwise : Agrees (bound + 1) 1 (do
        let _ ← lexeme "else"
        let body ← inner.body
        return Alternatives.otherwise body) (do
        let _ ← Parsing.lexeme "else"
        let body ← Parsing.body
        return Alternatives.otherwise body) :=
      (Agrees.lexeme _).bind fun _ => inBraces.bind fun _ => .pure _
    rw [Parsing.alternatives_eq]
    exact .peek fun head => .choice elseIf (.choice otherwise (.pure _))

section Statements

variable {bound passes : Nat} {inner : Readers} (inside : AgreesInside (bound + 1) inner)

include inside

theorem agrees_condition : Agrees (bound + 1) 1 (condition inner) Parsing.condition := by
  rw [Parsing.condition_eq]
  exact (Agrees.lexeme _).bind fun _ => (inside.expr 0).bind fun _ =>
    (Agrees.lexeme _).bind fun _ => .pure _

/-- A statement that is an expression starts with it, and nothing has been read before. -/
theorem agrees_expressionStmt :
    Agrees (bound + 1) 1 (expressionStmt inner) Parsing.expressionStmt := by
  rw [Parsing.expressionStmt_eq]
  exact (inside.expr 0).bind fun _ => (Agrees.lexeme _).bind fun _ => .pure _

theorem agrees_variableRest (type : DataType) :
    Agrees bound 1 (variableRest inner type) (Parsing.variableRest type) :=
  (Agrees.kind _ _).bind fun _ => (Agrees.lexeme _).bind fun _ =>
    ((inside.expr 0).below (Nat.le_succ bound)).bind fun _ => (Agrees.lexeme _).bind fun _ =>
      .pure _

omit inside in
theorem agrees_parameterList (enough : bound ≤ passes) :
    Agrees bound 1 (parameterList passes) Parsing.parameterList := by
  have item : Agrees bound 1 parameter (do
      let type ← Parsing.dataType "parameter type"
      let name ← Parsing.kind .identifier "parameter name"
      return (⟨name.lexeme, type⟩ : Parameter)) :=
    (Agrees.dataType _).bind fun _ => (Agrees.kind _ _).bind fun _ => .pure _
  have parameters : Agrees bound 1 (separated parameter passes) Parsing.parameters := by
    refine agrees_separated (Parsing.parameters_eq.trans ?_) item enough
    simp only [bind_assoc, pure_bind]
  rw [Parsing.parameterList_eq]
  exact (Agrees.lexeme _).bind fun _ => .peek fun head => .choice
    ((Agrees.lexeme _).bind fun _ => .pure _)
    (parameters.bind fun _ => (Agrees.lexeme _).bind fun _ => .pure _)

theorem agrees_functionRest (enough : bound ≤ passes) (returnType : DataType) :
    Agrees bound 1 (functionRest passes inner returnType) (Parsing.functionRest returnType) :=
  (Agrees.lexeme _).bind fun _ => (Agrees.kind _ _).bind fun _ =>
    (agrees_parameterList enough).bind fun _ => inside.body.bind fun _ => .pure _

theorem agrees_declaration (enough : bound ≤ passes) :
    Agrees (bound + 1) 1 (declaration passes inner) Parsing.declaration := by
  have ofFunction := (Agrees.dataType "return type").then fun type =>
    agrees_functionRest inside enough type
  have ofVariable := (Agrees.dataType "variable type").then fun type =>
    agrees_variableRest inside type
  constructor
  · intro tokens short
    rw [Parsing.declaration_apply, declaration]
    split
    · exact ofFunction.same tokens short
    · exact ofVariable.same tokens short
  · intro tokens short
    rw [Parsing.declaration_apply]
    split
    · exact ofFunction.moves tokens short
    · exact ofVariable.moves tokens short

theorem agrees_ifChain (enough : bound ≤ passes) :
    Agrees (bound + 1) 1 (ifChain passes inner) Parsing.ifChain := by
  have tested := (agrees_condition inside).below (Nat.le_succ bound)
  rw [Parsing.ifChain_eq]
  exact (Agrees.lexeme _).then fun _ => tested.bind fun _ => inside.body.bind fun _ =>
    (agrees_alternatives tested inside.body enough).bind fun _ => .pure _

theorem agrees_whileLoop : Agrees (bound + 1) 1 (whileLoop inner) Parsing.whileLoop := by
  have tested := (agrees_condition inside).below (Nat.le_succ bound)
  rw [Parsing.whileLoop_eq]
  exact (Agrees.lexeme _).then fun _ => tested.bind fun _ => inside.body.bind fun _ => .pure _

/-- The initializer of a `for` loop is a statement, entered behind two tokens. -/
theorem agrees_forLoop : Agrees (bound + 1) 1 (forLoop inner) Parsing.forLoop := by
  have value := (inside.expr 0).below (Nat.le_succ bound)
  rw [Parsing.forLoop_eq]
  exact (Agrees.lexeme _).then fun _ => (Agrees.lexeme _).bind fun _ => inside.stmt.bind fun _ =>
    value.bind fun _ => (Agrees.lexeme _).bind fun _ => value.bind fun _ =>
      (Agrees.lexeme _).bind fun _ => inside.body.bind fun _ => .pure _

theorem agrees_returnStmt : Agrees (bound + 1) 1 (returnStmt inner) Parsing.returnStmt := by
  rw [Parsing.returnStmt_eq]
  exact (Agrees.lexeme _).bind fun _ => .peek fun head => .choice
    ((Agrees.lexeme _).bind fun _ => .pure _)
    ((inside.expr 0).bind fun _ => (Agrees.lexeme _).bind fun _ => .pure _)

omit inside in
theorem agrees_control : Agrees (bound + 1) 1 (lift Parsing.control) Parsing.control := by
  have control : Agrees (bound + 1) 1 (do
      let stmt ← lift (Parsing.accept controlWord? "`break` or `continue`")
      let _ ← lexeme ";"
      return stmt) Parsing.control := by
    rw [Parsing.control_eq]
    exact (Agrees.accept _ _).bind fun _ => (Agrees.lexeme _).bind fun _ => .pure _
  exact ⟨fun _ _ => rfl, control.moves⟩

theorem agrees_form (enough : bound ≤ passes) (which : StmtForm) :
    Agrees (bound + 1) 1 (form passes inner which) (Parsing.form which) := by
  cases which with
  | declaration => exact agrees_declaration inside enough
  | variableDecl => exact (Agrees.dataType _).then fun type => agrees_variableRest inside type
  | functionDecl =>
    exact (Agrees.dataType _).then fun type => agrees_functionRest inside enough type
  | ifChain => exact agrees_ifChain inside enough
  | whileLoop => exact agrees_whileLoop inside
  | forLoop => exact agrees_forLoop inside
  | returnValue => exact agrees_returnStmt inside
  | control => exact agrees_control

/-- **A statement is entered again only behind a token.** -/
theorem agrees_stmt (enough : bound ≤ passes) :
    Agrees (bound + 1) 1 (stmt passes inner) Parsing.stmt := by
  rw [Parsing.stmt_eq]
  refine .peek fun head => ?_
  cases head with
  | none => exact .fail _
  | some token =>
    dsimp only
    cases Tables.standard.stmtForm? token with
    | some which => exact agrees_form inside enough which
    | none => exact .ite (agrees_declaration inside enough) (agrees_expressionStmt inside)

end Statements

/-! ### Blocks and programs -/

section Blocks

variable {bound passes : Nat} {statement : Limited Stmt}

/-- **The loop of a block**: each pass takes a statement. -/
theorem agrees_untilBrace (inside : Agrees bound 1 statement Parsing.stmt)
    (enough : bound ≤ passes) :
    Agrees bound 1 (untilBrace statement passes) Parsing.untilBrace := by
  induction bound generalizing passes with
  | zero => exact .zero
  | succ bound ih =>
    obtain ⟨fewer, rfl, within⟩ := exists_passes enough
    have later := ih (inside.below (Nat.le_succ bound)) within
    rw [Parsing.untilBrace_eq]
    refine .peek fun head => ?_
    cases head with
    | none => exact .fail _
    | some token =>
      exact .ite ((Agrees.lexeme _).bind fun _ => .pure _)
        (inside.then fun _ => later.bind fun _ => .pure _)

theorem agrees_body {inner : Readers} (inside : Agrees bound 1 inner.stmt Parsing.stmt)
    (enough : bound ≤ passes) : Agrees (bound + 1) 1 (body passes inner) Parsing.body := by
  rw [Parsing.body_eq]
  exact (Agrees.lexeme _).then fun _ => agrees_untilBrace inside enough

/-- **The loop of a program**: a pass is begun only if a token is left, so no more passes are needed
than there are tokens. -/
theorem agrees_untilEnd (inside : Agrees bound 1 statement Parsing.stmt)
    (enough : bound ≤ passes + 1) :
    Agrees bound 0 (untilEnd statement passes) Parsing.program := by
  induction bound generalizing passes with
  | zero => exact .zero
  | succ bound ih =>
    rw [Parsing.program_eq]
    cases passes with
    | zero =>
      -- There is no token, since there are not more than passes.
      have none : ∀ tokens : List Token, tokens.length < bound + 1 → tokens = [] :=
        fun tokens short => List.eq_nil_of_length_eq_zero (by omega)
      refine ⟨fun tokens short => ?_, fun tokens short => ?_⟩
      · rw [none tokens short]
        rfl
      · rw [none tokens short]
        exact ⟨List.suffix_rfl, Nat.le_refl _⟩
    | succ passes =>
      have later := ih (inside.below (Nat.le_succ bound)) (Nat.le_of_succ_le_succ enough)
      refine .peek fun head => ?_
      cases head with
      | none => exact .pure []
      | some token => exact (inside.then fun _ => later.bind fun _ => .pure _).anyway

end Blocks

/-! ### Readers inside each other -/

/-- **Readers that count their loops agree with those of the grammar**, below their depth. -/
theorem agreesNested {passes depth : Nat} (enough : depth ≤ passes + 1) :
    AgreesInside depth (nested passes depth) := by
  induction depth with
  | zero => exact ⟨fun _ => .zero, .zero, .zero⟩
  | succ depth ih =>
    have inside := ih (Nat.le_of_succ_le enough)
    have within : depth ≤ passes := Nat.le_of_succ_le_succ enough
    refine ⟨fun minimum => agrees_expr inside within minimum, ?_, ?_⟩
    · cases depth with
      | zero => exact .zero
      | succ depth => exact agrees_stmt inside (Nat.le_of_succ_le within)
    · cases depth with
      | zero => exact .zero
      | succ depth => exact agrees_body inside.stmt (Nat.le_of_succ_le within)

end Limited

/-! ### Entering a session -/

/-- The readers at which a session may be entered, by what they read. -/
inductive Entry : Type → Type
  | stmt : Entry Stmt
  | expr (minimum : Nat) : Entry Expr
  | body : Entry (List Stmt)
  | form (which : StmtForm) : Entry Stmt
  | start (handler : ExprHandler) : Entry Expr
  | call (callee : String) : Entry Expr

namespace Entry

/-- The reader itself. -/
def reader (tables : Tables) : Entry α → Reader α
  | .stmt => readStmt tables
  | .expr minimum => readExpr tables minimum
  | .body => readBody tables
  | .form which => readForm tables which
  | .start handler => readStart tables handler
  | .call callee => readCall tables callee

/-- The same with its loops counted, given the readers inside. -/
def limited (passes : Nat) (inner : Limited.Readers) : Entry α → Limited α
  | .stmt => Limited.stmt passes inner
  | .expr minimum => Limited.expr passes inner minimum
  | .body => Limited.body passes inner
  | .form which => Limited.form passes inner which
  | .start handler => Limited.start passes inner handler
  | .call callee => Limited.call passes inner callee

/-- **Every entry agrees with its limited form**, with as many passes as there are tokens and one
more reader inside each other. -/
theorem agrees (entry : Entry α) (count : Nat) :
    Agrees (count + 1) 1 (entry.limited count (Limited.nested count (count + 1)))
      (Parsing.ofReader (entry.reader .standard)) := by
  have inside := Limited.agreesNested (Nat.le_refl (count + 1))
  have fewer := inside.below (Nat.le_succ count)
  cases entry with
  | stmt => exact Limited.agrees_stmt inside (Nat.le_refl count)
  | expr minimum => exact Limited.agrees_expr fewer (Nat.le_refl count) minimum
  | body => exact Limited.agrees_body inside.stmt (Nat.le_refl count)
  | form which =>
    rw [reader, Parsing.ofReader_readForm]
    exact Limited.agrees_form inside (Nat.le_refl count) which
  | start handler =>
    rw [reader, Parsing.ofReader_readStart]
    exact Limited.agrees_start fewer (Nat.le_refl count) handler
  | call callee => exact Limited.agrees_call fewer (Nat.le_refl count) callee

end Entry

/-- A session moves as the reader does that is run on it. -/
theorem Session.run_of_moves {read : Reader α} (session : Session)
    (moves : Moves 1 session.rest (Parsing.ofReader read session.rest)) :
    ∃ count ≤ session.rest.length,
      (session.run read).2 = { session with rest := session.rest.drop count } ∧
        ∀ value, (session.run read).1 = .ok value → 0 < count := by
  unfold Parsing.ofReader at moves
  unfold run
  cases ended : read session.rest with
  | error stuck =>
    rw [ended] at moves
    have forward : stuck.rest <:+ session.rest := moves
    refine ⟨session.rest.length - stuck.rest.length, Nat.sub_le _ _, ?_, nofun⟩
    rw [← List.suffix_iff_eq_drop.mp forward]
  | ok reading =>
    rw [ended] at moves
    obtain ⟨forward, fewer⟩ : reading.rest <:+ session.rest ∧
      reading.rest.length + 1 ≤ session.rest.length := moves
    refine ⟨session.rest.length - reading.rest.length, Nat.sub_le _ _, ?_, fun _ _ => by omega⟩
    dsimp only
    rw [← List.suffix_iff_eq_drop.mp forward]

/-- **Every reader ends and makes progress**, whatever the tokens are and wherever a session stands.
With no more passes for each loop than tokens are left, and no more readers inside each other than
one more, it is not cut off; the session then stands at or behind where it stood and not behind its
last token, also when the reader is stuck, and strictly behind if it succeeds. The loop of a program
likewise needs no more passes than there are tokens. -/
theorem parsing_ends :
    (∀ {α : Type} (entry : Entry α) (passed rest : List Token),
      let session : Session := ⟨passed ++ rest, rest, .standard⟩
      let ran := session.run (entry.reader session.tables)
      entry.limited rest.length (Limited.nested rest.length (rest.length + 1)) rest =
          some (Parsing.ofReader (entry.reader session.tables) rest) ∧
        ∃ count ≤ rest.length, ran.2 = { session with rest := rest.drop count } ∧
          ∀ value, ran.1 = .ok value → 0 < count) ∧
    ∀ tokens : List Token,
      Limited.program tokens.length (Limited.nested tokens.length (tokens.length + 1)) tokens =
        some ((readProgram .standard tokens).map (·, [])) := by
  refine ⟨fun entry passed rest => ?_, fun tokens => ?_⟩
  · have agrees := entry.agrees rest.length
    have short := Nat.lt_succ_self rest.length
    exact ⟨agrees.same rest short, Session.run_of_moves ⟨passed ++ rest, rest, .standard⟩
      (agrees.moves rest short)⟩
  · have agrees := Limited.agrees_untilEnd (Entry.stmt.agrees tokens.length) (Nat.le_refl _)
    exact agrees.same tokens (Nat.lt_succ_self _)

/-- The call in `x = f(1);` is read up to the semicolon. -/
theorem parsing_ends_call :
    let passed : List Token := [⟨.identifier, "x", ⟨1, 1⟩⟩, ⟨.operator, "=", ⟨1, 3⟩⟩]
    let rest : List Token := [⟨.identifier, "f", ⟨1, 5⟩⟩, ⟨.parenthesis, "(", ⟨1, 6⟩⟩,
      ⟨.int, "1", ⟨1, 7⟩⟩, ⟨.parenthesis, ")", ⟨1, 8⟩⟩, ⟨.punctuation, ";", ⟨1, 9⟩⟩]
    let ran := Session.run ⟨passed ++ rest, rest, .standard⟩ (readExpr .standard 0)
    ran.1.toBool = true ∧ ran.2.rest.length = 1 ∧
      ∃ count ≤ rest.length, 0 < count ∧ ran.2.rest = rest.drop count := by
  intro passed rest ran
  have succeeds : ran.1.toBool = true := by decide +kernel
  have remaining : ran.2.rest.length = 1 := by decide +kernel
  obtain ⟨count, within, moved, progress⟩ := (parsing_ends.1 (.expr 0) passed rest).2
  obtain ⟨value, read⟩ := exists_eq_ok_of_toBool succeeds
  exact ⟨succeeds, remaining, count, within, progress value read, congrArg Session.rest moved⟩

/-- Behind `x++` the loop of the operators has begun a second pass if any token is left. -/
example :
    let tokens : List Token := [⟨.identifier, "x", ⟨1, 1⟩⟩, ⟨.operator, "++", ⟨1, 2⟩⟩,
      ⟨.punctuation, ";", ⟨1, 4⟩⟩]
    (Limited.expr 1 (Limited.nested 3 4) 0 tokens).isNone = true ∧
      (Limited.expr 2 (Limited.nested 3 4) 0 tokens).isSome = true := by
  decide +kernel

end TypedImp
