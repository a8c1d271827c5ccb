/-
**Reading what is spelt: statements.**

The readers of statements look ahead by one token, and what they do is settled by it: a keyword or
the keyword of a type starts a statement of its own form, and `else` goes on with an `if`. So the
lexemes of a statement are read back, whatever stands behind them but an `else`. Together with the
scanner this makes reading undo printing.

* `Reads` — a computation reads a value from tokens that carry given lexemes, and stops behind them.
* `reads_stmt` — **the lexemes of a statement are read back.**
* `Prints` — the texts of a program, with brackets around every operand that is not atomic.
* `parse_of_prints` — **scanning and parsing such a text gives the program back.**
-/

import TypedImp.Proofs.Precedence
import TypedImp.Proofs.Spacing

namespace TypedImp

open Parsing

/-! ### Reading given lexemes -/

/-- From tokens that carry the lexemes, the computation reads the value and stops behind them, if
`follows` holds of what stands there. -/
def Reads {α : Type} (read : Parsing α) (lexemes : List String) (value : α)
    (follows : List Token → Prop) : Prop :=
  ∀ ⦃tokens : List Token⦄, Carry tokens lexemes → ∀ ⦃later : List Token⦄, follows later →
    read (tokens ++ later) = .ok (value, later)

namespace Reads

variable {α β : Type} {read : Parsing α} {next : α → Parsing β} {first second : List String}
  {value : α} {result : β} {follows followsFirst : List Token → Prop}

theorem pure (value : α) : Reads (Pure.pure value) [] value follows := by
  intro tokens carried later _
  rw [carry_nil_iff.mp carried]
  rfl

/-- Two readers one after the other, if the first may stand before the second. -/
theorem bind (reads : Reads read first value followsFirst)
    (readsNext : Reads (next value) second result follows)
    (link : ∀ ⦃tokens⦄, Carry tokens second → ∀ ⦃later⦄, follows later →
      followsFirst (tokens ++ later)) :
    Reads (read >>= next) (first ++ second) result follows := by
  intro tokens carried later holds
  obtain ⟨before, behind, rfl, firstCarried, secondCarried⟩ := carry_append_iff.mp carried
  rw [List.append_assoc, bind_of_ok (reads firstCarried (link secondCarried holds))]
  exact readsNext secondCarried holds

theorem map (reads : Reads read first value follows) (same : next value = Pure.pure result) :
    Reads (read >>= next) first result follows := by
  rw [← List.append_nil first]
  refine reads.bind (same ▸ pure result) fun tokens carried later holds => ?_
  rwa [carry_nil_iff.mp carried]

/-- A token that passes a test, and a reader of what stands behind it. -/
theorem accept {test : Token → Option α} {expected lexeme : String}
    (reads : ∀ token : Token, token.Carries lexeme →
      ∃ taken, test token = some taken ∧ Reads (next taken) second result follows) :
    Reads (Parsing.accept test expected >>= next) (lexeme :: second) result follows := by
  intro tokens carried later holds
  obtain ⟨token, behind, rfl, carries, behindCarried⟩ := carry_cons_iff.mp carried
  obtain ⟨taken, passes, readsNext⟩ := reads token carries
  rw [List.cons_append, bind_of_ok (accept_of_some passes expected _)]
  exact readsNext behindCarried holds

theorem word {word : String} {next : Token → Parsing β}
    (reads : ∀ token, Reads (next token) second result follows) :
    Reads (Parsing.lexeme word >>= next) (word :: second) result follows :=
  accept fun token carries => ⟨token, by simp [Option.guard, carries.1], reads token⟩

theorem name {name expected : String} {next : Token → Parsing β} (named : IsName name)
    (reads : ∀ token : Token, token.lexeme = name → Reads (next token) second result follows) :
    Reads (Parsing.kind .identifier expected >>= next) (name :: second) result follows :=
  accept fun token carries =>
    ⟨token, by simp [Option.guard, carries.kind_eq (lexemeKind?_of_isName named)],
      reads token carries.1⟩

theorem dataType {type : DataType} {expected : String} {next : DataType → Parsing β}
    (reads : Reads (next type) second result follows) :
    Reads (Parsing.dataType expected >>= next) (type.name :: second) result follows :=
  accept fun token carries =>
    ⟨type, by
      simp [carries.kind_eq (lexemeKind?_name type), carries.1, DataType.ofName?_eq_some_iff], reads⟩

/-- A choice by the first token. -/
theorem peek {body : Option Token → Parsing α} {lexeme : String}
    (reads : ∀ token : Token, token.Carries lexeme →
      Reads (body (some token)) (lexeme :: second) value follows) :
    Reads (Parsing.peek body) (lexeme :: second) value follows := by
  intro tokens carried later holds
  obtain ⟨token, behind, rfl, carries, _⟩ := carry_cons_iff.mp carried
  exact reads token carries carried holds

/-- A choice by the token that follows. -/
theorem peekBehind {body : Option Token → Parsing α}
    (choice : ∀ later, follows later → body later.head? = Pure.pure value) :
    Reads (Parsing.peek body) [] value follows := by
  intro tokens carried later holds
  rw [carry_nil_iff.mp carried, List.nil_append, peek_apply, choice later holds]
  rfl

end Reads

/-! ### The starts of statements -/

/-- The next token does not go on with an `if`. -/
def EndsChain (tokens : List Token) : Prop :=
  ∀ token ∈ tokens.head?, token.lexeme ≠ "else if" ∧ token.lexeme ≠ "else"

theorem EndsChain.startsWith {tokens : List Token} (ends : EndsChain tokens) :
    Parsing.startsWith "else if" tokens.head? = false ∧
      Parsing.startsWith "else" tokens.head? = false := by
  cases tokens with
  | nil => exact ⟨rfl, rfl⟩
  | cons token behind =>
    obtain ⟨noElseIf, noElse⟩ := ends token rfl
    simp [noElseIf, noElse]

/-- The first lexeme of a statement is one of an expression, the keyword of a type or a keyword with
a form. -/
def OpensStmt (lexeme : String) : Prop :=
  OpensExpr lexeme ∨ lexemeKind? lexeme = some .type ∨
    lexeme ∈ ["if", "while", "for", "return", "break", "continue"]

/-- No statement starts with a lexeme that closes a body or goes on with an `if`. -/
theorem OpensStmt.not_mem {lexeme : String} (opens : OpensStmt lexeme) :
    lexeme ∉ ["\x7d", "else if", "else"] := by
  intro member
  have others : ∀ other ∈ ["\x7d", "else if", "else"], lexemeKind? other ≠ some .type ∧
      other ∉ ["if", "while", "for", "return", "break", "continue"] := by
    decide
  rcases opens with opensExpr | isType | isKeyword
  · refine opensExpr.not_mem ?_
    revert member
    simp only [List.mem_cons]
    tauto
  · exact (others _ member).1 isType
  · exact (others _ member).2 isKeyword

theorem Spells.exists_opensExpr {brackets : Brackets} {expr : Expr} {lexemes : List String}
    (spelt : Spells brackets expr lexemes) (inside : expr.InLanguage) :
    ∃ first behind, lexemes = first :: behind ∧ OpensExpr first :=
  spelt.elim fun _ spelling => TypedImp.exists_opensExpr inside spelling

theorem StmtSpelling.exists_opensStmt {brackets : Brackets} {stmt : Stmt} {lexemes : List String}
    (spelt : StmtSpelling brackets stmt lexemes) (inside : stmt.InLanguage) :
    ∃ first behind, lexemes = first :: behind ∧ OpensStmt first := by
  cases spelt with
  | variableDecl | functionDecl => exact ⟨_, _, rfl, .inr (.inl (lexemeKind?_name _))⟩
  | expression spelt =>
    cases inside with
    | expression valueInside =>
      obtain ⟨first, behind, rfl, opens⟩ := spelt.exists_opensExpr valueInside
      exact ⟨first, _, rfl, .inl opens⟩
  | returnNothing | returnValue | ifChain | whileLoop | forLoop | breakLoop | continueLoop =>
    exact ⟨_, _, rfl, .inr (.inr (by decide))⟩

theorem endsChain_of_opensStmt {tokens later : List Token} {lexeme : String} {lexemes : List String}
    (carried : Carry tokens (lexeme :: lexemes)) (opens : OpensStmt lexeme) :
    EndsChain (tokens ++ later) := by
  obtain ⟨token, behind, rfl, carries, _⟩ := carry_cons_iff.mp carried
  rintro _ ⟨⟩
  rw [carries.1]
  exact ⟨fun same => opens.not_mem (by simp [same]), fun same => opens.not_mem (by simp [same])⟩

/-! ### Expressions in statements -/

section Expressions

variable {α : Type} {expr : Expr} {lexemes second : List String} {next : Expr → Parsing α}
  {result : α} {follows : List Token → Prop}

theorem reads_expr (inside : expr.InLanguage) (spelt : Spells .needed expr lexemes) :
    Reads (Parsing.expr 0) lexemes expr (Stops 0) := by
  intro tokens carried later stops
  exact expr_of_spells inside spelt carried stops

/-- An expression and a lexeme that ends it. -/
theorem Reads.exprThen {word : String} (inside : expr.InLanguage) (spelt : Spells .needed expr lexemes)
    (ends : word ∈ [";", ",", ")"]) (reads : Reads (next expr) (word :: second) result follows) :
    Reads (Parsing.expr 0 >>= next) (lexemes ++ word :: second) result follows := by
  refine (reads_expr inside spelt).bind reads fun tokens carried later _ => ?_
  obtain ⟨token, behind, rfl, carries, _⟩ := carry_cons_iff.mp carried
  exact stops_of_lexeme (carries.1 ▸ ends) _

theorem Reads.condition (inside : expr.InLanguage) (spelt : Spells .needed expr lexemes)
    (reads : Reads (next expr) second result follows) :
    Reads (Parsing.condition >>= next) ("(" :: (lexemes ++ ")" :: second)) result follows := by
  have whole : Reads Parsing.condition ("(" :: (lexemes ++ [")"])) expr Anything := by
    rw [condition_eq]
    exact .word fun _ => .exprThen inside spelt (by decide) (.word fun _ => .pure _)
  have shape : "(" :: (lexemes ++ ")" :: second) = ("(" :: (lexemes ++ [")"])) ++ second := by simp
  rw [shape]
  exact whole.bind reads fun _ _ _ _ => trivial

end Expressions

/-! ### Parameters -/

theorem reads_parameters :
    ∀ {parameters : List Parameter}, parameters ≠ [] →
      (∀ parameter ∈ parameters, IsName parameter.name) →
        Reads Parsing.parameters (parameterLexemes parameters) parameters
          fun later => Parsing.startsWith "," later.head? = false
  | [], nonempty, _ => absurd rfl nonempty
  | [⟨name, type⟩], _, named => by
    rw [parameters_eq]
    refine .dataType (.name (named _ List.mem_cons_self) fun token is => .peekBehind ?_)
    intro later ends
    rw [ends, is]
    rfl
  | ⟨name, type⟩ :: next :: further, _, named => by
    rw [parameters_eq]
    refine .dataType (.name (named _ List.mem_cons_self) fun token is => .peek fun comma carries => ?_)
    rw [startsWith_some, if_pos (beq_iff_eq.mpr carries.1), is]
    exact .word fun _ => (reads_parameters (List.cons_ne_nil _ _)
      fun other member => named other (.tail _ member)).map rfl

theorem reads_parameterList {parameters : List Parameter}
    (named : ∀ parameter ∈ parameters, IsName parameter.name) :
    Reads parameterList ("(" :: (parameterLexemes parameters ++ [")"])) parameters Anything := by
  rw [parameterList_eq]
  refine .word fun _ => ?_
  cases parameters with
  | nil =>
    refine .peek fun token carries => ?_
    rw [startsWith_some, if_pos (beq_iff_eq.mpr carries.1)]
    exact .word fun _ => .pure _
  | cons parameter further =>
    have more : parameter.type.name ≠ ")" := by cases parameter.type <;> decide
    have reads : Reads (do
        let parameters ← Parsing.parameters
        let _ ← lexeme ")"
        return parameters) (parameterLexemes (parameter :: further) ++ [")"])
        (parameter :: further) Anything := by
      refine (reads_parameters (List.cons_ne_nil _ _) named).bind (.word fun _ => .pure _) ?_
      intro tokens carried later _
      obtain ⟨token, behind, rfl, carries, _⟩ := carry_cons_iff.mp carried
      rw [List.cons_append, List.head?_cons, startsWith_some, carries.1]
      rfl
    have first : ∃ behind, parameterLexemes (parameter :: further) ++ [")"] =
        parameter.type.name :: behind := by
      cases further <;> exact ⟨_, rfl⟩
    obtain ⟨behind, shape⟩ := first
    rw [shape] at reads ⊢
    refine .peek fun token carries => ?_
    rw [startsWith_some, if_neg (by simpa [carries.1] using more)]
    exact reads

/-! ### Statements -/

section Statements

variable {stmt : Stmt} {second : List String} {follows : List Token → Prop}

theorem reads_stmt_of_keyword {word : String} {which : StmtForm}
    (keyword : lexemeKind? word = some .keyword)
    (listed : Tables.standard.statements.lookup word = some (.form which))
    (reads : Reads (form which) (word :: second) stmt follows) :
    Reads Parsing.stmt (word :: second) stmt follows := by
  rw [stmt_eq]
  refine .peek fun token carries => ?_
  have found : Tables.standard.stmtForm? token = some which := by
    unfold Tables.stmtForm?
    rw [carries.kind_eq keyword, carries.1, listed]
    rfl
  dsimp only
  rw [found]
  exact reads

theorem stmtForm?_of_kind_ne {token : Token} (other : token.kind ≠ .keyword) :
    Tables.standard.stmtForm? token = none :=
  if_neg other

/-- Behind the keyword of a type, the next lexeme decides what is declared. -/
theorem reads_stmt_of_type {type : DataType} {word : String} {isFunction : Bool}
    (ahead : ∀ token : Token, token.Carries word → functionAhead (some token) = isFunction)
    (reads : Reads (if isFunction then functionRest type else variableRest type) (word :: second)
      stmt follows) : Reads Parsing.stmt (type.name :: word :: second) stmt follows := by
  have readsDeclaration : Reads declaration (type.name :: word :: second) stmt follows := by
    intro tokens carried later holds
    obtain ⟨token, behind, rfl, carries, _⟩ := carry_cons_iff.mp carried
    rw [List.cons_append, declaration_of_type (carries.kind_eq (lexemeKind?_name type)) carries.1]
    refine Reads.dataType (.peek fun other carriesOther => ?_) carried holds
    rw [ahead other carriesOther]
    exact reads
  rw [stmt_eq]
  refine .peek fun token carries => ?_
  have isType : token.kind = .type := carries.kind_eq (lexemeKind?_name type)
  dsimp only
  rw [stmtForm?_of_kind_ne (by simp [isType])]
  dsimp only
  rw [if_pos isType]
  exact readsDeclaration

theorem reads_stmt_of_expression {lexemes : List String} {expr : Expr} (inside : expr.InLanguage)
    (spelt : Spells .needed expr lexemes) :
    Reads Parsing.stmt (lexemes ++ [";"]) (.expression expr) follows := by
  have reads : Reads expressionStmt (lexemes ++ [";"]) (.expression expr) follows := by
    rw [expressionStmt_eq]
    exact .exprThen inside spelt (by decide) (.word fun _ => .pure _)
  obtain ⟨first, behind, rfl, opens⟩ := spelt.exists_opensExpr inside
  rw [stmt_eq]
  refine .peek fun token carries => ?_
  have other : token.kind ≠ .keyword ∧ token.kind ≠ .type := by
    have known := carries.2
    rcases opens with rfl | isOne
    · have isParenthesis : lexemeKind? "(" = some .parenthesis := by decide
      rw [carries.kind_eq isParenthesis]
      decide
    · rw [known] at isOne
      constructor <;> intro same <;> simp [same] at isOne
  dsimp only
  rw [stmtForm?_of_kind_ne other.1]
  dsimp only
  rw [if_neg other.2]
  exact reads

end Statements

section Blocks

variable {α : Type} {inner second : List String} {result : α} {follows : List Token → Prop}

/-- A block in front of something else, once it is read up to its closing brace. -/
theorem Reads.body {body : List Stmt} {next : List Stmt → Parsing α}
    (inside : Reads untilBrace (inner ++ ["\x7d"]) body Anything)
    (reads : Reads (next body) second result follows) :
    Reads (Parsing.body >>= next) ("\x7b" :: (inner ++ "\x7d" :: second)) result follows := by
  have whole : Reads Parsing.body ("\x7b" :: (inner ++ ["\x7d"])) body Anything := by
    rw [body_eq]
    exact .word fun _ => inside
  have shape : "\x7b" :: (inner ++ "\x7d" :: second) =
      ("\x7b" :: (inner ++ ["\x7d"])) ++ second := by simp
  rw [shape]
  exact whole.bind reads fun _ _ _ _ => trivial

theorem Reads.parameterList {parameters : List Parameter} {next : List Parameter → Parsing α}
    (named : ∀ parameter ∈ parameters, IsName parameter.name)
    (reads : Reads (next parameters) second result follows) :
    Reads (Parsing.parameterList >>= next)
      ("(" :: (parameterLexemes parameters ++ ")" :: second)) result follows := by
  have shape : "(" :: (parameterLexemes parameters ++ ")" :: second) =
      ("(" :: (parameterLexemes parameters ++ [")"])) ++ second := by simp
  rw [shape]
  exact (reads_parameterList named).bind reads fun _ _ _ _ => trivial

end Blocks

/-- What stands behind a statement in a body does not go on with an `if`. -/
theorem endsChain_of_bodySpelling {brackets : Brackets} {body : List Stmt} {lexemes : List String}
    (inside : ∀ stmt ∈ body, stmt.InLanguage) (spelt : BodySpelling brackets body lexemes)
    {tokens later : List Token} (carried : Carry tokens lexemes) (ends : EndsChain later) :
    EndsChain (tokens ++ later) := by
  cases spelt with
  | nil =>
    rw [carry_nil_iff.mp carried]
    exact ends
  | cons first rest =>
    obtain ⟨lexeme, behind, rfl, opens⟩ := first.exists_opensStmt (inside _ List.mem_cons_self)
    exact endsChain_of_opensStmt carried opens

theorem endsChain_of_bodySpelling_brace {brackets : Brackets} {body : List Stmt}
    {lexemes : List String} (inside : ∀ stmt ∈ body, stmt.InLanguage)
    (spelt : BodySpelling brackets body lexemes) {tokens later : List Token}
    (carried : Carry tokens (lexemes ++ ["\x7d"])) : EndsChain (tokens ++ later) := by
  obtain ⟨before, _, rfl, bodyCarried, braceCarried⟩ := carry_append_iff.mp carried
  obtain ⟨brace, rfl, carries⟩ := carry_singleton_iff.mp braceCarried
  rw [List.append_assoc]
  refine endsChain_of_bodySpelling inside spelt bodyCarried ?_
  rintro _ ⟨⟩
  rw [carries.1]
  decide

theorem functionAhead_of_isName {name : String} (named : IsName name) {token : Token}
    (carries : token.Carries name) : functionAhead (some token) = false := by
  simp [functionAhead, carries.kind_eq (lexemeKind?_of_isName named)]

theorem functionAhead_of_function {token : Token} (carries : token.Carries "function") :
    functionAhead (some token) = true := by
  have keyword : lexemeKind? "function" = some .keyword := by decide
  simp [functionAhead, carries.kind_eq keyword, carries.1]

mutual

/-- **The lexemes of a statement are read back**, if no `else` stands behind them. -/
theorem reads_stmt {stmt : Stmt} {lexemes : List String} (inside : stmt.InLanguage) :
    StmtSpelling .needed stmt lexemes → Reads Parsing.stmt lexemes stmt EndsChain
  | .variableDecl spelt => by
    cases inside with
    | variableDecl named valueInside =>
      refine reads_stmt_of_type (fun _ => functionAhead_of_isName named)
        (.name named fun token is => .word fun _ => ?_)
      rw [is]
      exact .exprThen valueInside spelt (by decide) (.word fun _ => .pure _)
  | .functionDecl spelt => by
    cases inside with
    | functionDecl named parametersNamed bodyInside =>
      refine reads_stmt_of_type (fun _ => functionAhead_of_function)
        (.word fun _ => .name named fun token is => ?_)
      rw [is]
      exact .parameterList parametersNamed (.body (reads_untilBrace bodyInside spelt) (.pure _))
  | .expression spelt => by
    cases inside with
    | expression valueInside => exact reads_stmt_of_expression valueInside spelt
  | .returnNothing => by
    refine reads_stmt_of_keyword (by decide) rfl ?_
    rw [form, returnStmt_eq]
    refine .word fun _ => .peek fun token carries => ?_
    rw [startsWith_some, if_pos (beq_iff_eq.mpr carries.1)]
    exact .word fun _ => .pure _
  | .returnValue spelt => by
    cases inside with
    | returnValue valueInside =>
      obtain ⟨first, behind, rfl, opens⟩ := spelt.exists_opensExpr (valueInside _ rfl)
      refine reads_stmt_of_keyword (by decide) rfl ?_
      rw [form, returnStmt_eq]
      refine .word fun _ => .peek fun token carries => ?_
      have more : token.lexeme ≠ ";" :=
        fun same => opens.not_mem (by rw [← carries.1, same]; decide)
      rw [startsWith_some, if_neg (mt beq_iff_eq.mp more)]
      exact .exprThen (valueInside _ rfl) spelt (by decide) (.word fun _ => .pure _)
  | .ifChain condition body further => by
    cases inside with
    | ifChain test bodyInside furtherInside =>
      refine reads_stmt_of_keyword (by decide) rfl ?_
      rw [form, ifChain_eq]
      exact .word fun _ => .condition test condition (.body (reads_untilBrace bodyInside body)
        ((reads_alternatives furtherInside further).map rfl))
  | .whileLoop condition body => by
    cases inside with
    | whileLoop test bodyInside =>
      refine reads_stmt_of_keyword (by decide) rfl ?_
      rw [form, whileLoop_eq]
      exact .word fun _ => .condition test condition
        (.body (reads_untilBrace bodyInside body) (.pure _))
  | .forLoop initializer condition increment body => by
    cases inside with
    | forLoop first test step bodyInside =>
      refine reads_stmt_of_keyword (by decide) rfl ?_
      rw [form, forLoop_eq]
      refine .word fun _ => .word fun _ => (reads_stmt first initializer).bind
        (.exprThen test condition (by decide) (.word fun _ =>
          .exprThen step increment (by decide) (.word fun _ =>
            .body (reads_untilBrace bodyInside body) (.pure _)))) ?_
      intro tokens carried later _
      obtain ⟨lexeme, behind, rfl, opens⟩ := condition.exists_opensExpr test
      exact endsChain_of_opensStmt carried (.inl opens)
  | .breakLoop => by
    refine reads_stmt_of_keyword (by decide) rfl ?_
    rw [form, control_eq]
    exact .accept fun token carries =>
      ⟨.breakLoop, by simp [controlWord?, carries.1], .word fun _ => .pure _⟩
  | .continueLoop => by
    refine reads_stmt_of_keyword (by decide) rfl ?_
    rw [form, control_eq]
    exact .accept fun token carries =>
      ⟨.continueLoop, by simp [controlWord?, carries.1], .word fun _ => .pure _⟩

theorem reads_alternatives {alternatives : Alternatives} {lexemes : List String}
    (inside : alternatives.InLanguage) :
    AlternativesSpelling .needed alternatives lexemes →
      Reads Parsing.alternatives lexemes alternatives EndsChain
  | .none => by
    rw [alternatives_eq]
    refine .peekBehind fun later ends => ?_
    rw [ends.startsWith.1, ends.startsWith.2]
    rfl
  | .otherwise spelt => by
    cases inside with
    | otherwise bodyInside =>
      rw [alternatives_eq]
      refine .peek fun token carries => ?_
      rw [startsWith_some, startsWith_some, carries.1, if_neg (by decide), if_pos (by decide)]
      exact .word fun _ => .body (reads_untilBrace bodyInside spelt) (.pure _)
  | .elseIf condition body further => by
    cases inside with
    | elseIf test bodyInside furtherInside =>
      rw [alternatives_eq]
      refine .peek fun token carries => ?_
      rw [startsWith_some, if_pos (beq_iff_eq.mpr carries.1)]
      exact .word fun _ => .condition test condition (.body (reads_untilBrace bodyInside body)
        ((reads_alternatives furtherInside further).map rfl))

theorem reads_untilBrace {body : List Stmt} {inner : List String}
    (inside : ∀ stmt ∈ body, stmt.InLanguage) :
    BodySpelling .needed body inner → Reads untilBrace (inner ++ ["\x7d"]) body Anything
  | .nil => by
    rw [untilBrace_eq]
    refine .peek fun token carries => ?_
    dsimp only
    rw [if_pos carries.1]
    exact .word fun _ => .pure _
  | @BodySpelling.cons _ stmt body first later spelt rest => by
    have further := (List.forall_mem_cons.mp inside).2
    have reads : Reads (do
        let stmt ← Parsing.stmt
        let further ← untilBrace
        return stmt :: further) (first ++ (later ++ ["\x7d"])) (stmt :: body) Anything :=
      (reads_stmt (inside _ List.mem_cons_self) spelt).bind
        ((reads_untilBrace further rest).map rfl) fun _ carried _ _ =>
          endsChain_of_bodySpelling_brace further rest carried
    obtain ⟨lexeme, behind, rfl, opens⟩ := spelt.exists_opensStmt (inside _ List.mem_cons_self)
    rw [untilBrace_eq, List.append_assoc]
    refine .peek fun token carries => ?_
    have more : token.lexeme ≠ "\x7d" :=
      fun same => opens.not_mem (by rw [← carries.1, same]; decide)
    dsimp only
    rw [if_neg more]
    exact reads

end

/-- The lexemes of a program are read back. -/
theorem reads_program {body : List Stmt} {lexemes : List String}
    (inside : ∀ stmt ∈ body, stmt.InLanguage) :
    BodySpelling .needed body lexemes → Reads program lexemes body (· = [])
  | .nil => by
    rw [program_eq]
    refine .peekBehind ?_
    rintro _ rfl
    rfl
  | @BodySpelling.cons _ stmt body first later spelt rest => by
    have further := (List.forall_mem_cons.mp inside).2
    have reads : Reads (do
        let stmt ← Parsing.stmt
        let further ← program
        return stmt :: further) (first ++ later) (stmt :: body) (· = []) := by
      refine (reads_stmt (inside _ List.mem_cons_self) spelt).bind
        ((reads_program further rest).map rfl) ?_
      rintro _ carried _ rfl
      exact endsChain_of_bodySpelling further rest carried nofun
    obtain ⟨lexeme, behind, rfl, opens⟩ := spelt.exists_opensStmt (inside _ List.mem_cons_self)
    rw [program_eq]
    exact .peek fun token carries => reads

/-- Tokens that carry the lexemes of a program are parsed to it. -/
theorem parse_of_bodySpelling {program : Program} (inside : program.InLanguage)
    {lexemes : List String} (spelt : BodySpelling .needed program.body lexemes) {tokens : List Token}
    (carried : Carry tokens lexemes) : parse tokens = .ok program := by
  have reads := reads_program inside spelt carried (rfl : ([] : List Token) = [])
  rw [List.append_nil] at reads
  exact parse_eq_ok_iff.mpr reads

/-! ### Printing and reading -/

/-- A text of the program: its lexemes with blanks between them, and with brackets around every
operand that is not atomic. -/
def Prints (program : Program) (text : String) : Prop :=
  ∃ lexemes, BodySpelling .full program.body lexemes ∧
    Spaced (lexemes.flatMap lexemePieces) text.toList

/-- **Reading undoes printing.** Every program of the language has a text, and each of its texts is
scanned and parsed to the program itself. -/
theorem parse_of_prints {program : Program} (inside : program.InLanguage) :
    (∃ text, Prints program text) ∧
      ∀ text, Prints program text →
        ∃ tokens, scan text = .ok tokens ∧ parse tokens = .ok program := by
  constructor
  · obtain ⟨lexemes, spelt⟩ := exists_bodySpelling .full inside
    obtain ⟨text, spaced, _⟩ := exists_spaced (lexemes.flatMap lexemePieces)
    exact ⟨String.ofList text, lexemes, spelt, by rwa [String.toList_ofList]⟩
  · rintro text ⟨lexemes, spelt, spaced⟩
    obtain ⟨tokens, scanned, carried⟩ := scan_of_spaced (spelt.scannable inside) spaced
    exact ⟨tokens, scanned,
      parse_of_bodySpelling inside (spelt.mono fun _ _ => Brackets.full_of_needed) carried⟩

/-- A function with an `else if`, a loop and a string with an escaped quote. -/
theorem parse_of_prints_nested :
    let program : Program :=
      ⟨[.functionDecl .int "f" [⟨"n", .int⟩, ⟨"s", .string⟩]
        [.ifChain (.binary "<" (.identifier "n") (.literal .int "2"))
          [.returnValue (some (.identifier "n"))]
          (.elseIf (.identifier "b") [.returnValue none] (.otherwise [.breakLoop])),
        .forLoop (.variableDecl .int "i" (.literal .int "0"))
          (.binary "<" (.identifier "i") (.identifier "n"))
          (.unary "++" .behind (.identifier "i"))
          [.expression (.assign "+=" (.identifier "n") (.binary "*"
            (.binary "+" (.identifier "n") (.literal .int "1"))
            (.call "f" [.identifier "n", .literal .string "\"a\\\"b\""])))]]]⟩
    program.InLanguage ∧ ∃ text, Prints program text ∧
      ∃ tokens, scan text = .ok tokens ∧ parse tokens = .ok program := by
  have named : ∀ name ∈ ["n", "b", "i"], (Expr.identifier name).InLanguage := by
    have names : ∀ name ∈ ["n", "b", "i"], IsName name := by decide
    exact fun name member => .identifier (names name member)
  have number : ∀ value ∈ ["0", "1", "2"], (Expr.literal .int value).InLanguage := by
    have values : ∀ value ∈ ["0", "1", "2"], IsLiteral .int value := by decide
    exact fun value member => .literal (values value member)
  have quoted : (Expr.literal .string "\"a\\\"b\"").InLanguage := .literal (by decide)
  have chain : Stmt.InLanguage (.ifChain (.binary "<" (.identifier "n") (.literal .int "2"))
      [.returnValue (some (.identifier "n"))]
      (.elseIf (.identifier "b") [.returnValue none] (.otherwise [.breakLoop]))) := by
    refine .ifChain (.binary rfl (named _ (by decide)) (number _ (by decide))) ?_
      (.elseIf (named _ (by decide)) ?_ (.otherwise ?_))
    · refine List.forall_mem_singleton.mpr (.returnValue ?_)
      rintro _ ⟨⟩
      exact named _ (by decide)
    · exact List.forall_mem_singleton.mpr (.returnValue nofun)
    · exact List.forall_mem_singleton.mpr .breakLoop
  have loop : Stmt.InLanguage (.forLoop (.variableDecl .int "i" (.literal .int "0"))
      (.binary "<" (.identifier "i") (.identifier "n")) (.unary "++" .behind (.identifier "i"))
      [.expression (.assign "+=" (.identifier "n") (.binary "*"
        (.binary "+" (.identifier "n") (.literal .int "1"))
        (.call "f" [.identifier "n", .literal .string "\"a\\\"b\""])))]) := by
    refine .forLoop (.variableDecl (by decide) (number _ (by decide)))
      (.binary rfl (named _ (by decide)) (named _ (by decide))) (.unary rfl (named _ (by decide)))
      (List.forall_mem_singleton.mpr (.expression (.assign rfl (by decide) (.binary rfl
        (.binary rfl (named _ (by decide)) (number _ (by decide))) (.call (by decide) ?_)))))
    exact List.forall_mem_cons.mpr ⟨named _ (by decide), List.forall_mem_singleton.mpr quoted⟩
  have inside : Program.InLanguage ⟨[.functionDecl .int "f" [⟨"n", .int⟩, ⟨"s", .string⟩] _]⟩ :=
    List.forall_mem_singleton.mpr (.functionDecl (by decide) (by decide)
      (List.forall_mem_cons.mpr ⟨chain, List.forall_mem_singleton.mpr loop⟩))
  obtain ⟨⟨text, prints⟩, reads⟩ := parse_of_prints inside
  exact ⟨inside, text, prints, reads text prints⟩

end TypedImp
