/-
**Trees that a parser builds.**

A tree can hold any operator, assign to any expression and hold literals of any type. Three tables
say what the parser makes of a token: the binding powers, the assigning operators and the kinds of
literals; the analysis asks a fourth one, the categories of operators. They agree: what is parsed is
regular, at any depth, whatever kinds and lexemes its tokens have.

* `Expr.Regular`, `Stmt.Regular`, `Program.Regular` — the trees whose operators, assignments and
  literals the analysis knows.
* `isSome_category_of_isBinary` — every operator between two operands has a category.
* `Spelling.regular`, `StmtSpelling.regular`, … — a tree that has a spelling is regular.
* `regular_of_program` — **what is parsed is regular**, since the lexemes of its tokens spell
  it.
-/

import TypedImp.Proofs.Language
import TypedImp.Proofs.PromptStmt

namespace TypedImp

/-! ### Regular trees -/

/-- The expressions with known operators and literals, whose assignments assign to identifiers. -/
inductive Expr.Regular : Expr → Prop
  | literal {type : DataType} {value : String}
      (known : type ∈ [DataType.int, .float, .string, .boolean]) : Regular (.literal type value)
  | identifier {name : String} : Regular (.identifier name)
  | assign {operator name : String} {value : Expr}
      (known : operator ∈ ["=", "+=", "-=", "*=", "/="]) (inside : Regular value) :
      Regular (.assign operator (.identifier name) value)
  | binary {operator : String} {left right : Expr}
      (known : (OperatorCategory.of? operator).isSome = true) (leftInside : Regular left)
      (rightInside : Regular right) : Regular (.binary operator left right)
  | unary {operator : String} {fixity : Fixity} {operand : Expr}
      (known : operator ∈ ["++", "--"]) (inside : Regular operand) :
      Regular (.unary operator fixity operand)
  | call {callee : String} {arguments : List Expr}
      (inside : ∀ argument ∈ arguments, Regular argument) : Regular (.call callee arguments)

mutual

/-- The statements with regular expressions. -/
inductive Stmt.Regular : Stmt → Prop
  | variableDecl {type : DataType} {name : String} {initializer : Expr}
      (inside : initializer.Regular) : Stmt.Regular (.variableDecl type name initializer)
  | functionDecl {returnType : DataType} {name : String} {parameters : List Parameter}
      {body : List Stmt} (inside : ∀ stmt ∈ body, Stmt.Regular stmt) :
      Stmt.Regular (.functionDecl returnType name parameters body)
  | expression {expr : Expr} (inside : expr.Regular) : Stmt.Regular (.expression expr)
  | returnValue {value : Option Expr} (inside : ∀ expr ∈ value, expr.Regular) :
      Stmt.Regular (.returnValue value)
  | ifChain {condition : Expr} {body : List Stmt} {alternatives : Alternatives}
      (test : condition.Regular) (inside : ∀ stmt ∈ body, Stmt.Regular stmt)
      (further : Alternatives.Regular alternatives) :
      Stmt.Regular (.ifChain condition body alternatives)
  | whileLoop {condition : Expr} {body : List Stmt} (test : condition.Regular)
      (inside : ∀ stmt ∈ body, Stmt.Regular stmt) : Stmt.Regular (.whileLoop condition body)
  | forLoop {initializer : Stmt} {condition increment : Expr} {body : List Stmt}
      (first : Stmt.Regular initializer) (test : condition.Regular) (step : increment.Regular)
      (inside : ∀ stmt ∈ body, Stmt.Regular stmt) :
      Stmt.Regular (.forLoop initializer condition increment body)
  | breakLoop : Stmt.Regular .breakLoop
  | continueLoop : Stmt.Regular .continueLoop

/-- What follows the body of an `if`, with regular expressions. -/
inductive Alternatives.Regular : Alternatives → Prop
  | none : Alternatives.Regular .none
  | otherwise {body : List Stmt} (inside : ∀ stmt ∈ body, Stmt.Regular stmt) :
      Alternatives.Regular (.otherwise body)
  | elseIf {condition : Expr} {body : List Stmt} {alternatives : Alternatives}
      (test : condition.Regular) (inside : ∀ stmt ∈ body, Stmt.Regular stmt)
      (further : Alternatives.Regular alternatives) :
      Alternatives.Regular (.elseIf condition body alternatives)

end

/-- The programs with regular expressions. -/
def Program.Regular (program : Program) : Prop :=
  ∀ stmt ∈ program.body, stmt.Regular

/-! ### The tables agree -/

/-- **Every operator between two operands has a category.** -/
theorem isSome_category_of_isBinary {operator : String} (between : isBinary operator = true) :
    (OperatorCategory.of? operator).isSome = true := by
  have known : ∀ entry ∈ BindingPower.table, isIncrement entry.1 = false →
      (OperatorCategory.of? entry.1).isSome = true := by decide
  obtain ⟨listed, other⟩ := exists_mem_table_of_binary? (binary?_of_isBinary between)
  exact known _ listed other

theorem mem_of_isIncrement {operator : String} (increments : isIncrement operator = true) :
    operator ∈ ["++", "--"] := by
  simpa [isIncrement] using increments

theorem mem_of_literalType? {kind : Token.Kind} {type : DataType}
    (known : literalType? kind = some type) :
    type ∈ [DataType.int, .float, .string, .boolean] := by
  unfold literalType? at known
  split at known <;> cases known <;> decide

/-! ### What has a spelling is regular -/

mutual

/-- **An expression that has a spelling is regular.** -/
theorem Spelling.regular {brackets : Brackets} {enclosed : Bool} {expr : Expr}
    {lexemes : List String} : Spelling brackets enclosed expr lexemes → expr.Regular
  | .literal known => .literal (mem_of_literalType? known)
  | .identifier => .identifier
  | .assign assigns spelt => .assign (List.contains_iff_mem.mp assigns) spelt.regular
  | .binary between leftSpelt _ rightSpelt _ =>
    .binary (isSome_category_of_isBinary between) leftSpelt.regular rightSpelt.regular
  | .before increments spelt _ => .unary (mem_of_isIncrement increments) spelt.regular
  | .behind increments spelt _ => .unary (mem_of_isIncrement increments) spelt.regular
  | .call spelt => .call spelt.regular
  | .enclosed spelt => spelt.regular

/-- So are arguments that have a spelling. -/
theorem ArgumentsSpelling.regular {brackets : Brackets} {arguments : List Expr}
    {lexemes : List String} :
    ArgumentsSpelling brackets arguments lexemes → ∀ argument ∈ arguments, argument.Regular
  | .nil => List.forall_mem_nil _
  | .last spelt => List.forall_mem_singleton.mpr spelt.regular
  | .cons spelt rest => List.forall_mem_cons.mpr ⟨spelt.regular, rest.regular⟩

end

theorem Spells.regular {brackets : Brackets} {expr : Expr} {lexemes : List String}
    (spelt : Spells brackets expr lexemes) : expr.Regular :=
  spelt.choose_spec.regular

mutual

/-- **A statement that has a spelling is regular.** -/
theorem StmtSpelling.regular {brackets : Brackets} {stmt : Stmt} {lexemes : List String} :
    StmtSpelling brackets stmt lexemes → stmt.Regular
  | .variableDecl spelt => .variableDecl spelt.regular
  | .functionDecl spelt => .functionDecl spelt.regular
  | .expression spelt => .expression spelt.regular
  | .returnNothing => .returnValue nofun
  | .returnValue spelt => .returnValue fun _ same => Option.mem_some.mp same ▸ spelt.regular
  | .ifChain condition body further =>
    .ifChain condition.regular body.regular further.regular
  | .whileLoop condition body => .whileLoop condition.regular body.regular
  | .forLoop initializer condition increment body =>
    .forLoop initializer.regular condition.regular increment.regular body.regular
  | .breakLoop => .breakLoop
  | .continueLoop => .continueLoop

theorem AlternativesSpelling.regular {brackets : Brackets} {alternatives : Alternatives}
    {lexemes : List String} :
    AlternativesSpelling brackets alternatives lexemes → alternatives.Regular
  | .none => .none
  | .otherwise spelt => .otherwise spelt.regular
  | .elseIf condition body further =>
    .elseIf condition.regular body.regular further.regular

theorem BodySpelling.regular {brackets : Brackets} {body : List Stmt} {lexemes : List String} :
    BodySpelling brackets body lexemes → ∀ stmt ∈ body, stmt.Regular
  | .nil => List.forall_mem_nil _
  | .cons spelt rest => List.forall_mem_cons.mpr ⟨spelt.regular, rest.regular⟩

end

/-- **What is parsed is regular**, whatever the kinds and the lexemes of the tokens are. -/
theorem regular_of_program {tokens rest : List Token} {body : List Stmt}
    (reads : Parsing.program tokens = .ok (body, rest)) : ∀ stmt ∈ body, stmt.Regular := by
  obtain ⟨consumed, _, spelt, _⟩ := (steady_program (tokens.length + 1)).success
    (Nat.lt_succ_self _) reads
  exact spelt.regular

end TypedImp
