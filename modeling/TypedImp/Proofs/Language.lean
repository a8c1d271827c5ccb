/-
**The trees of the language.**

A tree can hold any texts for names, operators and literals. Those of the language hold the texts
that a source can hold in their places: names, literals of their types, and the operators of the
table. An assignment assigns to an identifier.

* `Expr.InLanguage`, `Stmt.InLanguage`, `Program.InLanguage` — the trees of the language.
* `spelling_render`, `exists_bodySpelling` — every one of them has a spelling, however many brackets
  are demanded.
-/

import TypedImp.Proofs.Lexemes
import TypedImp.Proofs.Spelling

namespace TypedImp

/-- The expressions of the language. -/
inductive Expr.InLanguage : Expr → Prop
  | literal {type : DataType} {value : String} (written : IsLiteral type value) :
      InLanguage (.literal type value)
  | identifier {name : String} (named : IsName name) : InLanguage (.identifier name)
  | assign {operator name : String} {value : Expr} (assigns : isAssignment operator = true)
      (named : IsName name) (inside : InLanguage value) :
      InLanguage (.assign operator (.identifier name) value)
  | binary {operator : String} {left right : Expr} (between : isBinary operator = true)
      (leftInside : InLanguage left) (rightInside : InLanguage right) :
      InLanguage (.binary operator left right)
  | unary {operator : String} {fixity : Fixity} {operand : Expr}
      (increments : isIncrement operator = true) (inside : InLanguage operand) :
      InLanguage (.unary operator fixity operand)
  | call {callee : String} {arguments : List Expr} (named : IsName callee)
      (inside : ∀ argument ∈ arguments, InLanguage argument) :
      InLanguage (.call callee arguments)

mutual

/-- The statements of the language. -/
inductive Stmt.InLanguage : Stmt → Prop
  | variableDecl {type : DataType} {name : String} {initializer : Expr} (named : IsName name)
      (inside : initializer.InLanguage) : Stmt.InLanguage (.variableDecl type name initializer)
  | functionDecl {returnType : DataType} {name : String} {parameters : List Parameter}
      {body : List Stmt} (named : IsName name)
      (parametersNamed : ∀ parameter ∈ parameters, IsName parameter.name)
      (inside : ∀ stmt ∈ body, Stmt.InLanguage stmt) :
      Stmt.InLanguage (.functionDecl returnType name parameters body)
  | expression {expr : Expr} (inside : expr.InLanguage) : Stmt.InLanguage (.expression expr)
  | returnValue {value : Option Expr} (inside : ∀ expr ∈ value, expr.InLanguage) :
      Stmt.InLanguage (.returnValue value)
  | ifChain {condition : Expr} {body : List Stmt} {alternatives : Alternatives}
      (test : condition.InLanguage) (inside : ∀ stmt ∈ body, Stmt.InLanguage stmt)
      (further : Alternatives.InLanguage alternatives) :
      Stmt.InLanguage (.ifChain condition body alternatives)
  | whileLoop {condition : Expr} {body : List Stmt} (test : condition.InLanguage)
      (inside : ∀ stmt ∈ body, Stmt.InLanguage stmt) : Stmt.InLanguage (.whileLoop condition body)
  | forLoop {initializer : Stmt} {condition increment : Expr} {body : List Stmt}
      (first : Stmt.InLanguage initializer) (test : condition.InLanguage)
      (step : increment.InLanguage) (inside : ∀ stmt ∈ body, Stmt.InLanguage stmt) :
      Stmt.InLanguage (.forLoop initializer condition increment body)
  | breakLoop : Stmt.InLanguage .breakLoop
  | continueLoop : Stmt.InLanguage .continueLoop

/-- What may follow the body of an `if` in the language. -/
inductive Alternatives.InLanguage : Alternatives → Prop
  | none : Alternatives.InLanguage .none
  | otherwise {body : List Stmt} (inside : ∀ stmt ∈ body, Stmt.InLanguage stmt) :
      Alternatives.InLanguage (.otherwise body)
  | elseIf {condition : Expr} {body : List Stmt} {alternatives : Alternatives}
      (test : condition.InLanguage) (inside : ∀ stmt ∈ body, Stmt.InLanguage stmt)
      (further : Alternatives.InLanguage alternatives) :
      Alternatives.InLanguage (.elseIf condition body alternatives)

end

/-- The programs of the language. -/
def Program.InLanguage (program : Program) : Prop :=
  ∀ stmt ∈ program.body, stmt.InLanguage

/-! ### Operators -/

theorem exists_mem_table_of_binary? {operator : String} {power : BindingPower}
    (found : BindingPower.binary? operator = some power) :
    (operator, power) ∈ BindingPower.table ∧ isIncrement operator = false := by
  unfold BindingPower.binary? at found
  split at found
  · cases found
  · rename_i other
    obtain ⟨before, behind, split, _⟩ := List.lookup_eq_some_iff.mp found
    exact ⟨by simp [split], Bool.eq_false_iff.mpr other⟩

theorem binary?_of_isBinary {operator : String} (between : isBinary operator = true) :
    BindingPower.binary? operator = some (powerOf operator) := by
  obtain ⟨power, found⟩ := Option.isSome_iff_exists.mp between
  have listed : BindingPower.of? operator = some power := by
    unfold BindingPower.binary? at found
    split at found
    · cases found
    · exact found
  rw [found, powerOf, listed]
  rfl

theorem lexemeKind?_of_isBinary {operator : String} (between : isBinary operator = true) :
    lexemeKind? operator = some .operator := by
  have known : ∀ entry ∈ BindingPower.table, lexemeKind? entry.1 = some .operator := by decide
  exact known _ (exists_mem_table_of_binary? (binary?_of_isBinary between)).1

theorem lexemeKind?_of_isIncrement {operator : String} (increments : isIncrement operator = true) :
    lexemeKind? operator = some .operator := by
  rcases (by simpa [isIncrement] using increments : operator = "++" ∨ operator = "--") with
    rfl | rfl <;> decide

theorem lexemeKind?_of_isAssignment {operator : String} (assigns : isAssignment operator = true) :
    lexemeKind? operator = some .operator := by
  have known : ∀ other ∈ assignmentOperators, lexemeKind? other = some .operator := by decide
  exact known _ (List.contains_iff_mem.mp assigns)

/-! ### Every tree has a spelling -/

theorem spelling_bracketed {brackets : Brackets} {expr : Expr} {lexemes : List String}
    (spelt : Spelling brackets false expr lexemes) (needs : Bool) :
    Spelling brackets needs expr (bracketed needs lexemes) := by
  cases needs with
  | false => exact spelt
  | true => exact .enclosed spelt

theorem argumentsSpelling_render {brackets : Brackets} :
    ∀ {arguments : List Expr},
      (∀ argument ∈ arguments, Spelling brackets false argument (argument.render brackets)) →
        ArgumentsSpelling brackets arguments (renderArguments brackets arguments)
  | [], _ => .nil
  | [_], spelt => .last (spelt _ List.mem_cons_self)
  | _ :: _ :: _, spelt =>
    .cons (spelt _ List.mem_cons_self)
      (argumentsSpelling_render fun argument member =>
        spelt argument (List.mem_cons_of_mem _ member))

/-- **The lexemes with just the brackets that are needed spell the expression.** -/
theorem spelling_render (brackets : Brackets) {expr : Expr} (inside : expr.InLanguage) :
    Spelling brackets false expr (expr.render brackets) := by
  induction inside with
  | literal written =>
    obtain ⟨kind, known, _⟩ := lexemeKind?_of_isLiteral written
    exact .literal known
  | identifier named => exact .identifier
  | assign assigns named inside spelt => exact .assign assigns spelt
  | binary between leftInside rightInside left right =>
    exact .binary between (spelling_bracketed left _) id (spelling_bracketed right _) id
  | @unary operator fixity operand increments inside spelt =>
    cases fixity with
    | before => exact .before increments (spelling_bracketed spelt _) id
    | behind => exact .behind increments (spelling_bracketed spelt _) id
  | call named inside spelt => exact .call (argumentsSpelling_render spelt)

theorem Expr.InLanguage.spells (brackets : Brackets) {expr : Expr} (inside : expr.InLanguage) :
    Spells brackets expr (expr.render brackets) :=
  ⟨false, spelling_render brackets inside⟩

theorem exists_bodySpelling_of_forall {brackets : Brackets} {body : List Stmt}
    (spelt : ∀ stmt ∈ body, ∃ lexemes, StmtSpelling brackets stmt lexemes) :
    ∃ lexemes, BodySpelling brackets body lexemes := by
  induction body with
  | nil => exact ⟨[], .nil⟩
  | cons stmt body further =>
    obtain ⟨first, stmtSpelt⟩ := spelt stmt List.mem_cons_self
    obtain ⟨later, bodySpelt⟩ := further fun other member => spelt other (.tail stmt member)
    exact ⟨first ++ later, .cons stmtSpelt bodySpelt⟩

mutual

theorem exists_stmtSpelling (brackets : Brackets) {stmt : Stmt} :
    stmt.InLanguage → ∃ lexemes, StmtSpelling brackets stmt lexemes
  | .variableDecl _ inside => ⟨_, .variableDecl (inside.spells brackets)⟩
  | .functionDecl _ _ inside => by
    obtain ⟨_, body⟩ := exists_bodySpelling_of_forall fun stmt member =>
      exists_stmtSpelling brackets (inside stmt member)
    exact ⟨_, .functionDecl body⟩
  | .expression inside => ⟨_, .expression (inside.spells brackets)⟩
  | @Stmt.InLanguage.returnValue value inside => by
    cases value with
    | none => exact ⟨_, .returnNothing⟩
    | some expr => exact ⟨_, .returnValue ((inside expr rfl).spells brackets)⟩
  | .ifChain test inside further => by
    obtain ⟨_, body⟩ := exists_bodySpelling_of_forall fun stmt member =>
      exists_stmtSpelling brackets (inside stmt member)
    obtain ⟨_, alternatives⟩ := exists_alternativesSpelling brackets further
    exact ⟨_, .ifChain (test.spells brackets) body alternatives⟩
  | .whileLoop test inside => by
    obtain ⟨_, body⟩ := exists_bodySpelling_of_forall fun stmt member =>
      exists_stmtSpelling brackets (inside stmt member)
    exact ⟨_, .whileLoop (test.spells brackets) body⟩
  | .forLoop first test step inside => by
    obtain ⟨_, initializer⟩ := exists_stmtSpelling brackets first
    obtain ⟨_, body⟩ := exists_bodySpelling_of_forall fun stmt member =>
      exists_stmtSpelling brackets (inside stmt member)
    exact ⟨_, .forLoop initializer (test.spells brackets) (step.spells brackets) body⟩
  | .breakLoop => ⟨_, .breakLoop⟩
  | .continueLoop => ⟨_, .continueLoop⟩

theorem exists_alternativesSpelling (brackets : Brackets) {alternatives : Alternatives} :
    alternatives.InLanguage → ∃ lexemes, AlternativesSpelling brackets alternatives lexemes
  | .none => ⟨_, .none⟩
  | .otherwise inside => by
    obtain ⟨_, body⟩ := exists_bodySpelling_of_forall fun stmt member =>
      exists_stmtSpelling brackets (inside stmt member)
    exact ⟨_, .otherwise body⟩
  | .elseIf test inside further => by
    obtain ⟨_, body⟩ := exists_bodySpelling_of_forall fun stmt member =>
      exists_stmtSpelling brackets (inside stmt member)
    obtain ⟨_, alternatives⟩ := exists_alternativesSpelling brackets further
    exact ⟨_, .elseIf (test.spells brackets) body alternatives⟩

end

/-- **Every program of the language has a spelling**, however many brackets are demanded. -/
theorem exists_bodySpelling (brackets : Brackets) {program : Program}
    (inside : program.InLanguage) : ∃ lexemes, BodySpelling brackets program.body lexemes :=
  exists_bodySpelling_of_forall fun stmt member => exists_stmtSpelling brackets (inside stmt member)

end TypedImp
