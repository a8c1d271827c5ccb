/-
**The concrete syntax.**

A tree is spelt by a list of lexemes. The statements are spelt in one way, but around an expression
there may be brackets: any number of pairs, and around some operands at least one. Which operands
need them is a parameter, since there are several answers: none at all, if only the order of the
lexemes matters; every operand that is not atomic, if the reader shall know no precedence; or those
that would be read in another way without.

* `Brackets` — which operands need brackets, by the place where they stand.
* `Spelling`, `StmtSpelling`, `BodySpelling` — the lexemes that spell an expression, a statement and
  a list of statements. Fewer demands admit more spellings (`Spelling.mono`).
* `Expr.render` — the spelling with exactly the brackets that are needed (`spelling_render`).
-/

import TypedImp.Parse.Expr

namespace TypedImp

/-- The power of an operator that stands between two operands. -/
def BindingPower.binary? (operator : String) : Option BindingPower :=
  if isIncrement operator then none else BindingPower.of? operator

/-- Whether an operator stands between two operands. -/
def isBinary (operator : String) : Bool :=
  (BindingPower.binary? operator).isSome

/-- The power of an operator, zero if it has none. -/
def powerOf (operator : String) : BindingPower :=
  (BindingPower.of? operator).getD ⟨0, 0⟩

/-! ### Brackets -/

/-- The places of an operand: beside an operator between two operands, or under an increment. -/
inductive Slot
  | leftOf (operator : String)
  | rightOf (operator : String)
  | under (fixity : Fixity)
  deriving DecidableEq, Repr

/-- Which operands need brackets, by their place. -/
abbrev Brackets : Type :=
  Slot → Expr → Bool

namespace Brackets

/-- No operand needs brackets. -/
def optional : Brackets :=
  fun _ _ => false

/-- Every operand needs brackets that is not a literal, an identifier or a call. -/
def full : Brackets
  | _, .literal _ _ | _, .identifier _ | _, .call _ _ => false
  | _, .assign _ _ _ | _, .binary _ _ _ | _, .unary _ _ _ => true

/-- An operand needs brackets if the binding powers would tear it apart: an assignment everywhere, an
operator between operands under an increment and beside an operator that binds more tightly, and an
increment in front of its operand under one behind. -/
def needed : Brackets
  | _, .assign _ _ _ => true
  | .leftOf outer, .binary inner _ _ => (powerOf inner).right ≤ (powerOf outer).left
  | .rightOf outer, .binary inner _ _ => (powerOf inner).left < (powerOf outer).right
  | .under _, .binary _ _ _ => true
  | .under .behind, .unary _ .before _ => true
  | _, _ => false

theorem full_of_needed {slot : Slot} {operand : Expr} (needs : needed slot operand = true) :
    full slot operand = true := by
  cases operand <;> first | rfl | cases slot <;> simp [needed] at needs

end Brackets

/-! ### Expressions -/

mutual

/-- The lexemes spell the expression. The first index tells whether they are enclosed in brackets. -/
inductive Spelling (brackets : Brackets) : Bool → Expr → List String → Prop
  | literal {kind : Token.Kind} {type : DataType} {value : String}
      (known : literalType? kind = some type) :
      Spelling brackets false (.literal type value) [value]
  | identifier {name : String} : Spelling brackets false (.identifier name) [name]
  | assign {enclosed : Bool} {operator name : String} {value : Expr} {lexemes : List String}
      (assigns : isAssignment operator = true) (spelt : Spelling brackets enclosed value lexemes) :
      Spelling brackets false (.assign operator (.identifier name) value)
        (name :: operator :: lexemes)
  | binary {leftEnclosed rightEnclosed : Bool} {operator : String} {left right : Expr}
      {leftLexemes rightLexemes : List String} (between : isBinary operator = true)
      (leftSpelt : Spelling brackets leftEnclosed left leftLexemes)
      (leftNeeds : brackets (.leftOf operator) left = true → leftEnclosed = true)
      (rightSpelt : Spelling brackets rightEnclosed right rightLexemes)
      (rightNeeds : brackets (.rightOf operator) right = true → rightEnclosed = true) :
      Spelling brackets false (.binary operator left right)
        (leftLexemes ++ operator :: rightLexemes)
  | before {enclosed : Bool} {operator : String} {operand : Expr} {lexemes : List String}
      (increments : isIncrement operator = true)
      (spelt : Spelling brackets enclosed operand lexemes)
      (needs : brackets (.under .before) operand = true → enclosed = true) :
      Spelling brackets false (.unary operator .before operand) (operator :: lexemes)
  | behind {enclosed : Bool} {operator : String} {operand : Expr} {lexemes : List String}
      (increments : isIncrement operator = true)
      (spelt : Spelling brackets enclosed operand lexemes)
      (needs : brackets (.under .behind) operand = true → enclosed = true) :
      Spelling brackets false (.unary operator .behind operand) (lexemes ++ [operator])
  | call {callee : String} {arguments : List Expr} {lexemes : List String}
      (spelt : ArgumentsSpelling brackets arguments lexemes) :
      Spelling brackets false (.call callee arguments) (callee :: "(" :: (lexemes ++ [")"]))
  | enclosed {enclosed : Bool} {expr : Expr} {lexemes : List String}
      (spelt : Spelling brackets enclosed expr lexemes) :
      Spelling brackets true expr ("(" :: (lexemes ++ [")"]))

/-- The lexemes spell the expressions, with commas between them. -/
inductive ArgumentsSpelling (brackets : Brackets) : List Expr → List String → Prop
  | nil : ArgumentsSpelling brackets [] []
  | last {enclosed : Bool} {argument : Expr} {lexemes : List String}
      (spelt : Spelling brackets enclosed argument lexemes) :
      ArgumentsSpelling brackets [argument] lexemes
  | cons {enclosed : Bool} {argument next : Expr} {further : List Expr}
      {lexemes more : List String} (spelt : Spelling brackets enclosed argument lexemes)
      (rest : ArgumentsSpelling brackets (next :: further) more) :
      ArgumentsSpelling brackets (argument :: next :: further) (lexemes ++ "," :: more)

end

/-- The lexemes spell the expression, bare or in brackets. -/
def Spells (brackets : Brackets) (expr : Expr) (lexemes : List String) : Prop :=
  ∃ enclosed, Spelling brackets enclosed expr lexemes

mutual

/-- **Fewer demands on brackets admit more spellings.** -/
theorem Spelling.mono {strict lax : Brackets}
    (weaker : ∀ slot operand, lax slot operand = true → strict slot operand = true)
    {enclosed : Bool} {expr : Expr} {lexemes : List String} :
    Spelling strict enclosed expr lexemes → Spelling lax enclosed expr lexemes
  | .literal known => .literal known
  | .identifier => .identifier
  | .assign assigns spelt => .assign assigns (spelt.mono weaker)
  | .binary between left leftNeeds right rightNeeds =>
    .binary between (left.mono weaker) (leftNeeds ∘ weaker _ _) (right.mono weaker)
      (rightNeeds ∘ weaker _ _)
  | .before increments spelt needs => .before increments (spelt.mono weaker) (needs ∘ weaker _ _)
  | .behind increments spelt needs => .behind increments (spelt.mono weaker) (needs ∘ weaker _ _)
  | .call spelt => .call (spelt.mono weaker)
  | .enclosed spelt => .enclosed (spelt.mono weaker)

theorem ArgumentsSpelling.mono {strict lax : Brackets}
    (weaker : ∀ slot operand, lax slot operand = true → strict slot operand = true)
    {arguments : List Expr} {lexemes : List String} :
    ArgumentsSpelling strict arguments lexemes → ArgumentsSpelling lax arguments lexemes
  | .nil => .nil
  | .last spelt => .last (spelt.mono weaker)
  | .cons spelt rest => .cons (spelt.mono weaker) (rest.mono weaker)

end

/-! ### The sparing spelling -/

/-- The lexemes in brackets, if they need any. -/
def bracketed (needs : Bool) (lexemes : List String) : List String :=
  if needs then "(" :: (lexemes ++ [")"]) else lexemes

mutual

/-- The lexemes of an expression, with brackets around the operands that need them only. -/
def Expr.render (brackets : Brackets) : Expr → List String
  | .literal _ value => [value]
  | .identifier name => [name]
  | .assign operator target value => target.render brackets ++ operator :: value.render brackets
  | .binary operator left right =>
    bracketed (brackets (.leftOf operator) left) (left.render brackets) ++
      operator :: bracketed (brackets (.rightOf operator) right) (right.render brackets)
  | .unary operator .before operand =>
    operator :: bracketed (brackets (.under .before) operand) (operand.render brackets)
  | .unary operator .behind operand =>
    bracketed (brackets (.under .behind) operand) (operand.render brackets) ++ [operator]
  | .call callee arguments => callee :: "(" :: (renderArguments brackets arguments ++ [")"])

/-- The lexemes of expressions with commas between them. -/
def renderArguments (brackets : Brackets) : List Expr → List String
  | [] => []
  | [argument] => argument.render brackets
  | argument :: next :: further =>
    argument.render brackets ++ "," :: renderArguments brackets (next :: further)

end

/-! ### Statements -/

/-- The lexemes of parameters, with commas between them. -/
def parameterLexemes : List Parameter → List String
  | [] => []
  | [parameter] => [parameter.type.name, parameter.name]
  | parameter :: next :: further =>
    parameter.type.name :: parameter.name :: "," :: parameterLexemes (next :: further)

mutual

/-- The lexemes spell the statement. -/
inductive StmtSpelling (brackets : Brackets) : Stmt → List String → Prop
  | variableDecl {type : DataType} {name : String} {initializer : Expr} {value : List String}
      (spelt : Spells brackets initializer value) :
      StmtSpelling brackets (.variableDecl type name initializer)
        (type.name :: name :: "=" :: (value ++ [";"]))
  | functionDecl {returnType : DataType} {name : String} {parameters : List Parameter}
      {body : List Stmt} {inner : List String} (spelt : BodySpelling brackets body inner) :
      StmtSpelling brackets (.functionDecl returnType name parameters body)
        (returnType.name :: "function" :: name :: "(" ::
          (parameterLexemes parameters ++ ")" :: "\x7b" :: (inner ++ ["\x7d"])))
  | expression {expr : Expr} {value : List String} (spelt : Spells brackets expr value) :
      StmtSpelling brackets (.expression expr) (value ++ [";"])
  | returnNothing : StmtSpelling brackets (.returnValue none) ["return", ";"]
  | returnValue {expr : Expr} {value : List String} (spelt : Spells brackets expr value) :
      StmtSpelling brackets (.returnValue (some expr)) ("return" :: (value ++ [";"]))
  | ifChain {condition : Expr} {body : List Stmt} {alternatives : Alternatives}
      {test inner further : List String} (conditionSpelt : Spells brackets condition test)
      (bodySpelt : BodySpelling brackets body inner)
      (furtherSpelt : AlternativesSpelling brackets alternatives further) :
      StmtSpelling brackets (.ifChain condition body alternatives)
        ("if" :: "(" :: (test ++ ")" :: "\x7b" :: (inner ++ "\x7d" :: further)))
  | whileLoop {condition : Expr} {body : List Stmt} {test inner : List String}
      (conditionSpelt : Spells brackets condition test)
      (bodySpelt : BodySpelling brackets body inner) :
      StmtSpelling brackets (.whileLoop condition body)
        ("while" :: "(" :: (test ++ ")" :: "\x7b" :: (inner ++ ["\x7d"])))
  | forLoop {initializer : Stmt} {condition increment : Expr} {body : List Stmt}
      {first test step inner : List String}
      (initializerSpelt : StmtSpelling brackets initializer first)
      (conditionSpelt : Spells brackets condition test)
      (incrementSpelt : Spells brackets increment step)
      (bodySpelt : BodySpelling brackets body inner) :
      StmtSpelling brackets (.forLoop initializer condition increment body)
        ("for" :: "(" :: (first ++ (test ++ ";" :: (step ++ ")" :: "\x7b" :: (inner ++ ["\x7d"])))))
  | breakLoop : StmtSpelling brackets .breakLoop ["break", ";"]
  | continueLoop : StmtSpelling brackets .continueLoop ["continue", ";"]

/-- The lexemes spell what follows the body of an `if`. -/
inductive AlternativesSpelling (brackets : Brackets) : Alternatives → List String → Prop
  | none : AlternativesSpelling brackets .none []
  | otherwise {body : List Stmt} {inner : List String} (spelt : BodySpelling brackets body inner) :
      AlternativesSpelling brackets (.otherwise body) ("else" :: "\x7b" :: (inner ++ ["\x7d"]))
  | elseIf {condition : Expr} {body : List Stmt} {alternatives : Alternatives}
      {test inner further : List String} (conditionSpelt : Spells brackets condition test)
      (bodySpelt : BodySpelling brackets body inner)
      (furtherSpelt : AlternativesSpelling brackets alternatives further) :
      AlternativesSpelling brackets (.elseIf condition body alternatives)
        ("else if" :: "(" :: (test ++ ")" :: "\x7b" :: (inner ++ "\x7d" :: further)))

/-- The lexemes spell the statements, one after another. -/
inductive BodySpelling (brackets : Brackets) : List Stmt → List String → Prop
  | nil : BodySpelling brackets [] []
  | cons {stmt : Stmt} {body : List Stmt} {first later : List String}
      (spelt : StmtSpelling brackets stmt first) (rest : BodySpelling brackets body later) :
      BodySpelling brackets (stmt :: body) (first ++ later)

end

theorem Spells.mono {strict lax : Brackets}
    (weaker : ∀ slot operand, lax slot operand = true → strict slot operand = true) {expr : Expr}
    {lexemes : List String} (spelt : Spells strict expr lexemes) : Spells lax expr lexemes :=
  spelt.imp fun _ spelling => spelling.mono weaker

mutual

theorem StmtSpelling.mono {strict lax : Brackets}
    (weaker : ∀ slot operand, lax slot operand = true → strict slot operand = true) {stmt : Stmt}
    {lexemes : List String} : StmtSpelling strict stmt lexemes → StmtSpelling lax stmt lexemes
  | .variableDecl spelt => .variableDecl (spelt.mono weaker)
  | .functionDecl spelt => .functionDecl (spelt.mono weaker)
  | .expression spelt => .expression (spelt.mono weaker)
  | .returnNothing => .returnNothing
  | .returnValue spelt => .returnValue (spelt.mono weaker)
  | .ifChain condition body further =>
    .ifChain (condition.mono weaker) (body.mono weaker) (further.mono weaker)
  | .whileLoop condition body => .whileLoop (condition.mono weaker) (body.mono weaker)
  | .forLoop initializer condition increment body =>
    .forLoop (initializer.mono weaker) (condition.mono weaker) (increment.mono weaker)
      (body.mono weaker)
  | .breakLoop => .breakLoop
  | .continueLoop => .continueLoop

theorem AlternativesSpelling.mono {strict lax : Brackets}
    (weaker : ∀ slot operand, lax slot operand = true → strict slot operand = true)
    {alternatives : Alternatives} {lexemes : List String} :
    AlternativesSpelling strict alternatives lexemes →
      AlternativesSpelling lax alternatives lexemes
  | .none => .none
  | .otherwise spelt => .otherwise (spelt.mono weaker)
  | .elseIf condition body further =>
    .elseIf (condition.mono weaker) (body.mono weaker) (further.mono weaker)

theorem BodySpelling.mono {strict lax : Brackets}
    (weaker : ∀ slot operand, lax slot operand = true → strict slot operand = true)
    {body : List Stmt} {lexemes : List String} :
    BodySpelling strict body lexemes → BodySpelling lax body lexemes
  | .nil => .nil
  | .cons spelt rest => .cons (spelt.mono weaker) (rest.mono weaker)

end

end TypedImp
