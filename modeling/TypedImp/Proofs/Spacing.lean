/-
**Scanning lexemes with blanks between them.**

A text of lexemes with blanks between every two of them is cut into just these lexemes, blanks being
gaps. In a program an `else` stands before an opening brace, so none is joined with an `if` behind
it.

* `Spaced` — the texts of a list of lexemes with blanks between them.
* `Scannable` — lexemes that the scanner knows, in which each `else` stands before an opening brace.
* `scan_of_spaced` — **such lexemes, written with blanks between them, are scanned to their
  tokens.**
* `BodySpelling.scannable` — the lexemes of the programs of the language are such.
-/

import TypedImp.Proofs.Gaps
import TypedImp.Proofs.Language

namespace TypedImp

open Text (isBlank)

/-- A text of the lexemes with blanks between every two of them, and perhaps around them. -/
inductive Spaced : List String → List Char → Prop
  | nil {gap : List Char} (blank : ∀ c ∈ gap, isBlank c = true) : Spaced [] gap
  | cons {gap later : List Char} {lexeme : String} {lexemes : List String}
      (blank : ∀ c ∈ gap, isBlank c = true) (separated : StartsBlank later)
      (rest : Spaced lexemes later) : Spaced (lexeme :: lexemes) (gap ++ (lexeme.toList ++ later))

/-- Every list of lexemes has a text, with single spaces in front of the lexemes. -/
theorem exists_spaced (lexemes : List String) : ∃ text, Spaced lexemes text ∧ StartsBlank text := by
  induction lexemes with
  | nil => exact ⟨[], .nil (by simp), nofun⟩
  | cons lexeme lexemes further =>
    obtain ⟨later, rest, separated⟩ := further
    refine ⟨[' '] ++ (lexeme.toList ++ later), .cons ?_ separated rest, ?_⟩
    · exact List.forall_mem_singleton.mpr rfl
    · rintro c ⟨⟩
      rfl

/-- Blanks between lexemes are gaps between them. -/
theorem Spaced.spread {lexemes : List String} {text : List Char} (spaced : Spaced lexemes text) :
    Spread lexemes text := by
  induction spaced with
  | nil blank => exact .nil (gap_of_blanks blank)
  | cons blank separated _ ih => exact .cons (gap_of_blanks blank) separated ih

/-! ### Lexemes that the scanner finds again -/

/-- The scanner knows the lexemes, and each `else` among them stands before an opening brace. -/
def Scannable : List String → Prop
  | [] => True
  | lexeme :: later =>
    (lexemeKind? lexeme).isSome = true ∧ (lexeme = "else" → later.head? = some "\x7b") ∧
      Scannable later

section Scannable

variable {lexemes : List String}

theorem Scannable.isSome (scannable : Scannable lexemes) :
    ∀ lexeme ∈ lexemes, (lexemeKind? lexeme).isSome = true := by
  induction lexemes with
  | nil => nofun
  | cons lexeme later ih =>
    obtain ⟨known, _, rest⟩ := scannable
    exact List.forall_mem_cons.mpr ⟨known, ih rest⟩

theorem Scannable.apart (scannable : Scannable lexemes) : Apart lexemes := by
  induction lexemes with
  | nil => exact .nil
  | cons lexeme later ih =>
    obtain ⟨_, braced, rest⟩ := scannable
    refine List.isChain_cons.mpr ⟨fun next isNext => ?_, ih rest⟩
    rintro ⟨isElse, rfl⟩
    rw [braced isElse] at isNext
    exact absurd isNext (by decide)

/-- **Lexemes written with blanks between them are scanned to tokens that carry them.** -/
theorem scan_of_spaced (scannable : Scannable lexemes) {text : String}
    (spaced : Spaced (lexemes.flatMap lexemePieces) text.toList) :
    ∃ tokens, scan text = .ok tokens ∧ Carry tokens lexemes :=
  scan_of_spread scannable.isSome scannable.apart spaced.spread

end Scannable

/-! ### The lexemes of the language -/

namespace Scannable

theorem append {first later : List String} (scannable : Scannable first) (rest : Scannable later) :
    Scannable (first ++ later) := by
  induction first with
  | nil => exact rest
  | cons lexeme first ih =>
    obtain ⟨known, braced, further⟩ := scannable
    refine ⟨known, fun isElse => ?_, ih further⟩
    show (first ++ later).head? = _
    rw [List.head?_append, braced isElse]
    rfl

section Cons

variable {lexeme : String} {later : List String}

/-- The keywords other than `else`, and the marks. -/
def fixedWords : List String :=
  ["function", "return", "if", "else if", "while", "for", "break", "continue", "(", ")", "\x7b",
    "\x7d", ";", ",", "="]

theorem fixed (member : lexeme ∈ fixedWords) (rest : Scannable later) :
    Scannable (lexeme :: later) := by
  have known : ∀ word ∈ fixedWords, (lexemeKind? word).isSome = true ∧ word ≠ "else" := by decide
  exact ⟨(known _ member).1, fun isElse => absurd isElse (known _ member).2, rest⟩

theorem ofKind {kind : Token.Kind} (known : lexemeKind? lexeme = some kind)
    (other : kind ≠ .keyword) (rest : Scannable later) : Scannable (lexeme :: later) := by
  refine ⟨Option.isSome_iff_exists.mpr ⟨kind, known⟩, fun isElse => absurd ?_ other, rest⟩
  have keyword : lexemeKind? "else" = some .keyword := by decide
  rw [isElse, keyword] at known
  exact (Option.some.inj known).symm

theorem name (named : IsName lexeme) (rest : Scannable later) : Scannable (lexeme :: later) :=
  ofKind (lexemeKind?_of_isName named) nofun rest

theorem type (type : DataType) (rest : Scannable later) : Scannable (type.name :: later) :=
  ofKind (lexemeKind?_name type) nofun rest

theorem otherwise (rest : Scannable ("\x7b" :: later)) :
    Scannable ("else" :: "\x7b" :: later) :=
  ⟨by decide, fun _ => rfl, rest⟩

end Cons

section Enclosed

variable {inner later : List String}

theorem parens (scannable : Scannable inner) (rest : Scannable later) :
    Scannable ("(" :: (inner ++ ")" :: later)) :=
  .fixed (by decide) (scannable.append (.fixed (by decide) rest))

theorem braces (scannable : Scannable inner) (rest : Scannable later) :
    Scannable ("\x7b" :: (inner ++ "\x7d" :: later)) :=
  .fixed (by decide) (scannable.append (.fixed (by decide) rest))

theorem semicolon (scannable : Scannable inner) (rest : Scannable later) :
    Scannable (inner ++ ";" :: later) :=
  scannable.append (.fixed (by decide) rest)

end Enclosed

end Scannable

mutual

theorem Spelling.scannable {brackets : Brackets} {enclosed : Bool} {expr : Expr}
    {lexemes : List String} (inside : expr.InLanguage) :
    Spelling brackets enclosed expr lexemes → Scannable lexemes
  | .literal _ => by
    cases inside with
    | literal written =>
      obtain ⟨kind, makes, known⟩ := lexemeKind?_of_isLiteral written
      refine .ofKind known ?_ trivial
      rintro rfl
      cases makes
  | .identifier => by
    cases inside with
    | identifier named => exact .name named trivial
  | .assign assigns spelt => by
    cases inside with
    | assign _ named valueInside =>
      exact .name named
        (.ofKind (lexemeKind?_of_isAssignment assigns) nofun (spelt.scannable valueInside))
  | .binary between left _ right _ => by
    cases inside with
    | binary _ leftInside rightInside =>
      exact (left.scannable leftInside).append
        (.ofKind (lexemeKind?_of_isBinary between) nofun (right.scannable rightInside))
  | .before increments spelt _ => by
    cases inside with
    | unary _ operandInside =>
      exact .ofKind (lexemeKind?_of_isIncrement increments) nofun (spelt.scannable operandInside)
  | .behind increments spelt _ => by
    cases inside with
    | unary _ operandInside =>
      exact (spelt.scannable operandInside).append
        (.ofKind (lexemeKind?_of_isIncrement increments) nofun trivial)
  | .call spelt => by
    cases inside with
    | call named argumentsInside =>
      exact .name named (.parens (spelt.scannable argumentsInside) trivial)
  | .enclosed spelt => .parens (spelt.scannable inside) trivial

theorem ArgumentsSpelling.scannable {brackets : Brackets} {arguments : List Expr}
    {lexemes : List String} (inside : ∀ argument ∈ arguments, argument.InLanguage) :
    ArgumentsSpelling brackets arguments lexemes → Scannable lexemes
  | .nil => trivial
  | .last spelt => spelt.scannable (inside _ List.mem_cons_self)
  | .cons spelt rest =>
    (spelt.scannable (inside _ List.mem_cons_self)).append
      (.fixed (by decide) (rest.scannable fun argument member => inside argument (.tail _ member)))

end

theorem Spells.scannable {brackets : Brackets} {expr : Expr} {lexemes : List String}
    (spelt : Spells brackets expr lexemes) (inside : expr.InLanguage) : Scannable lexemes :=
  spelt.elim fun _ spelling => spelling.scannable inside

theorem scannable_parameterLexemes :
    ∀ {parameters : List Parameter}, (∀ parameter ∈ parameters, IsName parameter.name) →
      Scannable (parameterLexemes parameters)
  | [], _ => trivial
  | [parameter], named => .type parameter.type (.name (named _ List.mem_cons_self) trivial)
  | parameter :: _ :: _, named =>
    .type parameter.type (.name (named _ List.mem_cons_self) (.fixed (by decide)
      (scannable_parameterLexemes fun other member => named other (.tail _ member))))

mutual

theorem StmtSpelling.scannable {brackets : Brackets} {stmt : Stmt} {lexemes : List String}
    (inside : stmt.InLanguage) : StmtSpelling brackets stmt lexemes → Scannable lexemes
  | @StmtSpelling.variableDecl _ type _ _ _ spelt => by
    cases inside with
    | variableDecl named valueInside =>
      exact .type type (.name named
        (.fixed (by decide) (.semicolon (spelt.scannable valueInside) trivial)))
  | @StmtSpelling.functionDecl _ returnType _ _ _ _ spelt => by
    cases inside with
    | functionDecl named parametersNamed bodyInside =>
      exact .type returnType (.fixed (by decide) (.name named
        (.parens (scannable_parameterLexemes parametersNamed)
          (.braces (spelt.scannable bodyInside) trivial))))
  | .expression spelt => by
    cases inside with
    | expression valueInside => exact .semicolon (spelt.scannable valueInside) trivial
  | .returnNothing => .fixed (by decide) (.fixed (by decide) trivial)
  | .returnValue spelt => by
    cases inside with
    | returnValue valueInside =>
      exact .fixed (by decide) (.semicolon (spelt.scannable (valueInside _ rfl)) trivial)
  | .ifChain condition body further => by
    cases inside with
    | ifChain test bodyInside furtherInside =>
      exact .fixed (by decide) (.parens (condition.scannable test)
        (.braces (body.scannable bodyInside) (further.scannable furtherInside)))
  | .whileLoop condition body => by
    cases inside with
    | whileLoop test bodyInside =>
      exact .fixed (by decide) (.parens (condition.scannable test)
        (.braces (body.scannable bodyInside) trivial))
  | .forLoop initializer condition increment body => by
    cases inside with
    | forLoop first test step bodyInside =>
      exact .fixed (by decide) (.fixed (by decide) ((initializer.scannable first).append
        (.semicolon (condition.scannable test) ((increment.scannable step).append
          (.fixed (by decide) (.braces (body.scannable bodyInside) trivial))))))
  | .breakLoop | .continueLoop => .fixed (by decide) (.fixed (by decide) trivial)

theorem AlternativesSpelling.scannable {brackets : Brackets} {alternatives : Alternatives}
    {lexemes : List String} (inside : alternatives.InLanguage) :
    AlternativesSpelling brackets alternatives lexemes → Scannable lexemes
  | .none => trivial
  | .otherwise spelt => by
    cases inside with
    | otherwise bodyInside => exact .otherwise (.braces (spelt.scannable bodyInside) trivial)
  | .elseIf condition body further => by
    cases inside with
    | elseIf test bodyInside furtherInside =>
      exact .fixed (by decide) (.parens (condition.scannable test)
        (.braces (body.scannable bodyInside) (further.scannable furtherInside)))

/-- **The scanner knows the lexemes of the language**, and joins none that belong apart. -/
theorem BodySpelling.scannable {brackets : Brackets} {body : List Stmt} {lexemes : List String}
    (inside : ∀ stmt ∈ body, stmt.InLanguage) :
    BodySpelling brackets body lexemes → Scannable lexemes
  | .nil => trivial
  | .cons spelt rest =>
    (spelt.scannable (inside _ List.mem_cons_self)).append
      (rest.scannable fun stmt member => inside stmt (.tail _ member))

end

end TypedImp
