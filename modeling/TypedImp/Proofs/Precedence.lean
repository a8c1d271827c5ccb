/-
**Reading what is spelt: expressions.**

The operator loop keeps the tree that the binding powers ask for. Behind the lexemes of an expression
stand further tokens, and reading comes down to going on with the operators behind the tree that was
spelt (`expr_of_spelling`), if two things hold: the operators on its left edge bind at least as tightly
as the reader asks, and what stands behind is not drawn into its right edge. The brackets that are
needed are just the ones that keep this up at every operand, by a few facts on the table
(`binary_bounds`).

* `Stops` — tokens in front of which a reader with a given minimum stops.
* `expr_of_spelling` — **reading the lexemes of an expression leaves the operators behind it.**
* `readExpr_of_render` — **with no brackets but the needed ones an expression is read back, up to a
  semicolon, a comma, a closing parenthesis or the end.**
-/

import TypedImp.Proofs.Language
import TypedImp.Proofs.Parsing

namespace TypedImp

/-! ### The table of binding powers -/

/-- The power of an operator between operands: left powers are even and right powers odd, the two lie
side by side, and both are below the right power of the increments. -/
theorem binary_bounds {operator : String} {power : BindingPower}
    (found : BindingPower.binary? operator = some power) :
    power.left % 2 = 0 ∧ power.right % 2 = 1 ∧ power.right ≤ power.left + 1 ∧
      power.left ≤ power.right + 1 ∧ power.left + 1 < BindingPower.increment.right := by
  obtain ⟨member, other⟩ := exists_mem_table_of_binary? found
  have bounds : ∀ entry ∈ BindingPower.table, isIncrement entry.1 = false →
      entry.2.left % 2 = 0 ∧ entry.2.right % 2 = 1 ∧ entry.2.right ≤ entry.2.left + 1 ∧
        entry.2.left ≤ entry.2.right + 1 ∧ entry.2.left + 1 < BindingPower.increment.right := by
    decide
  exact bounds _ member other

theorem lexeme_ne_of_isBinary {operator : String} (between : isBinary operator = true) :
    operator ≠ "(" ∧ isAssignment operator = false := by
  have known : ∀ entry ∈ BindingPower.table, entry.1 ≠ "(" ∧ isAssignment entry.1 = false := by
    decide
  exact known _ (exists_mem_table_of_binary? (binary?_of_isBinary between)).1

theorem lexeme_ne_of_isIncrement {operator : String} (increments : isIncrement operator = true) :
    operator ≠ "(" ∧ isAssignment operator = false := by
  rcases (by simpa [isIncrement] using increments : operator = "++" ∨ operator = "--") with
    rfl | rfl <;> decide

/-! ### Where the operator loop stops -/

namespace Parsing

/-- The next token makes neither a call nor an assignment of an identifier in front of it. -/
def Unapplied (tokens : List Token) : Prop :=
  ∀ token ∈ tokens.head?, token.lexeme ≠ "(" ∧ isAssignment token.lexeme = false

/-- The next token is none of the operators that a loop with the given minimum takes. -/
def Halts (minimum : Nat) (tokens : List Token) : Prop :=
  ahead minimum tokens.head? = .stop

/-- Tokens in front of which a reader with a given minimum stops, whatever it has read. -/
structure Stops (minimum : Nat) (tokens : List Token) : Prop where
  unapplied : Unapplied tokens
  halts : Halts minimum tokens

theorem unapplied_of_lexeme {token : Token}
    (other : token.lexeme ≠ "(" ∧ isAssignment token.lexeme = false) (behind : List Token) :
    Unapplied (token :: behind) := by
  rintro _ ⟨⟩
  exact other

section Ahead

variable {minimum : Nat} {token : Token}

theorem ahead_of_isIncrement (operates : token.kind = .operator)
    (increments : isIncrement token.lexeme = true) : ahead minimum (some token) = .behind := by
  simp [ahead, operates, increments]

/-- An operator between operands is taken if its left power reaches the minimum. -/
theorem ahead_of_isBinary (operates : token.kind = .operator)
    (between : isBinary token.lexeme = true) :
    ahead minimum (some token) =
      if (powerOf token.lexeme).left < minimum then .stop
      else .between (powerOf token.lexeme).right := by
  have found := binary?_of_isBinary between
  have other := (exists_mem_table_of_binary? found).2
  have listed : BindingPower.of? token.lexeme = some (powerOf token.lexeme) := by
    simpa [BindingPower.binary?, other] using found
  simp [ahead, operates, other, listed]

theorem Halts.mono {larger : Nat} {tokens : List Token} (within : minimum ≤ larger)
    (halts : Halts minimum tokens) : Halts larger tokens := by
  unfold Halts at halts ⊢
  cases tokens with
  | nil => rfl
  | cons token behind =>
    rw [List.head?_cons] at halts ⊢
    unfold ahead at halts ⊢
    dsimp only at halts ⊢
    split at halts
    · rw [if_pos ‹_›]
    · rw [if_neg ‹_›]
      split at halts
      · cases halts
      · rw [if_neg ‹_›]
        split at halts
        · rfl
        · rename_i power _
          split at halts
          · rw [if_pos (by omega)]
          · cases halts

end Ahead

/-! ### Steps of the readers -/

section Steps

variable {minimum : Nat} {left right : Expr} {token : Token} {behind rest : List Token}

theorem operators_of_halts {tokens : List Token} (halts : Halts minimum tokens) :
    operators minimum left tokens = .ok (left, tokens) := by
  rw [operators_eq, peek_apply, halts]
  rfl

theorem operators_behind (is : ahead minimum (some token) = .behind) :
    operators minimum left (token :: behind) =
      operators minimum (.unary token.lexeme .behind left) behind := by
  rw [operators_eq, peek_apply, List.head?_cons, is]
  exact bind_of_ok (operator_cons is behind) _

theorem operators_between {power : Nat} (is : ahead minimum (some token) = .between power)
    (reads : expr power behind = .ok (right, rest)) :
    operators minimum left (token :: behind) =
      operators minimum (.binary token.lexeme left right) rest := by
  rw [operators_eq, peek_apply, List.head?_cons, is]
  dsimp only
  rw [bind_of_ok (operator_cons is behind), bind_of_ok reads]

theorem expr_of_start {handler : ExprHandler}
    (handles : Tables.standard.exprHandler? token = some handler)
    (reads : start handler (token :: behind) = .ok (left, rest)) :
    expr minimum (token :: behind) = operators minimum left rest := by
  rw [expr_eq, peek_apply, List.head?_cons, Option.bind_some, handles]
  exact bind_of_ok reads _

theorem identifier_of_unapplied (is : token.kind = .identifier) (unapplied : Unapplied behind) :
    identifier (token :: behind) = .ok (.identifier token.lexeme, behind) := by
  rw [identifier_eq, bind_of_ok (kind_cons is _ behind), peek_apply]
  cases behind with
  | nil => rfl
  | cons next behind =>
    obtain ⟨noCall, noAssignment⟩ := unapplied next rfl
    simp [noCall, noAssignment]

theorem identifier_of_assignment {operator : Token} (is : token.kind = .identifier)
    (assigns : isAssignment operator.lexeme = true)
    (reads : expr 0 behind = .ok (right, rest)) :
    identifier (token :: operator :: behind) =
      .ok (.assign operator.lexeme (.identifier token.lexeme) right, rest) := by
  have noCall : operator.lexeme ≠ "(" := by
    intro opens
    rw [opens] at assigns
    exact absurd assigns (by decide)
  have passes : Option.guard (isAssignment ·.lexeme) operator = some operator := by
    simp [Option.guard, assigns]
  rw [identifier_eq, bind_of_ok (kind_cons is _ _), peek_apply, List.head?_cons, startsWith_some,
    if_neg (mt beq_iff_eq.mp noCall), Option.any_some, if_pos assigns,
    bind_of_ok (accept_of_some passes _ behind), bind_of_ok reads]
  rfl

theorem identifier_of_call {opening : Token} (is : token.kind = .identifier)
    (opens : opening.lexeme = "(") :
    identifier (token :: opening :: behind) = call token.lexeme (opening :: behind) := by
  rw [identifier_eq, bind_of_ok (kind_cons is _ _), peek_apply, List.head?_cons, startsWith_some,
    if_pos (beq_iff_eq.mpr opens)]

theorem call_of_nothing {callee : String} {opening closing : Token} (opens : opening.lexeme = "(")
    (closes : closing.lexeme = ")") :
    call callee (opening :: closing :: rest) = .ok (.call callee [], rest) := by
  rw [call_eq, bind_of_ok (lexeme_cons opens _), peek_apply, List.head?_cons, startsWith_some,
    if_pos (beq_iff_eq.mpr closes), bind_of_ok (lexeme_cons closes rest)]
  rfl

theorem call_of_arguments {callee : String} {opening closing first : Token}
    {arguments : List Expr} (opens : opening.lexeme = "(") (more : first.lexeme ≠ ")")
    (reads : Parsing.arguments (first :: behind) = .ok (arguments, closing :: rest))
    (closes : closing.lexeme = ")") :
    call callee (opening :: first :: behind) = .ok (.call callee arguments, rest) := by
  rw [call_eq, bind_of_ok (lexeme_cons opens _), peek_apply, List.head?_cons, startsWith_some,
    if_neg (mt beq_iff_eq.mp more), bind_of_ok reads, bind_of_ok (lexeme_cons closes rest)]
  rfl

theorem arguments_of_last {argument : Expr} {tokens : List Token}
    (reads : expr 0 tokens = .ok (argument, rest)) (ends : startsWith "," rest.head? = false) :
    arguments tokens = .ok ([argument], rest) := by
  rw [arguments_eq, bind_of_ok reads, peek_apply, ends]
  rfl

theorem arguments_of_comma {argument : Expr} {further : List Expr} {comma : Token}
    {tokens : List Token} (reads : expr 0 tokens = .ok (argument, comma :: behind))
    (separates : comma.lexeme = ",") (readsFurther : arguments behind = .ok (further, rest)) :
    arguments tokens = .ok (argument :: further, rest) := by
  rw [arguments_eq, bind_of_ok reads, peek_apply, List.head?_cons, startsWith_some,
    if_pos (beq_iff_eq.mpr separates), bind_of_ok (lexeme_cons separates behind),
    bind_of_ok readsFurther]
  rfl

theorem grouping_of_expr {opening closing : Token} (opens : opening.lexeme = "(")
    (reads : expr 0 behind = .ok (left, closing :: rest)) (closes : closing.lexeme = ")") :
    grouping (opening :: behind) = .ok (left, rest) := by
  have passes : Option.guard (·.lexeme == "(") opening = some opening := by
    simp [Option.guard, opens]
  rw [grouping_eq, bind_of_ok (accept_of_some passes _ behind), bind_of_ok reads,
    bind_of_ok (lexeme_cons closes rest)]
  rfl

theorem increment_of_expr (increments : isIncrement token.lexeme = true)
    (reads : expr BindingPower.increment.right behind = .ok (left, rest)) :
    increment (token :: behind) = .ok (.unary token.lexeme .before left, rest) := by
  have passes : Option.guard (isIncrement ·.lexeme) token = some token := by
    simp [Option.guard, increments]
  rw [increment_eq, bind_of_ok (accept_of_some passes _ behind), bind_of_ok reads]
  rfl

end Steps

end Parsing

/-! ### The edges of a tree -/

open Parsing

/-- The operator at the root is taken by a reader with the given minimum. -/
def Expr.Admits (minimum : Nat) : Expr → Prop
  | .binary operator _ _ => minimum ≤ (powerOf operator).left
  | _ => True

/-- The tokens behind the tree are not drawn into its last operand. -/
def Expr.Releases (later : List Token) : Expr → Prop
  | .binary operator _ _ => Halts (powerOf operator).right later
  | .unary _ .before _ => Halts BindingPower.increment.right later
  | .assign _ _ _ => Halts 0 later
  | _ => True

theorem Expr.admits_zero (expr : Expr) : expr.Admits 0 := by
  cases expr <;> first | trivial | exact Nat.zero_le _

theorem Expr.releases_of_halts {expr : Expr} {later : List Token} (halts : Halts 0 later) :
    expr.Releases later := by
  cases expr with
  | binary => exact halts.mono (Nat.zero_le _)
  | unary operator fixity operand =>
    cases fixity with
    | before => exact halts.mono (Nat.zero_le _)
    | behind => trivial
  | assign => exact halts
  | literal | identifier | call => trivial

/-- The tree can be read by a reader with the given minimum in front of the tokens: in brackets
always, else if its root is taken and its last operand draws nothing in. -/
structure Expr.Fits (enclosed : Bool) (minimum : Nat) (later : List Token) (expr : Expr) : Prop where
  admits : enclosed = false → expr.Admits minimum
  releases : enclosed = false → expr.Releases later
  unapplied : Unapplied later

theorem Expr.fits_of_stops {enclosed : Bool} {later : List Token} {expr : Expr}
    (stops : Stops 0 later) : expr.Fits enclosed 0 later :=
  ⟨fun _ => expr.admits_zero, fun _ => Expr.releases_of_halts stops.halts, stops.unapplied⟩

/-- The lexemes that end every expression. -/
theorem stops_of_lexeme {token : Token} (ends : token.lexeme ∈ [";", ",", ")"])
    (behind : List Token) : Stops 0 (token :: behind) := by
  have known : ∀ lexeme ∈ [";", ",", ")"], (lexeme ≠ "(" ∧ isAssignment lexeme = false) ∧
      isIncrement lexeme = false ∧ BindingPower.of? lexeme = none := by
    decide
  obtain ⟨unapplied, noIncrement, noPower⟩ := known _ ends
  exact ⟨unapplied_of_lexeme unapplied behind, by simp [Halts, ahead, noIncrement, noPower]⟩

theorem stops_nil (minimum : Nat) : Stops minimum [] :=
  ⟨nofun, rfl⟩

/-- The first lexeme of an expression is that of an operand, an increment or an opening
parenthesis. -/
def OpensExpr (lexeme : String) : Prop :=
  lexeme = "(" ∨
    lexemeKind? lexeme ∈ [some .int, some .float, some .string, some .boolean, some .identifier,
      some .operator]

theorem literalType?_eq_some {kind : Token.Kind} {type : DataType}
    (known : literalType? kind = some type) :
    kind = .int ∨ kind = .float ∨ kind = .string ∨ kind = .boolean := by
  cases kind <;> simp [literalType?] at known ⊢

theorem opensExpr_literal {type : DataType} {value : String} (written : IsLiteral type value) :
    OpensExpr value := by
  obtain ⟨kind, known, made⟩ := lexemeKind?_of_isLiteral written
  right
  rw [made]
  rcases literalType?_eq_some known with rfl | rfl | rfl | rfl <;> simp

theorem opensExpr_name {name : String} (named : IsName name) : OpensExpr name := by
  right
  rw [lexemeKind?_of_isName named]
  simp

theorem exists_opensExpr {brackets : Brackets} {enclosed : Bool} {expr : Expr}
    {lexemes : List String} (inside : expr.InLanguage) :
    Spelling brackets enclosed expr lexemes →
      ∃ first behind, lexemes = first :: behind ∧ OpensExpr first
  | .literal _ => by
    cases inside with
    | literal written => exact ⟨_, _, rfl, opensExpr_literal written⟩
  | .identifier => by
    cases inside with
    | identifier named => exact ⟨_, _, rfl, opensExpr_name named⟩
  | .assign _ _ => by
    cases inside with
    | assign _ named _ => exact ⟨_, _, rfl, opensExpr_name named⟩
  | .binary _ left _ _ _ => by
    cases inside with
    | binary _ leftInside _ =>
      obtain ⟨first, behind, rfl, opens⟩ := exists_opensExpr leftInside left
      exact ⟨first, _, rfl, opens⟩
  | .before increments _ _ =>
    ⟨_, _, rfl, .inr (by rw [lexemeKind?_of_isIncrement increments]; simp)⟩
  | .behind _ spelt _ => by
    cases inside with
    | unary _ operandInside =>
      obtain ⟨first, behind, rfl, opens⟩ := exists_opensExpr operandInside spelt
      exact ⟨first, _, rfl, opens⟩
  | .call _ => by
    cases inside with
    | call named _ => exact ⟨_, _, rfl, opensExpr_name named⟩
  | .enclosed _ => ⟨_, _, rfl, .inl rfl⟩

theorem exists_opensExpr_arguments {brackets : Brackets} {arguments : List Expr}
    {lexemes : List String} (inside : ∀ argument ∈ arguments, argument.InLanguage)
    (some : arguments ≠ []) :
    ArgumentsSpelling brackets arguments lexemes →
      ∃ first behind, lexemes = first :: behind ∧ OpensExpr first
  | .nil => absurd rfl some
  | .last spelt => exists_opensExpr (inside _ List.mem_cons_self) spelt
  | .cons spelt _ => by
    obtain ⟨first, behind, rfl, opens⟩ := exists_opensExpr (inside _ List.mem_cons_self) spelt
    exact ⟨first, _, rfl, opens⟩

/-- No expression starts with a lexeme that ends one, closes a body or goes on with an `if`. -/
theorem OpensExpr.not_mem {lexeme : String} (opens : OpensExpr lexeme) :
    lexeme ∉ [")", ";", "\x7d", "else", "else if"] := by
  intro member
  have others : ∀ other ∈ [")", ";", "\x7d", "else", "else if"],
      ¬ (other = "(" ∨ lexemeKind? other ∈ [some .int, some .float, some .string, some .boolean,
        some .identifier, some .operator]) := by
    decide
  exact others _ member opens

/-! ### Reading a spelling -/

section Reading

variable {minimum : Nat} {token : Token}

theorem exprHandler?_of_carries {lexeme : String} (carries : token.Carries lexeme)
    {kind : Token.Kind} (known : lexemeKind? lexeme = some kind) {handler : ExprHandler}
    (handles : Tables.standard.expressions.lookup kind = some handler) :
    Tables.standard.exprHandler? token = some handler := by
  unfold Tables.exprHandler?
  rw [carries.kind_eq known, handles]

theorem expr_of_literal {type : DataType} {value : String} (written : IsLiteral type value)
    (carries : token.Carries value) (later : List Token) :
    expr minimum (token :: later) = operators minimum (.literal type value) later := by
  obtain ⟨kind, makes, known⟩ := lexemeKind?_of_isLiteral written
  have handles : Tables.standard.exprHandler? token = some .literal := by
    refine exprHandler?_of_carries carries known ?_
    rcases literalType?_eq_some makes with rfl | rfl | rfl | rfl <;> rfl
  refine expr_of_start handles ?_
  show literal (token :: later) = _
  rw [literal_eq]
  refine accept_of_some ?_ _ later
  rw [carries.kind_eq known, makes, carries.1]
  rfl

theorem expr_of_identifier {left : Expr} {name : String} {later rest : List Token}
    (named : IsName name) (carries : token.Carries name)
    (reads : token.kind = .identifier → identifier (token :: later) = .ok (left, rest)) :
    expr minimum (token :: later) = operators minimum left rest := by
  have known := lexemeKind?_of_isName named
  exact expr_of_start (exprHandler?_of_carries carries known rfl) (reads (carries.kind_eq known))

end Reading

section Operands

variable {operator : String} {operand : Expr} {enclosed : Bool} {slot : Slot} {token : Token}
  {later : List Token}

theorem needed_of_bare (needs : Brackets.needed slot operand = true → enclosed = true)
    (bare : enclosed = false) : Brackets.needed slot operand = false := by
  rw [Bool.eq_false_iff]
  intro needed
  rw [needs needed] at bare
  cases bare

/-- A tighter loop than an operator asks for stops in front of it. -/
theorem halts_of_isBinary (between : isBinary operator = true) (carries : token.Carries operator)
    {minimum : Nat} (tighter : (powerOf operator).left < minimum) :
    Halts minimum (token :: later) := by
  have operates := carries.kind_eq (lexemeKind?_of_isBinary between)
  obtain ⟨rfl, -⟩ := carries
  unfold Halts
  rw [List.head?_cons, ahead_of_isBinary operates between, if_pos tighter]

/-- A left operand that needs no brackets is admitted wherever the operator is. -/
theorem admits_leftOf (inside : operand.InLanguage) (between : isBinary operator = true)
    (bare : Brackets.needed (.leftOf operator) operand = false) {minimum : Nat}
    (within : minimum ≤ (powerOf operator).left) : operand.Admits minimum := by
  cases inside with
  | binary innerBetween =>
    have outer := binary_bounds (binary?_of_isBinary between)
    have inner := binary_bounds (binary?_of_isBinary innerBetween)
    simp only [Brackets.needed, decide_eq_false_iff_not] at bare
    show minimum ≤ _
    omega
  | literal | identifier | assign | unary | call => trivial

/-- A left operand that needs no brackets lets go of the operator. -/
theorem releases_leftOf (inside : operand.InLanguage) (between : isBinary operator = true)
    (bare : Brackets.needed (.leftOf operator) operand = false)
    (carries : token.Carries operator) : operand.Releases (token :: later) := by
  have bounds := binary_bounds (binary?_of_isBinary between)
  cases inside with
  | binary _ =>
    simp only [Brackets.needed, decide_eq_false_iff_not, not_le] at bare
    exact halts_of_isBinary between carries bare
  | @unary _ fixity =>
    cases fixity with
    | before => exact halts_of_isBinary between carries (by omega)
    | behind => trivial
  | assign => cases bare
  | literal | identifier | call => trivial

/-- A right operand that needs no brackets is admitted by the right power of the operator. -/
theorem admits_rightOf (inside : operand.InLanguage)
    (bare : Brackets.needed (.rightOf operator) operand = false) :
    operand.Admits (powerOf operator).right := by
  cases inside with
  | binary _ =>
    simp only [Brackets.needed, decide_eq_false_iff_not, not_lt] at bare
    exact bare
  | literal | identifier | assign | unary | call => trivial

/-- A right operand that needs no brackets lets go of what the operator lets go of. -/
theorem releases_rightOf (inside : operand.InLanguage) (between : isBinary operator = true)
    (bare : Brackets.needed (.rightOf operator) operand = false)
    (halts : Halts (powerOf operator).right later) : operand.Releases later := by
  have outer := binary_bounds (binary?_of_isBinary between)
  cases inside with
  | binary innerBetween =>
    have inner := binary_bounds (binary?_of_isBinary innerBetween)
    simp only [Brackets.needed, decide_eq_false_iff_not, not_lt] at bare
    exact halts.mono (by omega)
  | @unary _ fixity =>
    cases fixity with
    | before => exact halts.mono (by omega)
    | behind => trivial
  | assign => cases bare
  | literal | identifier | call => trivial

/-- An operand of an increment that needs no brackets is admitted by every minimum. -/
theorem admits_under {fixity : Fixity} (bare : Brackets.needed (.under fixity) operand = false)
    (minimum : Nat) : operand.Admits minimum := by
  cases operand with
  | binary => cases bare
  | literal | identifier | assign | unary | call => trivial

/-- An operand of an increment in front that needs no brackets lets go of what the increment lets go
of. -/
theorem releases_under_before (bare : Brackets.needed (.under .before) operand = false)
    (halts : Halts BindingPower.increment.right later) : operand.Releases later := by
  cases operand with
  | unary operator fixity inner =>
    cases fixity with
    | before => exact halts
    | behind => trivial
  | binary | assign => cases bare
  | literal | identifier | call => trivial

/-- An operand of an increment behind that needs no brackets lets go of everything. -/
theorem releases_under_behind (bare : Brackets.needed (.under .behind) operand = false) :
    operand.Releases later := by
  cases operand with
  | unary operator fixity inner =>
    cases fixity with
    | before => cases bare
    | behind => trivial
  | binary | assign => cases bare
  | literal | identifier | call => trivial

end Operands

/-- Once its arguments are read, a call is read. -/
theorem call_of_reads {brackets : Brackets} {callee : String} {arguments : List Expr}
    {lexemes : List String} (inside : ∀ argument ∈ arguments, argument.InLanguage)
    (spelt : ArgumentsSpelling brackets arguments lexemes) {tokens later : List Token}
    (carried : Carry tokens lexemes) {opening closing : Token} (opens : opening.lexeme = "(")
    (closes : closing.lexeme = ")")
    (reads : arguments ≠ [] →
      Parsing.arguments (tokens ++ closing :: later) = .ok (arguments, closing :: later)) :
    Parsing.call callee (opening :: (tokens ++ closing :: later)) =
      .ok (.call callee arguments, later) := by
  by_cases nothing : arguments = []
  · subst nothing
    cases spelt
    rw [carry_nil_iff.mp carried]
    exact call_of_nothing opens closes
  · obtain ⟨first, _, rfl, begins⟩ := exists_opensExpr_arguments inside nothing spelt
    obtain ⟨_, _, rfl, ⟨rfl, -⟩, -⟩ := carry_cons_iff.mp carried
    exact call_of_arguments opens (fun closing => begins.not_mem (by simp [closing]))
      (reads nothing) closes

mutual

/-- **Reading the lexemes of an expression leaves the operators behind it**, if the reader takes the
operator at its root and what stands behind is not drawn into its last operand. -/
theorem expr_of_spelling {enclosed : Bool} {expr : Expr} {lexemes : List String}
    (inside : expr.InLanguage) {tokens : List Token} (carried : Carry tokens lexemes)
    {minimum : Nat} {later : List Token} (fits : expr.Fits enclosed minimum later) :
    Spelling .needed enclosed expr lexemes →
      Parsing.expr minimum (tokens ++ later) = operators minimum expr later
  | .literal _ => by
    cases inside with
    | literal written =>
      obtain ⟨token, rfl, carries⟩ := carry_singleton_iff.mp carried
      exact expr_of_literal written carries later
  | .identifier => by
    cases inside with
    | identifier named =>
      obtain ⟨token, rfl, carries⟩ := carry_singleton_iff.mp carried
      refine expr_of_identifier named carries fun is => ?_
      obtain ⟨rfl, -⟩ := carries
      exact identifier_of_unapplied is fits.unapplied
  | .assign assigns spelt => by
    cases inside with
    | assign _ named valueInside =>
      obtain ⟨token, _, rfl, carries, behindName⟩ := carry_cons_iff.mp carried
      obtain ⟨operator, value, rfl, ⟨rfl, -⟩, valueCarried⟩ := carry_cons_iff.mp behindName
      have stops : Stops 0 later := ⟨fits.unapplied, fits.releases rfl⟩
      have reads := (expr_of_spelling valueInside valueCarried (Expr.fits_of_stops stops)
        spelt).trans (operators_of_halts stops.halts)
      refine expr_of_identifier named carries fun is => ?_
      obtain ⟨rfl, -⟩ := carries
      exact identifier_of_assignment is assigns reads
  | .binary between left leftNeeds right rightNeeds => by
    cases inside with
    | binary _ leftInside rightInside =>
      obtain ⟨leftTokens, _, rfl, leftCarried, behindLeft⟩ := carry_append_iff.mp carried
      obtain ⟨token, rightTokens, rfl, carries, rightCarried⟩ := carry_cons_iff.mp behindLeft
      have within : minimum ≤ (powerOf _).left := fits.admits rfl
      have halts : Halts (powerOf _).right later := fits.releases rfl
      have operates := carries.kind_eq (lexemeKind?_of_isBinary between)
      have leftFits : Expr.Fits _ minimum (token :: (rightTokens ++ later)) _ :=
        ⟨fun bare => admits_leftOf leftInside between (needed_of_bare leftNeeds bare) within,
          fun bare => releases_leftOf leftInside between (needed_of_bare leftNeeds bare) carries,
          unapplied_of_lexeme (carries.1 ▸ lexeme_ne_of_isBinary between) _⟩
      have readsLeft := expr_of_spelling leftInside leftCarried leftFits left
      have rightFits : Expr.Fits _ (powerOf _).right later _ :=
        ⟨fun bare => admits_rightOf rightInside (needed_of_bare rightNeeds bare),
          fun bare => releases_rightOf rightInside between (needed_of_bare rightNeeds bare) halts,
          fits.unapplied⟩
      have readsRight := (expr_of_spelling rightInside rightCarried rightFits right).trans
        (operators_of_halts halts)
      rw [List.append_assoc, List.cons_append, readsLeft]
      obtain ⟨rfl, -⟩ := carries
      refine operators_between ?_ readsRight
      rw [ahead_of_isBinary operates between, if_neg (not_lt.mpr within)]
  | .before increments spelt needs => by
    cases inside with
    | unary _ operandInside =>
      obtain ⟨token, operandTokens, rfl, carries, operandCarried⟩ := carry_cons_iff.mp carried
      have halts : Halts BindingPower.increment.right later := fits.releases rfl
      have operandFits : Expr.Fits _ BindingPower.increment.right later _ :=
        ⟨fun bare => admits_under (needed_of_bare needs bare) _,
          fun bare => releases_under_before (needed_of_bare needs bare) halts, fits.unapplied⟩
      have reads := (expr_of_spelling operandInside operandCarried operandFits spelt).trans
        (operators_of_halts halts)
      have handles : Tables.standard.exprHandler? token = some .increment :=
        exprHandler?_of_carries carries (lexemeKind?_of_isIncrement increments) rfl
      obtain ⟨rfl, -⟩ := carries
      exact expr_of_start handles (increment_of_expr increments reads)
  | .behind increments spelt needs => by
    cases inside with
    | unary _ operandInside =>
      obtain ⟨operandTokens, _, rfl, operandCarried, behindOperand⟩ := carry_append_iff.mp carried
      obtain ⟨token, rfl, carries⟩ := carry_singleton_iff.mp behindOperand
      have operates := carries.kind_eq (lexemeKind?_of_isIncrement increments)
      have operandFits : Expr.Fits _ minimum (token :: later) _ :=
        ⟨fun bare => admits_under (needed_of_bare needs bare) _,
          fun bare => releases_under_behind (needed_of_bare needs bare),
          unapplied_of_lexeme (carries.1 ▸ lexeme_ne_of_isIncrement increments) _⟩
      have reads := expr_of_spelling operandInside operandCarried operandFits spelt
      rw [List.append_assoc, List.singleton_append, reads]
      obtain ⟨rfl, -⟩ := carries
      exact operators_behind (ahead_of_isIncrement operates increments)
  | .call spelt => by
    cases inside with
    | call named argumentsInside =>
      obtain ⟨token, _, rfl, carries, behindName⟩ := carry_cons_iff.mp carried
      obtain ⟨opening, _, rfl, ⟨opens, -⟩, behindOpening⟩ := carry_cons_iff.mp behindName
      obtain ⟨argumentTokens, _, rfl, argumentsCarried, behindArguments⟩ :=
        carry_append_iff.mp behindOpening
      obtain ⟨closing, rfl, ⟨closes, -⟩⟩ := carry_singleton_iff.mp behindArguments
      have shape : (token :: opening :: (argumentTokens ++ [closing])) ++ later =
          token :: opening :: (argumentTokens ++ closing :: later) := by simp
      rw [shape]
      refine expr_of_identifier named carries fun is => ?_
      obtain ⟨rfl, -⟩ := carries
      rw [identifier_of_call is opens]
      exact call_of_reads argumentsInside spelt argumentsCarried opens closes
        fun some => arguments_of_spelling argumentsInside argumentsCarried closes later some spelt
  | .enclosed spelt => by
    obtain ⟨opening, _, rfl, carries, behindOpening⟩ := carry_cons_iff.mp carried
    obtain ⟨innerTokens, _, rfl, innerCarried, behindInner⟩ := carry_append_iff.mp behindOpening
    obtain ⟨closing, rfl, ⟨closes, -⟩⟩ := carry_singleton_iff.mp behindInner
    have stops : Stops 0 (closing :: later) := stops_of_lexeme (by simp [closes]) later
    have reads := (expr_of_spelling inside innerCarried (Expr.fits_of_stops stops) spelt).trans
      (operators_of_halts stops.halts)
    have isParenthesis : lexemeKind? "(" = some .parenthesis := by decide
    have handles : Tables.standard.exprHandler? opening = some .grouping :=
      exprHandler?_of_carries carries isParenthesis rfl
    rw [List.cons_append, List.append_assoc, List.singleton_append]
    exact expr_of_start handles (grouping_of_expr carries.1 reads closes)

/-- Reading the lexemes of arguments stops at the closing parenthesis. -/
theorem arguments_of_spelling {arguments : List Expr} {lexemes : List String}
    (inside : ∀ argument ∈ arguments, argument.InLanguage) {tokens : List Token}
    (carried : Carry tokens lexemes) {closing : Token} (closes : closing.lexeme = ")")
    (later : List Token) (some : arguments ≠ []) :
    ArgumentsSpelling .needed arguments lexemes →
      Parsing.arguments (tokens ++ closing :: later) = .ok (arguments, closing :: later)
  | .nil => absurd rfl some
  | .last spelt => by
    have stops : Stops 0 (closing :: later) := stops_of_lexeme (by simp [closes]) later
    have reads := (expr_of_spelling (inside _ List.mem_cons_self) carried
      (Expr.fits_of_stops stops) spelt).trans (operators_of_halts stops.halts)
    exact arguments_of_last reads (by simp [closes])
  | .cons spelt rest => by
    obtain ⟨argumentTokens, _, rfl, argumentCarried, behindArgument⟩ := carry_append_iff.mp carried
    obtain ⟨comma, furtherTokens, rfl, ⟨separates, -⟩, furtherCarried⟩ :=
      carry_cons_iff.mp behindArgument
    have stops : Stops 0 (comma :: (furtherTokens ++ closing :: later)) :=
      stops_of_lexeme (by simp [separates]) _
    have reads := (expr_of_spelling (inside _ List.mem_cons_self) argumentCarried
      (Expr.fits_of_stops stops) spelt).trans (operators_of_halts stops.halts)
    have readsFurther := arguments_of_spelling (List.forall_mem_cons.mp inside).2 furtherCarried
      closes later (List.cons_ne_nil _ _) rest
    rw [List.append_assoc, List.cons_append]
    exact arguments_of_comma reads separates readsFurther

end

/-- The lexemes of an expression are read back in front of tokens that belong to none. -/
theorem expr_of_spells {expr : Expr} (inside : expr.InLanguage) {lexemes : List String}
    (spelt : Spells .needed expr lexemes) {tokens later : List Token}
    (carried : Carry tokens lexemes) (stops : Stops 0 later) :
    Parsing.expr 0 (tokens ++ later) = .ok (expr, later) :=
  spelt.elim fun _ spelling =>
    (expr_of_spelling inside carried (Expr.fits_of_stops stops) spelling).trans
      (operators_of_halts stops.halts)

/-- **With no brackets but the needed ones an expression is read back**, and its reader stops at the
semicolon, the comma or the closing parenthesis behind it, or at the end. -/
theorem readExpr_of_render {expr : Expr} (inside : expr.InLanguage) {tokens later : List Token}
    (carried : Carry tokens (expr.render Brackets.needed))
    (ends : ∀ token ∈ later.head?, token.lexeme ∈ [";", ",", ")"]) :
    ∃ shorter, readExpr .standard 0 (tokens ++ later) = .ok ⟨expr, later, shorter⟩ := by
  have stops : Stops 0 later := by
    cases later with
    | nil => exact stops_nil 0
    | cons token behind => exact stops_of_lexeme (ends token rfl) behind
  exact exists_of_ofReader (expr_of_spells inside (inside.spells _) carried stops)

/-- The text `x = (a + b) * c++ ^ f(2, --d);` up to its semicolon. -/
theorem readExpr_of_render_mixed :
    let tokens := ["x", "=", "(", "a", "+", "b", ")", "*", "c", "++", "^", "f", "(", "2", ",",
      "--", "d", ")"].map Token.ofLexeme
    let later := [Token.ofLexeme ";"]
    ∃ shorter, readExpr .standard 0 (tokens ++ later) =
      .ok ⟨.assign "=" (.identifier "x")
        (.binary "*" (.binary "+" (.identifier "a") (.identifier "b"))
          (.binary "^" (.unary "++" .behind (.identifier "c"))
            (.call "f" [.literal .int "2", .unary "--" .before (.identifier "d")]))),
        later, shorter⟩ := by
  refine readExpr_of_render ?_ (carry_map_ofLexeme (by decide)) ?_
  · refine .assign rfl (by decide) (.binary rfl (.binary rfl ?_ ?_)
      (.binary rfl (.unary rfl ?_) (.call (by decide) ?_)))
    · exact .identifier (by decide)
    · exact .identifier (by decide)
    · exact .identifier (by decide)
    · refine List.forall_mem_cons.mpr ⟨.literal (by decide), ?_⟩
      exact List.forall_mem_singleton.mpr (.unary rfl (.identifier (by decide)))
  · rintro token ⟨⟩
    decide

end TypedImp
