/-
**What a parse tells about its tokens.**

A program holds everything that was parsed: its lexemes are those of the tokens, up to brackets around
expressions. An error points at the first token at which no program goes on: what stands before it
is the start of some program, and nothing behind it matters.

* `bodySpelling_of_parse` — **parsing loses, invents and reorders nothing.**
* `Offends` — a place in the tokens is to blame for an error.
* `exists_offends_of_parse` — **every error blames a place.**
-/

import TypedImp.Proofs.PromptStmt

namespace TypedImp

open Parsing

/-! ### Success -/

/-- **Parsing loses, invents and reorders nothing.** The lexemes of the tokens are those of the program
in the order of the concrete syntax, with any number of brackets around its expressions. -/
theorem bodySpelling_of_parse {tokens : List Token} {program : Program}
    (parsed : parse tokens = .ok program) :
    BodySpelling .optional program.body (lexemesOf tokens) := by
  obtain ⟨consumed, split, spelt, _⟩ := (steady_program (tokens.length + 1)).success
    (Nat.lt_succ_self _) (parse_eq_ok_iff.mp parsed)
  rw [List.append_nil] at split
  rwa [split]

/-- The text `x = ((1));`. -/
theorem bodySpelling_of_parse_brackets :
    let tokens := ["x", "=", "(", "(", "1", ")", ")", ";"].map Token.ofLexeme
    let program : Program := ⟨[.expression (.assign "=" (.identifier "x") (.literal .int "1"))]⟩
    parse tokens = .ok program ∧ BodySpelling .optional program.body (lexemesOf tokens) := by
  have inside : Program.InLanguage
      ⟨[.expression (.assign "=" (.identifier "x") (.literal .int "1"))]⟩ :=
    List.forall_mem_singleton.mpr
      (.expression (.assign rfl (by decide) (.literal (by decide))))
  have known : literalType? .int = some .int := rfl
  have parsed := parse_of_bodySpelling inside
    (.cons (.expression ⟨false, .assign rfl (.enclosed (.enclosed (.literal known)))⟩) .nil)
    (carry_map_ofLexeme (by decide))
  exact ⟨parsed, bodySpelling_of_parse parsed⟩

/-! ### Failure -/

/-- The token at place `q` is to blame for the error, or the end of the tokens if there is none: there
the reader stopped, what stands before it can be completed to a program, and the error does not
depend on what stands behind it. -/
structure Offends (tokens : List Token) (error : ParseError) (q : Nat) : Prop where
  within : q ≤ tokens.length
  stopped : readProgram .standard tokens = .error ⟨error.expected, tokens.drop q⟩
  atToken : ∀ token ∈ tokens[q]?, error.found = token.lexeme ∧ error.position = token.position
  atEnd : q = tokens.length →
    error.found = "end of input" ∧ ∃ last ∈ tokens.getLast?, error.position = last.position
  viable : ∃ others program, parse (tokens.take q ++ others) = .ok program
  settled : q < tokens.length →
    ∀ others, others.take (q + 1) = tokens.take (q + 1) → parse others = .error error

section Places

variable {tokens others consumed rest later : List Token} {expected : String}

/-- Stuck in front of a token, the error holds that token, whatever the other tokens are. -/
theorem stuck_error_of_head? {token : Token} (first : rest.head? = some token) :
    Stuck.error tokens ⟨expected, rest⟩ = ⟨expected, token.lexeme, token.position⟩ := by
  simp [Stuck.error, foundAt, positionAt, first]

theorem stuck_error_of_nil {last : Token} (ends : tokens.getLast? = some last) :
    Stuck.error tokens ⟨expected, []⟩ = ⟨expected, "end of input", last.position⟩ := by
  simp [Stuck.error, foundAt, positionAt, ends]

theorem getElem?_append_length : (consumed ++ rest)[consumed.length]? = rest.head? := by
  rw [List.getElem?_append_right (Nat.le_refl _), Nat.sub_self, List.head?_eq_getElem?]

/-- Tokens that start alike, with one token more. -/
theorem exists_append_of_take_eq
    (alike : others.take (consumed.length + 1) = (consumed ++ rest).take (consumed.length + 1)) :
    ∃ later, others = consumed ++ later ∧ later.head? = rest.head? := by
  refine ⟨others.drop consumed.length, ?_, ?_⟩
  · have start : others.take consumed.length = consumed := by
      have both := congrArg (List.take consumed.length) alike
      simpa [List.take_take] using both
    have whole := List.take_append_drop consumed.length others
    rw [start] at whole
    exact whole.symm
  · have both := congrArg (·[consumed.length]?) alike
    simp only [List.getElem?_take, Nat.lt_succ_self, if_true] at both
    rw [List.head?_drop, both, getElem?_append_length]

end Places

/-- **Every error blames a place**, if the tokens of types carry the keywords of types. -/
theorem exists_offends_of_parse {tokens : List Token} (typed : Typed tokens) {error : ParseError}
    (fails : parse tokens = .error error) : ∃ q, Offends tokens error q := by
  obtain ⟨⟨expected, rest⟩, stops, rfl⟩ := parse_eq_error_iff.mp fails
  obtain ⟨consumed, rfl, stable, completes⟩ := (steady_program (tokens.length + 1)).failure
    (Nat.lt_succ_self _) typed stops
  refine ⟨consumed.length, ?_, ?_, ?_, ?_, ?_, ?_⟩
  · simp
  · rw [List.drop_left]
    exact program_eq_error_iff.mp stops
  · intro token here
    rw [getElem?_append_length] at here
    rw [stuck_error_of_head? here]
    exact ⟨rfl, rfl⟩
  · intro atEnd
    have nothing : rest = [] := by simpa using atEnd
    subst nothing
    have filled : consumed ++ [] ≠ [] := by
      intro empty
      rw [empty, program_eq] at stops
      cases stops
    have last := List.getLast?_eq_some_getLast filled
    rw [stuck_error_of_nil last]
    exact ⟨rfl, _, last, rfl⟩
  · by_cases start : consumed = []
    · exact ⟨[], ⟨[]⟩, by rw [start]; exact parse_eq_ok_iff.mpr (by rw [program_eq]; rfl)⟩
    · obtain ⟨completion, body, _, takes⟩ := completes start
      refine ⟨completion, ⟨body⟩, parse_eq_ok_iff.mpr ?_⟩
      rw [List.take_left, ← List.append_nil (consumed ++ completion)]
      exact takes [] rfl
  · intro before others alike
    obtain ⟨later, rfl, same⟩ := exists_append_of_take_eq alike
    have filled : rest ≠ [] := by
      rintro rfl
      simp at before
    obtain ⟨token, behind, rfl⟩ := List.exists_cons_of_ne_nil filled
    have first : (token :: behind).head? = some token := rfl
    refine parse_eq_error_iff.mpr ⟨_, stable later same, ?_⟩
    rw [stuck_error_of_head? same, stuck_error_of_head? first]

/-- The text `return 1)`, which goes wrong at its last token. -/
theorem exists_offends_of_parse_parenthesis :
    let tokens : List Token := [⟨.keyword, "return", ⟨1, 1⟩⟩, ⟨.int, "1", ⟨1, 8⟩⟩,
      ⟨.parenthesis, ")", ⟨1, 9⟩⟩]
    let error : ParseError := ⟨"`;`", ")", ⟨1, 9⟩⟩
    Typed tokens ∧ parse tokens = .error error ∧ ∃ q, Offends tokens error q := by
  intro tokens error
  have typed : Typed tokens := by decide
  have written : IsLiteral .int "1" := by decide
  have carries : (⟨.int, "1", ⟨1, 8⟩⟩ : Token).Carries "1" := ⟨rfl, by decide⟩
  have reads : expr 0 tokens.tail = .ok (.literal .int "1", [⟨.parenthesis, ")", ⟨1, 9⟩⟩]) :=
    (expr_of_literal written carries _).trans
      (operators_of_halts (stops_of_lexeme (by decide) []).halts)
  have first : lexeme "return" tokens = .ok (⟨.keyword, "return", ⟨1, 1⟩⟩, tokens.tail) :=
    lexeme_cons rfl _
  have fails : stmt tokens = .error ⟨"`;`", [⟨.parenthesis, ")", ⟨1, 9⟩⟩]⟩ := by
    rw [stmt_eq]
    show returnStmt tokens = _
    rw [returnStmt_eq, bind_of_ok first]
    show (expr 0 >>= _) tokens.tail = _
    rw [bind_of_ok reads]
    rfl
  have parsed : parse tokens = .error error := by
    refine parse_eq_error_iff.mpr ⟨⟨"`;`", [⟨.parenthesis, ")", ⟨1, 9⟩⟩]⟩, ?_, rfl⟩
    rw [program_eq]
    exact bind_of_error fails _
  exact ⟨typed, parsed, exists_offends_of_parse typed parsed⟩

end TypedImp
