/-
**Layout does not matter.**

A text can be written again with other gaps between its lexemes. Its tokens keep their kinds and
lexemes and move to other positions. The parser does not look at positions, so the program is the
same, and so is a failure up to its position.

* `Respells` — a text is written with the lexemes of some tokens.
* `unplacedTokens_of_scan` — **the tokens of such a text are the same**, at other positions.
* `analyzeTokens` — the front end behind the scanner.
* `analyzeSource_of_respells` — **the whole front end does the same on a text that is written
  again.**
-/

import TypedImp.Frontend
import TypedImp.Proofs.Partition
import TypedImp.Proofs.Placeless
import TypedImp.Proofs.Prompt

namespace TypedImp

/-- The text is written with the lexemes of the tokens, and with gaps between them. -/
def Respells (text : String) (tokens : List Token) : Prop :=
  Spread ((lexemesOf tokens).flatMap lexemePieces) text.toList

/-! ### Tokens -/

section Tokens

variable {tokens : List Token}

theorem carry_lexemesOf (known : ∀ token ∈ tokens, lexemeKind? token.lexeme = some token.kind) :
    Carry tokens (lexemesOf tokens) := by
  rw [Carry, lexemesOf, List.forall₂_map_right_iff, List.forall₂_same]
  exact fun token member => ⟨rfl, known token member⟩

/-- Tokens are known by their lexemes, but for their positions. -/
theorem unplacedTokens_eq_of_carry {lexemes : List String} (carried : Carry tokens lexemes) :
    unplacedTokens tokens = lexemes.map Token.ofLexeme := by
  induction carried with
  | nil => rfl
  | @cons token lexeme tokens lexemes carries _ ih =>
    obtain ⟨rfl, known⟩ := carries
    have first : token.unplaced = Token.ofLexeme token.lexeme := by
      rw [Token.ofLexeme, known]
      rfl
    rw [unplacedTokens, List.map_cons, List.map_cons, first, ← ih]

/-- Where no keyword `else` is left before a keyword `if`, the words are apart. -/
theorem Joined.apart (joined : Joined tokens)
    (known : ∀ token ∈ tokens, lexemeKind? token.lexeme = some token.kind) :
    Apart (lexemesOf tokens) := by
  have isKeyword : ∀ word, lexemeKind? word = some .keyword → ∀ token ∈ tokens,
      token.lexeme = word → token.isKeyword word = true := by
    rintro _ keyword token member rfl
    have same := Option.some.inj ((known token member).symm.trans keyword)
    simp [Token.isKeyword, same]
  rw [Apart, lexemesOf, List.isChain_map]
  refine List.IsChain.imp_of_mem_imp (fun first second isFirst isSecond apart => ?_) joined
  rintro ⟨isElse, isIf⟩
  exact apart ⟨isKeyword "else" (by decide) first isFirst isElse,
    isKeyword "if" (by decide) second isSecond isIf⟩

/-- **The tokens of a text that is written again are the same**, at other positions. -/
theorem unplacedTokens_of_scan {source text : String} (short : source.length < UInt32.size - 1)
    (scanned : scan source = .ok tokens) (respells : Respells text tokens) :
    ∃ others, scan text = .ok others ∧ unplacedTokens others = unplacedTokens tokens := by
  obtain ⟨single, parts, rfl⟩ := scan_eq_ok_iff.mp scanned
  have cut : Cut [] single source.toList := cut_of_scanFrom short parts
  have known := cut.joinElseIf.known
  have carried := carry_lexemesOf known
  have isSome : ∀ lexeme ∈ lexemesOf (joinElseIf single), (lexemeKind? lexeme).isSome = true := by
    intro lexeme member
    obtain ⟨token, inside, rfl⟩ := List.mem_map.mp member
    exact Option.isSome_iff_exists.mpr ⟨_, known token inside⟩
  obtain ⟨others, rescanned, again⟩ :=
    scan_of_spread isSome ((joined_joinElseIf single).apart known) respells
  refine ⟨others, rescanned, ?_⟩
  rw [unplacedTokens_eq_of_carry again, unplacedTokens_eq_of_carry carried]

end Tokens

/-! ### The front end behind the scanner -/

/-- The failure at the start of a text. -/
def Failure.unplaced : Failure → Failure
  | .scan error => .scan error
  | .parse error => .parse error.unplaced
  | .semantic error => .semantic error

/-- The program of some tokens that obeys all rules, or the first failure. -/
def analyzeTokens (tokens : List Token) : Except Failure Program :=
  match parse tokens with
  | .error error => .error (.parse error)
  | .ok program =>
    match analyze program defaultLimit with
    | .error error => .error (.semantic error)
    | .ok _ => .ok program

theorem analyzeSource_of_scan {source : String} {tokens : List Token}
    (scanned : scan source = .ok tokens) : analyzeSource source = analyzeTokens tokens := by
  unfold analyzeSource parseSource analyzeTokens
  rw [scanned]
  dsimp only
  cases parse tokens with
  | error error => rfl
  | ok program =>
    dsimp only [bind, Except.bind]
    cases analyze program defaultLimit <;> rfl

/-- **The front end does not look at positions**: moving the tokens changes at most that of a
failure. -/
theorem analyzeTokens_unplaced (tokens : List Token) :
    analyzeTokens (unplacedTokens tokens) = (analyzeTokens tokens).mapError Failure.unplaced := by
  unfold analyzeTokens
  rw [parse_unplaced]
  cases parse tokens with
  | error error => rfl
  | ok program =>
    dsimp only [Except.mapError]
    cases analyze program defaultLimit <;> rfl

/-! ### Texts that are written again -/

/-- **The front end does the same on a text that is written again with other gaps.** It finds the
same tokens at other positions, and then the same program or the same failure up to its position. -/
theorem analyzeSource_of_respells {source text : String} {tokens : List Token}
    (short : source.length < UInt32.size - 1) (scanned : scan source = .ok tokens)
    (respells : Respells text tokens) :
    ∃ others, scan text = .ok others ∧ unplacedTokens others = unplacedTokens tokens ∧
      (analyzeSource text).mapError Failure.unplaced =
        (analyzeSource source).mapError Failure.unplaced := by
  obtain ⟨others, rescanned, same⟩ := unplacedTokens_of_scan short scanned respells
  refine ⟨others, rescanned, same, ?_⟩
  rw [analyzeSource_of_scan rescanned, analyzeSource_of_scan scanned, ← analyzeTokens_unplaced,
    ← analyzeTokens_unplaced, same]

/-- Two words that are joined although a comment stands between them, and one that is left alone. -/
theorem analyzeSource_of_respells_comments :
    let source := "else if if"
    let text := " else //\n if\nif //\n"
    let tokens : List Token := [⟨.keyword, "else if", ⟨1, 1⟩⟩, ⟨.keyword, "if", ⟨1, 9⟩⟩]
    source.length < UInt32.size - 1 ∧ scan source = .ok tokens ∧ Respells text tokens ∧
      ∃ others, scan text = .ok others ∧ unplacedTokens others = unplacedTokens tokens ∧
        (analyzeSource text).mapError Failure.unplaced =
          (analyzeSource source).mapError Failure.unplaced := by
  intro source text tokens
  have short : source.length < UInt32.size - 1 := by decide
  have scanned : scan source = .ok tokens := by decide +kernel
  have oneLine : '\n' ∉ ([] : List Char) := nofun
  have blankAhead : ∀ cs, StartsBlank (' ' :: cs) := by
    rintro cs c ⟨⟩
    rfl
  have lineAhead : ∀ cs, StartsBlank ('\n' :: cs) := by
    rintro cs c ⟨⟩
    rfl
  have respells : Respells text tokens := by
    have whole : text.toList = [' '] ++ ("else".toList ++ ([' ', '/', '/', '\n', ' '] ++
        ("if".toList ++ (['\n'] ++ ("if".toList ++ [' ', '/', '/', '\n']))))) := by decide
    have last : Gap [' ', '/', '/', '\n'] := .blank rfl (.comment oneLine .nil)
    have between : Gap [' ', '/', '/', '\n', ' '] :=
      .blank rfl (.comment oneLine (.blank rfl .nil))
    unfold Respells
    rw [whole]
    exact .cons (.blank rfl .nil) (blankAhead _) (.cons between (lineAhead _)
      (.cons (.blank rfl .nil) (blankAhead _) (.nil last)))
  exact ⟨short, scanned, respells, analyzeSource_of_respells short scanned respells⟩

end TypedImp
