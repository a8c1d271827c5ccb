/-
**Gaps between lexemes.**

Between two lexemes there may be blanks and comments. A comment runs up to the end of its line, so a
gap is read character by character, a comment together with the line feed behind it; the last
comment of a text may lack one. A gap changes nothing but the position.

* `Gap`, `LastGap` — blanks and comments, between lexemes and at the end of a text.
* `scanFrom_of_gap` — **a gap is passed over**, whatever stands behind it.
* `Spread` — the texts of a list of lexemes with gaps between them, each one starting with a blank.
* `scanFrom_of_spread` — **such a text is cut into its lexemes.**
* `scan_of_spread` — **the tokens of such a text carry the lexemes.** The keyword that joins `else`
  and `if` is written as two words, and the scanner joins them again. It would join others too, so
  no `else` may stand before an `if` (`Apart`).
-/

import Mathlib.Data.List.Chain
import TypedImp.Proofs.Lexemes

namespace TypedImp

open Text (isBlank)

/-- What may stand between lexemes: blanks, and comments with the line feeds that end them. -/
inductive Gap : List Char → Prop
  | nil : Gap []
  | blank {c : Char} {cs : List Char} (isBlank : isBlank c = true) (rest : Gap cs) : Gap (c :: cs)
  | comment {text cs : List Char} (oneLine : '\n' ∉ text) (rest : Gap cs) :
      Gap ('/' :: '/' :: (text ++ '\n' :: cs))

/-- What may stand at the end of a text: a gap, or a gap and a comment up to the end. -/
inductive LastGap : List Char → Prop
  | gap {cs : List Char} (gap : Gap cs) : LastGap cs
  | comment {cs text : List Char} (gap : Gap cs) (oneLine : '\n' ∉ text) :
      LastGap (cs ++ '/' :: '/' :: text)

theorem gap_of_blanks {cs : List Char} (blank : ∀ c ∈ cs, isBlank c = true) : Gap cs := by
  induction cs with
  | nil => exact .nil
  | cons c cs ih =>
    obtain ⟨first, others⟩ := List.forall_mem_cons.mp blank
    exact .blank first (ih others)

/-! ### Passing over a gap -/

section Passing

variable {cs later : List Char}

/-- The scanner puts the token of the first lexeme before those of the rest. -/
theorem scanFrom_of_firstLexeme? {pattern : Pattern} {lexeme : List Char}
    (found : firstLexeme? (lexeme ++ later) = some (pattern, lexeme)) (here : Position) :
    scanFrom here (lexeme ++ later) =
      (scanFrom (here.after lexeme) later).map fun tokens =>
        match pattern.kind? lexeme with
        | none => tokens
        | some kind => ⟨kind, String.ofList lexeme, here⟩ :: tokens := by
  have filled := List.append_ne_nil_of_left_ne_nil (front_of_firstLexeme? found).1 later
  obtain ⟨c, front, same⟩ := List.exists_cons_of_ne_nil filled
  have behind : (c :: front).drop lexeme.length = later := by
    rw [← same, List.drop_left]
  rw [same] at found ⊢
  rw [scanFrom]
  split
  · rename_i nothing
    rw [found] at nothing
    cases nothing
  · rename_i found'
    rw [found] at found'
    cases found'
    rw [behind]
    cases scanFrom (here.after lexeme) later with
    | error => rfl
    | ok tokens =>
      show (match pattern.kind? lexeme with | none => _ | some _ => _) = Except.map _ (.ok tokens)
      cases pattern.kind? lexeme <;> rfl

/-- The scanner is stuck at a character that no pattern takes. -/
theorem scanFrom_of_none {c : Char} {cs : List Char} (nothing : firstLexeme? (c :: cs) = none)
    (here : Position) : scanFrom here (c :: cs) = .error ⟨c, here⟩ := by
  rw [scanFrom]
  split
  · rfl
  · rename_i found
    rw [nothing] at found
    cases found

/-- What makes no token is passed over. -/
theorem scanFrom_of_skipped {pattern : Pattern} {lexeme : List Char}
    (found : firstLexeme? (lexeme ++ later) = some (pattern, lexeme))
    (skipped : pattern.kind? lexeme = none) (here : Position) :
    scanFrom here (lexeme ++ later) = scanFrom (here.after lexeme) later := by
  rw [scanFrom_of_firstLexeme? found, skipped]
  cases scanFrom (here.after lexeme) later <;> rfl

theorem firstLexeme?_of_isBlank {c : Char} (blank : isBlank c = true) :
    firstLexeme? (c :: cs) = some (.blanks, (c :: cs).takeWhile isBlank) :=
  firstLexeme?_of_takes [] rfl nofun (by simp [Pattern.lexeme?, Pattern.nonempty?, blank])

/-- A run of blanks is passed over as a whole. -/
theorem scanFrom_blanks (here : Position) (cs : List Char) :
    scanFrom here cs = scanFrom (here.after (cs.takeWhile isBlank)) (cs.dropWhile isBlank) := by
  have whole : cs.takeWhile isBlank ++ cs.dropWhile isBlank = cs := List.takeWhile_append_dropWhile
  cases cs with
  | nil => rfl
  | cons c cs =>
    by_cases blank : isBlank c = true
    · have found : firstLexeme? ((c :: cs).takeWhile isBlank ++ (c :: cs).dropWhile isBlank) =
          some (.blanks, (c :: cs).takeWhile isBlank) := by
        rw [whole]
        exact firstLexeme?_of_isBlank blank
      have passed := scanFrom_of_skipped found rfl here
      rwa [whole] at passed
    · rw [List.takeWhile_cons_of_neg blank, List.dropWhile_cons_of_neg blank]
      rfl

/-- So is each blank of it. -/
theorem scanFrom_blank {c : Char} (blank : isBlank c = true) (here : Position) (cs : List Char) :
    scanFrom here (c :: cs) = scanFrom (here.advance c) cs := by
  rw [scanFrom_blanks here (c :: cs), scanFrom_blanks (here.advance c) cs,
    List.takeWhile_cons_of_pos blank, List.dropWhile_cons_of_pos blank]
  rfl

/-- A comment is passed over up to the end of its line. -/
theorem scanFrom_comment {text : List Char} (oneLine : '\n' ∉ text)
    (ends : ∀ c ∈ later.head?, c = '\n') (here : Position) :
    scanFrom here ('/' :: '/' :: (text ++ later)) =
      scanFrom (here.after ('/' :: '/' :: text)) later := by
  have stops : ∀ c ∈ later.head?, (c != '\n') = false := by
    intro c member
    rw [ends c member]
    rfl
  have inside : text.takeWhile (· != '\n') = text := by
    rw [List.takeWhile_eq_self_iff]
    intro c member
    exact bne_iff_ne.mpr fun same => oneLine (same ▸ member)
  have found : firstLexeme? ('/' :: '/' :: text ++ later) = some (.comment, '/' :: '/' :: text) := by
    refine firstLexeme?_of_takes [.blanks] rfl (List.forall_mem_singleton.mpr rfl) ?_
    show some ('/' :: '/' :: (text ++ later).takeWhile (· != '\n')) = _
    rw [takeWhile_append_of_head stops, inside]
  exact scanFrom_of_skipped found rfl here

/-- **A gap is passed over.** -/
theorem scanFrom_of_gap {gap : List Char} (isGap : Gap gap) (here : Position) :
    scanFrom here (gap ++ later) = scanFrom (here.after gap) later := by
  induction isGap generalizing here with
  | nil => rfl
  | @blank c cs blank _ ih =>
    rw [List.cons_append, scanFrom_blank blank, ih]
    rfl
  | @comment text cs oneLine _ ih =>
    have ends : ∀ c ∈ ('\n' :: (cs ++ later)).head?, c = '\n' := by
      rintro c ⟨⟩
      rfl
    have lineFeed : isBlank '\n' = true := rfl
    have passed := scanFrom_comment oneLine ends here
    rw [scanFrom_blank lineFeed, ih] at passed
    rw [List.cons_append, List.cons_append, List.append_assoc, List.cons_append, passed]
    simp only [Position.after_append, Position.after_cons]

/-- A last gap makes no tokens. -/
theorem scanFrom_of_lastGap {gap : List Char} (isGap : LastGap gap) (here : Position) :
    scanFrom here gap = .ok [] := by
  cases isGap with
  | gap isGap =>
    have passed : scanFrom here (gap ++ []) = scanFrom (here.after gap) [] :=
      scanFrom_of_gap isGap here
    rwa [List.append_nil, scanFrom] at passed
  | @comment cs text isGap oneLine =>
    have noLine : ∀ c ∈ ([] : List Char).head?, c = '\n' := by simp
    have passed := scanFrom_comment oneLine noLine (here.after cs)
    rw [List.append_nil, scanFrom] at passed
    rw [scanFrom_of_gap isGap, passed]

end Passing

/-! ### Lexemes with gaps between them -/

/-- A text of the lexemes with gaps between every two of them, and perhaps around them. A gap behind
a lexeme starts with a blank. -/
inductive Spread : List String → List Char → Prop
  | nil {gap : List Char} (isGap : Gap gap) : Spread [] gap
  | cons {gap later : List Char} {lexeme : String} {lexemes : List String} (isGap : Gap gap)
      (separated : StartsBlank later) (rest : Spread lexemes later) :
      Spread (lexeme :: lexemes) (gap ++ (lexeme.toList ++ later))

/-- **The scanner cuts such a text into its lexemes.** -/
theorem scanFrom_of_spread {lexemes : List String} {text : List Char} (spread : Spread lexemes text)
    (known : ∀ lexeme ∈ lexemes, lexeme ≠ "else if" ∧ (lexemeKind? lexeme).isSome = true)
    (here : Position) : ∃ tokens, scanFrom here text = .ok tokens ∧ Carry tokens lexemes := by
  induction spread generalizing here with
  | nil isGap => exact ⟨[], scanFrom_of_lastGap (.gap isGap) here, .nil⟩
  | @cons gap later lexeme lexemes isGap separated rest further =>
    obtain ⟨first, others⟩ := List.forall_mem_cons.mp known
    obtain ⟨kind, is⟩ := Option.isSome_iff_exists.mp first.2
    obtain ⟨pattern, found, makes⟩ := firstLexeme?_of_lexemeKind? first.1 is
    have kept : pattern ≠ .blanks ∧ pattern ≠ .comment := by
      constructor <;> rintro rfl <;> cases makes
    obtain ⟨tokens, scanned, carried⟩ := further others ((here.after gap).after lexeme.toList)
    refine ⟨⟨kind, lexeme, here.after gap⟩ :: tokens, ?_, .cons ⟨rfl, is⟩ carried⟩
    rw [scanFrom_of_gap isGap, scanFrom_of_firstLexeme? (firstLexeme?_append found kept separated),
      scanned, makes, String.ofList_toList]
    rfl

/-! ### Joining `else` and `if` -/

/-- The lexemes that are written for a lexeme: two words for the keyword that joins them. -/
def lexemePieces (lexeme : String) : List String :=
  if lexeme = "else if" then ["else", "if"] else [lexeme]

/-- No `else` stands directly before an `if`. -/
def Apart (lexemes : List String) : Prop :=
  lexemes.IsChain fun first second => ¬(first = "else" ∧ second = "if")

section Joining

variable {lexemes : List String}

theorem known_pieces (known : ∀ lexeme ∈ lexemes, (lexemeKind? lexeme).isSome = true) :
    ∀ piece ∈ lexemes.flatMap lexemePieces,
      piece ≠ "else if" ∧ (lexemeKind? piece).isSome = true := by
  intro piece member
  obtain ⟨lexeme, inside, isPiece⟩ := List.mem_flatMap.mp member
  unfold lexemePieces at isPiece
  split at isPiece
  · have words : ∀ word ∈ ["else", "if"], word ≠ "else if" ∧ (lexemeKind? word).isSome = true := by
      decide
    exact words piece isPiece
  · rename_i single
    rw [List.mem_singleton] at isPiece
    subst isPiece
    exact ⟨single, known _ inside⟩

/-- Only an `if` is written with the word `if` in front. -/
theorem eq_if_of_pieces {lexeme : String} {others : List String}
    (written : (lexemePieces lexeme ++ others).head? = some "if") : lexeme = "if" := by
  unfold lexemePieces at written
  split at written
  · exact absurd written (by simp)
  · exact Option.some.inj written

/-- The scanner joins just the words that were written for the keyword. -/
theorem carry_joinElseIf : ∀ {tokens : List Token}, Apart lexemes →
    Carry tokens (lexemes.flatMap lexemePieces) → Carry (joinElseIf tokens) lexemes := by
  induction lexemes with
  | nil =>
    intro tokens _ carried
    rw [List.flatMap_nil, carry_nil_iff] at carried
    subst carried
    exact .nil
  | cons lexeme later ih =>
    intro tokens apart carried
    have further : Apart later := apart.tail
    rw [List.flatMap_cons] at carried
    by_cases fused : lexeme = "else if"
    · rw [lexemePieces, if_pos fused] at carried
      obtain ⟨first, _, rfl, isElse, carried⟩ := carry_cons_iff.mp carried
      obtain ⟨second, behind, rfl, isIf, carried⟩ := carry_cons_iff.mp carried
      have keywordElse : first.kind = .keyword := isElse.kind_eq (by decide)
      have keywordIf : second.kind = .keyword := isIf.kind_eq (by decide)
      rw [joinElseIf, if_pos (by simp [Token.isKeyword, keywordElse, keywordIf, isElse.1, isIf.1])]
      refine .cons ⟨fused.symm, ?_⟩ (ih further carried)
      rw [fused]
      exact congrArg some keywordElse.symm
    · rw [lexemePieces, if_neg fused] at carried
      obtain ⟨first, behind, rfl, isFirst, carried⟩ := carry_cons_iff.mp carried
      have separate : joinElseIf (first :: behind) = first :: joinElseIf behind := by
        cases behind with
        | nil => rfl
        | cons second behind =>
          rw [joinElseIf, if_neg]
          simp only [Token.isKeyword, Bool.and_eq_true, beq_iff_eq]
          rintro ⟨⟨_, isElse⟩, _, isIf⟩
          cases later with
          | nil => cases carried
          | cons next others =>
            have written : (lexemePieces next ++ others.flatMap lexemePieces).head? = some "if" := by
              rw [List.flatMap_cons] at carried
              generalize lexemePieces next ++ others.flatMap lexemePieces = pieces at carried
              cases carried with
              | cons isSecond _ => exact congrArg some (isSecond.1.symm.trans isIf)
            exact apart.rel_head? rfl ⟨isFirst.1.symm.trans isElse, eq_if_of_pieces written⟩
      rw [separate]
      exact .cons isFirst (ih further carried)

/-- **The scanner finds the lexemes again**, whatever gaps are written between them. -/
theorem scan_of_spread (known : ∀ lexeme ∈ lexemes, (lexemeKind? lexeme).isSome = true)
    (apart : Apart lexemes) {text : String}
    (spread : Spread (lexemes.flatMap lexemePieces) text.toList) :
    ∃ tokens, scan text = .ok tokens ∧ Carry tokens lexemes := by
  obtain ⟨tokens, scanned, carried⟩ := scanFrom_of_spread spread (known_pieces known) .start
  refine ⟨joinElseIf tokens, ?_, carry_joinElseIf apart carried⟩
  unfold scan
  rw [scanned]
  rfl

end Joining

end TypedImp
