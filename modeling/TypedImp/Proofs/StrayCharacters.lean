/-
**Where a source text cannot be scanned.**

The scanner is stuck at a character that starts no lexeme. Such a character is not blank, and it is
an ampersand or a bar that stands alone, a quote that no other one closes, or a character that no
lexeme contains outside of strings and comments. What stands before it is scanned as if the text
ended there: a lexeme that is the longest at its place is still the longest in a shorter text.

* `Unclosed` — no quote closes a string.
* `StartsNothing` — nothing starts with a character.
* `firstLexeme?_eq_none_iff_startsNothing` — **these are the characters that no pattern takes.**
* `Longest.of_append` — a longest lexeme is the longest of each text that still holds it.
* `exists_of_scan_error` — **a scan error is exact**, both in its character and in its position.
-/

import TypedImp.Proofs.LongestMatch
import TypedImp.Proofs.Partition

namespace TypedImp

open Text (isBlank)
open Pattern (continuesWord)

/-! ### Characters that start nothing -/

/-- What follows a quote closes no string: the text ends, or a backslash is met that is the last
character or stands before a line feed, and before that there is no quote but behind a backslash. -/
inductive Unclosed : List Char → Prop
  | ends : Unclosed []
  | broken {later : List Char} (noCharacter : ∀ c ∈ later.head?, c = '\n') :
      Unclosed ('\\' :: later)
  | escape {c : Char} {later : List Char} (sameLine : c ≠ '\n') (rest : Unclosed later) :
      Unclosed ('\\' :: c :: later)
  | plain {c : Char} {later : List Char} (noQuote : c ≠ '"') (noEscape : c ≠ '\\')
      (rest : Unclosed later) : Unclosed (c :: later)

/-- The characters that start a lexeme whatever follows, but for letters, digits and underscores. -/
def lexemeMarks : List Char :=
  ['-', '+', '*', '/', '%', '^', '<', '>', '=', '!', '(', ')', '\x7b', '\x7d', '[', ']', ';', ',']

/-- **Nothing starts with the character** in front of the text `later`. -/
def StartsNothing (c : Char) (later : List Char) : Prop :=
  isBlank c = false ∧
    (c = '&' ∧ later.head? ≠ some '&' ∨ c = '|' ∧ later.head? ≠ some '|' ∨
      c = '"' ∧ Unclosed later ∨
      c ∉ ['&', '|', '"'] ∧ continuesWord c = false ∧ c ∉ lexemeMarks)

section StartsNothing

variable {c : Char} {later : List Char}

theorem stringRest?_eq_none_iff : Pattern.stringRest? later = none ↔ Unclosed later := by
  constructor
  · intro nothing
    fun_induction Pattern.stringRest? later with
    | case1 => exact .ends
    | case2 => cases nothing
    | case3 => exact .broken (by simp)
    | case4 later =>
      refine .broken ?_
      rintro c ⟨⟩
      rfl
    | case5 c later other ih => exact .escape other (ih (Option.map_eq_none_iff.mp nothing))
    | case6 c later noQuote single escaped ih =>
      exact .plain noQuote (Pattern.ne_backslash single escaped)
        (ih (Option.map_eq_none_iff.mp nothing))
  · intro unclosed
    induction unclosed with
    | ends => rfl
    | @broken later noCharacter =>
      cases later with
      | nil => rfl
      | cons c later =>
        obtain rfl := noCharacter c rfl
        rfl
    | escape sameLine _ ih =>
      rw [Pattern.stringRest?, if_neg sameLine, ih]
      rfl
    | plain noQuote noEscape _ ih =>
      rw [Pattern.stringRest?_cons noQuote noEscape, ih]
      rfl

/-- An operator of two characters starts with one that is an operator itself, or doubles an
ampersand or a bar. -/
theorem operator?_eq_none_iff : Pattern.operator? (c :: later) = none ↔
    c ∉ Pattern.operatorMarks ∧ (c = '&' → later.head? ≠ some '&') ∧
      (c = '|' → later.head? ≠ some '|') := by
  have pairs : ∀ pair ∈ Pattern.operatorPairs, pair.1 ∉ Pattern.operatorMarks →
      pair = ('&', '&') ∨ pair = ('|', '|') := by decide
  have both : ('&', '&') ∈ Pattern.operatorPairs ∧ ('|', '|') ∈ Pattern.operatorPairs := by decide
  cases later with
  | nil => simp [Pattern.operator?]
  | cons d later =>
    rw [Pattern.operator?]
    by_cases paired : (c, d) ∈ Pattern.operatorPairs
    · rw [if_pos paired]
      refine ⟨fun nothing => (Option.some_ne_none _ nothing).elim, ?_⟩
      rintro ⟨noMark, noAnd, noOr⟩
      rcases pairs _ paired noMark with same | same <;> cases same
      · exact absurd rfl (noAnd rfl)
      · exact absurd rfl (noOr rfl)
    · rw [if_neg paired]
      have apart : (c = '&' → d ≠ '&') ∧ (c = '|' → d ≠ '|') :=
        ⟨by rintro rfl rfl; exact paired both.1, by rintro rfl rfl; exact paired both.2⟩
      simpa using fun _ => apart

/-- The patterns but for the operators ask little more than for the first character. A comment
starts with an operator, and a float with an integer. -/
theorem firstLexeme?_cons_eq_none_iff : firstLexeme? (c :: later) = none ↔
    isBlank c = false ∧ (c = '"' → Unclosed later) ∧ continuesWord c = false ∧
      Pattern.operator? (c :: later) = none ∧
      c ∉ ['(', ')', '\x7b', '\x7d', '[', ']', ';', ','] := by
  have blanks : Pattern.blanks.lexeme? (c :: later) = none ↔ isBlank c = false := by
    simp [Pattern.lexeme?, Pattern.nonempty?]
  have string : Pattern.string.lexeme? (c :: later) = none ↔ (c = '"' → Unclosed later) := by
    by_cases quote : c = '"'
    · subst quote
      simp [Pattern.lexeme?, stringRest?_eq_none_iff]
    · simp [Pattern.lexeme?, quote]
  have word : (Pattern.int.lexeme? (c :: later) = none ∧ Pattern.word.lexeme? (c :: later) = none) ↔
      continuesWord c = false := by
    rw [← Bool.not_eq_true, continuesWord_iff]
    simp [Pattern.lexeme?, Pattern.nonempty?, and_comm]
  have comment (noOperator : Pattern.operator? (c :: later) = none) :
      Pattern.comment.lexeme? (c :: later) = none := by
    have noSlash : c ≠ '/' := by
      rintro rfl
      exact absurd (operator?_eq_none_iff.mp noOperator).1 (by decide)
    simp [Pattern.lexeme?, noSlash]
  have float (noWord : continuesWord c = false) : Pattern.float.lexeme? (c :: later) = none := by
    have noDigit : c.isDigit = false := by
      rw [← Bool.not_eq_true] at noWord ⊢
      exact fun digit => noWord (continuesWord_iff.mpr (.inr digit))
    show Pattern.float? (c :: later) = none
    cases found : Pattern.float? (c :: later) with
    | none => rfl
    | some taken =>
      obtain ⟨whole, fraction, ⟨filled, all⟩, _, rfl⟩ := exists_of_float? found
      obtain ⟨d, whole, rfl⟩ := List.exists_cons_of_ne_nil filled
      obtain ⟨_, behind, same⟩ := Pattern.front_of_float? found
      obtain rfl : c = d := (List.cons.inj same).1
      exact absurd (all c List.mem_cons_self) (by simp [noDigit])
  have marks (kind : Token.Kind) (d : Char) :
      (Pattern.mark kind d).lexeme? (c :: later) = none ↔ c ≠ d := by
    simp [Pattern.lexeme?]
  unfold firstLexeme?
  simp only [List.findSome?_eq_none_iff, Option.map_eq_none_iff]
  simp only [Pattern.table, List.forall_mem_cons, marks, blanks, string]
  rw [← word]
  constructor
  · rintro ⟨noBlank, _, noString, _, noInt, noWord, noOperator, noMark⟩
    exact ⟨noBlank, noString, ⟨noInt, noWord⟩, noOperator, by simpa using noMark⟩
  · rintro ⟨noBlank, noString, noWord, noOperator, noMark⟩
    exact ⟨noBlank, comment noOperator, noString, float (word.mp noWord), noWord.1, noWord.2,
      noOperator, by simpa using noMark⟩

/-- **These are the characters that no pattern takes.** -/
theorem firstLexeme?_eq_none_iff_startsNothing :
    firstLexeme? (c :: later) = none ↔ StartsNothing c later := by
  rw [firstLexeme?_cons_eq_none_iff, operator?_eq_none_iff]
  unfold StartsNothing
  refine and_congr_right fun _ => ?_
  by_cases isAnd : c = '&'
  · subst isAnd
    have free : continuesWord '&' = false := rfl
    simp [Pattern.operatorMarks, free]
  by_cases isOr : c = '|'
  · subst isOr
    have free : continuesWord '|' = false := rfl
    simp [Pattern.operatorMarks, free]
  by_cases isQuote : c = '"'
  · subst isQuote
    have free : continuesWord '"' = false := rfl
    simp [Pattern.operatorMarks, free]
  · simp [isAnd, isOr, isQuote, lexemeMarks, Pattern.operatorMarks]
    tauto

end StartsNothing

/-! ### What stands before the character -/

/-- A longest string is the longest of each text that still holds it. -/
theorem Longest.of_append {pattern : Pattern} {lexeme before later : List Char}
    (longest : Longest pattern lexeme (lexeme ++ (before ++ later))) :
    Longest pattern lexeme (lexeme ++ before) where
  listed := longest.listed
  filled := longest.filled
  matched := longest.matched
  front := List.prefix_append lexeme before
  longest other member string inLanguage front :=
    longest.longest other member string inLanguage
      (front.trans ((List.append_assoc lexeme before later).symm ▸ List.prefix_append _ later))

/-- A text with a scan error is scanned up to a character that no pattern takes. -/
theorem exists_of_scanFrom_error {here : Position} {text : List Char} {error : ScanError}
    (stuck : scanFrom here text = .error error) :
    ∃ before later tokens, text = before ++ error.character :: later ∧
      error.position = here.after before ∧ firstLexeme? (error.character :: later) = none ∧
      scanFrom here before = .ok tokens := by
  have scans := scansLongest_scanFrom here text
  rw [stuck] at scans
  clear stuck
  generalize is : Except.error error = result at scans
  induction scans with
  | done => cases is
  | @stuck here c later nothing =>
    cases is
    refine ⟨[], later, [], rfl, rfl, firstLexeme?_eq_none_iff.mpr nothing, ?_⟩
    rw [scanFrom]
  | @lexeme here pattern lexeme text result longest _ ih =>
    cases result with
    | ok => cases is
    | error =>
      cases is
      obtain ⟨before, later, tokens, rfl, place, nothing, scanned⟩ := ih rfl
      refine ⟨lexeme ++ before, later, pattern.emit lexeme here tokens,
        (List.append_assoc lexeme before _).symm, ?_, nothing, ?_⟩
      · rw [place, Position.after_append]
      · rw [scanFrom_of_firstLexeme? (firstLexeme?_eq_some_iff.mpr longest.of_append), scanned]
        rfl

/-- **A scan error is exact.** The text before the character that it names is scanned, its position
is the one behind that text, and nothing starts with the character. -/
theorem exists_of_scan_error {source : String} {error : ScanError}
    (short : source.length < UInt32.size - 1) (fails : scan source = .error error) :
    ∃ before later tokens, source = before ++ (String.singleton error.character ++ later) ∧
      scan before = .ok tokens ∧ error.position.Behind before.toList ∧
      StartsNothing error.character later.toList := by
  obtain ⟨before, later, tokens, split, place, nothing, scanned⟩ :=
    exists_of_scanFrom_error (scan_eq_error_iff.mp fails)
  refine ⟨String.ofList before, String.ofList later, joinElseIf tokens, ?_, ?_, ?_, ?_⟩
  · rw [← String.toList_inj]
    simp [split]
  · rw [scan_eq_ok_iff, String.toList_ofList]
    exact ⟨tokens, scanned, rfl⟩
  · rw [String.toList_ofList, place]
    refine behind_start (Nat.lt_of_le_of_lt ?_ short)
    rw [← String.length_toList, split, List.length_append]
    exact Nat.le_add_right _ _
  · rw [String.toList_ofList]
    exact firstLexeme?_eq_none_iff_startsNothing.mp nothing

/-- The open quote is followed by an escaped one, and by another one behind a backslash at the
end of a line. A string that spans lines and a comment with stray characters stand before it. -/
theorem exists_of_scan_error_quote :
    let source := "x = \"é\n&\"; // & @\n  \"y\\\"\\\n\""
    let error : ScanError := ⟨'"', ⟨3, 3⟩⟩
    source.length < UInt32.size - 1 ∧ scan source = .error error ∧
      ∃ before later tokens, source = before ++ (String.singleton error.character ++ later) ∧
        scan before = .ok tokens ∧ error.position.Behind before.toList ∧
        StartsNothing error.character later.toList := by
  intro source error
  have short : source.length < UInt32.size - 1 := by decide
  have fails : scan source = .error error := by decide +kernel
  exact ⟨short, fails, exists_of_scan_error short fails⟩

end TypedImp
