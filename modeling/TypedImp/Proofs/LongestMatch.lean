/-
**The first match is the longest.**

The scanner asks the patterns in the order of the table, and the first that takes anything decides.
The table is arranged so that nothing shorter is found before something longer. Mostly two patterns
have no first character in common. Where they have one, the pattern with the longer strings is asked
first: a comment before an operator, and a float before an integer.

* `Family` — which patterns may start with a character.
* `Longest` — a string of a pattern at the front of a text, at least as long as all others there.
* `firstLexeme?_eq_some_iff` — **the scanner takes the longest string.**
* `ScansLongest` — a scanner that looks for the longest string at each place.
* `scansLongest_iff` — it finds the same tokens and is stuck at the same characters.
* `scan_longest` — **first match is longest match**, in the table and in every source text.
-/

import TypedImp.Proofs.Gaps
import TypedImp.Proofs.PatternRegex

namespace TypedImp

open Text (isBlank)
open Pattern (startsWord continuesWord)

/-! ### First characters -/

/-- The sorts of characters that start a lexeme. -/
inductive Family
  | blank
  | digit
  | letter
  | quote
  | sign
  | mark (character : Char)
  deriving DecidableEq

/-- The sort of a character. Characters that start nothing are marks of their own. -/
def charFamily (c : Char) : Family :=
  if isBlank c then .blank
  else if c.isDigit then .digit
  else if startsWord c then .letter
  else if c = '"' then .quote
  else if c ∈ Pattern.operatorPairs.map (·.1) ++ Pattern.operatorMarks then .sign
  else .mark c

namespace Pattern

/-- The sort of the characters that the lexemes of a pattern start with. -/
def family : Pattern → Family
  | blanks => .blank
  | comment | operator => .sign
  | string => .quote
  | float | int => .digit
  | word => .letter
  | mark _ character => .mark character

theorem charFamily_of_isDigit {c : Char} (digit : c.isDigit = true) : charFamily c = .digit := by
  have noBlank := isBlank_of_continuesWord (continuesWord_iff.mpr (.inr digit))
  simp [charFamily, noBlank, digit]

theorem charFamily_of_startsWord {c : Char} (starts : startsWord c = true) :
    charFamily c = .letter := by
  have noBlank := isBlank_of_continuesWord (continuesWord_iff.mpr (.inl starts))
  simp [charFamily, noBlank, isDigit_of_startsWord starts, starts]

theorem charFamily_of_mark {kind : Token.Kind} {character : Char}
    (listed : mark kind character ∈ table) : charFamily character = .mark character := by
  simp only [table, List.mem_cons, reduceCtorEq, mark.injEq, false_or, List.not_mem_nil,
    or_false] at listed
  rcases listed with h | h | h | h | h | h | h | h <;> rw [h.2] <;> decide

/-- **A string of a pattern starts with a character of its family.** -/
theorem exists_charFamily {pattern : Pattern} {string : List Char} (listed : pattern ∈ table)
    (inLanguage : string ∈ pattern.regex.language) :
    ∃ c later, string = c :: later ∧ charFamily c = pattern.family := by
  cases pattern with
  | blanks =>
    obtain ⟨c, later, rfl, blank, _⟩ := Regex.mem_run.mp inLanguage
    exact ⟨c, later, rfl, if_pos blank⟩
  | comment =>
    obtain ⟨text, rfl, _⟩ := mem_comment.mp inLanguage
    exact ⟨'/', _, rfl, by decide⟩
  | string =>
    obtain ⟨rest, rfl, _⟩ := mem_string.mp inLanguage
    exact ⟨'"', rest, rfl, by decide⟩
  | float =>
    obtain ⟨whole, fraction, ⟨filled, all⟩, _, rfl⟩ := mem_float.mp inLanguage
    obtain ⟨c, later, rfl⟩ := List.exists_cons_of_ne_nil filled
    exact ⟨c, _, rfl, charFamily_of_isDigit (all c List.mem_cons_self)⟩
  | int =>
    obtain ⟨c, later, rfl, digit, _⟩ := Regex.mem_run.mp inLanguage
    exact ⟨c, later, rfl, charFamily_of_isDigit digit⟩
  | word =>
    obtain ⟨c, later, rfl, starts, _⟩ := Regex.mem_run.mp inLanguage
    exact ⟨c, later, rfl, charFamily_of_startsWord starts⟩
  | operator =>
    have signs : ∀ text ∈ operatorTexts, text.head?.map charFamily = some .sign := by decide
    obtain ⟨c, first, is⟩ := Option.map_eq_some_iff.mp (signs _ (mem_operator.mp inLanguage))
    obtain ⟨later, rfl⟩ := List.head?_eq_some_iff.mp first
    exact ⟨c, later, rfl, is⟩
  | mark kind character =>
    obtain ⟨c, is, rfl⟩ := inLanguage
    rw [beq_iff_eq.mp is]
    exact ⟨character, [], rfl, charFamily_of_mark listed⟩

/-- Two patterns of one family, the first of which is asked no later, are the same or one of two
pairs. -/
theorem shared_family : ∀ first ∈ table, ∀ second ∈ table, first.family = second.family →
    table.idxOf first ≤ table.idxOf second →
      first = second ∨ first = comment ∧ second = operator ∨ first = float ∧ second = int := by
  decide

end Pattern

/-! ### The longest string of all patterns -/

section Longest

variable {cs lexeme string : List Char} {pattern other : Pattern}

/-- The scanner asks no pattern before one that takes something. -/
theorem idxOf_le_of_firstLexeme? (found : firstLexeme? cs = some (pattern, lexeme))
    (takes : other.lexeme? cs ≠ none) :
    Pattern.table.idxOf pattern ≤ Pattern.table.idxOf other := by
  obtain ⟨_, taken⟩ := lexeme?_of_firstLexeme? found
  obtain ⟨earlier, chosen, others, split, is, passed⟩ := List.findSome?_eq_some_iff.mp found
  obtain ⟨whole, _, same⟩ := Option.map_eq_some_iff.mp is
  obtain ⟨rfl, rfl⟩ := Prod.mk.inj same
  have notEarlier : ∀ asked, asked.lexeme? cs ≠ none → asked ∉ earlier :=
    fun asked some member => some (Option.map_eq_none_iff.mp (passed asked member))
  rw [split, List.idxOf_append_of_notMem (notEarlier _ (by rw [taken]; nofun)),
    List.idxOf_append_of_notMem (notEarlier _ takes), List.idxOf_cons_self]
  omega

/-- A comment is as long as any operator. -/
theorem length_operator_le_comment (inOperator : string ∈ Pattern.operator.regex.language)
    (inComment : lexeme ∈ Pattern.comment.regex.language) : string.length ≤ lexeme.length := by
  have short : ∀ text ∈ operatorTexts, text.length ≤ 2 := by decide
  obtain ⟨text, rfl, _⟩ := Pattern.mem_comment.mp inComment
  exact Nat.le_trans (short _ (Pattern.mem_operator.mp inOperator)) (Nat.le_add_left 2 _)

/-- A float is longer than any integer in its place: this one stops at the point. -/
theorem length_int_le_float (inInt : string ∈ Pattern.int.regex.language)
    (inFloat : lexeme ∈ Pattern.float.regex.language) (front : string <+: cs)
    (lexemeFront : lexeme <+: cs) : string.length ≤ lexeme.length := by
  obtain ⟨whole, fraction, _, _, rfl⟩ := Pattern.mem_float.mp inFloat
  by_contra longer
  have inside : whole ++ '.' :: fraction <+: string :=
    List.prefix_of_prefix_length_le lexemeFront front (by omega)
  have point : '.' ∈ string := inside.subset (by simp)
  exact absurd ((Pattern.mem_digits.mp inInt).2 _ point) (by decide)

/-- What the scanner takes is a string of the pattern at the front of the text. -/
theorem mem_of_firstLexeme? (found : firstLexeme? cs = some (pattern, lexeme)) :
    pattern ∈ Pattern.table ∧ lexeme ∈ pattern.regex.language ∧ lexeme <+: cs := by
  obtain ⟨listed, takes⟩ := lexeme?_of_firstLexeme? found
  exact ⟨listed, Regex.mem_of_first? (Pattern.lexeme?_eq_first? pattern ▸ takes)⟩

/-- A pattern with a string at the front of the text is the one that the scanner finds, but for two
pairs. -/
theorem eq_of_firstLexeme? (found : firstLexeme? cs = some (pattern, lexeme))
    (listed : other ∈ Pattern.table) (inLanguage : string ∈ other.regex.language)
    (front : string <+: cs) :
    pattern = other ∨ pattern = .comment ∧ other = .operator ∨ pattern = .float ∧ other = .int := by
  obtain ⟨member, lexemeIn, lexemeFront⟩ := mem_of_firstLexeme? found
  have takes : other.lexeme? cs ≠ none := by
    rw [Pattern.lexeme?_eq_first?, Ne, Regex.first?_eq_none_iff]
    exact fun nothing => nothing _ inLanguage front
  have sameFamily : pattern.family = other.family := by
    obtain ⟨c, _, rfl, isFamily⟩ := Pattern.exists_charFamily member lexemeIn
    obtain ⟨d, _, rfl, isOther⟩ := Pattern.exists_charFamily listed inLanguage
    obtain ⟨rest, rfl⟩ := front
    obtain ⟨rfl, _⟩ := List.cons_prefix_cons.mp lexemeFront
    rw [← isFamily, isOther]
  exact Pattern.shared_family _ member _ listed sameFamily (idxOf_le_of_firstLexeme? found takes)

/-- **What the scanner takes is at least as long as any string of any pattern** at the front of the
text. -/
theorem length_le_of_firstLexeme? (found : firstLexeme? cs = some (pattern, lexeme))
    (listed : other ∈ Pattern.table) (inLanguage : string ∈ other.regex.language)
    (front : string <+: cs) : string.length ≤ lexeme.length := by
  obtain ⟨_, takes⟩ := lexeme?_of_firstLexeme? found
  obtain ⟨_, lexemeIn, lexemeFront⟩ := mem_of_firstLexeme? found
  rcases eq_of_firstLexeme? found listed inLanguage front with rfl | ⟨rfl, rfl⟩ | ⟨rfl, rfl⟩
  · exact Pattern.length_le_of_lexeme? takes inLanguage front
  · exact length_operator_le_comment inLanguage lexemeIn
  · exact length_int_le_float inLanguage lexemeIn front lexemeFront

/-- A string of a pattern stands at the front of the text, and no string of any pattern there is
longer. -/
structure Longest (pattern : Pattern) (lexeme cs : List Char) : Prop where
  listed : pattern ∈ Pattern.table
  filled : lexeme ≠ []
  matched : lexeme ∈ pattern.regex.language
  front : lexeme <+: cs
  longest : ∀ other ∈ Pattern.table, ∀ string ∈ other.regex.language, string <+: cs →
    string.length ≤ lexeme.length

/-- Nothing is taken just if no string of any pattern stands at the front. -/
theorem firstLexeme?_eq_none_iff : firstLexeme? cs = none ↔
    ∀ pattern ∈ Pattern.table, ∀ string ∈ pattern.regex.language, ¬ string <+: cs := by
  unfold firstLexeme?
  simp only [List.findSome?_eq_none_iff, Option.map_eq_none_iff, Pattern.lexeme?_eq_first?,
    Regex.first?_eq_none_iff]

theorem not_comment_and_operator (inComment : string ∈ Pattern.comment.regex.language) :
    string ∉ Pattern.operator.regex.language := by
  intro inOperator
  have noSlashes : ∀ text ∈ operatorTexts, text.take 2 ≠ ['/', '/'] := by decide
  obtain ⟨text, rfl, _⟩ := Pattern.mem_comment.mp inComment
  exact noSlashes _ (Pattern.mem_operator.mp inOperator) rfl

theorem not_float_and_int (inFloat : string ∈ Pattern.float.regex.language) :
    string ∉ Pattern.int.regex.language := by
  intro inInt
  obtain ⟨whole, fraction, _, _, rfl⟩ := Pattern.mem_float.mp inFloat
  exact absurd ((Pattern.mem_digits.mp inInt).2 '.' (by simp)) (by decide)

/-- **The scanner takes the longest string.** No other pattern has this string too. -/
theorem firstLexeme?_eq_some_iff :
    firstLexeme? cs = some (pattern, lexeme) ↔ Longest pattern lexeme cs := by
  constructor
  · intro found
    obtain ⟨listed, matched, front⟩ := mem_of_firstLexeme? found
    exact ⟨listed, (front_of_firstLexeme? found).1, matched, front,
      fun _ member _ => length_le_of_firstLexeme? found member⟩
  · rintro ⟨listed, _, matched, front, longest⟩
    cases found : firstLexeme? cs with
    | none => exact absurd front (firstLexeme?_eq_none_iff.mp found _ listed _ matched)
    | some first =>
      obtain ⟨chosen, taken⟩ := first
      obtain ⟨member, takenIn, takenFront⟩ := mem_of_firstLexeme? found
      have noShorter := length_le_of_firstLexeme? found listed matched front
      have noLonger := longest chosen member taken takenIn takenFront
      obtain rfl : taken = lexeme :=
        (List.prefix_of_prefix_length_le takenFront front noLonger).eq_of_length
          (Nat.le_antisymm noLonger noShorter)
      rcases eq_of_firstLexeme? found listed matched front with rfl | ⟨rfl, rfl⟩ | ⟨rfl, rfl⟩
      · rfl
      · exact absurd matched (not_comment_and_operator takenIn)
      · exact absurd matched (not_float_and_int takenIn)

end Longest

/-! ### Scanning by longest match -/

/-- Puts the token of a lexeme, if it makes one, before those of the rest. -/
def Pattern.emit (pattern : Pattern) (lexeme : List Char) (here : Position) (later : List Token) :
    List Token :=
  match pattern.kind? lexeme with
  | none => later
  | some kind => ⟨kind, String.ofList lexeme, here⟩ :: later

/-- **The scanner that takes the longest string at each place** and is stuck where there is none. -/
inductive ScansLongest : Position → List Char → Except ScanError (List Token) → Prop
  | done {here : Position} : ScansLongest here [] (.ok [])
  | stuck {here : Position} {c : Char} {cs : List Char}
      (nothing : ∀ pattern ∈ Pattern.table, ∀ string ∈ pattern.regex.language,
        ¬ string <+: c :: cs) :
      ScansLongest here (c :: cs) (.error ⟨c, here⟩)
  | lexeme {here : Position} {pattern : Pattern} {lexeme later : List Char}
      {result : Except ScanError (List Token)} (longest : Longest pattern lexeme (lexeme ++ later))
      (rest : ScansLongest (here.after lexeme) later result) :
      ScansLongest here (lexeme ++ later) (result.map (pattern.emit lexeme here))

section Scanning

variable {here : Position} {cs : List Char} {result : Except ScanError (List Token)}

theorem ScansLongest.eq_scanFrom (scans : ScansLongest here cs result) :
    result = scanFrom here cs := by
  induction scans with
  | done => rw [scanFrom]
  | stuck nothing => rw [scanFrom_of_none (firstLexeme?_eq_none_iff.mpr nothing)]
  | lexeme longest _ ih =>
    rw [ih]
    exact (scanFrom_of_firstLexeme? (firstLexeme?_eq_some_iff.mpr longest) _).symm

/-- The scanner takes the longest string at each place, up to the end or to a character where there
is none. -/
theorem scansLongest_scanFrom (here : Position) (cs : List Char) :
    ScansLongest here cs (scanFrom here cs) := by
  -- What is left behind a lexeme is shorter, for no lexeme is empty.
  induction size : cs.length using Nat.strongRecOn generalizing here cs with
  | ind size ih =>
    cases cs with
    | nil =>
      rw [scanFrom]
      exact .done
    | cons c cs =>
      cases found : firstLexeme? (c :: cs) with
      | none =>
        rw [scanFrom_of_none found]
        exact .stuck (firstLexeme?_eq_none_iff.mp found)
      | some first =>
        obtain ⟨pattern, lexeme⟩ := first
        obtain ⟨filled, later, split⟩ := front_of_firstLexeme? found
        have positive : 0 < lexeme.length := List.length_pos_iff.mpr filled
        rw [split] at found size ⊢
        rw [List.length_append] at size
        rw [scanFrom_of_firstLexeme? found]
        exact .lexeme (firstLexeme?_eq_some_iff.mp found) (ih _ (by omega) _ _ rfl)

/-- **Both scanners do the same**, and each of them ends on every text in one way. -/
theorem scansLongest_iff : ScansLongest here cs result ↔ result = scanFrom here cs :=
  ⟨ScansLongest.eq_scanFrom, fun same => same ▸ scansLongest_scanFrom here cs⟩

end Scanning

/-- **First match is longest match.** The scanner takes the first match of the first expression in
the order of the table that has one; there is none just if no pattern has a string at the front of
the text; and it is a longest string of all patterns there. So scanning by longest match ends on
every source text in one way, which is that of the scanner before it joins `else` and `if`. -/
theorem scan_longest :
    (∀ cs, firstLexeme? cs =
      Pattern.table.findSome? fun pattern => (pattern.regex.first? cs).map (pattern, ·)) ∧
    (∀ cs, firstLexeme? cs = none ↔
      ∀ pattern ∈ Pattern.table, ∀ string ∈ pattern.regex.language, ¬ string <+: cs) ∧
    (∀ cs pattern lexeme,
      firstLexeme? cs = some (pattern, lexeme) ↔ Longest pattern lexeme cs) ∧
    ∀ source, ∃ result, (∀ other, ScansLongest .start source.toList other ↔ other = result) ∧
      scan source = result.map joinElseIf := by
  refine ⟨fun cs => ?_, fun _ => firstLexeme?_eq_none_iff, fun _ _ _ => firstLexeme?_eq_some_iff,
    fun source => ⟨_, fun _ => scansLongest_iff, rfl⟩⟩
  unfold firstLexeme?
  simp only [Pattern.lexeme?_eq_first?]

end TypedImp
