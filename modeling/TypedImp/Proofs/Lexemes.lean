/-
**Lexemes on their own and in a text.**

A text is a lexeme if the first pattern that takes anything from its front takes all of it. Then the
same pattern takes the same characters wherever the lexeme stands before a blank or at the end of a
text: no pattern that comes earlier in the table is woken by the blank, and the pattern itself does
not read on.

* `lexemeKind?` — the kind that the scanner gives to a lexeme.
* `IsName`, `IsLiteral` — the names and the literals, said without the scanner.
* `isName_iff_lexemeKind?`, `isLiteral_iff_lexemeKind?` — **they are just the lexemes to which the
  scanner gives their kinds.**
* `Token.Carries`, `Carry` — tokens as the scanner makes them from lexemes.
* `firstLexeme?_append` — **a lexeme is taken again when a text is continued behind a blank.**
* `firstLexeme?_self` — **what is taken for a lexeme in a text is a lexeme on its own.**
-/

import Mathlib.Data.List.Forall2
import Mathlib.Data.List.TakeWhile
import TypedImp.Parse.Expr
import TypedImp.Token.Scan

namespace TypedImp

open Text (isBlank)
open Pattern (startsWord continuesWord)

/-! ### Names and literals -/

/-- A name: a letter or an underscore, then letters, digits and underscores, and not reserved. -/
def IsName (text : String) : Prop :=
  (∃ first later, text.toList = first :: later ∧ startsWord first = true ∧
    ∀ c ∈ later, continuesWord c = true) ∧
  reservedKind? text = none

/-- One or more digits. -/
def Digits (cs : List Char) : Prop :=
  cs ≠ [] ∧ ∀ c ∈ cs, c.isDigit = true

/-- What follows the opening quote of a string: characters other than a quote and a backslash,
backslashes that each take one character with them, but not a line feed, and the closing quote. -/
inductive StringRest : List Char → Prop
  | close : StringRest ['"']
  | escape {c : Char} {cs : List Char} (sameLine : c ≠ '\n') (rest : StringRest cs) :
      StringRest ('\\' :: c :: cs)
  | plain {c : Char} {cs : List Char} (noQuote : c ≠ '"') (noEscape : c ≠ '\\')
      (rest : StringRest cs) : StringRest (c :: cs)

/-- A literal of a type, as it is written. -/
def IsLiteral (type : DataType) (text : String) : Prop :=
  match type with
  | .int => Digits text.toList
  | .float => ∃ whole fraction, Digits whole ∧ Digits fraction ∧
      text.toList = whole ++ '.' :: fraction
  | .string => ∃ rest, StringRest rest ∧ text.toList = '"' :: rest
  | .boolean => text = "true" ∨ text = "false"
  | .char | .void | .null => False

/-! ### Runs of characters before a blank -/

/-- A text that is empty or starts with a blank. -/
def StartsBlank (cs : List Char) : Prop :=
  ∀ c ∈ cs.head?, isBlank c = true

section Runs

variable {p : Char → Bool} {cs later : List Char}

theorem takeWhile_append_of_head (stops : ∀ c ∈ later.head?, p c = false) :
    (cs ++ later).takeWhile p = cs.takeWhile p := by
  induction cs with
  | nil =>
    cases later with
    | nil => rfl
    | cons c later => simp [stops c rfl]
  | cons c cs ih => by_cases holds : p c <;> simp [holds, ih]

theorem dropWhile_append_of_head (stops : ∀ c ∈ later.head?, p c = false) :
    (cs ++ later).dropWhile p = cs.dropWhile p ++ later := by
  induction cs with
  | nil =>
    cases later with
    | nil => rfl
    | cons c later => simp [stops c rfl]
  | cons c cs ih => by_cases holds : p c <;> simp [holds, ih]

end Runs

section Characters

variable {c : Char}

theorem isBlank_iff : isBlank c = true ↔
    (0x9 ≤ c.toNat ∧ c.toNat ≤ 0xD) ∨ c.toNat = 0x20 ∨ c.toNat = 0x85 ∨ c.toNat = 0xA0 ∨
      c.toNat = 0x1680 ∨ (0x2000 ≤ c.toNat ∧ c.toNat ≤ 0x200A) ∨
      (0x2028 ≤ c.toNat ∧ c.toNat ≤ 0x2029) ∨ c.toNat = 0x202F ∨ c.toNat = 0x205F ∨
      c.toNat = 0x3000 := by
  simp [isBlank, Text.blankRanges, Text.CodeRange.holds_iff, Nat.le_antisymm_iff, and_comm]

theorem startsWord_iff : startsWord c = true ↔
    (65 ≤ c.toNat ∧ c.toNat ≤ 90) ∨ (97 ≤ c.toNat ∧ c.toNat ≤ 122) ∨ c.toNat = 95 := by
  have underscore : c = '_' ↔ c.toNat = 95 :=
    ⟨fun same => by rw [same]; rfl, fun same => Char.toNat_inj.mp same⟩
  have letter : c.isAlpha =
      (decide (c.val ≥ 65 ∧ c.val ≤ 90) || (decide (c.val ≥ 97) && decide (c.val ≤ 122))) := rfl
  simp [startsWord, letter, UInt32.le_iff_toNat_le, underscore, or_assoc]

theorem continuesWord_iff : continuesWord c = true ↔ startsWord c = true ∨ c.isDigit = true := by
  simp only [continuesWord, startsWord, Char.isAlphanum, Bool.or_eq_true]
  rw [or_right_comm]

/-- A blank is neither a digit nor part of a word. -/
theorem isDigit_of_isBlank (blank : isBlank c = true) : c.isDigit = false := by
  have range := isBlank_iff.mp blank
  refine Bool.eq_false_iff.mpr fun digit => ?_
  have bounds : 48 ≤ c.toNat ∧ c.toNat ≤ 57 := Char.isDigit_iff_toNat.mp digit
  omega

theorem continuesWord_of_isBlank (blank : isBlank c = true) : continuesWord c = false := by
  have range := isBlank_iff.mp blank
  refine Bool.eq_false_iff.mpr fun continues => ?_
  rcases continuesWord_iff.mp continues with starts | digit
  · have letters := startsWord_iff.mp starts
    omega
  · rw [isDigit_of_isBlank blank] at digit
    cases digit

end Characters

/-! ### Patterns before a blank -/

namespace Pattern

section Append

variable {cs later taken : List Char}

theorem float?_append (ends : StartsBlank later) : float? (cs ++ later) = float? cs := by
  have digits : ∀ c ∈ later.head?, c.isDigit = false :=
    fun c member => isDigit_of_isBlank (ends c member)
  unfold float?
  rw [takeWhile_append_of_head digits, dropWhile_append_of_head digits]
  cases cs.dropWhile Char.isDigit with
  | nil =>
    cases later with
    | nil => rfl
    | cons c later =>
      have noPoint : c ≠ '.' := by
        rintro rfl
        exact absurd (ends _ rfl) (by decide)
      simp [noPoint]
  | cons point behind =>
    by_cases isPoint : point = '.'
    · subst isPoint
      simp only [List.cons_append, takeWhile_append_of_head digits]
    · simp [isPoint]

/-- A backslash is the last character, or it takes another one with it. -/
theorem ne_backslash {c : Char} (notLast : c = '\\' → cs = [] → False)
    (takesNone : ∀ d later, c = '\\' → cs = d :: later → False) : c ≠ '\\' := by
  rintro rfl
  cases cs with
  | nil => exact notLast rfl rfl
  | cons d later => exact takesNone d later rfl rfl

/-- A plain character belongs to the string. -/
theorem stringRest?_cons {c : Char} (noQuote : c ≠ '"') (noEscape : c ≠ '\\') :
    stringRest? (c :: cs) = (stringRest? cs).map (c :: ·) := by
  rw [stringRest?]
  · exact noQuote
  · exact fun same => absurd same noEscape
  · exact fun _ _ same => absurd same noEscape

theorem stringRest?_append_of_some (found : stringRest? cs = some taken) :
    stringRest? (cs ++ later) = some taken := by
  fun_induction stringRest? cs generalizing taken with
  | case1 => cases found
  | case2 cs => exact found
  | case3 => cases found
  | case4 => cases found
  | case5 c cs other ih =>
    obtain ⟨inner, innerFound, rfl⟩ := Option.map_eq_some_iff.mp found
    simp [stringRest?, other, ih innerFound]
  | case6 c cs noQuote single escaped ih =>
    obtain ⟨inner, innerFound, rfl⟩ := Option.map_eq_some_iff.mp found
    rw [List.cons_append, stringRest?_cons noQuote (ne_backslash single escaped), ih innerFound]
    rfl

theorem operator?_append (ends : StartsBlank later) (filled : cs ≠ []) :
    operator? (cs ++ later) = operator? cs := by
  match cs, later with
  | [], _ => exact absurd rfl filled
  | [c], [] => rfl
  | [c], d :: later =>
    have blank : isBlank d = true := ends d rfl
    have unpaired : (c, d) ∉ operatorPairs := by
      intro member
      have second : ∀ pair ∈ operatorPairs, isBlank pair.2 = false := by decide
      exact absurd blank (by rw [second _ member]; exact Bool.false_ne_true)
    simp [operator?, unpaired]
  | c :: d :: cs, later => rfl

/-- What a pattern takes that reads no blanks does not depend on what stands behind a blank. -/
theorem lexeme?_append {pattern : Pattern} (ends : StartsBlank later) (filled : cs ≠ [])
    (noBlanks : pattern ≠ .blanks) (noComment : pattern ≠ .comment) (noString : pattern ≠ .string) :
    pattern.lexeme? (cs ++ later) = pattern.lexeme? cs := by
  obtain ⟨c, cs, rfl⟩ := List.exists_cons_of_ne_nil filled
  cases pattern with
  | blanks => exact absurd rfl noBlanks
  | comment => exact absurd rfl noComment
  | string => exact absurd rfl noString
  | float => exact float?_append ends
  | int =>
    show nonempty? _ = nonempty? _
    rw [takeWhile_append_of_head fun d member => isDigit_of_isBlank (ends d member)]
  | word =>
    have stops : ∀ d ∈ later.head?, continuesWord d = false :=
      fun d member => continuesWord_of_isBlank (ends d member)
    simp only [lexeme?, List.cons_append, takeWhile_append_of_head stops]
  | operator => exact operator?_append ends filled
  | mark kind d => rfl

theorem blanks_lexeme?_append (filled : cs ≠ []) (nothing : blanks.lexeme? cs = none) :
    blanks.lexeme? (cs ++ later) = none := by
  obtain ⟨c, cs, rfl⟩ := List.exists_cons_of_ne_nil filled
  by_cases blank : isBlank c
  · simp [lexeme?, nonempty?, blank] at nothing
  · simp [lexeme?, nonempty?, blank]

theorem comment_lexeme?_append (ends : StartsBlank later) (filled : cs ≠ [])
    (nothing : comment.lexeme? cs = none) : comment.lexeme? (cs ++ later) = none := by
  match cs, later with
  | [], _ => exact absurd rfl filled
  | [c], [] => exact nothing
  | [c], d :: later =>
    have noSlash : d ≠ '/' := by
      rintro rfl
      exact absurd (ends _ rfl) (by decide)
    simp [lexeme?, noSlash]
  | c :: d :: cs, later =>
    by_cases slashes : c = '/' ∧ d = '/'
    · obtain ⟨rfl, rfl⟩ := slashes
      simp [lexeme?] at nothing
    · rw [List.cons_append, List.cons_append, lexeme?]
      intro cs' same
      cases same
      exact slashes ⟨rfl, rfl⟩

theorem string_lexeme?_append_of_some (found : string.lexeme? cs = some taken) :
    string.lexeme? (cs ++ later) = some taken := by
  cases cs with
  | nil => cases found
  | cons c cs =>
    by_cases quote : c = '"'
    · subst quote
      obtain ⟨inner, innerFound, rfl⟩ := Option.map_eq_some_iff.mp found
      simp [lexeme?, stringRest?_append_of_some innerFound]
    · simp [lexeme?, quote] at found

/-- No other pattern takes a quote. -/
theorem lexeme?_quote {pattern : Pattern} (member : pattern ∈ table) (noString : pattern ≠ .string) :
    pattern.lexeme? ('"' :: cs) = none := by
  cases pattern with
  | blanks | int => rfl
  | comment => rfl
  | string => exact absurd rfl noString
  | float => rfl
  | word => rfl
  | operator =>
    cases cs with
    | nil => rfl
    | cons d cs => simp [lexeme?, operator?, operatorPairs, operatorMarks]
  | mark kind d =>
    have different : d ≠ '"' := by
      rintro rfl
      simp [table] at member
    simp [lexeme?, different.symm]

end Append

end Pattern

/-- **A lexeme is taken again** when a text is continued by one that starts with a blank. -/
theorem firstLexeme?_append {pattern : Pattern} {cs taken later : List Char}
    (found : firstLexeme? cs = some (pattern, taken))
    (kept : pattern ≠ .blanks ∧ pattern ≠ .comment) (ends : StartsBlank later) :
    firstLexeme? (cs ++ later) = some (pattern, taken) := by
  have filled : cs ≠ [] := by
    rintro rfl
    cases found
  unfold firstLexeme? at found ⊢
  rw [List.findSome?_eq_some_iff] at found ⊢
  obtain ⟨earlier, chosen, others, split, chosenTakes, passed⟩ := found
  obtain ⟨whole, takes, same⟩ := Option.map_eq_some_iff.mp chosenTakes
  obtain ⟨rfl, rfl⟩ := Prod.mk.inj same
  refine ⟨earlier, chosen, others, split, ?_, fun pattern before => ?_⟩
  · by_cases isString : chosen = .string
    · subst isString
      rw [Pattern.string_lexeme?_append_of_some takes]
      rfl
    · rw [Pattern.lexeme?_append ends filled kept.1 kept.2 isString, takes]
      rfl
  · have nothing : pattern.lexeme? cs = none := Option.map_eq_none_iff.mp (passed pattern before)
    rw [Option.map_eq_none_iff]
    by_cases isBlanks : pattern = .blanks
    · subst isBlanks
      exact Pattern.blanks_lexeme?_append filled nothing
    by_cases isComment : pattern = .comment
    · subst isComment
      exact Pattern.comment_lexeme?_append ends filled nothing
    by_cases isString : pattern = .string
    · subst isString
      obtain ⟨c, cs, rfl⟩ := List.exists_cons_of_ne_nil filled
      -- an open quote is taken by no other pattern, so there is none
      have noQuote : c ≠ '"' := by
        rintro rfl
        have member : chosen ∈ Pattern.table := by simp [split]
        have noString : chosen ≠ .string := by
          rintro rfl
          rw [nothing] at takes
          cases takes
        rw [Pattern.lexeme?_quote member noString] at takes
        cases takes
      simp [Pattern.lexeme?, noQuote]
    · rw [Pattern.lexeme?_append ends filled isBlanks isComment isString, nothing]

/-! ### Kinds -/

/-- The kind that the scanner gives to a text, if the text is a single lexeme. The keyword that
joins `else` and `if` counts as one. -/
def lexemeKind? (lexeme : String) : Option Token.Kind :=
  if lexeme = "else if" then some .keyword
  else
    match firstLexeme? lexeme.toList with
    | some (pattern, taken) => if taken = lexeme.toList then pattern.kind? taken else none
    | none => none

/-- The keyword that joins `else` and `if` is not taken whole. -/
theorem ne_of_firstLexeme? {lexeme : String} {pattern : Pattern}
    (found : firstLexeme? lexeme.toList = some (pattern, lexeme.toList)) : lexeme ≠ "else if" := by
  rintro rfl
  have first : firstLexeme? "else if".toList = some (.word, "else".toList) := by decide
  rw [first, Option.some.injEq, Prod.mk.injEq] at found
  exact absurd found.2 (by decide)

theorem lexemeKind?_of_firstLexeme? {lexeme : String} {pattern : Pattern} {kind : Token.Kind}
    (found : firstLexeme? lexeme.toList = some (pattern, lexeme.toList))
    (makes : pattern.kind? lexeme.toList = some kind) : lexemeKind? lexeme = some kind := by
  unfold lexemeKind?
  rw [if_neg (ne_of_firstLexeme? found), found]
  simp [makes]

/-- A lexeme that is not the joined keyword is taken whole by a pattern that makes tokens. -/
theorem firstLexeme?_of_lexemeKind? {lexeme : String} {kind : Token.Kind}
    (single : lexeme ≠ "else if") (known : lexemeKind? lexeme = some kind) :
    ∃ pattern, firstLexeme? lexeme.toList = some (pattern, lexeme.toList) ∧
      pattern.kind? lexeme.toList = some kind := by
  unfold lexemeKind? at known
  rw [if_neg single] at known
  split at known
  · rename_i pattern taken found
    split at known
    · rename_i whole
      subst whole
      exact ⟨pattern, found, known⟩
    · cases known
  · cases known

theorem lexemeKind?_name (type : DataType) : lexemeKind? type.name = some .type := by
  cases type <;> decide

section Explicit

variable {c : Char} {cs : List Char}

theorem isBlank_of_continuesWord (continues : continuesWord c = true) : isBlank c = false := by
  rw [Bool.eq_false_iff]
  intro blank
  rw [continuesWord_of_isBlank blank] at continues
  cases continues

theorem ne_of_continuesWord {d : Char} (continues : continuesWord c = true)
    (other : continuesWord d = false) : c ≠ d := by
  rintro rfl
  rw [continues] at other
  cases other

theorem isDigit_of_startsWord (starts : startsWord c = true) : c.isDigit = false := by
  have letters := startsWord_iff.mp starts
  refine Bool.eq_false_iff.mpr fun digit => ?_
  have bounds : 48 ≤ c.toNat ∧ c.toNat ≤ 57 := Char.isDigit_iff_toNat.mp digit
  omega

/-- The first pattern that takes anything, after some that take nothing. -/
theorem firstLexeme?_of_takes (earlier : List Pattern) {behind : List Pattern} {pattern : Pattern}
    {taken : List Char} (split : Pattern.table = earlier ++ pattern :: behind)
    (passed : ∀ other ∈ earlier, other.lexeme? cs = none)
    (takes : pattern.lexeme? cs = some taken) : firstLexeme? cs = some (pattern, taken) := by
  unfold firstLexeme?
  rw [List.findSome?_eq_some_iff]
  refine ⟨earlier, pattern, behind, split, ?_, fun other before => ?_⟩
  · rw [takes]
    rfl
  · rw [passed other before]
    rfl

/-- A letter, a digit or an underscore starts neither blanks nor a comment nor a string. -/
theorem lexeme?_of_continuesWord (continues : continuesWord c = true) :
    ∀ pattern ∈ [Pattern.blanks, .comment, .string], pattern.lexeme? (c :: cs) = none := by
  have noBlank := isBlank_of_continuesWord continues
  have noSlash : c ≠ '/' := ne_of_continuesWord continues rfl
  have noQuote : c ≠ '"' := ne_of_continuesWord continues rfl
  simp [Pattern.lexeme?, Pattern.nonempty?, noBlank, noSlash, noQuote]

theorem firstLexeme?_word (starts : startsWord c = true) (all : ∀ d ∈ cs, continuesWord d = true) :
    firstLexeme? (c :: cs) = some (.word, c :: cs) := by
  have continues : continuesWord c = true := continuesWord_iff.mpr (.inl starts)
  have noDigit := isDigit_of_startsWord starts
  have noPoint : c ≠ '.' := ne_of_continuesWord continues rfl
  have whole : cs.takeWhile continuesWord = cs := List.takeWhile_eq_self_iff.mpr all
  refine firstLexeme?_of_takes ([.blanks, .comment, .string] ++ [.float, .int]) rfl
    (List.forall_mem_append.mpr ⟨lexeme?_of_continuesWord continues, ?_⟩) ?_
  · simp [Pattern.lexeme?, Pattern.float?, Pattern.nonempty?, noDigit, noPoint]
  · simp [Pattern.lexeme?, starts, whole]

theorem firstLexeme?_int (digits : Digits cs) : firstLexeme? cs = some (.int, cs) := by
  obtain ⟨filled, all⟩ := digits
  have whole : cs.takeWhile Char.isDigit = cs := List.takeWhile_eq_self_iff.mpr all
  have nothing : cs.dropWhile Char.isDigit = [] := List.dropWhile_eq_nil_iff.mpr all
  have noFloat : Pattern.float? cs = none := by
    unfold Pattern.float?
    rw [nothing]
  have takes : Pattern.int.lexeme? cs = some cs := by
    simp only [Pattern.lexeme?, whole, Pattern.nonempty?, List.isEmpty_iff, filled, if_false]
  obtain ⟨c, cs, rfl⟩ := List.exists_cons_of_ne_nil filled
  have continues : continuesWord c = true := continuesWord_iff.mpr (.inr (all c List.mem_cons_self))
  refine firstLexeme?_of_takes ([.blanks, .comment, .string] ++ [.float]) rfl
    (List.forall_mem_append.mpr ⟨lexeme?_of_continuesWord continues, ?_⟩) takes
  exact List.forall_mem_singleton.mpr noFloat

/-- Digits, a point and digits are taken for a float, with all digits that follow. -/
theorem float?_of_digits {fraction later : List Char} (digits : Digits cs)
    (fractionDigits : Digits fraction) : Pattern.float? (cs ++ '.' :: (fraction ++ later)) =
      some (cs ++ '.' :: (fraction ++ later).takeWhile Char.isDigit) := by
  obtain ⟨filled, all⟩ := digits
  have stops : ∀ c ∈ ('.' :: (fraction ++ later)).head?, c.isDigit = false := by
    rintro c ⟨⟩
    rfl
  have whole : cs.takeWhile Char.isDigit = cs := List.takeWhile_eq_self_iff.mpr all
  have nothing : cs.dropWhile Char.isDigit = [] := List.dropWhile_eq_nil_iff.mpr all
  unfold Pattern.float?
  rw [takeWhile_append_of_head stops, dropWhile_append_of_head stops, whole, nothing,
    List.nil_append]
  show (if cs.isEmpty || ((fraction ++ later).takeWhile Char.isDigit).isEmpty then none
    else some (cs ++ '.' :: (fraction ++ later).takeWhile Char.isDigit)) = _
  rw [if_neg]
  simp [List.takeWhile_append_of_pos fractionDigits.2, filled, fractionDigits.1]

theorem firstLexeme?_float {fraction : List Char} (digits : Digits cs)
    (fractionDigits : Digits fraction) :
    firstLexeme? (cs ++ '.' :: fraction) = some (.float, cs ++ '.' :: fraction) := by
  have takes : Pattern.float? (cs ++ '.' :: fraction) = some (cs ++ '.' :: fraction) := by
    have whole : fraction.takeWhile Char.isDigit = fraction :=
      List.takeWhile_eq_self_iff.mpr fractionDigits.2
    have float := @float?_of_digits cs fraction [] digits fractionDigits
    rwa [List.append_nil, whole] at float
  obtain ⟨filled, all⟩ := digits
  obtain ⟨c, cs, rfl⟩ := List.exists_cons_of_ne_nil filled
  have continues : continuesWord c = true := continuesWord_iff.mpr (.inr (all c List.mem_cons_self))
  exact firstLexeme?_of_takes [.blanks, .comment, .string] rfl
    (lexeme?_of_continuesWord continues) takes

theorem StringRest.stringRest? (rest : StringRest cs) : Pattern.stringRest? cs = some cs := by
  induction rest with
  | close => rfl
  | escape sameLine _ ih => simp [Pattern.stringRest?, sameLine, ih]
  | plain noQuote noEscape _ ih =>
    rw [Pattern.stringRest?_cons noQuote noEscape, ih]
    rfl

theorem firstLexeme?_string (rest : StringRest cs) :
    firstLexeme? ('"' :: cs) = some (.string, '"' :: cs) := by
  have passed : ∀ pattern ∈ [Pattern.blanks, .comment], pattern.lexeme? ('"' :: cs) = none :=
    fun pattern before => Pattern.lexeme?_quote (by
      revert pattern
      decide) (by
      revert pattern
      decide)
  refine firstLexeme?_of_takes [.blanks, .comment] rfl passed ?_
  show (Pattern.stringRest? cs).map _ = _
  rw [rest.stringRest?]
  rfl

/-- The scanner takes a name for an identifier. -/
theorem lexemeKind?_of_isName {text : String} (name : IsName text) :
    lexemeKind? text = some .identifier := by
  obtain ⟨⟨first, later, spelt, starts, all⟩, free⟩ := name
  have found : firstLexeme? text.toList = some (.word, text.toList) := by
    rw [spelt]
    exact firstLexeme?_word starts all
  have makes : Pattern.kind? .word text.toList = some .identifier := by
    show some (wordKind (String.ofList text.toList)) = _
    rw [String.ofList_toList, wordKind, free]
    rfl
  exact lexemeKind?_of_firstLexeme? found makes

/-- The scanner takes a literal for one of its type. -/
theorem lexemeKind?_of_isLiteral {type : DataType} {text : String} (literal : IsLiteral type text) :
    ∃ kind, literalType? kind = some type ∧ lexemeKind? text = some kind := by
  cases type with
  | int => exact ⟨.int, rfl, lexemeKind?_of_firstLexeme? (firstLexeme?_int literal) rfl⟩
  | float =>
    obtain ⟨whole, fraction, wholeDigits, fractionDigits, spelt⟩ := literal
    have found : firstLexeme? text.toList = some (.float, text.toList) := by
      rw [spelt]
      exact firstLexeme?_float wholeDigits fractionDigits
    exact ⟨.float, rfl, lexemeKind?_of_firstLexeme? found rfl⟩
  | string =>
    obtain ⟨rest, spelling, spelt⟩ := literal
    have found : firstLexeme? text.toList = some (.string, text.toList) := by
      rw [spelt]
      exact firstLexeme?_string spelling
    exact ⟨.string, rfl, lexemeKind?_of_firstLexeme? found rfl⟩
  | boolean =>
    refine ⟨.boolean, rfl, ?_⟩
    rcases literal with rfl | rfl <;> decide
  | char | void | null => exact literal.elim

end Explicit

/-! ### Lexemes by their kinds -/

section Kinds

variable {text : String} {cs taken : List Char} {pattern : Pattern} {kind : Token.Kind}

/-- The first lexeme is taken by a pattern of the table. -/
theorem lexeme?_of_firstLexeme? (found : firstLexeme? cs = some (pattern, taken)) :
    pattern ∈ Pattern.table ∧ pattern.lexeme? cs = some taken := by
  obtain ⟨tried, member, taking⟩ := List.exists_of_findSome?_eq_some found
  obtain ⟨whole, takes, same⟩ := Option.map_eq_some_iff.mp taking
  obtain ⟨rfl, rfl⟩ := Prod.mk.inj same
  exact ⟨member, takes⟩

/-- A lexeme other than a keyword is taken whole by a pattern of the table. -/
theorem exists_lexeme?_of_lexemeKind? (known : lexemeKind? text = some kind)
    (other : kind ≠ .keyword) :
    ∃ pattern ∈ Pattern.table, pattern.lexeme? text.toList = some text.toList ∧
      pattern.kind? text.toList = some kind := by
  have single : text ≠ "else if" := by
    rintro rfl
    have joined : lexemeKind? "else if" = some .keyword := by decide
    rw [joined] at known
    exact other (Option.some.inj known).symm
  obtain ⟨pattern, found, makes⟩ := firstLexeme?_of_lexemeKind? single known
  obtain ⟨member, takes⟩ := lexeme?_of_firstLexeme? found
  exact ⟨pattern, member, takes, makes⟩

theorem mem_reservedWords_of_reservedKind? (reserved : reservedKind? text = some kind) :
    (text, kind) ∈ reservedWords := by
  obtain ⟨before, behind, split, _⟩ := List.lookup_eq_some_iff.mp reserved
  simp [split]

/-- The marks are neither words nor literals. -/
theorem mark_kind_mem {character : Char} (member : Pattern.mark kind character ∈ Pattern.table) :
    kind ∈ [Token.Kind.parenthesis, .brackets, .punctuation] := by
  simp only [Pattern.table, List.mem_cons, reduceCtorEq, Pattern.mark.injEq, false_or,
    List.not_mem_nil, or_false] at member
  rcases member with h | h | h | h | h | h | h | h <;> simp [h.1]

theorem digits_of_nonempty? (found : Pattern.nonempty? (cs.takeWhile Char.isDigit) = some taken) :
    Digits taken := by
  unfold Pattern.nonempty? at found
  split at found
  · cases found
  · rename_i filled
    cases found
    exact ⟨by simpa using filled, fun c member => (List.mem_takeWhile_imp member)⟩

theorem stringRest_of_stringRest? (found : Pattern.stringRest? cs = some taken) :
    StringRest taken := by
  fun_induction Pattern.stringRest? cs generalizing taken with
  | case1 => cases found
  | case2 cs =>
    cases found
    exact .close
  | case3 => cases found
  | case4 => cases found
  | case5 c cs other ih =>
    obtain ⟨inner, innerFound, rfl⟩ := Option.map_eq_some_iff.mp found
    exact .escape other (ih innerFound)
  | case6 c cs noQuote single escaped ih =>
    obtain ⟨inner, innerFound, rfl⟩ := Option.map_eq_some_iff.mp found
    exact .plain noQuote (Pattern.ne_backslash single escaped) (ih innerFound)

theorem exists_of_float? (found : Pattern.float? cs = some taken) :
    ∃ whole fraction, Digits whole ∧ Digits fraction ∧ taken = whole ++ '.' :: fraction := by
  unfold Pattern.float? at found
  split at found
  · rename_i behind _
    dsimp only at found
    split at found
    · cases found
    · rename_i filled
      cases found
      simp only [Bool.or_eq_true, List.isEmpty_iff, not_or] at filled
      exact ⟨_, _, ⟨filled.1, fun c member => List.mem_takeWhile_imp member⟩,
        ⟨filled.2, fun c member => List.mem_takeWhile_imp member⟩, rfl⟩
  · cases found

/-- **The names are the lexemes of identifiers.** -/
theorem isName_iff_lexemeKind? : IsName text ↔ lexemeKind? text = some .identifier := by
  refine ⟨lexemeKind?_of_isName, fun known => ?_⟩
  obtain ⟨pattern, member, takes, makes⟩ := exists_lexeme?_of_lexemeKind? known nofun
  cases pattern with
  | word =>
    refine ⟨?_, ?_⟩
    · cases spelt : text.toList with
      | nil =>
        rw [spelt] at takes
        cases takes
      | cons first later =>
        rw [spelt, Pattern.lexeme?] at takes
        split at takes
        · rename_i starts
          have whole := List.takeWhile_eq_self_iff.mp (List.cons.inj (Option.some.inj takes)).2
          exact ⟨first, later, rfl, starts, whole⟩
        · cases takes
    · have isIdentifier : wordKind text = .identifier := by
        simpa [Pattern.kind?, String.ofList_toList] using makes
      cases reserved : reservedKind? text with
      | none => rfl
      | some kind =>
        have others : ∀ entry ∈ reservedWords, entry.2 ≠ .identifier := by decide
        rw [wordKind, reserved] at isIdentifier
        exact absurd isIdentifier (others _ (mem_reservedWords_of_reservedKind? reserved))
  | mark kind character =>
    have marks := mark_kind_mem member
    cases makes
    simp at marks
  | blanks | comment | string | float | int | operator => cases makes

instance : DecidablePred IsName :=
  fun _ => decidable_of_iff' _ isName_iff_lexemeKind?

/-- **The literals of a type are the lexemes of the kinds that make it.** -/
theorem isLiteral_iff_lexemeKind? {type : DataType} :
    IsLiteral type text ↔ ∃ kind, literalType? kind = some type ∧ lexemeKind? text = some kind := by
  refine ⟨lexemeKind?_of_isLiteral, ?_⟩
  rintro ⟨kind, types, known⟩
  have other : kind ≠ .keyword := by
    rintro rfl
    cases types
  obtain ⟨pattern, member, takes, makes⟩ := exists_lexeme?_of_lexemeKind? known other
  cases pattern with
  | string =>
    cases makes
    cases types
    cases spelt : text.toList with
    | nil =>
      rw [spelt] at takes
      cases takes
    | cons c cs =>
      rw [spelt] at takes
      by_cases quote : c = '"'
      · subst quote
        obtain ⟨inner, found, same⟩ := Option.map_eq_some_iff.mp takes
        obtain rfl := (List.cons.inj same).2
        exact ⟨inner, stringRest_of_stringRest? found, spelt⟩
      · simp [Pattern.lexeme?, quote] at takes
  | float =>
    cases makes
    cases types
    exact exists_of_float? takes
  | int =>
    cases makes
    cases types
    exact digits_of_nonempty? takes
  | word =>
    have isReserved : wordKind text = kind := by
      simpa [Pattern.kind?, String.ofList_toList] using makes
    cases reserved : reservedKind? text with
    | none =>
      rw [wordKind, reserved] at isReserved
      rw [← isReserved] at types
      cases types
    | some kind' =>
      rw [wordKind, reserved] at isReserved
      obtain rfl : kind' = kind := isReserved
      have booleans : ∀ entry ∈ reservedWords, literalType? entry.2 = none ∨
          literalType? entry.2 = some .boolean ∧ (entry.1 = "true" ∨ entry.1 = "false") := by
        decide
      rcases booleans _ (mem_reservedWords_of_reservedKind? reserved) with untyped | ⟨boolean, word⟩
      · rw [untyped] at types
        cases types
      · rw [boolean] at types
        cases types
        exact word
  | mark kind character =>
    have marks := mark_kind_mem member
    cases makes
    have untyped : ∀ mark ∈ [Token.Kind.parenthesis, .brackets, .punctuation],
        literalType? mark = none := by decide
    rw [untyped _ marks] at types
    cases types
  | operator =>
    cases makes
    cases types
  | blanks | comment => cases makes

instance {type : DataType} : DecidablePred (IsLiteral type) :=
  fun text => decidable_of_iff ((lexemeKind? text).bind literalType? = some type) (by
    rw [isLiteral_iff_lexemeKind?, Option.bind_eq_some_iff]
    exact exists_congr fun _ => and_comm)

/-- The operators. -/
def operatorTexts : List (List Char) :=
  Pattern.operatorPairs.map (fun pair => [pair.1, pair.2]) ++ Pattern.operatorMarks.map ([·])

theorem mem_operatorTexts (found : Pattern.operator? cs = some taken) : taken ∈ operatorTexts := by
  unfold Pattern.operator? at found
  unfold operatorTexts
  split at found
  · cases found
  · split at found <;> cases found
    rename_i c single
    exact List.mem_append_right _ (List.mem_map.mpr ⟨c, single, rfl⟩)
  · rename_i c d cs
    split at found
    · rename_i paired
      cases found
      exact List.mem_append_left _ (List.mem_map.mpr ⟨(c, d), paired, rfl⟩)
    · split at found <;> cases found
      rename_i single
      exact List.mem_append_right _ (List.mem_map.mpr ⟨c, single, rfl⟩)

/-- **What is taken for a lexeme in a text is a lexeme on its own.** -/
theorem firstLexeme?_self (found : firstLexeme? cs = some (pattern, taken))
    (kept : pattern ≠ .blanks ∧ pattern ≠ .comment) :
    firstLexeme? taken = some (pattern, taken) := by
  obtain ⟨member, takes⟩ := lexeme?_of_firstLexeme? found
  cases pattern with
  | blanks => exact absurd rfl kept.1
  | comment => exact absurd rfl kept.2
  | string =>
    cases cs with
    | nil => cases takes
    | cons c cs =>
      by_cases quote : c = '"'
      · subst quote
        obtain ⟨inner, innerFound, rfl⟩ := Option.map_eq_some_iff.mp takes
        exact firstLexeme?_string (stringRest_of_stringRest? innerFound)
      · simp [Pattern.lexeme?, quote] at takes
  | float =>
    obtain ⟨_, _, digits, fraction, rfl⟩ := exists_of_float? takes
    exact firstLexeme?_float digits fraction
  | int => exact firstLexeme?_int (digits_of_nonempty? takes)
  | word =>
    cases cs with
    | nil => cases takes
    | cons c cs =>
      rw [Pattern.lexeme?] at takes
      split at takes
      · rename_i starts
        cases takes
        exact firstLexeme?_word starts fun d member => List.mem_takeWhile_imp member
      · cases takes
  | operator =>
    have operators : ∀ text ∈ operatorTexts, firstLexeme? text = some (.operator, text) := by decide
    exact operators _ (mem_operatorTexts takes)
  | mark kind character =>
    have marks : ∀ pattern ∈ Pattern.table, ∀ kind character, pattern = .mark kind character →
        firstLexeme? [character] = some (pattern, [character]) := by
      simp [Pattern.table]
      decide
    cases cs with
    | nil => cases takes
    | cons c cs =>
      rw [Pattern.lexeme?] at takes
      split at takes
      · rename_i same
        cases takes
        subst same
        exact marks _ member kind _ rfl
      · cases takes

end Kinds

/-! ### Tokens of lexemes -/

/-- The token has the lexeme, and the kind that the scanner gives to it. -/
def Token.Carries (token : Token) (lexeme : String) : Prop :=
  token.lexeme = lexeme ∧ lexemeKind? lexeme = some token.kind

/-- The tokens carry the lexemes, in order. -/
abbrev Carry (tokens : List Token) (lexemes : List String) : Prop :=
  List.Forall₂ Token.Carries tokens lexemes

theorem carry_append_iff {tokens : List Token} {first later : List String} :
    Carry tokens (first ++ later) ↔
      ∃ before behind, tokens = before ++ behind ∧ Carry before first ∧ Carry behind later := by
  constructor
  · intro carried
    refine ⟨tokens.take first.length, tokens.drop first.length, (List.take_append_drop _ _).symm,
      List.forall₂_take_append _ _ _ carried, List.forall₂_drop_append _ _ _ carried⟩
  · rintro ⟨before, behind, rfl, head, tail⟩
    exact List.rel_append head tail

theorem carry_cons_iff {tokens : List Token} {lexeme : String} {later : List String} :
    Carry tokens (lexeme :: later) ↔
      ∃ token behind, tokens = token :: behind ∧ token.Carries lexeme ∧ Carry behind later := by
  refine List.forall₂_cons_right_iff.trans ⟨?_, ?_⟩
  · rintro ⟨token, behind, head, tail, rfl⟩
    exact ⟨token, behind, rfl, head, tail⟩
  · rintro ⟨token, behind, rfl, head, tail⟩
    exact ⟨token, behind, head, tail, rfl⟩

theorem carry_singleton_iff {tokens : List Token} {lexeme : String} :
    Carry tokens [lexeme] ↔ ∃ token, tokens = [token] ∧ token.Carries lexeme := by
  simp [carry_cons_iff]

theorem carry_nil_iff {tokens : List Token} : Carry tokens [] ↔ tokens = [] :=
  List.forall₂_nil_right_iff

/-- The token that the scanner makes from a lexeme at the start of a text. -/
def Token.ofLexeme (lexeme : String) : Token :=
  ⟨(lexemeKind? lexeme).getD .identifier, lexeme, .start⟩

theorem carry_map_ofLexeme {lexemes : List String}
    (known : ∀ lexeme ∈ lexemes, (lexemeKind? lexeme).isSome = true) :
    Carry (lexemes.map Token.ofLexeme) lexemes := by
  rw [Carry, List.forall₂_map_left_iff, List.forall₂_same]
  intro lexeme member
  obtain ⟨kind, is⟩ := Option.isSome_iff_exists.mp (known lexeme member)
  refine ⟨rfl, ?_⟩
  rw [is, Token.ofLexeme, is]
  rfl

theorem Token.Carries.kind_eq {token : Token} {lexeme : String} {kind : Token.Kind}
    (carries : token.Carries lexeme) (known : lexemeKind? lexeme = some kind) :
    token.kind = kind :=
  Option.some.inj (carries.2.symm.trans known)

end TypedImp
