/-
**The patterns as regular expressions.**

Each lexical pattern is a regular expression at the front of a text. What it takes is the first
match of its expression, although it is found without backtracking: a run of characters goes on as
long as it can, a fraction fits behind one run of digits only, and the closing quote behind one body
of a string. This first match is also the longest string of the pattern at the front of the text.

* `Pattern.regex` — the regular expression of a pattern.
* `Pattern.lexeme?_eq_first?` — **a pattern takes the first match of its expression.**
* `Pattern.mem_comment`, `Pattern.mem_float`, … — the strings of the patterns.
* `Pattern.length_le_of_lexeme?` — **no string of the pattern at the front is longer.**
-/

import TypedImp.Proofs.Lexemes
import TypedImp.Proofs.Regex

namespace TypedImp

open Text (isBlank)
open Pattern (startsWord continuesWord)

namespace Pattern

/-! ### Patterns as regular expressions -/

/-- The expression `\\.|[^"\\]`: what may stand in a string. -/
def stringItem : Regex :=
  .alt (.seq (.char (· == '\\')) (.char (· != '\n'))) (.char fun c => c != '"' && c != '\\')

/-- The expression `\.[0-9]+`: a point and digits. -/
def fractionRegex : Regex :=
  .seq (.char (· == '.')) (.run Char.isDigit Char.isDigit)

/-- The alternatives `==`, `!=`, and so on: the operators of two characters. -/
def pairRegex (pair : Char × Char) : Regex :=
  .seq (.char (· == pair.1)) (.char (· == pair.2))

/-- The regular expression of a pattern, at the front of a text. -/
def regex : Pattern → Regex
  -- `\s+`
  | blanks => .run isBlank isBlank
  -- `//[^\n]*`
  | comment => .seq (.char (· == '/')) (.seq (.char (· == '/')) (.star (.char (· != '\n'))))
  -- `"(\\.|[^"\\])*"`
  | string => .seq (.char (· == '"')) (.seq (.star stringItem) (.char (· == '"')))
  -- `[0-9]+\.[0-9]+`
  | float => .seq (.run Char.isDigit Char.isDigit) fractionRegex
  -- `[0-9]+`
  | int => .run Char.isDigit Char.isDigit
  -- `[a-zA-Z_][a-zA-Z0-9_]*`
  | word => .run startsWord continuesWord
  -- `==|!=|<=|>=|\+=|-=|\*=|/=|&&|\|\||\+\+|--|[-+*/%^<>=!]`
  | operator => .alts (operatorPairs.map pairRegex ++ [.char (· ∈ operatorMarks)])
  -- the character itself
  | mark _ character => .char (· == character)

/-! ### What a pattern takes -/

section Takes

variable {cs : List Char}

theorem eq_of_nonempty? {found taken : List Char} (is : nonempty? found = some taken) :
    found = taken := by
  unfold nonempty? at is
  split at is
  · cases is
  · exact Option.some.inj is

theorem drop_length_takeWhile {p : Char → Bool} :
    cs.drop (cs.takeWhile p).length = cs.dropWhile p := by
  have whole : cs.takeWhile p ++ cs.dropWhile p = cs := List.takeWhile_append_dropWhile
  conv => lhs; arg 2; rw [← whole]
  rw [List.drop_left]

/-- A run of one class of characters is the first match of its expression. -/
theorem nonempty?_takeWhile {p : Char → Bool} :
    nonempty? (cs.takeWhile p) = (Regex.run p p).first? cs := by
  cases cs with
  | nil => exact Regex.first?_run_nil.symm
  | cons c cs =>
    rw [Regex.first?_run_cons]
    by_cases holds : p c = true
    · rw [List.takeWhile_cons_of_pos holds, if_pos holds]
      rfl
    · rw [List.takeWhile_cons_of_neg holds, if_neg holds]
      rfl

/-- Where no repetition is possible, only a quote that follows at once closes the string. -/
theorem firstWith?_repeats_of_nil {bound : Nat} (nothing : stringItem.splits cs = []) :
    Regex.firstWith? (.char (· == '"')) (Regex.repeats stringItem.splits bound cs) =
      (Regex.char (· == '"')).first? cs := by
  have single : Regex.repeats stringItem.splits bound cs = [([], cs)] := by
    cases bound with
    | zero => rfl
    | succ bound =>
      rw [Regex.repeats, nothing]
      rfl
  rw [single, Regex.firstWith?_singleton]
  cases (Regex.char (· == '"')).first? cs <;> rfl

/-- Where a repetition is possible, no quote follows at once, and the string goes on behind it. -/
theorem firstWith?_repeats_of_singleton {bound : Nat} {item rest : List Char}
    (one : stringItem.splits cs = [(item, rest)]) (filled : item ≠ [])
    (open' : (Regex.char (· == '"')).first? cs = none) :
    Regex.firstWith? (.char (· == '"')) (Regex.repeats stringItem.splits (bound + 1) cs) =
      (Regex.firstWith? (.char (· == '"')) (Regex.repeats stringItem.splits bound rest)).map
        (item ++ ·) := by
  have kept : [(item, rest)].filter (!·.1.isEmpty) = [(item, rest)] := by simp [filled]
  rw [Regex.repeats, one, kept, List.flatMap_singleton, Regex.firstWith?_append,
    Regex.firstWith?_extend, Regex.firstWith?_singleton, open', Option.map_none, Option.or_none]

/-- The repetitions inside a string never stop early: the closing quote fits behind one of them. -/
theorem firstWith?_repeats_stringItem {bound : Nat} (short : cs.length ≤ bound) :
    Regex.firstWith? (.char (· == '"')) (Regex.repeats stringItem.splits bound cs) =
      stringRest? cs := by
  fun_induction stringRest? cs generalizing bound with
  | case1 => exact firstWith?_repeats_of_nil rfl
  | case2 cs => exact firstWith?_repeats_of_nil rfl
  | case3 => exact firstWith?_repeats_of_nil rfl
  | case4 cs => exact firstWith?_repeats_of_nil rfl
  | case5 c cs other ih =>
    obtain ⟨bound, rfl⟩ := Nat.exists_eq_add_one.mpr (Nat.lt_of_lt_of_le (Nat.succ_pos _) short)
    have one : stringItem.splits ('\\' :: c :: cs) = [(['\\', c], cs)] := by
      simp [stringItem, Regex.splits, Regex.extend, other]
    rw [firstWith?_repeats_of_singleton one (by simp) rfl]
    rw [ih (by simp at short; omega)]
    rfl
  | case6 c cs noQuote single escaped ih =>
    obtain ⟨bound, rfl⟩ := Nat.exists_eq_add_one.mpr (Nat.lt_of_lt_of_le (Nat.succ_pos _) short)
    have noEscape : c ≠ '\\' := ne_backslash single escaped
    have noClose : c ≠ '"' := noQuote
    have one : stringItem.splits (c :: cs) = [([c], cs)] := by
      simp [stringItem, Regex.splits, noEscape, noClose]
    rw [firstWith?_repeats_of_singleton one (by simp) ?_]
    · rw [ih (by simp at short; omega)]
      rfl
    · rw [Regex.first?_char_cons, if_neg (by simpa using noClose)]

theorem first?_string : string.lexeme? cs = string.regex.first? cs := by
  cases cs with
  | nil => exact Regex.first?_seq_char_nil.symm
  | cons c cs =>
    rw [regex, Regex.first?_seq_char_cons, Regex.first?_seq, Regex.splits,
      firstWith?_repeats_stringItem (Nat.le_refl _)]
    by_cases quote : c = '"'
    · subst quote
      rfl
    · simp [lexeme?, quote]

theorem first?_comment : comment.lexeme? cs = comment.regex.first? cs := by
  match cs with
  | [] => exact Regex.first?_seq_char_nil.symm
  | [c] =>
    rw [regex, Regex.first?_seq_char_cons, Regex.first?_seq_char_nil]
    simp [lexeme?]
  | c :: d :: cs =>
    rw [regex, Regex.first?_seq_char_cons, Regex.first?_seq_char_cons, Regex.first?_star_char]
    by_cases slashes : c = '/' ∧ d = '/'
    · obtain ⟨rfl, rfl⟩ := slashes
      rfl
    · have nothing : comment.lexeme? (c :: d :: cs) = none := by
        rw [lexeme?]
        rintro later ⟨⟩
        exact slashes ⟨rfl, rfl⟩
      rw [nothing]
      simp only [not_and] at slashes
      by_cases slash : c = '/'
      · simp [slash, slashes slash]
      · simp [slash]

/-- Behind digits a fraction fits in one place only. -/
theorem forced_fraction {digits rest : List Char}
    (inLanguage : digits ∈ (Regex.run Char.isDigit Char.isDigit).language)
    (fits : (fractionRegex.first? rest).isSome = true) :
    (Regex.run Char.isDigit Char.isDigit).first? (digits ++ rest) = some digits := by
  obtain ⟨c, later, rfl, passes, all⟩ := Regex.mem_run.mp inLanguage
  have stops : ∀ d ∈ rest.head?, d.isDigit = false := by
    cases rest with
    | nil => nofun
    | cons point behind =>
      rw [fractionRegex, Regex.first?_seq_char_cons] at fits
      split at fits
      · rename_i isPoint
        rintro _ ⟨⟩
        rw [beq_iff_eq.mp isPoint]
        rfl
      · cases fits
  rw [List.cons_append, Regex.first?_run_cons, if_pos passes, takeWhile_append_of_head stops,
    List.takeWhile_eq_self_iff.mpr all]

/-- A float is a run of digits and a fraction behind it. -/
theorem float?_eq : float? cs = (nonempty? (cs.takeWhile Char.isDigit)).bind fun whole =>
    (fractionRegex.first? (cs.dropWhile Char.isDigit)).map (whole ++ ·) := by
  unfold float?
  generalize cs.takeWhile Char.isDigit = whole
  generalize cs.dropWhile Char.isDigit = rest
  match rest with
  | [] => cases whole <;> rfl
  | c :: behind =>
    rw [fractionRegex, Regex.first?_seq_char_cons, ← nonempty?_takeWhile]
    by_cases point : c = '.'
    · subst point
      show (if whole.isEmpty || (behind.takeWhile Char.isDigit).isEmpty then none
        else some (whole ++ '.' :: behind.takeWhile Char.isDigit)) = _
      generalize behind.takeWhile Char.isDigit = fraction
      cases whole <;> cases fraction <;> rfl
    · cases whole <;> simp [nonempty?, point]

theorem first?_float : float.lexeme? cs = float.regex.first? cs := by
  have forced : float.regex.first? cs = ((Regex.run Char.isDigit Char.isDigit).first? cs).bind
      fun run => (fractionRegex.first? (cs.drop run.length)).map (run ++ ·) := by
    refine Regex.first?_seq_of_forced ?_
    rintro run rest inLanguage rfl fits
    exact forced_fraction inLanguage fits
  rw [forced, ← nonempty?_takeWhile]
  refine float?_eq.trans (Option.bind_congr fun whole taken => ?_)
  obtain rfl := eq_of_nonempty? taken
  rw [drop_length_takeWhile]

theorem findSome?_pairRegex {pairs : List (Char × Char)} {c d : Char} :
    pairs.findSome? (fun pair => (pairRegex pair).first? (c :: d :: cs)) =
      if (c, d) ∈ pairs then some [c, d] else none := by
  induction pairs with
  | nil => rfl
  | cons pair pairs ih =>
    rw [List.findSome?_cons, pairRegex, Regex.first?_seq_char_cons, Regex.first?_char_cons, ih]
    obtain ⟨first, second⟩ := pair
    by_cases isFirst : c = first <;> by_cases isSecond : d = second <;>
      simp [isFirst, isSecond]

theorem first?_operator : operator.lexeme? cs = operator.regex.first? cs := by
  show operator? cs = _
  rw [regex, Regex.first?_alts, List.findSome?_append, List.findSome?_map, List.findSome?_singleton]
  match cs with
  | [] =>
    have noPair : ∀ pair ∈ operatorPairs, (pairRegex pair).first? [] = none :=
      fun _ _ => Regex.first?_seq_char_nil
    show _ = (operatorPairs.findSome? fun pair => (pairRegex pair).first? []).or none
    rw [List.findSome?_eq_none_iff.mpr noPair]
    rfl
  | [c] =>
    have noPair : ∀ pair ∈ operatorPairs, (pairRegex pair).first? [c] = none := by
      intro pair _
      rw [pairRegex, Regex.first?_seq_char_cons]
      split <;> rfl
    show _ = (operatorPairs.findSome? fun pair => (pairRegex pair).first? [c]).or _
    rw [List.findSome?_eq_none_iff.mpr noPair, Regex.first?_char_cons, operator?]
    simp
  | c :: d :: cs =>
    rw [Regex.first?_char_cons]
    show _ = (operatorPairs.findSome? fun pair => (pairRegex pair).first? (c :: d :: cs)).or _
    rw [findSome?_pairRegex, operator?]
    split <;> simp

/-- **A pattern takes the first match of its expression.** -/
theorem lexeme?_eq_first? (pattern : Pattern) : pattern.lexeme? cs = pattern.regex.first? cs := by
  cases pattern with
  | blanks | int => exact nonempty?_takeWhile
  | comment => exact first?_comment
  | string => exact first?_string
  | float => exact first?_float
  | word =>
    cases cs with
    | nil => exact Regex.first?_run_nil.symm
    | cons c cs => exact Regex.first?_run_cons.symm
  | operator => exact first?_operator
  | mark kind character =>
    cases cs with
    | nil => rfl
    | cons c cs =>
      rw [regex, Regex.first?_char_cons]
      simp [lexeme?]

end Takes

/-! ### The strings of a pattern -/

section Strings

variable {string : List Char}

theorem mem_digits : string ∈ (Regex.run Char.isDigit Char.isDigit).language ↔ Digits string := by
  rw [Regex.mem_run]
  constructor
  · rintro ⟨c, later, rfl, first, all⟩
    exact ⟨by simp, List.forall_mem_cons.mpr ⟨first, all⟩⟩
  · rintro ⟨filled, all⟩
    obtain ⟨c, later, rfl⟩ := List.exists_cons_of_ne_nil filled
    obtain ⟨first, others⟩ := List.forall_mem_cons.mp all
    exact ⟨c, later, rfl, first, others⟩

theorem mem_comment : string ∈ comment.regex.language ↔
    ∃ text, string = '/' :: '/' :: text ∧ ∀ c ∈ text, (c != '\n') = true := by
  simp only [regex, Regex.mem_seq_char, Regex.mem_star_char]
  simp

theorem mem_float : string ∈ float.regex.language ↔
    ∃ whole fraction, Digits whole ∧ Digits fraction ∧ string = whole ++ '.' :: fraction := by
  show string ∈ (Regex.run Char.isDigit Char.isDigit).language * fractionRegex.language ↔ _
  simp only [Language.mem_mul, fractionRegex, Regex.mem_seq_char, mem_digits]
  constructor
  · rintro ⟨whole, wholeDigits, _, ⟨point, fraction, rfl, is, fractionDigits⟩, rfl⟩
    exact ⟨whole, fraction, wholeDigits, fractionDigits, by rw [beq_iff_eq.mp is]⟩
  · rintro ⟨whole, fraction, wholeDigits, fractionDigits, rfl⟩
    exact ⟨whole, wholeDigits, _, ⟨'.', fraction, rfl, rfl, fractionDigits⟩, rfl⟩

theorem mem_stringItem : string ∈ stringItem.language ↔
    (∃ c, c ≠ '\n' ∧ string = ['\\', c]) ∨ ∃ c, c ≠ '"' ∧ c ≠ '\\' ∧ string = [c] := by
  show string ∈ Regex.language (.seq _ _) + Regex.language (.char _) ↔ _
  rw [Language.mem_add, Regex.mem_seq_char]
  refine or_congr ?_ ?_
  · constructor
    · rintro ⟨_, _, rfl, escape, c, other, rfl⟩
      exact ⟨c, by simpa using other, by rw [beq_iff_eq.mp escape]⟩
    · rintro ⟨c, other, rfl⟩
      exact ⟨_, _, rfl, rfl, c, by simpa using other, rfl⟩
  · constructor
    · rintro ⟨c, plain, rfl⟩
      have both : c ≠ '"' ∧ c ≠ '\\' := by simpa using plain
      exact ⟨c, both.1, both.2, rfl⟩
    · rintro ⟨c, noQuote, noEscape, rfl⟩
      exact ⟨c, by simp [noQuote, noEscape], rfl⟩

/-- What follows the opening quote, as the expression has it. -/
theorem mem_stringRest : string ∈ (Regex.seq (.star stringItem) (.char (· == '"'))).language ↔
    StringRest string := by
  show string ∈ Regex.language (.star stringItem) * Regex.language (.char (· == '"')) ↔ _
  rw [Language.mem_mul]
  constructor
  · rintro ⟨_, ⟨pieces, rfl, all⟩, _, ⟨c, is, rfl⟩, rfl⟩
    obtain rfl := beq_iff_eq.mp is
    induction pieces with
    | nil => exact .close
    | cons piece pieces ih =>
      obtain ⟨item, others⟩ := List.forall_mem_cons.mp all
      rw [List.flatten_cons, List.append_assoc]
      rcases mem_stringItem.mp item with ⟨c, sameLine, rfl⟩ | ⟨c, noQuote, noEscape, rfl⟩
      · exact .escape sameLine (ih others)
      · exact .plain noQuote noEscape (ih others)
  · intro rest
    induction rest with
    | close => exact ⟨[], ⟨[], rfl, nofun⟩, ['"'], ⟨'"', rfl, rfl⟩, rfl⟩
    | @escape c cs sameLine _ ih =>
      obtain ⟨_, ⟨pieces, rfl, all⟩, last, closes, rfl⟩ := ih
      have item : ['\\', c] ∈ stringItem.language := mem_stringItem.mpr (.inl ⟨c, sameLine, rfl⟩)
      exact ⟨_, ⟨['\\', c] :: pieces, rfl, List.forall_mem_cons.mpr ⟨item, all⟩⟩, last, closes, rfl⟩
    | @plain c cs noQuote noEscape _ ih =>
      obtain ⟨_, ⟨pieces, rfl, all⟩, last, closes, rfl⟩ := ih
      have item : [c] ∈ stringItem.language :=
        mem_stringItem.mpr (.inr ⟨c, noQuote, noEscape, rfl⟩)
      exact ⟨_, ⟨[c] :: pieces, rfl, List.forall_mem_cons.mpr ⟨item, all⟩⟩, last, closes, rfl⟩

theorem mem_string : string ∈ Pattern.string.regex.language ↔
    ∃ rest, string = '"' :: rest ∧ StringRest rest := by
  simp only [regex, Regex.mem_seq_char, mem_stringRest]
  simp

theorem mem_pairRegex {pair : Char × Char} :
    string ∈ (pairRegex pair).language ↔ string = [pair.1, pair.2] := by
  rw [pairRegex, Regex.mem_seq_char]
  constructor
  · rintro ⟨_, _, rfl, first, c, second, rfl⟩
    rw [beq_iff_eq.mp first, beq_iff_eq.mp second]
  · rintro rfl
    exact ⟨_, _, rfl, beq_self_eq_true _, _, beq_self_eq_true _, rfl⟩

theorem mem_operator : string ∈ operator.regex.language ↔ string ∈ operatorTexts := by
  rw [regex, Regex.mem_alts, operatorTexts, List.mem_append]
  constructor
  · rintro ⟨inner, member, inLanguage⟩
    rcases List.mem_append.mp member with pairs | marks
    · obtain ⟨pair, listed, rfl⟩ := List.mem_map.mp pairs
      exact .inl (List.mem_map.mpr ⟨pair, listed, (mem_pairRegex.mp inLanguage).symm⟩)
    · obtain rfl := List.mem_singleton.mp marks
      obtain ⟨c, listed, rfl⟩ := inLanguage
      exact .inr (List.mem_map.mpr ⟨c, of_decide_eq_true listed, rfl⟩)
  · rintro (pairs | marks)
    · obtain ⟨pair, listed, rfl⟩ := List.mem_map.mp pairs
      exact ⟨_, List.mem_append_left _ (List.mem_map_of_mem listed), mem_pairRegex.mpr rfl⟩
    · obtain ⟨c, listed, rfl⟩ := List.mem_map.mp marks
      exact ⟨_, List.mem_append_right _ (List.mem_singleton_self _), c, decide_eq_true listed, rfl⟩

end Strings

/-! ### The longest string of one pattern -/

section Longest

variable {cs lexeme string : List Char}

/-- **What a pattern takes is the longest of its strings** at the front of the text. -/
theorem length_le_of_lexeme? {pattern : Pattern} (found : pattern.lexeme? cs = some lexeme)
    (inLanguage : string ∈ pattern.regex.language) (front : string <+: cs) :
    string.length ≤ lexeme.length := by
  have positive : 0 < lexeme.length := List.length_pos_iff.mpr (front_of_lexeme? found).1
  cases pattern with
  | blanks | int | word =>
    rw [lexeme?_eq_first?] at found
    exact Regex.length_le_of_first?_run found inLanguage front
  | comment =>
    obtain ⟨text, rfl, oneLine⟩ := mem_comment.mp inLanguage
    obtain ⟨rest, rfl⟩ := front
    cases found
    exact Nat.add_le_add_right (Regex.length_le_takeWhile oneLine) 2
  | string =>
    obtain ⟨closed, rfl, isRest⟩ := mem_string.mp inLanguage
    obtain ⟨rest, rfl⟩ := front
    have same : some ('"' :: closed) = some lexeme := by
      rw [← found, List.cons_append, lexeme?, stringRest?_append_of_some isRest.stringRest?]
      rfl
    cases same
    exact Nat.le_refl _
  | float =>
    obtain ⟨whole, fraction, wholeDigits, fractionDigits, rfl⟩ := mem_float.mp inLanguage
    obtain ⟨rest, rfl⟩ := front
    rw [List.append_assoc, List.cons_append, lexeme?,
      float?_of_digits wholeDigits fractionDigits, Option.some.injEq] at found
    rw [← found, List.length_append, List.length_append]
    exact Nat.add_le_add_left (Nat.succ_le_succ (Regex.length_le_takeWhile fractionDigits.2)) _
  | operator =>
    rcases List.mem_append.mp (mem_operator.mp inLanguage) with pairs | marks
    · obtain ⟨⟨c, d⟩, listed, rfl⟩ := List.mem_map.mp pairs
      obtain ⟨rest, rfl⟩ := front
      have same : some [c, d] = some lexeme := by
        rw [← found]
        exact (if_pos listed).symm
      cases same
      exact Nat.le_refl _
    · obtain ⟨c, _, rfl⟩ := List.mem_map.mp marks
      exact positive
  | mark kind character =>
    obtain ⟨c, _, rfl⟩ := inLanguage
    exact positive

end Longest

end Pattern

end TypedImp
