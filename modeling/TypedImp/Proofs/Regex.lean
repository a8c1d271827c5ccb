/-
**Regular expressions and what they match first.**

A regular expression describes a language. A matcher that backtracks tries the matches at the front
of a text in an order of preference: the first of two alternatives before the second, and a further
repetition before none. It takes the match that comes first in this order, which need not be the
longest.

* `Regex.language` — the strings that an expression describes.
* `Regex.splits` — a text is split into a match and what is left, in the order of preference.
* `mem_splits` — **just the strings of the language at the front of the text are tried.**
* `Regex.first?` — the match that is taken, if there is any (`first?_eq_none_iff`).
* `first?_seq_of_forced` — a sequence is matched without backtracking if its second part fits behind
  one match of the first only.
-/

import Mathlib.Computability.Language
import Mathlib.Data.List.Infix

namespace TypedImp

open Computability

/-- A regular expression over characters. A class of characters is given by its test. -/
inductive Regex
  | char (test : Char → Bool)
  | seq (first second : Regex)
  | alt (first second : Regex)
  | star (inner : Regex)

namespace Regex

/-- The strings that the expression describes. -/
def language : Regex → Language Char
  | char test => {string | ∃ c, test c = true ∧ string = [c]}
  | seq first second => first.language * second.language
  | alt first second => first.language + second.language
  | star inner => inner.language∗

/-- Puts a run of characters before the match of each split. -/
def extend (run : List Char) (splits : List (List Char × List Char)) :
    List (List Char × List Char) :=
  splits.map fun split => (run ++ split.1, split.2)

/-- Repeats what `inner` matches, unless it is nothing, as often as possible and at most `bound`
times. -/
def repeats (inner : List Char → List (List Char × List Char)) :
    (bound : Nat) → List Char → List (List Char × List Char)
  | 0, cs => [([], cs)]
  | bound + 1, cs =>
    ((inner cs).filter (!·.1.isEmpty)).flatMap
      (fun split => extend split.1 (repeats inner bound split.2)) ++ [([], cs)]

/-- The ways to split a text into a match and what is left, in the order of preference. -/
def splits : Regex → List Char → List (List Char × List Char)
  | char test, c :: cs => if test c then [([c], cs)] else []
  | char _, [] => []
  | seq first second, cs =>
    (first.splits cs).flatMap fun split => extend split.1 (second.splits split.2)
  | alt first second, cs => first.splits cs ++ second.splits cs
  | star inner, cs => repeats inner.splits cs.length cs

/-- The match that comes first in the order of preference. -/
def first? (regex : Regex) (cs : List Char) : Option (List Char) :=
  (regex.splits cs).head?.map (·.1)

/-! ### What is tried -/

theorem mem_extend {run : List Char} {splits : List (List Char × List Char)}
    {split : List Char × List Char} :
    split ∈ extend run splits ↔ ∃ inner, (inner, split.2) ∈ splits ∧ run ++ inner = split.1 := by
  simp only [extend, List.mem_map]
  constructor
  · rintro ⟨⟨inner, rest⟩, member, rfl⟩
    exact ⟨inner, member, rfl⟩
  · rintro ⟨inner, member, same⟩
    exact ⟨(inner, split.2), member, Prod.ext same rfl⟩

/-- The repetitions that are tried are all strings of repeated matches at the front of the text. -/
theorem mem_repeats {inner : List Char → List (List Char × List Char)} {language : Language Char}
    (each : ∀ cs split, split ∈ inner cs ↔ split.1 ∈ language ∧ split.1 ++ split.2 = cs)
    {bound : Nat} {cs : List Char} (short : cs.length ≤ bound) {split : List Char × List Char} :
    split ∈ repeats inner bound cs ↔ split.1 ∈ language∗ ∧ split.1 ++ split.2 = cs := by
  induction bound generalizing cs split with
  | zero =>
    obtain rfl := List.length_eq_zero_iff.mp (Nat.le_zero.mp short)
    rw [repeats, List.mem_singleton]
    constructor
    · rintro rfl
      exact ⟨Language.nil_mem_kstar _, rfl⟩
    · rintro ⟨_, whole⟩
      exact Prod.ext (List.append_eq_nil_iff.mp whole).1 (List.append_eq_nil_iff.mp whole).2
  | succ bound ih =>
    simp only [repeats, List.mem_append, List.mem_flatMap, List.mem_filter, List.mem_singleton,
      Bool.not_eq_true', List.isEmpty_eq_false_iff]
    constructor
    · rintro (⟨head, ⟨member, filled⟩, further⟩ | rfl)
      · obtain ⟨inLanguage, rfl⟩ := (each cs head).mp member
        obtain ⟨later, tried, same⟩ := mem_extend.mp further
        have positive : 0 < head.1.length := List.length_pos_iff.mpr filled
        rw [List.length_append] at short
        obtain ⟨repeated, whole⟩ := (ih (by omega)).mp tried
        obtain ⟨pieces, rfl, all⟩ := repeated
        refine ⟨⟨head.1 :: pieces, same.symm, List.forall_mem_cons.mpr ⟨inLanguage, all⟩⟩, ?_⟩
        rw [← same, List.append_assoc, whole]
      · exact ⟨Language.nil_mem_kstar _, rfl⟩
    · rintro ⟨repeated, rfl⟩
      obtain ⟨pieces, whole, all⟩ := Language.mem_kstar_iff_exists_nonempty.mp repeated
      cases pieces with
      | nil => exact .inr (Prod.ext whole (by rw [whole]; rfl))
      | cons head pieces =>
        obtain ⟨⟨inLanguage, filled⟩, others⟩ := List.forall_mem_cons.mp all
        rw [List.flatten_cons] at whole
        have positive : 0 < head.length := List.length_pos_iff.mpr filled
        rw [whole, List.append_assoc, List.length_append] at short
        have shorter : (pieces.flatten ++ split.2).length ≤ bound := by omega
        refine .inl ⟨(head, pieces.flatten ++ split.2), ⟨?_, filled⟩,
          mem_extend.mpr ⟨pieces.flatten, ?_, whole.symm⟩⟩
        · exact (each _ _).mpr ⟨inLanguage, by rw [whole, List.append_assoc]⟩
        · exact (ih shorter).mpr ⟨⟨pieces, rfl, fun piece member => (others piece member).1⟩, rfl⟩

/-- **What is tried is just what the language has at the front of the text.** -/
theorem mem_splits {regex : Regex} {cs : List Char} {split : List Char × List Char} :
    split ∈ regex.splits cs ↔ split.1 ∈ regex.language ∧ split.1 ++ split.2 = cs := by
  induction regex generalizing cs split with
  | char test =>
    have inLanguage : ∀ string, string ∈ (char test).language ↔ ∃ c, test c = true ∧ string = [c] :=
      fun _ => Iff.rfl
    rw [inLanguage]
    cases cs with
    | nil =>
      simp only [splits, List.not_mem_nil, false_iff]
      rintro ⟨⟨c, _, same⟩, whole⟩
      rw [same] at whole
      cases whole
    | cons c cs =>
      simp only [splits]
      constructor
      · intro member
        split at member
        · rename_i passes
          obtain rfl := List.mem_singleton.mp member
          exact ⟨⟨c, passes, rfl⟩, rfl⟩
        · cases member
      · rintro ⟨⟨d, passes, same⟩, whole⟩
        rw [same] at whole
        obtain ⟨rfl, rfl⟩ := List.cons.inj whole
        rw [if_pos passes, List.mem_singleton]
        exact Prod.ext same rfl
  | seq first second ihFirst ihSecond =>
    simp only [splits, language, List.mem_flatMap, mem_extend, Language.mem_mul, ihFirst, ihSecond]
    constructor
    · rintro ⟨head, ⟨inFirst, rfl⟩, later, ⟨inSecond, whole⟩, same⟩
      refine ⟨⟨_, inFirst, _, inSecond, same⟩, ?_⟩
      rw [← same, List.append_assoc, whole]
    · rintro ⟨⟨run, inFirst, later, inSecond, same⟩, rfl⟩
      refine ⟨(run, later ++ split.2), ⟨inFirst, ?_⟩, later, ⟨inSecond, rfl⟩, same⟩
      rw [← same, List.append_assoc]
  | alt first second ihFirst ihSecond =>
    simp only [splits, language, List.mem_append, ihFirst, ihSecond, Language.mem_add]
    rw [or_and_right]
  | star inner ih => exact mem_repeats (fun _ _ => ih) (Nat.le_refl _)

section First

variable {regex first second : Regex} {cs run : List Char}

theorem mem_of_first? (found : regex.first? cs = some run) :
    run ∈ regex.language ∧ run <+: cs := by
  obtain ⟨split, isFirst, rfl⟩ := Option.map_eq_some_iff.mp found
  obtain ⟨inLanguage, whole⟩ := mem_splits.mp (List.mem_of_mem_head? isFirst)
  exact ⟨inLanguage, split.2, whole⟩

/-- There is a match just if some string of the language stands at the front. -/
theorem first?_eq_none_iff :
    regex.first? cs = none ↔ ∀ string ∈ regex.language, ¬ string <+: cs := by
  rw [first?, Option.map_eq_none_iff, List.head?_eq_none_iff, List.eq_nil_iff_forall_not_mem]
  constructor
  · rintro nothing string inLanguage ⟨rest, whole⟩
    exact nothing (string, rest) (mem_splits.mpr ⟨inLanguage, whole⟩)
  · intro nothing split member
    obtain ⟨inLanguage, whole⟩ := mem_splits.mp member
    exact nothing _ inLanguage ⟨_, whole⟩

/-! ### What is taken -/

theorem first?_char_cons {test : Char → Bool} {c : Char} :
    (char test).first? (c :: cs) = if test c then some [c] else none := by
  simp only [first?, splits]
  split <;> rfl

theorem first?_alt : (alt first second).first? cs = (first.first? cs).or (second.first? cs) := by
  simp only [first?, splits, List.head?_append]
  cases (first.splits cs).head? <;> rfl

theorem first?_extend {splits : List (List Char × List Char)} :
    (extend run splits).head?.map (·.1) = (splits.head?.map (·.1)).map (run ++ ·) := by
  rw [extend, List.head?_map, Option.map_map, Option.map_map]
  rfl

/-- The first split behind which another expression matches, with what both match. -/
def firstWith? (next : Regex) (splits : List (List Char × List Char)) : Option (List Char) :=
  splits.findSome? fun split => (next.first? split.2).map (split.1 ++ ·)

theorem firstWith?_append {splits others : List (List Char × List Char)} :
    second.firstWith? (splits ++ others) =
      (second.firstWith? splits).or (second.firstWith? others) :=
  List.findSome?_append

theorem firstWith?_singleton {rest : List Char} :
    second.firstWith? [(run, rest)] = (second.first? rest).map (run ++ ·) :=
  List.findSome?_singleton

theorem firstWith?_extend {splits : List (List Char × List Char)} :
    second.firstWith? (extend run splits) = (second.firstWith? splits).map (run ++ ·) := by
  rw [firstWith?, firstWith?, extend, List.findSome?_map, List.map_findSome?]
  refine congrArg (List.findSome? · _) (funext fun split => ?_)
  simp [Function.comp_def]

/-- A sequence takes the first match of the first part behind which the second part matches. -/
theorem first?_seq : (seq first second).first? cs = second.firstWith? (first.splits cs) := by
  rw [first?, splits, List.head?_flatMap, List.map_findSome?]
  exact congrArg (List.findSome? · _) (funext fun split => first?_extend)

theorem first?_seq_char_cons {test : Char → Bool} {c : Char} :
    (seq (char test) second).first? (c :: cs) =
      if test c then (second.first? cs).map (c :: ·) else none := by
  rw [first?_seq, splits]
  split
  · exact firstWith?_singleton
  · rfl

theorem first?_seq_char_nil {test : Char → Bool} : (seq (char test) second).first? [] = none := by
  rw [first?_seq]
  rfl

/-- A search that can only end at the first element need not look further. -/
theorem findSome?_of_forced {α β : Type} {f : α → Option β} {as : List α}
    (forced : ∀ a ∈ as, (f a).isSome = true → as.head? = some a) :
    as.findSome? f = as.head?.bind f := by
  cases as with
  | nil => rfl
  | cons a as =>
    rw [List.findSome?_cons, List.head?_cons, Option.bind_some]
    cases ended : f a with
    | some b => rfl
    | none =>
      refine List.findSome?_eq_none_iff.mpr fun other member => ?_
      by_contra some
      have same := forced other (.tail _ member) (Option.isSome_iff_ne_none.mpr some)
      rw [List.head?_cons, Option.some.injEq] at same
      exact some (same ▸ ended)

/-- **A sequence is matched without backtracking** if its second part fits only behind the first
match of its first part. -/
theorem first?_seq_of_forced (forced : ∀ run rest, run ∈ first.language → run ++ rest = cs →
    (second.first? rest).isSome = true → first.first? cs = some run) :
    (seq first second).first? cs =
      (first.first? cs).bind fun run => (second.first? (cs.drop run.length)).map (run ++ ·) := by
  have behind : ∀ split ∈ first.splits cs, split.2 = cs.drop split.1.length := by
    intro split member
    rw [← (mem_splits.mp member).2, List.drop_left]
  rw [first?_seq, firstWith?, findSome?_of_forced]
  · rw [first?]
    cases isFirst : (first.splits cs).head? with
    | none => rfl
    | some split =>
      have member := List.mem_of_mem_head? isFirst
      rw [Option.bind_some, behind split member]
      rfl
  · intro split member fits
    obtain ⟨inFirst, whole⟩ := mem_splits.mp member
    rw [Option.isSome_map] at fits
    obtain ⟨taken, isFirst, same⟩ := Option.map_eq_some_iff.mp (forced _ _ inFirst whole fits)
    have takenMember := List.mem_of_mem_head? isFirst
    rw [isFirst, Option.some.injEq]
    refine Prod.ext same ?_
    rw [behind taken takenMember, behind split member, same]

end First

/-! ### Runs of characters -/

section Runs

variable {test further : Char → Bool} {cs string : List Char}

/-- A run is repeated as long as its characters pass the test. -/
theorem head?_repeats_char {bound : Nat} (short : cs.length ≤ bound) :
    (repeats (char test).splits bound cs).head? = some (cs.takeWhile test, cs.dropWhile test) := by
  induction bound generalizing cs with
  | zero =>
    obtain rfl := List.length_eq_zero_iff.mp (Nat.le_zero.mp short)
    rfl
  | succ bound ih =>
    cases cs with
    | nil => rfl
    | cons c cs =>
      rw [repeats, splits]
      by_cases passes : test c = true
      · have later := ih (Nat.le_of_succ_le_succ short)
        rw [if_pos passes, List.takeWhile_cons_of_pos passes, List.dropWhile_cons_of_pos passes,
          List.filter_cons_of_pos rfl, List.filter_nil, List.flatMap_singleton, List.head?_append,
          extend, List.head?_map, later]
        rfl
      · rw [if_neg passes, List.takeWhile_cons_of_neg passes, List.dropWhile_cons_of_neg passes]
        rfl

theorem first?_star_char : (star (char test)).first? cs = some (cs.takeWhile test) := by
  rw [first?, splits, head?_repeats_char (Nat.le_refl _)]
  rfl

theorem mem_star_char : string ∈ (star (char test)).language ↔ ∀ c ∈ string, test c = true := by
  constructor
  · rintro ⟨pieces, rfl, all⟩ c member
    obtain ⟨piece, inside, isIn⟩ := List.mem_flatten.mp member
    obtain ⟨d, passes, rfl⟩ := all piece inside
    rw [List.mem_singleton.mp isIn]
    exact passes
  · intro all
    refine ⟨string.map ([·]), (List.flatMap_singleton' string).symm, fun piece member => ?_⟩
    obtain ⟨c, inside, rfl⟩ := List.mem_map.mp member
    exact ⟨c, all c inside, rfl⟩

/-- A character of one class and any number of another. -/
def run (test further : Char → Bool) : Regex :=
  seq (char test) (star (char further))

theorem mem_seq_char {next : Regex} : string ∈ (seq (char test) next).language ↔
    ∃ c later, string = c :: later ∧ test c = true ∧ later ∈ next.language := by
  show string ∈ (char test).language * next.language ↔ _
  rw [Language.mem_mul]
  constructor
  · rintro ⟨_, ⟨c, passes, rfl⟩, later, inNext, rfl⟩
    exact ⟨c, later, rfl, passes, inNext⟩
  · rintro ⟨c, later, rfl, passes, inNext⟩
    exact ⟨[c], ⟨c, passes, rfl⟩, later, inNext, rfl⟩

theorem mem_run : string ∈ (run test further).language ↔
    ∃ c later, string = c :: later ∧ test c = true ∧ ∀ d ∈ later, further d = true := by
  simp only [run, mem_seq_char, mem_star_char]

theorem first?_run_cons {c : Char} : (run test further).first? (c :: cs) =
    if test c then some (c :: cs.takeWhile further) else none := by
  rw [run, first?_seq_char_cons, first?_star_char]
  rfl

theorem first?_run_nil : (run test further).first? [] = none :=
  first?_seq_char_nil

theorem length_le_takeWhile {rest : List Char} (all : ∀ c ∈ string, test c = true) :
    string.length ≤ ((string ++ rest).takeWhile test).length := by
  rw [List.takeWhile_append_of_pos all, List.length_append]
  exact Nat.le_add_right _ _

/-- What is taken of a run is the longest. -/
theorem length_le_of_first?_run {taken : List Char}
    (found : (run test further).first? cs = some taken)
    (inLanguage : string ∈ (run test further).language) (front : string <+: cs) :
    string.length ≤ taken.length := by
  obtain ⟨c, later, rfl, passes, all⟩ := mem_run.mp inLanguage
  obtain ⟨rest, rfl⟩ := front
  rw [List.cons_append, first?_run_cons, if_pos passes, Option.some.injEq] at found
  rw [← found]
  exact Nat.succ_le_succ (length_le_takeWhile all)

end Runs

/-! ### Alternatives -/

/-- One of several expressions, the earlier ones being preferred. -/
def alts : List Regex → Regex
  | [] => char fun _ => false
  | regex :: regexes => alt regex (alts regexes)

theorem first?_alts {regexes : List Regex} {cs : List Char} :
    (alts regexes).first? cs = regexes.findSome? (·.first? cs) := by
  induction regexes with
  | nil => cases cs <;> rfl
  | cons regex regexes ih =>
    rw [alts, first?_alt, ih, List.findSome?_cons]
    cases regex.first? cs <;> rfl

theorem mem_alts {regexes : List Regex} {string : List Char} :
    string ∈ (alts regexes).language ↔ ∃ regex ∈ regexes, string ∈ regex.language := by
  induction regexes with
  | nil =>
    simp only [List.not_mem_nil, false_and, exists_false, iff_false]
    rintro ⟨c, passes, _⟩
    cases passes
  | cons regex regexes ih =>
    show string ∈ regex.language + (alts regexes).language ↔ _
    rw [Language.mem_add, ih, List.exists_mem_cons_iff]

end Regex

end TypedImp
