/-
**The tokens of a text partition it.**

A text that is scanned is a gap, the text of the first token, a gap, and so on up to a last gap;
nothing is left out and nothing is read twice. Each token knows where its text starts.

* `Position.Behind` — a position tells how many lines and columns stand before it.
* `Cut` — a text is cut into the texts of tokens and the gaps around them.
* `Scanned` — the ways in which a text is scanned, for induction.
* `cut_of_scanFrom` — the tokens that are scanned from a text cut it.
* `Cut.joinElseIf`, `joined_joinElseIf` — so do those behind the joining of `else` and `if`, of
  which no pair is left.
* `partition_of_scan` — **the tokens of a source text partition it, with exact positions.**
-/

import Mathlib.Data.List.DropRight
import TypedImp.Proofs.Gaps

namespace TypedImp

open Text (isBlank)

/-! ### Positions -/

/-- The position behind some characters: one line more than they have line feeds, and one column
more than there are characters behind the last of these. -/
structure Position.Behind (here : Position) (before : List Char) : Prop where
  line : here.line.toNat = 1 + before.count '\n'
  column : here.column.toNat = 1 + (before.rtakeWhile (· != '\n')).length

theorem toNat_add_one {word : UInt32} (small : word.toNat + 1 < UInt32.size) :
    (word + 1).toNat = word.toNat + 1 := by
  rw [UInt32.toNat_add]
  exact Nat.mod_eq_of_lt small

/-- **Positions are exact** in a text that is not too long for them. -/
theorem behind_start {before : List Char} (short : before.length < UInt32.size - 1) :
    (Position.start.after before).Behind before := by
  induction before using List.reverseRecOn with
  | nil => exact ⟨rfl, rfl⟩
  | append_singleton before c ih =>
    rw [List.length_append, List.length_singleton] at short
    obtain ⟨line, column⟩ := ih (by omega)
    have lines : before.count '\n' ≤ before.length := List.count_le_length
    have columns : (before.rtakeWhile (· != '\n')).length ≤ before.length :=
      (List.rtakeWhile_suffix _ _).length_le
    rw [Position.after_append, Position.after_cons, Position.after_nil, Position.advance]
    by_cases feed : c = '\n'
    · subst feed
      rw [if_pos rfl]
      refine ⟨?_, ?_⟩
      · rw [toNat_add_one (by omega), line, List.count_append, List.count_singleton_self]
        omega
      · rw [List.rtakeWhile_concat_neg _ _ _ (by simp)]
        rfl
    · rw [if_neg feed]
      refine ⟨?_, ?_⟩
      · rw [line, List.count_append, List.count_singleton]
        simp [feed]
      · rw [toNat_add_one (by omega), column, List.rtakeWhile_concat_pos _ _ _ (by simp [feed]),
          List.length_append, List.length_singleton]
        omega

/-! ### Cutting a text -/

/-- The token is made from the text: the text is the lexeme, or else `else` and `if` with a gap
between them, and the kind is that of the lexeme. -/
structure Token.Covers (token : Token) (text : List Char) : Prop where
  kind : lexemeKind? token.lexeme = some token.kind
  single : token.isKeyword "else if" = false → text = token.lexeme.toList
  joined : token.isKeyword "else if" = true →
    ∃ gap, Gap gap ∧ text = "else".toList ++ (gap ++ "if".toList)

/-- **A text that stands behind `before` is cut into the texts of the tokens**, with a gap before
each one and a last gap behind them, and the position of a token is that of its text. -/
inductive Cut : List Char → List Token → List Char → Prop
  | last {before gap : List Char} (isGap : LastGap gap) : Cut before [] gap
  | token {before gap text later : List Char} {token : Token} {tokens : List Token}
      (isGap : Gap gap) (covers : token.Covers text)
      (place : token.position.Behind (before ++ gap))
      (rest : Cut (before ++ (gap ++ text)) tokens later) :
      Cut before (token :: tokens) (gap ++ (text ++ later))

theorem Gap.append {gap other : List Char} (isGap : Gap gap) (further : Gap other) :
    Gap (gap ++ other) := by
  induction isGap with
  | nil => exact further
  | blank blank _ ih => exact .blank blank ih
  | comment oneLine _ ih =>
    rw [List.cons_append, List.cons_append, List.append_assoc]
    exact .comment oneLine ih

theorem Gap.appendLast {gap other : List Char} (isGap : Gap gap) (last : LastGap other) :
    LastGap (gap ++ other) := by
  cases last with
  | gap further => exact .gap (isGap.append further)
  | comment further oneLine =>
    rw [← List.append_assoc]
    exact .comment (isGap.append further) oneLine

/-- A gap in front of a text that is cut belongs to the first gap. -/
theorem Cut.prepend {before gap text : List Char} {tokens : List Token} (isGap : Gap gap)
    (cut : Cut (before ++ gap) tokens text) : Cut before tokens (gap ++ text) := by
  cases cut with
  | last further => exact .last (isGap.appendLast further)
  | token further covers place rest =>
    rw [List.append_assoc] at place
    rw [List.append_assoc, ← List.append_assoc gap] at rest
    rw [← List.append_assoc]
    exact .token (isGap.append further) covers place rest

/-- A text starts with a lexeme: it starts neither with a blank nor with a comment. -/
def Visible (text : List Char) : Prop :=
  (∃ c ∈ text.head?, isBlank c = false) ∧ ∀ later, text ≠ '/' :: '/' :: later

/-- A text is a last gap, or it starts with a gap or with a lexeme. -/
theorem text_cases (text : List Char) : LastGap text ∨
    (∃ gap later, Gap gap ∧ gap ≠ [] ∧ text = gap ++ later) ∨ Visible text := by
  cases text with
  | nil => exact .inl (.gap .nil)
  | cons c cs =>
    by_cases blank : isBlank c = true
    · exact .inr (.inl ⟨[c], cs, .blank blank .nil, by simp, rfl⟩)
    · by_cases slashes : ∃ later, c :: cs = '/' :: '/' :: later
      · obtain ⟨later, same⟩ := slashes
        rw [same]
        by_cases feed : '\n' ∈ later
        · obtain ⟨line, behind, rfl, oneLine⟩ := List.eq_append_cons_of_mem feed
          refine .inr (.inl ⟨_, behind, .comment oneLine .nil, by simp, ?_⟩)
          simp
        · exact .inl (.comment .nil feed)
      · exact .inr (.inr ⟨⟨c, rfl, Bool.eq_false_iff.mpr blank⟩, not_exists.mp slashes⟩)

theorem Visible.kept {text lexeme : List Char} {pattern : Pattern} (visible : Visible text)
    (found : firstLexeme? text = some (pattern, lexeme)) :
    pattern ≠ .blanks ∧ pattern ≠ .comment := by
  obtain ⟨⟨c, front, isVisible⟩, noComment⟩ := visible
  obtain ⟨cs, rfl⟩ := List.head?_eq_some_iff.mp front
  obtain ⟨_, takes⟩ := lexeme?_of_firstLexeme? found
  constructor
  · rintro rfl
    simp [Pattern.lexeme?, Pattern.nonempty?, isVisible] at takes
  · rintro rfl
    rw [Pattern.lexeme?] at takes
    · cases takes
    · exact noComment

theorem exists_kind {pattern : Pattern} (kept : pattern ≠ .blanks ∧ pattern ≠ .comment)
    (lexeme : List Char) : ∃ kind, pattern.kind? lexeme = some kind := by
  cases pattern with
  | blanks => exact absurd rfl kept.1
  | comment => exact absurd rfl kept.2
  | string | float | int | word | operator | mark => exact ⟨_, rfl⟩

/-- A token as it is scanned stands for its lexeme. -/
theorem covers_of_firstLexeme? {cs lexeme : List Char} {pattern : Pattern} {kind : Token.Kind}
    (found : firstLexeme? cs = some (pattern, lexeme))
    (kept : pattern ≠ .blanks ∧ pattern ≠ .comment) (makes : pattern.kind? lexeme = some kind)
    (here : Position) : Token.Covers ⟨kind, String.ofList lexeme, here⟩ lexeme := by
  have alone := firstLexeme?_self found kept
  rw [← @String.toList_ofList lexeme] at alone makes
  have other := ne_of_firstLexeme? alone
  refine ⟨lexemeKind?_of_firstLexeme? alone makes, fun _ => String.toList_ofList.symm, ?_⟩
  intro joined
  simp only [Token.isKeyword, Bool.and_eq_true, beq_iff_eq] at joined
  exact absurd joined.2 other

/-- The scanner takes a first token from a text that starts with a lexeme. -/
theorem exists_of_scanFrom {text : List Char} {tokens : List Token} {here : Position}
    (visible : Visible text) (scanned : scanFrom here text = .ok tokens) :
    ∃ pattern lexeme later kind others, text = lexeme ++ later ∧
      firstLexeme? (lexeme ++ later) = some (pattern, lexeme) ∧
      (pattern ≠ .blanks ∧ pattern ≠ .comment) ∧ pattern.kind? lexeme = some kind ∧
      tokens = ⟨kind, String.ofList lexeme, here⟩ :: others ∧
      scanFrom (here.after lexeme) later = .ok others := by
  cases found : firstLexeme? text with
  | none =>
    obtain ⟨⟨c, front, _⟩, _⟩ := visible
    obtain ⟨cs, rfl⟩ := List.head?_eq_some_iff.mp front
    rw [scanFrom_of_none found] at scanned
    cases scanned
  | some first =>
    obtain ⟨pattern, lexeme⟩ := first
    have kept := visible.kept found
    obtain ⟨kind, makes⟩ := exists_kind kept lexeme
    obtain ⟨_, later, rfl⟩ := front_of_firstLexeme? found
    rw [scanFrom_of_firstLexeme? found, makes] at scanned
    cases rest : scanFrom (here.after lexeme) later with
    | error error =>
      rw [rest] at scanned
      cases scanned
    | ok others =>
      rw [rest] at scanned
      cases scanned
      exact ⟨pattern, lexeme, later, kind, others, rfl, found, kept, makes, rfl, rest⟩

/-- **How a text is scanned to tokens**: a last gap makes none, any other gap is passed over, and a
lexeme makes the first token. -/
inductive Scanned : Position → List Char → List Token → Prop
  | last {here : Position} {gap : List Char} (isGap : LastGap gap) : Scanned here gap []
  | gap {here : Position} {gap later : List Char} {tokens : List Token} (isGap : Gap gap)
      (rest : Scanned (here.after gap) later tokens) : Scanned here (gap ++ later) tokens
  | token {here : Position} {pattern : Pattern} {kind : Token.Kind} {lexeme later : List Char}
      {tokens : List Token} (found : firstLexeme? (lexeme ++ later) = some (pattern, lexeme))
      (kept : pattern ≠ .blanks ∧ pattern ≠ .comment) (makes : pattern.kind? lexeme = some kind)
      (rest : Scanned (here.after lexeme) later tokens) :
      Scanned here (lexeme ++ later) (⟨kind, String.ofList lexeme, here⟩ :: tokens)

theorem scanned_of_scanFrom {here : Position} {text : List Char} {tokens : List Token}
    (scanned : scanFrom here text = .ok tokens) : Scanned here text tokens := by
  -- The rest of the text is shorter behind a gap or a lexeme.
  induction size : text.length using Nat.strongRecOn generalizing here text tokens with
  | ind size further =>
    subst size
    rcases text_cases text with isGap | ⟨gap, later, isGap, filled, rfl⟩ | visible
    · rw [scanFrom_of_lastGap isGap] at scanned
      cases scanned
      exact .last isGap
    · rw [scanFrom_of_gap isGap] at scanned
      exact .gap isGap (further _ (by simp [List.length_pos_iff.mpr filled]) scanned rfl)
    · obtain ⟨pattern, lexeme, later, kind, others, rfl, found, kept, makes, rfl, rest⟩ :=
        exists_of_scanFrom visible scanned
      have filled : lexeme ≠ [] := (front_of_firstLexeme? found).1
      exact .token found kept makes
        (further _ (by simp [List.length_pos_iff.mpr filled]) rest rfl)

/-- **The tokens that are scanned from a text cut it.** -/
theorem cut_of_scanFrom {before text : List Char} {tokens : List Token}
    (short : (before ++ text).length < UInt32.size - 1)
    (scanned : scanFrom (Position.start.after before) text = .ok tokens) :
    Cut before tokens text := by
  have scans := scanned_of_scanFrom scanned
  clear scanned
  generalize is : Position.start.after before = here at scans
  induction scans generalizing before with
  | last isGap => exact .last isGap
  | @gap _ gap _ _ isGap _ ih =>
    subst is
    rw [← List.append_assoc] at short
    exact .prepend isGap (ih short (Position.after_append _ before gap))
  | @token _ _ _ lexeme _ _ found kept makes _ ih =>
    subst is
    have place : (Position.start.after before).Behind (before ++ []) := by
      rw [List.append_nil]
      refine behind_start (Nat.lt_of_le_of_lt ?_ short)
      rw [List.length_append]
      exact Nat.le_add_right _ _
    rw [← List.append_assoc] at short
    exact .token .nil (covers_of_firstLexeme? found kept makes _) place
      (ih short (Position.after_append _ before lexeme))

/-! ### Joining `else` and `if` -/

theorem Cut.known {before text : List Char} {tokens : List Token} (cut : Cut before tokens text) :
    ∀ token ∈ tokens, lexemeKind? token.lexeme = some token.kind := by
  induction cut with
  | last _ => nofun
  | token _ covers _ _ ih => exact List.forall_mem_cons.mpr ⟨covers.kind, ih⟩

theorem Token.Covers.eq_of_isKeyword {token : Token} {text : List Char} {word : String}
    (covers : token.Covers text) (is : token.isKeyword word = true) (other : word ≠ "else if") :
    text = word.toList := by
  simp only [Token.isKeyword, Bool.and_eq_true, beq_iff_eq] at is
  have single : token.isKeyword "else if" = false := by
    simp [Token.isKeyword, is.2, other]
  rw [covers.single single, is.2]

theorem covers_joined {token : Token} {gap : List Char} (isElse : token.isKeyword "else" = true)
    (isGap : Gap gap) : Token.Covers { token with lexeme := "else if" }
      ("else".toList ++ (gap ++ "if".toList)) := by
  simp only [Token.isKeyword, Bool.and_eq_true, beq_iff_eq] at isElse
  have joined : Token.isKeyword { token with lexeme := "else if" } "else if" = true := by
    simp [Token.isKeyword, isElse.1]
  refine ⟨?_, fun other => ?_, fun _ => ⟨gap, isGap, rfl⟩⟩
  · rw [isElse.1]
    rfl
  · rw [joined] at other
    cases other

/-- **Behind the joining the tokens still cut the text.** The gap between the two words belongs to
the text of the joined token. -/
theorem Cut.joinElseIf {before text : List Char} {tokens : List Token}
    (cut : Cut before tokens text) : Cut before (joinElseIf tokens) text := by
  fun_induction TypedImp.joinElseIf tokens generalizing before text with
  | case1 first second later both ih =>
    obtain ⟨isElse, isIf⟩ := Bool.and_eq_true_iff.mp both
    cases cut with
    | token isGap covers place rest =>
      cases rest with
      | @token _ gap _ behind _ _ isInner coversIf _ rest =>
        obtain rfl := covers.eq_of_isKeyword isElse (by decide)
        obtain rfl := coversIf.eq_of_isKeyword isIf (by decide)
        have whole := Cut.token isGap (covers_joined isElse isInner) place (by
          rw [List.append_assoc, List.append_assoc] at rest
          exact ih rest)
        rwa [List.append_assoc, List.append_assoc] at whole
  | case2 first second later apart ih =>
    cases cut with
    | token isGap covers place rest => exact .token isGap covers place (ih rest)
  | case3 tokens _ => exact cut

/-- No `else` is left directly before an `if`. -/
def Joined (tokens : List Token) : Prop :=
  tokens.IsChain fun first second => ¬(first.isKeyword "else" = true ∧ second.isKeyword "if" = true)

/-- A first token that is an `if` was not joined with another one. -/
theorem head?_joinElseIf {second next : Token} {later : List Token}
    (first : next ∈ (joinElseIf (second :: later)).head?) (isIf : next.isKeyword "if" = true) :
    next = second := by
  cases later with
  | nil => exact (Option.some.inj first).symm
  | cons third later =>
    rw [joinElseIf] at first
    split at first
    · cases first
      simp [Token.isKeyword] at isIf
    · exact (Option.some.inj first).symm

theorem joined_joinElseIf (tokens : List Token) : Joined (joinElseIf tokens) := by
  fun_induction joinElseIf tokens with
  | case1 first second later both ih =>
    refine List.isChain_cons.mpr ⟨fun next _ => ?_, ih⟩
    simp [Token.isKeyword]
  | case2 first second later apart ih =>
    refine List.isChain_cons.mpr ⟨fun next isNext => ?_, ih⟩
    rintro ⟨isElse, isIf⟩
    obtain rfl := head?_joinElseIf isNext isIf
    exact apart (by rw [isElse, isIf]; rfl)
  | case3 tokens short =>
    cases tokens with
    | nil => exact .nil
    | cons first later =>
      cases later with
      | nil => exact .singleton first
      | cons second later => exact absurd rfl (short first second later)

/-! ### Whole texts -/

theorem scan_eq_ok_iff {source : String} {tokens : List Token} :
    scan source = .ok tokens ↔
      ∃ single, scanFrom .start source.toList = .ok single ∧ joinElseIf single = tokens := by
  unfold scan
  cases scanFrom .start source.toList <;> simp [Except.map]

theorem scan_eq_error_iff {source : String} {error : ScanError} :
    scan source = .error error ↔ scanFrom .start source.toList = .error error := by
  unfold scan
  cases scanFrom .start source.toList <;> simp [Except.map]

/-- **The tokens of a source text partition it**, each at its position, and no keyword `else` is
left directly before a keyword `if`. -/
theorem partition_of_scan {source : String} {tokens : List Token}
    (short : source.length < UInt32.size - 1) (scanned : scan source = .ok tokens) :
    Cut [] tokens source.toList ∧ Joined tokens := by
  obtain ⟨single, parts, rfl⟩ := scan_eq_ok_iff.mp scanned
  have cut : Cut [] single source.toList := cut_of_scanFrom short parts
  exact ⟨cut.joinElseIf, joined_joinElseIf single⟩

/-- Comments between the words that are joined and at the end, a string that spans lines, and a
character of two bytes before a token. -/
theorem partition_of_scan_joined :
    let source := "x // é\n  else // if\n if \"é\n\" \"é\" y//"
    let tokens : List Token := [⟨.identifier, "x", ⟨1, 1⟩⟩, ⟨.keyword, "else if", ⟨2, 3⟩⟩,
      ⟨.string, "\"é\n\"", ⟨3, 5⟩⟩, ⟨.string, "\"é\"", ⟨4, 3⟩⟩, ⟨.identifier, "y", ⟨4, 7⟩⟩]
    source.length < UInt32.size - 1 ∧ scan source = .ok tokens ∧ Cut [] tokens source.toList ∧
      Joined tokens := by
  intro source tokens
  have short : source.length < UInt32.size - 1 := by decide
  have scanned : scan source = .ok tokens := by decide +kernel
  exact ⟨short, scanned, partition_of_scan short scanned⟩

end TypedImp
