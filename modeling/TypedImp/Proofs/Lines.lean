/-
**Texts of several lines.**

A source text that is scanned can be continued on further lines. Behind the line feed the scanner
starts as at the beginning of a text, but for the number of the line: no lexeme of the first text
reads on, and a comment at its end is closed. So the tokens of the further lines are put behind
those of the first text, and only a keyword `if` there may still be joined with an `else` here.

* `scanFrom_append_newline` — **further lines are scanned after the first text.**
* `Token.Lowered`, `ScanError.Lowered` — a token and a scan error some lines below.
* `lowered_scanFrom` — a text that starts some lines below is scanned in the same way.
* `seam` — tokens with others behind them, joined where they meet.
* `joinElseIf_append` — joining goes on independently on both sides of the place where they meet.
* `scan_lines` — **scanning is compositional across lines.**
-/

import TypedImp.Proofs.LongestMatch
import TypedImp.Proofs.Partition

namespace TypedImp

/-! ### Behind a line feed -/

/-- A line feed closes the comment at the end of a text. -/
theorem LastGap.closed {gap : List Char} (isGap : LastGap gap) : Gap (gap ++ ['\n']) := by
  cases isGap with
  | gap isGap => exact isGap.append (.blank rfl .nil)
  | comment isGap oneLine =>
    rw [List.append_assoc]
    exact isGap.append (.comment oneLine .nil)

/-- **Further lines are scanned after the first text**, from the position that it ends at. -/
theorem scanFrom_append_newline {here : Position} {first : List Char} {tokens : List Token}
    (scanned : scanFrom here first = .ok tokens) (later : List Char) :
    scanFrom here (first ++ '\n' :: later) =
      (scanFrom (here.after (first ++ ['\n'])) later).map (tokens ++ ·) := by
  have scans := scanned_of_scanFrom scanned
  clear scanned
  induction scans with
  | @last here gap isGap =>
    have passed : scanFrom here ((gap ++ ['\n']) ++ later) =
        scanFrom (here.after (gap ++ ['\n'])) later := scanFrom_of_gap isGap.closed here
    rw [List.append_assoc, List.singleton_append] at passed
    rw [passed]
    cases scanFrom (here.after (gap ++ ['\n'])) later <;> rfl
  | @gap here gap rest tokens isGap _ ih =>
    rw [List.append_assoc, scanFrom_of_gap isGap, ih, List.append_assoc,
      Position.after_append here gap]
  | @token here pattern kind lexeme rest tokens found kept makes _ ih =>
    have ends : StartsBlank ('\n' :: later) := by
      rintro c ⟨⟩
      rfl
    have again := firstLexeme?_append found kept ends
    rw [List.append_assoc] at again ⊢
    rw [scanFrom_of_firstLexeme? again, makes, ih, List.append_assoc,
      Position.after_append here lexeme]
    cases scanFrom ((here.after lexeme).after (rest ++ ['\n'])) later <;> rfl

/-! ### Some lines below -/

/-- The position `there` is in the column of `here`, and `lines` lines below. -/
structure Position.Lowered (lines : Nat) (here there : Position) : Prop where
  line : there.line.toNat = here.line.toNat + lines
  column : there.column = here.column

/-- A token with the same kind and lexeme, and `lines` lines below. -/
structure Token.Lowered (lines : Nat) (token moved : Token) : Prop where
  kind : moved.kind = token.kind
  lexeme : moved.lexeme = token.lexeme
  place : token.position.Lowered lines moved.position

/-- A scan error at the same character, and `lines` lines below. -/
structure ScanError.Lowered (lines : Nat) (error moved : ScanError) : Prop where
  character : moved.character = error.character
  place : error.position.Lowered lines moved.position

/-- What the scanner finds, and the same `lines` lines below. -/
inductive LoweredResult (lines : Nat) :
    Except ScanError (List Token) → Except ScanError (List Token) → Prop
  | ok {tokens moved : List Token} (each : List.Forall₂ (Token.Lowered lines) tokens moved) :
      LoweredResult lines (.ok tokens) (.ok moved)
  | error {error moved : ScanError} (lowered : error.Lowered lines moved) :
      LoweredResult lines (.error error) (.error moved)

section Lowered

variable {lines : Nat} {here there : Position}

theorem Position.line_after_le (here : Position) (cs : List Char) :
    (here.after cs).line.toNat ≤ here.line.toNat + cs.length := by
  induction cs generalizing here with
  | nil => exact Nat.le_refl _
  | cons c cs ih =>
    have step : (here.advance c).line.toNat ≤ here.line.toNat + 1 := by
      unfold Position.advance
      split
      · rw [UInt32.toNat_add]
        exact Nat.mod_le _ _
      · exact Nat.le_succ _
    have further := ih (here.advance c)
    rw [Position.after_cons, List.length_cons]
    omega

/-- Reading characters keeps the distance, if the lines can be counted. -/
theorem Position.Lowered.after (lowered : here.Lowered lines there) {cs : List Char}
    (short : there.line.toNat + cs.length < UInt32.size) :
    (here.after cs).Lowered lines (there.after cs) := by
  induction cs generalizing here there with
  | nil => exact lowered
  | cons c cs ih =>
    obtain ⟨line, column⟩ := lowered
    rw [List.length_cons] at short
    have step : (here.advance c).Lowered lines (there.advance c) := by
      unfold Position.advance
      split
      · refine ⟨?_, rfl⟩
        rw [toNat_add_one (by omega), toNat_add_one (by omega), line, Nat.add_right_comm]
      · exact ⟨line, congrArg (· + 1) column⟩
    have next := Position.line_after_le there [c]
    rw [Position.after_cons, Position.after_nil, List.length_singleton] at next
    exact ih step (by omega)

/-- **A text some lines below is scanned in the same way.** -/
theorem lowered_scanFrom (lowered : here.Lowered lines there) {cs : List Char}
    (short : there.line.toNat + cs.length < UInt32.size) :
    LoweredResult lines (scanFrom here cs) (scanFrom there cs) := by
  have scans := scansLongest_scanFrom here cs
  generalize scanFrom here cs = result at scans
  induction scans generalizing there with
  | done =>
    rw [scanFrom]
    exact .ok .nil
  | stuck nothing =>
    rw [scanFrom_of_none (firstLexeme?_eq_none_iff.mpr nothing)]
    exact .error ⟨rfl, lowered⟩
  | @lexeme here pattern lexeme later result longest _ ih =>
    rw [List.length_append] at short
    have behind := Position.line_after_le there lexeme
    have rest := ih (lowered.after (by omega)) (by omega)
    rw [scanFrom_of_firstLexeme? (firstLexeme?_eq_some_iff.mpr longest)]
    generalize scanFrom (there.after lexeme) later = moved at rest
    cases rest with
    | error lowered => exact .error lowered
    | ok each =>
      refine .ok ?_
      unfold Pattern.emit
      cases pattern.kind? lexeme with
      | none => exact each
      | some kind => exact .cons ⟨rfl, rfl, lowered⟩ each

end Lowered

/-! ### Where the tokens meet -/

/-- The tokens with the others behind them. If a keyword `else` is the last of these and a keyword
`if` the first of those, the two are joined. -/
def seam (tokens later : List Token) : List Token :=
  match tokens.getLast?, later with
  | some last, first :: others =>
    if last.isKeyword "else" && first.isKeyword "if" then
      tokens.dropLast ++ { last with lexeme := "else if" } :: others
    else tokens ++ later
  | _, _ => tokens ++ later

section Seam

variable {lines : Nat} {token moved : Token} {tokens later : List Token}

/-- A token in front stays there, unless it is an `else` that stands at the seam. -/
theorem seam_cons (inside : tokens = [] → token.isKeyword "else" = false) :
    seam (token :: tokens) later = token :: seam tokens later := by
  cases tokens with
  | nil => cases later <;> simp [seam, inside rfl]
  | cons second others =>
    cases later with
    | nil => simp [seam]
    | cons first behind =>
      have isLast : (token :: second :: others).getLast? = (second :: others).getLast? :=
        List.getLast?_cons_cons
      unfold seam
      rw [isLast]
      cases (second :: others).getLast? with
      | none => rfl
      | some last => cases both : last.isKeyword "else" && first.isKeyword "if" <;> simp [both]

/-- Nothing is joined at a seam in front of which there is no `else`, or behind which no `if`. -/
theorem seam_singleton (apart : token.isKeyword "else" = true →
    ∀ first ∈ later.head?, first.isKeyword "if" = false) :
    seam [token] later = token :: later := by
  cases later with
  | nil => rfl
  | cons first behind =>
    have notBoth : (token.isKeyword "else" && first.isKeyword "if") = false := by
      rw [Bool.and_eq_false_imp]
      exact fun isElse => apart isElse first rfl
    simp [seam, notBoth]

/-- Joining goes on behind a token that is no `else`. -/
theorem joinElseIf_cons (noElse : token.isKeyword "else" = false) :
    joinElseIf (token :: later) = token :: joinElseIf later := by
  cases later with
  | nil => rfl
  | cons second others => rw [joinElseIf, noElse, Bool.false_and, if_neg Bool.false_ne_true]

theorem joinElseIf_ne_nil (filled : tokens ≠ []) : joinElseIf tokens ≠ [] := by
  fun_cases joinElseIf tokens with
  | case1 => nofun
  | case2 => nofun
  | case3 => exact filled

/-- One token in front is joined with the first of the others or stays. -/
theorem joinElseIf_eq_seam (token : Token) (later : List Token) :
    joinElseIf (token :: later) = seam [token] (joinElseIf later) := by
  cases later with
  | nil => rfl
  | cons first others =>
    rw [joinElseIf]
    split
    · rename_i both
      have noElse : first.isKeyword "else" = false := by
        simp only [Token.isKeyword, Bool.and_eq_true, beq_iff_eq] at both
        simp [Token.isKeyword, both.2.2]
      rw [joinElseIf_cons noElse]
      simp [seam, both]
    · rename_i apart
      refine (seam_singleton fun isElse next isNext => Bool.eq_false_iff.mpr fun isIf => ?_).symm
      obtain rfl := head?_joinElseIf isNext isIf
      exact apart (by rw [isElse, isIf]; rfl)

/-- **Tokens are joined on both sides of a seam**, and at the seam. -/
theorem joinElseIf_append (tokens later : List Token) :
    joinElseIf (tokens ++ later) = seam (joinElseIf tokens) (joinElseIf later) := by
  fun_induction joinElseIf tokens with
  | case1 first second rest both ih =>
    have joined : Token.isKeyword { first with lexeme := "else if" } "else" = false := by
      simp [Token.isKeyword]
    rw [seam_cons fun _ => joined, ← ih, List.cons_append, List.cons_append, joinElseIf,
      if_pos both]
  | case2 first second rest apart ih =>
    rw [seam_cons fun nothing => absurd nothing (joinElseIf_ne_nil (by simp)), ← ih,
      List.cons_append, List.cons_append, joinElseIf, if_neg apart]
  | case3 tokens short =>
    cases tokens with
    | nil => rfl
    | cons last rest =>
      cases rest with
      | nil => exact joinElseIf_eq_seam last later
      | cons second rest => exact absurd rfl (short last second rest)

theorem Token.Lowered.isKeyword_eq (lowered : token.Lowered lines moved) (word : String) :
    moved.isKeyword word = token.isKeyword word := by
  rw [Token.isKeyword, Token.isKeyword, lowered.kind, lowered.lexeme]

theorem lowered_joinElseIf {movedTokens : List Token}
    (each : List.Forall₂ (Token.Lowered lines) tokens movedTokens) :
    List.Forall₂ (Token.Lowered lines) (joinElseIf tokens) (joinElseIf movedTokens) := by
  fun_induction joinElseIf tokens generalizing movedTokens with
  | case1 first second rest both ih =>
    cases each with
    | @cons _ movedFirst _ _ isFirst others =>
      cases others with
      | cons isSecond others =>
        rw [← isFirst.isKeyword_eq, ← isSecond.isKeyword_eq] at both
        rw [joinElseIf, if_pos both]
        exact .cons ⟨isFirst.kind, rfl, isFirst.place⟩ (ih others)
  | case2 first second rest apart ih =>
    cases each with
    | cons isFirst others =>
      have joined := ih others
      cases others with
      | cons isSecond others =>
        rw [← isFirst.isKeyword_eq, ← isSecond.isKeyword_eq] at apart
        rw [joinElseIf, if_neg apart]
        exact .cons isFirst joined
  | case3 tokens short =>
    cases each with
    | nil => exact .nil
    | cons isFirst others =>
      cases others with
      | nil => exact .cons isFirst .nil
      | cons _ _ => exact absurd rfl (short _ _ _)

end Seam

/-! ### Source texts -/

/-- The first line behind a line feed is as many lines below the first of all as there are line
feeds in front of it. -/
theorem lowered_start {before : List Char} (short : before.length + 1 < UInt32.size - 1) :
    Position.start.Lowered (1 + before.count '\n') (Position.start.after (before ++ ['\n'])) := by
  have place : (Position.start.after (before ++ ['\n'])).Behind (before ++ ['\n']) := by
    refine behind_start ?_
    rwa [List.length_append]
  refine ⟨?_, ?_⟩
  · rw [place.line, List.count_append, List.count_singleton_self, Nat.add_comm (before.count _)]
    rfl
  · rw [Position.after_append]
    rfl

/-- Behind a first text and a line feed a text is scanned as on its own, that many lines below. -/
theorem lowered_behind {first later : List Char}
    (short : first.length + later.length < UInt32.size - 2) :
    LoweredResult (1 + first.count '\n') (scanFrom .start later)
      (scanFrom (Position.start.after (first ++ ['\n'])) later) := by
  have below : Position.start.Lowered (1 + first.count '\n')
      (Position.start.after (first ++ ['\n'])) := lowered_start (by omega)
  have counted : first.count '\n' ≤ first.length := List.count_le_length
  have top : Position.start.line.toNat = 1 := rfl
  refine lowered_scanFrom below ?_
  rw [below.line, top]
  omega

/-- **Scanning is compositional across lines.** If a source text is scanned, a second one that is
put on the lines behind it is scanned as on its own, and so is the whole text, with the tokens of
both. The tokens and the error of the second text are found in their columns, and as many lines
below as there are line feeds in front. A keyword `if` at its start is joined with an `else` at
the end of the first text. -/
theorem scan_lines {first second : String} {tokens : List Token}
    (short : first.length + second.length < UInt32.size - 2) (scanned : scan first = .ok tokens) :
    (∀ later, scan second = .ok later → ∃ moved,
      List.Forall₂ (Token.Lowered (1 + first.toList.count '\n')) later moved ∧
      scan (first ++ "\n" ++ second) = .ok (seam tokens moved)) ∧
    ∀ error, scan second = .error error → ∃ moved,
      error.Lowered (1 + first.toList.count '\n') moved ∧
      scan (first ++ "\n" ++ second) = .error moved := by
  obtain ⟨single, parts, rfl⟩ := scan_eq_ok_iff.mp scanned
  rw [← String.length_toList, ← String.length_toList] at short
  have found := lowered_behind short
  have whole : scan (first ++ "\n" ++ second) =
      ((scanFrom (Position.start.after (first.toList ++ ['\n'])) second.toList).map
        (single ++ ·)).map joinElseIf := by
    rw [scan, ← scanFrom_append_newline parts]
    simp
  rw [whole, scan]
  generalize scanFrom .start second.toList = alone at found
  generalize scanFrom (Position.start.after _) second.toList = behind at found
  cases found with
  | ok each =>
    refine ⟨?_, nofun⟩
    rintro later ⟨⟩
    exact ⟨_, lowered_joinElseIf each, congrArg Except.ok (joinElseIf_append single _)⟩
  | error lowered =>
    refine ⟨nofun, ?_⟩
    rintro error ⟨⟩
    exact ⟨_, lowered, rfl⟩

/-- The first text ends with a comment behind an `else`, and the second one starts with an `if`.
A third one cannot be scanned on its second line. -/
theorem scan_lines_joined :
    let first := "x\n else // if"
    let second := "  if \"é\n\" y"
    let third := "x\n &|"
    let tokens : List Token := [⟨.identifier, "x", ⟨1, 1⟩⟩, ⟨.keyword, "else", ⟨2, 2⟩⟩]
    let later : List Token := [⟨.keyword, "if", ⟨1, 3⟩⟩, ⟨.string, "\"é\n\"", ⟨1, 6⟩⟩,
      ⟨.identifier, "y", ⟨2, 3⟩⟩]
    scan first = .ok tokens ∧ scan second = .ok later ∧
      (∃ moved, List.Forall₂ (Token.Lowered (1 + first.toList.count '\n')) later moved ∧
        scan (first ++ "\n" ++ second) = .ok (seam tokens moved)) ∧
      scan third = .error ⟨'&', ⟨2, 2⟩⟩ ∧
      ∃ moved, ScanError.Lowered (1 + first.toList.count '\n') ⟨'&', ⟨2, 2⟩⟩ moved ∧
        scan (first ++ "\n" ++ third) = .error moved := by
  intro first second third tokens later
  have scanned : scan first = .ok tokens := by decide +kernel
  have further : scan second = .ok later := by decide +kernel
  have fails : scan third = .error ⟨'&', ⟨2, 2⟩⟩ := by decide +kernel
  exact ⟨scanned, further, (scan_lines (by decide) scanned).1 later further, fails,
    (scan_lines (by decide) scanned).2 _ fails⟩

end TypedImp
