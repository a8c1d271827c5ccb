/-
**From a text to tokens.**

A text is cut from the front into lexemes, each the first that the lexical patterns offer. Blanks
and comments are dropped. Then each keyword `else` that a keyword `if` follows directly is joined
with it into one keyword `else if`, at the position of the `else`.

* `scanFrom` — the tokens of a text that starts at a given position, or the first character that no
  pattern takes.
* `joinElseIf` — the joining of `else` and `if`.
* `scan` — both, for a whole source text.
-/

import TypedImp.Error
import TypedImp.Token.Pattern

namespace TypedImp

/-- The tokens of a text whose first character stands at `here`, before any are joined. -/
def scanFrom (here : Position) : List Char → Except ScanError (List Token)
  | [] => .ok []
  | c :: cs =>
    match _ : firstLexeme? (c :: cs) with
    | none => .error ⟨c, here⟩
    | some (pattern, lexeme) => do
      let later ← scanFrom (here.after lexeme) ((c :: cs).drop lexeme.length)
      match pattern.kind? lexeme with
      | none => return later
      | some kind => return ⟨kind, String.ofList lexeme, here⟩ :: later
termination_by cs => cs.length
decreasing_by
  have filled : 0 < lexeme.length := List.length_pos_iff.mpr (front_of_firstLexeme? ‹_›).1
  simp only [List.length_drop, List.length_cons]
  omega

/-- Whether the token is the keyword `word`. -/
def Token.isKeyword (token : Token) (word : String) : Bool :=
  token.kind == .keyword && token.lexeme == word

/-- Joins each keyword `else` with a keyword `if` directly behind it. -/
def joinElseIf : List Token → List Token
  | first :: second :: later =>
    if first.isKeyword "else" && second.isKeyword "if" then
      { first with lexeme := "else if" } :: joinElseIf later
    else first :: joinElseIf (second :: later)
  | tokens => tokens

/-- The tokens of a source text. -/
def scan (source : String) : Except ScanError (List Token) :=
  (scanFrom .start source.toList).map joinElseIf

end TypedImp
