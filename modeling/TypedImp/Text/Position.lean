/-
**Positions in a text.**

A position is a line and a column, both counted from one in 32-bit words. Only a line feed ends a
line, and every other character, of whatever width in bytes, fills one column.

* `Position.after` — the position reached from another one by reading characters; reading a text in
  two pieces reaches the same position as reading it whole (`after_append`).
-/

namespace TypedImp

/-- A line and a column, both counted from one. -/
structure Position where
  line : UInt32
  column : UInt32
  deriving DecidableEq, Repr

namespace Position

/-- The position of the first character of a text. -/
def start : Position := ⟨1, 1⟩

/-- The position behind one character. -/
def advance (here : Position) (c : Char) : Position :=
  if c = '\n' then ⟨here.line + 1, 1⟩ else ⟨here.line, here.column + 1⟩

/-- The position behind a run of characters. -/
def after (here : Position) (cs : List Char) : Position :=
  cs.foldl advance here

/-- The written form: line, colon, column. -/
def text (here : Position) : String :=
  toString here.line.toNat ++ ":" ++ toString here.column.toNat

@[simp]
theorem after_nil (here : Position) : here.after [] = here := rfl

@[simp]
theorem after_cons (here : Position) (c : Char) (cs : List Char) :
    here.after (c :: cs) = (here.advance c).after cs := rfl

theorem after_append (here : Position) (cs ds : List Char) :
    here.after (cs ++ ds) = (here.after cs).after ds :=
  List.foldl_append

end Position

end TypedImp
