/-
**A cursor in a source text.**

A cursor holds a source text, the number of bytes of its UTF-8 form that are passed, and the
position of the first character behind them. It moves by bytes and keeps line and column in step
with the characters that it passes, so every move has to end between two characters.

* `Cursor.advance` — moves the cursor.
* `Cursor.remainder`, `Cursor.atEnd` — the text behind the bytes that are passed, and whether all
  are.
-/

import TypedImp.Text.Position

namespace TypedImp

/-- A source text, how many of its bytes are passed, and the position of the first character that
is not. -/
structure Cursor where
  source : String
  offset : Nat
  position : Position
  deriving DecidableEq, Repr

namespace Cursor

/-- The cursor at the start of `source`. -/
def ofText (source : String) : Cursor :=
  ⟨source, 0, .start⟩

/-- The text that the next `bytes` bytes encode. -/
def next (cursor : Cursor) (bytes : Nat) : String :=
  String.Pos.Raw.extract cursor.source ⟨cursor.offset⟩ ⟨cursor.offset + bytes⟩

/-- Moves `bytes` bytes forward. -/
def advance (cursor : Cursor) (bytes : Nat) : Cursor :=
  { cursor with
    offset := cursor.offset + bytes
    position := cursor.position.after (cursor.next bytes).toList }

/-- The text still to be read. -/
def remainder (cursor : Cursor) : String :=
  String.Pos.Raw.extract cursor.source ⟨cursor.offset⟩ cursor.source.rawEndPos

/-- Whether the whole text is read. -/
def atEnd (cursor : Cursor) : Bool :=
  cursor.source.utf8ByteSize ≤ cursor.offset

end Cursor

end TypedImp
