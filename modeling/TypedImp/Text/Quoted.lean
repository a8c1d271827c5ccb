/-
**Quoted texts and characters.**

The form in which messages show a name or a character: between quotes, with a backslash before the
quote that encloses it and before a backslash, with the letters `0`, `t`, `r`, `n` for four control
characters, and with a hexadecimal number in braces for every other unprintable character.

* `quoted` — a text between double quotes, where a single quote stands as it is.
* `quotedChar` — a character between single quotes, where a double quote stands as it is.
-/

import TypedImp.Text.Unprintable

namespace TypedImp.Text

/-- A character by its number: lower-case hexadecimal digits without leading zeros. -/
def byNumber (c : Char) : List Char :=
  ['\\', 'u', '\x7b'] ++ Nat.toDigits 16 c.toNat ++ ['\x7d']

/-- The form of `c` between two marks `quote`. -/
def escape (quote c : Char) : List Char :=
  if c = '\x00' then ['\\', '0']
  else if c = '\t' then ['\\', 't']
  else if c = '\r' then ['\\', 'r']
  else if c = '\n' then ['\\', 'n']
  else if c = '\\' ∨ c = quote then ['\\', c]
  else if isUnprintable c then byNumber c
  else [c]

/-- The characters `cs` between two marks `quote`. -/
def enclose (quote : Char) (cs : List Char) : String :=
  String.ofList (quote :: (cs.flatMap (escape quote) ++ [quote]))

/-- A text between double quotes. -/
def quoted (text : String) : String :=
  enclose '"' text.toList

/-- A character between single quotes. -/
def quotedChar (c : Char) : String :=
  enclose '\'' [c]

end TypedImp.Text
