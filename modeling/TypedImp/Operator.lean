/-
**Operators.**

An operator is written as it stands in the source, and its rules are read off its text.

* `OperatorCategory.of?` — comparison, logical or arithmetic; the typing of a binary expression
  depends on nothing else.
* `BindingPower.of?` — how tightly an operator holds its left and its right side. Powers go in steps
  of two, so that the right power of an operator that groups to the left lies just above its left
  power, and that of an operator that groups to the right just below.
* `isIncrement`, `isAssignment` — the two one-sided operators and the five that assign.
-/

namespace TypedImp

/-- The kinds of binary operators that the typing rules tell apart. -/
inductive OperatorCategory
  | comparison
  | logical
  | arithmetic
  deriving DecidableEq, Repr

/-- The category of a binary operator. -/
def OperatorCategory.of? (operator : String) : Option OperatorCategory :=
  if operator ∈ ["==", "!=", "<", "<=", ">", ">="] then some .comparison
  else if operator ∈ ["&&", "||"] then some .logical
  else if operator ∈ ["+", "-", "*", "/", "^", "%"] then some .arithmetic
  else none

/-- How tightly an operator holds its two sides. -/
structure BindingPower where
  left : Nat
  right : Nat
  deriving DecidableEq, Repr

namespace BindingPower

/-- The power of an operator of a level that groups to the left. -/
def groupingLeft (level : Nat) : BindingPower :=
  ⟨2 * level, 2 * level + 1⟩

/-- The power of an operator of a level that groups to the right. -/
def groupingRight (level : Nat) : BindingPower :=
  ⟨2 * level, 2 * level - 1⟩

/-- Every operator that has a binding power, the loosest first. -/
def table : List (String × BindingPower) :=
  [("||", groupingLeft 0),
    ("&&", groupingLeft 1),
    ("==", groupingLeft 2), ("!=", groupingLeft 2),
    ("<", groupingLeft 3), ("<=", groupingLeft 3), (">", groupingLeft 3), (">=", groupingLeft 3),
    ("+", groupingLeft 4), ("-", groupingLeft 4),
    ("*", groupingLeft 5), ("/", groupingLeft 5), ("%", groupingLeft 5),
    ("^", groupingRight 6),
    ("++", groupingLeft 7), ("--", groupingLeft 7)]

/-- The binding power of an operator. -/
def of? (operator : String) : Option BindingPower :=
  table.lookup operator

/-- The power of the two increment operators. -/
def increment : BindingPower :=
  groupingLeft 7

end BindingPower

/-- Whether the operator is an increment or a decrement. -/
def isIncrement (operator : String) : Bool :=
  operator == "++" || operator == "--"

/-- The operators that assign, plain or compound. -/
def assignmentOperators : List String :=
  ["=", "+=", "-=", "*=", "/="]

/-- Whether the operator assigns. -/
def isAssignment (operator : String) : Bool :=
  assignmentOperators.contains operator

/-- Whether an assigning operator also computes with the old value. -/
def isCompound (operator : String) : Bool :=
  operator != "="

theorem BindingPower.of?_of_isIncrement {operator : String}
    (increments : isIncrement operator = true) :
    BindingPower.of? operator = some .increment := by
  rcases (by simpa [isIncrement] using increments : operator = "++" ∨ operator = "--") with
    rfl | rfl <;> rfl

end TypedImp
