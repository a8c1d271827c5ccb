/-
**The primitive types of the language.**

* `DataType.name` and `DataType.ofName?` — the keyword of a type and the type of a keyword; each
  undoes the other (`ofName?_eq_some_iff`).
* `DataType.isNumeric` — integers and floats, the two types that arithmetic accepts.
-/

namespace TypedImp

/-- The primitive types. -/
inductive DataType
  | int
  | string
  | boolean
  | float
  | char
  | void
  | null
  deriving DecidableEq, Repr

namespace DataType

/-- The keyword that names the type. -/
def name : DataType → String
  | int => "int"
  | string => "string"
  | boolean => "boolean"
  | float => "float"
  | char => "char"
  | void => "void"
  | null => "null"

/-- Every type, once. -/
def all : List DataType :=
  [int, string, boolean, float, char, void, null]

/-- The type that a keyword names. -/
def ofName? (keyword : String) : Option DataType :=
  all.find? (·.name == keyword)

/-- Whether arithmetic accepts the type. -/
def isNumeric : DataType → Bool
  | int | float => true
  | _ => false

theorem mem_all (type : DataType) : type ∈ all := by
  cases type <;> simp [all]

theorem name_injective {left right : DataType} (same : left.name = right.name) : left = right := by
  cases left <;> cases right <;> simp_all [name]

theorem ofName?_eq_some_iff {keyword : String} {type : DataType} :
    ofName? keyword = some type ↔ type.name = keyword := by
  constructor
  · intro found
    simpa using List.find?_some found
  · rintro rfl
    cases type <;> simp [ofName?, all, name]

end DataType

end TypedImp
