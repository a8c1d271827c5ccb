/-
**Which lookups a declaration changes.**

A declaration is seen from a scope exactly if the search outward comes to the scope in which it
stands: that scope is on the chain, and no scope before it there declares the same name.

* `Unshadowed` — what is declared in a scope is reached on a chain.
* `findSome?_of_declared` — behind a declaration, a search along a chain finds it if it is
  unshadowed, and what it found before if it is not.
* `VariableLookups`, `FunctionLookups` — all lookups behind a declaration, given those before it.
* `lookups_of_declare` — **a declaration of a name that the scope already has is refused and changes
  nothing; any other one changes the lookups that come to it, and no others.**

A variable is recognised by its ordinal, which no other variable has. A function has none, and
another one may have the same signature, so it is recognised by the scope and the name under which
it is found (`functionFound?`).
-/

import TypedImp.Proofs.ScopeLinks

namespace TypedImp

/-! ### Searches along a chain -/

section Search

variable {α : Type} {own? later? : Scope → Option α} {id : ScopeId}

/-- What a scope declares is reached on a chain: no scope before it there has a declaration of its
own. -/
def Unshadowed (own? : Scope → Option α) (id : ScopeId) (chain : List Scope) : Prop :=
  ∃ inner scope outer, chain = inner ++ scope :: outer ∧ scope.id = id ∧
    ∀ between ∈ inner, own? between = none

/-- Only whether a scope has a declaration matters, not what goes with it. -/
theorem unshadowed_map {β : Type} {f : Scope → α → β} {chain : List Scope} :
    Unshadowed (fun scope => (own? scope).map (f scope)) id chain ↔ Unshadowed own? id chain := by
  unfold Unshadowed
  simp only [Option.map_eq_none_iff]

theorem unshadowed_nil : ¬Unshadowed own? id [] := by
  rintro ⟨inner, scope, outer, split, _⟩
  simp at split

theorem unshadowed_cons {scope : Scope} {outer : List Scope} :
    Unshadowed own? id (scope :: outer) ↔
      scope.id = id ∨ own? scope = none ∧ Unshadowed own? id outer := by
  constructor
  · rintro ⟨inner, reached, rest, split, isScope, before⟩
    cases inner with
    | nil =>
      obtain ⟨rfl, rfl⟩ := List.cons.inj split
      exact .inl isScope
    | cons first inner =>
      obtain ⟨rfl, rfl⟩ := List.cons.inj split
      exact .inr ⟨before scope List.mem_cons_self, inner, reached, rest, rfl, isScope,
        fun between member => before between (List.mem_cons_of_mem _ member)⟩
  · rintro (isScope | ⟨absent, inner, reached, rest, rfl, isScope, before⟩)
    · exact ⟨[], scope, outer, rfl, isScope, fun _ member => by cases member⟩
    · refine ⟨scope :: inner, reached, rest, rfl, isScope, fun between member => ?_⟩
      rcases List.mem_cons.mp member with rfl | further
      · exact absent
      · exact before between further

/-- **A search behind a declaration** finds it if it is unshadowed, and otherwise what was found
before. -/
theorem findSome?_of_declared {added : α} {chain : List Scope}
    (declared : ∀ scope ∈ chain, later? scope = if scope.id = id then some added else own? scope) :
    (Unshadowed own? id chain → chain.findSome? later? = some added) ∧
      (¬Unshadowed own? id chain → chain.findSome? later? = chain.findSome? own?) := by
  induction chain with
  | nil => exact ⟨fun reached => absurd reached unshadowed_nil, fun _ => rfl⟩
  | cons scope outer ih =>
    have head := declared scope List.mem_cons_self
    obtain ⟨reached, unreached⟩ := ih fun other member =>
      declared other (List.mem_cons_of_mem _ member)
    rw [unshadowed_cons, List.findSome?_cons, List.findSome?_cons, head]
    by_cases isScope : scope.id = id
    · simp [isScope]
    · rw [if_neg isScope]
      cases own? scope with
      | some value => simp [isScope]
      | none => simpa [isScope] using ⟨reached, unreached⟩

end Search

/-! ### A scope with a further declaration -/

namespace Scope

theorem variableNamed?_withVariable (scope : Scope) (name : String) (declared : Variable)
    (other : String) :
    (scope.withVariable name declared).variableNamed? other =
      (scope.variableNamed? other).or (if other = name then some declared else none) := by
  unfold variableNamed? withVariable
  rw [List.lookup_append, List.lookup_cons, List.lookup_nil]
  by_cases same : other = name
  · simp [same]
  · rw [if_neg same, beq_eq_false_iff_ne.mpr same]

theorem functionNamed?_withFunction (scope : Scope) (name : String) (signature : Signature)
    (other : String) :
    (scope.withFunction name signature).functionNamed? other =
      (scope.functionNamed? other).or (if other = name then some signature else none) := by
  unfold functionNamed? withFunction
  rw [List.lookup_append, List.lookup_cons, List.lookup_nil]
  by_cases same : other = name
  · simp [same]
  · rw [if_neg same, beq_eq_false_iff_ne.mpr same]

/-- The function of a name that is declared directly in the scope, with the scope and the name. -/
def functionHere? (scope : Scope) (name : String) : Option (ScopeId × String × Signature) :=
  (scope.functionNamed? name).map (scope.id, name, ·)

end Scope

namespace ScopeTree

/-- The innermost function of a name that is visible from a scope, with the scope in which it is
declared and the name. -/
def functionFound? (tree : ScopeTree) (start : ScopeId) (name : String) :
    Option (ScopeId × String × Signature) :=
  (tree.ancestors start).findSome? (·.functionHere? name)

/-- It is the function that a lookup finds. -/
theorem map_functionFound? (tree : ScopeTree) (start : ScopeId) (name : String) :
    (tree.functionFound? start name).map (·.2.2) = tree.lookupFunction start name := by
  unfold functionFound? lookupFunction
  rw [List.map_findSome?]
  congr 1
  funext scope
  unfold Scope.functionHere?
  rw [Function.comp_apply, Option.map_map]
  exact Option.map_id'

/-! ### Lookups in a tree in which one scope has changed -/

/-- In a tree that operations reach, the number that a scope keeps is its place. -/
theorem id_eq_of_get? {tree : ScopeTree} (reached : Reaches .initial tree) {id : ScopeId}
    {scope : Scope} (found : tree.get? id = some scope) : scope.id = id := by
  obtain ⟨census, formed, rfl⟩ := Census.exists_census_of_reaches reached
  exact (linked_tree formed).id_eq found

/-- One tree is another in which a single scope has been changed; it has kept its parent. -/
structure Changes (change : Scope → Scope) (id : ScopeId) (tree next : ScopeTree) : Prop where
  parent : ∀ scope, (change scope).parent = scope.parent
  scopes : ∀ other, next.get? other =
    if id = other then (tree.get? other).map change else tree.get? other

namespace Changes

variable {tree next : ScopeTree} {id : ScopeId} {change : Scope → Scope} {α : Type}

/-- The change is seen on every chain, wherever the scope stands there. -/
theorem ancestors (changes : Changes change id tree next) (reached : Reaches .initial tree)
    (start : ScopeId) :
    next.ancestors start =
      (tree.ancestors start).map fun scope => if scope.id = id then change scope else scope := by
  refine ancestors_map (fun scope => ?_) (fun other => ?_) start
  · by_cases isScope : scope.id = id
    · rw [if_pos isScope, changes.parent]
    · rw [if_neg isScope]
  · rw [changes.scopes]
    cases found : tree.get? other with
    | none => simp
    | some scope =>
      rw [Option.map_some, Option.map_some, id_eq_of_get? reached found]
      by_cases isScope : other = id
      · rw [if_pos isScope.symm, if_pos isScope]
      · rw [if_neg (Ne.symm isScope), if_neg isScope]

/-- A search for something that the change does not touch finds what it found. -/
theorem findSome?_of_untouched (changes : Changes change id tree next)
    (reached : Reaches .initial tree) {own? : Scope → Option α}
    (untouched : ∀ scope, own? (change scope) = own? scope) (start : ScopeId) :
    (next.ancestors start).findSome? own? = (tree.ancestors start).findSome? own? := by
  rw [changes.ancestors reached, List.findSome?_map]
  congr 1
  funext scope
  rw [Function.comp_apply]
  by_cases isScope : scope.id = id
  · rw [if_pos isScope, untouched]
  · rw [if_neg isScope]

/-- A search for something that the changed scope has gained finds it where it is unshadowed. -/
theorem findSome?_of_gained (changes : Changes change id tree next)
    (reached : Reaches .initial tree) (own? : Scope → Option α) {added : α}
    (gained : ∀ scope, tree.get? id = some scope → own? (change scope) = some added)
    (start : ScopeId) :
    (Unshadowed own? id (tree.ancestors start) →
        (next.ancestors start).findSome? own? = some added) ∧
      (¬Unshadowed own? id (tree.ancestors start) →
        (next.ancestors start).findSome? own? = (tree.ancestors start).findSome? own?) := by
  rw [changes.ancestors reached, List.findSome?_map]
  refine findSome?_of_declared fun scope member => ?_
  rw [Function.comp_apply]
  by_cases isScope : scope.id = id
  · obtain ⟨place, found⟩ := exists_get?_of_mem_ancestors member
    obtain rfl : place = id := by rw [← id_eq_of_get? reached found, isScope]
    rw [if_pos isScope, if_pos isScope, gained scope found]
  · rw [if_neg isScope, if_neg isScope]

end Changes

/-! ### Lookups behind a declaration -/

/-- All lookups behind a declaration of a variable, given those before it. -/
structure VariableLookups (tree next : ScopeTree) (id : ScopeId) (name : String)
    (type : DataType) : Prop where
  new_iff : ∀ start other, next.lookupVariable start other = some ⟨type, tree.declarations⟩ ↔
    other = name ∧ Unshadowed (·.variableNamed? name) id (tree.ancestors start)
  old : ∀ start other,
    ¬(other = name ∧ Unshadowed (·.variableNamed? name) id (tree.ancestors start)) →
      next.lookupVariable start other = tree.lookupVariable start other
  ofFunctions : ∀ start other, next.lookupFunction start other = tree.lookupFunction start other

/-- All lookups behind a declaration of a function, given those before it. -/
structure FunctionLookups (tree next : ScopeTree) (id : ScopeId) (name : String)
    (signature : Signature) : Prop where
  new_iff : ∀ start other, next.functionFound? start other = some (id, name, signature) ↔
    other = name ∧ Unshadowed (·.functionNamed? name) id (tree.ancestors start)
  new : ∀ start, Unshadowed (·.functionNamed? name) id (tree.ancestors start) →
    next.lookupFunction start name = some signature
  old : ∀ start other,
    ¬(other = name ∧ Unshadowed (·.functionNamed? name) id (tree.ancestors start)) →
      next.lookupFunction start other = tree.lookupFunction start other
  ofVariables : ∀ start other, next.lookupVariable start other = tree.lookupVariable start other

section Declared

variable {tree next : ScopeTree} {id : ScopeId} {name : String}

/-- The ordinal of a variable that a lookup finds is below the number of declarations. -/
theorem ordinal_lt_of_lookupVariable (formed : tree.Formed) {start : ScopeId} {other : String}
    {declared : Variable} (visible : tree.lookupVariable start other = some declared) :
    declared.ordinal < tree.declarations := by
  obtain ⟨scope, member, own⟩ := List.exists_of_findSome?_eq_some visible
  obtain ⟨place, found⟩ := exists_get?_of_mem_ancestors member
  obtain ⟨before, after, split, _⟩ := List.lookup_eq_some_iff.mp own
  exact formed.ordinal_lt found (other, declared) (by simp [split])

/-- The function that a search finds is declared in the scope and under the name it comes with. -/
theorem functionFound?_eq_some (reached : Reaches .initial tree) {start found : ScopeId}
    {other under : String} {signature : Signature}
    (visible : tree.functionFound? start other = some (found, under, signature)) :
    under = other ∧ (tree.get? found).bind (·.functionNamed? other) = some signature := by
  obtain ⟨scope, member, own⟩ := List.exists_of_findSome?_eq_some visible
  obtain ⟨place, atPlace⟩ := exists_get?_of_mem_ancestors member
  obtain ⟨declared, named, same⟩ := Option.map_eq_some_iff.mp own
  obtain ⟨rfl, rfl, rfl⟩ : scope.id = found ∧ other = under ∧ declared = signature := by
    simpa using same
  obtain rfl := id_eq_of_get? reached atPlace
  exact ⟨rfl, by rw [atPlace, Option.bind_some, named]⟩

/-- **A variable that is declared is found where it is unshadowed**, and nothing else changes. -/
theorem variableLookups_of_declareVariable (reached : Reaches .initial tree) {type : DataType}
    (declared : tree.declareVariable id name type = .ok next) :
    VariableLookups tree next id name type := by
  have changes : Changes (·.withVariable name ⟨type, tree.declarations⟩) id tree next :=
    ⟨fun _ => rfl, get?_declareVariable declared⟩
  have gained : ∀ scope, tree.get? id = some scope →
      (scope.withVariable name ⟨type, tree.declarations⟩).variableNamed? name =
        some ⟨type, tree.declarations⟩ := by
    intro scope found
    have absent := (declareVariable_eq_ok_iff.mp declared).1
    rw [found, Option.bind_some] at absent
    rw [scope.variableNamed?_withVariable, absent, if_pos rfl, Option.none_or]
  have search := changes.findSome?_of_gained reached (·.variableNamed? name) gained
  have old : ∀ start other,
      ¬(other = name ∧ Unshadowed (·.variableNamed? name) id (tree.ancestors start)) →
        next.lookupVariable start other = tree.lookupVariable start other := by
    intro start other unseen
    by_cases same : other = name
    · subst same
      exact (search start).2 fun seen => unseen ⟨rfl, seen⟩
    · refine changes.findSome?_of_untouched reached (fun scope => ?_) start
      rw [scope.variableNamed?_withVariable, if_neg same, Option.or_none]
  refine ⟨fun start other => ⟨fun found => ?_, ?_⟩, old, fun start other => ?_⟩
  · -- No variable had this ordinal before, so what is found cannot be an old one.
    by_contra unseen
    rw [old start other unseen] at found
    have formed := formed_of_reaches formed_initial reached
    exact Nat.lt_irrefl _ (ordinal_lt_of_lookupVariable formed found)
  · rintro ⟨rfl, seen⟩
    exact (search start).1 seen
  · exact changes.findSome?_of_untouched reached (fun _ => rfl) start

/-- **A function that is declared is found where it is unshadowed**, and nothing else changes. -/
theorem functionLookups_of_declareFunction (reached : Reaches .initial tree) {signature : Signature}
    (declared : tree.declareFunction id name signature = .ok next) :
    FunctionLookups tree next id name signature := by
  have absent := (declareFunction_eq_ok_iff.mp declared).1
  have changes : Changes (·.withFunction name signature) id tree next :=
    ⟨fun _ => rfl, get?_declareFunction declared⟩
  have gained : ∀ scope, tree.get? id = some scope →
      (scope.withFunction name signature).functionHere? name = some (id, name, signature) := by
    intro scope found
    have isPlace : (scope.withFunction name signature).id = id :=
      show scope.id = id from id_eq_of_get? reached found
    rw [found, Option.bind_some] at absent
    rw [Scope.functionHere?, scope.functionNamed?_withFunction, absent, if_pos rfl, Option.none_or,
      Option.map_some, isPlace]
  have search := changes.findSome?_of_gained reached (·.functionHere? name) gained
  have seen_iff : ∀ start, Unshadowed (·.functionHere? name) id (tree.ancestors start) ↔
      Unshadowed (·.functionNamed? name) id (tree.ancestors start) := fun _ => unshadowed_map
  simp only [seen_iff] at search
  have old : ∀ start other,
      ¬(other = name ∧ Unshadowed (·.functionNamed? name) id (tree.ancestors start)) →
        next.functionFound? start other = tree.functionFound? start other := by
    intro start other unseen
    by_cases same : other = name
    · subst same
      exact (search start).2 fun seen => unseen ⟨rfl, seen⟩
    · refine changes.findSome?_of_untouched reached (fun scope => ?_) start
      rw [Scope.functionHere?, scope.functionNamed?_withFunction, if_neg same, Option.or_none]
      rfl
  refine ⟨fun start other => ⟨fun found => ?_, ?_⟩, fun start seen => ?_,
    fun start other unseen => ?_, fun start other => ?_⟩
  · -- The scope had no function of the name before, so what is found there cannot be an old one.
    by_contra unseen
    rw [old start other unseen] at found
    obtain ⟨rfl, present⟩ := functionFound?_eq_some reached found
    rw [absent] at present
    cases present
  · rintro ⟨rfl, seen⟩
    exact (search start).1 seen
  · have found : next.functionFound? start name = some (id, name, signature) :=
      (search start).1 seen
    rw [← map_functionFound?, found]
    rfl
  · rw [← map_functionFound?, ← map_functionFound?, old start other unseen]
  · exact changes.findSome?_of_untouched reached (fun _ => rfl) start

/-- **Declaring affects exactly the right lookups.** A name that the scope already has is refused
and the tree is as before; otherwise the declaration is found wherever it is unshadowed, and every
other lookup finds what it found. -/
theorem lookups_of_declare (reached : Reaches .initial tree) (inRange : id < tree.count)
    (name : String) :
    ∃ scope, tree.get? id = some scope ∧
      (∀ type,
        (scope.variableNamed? name ≠ none →
          tree.declareVariable id name type = .error (.variableAlreadyDeclared name) ∧
            tree.perform (.declareVariable id name type) = tree) ∧
        (scope.variableNamed? name = none →
          ∃ next, tree.declareVariable id name type = .ok next ∧
            tree.perform (.declareVariable id name type) = next ∧
            VariableLookups tree next id name type)) ∧
      ∀ signature,
        (scope.functionNamed? name ≠ none →
          tree.declareFunction id name signature = .error (.functionAlreadyDeclared name) ∧
            tree.perform (.declareFunction id name signature) = tree) ∧
        (scope.functionNamed? name = none →
          ∃ next, tree.declareFunction id name signature = .ok next ∧
            tree.perform (.declareFunction id name signature) = next ∧
            FunctionLookups tree next id name signature) := by
  obtain ⟨scope, found⟩ := get?_eq_some_of_lt inRange
  refine ⟨scope, found, fun type => ⟨fun taken => ?_, fun absent => ?_⟩,
    fun signature => ⟨fun taken => ?_, fun absent => ?_⟩⟩
  · obtain ⟨declared, own⟩ := Option.ne_none_iff_exists'.mp taken
    have refused : tree.declareVariable id name type = .error (.variableAlreadyDeclared name) := by
      simp [declareVariable, found, own]
    exact ⟨refused, by rw [perform, refused]; rfl⟩
  · obtain ⟨next, accepted⟩ : ∃ next, tree.declareVariable id name type = .ok next :=
      ⟨_, declareVariable_eq_ok_iff.mpr ⟨by rw [found, Option.bind_some, absent], rfl⟩⟩
    exact ⟨next, accepted, by rw [perform, accepted]; rfl,
      variableLookups_of_declareVariable reached accepted⟩
  · obtain ⟨declared, own⟩ := Option.ne_none_iff_exists'.mp taken
    have refused : tree.declareFunction id name signature =
        .error (.functionAlreadyDeclared name) := by
      simp [declareFunction, found, own]
    exact ⟨refused, by rw [perform, refused]; rfl⟩
  · obtain ⟨next, accepted⟩ : ∃ next, tree.declareFunction id name signature = .ok next :=
      ⟨_, declareFunction_eq_ok_iff.mpr ⟨by rw [found, Option.bind_some, absent], rfl⟩⟩
    exact ⟨next, accepted, by rw [perform, accepted]; rfl,
      functionLookups_of_declareFunction reached accepted⟩

/-- Three blocks, one inside the other, of which the innermost has a variable `x`: another one is
declared in the middle block, and then once more. -/
theorem lookups_of_declare_shadowed :
    let tree := (((initial.perform (.addChild 0 .block)).perform (.addChild 1 .block)).perform
      (.addChild 2 .block)).perform (.declareVariable 3 "x" .float)
    let next := tree.perform (.declareVariable 2 "x" .int)
    Reaches .initial tree ∧ Reaches .initial next ∧ 2 < tree.count ∧ 2 < next.count ∧
      VariableLookups tree next 2 "x" .int ∧
      [3, 2, 1].map (next.lookupVariable · "x") = [some ⟨.float, 0⟩, some ⟨.int, 1⟩, none] ∧
      next.declareVariable 2 "x" .string = .error (.variableAlreadyDeclared "x") := by
  intro tree next
  have reached : Reaches .initial tree :=
    (((Relation.ReflTransGen.single ⟨.addChild 0 .block, by decide, rfl⟩).tail
      ⟨.addChild 1 .block, by decide, rfl⟩).tail ⟨.addChild 2 .block, by decide, rfl⟩).tail
      ⟨.declareVariable 3 "x" .float, by decide, rfl⟩
  have further : Reaches .initial next :=
    reached.tail ⟨.declareVariable 2 "x" .int, by decide, rfl⟩
  obtain ⟨scope, found, declaring, _⟩ := lookups_of_declare reached (by decide : 2 < tree.count) "x"
  obtain ⟨after, _, rfl, lookups⟩ := (declaring .int).2 (by
    rw [← Option.some.inj (show some _ = some scope from found)]
    decide +kernel)
  obtain ⟨grown, foundGrown, again, _⟩ :=
    lookups_of_declare further (by decide : 2 < next.count) "x"
  have refused := (again .string).1 (by
    rw [← Option.some.inj (show some _ = some grown from foundGrown)]
    decide +kernel)
  exact ⟨reached, further, by decide, by decide, lookups, by decide +kernel, refused.1⟩

end Declared

end ScopeTree

end TypedImp
