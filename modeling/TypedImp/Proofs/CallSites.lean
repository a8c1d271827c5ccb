/-
**Where the calls of a program stand.**

A call is told apart from the other calls of a program by its place, and it sees what its site shows:
the scope in which it stands and the variables declared before it. Both are read off the program here,
without any pass over it.

* `Expr.calls` — the calls of an expression, apart from those inside the arguments of another call.
* `Layout` — the scopes that are opened in source order, each one with its kind and the scope around
  it, and the number of variables declared.
* `Stmt.layout`, `Program.layout` — the layout behind a statement and that of a program.
* `Stmt.callSites`, `Program.callSites` — the calls of a program with their sites.
* `nodup_places_callSites` — **no two calls of a program have the same place.**
-/

import TypedImp.Analysis.Pending

namespace TypedImp

/-! ### Calls of expressions -/

/-- The calls of an expression that are not inside the arguments of another one. -/
def Expr.calls (place : Place) : Expr → List Occurrence
  | .literal _ _ | .identifier _ => []
  | .assign _ target value => target.calls (0 :: place) ++ value.calls (1 :: place)
  | .binary _ left right => left.calls (0 :: place) ++ right.calls (1 :: place)
  | .unary _ _ operand => operand.calls (0 :: place)
  | .call callee arguments => [⟨place, .call callee arguments⟩]

/-- The calls of an expression that stands somewhere in a program. -/
def Occurrence.calls (occurrence : Occurrence) : List Occurrence :=
  occurrence.expr.calls occurrence.place

/-! ### Layouts -/

/-- The scopes opened so far in source order, each one with its kind and the number of the scope
around it, and the number of variables declared so far. -/
structure Layout where
  scopes : List (ScopeKind × Option ScopeId)
  declarations : Nat
  deriving DecidableEq, Repr

namespace Layout

/-- The global scope alone. -/
def initial : Layout := ⟨[(.global, none)], 0⟩

/-- The number of the scope that is opened next. -/
def next (layout : Layout) : ScopeId :=
  layout.scopes.length

/-- A further scope inside `parent`. -/
def openScope (layout : Layout) (kind : ScopeKind) (parent : ScopeId) : Layout :=
  { layout with scopes := layout.scopes ++ [(kind, some parent)] }

/-- Further variables. -/
def declare (layout : Layout) (count : Nat) : Layout :=
  { layout with declarations := layout.declarations + count }

/-- The site of what stands next in a scope. -/
def site (layout : Layout) (scope : ScopeId) : Site :=
  ⟨scope, layout.declarations⟩

/-- At the start of a block inside `scope`. -/
def enterBlock (layout : Layout) (scope : ScopeId) : Layout :=
  layout.openScope .block scope

/-- At the start of the body of a function that is declared in `scope`, behind its parameters. -/
def enterFunction (layout : Layout) (scope : ScopeId) (name : String)
    (parameters : List Parameter) : Layout :=
  (layout.openScope (.function name) scope).declare parameters.length

end Layout

mutual

/-- The layout behind a statement that stands in `scope`. -/
def Stmt.layout (scope : ScopeId) (before : Layout) : Stmt → Layout
  | .variableDecl _ _ _ => before.declare 1
  | .functionDecl _ name parameters body =>
    bodyLayout before.next (before.enterFunction scope name parameters) body
  | .ifChain _ body alternatives =>
    alternatives.layout scope (bodyLayout before.next (before.enterBlock scope) body)
  | .whileLoop _ body => bodyLayout before.next (before.enterBlock scope) body
  | .forLoop initializer _ _ body =>
    bodyLayout before.next (initializer.layout before.next (before.enterBlock scope)) body
  | .expression _ | .returnValue _ | .breakLoop | .continueLoop => before

/-- The layout behind what follows the body of an `if`. -/
def Alternatives.layout (scope : ScopeId) (before : Layout) : Alternatives → Layout
  | .none => before
  | .otherwise body => bodyLayout before.next (before.enterBlock scope) body
  | .elseIf _ body alternatives =>
    alternatives.layout scope (bodyLayout before.next (before.enterBlock scope) body)

/-- The layout behind statements that stand in `scope`. -/
def bodyLayout (scope : ScopeId) (before : Layout) : List Stmt → Layout
  | [] => before
  | stmt :: later => bodyLayout scope (stmt.layout scope before) later

end

/-- The layout of a program. -/
def Program.layout (program : Program) : Layout :=
  bodyLayout ScopeTree.globalId .initial program.body

/-! ### Calls and their sites -/

/-- A call of a program and its site. -/
structure CallSite where
  call : Occurrence
  site : Site

/-- Calls that have the same site. -/
def callsFrom (site : Site) (calls : List Occurrence) : List CallSite :=
  calls.map (⟨·, site⟩)

mutual

/-- The calls in a statement that stands in `scope`. The initializer of a variable stands before it,
and the parameters of a function stand before its body. -/
def Stmt.callSites (place : Place) (scope : ScopeId) (before : Layout) : Stmt → List CallSite
  | .variableDecl _ _ initializer =>
    callsFrom (before.site scope) (initializer.calls (0 :: place))
  | .functionDecl _ name parameters body =>
    bodyCallSites (1 :: place) 0 before.next (before.enterFunction scope name parameters) body
  | .expression value => callsFrom (before.site scope) (value.calls (0 :: place))
  | .returnValue (some value) => callsFrom (before.site scope) (value.calls (0 :: place))
  | .returnValue none => []
  | .ifChain condition body alternatives =>
    callsFrom (before.site scope) (condition.calls (0 :: place)) ++
      (bodyCallSites (1 :: place) 0 before.next (before.enterBlock scope) body ++
        alternatives.callSites (2 :: place) scope
          (bodyLayout before.next (before.enterBlock scope) body))
  | .whileLoop condition body =>
    callsFrom (before.site scope) (condition.calls (0 :: place)) ++
      bodyCallSites (1 :: place) 0 before.next (before.enterBlock scope) body
  | .forLoop initializer condition increment body =>
    let within := before.next
    let start := before.enterBlock scope
    let started := initializer.layout within start
    initializer.callSites (0 :: place) within start ++
      (callsFrom (started.site within) (condition.calls (1 :: place)) ++
        (callsFrom (started.site within) (increment.calls (2 :: place)) ++
          bodyCallSites (3 :: place) 0 within started body))
  | .breakLoop | .continueLoop => []

/-- The calls in what follows the body of an `if`. -/
def Alternatives.callSites (place : Place) (scope : ScopeId) (before : Layout) :
    Alternatives → List CallSite
  | .none => []
  | .otherwise body =>
    bodyCallSites (1 :: place) 0 before.next (before.enterBlock scope) body
  | .elseIf condition body alternatives =>
    callsFrom (before.site scope) (condition.calls (0 :: place)) ++
      (bodyCallSites (1 :: place) 0 before.next (before.enterBlock scope) body ++
        alternatives.callSites (2 :: place) scope
          (bodyLayout before.next (before.enterBlock scope) body))

/-- The calls in statements that stand in `scope`, the first of which has the number `index`. -/
def bodyCallSites (place : Place) (index : Nat) (scope : ScopeId) (before : Layout) :
    List Stmt → List CallSite
  | [] => []
  | stmt :: later =>
    stmt.callSites (index :: place) scope before ++
      bodyCallSites place (index + 1) scope (stmt.layout scope before) later

end

/-- The calls of a program that are not inside the arguments of another one, with their sites. -/
def Program.callSites (program : Program) : List CallSite :=
  bodyCallSites [] 0 ScopeTree.globalId .initial program.body

/-! ### Places -/

/-- The places of calls. -/
def places (found : List CallSite) : List Place :=
  found.map (·.call.place)

/-- Different places that lie all at or below a place. -/
structure Under (place : Place) (others : List Place) : Prop where
  nodup : others.Nodup
  below : ∀ other ∈ others, place <:+ other

/-- Different places that lie all below branches of a place, from the branch number `least` on. -/
structure UnderBranches (place : Place) (least : Nat) (others : List Place) : Prop where
  nodup : others.Nodup
  below : ∀ other ∈ others, ∃ branch, least ≤ branch ∧ branch :: place <:+ other

section Places

variable {place : Place} {least : Nat} {first others : List Place}

theorem under_nil (place : Place) : Under place [] :=
  ⟨List.nodup_nil, List.forall_mem_nil _⟩

theorem under_self (place : Place) : Under place [place] :=
  ⟨List.pairwise_singleton _ place, List.forall_mem_singleton.mpr (List.suffix_refl place)⟩

theorem underBranches_nil (place : Place) (least : Nat) : UnderBranches place least [] :=
  ⟨List.nodup_nil, List.forall_mem_nil _⟩

/-- Below different branches of a place there are different places. -/
theorem eq_of_suffix {branch other : Nat} {target : Place} (below : branch :: place <:+ target)
    (alsoBelow : other :: place <:+ target) : branch = other := by
  have within := List.suffix_of_suffix_length_le below alsoBelow (Nat.le_refl _)
  have same := List.IsSuffix.eq_of_length within rfl
  exact (List.cons_eq_cons.mp same).1

/-- **The places below one branch and those below further branches.** -/
theorem Under.append (here : Under (least :: place) first)
    (further : UnderBranches place (least + 1) others) :
    UnderBranches place least (first ++ others) := by
  refine ⟨List.nodup_append.mpr ⟨here.nodup, further.nodup, ?_⟩, ?_⟩
  · rintro shared inHere _ inFurther rfl
    obtain ⟨branch, later, below⟩ := further.below shared inFurther
    have same := eq_of_suffix (here.below shared inHere) below
    exact Nat.not_succ_le_self least (same ▸ later)
  · intro other member
    rcases List.mem_append.mp member with inHere | inFurther
    · exact ⟨least, Nat.le_refl least, here.below other inHere⟩
    · obtain ⟨branch, later, below⟩ := further.below other inFurther
      exact ⟨branch, Nat.le_of_succ_le later, below⟩

theorem Under.branches (here : Under (least :: place) others) :
    UnderBranches place least others := by
  have both := here.append (underBranches_nil place (least + 1))
  rwa [List.append_nil] at both

theorem UnderBranches.under (further : UnderBranches place least others) :
    Under place others := by
  refine ⟨further.nodup, fun other member => ?_⟩
  obtain ⟨branch, _, below⟩ := further.below other member
  exact (List.suffix_cons branch place).trans below

end Places

/-- **The calls of an expression have different places at or below its own.** -/
theorem under_calls (place : Place) :
    (expr : Expr) → Under place ((expr.calls place).map (·.place))
  | .literal _ _ | .identifier _ => under_nil place
  | .assign _ target value => by
    rw [Expr.calls, List.map_append]
    exact ((under_calls _ target).append (under_calls _ value).branches).under
  | .binary _ left right => by
    rw [Expr.calls, List.map_append]
    exact ((under_calls _ left).append (under_calls _ right).branches).under
  | .unary _ _ operand => (under_calls _ operand).branches.under
  | .call _ _ => under_self place

theorem under_callsFrom (site : Site) (place : Place) (expr : Expr) :
    Under place (places (callsFrom site (expr.calls place))) := by
  unfold places callsFrom
  rw [List.map_map]
  exact under_calls place expr

theorem places_append (found further : List CallSite) :
    places (found ++ further) = places found ++ places further :=
  List.map_append

mutual

theorem under_callSites {place : Place} {scope : ScopeId} {before : Layout} :
    (stmt : Stmt) → Under place (places (stmt.callSites place scope before))
  | .variableDecl _ _ initializer => (under_callsFrom _ _ initializer).branches.under
  | .functionDecl _ _ _ body => by
    rw [Stmt.callSites]
    exact (underBranches_bodyCallSites body).under.branches.under
  | .expression value => (under_callsFrom _ _ value).branches.under
  | .returnValue (some value) => (under_callsFrom _ _ value).branches.under
  | .returnValue none | .breakLoop | .continueLoop => under_nil place
  | .ifChain condition body alternatives => by
    rw [Stmt.callSites, places_append, places_append]
    exact ((under_callsFrom _ _ condition).append ((underBranches_bodyCallSites body).under.append
      (under_alternativesCallSites alternatives).branches)).under
  | .whileLoop condition body => by
    rw [Stmt.callSites, places_append]
    exact ((under_callsFrom _ _ condition).append
      (underBranches_bodyCallSites body).under.branches).under
  | .forLoop initializer condition increment body => by
    rw [Stmt.callSites, places_append, places_append, places_append]
    exact ((under_callSites initializer).append ((under_callsFrom _ _ condition).append
      ((under_callsFrom _ _ increment).append
        (underBranches_bodyCallSites body).under.branches))).under

theorem under_alternativesCallSites {place : Place} {scope : ScopeId} {before : Layout} :
    (alternatives : Alternatives) →
      Under place (places (alternatives.callSites place scope before))
  | .none => under_nil place
  | .otherwise body => by
    rw [Alternatives.callSites]
    exact (underBranches_bodyCallSites body).under.branches.under
  | .elseIf condition body alternatives => by
    rw [Alternatives.callSites, places_append, places_append]
    exact ((under_callsFrom _ _ condition).append ((underBranches_bodyCallSites body).under.append
      (under_alternativesCallSites alternatives).branches)).under

theorem underBranches_bodyCallSites {place : Place} {index : Nat} {scope : ScopeId}
    {before : Layout} : (body : List Stmt) →
      UnderBranches place index (places (bodyCallSites place index scope before body))
  | [] => underBranches_nil place index
  | stmt :: later => by
    rw [bodyCallSites, places_append]
    exact (under_callSites stmt).append (underBranches_bodyCallSites later)

end

/-- **No two calls of a program have the same place.** -/
theorem nodup_places_callSites (program : Program) : (places program.callSites).Nodup :=
  (underBranches_bodyCallSites program.body).nodup

end TypedImp
