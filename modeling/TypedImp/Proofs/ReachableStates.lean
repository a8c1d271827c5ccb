/-
**The states of an analysis.**

The first pass changes its analyzer by a few actions. A state is reachable if it comes from a new
analyzer by such actions, whether they succeed or fail; every state through which a walk over a
program runs is of this kind.

* `Analyzer.Step`, `Analyzer.Reachable` — one action, and any number of them.
* `Analyzer.Sound` — the tree is reached by operations on it, and the current scope is one of it. It
  holds at the start and is kept by every action, so it holds of every reachable state
  (`Reachable.sound`).
* `Sound.sees_site` — from a site the variables are seen as they were, however the tree grows.
* `FirstPass.reachable` — **however a walk ends, it ends in a reachable state.**
-/

import TypedImp.Proofs.FirstPass

namespace TypedImp

open Analyzer

/-- One action on an analyzer, whether it succeeds or fails. -/
inductive Analyzer.Step (analyzer : Analyzer) : Analyzer → Prop
  | checkOccurrence (occurrence : Occurrence) :
      Step analyzer (finalState (checkOccurrence occurrence) analyzer)
  | defer (occurrence : Occurrence) (requirement : Requirement) :
      Step analyzer (finalState (defer occurrence requirement) analyzer)
  | declareVariable (name : String) (type : DataType) :
      Step analyzer (finalState (declareVariable name type) analyzer)
  | declareFunction (name : String) (signature : Signature) :
      Step analyzer (finalState (declareFunction name signature) analyzer)
  | enterScope (kind : ScopeKind) : Step analyzer (finalState (enterScope kind) analyzer)
  | exitScope {id : ScopeId} (inRange : id < analyzer.scopes.count) :
      Step analyzer (finalState (exitScope id) analyzer)
  | changeContext (change : ContextStack → ContextStack) :
      Step analyzer (finalState (changeContext change) analyzer)

/-- An analyzer that comes from a new one by such actions. -/
def Analyzer.Reachable (analyzer : Analyzer) : Prop :=
  ∃ limit, Relation.ReflTransGen Analyzer.Step (.start limit) analyzer

theorem Analyzer.reachable_start (limit : Nat) : (Analyzer.start limit).Reachable :=
  ⟨limit, .refl⟩

theorem Analyzer.Reachable.step {analyzer next : Analyzer} (reachable : analyzer.Reachable)
    (step : analyzer.Step next) : next.Reachable := by
  obtain ⟨limit, run⟩ := reachable
  exact ⟨limit, run.tail step⟩

/-! ### Every reachable state is sound -/

/-- The tree is reached by operations, and the current scope is one of it. -/
structure Analyzer.Sound (analyzer : Analyzer) : Prop where
  reaches : ScopeTree.Reaches .initial analyzer.scopes
  inRange : analyzer.current < analyzer.scopes.count

namespace Analyzer

theorem sound_start (limit : Nat) : (start limit).Sound :=
  ⟨.refl, Nat.zero_lt_one⟩

theorem Sound.formed {analyzer : Analyzer} (sound : analyzer.Sound) : analyzer.scopes.Formed :=
  ScopeTree.formed_of_reaches ScopeTree.formed_initial sound.reaches

theorem Sound.opened {analyzer : Analyzer} (sound : analyzer.Sound) (kind : ScopeKind) :
    (analyzer.opened kind).Sound :=
  ⟨sound.reaches.trans (ScopeTree.Reaches.addChild sound.inRange kind),
    analyzer.opened_inRange kind⟩

theorem Passes.sound {bindings : List (String × DataType)}
    {signatures : List (String × Signature)} {before after : Analyzer}
    (passes : Passes bindings signatures before after) (sound : before.Sound) : after.Sound :=
  ⟨sound.reaches.trans passes.scopes.reaches, passes.inRange sound.inRange⟩

/-- An operation on the tree leaves the analyzer sound, also when it is refused. -/
theorem Sound.changeScopes {analyzer : Analyzer} (sound : analyzer.Sound)
    {change : ScopeTree → ScopeId → Except SemanticError ScopeTree}
    (reaches : ∀ {next}, change analyzer.scopes analyzer.current = .ok next →
      ScopeTree.Reaches analyzer.scopes next) :
    (finalState (changeScopes change) analyzer).Sound := by
  unfold finalState
  rw [changeScopes_apply]
  cases changed : change analyzer.scopes analyzer.current with
  | error error => exact sound
  | ok next =>
    have inRange := (ScopeTree.grows_of_reaches (reaches changed)).lt_count sound.inRange
    exact ⟨sound.reaches.trans (reaches changed), inRange⟩

/-- Every action keeps the analyzer sound. -/
theorem Sound.step {analyzer next : Analyzer} (sound : analyzer.Sound)
    (step : analyzer.Step next) : next.Sound := by
  cases step with
  | checkOccurrence occurrence =>
    unfold finalState Analyzer.checkOccurrence
    cases checkExpr analyzer.scopes analyzer.current occurrence.place occurrence.expr
      analyzer.pending with
    | ok checked queue => exact ⟨sound.reaches, sound.inRange⟩
    | error error queue => exact ⟨sound.reaches, sound.inRange⟩
  | defer occurrence requirement => exact ⟨sound.reaches, sound.inRange⟩
  | declareVariable name type => exact sound.changeScopes (.declareVariable sound.inRange)
  | declareFunction name signature => exact sound.changeScopes (.declareFunction sound.inRange)
  | enterScope kind => exact sound.opened kind
  | exitScope inRange => exact ⟨sound.reaches, inRange⟩
  | changeContext change => exact ⟨sound.reaches, sound.inRange⟩

/-- **Every reachable state is sound.** -/
theorem Reachable.sound {analyzer : Analyzer} (reachable : analyzer.Reachable) :
    analyzer.Sound := by
  obtain ⟨limit, run⟩ := reachable
  induction run with
  | refl => exact sound_start limit
  | tail _ step ih => exact ih.step step

end Analyzer

/-- From the site of an expression, every later tree shows the variables of the tree as it was. -/
theorem Analyzer.Sound.sees_site {analyzer : Analyzer} (sound : analyzer.Sound) {later : ScopeTree}
    (grows : analyzer.scopes.Grows later) :
    (later.view analyzer.site).Sees analyzer.scopes analyzer.site.scope := by
  intro name
  have late := grows.lookupVariableBefore sound.formed sound.inRange name
  show (later.lookupVariableBefore analyzer.current name analyzer.scopes.declarations).map _ = _
  rw [late]
  rfl

/-! ### Every walk runs through reachable states -/

/-- **However a walk ends, it ends in a reachable state.** -/
theorem FirstPass.reachable {bindings : List (String × DataType)}
    {signatures : List (String × Signature)} {α : Type} {walk : Analysis α}
    (pass : FirstPass bindings signatures walk) {analyzer : Analyzer}
    (reachable : analyzer.Reachable) : (finalState walk analyzer).Reachable := by
  induction pass generalizing analyzer with
  | @ofExcept _ value _ => cases value <;> exact reachable
  | throw _ => exact reachable
  | bind _ _ head tail =>
    exact finalState_bind (head reachable) fun value _ _ middle => tail value middle
  | reading _ each => exact each _ _ _ reachable
  | checkOccurrence occurrence => exact reachable.step (.checkOccurrence occurrence)
  | defer occurrence requirement => exact reachable.step (.defer occurrence requirement)
  | declareVariable name type => exact reachable.step (.declareVariable name type)
  | declareFunction name signature => exact reachable.step (.declareFunction name signature)
  | @withScope _ _ inside kind pass ih =>
    have opened : (analyzer.opened kind).Reachable := reachable.step (.enterScope kind)
    have inner := ih opened
    unfold finalState at inner ⊢
    rw [withScope_apply]
    cases ended : inside (analyzer.opened kind) with
    | error error after =>
      rw [ended] at inner
      exact inner
    | ok nothing after =>
      rw [ended] at inner
      have passes := pass.passes (analyzer.opened_inRange kind) ended
      have grows := (ScopeTree.grows_addChild analyzer.scopes analyzer.current kind).trans
        (ScopeTree.grows_of_reaches passes.scopes.reaches)
      exact inner.step (.exitScope (grows.lt_count reachable.sound.inRange))
  | @withFrame _ _ inside frame _ ih =>
    let framed : Analyzer := { analyzer with context := analyzer.context.push frame }
    have inner : (finalState inside framed).Reachable :=
      ih (reachable.step (.changeContext (·.push frame)))
    unfold finalState at inner ⊢
    rw [withFrame_apply]
    cases ended : inside framed with
    | error error after =>
      rw [ended] at inner
      exact inner
    | ok nothing after =>
      rw [ended] at inner
      exact inner.step (.changeContext (·.exit))

/-- The walk over a program ends in a reachable state. -/
theorem reachable_checkProgram (program : Program) (limit : Nat) :
    (finalState (checkProgram program) (.start limit)).Reachable :=
  (firstPass_checkStmts [] 0 program.body).reachable (reachable_start limit)

end TypedImp
