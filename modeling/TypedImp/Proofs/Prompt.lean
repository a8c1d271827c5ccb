/-
**Prompt computations.**

A computation that reads tokens is prompt if it looks no further than the next token. Then what it
has read and found out is settled by the tokens it has read and the one in front of which it stands:
a success is repeated before every other text that starts alike, and so is an error. And it
gets stuck no later than it must: what it has read before an error can be completed.

A prompt computation has rules for the ways in which readers are put together. What it reads is
described by the lexemes of the tokens (`spec`), which the rules add up.

* `Takes` — a computation takes some tokens for a value, if what follows allows it.
* `Sampled` — there are tokens that a computation takes.
* `Steady` — the promises about success and failure, for fewer tokens than a bound. The bound is
  what an induction over a recursive reader goes along.
* `Prompt` — both. `Prompt.bind`, `Prompt.peek`, … are its rules.
-/

import TypedImp.Proofs.Parsing

namespace TypedImp

open Parsing

/-- The lexemes of tokens, in order. -/
abbrev lexemesOf (tokens : List Token) : List String :=
  tokens.map (·.lexeme)

/-- Every token of the kind of types carries the keyword of a type. -/
def Typed (tokens : List Token) : Prop :=
  ∀ token ∈ tokens, token.kind = .type → (DataType.ofName? token.lexeme).isSome = true

instance : DecidablePred Typed :=
  fun tokens => inferInstanceAs (Decidable (∀ token ∈ tokens, _))

variable {α β : Type}

/-- The computation takes the tokens for the value, whatever follows them with the given property. -/
def Takes (read : Parsing α) (tokens : List Token) (value : α) (follows : List Token → Prop) : Prop :=
  ∀ later, follows later → read (tokens ++ later) = .ok (value, later)

/-- There are tokens that the computation takes. With what follows them they have the property
`opens`. -/
def Sampled (opens follows : List Token → Prop) (spec : α → List String → Prop)
    (read : Parsing α) : Prop :=
  ∃ tokens value, spec value (lexemesOf tokens) ∧ Takes read tokens value follows ∧
    ∀ later, follows later → opens (tokens ++ later)

/-- What the computation does is settled by the tokens it reads and the one behind them.

The texts that follow a success are those that start alike and all with the property `follows`; if
nothing is read, `idle` holds. What is read before an error can be completed. -/
structure Steady (idle : Prop) (bound : Nat) (follows : List Token → Prop)
    (spec : α → List String → Prop) (read : Parsing α) : Prop where
  success : ∀ ⦃tokens rest value⦄, tokens.length < bound → read tokens = .ok (value, rest) →
    ∃ consumed, tokens = consumed ++ rest ∧ spec value (lexemesOf consumed) ∧
      Takes read consumed value (fun later => later.head? = rest.head? ∨ follows later) ∧
      (consumed = [] → idle)
  failure : ∀ ⦃tokens stuck⦄, tokens.length < bound → Typed tokens → read tokens = .error stuck →
    ∃ consumed, tokens = consumed ++ stuck.rest ∧
      (∀ later, later.head? = stuck.rest.head? →
        read (consumed ++ later) = .error ⟨stuck.expected, later⟩) ∧
      (consumed ≠ [] → ∃ completion value, spec value (lexemesOf (consumed ++ completion)) ∧
        Takes read (consumed ++ completion) value follows)

/-- A steady computation that takes some tokens. -/
structure Prompt (idle : Prop) (bound : Nat) (opens follows : List Token → Prop)
    (spec : α → List String → Prop) (read : Parsing α) : Prop where
  sampled : Sampled opens follows spec read
  steady : Steady idle bound follows spec read

theorem head?_append_eq {tokens later other rest : List Token}
    (same : tokens = [] → later.head? = other.head?) (split : rest = tokens ++ other) :
    (tokens ++ later).head? = rest.head? := by
  subst split
  cases tokens with
  | nil => exact same rfl
  | cons token tokens => rfl

/-! ### Weaker promises -/

section Weaker

variable {idle weaker : Prop} {bound : Nat} {opens lax follows : List Token → Prop}
  {spec other : α → List String → Prop} {read : Parsing α}

theorem Sampled.mono (sampled : Sampled opens follows spec read)
    (opensLax : ∀ tokens, opens tokens → lax tokens)
    (imp : ∀ value lexemes, spec value lexemes → other value lexemes) :
    Sampled lax follows other read := by
  obtain ⟨tokens, value, spelt, takes, starts⟩ := sampled
  exact ⟨tokens, value, imp _ _ spelt, takes, fun later holds => opensLax _ (starts later holds)⟩

theorem Steady.mono (steady : Steady idle bound follows spec read) (imp : idle → weaker)
    {smaller : Nat} (within : smaller ≤ bound)
    (impSpec : ∀ value lexemes, spec value lexemes → other value lexemes) :
    Steady weaker smaller follows other read := by
  constructor
  · intro tokens rest value short reads
    obtain ⟨consumed, split, spelt, takes, nothing⟩ :=
      steady.success (Nat.lt_of_lt_of_le short within) reads
    exact ⟨consumed, split, impSpec _ _ spelt, takes, imp ∘ nothing⟩
  · intro tokens stuck short typed fails
    obtain ⟨consumed, split, stable, completes⟩ :=
      steady.failure (Nat.lt_of_lt_of_le short within) typed fails
    refine ⟨consumed, split, stable, fun some => ?_⟩
    obtain ⟨completion, value, spelt, takes⟩ := completes some
    exact ⟨completion, value, impSpec _ _ spelt, takes⟩

theorem Prompt.mono (prompt : Prompt idle bound opens follows spec read) (imp : idle → weaker)
    {smaller : Nat} (within : smaller ≤ bound) (opensLax : ∀ tokens, opens tokens → lax tokens)
    (impSpec : ∀ value lexemes, spec value lexemes → other value lexemes) :
    Prompt weaker smaller lax follows other read :=
  ⟨prompt.sampled.mono opensLax impSpec, prompt.steady.mono imp within impSpec⟩

theorem Prompt.spell (prompt : Prompt idle bound opens follows spec read)
    (impSpec : ∀ value lexemes, spec value lexemes → other value lexemes) :
    Prompt idle bound opens follows other read :=
  prompt.mono id (Nat.le_refl _) (fun _ => id) impSpec

/-- A computation that always reads something. -/
theorem Prompt.eager (prompt : Prompt False bound opens follows spec read) {smaller : Nat}
    (within : smaller ≤ bound) : Prompt idle smaller opens follows spec read :=
  prompt.mono False.elim within (fun _ => id) fun _ _ => id

/-- No list of tokens is shorter than nothing. -/
theorem Steady.zero : Steady idle 0 follows spec read :=
  ⟨nofun, nofun⟩

end Weaker

/-! ### Putting computations together -/

section Bind

variable {idle : Prop} {bound : Nat}
  {opens opensNext follows followsFirst : List Token → Prop}
  {specFirst : α → List String → Prop} {spec : β → List String → Prop}
  {read : Parsing α} {next : α → Parsing β}

theorem Sampled.bind (first : Sampled opens followsFirst specFirst read)
    (second : ∀ value lexemes, specFirst value lexemes →
      Sampled opensNext follows (fun result later => spec result (lexemes ++ later)) (next value))
    (link : ∀ tokens, opensNext tokens → followsFirst tokens) :
    Sampled opens follows spec (read >>= next) := by
  obtain ⟨tokens, value, spelt, takes, starts⟩ := first
  obtain ⟨more, result, speltAll, takesNext, startsNext⟩ := second value _ spelt
  refine ⟨tokens ++ more, result, ?_, fun later holds => ?_, fun later holds => ?_⟩
  · rwa [lexemesOf, List.map_append]
  · rw [List.append_assoc, bind_of_ok (takes _ (link _ (startsNext later holds)))]
    exact takesNext later holds
  · rw [List.append_assoc]
    exact starts _ (link _ (startsNext later holds))

/-- **One computation after another**, if what the second starts with may follow the first. -/
theorem Steady.bind (first : Steady idle bound followsFirst specFirst read)
    (second : ∀ value lexemes, specFirst value lexemes →
      Prompt (∀ later, follows later → followsFirst later) (bound - lexemes.length) opensNext
        follows (fun result later => spec result (lexemes ++ later)) (next value))
    (link : ∀ tokens, opensNext tokens → followsFirst tokens) :
    Steady idle bound follows spec (read >>= next) := by
  constructor
  · intro tokens rest result short reads
    rw [Parsing.bind_apply] at reads
    split at reads
    · rename_i value middle readsFirst
      obtain ⟨consumed, rfl, spelt, takes, nothing⟩ := first.success short readsFirst
      have shortNext : middle.length < bound - (lexemesOf consumed).length := by
        simp only [List.length_append, List.length_map] at short ⊢
        omega
      obtain ⟨more, rfl, speltAll, takesNext, nothingNext⟩ :=
        (second value _ spelt).steady.success shortNext reads
      refine ⟨consumed ++ more, (List.append_assoc ..).symm, ?_, fun later alike => ?_, ?_⟩
      · rwa [lexemesOf, List.map_append]
      · have passes : (more ++ later).head? = (more ++ rest).head? ∨ followsFirst (more ++ later) := by
          rcases alike with same | holds
          · exact .inl (head?_append_eq (fun _ => same) rfl)
          · cases more with
            | nil => exact .inr (nothingNext rfl later holds)
            | cons token more => exact .inl rfl
        rw [List.append_assoc, bind_of_ok (takes _ passes)]
        exact takesNext later alike
      · intro empty
        exact nothing (List.append_eq_nil_iff.mp empty).1
    · cases reads
  · intro tokens stuck short typed fails
    rw [Parsing.bind_apply] at fails
    split at fails
    · rename_i value middle readsFirst
      obtain ⟨consumed, rfl, spelt, takes, _⟩ := first.success short readsFirst
      have shortNext : middle.length < bound - (lexemesOf consumed).length := by
        simp only [List.length_append, List.length_map] at short ⊢
        omega
      have typedNext : Typed middle := fun token member => typed token (List.mem_append_right _ member)
      have prompt := second value _ spelt
      obtain ⟨more, split, stable, completes⟩ := prompt.steady.failure shortNext typedNext fails
      refine ⟨consumed ++ more, by rw [split, List.append_assoc], fun later same => ?_, fun _ => ?_⟩
      · rw [List.append_assoc,
          bind_of_ok (takes _ (.inl (head?_append_eq (fun _ => same) split)))]
        exact stable later same
      · by_cases none : more = []
        · -- nothing of the second was read, so a sample of it will do
          subst none
          obtain ⟨sample, result, speltAll, takesNext, starts⟩ := prompt.sampled
          refine ⟨sample, result, ?_, fun later holds => ?_⟩
          · rwa [List.append_nil, lexemesOf, List.map_append]
          · rw [List.append_nil, List.append_assoc,
              bind_of_ok (takes _ (.inr (link _ (starts later holds))))]
            exact takesNext later holds
        · obtain ⟨completion, result, speltAll, takesNext⟩ := completes none
          refine ⟨completion, result, ?_, fun later holds => ?_⟩
          · rwa [List.append_assoc, lexemesOf, List.map_append]
          · have same : (more ++ completion ++ later).head? = middle.head? := by
              rw [List.append_assoc]
              exact head?_append_eq (fun empty => absurd empty none) split
            rw [List.append_assoc, List.append_assoc, ← List.append_assoc more,
              bind_of_ok (takes _ (.inl same))]
            exact takesNext later holds
    · rename_i failsFirst
      cases fails
      obtain ⟨consumed, split, stable, completes⟩ := first.failure short typed failsFirst
      refine ⟨consumed, split, fun later same => bind_of_error (stable later same) next, fun some => ?_⟩
      obtain ⟨completion, value, spelt, takes⟩ := completes some
      obtain ⟨sample, result, speltAll, takesNext, starts⟩ := (second value _ spelt).sampled
      refine ⟨completion ++ sample, result, ?_, fun later holds => ?_⟩
      · rwa [← List.append_assoc, lexemesOf, List.map_append]
      · rw [← List.append_assoc, List.append_assoc _ sample,
          bind_of_ok (takes _ (link _ (starts later holds)))]
        exact takesNext later holds

theorem Prompt.bind (first : Prompt idle bound opens followsFirst specFirst read)
    (second : ∀ value lexemes, specFirst value lexemes →
      Prompt (∀ later, follows later → followsFirst later) (bound - lexemes.length) opensNext
        follows (fun result later => spec result (lexemes ++ later)) (next value))
    (link : ∀ tokens, opensNext tokens → followsFirst tokens) :
    Prompt idle bound opens follows spec (read >>= next) :=
  ⟨first.sampled.bind (fun value lexemes spelt => (second value lexemes spelt).sampled) link,
    first.steady.bind second link⟩

end Bind

section Choice

variable {idle : Prop} {bound : Nat} {opens follows : List Token → Prop}
  {spec : α → List String → Prop}

theorem Prompt.pure {value : α} (spelt : spec value []) (isIdle : idle) :
    Prompt idle bound follows follows spec (Pure.pure value) := by
  refine ⟨⟨[], value, spelt, fun _ _ => rfl, fun _ holds => holds⟩, ?_, ?_⟩
  · rintro tokens _ _ _ ⟨⟩
    exact ⟨[], rfl, spelt, fun _ _ => rfl, fun _ => isIdle⟩
  · rintro _ _ _ _ ⟨⟩

theorem Steady.fail (expected : String) :
    Steady idle bound follows spec (Parsing.fail expected : Parsing α) := by
  constructor
  · rintro _ _ _ _ ⟨⟩
  · rintro tokens _ _ _ ⟨⟩
    exact ⟨[], rfl, fun _ _ => rfl, fun some => absurd rfl some⟩

/-- **A choice by the next token.** Where nothing is read, the tokens that may follow lead to the same
choice. -/
theorem Steady.peek {body : Option Token → Parsing α}
    (branches : ∀ head, Steady (idle ∧ ∀ later, follows later → body later.head? = body head) bound
      follows spec (body head)) :
    Steady idle bound follows spec (Parsing.peek body) := by
  constructor
  · intro tokens rest value short reads
    obtain ⟨consumed, rfl, spelt, takes, nothing⟩ := (branches _).success short reads
    refine ⟨consumed, rfl, spelt, fun later alike => ?_, fun empty => (nothing empty).1⟩
    have same : body (consumed ++ later).head? = body (consumed ++ rest).head? := by
      cases consumed with
      | nil =>
        rcases alike with same | holds
        · exact congrArg body same
        · exact (nothing rfl).2 later holds
      | cons token consumed => rfl
    rw [peek_apply, same]
    exact takes later alike
  · intro tokens stuck short typed fails
    obtain ⟨consumed, split, stable, completes⟩ := (branches _).failure short typed fails
    refine ⟨consumed, split, fun later same => ?_, fun some => ?_⟩
    · rw [peek_apply, head?_append_eq (fun _ => same) split]
      exact stable later same
    · obtain ⟨completion, value, spelt, takes⟩ := completes some
      refine ⟨completion, value, spelt, fun later holds => ?_⟩
      have same : (consumed ++ (completion ++ later)).head? = tokens.head? :=
        head?_append_eq (fun empty => absurd empty some) split
      rw [peek_apply, List.append_assoc, same, ← List.append_assoc]
      exact takes later holds

/-- A choice that is sampled by one of its branches. -/
theorem Sampled.peek {body : Option Token → Parsing α} {branch : Parsing α}
    (sampled : Sampled opens follows spec branch)
    (chosen : ∀ tokens, opens tokens → body tokens.head? = branch) :
    Sampled opens follows spec (Parsing.peek body) := by
  obtain ⟨tokens, value, spelt, takes, starts⟩ := sampled
  refine ⟨tokens, value, spelt, fun later holds => ?_, starts⟩
  rw [peek_apply, chosen _ (starts later holds)]
  exact takes later holds

end Choice

/-- The next token, if it is of the kind of types, carries the keyword of a type. -/
def HeadTyped (tokens : List Token) : Prop :=
  ∀ token ∈ tokens.head?, token.kind = .type → (DataType.ofName? token.lexeme).isSome = true

theorem headTyped_congr {tokens later : List Token} (same : later.head? = tokens.head?)
    (typed : HeadTyped tokens) : HeadTyped later := by
  unfold HeadTyped
  rwa [same]

theorem Typed.headTyped {tokens : List Token} (typed : Typed tokens) : HeadTyped tokens :=
  fun token member => typed token (List.mem_of_mem_head? member)

/-- A computation that does what a steady one does, but in front of the token of a type without the
keyword of one, where it fails. -/
theorem Steady.ofHeadTyped {bound : Nat} {follows : List Token → Prop}
    {spec : α → List String → Prop} {read other : Parsing α}
    (steady : Steady False bound follows spec other)
    (same : ∀ tokens, HeadTyped tokens → read tokens = other tokens)
    (typed : ∀ tokens value rest, read tokens = .ok (value, rest) → HeadTyped tokens) :
    Steady False bound follows spec read := by
  constructor
  · intro tokens rest value short reads
    have headTyped := typed tokens value rest reads
    rw [same tokens headTyped] at reads
    obtain ⟨consumed, split, spelt, takes, nothing⟩ := steady.success short reads
    refine ⟨consumed, split, spelt, fun later alike => ?_, nothing⟩
    rw [same _ (headTyped_congr (head?_append_eq (fun empty => (nothing empty).elim) split) headTyped)]
    exact takes later alike
  · intro tokens stuck short allTyped fails
    rw [same tokens allTyped.headTyped] at fails
    obtain ⟨consumed, split, stable, completes⟩ := steady.failure short allTyped fails
    refine ⟨consumed, split, fun later alike => ?_, fun some => ?_⟩
    · rw [same _ (headTyped_congr (head?_append_eq (fun _ => alike) split) allTyped.headTyped)]
      exact stable later alike
    · obtain ⟨completion, value, spelt, takes⟩ := completes some
      refine ⟨completion, value, spelt, fun later holds => ?_⟩
      have alike : (consumed ++ completion ++ later).head? = tokens.head? := by
        rw [List.append_assoc]
        exact head?_append_eq (fun empty => absurd empty some) split
      rw [same _ (headTyped_congr alike allTyped.headTyped)]
      exact takes later holds

/-! ### One token -/

section Accept

variable {idle : Prop} {bound : Nat} {opens opensNext follows : List Token → Prop}
  {test : Token → Option α} {expected : String} {spec : β → List String → Prop}
  {next : α → Parsing β}

theorem exists_of_accept {tokens rest : List Token} {value : α}
    (reads : Parsing.accept test expected tokens = .ok (value, rest)) :
    ∃ token, tokens = token :: rest ∧ test token = some value := by
  cases tokens with
  | nil =>
    rw [accept_nil] at reads
    cases reads
  | cons token behind =>
    cases passes : test token with
    | none =>
      rw [accept_of_none passes] at reads
      cases reads
    | some value' =>
      rw [accept_of_some passes] at reads
      cases reads
      exact ⟨token, rfl, passes⟩

theorem accept_of_refuses {tokens : List Token} (refuses : ∀ token ∈ tokens.head?, test token = none) :
    Parsing.accept test expected tokens = .error ⟨expected, tokens⟩ := by
  cases tokens with
  | nil => rfl
  | cons token behind => exact accept_of_none (refuses token rfl) expected behind

theorem Steady.accept {spec : α → List String → Prop}
    (spelt : ∀ token value, test token = some value → spec value [token.lexeme]) :
    Steady idle bound follows spec (Parsing.accept test expected) := by
  constructor
  · intro tokens rest value _ reads
    obtain ⟨token, rfl, passes⟩ := exists_of_accept reads
    exact ⟨[token], rfl, spelt token value passes,
      fun later _ => accept_of_some passes expected later, nofun⟩
  · intro tokens stuck _ _ fails
    have refuses : ∀ token ∈ tokens.head?, test token = none := by
      intro token first
      obtain ⟨behind, rfl⟩ := List.head?_eq_some_iff.mp first
      cases passes : test token with
      | none => rfl
      | some value =>
        rw [accept_of_some passes] at fails
        cases fails
    rw [accept_of_refuses refuses] at fails
    cases fails
    refine ⟨[], rfl, fun later same => ?_, fun some => absurd rfl some⟩
    exact accept_of_refuses fun token first => refuses token (same ▸ first)

theorem Sampled.accept {spec : α → List String → Prop} {token : Token} {value : α}
    (passes : test token = some value) (spelt : spec value [token.lexeme])
    (starts : ∀ later, opens (token :: later)) :
    Sampled opens follows spec (Parsing.accept test expected) :=
  ⟨[token], value, spelt, fun later _ => accept_of_some passes expected later,
    fun later _ => starts later⟩

/-- One token, and what follows it. -/
theorem Steady.acceptThen
    (second : ∀ token value, test token = some value →
      Prompt True (bound - 1) opensNext follows
        (fun result later => spec result (token.lexeme :: later)) (next value)) :
    Steady idle bound follows spec (Parsing.accept test expected >>= next) := by
  have first : Steady idle bound (fun _ => True)
      (fun value lexemes => ∃ token, test token = some value ∧ lexemes = [token.lexeme])
      (Parsing.accept test expected) := .accept fun token _ passes => ⟨token, passes, rfl⟩
  refine first.bind (fun value lexemes spelt => ?_) fun tokens (_ : opensNext tokens) => trivial
  obtain ⟨token, passes, rfl⟩ := spelt
  exact (second token value passes).mono (fun _ _ _ => trivial) (Nat.le_refl _) (fun _ => id) fun _ _ => id

theorem Prompt.acceptThen {token : Token} {value : α} (passes : test token = some value)
    (starts : ∀ later, opens (token :: later))
    (second : ∀ token value, test token = some value →
      Prompt True (bound - 1) opensNext follows
        (fun result later => spec result (token.lexeme :: later)) (next value)) :
    Prompt idle bound opens follows spec (Parsing.accept test expected >>= next) := by
  have first : Sampled opens (fun _ => True)
      (fun value lexemes => ∃ token, test token = some value ∧ lexemes = [token.lexeme])
      (Parsing.accept test expected) := .accept passes ⟨token, passes, rfl⟩ starts
  refine ⟨first.bind (fun value lexemes spelt => ?_) fun tokens (_ : opensNext tokens) => trivial,
    .acceptThen second⟩
  obtain ⟨token, passes, rfl⟩ := spelt
  exact (second token value passes).sampled

end Accept

/-! ### Given tokens -/

/-- The next token has the lexeme. -/
def Heads (word : String) (tokens : List Token) : Prop :=
  Parsing.startsWith word tokens.head? = true

/-- No token has two lexemes. -/
theorem Heads.startsWith {word other : String} {tokens : List Token} (heads : Heads word tokens)
    (different : word ≠ other) : Parsing.startsWith other tokens.head? = false := by
  cases tokens with
  | nil => rfl
  | cons token behind =>
    have is : token.lexeme = word := by simpa [Heads] using heads
    simpa [is] using different

/-- The next token has the kind. -/
def HeadKind (kind : Token.Kind) (tokens : List Token) : Prop :=
  ∃ token ∈ tokens.head?, token.kind = kind

namespace Prompt

variable {idle : Prop} {bound : Nat} {opens opensNext follows : List Token → Prop}
  {spec : β → List String → Prop}

theorem word {word : String} {next : Token → Parsing β}
    (second : ∀ token, Prompt True (bound - 1) opensNext follows
      (fun result later => spec result (word :: later)) (next token)) :
    Prompt idle bound (Heads word) follows spec (Parsing.lexeme word >>= next) := by
  have passes : Option.guard (·.lexeme == word) ⟨.identifier, word, .start⟩ =
      some (⟨.identifier, word, .start⟩ : Token) := by
    simp [Option.guard]
  have accepted : ∀ token value : Token, Option.guard (·.lexeme == word) token = some value →
      Prompt True (bound - 1) opensNext follows
        (fun result later => spec result (token.lexeme :: later)) (next value) := by
    intro token value passed
    obtain ⟨rfl, is⟩ := Option.guard_eq_some_iff.mp passed
    rw [beq_iff_eq.mp is]
    exact second _
  exact .acceptThen passes (fun later => beq_self_eq_true word) accepted

theorem kind {kind : Token.Kind} {expected : String} {next : Token → Parsing β}
    (second : ∀ token : Token, Prompt True (bound - 1) opensNext follows
      (fun result later => spec result (token.lexeme :: later)) (next token)) :
    Prompt idle bound (HeadKind kind) follows spec (Parsing.kind kind expected >>= next) := by
  have passes : Option.guard (·.kind == kind) ⟨kind, "x", .start⟩ =
      some (⟨kind, "x", .start⟩ : Token) := by
    simp [Option.guard]
  have accepted : ∀ token value : Token, Option.guard (·.kind == kind) token = some value →
      Prompt True (bound - 1) opensNext follows
        (fun result later => spec result (token.lexeme :: later)) (next value) := by
    intro token value passed
    obtain ⟨rfl, _⟩ := Option.guard_eq_some_iff.mp passed
    exact second _
  exact .acceptThen passes (fun _ => ⟨_, rfl, rfl⟩) accepted

theorem dataType {expected : String} {next : DataType → Parsing β}
    (second : ∀ type : DataType, Prompt True (bound - 1) opensNext follows
      (fun result later => spec result (type.name :: later)) (next type)) :
    Prompt idle bound Anything follows spec (Parsing.dataType expected >>= next) := by
  have passes : (if (⟨.type, "int", .start⟩ : Token).kind = .type then DataType.ofName? "int"
      else none) = some .int := rfl
  have accepted : ∀ (token : Token) (type : DataType),
      (if token.kind = .type then DataType.ofName? token.lexeme else none) = some type →
        Prompt True (bound - 1) opensNext follows
          (fun result later => spec result (token.lexeme :: later)) (next type) := by
    intro token type passed
    split at passed
    · rw [← DataType.ofName?_eq_some_iff.mp passed]
      exact second type
    · cases passed
  exact .acceptThen passes (fun _ => trivial) accepted

/-- A choice by one lexeme, both sides of which read something. -/
theorem ifWord {word : String} {yes no : Parsing β}
    (prompt : Prompt False bound (Heads word) follows spec yes)
    (steady : Steady False bound follows spec no) :
    Prompt idle bound (Heads word) follows spec
      (Parsing.peek fun head => if Parsing.startsWith word head then yes else no) := by
  refine ⟨prompt.sampled.peek fun tokens starts => if_pos starts, .peek fun head => ?_⟩
  split
  · exact prompt.steady.mono False.elim (Nat.le_refl _) fun _ _ => id
  · exact steady.mono False.elim (Nat.le_refl _) fun _ _ => id

/-- A choice between going on behind one lexeme and ending here. -/
theorem ifMore {word : String} {more : Parsing β} {value : β}
    (steady : Steady False bound follows spec more) (spelt : spec value []) (isIdle : idle)
    (ends : ∀ tokens, follows tokens → Parsing.startsWith word tokens.head? = false) :
    Prompt idle bound follows follows spec
      (Parsing.peek fun head => if Parsing.startsWith word head then more else Pure.pure value) := by
  have ended : ∀ tokens, follows tokens →
      (if Parsing.startsWith word tokens.head? then more else Pure.pure value) = Pure.pure value :=
    fun tokens holds => if_neg (by simp [ends tokens holds])
  have finish : Prompt idle bound follows follows spec (Pure.pure value) := .pure spelt isIdle
  refine ⟨finish.sampled.peek ended, .peek fun head => ?_⟩
  split
  · exact steady.mono False.elim (Nat.le_refl _) fun _ _ => id
  · rename_i other
    have stays : idle ∧ ∀ later, follows later →
        (if Parsing.startsWith word later.head? then more else Pure.pure value) = Pure.pure value :=
      ⟨isIdle, ended⟩
    exact (Prompt.pure spelt stays).steady

end Prompt

end TypedImp
