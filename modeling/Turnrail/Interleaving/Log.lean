import Turnrail.Interleaving.Program

/-!
# Programs and their logs

One execution of a program, told by the effects it performs and the replies it
gets.  Nothing is assumed about the replies, so whatever holds of every log
holds in every environment.  The rules take a log apart along the structure of
the program.
-/

namespace Interleaving

namespace Program

/-- A program performs the effects of a log and returns a value. -/
inductive Plays :
    Program σ α → List ((effect : σ.Effect) × σ.Reply effect) → α → Prop
  | pure (value : α) : Plays (.pure value) [] value
  | perform
      {effect : σ.Effect}
      {resume : σ.Reply effect → Program σ α}
      (reply : σ.Reply effect)
      (rest : Plays (resume reply) log value) :
      Plays (.perform effect resume) (⟨effect, reply⟩ :: log) value

@[simp] theorem plays_pure
    {value result : α}
    {log : List ((effect : σ.Effect) × σ.Reply effect)} :
    (Program.pure value : Program σ α).Plays log result ↔
      log = [] ∧ result = value := by
  constructor
  · intro plays
    cases plays
    exact ⟨rfl, rfl⟩
  · rintro ⟨rfl, rfl⟩
    exact .pure _

@[simp] theorem plays_perform
    {effect : σ.Effect}
    {resume : σ.Reply effect → Program σ α}
    {value : α}
    {log : List ((effect : σ.Effect) × σ.Reply effect)} :
    (perform effect resume).Plays log value ↔ ∃ reply rest,
      log = ⟨effect, reply⟩ :: rest ∧ (resume reply).Plays rest value := by
  constructor
  · intro plays
    cases plays with
    | perform reply rest => exact ⟨reply, _, rfl, rest⟩
  · rintro ⟨reply, rest, rfl, plays⟩
    exact .perform reply plays

theorem plays_bind
    {program : Program σ α}
    {next : α → Program σ β}
    {value : β}
    {log : List ((effect : σ.Effect) × σ.Reply effect)} :
    (program.bind next).Plays log value ↔
      ∃ middle first second, program.Plays first middle ∧
      (next middle).Plays second value ∧ log = first ++ second := by
  induction program generalizing log with
  | pure middle =>
    simp only [pure_bind, plays_pure]
    constructor
    · intro plays
      exact ⟨middle, [], log, ⟨rfl, rfl⟩, plays, rfl⟩
    · rintro ⟨_, _, second, ⟨rfl, rfl⟩, plays, rfl⟩
      exact plays
  | perform effect resume ih =>
    simp only [perform_bind, plays_perform, ih]
    constructor
    · rintro ⟨reply, _, rfl, middle, first, second, started, ended, rfl⟩
      exact ⟨middle, ⟨effect, reply⟩ :: first, second,
        ⟨reply, first, rfl, started⟩, ended, rfl⟩
    · rintro ⟨middle, _, second, ⟨reply, first, rfl, started⟩, ended, rfl⟩
      exact ⟨reply, first ++ second, rfl, middle, first, second, started, ended, rfl⟩

/-- Run a program with fixed answers. -/
def play (answer : (effect : σ.Effect) → σ.Reply effect) :
    Program σ α → List ((effect : σ.Effect) × σ.Reply effect) × α
  | .pure value => ([], value)
  | .perform effect resume =>
    let rest := (resume (answer effect)).play answer
    (⟨effect, answer effect⟩ :: rest.1, rest.2)

theorem plays_play
    (answer : (effect : σ.Effect) → σ.Reply effect)
    (program : Program σ α) :
    program.Plays (program.play answer).1 (program.play answer).2 := by
  induction program with
  | pure value => exact .pure value
  | perform effect resume ih => exact .perform _ (ih _)

end Program

namespace Routine

/-- A routine performs the effects of a log and gets its replies, and ends with
an outcome and values of its variables. -/
def Plays
    (routine : Routine σ ρ ε α)
    (store : ρ)
    (log : List ((effect : σ.Effect) × σ.Reply effect))
    (outcome : Except ε α)
    (reached : ρ) : Prop :=
  (routine.run store).Plays log (outcome, reached)

theorem plays_play
    (answer : (effect : σ.Effect) → σ.Reply effect)
    (routine : Routine σ ρ ε α)
    (store : ρ) :
    routine.Plays store
      ((routine.run store).play answer).1 ((routine.run store).play answer).2.1
      ((routine.run store).play answer).2.2 :=
  Program.plays_play answer (routine.run store)

section Rules

variable {σ : Signature} {ρ : Type} {store reached : ρ}
variable {log : List ((effect : σ.Effect) × σ.Reply effect)}

variable {outcome : Except ε α}

@[simp] theorem plays_pure {value : α} :
    (pure value : Routine σ ρ ε α).Plays store log outcome reached ↔
      log = [] ∧ outcome = .ok value ∧ reached = store := by
  change (Program.pure _).Plays _ _ ↔ _
  rw [Program.plays_pure, Prod.mk.injEq]

@[simp] theorem plays_throw {failure : ε} :
    (throw failure : Routine σ ρ ε α).Plays store log outcome reached ↔
      log = [] ∧ outcome = .error failure ∧ reached = store := by
  change (Program.pure _).Plays _ _ ↔ _
  rw [Program.plays_pure, Prod.mk.injEq]

variable {given : Except ε α}

@[simp] theorem plays_ofExcept :
    (ofExcept given : Routine σ ρ ε α).Plays store log outcome reached ↔
      log = [] ∧ outcome = given ∧ reached = store := by
  cases given with
  | ok value => exact plays_pure
  | error failure => exact plays_throw

variable {routine : Routine σ ρ ε α} {next : α → Routine σ ρ ε β} {outcome : Except ε β}

theorem plays_bind :
    (routine >>= next).Plays store log outcome reached ↔
      (∃ failure, routine.Plays store log (.error failure) reached ∧
        outcome = .error failure) ∨ ∃ value middle first second,
      routine.Plays store first (.ok value) middle ∧
      (next value).Plays middle second outcome reached ∧
      log = first ++ second := by
  change ((routine store).bind _).Plays _ _ ↔ _
  rw [Program.plays_bind]
  constructor
  · rintro ⟨⟨failure | value, middle⟩, first, second, started, ended, rfl⟩
    · obtain ⟨rfl, same⟩ := Program.plays_pure.mp ended
      obtain ⟨rfl, rfl⟩ := Prod.mk.inj same
      rw [List.append_nil]
      exact .inl ⟨failure, started, rfl⟩
    · exact .inr ⟨value, middle, first, second, started, ended, rfl⟩
  · rintro (⟨failure, started, rfl⟩ | ⟨value, middle, first, second, started, ended, rfl⟩)
    · exact ⟨(.error failure, reached), log, [], started, .pure _, (List.append_nil log).symm⟩
    · exact ⟨(.ok value, middle), first, second, started, ended, rfl⟩

theorem plays_bind_ok {result : β} :
    (routine >>= next).Plays store log (.ok result) reached ↔
      ∃ value middle first second,
      routine.Plays store first (.ok value) middle ∧
      (next value).Plays middle second (.ok result) reached ∧
      log = first ++ second := by
  rw [plays_bind, or_iff_right]
  rintro ⟨failure, -, thrown⟩
  cases thrown

theorem plays_perform_bind
    {effect : σ.Effect}
    {next : σ.Reply effect → Routine σ ρ ε β} :
    (perform effect >>= next).Plays store log outcome reached ↔
      ∃ reply rest, log = ⟨effect, reply⟩ :: rest ∧
      (next reply).Plays store rest outcome reached := by
  change (Program.perform effect _).Plays _ _ ↔ _
  rw [Program.plays_perform]
  rfl

/-- The values of the variables are given to the rest. -/
theorem plays_get_bind {next : ρ → Routine σ ρ ε β} :
    (Routine.get >>= next).Plays store log outcome reached ↔
      (next store).Plays store log outcome reached := Iff.rfl

theorem plays_modify_bind
    {change : ρ → ρ}
    {next : Unit → Routine σ ρ ε β} :
    (Routine.modify change >>= next).Plays store log outcome reached ↔
      (next ()).Plays (change store) log outcome reached := Iff.rfl

theorem plays_ofExcept_bind :
    (ofExcept given >>= next).Plays store log outcome reached ↔
      (∃ failure, given = .error failure ∧
        log = [] ∧ outcome = .error failure ∧ reached = store) ∨ ∃ value,
      given = .ok value ∧ (next value).Plays store log outcome reached := by
  cases given with
  | error failure =>
    change (Program.pure _).Plays _ _ ↔ _
    simp [Program.plays_pure]
  | ok value =>
    change (next value).Plays store log outcome reached ↔ _
    simp

theorem plays_attempt_bind {next : Except ε α → Routine σ ρ ε β} :
    (attempt routine >>= next).Plays store log outcome reached ↔
      ∃ tried middle first second, routine.Plays store first tried middle ∧
      (next tried).Plays middle second outcome reached ∧
      log = first ++ second := by
  have unfolded : (attempt routine >>= next).run store =
      (routine store).bind fun result => next result.1 result.2 := by
    change ((routine store).bind _).bind _ = _
    generalize routine store = program
    induction program with
    | pure value => rfl
    | perform effect resume ih => exact congrArg _ (funext ih)
  rw [Plays, unfolded, Program.plays_bind]
  constructor
  · rintro ⟨⟨tried, middle⟩, first, second, parts⟩
    exact ⟨tried, middle, first, second, parts⟩
  · rintro ⟨tried, middle, first, second, parts⟩
    exact ⟨(tried, middle), first, second, parts⟩

end Rules

/-- A routine leaves its variables as they are. -/
def Leaves (routine : Routine σ ρ ε α) : Prop :=
  ∀ store log outcome reached, routine.Plays store log outcome reached → reached = store

section Leaves

theorem leaves_pure (value : α) : (pure value : Routine σ ρ ε α).Leaves :=
  fun _ _ _ _ plays => (plays_pure.mp plays).2.2

theorem leaves_throw (failure : ε) : (throw failure : Routine σ ρ ε α).Leaves :=
  fun _ _ _ _ plays => (plays_throw.mp plays).2.2

theorem leaves_ofExcept (given : Except ε α) :
    (ofExcept given : Routine σ ρ ε α).Leaves :=
  fun _ _ _ _ plays => (plays_ofExcept.mp plays).2.2

theorem leaves_perform (effect : σ.Effect) :
    (perform effect : Routine σ ρ ε (σ.Reply effect)).Leaves := by
  intro store log outcome reached plays
  obtain ⟨reply, rest, -, ended⟩ := Program.plays_perform.mp plays
  exact congrArg Prod.snd (Program.plays_pure.mp ended).2

variable {routine : Routine σ ρ ε α}

theorem Leaves.bind
    {next : α → Routine σ ρ ε β}
    (first : routine.Leaves)
    (second : ∀ value, (next value).Leaves) :
    (routine >>= next).Leaves := by
  intro store log outcome reached plays
  obtain ⟨failure, thrown, -⟩ | ⟨value, middle, _, _, started, ended, -⟩ := plays_bind.mp plays
  · exact first _ _ _ _ thrown
  · rw [second value _ _ _ _ ended, first _ _ _ _ started]

theorem Leaves.attempt
    {next : Except ε α → Routine σ ρ ε β}
    (first : routine.Leaves)
    (second : ∀ tried, (next tried).Leaves) :
    (Routine.attempt routine >>= next).Leaves := by
  intro store log outcome reached plays
  obtain ⟨tried, middle, _, _, started, ended, -⟩ := plays_attempt_bind.mp plays
  rw [second tried _ _ _ _ ended, first _ _ _ _ started]

end Leaves

end Routine

end Interleaving
