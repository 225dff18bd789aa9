import Turnrail.Interleaving.Pool

/-!
# Executing a pool

An executor computes effects from choices of the environment.  A script of
commands then determines a run, so a concrete run can be evaluated instead of
being built step by step.
-/

namespace Interleaving

variable {σ : Signature} {Point World : Type}

/-- Functions that compute steps of a machine, and the proofs that they do. -/
structure Executor (machine : Machine σ World) (entry : Point → Prop) where
  Choice : Type
  starts : Point → Bool
  exec : Choice → Nat → World → (effect : σ.Effect) → Option (σ.Reply effect × World)
  drift : Choice → World → Option World
  reset : Choice → World → Option World
  starts_sound : ∀ {point}, starts point = true → entry point
  exec_sound : ∀ {choice thread world effect reply after},
    exec choice thread world effect = some (reply, after) →
    machine.exec thread world effect reply after
  drift_sound : ∀ {choice world after}, drift choice world = some after →
    machine.drift world after
  reset_sound : ∀ {choice world after}, reset choice world = some after →
    machine.reset world after

/-- One step of a script. -/
inductive Command (Choice Point : Type)
  | spawn (thread : Nat) (point : Point)
  | run (thread : Nat) (choice : Choice)
  | drift (choice : Choice)
  | restart (choice : Choice)

section Execution

variable {machine : Machine σ World} {entry : Point → Prop}

/-- Put a thread into a state. -/
def Pool.become (pool : Pool σ Point World) (thread : Nat)
    (state : Thread σ Point) : Pool σ Point World :=
  { pool with threads := Function.update pool.threads thread state }

/-- Carry out a command. -/
def Pool.advance
    (executor : Executor machine entry)
    (code : Point → Program σ (Option Point))
    (pool : Pool σ Point World) : Command executor.Choice Point →
      Option (Event σ Point × Pool σ Point World)
  | .spawn thread point =>
    match pool.threads thread with
    | .unused =>
      if executor.starts point then
        some (.spawned thread point, pool.become thread (.running (code point)))
      else none
    | _ => none
  | .run thread choice =>
    match pool.threads thread with
    | .running (.perform effect resume) =>
      match executor.exec choice thread pool.world effect with
      | some (reply, world) =>
        some (.performed thread effect reply,
          { pool with world }.become thread (.running (resume reply)))
      | none => none
    | .running (.pure (some point)) =>
      some (.resumed thread point, pool.become thread (.running (code point)))
    | .running (.pure none) => some (.ended thread, pool.become thread .ended)
    | _ => none
  | .drift choice =>
    (executor.drift choice pool.world).map fun world => (.drifted, { pool with world })
  | .restart choice =>
    (executor.reset choice pool.world).map fun world =>
      (.restarted,
        { world, threads := fun thread => (pool.threads thread).lose })

/-- Carry out some commands. -/
def Pool.simulate
    (executor : Executor machine entry)
    (code : Point → Program σ (Option Point)) :
    Pool σ Point World → List (Command executor.Choice Point) →
      Option (List (Moment σ Point World) × Pool σ Point World)
  | pool, [] => some ([], pool)
  | pool, command :: rest =>
    match pool.advance executor code command with
    | some (event, next) =>
      match simulate executor code next rest with
      | some (trace, final) => some (⟨event, next.world⟩ :: trace, final)
      | none => none
    | none => none

variable {executor : Executor machine entry}
variable {code : Point → Program σ (Option Point)}
variable {pool next : Pool σ Point World}

theorem Pool.advance_step
    {command : Command executor.Choice Point}
    {event : Event σ Point}
    (advanced : pool.advance executor code command = some (event, next)) :
    Pool.Step machine entry code pool event next := by
  cases command with
  | spawn thread point =>
    simp only [Pool.advance] at advanced
    split at advanced
    · rename_i unused
      split at advanced
      · rename_i starts
        cases advanced
        exact .spawn thread point unused (executor.starts_sound starts)
      · cases advanced
    · cases advanced
  | run thread choice =>
    simp only [Pool.advance] at advanced
    split at advanced
    · rename_i effect resume runs
      split at advanced
      · rename_i reply world executed
        cases advanced
        exact .perform thread runs (executor.exec_sound executed)
      · cases advanced
    · rename_i point runs
      cases advanced
      exact .resume thread point runs
    · rename_i runs
      cases advanced
      exact .finish thread runs
    · cases advanced
  | drift choice =>
    obtain ⟨world, drifts, same⟩ := Option.map_eq_some_iff.mp advanced
    cases same
    exact .drift (executor.drift_sound drifts)
  | restart choice =>
    obtain ⟨world, resets, same⟩ := Option.map_eq_some_iff.mp advanced
    cases same
    exact .restart (executor.reset_sound resets)

theorem Pool.Run.simulate
    {initial : Pool σ Point World}
    {earlier trace : List (Moment σ Point World)}
    {script : List (Command executor.Choice Point)}
    (run : Pool.Run machine entry code initial earlier pool)
    (simulated : pool.simulate executor code script = some (trace, next)) :
    Pool.Run machine entry code initial (earlier ++ trace) next := by
  induction script generalizing pool earlier trace with
  | nil =>
    cases simulated
    rw [List.append_nil]
    exact run
  | cons command rest ih =>
    simp only [Pool.simulate] at simulated
    split at simulated
    · rename_i event reached advanced
      split at simulated
      · rename_i later final continued
        cases simulated
        have extended := ih (run.step (Pool.advance_step advanced)) continued
        rwa [List.append_assoc] at extended
      · cases simulated
    · cases simulated

/-- A script that simulates gives a run with the trace it checks. -/
theorem Pool.rehearse
    {initial : World}
    (executor : Executor machine entry)
    (script : List (Command executor.Choice Point))
    (check : List (Moment σ Point World) → Bool)
    (passes : ((Pool.idle initial).simulate executor code script).any
      (fun result => check result.1) = true) :
    ∃ trace pool, Pool.Run machine entry code (Pool.idle initial) trace pool ∧
        check trace = true := by
  cases simulated : (Pool.idle initial).simulate executor code script with
  | none =>
    rw [simulated] at passes
    cases passes
  | some result =>
    rw [simulated] at passes
    exact ⟨result.1, result.2, Pool.Run.start.simulate simulated, passes⟩

end Execution

/-- A moment that a trace is searched for. -/
structure Goal (α : Type) where
  passing : α → Bool := fun _ => true
  wanted : α → Bool

/-- A list reaches goals in order, and what follows the last goal satisfies a
condition. -/
def visits (goals : List (Goal α)) (rest : α → Bool) : List α → Bool
  | [] => goals.isEmpty
  | element :: later =>
    match goals with
    | [] => (element :: later).all rest
    | goal :: further =>
      if goal.wanted element then visits further rest later
      else goal.passing element && visits (goal :: further) rest later

variable {rest : α → Bool} {list : List α}

/-- A list that visits a goal splits at the element it wants. -/
theorem split_of_visits
    {goal : Goal α}
    {further : List (Goal α)}
    (visited : visits (goal :: further) rest list = true) :
    ∃ earlier element later, list = earlier ++ element :: later ∧
      (∀ other ∈ earlier, goal.passing other = true) ∧
      goal.wanted element = true ∧ visits further rest later = true := by
  induction list with
  | nil => cases visited
  | cons element later ih =>
    rw [visits] at visited
    split at visited
    · rename_i found
      exact ⟨[], element, later, rfl, by simp, found, visited⟩
    · obtain ⟨passed, visited⟩ := Bool.and_eq_true_iff.mp visited
      obtain ⟨earlier, found, rest, rfl, before, wants, visited⟩ := ih visited
      refine ⟨element :: earlier, found, rest, rfl, ?_, wants, visited⟩
      intro other member
      rcases List.mem_cons.mp member with rfl | member
      · exact passed
      · exact before other member

/-- What follows the last goal satisfies its condition. -/
theorem rest_of_visits (visited : visits [] rest list = true) :
    ∀ element ∈ list, rest element = true := by
  cases list with
  | nil => simp
  | cons element later => exact List.all_eq_true.mp visited

end Interleaving
