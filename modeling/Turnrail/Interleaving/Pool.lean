import Turnrail.Interleaving.Program
import Mathlib.Data.List.Induction

/-!
# Pools of interleaved threads

A pool runs any number of threads over one shared world.  A thread is a program
whose leaf either ends it or names the control point where it goes on, so loops
need no bound.  A step of the pool performs one effect of one thread, starts or
continues a thread, changes the world behind the threads' backs, or loses all
threads at once and restarts the world.

`Pool.Run.refines` replaces the threads by parties of a protocol that the
control points follow.  The rules at the end reduce properties of all runs of
the parties to single steps.
-/

namespace Interleaving

open Protocol Function

/-- How effects change the world. -/
structure Machine (σ : Signature) (World : Type) where
  exec : Nat → World → (effect : σ.Effect) → σ.Reply effect → World → Prop
  drift : World → World → Prop
  reset : World → World → Prop

/-- What one step of a pool did. -/
inductive Event (σ : Signature) (Point : Type)
  | spawned (thread : Nat) (point : Point)
  | performed (thread : Nat) (effect : σ.Effect) (reply : σ.Reply effect)
  | resumed (thread : Nat) (point : Point)
  | ended (thread : Nat)
  | drifted
  | restarted

/-- An event with the world after it. -/
structure Moment (σ : Signature) (Point World : Type) where
  event : Event σ Point
  world : World

/-- One thread of a pool.  A name is never used for a second thread. -/
inductive Thread (σ : Signature) (Point : Type)
  | unused
  | running (program : Program σ (Option Point))
  | ended

/-- The world and its threads. -/
structure Pool (σ : Signature) (Point World : Type) where
  world : World
  threads : Nat → Thread σ Point

/-- What happens to a running thread when the world restarts. -/
def Thread.lose : Thread σ Point → Thread σ Point
  | .running _ => .ended
  | thread => thread

variable {σ : Signature} {Point World : Type}

/-- A step of one thread or of the world. -/
inductive Pool.Step
    (machine : Machine σ World)
    (entry : Point → Prop)
    (code : Point → Program σ (Option Point)) :
    Pool σ Point World → Event σ Point → Pool σ Point World → Prop
  | spawn {pool} (thread : Nat) (point : Point) :
      pool.threads thread = .unused → entry point →
      Step machine entry code pool (.spawned thread point)
        { pool with threads := update pool.threads thread (.running (code point)) }
  | perform {pool world effect resume reply} (thread : Nat) :
      pool.threads thread = .running (.perform effect resume) →
      machine.exec thread pool.world effect reply world →
      Step machine entry code pool (.performed thread effect reply)
        { world, threads := update pool.threads thread (.running (resume reply)) }
  | resume {pool} (thread : Nat) (point : Point) :
      pool.threads thread = .running (.pure (some point)) →
      Step machine entry code pool (.resumed thread point)
        { pool with threads := update pool.threads thread (.running (code point)) }
  | finish {pool} (thread : Nat) :
      pool.threads thread = .running (.pure none) →
      Step machine entry code pool (.ended thread)
        { pool with threads := update pool.threads thread .ended }
  | drift {pool world} :
      machine.drift pool.world world →
      Step machine entry code pool .drifted { pool with world }
  | restart {pool world} :
      machine.reset pool.world world →
      Step machine entry code pool .restarted
        { world, threads := fun thread => (pool.threads thread).lose }

/-- The events of a run. -/
inductive Pool.Run
    (machine : Machine σ World)
    (entry : Point → Prop)
    (code : Point → Program σ (Option Point))
    (initial : Pool σ Point World) : List (Moment σ Point World) → Pool σ Point World → Prop
  | start : Run machine entry code initial [] initial
  | step {trace event pool next} :
      Run machine entry code initial trace pool →
      Pool.Step machine entry code pool event next →
      Run machine entry code initial (trace ++ [⟨event, next.world⟩]) next

/-- A pool in which no thread has started. -/
def Pool.idle (world : World) : Pool σ Point World where
  world := world
  threads := fun _ => .unused

/-- The programs of all entry points follow a protocol. -/
structure Certificate
    (protocol : Protocol σ)
    (entry : Point → Prop)
    (code : Point → Program σ (Option Point)) where
  start : Point → protocol.Stage
  Reentry : Point → protocol.Stage → Prop
  entered : ∀ point, entry point → Reentry point (start point)
  follows : ∀ point stage, Reentry point stage →
    (code point).Follows protocol stage fun next reached =>
      ∀ target, next = some target → Reentry target reached

/-- A shared world and what each running thread is known to have reached. -/
structure Parties (protocol : Protocol σ) (World : Type) where
  world : World
  stages : Nat → Option protocol.Stage

/-- One step of parties that follow a protocol.  The code of the parties is not
part of it: any allowed effect with an admitted reply can happen. -/
inductive Protocol.Step
    (machine : Machine σ World)
    (protocol : Protocol σ)
    (start : Point → protocol.Stage) :
    Parties protocol World → Event σ Point → Parties protocol World → Prop
  | spawn {parties} (thread : Nat) (point : Point) :
      parties.stages thread = none →
      Step machine protocol start parties (.spawned thread point)
        { parties with stages := update parties.stages thread (some (start point)) }
  | perform {parties world stage effect reply} (thread : Nat) :
      parties.stages thread = some stage →
      protocol.allows stage effect →
      protocol.admits stage effect reply →
      machine.exec thread parties.world effect reply world →
      Step machine protocol start parties (.performed thread effect reply)
        { world, stages :=
            update parties.stages thread (some (protocol.next stage effect reply)) }
  | resume {parties} (thread : Nat) (point : Point) :
      Step machine protocol start parties (.resumed thread point) parties
  | finish {parties} (thread : Nat) :
      Step machine protocol start parties (.ended thread)
        { parties with stages := update parties.stages thread none }
  | drift {parties world} :
      machine.drift parties.world world →
      Step machine protocol start parties .drifted { parties with world }
  | restart {parties world} :
      machine.reset parties.world world →
      Step machine protocol start parties .restarted
        { world, stages := fun _ => none }

/-- The events of a run of the parties to a protocol. -/
inductive Protocol.Run
    (machine : Machine σ World)
    (protocol : Protocol σ)
    (start : Point → protocol.Stage)
    (initial : World) : List (Moment σ Point World) → Parties protocol World → Prop
  | start : Run machine protocol start initial [] ⟨initial, fun _ => none⟩
  | step {trace event parties next} :
      Run machine protocol start initial trace parties →
      Step machine protocol start parties event next →
      Run machine protocol start initial (trace ++ [⟨event, next.world⟩]) next

section Refinement

variable {machine : Machine σ World}
variable {entry : Point → Prop}
variable {code : Point → Program σ (Option Point)}
variable {protocol : Protocol σ}

/-- The threads are at their stages. -/
def Certificate.Fits
    (certificate : Certificate protocol entry code)
    (threads : Nat → Thread σ Point)
    (stages : Nat → Option protocol.Stage) : Prop :=
  ∀ thread,
    match threads thread with
    | .running program => ∃ stage, stages thread = some stage ∧
        program.Follows protocol stage fun next reached =>
          ∀ target, next = some target → certificate.Reentry target reached
    | _ => stages thread = none

variable {certificate : Certificate protocol entry code}
variable {threads : Nat → Thread σ Point} {stages : Nat → Option protocol.Stage}
variable {thread : Nat} {program : Program σ (Option Point)}

theorem Certificate.Fits.update
    (fits : certificate.Fits threads stages)
    {stage : protocol.Stage}
    (follows : program.Follows protocol stage fun next reached =>
      ∀ target, next = some target → certificate.Reentry target reached) :
    certificate.Fits (update threads thread (.running program))
      (update stages thread (some stage)) := by
  intro other
  by_cases same : other = thread
  · subst same
    simpa using follows
  · simpa [update_of_ne same] using fits other

theorem Certificate.Fits.running
    (fits : certificate.Fits threads stages)
    (runs : threads thread = .running program) :
    ∃ stage, stages thread = some stage ∧
      program.Follows protocol stage fun next reached =>
      ∀ target, next = some target → certificate.Reentry target reached := by
  have known := fits thread
  simpa only [runs] using known

/-- Runs of certified code are runs of the protocol. -/
theorem Pool.Run.refines
    {initial : World}
    {trace : List (Moment σ Point World)}
    {pool : Pool σ Point World}
    (certificate : Certificate protocol entry code)
    (trusted : ∀ {trace parties thread stage effect reply world},
      Protocol.Run machine protocol certificate.start initial trace parties →
      parties.stages thread = some stage →
      protocol.allows stage effect →
      machine.exec thread parties.world effect reply world →
      protocol.admits stage effect reply)
    (run : Pool.Run machine entry code (Pool.idle initial) trace pool) :
    ∃ stages, certificate.Fits pool.threads stages ∧
      Protocol.Run machine protocol certificate.start initial trace ⟨pool.world,
        stages⟩ := by
  induction run with
  | start => exact ⟨fun _ => none, fun _ => rfl, .start⟩
  | @step trace event current next _ taken ih =>
    obtain ⟨stages, fits, before⟩ := ih
    cases taken with
    | spawn thread point unused enters =>
      have absent := fits thread
      simp only [unused] at absent
      exact ⟨_, fits.update (certificate.follows point _ (certificate.entered point enters)),
        before.step (.spawn thread point absent)⟩
    | perform thread runs executed =>
      obtain ⟨stage, known, follows⟩ := fits.running runs
      have admitted := trusted before known follows.1 executed
      exact ⟨_, fits.update (follows.2 _ admitted),
        before.step (.perform thread known follows.1 admitted executed)⟩
    | resume thread point runs =>
      obtain ⟨stage, known, follows⟩ := fits.running runs
      refine ⟨stages, ?_, before.step (.resume thread point)⟩
      have updated : certificate.Fits
          (update current.threads thread (.running (code point)))
          (update stages thread (some stage)) :=
        fits.update (certificate.follows point stage (follows point rfl))
      rwa [← known, update_eq_self] at updated
    | finish thread runs =>
      refine ⟨_, ?_, before.step (.finish thread)⟩
      intro other
      by_cases same : other = thread
      · subst same
        simp
      · simpa [update_of_ne same] using fits other
    | drift drifts => exact ⟨stages, fits, before.step (.drift drifts)⟩
    | restart resets =>
      refine ⟨_, ?_, before.step (.restart resets)⟩
      intro thread
      cases state : current.threads thread <;> simp [state, Thread.lose]

end Refinement

theorem update_cases
    {stages : Nat → Option τ}
    {thread other : Nat}
    {value : Option τ}
    {stage : τ}
    (present : update stages thread value other = some stage) :
    (other = thread ∧ value = some stage) ∨
      (other ≠ thread ∧ stages other = some stage) := by
  by_cases same : other = thread
  · subst same
    rw [update_self] at present
    exact .inl ⟨rfl, present⟩
  · rw [update_of_ne same] at present
    exact .inr ⟨same, present⟩

/-- A thread starts or performs an effect. -/
def Event.Moves (thread : Nat) : Event σ Point → Prop
  | .spawned other _ => other = thread
  | .performed other _ _ => other = thread
  | _ => False

/-- How a step changes the world of the parties that go on. -/
inductive Protocol.Shifts
    (machine : Machine σ World)
    (protocol : Protocol σ)
    (before : Parties protocol World) : Event σ Point → World → Prop
  | still {event world} :
      world = before.world →
      (∀ thread effect reply, event ≠ .performed thread effect reply) →
      Shifts machine protocol before event world
  | perform {thread stage effect reply world} :
      before.stages thread = some stage →
      protocol.allows stage effect →
      protocol.admits stage effect reply →
      machine.exec thread before.world effect reply world →
      Shifts machine protocol before (.performed thread effect reply) world
  | drift {world} :
      machine.drift before.world world →
      Shifts machine protocol before .drifted world

/-- How a party came to its stage: it started, it performed an effect, or it was
there before. -/
theorem Protocol.Step.stage_cases
    {machine : Machine σ World}
    {protocol : Protocol σ}
    {start : Point → protocol.Stage}
    {before after : Parties protocol World}
    {event : Event σ Point}
    {thread : Nat}
    {stage : protocol.Stage}
    (taken : Step machine protocol start before event after)
    (present : after.stages thread = some stage) :
    (∃ point, event = .spawned thread point ∧ stage = start point) ∨
      (∃ current effect reply, event = .performed thread effect reply ∧
        before.stages thread = some current ∧ protocol.allows current effect ∧
        machine.exec thread before.world effect reply after.world ∧
        stage = protocol.next current effect reply) ∨
      before.stages thread = some stage ∧ ¬event.Moves thread ∧
        Shifts machine protocol before event after.world := by
  cases taken with
  | spawn other point absent =>
    rcases update_cases present with ⟨rfl, ⟨⟩⟩ | ⟨different, present⟩
    · exact .inl ⟨point, rfl, rfl⟩
    · exact .inr (.inr ⟨present, Ne.symm different, .still rfl nofun⟩)
  | perform other known allowed admitted executed =>
    rcases update_cases present with ⟨rfl, ⟨⟩⟩ | ⟨different, present⟩
    · exact .inr (.inl ⟨_, _, _, rfl, known, allowed, executed, rfl⟩)
    · exact .inr (.inr ⟨present, Ne.symm different, .perform known allowed admitted executed⟩)
  | resume => exact .inr (.inr ⟨present, id, .still rfl nofun⟩)
  | finish other =>
    rcases update_cases present with ⟨-, ⟨⟩⟩ | ⟨-, present⟩
    exact .inr (.inr ⟨present, id, .still rfl nofun⟩)
  | drift drifts =>
    exact .inr (.inr ⟨present, id, .drift drifts⟩)
  | restart => cases present

/-- The world after the events of a trace. -/
def worldAfter (initial : World) (trace : List (Moment σ Point World)) :
    World :=
  (trace.getLast?.map Moment.world).getD initial

variable {machine : Machine σ World} {entry : Point → Prop}
variable {code : Point → Program σ (Option Point)} {trace : List (Moment σ Point World)}
variable {thread : Nat} {state : Thread σ Point} {pool : Pool σ Point World}
variable {point : Point} {moment : Moment σ Point World}

theorem Pool.Run.world_eq
    {initial pool : Pool σ Point World}
    (run : Pool.Run machine entry code initial trace pool) :
    pool.world = worldAfter initial.world trace := by
  cases run with
  | start => rfl
  | step => simp [worldAfter]

theorem update_ne_unused
    {threads : Nat → Thread σ Point}
    (used : threads thread ≠ .unused)
    (other : Nat)
    (inUse : state ≠ .unused) :
    update threads other state thread ≠ .unused := by
  by_cases same : thread = other
  · subst same
    rwa [update_self]
  · rwa [update_of_ne same]

theorem Thread.lose_ne_unused (used : state ≠ .unused) :
    state.lose ≠ .unused := by
  cases state with
  | unused => exact absurd rfl used
  | running | ended => simp [Thread.lose]

variable {initial : World}

theorem Pool.Run.used
    (run : Pool.Run machine entry code (Pool.idle initial) trace pool)
    (member : moment ∈ trace)
    (spawned : moment.event = .spawned thread point) :
    pool.threads thread ≠ .unused := by
  induction run with
  | start => simp at member
  | @step earlier event before after run taken ih =>
    rcases List.mem_append.mp member with member | member
    · have used := ih member
      cases taken with
      | spawn other point unused entered => exact update_ne_unused used other (by simp)
      | perform other running executed => exact update_ne_unused used other (by simp)
      | resume other point running => exact update_ne_unused used other (by simp)
      | finish other running => exact update_ne_unused used other (by simp)
      | drift drifts => exact used
      | restart resets => exact Thread.lose_ne_unused used
    · obtain rfl := List.mem_singleton.mp member
      cases taken with
      | spawn other point unused entered =>
        cases spawned
        simp
      | _ => cases spawned

theorem Pool.Run.spawned_once
    {earlier later : List (Moment σ Point World)}
    (run : Pool.Run machine entry code
      (Pool.idle initial) (earlier ++ moment :: later) pool)
    (spawned : moment.event = .spawned thread point) :
    ∀ other ∈ later, ∀ again, other.event ≠ .spawned thread again := by
  induction later using List.reverseRecOn generalizing pool with
  | nil => simp
  | append_singleton later last ih =>
    rw [← List.cons_append, ← List.append_assoc] at run
    generalize whole : (earlier ++ moment :: later) ++ [last] = trace at run
    cases run with
    | start => simp at whole
    | step run taken =>
      obtain ⟨rfl, same⟩ := List.append_inj' whole rfl
      cases same
      intro other member again happened
      rcases List.mem_append.mp member with member | member
      · exact ih run other member again happened
      · obtain rfl := List.mem_singleton.mp member
        have used := run.used (by simp) spawned
        cases taken with
        | spawn other point unused entered =>
          cases happened
          exact used unused
        | _ => cases happened

theorem split_last_unique
    {holds : α → Prop}
    {before after earlier later : List α}
    {element other : α}
    (same : before ++ element :: after = earlier ++ other :: later)
    (one : holds element)
    (two : holds other)
    (noneAfter : ∀ item ∈ after, ¬ holds item)
    (noneLater : ∀ item ∈ later, ¬ holds item) :
    before = earlier ∧ element = other ∧ after = later := by
  rcases List.append_eq_append_iff.mp same with
    ⟨middle, rfl, rest⟩ | ⟨middle, rfl, rest⟩
  · cases middle with
    | nil =>
      cases rest
      simp
    | cons head tail =>
      cases rest
      exact absurd two (noneAfter other (by simp))
  · cases middle with
    | nil =>
      cases rest
      simp
    | cons head tail =>
      cases rest
      exact absurd one (noneLater element (by simp))

section Temporal

variable {machine : Machine σ World}
variable {protocol : Protocol σ}
variable {start : Point → protocol.Stage}
variable {initial : World}

variable {parties : Parties protocol World}
variable {earlier later : List (Moment σ Point World)} {trace : List (Moment σ Point World)}

theorem Protocol.Run.invariant
    {holds : Parties protocol World → Prop}
    (initially : holds ⟨initial, fun _ => none⟩)
    (kept : ∀ {before event after}, holds before →
      Step machine protocol start before event after → holds after)
    (run : Run machine protocol start initial trace parties) :
    holds parties := by
  induction run with
  | start => exact initially
  | step _ taken ih => exact kept ih taken

/-- The invariant rule for properties of the trace and the parties. -/
theorem Protocol.Run.record
    (holds : List (Moment σ Point World) → Parties protocol World → Prop)
    (initially : holds [] ⟨initial, fun _ => none⟩)
    (kept : ∀ {trace before event after}, holds trace before →
      Step machine protocol start before event after →
      holds (trace ++ [⟨event, after.world⟩]) after)
    (run : Run machine protocol start initial trace parties) :
    holds trace parties := by
  induction run with
  | start => exact initially
  | step _ taken ih => exact kept ih taken

theorem Protocol.Run.world_eq
    (run : Run machine protocol start initial trace parties) :
    parties.world = worldAfter initial trace := by
  cases run with
  | start => rfl
  | step => simp [worldAfter]

variable {moment : Moment σ Point World}

theorem Protocol.Run.last
    {parties : Parties protocol World}
    (run : Run machine protocol start initial (trace ++ [moment]) parties) :
    ∃ before, Run machine protocol start initial trace before ∧
      Step machine protocol start before moment.event parties ∧
      moment.world = parties.world := by
  generalize whole : trace ++ [moment] = list at run
  cases run with
  | start => simp at whole
  | @step earlier event before next run taken =>
    obtain ⟨rfl, same⟩ := List.append_inj' whole rfl
    cases same
    exact ⟨before, run, taken, rfl⟩

/-- What every moment of a run rests on: the run before it, and its step. -/
theorem Protocol.Run.at
    (run :
      Run machine protocol start initial (earlier ++ moment :: later) parties) :
    ∃ before after, Run machine protocol start initial earlier before ∧
      Step machine protocol start before moment.event after ∧
      moment.world = after.world := by
  induction later using List.reverseRecOn generalizing parties with
  | nil =>
    obtain ⟨before, run, taken, same⟩ := run.last
    exact ⟨before, parties, run, taken, same⟩
  | append_singleton later moment' ih =>
    have split : earlier ++ moment :: (later ++ [moment']) =
        (earlier ++ moment :: later) ++ [moment'] := by simp
    rw [split] at run
    obtain ⟨before, run, -, -⟩ := run.last
    exact ih run

theorem Protocol.Run.onward
    (run :
      Run machine protocol start initial (earlier ++ moment :: later) parties) :
    ∃ before after, Run machine protocol start initial earlier before ∧
      Step machine protocol start before moment.event after ∧
      moment.world = after.world ∧
      ∀ holds : Parties protocol World → Prop, holds after →
        (∀ {trace before event after},
          Run machine protocol start initial trace before →
          ⟨event, after.world⟩ ∈ later →
          Step machine protocol start before event after →
          holds before → holds after) →
        holds parties ∧ ∀ other ∈ moment :: later,
          ∃ reached, holds reached ∧ other.world = reached.world := by
  induction later using List.reverseRecOn generalizing parties with
  | nil =>
    obtain ⟨before, run, taken, same⟩ := run.last
    refine ⟨before, parties, run, taken, same, ?_⟩
    intro holds established _
    refine ⟨established, ?_⟩
    intro other member
    obtain rfl := List.mem_singleton.mp member
    exact ⟨parties, established, same⟩
  | append_singleton later last ih =>
    have split : earlier ++ moment :: (later ++ [last]) =
        (earlier ++ moment :: later) ++ [last] := by simp
    rw [split] at run
    obtain ⟨middle, ran, taken, same⟩ := run.last
    obtain ⟨before, after, run, first, world, onward⟩ := ih ran
    refine ⟨before, after, run, first, world, ?_⟩
    intro holds established kept
    obtain ⟨held, passed⟩ := onward holds established
      fun run member => kept run (List.mem_append_left _ member)
    have final : holds parties := by
      refine kept ran ?_ taken held
      rw [← same]
      exact List.mem_append_right _ (List.mem_singleton_self last)
    refine ⟨final, ?_⟩
    intro other member
    rw [← List.cons_append, List.mem_append, List.mem_singleton] at member
    rcases member with member | rfl
    · exact passed other member
    · exact ⟨parties, final, same⟩

end Temporal

end Interleaving
