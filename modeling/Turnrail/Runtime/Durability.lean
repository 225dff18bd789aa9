import Turnrail.Ledger.Requests
import Turnrail.Runtime.Compliance.Certificate

/-!
# What the steps of the router do to the ledger

Whatever a worker does, and whatever happens to the process, the saved state
only grows, and the memory of a running process is never behind the file.  The
memory itself can be ahead of the file, after a write that failed.
-/

namespace Turnrail

open Interleaving

variable {host : Foundation}

/-- The saved state only grows. -/
def Disk.Keeps (before after : Disk) : Prop :=
  ∀ saved, before.ledger = some saved →
    ∃ later, after.ledger = some later ∧ saved.Extends later

theorem Disk.Keeps.refl (disk : Disk) : disk.Keeps disk :=
  fun saved known => ⟨saved, known, .refl saved⟩

/-- The memory of a running process was saved before, and is not behind the
file. -/
def World.Coherent (world : World) : Prop :=
  ∀ state, world.memory = some state →
    ∃ saved, world.disk.ledger = some saved ∧ saved.Extends state

/-- A call was run on the memory and the files. -/
structure World.Called (host : Foundation) (before : World)
    (call : LedgerCall) (reply : Except PlainError call.Value)
    (after : World) where
  state : LedgerState
  writes : List WriteOutcome
  ledger : Ledger
  running : before.memory = some state
  outcome : Outcome host writes ⟨state, before.disk⟩ call reply ledger
  rest : after =
    { before with memory := some ledger.state, disk := ledger.disk }

variable {world after : World} {call : LedgerCall} {reply : Except PlainError call.Value}

/-- A ledger call has an outcome of the running ledger. -/
theorem exec_ledger
    (thread : Nat)
    (executed : World.exec host thread world (.ledger call) reply after) :
    Nonempty (world.Called host call reply after) := by
  obtain ⟨state, ledger, writes, running, called, rfl⟩ := executed
  exact ⟨⟨state, writes, ledger, running, LedgerCall.outcome called, rfl⟩⟩

/-- An effect calls the ledger. -/
def Effect.callsLedger : Effect → Bool
  | .ledger _ => true
  | _ => false

variable {thread : Nat} {effect : Effect}

/-- Only ledger calls touch memory and disk. -/
theorem exec_other
    {reply : effect.Reply}
    (other : effect.callsLedger = false)
    (executed : World.exec host thread world effect reply after) :
    after.memory = world.memory ∧ after.disk = world.disk := by
  cases effect with
  | ledger call => cases other
  | accountBound | nextMessage | attach | validate | readFailure | isStopped
  | waitForRecovery =>
    obtain ⟨-, rfl⟩ := executed
    exact ⟨rfl, rfl⟩
  | connect transport account headers =>
    obtain ⟨-, -, rfl⟩ := executed
    exact ⟨rfl, rfl⟩
  | receive connection =>
    simp only [World.exec] at executed
    subst executed
    split
    · split <;> exact ⟨rfl, rfl⟩
    · exact ⟨rfl, rfl⟩
  | lockHook =>
    obtain ⟨-, rfl⟩ := executed
    exact ⟨rfl, rfl⟩
  | _ =>
    cases executed
    exact ⟨rfl, rfl⟩

namespace World.Called

variable {before after : World}
variable {call : LedgerCall} {reply : Except PlainError call.Value}

variable (called : before.Called host call reply after)
include called

theorem memory : after.memory = some called.ledger.state :=
  congrArg World.memory called.rest

theorem disk : after.disk = called.ledger.disk :=
  congrArg World.disk called.rest

theorem lags :
    after.disk.ledger = before.disk.ledger ∨
      after.disk.ledger = after.memory := by
  rw [called.memory, called.disk]
  exact called.outcome.lags

theorem grows : called.state.Extends called.ledger.state :=
  called.outcome.extends

theorem keeps (coherent : before.Coherent) : before.disk.Keeps after.disk := by
  intro saved known
  rcases called.lags with same | same
  · exact ⟨saved, same.trans known, .refl saved⟩
  · obtain ⟨saved', known', grown⟩ := coherent _ called.running
    rw [known] at known'
    cases known'
    exact ⟨_, same.trans called.memory, grown.trans called.grows⟩

theorem coherent (coherent : before.Coherent) : after.Coherent := by
  intro state running
  rw [called.memory] at running
  cases running
  rcases called.lags with same | same
  · obtain ⟨saved, known, grown⟩ := coherent _ called.running
    exact ⟨saved, same.trans known, grown.trans called.grows⟩
  · exact ⟨_, same.trans called.memory, .refl _⟩

end World.Called

section Reset

variable {before after : World}

/-- A restart loads the blocked reading of the disk, or no ledger runs. -/
theorem reset_cases (reset : before.reset after) :
    (after.memory = none ∧ (after.disk.ledger = before.disk.ledger ∨
          after.disk.ledger = some before.disk.opened)) ∨
      (after.memory = some before.disk.opened ∧
        after.disk.ledger = some before.disk.opened) := by
  obtain ⟨writes, result, disk, opened, rfl⟩ := reset
  cases result with
  | error failure =>
    left
    refine ⟨rfl, ?_⟩
    rcases init_cases opened with ⟨_, -, rfl⟩ | ⟨-, -, lags, -⟩
    · exact .inl rfl
    · exact lags
  | ok ledger =>
    right
    rcases init_cases opened with ⟨_, ⟨⟩, -⟩ | ⟨-, -, -, success⟩
    obtain ⟨rfl, saved⟩ := success ledger rfl
    exact ⟨rfl, saved⟩

theorem Disk.opened_extends
    {disk : Disk}
    {saved : LedgerState}
    (known : disk.ledger = some saved) :
    saved.Extends disk.opened := by
  simp only [Disk.opened, known]
  exact saved.extends_blockInFlight

theorem reset_keeps (reset : before.reset after) :
    before.disk.Keeps after.disk := by
  intro saved known
  rcases reset_cases reset with ⟨-, same | same⟩ | ⟨-, same⟩
  · exact ⟨saved, same.trans known, .refl saved⟩
  · exact ⟨_, same, Disk.opened_extends known⟩
  · exact ⟨_, same, Disk.opened_extends known⟩

theorem reset_coherent (reset : before.reset after) : after.Coherent := by
  intro state running
  rcases reset_cases reset with ⟨stopped, -⟩ | ⟨memory, saved⟩
  · rw [stopped] at running
    cases running
  · rw [memory] at running
    cases running
    exact ⟨_, saved, .refl _⟩

end Reset

section Blocks

/-- A condition of the memory that the next process would start with too. -/
structure World.Blocks (blocked : LedgerState → Prop) (world : World) :
    Prop where
  memory : ∀ state, world.memory = some state → blocked state
  file : ∃ saved, world.disk.ledger = some saved ∧ blocked saved.blockInFlight

variable {blocked : LedgerState → Prop} {before after : World}

theorem World.Blocks.unchanged
    (blocks : before.Blocks blocked)
    (memory : after.memory = before.memory)
    (disk : after.disk = before.disk) :
    after.Blocks blocked := by
  constructor
  · rw [memory]
    exact blocks.memory
  · rw [disk]
    exact blocks.file

theorem World.Blocks.called
    (blocks : before.Blocks blocked)
    (called : before.Called host call reply after)
    (remains : blocked called.ledger.state)
    (reloads : ∀ state, blocked state → blocked state.blockInFlight) :
    after.Blocks blocked := by
  constructor
  · intro state running
    rw [called.memory] at running
    cases running
    exact remains
  · rcases called.lags with same | same
    · rw [same]
      exact blocks.file
    · exact ⟨_, same.trans called.memory, reloads _ remains⟩

theorem World.Blocks.reset
    (blocks : ∃ saved, before.disk.ledger = some saved ∧
      blocked saved.blockInFlight)
    (resets : before.reset after)
    (reloads : ∀ state, blocked state → blocked state.blockInFlight) :
    after.Blocks blocked := by
  obtain ⟨saved, known, blocks⟩ := blocks
  have opened : before.disk.opened = saved.blockInFlight := by simp only [Disk.opened, known]
  rcases reset_cases resets with ⟨stopped, lags⟩ | ⟨memory, same⟩
  · refine ⟨by simp [stopped], ?_⟩
    rcases lags with same | same
    · exact ⟨saved, same.trans known, blocks⟩
    · rw [opened] at same
      exact ⟨_, same, reloads _ blocks⟩
  · rw [opened] at memory same
    refine ⟨?_, _, same, reloads _ blocks⟩
    intro state running
    rw [memory] at running
    cases running
    exact blocks

end Blocks

/-- The workers as parties of the delivery protocol. -/
abbrev Workers (host : Foundation) := Parties (delivery host) World

/-- A step of the workers. -/
abbrev Workers.Step (before : Workers host) (event : Event router Point)
    (after : Workers host) : Prop :=
  Protocol.Step (machine host) (delivery host) Point.start before event after

/-- A run of the workers. -/
abbrev Workers.Run (host : Foundation)
    (trace : List (Moment router Point World)) (workers : Workers host) : Prop :=
  Protocol.Run (machine host) (delivery host) Point.start World.start trace workers

theorem exec_coherent
    {reply : effect.Reply}
    (executed : World.exec host thread world effect reply after)
    (coherent : world.Coherent) :
    world.disk.Keeps after.disk ∧ after.Coherent := by
  cases calls : effect.callsLedger with
  | false =>
    obtain ⟨memory, disk⟩ := exec_other calls executed
    rw [World.Coherent, memory, disk]
    exact ⟨.refl _, coherent⟩
  | true =>
    cases effect with
    | ledger call =>
      obtain ⟨called⟩ := exec_ledger thread executed
      exact ⟨called.keeps coherent, called.coherent coherent⟩
    | _ => cases calls

theorem World.Coherent.step
    {Point : Type}
    {protocol : Protocol router}
    {start : Point → protocol.Stage}
    {before after : Parties protocol World}
    {event : Event router Point}
    (coherent : before.world.Coherent)
    (step : Protocol.Step (machine host) protocol start before event after) :
    before.world.disk.Keeps after.world.disk ∧ after.world.Coherent := by
  cases step with
  | spawn | resume | finish => exact ⟨.refl _, coherent⟩
  | perform thread _ _ _ executed => exact exec_coherent executed coherent
  | drift drifts =>
    obtain ⟨thread, rfl⟩ := drifts
    exact ⟨.refl _, coherent⟩
  | restart resets => exact ⟨reset_keeps resets, reset_coherent resets⟩

theorem World.Blocks.step
    {blocked : LedgerState → Prop}
    {before after : Workers host}
    {event : Event router Point}
    (blocks : before.world.Blocks blocked)
    (reloads : ∀ state, blocked state → blocked state.blockInFlight)
    (calls : ∀ {thread call reply writes} {first second : Ledger},
      event = .performed thread (.ledger call) reply →
      Outcome host writes first call reply second →
      blocked first.state → blocked second.state)
    (step : before.Step event after) :
    after.world.Blocks blocked := by
  cases step with
  | spawn | resume | finish => exact blocks
  | @perform world stage effect reply thread _ _ _ executed =>
    cases ledger : effect.callsLedger with
    | false =>
      obtain ⟨memory, disk⟩ := exec_other ledger executed
      exact blocks.unchanged memory disk
    | true =>
      cases effect with
      | ledger call =>
        obtain ⟨called⟩ := exec_ledger thread executed
        exact blocks.called called (calls rfl called.outcome (blocks.memory _ called.running))
          reloads
      | _ => cases ledger
  | drift drifts =>
    obtain ⟨thread, rfl⟩ := drifts
    exact blocks.unchanged rfl rfl
  | restart resets => exact .reset blocks.file resets reloads

end Turnrail
