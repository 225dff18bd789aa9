import Turnrail.Runtime.Duplicates

/-!
# What a crash leaves behind

A request that was sent is in flight in the file.  If the file still shows it in
flight when the process dies, nobody knows whether the service saw it, so its
turn is blocked in every later process.  Opening the file blocks no other turn
and changes nothing else.
-/

namespace Turnrail

open Interleaving

variable {host : Foundation}

/-- A request of a turn is submitted. -/
def Submits (fingerprint turn : String)
    (moment : Moment router Point World) : Prop :=
  ∃ thread effect reply, moment.event = .performed thread effect reply ∧
      effect.sends = some (fingerprint, turn)

/-- The file shows that the delivery of a request was decided. -/
def Disk.Settles (fingerprint : String) (disk : Disk) : Prop :=
  ∃ saved request, disk.ledger = some saved ∧
    saved.requests.lookup fingerprint = some request ∧
    request.state.inFlight = false

/-- A call goes on with a turn. -/
def LedgerCall.continues (turn : String) : LedgerCall → Bool
  | .bound key => key = turn
  | .bind key _ => key = turn
  | .begin _ key => key = turn
  | _ => false

/-- Every call that would let a turn go on is refused. -/
def World.Refuses (host : Foundation) (world : World) (turn : String) :
    Prop :=
  ∀ state, world.memory = some state →
    ∀ call : LedgerCall, call.continues turn = true → ∀ writes,
      ∃ error, (RouterLedger.call (call.run host) ⟨state, world.disk⟩ writes).1 = .error error

variable {turn : String}

theorem Outcome.not_continues
    {writes : List WriteOutcome}
    {before after : Ledger}
    {call : LedgerCall}
    {value : call.Value}
    (outcome : Outcome host writes before call (.ok value) after)
    (continues : call.continues turn = true) :
    before.state.isFailed turn = false := by
  cases call with
  | bound key =>
    obtain rfl : key = turn := of_decide_eq_true continues
    generalize read : (.ok value : Except PlainError (Option UUID)) = result at outcome
    cases outcome with
    | answered answers =>
      cases answers with
      | refused failure => cases read
      | bound healthy => exact healthy
    | changed list makes => cases makes
  | bind key account =>
    obtain rfl : key = turn := of_decide_eq_true continues
    cases outcome with
    | answered answers =>
      cases answers with
      | bind binds => exact binds.1
    | changed list makes =>
      cases makes with
      | bind healthy _ => exact healthy
  | begin fingerprint key =>
    obtain rfl : key = turn := of_decide_eq_true continues
    obtain ⟨-, -, healthy, -⟩ := outcome.begin_admitted
    exact healthy
  | _ => cases continues

theorem refuses_of_isFailed
    {world : World}
    (failed : ∀ state, world.memory = some state → state.isFailed turn = true) :
    world.Refuses host turn := by
  intro state running call continues writes
  generalize called : RouterLedger.call (call.run host) ⟨state, world.disk⟩ writes = reached
  obtain ⟨result, ledger⟩ := reached
  cases result with
  | error error => exact ⟨error, rfl⟩
  | ok value =>
    have healthy := (LedgerCall.outcome called).not_continues continues
    rw [failed state running] at healthy
    cases healthy

section Moments

variable {workers after : Workers host} {fingerprint turn : String}

theorem Workers.Delivers.submits
    {moment : Moment router Point World}
    (delivers : workers.Delivers)
    (submits : Submits fingerprint turn moment)
    (step : workers.Step moment.event after) :
    ∃ saved, after.world.disk.ledger = some saved ∧
      saved.InFlight fingerprint turn := by
  obtain ⟨thread, effect, reply, happened, sends⟩ := submits
  rw [happened] at step
  cases step with
  | @perform world stage _ _ _ known allowed _ executed =>
    have begun : stage.phase = .begun fingerprint turn := by
      cases effect <;> cases sends <;> exact allowed.1
    have other : effect.callsLedger = false := by
      cases effect <;> cases sends <;> rfl
    obtain ⟨-, disk⟩ := exec_other other executed
    obtain ⟨-, saved, -, file, -, inFile, -⟩ := (delivers.sound known).held (.inl begun)
    exact ⟨saved, (congrArg Disk.ledger disk).trans file, inFile⟩

variable {event : Event router Point}

theorem Workers.Step.inFlight
    (step : workers.Step event after)
    (coherent : workers.world.Coherent)
    (undecided : ¬after.world.disk.Settles fingerprint)
    (inFlight : ∃ saved, workers.world.disk.ledger = some saved ∧
      saved.InFlight fingerprint turn) :
    ∃ saved, after.world.disk.ledger = some saved ∧
      saved.InFlight fingerprint turn := by
  obtain ⟨saved, known, current, found, -⟩ := inFlight
  obtain ⟨later, file, grown⟩ := (coherent.step step).1 saved known
  obtain ⟨next, recorded, -⟩ := grown.requests found
  refine ⟨later, file, next, recorded, ?_⟩
  cases decided : next.inFlight with
  | true => rfl
  | false => exact absurd ⟨later, _, file, recorded, decided⟩ undecided

theorem World.Blocks.failed_step
    (blocks : workers.world.Blocks fun state => state.isFailed turn = true)
    (step : workers.Step event after) :
    after.world.Blocks fun state => state.isFailed turn = true :=
  blocks.step (fun state failed => state.extends_blockInFlight.failed failed)
    (fun _ outcome failed => outcome.extends.failed failed) step

theorem Workers.Step.blocks_restarted
    (step : workers.Step .restarted after)
    (inFlight : ∃ saved, workers.world.disk.ledger = some saved ∧
      saved.InFlight fingerprint turn) :
    after.world.Blocks fun state => state.isFailed turn = true := by
  cases step with
  | restart resets =>
    obtain ⟨saved, known, current, found, inFlight⟩ := inFlight
    refine World.Blocks.reset ⟨saved, known, ?_⟩ resets
      fun state failed => state.extends_blockInFlight.failed failed
    rw [LedgerState.isFailed_blockInFlight]
    exact .inr ⟨fingerprint, _, found, inFlight, rfl⟩

theorem Workers.Run.blocks_since
    {earlier between later : List (Moment router Point World)}
    {sent restart : Moment router Point World}
    (run : Workers.Run host
      ((earlier ++ sent :: between) ++ restart :: later) workers)
    (submits : Submits fingerprint turn sent)
    (undecided : ∀ moment ∈ between, ¬moment.world.disk.Settles fingerprint)
    (restarts : restart.event = .restarted) :
    ∀ moment ∈ restart :: later, ∃ reached : Workers host,
      (reached.world.Blocks fun state => state.isFailed turn = true) ∧
        moment.world = reached.world := by
  obtain ⟨before, after, run, step, -, onward⟩ := run.onward
  rw [restarts] at step
  have inFlight : ∃ saved, before.world.disk.ledger = some saved ∧
      saved.InFlight fingerprint turn := by
    obtain ⟨middle, reached, run, first, -, onward⟩ := run.onward
    refine (onward (fun workers => ∃ saved, workers.world.disk.ledger = some saved ∧
        saved.InFlight fingerprint turn)
      ((Workers.Run.delivers run).submits submits first) ?_).1
    intro trace before event after run member step inFlight
    exact Workers.Step.inFlight step (Workers.Run.delivers run).coherent
      (undecided _ member) inFlight
  exact (onward (fun workers => workers.world.Blocks fun state => state.isFailed turn = true)
    (Workers.Step.blocks_restarted step inFlight)
    fun _ _ step blocks => blocks.failed_step step).2

end Moments

/-- If a request was sent and the file never showed a decision about it up to a
restart, its turn cannot go on in any later state.  Opening a file blocks the
turns of its in-flight requests and keeps everything else. -/
theorem restart_blocks_uncertain_turns :
    (∀ {trace : List (Moment router Point World)}
      {pool : Pool router Point World}, RouterRun host trace pool →
      ∀ earlier sent between restart later fingerprint turn,
      trace = earlier ++ sent :: (between ++ restart :: later) →
      Submits fingerprint turn sent →
      (∀ moment ∈ between, ¬moment.world.disk.Settles fingerprint) →
      restart.event = .restarted →
      ∀ moment ∈ restart :: later, moment.world.Refuses host turn) ∧
      (∀ {disk after : Disk} {writes : List WriteOutcome} {ledger : Ledger}
        {saved : LedgerState}, disk.ledger = some saved →
        RouterLedger.init disk writes = (.ok ledger, after) →
        (∀ turn, ledger.state.isFailed turn = true ↔
          saved.isFailed turn = true ∨ saved.Uncertain turn) ∧
        ledger.state.bindings = saved.bindings ∧
        ledger.state.requests = saved.requests ∧
        ledger.state.titles = saved.titles ∧
        ledger.state.completed = saved.completed ∧
        ledger.state.history = saved.history ∧
        after.messages = disk.messages ∧ after.ledger = some ledger.state) := by
  constructor
  · rintro trace pool run earlier sent between restart later fingerprint turn
      rfl submits undecided restarts moment member
    obtain ⟨workers, run, -⟩ := run.workers
    have split : earlier ++ sent :: (between ++ restart :: later) =
        (earlier ++ sent :: between) ++ restart :: later := by simp
    rw [split] at run
    obtain ⟨reached, blocks, same⟩ :=
      Workers.Run.blocks_since run submits undecided restarts moment member
    rw [same]
    exact refuses_of_isFailed blocks.memory
  · intro disk after writes ledger saved known opened
    rcases init_cases opened with ⟨_, ⟨⟩, -⟩ | ⟨messages, -, -, success⟩
    obtain ⟨rfl, file⟩ := success ledger rfl
    have same : disk.opened = saved.blockInFlight := by simp only [Disk.opened, known]
    rw [same] at file ⊢
    exact ⟨saved.isFailed_blockInFlight, rfl, rfl, rfl, rfl, rfl, messages, file⟩

/-- A new process starts to serve. -/
def restartedAt (moment : Moment router Point World) : Bool :=
  match moment.event with
  | .restarted => moment.world.memory.isSome
  | _ => false

theorem restarted_of_restartedAt
    {moment : Moment router Point World}
    (restarts : restartedAt moment = true) :
    moment.event = .restarted ∧ moment.world.memory.isSome = true := by
  unfold restartedAt at restarts
  split at restarts
  · rename_i happened
    exact ⟨happened, restarts⟩
  · cases restarts

/-- The process dies right after a worker sent a request, and the next process
refuses the turn. -/
theorem turn_is_refused_after_crash :
    (∃ trace pool, RouterRun Rehearsal.host trace pool ∧
      ∃ moment ∈ trace, moment.world.memory.isSome = true ∧
        moment.world.Refuses Rehearsal.host "task/turn") ∧
      ∃ saved ledger after,
        RouterLedger.init ⟨some saved, ∅⟩ [] = (.ok ledger, after) ∧
        saved.isFailed "task/turn" = false ∧
        ledger.state.isFailed "task/turn" = true ∧
        ledger.state.requests = saved.requests := by
  obtain ⟨refused, opened⟩ := @restart_blocks_uncertain_turns Rehearsal.host
  constructor
  · obtain ⟨trace, pool, run, visited⟩ := Rehearsal.run
      (Rehearsal.prelude ++ Rehearsal.submission 1 "first" ++
        [.restart (0, { reply := Rehearsal.replies "" (.ok []) })])
      [observing Effect.sends (Rehearsal.digest, "task/turn"),
        { passing := fun _ => false, wanted := restartedAt }]
      (fun _ => true) (by decide +kernel)
    obtain ⟨earlier, sent, rest, rfl, -, sends, visited⟩ := split_of_visits visited
    obtain ⟨between, restart, later, rfl, passed, restarts, -⟩ := split_of_visits visited
    obtain ⟨happened, running⟩ := restarted_of_restartedAt restarts
    have submits : Submits Rehearsal.digest "task/turn" sent := performed_of_observing sends
    have undecided : ∀ moment ∈ between, ¬moment.world.disk.Settles Rehearsal.digest := by
      intro moment member
      cases passed moment member
    exact ⟨_, pool, run, restart, by simp, running,
      refused run _ _ _ _ _ _ _ rfl submits undecided happened restart (by simp)⟩
  · have started : RouterLedger.init ⟨some (LedgerState.empty.change
            (.request Rehearsal.digest "task/turn" .forwarding)), ∅⟩ [] =
        (.ok ⟨LedgerState.blockInFlight _, ⟨some _, ∅⟩⟩, _) := rfl
    obtain ⟨blocked, -, requests, -⟩ := opened rfl started
    exact ⟨_, _, _, started, rfl,
      (blocked _).mpr (.inr ⟨Rehearsal.digest, _, rfl, rfl, rfl⟩), requests⟩

end Turnrail
