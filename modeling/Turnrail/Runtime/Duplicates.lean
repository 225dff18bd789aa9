import Turnrail.Runtime.Delivery
import Turnrail.Runtime.Execution

/-!
# No request is inferred twice

Once a request was sent, its fingerprint is closed: the ledger admits it again
only after an interruption or an expired connection was recorded.  A request
that was finished or cancelled, or that the file shows in flight when the
process dies, is closed for good.
-/

namespace Turnrail

open Interleaving LedgerState

variable {host : Foundation}

/-- The request that an effect sends. -/
def Effect.sends : Effect → Option (String × String)
  | .send _ _ fingerprint turn => some (fingerprint, turn)
  | .search _ _ _ fingerprint turn => some (fingerprint, turn)
  | _ => none

/-- A request is sent. -/
def Sends (fingerprint : String) (moment : Moment router Point World) : Prop :=
  ∃ thread effect reply turn, moment.event = .performed thread effect reply ∧
      effect.sends = some (fingerprint, turn)

variable {fingerprint turn : String} {moment : Moment router Point World}

theorem sends_of_observing
    (reached :
      (observing Effect.sends (fingerprint, turn)).wanted moment = true) :
    Sends fingerprint moment := by
  obtain ⟨thread, effect, reply, happened, sends⟩ := performed_of_observing reached
  exact ⟨thread, effect, reply, turn, happened, sends⟩

/-- A request may be sent again. -/
def Permits (fingerprint : String) (moment : Moment router Point World) :
    Prop :=
  ∃ thread call reply turn, moment.event = .performed thread (.ledger call) reply ∧
      (call = .interrupt fingerprint turn ∨ call = .rejectConnectionLimit fingerprint turn)

/-- A call ends a request. -/
def LedgerCall.ends (fingerprint : String) : LedgerCall → Bool
  | .finish named _ => named = fingerprint
  | .complete named _ _ _ => named = fingerprint
  | .cancel named _ => named = fingerprint
  | _ => false

/-- The moment finishes or cancels a request, or is a restart from a file that
shows the request in flight. -/
def Concludes (fingerprint : String) (moment : Moment router Point World) :
    Prop :=
  (∃ thread call reply, moment.event = .performed thread (.ledger call) reply ∧
      call.ends fingerprint = true ∧ reply.isOk = true) ∨
    (moment.event = .restarted ∧ ∃ saved turn, moment.world.disk.ledger = some saved ∧
        saved.InFlight fingerprint turn)

/-- The moment finishes or cancels a request. -/
def endedAt (fingerprint : String) (moment : Moment router Point World) :
    Bool :=
  match moment.event with
  | .performed _ (.ledger call) reply => call.ends fingerprint && reply.isOk
  | _ => false

theorem concludes_of_endedAt (ended : endedAt fingerprint moment = true) :
    Concludes fingerprint moment := by
  unfold endedAt at ended
  split at ended
  · rename_i thread call reply happened
    obtain ⟨ends, succeeds⟩ := Bool.and_eq_true_iff.mp ended
    exact .inl ⟨thread, call, reply, happened, ends, succeeds⟩
  · cases ended

section Closing

/-- A request that the running process does not admit, that the next process
would not admit, and that no worker is about to send. -/
structure Workers.Closes (blocked : LedgerState → Prop) (fingerprint : String)
    (workers : Workers host) : Prop where
  blocks : workers.world.Blocks blocked
  nobody : ∀ {thread stage turn}, workers.stages thread = some stage →
    stage.phase ≠ .begun fingerprint turn

variable {blocked : LedgerState → Prop} {fingerprint : String}
variable {workers after : Workers host}

theorem Workers.Closes.not_sends
    (closes : workers.Closes blocked fingerprint)
    (step : workers.Step moment.event after) :
    ¬Sends fingerprint moment := by
  rintro ⟨thread, effect, reply, turn, happened, sends⟩
  rw [happened] at step
  cases step with
  | perform _ known allowed =>
    cases effect with
    | send =>
      cases sends
      exact closes.nobody known allowed.1
    | search =>
      cases sends
      exact closes.nobody known allowed.1
    | _ => cases sends

/-- Only an admission makes a worker ready to send. -/
theorem begun_called
    {phase : Phase}
    {call : LedgerCall}
    {reply : Except PlainError call.Value}
    (begun : phase.after call reply = .begun fingerprint turn) :
    phase = .begun fingerprint turn ∨
      (call = .begin fingerprint turn ∧ reply.isOk = true) := by
  cases call with
  | begin named owner =>
    cases reply with
    | error error => exact .inl begun
    | ok value =>
      cases begun
      exact .inr ⟨rfl, rfl⟩
  | interrupt | rejectConnectionLimit | fail => cases begun
  | cancel => cases phase <;> cases begun
  | complete | finish => cases reply <;> cases begun
  | saveHistory id value =>
    cases reply with
    | error error => exact .inl begun
    | ok value => cases begun
  | _ => exact .inl begun

theorem begun_other
    {stage : Stage}
    {effect : Effect}
    {reply : effect.Reply}
    (other : effect.callsLedger = false)
    (begun : (stage.next host effect reply).phase = .begun fingerprint turn) :
    stage.phase = .begun fingerprint turn := by
  cases effect with
  | ledger call => cases other
  | nextMessage =>
    cases reply with
    | none => exact begun
    | some raw => cases begun
  | send | search => cases begun
  | receive connection =>
    cases reply with
    | error error => exact begun
    | ok rawEvent =>
      cases parsed : RouterJSON.object host rawEvent <;>
        simpa [Stage.next, Stage.learn, parsed] using begun
  | _ => exact begun

theorem Workers.Closes.step
    {event : Event router Point}
    (closes : workers.Closes blocked fingerprint)
    (refuses : ∀ {writes turn value} {before ledger : Ledger},
      Outcome host writes before (.begin fingerprint turn) (.ok value)
        ledger → ¬blocked before.state)
    (reloads : ∀ state, blocked state → blocked state.blockInFlight)
    (calls : ∀ {thread call reply writes} {before ledger : Ledger},
      event = .performed thread (.ledger call) reply →
      Outcome host writes before call reply ledger →
      blocked before.state → blocked ledger.state)
    (step : workers.Step event after) :
    after.Closes blocked fingerprint := by
  refine ⟨closes.blocks.step reloads calls step, ?_⟩
  intro other another turn present begun
  rcases step.stage_cases present with ⟨point, -, rfl⟩ |
    ⟨current, effect, reply, rfl, known, -, executed, rfl⟩ | ⟨present, -⟩
  · cases point <;> cases begun
  · cases ledger : effect.callsLedger with
    | false => exact closes.nobody known (begun_other ledger begun)
    | true =>
      cases effect with
      | ledger call =>
        obtain ⟨called⟩ := exec_ledger other executed
        rw [Workers.Delivers.phase_called] at begun
        rcases begun_called begun with begun | ⟨rfl, admitted⟩
        · exact closes.nobody known begun
        · cases reply with
          | error error => cases admitted
          | ok value => exact refuses called.outcome (closes.blocks.memory _ called.running)
      | _ => cases ledger
  · exact closes.nobody present begun

end Closing

namespace LedgerState

/-- A request is known and was not interrupted. -/
def Spent (fingerprint : String) (state : LedgerState) : Prop :=
  ∃ request, state.requests.lookup fingerprint = some request ∧ request.state.resumable = false

/-- A request ended, or its turn failed. -/
def Barred (fingerprint : String) (state : LedgerState) : Prop :=
  ∃ request, state.requests.lookup fingerprint = some request ∧
    (request.state = .completed ∨ request.state = .cancelled ∨
      state.isFailed request.turn = true)

variable {state : LedgerState} {fingerprint turn : String}

theorem InFlight.spent (inFlight : state.InFlight fingerprint turn) :
    state.Spent fingerprint := by
  obtain ⟨current, known, inFlight⟩ := inFlight
  refine ⟨_, known, ?_⟩
  cases current <;> first | rfl | cases inFlight

theorem Completes.barred (completes : state.Completes fingerprint turn) :
    state.Barred fingerprint :=
  ⟨_, completes, .inl rfl⟩

theorem Extends.barred
    {before after : LedgerState}
    (grown : before.Extends after)
    (barred : before.Barred fingerprint) :
    after.Barred fingerprint := by
  obtain ⟨request, known, ended⟩ := barred
  obtain ⟨next, later, steps⟩ := grown.requests known
  refine ⟨_, later, ?_⟩
  rcases ended with completed | cancelled | failed
  · exact .inl ((Advances.eq_of_terminal (.inl completed) steps).trans completed)
  · exact .inr (.inl ((Advances.eq_of_terminal (.inr cancelled) steps).trans cancelled))
  · exact .inr (.inr (grown.failed failed))

theorem InFlight.barred (inFlight : state.InFlight fingerprint turn) :
    state.blockInFlight.Barred fingerprint := by
  obtain ⟨current, known, inFlight⟩ := inFlight
  refine ⟨_, known, .inr (.inr ?_)⟩
  rw [isFailed_blockInFlight]
  exact .inr ⟨fingerprint, _, known, inFlight, rfl⟩

end LedgerState

theorem Operation.next_spent
    {operation : Operation}
    {current next : RequestState}
    (spent : current.resumable = false)
    (step : operation.next (some current) = some next)
    (interrupts : operation ≠ .interrupt)
    (expires : operation ≠ .rejectConnectionLimit) :
    next.resumable = false := by
  cases operation with
  | interrupt | rejectConnectionLimit => contradiction
  | begin => cases current <;> cases step <;> rfl
  | cancel | finish =>
    cases current <;>
      simp [Operation.next, RequestState.inFlight] at step <;>
      rw [← step] <;>
      rfl

section Requests

variable {writes : List WriteOutcome} {before ledger : Ledger}
variable {fingerprint turn : String} {value : Unit}

theorem Outcome.not_spent
    (outcome :
      Outcome host writes before (.begin fingerprint turn) (.ok value) ledger) :
    ¬before.state.Spent fingerprint := by
  rintro ⟨request, known, spent⟩
  obtain ⟨-, -, -, admitted, -⟩ := outcome.begin_admitted
  rw [(admitted request known).2] at spent
  cases spent

theorem Outcome.not_barred
    (outcome :
      Outcome host writes before (.begin fingerprint turn) (.ok value) ledger) :
    ¬before.state.Barred fingerprint := by
  rintro ⟨request, known, ended⟩
  obtain ⟨-, -, continues, admitted, -⟩ := outcome.begin_admitted
  obtain ⟨owner, resumable⟩ := admitted request known
  rcases ended with ended | ended | failed
  · rw [ended] at resumable
    cases resumable
  · rw [ended] at resumable
    cases resumable
  · rw [owner, continues] at failed
    cases failed

theorem Outcome.spent
    {call : LedgerCall}
    {reply : Except PlainError call.Value}
    (outcome : Outcome host writes before call reply ledger)
    (others : ∀ owner, call ≠ .interrupt fingerprint owner ∧
      call ≠ .rejectConnectionLimit fingerprint owner)
    (spent : before.state.Spent fingerprint) :
    ledger.state.Spent fingerprint := by
  obtain ⟨request, known, spent⟩ := spent
  rcases outcome.request fingerprint with
    same | ⟨operation, owner, next, performs, moves⟩
  · exact ⟨request, same.trans known, spent⟩
  · refine ⟨_, moves.recorded, ?_⟩
    have step := moves.step
    rw [known] at step
    refine Operation.next_spent spent step ?_ ?_
    · rintro rfl
      cases call <;> cases performs
      exact (others owner).1 rfl
    · rintro rfl
      cases call <;> cases performs
      exact (others owner).2 rfl

end Requests

section Moments

variable {workers after : Workers host} {fingerprint : String}

variable {thread : Nat} {stage : Stage} {turn : String}
variable {moment : Moment router Point World} {world : World}
variable {earlier between : List (Moment router Point World)}

theorem Workers.Delivers.nobody
    {next : Option Stage}
    (delivers : workers.Delivers)
    (known : workers.stages thread = some stage)
    (holds : stage.phase.Holds fingerprint turn)
    (leaves : ∀ stage owner, next = some stage →
      stage.phase ≠ .begun fingerprint owner)
    {other : Nat}
    {another : Stage}
    {owner : String}
    (present :
      Function.update workers.stages thread next other = some another) :
    another.phase ≠ .begun fingerprint owner := by
  rcases update_cases present with ⟨-, rfl⟩ | ⟨differs, present⟩
  · exact leaves another owner rfl
  · intro begun
    exact differs (delivers.unique present known (.inl begun) holds)

theorem Workers.Delivers.closes_sent
    (delivers : workers.Delivers)
    (sends : Sends fingerprint moment)
    (step : workers.Step moment.event after) :
    after.Closes (Spent fingerprint) fingerprint := by
  obtain ⟨thread, effect, reply, turn, happened, sends⟩ := sends
  rw [happened] at step
  cases step with
  | @perform world stage _ _ _ known allowed _ executed =>
    have begun : stage.phase = .begun fingerprint turn := by
      cases effect <;> cases sends <;> exact allowed.1
    have other : effect.callsLedger = false := by
      cases effect <;> cases sends <;> rfl
    have leaves : (stage.next host effect reply).phase = .sent fingerprint turn := by
      cases effect <;> cases sends <;> rfl
    obtain ⟨memory, disk⟩ := exec_other other executed
    obtain ⟨state, saved, running, file, inMemory, inFile, -⟩ :=
      (delivers.sound known).held (.inl begun)
    refine ⟨⟨?_, ?_⟩, ?_⟩
    · intro current present
      rw [memory, running] at present
      cases present
      exact inMemory.spent
    · rw [disk]
      exact ⟨saved, file, inFile.spent⟩
    · intro other another owner present
      refine delivers.nobody known (.inl begun) ?_ present
      rintro _ _ ⟨⟩
      rw [leaves]
      simp

theorem Workers.Delivers.closes_held
    {stage next : Stage}
    {state saved : LedgerState}
    (delivers : workers.Delivers)
    (known : workers.stages thread = some stage)
    (holds : stage.phase.Holds fingerprint turn)
    (leaves : ∀ owner, next.phase ≠ .begun fingerprint owner)
    (memory : world.memory = some state)
    (file : world.disk.ledger = some saved)
    (inMemory : state.Barred fingerprint)
    (inFile : saved.Barred fingerprint) :
    @Workers.Closes host (Barred fingerprint) fingerprint
      ⟨world, Function.update workers.stages thread (some next)⟩ := by
  refine ⟨⟨?_, saved, file, saved.extends_blockInFlight.barred inFile⟩, ?_⟩
  · intro current running
    rw [memory] at running
    cases running
    exact inMemory
  · intro other another owner present
    refine delivers.nobody known holds ?_ present
    rintro _ owner ⟨⟩
    exact leaves owner

theorem Outcome.cancel_saved
    {writes : List WriteOutcome}
    {before ledger : Ledger}
    {value : Unit}
    (outcome :
      Outcome host writes before (.cancel fingerprint turn) (.ok value) ledger)
    (inFlight : before.state.InFlight fingerprint turn) :
    ledger.disk.ledger = some ledger.state ∧
      ledger.state.requests.lookup fingerprint = some ⟨turn, .cancelled⟩ := by
  cases outcome with
  | changed list makes memory _ durable _ _ _ =>
    refine ⟨durable rfl, ?_⟩
    rw [memory]
    cases makes
    exact Table.lookup_insert_self _ _ _
  | answered answers =>
    exfalso
    obtain ⟨current, known, inFlight⟩ := inFlight
    cases answers with
    | cancel found ended =>
      rw [found] at known
      cases known
      rcases ended with rfl | rfl <;> cases inFlight

theorem Workers.Closes.barred_step
    {event : Event router Point}
    (closes : workers.Closes (Barred fingerprint) fingerprint)
    (step : workers.Step event after) :
    after.Closes (Barred fingerprint) fingerprint :=
  closes.step Outcome.not_barred
    (fun state barred => state.extends_blockInFlight.barred barred)
    (fun _ outcome barred => outcome.extends.barred barred) step

theorem Workers.Delivers.closes_committed
    {response : Option String}
    (delivers : workers.Delivers)
    (known : workers.stages thread = some stage)
    (committed : stage.phase = .committed fingerprint turn response) :
    workers.Closes (Barred fingerprint) fingerprint := by
  have sound := delivers.sound known
  obtain ⟨saved, file, completes, -⟩ := sound.committed committed
  refine ⟨⟨?_, saved, file, saved.extends_blockInFlight.barred completes.barred⟩, ?_⟩
  · intro state running
    exact (sound.completes delivers.coherent running committed).barred
  · intro other another owner present begun
    obtain ⟨state, -, running, -, inFlight, -⟩ := (delivers.sound present).held (.inl begun)
    have completes := sound.completes delivers.coherent running committed
    exact completes.not_inFlight inFlight

theorem Workers.Delivers.closes_ended
    {call : LedgerCall}
    {reply : Except PlainError call.Value}
    (delivers : workers.Delivers)
    (known : workers.stages thread = some stage)
    (allowed : stage.AllowsCall host call)
    (called : workers.world.Called host call reply world)
    (ends : call.ends fingerprint = true)
    (succeeds : reply.isOk = true)
    (step : workers.Step (.performed thread (.ledger call) reply)
      ⟨world, Function.update workers.stages thread
        (some (stage.next host (.ledger call) reply))⟩) :
    @Workers.Closes host (Barred fingerprint) fingerprint
      ⟨world, Function.update workers.stages thread
        (some (stage.next host (.ledger call) reply))⟩ := by
  have file := congrArg Disk.ledger called.disk
  cases reply with
  | error error => cases succeeds
  | ok value =>
    cases call with
    | finish named turn =>
      obtain rfl : named = fingerprint := of_decide_eq_true ends
      obtain ⟨saved, completes⟩ := called.outcome.finish_saved
      exact delivers.closes_held known (.inr allowed.1) (by rintro _ ⟨⟩)
        called.memory (file.trans saved) completes.barred completes.barred
    | complete named turn response history =>
      obtain rfl : named = fingerprint := of_decide_eq_true ends
      obtain ⟨saved, completes, -⟩ := called.outcome.complete_saved
      exact delivers.closes_held known (.inr allowed.1) (by rintro _ ⟨⟩)
        called.memory (file.trans saved) completes.barred completes.barred
    | cancel named turn =>
      obtain rfl : named = fingerprint := of_decide_eq_true ends
      have phase : (stage.next host (.ledger (.cancel named turn)) (.ok value)).phase =
          stage.phase.after (.cancel named turn) (.ok value) := rfl
      rcases allowed with holds | ⟨response, committed⟩
      · obtain ⟨state, -, running, -, inFlight, -⟩ := (delivers.sound known).held holds
        rw [called.running] at running
        cases running
        obtain ⟨saved, cancelled⟩ := called.outcome.cancel_saved inFlight
        refine delivers.closes_held known holds ?_ called.memory
          (file.trans saved) ⟨_, cancelled, .inr (.inl rfl)⟩
          ⟨_, cancelled, .inr (.inl rfl)⟩
        intro owner begun
        rw [phase] at begun
        rcases holds with holds | holds <;>
          rw [holds] at begun <;>
          cases begun
      · exact (delivers.closes_committed known committed).barred_step step
    | _ => cases ends

theorem Disk.opened_barred
    {disk : Disk}
    (inFlight : disk.opened.InFlight fingerprint turn) :
    disk.opened.Barred fingerprint := by
  cases saved : disk.ledger with
  | none =>
    simp only [Disk.opened, saved] at inFlight
    obtain ⟨current, known, -⟩ := inFlight
    cases known
  | some state =>
    simp only [Disk.opened, saved] at inFlight ⊢
    exact InFlight.barred inFlight

theorem Workers.Delivers.closes_concluded
    (delivers : workers.Delivers)
    (concludes : Concludes fingerprint moment)
    (step : workers.Step moment.event after)
    (same : moment.world = after.world) :
    after.Closes (Barred fingerprint) fingerprint := by
  obtain ⟨event, world⟩ := moment
  rcases concludes with
    ⟨thread, call, reply, rfl, ends, succeeds⟩ | ⟨rfl, saved, turn, file, inFlight⟩
  · cases step with
    | perform _ known allowed admitted executed =>
      obtain ⟨called⟩ := exec_ledger thread executed
      exact delivers.closes_ended known allowed called ends succeeds
        (.perform thread known allowed admitted executed)
  · cases step with
    | restart resets =>
      dsimp only at same file
      subst same
      refine ⟨⟨?_, saved, file, inFlight.barred⟩, by rintro _ _ _ ⟨⟩⟩
      intro state running
      rcases reset_cases resets with ⟨stopped, -⟩ | ⟨memory, opened⟩
      · rw [stopped] at running
        cases running
      · -- The opened state has the requests of the file it was opened from.
        rw [memory] at running
        rw [opened] at file
        cases running
        cases file
        exact Disk.opened_barred inFlight

theorem Workers.Run.spent_since
    {first : Moment router Point World}
    (run : Workers.Run host (earlier ++ first :: between) workers)
    (sends : Sends fingerprint first)
    (unpermitted : ∀ moment ∈ between, ¬Permits fingerprint moment) :
    workers.Closes (Spent fingerprint) fingerprint := by
  obtain ⟨before, after, run, step, -, onward⟩ := run.onward
  refine (onward (Workers.Closes (Spent fingerprint) fingerprint)
    ((Workers.Run.delivers run).closes_sent sends step) ?_).1
  intro trace before event after _ member step closes
  refine closes.step Outcome.not_spent (fun _ spent => spent) ?_ step
  rintro thread call reply writes before ledger rfl outcome spent
  refine outcome.spent (fun owner => ⟨?_, ?_⟩) spent
  · rintro rfl
    exact unpermitted _ member ⟨thread, _, reply, owner, rfl, .inl rfl⟩
  · rintro rfl
    exact unpermitted _ member ⟨thread, _, reply, owner, rfl, .inr rfl⟩

theorem Workers.Run.barred_since
    {concluded : Moment router Point World}
    (run : Workers.Run host (earlier ++ concluded :: between) workers)
    (concludes : Concludes fingerprint concluded) :
    workers.Closes (Barred fingerprint) fingerprint := by
  obtain ⟨before, after, run, step, same, onward⟩ := run.onward
  exact (onward (Workers.Closes (Barred fingerprint) fingerprint)
    ((Workers.Run.delivers run).closes_concluded concludes step same)
    fun _ _ step closes => closes.barred_step step).1

end Moments

/-- Between two sends of a request somebody recorded an interruption or an
expired connection, and a request that was concluded is not sent again. -/
theorem no_duplicate_inference
    {trace : List (Moment router Point World)}
    {pool : Pool router Point World}
    (run : RouterRun host trace pool)
    (fingerprint : String) :
    (∀ earlier first between second later,
        trace = earlier ++ first :: (between ++ second :: later) →
        Sends fingerprint first → Sends fingerprint second →
        ∃ moment ∈ between, Permits fingerprint moment) ∧
      (∀ earlier concluded later, trace = earlier ++ concluded :: later →
        Concludes fingerprint concluded →
        ∀ moment ∈ later, ¬Sends fingerprint moment) := by
  obtain ⟨workers, run, -⟩ := run.workers
  constructor
  · rintro earlier first between second later rfl sendsFirst sendsSecond
    by_contra absent
    have unpermitted : ∀ moment ∈ between, ¬Permits fingerprint moment :=
      fun moment member permits => absent ⟨moment, member, permits⟩
    have split : earlier ++ first :: (between ++ second :: later) =
        (earlier ++ first :: between) ++ second :: later := by simp
    rw [split] at run
    obtain ⟨before, after, run, step, -⟩ := run.at
    have closes := Workers.Run.spent_since run sendsFirst unpermitted
    exact closes.not_sends step sendsSecond
  · rintro earlier concluded later rfl concludes moment member sends
    obtain ⟨between, rest, rfl⟩ := List.append_of_mem member
    have split : earlier ++ concluded :: (between ++ moment :: rest) =
        (earlier ++ concluded :: between) ++ moment :: rest := by simp
    rw [split] at run
    obtain ⟨before, after, run, step, -⟩ := run.at
    have closes := Workers.Run.barred_since run concludes
    exact closes.not_sends step sends

/-- A worker loses its connection; another worker submits the request again and
finishes it. -/
theorem lost_request_is_sent_again :
    ∃ trace pool, RouterRun Rehearsal.host trace pool ∧
      (∃ earlier first between second later,
        trace = earlier ++ first :: (between ++ second :: later) ∧
        Sends Rehearsal.digest first ∧ Sends Rehearsal.digest second ∧
        ∃ moment ∈ between, Permits Rehearsal.digest moment) ∧
      ∃ earlier concluded later, trace = earlier ++ concluded :: later ∧
        Concludes Rehearsal.digest concluded ∧
        ∀ moment ∈ later, ¬Sends Rehearsal.digest moment := by
  obtain ⟨trace, pool, run, visited⟩ := Rehearsal.run
    (Rehearsal.prelude ++ Rehearsal.submission 1 "first" ++ Script.go 1 8
        (Rehearsal.replies "first" (.error (.transport Rehearsal.lost))) ++
      Rehearsal.submission 2 "second" ++
      Script.go 2 6 (Rehearsal.replies "second" (.ok [1])))
    [observing Effect.sends (Rehearsal.digest, "task/turn"),
      observing Effect.sends (Rehearsal.digest, "task/turn"),
      { wanted := endedAt Rehearsal.digest }]
    (fun _ => true) (by decide +kernel)
  obtain ⟨permitted, final⟩ := no_duplicate_inference run Rehearsal.digest
  obtain ⟨earlier, first, rest, rfl, -, sentFirst, visited⟩ := split_of_visits visited
  obtain ⟨between, second, rest, rfl, -, sentSecond, visited⟩ := split_of_visits visited
  obtain ⟨middle, concluded, later, rfl, -, ended, -⟩ := split_of_visits visited
  have sendsFirst := sends_of_observing sentFirst
  have sendsSecond := sends_of_observing sentSecond
  have concludes := concludes_of_endedAt ended
  have split : earlier ++ first :: (between ++ second :: (middle ++ concluded :: later)) =
      (earlier ++ first :: (between ++ second :: middle)) ++ concluded :: later := by simp
  exact ⟨_, pool, run, ⟨_, _, _, _, _, rfl, sendsFirst, sendsSecond,
      permitted _ _ _ _ _ rfl sendsFirst sendsSecond⟩,
    ⟨_, _, _, split, concludes, final _ _ _ split concludes⟩⟩

end Turnrail
