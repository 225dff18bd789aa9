import Turnrail.Runtime.Delivery
import Turnrail.Runtime.Execution

/-!
# A response is committed before it is acknowledged

When a worker passes the completion of a response on to the Engine, the file
already holds the response and, unless the worker answers a prewarm, the request
as completed.  Nothing that happens later takes that back, and whatever goes
wrong while the worker finishes, it does not stop the turn.
-/

namespace Turnrail

open Interleaving

variable {host : Foundation}

/-- What a worker is busy with: the message it took last, and the request it
sent since. -/
structure Work where
  message : Option Data := none
  sent : Option (String × String) := none

/-- The work of a thread after an effect. -/
def Work.step (work : Work) : (effect : Effect) → effect.Reply → Work
  | .nextMessage, some raw => { message := some raw }
  | .send _ _ fingerprint turn, _ => { work with sent := some (fingerprint, turn) }
  | .search _ _ _ fingerprint turn, _ => { work with sent := some (fingerprint, turn) }
  | _, _ => work

/-- The work of a thread after a moment. -/
def Work.after (thread : Nat) (work : Work)
    (moment : Moment router Point World) : Work :=
  match moment.event with
  | .spawned other _ => if other = thread then {} else work
  | .performed other effect reply => if other = thread then work.step effect reply else work
  | _ => work

/-- The work of a thread after a trace. -/
def workOf (thread : Nat) (trace : List (Moment router Point World)) : Work :=
  trace.foldl (Work.after thread) {}

theorem workOf_append
    (thread : Nat)
    (trace : List (Moment router Point World))
    (moment : Moment router Point World) :
    workOf thread (trace ++ [moment]) =
      (workOf thread trace).after thread moment := by
  simp [workOf]

/-- What a worker knows agrees with its work. -/
structure Stage.Tracks (host : Foundation) (work : Work)
    (stage : Stage) : Prop where
  request : stage.request = work.message.bind (RouterRequest.read host)
  sent : ∀ {fingerprint turn}, stage.phase = .sent fingerprint turn →
    work.sent = some (fingerprint, turn)
  committed : ∀ {fingerprint turn response},
    stage.phase = .committed fingerprint turn response →
    work.sent = some (fingerprint, turn)
  saved : ∀ {id}, stage.phase = .saved id →
    ∃ body thread, stage.request = some (body, thread) ∧
      RouterRequest.IsPrewarm host body

namespace Stage.Tracks

variable {work : Work} {stage next : Stage}

theorem kept
    (tracks : stage.Tracks host work)
    (request : next.request = stage.request)
    (phase : next.phase = stage.phase) :
    next.Tracks host work := by
  refine ⟨request.trans tracks.request, ?_, ?_, ?_⟩
  · rw [phase]
    exact tracks.sent
  · rw [phase]
    exact tracks.committed
  · rw [phase, request]
    exact tracks.saved

theorem unsettled
    (request : next.request = work.message.bind (RouterRequest.read host))
    (phase : next.phase = .released ∨
      ∃ fingerprint turn, next.phase = .begun fingerprint turn) :
    next.Tracks host work := by
  refine ⟨request, ?_, ?_, ?_⟩ <;>
    rcases phase with phase | ⟨_, _, phase⟩ <;>
    rw [phase] <;>
    intros <;>
    contradiction

theorem commits
    {fingerprint turn : String}
    {response : Option String}
    (tracks : stage.Tracks host work)
    (sent : stage.phase = .sent fingerprint turn)
    (request : next.request = stage.request)
    (phase : next.phase = .committed fingerprint turn response) :
    next.Tracks host work := by
  refine ⟨request.trans tracks.request, ?_, ?_, ?_⟩ <;> rw [phase]
  · rintro _ _ ⟨⟩
  · rintro _ _ _ ⟨⟩
    exact tracks.sent sent
  · rintro _ ⟨⟩

theorem called
    {call : LedgerCall}
    (tracks : stage.Tracks host work)
    (allowed : stage.AllowsCall host call)
    (reply : Except PlainError call.Value) :
    (stage.next host (.ledger call) reply).Tracks host work := by
  cases call with
  | bound key => rcases reply with error | (_ | found) <;> exact tracks.kept rfl rfl
  | bind | registerTitle | title | completedAccount | stop | history =>
    cases reply <;> exact tracks.kept rfl rfl
  | begin fingerprint turn =>
    cases reply with
    | error error => exact tracks.kept rfl rfl
    | ok value => exact unsettled tracks.request (.inr ⟨_, _, rfl⟩)
  | interrupt | rejectConnectionLimit | fail =>
    cases reply <;> exact unsettled tracks.request (.inl rfl)
  | cancel fingerprint turn =>
    have phase : (stage.next host (.ledger (.cancel fingerprint turn))
        reply).phase = stage.phase.after (.cancel fingerprint turn) reply :=
      rfl
    rcases allowed with (held | held) | ⟨response, committed⟩
    · exact unsettled tracks.request (.inl (by rw [phase, held]; rfl))
    · exact unsettled tracks.request (.inl (by rw [phase, held]; rfl))
    · exact tracks.kept rfl (by rw [phase, committed]; rfl)
  | complete fingerprint turn response value =>
    cases reply with
    | error error => exact unsettled tracks.request (.inl rfl)
    | ok value => exact tracks.commits allowed.1 rfl rfl
  | finish fingerprint turn =>
    cases reply with
    | error error => exact unsettled tracks.request (.inl rfl)
    | ok value => exact tracks.commits allowed.1 rfl rfl
  | saveHistory id value =>
    cases reply with
    | error error => exact tracks.kept rfl rfl
    | ok result =>
      obtain ⟨-, body, thread, _, _, known, prepares, -⟩ := allowed
      refine ⟨tracks.request, ?_, ?_, ?_⟩
      · rintro _ _ ⟨⟩
      · rintro _ _ _ ⟨⟩
      · rintro _ ⟨⟩
        exact ⟨body, thread, known, prepares⟩

theorem performed
    {effect : Effect}
    (tracks : stage.Tracks host work)
    (allowed : stage.Allows host effect)
    (reply : effect.Reply) :
    (stage.next host effect reply).Tracks host (work.step effect reply) := by
  cases effect with
  | ledger call => exact tracks.called allowed reply
  | nextMessage =>
    cases reply with
    | none => exact tracks.kept rfl rfl
    | some raw =>
      refine ⟨rfl, ?_, ?_, ?_⟩
      · rintro _ _ ⟨⟩
      · rintro _ _ _ ⟨⟩
      · rintro _ ⟨⟩
  | send | search =>
    refine ⟨tracks.request, ?_, ?_, ?_⟩
    · rintro _ _ ⟨⟩
      rfl
    · rintro _ _ _ ⟨⟩
    · rintro _ ⟨⟩
  | receive connection =>
    cases reply with
    | error error => exact tracks.kept rfl rfl
    | ok rawEvent =>
      refine tracks.kept ?_ ?_ <;>
        cases parsed : RouterJSON.object host rawEvent <;>
        simp [Stage.next, Stage.learn, parsed]
  | _ => exact tracks.kept rfl rfl

end Stage.Tracks

/-- What the workers know agrees with their work. -/
def Workers.Tracks (trace : List (Moment router Point World))
    (workers : Workers host) : Prop :=
  ∀ thread stage, workers.stages thread = some stage → stage.Tracks host (workOf thread trace)

variable {effect : Effect} {reply : effect.Reply}

theorem Work.after_of_not_moves
    {thread : Nat}
    {event : Event router Point}
    (work : Work)
    (world : World)
    (apart : ¬event.Moves thread) :
    work.after thread ⟨event, world⟩ = work := by
  cases event with
  | spawned | performed => exact if_neg apart
  | _ => rfl

variable {trace : List (Moment router Point World)}

theorem Workers.Tracks.step
    {before after : Workers host}
    {event : Event router Point}
    (tracks : before.Tracks trace)
    (step : before.Step event after) :
    after.Tracks (trace ++ [⟨event, after.world⟩]) := by
  intro other stage present
  rw [workOf_append]
  rcases step.stage_cases present with ⟨point, rfl, rfl⟩ |
    ⟨current, effect, reply, rfl, known, allowed, -, rfl⟩ | ⟨present, apart, -⟩
  · have fresh : ∀ work : Work, work.after other ⟨.spawned other point, after.world⟩ = {} := by
      simp [Work.after]
    rw [fresh]
    cases point <;>
      refine ⟨rfl, ?_, ?_, ?_⟩ <;>
      intros <;>
      contradiction
  · simpa [Work.after] using (tracks other current known).performed allowed reply
  · rw [Work.after_of_not_moves _ _ apart]
    exact tracks other stage present

theorem Workers.Run.tracks
    {workers : Workers host}
    (run : Workers.Run host trace workers) :
    workers.Tracks trace :=
  Protocol.Run.record (fun trace workers => Workers.Tracks trace workers)
    (by rintro _ _ ⟨⟩) Workers.Tracks.step run

section Finishing

variable {workers after : Workers host} {thread : Nat}

/-- The worker turns to something else, or its name is given to a new one. -/
def TurnsAway (thread : Nat) (moment : Moment router Point World) : Prop :=
  (∃ raw, moment.event = .performed thread .nextMessage (some raw)) ∨
    ∃ point, moment.event = .spawned thread point

/-- A thread has nothing to acknowledge. -/
def Workers.Finished (thread : Nat) (workers : Workers host) : Prop :=
  ∀ stage, workers.stages thread = some stage → stage.phase.mayFail = false

theorem Phase.mayFail_next
    {stage : Stage}
    (finished : stage.phase.mayFail = false)
    (allowed : stage.Allows host effect)
    (stays :
      ∀ world, ¬TurnsAway thread ⟨.performed thread effect reply, world⟩) :
    (stage.next host effect reply).phase.mayFail = false := by
  cases effect with
  | ledger call =>
    rw [Workers.Delivers.phase_called]
    cases call with
    | begin | saveHistory =>
      rw [allowed.1] at finished
      cases finished
    | interrupt | rejectConnectionLimit =>
      rcases allowed with held | held <;>
        rw [held] at finished <;>
        cases finished
    | complete =>
      rw [allowed.1] at finished
      cases finished
    | finish =>
      rw [allowed.1] at finished
      cases finished
    | fail =>
      rw [allowed.1] at finished
      cases finished
    | cancel =>
      rcases allowed with (held | held) | ⟨response, committed⟩
      · rw [held] at finished
        cases finished
      · rw [held] at finished
        cases finished
      · rw [committed]
        rfl
    | _ => exact finished
  | nextMessage =>
    cases reply with
    | none => exact finished
    | some raw => exact absurd (.inl ⟨raw, rfl⟩) (stays World.start)
  | send | search =>
    rw [allowed.1] at finished
    cases finished
  | receive connection =>
    cases reply with
    | error error => exact finished
    | ok rawEvent =>
      cases parsed : RouterJSON.object host rawEvent <;>
        simpa [Stage.next, Stage.learn, parsed] using finished
  | _ => exact finished

theorem Workers.Finished.step
    {event : Event router Point}
    (finished : workers.Finished thread)
    (stays : ¬TurnsAway thread ⟨event, after.world⟩)
    (step : workers.Step event after) :
    after.Finished thread := by
  intro stage present
  rcases step.stage_cases present with ⟨point, rfl, rfl⟩ |
    ⟨current, effect, reply, rfl, known, allowed, -, rfl⟩ | ⟨present, -⟩
  · exact absurd (.inr ⟨point, rfl⟩) stays
  · exact Phase.mayFail_next (finished current known) allowed fun _ => stays
  · exact finished stage present

theorem Workers.Finished.not_fails
    {turn : String}
    {reply : Except PlainError Unit}
    (finished : workers.Finished thread) :
    ¬workers.Step (.performed thread (.ledger (.fail turn)) reply) after := by
  intro step
  cases step with
  | perform _ known allowed =>
    have free := finished _ known
    rw [allowed.1] at free
    cases free

end Finishing

section Acknowledging

variable {workers after : Workers host} {thread : Nat} {event : Object}
variable {moment : Moment router Point World}

/-- The moment hands the completion of a response to the Engine. -/
def Acknowledges (host : Foundation) (thread : Nat) (event : Object)
    (moment : Moment router Point World) : Prop :=
  ∃ frame reply, moment.event = .performed thread (.frame frame) reply ∧
      frame.contents host = some event ∧
      eventType event = some "response.completed"

/-- The files and the memory have a completed request. -/
def World.Completes (fingerprint turn : String) (world : World) : Prop :=
  (∃ saved, world.disk.ledger = some saved ∧ saved.Completes fingerprint turn) ∧
  ∀ state, world.memory = some state → state.Completes fingerprint turn

theorem World.Completes.step
    {fingerprint turn : String}
    {event : Event router Point}
    (completes : workers.world.Completes fingerprint turn)
    (step : workers.Step event after) :
    after.world.Completes fingerprint turn := by
  -- Opening a file keeps its requests.
  have blocks : workers.world.Blocks fun state => state.Completes fingerprint turn :=
    ⟨completes.2, completes.1⟩
  have kept := blocks.step (fun _ completes => completes)
    (fun _ outcome completes => outcome.extends.completes completes) step
  exact ⟨kept.file, kept.memory⟩

theorem Workers.Step.acknowledges
    (acknowledges : Acknowledges host thread event moment)
    (step : workers.Step moment.event after) :
    ∃ stage next id, workers.stages thread = some stage ∧
      after.stages thread = some next ∧
      next.phase = stage.phase ∧ completedResponse event = some id ∧
      stage.phase.Acknowledges id ∧ after.world = workers.world := by
  obtain ⟨frame, reply, happened, contents, completes⟩ := acknowledges
  rw [happened] at step
  cases step with
  | @perform world stage _ _ _ known allowed _ executed =>
    obtain ⟨id, named, acknowledged⟩ := allowed event contents completes
    cases executed
    exact ⟨stage, _, id, known, Function.update_self _ _ _, rfl, named, acknowledged, rfl⟩

variable {stage : Stage} {id : String}

theorem Workers.Delivers.acknowledged
    (delivers : workers.Delivers)
    (known : workers.stages thread = some stage)
    (acknowledges : stage.phase.Acknowledges id) :
    ∃ saved, workers.world.disk.ledger = some saved ∧ saved.Records id := by
  have sound := delivers.sound known
  rcases acknowledges with saved | ⟨fingerprint, turn, committed⟩
  · exact sound.saved saved
  · obtain ⟨saved, file, -, records⟩ := sound.committed committed
    exact ⟨saved, file, records id rfl⟩

theorem Workers.Delivers.completes
    {fingerprint turn : String}
    {response : Option String}
    (delivers : workers.Delivers)
    (known : workers.stages thread = some stage)
    (committed : stage.phase = .committed fingerprint turn response) :
    workers.world.Completes fingerprint turn := by
  have sound := delivers.sound known
  obtain ⟨saved, file, completes, -⟩ := sound.committed committed
  exact ⟨⟨saved, file, completes⟩,
    fun state running => sound.completes delivers.coherent running committed⟩

theorem Stage.Tracks.prewarm
    {work : Work}
    (tracks : stage.Tracks host work)
    (saved : stage.phase = .saved id) :
    ∃ raw body, work.message = some raw ∧
      RouterJSON.object host raw = .ok body ∧
      RouterRequest.IsPrewarm host body := by
  obtain ⟨body, thread, known, prepares⟩ := tracks.saved saved
  rw [tracks.request] at known
  obtain ⟨raw, taken, read⟩ := Option.bind_eq_some_iff.mp known
  refine ⟨raw, body, taken, ?_, prepares⟩
  cases parsed : RouterJSON.object host raw with
  | error error => simp [RouterRequest.read, parsed, Except.toOption] at read
  | ok found =>
    simp only [RouterRequest.read, parsed, Except.toOption,
      Option.bind_eq_bind, Option.bind_some] at read
    obtain ⟨metadata, -, read⟩ := Option.bind_eq_some_iff.mp read
    obtain ⟨named, -, read⟩ := Option.bind_eq_some_iff.mp read
    cases read
    rfl

end Acknowledging

/-- When the completion of a response is handed to the Engine, the file holds
the response and, unless it answers a prewarm, the request as completed.  The
request stays completed, and the worker does not stop a turn before it turns to
something else. -/
theorem commit_before_acknowledgement
    {trace : List (Moment router Point World)}
    {pool : Pool router Point World}
    (run : RouterRun host trace pool) :
    ∀ earlier moment later thread event, trace = earlier ++ moment :: later →
      Acknowledges host thread event moment →
      (∃ id saved, completedResponse event = some id ∧
        moment.world.disk.ledger = some saved ∧ saved.Records id) ∧
      ((∃ raw body, (workOf thread earlier).message = some raw ∧
          RouterJSON.object host raw = .ok body ∧
          RouterRequest.IsPrewarm host body) ∨
        ∃ fingerprint turn,
          (workOf thread earlier).sent = some (fingerprint, turn) ∧
          ∀ other ∈ moment :: later, other.world.Completes fingerprint turn) ∧
      ∀ between other rest turn reply, later = between ++ other :: rest →
        (∀ passed ∈ between, ¬TurnsAway thread passed) →
        other.event ≠ .performed thread (.ledger (.fail turn)) reply := by
  rintro earlier moment later thread event rfl acknowledges
  obtain ⟨workers, run, -⟩ := run.workers
  refine ⟨?_, ?_, ?_⟩
  · obtain ⟨before, after, run, step, same⟩ := run.at
    obtain ⟨stage, _, id, known, -, -, named, acknowledged, unchanged⟩ :=
      Workers.Step.acknowledges acknowledges step
    obtain ⟨saved, file, records⟩ := (Workers.Run.delivers run).acknowledged known acknowledged
    rw [same, unchanged]
    exact ⟨id, saved, named, file, records⟩
  · obtain ⟨before, after, run, step, -, onward⟩ := run.onward
    obtain ⟨stage, _, id, known, -, -, -, acknowledged, unchanged⟩ :=
      Workers.Step.acknowledges acknowledges step
    have tracks := Workers.Run.tracks run thread stage known
    rcases acknowledged with saved | ⟨fingerprint, turn, committed⟩
    · exact .inl (tracks.prewarm saved)
    · refine .inr ⟨fingerprint, turn, tracks.committed committed, ?_⟩
      have delivers := Workers.Run.delivers run
      have completes : after.world.Completes fingerprint turn := by
        rw [unchanged]
        exact delivers.completes known committed
      intro other member
      obtain ⟨reached, completes, same⟩ :=
        (onward (fun workers => workers.world.Completes fingerprint turn)
          completes fun _ _ step held => held.step step).2 other member
      rw [same]
      exact completes
  · rintro between other rest turn reply rfl stays failed
    have split : earlier ++ moment :: (between ++ other :: rest) =
        (earlier ++ moment :: between) ++ other :: rest := by simp
    rw [split] at run
    obtain ⟨before, after, run, step, -⟩ := run.at
    rw [failed] at step
    refine Workers.Finished.not_fails ?_ step
    obtain ⟨middle, reached, -, first, -, onward⟩ := run.onward
    refine (onward (Workers.Finished thread) ?_ ?_).1
    · intro stage present
      obtain ⟨current, next, id, -, known, phase, -, acknowledged, -⟩ :=
        Workers.Step.acknowledges acknowledges first
      rw [known] at present
      cases present
      rw [phase]
      rcases acknowledged with saved | ⟨_, _, committed⟩
      · rw [saved]
        rfl
      · rw [committed]
        rfl
    · intro trace before event after _ member step finished
      exact finished.step (stays _ member) step

/-- The response whose completion an effect hands to the Engine. -/
def Effect.acknowledges (host : Foundation) : Effect → Option String
  | .frame written => (written.contents host).bind completedResponse
  | _ => none

theorem acknowledges_of_observing
    {id : String}
    {moment : Moment router Point World}
    (reached : (observing (Effect.acknowledges host) id).wanted moment = true) :
    ∃ thread event, Acknowledges host thread event moment ∧
      completedResponse event = some id := by
  obtain ⟨thread, effect, reply, happened, seen⟩ := performed_of_observing reached
  cases effect with
  | frame frame =>
    obtain ⟨event, contents, completes⟩ := Option.bind_eq_some_iff.mp seen
    exact ⟨thread, event,
      ⟨frame, reply, happened, contents, (completedResponse_eq_some.mp completes).1⟩,
      completes⟩
  | _ => cases seen

/-- The completion of a response cannot be delivered, but the response is
committed and the turn goes on. -/
theorem undelivered_response_is_committed :
    ∃ trace pool, RouterRun Rehearsal.host trace pool ∧
      ∃ earlier moment later thread event saved,
        trace = earlier ++ moment :: later ∧
        Acknowledges Rehearsal.host thread event moment ∧
        moment.world.disk.ledger = some saved ∧ saved.Records "answer" ∧
        ∀ between other rest turn reply, later = between ++ other :: rest →
          (∀ passed ∈ between, ¬TurnsAway thread passed) →
          other.event ≠ .performed thread (.ledger (.fail turn)) reply := by
  obtain ⟨trace, pool, run, visited⟩ := Rehearsal.run
    (Rehearsal.prelude ++ Rehearsal.submission 1 "first" ++
      Script.go 1 8 (Rehearsal.undelivered [1]))
    [observing (Effect.acknowledges Rehearsal.host) "answer"]
    (fun _ => true) (by decide +kernel)
  obtain ⟨earlier, moment, later, rfl, -, seen, -⟩ := split_of_visits visited
  obtain ⟨thread, event, acknowledges, named⟩ := acknowledges_of_observing seen
  obtain ⟨⟨id, saved, same, file, records⟩, -, continues⟩ :=
    commit_before_acknowledgement run _ _ _ _ _ rfl acknowledges
  rw [named] at same
  cases same
  exact ⟨_, pool, run, _, _, _, _, _, saved, rfl, acknowledges, file, records, continues⟩

end Turnrail
