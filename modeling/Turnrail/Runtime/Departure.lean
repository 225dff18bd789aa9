import Turnrail.Runtime.Delivery
import Turnrail.Runtime.Execution

/-!
# A departing Engine

An Engine that leaves abandons its request.  Its turn goes on as long as nothing
else goes wrong, except in two places: a new connection is refused once the
Engine has left, and the router's own recovery events must reach the Engine.
There the departure is answered like any other error, and the turn is stopped.
-/

namespace Turnrail

open Interleaving

variable {host : Foundation}

/-- An error of a connection that does not speak against the turn: the
connection was closed because the Engine left, or the router leaves the recovery
to the Engine. -/
def excusesError (transport : Transport) (stopped : Bool) : RouterError → Bool
  | .transport failure =>
    (failure.cause = .localClose && stopped) || failure.permitsEngineRecovery
  | .service failure => tolerableService transport failure
  | .plain _ => false

/-- An operation that succeeds, or that fails only because the Engine left, or
that fails in a way the router leaves to the Engine. -/
def excuses (host : Foundation) (transport : Transport) (stopped : Bool) :
    (effect : Effect) → effect.Reply → Bool
  | .ledger _, reply => reply.isOk
  | .accountBound _, reply => reply.isOk
  | .validate _ _, reply => reply.isOk
  | .checkConnection _, .error (.transport failure) =>
    excusesError transport stopped (.transport failure)
  | .checkConnection _, .error _ => false
  | .send _ _ _ _, .error error => excusesError transport stopped error
  | .receive _, .error error => excusesError transport stopped error
  | .receive _, .ok rawEvent => wellFormed host rawEvent
  | .readFailure _, .ok failure => tolerableService transport failure
  | .readFailure _, .error _ => false
  -- Searches are not part of `route`.
  | .search _ _ _ _ _, _ => false
  | _, _ => true

/-- A connection is attached while the Engine is there. -/
def attaches (stopped : Bool) : Effect → Bool
  | .attach _ => !stopped
  | _ => true

/-- An event that tells the Engine to recover reaches it. -/
def hears : (effect : Effect) → effect.Reply → Bool
  | .frame frame, .error _ => !frame.recovers
  | _, _ => true

/-- A thread receives an error that is excused. -/
def excusedAt (host : Foundation) (transport : Transport) (thread : Nat)
    (moment : Moment router Point World) : Bool :=
  match moment.event with
  | .performed other effect reply =>
    other ≠ thread || excuses host transport (moment.world.stopped thread) effect reply
  | _ => true

/-- The Engine of a worker is there when the worker attaches a connection. -/
def attachedAt (thread : Nat) (moment : Moment router Point World) : Bool :=
  match moment.event with
  | .performed other effect _ =>
    other ≠ thread || attaches (moment.world.stopped thread) effect
  | _ => true

/-- The Engine of a worker gets what the worker tells it about recovery. -/
def heardAt (thread : Nat) (moment : Moment router Point World) : Bool :=
  match moment.event with
  | .performed other effect reply => other ≠ thread || hears effect reply
  | _ => true

/-- The process survives the moment, and no other worker takes the name of the
worker or stops the turn. -/
def undisturbedAt (thread : Nat) (turn : String)
    (moment : Moment router Point World) : Bool :=
  match moment.event with
  | .spawned other _ => other ≠ thread
  | .performed other (.ledger (.fail failed)) _ => other = thread || failed ≠ turn
  | .restarted => false
  | _ => true

/-- The process remembers that a turn was stopped. -/
def World.fails (world : World) (turn : String) : Bool :=
  world.memory.any fun state => state.isFailed turn

section Effects

variable {thread : Nat} {world after : World}
variable {effect : Effect} {reply : effect.Reply}

theorem World.stopped_stop
    (other : Nat)
    (stopped : world.stopped thread = true) :
    (world.stop other).stopped thread = true := by
  by_cases same : thread = other
  · simp [World.stop, same]
  · simpa [World.stop, Function.update_of_ne same] using stopped

/-- An Engine that left stays away. -/
theorem exec_stopped
    {other : Nat}
    (executed : World.exec host other world effect reply after)
    (stopped : world.stopped thread = true) :
    after.stopped thread = true := by
  cases effect with
  | ledger call =>
    obtain ⟨_, _, _, _, _, rfl⟩ := executed
    exact stopped
  | accountBound | nextMessage | attach | validate | readFailure | isStopped
  | waitForRecovery | lockHook =>
    obtain ⟨-, rfl⟩ := executed
    exact stopped
  | connect transport account headers =>
    obtain ⟨-, -, rfl⟩ := executed
    exact stopped
  | receive connection =>
    simp only [World.exec] at executed
    subst executed
    split
    · split <;> exact stopped
    · exact stopped
  | stopMessages =>
    cases executed
    exact World.stopped_stop other stopped
  | _ =>
    cases executed
    exact stopped

variable {transport : Transport} {stopped : Bool} {error : RouterError}

theorem tolerable_of_excusesError
    (excused : excusesError transport stopped error = true) :
    tolerable transport error = true := by
  cases error with
  | plain error => cases excused
  | service failure => exact excused
  | transport failure =>
    simp only [excusesError, Bool.or_eq_true, Bool.and_eq_true] at excused
    simp only [tolerable, tolerableTransport, Bool.or_eq_true]
    exact excused.imp_left And.left

theorem stopped_of_excusesError
    (excused : excusesError transport stopped error = true)
    (closed : closedLocally error = true) :
    stopped = true := by
  cases error with
  | plain | service => cases closed
  | transport failure =>
    have localClose : failure.cause = .localClose := of_decide_eq_true closed
    simp only [excusesError, Bool.or_eq_true, Bool.and_eq_true] at excused
    rcases excused with ⟨-, stopped⟩ | recovers
    · exact stopped
    · rw [RouterTransportFailure.not_permitsEngineRecovery_of_localClose
        localClose] at recovers
      cases recovers

theorem not_blames
    {closing : Bool}
    (executed : World.exec host thread world effect reply after)
    (excused :
      excuses host transport (after.stopped thread) effect reply = true)
    (attached : attaches (after.stopped thread) effect = true)
    (heard : hears effect reply = true)
    (closed : closing = true → world.stopped thread = true) :
    blames host transport closing effect reply = false := by
  cases effect with
  | ledger | accountBound | validate =>
    cases reply with
    | error error => cases excused
    | ok value => rfl
  | attach connection =>
    obtain ⟨rfl, rfl⟩ := executed
    have present : after.stopped thread = false := by simpa [attaches] using attached
    simp [present, blames]
  | checkConnection connection =>
    rcases reply with error | value
    · cases error with
      | transport failure =>
        have excused : excusesError transport (after.stopped thread)
            (.transport failure) = true := excused
        have tolerated : tolerableTransport failure = true := tolerable_of_excusesError excused
        simp [blames, tolerated]
      | plain | service => cases excused
    · rfl
  | send connection payload fingerprint turn =>
    cases reply with
    | error error => simp [blames, tolerable_of_excusesError excused]
    | ok value => rfl
  | receive connection =>
    cases reply with
    | error error => simp [blames, tolerable_of_excusesError excused]
    | ok rawEvent =>
      have formed : wellFormed host rawEvent = true := excused
      simp [blames, formed]
  | readFailure event =>
    cases reply with
    | error error => cases excused
    | ok failure =>
      have tolerated : tolerableService transport failure = true := excused
      simp [blames, tolerated]
  | search => cases excused
  | frame frame =>
    cases reply with
    | error error => simpa [blames, hears] using heard
    | ok value => rfl
  | isStopped =>
    obtain ⟨rfl, rfl⟩ := executed
    cases stopped : after.stopped thread with
    | true => rfl
    | false =>
      cases closing with
      | false => rfl
      | true =>
        rw [closed rfl] at stopped
        cases stopped
  | _ => rfl

theorem stopped_of_closes
    (excused : excuses host transport stopped effect reply = true)
    (closed : closes effect reply = true) :
    stopped = true := by
  cases effect with
  | checkConnection connection =>
    rcases reply with error | value
    · cases error with
      | transport failure =>
        have excused : excusesError transport stopped (.transport failure) =
            true := excused
        exact stopped_of_excusesError excused closed
      | plain | service => cases excused
    · cases closed
  | send connection payload fingerprint turn =>
    cases reply with
    | error error => exact stopped_of_excusesError excused closed
    | ok value => cases closed
  | receive connection =>
    cases reply with
    | error error => exact stopped_of_excusesError excused closed
    | ok rawEvent => cases closed
  | _ => cases closed

theorem Stage.transport_next (stage : Stage) :
    (stage.next host effect reply).transport = stage.transport := by
  cases effect with
  | ledger call =>
    cases call with
    | bound key => rcases reply with error | (_ | found) <;> rfl
    | _ => cases reply <;> rfl
  | nextMessage => cases reply <;> rfl
  | receive connection =>
    cases reply with
    | error error => rfl
    | ok rawEvent =>
      cases parsed : RouterJSON.object host rawEvent <;>
        simp [Stage.next, Stage.learn, parsed]
  | _ => rfl

end Effects

variable {call : LedgerCall}

theorem Outcome.not_failed
    {writes : List WriteOutcome}
    {before after : Ledger}
    {result : Except PlainError call.Value}
    {turn : String}
    (outcome : Outcome host writes before call result after)
    (continues : before.state.isFailed turn = false)
    (others : call ≠ .fail turn) :
    after.state.isFailed turn = false := by
  cases outcome with
  | answered _ memory =>
    rw [memory]
    exact continues
  | unfinished _ memory =>
    rw [memory]
    exact continues
  | changed list makes memory =>
    rw [memory]
    cases makes with
    | @fail failed =>
      have differs : turn ≠ failed := by
        rintro rfl
        exact others rfl
      simpa [LedgerState.isFailed, LedgerState.change,
        AList.lookup_insert_ne differs] using continues
    | _ => exact continues

section Workers

variable {workers after : Workers host}
variable {thread : Nat} {transport : Transport} {turn : String}

/-- A worker that has nothing to blame on its turn. -/
structure Stage.Blameless (transport : Transport) (stopped : Bool)
    (stage : Stage) : Prop where
  serves : stage.transport = transport
  unblamed : stage.blamed = false
  closed : stage.closing = true → stopped = true

/-- A thread leaves its turn alone. -/
structure Workers.Spares (thread : Nat) (transport : Transport)
    (turn : String) (workers : Workers host) : Prop where
  blameless : ∀ {stage}, workers.stages thread = some stage →
    stage.Blameless transport (workers.world.stopped thread)
  continues : workers.world.fails turn = false

variable {world : World} {other : Nat} {stage : Stage} {effect : Effect}

theorem Workers.Spares.continues_called
    {reply : Except PlainError call.Value}
    (spares : workers.Spares thread transport turn)
    (known : workers.stages other = some stage)
    (allowed : stage.AllowsCall host call)
    (called : workers.world.Called host call reply world)
    (undisturbed : undisturbedAt thread turn
      ⟨.performed other (.ledger call) reply, world⟩ = true) :
    world.fails turn = false := by
  have continues : called.state.isFailed turn = false := by
    simpa [World.fails, called.running] using spares.continues
  rw [World.fails, called.memory]
  refine called.outcome.not_failed continues ?_
  rintro rfl
  simp only [undisturbedAt, Bool.or_eq_true, decide_eq_true_eq, ne_eq,
    not_true_eq_false, decide_false, Bool.false_eq_true, or_false]
    at undisturbed
  subst undisturbed
  -- The worker itself has nothing to blame.
  have blamed := allowed.2
  rw [(spares.blameless known).unblamed] at blamed
  cases blamed

variable {reply : effect.Reply}

theorem Workers.Spares.continues_performed
    (spares : workers.Spares thread transport turn)
    (known : workers.stages other = some stage)
    (allowed : stage.Allows host effect)
    (executed : World.exec host other workers.world effect reply world)
    (undisturbed :
      undisturbedAt thread turn ⟨.performed other effect reply, world⟩ = true) :
    world.fails turn = false := by
  cases ledger : effect.callsLedger with
  | false =>
    obtain ⟨memory, -⟩ := exec_other ledger executed
    rw [World.fails, memory]
    exact spares.continues
  | true =>
    cases effect with
    | ledger call =>
      obtain ⟨called⟩ := exec_ledger other executed
      exact spares.continues_called known allowed called undisturbed
    | _ => cases ledger

theorem Stage.Blameless.performed
    {before world : World}
    (blameless : stage.Blameless transport (before.stopped thread))
    (executed : World.exec host thread before effect reply world)
    (excused :
      excuses host transport (world.stopped thread) effect reply = true)
    (attached : attaches (world.stopped thread) effect = true)
    (heard : hears effect reply = true) :
    (stage.next host effect reply).Blameless transport
      (world.stopped thread) := by
  have unblamed := not_blames executed excused attached heard blameless.closed
  rw [← blameless.serves] at unblamed
  refine ⟨?_, ?_, ?_⟩
  · rw [Stage.transport_next]
    exact blameless.serves
  · simp only [Stage.next, blameless.unblamed, unblamed, Bool.or_false]
  · intro closing
    simp only [Stage.next, Bool.or_eq_true] at closing
    rcases closing with closing | closes
    · exact exec_stopped executed (blameless.closed closing)
    · exact stopped_of_closes excused closes

theorem Workers.Spares.step
    {event : Event router Point}
    (spares : workers.Spares thread transport turn)
    (excused : excusedAt host transport thread ⟨event, after.world⟩ = true)
    (attached : attachedAt thread ⟨event, after.world⟩ = true)
    (heard : heardAt thread ⟨event, after.world⟩ = true)
    (undisturbed : undisturbedAt thread turn ⟨event, after.world⟩ = true)
    (step : workers.Step event after) :
    after.Spares thread transport turn := by
  refine ⟨fun {stage} present => ?_, ?_⟩
  · rcases step.stage_cases present with ⟨point, rfl, rfl⟩ |
      ⟨current, effect, reply, rfl, known, allowed, executed, rfl⟩ | ⟨present, -, shifts⟩
    · exact absurd rfl (of_decide_eq_true undisturbed)
    · simp only [excusedAt, attachedAt, heardAt, ne_eq, not_true_eq_false,
        decide_false, Bool.false_or] at excused attached heard
      exact (spares.blameless known).performed executed excused attached heard
    · obtain ⟨serves, unblamed, closed⟩ := spares.blameless present
      refine ⟨serves, unblamed, fun closing => ?_⟩
      cases shifts with
      | still same =>
        rw [same]
        exact closed closing
      | perform known allowed admitted executed => exact exec_stopped executed (closed closing)
      | drift drifts =>
        obtain ⟨other, same⟩ := drifts
        rw [same]
        exact World.stopped_stop other (closed closing)
  · cases step with
    | perform other known allowed _ executed =>
      exact spares.continues_performed known allowed executed undisturbed
    | drift drifts =>
      obtain ⟨other, rfl⟩ := drifts
      exact spares.continues
    | restart => cases undisturbed
    | _ => exact spares.continues

end Workers

/-- A worker starts to serve an Engine connection. -/
def routedAt (thread : Nat) (moment : Moment router Point World) : Bool :=
  match moment.event with
  | .spawned other (.route .webSocket [] ⟨none, none, none, none⟩) =>
    other = thread && !moment.world.fails "task/turn"
  | _ => false

variable {thread : Nat} {moment : Moment router Point World}

theorem spawned_of_routedAt (routed : routedAt thread moment = true) :
    moment.event = .spawned thread (.route .webSocket [] {}) ∧
      moment.world.fails "task/turn" = false := by
  unfold routedAt at routed
  split at routed
  · rename_i other happened
    obtain ⟨same, fresh⟩ := Bool.and_eq_true_iff.mp routed
    rw [happened, of_decide_eq_true same]
    exact ⟨rfl, by simpa using fresh⟩
  · cases routed

/-- A worker leaves, and its turn is stopped or goes on. -/
def leftAt (thread : Nat) (stopped : Bool)
    (moment : Moment router Point World) : Bool :=
  match moment.event with
  | .ended other => other = thread && moment.world.fails "task/turn" == stopped
  | _ => false

theorem ended_of_leftAt
    {stopped : Bool}
    (left : leftAt thread stopped moment = true) :
    moment.event = .ended thread ∧
      moment.world.fails "task/turn" = stopped := by
  unfold leftAt at left
  split at left
  · rename_i other happened
    obtain ⟨same, fails⟩ := Bool.and_eq_true_iff.mp left
    rw [happened, of_decide_eq_true same]
    exact ⟨rfl, eq_of_beq fails⟩
  · cases left

/-- A worker serves an Engine connection and leaves.  All that goes wrong is
what a departing Engine brings about, and the Engine is there when a condition
says so. -/
def Departs (trace : List (Moment router Point World))
    (present : Moment router Point World → Bool) (stopped : Bool) : Prop :=
  ∃ earlier spawn later, trace = earlier ++ spawn :: later ∧
      spawn.event = .spawned 1 (.route .webSocket [] {}) ∧
      spawn.world.fails "task/turn" = false ∧
      (∀ moment ∈ later, undisturbedAt 1 "task/turn" moment = true ∧
        excusedAt Rehearsal.host .webSocket 1 moment = true ∧
        present moment = true) ∧
      ∃ moment ∈ later, moment.event = .ended 1 ∧ moment.world.fails "task/turn" = stopped

/-- Nothing goes wrong at a moment but what a departing Engine brings about. -/
def departsAt (present : Moment router Point World → Bool)
    (moment : Moment router Point World) : Bool :=
  undisturbedAt 1 "task/turn" moment &&
    (excusedAt Rehearsal.host .webSocket 1 moment && present moment)

theorem Rehearsal.departure
    (script : Script Point)
    (present : Moment router Point World → Bool)
    (stopped : Bool)
    (leaves : ∀ moment, moment.event = .ended 1 → present moment = true)
    (passes : ((Pool.idle World.start).simulate (execution Rehearsal.host)
      (Point.code Rehearsal.host) script).any (fun result =>
        visits [{ wanted := routedAt 1 },
            { passing := departsAt present, wanted := leftAt 1 stopped }]
          (departsAt present) result.1) = true) :
    ∃ trace pool, RouterRun Rehearsal.host trace pool ∧
      Departs trace present stopped := by
  obtain ⟨trace, pool, run, visited⟩ := Rehearsal.run script _ _ passes
  obtain ⟨earlier, spawn, later, rfl, -, routed, visited⟩ := split_of_visits visited
  obtain ⟨between, ended, rest, rfl, passed, left, visited⟩ := split_of_visits visited
  obtain ⟨happened, fails⟩ := ended_of_leftAt left
  obtain ⟨spawned, fresh⟩ := spawned_of_routedAt routed
  refine ⟨_, pool, run, earlier, spawn, _, rfl, spawned, fresh, ?_,
    ended, by simp, happened, fails⟩
  have split : ∀ moment, departsAt present moment = true →
      undisturbedAt 1 "task/turn" moment = true ∧
        excusedAt Rehearsal.host .webSocket 1 moment = true ∧
        present moment = true := by
    intro moment departs
    simpa [departsAt] using departs
  intro moment member
  rw [List.mem_append, List.mem_cons] at member
  rcases member with member | rfl | member
  · exact split moment (passed moment member)
  · exact ⟨by simp [undisturbedAt, happened], by simp [excusedAt, happened], leaves moment happened⟩
  · exact split moment (rest_of_visits visited moment member)

/-- A departing Engine is all that goes wrong, and yet the turn is stopped: once
because it left before a connection was attached, and once because it did not
get the event that tells it that the connection expired. -/
theorem departing_engine_stops_turn :
    (∃ trace pool, RouterRun Rehearsal.host trace pool ∧
        Departs trace (heardAt 1) true) ∧
      ∃ trace pool, RouterRun Rehearsal.host trace pool ∧
        Departs trace (attachedAt 1) true := by
  constructor
  · refine Rehearsal.departure (Rehearsal.prelude ++ .spawn 1 (.route .webSocket [] {}) ::
        Script.go 1 6 (Rehearsal.replies "first" (.ok [1])) ++
        .drift (1, { reply := Rehearsal.replies "" (.ok []) }) ::
        Script.go 1 6 (Rehearsal.replies "first" (.ok [1])))
      (heardAt 1) true ?_ (by decide +kernel)
    intro moment left
    simp [heardAt, left]
  · refine Rehearsal.departure (Rehearsal.prelude ++ Rehearsal.submission 1 "first" ++
        Script.go 1 12 (Rehearsal.undelivered [2]))
      (attachedAt 1) true ?_ (by decide +kernel)
    intro moment left
    simp [attachedAt, left]

/-- While a worker serves an Engine connection, every operation of the worker
succeeds, or fails only because the Engine left, or fails in a way that the
router leaves to the Engine.  If moreover the Engine is there whenever a
connection is attached, and gets every recovery event, the turn is not stopped,
unless somebody else stops it. -/
theorem departing_engine_spares_turn
    {trace : List (Moment router Point World)}
    {pool : Pool router Point World}
    (run : RouterRun host trace pool) :
    ∀ earlier spawn later thread transport headers turn,
      trace = earlier ++ spawn :: later →
      spawn.event = .spawned thread (.route transport headers {}) →
      spawn.world.fails turn = false →
      (∀ moment ∈ later, undisturbedAt thread turn moment = true) →
      (∀ moment ∈ later, excusedAt host transport thread moment = true) →
      (∀ moment ∈ later, attachedAt thread moment = true) →
      (∀ moment ∈ later, heardAt thread moment = true) →
      ∀ moment ∈ later, moment.world.fails turn = false := by
  rintro earlier spawn later thread transport headers turn rfl spawned fresh
    undisturbed excused attached heard moment member
  obtain ⟨workers, run, -⟩ := run.workers
  obtain ⟨before, after, run, step, same, onward⟩ := run.onward
  have starts : Workers.Spares thread transport turn after := by
    rw [spawned] at step
    cases step with
    | spawn =>
      rw [same] at fresh
      refine ⟨?_, fresh⟩
      intro stage present
      rcases update_cases present with ⟨-, ⟨⟩⟩ | ⟨differs, -⟩
      · exact ⟨rfl, rfl, by rintro ⟨⟩⟩
      · exact absurd rfl differs
  obtain ⟨reached, spares, same⟩ :=
    (onward (Workers.Spares thread transport turn) starts
      fun _ member step spares => spares.step (excused _ member)
        (attached _ member) (heard _ member) (undisturbed _ member) step).2
      moment
      (List.mem_cons_of_mem _ member)
  rw [same]
  exact spares.continues

/-- The Engine leaves while a response is received: the request is cancelled and
the turn goes on. -/
theorem leaving_while_receiving_spares_turn :
    ∃ trace pool, RouterRun Rehearsal.host trace pool ∧
      ∃ earlier spawn later, trace = earlier ++ spawn :: later ∧
        spawn.event = .spawned 1 (.route .webSocket [] {}) ∧ later ≠ [] ∧
        ∀ moment ∈ later, moment.world.fails "task/turn" = false := by
  obtain ⟨trace, pool, run, earlier, spawn, later, rfl, spawned, fresh, calm,
      ended, member, -⟩ :=
    Rehearsal.departure (Rehearsal.prelude ++ Rehearsal.submission 1 "first" ++
        .drift (1, { reply := Rehearsal.replies "" (.ok []) }) ::
        Script.go 1 9 (Rehearsal.replies "first" (.error (.transport Rehearsal.closed))))
      (fun moment => attachedAt 1 moment && heardAt 1 moment) false
      (fun moment left => by simp [attachedAt, heardAt, left])
      (by decide +kernel)
  have present : ∀ moment ∈ later, attachedAt 1 moment = true ∧ heardAt 1 moment = true := by
    intro moment member
    simpa using (calm moment member).2.2
  exact ⟨_, pool, run, earlier, spawn, later, rfl, spawned, List.ne_nil_of_mem member,
    departing_engine_spares_turn run _ _ _ _ _ _ _ rfl spawned fresh
      (fun moment member => (calm moment member).1)
      (fun moment member => (calm moment member).2.1)
      (fun moment member => (present moment member).1)
      (fun moment member => (present moment member).2)⟩

end Turnrail
