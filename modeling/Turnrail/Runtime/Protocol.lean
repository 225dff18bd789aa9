import Turnrail.Runtime.Workers

/-!
# The delivery protocol

The protocol is what the workers promise each other.  A worker is in one phase
of delivering its current request, and remembers what it learned: the request,
the conversation and the account binding it read, its connection and the events
it received.  The protocol says which effects are allowed with that knowledge.
Everything about runs is derived from it.
-/

namespace Turnrail

open Interleaving RouterRequest

/-- How far a request is. -/
inductive Phase
  | idle
  | begun (fingerprint turn : String)
  | sent (fingerprint turn : String)
  | committed (fingerprint turn : String) (response : Option String)
  | saved (id : String)
  | released
  deriving DecidableEq

namespace Phase

/-- The worker may take another request. -/
def free : Phase → Bool
  | .idle | .committed _ _ _ | .saved _ => true
  | _ => false

/-- The worker may stop its turn. -/
def mayFail : Phase → Bool
  | .committed _ _ _ | .saved _ => false
  | _ => true

/-- The worker is the one that delivers the request. -/
def Holds (phase : Phase) (fingerprint turn : String) : Prop :=
  phase = .begun fingerprint turn ∨ phase = .sent fingerprint turn

/-- The worker may acknowledge a response. -/
def Acknowledges (phase : Phase) (id : String) : Prop :=
  phase = .saved id ∨ ∃ fingerprint turn, phase = .committed fingerprint turn (some id)

end Phase

/-- What a worker knows. -/
structure Stage where
  transport : Transport
  phase : Phase := .idle
  request : Option (Object × String) := none
  reading : Option (String × String × History) := none
  binding : Option (String × UUID) := none
  connection : Option RouterUpstream := none
  received : List Object := []
  closing : Bool := false
  blamed : Bool := false

/-- The body of a message and its turn. -/
def RouterRequest.read (host : Foundation) (raw : Data) :
    Option (Object × String) := do
  let body ← (RouterJSON.object host raw).toOption
  let metadata ← (metadata host body).toOption
  let thread ← (RouterJSON.text metadata "thread_id").toOption
  return (body, thread)

/-- A request only prepares a connection. -/
def RouterRequest.IsPrewarm (host : Foundation) (body : Object) : Prop :=
  ∃ metadata, RouterRequest.metadata host body = .ok metadata ∧
    (metadata.get "request_kind").bind Json.asString = some "prewarm"

/-- A request is read together with the conversation it continues. -/
def Expands (body : Object) (thread : String)
    (reading : Option (String × String × History))
    (input : List Object) (previous : Option History) : Prop :=
  ∃ delta, RouterJSON.array body "input" = .ok delta ∧
    ((previousResponse body = .ok none ∧ previous = none ∧ input = delta) ∨
      ∃ id history, previousResponse body = .ok (some id) ∧
          reading = some (id, thread, history) ∧ previous = some history ∧
          input = history.input ++ history.output ++ delta)

/-- The event in a frame. -/
def Frame.contents (host : Foundation) : Frame → Option Object
  | .relay rawEvent => (RouterJSON.object host rawEvent).toOption
  | .event object => some object

/-- A failure after which the turn goes on. -/
def tolerableTransport (failure : RouterTransportFailure) : Bool :=
  failure.cause = .localClose || failure.permitsEngineRecovery

/-- A report after which the turn goes on. -/
def tolerableService (transport : Transport)
    (failure : RouterServiceFailure) : Bool :=
  (failure.isWebSocketConnectionLimit && transport == .webSocket) ||
    failure.permitsEngineRecovery

/-- The router takes an error over once a request is submitted. -/
def tolerable (transport : Transport) : RouterError → Bool
  | .transport failure => tolerableTransport failure
  | .service failure => tolerableService transport failure
  | .plain _ => false

/-- The connection was closed here. -/
def closedLocally : RouterError → Bool
  | .transport failure => failure.cause = .localClose
  | _ => false

/-- An event that the router can read to its end. -/
def wellFormed (host : Foundation) (rawEvent : Data) : Bool :=
  match RouterJSON.object host rawEvent with
  | .ok event =>
    match eventType event with
    | some type =>
      (type != "response.output_item.done" || (emittedItem event).isSome) &&
      (type != "response.completed" || (completedResponse event).isSome)
    | none => false
  | .error _ => false

/-- The router wrote the frame to let the Engine recover. -/
def Frame.recovers : Frame → Bool
  | .event object => eventType object == some "error" ||
    eventType object == some "response.failed"
  | .relay _ => false

/-- An outcome after which the turn of the worker stops. -/
def blames (host : Foundation) (transport : Transport) (closing : Bool) :
    (effect : Effect) → effect.Reply → Bool
  | .ledger _, .error _ => true
  | .accountBound _, .error _ => true
  | .validate _ _, .error _ => true
  | .attach _, .error _ => true
  | .checkConnection _, .error (.transport failure) => !tolerableTransport failure
  | .checkConnection _, .error _ => true
  | .send _ _ _ _, .error error => !tolerable transport error
  | .receive _, .error error => !tolerable transport error
  | .receive _, .ok rawEvent => !wellFormed host rawEvent
  | .readFailure _, .error _ => true
  | .readFailure _, .ok failure => !tolerableService transport failure
  | .search _ _ _ _ _, _ => true
  | .frame frame, .error _ => frame.recovers
  | .isStopped, false => closing
  | _, _ => false

/-- An outcome that tells of a local close. -/
def closes : (effect : Effect) → effect.Reply → Bool
  | .checkConnection _, .error error => closedLocally error
  | .send _ _ _ _, .error error => closedLocally error
  | .receive _, .error error => closedLocally error
  | _, _ => false

/-- How far a request is after a call. -/
def Phase.after (phase : Phase) :
    (call : LedgerCall) → Except PlainError call.Value → Phase
  | .begin fingerprint turn, .ok _ => .begun fingerprint turn
  | .interrupt _ _, _ => .released
  | .rejectConnectionLimit _ _, _ => .released
  | .cancel _ _, _ =>
    match phase with
    | .committed _ _ _ => phase
    | _ => .released
  | .complete fingerprint turn response _, .ok _ => .committed fingerprint turn (some response)
  | .complete _ _ _ _, .error _ => .released
  | .finish fingerprint turn, .ok _ => .committed fingerprint turn none
  | .finish _ _, .error _ => .released
  | .saveHistory id _, .ok _ => .saved id
  | .fail _, _ => .released
  | _, _ => phase

namespace Stage

/-- What a thread learns from a reply. -/
def learn (host : Foundation) (stage : Stage) :
    (effect : Effect) → effect.Reply → Stage
  | .nextMessage, some raw =>
    { stage with
      phase := .idle
      request := read host raw
      reading := none
      binding := none
      received := [] }
  | .ledger (.history id thread), .ok history =>
    { stage with reading := some (id, thread, history) }
  | .ledger (.bound key), .ok (some account) => { stage with binding := some (key, account) }
  | .ledger call, reply => { stage with phase := stage.phase.after call reply }
  | .connect _ _ _, connection => { stage with connection := some connection }
  | .send _ _ fingerprint turn, _ =>
    { stage with phase := .sent fingerprint turn, received := [] }
  | .search _ _ _ fingerprint turn, _ => { stage with phase := .sent fingerprint turn }
  | .receive _, .ok rawEvent =>
    match RouterJSON.object host rawEvent with
    | .ok event => { stage with received := stage.received ++ [event] }
    | .error _ => stage
  | _, _ => stage

/-- The items among the events received. -/
def items (stage : Stage) : List Object :=
  stage.received.filterMap emittedItem

/-- The calls a thread may make. -/
def AllowsCall (host : Foundation) (stage : Stage) : LedgerCall → Prop
  | .begin _ turn => stage.phase = .idle ∧ ∃ account, stage.binding = some (turn, account)
  | .interrupt fingerprint turn => stage.phase.Holds fingerprint turn
  | .rejectConnectionLimit fingerprint turn => stage.phase.Holds fingerprint turn
  | .cancel fingerprint turn =>
    stage.phase.Holds fingerprint turn ∨
      ∃ response, stage.phase = .committed fingerprint turn response
  | .finish fingerprint turn => stage.phase = .sent fingerprint turn ∧ stage.connection = none
  | .complete fingerprint turn response value =>
    stage.phase = .sent fingerprint turn ∧ ∃ body thread account connection delta last,
        stage.request = some (body, thread) ∧ stage.binding = some (turn, account) ∧
          stage.connection = some connection ∧
          history body thread stage.items = .ok delta ∧
          value = { delta with
            account := some account
            generation := some connection.generation } ∧
          stage.received.getLast? = some last ∧
          completedResponse last = some response
  | .saveHistory _ value =>
    stage.phase = .idle ∧ ∃ body thread input previous, stage.request = some (body, thread) ∧
          IsPrewarm host body ∧
          Expands body thread stage.reading input previous ∧
          history body thread [] = .ok value
  | .fail _ => stage.phase.mayFail = true ∧ stage.blamed = true
  | _ => True

/-- The effects a thread may perform. -/
def Allows (host : Foundation) (stage : Stage) : Effect → Prop
  | .ledger call => stage.AllowsCall host call
  | .nextMessage => stage.phase.free = true
  | .connect _ _ _ => stage.phase = .idle
  | .send connection payload fingerprint turn =>
    stage.phase = .begun fingerprint turn ∧ ∃ body thread account input previous,
        stage.request = some (body, thread) ∧ stage.binding = some (turn, account) ∧
          stage.connection = some connection ∧
          connection.accountID = account ∧
          Expands body thread stage.reading input previous ∧
          payload = RouterRequest.payload body input previous account connection.generation
  | .search account _ _ fingerprint turn =>
    stage.phase = .begun fingerprint turn ∧ stage.binding = some (turn, account.accountID) ∧
      stage.connection = none
  | .receive connection =>
    stage.connection = some connection ∧
      (∃ fingerprint turn, stage.phase = .sent fingerprint turn) ∧
      ∀ event ∈ stage.received, completedResponse event = none
  | .frame frame =>
    ∀ event, frame.contents host = some event → eventType event = some "response.completed" →
      ∃ id, completedResponse event = some id ∧ stage.phase.Acknowledges id
  | _ => True

/-- The replies that are relied upon. -/
def Admits (stage : Stage) : (effect : Effect) → effect.Reply → Prop
  | .ledger (.cancel fingerprint turn), reply =>
    ∀ response, stage.phase = .committed fingerprint turn response → reply = .ok ()
  | .accountBound id, reply => ∀ snapshot, reply = .ok snapshot → snapshot.accountID = id
  | .connect _ account _, connection => connection.accountID = account.accountID
  | _, _ => True

/-- The stage after an effect. -/
def next (host : Foundation) (stage : Stage) (effect : Effect)
    (reply : effect.Reply) : Stage :=
  { stage.learn host effect reply with
    closing := stage.closing || closes effect reply
    blamed := stage.blamed || blames host stage.transport stage.closing effect reply }

end Stage

/-- The protocol of the workers. -/
@[reducible] def delivery (host : Foundation) : Protocol router where
  Stage := Stage
  allows := Stage.Allows host
  admits := Stage.Admits
  next := Stage.next host

/-- A routine that follows the delivery protocol. -/
abbrev Obeys (host : Foundation) (routine : Worker ρ α) (store : ρ)
    (stage : Stage) (post : Except RouterError α → ρ → Stage → Prop) : Prop :=
  Routine.Follows (delivery host) routine store stage post

end Turnrail
