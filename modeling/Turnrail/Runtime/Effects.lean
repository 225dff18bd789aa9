import Turnrail.Catalog.Intersection
import Turnrail.Interleaving.Pool
import Turnrail.Ledger.Reload

/-!
# What the router's workers do to the world

A worker acts through atomic effects: locked ledger calls, calls on accounts
and connections, and messages from and to the Engine.  The world holds the
ledger's memory and files, the Engine connections that closed, and the model
service, which gives a response the context of the response it continues, then
the submitted input, then the items it emitted.

The process can die at any point.  All workers are lost then, and a new process
opens the ledger from its files.
-/

namespace Turnrail

open Interleaving

/-- How a request arrives. -/
inductive Transport
  | webSocket
  | http
  deriving DecidableEq

/-- The headers of a request. -/
abbrev Headers := List (String × String)

/-- What is known about an account when a request uses it. -/
structure RouterAccountSnapshot where
  accountID : UUID
  models : List Object

/-- A connection to the service. -/
structure RouterUpstream where
  generation : String
  accountID : UUID
  deriving DecidableEq

/-- What is sent to the Engine. -/
inductive Frame
  | relay (rawEvent : Data)
  | event (object : Object)

/-- The atomic effects of the workers. -/
inductive Effect
  | ledger (call : LedgerCall)
  | select (cwd : String)
  | accountBound (id : UUID)
  | canonical (path : String)
  | recordLastUsed (id : UUID)
  | nextMessage
  | connect (transport : Transport) (account : RouterAccountSnapshot)
      (headers : Headers)
  | attach (connection : RouterUpstream)
  | checkConnection (connection : RouterUpstream)
  | send (connection : RouterUpstream) (payload : Object)
      (fingerprint turn : String)
  | receive (connection : RouterUpstream)
  | close (connection : RouterUpstream)
  | search (account : RouterAccountSnapshot) (body : Data) (headers : Headers)
      (fingerprint turn : String)
  | frame (frame : Frame)
  | reject (message : String) (policyViolation : Bool)
  | isStopped
  | waitForRecovery (deadline : Date)
  | stopMessages
  | recordTransport (failure : RouterTransportFailure)
  | recordService (failure : RouterServiceFailure)
      (request : Option RouterTransportObservation) (transport : Transport)
  | reportFailure (message : String)
  | validate (request : Object) (catalog : List Object)
  | readFailure (event : Object)
  | newUUID
  | lockHook
  | unlockHook

namespace Effect

/-- What an effect is answered. -/
@[reducible] def Reply : Effect → Type
  | .ledger call => Except PlainError call.Value
  | .select _ | .accountBound _ => Except PlainError RouterAccountSnapshot
  | .canonical _ => Except PlainError String
  | .recordLastUsed _ | .attach _ | .frame _ | .reject _ _ => Except PlainError Unit
  | .nextMessage => Option Data
  | .connect _ _ _ => RouterUpstream
  | .checkConnection _ | .send _ _ _ _ => Except RouterError Unit
  | .receive _ => Except RouterError Data
  | .search _ _ _ _ _ => Except PlainError Data
  | .isStopped | .waitForRecovery _ => Bool
  | .recordTransport _ | .recordService _ _ _ => Except PlainError String
  | .validate _ _ => Except RouterFailure Unit
  | .readFailure _ => Except RouterFailure RouterServiceFailure
  | .newUUID => String
  | .close _ | .stopMessages | .reportFailure _ | .lockHook | .unlockHook => Unit

end Effect

/-- The effects of the router. -/
@[reducible] def router : Signature where
  Effect := Effect
  Reply := Effect.Reply

/-- The type of an event. -/
def eventType (event : Object) : Option String :=
  (RouterJSON.text event "type").toOption

/-- The response that an event completes. -/
def completedResponse (event : Object) : Option String :=
  if eventType event = some "response.completed" then
    match RouterJSON.map event "response" with
    | .ok response => (RouterJSON.text response "id").toOption
    | .error _ => none
  else none

/-- The item that an event emits. -/
def emittedItem (event : Object) : Option Object :=
  if eventType event = some "response.output_item.done" then
    (RouterJSON.map event "item").toOption
  else none

/-- The model service, as far as conversations go. -/
structure Service where
  current : Table (List Object)
  contexts : AList fun _ : String × String => List Object

namespace Service

/-- The response that a request continues. -/
def continued (payload : Object) : Option String :=
  (payload.get "previous_response_id").bind Json.asString

/-- The context in which a payload is read: that of the response it continues,
if it names one. -/
def base (service : Service) (generation : String) (payload : Object) :
    Option (List Object) :=
  match continued payload with
  | none => some []
  | some id => service.contexts.lookup (generation, id)

/-- Accept a payload on a connection. -/
def submit (service : Service) (generation : String) (payload : Object) :
    Service :=
  match service.base generation payload, (payload.get "input").bind Json.asObjects with
  | some context, some input =>
    { service with
      current := service.current.insert generation (context ++ input) }
  | _, _ => { service with current := service.current.erase generation }

/-- Emit an event.  A response keeps the context with which it completed. -/
def emit (service : Service) (generation : String) (event : Object) :
    Service :=
  match service.current.lookup generation with
  | none => service
  | some context =>
    match emittedItem event, completedResponse event with
    | some item, _ =>
      { service with
        current := service.current.insert generation (context ++ [item]) }
    | none, some id =>
      if (service.contexts.lookup (generation, id)).isSome then service
      else
        { service with
          contexts := service.contexts.insert (generation, id) context }
    | none, none => service

end Service

/-- Everything the workers share. -/
structure World where
  memory : Option LedgerState
  disk : Disk
  stopped : Nat → Bool
  generations : List String
  service : Service
  hookOwner : Option Nat

namespace World

/-- The world before the first start. -/
def start : World where
  memory := none
  disk := .empty
  stopped := fun _ => false
  generations := []
  service := ⟨∅, ∅⟩
  hookOwner := none

/-- Stop a thread. -/
def stop (world : World) (thread : Nat) : World :=
  { world with stopped := Function.update world.stopped thread true }

/-- What an effect does to the world. -/
def exec (host : Foundation) (thread : Nat) (world : World) :
    (effect : Effect) → effect.Reply → World → Prop
  | .ledger call, reply, after =>
    ∃ state ledger writes, world.memory = some state ∧
      RouterLedger.call (call.run host) ⟨state, world.disk⟩ writes = (reply, ledger) ∧
      after = { world with memory := some ledger.state, disk := ledger.disk }
  | .accountBound id, reply, after =>
    (∀ snapshot, reply = .ok snapshot → snapshot.accountID = id) ∧ after = world
  | .nextMessage, reply, after => (world.stopped thread = true → reply = none) ∧ after = world
  | .connect _ account _, reply, after =>
    reply.accountID = account.accountID ∧ reply.generation ∉ world.generations ∧ after =
        { world with generations := reply.generation :: world.generations }
  | .attach _, reply, after =>
    (reply =
      if world.stopped thread then
        .error (.failure ⟨"The desktop cancelled the request."⟩)
      else .ok ()) ∧
      after = world
  | .send connection payload _ _, _, after =>
    after = { world with
      service := world.service.submit connection.generation payload }
  | .receive connection, reply, after =>
    after =
      match reply with
      | .ok rawEvent =>
        match RouterJSON.object host rawEvent with
        | .ok event => { world with
            service := world.service.emit connection.generation event }
        | .error _ => world
      | .error _ => world
  | .validate request catalog, reply, after =>
    reply = RouterModelCatalog.validate .plain request catalog ∧ after = world
  | .readFailure event, reply, after =>
    (∃ now, reply = RouterServiceFailure.of host event now) ∧ after = world
  | .isStopped, reply, after => reply = world.stopped thread ∧ after = world
  | .waitForRecovery _, reply, after => reply = !world.stopped thread ∧ after = world
  | .stopMessages, _, after => after = world.stop thread
  | .lockHook, _, after =>
    world.hookOwner = none ∧ after = { world with hookOwner := some thread }
  | .unlockHook, _, after => after = { world with hookOwner := none }
  | _, _, after => after = world

/-- An Engine connection closes. -/
def drift (world after : World) : Prop :=
  ∃ thread, after = world.stop thread

/-- The process dies, and a new one opens the ledger. -/
def reset (world after : World) : Prop :=
  ∃ writes result disk, RouterLedger.init world.disk writes = (result, disk) ∧
      after = { world with
      memory := result.toOption.map Ledger.state
      disk := disk
      hookOwner := none }

end World

/-- The machine that the workers run on. -/
@[reducible] def machine (host : Foundation) : Machine router World where
  exec := World.exec host
  drift := World.drift
  reset := World.reset

end Turnrail
