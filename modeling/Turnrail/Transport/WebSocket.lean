import Turnrail.Failure.Service
import Turnrail.Interleaving.Simulation

/-!
# The connection to an account

`RouterWebSocket` drives one WebSocket for three kinds of waiters: connection
checks, a send and a receive.  Each of them waits for a result that is
completed once, by a Foundation callback or by the failure that ends the
connection.  The locked sections of the source are single effects here, at
which calls and callbacks interleave.
-/

namespace Turnrail

open Interleaving RouterTransportFailure

namespace RouterWebSocket

open RouterTransportFailure (Cause Domain)

/-- An error of the platform. -/
abbrev PlatformError := Option (Domain × Int)

/-- The error of a timeout. -/
def timedOut : PlatformError := some (.url, -1001)

/-- The error of a cancelled task. -/
def cancelled : PlatformError := some (.url, -999)

/-- Everything a call can throw. -/
inductive Fault
  | platform (error : PlatformError)
  | failure (failure : RouterFailure)
  | transport (failure : RouterTransportFailure)
  deriving DecidableEq

/-- The error in another phase. -/
def Fault.inPhase (phase : Phase) : Fault → Fault
  | .transport broken => .transport { broken with phase }
  | error => error

/-- What one receive of the platform delivers. -/
inductive Incoming
  | string (value : String)
  | data
  | unknown

/-- A platform operation that calls back once, with the result it completes. -/
inductive Callback
  | received (slot : Nat)
  | sent (slot : Nat)
  | ponged (slot : Nat) (cause : Cause)
  deriving DecidableEq

/-- Entry points of the connection.  The keepalive timer and the callbacks
enter on queues of their own. -/
inductive Call
  | checkConnection
  | keepAlive
  | send (data : Data)
  | receive
  | close
  | received (slot : Nat) (outcome : Except PlatformError Incoming)
  | sent (slot : Nat) (outcome : Except PlatformError Unit)
  | ponged (slot : Nat) (cause : Cause) (outcome : Except PlatformError Unit)

/-- A call sends or receives. -/
def Call.consumes : Call → Bool
  | .send _ | .receive => true
  | _ => false

/-- What a call returns. -/
inductive Result
  | done
  | message (data : Data)

/-- The effects of the calls. -/
inductive Effect
  | enter
  | lockProbe
  | unlockProbe
  | beginProbe
  | endProbe
  | beginSend
  | endSend
  | start (callback : Callback) (data : Data)
  | called (callback : Callback)
  | awaitSignal (slot : Nat)
  | awaitMessage (slot : Nat)
  | readTerminal
  | readIncoming
  | renew
  | observe
  | terminate (failure : Fault)
  | cancel
  | complete (slot : Nat) (result : Except Fault Data)
  | signal (slot : Nat) (result : Except Fault Unit)
  | finish (call : Call) (outcome : Except Fault Result)

/-- What the environment answers to an effect.  A wait with a deadline answers
nothing when it expires. -/
@[reducible] def Effect.Reply : Effect → Type
  | .beginProbe | .beginSend => Except Fault Nat
  | .awaitSignal _ => Option (Except Fault Unit)
  | .awaitMessage _ => Except Fault Data
  | .readTerminal => Option Fault
  | .readIncoming => Nat
  | .renew => Nat × Bool
  | .observe => Int × Int
  | .terminate _ => Fault × Bool
  | .enter | .lockProbe | .unlockProbe | .endProbe | .endSend | .start _ _
  | .called _ | .cancel | .complete _ _ | .signal _ _ | .finish _ _ => Unit

/-- The effects with their replies. -/
@[reducible] def operations : Signature where
  Effect := Effect
  Reply := Effect.Reply

/-- A part of a call. -/
abbrev Operation (α : Type) := Routine operations Unit Fault α

namespace Operation

/-- Perform an effect. -/
def perform (effect : Effect) : Operation effect.Reply :=
  @Routine.perform operations Unit Fault effect

/-- Pass an outcome on. -/
def pass (outcome : Except Fault α) : Operation α :=
  Routine.ofExcept outcome

end Operation

/-- The failure of an error. -/
def described (phase : Phase) (error : Fault) (cause : Cause) :
    Operation Fault :=
  match error with
  | .platform error => do
    let reading : Int × Int ← Operation.perform .observe
    pure (.transport
      { of phase error reading.1 with
        cause, connectionAgeMS := some reading.2 })
  | error => pure error

/-- End the connection. -/
def fail (phase : Phase) (error : Fault)
    (cause : Cause) : Operation Fault := do
  let failure ← described phase error cause
  let saved : Fault × Bool ← Operation.perform (.terminate failure)
  if saved.2 then Operation.perform .cancel else pure ()
  pure (saved.1.inPhase phase)

/-- Wait for a signal. -/
def wait (slot : Nat) (phase : Phase)
    (cause : Cause) : Operation Unit := do
  match ← Operation.perform (.awaitSignal slot) with
  | some (.ok ()) => pure ()
  | some (.error error) => throw (← fail phase error cause)
  | none => throw (← fail phase (.platform timedOut) cause)

/-- Throw the failure that ended the connection. -/
def checkTerminal : Operation Unit := do
  match ← Operation.perform .readTerminal with
  | some terminal => throw (terminal.inPhase .check)
  | none => pure ()

/-- Check the connection. -/
def probe (cause : Cause) : Operation Unit := do
  Operation.perform .lockProbe
  let outcome ← Routine.attempt do
    let slot ← Operation.pass (← Operation.perform .beginProbe)
    let outcome ← Routine.attempt do
      Operation.perform (.start (.ponged slot cause) [])
      wait slot .check cause
      checkTerminal
    Operation.perform .endProbe
    Operation.pass outcome
  Operation.perform .unlockProbe
  Operation.pass outcome

/-- Send a message. -/
def send (data : Data) : Operation Unit := do
  let slot ← Operation.pass (← Operation.perform .beginSend)
  let outcome ← Routine.attempt do
    Operation.perform (.start (.sent slot) data)
    wait slot .send .sendTimeout
  Operation.perform .endSend
  Operation.pass outcome

/-- Let the platform read the next message into a result. -/
def readNext (slot : Nat) : Operation Unit :=
  Operation.perform (.start (.received slot) [])

/-- Receive a message. -/
def receive : Operation Data := do
  let pending : Nat ← Operation.perform .readIncoming
  match ← Operation.perform (.awaitMessage pending) with
  | .error error => throw (error.inPhase .receive)
  | .ok data =>
    let next : Nat × Bool ← Operation.perform .renew
    if next.2 then readNext next.1 else pure ()
    pure data

/-- Close the connection. -/
def close : Operation Unit := do
  let _ ← fail .check (.platform cancelled) .localClose
  pure ()

/-- The message a receive callback completes a result with, or its error. -/
def accepted : Except PlatformError Incoming → Except Fault Data
  | .ok (.string value) => .ok (utf8 value)
  | .ok .data => .error
      (.failure ⟨"The account returned an unsupported binary response."⟩)
  | .ok .unknown => .error
      (.failure ⟨"The account returned an unknown WebSocket message."⟩)
  | .error error => .error (.platform error)

/-- A message arrives. -/
def onReceived (slot : Nat) (outcome : Except PlatformError Incoming) :
    Operation Unit := do
  Operation.perform (.called (.received slot))
  match accepted outcome with
  | .ok data => Operation.perform (.complete slot (.ok data))
  | .error error =>
    let error ← fail .receive error .transport
    Operation.perform (.complete slot (.error error))

/-- The callback of a send or a ping. -/
def onSignalled (callback : Callback) (slot : Nat) (phase : Phase)
    (cause : Cause) (outcome : Except PlatformError Unit) : Operation Unit := do
  Operation.perform (.called callback)
  match outcome with
  | .ok () => Operation.perform (.signal slot (.ok ()))
  | .error error =>
    let error ← fail phase (.platform error) cause
    Operation.perform (.signal slot (.error error))

/-- The callback of a send. -/
def onSent (slot : Nat) (outcome : Except PlatformError Unit) :
    Operation Unit :=
  onSignalled (.sent slot) slot .send .transport outcome

/-- The callback of a ping. -/
def onPonged (slot : Nat) (cause : Cause)
    (outcome : Except PlatformError Unit) : Operation Unit :=
  onSignalled (.ponged slot cause) slot .check cause outcome

/-- The body of a call.  A failed keepalive throws to nobody. -/
def body : Call → Operation Result
  | .checkConnection => do probe .probe; pure .done
  | .keepAlive => do
    let _ ← Routine.attempt (probe .keepAlive)
    pure .done
  | .send data => do Operation.perform .enter; send data; pure .done
  | .receive => do
    Operation.perform .enter
    let data ← receive
    pure (.message data)
  | .close => do close; pure .done
  | .received slot outcome => do onReceived slot outcome; pure .done
  | .sent slot outcome => do onSent slot outcome; pure .done
  | .ponged slot cause outcome => do onPonged slot cause outcome; pure .done

/-- A call returns or throws. -/
def routine (call : Call) : Operation Unit := do
  let outcome ← Routine.attempt (body call)
  Operation.perform (.finish call outcome)

/-- The program of a call. -/
def code (call : Call) : Program operations (Option Call) :=
  ((routine call).run ()).bind fun _ => .pure none

/-- Complete a result once. -/
def RouterAsyncResult.complete (results : Nat → Option τ) (slot : Nat)
    (result : τ) : Nat → Option τ :=
  match results slot with
  | some _ => results
  | none => Function.update results slot (some result)

/-- The state of the connection, and what its environment owes it. -/
structure Socket where
  terminal : Option Fault
  incoming : Nat
  pendingProbe : Option Nat
  pendingSend : Option Nat
  messages : Nat → Option (Except Fault Data)
  signals : Nat → Option (Except Fault Unit)
  signalCount : Nat
  outstanding : List Callback
  probeLock : Option Nat
  consumer : Option Nat
  arrived : List Data

namespace Socket

/-- A connection that starts. -/
def start : Socket where
  terminal := none
  incoming := 0
  pendingProbe := none
  pendingSend := none
  messages _ := none
  signals _ := none
  signalCount := 0
  outstanding := [.received 0]
  probeLock := none
  consumer := none
  arrived := []

/-- Complete a message. -/
def complete (socket : Socket) (slot : Nat) (result : Except Fault Data) :
    Socket :=
  { socket with
    messages := RouterAsyncResult.complete socket.messages slot result
    arrived := socket.arrived ++
      if (socket.messages slot).isNone then result.toOption.toList else [] }

/-- Complete the result of a check or a send. -/
def signal (socket : Socket) (slot : Nat) (result : Except Fault Unit) :
    Socket :=
  { socket with
    signals := RouterAsyncResult.complete socket.signals slot result }

/-- Complete the result of an operation that may be under way. -/
def wake (socket : Socket) (pending : Option Nat) (failure : Fault) : Socket :=
  match pending with
  | some slot => socket.signal slot (.error failure)
  | none => socket

/-- End the connection, and complete everything that is waited for. -/
def terminate (socket : Socket) (failure : Fault) : Socket :=
  let ended := { socket with terminal := some failure }
  ((ended.complete socket.incoming (.error failure)).wake
    socket.pendingProbe failure).wake socket.pendingSend failure

/-- Prepare the result of the message after this one. -/
def renew (socket : Socket) : Socket :=
  let next := { socket with incoming := socket.incoming + 1 }
  match socket.terminal with
  | some failure => next.complete next.incoming (.error failure)
  | none => next

/-- What an effect does to the connection. -/
def act (socket : Socket) (thread : Nat)
    (answer : (effect : Effect) → effect.Reply) : (effect : Effect) →
    Option (effect.Reply × Socket)
  | .enter =>
    if socket.consumer = none then
      some ((), { socket with consumer := some thread })
    else none
  | .lockProbe =>
    if socket.probeLock = none then
      some ((), { socket with probeLock := some thread })
    else none
  | .unlockProbe => some ((), { socket with probeLock := none })
  | .beginProbe =>
    match socket.terminal with
    | some terminal => some (.error (terminal.inPhase .check), socket)
    | none => some (.ok socket.signalCount, { socket with
        pendingProbe := some socket.signalCount
        signalCount := socket.signalCount + 1 })
  | .endProbe => some ((), { socket with pendingProbe := none })
  | .beginSend =>
    match socket.terminal with
    | some terminal => some (.error (terminal.inPhase .send), socket)
    | none => some (.ok socket.signalCount, { socket with
        pendingSend := some socket.signalCount
        signalCount := socket.signalCount + 1 })
  | .endSend => some ((), { socket with pendingSend := none })
  | .start callback _ =>
    some ((), { socket with outstanding := callback :: socket.outstanding })
  | .called callback =>
    if callback ∈ socket.outstanding then
      some ((), { socket with
        outstanding := socket.outstanding.erase callback })
    else none
  | .awaitSignal slot =>
    match answer (.awaitSignal slot) with
    | some _ => (socket.signals slot).map fun result => (some result, socket)
    | none => some (none, socket)
  | .awaitMessage slot => (socket.messages slot).map fun result => (result, socket)
  | .readTerminal => some (socket.terminal, socket)
  | .readIncoming => some (socket.incoming, socket)
  | .renew => some ((socket.incoming + 1, socket.terminal.isNone), socket.renew)
  | .observe => some (answer .observe, socket)
  | .terminate failure =>
    match socket.terminal with
    | some terminal => some ((terminal, false), socket)
    | none => some ((failure, true), socket.terminate failure)
  | .cancel => some ((), socket)
  | .complete slot result => some ((), socket.complete slot result)
  | .signal slot result => some ((), socket.signal slot result)
  | .finish call _ =>
    some ((), { socket with
      consumer := if call.consumes then none else socket.consumer })

end Socket

/-- The effects on the connection. -/
def machine : Machine operations Socket where
  exec thread socket effect reply after :=
    ∃ answer, socket.act thread answer effect = some (reply, after)
  drift _ _ := False
  reset _ _ := False

/-- Everything that any number of calls and callbacks can do together.  Sends
and receives have one consumer, which makes one call at a time. -/
abbrev Run (trace : List (Moment operations Call Socket))
    (pool : Pool operations Call Socket) : Prop :=
  Pool.Run machine (fun _ => True) code (Pool.idle Socket.start) trace pool

/-- The machine is executed with the answers to its effects. -/
def execution : Executor machine (fun _ : Call => True) where
  Choice := (effect : Effect) → effect.Reply
  starts _ := true
  exec answer thread socket effect := socket.act thread answer effect
  drift _ _ := none
  reset _ _ := none
  starts_sound _ := trivial
  exec_sound {answer _ _ _ _ _} acts := ⟨answer, acts⟩
  drift_sound drifts := by cases drifts
  reset_sound resets := by cases resets

end RouterWebSocket

end Turnrail
