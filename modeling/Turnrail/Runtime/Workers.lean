import Turnrail.Runtime.Request

/-!
# The workers of the router

One worker serves each Engine connection, each web search, each hook and each
title registration.  The worker of an Engine connection loops over requests,
and over the events of each response; both loops are control points of the
pool.  An error leaves the loops and goes through the router's error cascade.
-/

namespace Turnrail

open Interleaving RouterJSON

/-- The variables of a connection. -/
structure RouteState where
  upstream : Option RouterUpstream := none
  currentTurn : Option String := none
  submitted : Option String := none
  progress : Option RouterTransportObservation := none

/-- A request that is under way. -/
structure Exchange where
  body : Object
  thread : String
  key : String
  accountID : UUID
  connection : RouterUpstream
  fingerprint : String
  output : List Object

/-- Where `route` goes on. -/
inductive Continuation
  | message
  | receive (exchange : Exchange)
  | finished

namespace RouterRuntime

section Platform

variable (host : Foundation)

/-- Register a title task. -/
def registerTitle (thread : Object) : Worker Unit Unit := do
  let path ← Worker.check (text thread "cwd")
  let cwd ← Worker.plain (← Worker.perform (.canonical path))
  let account ← Worker.plain (← Worker.perform (.select cwd))
  let id ← Worker.check (text thread "id")
  Worker.ledger (.registerTitle id cwd account.accountID)

/-- Before a compaction an unbound turn continues on the account of the last
completed turn. -/
def preCompact (thread key : String) : Worker Unit Unit := do
  match ← Worker.ledger (.bound key) with
  | some _ => return ()
  | none =>
    let account ← Worker.ledger (.completedAccount thread)
    Worker.ledger (.bind key account)

/-- A prompt selects the account of its turn.  Spawned agents are bound by
their model requests instead. -/
def userPromptSubmit (event : Object) (key : String) : Worker Unit Unit := do
  if (event.get "agent_id").isSome then
    let _ ← Worker.check (text event "agent_id")
    return ()
  else
    match ← Worker.ledger (.bound key) with
    | some _ => return ()
    | none =>
      let cwd ← Worker.check (text event "cwd")
      let account ← Worker.plain (← Worker.perform (.select cwd))
      Worker.ledger (.bind key account.accountID)
      Worker.plain (← Worker.perform (.recordLastUsed account.accountID))

/-- Handle an event of a hook under the lock. -/
def hookLocked (event : Object) : Worker Unit Unit := do
  let thread ← Worker.check (text event "session_id")
  let turn ← Worker.check (text event "turn_id")
  let key ← Worker.check (RouterLedger.key host thread turn)
  let name ← Worker.check (text event "hook_event_name")
  if name = "Stop" then Worker.ledger (.stop thread turn)
  else if name = "PreCompact" then preCompact thread key
  else if name = "UserPromptSubmit" then userPromptSubmit event key
  else Worker.failure "Unexpected routing hook event."

/-- Handle an event of a hook. -/
def hook (event : Object) : Worker Unit Unit := do
  Worker.perform .lockHook
  let outcome ← Routine.attempt (hookLocked host event)
  Worker.perform .unlockHook
  Routine.ofExcept outcome

/-- The largest search. -/
def maximumSearchBytes : Nat := 64 * 1024 * 1024

/-- The identity under which a search is delivered. -/
def searchFingerprint (key : String) (body : Object) : String :=
  hash host (data host
    [("kind", .string "web_search"), ("turn", .string key), ("body", .object body)])

/-- Send an admitted search and finish it. -/
def exchangeSearch (account : RouterAccountSnapshot) (data : Data)
    (headers : Headers) (fingerprint key : String) : Worker Unit Data := do
  let response ← Worker.plain (← Worker.perform (.search account data headers fingerprint key))
  if response.length ≤ maximumSearchBytes then
    let object ← Worker.plain (object host response)
    if ((object.get "output").bind Json.asString).isSome then
      Worker.ledger (.finish fingerprint key)
      return response
    else Worker.failure "Web search returned an invalid response."
  else Worker.failure "Web search returned an invalid response."

/-- Run a search. -/
def webSearch (data : Data) (headers : Headers) : Worker Unit Data := do
  match decide (data.length ≤ maximumSearchBytes), headers.lookup "x-codex-turn-metadata" with
  | true, some rawMetadata =>
    let metadata ← Worker.plain (object host (utf8 rawMetadata))
    let thread ← Worker.check (text metadata "thread_id")
    let turn ← Worker.check (text metadata "turn_id")
    let key ← Worker.check (RouterLedger.key host thread turn)
    match ← Worker.ledger (.bound key) with
    | none => Worker.failure "Web search requires an existing model-turn account binding."
    | some accountID =>
      let body ← Worker.plain (object host data)
      let account ←
        Worker.plain (← Worker.perform (.accountBound accountID))
      Worker.validate body account.models
      let fingerprint := searchFingerprint host key body
      Worker.ledger (.begin fingerprint key)
      let outcome ← Routine.attempt (exchangeSearch host account data headers fingerprint key)
      match outcome with
      | .ok response => return response
      | .error error =>
        Worker.ledger (.fail key)
        throw error
  | _, _ => Worker.failure "Web search requires bounded input and turn metadata."

/-- The connection that can be used again. -/
def reusableConnection (current : Option RouterUpstream)
    (account : RouterAccountSnapshot) : Worker RouteState (Option RouterUpstream) := do
  match current with
  | none => return none
  | some current =>
    if current.accountID = account.accountID then
      match ← Worker.perform (.checkConnection current) with
      | .ok () => return some current
      | .error (.transport failure) =>
        if failure.phase = .check then
          Worker.perform (.reportFailure ("Reconnecting before sending [" ++
              failure.diagnostic ++
              "]."))
          Worker.perform (.close current)
          return none
        else throw (.transport failure)
      | .error error => throw error
    else return none

/-- A connection to an account. -/
def readyConnection (current : Option RouterUpstream)
    (account : RouterAccountSnapshot) (headers : Headers)
    (transport : Transport) : Worker RouteState RouterUpstream := do
  match ← reusableConnection current account with
  | some connection => return connection
  | none =>
    let connection ←
      Worker.perform (.connect transport account headers)
    Worker.plain (← Worker.perform (.attach connection))
    Routine.ofExcept (← Worker.perform (.checkConnection connection))
    return connection

/-- The event that starts the answer to a prewarm request. -/
def prewarmCreated (id : String) : Object :=
  [("type", .string "response.created"), ("response", .object [("id", .string id)])]

/-- The answer to a prewarm request. -/
def prewarmCompleted (id : String) : Object :=
  [("type", .string "response.completed"), ("response", .object [("id", .string id),
        ("usage", .object [("input_tokens", .number 0), ("output_tokens", .number 0),
            ("total_tokens", .number 0)])])]

/-- Answer a prewarm request without an account. -/
def prewarm (body : Object) (thread : String) :
    Worker RouteState Continuation := do
  if (body.get "generate").bind Json.asBool = some false then
    let uuid : String ← Worker.perform .newUUID
    let id := "turnrail-prewarm-" ++ uuid
    let value ← Worker.check (RouterRequest.history body thread [])
    Worker.ledger (.saveHistory id value)
    Worker.frame (.event (prewarmCreated id))
    Worker.frame (.event (prewarmCompleted id))
    return .message
  else Worker.failure "Prewarm cannot perform inference."

/-- Begin a request and send it on a connection. -/
def transmit (body metadata : Object) (thread key : String) (accountID : UUID)
    (input : List Object) (previous : Option History)
    (connection : RouterUpstream) (reused : Bool) : Worker RouteState Continuation := do
  let fingerprint := RouterRequest.fingerprint host body input key
  let payload := RouterRequest.payload body input previous accountID connection.generation
  Worker.ledger (.begin fingerprint key)
  Routine.modify fun store => { store with submitted := some fingerprint }
  let kind ← Worker.check (text metadata "request_kind")
  if RouterTransportObservation.kinds.contains kind then
    Routine.modify fun store =>
      { store with
        progress := some {
          kind := kind
          connectionReused := reused
          requestBytes := (data host payload).length
          receivedEvents := 0
          responseStarted := false } }
    Routine.ofExcept (← Worker.perform (.send connection payload fingerprint key))
    return .receive {
      body := body
      thread := thread
      key := key
      accountID := accountID
      connection := connection
      fingerprint := fingerprint
      output := [] }
  else Worker.failure "Unsupported inference request kind."

/-- Submit a request of a bound turn on a connection of its account. -/
def submit (transport : Transport) (headers : Headers) (body metadata : Object)
    (thread : String) (input : List Object) (previous : Option History) :
    Worker RouteState Continuation := do
  let (key, accountID) ← RouterRequest.binding host metadata
  Routine.modify fun store => { store with currentTurn := some key }
  let account ← Worker.plain (← Worker.perform (.accountBound accountID))
  Worker.validate body account.models
  let upstream := (← Routine.get).upstream
  let connection ← readyConnection upstream account headers transport
  let reused := upstream.map RouterUpstream.generation = some connection.generation
  Routine.modify fun store => { store with upstream := some connection }
  transmit host body metadata thread key accountID input previous connection reused

/-- Serve the next request of an Engine connection. -/
def serve (transport : Transport) (headers : Headers) :
    Worker RouteState Continuation := do
  match ← Worker.perform .nextMessage with
  | none => return .finished
  | some raw =>
    Routine.modify fun store =>
      { store with currentTurn := none, submitted := none, progress := none }
    let body ← Worker.plain (object host raw)
    let metadata ← Worker.plain (RouterRequest.metadata host body)
    let thread ← Worker.check (text metadata "thread_id")
    let (input, previous) ← RouterRequest.expanded body thread
    if (metadata.get "request_kind").bind Json.asString = some "prewarm" then
      prewarm body thread
    else
      submit host transport headers body metadata thread input previous

/-- The events that end a response without completing it. -/
def failureTypes : List String :=
  ["error", "response.failed", "response.incomplete"]

/-- Commit a completed response before it is acknowledged. -/
def commit (exchange : Exchange) (event : Object) (output : List Object) :
    Worker RouteState Unit := do
  let response ← Worker.check (map event "response")
  let value ← Worker.check (RouterRequest.history exchange.body exchange.thread output)
  let id ← Worker.check (text response "id")
  Worker.ledger (.complete exchange.fingerprint exchange.key id
    { value with
      account := some exchange.accountID
      generation := some exchange.connection.generation })

/-- Pass an event on to the Engine.  A failed delivery abandons the request. -/
def deliver (exchange : Exchange) (rawEvent : Data) (next : Continuation) :
    Worker RouteState Continuation := do
  match ← Worker.perform (.frame (.relay rawEvent)) with
  | .ok () => return next
  | .error error =>
    Worker.ledger (.cancel exchange.fingerprint exchange.key)
    Worker.perform (.reportFailure
      ("Engine response delivery ended: " ++ error.localizedDescription))
    return .finished

/-- Handle an event of a response. -/
def dispatch (exchange : Exchange) (rawEvent : Data) (event : Object)
    (type : String) : Worker RouteState Continuation := do
  if failureTypes.contains type then
    let failure ← Worker.check (← Worker.perform (.readFailure event))
    throw (.service failure)
  else if type = "response.output_item.done" then
    let item ← Worker.check (map event "item")
    deliver exchange rawEvent (.receive { exchange with output := exchange.output ++ [item] })
  else if type = "response.completed" then
    commit exchange event exchange.output
    match ← deliver exchange rawEvent .message with
    | .message =>
      Routine.modify fun store => { store with currentTurn := none }
      return .message
    | next => return next
  else deliver exchange rawEvent (.receive exchange)

/-- Receive an event. -/
def receive (exchange : Exchange) : Worker RouteState Continuation := do
  let rawEvent ←
    Routine.ofExcept (← Worker.perform (.receive exchange.connection))
  let event ← Worker.plain (object host rawEvent)
  let type ← Worker.check (text event "type")
  Routine.modify fun store =>
    { store with
      progress := store.progress.map fun progress => progress.received type }
  dispatch exchange rawEvent event type

/-- Note a failure in the diagnostics. -/
def diagnose (transport : Transport) :
    RouterError → Worker RouteState RouterError
  | .transport failure => do
    let failure := { failure with request := (← Routine.get).progress }
    match ← Worker.perform (.recordTransport failure) with
    | .ok reference => return .transport { failure with reference := some reference }
    | .error _ => return .transport { failure with diagnosticWriteFailed := true }
  | .service failure => do
    let request := (← Routine.get).progress
    match ← Worker.perform (.recordService failure request transport) with
    | .ok reference => return .service { failure with reference := some reference }
    | .error _ => return .service { failure with diagnosticWriteFailed := true }
  | .plain error => return .plain error

/-- Turn an error into a value. -/
def takeOver (handler : Worker RouteState Unit) :
    Worker RouteState (Option RouterError) := do
  match ← Routine.attempt handler with
  | .ok () => return none
  | .error error => return some error

/-- Cancel the request that was admitted, if there is one. -/
def cancelSubmitted : Worker RouteState Unit := do
  let store ← Routine.get
  match store.currentTurn, store.submitted with
  | some currentTurn, some submitted => Worker.ledger (.cancel submitted currentTurn)
  | _, _ => return ()

/-- Interrupt the request that was admitted, if there is one. -/
def interruptSubmitted (currentTurn : String) : Worker RouteState Unit := do
  match (← Routine.get).submitted with
  | some submitted => Worker.ledger (.interrupt submitted currentTurn)
  | none => return ()

/-- The Engine left: abandon the request. -/
def handleCancellation :
    RouterError → Worker RouteState (Option RouterError)
  | .transport failure => do
    if failure.cause = .localClose then
      let stopped : Bool ← Worker.perform .isStopped
      if stopped then
        takeOver do
          cancelSubmitted
          Worker.perform (.reportFailure
            ("Engine cancelled inference [" ++ failure.diagnostic ++ "]."))
      else return some (.transport failure)
    else return some (.transport failure)
  | error => return some error

/-- A connection failed: the Engine may submit the request again. -/
def handleInterruption :
    RouterError → Worker RouteState (Option RouterError)
  | .transport failure => do
    let store ← Routine.get
    match failure.permitsEngineRecovery, store.currentTurn with
    | true, some currentTurn =>
      takeOver do
        interruptSubmitted currentTurn
        Worker.perform (.reportFailure
          ("Engine transport recovery [" ++ failure.diagnostic ++ "]."))
    | _, _ => return some (.transport failure)
  | error => return some error

/-- The connection expired: the Engine may submit the request once more. -/
def handleConnectionLimit (transport : Transport) :
    RouterError → Worker RouteState (Option RouterError)
  | .service failure => do
    let store ← Routine.get
    match failure.isWebSocketConnectionLimit && transport == .webSocket,
        store.currentTurn, store.submitted with
    | true, some currentTurn, some submitted =>
      takeOver do
        Worker.ledger (.rejectConnectionLimit submitted currentTurn)
        Worker.frame (.event RouterServiceFailure.connectionLimitRetryEvent)
    | _, _, _ => return some (.service failure)
  | error => return some error

/-- Wait for the delay a service asked for.  The result is false if the Engine
left in the meantime. -/
def waitForRecovery (failure : RouterServiceFailure) :
    Worker RouteState Bool :=
  match failure.retryDelay.deadline with
  | some deadline => Worker.perform (.waitForRecovery deadline)
  | none => return true

/-- The service failed for a while: the Engine may submit the request again
after the delay the service asked for. -/
def handleServiceRecovery :
    RouterError → Worker RouteState (Option RouterError)
  | .service failure => do
    let store ← Routine.get
    match failure.permitsEngineRecovery, store.currentTurn, store.submitted with
    | true, some currentTurn, some submitted =>
      takeOver do
        Worker.ledger (.interrupt submitted currentTurn)
        if ← waitForRecovery failure then
          let event ← Worker.check failure.engineRecoveryEvent
          Worker.frame (.event event)
          Worker.perform (.reportFailure ("Engine service recovery: " ++ failure.description))
    | _, _, _ => return some (.service failure)
  | error => return some error

/-- Fail the current turn. -/
def failTurn : Worker RouteState Unit := do
  match (← Routine.get).currentTurn with
  | some currentTurn =>
    let _ ← Worker.perform (.ledger (.fail currentTurn))
    return ()
  | none => return ()

/-- Nothing took the error over: the turn must not continue. -/
def stopTurn (error reported : RouterError) : Worker RouteState Unit := do
  Worker.perform (.reportFailure ("Model routing: " ++ reported.localizedDescription))
  failTurn
  let policyViolation :=
    match error with
    | .service failure => failure.isMisalignmentPolicyViolation
    | _ => false
  let _ ← Worker.perform (.reject reported.localizedDescription policyViolation)

/-- Handle an error. -/
def handle (transport : Transport) (error : RouterError) :
    Worker RouteState Unit := do
  let reported ← diagnose transport error
  let some reported ← handleCancellation reported | return ()
  let some reported ← handleInterruption reported | return ()
  let some reported ← handleConnectionLimit transport reported | return ()
  let some reported ← handleServiceRecovery reported | return ()
  stopTurn error reported

/-- Close what `route` used. -/
def leave : Worker RouteState Unit := do
  Worker.perform .stopMessages
  match (← Routine.get).upstream with
  | some upstream => Worker.perform (.close upstream)
  | none => pure ()

end Platform

end RouterRuntime
/-- A control point of a worker. -/
inductive Point
  | route (transport : Transport) (headers : Headers) (store : RouteState)
  | receive (transport : Transport) (headers : Headers) (store : RouteState)
      (exchange : Exchange)
  | webSearch (data : Data) (headers : Headers)
  | hook (event : Object)
  | registerTitle (thread : Object)

namespace Point

/-- The points where a thread may start. -/
def entry : Point → Prop
  | .route _ _ store => store = {}
  | .receive _ _ _ _ => False
  | _ => True

open RouterRuntime

/-- One round of a loop of `route`, with the error cascade and the cleanup
behind it. -/
def round (transport : Transport) (headers : Headers)
    (body : Worker RouteState Continuation) :
    Worker RouteState (Option (RouteState → Point)) := do
  match ← Routine.attempt body with
  | .ok .message => return some fun store => .route transport headers store
  | .ok (.receive exchange) =>
    return some fun store => .receive transport headers store exchange
  | .ok .finished =>
    leave
    return none
  | .error error =>
    handle transport error
    leave
    return none

/-- The point reached by a round. -/
def target : Except RouterError (Option (RouteState → Point)) × RouteState →
    Option Point
  | (.ok (some point), store) => some (point store)
  | _ => none

/-- The program of a point. -/
def code (host : Foundation) : Point → Program router (Option Point)
  | .route transport headers store =>
    ((round transport headers (serve host transport headers)).run
      store).bind fun result => .pure (target result)
  | .receive transport headers store exchange =>
    ((round transport headers (RouterRuntime.receive host exchange)).run store).bind
        fun result => .pure (target result)
  | .webSearch data headers =>
    ((RouterRuntime.webSearch host data headers).run ()).bind fun _ => .pure none
  | .hook event => ((RouterRuntime.hook host event).run ()).bind fun _ => .pure none
  | .registerTitle thread =>
    ((RouterRuntime.registerTitle thread).run ()).bind fun _ => .pure none

end Point

/-- A run of the router. -/
abbrev RouterRun (host : Foundation)
    (trace : List (Moment router Point World))
    (pool : Pool router Point World) : Prop :=
  Pool.Run (machine host) Point.entry (Point.code host) (Pool.idle World.start) trace pool

end Turnrail
