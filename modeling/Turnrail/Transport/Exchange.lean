import Turnrail.Failure.Service
import Turnrail.Interleaving.Runs
import Turnrail.Transport.EventStream

/-!
# An HTTP inference exchange

`RouterEventStream` reads the body of one response as the platform delivers it,
and hands the events to the thread that receives them.  Every action is one
section under the lock that both sides share.  The platform delivers one chunk
after the other; an error that a chunk throws is recorded in a section of its
own.
-/

namespace Turnrail

open Interleaving

/-- What a chunk leaves in the parser, also when it throws. -/
def RouterSSEParser.remains (parser : RouterSSEParser) :
    Data → RouterSSEParser
  | [] => parser
  | byte :: rest =>
    match parser.consume byte with
    | .ok (next, _) => next.remains rest
    | .error _ =>
      { parser with
        afterCR := byte = 13
        payload := parser.payload.dropLast }

/-- An exchange with the service. -/
structure RouterEventStream where
  events : List Data := []
  queuedBytes : Int := 0
  parser : RouterSSEParser := {}
  terminal : Option RouterError := none
  status : Option Int := none
  mediaType : Option String := none
  retryAfter : Option String := none
  receivedBytes : Nat := 0
  rejection : Data := []
  thrown : Option RouterError := none

namespace RouterEventStream

/-- An error of the platform. -/
abbrev PlatformError := Option (RouterTransportFailure.Domain × Int)

/-- The head of a response. -/
structure Response where
  statusCode : Int
  mimeType : Option String
  retryAfter : Option String

/-- What happens to an exchange. -/
inductive Action
  | didReceiveResponse (response : Option Response)
  | didReceive (data : Data)
  | record
  | didComplete (error : Option PlatformError) (now : Date)
      (connectionAgeMS : Int)
  | receive
  | close

variable (host : Foundation) (texts : Texts)

section Callbacks

variable (stream : RouterEventStream)

/-- End the exchange. -/
def finish (error : RouterError) : RouterEventStream :=
  { stream with terminal := stream.terminal.or (some error) }

/-- Throw out of the exchange. -/
def throws (error : RouterFailure) : RouterEventStream :=
  { stream with thrown := some (.plain (.failure error)) }

/-- The failure of a connection. -/
def connectionFailure (error : PlatformError) (connectionAgeMS : Int) :
    RouterTransportFailure :=
  { RouterTransportFailure.of .receive error 0 with
    connectionAgeMS := some connectionAgeMS }

/-- Closing a connection locally. -/
def localClose : RouterTransportFailure :=
  { RouterTransportFailure.of .receive (some (.url, -999)) 0 with
    cause := .localClose }

/-- The head of a response arrives. -/
def didReceiveResponse : Option Response → RouterEventStream
  | none => stream.finish (.plain (.failure
      ⟨"The model service returned an invalid HTTP response."⟩))
  | some response =>
    { stream with
      status := some response.statusCode
      mediaType := response.mimeType.map texts.lowercased
      retryAfter := response.retryAfter }

/-- Queue the events that ended in a chunk, or throw what the parser threw. -/
def queue (data : Data) :
    Except RouterFailure (RouterSSEParser × List Data) → RouterEventStream
  | .ok (parser, received) =>
    { stream with
      parser := parser
      receivedBytes := stream.receivedBytes + data.length
      events := stream.events ++ received
      queuedBytes := stream.queuedBytes + (received.map List.length).sum }
  | .error error => { stream.throws error with parser := stream.parser.remains data }

/-- A chunk of the body arrives. -/
def didReceive (data : Data) : RouterEventStream :=
  if stream.status ≠ some 200 then
    if stream.rejection.length + data.length ≤ 16384 then
      { stream with rejection := stream.rejection ++ data }
    else stream.throws ⟨"The model service returned an oversized HTTP rejection."⟩
  else if stream.terminal.isSome then stream
  else if stream.queuedBytes + stream.parser.bufferedBytes + data.length ≤
      RouterSSEParser.maximumBytes then
    stream.queue data (stream.parser.append data)
  else stream.throws ⟨"The model event stream exceeded the supported buffer size."⟩

/-- The error of a status. -/
def rejected (status : Int) (now : Date) : RouterError :=
  let failure : Except PlainError RouterServiceFailure := do
    let body ← RouterJSON.object host stream.rejection
    let detail ← (RouterJSON.map body "error").mapError .failure
    let event : Object :=
      [("type", .string "error"), ("status", .number status), ("error", .object detail)]
    let event := match stream.retryAfter with
      | some retryAfter => event.set "headers"
          (.object [("retry-after", .string retryAfter)])
      | none => event
    (RouterServiceFailure.of host event now).mapError .failure
  match failure with
  | .ok failure => .service failure
  | .error _ => .plain (.failure
      ⟨"The model service rejected HTTP inference (HTTP " ++ toString status ++ ")."⟩)

/-- The media type that a diagnostic shows. -/
def shownType : String :=
  match stream.mediaType with
  | some mediaType =>
    if ["text/event-stream", "text/plain", "text/html", "application/json",
        "application/octet-stream"].contains mediaType then mediaType
    else "unrecognized"
  | none => "missing"

/-- The exchange is halted. -/
def didComplete (error : Option PlatformError) (now : Date)
    (connectionAgeMS : Int) : RouterEventStream :=
  -- Even a clean end is a lost connection: a completed response was received.
  let lost := connectionFailure (error.getD (some (.url, -1005))) connectionAgeMS
  match stream.status with
  | some status =>
    if status ≠ 200 then
      stream.finish (stream.rejected host status now)
    else if error.isNone ∧ 0 < stream.receivedBytes ∧ stream.parser.hasSSEFields = false then
      stream.finish (.plain
        (.failure ⟨"The model service did not return an event stream. [HTTP " ++
          toString status ++ "; Content-Type: " ++ stream.shownType ++ "]"⟩))
    else stream.finish (.transport lost)
  | none => stream.finish (.transport lost)

/-- Receive an event, unless it must be waited for. -/
def receive : Option (Except RouterError Data × RouterEventStream) :=
  match stream.events with
  | event :: rest =>
    some (.ok event, { stream with
      events := rest
      queuedBytes := stream.queuedBytes - event.length })
  | [] => stream.terminal.map fun error => (.error error, stream)

/-- What an action does and what it returns to the thread that receives.  The
platform waits until an error is recorded, and a thread that receives waits for
an event or an error. -/
def act : Action → Option (Option (Except RouterError Data) × RouterEventStream)
  | .didReceiveResponse response =>
    if stream.thrown.isSome then none
    else some (none, stream.didReceiveResponse texts response)
  | .didReceive data =>
    if stream.thrown.isSome then none
    else some (none, stream.didReceive data)
  | .record => stream.thrown.map fun error =>
    (none, { stream.finish error with thrown := none })
  | .didComplete error now connectionAgeMS =>
    if stream.thrown.isSome then none
    else some (none, stream.didComplete host error now connectionAgeMS)
  | .receive => stream.receive.map fun (result, next) => (some result, next)
  | .close => some (none, stream.finish (.transport localClose))

end Callbacks

/-- An action with what it returned. -/
abbrev Happening := Action × Option (Except RouterError Data)

/-- The happenings of an exchange. -/
abbrev Run (initial : RouterEventStream) (history : List Happening)
    (stream : RouterEventStream) : Prop :=
  Runs (fun before (happening : Happening) after =>
      before.act host texts happening.1 = some (happening.2, after))
    initial history stream

/-- An exchange whose response has a head. -/
def opened (response : Response) : RouterEventStream :=
  didReceiveResponse texts {} (some response)

/-- The events that were received. -/
def received (history : List Happening) : List Data :=
  history.filterMap fun happening => happening.2.bind Except.toOption

/-- What the platform did. -/
def callbacks (history : List Happening) : List Action :=
  (history.map Prod.fst).filter fun action =>
    match action with
    | .receive | .record => false
    | _ => true

section Actions

variable {host texts} {stream after : RouterEventStream}

/-- What an action can do. -/
inductive Does (host : Foundation) (texts : Texts)
    (stream : RouterEventStream) : Happening → RouterEventStream → Prop
  | didReceiveResponse (response : Option Response) :
      stream.thrown = none →
      Does host texts stream (.didReceiveResponse response, none)
        (stream.didReceiveResponse texts response)
  | didReceive (data : Data) :
      stream.thrown = none →
      Does host texts stream (.didReceive data, none) (stream.didReceive data)
  | record (error : RouterError) :
      stream.thrown = some error →
      Does host texts stream (.record, none)
        { stream.finish error with thrown := none }
  | didComplete (error : Option PlatformError) (now : Date)
      (connectionAgeMS : Int) :
      stream.thrown = none →
      Does host texts stream (.didComplete error now connectionAgeMS, none)
        (stream.didComplete host error now connectionAgeMS)
  | event (event : Data) (rest : List Data) :
      stream.events = event :: rest →
      Does host texts stream (.receive, some (.ok event))
        { stream with
          events := rest
          queuedBytes := stream.queuedBytes - event.length }
  | halted (error : RouterError) :
      stream.events = [] → stream.terminal = some error →
      Does host texts stream (.receive, some (.error error)) stream
  | close :
      Does host texts stream (.close, none) (stream.finish (.transport localClose))

theorem does_of_act
    {happening : Happening}
    (acts : stream.act host texts happening.1 = some (happening.2, after)) :
    Does host texts stream happening after := by
  obtain ⟨action, result⟩ := happening
  cases action with
  | didReceiveResponse | didReceive | didComplete =>
    simp only [act, Option.ite_none_left_eq_some] at acts
    obtain ⟨calm, same⟩ := acts
    cases same
    constructor
    simpa using calm
  | record =>
    obtain ⟨error, threw, same⟩ := Option.map_eq_some_iff.mp acts
    cases same
    exact .record error threw

  | receive =>
    obtain ⟨answer, receives, same⟩ := Option.map_eq_some_iff.mp acts
    cases same
    unfold RouterEventStream.receive at receives
    split at receives
    · rename_i event rest queued
      cases receives
      exact .event event rest queued
    · rename_i empty
      obtain ⟨error, ended, same⟩ := Option.map_eq_some_iff.mp receives
      cases same
      exact .halted error empty ended
  | close =>
    cases acts
    exact .close

end Actions

end RouterEventStream

end Turnrail
