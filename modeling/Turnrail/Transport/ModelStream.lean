import Turnrail.Runtime.Effects
import Turnrail.Socket.Frame
import Turnrail.Transport.EventStream

/-!
# The stream of events to the Engine

`RouterModelStream` writes the events of a response to the Engine, as WebSocket
frames or as server-sent events.  What it writes over HTTP is what
`RouterSSEParser` reads.
-/

namespace Turnrail

open RouterJSON List

/-- Objects are written as lines of text. -/
structure Foundation.WritesJSON (host : Foundation) : Prop where
  encoded : ∀ object, isUTF8 (data host object) = true
  unbroken : ∀ object, ∀ byte ∈ data host object, byte ≠ 13 ∧ byte ≠ 10
  braced : ∀ object, (data host object).head? = some 123

/-- The answer to a request. -/
structure RouterModelStream where
  transport : Transport
  started : Bool := false

namespace RouterModelStream

/-- The head of the answer. -/
def responseHead : Data :=
  utf8 ("HTTP/1.1 200 OK\r\nContent-Type: text/event-stream\r\n" ++
    "Cache-Control: no-store\r\nConnection: close\r\n\r\n")

/-- Start the answer. -/
def start (stream : RouterModelStream) : Data × RouterModelStream :=
  match stream.transport, stream.started with
  | .http, false => (responseHead, { stream with started := true })
  | _, _ => ([], stream)

/-- The bytes of an event over HTTP. -/
def serverSentEvent (json : Data) : Data :=
  utf8 "data: " ++ json ++ utf8 "\n\n"

/-- Write an event.  Returns what is written, also before an error. -/
def frame (host : Foundation) (stream : RouterModelStream) (data : Data) :
    Except PlainError Unit × Data × RouterModelStream :=
  match stream.transport with
  | .webSocket => (.ok (), RouterSocket.frame data 1, stream)
  | .http =>
    let (head, next) := stream.start
    match object host data with
    | .error error => (.error error, head, next)
    | .ok object =>
      (.ok (), head ++ serverSentEvent (RouterJSON.data host object),
        next)

/-- Write events one after the other, up to the first error. -/
def frames (host : Foundation) :
    RouterModelStream → List Data → Except PlainError Unit × Data × RouterModelStream
  | stream, [] => (.ok (), [], stream)
  | stream, data :: rest =>
    match stream.frame host data with
    | (.error error, written, next) => (.error error, written, next)
    | (.ok (), written, next) =>
      let (outcome, more, last) := frames host next rest
      (outcome, written ++ more, last)

section Writing

variable {host : Foundation} {messages : List Data} {objects : List Object}

/-- The events of some objects. -/
def body (host : Foundation) (objects : List Object) : Data :=
  objects.flatMap fun object => serverSentEvent (data host object)

theorem frame_started
    {data : Data}
    {object : Object}
    (parsed : RouterJSON.object host data = .ok object) :
    frame host ⟨.http, true⟩ data = (.ok (),
        serverSentEvent (RouterJSON.data host object), ⟨.http, true⟩) := by
  simp [frame, start, parsed]

theorem frame_first
    {data : Data}
    {object : Object}
    (parsed : RouterJSON.object host data = .ok object) :
    frame host ⟨.http, false⟩ data = (.ok (), responseHead ++
        serverSentEvent (RouterJSON.data host object), ⟨.http, true⟩) := by
  simp [frame, start, parsed]

theorem frames_started
    (parsed : messages.map (RouterJSON.object host) = objects.map Except.ok) :
    frames host ⟨.http, true⟩ messages =
      (.ok (), body host objects, ⟨.http, true⟩) := by
  induction messages generalizing objects with
  | nil =>
    cases objects with
    | nil => rfl
    | cons object objects => cases parsed
  | cons data messages ih =>
    cases objects with
    | nil => cases parsed
    | cons object objects =>
      rw [map_cons, map_cons] at parsed
      obtain ⟨first, others⟩ := cons.inj parsed
      simp [frames, frame_started first, ih others, body]

theorem frames_first
    (parsed : messages.map (RouterJSON.object host) = objects.map Except.ok) :
    frames host ⟨.http, false⟩ messages =
      (.ok (), (if messages = [] then [] else responseHead) ++
        body host objects, ⟨.http, !messages.isEmpty⟩) := by
  cases messages with
  | nil =>
    cases objects with
    | nil => rfl
    | cons object objects => cases parsed
  | cons data messages =>
    cases objects with
    | nil => cases parsed
    | cons object objects =>
      rw [map_cons, map_cons] at parsed
      obtain ⟨first, others⟩ := cons.inj parsed
      simp [frames, frame_first first, frames_started others, body]

end Writing

section Reading

open EventStream

variable {host : Foundation}

theorem dataField_blank :
    utf8 "data: " = [100, 97, 116, 97, 58, 32] := by decide +kernel

theorem lines_serverSentEvent
    {json : Data}
    (unbroken : ∀ byte ∈ json, byte ≠ 13 ∧ byte ≠ 10)
    (rest : Data) :
    lines (serverSentEvent json ++ rest) = ⟨(utf8 "data: " ++ json) ::
        [] :: (lines rest).finished, (lines rest).unfinished⟩ := by
  have split : serverSentEvent json ++ rest =
      (utf8 "data: " ++ json) ++ 10 :: ([] ++ 10 :: rest) := by
    have feeds : utf8 "\n\n" = [10, 10] := by decide +kernel
    simp [serverSentEvent, feeds]
  have field : ∀ byte ∈ utf8 "data: ", byte ≠ 13 ∧ byte ≠ 10 := by
    rw [dataField_blank]
    simp
  rw [lines, split, Text.lines_append (by decide) fun byte member =>
    (mem_append.mp member).elim (field byte) (unbroken byte),
    Text.lines_append (by decide) fun _ member => absurd member not_mem_nil]
  rfl

theorem reads_serverSentEvent
    (json : Data)
    (dispatched : List Data) :
    ((⟨dispatched, []⟩ : EventStream.Reading).next (utf8 "data: " ++ json)).next
        [] = ⟨dispatched ++ [json], []⟩ := by
  have contributes : contribution (utf8 "data: " ++ json) = some json := by
    rw [contribution, dataField, dataField_blank]
    simp
  rw [dataField_blank] at contributes ⊢
  simp only [cons_append, nil_append] at contributes ⊢
  simp [EventStream.Reading.next, contributes, intercalate]

theorem reading_body
    (writes : host.WritesJSON)
    (objects : List Object) :
    lines (body host objects) = ⟨(lines (body host objects)).finished, []⟩ ∧
      ∀ dispatched,
      (lines (body host objects)).finished.foldl EventStream.Reading.next
        ⟨dispatched, []⟩ = ⟨dispatched ++ objects.map (data host), []⟩ := by
  induction objects with
  | nil => exact ⟨rfl, fun dispatched => by simp [body, lines, Text.lines]⟩
  | cons object objects ih =>
    obtain ⟨ended, reads⟩ := ih
    have split := lines_serverSentEvent (writes.unbroken object) (body host objects)
    rw [body, flatMap_cons, ← body, split]
    refine ⟨by rw [ended], fun dispatched => ?_⟩
    rw [foldl_cons, foldl_cons, reads_serverSentEvent, reads,
      map_cons, append_assoc]
    rfl

theorem json_ne_done
    (writes : host.WritesJSON)
    (object : Object) :
    data host object ≠ utf8 "[DONE]" := by
  intro same
  have braced := writes.braced object
  have bracketed : (utf8 "[DONE]").head? = some 91 := by decide +kernel
  rw [same, bracketed] at braced
  cases braced

end Reading

end RouterModelStream

open RouterModelStream in
/-- What the stream writes for events over HTTP, after the head of the
response, is read back as the texts of these events, however it is cut. -/
theorem framed_events_are_parsed
    (host : Foundation)
    (writes : host.WritesJSON)
    (messages : List Data)
    (objects : List Object)
    (parsed : messages.map (object host) = objects.map Except.ok) :
    ∃ written last,
      frames host ⟨.http, false⟩ messages = (.ok (),
        (if messages = [] then [] else responseHead) ++ written, last) ∧
      ∀ chunks : List Data, chunks.flatten = written →
        written.length ≤ RouterSSEParser.maximumBytes →
        ∃ parser results,
          RouterSSEParser.appends {} chunks = .ok (parser, results) ∧
          results.flatten = objects.map (data host) ∧
          parser.bufferedBytes = 0 := by
  refine ⟨_, _, frames_first parsed, ?_⟩
  intro chunks same bounded
  obtain ⟨ended, reads⟩ := reading_body writes objects
  have read : EventStream.reading (body host objects) =
      ⟨objects.map (data host), []⟩ := reads []
  have payloads : EventStream.payloads (body host objects) =
      objects.map (data host) := by
    rw [EventStream.payloads, read]
  rw [← same] at bounded
  obtain ⟨dispatched, results, split, appends, flat⟩ :=
    @RouterSSEParser.appends_reached [] chunks bounded (by
      rw [nil_append, same, payloads]
      intro payload member
      obtain ⟨object, -, rfl⟩ := mem_map.mp member
      exact writes.encoded object)
  refine ⟨_, results, appends, ?_, ?_⟩
  · have all : dispatched = objects.map (data host) := by
      rw [nil_append, same, payloads] at split
      exact split.symm
    rw [flat, all, filter_eq_self]
    intro payload member
    obtain ⟨object, -, rfl⟩ := mem_map.mp member
    exact decide_eq_true (json_ne_done writes object)
  · rw [nil_append, same, RouterSSEParser.bufferedBytes, RouterSSEParser.reached, read, ended]
    rfl

/-- A platform that reads and writes objects without fields. -/
def RouterModelStream.emptyObjects : Foundation :=
  { Foundation.mute with
    jsonObject := fun bytes =>
      if bytes = utf8 "\x7b\x7d" ∨ bytes = utf8 "\x7b \x7d" then some (.object []) else none
    jsonData := fun _ => utf8 "\x7b\x7d" }

theorem RouterModelStream.emptyObjects_writesJSON :
    emptyObjects.WritesJSON where
  encoded _ := by
    change isUTF8 (utf8 "\x7b\x7d") = true
    decide +kernel
  unbroken _ := by
    change ∀ byte ∈ utf8 "\x7b\x7d", byte ≠ 13 ∧ byte ≠ 10
    decide +kernel
  braced _ := by
    change (utf8 "\x7b\x7d").head? = some 123
    decide +kernel

open RouterModelStream in
/-- Two events that are cut inside their field names. -/
theorem empty_objects_are_parsed :
    ∃ parser results,
      RouterSSEParser.appends {} [utf8 "da", utf8 "ta: \x7b\x7d\n\ndata",
        utf8 ": \x7b\x7d\n\n"] = .ok (parser, results) ∧
      results.flatten = [utf8 "\x7b\x7d", utf8 "\x7b\x7d"] ∧
      parser.bufferedBytes = 0 := by
  obtain ⟨written, last, frames, reads⟩ := framed_events_are_parsed
    emptyObjects emptyObjects_writesJSON [utf8 "\x7b \x7d", utf8 "\x7b\x7d"] [[], []]
    (by simp [object, emptyObjects])
  have all := congrArg (fun result => result.2.1) frames
  simp only [if_neg (cons_ne_nil _ _)] at all
  have same : utf8 "data: \x7b\x7d\n\ndata: \x7b\x7d\n\n" = written := by
    have heads : responseHead ++ utf8 "data: \x7b\x7d\n\ndata: \x7b\x7d\n\n" =
          responseHead ++ written := by
      rw [← all]
      decide +kernel
    exact append_cancel_left heads
  exact reads _ (by rw [← same]; decide +kernel) (by rw [← same]; decide +kernel)

end Turnrail
