import Turnrail.Runtime.Compliance.Route

/-!
# Receiving a response follows the protocol

A response is committed before its completion is passed on, with the items
that were received.  A failed delivery abandons the request, and leaves a
committed request as it is.
-/

namespace Turnrail

open Interleaving RouterRuntime RouterJSON

variable {host : Foundation}
variable {store : RouteState} {stage : Stage} {transport : Transport}

variable {event : Object} {type : String} {rawEvent : Data} {exchange : Exchange}

theorem eventType_eq_some :
    eventType event = some type ↔ text event "type" = .ok type := by
  unfold eventType
  cases text event "type" <;> simp [Except.toOption]

theorem completedResponse_eq_some {id : String} :
    completedResponse event = some id ↔
      eventType event = some "response.completed" ∧ ∃ response,
      map event "response" = .ok response ∧ text response "id" = .ok id := by
  unfold completedResponse
  split
  · rename_i completes
    cases map event "response" with
    | error error => simp
    | ok response =>
      cases known : text response "id" <;>
        simp [completes, known, Except.toOption]
  · rename_i differs
    simp [differs]

theorem emittedItem_eq_some {event item : Object} :
    emittedItem event = some item ↔
      eventType event = some "response.output_item.done" ∧
      map event "item" = .ok item := by
  unfold emittedItem
  split
  · rename_i emits
    cases map event "item" <;> simp [emits, Except.toOption]
  · rename_i differs
    simp [differs]

/-- What is known while an event is handled. -/
structure Handling (transport : Transport) (exchange : Exchange)
    (event : Object) (store : RouteState) (stage : Stage) : Prop where
  transport : stage.transport = transport
  sent : stage.phase = .sent exchange.fingerprint exchange.key
  currentTurn : store.currentTurn = some exchange.key
  submitted : store.submitted = some exchange.fingerprint
  upstream : store.upstream = some exchange.connection
  connection : stage.connection = some exchange.connection
  binding : stage.binding = some (exchange.key, exchange.accountID)
  request : stage.request = some (exchange.body, exchange.thread)
  expands : ∃ input previous,
    Expands exchange.body exchange.thread stage.reading input previous
  last : stage.received.getLast? = some event
  unanswered : ∀ other ∈ stage.received, other = event ∨ completedResponse other = none
  items : stage.items = exchange.output ++ (emittedItem event).toList
  completes : stage.blamed = true ∨ (eventType event = some "response.completed" →
      (completedResponse event).isSome = true)
  emits : stage.blamed = true ∨ (eventType event = some "response.output_item.done" →
      (emittedItem event).isSome = true)

theorem blamed_or_wellFormed
    (connection : RouterUpstream)
    (rawEvent : Data) :
    (stage.next host (.receive connection) (.ok rawEvent)).blamed = true ∨
      wellFormed host rawEvent = true := by
  cases formed : wellFormed host rawEvent <;>
    simp [Stage.next, blames, formed]

theorem next_receive
    {connection : RouterUpstream}
    (parsed : object host rawEvent = .ok event) :
    stage.next host (.receive connection) (.ok rawEvent) =
      { stage with
        received := stage.received ++ [event]
        closing := stage.closing || false
        blamed := stage.blamed || !wellFormed host rawEvent } := by
  simp [Stage.next, Stage.learn, parsed, closes, blames]

theorem Receiving.malformed
    {error : PlainError}
    (receiving : Receiving transport exchange store stage)
    (malformed : wellFormed host rawEvent = false) :
    Answerable transport (.plain error) store
      (stage.next host (.receive exchange.connection) (.ok rawEvent)) := by
  have kept : (stage.next host (.receive exchange.connection)
        (.ok rawEvent)).transport = stage.transport ∧
      (stage.next host (.receive exchange.connection) (.ok rawEvent)).phase = stage.phase := by
    cases parsed : object host rawEvent <;>
      simp [Stage.next, Stage.learn, parsed]
  refine answerable_plain (kept.1.trans receiving.transport) ?_ ?_
  · rw [kept.2, receiving.sent]
    rfl
  · simp [Stage.next, blames, malformed]

theorem Receiving.handling
    (receiving : Receiving transport exchange store stage)
    (parsed : object host rawEvent = .ok event)
    (typed : text event "type" = .ok type)
    (progress : Option RouterTransportObservation) :
    Handling transport exchange event { store with progress := progress }
      (stage.next host (.receive exchange.connection) (.ok rawEvent)) := by
  have formed := @blamed_or_wellFormed host stage exchange.connection rawEvent
  have typed := eventType_eq_some.mpr typed
  refine
    { transport := ?_, sent := ?_, currentTurn := receiving.currentTurn,
      submitted := receiving.submitted, upstream := receiving.upstream,
      connection := ?_, binding := ?_, request := ?_, expands := ?_,
      last := ?_, unanswered := ?_, items := ?_, completes := ?_,
      emits := ?_ }
  · rw [next_receive parsed]
    exact receiving.transport
  · rw [next_receive parsed]
    exact receiving.sent
  · rw [next_receive parsed]
    exact receiving.connection
  · rw [next_receive parsed]
    exact receiving.binding
  · rw [next_receive parsed]
    exact receiving.request
  · rw [next_receive parsed]
    exact receiving.expands
  · rw [next_receive parsed]
    simp
  · rw [next_receive parsed]
    intro other member
    rcases List.mem_append.mp member with earlier | last
    · exact .inr (receiving.unanswered other earlier)
    · exact .inl (List.mem_singleton.mp last)
  · rw [next_receive parsed, receiving.output]
    cases item : emittedItem event <;> simp [Stage.items, item]
  · refine formed.imp_right fun formed completes => ?_
    simpa [wellFormed, parsed, completes] using formed
  · refine formed.imp_right fun formed emits => ?_
    simpa [wellFormed, parsed, emits] using formed

theorem Expands.history
    {body : Object}
    {thread : String}
    {reading : Option (String × String × History)}
    {input : List Object}
    {previous : Option History}
    (expands : Expands body thread reading input previous)
    (output : List Object) :
    ∃ value, RouterRequest.history body thread output = .ok value := by
  obtain ⟨delta, array, ⟨continued, -⟩ | ⟨id, history, continued, -⟩⟩ := expands
  · exact ⟨_, by rw [RouterRequest.history, array, continued]; rfl⟩
  · exact ⟨_, by rw [RouterRequest.history, array, continued]; rfl⟩

theorem commit_follows
    (handling : Handling transport exchange event store stage)
    (completes : eventType event = some "response.completed") :
    Obeys host (commit exchange event exchange.output) store stage
      fun outcome reached current =>
        reached = store ∧ current.transport = transport ∧
        current.connection = stage.connection ∧
        (∀ error, outcome = .error error →
          Answerable transport error store current) ∧
        (outcome = .ok () →
          ∃ id, completedResponse event = some id ∧ current.phase =
            .committed exchange.fingerprint exchange.key (some id)) := by
  have mayFail : stage.phase.mayFail = true := by
    rw [handling.sent]
    rfl
  -- A completion that names no response was blamed when it was received.
  have malformed : completedResponse event = none → ∀ error,
      Answerable transport (.plain error) store stage := by
    intro unnamed error
    refine answerable_plain handling.transport mayFail ?_
    refine handling.completes.resolve_right fun names => ?_
    simpa [unnamed] using names completes
  have items : stage.items = exchange.output := by
    have absent : emittedItem event = none := by simp [emittedItem, completes]
    simpa [absent] using handling.items
  obtain ⟨input, previous, expands⟩ := handling.expands
  obtain ⟨value, written⟩ := expands.history exchange.output
  unfold commit
  refine obeys_check ?_ fun response found => ?_
  · intro error missing
    refine ⟨rfl, handling.transport, rfl, ?_, by rintro ⟨⟩⟩
    rintro _ ⟨⟩
    exact malformed (by simp [completedResponse, completes, missing]) _
  refine obeys_check ?_ fun value' written' => ?_
  · intro error failed
    rw [written] at failed
    cases failed
  obtain rfl : value = value' := by simpa [written] using written'
  refine obeys_check ?_ fun id named => ?_
  · intro error missing
    refine ⟨rfl, handling.transport, rfl, ?_, by rintro ⟨⟩⟩
    rintro _ ⟨⟩
    exact malformed (by simp [completedResponse, completes, found, missing, Except.toOption]) _
  have completed : completedResponse event = some id :=
    completedResponse_eq_some.mpr ⟨completes, response, found, named⟩
  refine obeys_ledger_last ⟨handling.sent, exchange.body, exchange.thread, exchange.accountID,
      exchange.connection, value, event, handling.request, handling.binding,
      handling.connection, by rw [items, written], rfl, handling.last,
      completed⟩ ?_ ?_
  · intro error _
    refine ⟨rfl, handling.transport, rfl, ?_, by rintro ⟨⟩⟩
    rintro _ ⟨⟩
    exact answerable_plain handling.transport rfl (Bool.or_true _)
  · intro _ _
    refine ⟨rfl, handling.transport, rfl, by rintro _ ⟨⟩, fun _ => ?_⟩
    exact ⟨id, completed, rfl⟩

theorem deliver_follows
    {next : Continuation}
    (transported : stage.transport = transport)
    (phase : stage.phase = .sent exchange.fingerprint exchange.key ∨
      ∃ response,
        stage.phase = .committed exchange.fingerprint exchange.key response)
    (allowed : stage.Allows host (.frame (.relay rawEvent)))
    (settled : Settles transport (.ok next) store
      (stage.next host (.frame (.relay rawEvent)) (.ok ()))) :
    Obeys host (deliver exchange rawEvent next) store stage
      (Settles transport) := by
  unfold deliver
  refine obeys_perform allowed ?_
  rintro (error | ⟨⟩) -
  · refine obeys_ledger (phase.imp_left .inr) ?_ ?_
    · intro error admitted
      rcases phase with sent | ⟨response, committed⟩
      · refine answerable_plain transported ?_ (Bool.or_true _)
        change (stage.phase.after (.cancel exchange.fingerprint exchange.key)
          (.error error)).mayFail = true
        rw [sent]
        rfl
      · cases admitted response committed
    · intro _ _
      exact obeys_perform trivial fun _ _ => trivial
  · exact settled

theorem allows_relay
    (parsed : object host rawEvent = .ok event)
    (continues : eventType event ≠ some "response.completed") :
    stage.Allows host (.frame (.relay rawEvent)) := by
  intro contents same completes
  have same : event = contents := by simpa [Frame.contents, parsed, Except.toOption] using same
  exact absurd completes (same ▸ continues)

theorem Handling.receiving
    {output : List Object}
    {frame : Frame}
    {reply : Except PlainError Unit}
    (handling : Handling transport exchange event store stage)
    (items : stage.items = output)
    (continues : eventType event ≠ some "response.completed") :
    Receiving transport { exchange with output := output } store
      (stage.next host (.frame frame) reply) :=
  { transport := handling.transport
    sent := handling.sent
    currentTurn := handling.currentTurn
    submitted := handling.submitted
    upstream := handling.upstream
    connection := handling.connection
    binding := handling.binding
    request := handling.request
    output := items.symm
    unanswered := fun other member =>
      (handling.unanswered other member).elim
        (fun same => by simp [same, completedResponse, continues]) id
    expands := handling.expands }

theorem dispatch_follows
    (parsed : object host rawEvent = .ok event)
    (typed : eventType event = some type)
    (handling : Handling transport exchange event store stage) :
    Obeys host (dispatch exchange rawEvent event type) store stage
      (Settles transport) := by
  have mayFail : stage.phase.mayFail = true := by
    rw [handling.sent]
    rfl
  unfold dispatch
  split
  · refine obeys_perform trivial fun failure _ => ?_
    refine obeys_check ?_ fun failure read => ?_
    · intro error failed
      subst failed
      exact answerable_blamed rfl rfl handling.transport mayFail
    subst read
    refine ⟨handling.transport, fun _ => mayFail, ?_, ?_⟩
    · intro turn fingerprint current admitted _
      rw [handling.currentTurn] at current
      rw [handling.submitted] at admitted
      cases current
      cases admitted
      exact .inr handling.sent
    · intro _
      cases tolerated : tolerableService stage.transport failure with
      | false =>
        left
        simp [Stage.next, blames, tolerated]
      | true =>
        refine .inr ⟨tolerated, ?_⟩
        rw [handling.submitted]
        rfl
  · split
    · rename_i emits
      subst emits
      refine obeys_check ?_ fun item found => ?_
      · intro error missing
        refine answerable_plain handling.transport mayFail ?_
        refine handling.emits.resolve_right fun names => ?_
        simpa [emittedItem, typed, missing, Except.toOption] using names typed
      have emitted : emittedItem event = some item := emittedItem_eq_some.mpr ⟨typed, found⟩
      have continues : eventType event ≠ some "response.completed" := by simp [typed]
      refine deliver_follows handling.transport (.inl handling.sent)
        (allows_relay parsed continues) ?_
      exact handling.receiving (by rw [handling.items, emitted]; rfl) continues
    · split
      · rename_i completes
        subst completes
        refine Routine.Follows.bind (commit_follows handling typed) ?_ ?_
        · rintro error reached current ⟨rfl, -, -, answers, -⟩
          exact answers error rfl
        rintro ⟨⟩ reached current ⟨rfl, transported, kept, -, commits⟩
        obtain ⟨id, completed, committed⟩ := commits rfl
        have upstream : reached.upstream = current.connection := by
          rw [kept, handling.upstream, handling.connection]
        have acknowledges : current.Allows host (.frame (.relay rawEvent)) := by
          intro contents same _
          have same : event = contents := by
            simpa [Frame.contents, parsed, Except.toOption] using same
          exact ⟨id, same ▸ completed, .inr ⟨_, _, committed⟩⟩
        have free : current.phase.free = true := by
          rw [committed]
          rfl
        refine Routine.Follows.bind
          (deliver_follows transported (.inr ⟨_, committed⟩) acknowledges
            ⟨transported, free, upstream⟩) ?_ ?_
        · intro error reached' current' answers
          exact answers
        · intro next reached' current' settles
          cases next with
          | message => exact Routine.Follows.modify settles
          | receive | finished => exact settles
      · rename_i emits completes
        have continues : eventType event ≠ some "response.completed" := by
          simpa [typed] using completes
        refine deliver_follows handling.transport (.inl handling.sent)
          (allows_relay parsed continues) ?_
        have silent : emittedItem event = none := by simp [emittedItem, typed, emits]
        exact handling.receiving (by simpa [silent] using handling.items) continues

theorem receive_follows (receiving : Receiving transport exchange store stage) :
    Obeys host (RouterRuntime.receive host exchange) store stage
      (Settles transport) := by
  have mayFail : stage.phase.mayFail = true := by
    rw [receiving.sent]
    rfl
  unfold RouterRuntime.receive
  refine obeys_perform ⟨receiving.connection, ⟨_, _, receiving.sent⟩, receiving.unanswered⟩ ?_
  rintro (error | rawEvent) -
  · refine ⟨receiving.transport, fun _ => mayFail, ?_, ?_⟩
    · intro turn fingerprint current admitted _
      rw [receiving.currentTurn] at current
      rw [receiving.submitted] at admitted
      cases current
      cases admitted
      exact .inr receiving.sent
    · intro _
      refine delivery_answered error rfl rfl rfl ?_
      rw [receiving.submitted]
      rfl
  · refine obeys_plain ?_ fun event parsed => ?_
    · intro error failed
      exact receiving.malformed (by simp [wellFormed, failed])
    refine obeys_check ?_ fun type typed => ?_
    · intro error failed
      exact receiving.malformed
        (by simp [wellFormed, parsed, eventType, failed, Except.toOption])
    refine Routine.Follows.modify ?_
    exact dispatch_follows parsed (eventType_eq_some.mpr typed)
      (receiving.handling parsed typed _)

end Turnrail
