import Turnrail.Runtime.Context
import Turnrail.Runtime.Execution

/-!
# A conversation survives a change of account or connection

A request is sent as a delta on the connection that produced the response it
continues, and with the whole conversation on any other.  Either way the service
reads it in the context that the ledger tells, so a response completes with the
context that the ledger reconstructs for it.
-/

namespace Turnrail

open Interleaving RouterLedger RouterRequest Service List

variable {host : Foundation}

/-- The running process knows a response. -/
def World.Knows (world : World) (id : String) : Prop :=
  ∃ state, world.memory = some state ∧ state.Records id

theorem World.Knows.onward
    {before after : World}
    {id : String}
    (knows : before.Knows id)
    (onward : before.Onward after) :
    after.Knows id := by
  obtain ⟨state, running, records⟩ := knows
  obtain ⟨next, running, grown⟩ := onward.memory state running
  exact ⟨next, running, grown.records records⟩

namespace Stage

/-- The worker has received a response that it did not commit yet. -/
def Awaits (stage : Stage) (id : String) : Prop :=
  (∃ fingerprint turn, stage.phase = .sent fingerprint turn) ∧
    ∃ last, stage.received.getLast? = some last ∧ completedResponse last = some id

variable (host : Foundation) (trace : List (Moment router Point World))
variable (world : World) (stage : Stage)

/-- The service reads the request of a worker in the conversation that the
ledger tells. -/
def Exchanges (turn : String) (connection : RouterUpstream) : Prop :=
  ∃ state body thread delta previous base, world.memory = some state ∧
      stage.request = some (body, thread) ∧
      RouterJSON.array body "input" = .ok delta ∧
      previousResponse body = .ok previous ∧
      Grounded host (Offered trace) state previous thread base ∧
      world.service.current.lookup connection.generation =
        some (base ++ delta ++ stage.items) ∧
      state.bindings.lookup turn = some connection.accountID

/-- What a thread knows about a conversation. -/
structure Continues : Prop where
  reading : ∀ {id thread history}, stage.reading = some (id, thread, history) →
    ∃ state record, world.memory = some state ∧ state.history.lookup id = some record ∧
      record.thread = thread ∧
      history.account = record.account ∧
      history.generation = record.generation ∧
      Recalls host (Offered trace) state thread id (history.input ++ history.output)
  connected : ∀ {connection}, stage.connection = some connection →
    connection.generation ∈ world.generations
  answered : ∀ {connection id context},
    stage.connection = some connection → stage.phase ≠ .released →
    world.service.contexts.lookup (connection.generation, id) = some context →
    world.Knows id ∨ stage.Awaits id
  sent : ∀ {fingerprint turn connection}, stage.phase = .sent fingerprint turn →
    stage.connection = some connection →
    stage.Exchanges host trace world turn connection
  completes : ∀ {fingerprint turn connection last id}, stage.phase = .sent fingerprint turn →
    stage.connection = some connection →
    stage.received.getLast? = some last →
    completedResponse last = some id →
    Produced host trace connection id ∧ (world.Knows id ∨
        world.service.contexts.lookup (connection.generation, id) =
          world.service.current.lookup connection.generation)

end Stage

theorem Stage.continues_start
    (trace : List (Moment router Point World))
    (world : World)
    (point : Point) :
    point.start.Continues host trace world := by
  cases point <;>
    refine ⟨?_, ?_, ?_, ?_, ?_⟩ <;>
    simp [Point.start]

namespace Stage.Continues

variable {trace later : List (Moment router Point World)}
variable {before after : World} {stage next : Stage}

theorem reading_onward
    (continues : stage.Continues host trace before)
    (onward : before.Onward after)
    {id thread : String}
    {history : History}
    (read : stage.reading = some (id, thread, history)) :
    ∃ state record, after.memory = some state ∧
      state.history.lookup id = some record ∧
      record.thread = thread ∧ history.account = record.account ∧
      history.generation = record.generation ∧
      Recalls host (Offered (trace ++ later)) state thread id (history.input ++
        history.output) := by
  obtain ⟨state, record, running, known, thread, account, generation,
    recalls⟩ := continues.reading read
  obtain ⟨next, running, grown⟩ := onward.memory state running
  exact ⟨next, record, running, grown.history known, thread, account,
    generation, (recalls.mono Offered.more).grow grown⟩

theorem onward
    (continues : stage.Continues host trace before)
    (onward : before.Onward after)
    (same : ∀ connection, stage.connection = some connection →
      before.service.Same after.service connection.generation) :
    stage.Continues host (trace ++ later) after where
  reading := continues.reading_onward onward
  connected connects := onward.generations _ (continues.connected connects)
  answered connects active responds := by
    rw [(same _ connects).contexts] at responds
    rcases continues.answered connects active responds with knows | awaits
    · exact .inl (knows.onward onward)
    · exact .inr awaits
  sent submitted connects := by
    obtain ⟨state, body, thread, delta, previous, base, running, request,
      reads, continued, grounded, current, bound⟩ :=
      continues.sent submitted connects
    obtain ⟨next, running, grown⟩ := onward.memory state running
    exact ⟨next, body, thread, delta, previous, base, running, request, reads,
      continued, (grounded.mono Offered.more).grow grown,
      (same _ connects).current.trans current, grown.bindings bound⟩
  completes submitted connects last completed := by
    obtain ⟨produced, knows | context⟩ := continues.completes submitted connects last completed
    · exact ⟨produced.more, .inl (knows.onward onward)⟩
    · rw [(same _ connects).contexts, (same _ connects).current]
      exact ⟨produced.more, .inr context⟩

theorem alike
    (continues : stage.Continues host trace after)
    (phase : next.phase = stage.phase)
    (request : next.request = stage.request)
    (reading : next.reading = stage.reading)
    (connection : next.connection = stage.connection)
    (received : next.received = stage.received) :
    next.Continues host trace after := by
  obtain ⟨read, connected, answered, sent, completes⟩ := continues
  constructor <;>
    simpa only [Awaits, Exchanges, items, phase, request, reading, connection,
      received] using by assumption

theorem unsent
    (continues : stage.Continues host trace after)
    (connection : next.connection = stage.connection)
    (reading : next.reading = stage.reading ∨ next.reading = none)
    (phase : ∀ fingerprint turn, next.phase ≠ .sent fingerprint turn)
    (answered : next.phase ≠ .released → stage.phase ≠ .released ∧
      ∀ id, stage.Awaits id → after.Knows id) :
    next.Continues host trace after where
  reading read := by
    rcases reading with same | none
    · rw [same] at read
      exact continues.reading read
    · rw [none] at read
      cases read
  connected connects := by
    rw [connection] at connects
    exact continues.connected connects
  answered connects active responds := by
    rw [connection] at connects
    obtain ⟨active, recorded⟩ := answered active
    rcases continues.answered connects active responds with knows | awaits
    · exact .inl knows
    · exact .inl (recorded _ awaits)
  sent submitted := absurd submitted (phase _ _)
  completes submitted := absurd submitted (phase _ _)

theorem unconnected
    (continues : stage.Continues host trace after)
    (reading : next.reading = stage.reading)
    (connection : next.connection = none) :
    next.Continues host trace after where
  reading := by
    rw [reading]
    exact continues.reading
  connected := by simp [connection]
  answered := by simp [connection]
  sent := by simp [connection]
  completes := by simp [connection]

theorem called
    {thread : Nat}
    {call : LedgerCall}
    {reply : Except PlainError call.Value}
    (continues : stage.Continues host trace before)
    (recounts : before.Recounts host trace)
    (archivable : Archivable host (Offered trace))
    (allowed : stage.AllowsCall host call)
    (executed : World.exec host thread before (.ledger call) reply after) :
    (stage.next host (.ledger call) reply).Continues host
      (trace ++ later) after := by
  obtain ⟨called⟩ := exec_ledger thread executed
  have kept : stage.Continues host (trace ++ later) after :=
    continues.onward (exec_onward executed) fun connection _ =>
      exec_same executed (by rintro _ ⟨⟩)
  -- A worker that does not wait for a response awaits none.
  have idle : stage.phase = .idle → stage.phase ≠ .released ∧
      ∀ id, stage.Awaits id → after.Knows id := by
    intro idle
    rw [idle]
    refine ⟨by rintro ⟨⟩, ?_⟩
    rintro id ⟨⟨_, _, sent⟩, -⟩
    rw [idle] at sent
    cases sent
  cases call with
  | bound key =>
    rcases reply with error | (_ | found) <;>
      exact kept.alike rfl rfl rfl rfl rfl
  | bind | registerTitle | title | completedAccount | stop =>
    cases reply <;> exact kept.alike rfl rfl rfl rfl rfl
  | history id named =>
    cases reply with
    | error error => exact kept.alike rfl rfl rfl rfl rfl
    | ok conversation =>
      obtain ⟨reads, same⟩ := called.outcome.history_read
      obtain ⟨record, known, thread, account, generation, recalls⟩ :=
        (recounts.memory _ called.running).told.read archivable reads
      refine ⟨?_, kept.connected, kept.answered, kept.sent, kept.completes⟩
      rintro _ _ _ ⟨⟩
      refine ⟨_, record, called.memory, ?_, thread, account, generation, ?_⟩
      · rw [same]
        exact known
      · rw [same]
        exact recalls.mono Offered.more
  | begin fingerprint turn =>
    cases reply with
    | error error => exact kept.alike rfl rfl rfl rfl rfl
    | ok value => exact kept.unsent rfl (.inl rfl) (by rintro _ _ ⟨⟩) fun _ => idle allowed.1
  | saveHistory id value =>
    cases reply with
    | error error => exact kept.alike rfl rfl rfl rfl rfl
    | ok value => exact kept.unsent rfl (.inl rfl) (by rintro _ _ ⟨⟩) fun _ => idle allowed.1
  | interrupt | rejectConnectionLimit | fail =>
    cases reply <;>
      exact kept.unsent rfl (.inl rfl) (by rintro _ _ ⟨⟩) fun active => absurd rfl active
  | cancel fingerprint turn =>
    have phase : (stage.next host (.ledger (.cancel fingerprint turn))
        reply).phase = stage.phase.after (.cancel fingerprint turn) reply :=
      rfl
    rcases allowed with held | ⟨response, committed⟩
    · have released : (stage.next host
          (.ledger (.cancel fingerprint turn)) reply).phase = .released := by
        rcases held with held | held <;>
          rw [phase, held] <;>
          rfl
      refine kept.unsent rfl (.inl rfl) ?_ fun active => absurd released active
      rw [released]
      rintro _ _ ⟨⟩
    · refine kept.alike ?_ rfl rfl rfl rfl
      rw [phase, committed]
      rfl
  | complete fingerprint turn response value =>
    cases reply with
    | error error =>
      exact kept.unsent rfl (.inl rfl) (by rintro _ _ ⟨⟩) fun active => absurd rfl active
    | ok result =>
      obtain ⟨submitted, _, _, _, _, _, last, -, -, -, -, -, final, completed⟩ := allowed
      obtain ⟨-, -, records⟩ := called.outcome.complete_saved
      refine kept.unsent rfl (.inl rfl) (by rintro _ _ ⟨⟩) fun _ => ?_
      rw [submitted]
      refine ⟨by rintro ⟨⟩, ?_⟩
      rintro id ⟨-, event, received, completes⟩
      rw [final] at received
      cases received
      rw [completed] at completes
      cases completes
      exact ⟨_, called.memory, records⟩
  | finish fingerprint turn => cases reply <;> exact kept.unconnected rfl allowed.2

end Stage.Continues

theorem RouterRequest.previousResponse_some
    {body : Object}
    {id : String}
    (continued : previousResponse body = .ok (some id)) :
    body.get "previous_response_id" = some (.string id) ∧
      id.isEmpty = false := by
  unfold previousResponse at continued
  split at continued
  · cases continued
  · cases read : RouterJSON.text body "previous_response_id" with
    | error error =>
      rw [read] at continued
      cases continued
    | ok found =>
      rw [read] at continued
      cases continued
      obtain ⟨named, filled⟩ := RouterJSON.text_eq_ok.mp read
      obtain ⟨value, known, text⟩ := Option.bind_eq_some_iff.mp named
      refine ⟨?_, filled⟩
      cases value with
      | string found =>
        cases text
        exact known
      | _ => cases text

theorem Service.base_whole
    (service : Service)
    (generation : String)
    (body : Object)
    (input : List Object) :
    service.base generation ((body.removeValue "previous_response_id").set
        "input" (.objects input)) = some [] := by
  have absent : ((body.removeValue "previous_response_id").set "input"
      (.objects input)).get "previous_response_id" = none := by
    rw [Object.get_set_of_ne _ _ (by decide), Object.get_removeValue_self]
  simp only [base, continued, absent, Option.bind_none]

section Payload

variable {trace : List (Moment router Point World)}
variable {world : World} {stage : Stage} {state : LedgerState}
variable {body : Object} {thread : String}
variable {input : List Object} {previous : Option History}

theorem Stage.Continues.payload
    (continues : stage.Continues host trace world)
    (recounts : world.Recounts host trace)
    (archivable : Archivable host (Offered trace))
    (running : world.memory = some state)
    (expands : Expands body thread stage.reading input previous)
    (connection : RouterUpstream) :
    ∃ delta continued base context sent,
      RouterJSON.array body "input" = .ok delta ∧
      previousResponse body = .ok continued ∧
      Grounded host (Offered trace) state continued thread base ∧
      world.service.base connection.generation (payload body input
        previous connection.accountID connection.generation) = some context ∧
      ((payload body input previous connection.accountID
          connection.generation).get "input").bind Json.asObjects = some sent ∧
      context ++ sent = base ++ delta ∧ ∀ value,
      (payload body input previous connection.accountID
        connection.generation).get "previous_response_id" = some value →
      ∃ id, value = .string id ∧ Produced host trace connection id := by
  have whole : ∀ value, ((body.removeValue "previous_response_id").set "input"
      (.objects input)).get "previous_response_id" = some value →
        ∃ id, value = .string id ∧ Produced host trace connection id := by
    intro value present
    rw [Object.get_set_of_ne _ _ (by decide), Object.get_removeValue_self] at present
    cases present
  obtain ⟨delta, reads, ⟨starts, rfl, rfl⟩
    | ⟨id, history, continued, read, rfl, rfl⟩⟩ := expands
  · refine ⟨input, none, [], [], input, reads, starts, .inl ⟨rfl, rfl⟩, ?_⟩
    rw [payload, if_pos (.inl (by rintro ⟨⟩))]
    refine ⟨Service.base_whole _ _ _ _, ?_, rfl, whole⟩
    rw [Object.get_set_self, Option.bind_some, Json.asObjects_objects]
  · obtain ⟨state', record, running', known, rfl, account, generation,
      recalls⟩ := continues.reading read
    rw [running] at running'
    cases running'
    obtain ⟨names, filled⟩ := previousResponse_some continued
    have grounded : Grounded host (Offered trace) state (some id)
        record.thread (history.input ++ history.output) :=
      .inr ⟨id, rfl, filled, recalls⟩
    by_cases elsewhere : (some history).bind History.account ≠ some connection.accountID ∨
          (some history).bind History.generation ≠ some connection.generation
    · refine ⟨delta, some id, _, [], history.input ++ history.output ++ delta,
        reads, continued, grounded, ?_⟩
      rw [payload, if_pos elsewhere]
      refine ⟨Service.base_whole _ _ _ _, ?_, rfl, whole⟩
      rw [Object.get_set_self, Option.bind_some, Json.asObjects_objects]
    · -- The connection produced the response that the request continues.
      refine ⟨delta, some id, _, history.input ++ history.output, delta, reads,
        continued, grounded, ?_⟩
      rw [payload, if_neg elsewhere]
      rw [not_or, not_not, not_not] at elsewhere
      obtain ⟨sameAccount, sameGeneration⟩ := elsewhere
      obtain ⟨owner, context, owned, produced, recalled, mirrored⟩ :=
        (recounts.memory state running).mirrors known (generation.symm.trans sameGeneration)
      obtain rfl : owner = connection.accountID := by
        have same := owned.symm.trans (account.symm.trans sameAccount)
        cases same
        rfl
      obtain rfl := recalled.unique archivable recalls
      refine ⟨?_, RouterJSON.array_eq_ok.mp reads, rfl, ?_⟩
      · simp only [Service.base, Service.continued, names, Option.bind_some, Json.asString]
        exact mirrored
      · intro value present
        rw [names] at present
        cases present
        exact ⟨id, rfl, produced⟩

end Payload

namespace Stage.Continues

variable {trace later : List (Moment router Point World)}
variable {before after : World} {stage : Stage} {thread : Nat}

variable {connection : RouterUpstream} {fingerprint turn : String}

variable (continues : stage.Continues host trace before)
include continues

theorem submitted
    {payload : Object}
    {reply : Except RouterError Unit}
    (recounts : before.Recounts host trace)
    (archivable : Archivable host (Offered trace))
    (sound : stage.Sound before)
    (allowed : stage.Allows host (.send connection payload fingerprint turn))
    (executed : World.exec host thread before
      (.send connection payload fingerprint turn) reply after) :
    (stage.next host (.send connection payload fingerprint turn)
      reply).Continues host (trace ++ later) after := by
  obtain ⟨begun, body, task, account, input, previous, request, binding,
    connects, rfl, expands, rfl⟩ := allowed
  obtain ⟨state, running, bound⟩ := sound.binding binding
  obtain ⟨delta, continued, base, context, sent, reads, names, grounded, known,
      input, same, -⟩ :=
    continues.payload recounts archivable running expands connection
  have onward := exec_onward executed
  cases executed
  refine ⟨continues.reading_onward onward, continues.connected, ?_, ?_, ?_⟩
  · -- Sending completes no response, and none was awaited before.
    intro other id context connects _ responds
    rw [submit_contexts] at responds
    have active : stage.phase ≠ .released := by
      rw [begun]
      rintro ⟨⟩
    rcases continues.answered connects active responds with
      knows | ⟨⟨_, _, submitted⟩, -⟩
    · exact .inl knows
    · rw [begun] at submitted
      cases submitted
  · rintro _ _ other ⟨⟩ connects'
    cases connects.symm.trans connects'
    refine ⟨state, body, task, delta, continued, base, running, request, reads,
      names, grounded.mono Offered.more, ?_, bound⟩
    rw [submit_current known input, same]
    exact congrArg some (append_nil _).symm
  · rintro _ _ _ _ _ - - ⟨⟩

theorem emitted
    {event : Object}
    (connects : stage.connection = some connection)
    (submitted : stage.phase = .sent fingerprint turn)
    (unanswered : ∀ event ∈ stage.received, completedResponse event = none)
    (produced : ∀ id, completedResponse event = some id →
      Produced host (trace ++ later) connection id) :
    { stage with received := stage.received ++ [event] }.Continues host
      (trace ++ later) { before with
        service := before.service.emit connection.generation event } := by
  obtain ⟨state, body, task, delta, previous, base, running, request, reads,
    names, grounded, current, bound⟩ := continues.sent submitted connects
  -- The worker awaits no response yet, so those of its connection are recorded.
  have recorded : ∀ {id context}, before.service.contexts.lookup (connection.generation, id) =
        some context → before.Knows id := by
    intro id context responds
    have active : stage.phase ≠ .released := by
      rw [submitted]
      rintro ⟨⟩
    rcases continues.answered connects active responds with
      knows | ⟨-, last, final, completes⟩
    · exact knows
    · rw [unanswered last (mem_of_getLast? final)] at completes
      cases completes
  have items :
      ({ stage with received := stage.received ++ [event] } : Stage).items =
        stage.items ++ (emittedItem event).toList := by
    simp only [Stage.items, filterMap_append]
    cases emits : emittedItem event <;> simp [emits]
  have onward : before.Onward { before with
      service := before.service.emit connection.generation event } :=
    .quiet rfl (fun _ member => member) (emit_remembers event)
  refine ⟨continues.reading_onward onward, continues.connected, ?_, ?_, ?_⟩
  · intro other id context connects' _ responds
    cases connects.symm.trans connects'
    rcases emit_cases event with ⟨same, -⟩ | ⟨_, _, -, -, same⟩ |
      ⟨_, completed, -, -, completes, -, same⟩
    · rw [same] at responds
      exact .inl (recorded responds)
    · rw [same] at responds
      exact .inl (recorded responds)
    · by_cases latest : id = completed
      · subst latest
        exact .inr ⟨⟨_, _, submitted⟩, event, getLast?_concat, completes⟩
      · rw [same] at responds
        have older : (connection.generation, id) ≠ (connection.generation, completed) := by
          rintro ⟨⟩
          exact latest rfl
        exact .inl (recorded ((AList.lookup_insert_ne older).symm.trans responds))
  · intro _ _ other submitted' connects'
    cases connects.symm.trans connects'
    cases submitted.symm.trans submitted'
    refine ⟨state, body, task, delta, previous, base, running, request, reads,
      names, grounded.mono Offered.more, ?_, bound⟩
    rw [items]
    rcases emit_cases event with
      ⟨same, silent | ⟨emits, -⟩⟩ | ⟨context, item, known, emits, same⟩ |
      ⟨_, _, -, emits, -, -, same⟩
    · rw [current] at silent
      cases silent
    · rw [same, emits, current, Option.toList_none, append_nil]
    · rw [current] at known
      cases known
      rw [same, emits, Option.toList_some, ← append_assoc]
      exact AList.lookup_insert _
    · rw [same, emits, Option.toList_none, append_nil]
      exact current
  · intro _ _ other last id _ connects' final completes
    cases connects.symm.trans connects'
    rw [getLast?_concat] at final
    cases final
    refine ⟨produced id completes, ?_⟩
    rcases emit_cases event with
      ⟨-, silent | ⟨-, known⟩⟩ | ⟨_, _, -, emits, -⟩ |
      ⟨context, _, known, -, completed, -, same⟩
    · rw [current] at silent
      cases silent
    · obtain ⟨context, known⟩ := Option.isSome_iff_exists.mp (known id completes)
      exact .inl (recorded known)
    · rw [completedResponse_of_emittedItem emits] at completes
      cases completes
    · rw [completed] at completes
      cases completes
      rw [same]
      exact .inr ((AList.lookup_insert _).trans known.symm)

theorem received
    {reply : Except RouterError Data}
    (allowed : stage.Allows host (.receive connection))
    (executed :
      World.exec host thread before (.receive connection) reply after) :
    (stage.next host (.receive connection) reply).Continues host
      (trace ++ [⟨.performed thread (.receive connection) reply, after⟩])
      after := by
  obtain ⟨connects, ⟨fingerprint, turn, submitted⟩, unanswered⟩ := allowed
  rcases exec_receive executed with
    ⟨rawEvent, event, rfl, parsed, rfl⟩ | ⟨unreadable, rfl⟩
  · refine (continues.emitted connects submitted unanswered
      fun id => .now parsed).alike ?_ ?_ ?_ ?_ ?_ <;>
      simp only [Stage.next, Stage.learn, parsed]
  · have kept : stage.Continues host
        (trace ++ [⟨.performed thread (.receive connection) reply, after⟩])
        after :=
      continues.onward (exec_onward executed) fun _ _ => .refl _ _
    cases reply with
    | error error => exact kept.alike rfl rfl rfl rfl rfl
    | ok rawEvent =>
      cases parsed : RouterJSON.object host rawEvent with
      | ok event => exact absurd parsed (unreadable rawEvent event rfl)
      | error error =>
        refine kept.alike ?_ ?_ ?_ ?_ ?_ <;>
          simp only [Stage.next, Stage.learn, parsed]

theorem connects
    {transport : Transport}
    {account : RouterAccountSnapshot}
    {headers : Headers}
    {reply : RouterUpstream}
    (recounts : before.Recounts host trace)
    (allowed : stage.Allows host (.connect transport account headers))
    (executed : World.exec host thread before
      (.connect transport account headers) reply after) :
    (stage.next host (.connect transport account headers) reply).Continues
      host (trace ++ later) after := by
  have onward := exec_onward executed
  obtain ⟨-, fresh, rfl⟩ := executed
  have idle : ∀ fingerprint turn, stage.phase ≠ .sent fingerprint turn := by
    rw [show stage.phase = .idle from allowed]
    rintro _ _ ⟨⟩
  refine ⟨continues.reading_onward onward, ?_, ?_,
    fun submitted => absurd submitted (idle _ _),
    fun submitted => absurd submitted (idle _ _)⟩
  · rintro _ ⟨⟩
    exact mem_cons_self
  · -- No response can belong to a connection that is new.
    rintro _ id context ⟨⟩ _ responds
    exact absurd (recounts.named responds) fresh

theorem performed
    {effect : Effect}
    {reply : effect.Reply}
    (recounts : before.Recounts host trace)
    (archivable : Archivable host (Offered trace))
    (sound : stage.Sound before)
    (allowed : stage.Allows host effect)
    (executed : World.exec host thread before effect reply after) :
    (stage.next host effect reply).Continues host
      (trace ++ [⟨.performed thread effect reply, after⟩]) after := by
  have kept : effect.uses = none → stage.Continues host
      (trace ++ [⟨.performed thread effect reply, after⟩]) after := by
    intro unused
    refine continues.onward (exec_onward executed) fun connection _ => ?_
    refine exec_same executed fun other used => ?_
    rw [unused] at used
    cases used
  cases effect with
  | ledger call => exact continues.called recounts archivable allowed executed
  | send => exact continues.submitted recounts archivable sound allowed executed
  | receive => exact continues.received allowed executed
  | connect => exact continues.connects recounts allowed executed
  | search account body headers fingerprint turn =>
    exact (kept rfl).unconnected rfl allowed.2.2
  | nextMessage =>
    cases reply with
    | none => exact (kept rfl).alike rfl rfl rfl rfl rfl
    | some raw =>
      refine (kept rfl).unsent rfl (.inr rfl) (by rintro _ _ ⟨⟩) ?_
      -- A worker that may take a request awaits no response.
      have free : stage.phase.free = true := allowed
      refine fun _ => ⟨?_, ?_⟩
      · rintro released
        rw [released] at free
        cases free
      · rintro id ⟨⟨_, _, submitted⟩, -⟩
        rw [submitted] at free
        cases free
  | _ => exact (kept rfl).alike rfl rfl rfl rfl rfl

end Stage.Continues

theorem RouterRequest.history_eq
    {body : Object}
    {thread : String}
    {output : List Object}
    {value : History}
    (made : history body thread output = .ok value) :
    ∃ input previous, RouterJSON.array body "input" = .ok input ∧
      previousResponse body = .ok previous ∧
      value = ⟨thread, previous, input, output, none, none⟩ := by
  obtain ⟨input, reads, made⟩ := bind_eq_ok.mp made
  obtain ⟨previous, continued, made⟩ := bind_eq_ok.mp made
  cases made
  exact ⟨input, previous, reads, continued, rfl⟩

theorem Stage.Continues.fits
    {trace later : List (Moment router Point World)}
    {world : World}
    {stage : Stage}
    {state : LedgerState}
    {call : LedgerCall}
    {id : String}
    {value : History}
    (continues : stage.Continues host trace world)
    (sound : stage.Sound world)
    (running : world.memory = some state)
    (allowed : stage.AllowsCall host call)
    (names : call.response = some (id, value)) :
    Fits host (trace ++ later) world.service state id value := by
  cases call with
  | saveHistory =>
    cases names
    obtain ⟨-, body, thread, input, previous, -, -, expands, made⟩ := allowed
    obtain ⟨delta, continued, reads, follows, rfl⟩ := RouterRequest.history_eq made
    obtain ⟨-, -, ⟨starts, -⟩ | ⟨named, history, follows', read, -⟩⟩ := expands
    · cases follows.symm.trans starts
      exact ⟨[], .inl ⟨rfl, rfl⟩, by rintro _ _ ⟨⟩⟩
    · cases follows.symm.trans follows'
      obtain ⟨-, filled⟩ := RouterRequest.previousResponse_some follows
      obtain ⟨state', record, running', -, -, -, -, recalls⟩ := continues.reading read
      cases running.symm.trans running'
      exact ⟨_, .inr ⟨named, rfl, filled, recalls.mono Offered.more⟩, by rintro _ _ ⟨⟩⟩
  | complete fingerprint turn =>
    cases names
    obtain ⟨submitted, body, thread, account, connection, delta, last,
      request, binding, connects, made, rfl, final, completed⟩ := allowed
    obtain ⟨input, continued, reads, follows, rfl⟩ := RouterRequest.history_eq made
    obtain ⟨state', body', thread', delta, previous, base, running', request',
      reads', follows', grounded, current, bound⟩ :=
      continues.sent submitted connects
    cases running.symm.trans running'
    cases request.symm.trans request'
    cases reads.symm.trans reads'
    cases follows.symm.trans follows'
    refine ⟨base, grounded.mono Offered.more, ?_⟩
    rintro fresh _ ⟨⟩
    obtain ⟨produced, recorded⟩ := continues.completes submitted connects final completed
    -- The turn is bound to the account of the connection.
    obtain ⟨state', running', bound'⟩ := sound.binding binding
    cases running.symm.trans running'
    cases bound.symm.trans bound'
    refine ⟨_, rfl, produced.more, ?_⟩
    rcases recorded with ⟨state', running', records⟩ | context
    · cases running.symm.trans running'
      rw [LedgerState.Records, fresh] at records
      cases records
    · rw [context, current, append_assoc]
      rfl
  | _ => cases names

/-- The ledger and the workers are a good account of the service. -/
structure Workers.Recounts (trace : List (Moment router Point World))
    (workers : Workers host) : Prop where
  delivers : workers.Delivers
  world : workers.world.Recounts host trace
  stages : ∀ {thread stage}, workers.stages thread = some stage →
    stage.Continues host trace workers.world
  apart : ∀ {thread other stage another mine theirs}, workers.stages thread = some stage →
    workers.stages other = some another →
    stage.connection = some mine → another.connection = some theirs →
    mine.generation = theirs.generation → thread = other

/-- An effect opens a connection. -/
def Effect.connects : Effect → Bool
  | .connect _ _ _ => true
  | _ => false

theorem Stage.connection_next
    (stage : Stage)
    {effect : Effect}
    (reply : effect.Reply)
    (other : effect.connects = false) :
    (stage.next host effect reply).connection = stage.connection := by
  cases effect with
  | connect => cases other
  | ledger call =>
    cases call with
    | bound key => rcases reply with error | (_ | found) <;> rfl
    | _ => cases reply <;> rfl
  | nextMessage => cases reply <;> rfl
  | receive connection =>
    cases reply with
    | error error => rfl
    | ok rawEvent =>
      cases parsed : RouterJSON.object host rawEvent <;>
        simp only [Stage.next, Stage.learn, parsed]
  | _ => rfl

namespace Workers.Recounts

variable {trace : List (Moment router Point World)}
variable {workers : Workers host} {world : World}
variable {thread : Nat} {stage : Stage} {effect : Effect}
variable {reply : effect.Reply}

theorem world_next
    (recounts : workers.Recounts trace)
    (known : workers.stages thread = some stage)
    (allowed : stage.Allows host effect)
    (executed : World.exec host thread workers.world effect reply world) :
    world.Recounts host
      (trace ++ [⟨.performed thread effect reply, world⟩]) := by
  have continues := recounts.stages known
  have onward := exec_onward executed
  cases effect with
  | ledger call =>
    obtain ⟨called⟩ := exec_ledger thread executed
    exact recounts.world.called called (fun _ _ => .now)
      fun id value => continues.fits (recounts.delivers.sound known) called.running allowed
  | send connection payload =>
    obtain ⟨memory, disk⟩ := exec_other rfl executed
    refine recounts.world.quiet memory disk onward.service ?_
    cases executed
    simp only [submit_contexts]
    exact recounts.world.named
  | receive connection =>
    obtain ⟨memory, disk⟩ := exec_other rfl executed
    refine recounts.world.quiet memory disk onward.service ?_
    rcases exec_receive executed with ⟨_, event, -, -, rfl⟩ | ⟨-, rfl⟩
    · intro generation id context responds
      by_cases mine : connection.generation = generation
      · subst mine
        exact continues.connected allowed.1
      · rw [(emit_same event mine).contexts] at responds
        exact recounts.world.named responds
    · exact recounts.world.named
  | _ =>
    obtain ⟨memory, disk⟩ := exec_other rfl executed
    refine recounts.world.quiet memory disk onward.service ?_
    rw [exec_unused rfl executed]
    exact fun responds => onward.generations _ (recounts.world.named responds)

theorem others
    {other : Nat}
    {another : Stage}
    (recounts : workers.Recounts trace)
    (known : workers.stages thread = some stage)
    (allowed : stage.Allows host effect)
    (executed : World.exec host thread workers.world effect reply world)
    (differs : other ≠ thread)
    (present : workers.stages other = some another) :
    another.Continues host
      (trace ++ [⟨.performed thread effect reply, world⟩]) world := by
  refine (recounts.stages present).onward (exec_onward executed) ?_
  intro theirs connected
  refine exec_same executed ?_
  intro mine uses same
  have connects : stage.connection = some mine := by
    cases effect with
    | send =>
      cases uses
      obtain ⟨-, _, _, _, _, _, -, -, connects, -⟩ := allowed
      exact connects
    | receive =>
      cases uses
      exact allowed.1
    | _ => cases uses
  exact differs (recounts.apart known present connects connected same).symm

theorem apart_next
    {other : Nat}
    {another : Stage}
    {mine theirs : RouterUpstream}
    (recounts : workers.Recounts trace)
    (known : workers.stages thread = some stage)
    (executed : World.exec host thread workers.world effect reply world)
    (present : workers.stages other = some another)
    (connects : (stage.next host effect reply).connection = some mine)
    (connected : another.connection = some theirs)
    (same : mine.generation = theirs.generation) :
    thread = other := by
  cases made : effect.connects with
  | false =>
    rw [stage.connection_next reply made] at connects
    exact recounts.apart known present connects connected same
  | true =>
    cases effect with
    | connect transport account headers =>
      cases connects
      obtain ⟨-, fresh, -⟩ := executed
      have member := (recounts.stages present).connected connected
      rw [← same] at member
      exact absurd member fresh
    | _ => cases made

theorem step
    {after : Workers host}
    {event : Event router Point}
    (recounts : workers.Recounts trace)
    (archivable : Archivable host (Offered trace))
    (taken : workers.Step event after) :
    after.Recounts (trace ++ [⟨event, after.world⟩]) := by
  have delivers := recounts.delivers.step taken
  have steady : workers.world.Onward workers.world :=
    .quiet rfl (fun _ member => member) (fun known => known)
  have quiet : workers.world.Recounts host (trace ++ [⟨event, workers.world⟩]) :=
    recounts.world.quiet rfl rfl (fun known => known) recounts.world.named
  cases taken with
  | spawn started point absent =>
    refine ⟨delivers, quiet, ?_, ?_⟩
    · intro other stage present
      rcases update_cases present with ⟨-, ⟨⟩⟩ | ⟨-, present⟩
      · exact Stage.continues_start _ _ point
      · exact (recounts.stages present).onward steady fun _ _ => .refl _ _
    · intro first second stage another mine theirs one two connects connected
      have started : point.start.connection = none := by
        cases point <;> rfl
      rcases update_cases one with ⟨-, ⟨⟩⟩ | ⟨-, one⟩
      · rw [started] at connects
        cases connects
      · rcases update_cases two with ⟨-, ⟨⟩⟩ | ⟨-, two⟩
        · rw [started] at connected
          cases connected
        · exact recounts.apart one two connects connected
  | perform actor known allowed _ executed =>
    refine ⟨delivers, recounts.world_next known allowed executed, ?_, ?_⟩
    · intro other stage present
      rcases update_cases present with ⟨-, ⟨⟩⟩ | ⟨differs, present⟩
      · exact (recounts.stages known).performed recounts.world archivable
          (recounts.delivers.sound known) allowed executed
      · exact recounts.others known allowed executed differs present
    · intro first second stage another mine theirs one two connects connected same
      rcases update_cases one with ⟨rfl, ⟨⟩⟩ | ⟨-, oneBefore⟩ <;>
        rcases update_cases two with ⟨rfl, ⟨⟩⟩ | ⟨-, twoBefore⟩
      · rfl
      · exact recounts.apart_next known executed twoBefore connects connected same
      · exact (recounts.apart_next known executed oneBefore connected connects same.symm).symm
      · exact recounts.apart oneBefore twoBefore connects connected same
  | resume =>
    exact ⟨delivers, quiet, fun present =>
      (recounts.stages present).onward steady fun _ _ => .refl _ _,
      recounts.apart⟩
  | finish ended =>
    have remains : ∀ {other stage},
      Function.update workers.stages ended none other = some stage →
        workers.stages other = some stage := by
      intro other stage present
      rcases update_cases present with ⟨-, ⟨⟩⟩ | ⟨-, present⟩
      exact present
    exact ⟨delivers, quiet, fun present =>
      (recounts.stages (remains present)).onward steady fun _ _ => .refl _ _,
      fun one two => recounts.apart (remains one) (remains two)⟩
  | drift drifts =>
    obtain ⟨stopped, rfl⟩ := drifts
    refine ⟨delivers, recounts.world.quiet rfl rfl (fun known => known)
      recounts.world.named, ?_, recounts.apart⟩
    intro other stage present
    exact (recounts.stages present).onward
      (.quiet rfl (fun _ member => member) fun known => known)
      fun _ _ => .refl _ _
  | restart resets =>
    refine ⟨delivers, recounts.world.reset resets, ?_, ?_⟩
    · rintro _ _ ⟨⟩
    · rintro _ _ _ _ _ _ ⟨⟩

end Workers.Recounts

theorem Workers.Run.recounts
    {trace : List (Moment router Point World)}
    {workers : Workers host}
    (run : Workers.Run host trace workers)
    (archivable : Archivable host (Offered trace)) :
    workers.Recounts trace := by
  refine Protocol.Run.record (fun trace workers => Archivable host (Offered trace) →
      Workers.Recounts trace workers) ?_ ?_ run archivable
  · intro _
    refine ⟨Workers.Run.delivers .start, .start, ?_, ?_⟩
    · rintro _ _ ⟨⟩
    · rintro _ _ _ _ _ _ ⟨⟩
  · intro trace before event after recounts taken archivable
    have earlier : Archivable host (Offered trace) := archivable.mono Offered.more
    exact (recounts earlier).step earlier taken

variable (host) in
/-- The conversation of a response has a size that the ledger returns. -/
def LedgerState.WithinLimits (kept : History → Prop) (state : LedgerState)
    (thread id : String) : Prop :=
  ∀ responses, Conversation host state.history thread id responses →
    (∀ value ∈ responses, kept value) →
    responses.length ≤ maximumHistoryRecords ∧
      byteCount host (responses.flatMap History.messages) ≤ maximumHistoryBytes

/-- Exactly the conversations of such a size are returned. -/
theorem reconstruct_isOk
    {responses : List History}
    (filled : responses ≠ []) :
    (reconstruct host responses).isOk = true ↔
      responses.length ≤ maximumHistoryRecords ∧ byteCount host
        (responses.flatMap History.messages) ≤ maximumHistoryBytes := by
  simp only [reconstruct, getLast?_eq_getLast_of_ne_nil filled]
  split
  · rename_i long
    simp [Except.isOk, Except.toBool, long]
  · rename_i short
    split
    · rename_i large
      simp [Except.isOk, Except.toBool, large]
    · rename_i small
      simp [Except.isOk, Except.toBool, not_lt.mp short, not_lt.mp small]

theorem Told.within_limits
    {kept : History → Prop}
    {ledger : Ledger}
    {id : String}
    {record : HistoryRecord}
    (told : Told host kept ledger.state ledger.disk.messages)
    (archivable : Archivable host kept)
    (known : ledger.state.history.lookup id = some record) :
    (call (history host id record.thread) ledger []).1.isOk = true ↔
      ledger.state.WithinLimits host kept record.thread id := by
  obtain ⟨responses, whole, filed⟩ := told.responses known
  have filled : responses ≠ [] := by
    obtain ⟨earlier, value, rfl, -⟩ := whole.last
    simp
  have kept' : ∀ value ∈ responses, kept value := fun value member => (filed value member).1
  rw [told.history_eq archivable whole (fun present => present) filed, reconstruct_isOk filled]
  constructor
  · intro limits others another known'
    have records := whole.records_unique another
    have lengths := congrArg length records
    rw [length_map, length_map] at lengths
    rw [← lengths, ← archivable.same_responses kept' known' records]
    exact limits
  · intro limits
    exact limits responses whole kept'

theorem Recounted.returns
    {trace : List (Moment router Point World)}
    {ledger : Ledger}
    {service : Service}
    {id generation : String}
    {record : HistoryRecord}
    (recounted : Recounted host trace ledger.disk.messages service ledger.state)
    (archivable : Archivable host (Offered trace))
    (known : ledger.state.history.lookup id = some record)
    (made : record.generation = some generation)
    (limits : ledger.state.WithinLimits host (Offered trace) record.thread id) :
    ∃ conversation,
      (call (history host id record.thread) ledger []).1 = .ok conversation ∧
      service.contexts.lookup (generation,
        id) = some (conversation.input ++ conversation.output) := by
  have returns := (recounted.told.within_limits archivable known).mpr limits
  cases reads : (call (history host id record.thread) ledger []).1 with
  | error error =>
    rw [reads] at returns
    cases returns
  | ok conversation =>
    obtain ⟨-, -, -, -, -, recalls⟩ := recounted.told.read archivable reads
    obtain ⟨account, context, -, -, recalled, mirrored⟩ := recounted.mirrors known made
    rw [recalled.unique archivable recalls] at mirrored
    exact ⟨conversation, rfl, mirrored⟩

theorem Workers.Run.commits
    {earlier later : List (Moment router Point World)}
    {moment : Moment router Point World}
    {workers : Workers host}
    {thread : Nat}
    {fingerprint turn id : String}
    {value : History}
    (run : Workers.Run host (earlier ++ moment :: later) workers)
    (committed : moment.event = .performed thread
        (.ledger (.complete fingerprint turn id value)) (.ok ())) :
    (∃ generation, value.generation = some generation) ∧
      ∃ saved, workers.world.disk.ledger = some saved ∧
        saved.history.lookup id = some (value.stored host) := by
  obtain ⟨before, after, ran, step, -, onward⟩ := run.onward
  rw [committed] at step
  cases step with
  | perform _ known allowed _ executed =>
    obtain ⟨called⟩ := exec_ledger thread executed
    obtain ⟨-, _, _, _, connection, _, _, -, -, -, -, same, -⟩ := allowed
    refine ⟨⟨connection.generation, by rw [same]⟩, ?_⟩
    refine (onward (fun workers => ∃ saved, workers.world.disk.ledger = some saved ∧
        saved.history.lookup id = some (value.stored host)) ?_ ?_).1
    · obtain ⟨saved, file, stored⟩ := called.outcome.stores rfl
      exact ⟨saved, (congrArg Disk.ledger called.disk).trans file, stored⟩
    · rintro _ before _ after run - step ⟨saved, file, stored⟩
      obtain ⟨later, file, grown⟩ :=
        ((Workers.Run.delivers run).coherent.step step).1 saved file
      exact ⟨later, file, grown.history stored⟩

/-- A committed response has the same context at the service and in the ledger,
and a payload names a response only on the connection that produced it. -/
theorem conversation_survives_switches
    {trace : List (Moment router Point World)}
    {pool : Pool router Point World}
    (run : RouterRun host trace pool)
    (archivable : Archivable host (Offered trace)) :
    (∀ moment ∈ trace, ∀ thread fingerprint turn id value state,
      moment.event = .performed thread
        (.ledger (.complete fingerprint turn id value)) (.ok ()) →
      pool.world.memory = some state →
      state.WithinLimits host (Offered trace) value.thread id →
      ∃ generation conversation, value.generation = some generation ∧
        (call (history host id value.thread) ⟨state, pool.world.disk⟩ []).1 =
          .ok conversation ∧
        pool.world.service.contexts.lookup (generation, id) =
          some (conversation.input ++ conversation.output)) ∧
      ∀ earlier moment later thread connection payload fingerprint turn reply
        value, trace = earlier ++ moment :: later →
        moment.event =
          .performed thread (.send connection payload fingerprint turn) reply →
        payload.get "previous_response_id" = some value →
        ∃ id, value = .string id ∧ Produced host earlier connection id := by
  obtain ⟨workers, run, same⟩ := run.workers
  rw [← same]
  constructor
  · intro moment member thread fingerprint turn id value state committed running limits
    have recounts := Workers.Run.recounts run archivable
    obtain ⟨earlier, later, split⟩ := append_of_mem member
    obtain ⟨⟨generation, made⟩, saved, file, stored⟩ :=
      Workers.Run.commits (split ▸ run) committed
    obtain ⟨saved', file', grown⟩ := recounts.delivers.coherent state running
    cases file.symm.trans file'
    obtain ⟨conversation, returned, mirrored⟩ :=
      @Recounted.returns host trace ⟨state, workers.world.disk⟩ _ _ _ _
        (recounts.world.memory state running) archivable
        (grown.history stored) made limits
    exact ⟨generation, conversation, made, returned, mirrored⟩
  · rintro earlier moment later thread connection payload fingerprint turn reply
      value rfl submits names
    obtain ⟨before, after, run, step, -⟩ := run.at
    have archivable : Archivable host (Offered earlier) := archivable.mono Offered.more
    have recounts := Workers.Run.recounts run archivable
    rw [submits] at step
    cases step with
    | perform _ known allowed _ executed =>
      obtain ⟨-, body, task, account, input, previous, -, binding, -, rfl,
        expands, rfl⟩ := allowed
      obtain ⟨state, running, -⟩ := (recounts.delivers.sound known).binding binding
      obtain ⟨_, _, _, _, _, -, -, -, -, -, -, produced⟩ :=
        (recounts.stages known).payload recounts.world archivable running expands connection
      exact produced value names

namespace Rejoined

/-- A message with a text. -/
def message (text : String) : Object := [("text", .string text)]

/-- A request with a message. -/
def body : Object :=
  Rehearsal.body.filter (fun field => field.1 ≠ "input") ++
    [("input", .objects [message "follow-up"]), ("previous_response_id", .string "answer")]

/-- The event that completes the second response. -/
def completed : Object :=
  [("type", .string "response.completed"), ("response", .object [("id", .string "next")])]

/-- A platform that reads both requests and gives different messages and
requests different bytes. -/
def foundation : Foundation where
  jsonObject bytes :=
    if bytes = [3] then some (.object body)
    else if bytes = [4] then some (.object completed)
    else if bytes = [5] then some (.object (message "question"))
    else if bytes = [6] then some (.object (message "follow-up"))
    else Rehearsal.host.jsonObject bytes
  jsonData value :=
    match value with
    | .object [("text", .string "question")] => [5]
    | .object [("text", .string "follow-up")] => [6]
    | .object fields =>
      match (fields.lookup "request").bind fun request =>
          request.asObject.bind fun request =>
            (request.get "input").bind Json.asObjects with
      | some items => [.ofNat (6 + items.length)]
      | none => []
    | _ => []
  sha256 bytes := .replicate 32 (bytes.headD 0)
  parseDate := Rehearsal.host.parseDate
  formatDate := Rehearsal.host.formatDate
  segmentation := Rehearsal.host.segmentation

/-- Replies to the worker that gets the second request. -/
def replies : (effect : Effect) → effect.Reply
  | .nextMessage => some [3]
  | effect => Rehearsal.replies "second" (.ok [4]) effect

/-- The first request completes on one connection, the second on another. -/
def script : Script Point :=
  Rehearsal.prelude ++ Rehearsal.submission 1 "first" ++
    Script.go 1 3 (Rehearsal.replies "first" (.ok [1])) ++
    .spawn 2 (.route .webSocket [] {}) :: Script.go 2 14 replies

/-- The text of a message. -/
def text : Object → Option String
  | [(key, .string text)] => if key = "text" then some text else none
  | _ => none

theorem message_of_text
    {item : Object}
    {value : String}
    (reads : text item = some value) :
    item = message value := by
  unfold text at reads
  split at reads
  · split at reads
    · rename_i same
      cases reads
      rw [same]
      rfl
    · cases reads
  · cases reads

/-- The messages of the conversation. -/
def expected (item : Object) : Bool :=
  text item == some "question" || text item == some "follow-up"

theorem expected_cases
    {item : Object}
    (known : expected item = true) :
    item = message "question" ∨ item = message "follow-up" := by
  rcases Bool.or_eq_true_iff.mp known with same | same
  · exact .inl (message_of_text (eq_of_beq same))
  · exact .inr (message_of_text (eq_of_beq same))

/-- The messages of a response handed to the ledger are expected. -/
def offersExpected (moment : Moment router Point World) : Bool :=
  match moment.event with
  | .performed _ (.ledger call) _ =>
    call.response.all fun response => response.2.messages.all expected
  | _ => true

theorem archivable
    {trace : List (Moment router Point World)}
    (known : trace.all offersExpected = true) :
    Archivable foundation (Offered trace) := by
  have messages : ∀ {value item}, Offered trace value → item ∈ value.messages →
      item = message "question" ∨ item = message "follow-up" := by
    rintro value item ⟨moment, member, thread, call, reply, id, happened, names⟩ found
    have offered := all_eq_true.mp known moment member
    rw [offersExpected, happened] at offered
    simp only [names, Option.all_some] at offered
    exact expected_cases (all_eq_true.mp offered item found)
  constructor
  · intro value another item other offered offered' member member' same
    rcases messages offered member with rfl | rfl <;>
      rcases messages offered' member' with rfl | rfl
    · rfl
    · revert same
      decide +kernel
    · revert same
      decide +kernel
    · rfl
  · intro value item offered member
    rcases messages offered member with rfl | rfl <;> rfl

/-- The second response is committed. -/
def commits (moment : Moment router Point World) : Bool :=
  match moment.event with
  | .performed _ (.ledger (.complete _ _ id value)) (.ok _) =>
    id = "next" && value.thread = "task"
  | _ => false

theorem event_of_commits
    {moment : Moment router Point World}
    (committed : commits moment = true) :
    ∃ thread fingerprint turn value, moment.event = .performed thread
        (.ledger (.complete fingerprint turn "next" value)) (.ok ()) ∧
      value.thread = "task" := by
  unfold commits at committed
  split at committed
  · rename_i thread fingerprint turn id value _ happened
    obtain ⟨named, task⟩ := Bool.and_eq_true_iff.mp committed
    obtain rfl := of_decide_eq_true named
    exact ⟨thread, fingerprint, turn, value, happened, of_decide_eq_true task⟩
  · cases committed

/-- The history has both turns. -/
def returnsBoth (world : World) : Bool :=
  world.memory.any fun state =>
    (call (history foundation "next" "task") ⟨state, world.disk⟩
      []).1.toOption.any fun conversation =>
        (conversation.input ++ conversation.output).map text ==
          [some "question", some "follow-up"]

/-- Both messages are stored, the second response is committed and both
messages are returned. -/
def whole (trace : List (Moment router Point World)) : Bool :=
  trace.all offersExpected && trace.any commits && returnsBoth (worldAfter World.start trace)

theorem messages_of_texts
    {items : List Object}
    (same : items.map text = [some "question", some "follow-up"]) :
    items = [message "question", message "follow-up"] := by
  obtain ⟨first, _, rfl, one, same⟩ := map_eq_cons_iff.mp same
  obtain ⟨second, _, rfl, two, same⟩ := map_eq_cons_iff.mp same
  rw [map_eq_nil_iff.mp same, message_of_text one, message_of_text two]

end Rejoined

/-- After a reconnect the service has the whole conversation that the ledger
returns. -/
theorem rejoined_conversation_is_whole :
    ∃ trace pool state generation conversation,
      RouterRun Rejoined.foundation trace pool ∧
      Archivable Rejoined.foundation (Offered trace) ∧
      pool.world.memory = some state ∧
      (call (history Rejoined.foundation "next" "task")
        ⟨state, pool.world.disk⟩ []).1 = .ok conversation ∧
      conversation.input ++ conversation.output =
        [Rejoined.message "question", Rejoined.message "follow-up"] ∧
      pool.world.service.contexts.lookup (generation, "next") =
        some [Rejoined.message "question", Rejoined.message "follow-up"] := by
  have passes : ((Pool.idle World.start).simulate
      (execution Rejoined.foundation) (Point.code Rejoined.foundation)
      Rejoined.script).any (fun result => Rejoined.whole result.1) = true := by
    decide +kernel
  obtain ⟨trace, pool, run, whole⟩ :=
    Pool.rehearse (execution Rejoined.foundation) Rejoined.script Rejoined.whole passes
  obtain ⟨stored, returned⟩ := Bool.and_eq_true_iff.mp whole
  obtain ⟨stored, committed⟩ := Bool.and_eq_true_iff.mp stored
  have archivable := Rejoined.archivable stored
  obtain ⟨moment, member, commits⟩ := any_eq_true.mp committed
  have world : pool.world = worldAfter World.start trace := Pool.Run.world_eq run
  rw [← world, Rejoined.returnsBoth] at returned
  cases running : pool.world.memory with
  | none =>
    rw [running] at returned
    cases returned
  | some state =>
    simp only [running, Option.any_some] at returned
    cases reads : (call (history Rejoined.foundation "next" "task")
        ⟨state, pool.world.disk⟩ []).1 with
    | error error =>
      rw [reads] at returned
      cases returned
    | ok conversation =>
      rw [reads] at returned
      have both := Rejoined.messages_of_texts (eq_of_beq returned)
      obtain ⟨workers, ran, same⟩ := RouterRun.workers run
      have recounted := (Workers.Run.recounts ran archivable).world.memory state
        (same ▸ running)
      rw [same] at recounted
      obtain ⟨record, known, task⟩ := record_of_history reads
      have limits := (@Told.within_limits _ _ ⟨state, pool.world.disk⟩ _ _
        recounted.told archivable known).mp (by rw [task, reads]; rfl)
      obtain ⟨thread, fingerprint, turn, value, happened, named⟩ :=
        Rejoined.event_of_commits commits
      obtain ⟨generation, conversation', -, reads', mirrored⟩ :=
        (conversation_survives_switches run archivable).1 moment member
          thread fingerprint turn "next" value state happened running
          (by rw [named, ← task]; exact limits)
      rw [named, reads] at reads'
      cases reads'
      rw [both] at mirrored
      exact ⟨trace, pool, state, generation, conversation, run, archivable,
        running, reads, both, mirrored⟩

end Turnrail
