import Turnrail.Runtime.Compliance.Binding

/-!
# Serving requests follows the protocol

One round of a loop of `route` ends in a control point, or with an error that
the error cascade can answer.
-/

namespace Turnrail

open Interleaving Routine.Follows

variable {host : Foundation}

section Route

open RouterRuntime

/-- The worker of an Engine connection waits for a request. -/
def Serving (transport : Transport) (store : RouteState) (stage : Stage) :
    Prop :=
  stage.transport = transport ∧ stage.phase.free = true ∧ store.upstream = stage.connection

/-- What is known while responses are received. -/
structure Receiving (transport : Transport) (exchange : Exchange)
    (store : RouteState) (stage : Stage) : Prop where
  transport : stage.transport = transport
  sent : stage.phase = .sent exchange.fingerprint exchange.key
  currentTurn : store.currentTurn = some exchange.key
  submitted : store.submitted = some exchange.fingerprint
  upstream : store.upstream = some exchange.connection
  connection : stage.connection = some exchange.connection
  binding : stage.binding = some (exchange.key, exchange.accountID)
  request : stage.request = some (exchange.body, exchange.thread)
  output : exchange.output = stage.items
  unanswered : ∀ event ∈ stage.received, completedResponse event = none
  expands : ∃ input previous,
    Expands exchange.body exchange.thread stage.reading input previous

/-- An error after which the turn goes on. -/
def Excused (store : RouteState) (stage : Stage) : RouterError → Prop
  | .transport failure => tolerableTransport failure = true ∧
      (failure.cause = .localClose → stage.closing = true)
  | .service failure => tolerableService stage.transport failure = true ∧
      store.submitted.isSome = true
  | .plain _ => False

/-- What the error cascade relies on.  The error stops a current turn unless it
is excused or something was blamed. -/
structure Owed (transport : Transport) (error : RouterError) (excused : Prop)
    (store : RouteState) (stage : Stage) : Prop where
  transport : stage.transport = transport
  mayFail : store.currentTurn.isSome = true → stage.phase.mayFail = true
  holds : ∀ turn fingerprint, store.currentTurn = some turn →
    store.submitted = some fingerprint → (∀ plain, error ≠ .plain plain) →
    stage.phase.Holds fingerprint turn
  blamed : store.currentTurn.isSome = true → stage.blamed = true ∨ excused

/-- An error that may be answered. -/
abbrev Answerable (transport : Transport) (error : RouterError)
    (store : RouteState) (stage : Stage) : Prop :=
  Owed transport error (Excused store stage error) store stage

/-- How one round of a loop of `route` ends before the error cascade. -/
def Settles (transport : Transport) (outcome : Except RouterError Continuation)
    (store : RouteState) (stage : Stage) : Prop :=
  match outcome with
  | .ok .message => Serving transport store stage
  | .ok (.receive exchange) => Receiving transport exchange store stage
  | .ok .finished => True
  | .error error => Answerable transport error store stage

variable {transport : Transport} {store : RouteState} {stage : Stage} {error : RouterError}

theorem settles_of_no_turn
    (transported : stage.transport = transport)
    (absent : store.currentTurn = none) :
    Settles transport (.error error) store stage := by
  refine ⟨transported, ?_, ?_, ?_⟩ <;> simp [absent]

theorem answerable_plain
    {error : PlainError}
    (transported : stage.transport = transport)
    (mayFail : stage.phase.mayFail = true)
    (blamed : stage.blamed = true) :
    Answerable transport (.plain error) store stage := by
  refine ⟨transported, fun _ => mayFail, ?_, fun _ => .inl blamed⟩
  intro turn fingerprint _ _ differs
  exact absurd rfl (differs error)

variable {store : RouteState} {stage : Stage} {transport : Transport}

theorem expanded_follows
    (body : Object)
    (thread : String) :
    Obeys host (RouterRequest.expanded body thread) store stage
      fun outcome reached current =>
        reached = store ∧
          stage.Quiet { current with reading := stage.reading } ∧
          ∀ input previous, outcome = .ok (input, previous) →
            Expands body thread current.reading input previous := by
  have quiet : stage.Quiet { stage with reading := stage.reading } :=
    ⟨rfl, rfl, rfl, rfl, rfl, rfl⟩
  unfold RouterRequest.expanded
  refine obeys_check ?_ fun delta array => ?_
  · intro error _
    refine ⟨rfl, quiet, ?_⟩
    rintro _ _ ⟨⟩
  refine obeys_check ?_ fun previous continued => ?_
  · intro error _
    refine ⟨rfl, quiet, ?_⟩
    rintro _ _ ⟨⟩
  cases previous with
  | none =>
    refine ⟨rfl, quiet, ?_⟩
    rintro _ _ ⟨⟩
    exact ⟨_, array, .inl ⟨continued, rfl, rfl⟩⟩
  | some id =>
    refine obeys_ledger trivial ?_ ?_
    · intro error _
      refine ⟨rfl, ⟨rfl, rfl, rfl, rfl, rfl, rfl⟩, ?_⟩
      rintro _ _ ⟨⟩
    · intro history _
      refine ⟨rfl, ⟨rfl, rfl, rfl, rfl, rfl, rfl⟩, ?_⟩
      rintro _ _ ⟨⟩
      exact ⟨delta, array, .inr ⟨id, history, continued, rfl, rfl, rfl⟩⟩

/-- What a routine ends with that only looks for a connection. -/
structure Connects (store : RouteState) (stage : Stage)
    (outcome : Except RouterError α) (reached : RouteState)
    (current : Stage) : Prop where
  store : reached = store
  steady : stage.Steady current
  answered : ∀ error, outcome = .error error → current.blamed = true ∨
      ∃ failure, error = .transport failure ∧ tolerableTransport failure = true ∧
        (failure.cause = .localClose → current.closing = true)

variable {current : Stage} {body metadata : Object} {thread : String}
variable {input : List Object} {previous : Option History} {effect : Effect}
variable {reply : effect.Reply}

theorem connects_ok
    (steady : stage.Steady current)
    (value : α) :
    Connects store stage (.ok value) store current := by
  refine ⟨rfl, steady, ?_⟩
  rintro error ⟨⟩

theorem checked_answered
    (connection : RouterUpstream)
    (error : RouterError) :
    (stage.next host (.checkConnection connection)
        (.error error)).blamed = true ∨
      ∃ failure, error = .transport failure ∧
        tolerableTransport failure = true ∧
        (failure.cause = .localClose → (stage.next host
          (.checkConnection connection) (.error error)).closing = true) := by
  cases error with
  | plain | service => exact .inl (Bool.or_true _)
  | transport failure =>
    cases tolerated : tolerableTransport failure with
    | false =>
      left
      simp [Stage.next, blames, tolerated]
    | true =>
      refine .inr ⟨failure, rfl, tolerated, ?_⟩
      intro localClose
      simp [Stage.next, closes, closedLocally, localClose]

theorem connects_unchecked
    (steady : stage.Steady current)
    (connection : RouterUpstream)
    (error : RouterError) :
    Connects store stage (.error error : Except RouterError α) store
      (current.next host (.checkConnection connection) (.error error)) := by
  refine ⟨rfl, steady.trans (current.steady_next rfl _), ?_⟩
  rintro _ ⟨⟩
  exact checked_answered connection error

theorem reusableConnection_follows (account : RouterAccountSnapshot) :
    Obeys host (reusableConnection stage.connection account) store stage
      fun outcome reached current =>
        Connects store stage outcome reached current ∧
        current.connection = stage.connection ∧
        ∀ connection, outcome = .ok (some connection) →
          stage.connection = some connection ∧
          connection.accountID = account.accountID := by
  unfold reusableConnection
  cases known : stage.connection with
  | none =>
    refine ⟨connects_ok (.refl stage) none, known, ?_⟩
    rintro _ ⟨⟩
  | some connection =>
    dsimp only
    split
    · rename_i same
      refine obeys_perform trivial ?_
      rintro (error | ⟨⟩) -
      · have failed : Connects store stage
            (.error error : Except RouterError (Option RouterUpstream))
            store (stage.next host (.checkConnection connection) (.error error)) :=
          connects_unchecked (.refl stage) connection error
        cases error with
        | plain error =>
          refine ⟨failed, known, ?_⟩
          rintro _ ⟨⟩
        | service failure =>
          refine ⟨failed, known, ?_⟩
          rintro _ ⟨⟩
        | transport failure =>
          dsimp only
          split
          · refine obeys_perform trivial fun _ _ => ?_
            refine obeys_perform trivial fun _ _ => ?_
            refine ⟨connects_ok ?_ none, known, ?_⟩
            · exact ((stage.steady_next rfl _).trans (Stage.steady_next _ rfl _)).trans
                  (Stage.steady_next _ rfl _)
            · rintro _ ⟨⟩
          · refine ⟨failed, known, ?_⟩
            rintro _ ⟨⟩
      · refine ⟨connects_ok (stage.steady_next rfl _) _, known, ?_⟩
        rintro _ ⟨⟩
        exact ⟨rfl, same⟩
    · refine ⟨connects_ok (.refl stage) none, known, ?_⟩
      rintro _ ⟨⟩

theorem readyConnection_follows
    (account : RouterAccountSnapshot)
    (headers : Headers)
    (idle : stage.phase = .idle) :
    Obeys host (readyConnection stage.connection account headers transport)
      store stage fun outcome reached current =>
        Connects store stage outcome reached current ∧
        ∀ connection, outcome = .ok connection →
          current.connection = some connection ∧
          connection.accountID = account.accountID := by
  unfold readyConnection
  refine bind (reusableConnection_follows account) ?_ ?_
  · rintro error reached current ⟨connects, -, -⟩
    refine ⟨⟨connects.store, connects.steady, ?_⟩, ?_⟩
    · rintro _ ⟨⟩
      exact connects.answered error rfl
    · rintro _ ⟨⟩
  · rintro reusable reached current ⟨⟨rfl, steady, -⟩, kept, reused⟩
    cases reusable with
    | some connection =>
      obtain ⟨known, same⟩ := reused connection rfl
      refine ⟨connects_ok steady connection, ?_⟩
      rintro _ ⟨⟩
      exact ⟨kept.trans known, same⟩
    | none =>
      have free : current.phase = .idle := steady.phase.trans idle
      refine obeys_perform free fun connection same => ?_
      refine obeys_perform trivial fun attached _ => ?_
      have steady := (steady.trans (@Stage.steady_next host current (.connect transport account
          headers) rfl connection)).trans
        (@Stage.steady_next host _ (.attach connection) rfl attached)
      refine obeys_plain ?_ fun _ _ => ?_
      · intro error failed
        subst failed
        refine ⟨⟨rfl, steady, ?_⟩, ?_⟩
        · rintro _ ⟨⟩
          exact .inl (Bool.or_true _)
        · rintro _ ⟨⟩
      refine obeys_perform trivial ?_
      rintro (error | ⟨⟩) -
      · refine ⟨connects_unchecked steady connection error, ?_⟩
        rintro _ ⟨⟩
      · refine ⟨connects_ok (steady.trans (Stage.steady_next _ rfl _)) connection, ?_⟩
        rintro _ ⟨⟩
        exact ⟨rfl, same⟩

theorem metadata_kind (read : RouterRequest.metadata host body = .ok metadata) :
    ∃ kind, RouterJSON.text metadata "request_kind" = .ok kind ∧
      RouterRequest.requestKinds.contains kind = true := by
  unfold RouterRequest.metadata at read
  split at read
  · obtain ⟨client, -, read⟩ := bind_eq_ok.mp read
    split at read
    · cases read
    · obtain ⟨text, -, read⟩ := bind_eq_ok.mp read
      obtain ⟨object, -, read⟩ := bind_eq_ok.mp read
      obtain ⟨kind, known, read⟩ := bind_eq_ok.mp read
      split at read
      · rename_i supported
        cases read
        exact ⟨kind, mapError_eq_ok.mp known, supported⟩
      · cases read
  · cases read

theorem metadata_observed
    (read : RouterRequest.metadata host body = .ok metadata)
    (infers :
      (metadata.get "request_kind").bind Json.asString ≠ some "prewarm") :
    ∃ kind, RouterJSON.text metadata "request_kind" = .ok kind ∧
      RouterTransportObservation.kinds.contains kind = true := by
  obtain ⟨kind, known, supported⟩ := metadata_kind read
  refine ⟨kind, known, ?_⟩
  have differs : kind ≠ "prewarm" := by
    rintro rfl
    exact infers (RouterJSON.text_eq_ok.mp known).1
  simpa [RouterRequest.requestKinds, RouterTransportObservation.kinds, differs] using supported

theorem eventType_prewarmCreated (id : String) :
    eventType (prewarmCreated id) = some "response.created" := rfl

theorem completedResponse_prewarmCompleted (uuid : String) :
    completedResponse (prewarmCompleted ("turnrail-prewarm-" ++ uuid)) =
      some ("turnrail-prewarm-" ++ uuid) := by
  have read : RouterJSON.text [("id", .string ("turnrail-prewarm-" ++ uuid)), ("usage", .object
          [("input_tokens", .number 0), ("output_tokens", .number 0),
            ("total_tokens", .number 0)])] "id" =
      .ok ("turnrail-prewarm-" ++ uuid) :=
    RouterJSON.text_eq_ok.mpr ⟨rfl, by simp⟩
  have completes : eventType (prewarmCompleted ("turnrail-prewarm-" ++ uuid)) =
      some "response.completed" := rfl
  unfold completedResponse
  rw [if_pos completes]
  change Except.toOption (RouterJSON.text _ "id") = _
  rw [read]
  rfl

/-- What is known after a request was read. -/
structure Reading (transport : Transport) (body : Object) (thread : String)
    (input : List Object) (previous : Option History)
    (store : RouteState) (stage : Stage) : Prop where
  transport : stage.transport = transport
  idle : stage.phase = .idle
  currentTurn : store.currentTurn = none
  submitted : store.submitted = none
  upstream : store.upstream = stage.connection
  request : stage.request = some (body, thread)
  expands : Expands body thread stage.reading input previous

theorem prewarm_follows
    {body : Object}
    (prepares : RouterRequest.IsPrewarm host body)
    (reading : Reading transport body thread input previous store stage) :
    Obeys host (prewarm body thread) store stage (Settles transport) := by
  unfold prewarm
  split
  · refine obeys_perform trivial fun (uuid : String) _ => ?_
    refine obeys_check ?_ fun value written => ?_
    · intro error _
      exact settles_of_no_turn reading.transport reading.currentTurn
    refine obeys_ledger ⟨reading.idle, body, thread, input, previous,
      reading.request, prepares,
        reading.expands, written⟩ ?_ ?_
    · intro error _
      exact settles_of_no_turn reading.transport reading.currentTurn
    intro _ _
    refine obeys_frame ?_ ?_ fun _ _ => ?_
    · rintro _ ⟨⟩ completes
      simp [eventType_prewarmCreated] at completes
    · intro error _
      exact settles_of_no_turn reading.transport reading.currentTurn
    refine obeys_frame ?_ ?_ fun _ _ => ?_
    · rintro _ ⟨⟩ _
      exact ⟨_, completedResponse_prewarmCompleted uuid, .inl rfl⟩
    · intro error _
      exact settles_of_no_turn reading.transport reading.currentTurn
    exact ⟨reading.transport, rfl, reading.upstream⟩
  · exact settles_of_no_turn reading.transport reading.currentTurn

theorem answerable_blamed
    {error : PlainError}
    (outside : effect.outside = true)
    (blamed : blames host stage.transport stage.closing effect reply = true)
    (transported : stage.transport = transport)
    (mayFail : stage.phase.mayFail = true) :
    Answerable transport
      (.plain error) store (stage.next host effect reply) := by
  have steady := @Stage.steady_next host stage effect outside reply
  refine answerable_plain (steady.transport.trans transported) ?_ ?_
  · rw [steady.phase, mayFail]
  · simp [Stage.next, blamed]

theorem Connects.answerable
    {reached : RouteState}
    {outcome : Except RouterError α}
    (connects : Connects store stage outcome reached current)
    (transported : stage.transport = transport)
    (idle : stage.phase = .idle)
    (submitted : store.submitted = none)
    (failed : outcome = .error error) :
    Answerable transport error reached current := by
  obtain ⟨rfl, steady, answered⟩ := connects
  refine ⟨steady.transport.trans transported, ?_, ?_, ?_⟩
  · intro _
    rw [steady.phase, idle]
    rfl
  · intro turn fingerprint _ admitted
    rw [submitted] at admitted
    cases admitted
  · intro _
    rcases answered error failed with blamed | ⟨failure, rfl, tolerated⟩
    · exact .inl blamed
    · exact .inr tolerated

theorem delivery_answered
    (error : RouterError)
    (blaming : blames host stage.transport stage.closing effect reply =
      !tolerable stage.transport error)
    (closing : closes effect reply = closedLocally error)
    (kept : (stage.next host effect reply).transport = stage.transport)
    (submitted : store.submitted.isSome = true) :
    (stage.next host effect reply).blamed = true ∨
      Excused store (stage.next host effect reply) error := by
  cases tolerated : tolerable stage.transport error with
  | false =>
    left
    simp [Stage.next, blaming, tolerated]
  | true =>
    right
    cases error with
    | plain error => cases tolerated
    | service failure =>
      refine ⟨?_, submitted⟩
      rw [kept]
      exact tolerated
    | transport failure =>
      refine ⟨tolerated, ?_⟩
      intro localClose
      simp [Stage.next, closing, closedLocally, localClose]

/-- What is known before a request is sent. -/
structure Ready (transport : Transport) (body : Object) (thread key : String)
    (accountID : UUID) (input : List Object) (previous : Option History)
    (connection : RouterUpstream) (store : RouteState) (stage : Stage) : Prop where
  transport : stage.transport = transport
  idle : stage.phase = .idle
  currentTurn : store.currentTurn = some key
  upstream : store.upstream = some connection
  established : stage.connection = some connection
  authenticated : connection.accountID = accountID
  binding : stage.binding = some (key, accountID)
  request : stage.request = some (body, thread)
  expands : Expands body thread stage.reading input previous

theorem transmit_follows
    {thread key kind : String}
    {accountID : UUID}
    {connection : RouterUpstream}
    (reused : Bool)
    (typed : RouterJSON.text metadata "request_kind" = .ok kind)
    (observed : RouterTransportObservation.kinds.contains kind = true)
    (ready : Ready transport
      body thread key accountID input previous connection store stage) :
    Obeys host (transmit host body metadata thread key accountID input previous
        connection reused)
      store stage (Settles transport) := by
  unfold transmit
  refine obeys_ledger ⟨ready.idle, accountID, ready.binding⟩ ?_ ?_
  · intro error _
    refine answerable_plain ready.transport ?_ (Bool.or_true _)
    change stage.phase.mayFail = true
    rw [ready.idle]
    rfl
  intro _ _
  refine modify ?_
  refine obeys_check ?_ fun kind' typed' => ?_
  · intro error failed
    rw [typed] at failed
    cases failed
  obtain rfl : kind = kind' := by simpa [typed] using typed'
  rw [if_pos observed]
  refine modify ?_
  refine obeys_perform ⟨rfl, body, thread, accountID, input, previous, ready.request,
      ready.binding, ready.established, ready.authenticated, ready.expands,
      rfl⟩ ?_
  rintro (error | ⟨⟩) -
  · refine ⟨ready.transport, fun _ => rfl, ?_, ?_⟩
    · rintro turn fingerprint current ⟨⟩ _
      obtain rfl : key = turn := by simpa [ready.currentTurn] using current
      exact .inr rfl
    · intro _
      exact delivery_answered error rfl rfl rfl rfl
  · exact ⟨ready.transport, rfl, ready.currentTurn, rfl, ready.upstream,
      ready.established, ready.binding, ready.request, rfl,
      fun _ member => absurd member List.not_mem_nil,
      input, previous, ready.expands⟩

theorem submit_follows
    (headers : Headers)
    (read : RouterRequest.metadata host body = .ok metadata)
    (infers : (metadata.get "request_kind").bind Json.asString ≠ some "prewarm")
    (reading : Reading transport body thread input previous store stage) :
    Obeys host
      (submit host transport headers body metadata thread input previous)
      store stage (Settles transport) := by
  obtain ⟨kind, typed, observed⟩ := metadata_observed read infers
  unfold submit
  refine bind (binding_follows metadata) ?_ ?_
  · rintro error reached current ⟨⟨rfl, quiet, -⟩, -⟩
    exact settles_of_no_turn (quiet.transport.trans reading.transport) reading.currentTurn
  rintro ⟨key, accountID⟩ reached current ⟨⟨rfl, quiet, -⟩, binding⟩
  have binding := binding key accountID rfl
  have transported := quiet.transport.trans reading.transport
  have idle := quiet.phase.trans reading.idle
  have mayFail : current.phase.mayFail = true := by
    rw [idle]
    rfl
  refine modify ?_
  refine obeys_perform trivial fun bound identified => ?_
  refine obeys_plain ?_ fun account found => ?_
  · intro error failed
    subst failed
    exact answerable_blamed rfl rfl transported mayFail
  subst found
  have identity : account.accountID = accountID := identified account rfl
  refine obeys_validate trivial ?_ fun checked _ => ?_
  · intro error _
    exact answerable_blamed rfl rfl transported mayFail
  refine get ?_
  have steady : current.Steady
    ((current.next host (.accountBound accountID) (.ok account)).next
        host (.validate body account.models) (.ok checked)) :=
    (current.steady_next rfl _).trans (Stage.steady_next _ rfl _)
  -- The variables hold the connection that was made last.
  have upstream : reached.upstream =
      ((current.next host (.accountBound accountID) (.ok account)).next
        host (.validate body account.models) (.ok checked)).connection :=
    reading.upstream.trans quiet.connection.symm
  change Obeys host _ _ ((current.next host (.accountBound accountID) (.ok account)).next
      host (.validate body account.models) (.ok checked)) _
  generalize ((current.next host (.accountBound accountID)
    (.ok account)).next host (.validate body account.models)
    (.ok checked)) = offered at steady upstream ⊢
  dsimp only
  rw [upstream]
  have free := steady.phase.trans idle
  have carried := steady.transport.trans transported
  refine bind (readyConnection_follows account headers free) ?_ ?_
  · rintro error reached' current' ⟨connects, -⟩
    exact connects.answerable carried free reading.submitted rfl
  rintro connection reached' made ⟨⟨rfl, connected, -⟩, established⟩
  obtain ⟨established, authenticated⟩ := established connection rfl
  refine modify ?_
  refine transmit_follows _ typed observed
    { transport := connected.transport.trans carried
      idle := connected.phase.trans free
      currentTurn := rfl
      upstream := rfl
      established := established
      authenticated := authenticated.trans identity
      binding := ?_
      request := ?_
      expands := ?_ }
  · rw [connected.binding, steady.binding, binding]
  · rw [connected.request, steady.request, quiet.request, reading.request]
  · rw [connected.reading, steady.reading, quiet.reading]
    exact reading.expands

theorem serve_follows
    (headers : Headers)
    (serving : Serving transport store stage) :
    Obeys host
      (serve host transport headers) store stage (Settles transport) := by
  obtain ⟨transported, free, upstream⟩ := serving
  unfold serve
  refine obeys_perform free fun message _ => ?_
  cases message with
  | none => trivial
  | some raw =>
    refine modify ?_
    refine obeys_plain ?_ fun body parsed => ?_
    · intro error _
      exact settles_of_no_turn transported rfl
    refine obeys_plain ?_ fun metadata read => ?_
    · intro error _
      exact settles_of_no_turn transported rfl
    refine obeys_check ?_ fun thread named => ?_
    · intro error _
      exact settles_of_no_turn transported rfl
    refine bind (expanded_follows body thread) ?_ ?_
    · rintro error reached current ⟨rfl, quiet, -⟩
      exact settles_of_no_turn (quiet.transport.trans transported) rfl
    rintro ⟨input, previous⟩ reached current ⟨rfl, quiet, expands⟩
    have reading : Reading transport body thread input previous
        { upstream := store.upstream } current :=
      { transport := quiet.transport.trans transported
        idle := quiet.phase
        currentTurn := rfl
        submitted := rfl
        upstream := upstream.trans quiet.connection.symm
        request := by
          rw [quiet.request]
          change RouterRequest.read host raw = some (body, thread)
          simp [RouterRequest.read, parsed, read, named, Except.toOption]
        expands := expands input previous rfl }
    dsimp only
    split
    · rename_i prepares
      exact prewarm_follows ⟨metadata, read, prepares⟩ reading
    · rename_i infers
      exact submit_follows headers read infers reading

end Route

end Turnrail
