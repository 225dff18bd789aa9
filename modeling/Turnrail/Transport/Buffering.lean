import Turnrail.Transport.Packets

/-!
# What an exchange buffers

A byte of a response body is in the pending line, in the payload of the event
that has not ended, or in a queued event, until it is returned or dropped.  A
data line brings a separator into the payload, but it loses the longer name of
its field.  So the buffers never hold more than what has arrived and was not
returned.
-/

namespace Turnrail

open List RouterSSEParser

namespace RouterSSEParser

variable {parser next : RouterSSEParser} {events : List Data}

theorem endLine_size (ends : parser.endLine = .ok (next, events)) :
    next.payload.length + (events.map length).sum ≤ parser.bufferedBytes := by
  unfold endLine at ends
  rw [bufferedBytes]
  split at ends
  · split at ends
    · cases ends
      simp
    · dsimp only at ends
      split at ends
      · cases ends
        split <;>
          simp only [length_nil, map_nil, map_cons, sum_nil, sum_cons,
            length_dropLast] <;>
          omega
      · cases ends
  · split at ends
    · rename_i field
      cases ends
      have long := ( isPrefixOf_iff_prefix.mp field).length_le
      rw [EventStream.dataField] at long
      simp only [length_cons, length_nil] at long
      split <;>
        simp only [length_append, length_drop, length_cons, length_nil,
          map_nil, sum_nil] <;>
        omega
    · split at ends <;> cases ends <;> simp

theorem consume_size
    {byte : UInt8}
    (consumes : parser.consume byte = .ok (next, events)) :
    next.bufferedBytes + (events.map length).sum ≤
      parser.bufferedBytes + 1 := by
  unfold consume at consumes
  split at consumes
  · cases consumes
    simp [bufferedBytes]
  · split at consumes
    · obtain ⟨⟨ended, found⟩, ends, consumes⟩ := bind_eq_ok.mp consumes
      cases consumes
      have size := endLine_size ends
      simp only [bufferedBytes, length_nil] at size ⊢
      omega
    · cases consumes
      simp only [bufferedBytes, length_append, length_singleton, map_nil,
        sum_nil]
      omega

theorem consumeAll_size
    {chunk : Data}
    (consumes : parser.consumeAll chunk = .ok (next, events)) :
    next.bufferedBytes + (events.map length).sum ≤
      parser.bufferedBytes + chunk.length := by
  induction chunk generalizing parser next events with
  | nil =>
    cases consumes
    simp
  | cons byte rest ih =>
    obtain ⟨⟨middle, first⟩, consumed, consumes⟩ := bind_eq_ok.mp consumes
    obtain ⟨⟨last, more⟩, others, consumes⟩ := bind_eq_ok.mp consumes
    cases consumes
    have one := consume_size consumed
    have many := ih others
    simp only [map_append, sum_append, length_cons]
    omega

theorem remains_size
    (parser : RouterSSEParser)
    (chunk : Data) :
    (parser.remains chunk).bufferedBytes ≤
      parser.bufferedBytes + chunk.length := by
  induction chunk generalizing parser with
  | nil => exact le_refl _
  | cons byte rest ih =>
    rw [remains, length_cons]
    split
    · rename_i consumed
      have one := consume_size consumed
      have many := ih ‹_›
      omega
    · simp only [bufferedBytes, length_dropLast]
      omega

end RouterSSEParser

namespace RouterEventStream

/-- The number of bytes that arrived. -/
def arrived (history : List Happening) : Nat :=
  (delivered (history.map Prod.fst)).length

/-- The bytes of the events that were returned. -/
def returned (history : List Happening) : Nat :=
  ((received history).map length).sum

/-- The number of bytes that wait. -/
def waiting (stream : RouterEventStream) : Nat := (stream.events.map length).sum

/-- What an exchange without an error holds. -/
structure Holds (history : List Happening) (stream : RouterEventStream) : Prop where
  bounded : stream.waiting + stream.parser.bufferedBytes ≤ maximumBytes
  covered : stream.waiting + stream.parser.bufferedBytes + returned history ≤ arrived history
  counted : stream.thrown = none → stream.receivedBytes = arrived history

/-- The bytes that wait are counted. -/
structure Accounts (history : List Happening) (stream : RouterEventStream) : Prop where
  accepted : stream.status = some 200
  queued : stream.queuedBytes = stream.waiting
  held : stream.terminal = none → Holds history stream

section Steps

variable {host : Foundation} {texts : Texts} {stream after : RouterEventStream}
variable {history : List Happening} {happening : Happening} {data : Data}

theorem arrived_concat :
    arrived (history ++ [happening]) =
      arrived history + (delivered [happening.1]).length := by
  simp [arrived, delivered_append]

theorem returned_of_silent {action : Action} :
    returned (history ++ [(action, none)]) = returned history := by
  simp [returned]

theorem returned_of_event
    {action : Action}
    {event : Data} :
    returned (history ++ [(action, some (.ok event))]) =
      returned history + event.length := by
  simp [returned, Except.toOption]

theorem Accounts.finish
    (accounts : Accounts history stream)
    (error : RouterError) :
    Accounts (history ++ [happening]) (stream.finish error) :=
  ⟨accounts.accepted, accounts.queued,
      fun alive => by simp [RouterEventStream.finish] at alive⟩

theorem Accounts.didReceive
    (accounts : Accounts history stream)
    (calm : stream.thrown = none) :
    Accounts
      (history ++ [(.didReceive data, none)]) (stream.didReceive data) := by
  have size : (delivered [.didReceive data]).length = data.length := by simp [delivered]
  unfold RouterEventStream.didReceive
  rw [if_neg (not_not.mpr accounts.accepted)]
  split
  · rename_i ended
    exact ⟨accounts.accepted, accounts.queued, fun alive => by simp [alive] at ended⟩
  · rename_i alive
    obtain ⟨bounded, covered, counted⟩ := accounts.held (by simpa using alive)
    split
    · rename_i room
      rw [accounts.queued] at room
      have fits : stream.waiting + stream.parser.bufferedBytes + data.length ≤
          maximumBytes := by omega
      have small : stream.parser.bufferedBytes + data.length ≤ maximumBytes := by
        omega
      rw [append, if_pos small]
      cases consumed : stream.parser.consumeAll data with
      | ok result =>
        obtain ⟨parser, found⟩ := result
        have most := consumeAll_size consumed
        refine ⟨accounts.accepted, ?_, fun _ => ⟨?_, ?_, fun _ => ?_⟩⟩
        · simp [queue, waiting, accounts.queued]
        · simp only [queue, waiting, map_append, sum_append] at fits ⊢
          omega
        · rw [arrived_concat, returned_of_silent, size]
          simp only [queue, waiting, map_append, sum_append] at covered ⊢
          omega
        · rw [arrived_concat, size, ← counted calm]
          rfl
      | error error =>
        have most := stream.parser.remains_size data
        refine ⟨accounts.accepted, accounts.queued, fun _ => ⟨?_, ?_, by simp [queue, throws]⟩⟩
        · simp only [queue, throws, waiting] at fits ⊢
          omega
        · rw [arrived_concat, returned_of_silent, size]
          simp only [queue, throws, waiting] at covered ⊢
          omega
    · refine ⟨accounts.accepted, accounts.queued, fun _ => ⟨bounded, ?_, by simp [throws]⟩⟩
      rw [arrived_concat, returned_of_silent, size]
      simp only [throws, waiting] at covered ⊢
      omega

theorem Accounts.step
    (accounts : Accounts history stream)
    (headless : ∀ head, happening.1 ≠ .didReceiveResponse head)
    (does : Does host texts stream happening after) :
    Accounts (history ++ [happening]) after := by
  cases does with
  | didReceiveResponse response calm => exact absurd rfl (headless response)
  | didReceive data calm => exact accounts.didReceive calm
  | record error threw =>
    refine ⟨accounts.accepted, accounts.queued, fun alive => ?_⟩
    simp [RouterEventStream.finish] at alive
  | didComplete error now connectionAgeMS calm =>
    obtain ⟨failure, completes⟩ := @didComplete_eq_finish host stream error now connectionAgeMS
    rw [completes]
    exact accounts.finish failure
  | event event rest queued =>
    have split : stream.waiting = event.length + (rest.map length).sum := by
      simp [waiting, queued]
    refine ⟨accounts.accepted, ?_, fun alive => ?_⟩
    · change stream.queuedBytes - event.length = ((rest.map length).sum : Nat)
      rw [accounts.queued, split]
      omega
    · obtain ⟨bounded, covered, counted⟩ := accounts.held alive
      refine ⟨?_, ?_, fun calm => ?_⟩
      · simp only [waiting]
        omega
      · rw [arrived_concat, returned_of_event]
        simp only [waiting]
        omega
      · rw [arrived_concat, ← counted calm]
        rfl
  | halted error empty ended =>
    exact ⟨accounts.accepted, accounts.queued, fun alive => by simp [alive] at ended⟩
  | close => exact accounts.finish _

theorem accounts_of_run
    {response : Response}
    (accepted : response.statusCode = 200)
    (run : Run host texts (opened texts response) history stream)
    (headless :
      ∀ happening ∈ history, ∀ head, happening.1 ≠ .didReceiveResponse head) :
    Accounts history stream := by
  refine @Interleaving.Runs.keeps _ _ _ _ _ (fun history stream =>
    (∀ happening ∈ history, ∀ head, happening.1 ≠ .didReceiveResponse head) →
      Accounts history stream) (fun _ => ?_) ?_ _ run headless
  · exact ⟨congrArg some accepted, rfl, fun _ => ⟨Nat.zero_le _, le_refl _, fun _ => rfl⟩⟩
  · intro history happening stream after _ accounts acts headless
    rw [forall_mem_append] at headless
    exact (accounts headless.1).step (headless.2 _ (mem_singleton_self _)) (does_of_act acts)

end Steps

end RouterEventStream

open RouterEventStream in
/-- Event buffering is exactly accounted, and bounded until an error is
recorded, however the chunks of a body, the calls to receive and closing are
interleaved. -/
theorem event_buffering_is_accounted
    (host : Foundation)
    (texts : Texts)
    (response : Response)
    (accepted : response.statusCode = 200)
    (history : List Happening)
    (stream : RouterEventStream)
    (run : Run host texts (opened texts response) history stream)
    (headless :
      ∀ happening ∈ history, ∀ head, happening.1 ≠ .didReceiveResponse head) :
    stream.queuedBytes = (stream.events.map length).sum ∧
      0 ≤ stream.queuedBytes ∧
      (stream.terminal = none →
        stream.queuedBytes + stream.parser.pending.length +
          stream.parser.payload.length ≤ 64 * 1024 * 1024 ∧
        stream.queuedBytes + stream.parser.pending.length +
          stream.parser.payload.length ≤
            (arrived history : Int) - returned history ∧
        (stream.thrown = none → stream.receivedBytes = arrived history)) := by
  obtain ⟨-, queued, held⟩ := accounts_of_run accepted run headless
  refine ⟨queued, by rw [queued]; exact Int.natCast_nonneg _, fun alive => ?_⟩
  obtain ⟨bounded, covered, counted⟩ := held alive
  simp only [bufferedBytes, maximumBytes] at bounded covered
  rw [queued]
  exact ⟨by omega, by omega, counted⟩

/-- An event and the start of another one. -/
def RouterEventStream.Sample.body : Data := utf8 "data: hi\n\nda"

open RouterEventStream in
/-- An event that waits and the line after it are accounted for. -/
theorem waiting_event_is_accounted :
    ((opened .plain ⟨200, none, none⟩).didReceive Sample.body).queuedBytes = 2 ∧
      2 + (((opened .plain ⟨200, none, none⟩).didReceive
            Sample.body).parser.pending.length : Int) +
          ((opened .plain ⟨200, none, none⟩).didReceive
            Sample.body).parser.payload.length ≤
        (arrived [(.didReceive Sample.body, none)] : Int) -
          returned [(.didReceive Sample.body, none)] := by
  have queued :
      ((opened .plain ⟨200, none, none⟩).didReceive Sample.body).queuedBytes =
      2 := by
    decide +kernel
  have run : Run .mute .plain
    (opened .plain ⟨200, none, none⟩) [(.didReceive Sample.body, none)]
      ((opened .plain ⟨200, none, none⟩).didReceive Sample.body) :=
    Interleaving.Runs.start.extend rfl
  obtain ⟨-, -, held⟩ :=
    event_buffering_is_accounted .mute .plain ⟨200, none, none⟩ rfl _ _ run
    (by simp)
  obtain ⟨-, covered, -⟩ := held (by decide +kernel)
  rw [queued] at covered
  exact ⟨queued, covered⟩

end Turnrail
