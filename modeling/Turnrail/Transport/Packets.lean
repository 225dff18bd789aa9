import Turnrail.Transport.Exchange
import Mathlib.Algebra.Order.BigOperators.Group.List
import Mathlib.Algebra.Order.Group.Nat

/-!
# Packets of an HTTP response

The events of a body are received in the same order however the body is cut, as
long as all its payloads are texts.  A payload that is no text makes its chunk
throw, and the events that ended in the same chunk are lost.  So the packets
decide what is received exactly if an event precedes the first such payload.
-/

namespace Turnrail

open Interleaving RouterSSEParser List RouterEventStream

namespace EventStream

/-- No event precedes the first payload that is no text. -/
def Sheltered (stream : Data) : Prop :=
  ∀ before payload after, payloads stream = before ++ payload :: after →
    (∀ earlier ∈ before, isUTF8 earlier = true) → isUTF8 payload = false →
    ∀ earlier ∈ before, earlier = utf8 "[DONE]"

/-- A payload that is no text is dispatched. -/
def Malformed (stream : Data) : Prop :=
  ∃ payload ∈ payloads stream, isUTF8 payload = false

variable {stream : Data}

theorem not_malformed :
    ¬ Malformed stream ↔
      ∀ payload ∈ payloads stream, isUTF8 payload = true := by
  simp [Malformed]

theorem Malformed.grow
    {longer : Data}
    (malformed : Malformed stream)
    (within : stream <+: longer) :
    Malformed longer := by
  obtain ⟨payload, member, invalid⟩ := malformed
  obtain ⟨rest, rfl⟩ := within
  exact ⟨payload, (payloads_grow stream rest).subset member, invalid⟩

theorem Malformed.first (malformed : Malformed stream) :
    ∃ before payload after, payloads stream = before ++ payload :: after ∧
      (∀ earlier ∈ before, isUTF8 earlier = true) ∧
      isUTF8 payload = false := by
  have found : ((payloads stream).find? fun payload => !isUTF8 payload).isSome := by
    simpa [Malformed] using malformed
  obtain ⟨payload, found⟩ := Option.isSome_iff_exists.mp found
  obtain ⟨invalid, before, after, split, earlier⟩ := find?_eq_some_iff_append.mp found
  exact ⟨before, payload, after, split, by simpa using earlier, by simpa using invalid⟩

theorem Sheltered.events_eq_nil
    {good : Data}
    (sheltered : Sheltered stream)
    (malformed : Malformed stream)
    (within : good <+: stream)
    (encoded : ¬ Malformed good) :
    events good = [] := by
  obtain ⟨before, payload, after, split, earlier, invalid⟩ := malformed.first
  obtain ⟨rest, rfl⟩ := within
  have absent : payload ∉ payloads good := fun member => encoded ⟨payload, member, invalid⟩
  have early : payloads good <+: before := by
    have reach : before ++ [payload] <+: payloads (good ++ rest) :=
      ⟨after, by rw [split, append_assoc, singleton_append]⟩
    rcases prefix_or_prefix_of_prefix (payloads_grow good rest) reach with
      shorter | longer
    · rcases prefix_concat_iff.mp shorter with same | early
      · exact absurd (same ▸ mem_concat_self) absent
      · exact early
    · exact absurd (longer.subset mem_concat_self) absent
  have silent := sheltered before payload after split earlier invalid
  refine filter_eq_nil_iff.mpr fun other member => ?_
  simpa using silent other (early.subset member)

end EventStream

namespace RouterEventStream

open EventStream

/-- The bytes of some callbacks. -/
def delivered (actions : List Action) : Data :=
  actions.flatMap fun action =>
    match action with
    | .didReceive data => data
    | _ => []

/-- An error was received. -/
def Threw (history : List Happening) : Prop :=
  ∃ happening ∈ history, ∃ error, happening.2 = some (.error error)

/-- The stream was read without an error. -/
structure Parses (read : Data) (got : List Data) (stream : RouterEventStream) :
    Prop where
  alive : stream.terminal = none
  calm : stream.thrown = none
  parser : stream.parser = .reached read
  encoded : ¬ Malformed read
  balance : got ++ stream.events = EventStream.events read
  size : stream.queuedBytes = (stream.events.map length).sum

/-- Where reading a stream stands. -/
inductive Standing (bytes read : Data) (got : List Data)
    (stream : RouterEventStream) : Prop
  | reading (parses : Parses read got stream)
  | stopped
      (good : Data)
      (halted : stream.terminal.isSome ∨ stream.thrown.isSome)
      (within : good <+: bytes)
      (encoded : ¬ Malformed good)
      (balance : got ++ stream.events = EventStream.events good)
      (cause : Malformed bytes ∨ good = bytes)

section Chunks

variable {stream : RouterEventStream} {bytes read data : Data}
variable {got : List Data}

theorem Parses.queued_le (parses : Parses read got stream) :
    (stream.events.map length).sum + (reached read).bufferedBytes ≤
      read.length := by
  have within : stream.events.Sublist (payloads read) := by
    have queue : stream.events.Sublist (EventStream.events read) :=
      parses.balance ▸ sublist_append_right got stream.events
    exact queue.trans filter_sublist
  have small := (within.map length).sum_le_sum fun _ _ => Nat.zero_le _
  have read := payloads_bufferedBytes read
  omega

theorem Parses.didReceive_eq
    (parses : Parses read got stream)
    (accepted : stream.status = some 200)
    (bounded : (read ++ data).length ≤ maximumBytes) :
    stream.didReceive data =
      stream.queue data ((reached read).consumeAll data) := by
  have queued := parses.queued_le
  rw [length_append] at bounded
  have fits : stream.queuedBytes + stream.parser.bufferedBytes +
      data.length ≤ maximumBytes := by
    rw [parses.parser, parses.size]
    omega
  have small : (reached read).bufferedBytes + data.length ≤
      maximumBytes := by omega
  have alive : ¬ stream.terminal.isSome = true := by simp [parses.alive]
  unfold didReceive
  rw [if_neg (not_not.mpr accepted), if_neg alive, if_pos fits, parses.parser,
    append, if_pos small]

theorem Parses.didReceive
    (parses : Parses read got stream)
    (accepted : stream.status = some 200)
    (bounded : (read ++ data).length ≤ maximumBytes)
    (encoded : ¬ Malformed (read ++ data)) :
    Parses (read ++ data) got (stream.didReceive data) := by
  obtain ⟨ended, dispatched, consumed⟩ :=
    consumeAll_reached (not_malformed.mp encoded)
  rw [parses.didReceive_eq accepted bounded, consumed]
  refine ⟨parses.alive, parses.calm, rfl, encoded, ?_, ?_⟩
  · rw [queue, ← append_assoc, parses.balance, EventStream.events,
      EventStream.events, dispatched, filter_append]
  · simp [queue, parses.size]

theorem Parses.throws
    (parses : Parses read got stream)
    (accepted : stream.status = some 200)
    (bounded : (read ++ data).length ≤ maximumBytes)
    (malformed : Malformed (read ++ data)) :
    stream.didReceive data =
      stream.queue data (.error ⟨"Invalid model event encoding."⟩) := by
  rw [parses.didReceive_eq accepted bounded,
    consumeAll_malformed (not_malformed.mp parses.encoded) malformed]

theorem Standing.didReceive
    (standing : Standing bytes read got stream)
    (accepted : stream.status = some 200)
    (calm : stream.thrown = none)
    (within : read ++ data <+: bytes)
    (bounded : bytes.length ≤ maximumBytes) :
    Standing bytes (read ++ data) got (stream.didReceive data) := by
  have bounded := within.length_le.trans bounded
  cases standing with
  | stopped good halted inside encoded balance cause =>
    have ended : stream.terminal.isSome := by simpa [calm] using halted
    unfold RouterEventStream.didReceive
    rw [if_neg (not_not.mpr accepted), if_pos ended]
    exact .stopped good (.inl ended) inside encoded balance cause
  | reading parses =>
    by_cases malformed : Malformed (read ++ data)
    · rw [parses.throws accepted bounded malformed]
      exact .stopped read (.inr rfl) ((prefix_append _ _).trans within)
        parses.encoded parses.balance (.inl (malformed.grow within))
    · exact .reading (parses.didReceive accepted bounded malformed)

end Chunks

section Runs

variable {host : Foundation} {texts : Texts}
variable {stream after : RouterEventStream}
variable {history : List Happening} {happening : Happening}

@[simp] theorem received_concat
    (history : List Happening)
    (happening : Happening) :
    received (history ++ [happening]) =
      received history ++ (happening.2.bind Except.toOption).toList := by
  cases known : happening.2.bind Except.toOption <;>
    simp [received, known]

@[simp] theorem callbacks_append (first second : List Happening) :
    callbacks (first ++ second) = callbacks first ++ callbacks second := by
  simp [callbacks]

theorem delivered_append (first second : List Action) :
    delivered (first ++ second) = delivered first ++ delivered second :=
  flatMap_append

@[simp] theorem delivered_chunks (chunks : List Data) :
    delivered (chunks.map .didReceive) = chunks.flatten := by
  induction chunks with
  | nil => rfl
  | cons chunk rest ih =>
    rw [map_cons, flatten_cons, ← ih]
    rfl

/-- What the platform does to deliver a body. -/
def schedule (chunks : List Data) (error : Option PlatformError)
    (now : Date) (connectionAgeMS : Int) : List Action :=
  chunks.map .didReceive ++ [.didComplete error now connectionAgeMS]

@[simp] theorem delivered_schedule
    (chunks : List Data)
    (error : Option PlatformError)
    (now : Date)
    (connectionAgeMS : Int) :
    delivered (schedule chunks error now connectionAgeMS) = chunks.flatten := by
  rw [schedule, delivered_append, delivered_chunks]
  exact append_nil _

theorem delivered_prefix
    {first second : List Action}
    (within : first <+: second) :
    delivered first <+: delivered second := by
  obtain ⟨rest, rfl⟩ := within
  rw [delivered_append]
  exact prefix_append _ _

theorem delivered_of_didComplete
    {actions : List Action}
    {chunks : List Data}
    {error last : Option PlatformError}
    {now later : Date}
    {connectionAgeMS age : Int}
    (within : actions ++ [.didComplete last later age] <+:
      schedule chunks error now connectionAgeMS) :
    delivered actions = chunks.flatten := by
  rcases prefix_concat_iff.mp within with same | early
  · rw [append_inj_left' same rfl, delivered_chunks]
  · have member := early.subset mem_concat_self
    simp at member

/-- The history of a stream was read. -/
structure Followed (bytes : Data) (history : List Happening)
    (stream : RouterEventStream) : Prop where
  accepted : stream.status = some 200
  standing : Standing bytes (delivered (callbacks history)) (received history) stream
  last : Threw history → stream.events = [] ∧ stream.terminal.isSome

theorem threw_concat :
    Threw (history ++ [happening]) ↔
      Threw history ∨ ∃ error, happening.2 = some (.error error) := by
  simp [Threw, or_and_right, exists_or]

theorem terminal_finish (error : RouterError) :
    (stream.finish error).terminal.isSome = true := by
  simp [finish]

theorem didComplete_eq_finish
    (error : Option PlatformError)
    (now : Date)
    (connectionAgeMS : Int) :
    ∃ failure, stream.didComplete host error now connectionAgeMS =
      stream.finish failure := by
  unfold didComplete
  split
  · split
    · exact ⟨_, rfl⟩
    · split <;> exact ⟨_, rfl⟩
  · exact ⟨_, rfl⟩

theorem didReceive_status (data : Data) :
    (stream.didReceive data).status = stream.status := by
  unfold didReceive
  split
  · split <;> rfl
  · split
    · rfl
    · split
      · cases stream.parser.append data <;> rfl
      · rfl

/-- An exchange with an error ignores chunks. -/
theorem didReceive_of_terminal
    {data : Data}
    (accepted : stream.status = some 200)
    (ended : stream.terminal.isSome) :
    stream.didReceive data = stream := by
  unfold didReceive
  rw [if_neg (not_not.mpr accepted), if_pos ended]

variable {bytes : Data} {got : List Data}

theorem Standing.finish
    {read : Data}
    (standing : Standing bytes read got stream)
    (final : stream.thrown = none → read = bytes)
    (error : RouterError) :
    Standing bytes read got { stream.finish error with thrown := none } := by
  have ended := @terminal_finish stream error
  cases standing with
  | reading parses =>
    obtain rfl := final parses.calm
    exact .stopped read (.inl ended) prefix_rfl parses.encoded parses.balance (.inr rfl)
  | stopped good halted within encoded balance cause =>
    exact .stopped good (.inl ended) within encoded balance cause

theorem Standing.receive
    {read event : Data}
    {rest : List Data}
    (standing : Standing bytes read got stream)
    (queued : stream.events = event :: rest) :
    Standing bytes read (got ++ [event])
      { stream with
        events := rest
        queuedBytes := stream.queuedBytes - event.length } := by
  have shift : got ++ [event] ++ rest = got ++ stream.events := by
    rw [queued, append_assoc, singleton_append]
  cases standing with
  | reading parses =>
    refine .reading ⟨parses.alive, parses.calm, parses.parser, parses.encoded,
      shift.trans parses.balance, ?_⟩
    simp [parses.size, queued]
  | stopped good halted within encoded balance cause =>
    exact .stopped good halted within encoded (shift.trans balance) cause

variable {chunks : List Data} {error : Option PlatformError}
variable {now : Date} {connectionAgeMS : Int}

theorem Followed.step
    (followed : Followed chunks.flatten history stream)
    (bounded : chunks.flatten.length ≤ maximumBytes)
    (within : callbacks (history ++ [happening]) <+:
      schedule chunks error now connectionAgeMS)
    (does : Does host texts stream happening after) :
    Followed chunks.flatten (history ++ [happening]) after := by
  have inside := delivered_prefix within
  rw [delivered_schedule, callbacks_append, delivered_append] at inside
  rw [callbacks_append] at within
  cases does with
  | didReceiveResponse response calm =>
    have member := within.subset mem_concat_self
    simp [schedule] at member
  | close =>
    have member := within.subset mem_concat_self
    simp [schedule] at member
  | didReceive data calm =>
    have read : delivered (callbacks [(.didReceive data, none)]) = data := append_nil data
    rw [read] at inside
    refine ⟨?_, ?_, fun threw => ?_⟩
    · rw [didReceive_status]
      exact followed.accepted
    · rw [callbacks_append, delivered_append, read, received_concat]
      simpa using followed.standing.didReceive followed.accepted calm inside bounded
    · have ended := followed.last (by simpa [threw_concat] using threw)
      rw [didReceive_of_terminal followed.accepted ended.2]
      exact ended
  | record error threw =>
    refine ⟨followed.accepted, ?_, fun threw => ?_⟩
    · have standing := followed.standing.finish (fun calm => by simp [calm] at threw) error
      simpa [callbacks] using standing
    · have ended := followed.last (by simpa [threw_concat] using threw)
      exact ⟨ended.1, terminal_finish error⟩
  | didComplete error now connectionAgeMS calm =>
    obtain ⟨failure, completes⟩ := @didComplete_eq_finish host stream error now connectionAgeMS
    rw [completes]
    refine ⟨followed.accepted, ?_, fun threw => ?_⟩
    · have standing := followed.standing.finish (fun _ =>
        delivered_of_didComplete within) failure
      have same : { stream.finish failure with thrown := none } = stream.finish failure := by
        simp [finish, calm]
      rw [same] at standing
      simpa [callbacks, delivered_append, delivered] using standing
    · have ended := followed.last (by simpa [threw_concat] using threw)
      exact ⟨ended.1, terminal_finish failure⟩
  | event event rest queued =>
    refine ⟨followed.accepted, ?_, fun threw => ?_⟩
    · simpa [callbacks, Except.toOption] using followed.standing.receive queued
    · have ended := followed.last (by simpa [threw_concat] using threw)
      rw [queued] at ended
      cases ended.1
  | halted error empty ended =>
    refine ⟨followed.accepted, ?_, fun _ => ⟨empty, ?_⟩⟩
    · simpa [callbacks, Except.toOption] using followed.standing
    · simp [ended]

variable {initial : RouterEventStream}

theorem keeps_of_run
    {holds : List Happening → RouterEventStream → Prop}
    (run : Run host texts initial history stream)
    (within : callbacks history <+: schedule chunks error now connectionAgeMS)
    (starts : holds [] initial)
    (kept : ∀ {history stream happening after}, holds history stream →
      callbacks (history ++ [happening]) <+: schedule chunks
        error now connectionAgeMS → Does host texts stream happening after →
      holds (history ++ [happening]) after) :
    holds history stream := by
  refine @Runs.keeps _ _ _ _ _ (fun history stream =>
    callbacks history <+: schedule chunks error now connectionAgeMS →
      holds history stream) (fun _ => starts) ?_ _ run within
  intro history happening stream after _ held acts within
  refine kept (held ?_) within (does_of_act acts)
  rw [callbacks_append] at within
  exact (prefix_append _ _).trans within

variable {response : Response}

/-- An exchange starts without bytes. -/
theorem parses_opened : Parses [] [] (opened texts response) := by
  refine ⟨rfl, rfl, rfl, ?_, rfl, rfl⟩
  rintro ⟨payload, member, -⟩
  exact not_mem_nil member

theorem followed_of_run
    (bounded : chunks.flatten.length ≤ maximumBytes)
    (accepted : response.statusCode = 200)
    (run : Run host texts (opened texts response) history stream)
    (within : callbacks history <+: schedule chunks error now connectionAgeMS) :
    Followed chunks.flatten history stream := by
  refine keeps_of_run run within ?_ fun followed within does =>
    followed.step bounded within does
  exact ⟨congrArg some accepted, .reading parses_opened, by simp [Threw]⟩

theorem silent_of_run
    (refused : response.statusCode ≠ 200)
    (run : Run host texts (opened texts response) history stream)
    (within : callbacks history <+: schedule chunks error now connectionAgeMS) :
    received history = [] := by
  have silent : received history = [] ∧ stream.events = [] ∧ stream.status ≠ some 200 := by
    refine @keeps_of_run _ _ _ _ _ _ _ _ _ (fun history stream =>
      received history = [] ∧ stream.events = [] ∧ stream.status ≠ some 200)
      run within ⟨rfl, rfl, by simpa [opened, didReceiveResponse] using refused⟩
      ?_
    rintro history stream happening after ⟨none, empty, other⟩ within does
    cases does with
    | didReceiveResponse response calm =>
      rw [callbacks_append] at within
      have member := within.subset mem_concat_self
      simp [schedule] at member
    | didReceive data calm =>
      refine ⟨by simpa using none, ?_, by rwa [didReceive_status]⟩
      unfold didReceive
      rw [if_pos other]
      split <;> exact empty
    | record error threw => exact ⟨by simpa using none, empty, other⟩
    | didComplete error now connectionAgeMS calm =>
      obtain ⟨failure, completes⟩ := @didComplete_eq_finish host stream
        error now connectionAgeMS
      rw [completes]
      exact ⟨by simpa using none, empty, other⟩
    | event event rest queued =>
      rw [empty] at queued
      cases queued
    | halted error empty ended => exact ⟨by simpa [Except.toOption] using none, empty, other⟩
    | close => exact ⟨by simpa using none, empty, other⟩
  exact silent.1

theorem exists_drain
    (run : Run host texts initial history stream)
    (halted : stream.terminal.isSome) :
    ∃ later final, Run host texts initial (history ++ later) final ∧
      callbacks later = [] ∧ Threw later ∧
      received (history ++ later) = received history ++ stream.events := by
  obtain ⟨error, ended⟩ := Option.isSome_iff_exists.mp halted
  generalize queue : stream.events = events
  induction events generalizing history stream with
  | nil =>
    have throws : stream.act host texts .receive = some (some (.error error), stream) := by
      simp [act, receive, queue, ended]
    refine ⟨[(.receive, some (.error error))], stream, run.extend throws, rfl,
      ⟨_, mem_singleton_self _, error, rfl⟩, ?_⟩
    simp [Except.toOption]
  | cons event rest ih =>
    have receives : stream.act host texts .receive = some (some (.ok event), { stream with
          events := rest
          queuedBytes := stream.queuedBytes - event.length }) := by
      simp [act, receive, queue]
    have extended : Run host texts initial
        (history ++ [(.receive, some (.ok event))]) _ := run.extend receives
    obtain ⟨later, final, run, quiet, threw, got⟩ := ih extended halted ended rfl
    refine ⟨(.receive, some (.ok event)) :: later, final, ?_, ?_, ?_, ?_⟩
    · rwa [append_cons]
    · exact quiet
    · obtain ⟨happening, member, throws⟩ := threw
      exact ⟨happening, mem_cons_of_mem _ member, throws⟩
    · rw [append_cons, got]
      simp [Except.toOption]

end Runs

/-- Some events are received of a body that the platform delivers in chunks,
before the error that ends the exchange. -/
def Delivers (host : Foundation) (texts : Texts) (response : Response)
    (bytes : Data) (got : List Data) : Prop :=
  ∃ history stream chunks error now connectionAgeMS,
    Run host texts (opened texts response) history stream ∧
    chunks.flatten = bytes ∧
    callbacks history <+: schedule chunks error now connectionAgeMS ∧
    Threw history ∧ received history = got

section Packets

variable {host : Foundation} {texts : Texts} {response : Response}
variable {bytes : Data} {got : List Data}

theorem delivers_eq
    (delivers : Delivers host texts response bytes got)
    (bounded : bytes.length ≤ maximumBytes)
    (accepted : response.statusCode = 200)
    (sheltered : Sheltered bytes) :
    (Malformed bytes → got = []) ∧
      (¬ Malformed bytes → got = EventStream.events bytes) := by
  obtain ⟨history, stream, chunks, error, now, connectionAgeMS, run, rfl, within,
    threw, rfl⟩ := delivers
  have followed := followed_of_run bounded accepted run within
  obtain ⟨empty, ended⟩ := followed.last threw
  cases followed.standing with
  | reading parses =>
    rw [parses.alive] at ended
    cases ended
  | stopped good halted inside encoded balance cause =>
    rw [empty, append_nil] at balance
    rw [balance]
    refine ⟨fun malformed => ?_, fun fine => ?_⟩
    · exact sheltered.events_eq_nil malformed inside encoded
    · rw [cause.resolve_left fine]

theorem delivers_of_malformed
    {first second : Data}
    (bounded : (first ++ second).length ≤ maximumBytes)
    (accepted : response.statusCode = 200)
    (encoded : ¬ Malformed first)
    (malformed : Malformed (first ++ second)) :
    Delivers host texts response
      (first ++ second) (EventStream.events first) := by
  have status : (opened texts response).status = some 200 := congrArg some accepted
  have short : ([] ++ first).length ≤ maximumBytes := by
    rw [length_append] at bounded
    simp only [nil_append]
    omega
  have parses := (@parses_opened texts response).didReceive status short encoded
  have throws := parses.throws ((didReceive_status first).trans status) bounded malformed
  have begun : Run host texts (opened texts response)
      [(.didReceive first, none)] ((opened texts response).didReceive first) :=
    Runs.start.extend rfl
  have thrown : Run host texts (opened texts response)
      [(.didReceive first, none), (.didReceive second, none)] _ :=
    begun.extend (by
      simp only [act, parses.calm, Option.isSome_none, Bool.false_eq_true, if_false]
      rw [throws])
  have recorded : Run host texts (opened texts response)
      [(.didReceive first, none), (.didReceive second, none), (.record, none)]
      _ := thrown.extend rfl
  obtain ⟨later, final, run, quiet, threw, got⟩ := exists_drain recorded (terminal_finish _)
  refine ⟨_, final, [first, second], none, 0, 0, run, by simp, ?_, ?_, ?_⟩
  · rw [callbacks_append, quiet, append_nil]
    exact ⟨[.didComplete none 0 0], rfl⟩
  · obtain ⟨happening, member, throws⟩ := threw
    exact ⟨happening, mem_append_right _ member, throws⟩
  · exact got.trans parses.balance

theorem exists_delivers_ne
    (bounded : bytes.length ≤ maximumBytes)
    (accepted : response.statusCode = 200)
    (exposed : ¬ Sheltered bytes) :
    ∃ first second, Delivers host texts response bytes first ∧
      Delivers host texts response bytes second ∧ first ≠ second := by
  simp only [Sheltered, not_forall] at exposed
  obtain ⟨before, payload, after, split, earlier, invalid, event, member, visible⟩ := exposed
  obtain ⟨first, second, rfl, cut⟩ := exists_cut split
  have malformed : Malformed (first ++ second) := ⟨payload, by rw [split]; simp, invalid⟩
  have encoded : ¬ Malformed first := by
    rw [not_malformed, cut]
    exact earlier
  have empty : ¬ Malformed [] := not_malformed.mpr fun _ member => absurd member not_mem_nil
  refine ⟨_, _, @delivers_of_malformed host texts response [] (first ++ second) bounded
      accepted empty malformed,
    delivers_of_malformed bounded accepted encoded malformed, ?_⟩
  intro same
  have shown : event ∈ EventStream.events first := by
    rw [EventStream.events, cut]
    exact mem_filter.mpr ⟨member, by simpa using visible⟩
  rw [← same] at shown
  exact not_mem_nil shown

end Packets

end RouterEventStream

open EventStream RouterEventStream in
/-- What is received of a body does not depend on how the platform cuts it,
exactly if the response is no success or no event precedes the first payload
that is no text. -/
theorem packetization_decides_nothing_iff
    (host : Foundation)
    (texts : Texts)
    (response : Response)
    (bytes : Data)
    (bounded : bytes.length ≤ maximumBytes) :
    (∀ first second, Delivers host texts response bytes first →
      Delivers host texts response bytes second → first = second) ↔
      (response.statusCode = 200 → Sheltered bytes) := by
  constructor
  · intro same accepted
    by_contra exposed
    obtain ⟨first, second, one, two, different⟩ :=
      @exists_delivers_ne host texts response bytes bounded accepted exposed
    exact different (same first second one two)
  · intro sheltered first second one two
    by_cases accepted : response.statusCode = 200
    · have left := delivers_eq one bounded accepted (sheltered accepted)
      have right := delivers_eq two bounded accepted (sheltered accepted)
      by_cases malformed : Malformed bytes
      · rw [left.1 malformed, right.1 malformed]
      · rw [left.2 malformed, right.2 malformed]
    · obtain ⟨_, _, _, _, _, _, run, -, within, -, rfl⟩ := one
      obtain ⟨_, _, _, _, _, _, other, -, inside, -, rfl⟩ := two
      rw [silent_of_run accepted run within, silent_of_run accepted other inside]

open EventStream RouterEventStream in
/-- A body whose only payload is no text delivers nothing, however it is cut. -/
theorem lone_malformed_payload_delivers_nothing :
    (utf8 "data: " ++ [255, 10, 10]).length ≤ maximumBytes ∧
      ∀ first second,
        Delivers .mute .plain ⟨200, none, none⟩
          (utf8 "data: " ++ [255, 10, 10]) first →
        Delivers .mute .plain ⟨200, none, none⟩
          (utf8 "data: " ++ [255, 10, 10]) second →
        first = second := by
  refine ⟨by decide +kernel, ?_⟩
  refine (packetization_decides_nothing_iff .mute .plain ⟨200, none, none⟩
    (utf8 "data: " ++ [255, 10, 10]) (by decide +kernel)).mpr fun _ => ?_
  intro before payload after split earlier invalid
  have only : payloads (utf8 "data: " ++ [255, 10, 10]) = [[255]] := by decide +kernel
  rw [only] at split
  cases before with
  | nil => simp
  | cons first rest => simp at split

open EventStream RouterEventStream in
/-- An event that arrives in one chunk with a malformed one is lost, and
received when the chunk is cut between them. -/
theorem packets_decide_what_is_received :
    ∃ first second,
      Delivers .mute .plain ⟨200, none, none⟩
        (utf8 "data: first\n\ndata: " ++ [255, 10, 10]) first ∧
      Delivers .mute .plain ⟨200, none, none⟩
        (utf8 "data: first\n\ndata: " ++ [255, 10, 10]) second ∧
      first ≠ second := by
  have split : payloads (utf8 "data: first\n\ndata: " ++ [255, 10, 10]) =
      [utf8 "first"] ++ [255] :: [] := by decide +kernel
  refine exists_delivers_ne (by decide +kernel) rfl fun sheltered => ?_
  have lost := sheltered _ _ _ split (by decide +kernel) (by decide +kernel)
    (utf8 "first") (mem_singleton_self _)
  revert lost
  decide +kernel

end Turnrail
