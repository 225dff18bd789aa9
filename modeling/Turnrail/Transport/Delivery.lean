import Turnrail.Transport.Termination

/-!
# What a connection delivers

Every message that completed a result is returned by one receive, in the order
of arrival.  At most one message is buffered, and the failure of the connection
does not displace it.  Together with the invariants of single effects this
gives the behaviour of a connection over all of its runs.
-/

namespace Turnrail

open Interleaving List

namespace RouterWebSocket

open Socket

/-- The message that the next receive returns, if it has arrived. -/
def Socket.buffered (socket : Socket) : List Data :=
  match socket.messages socket.incoming with
  | some (.ok data) => [data]
  | _ => []

/-- The messages an event returns. -/
def Event.returned : Event operations Call → List Data
  | .performed _ (.finish _ outcome) _ => delivered outcome
  | _ => []

/-- The messages a trace returns. -/
def returned (trace : List (Moment operations Call Socket)) : List Data :=
  trace.flatMap fun moment => Event.returned moment.event

@[simp] theorem returned_append_singleton
    (trace : List (Moment operations Call Socket))
    (moment : Moment operations Call Socket) :
    returned (trace ++ [moment]) =
      returned trace ++ Event.returned moment.event := by
  simp [returned]

section Effects

variable {socket after : Socket} {thread other : Nat} {stage : Stage}
variable {effect : Effect} {reply : effect.Reply}

theorem complete_balance
    {slot : Nat}
    {result : Except Fault Data}
    (sound : socket.Sound)
    (created : slot ≤ socket.incoming) :
    ∃ arrival,
      (socket.complete slot result).arrived = socket.arrived ++ arrival ∧
      (socket.complete slot result).buffered = socket.buffered ++ arrival := by
  cases known : socket.messages slot with
  | some done =>
    refine ⟨[], ?_, ?_⟩
    · simp [complete, known]
    · simp [buffered, complete, RouterAsyncResult.complete_of_some known]
  | none =>
    have last : slot = socket.incoming := by
      refine created.lt_or_eq.resolve_left fun less => ?_
      have done := sound.older slot less
      rw [known] at done
      cases done
    subst last
    refine ⟨result.toOption.toList, by simp [complete, known], ?_⟩
    cases result <;>
      simp [buffered, complete, known, Except.toOption,
        RouterAsyncResult.complete_of_none known]

theorem Stage.Fits.balance
    (fits : stage.Fits socket thread)
    (sound : socket.Sound)
    (allowed : stage.Allows effect)
    (does : socket.Does thread effect reply after)
    (keeps : effect ≠ .renew) :
    ∃ arrival, after.arrived = socket.arrived ++ arrival ∧
      after.buffered = socket.buffered ++ arrival := by
  cases does with
  | renew => exact absurd rfl keeps
  | terminate failure lives =>
    refine ⟨[], by simp, ?_⟩
    unfold buffered
    rw [(terminate_untouched failure).incoming, terminate_messages]
    cases known : socket.messages socket.incoming with
    | some done =>
      rw [RouterAsyncResult.complete_of_some known, known]
      simp
    | none => simp [RouterAsyncResult.complete_of_none known]
  | complete slot result => exact complete_balance sound (fits.called slot allowed.1)
  | _ => exact ⟨[], (append_nil _).symm, (append_nil _).symm⟩

theorem renew_balance
    {data : Data}
    (sound : socket.Sound)
    (taken : socket.messages socket.incoming = some (.ok data)) :
    socket.renew.arrived = socket.arrived ∧ socket.buffered = [data] ∧
      socket.renew.buffered = [] := by
  have uncreated : socket.messages (socket.incoming + 1) = none :=
    sound.newer _ (Nat.lt_succ_self _)
  refine ⟨?_, by simp [buffered, taken], ?_⟩
  · unfold renew
    split <;> simp [complete, Except.toOption]
  · unfold renew
    split
    · simp [buffered, complete, RouterAsyncResult.complete_of_none uncreated]
    · simp [buffered, uncreated]

theorem Stage.Allows.carried
    (allowed : stage.Allows effect)
    (starts : effect ≠ .enter)
    (takes : effect ≠ .renew)
    (ends : ∀ call outcome, effect ≠ .finish call outcome) :
    (Stage.nextProgress stage.progress effect reply).carried =
        stage.progress.carried ∧
      (Stage.nextProgress stage.progress effect reply ≠ .outside →
        stage.progress ≠ .outside) := by
  cases effect with
  | enter => exact absurd rfl starts
  | renew => exact absurd rfl takes
  | finish call outcome => exact absurd rfl (ends call outcome)
  | beginSend =>
    rw [show stage.progress = .entered from allowed]
    cases reply <;> exact ⟨rfl, fun _ => nofun⟩
  | endSend =>
    obtain ⟨slot, sending⟩ := allowed
    rw [sending]
    exact ⟨rfl, fun _ => nofun⟩
  | readIncoming =>
    rw [show stage.progress = .entered from allowed]
    exact ⟨rfl, fun _ => nofun⟩
  | awaitMessage slot =>
    rw [show stage.progress = .reading slot from allowed]
    cases reply <;> exact ⟨rfl, fun _ => nofun⟩
  | _ => exact ⟨rfl, id⟩

theorem Socket.Does.consumer_none
    (does : socket.Does thread effect reply after)
    (ends : ∀ call outcome, effect ≠ .finish call outcome)
    (idle : after.consumer = none) :
    socket.consumer = none := by
  cases does with
  | enter free => exact free
  | renew =>
    obtain ⟨-, -, -, -, -, -, -, consumer⟩ := @Socket.renew_frame socket
    exact consumer.symm.trans idle
  | terminate failure lives => exact (terminate_untouched failure).consumer.symm.trans idle
  | finish call outcome => exact absurd rfl (ends call outcome)
  | _ => exact idle

end Effects

/-- Every message is returned or waits. -/
structure Accounted (trace : List (Moment operations Call Socket))
    (parties : Parties courtesy Socket) : Prop where
  within : returned trace <+: parties.world.arrived
  idle : parties.world.consumer = none →
    parties.world.arrived = returned trace ++ parties.world.buffered
  busy : ∀ thread (stage : Stage), parties.stages thread = some stage →
    stage.progress ≠ .outside →
    parties.world.arrived = returned trace ++ stage.progress.carried ++ parties.world.buffered

section Steps

variable {trace : List (Moment operations Call Socket)}
variable {parties : Parties courtesy Socket} {after : Socket}
variable {thread : Nat} {stage : Stage}
variable {effect : Effect} {reply : effect.Reply}

/-- The parties after an effect. -/
abbrev performed (parties : Parties courtesy Socket) (thread : Nat)
    (stage : Stage) (effect : Effect) (reply : effect.Reply)
    (after : Socket) : Parties courtesy Socket :=
  ⟨after, Function.update parties.stages thread (some (stage.next effect reply))⟩

theorem only_consumer
    (fits : ∀ thread (stage : Stage), parties.stages thread = some stage →
      stage.Fits parties.world thread)
    (known : parties.stages thread = some stage)
    (inside : stage.progress ≠ .outside)
    {other : Nat}
    {watcher : Stage}
    (present : parties.stages other = some watcher)
    (different : other ≠ thread) :
    watcher.progress = .outside := by
  by_contra within
  have one := (fits thread stage known).progress.consumer inside
  have two := (fits other watcher present).progress.consumer within
  exact different (Option.some.inj (two.symm.trans one))

variable (accounted : Accounted trace parties)
include accounted

theorem Accounted.renew
    {reply : Nat × Bool}
    (sound : parties.world.Sound)
    (fits : ∀ thread (stage : Stage), parties.stages thread = some stage →
      stage.Fits parties.world thread)
    (known : parties.stages thread = some stage)
    (allowed : stage.Allows .renew) :
    Accounted (trace ++ [⟨.performed thread .renew reply, parties.world.renew⟩])
      (performed parties thread stage .renew reply parties.world.renew) := by
  obtain ⟨data, holding⟩ := allowed
  have inside : stage.progress ≠ .outside := by
    rw [holding]
    nofun
  have holds := (fits thread stage known).progress
  rw [holding] at holds
  obtain ⟨arrived, buffered, empty⟩ := renew_balance sound holds.2
  obtain ⟨-, -, -, -, -, -, -, consumer⟩ := @Socket.renew_frame parties.world
  have balance := accounted.busy thread stage known inside
  rw [holding, buffered] at balance
  refine ⟨?_, fun idle => ?_, fun other watcher present within => ?_⟩
  · simpa [Event.returned, arrived] using accounted.within
  · rw [consumer, holds.1] at idle
    cases idle
  · rcases update_cases present with ⟨rfl, same⟩ | ⟨different, present⟩
    · cases same
      simpa [Event.returned, arrived, empty, Stage.next, Stage.nextProgress,
        holding, Progress.carried] using balance
    · exact absurd (only_consumer fits known inside present different) within

theorem Accounted.finish
    {call : Call}
    {outcome : Except Fault Result}
    (fits : ∀ thread (stage : Stage), parties.stages thread = some stage →
      stage.Fits parties.world thread)
    (known : parties.stages thread = some stage)
    (ends : stage.Ends call outcome)
    (does : parties.world.Does thread (.finish call outcome) () after) :
    Accounted (trace ++ [⟨.performed thread (.finish call outcome) (), after⟩])
      (performed parties thread stage (.finish call outcome) () after) := by
  cases does
  by_cases outside : stage.progress = .outside
  · have silent : delivered outcome = [] := by
      rw [ends.delivers, outside]
      rfl
    have consumes : call.consumes = false :=
      Bool.eq_false_iff.mpr fun consumes => ends.enters consumes outside
    have same : returned (trace ++ [⟨.performed thread
        (.finish call outcome) (), { parties.world with
          consumer := if call.consumes then none
            else parties.world.consumer }⟩]) = returned trace := by
      simp [Event.returned, silent]
    refine ⟨?_, fun idle => ?_, fun other watcher present within => ?_⟩
    · rw [same]
      exact accounted.within
    · rw [same]
      simp only [consumes, Bool.false_eq_true, if_false] at idle
      exact accounted.idle idle
    · rw [same]
      rcases update_cases present with ⟨rfl, ended⟩ | ⟨different, present⟩
      · cases ended
        exact absurd rfl within
      · exact accounted.busy other watcher present within
  · have balance := accounted.busy thread stage known outside
    rw [← ends.delivers] at balance
    refine ⟨?_, fun _ => ?_, fun other watcher present within => ?_⟩
    · rw [returned_append_singleton]
      exact ⟨_, balance.symm⟩
    · rw [returned_append_singleton]
      exact balance
    · rcases update_cases present with ⟨rfl, same⟩ | ⟨different, present⟩
      · cases same
        exact absurd rfl within
      · exact absurd (only_consumer fits known outside present different) within

theorem Accounted.quiet
    (sound : parties.world.Sound)
    (fits : ∀ thread (stage : Stage), parties.stages thread = some stage →
      stage.Fits parties.world thread)
    (known : parties.stages thread = some stage)
    (allowed : stage.Allows effect)
    (does : parties.world.Does thread effect reply after)
    (takes : effect ≠ .renew)
    (ends : ∀ call outcome, effect ≠ .finish call outcome) :
    Accounted (trace ++ [⟨.performed thread effect reply, after⟩])
      (performed parties thread stage effect reply after) := by
  obtain ⟨arrival, arrived, buffered⟩ :=
    (fits thread stage known).balance sound allowed does takes
  have silent : Event.returned (.performed thread effect reply) = [] := by
    cases effect with
    | finish call outcome => exact absurd rfl (ends call outcome)
    | _ => rfl
  -- What arrived is appended to both sides of the account.
  have moved : ∀ carried, parties.world.arrived =
        returned trace ++ carried ++ parties.world.buffered →
      after.arrived = returned trace ++ carried ++ after.buffered := by
    intro carried balance
    rw [arrived, buffered, balance, append_assoc]
  refine ⟨?_, fun idle => ?_, fun other watcher present within => ?_⟩
  · rw [returned_append_singleton, silent, append_nil]
    exact accounted.within.trans ⟨arrival, arrived.symm⟩
  · have balance := accounted.idle (does.consumer_none ends idle)
    simpa [silent] using moved [] (by simpa using balance)
  · rw [returned_append_singleton, silent, append_nil]
    refine moved _ ?_
    rcases update_cases present with ⟨rfl, same⟩ | ⟨-, present⟩
    · cases same
      by_cases starts : effect = .enter
      · subst starts
        cases does with
        | enter free =>
          simpa [Stage.next, Stage.nextProgress, Progress.carried] using accounted.idle free
      · obtain ⟨carried, further⟩ := allowed.carried starts takes ends
        change parties.world.arrived = returned trace ++
          (Stage.nextProgress stage.progress effect reply).carried ++ _
        rw [carried]
        exact accounted.busy other stage known (further within)
    · exact accounted.busy other watcher present within

theorem Accounted.perform
    (sound : parties.world.Sound)
    (fits : ∀ thread (stage : Stage), parties.stages thread = some stage →
      stage.Fits parties.world thread)
    (known : parties.stages thread = some stage)
    (allowed : stage.Allows effect)
    (does : parties.world.Does thread effect reply after) :
    Accounted (trace ++ [⟨.performed thread effect reply, after⟩])
      (performed parties thread stage effect reply after) := by
  by_cases takes : effect = .renew
  · subst takes
    cases does
    exact accounted.renew sound fits known allowed
  · by_cases ends : ∃ call outcome, effect = .finish call outcome
    · obtain ⟨call, outcome, rfl⟩ := ends
      exact accounted.finish fits known allowed does
    · refine accounted.quiet sound fits known allowed does takes ?_
      intro call outcome same
      exact ends ⟨call, outcome, same⟩

end Steps

/-- What holds of everything that happened and of the connection it left. -/
structure Recorded (trace : List (Moment operations Call Socket))
    (parties : Parties courtesy Socket) : Prop where
  sound : parties.world.Sound
  fits : ∀ thread (stage : Stage), parties.stages thread = some stage →
    stage.Fits parties.world thread
  first : ∀ moment ∈ trace, ∀ failure, moment.world.terminal = some failure →
    parties.world.terminal = some failure
  blamed : ∀ moment ∈ trace, ∀ thread call error,
    moment.event = .performed thread (.finish call (.error error)) () →
    parties.world.Blames error
  accounted : Accounted trace parties

theorem start_fits
    (socket : Socket)
    (thread : Nat)
    (call : Call) :
    (Stage.start call).Fits socket thread where
  met _ member := absurd member not_mem_nil
  renewed _ _ member := absurd member not_mem_nil
  called _ member := absurd member not_mem_nil
  guard := trivial
  progress := trivial

theorem recorded_start : Recorded [] ⟨start, fun _ => none⟩ where
  sound := start_sound
  fits _ _ present := by cases present
  first _ member := absurd member not_mem_nil
  blamed _ member := absurd member not_mem_nil
  accounted := ⟨ nil_prefix, fun _ => rfl, fun _ _ present => by
    cases present⟩

section Runs

variable {trace : List (Moment operations Call Socket)}
variable {parties next : Parties courtesy Socket}
variable {event : Event operations Call}

theorem Recorded.still
    {stages : Nat → Option Stage}
    (recorded : Recorded trace parties)
    (silent : ∀ thread effect reply, event ≠ .performed thread effect reply)
    (fresh : ∀ thread stage, stages thread = some stage →
      parties.stages thread = some stage ∨ ∃ call, stage = .start call) :
    Recorded (trace ++ [⟨event, parties.world⟩]) ⟨parties.world, stages⟩ := by
  have same : returned (trace ++ [⟨event, parties.world⟩]) = returned trace := by
    cases event with
    | performed thread effect reply => exact absurd rfl (silent _ _ _)
    | _ => simp [Event.returned]
  refine ⟨recorded.sound, ?_, ?_, ?_, ?_, ?_, ?_⟩
  · intro thread stage present
    rcases fresh thread stage present with present | ⟨call, rfl⟩
    · exact recorded.fits thread stage present
    · exact start_fits _ thread call
  · intro moment member failure ended
    rcases mem_append.mp member with member | member
    · exact recorded.first moment member failure ended
    · obtain rfl := mem_singleton.mp member
      exact ended
  · intro moment member thread call error happened
    rcases mem_append.mp member with member | member
    · exact recorded.blamed moment member thread call error happened
    · obtain rfl := mem_singleton.mp member
      exact absurd happened (silent _ _ _)
  · rw [same]
    exact recorded.accounted.within
  · rw [same]
    exact recorded.accounted.idle
  · rw [same]
    intro thread stage present within
    rcases fresh thread stage present with present | ⟨call, rfl⟩
    · exact recorded.accounted.busy thread stage present within
    · exact absurd rfl within

theorem Recorded.perform
    {thread : Nat}
    {stage : Stage}
    {effect : Effect}
    {reply : effect.Reply}
    {after : Socket}
    (recorded : Recorded trace parties)
    (known : parties.stages thread = some stage)
    (allowed : stage.Allows effect)
    (does : parties.world.Does thread effect reply after) :
    Recorded (trace ++ [⟨.performed thread effect reply, after⟩])
      (performed parties thread stage effect reply after) := by
  have fits := recorded.fits thread stage known
  have advances := does.advances
  refine ⟨fits.sound recorded.sound allowed does, ?_, ?_, ?_,
    recorded.accounted.perform recorded.sound recorded.fits known allowed does⟩
  · intro other watcher present
    rcases update_cases present with ⟨rfl, same⟩ | ⟨different, present⟩
    · cases same
      exact fits.next recorded.sound allowed does
    · exact (recorded.fits other watcher present).elsewhere fits allowed does different
  · intro moment member failure ended
    rcases mem_append.mp member with member | member
    · exact advances.terminal failure (recorded.first moment member failure ended)
    · obtain rfl := mem_singleton.mp member
      exact ended
  · intro moment member other call error happened
    rcases mem_append.mp member with member | member
    · exact (recorded.blamed moment member other call error happened).mono advances
    · obtain rfl := mem_singleton.mp member
      cases happened
      exact (fits.blames (allowed.meets error rfl)).mono advances

theorem Recorded.step
    (recorded : Recorded trace parties)
    (taken : Protocol.Step machine courtesy Stage.start parties event next) :
    Recorded (trace ++ [⟨event, next.world⟩]) next := by
  have origin := fun thread stage (present : next.stages thread = some stage) =>
    taken.stage_cases present
  cases taken with
  | perform thread known allowed admitted executed =>
    obtain ⟨answer, acts⟩ := executed
    exact recorded.perform known allowed (does_of_act acts)
  | drift drifts => cases drifts
  | restart resets => cases resets
  | _ =>
    refine recorded.still (fun _ _ _ same => by cases same) fun thread stage present => ?_
    rcases origin thread stage present with ⟨call, -, rfl⟩ | ⟨_, _, _, ⟨⟩, -⟩ | ⟨present, -⟩
    · exact .inr ⟨call, rfl⟩
    · exact .inl present

theorem recorded_of_run
    (run : Protocol.Run machine courtesy Stage.start start trace parties) :
    Recorded trace parties :=
  run.record Recorded recorded_start fun recorded taken => recorded.step taken

end Runs

section Guarantees

variable {trace earlier later : List (Moment operations Call Socket)}
variable {moment : Moment operations Call Socket}
variable {parties : Parties courtesy Socket}
variable {thread : Nat}

theorem drained_of_run
    {error : Fault}
    (run : Protocol.Run machine courtesy Stage.start start
      (earlier ++ moment :: later) parties)
    (threw :
      moment.event = .performed thread (.finish .receive (.error error)) ()) :
    moment.world.arrived = returned earlier := by
  obtain ⟨before, after, run, taken, same⟩ := run.at
  have recorded := recorded_of_run run
  rw [threw] at taken
  cases taken with
  | perform _ known allowed admitted executed =>
    obtain ⟨answer, acts⟩ := executed
    have refused := allowed.refuses error rfl rfl
    have fits := (recorded.fits thread _ known).progress
    have balance := recorded.accounted.busy thread _ known (by
      rw [refused]
      nofun)
    rw [refused] at fits balance
    obtain ⟨-, failure, failed⟩ := fits
    have empty : before.world.buffered = [] := by simp [buffered, failed]
    rw [empty] at balance
    rw [same]
    cases does_of_act acts
    simpa [Progress.carried] using balance

/-- The connection has failed, and a thread has not announced a check. -/
def Unannounced (failure : Fault) (thread : Nat)
    (parties : Parties courtesy Socket) : Prop :=
  parties.world.terminal = some failure ∧
    ∀ stage : Stage, parties.stages thread = some stage → ¬ Began stage.journal

theorem not_began_start (call : Call) : ¬ Began (Stage.start call).journal := by
  rintro ⟨slot, member⟩
  exact not_mem_nil member

theorem unannounced_step
    {before after : Parties courtesy Socket}
    {event : Event operations Call}
    {failure : Fault}
    (taken : Protocol.Step machine courtesy Stage.start before event after)
    (holds : Unannounced failure thread before) :
    Unannounced failure thread after := by
  obtain ⟨ended, none⟩ := holds
  have origin := fun stage (present : after.stages thread = some stage) =>
    taken.stage_cases present
  cases taken with
  | @perform _ stage effect reply other known allowed admitted executed =>
    obtain ⟨answer, acts⟩ := executed
    have does := does_of_act acts
    refine ⟨does.advances.terminal failure ended, fun watcher present => ?_⟩
    rcases update_cases present with ⟨rfl, same⟩ | ⟨-, present⟩
    · cases same
      rintro ⟨slot, member⟩
      rcases mem_cons.mp member with same | member
      · cases same
        cases does with
        | beginProbe lives =>
          rw [ended] at lives
          cases lives
      · exact none stage known ⟨slot, member⟩
    · exact none watcher present
  | drift drifts => cases drifts
  | restart resets => cases resets
  | _ =>
    refine ⟨ended, fun stage present => ?_⟩
    rcases origin stage present with ⟨call, -, rfl⟩ | ⟨_, _, _, ⟨⟩, -⟩ | ⟨present, -⟩
    · exact not_began_start call
    · exact none stage present

theorem checks_fail_of_run
    {failure : Fault}
    (run : Protocol.Run machine courtesy Stage.start start
      (earlier ++ moment :: later) parties)
    (spawned : moment.event = .spawned thread .checkConnection)
    (ended : moment.world.terminal = some failure) :
    ∀ other ∈ later, ∀ result, other.event ≠
      .performed thread (.finish .checkConnection (.ok result)) () := by
  intro other member result happened
  obtain ⟨between, rest, rfl⟩ := append_of_mem member
  rw [← cons_append, ← append_assoc] at run
  obtain ⟨before, after, run, taken, -⟩ := run.at
  obtain ⟨idle, started, -, starts, world, onward⟩ := run.onward
  have established : Unannounced failure thread started := by
    refine ⟨world ▸ ended, fun stage present => ?_⟩
    rw [spawned] at starts
    cases starts with
    | spawn _ _ absent =>
      rcases update_cases present with ⟨-, same⟩ | ⟨different, -⟩
      · cases same
        exact not_began_start _
      · exact absurd rfl different
  obtain ⟨⟨-, unannounced⟩, -⟩ := onward (Unannounced failure thread)
    established fun _ _ taken holds => unannounced_step taken holds
  rw [happened] at taken
  cases taken with
  | perform _ known allowed admitted executed =>
    exact unannounced _ known (allowed.checks result rfl rfl)

end Guarantees

/-- No thread waits for a result that is open. -/
def Woken (pool : Pool operations Call Socket) : Prop :=
  ∀ thread, (∀ slot resume,
    pool.threads thread = .running (.perform (.awaitMessage slot) resume) →
      (pool.world.messages slot).isSome = true) ∧
    ∀ slot resume, pool.threads thread = .running (.perform (.awaitSignal slot) resume) →
      (pool.world.signals slot).isSome = true

theorem woken_of_recorded
    {trace : List (Moment operations Call Socket)}
    {pool : Pool operations Call Socket}
    {stages : Nat → Option Stage}
    (fits : certificate.Fits pool.threads stages)
    (recorded : Recorded trace ⟨pool.world, stages⟩)
    (ended : pool.world.terminal ≠ none) :
    Woken pool := by
  intro thread
  constructor
  · intro slot resume waits
    obtain ⟨stage, known, follows⟩ := fits.running waits
    have knows := (recorded.fits thread stage known).progress
    rw [show stage.progress = .reading slot from follows.1] at knows
    rw [knows.2]
    exact recorded.sound.settled.incoming ended
  · intro slot resume waits
    obtain ⟨stage, known, follows⟩ := fits.running waits
    have knows := recorded.fits thread stage known
    rcases follows.1 with probing | sending
    · have guard := knows.guard
      rw [probing] at guard
      exact recorded.sound.settled.pendingProbe ended slot guard.2
    · have progress := knows.progress
      rw [sending] at progress
      exact recorded.sound.settled.pendingSend ended slot progress.2

end RouterWebSocket

open RouterWebSocket in
/-- The first failure of a connection stays its failure, wakes everyone who
waits, and is the only error that is thrown, up to the phase.  No check that
starts after it returns.  Messages that arrived are returned once, in order and
before the failure. -/
theorem first_failure_ends_the_connection
    {trace : List (Moment RouterWebSocket.operations Call Socket)}
    {pool : Pool RouterWebSocket.operations Call Socket}
    (run : Run trace pool) :
    (∀ moment ∈ trace, ∀ failure, moment.world.terminal = some failure →
        pool.world.terminal = some failure) ∧
      pool.world.Settled ∧
      (pool.world.terminal ≠ none → Woken pool) ∧
      (∀ moment ∈ trace, ∀ thread call error,
        moment.event = .performed thread (.finish call (.error error)) () →
        ∃ failure, pool.world.terminal = some failure ∧
          ∃ phase, error = failure.inPhase phase) ∧
      (∀ earlier moment later thread, trace = earlier ++ moment :: later →
        moment.event = .spawned thread .checkConnection →
        moment.world.terminal ≠ none →
        ∀ other ∈ later, ∀ result, other.event ≠
          .performed thread (.finish .checkConnection (.ok result)) ()) ∧
      returned trace <+: pool.world.arrived ∧
      (pool.world.consumer = none →
        pool.world.arrived = returned trace ++ pool.world.buffered) ∧
      (∀ earlier moment later thread error, trace = earlier ++ moment :: later →
        moment.event = .performed thread (.finish .receive (.error error)) () →
        moment.world.arrived = returned earlier) := by
  obtain ⟨stages, fits, followed⟩ :=
    run.refines RouterWebSocket.certificate fun _ _ _ _ => trivial
  have recorded := recorded_of_run followed
  refine ⟨recorded.first, recorded.sound.settled, woken_of_recorded fits recorded,
    recorded.blamed, ?_, recorded.accounted.within, recorded.accounted.idle, ?_⟩
  · rintro earlier moment later thread rfl spawned ended
    obtain ⟨failure, ended⟩ := Option.ne_none_iff_exists'.mp ended
    exact checks_fail_of_run followed spawned ended
  · rintro earlier moment later thread error rfl threw
    exact drained_of_run followed threw

namespace RouterWebSocket.Rehearsal

/-- A script of calls. -/
abbrev Script := List (Command ((effect : Effect) → effect.Reply) Call)

/-- A peer that says nothing. -/
def silence : (effect : Effect) → effect.Reply
  | .beginProbe | .beginSend => .ok 0
  | .awaitSignal _ => none
  | .awaitMessage _ => .ok []
  | .readTerminal => none
  | .readIncoming => 0
  | .renew => (0, true)
  | .observe => (0, 20000)
  | .terminate failure => (failure, true)
  | .enter | .lockProbe | .unlockProbe | .endProbe | .endSend | .start _ _
  | .called _ | .cancel | .complete _ _ | .signal _ _ | .finish _ _ => ()

/-- Call and run for some steps. -/
def call (thread steps : Nat) (call : Call) : Script :=
  .spawn thread call :: replicate steps (.run thread silence)

/-- A message arrives, a keepalive expires, and the consumer receives twice. -/
def lostPeer : Script :=
  call 0 4 (.received 0 (.ok (.string "reply"))) ++ call 1 10 .keepAlive ++
    call 2 6 .receive ++ call 3 5 .receive

/-- The message is returned. -/
def receiving : Goal (Moment RouterWebSocket.operations Call Socket) where
  wanted moment :=
    decide (Event.returned moment.event = [utf8 "reply"] ∧ moment.world.terminal ≠ none)

/-- The failure is returned. -/
def failing : Goal (Moment RouterWebSocket.operations Call Socket) where
  wanted moment :=
    match moment.event with
    | .performed _ (.finish .receive (.error (.transport failure))) _ =>
      decide (failure.phase = .receive ∧ failure.cause = .keepAlive)
    | _ => false

theorem run
    (script : Script)
    (goals : List (Goal (Moment RouterWebSocket.operations Call Socket)))
    (passes : ((Pool.idle Socket.start).simulate execution code script).any
      (fun result => visits goals (fun _ => true) result.1) = true) :
    ∃ trace pool, Run trace pool ∧ visits goals (fun _ => true) trace = true :=
  Pool.rehearse execution script (visits goals fun _ => true) passes

end RouterWebSocket.Rehearsal

open RouterWebSocket in
/-- A message that arrived before a keepalive expired is received after it, and
the next receive throws the failure of the keepalive. -/
theorem buffered_message_precedes_failure :
    ∃ trace pool, Run trace pool ∧
      ∃ before got between threw later thread failure,
        trace = before ++ got :: (between ++ threw :: later) ∧
        Event.returned got.event = [utf8 "reply"] ∧
        got.world.terminal ≠ none ∧
        threw.event = .performed thread
          (.finish .receive (.error (.transport failure))) () ∧
        failure.cause = .keepAlive ∧
        threw.world.arrived = returned (before ++ got :: between) ∧
        ∃ terminal, pool.world.terminal = some terminal ∧
          ∃ phase, Fault.transport failure = terminal.inPhase phase := by
  obtain ⟨trace, pool, run, visited⟩ :=
    RouterWebSocket.Rehearsal.run RouterWebSocket.Rehearsal.lostPeer
      [RouterWebSocket.Rehearsal.receiving, RouterWebSocket.Rehearsal.failing]
      (by decide +kernel)
  obtain ⟨before, got, rest, rfl, -, receives, visited⟩ := split_of_visits visited
  obtain ⟨between, threw, later, rfl, -, fails, -⟩ := split_of_visits visited
  obtain ⟨returns, ended⟩ := of_decide_eq_true receives
  have threw : ∃ thread failure, threw.event = .performed thread
      (.finish .receive (.error (.transport failure))) () ∧ failure.cause = .keepAlive := by
    unfold RouterWebSocket.Rehearsal.failing at fails
    dsimp only at fails
    split at fails
    · rename_i thread failure reply happened
      exact ⟨thread, failure, happened, (of_decide_eq_true fails).2⟩
    · cases fails
  obtain ⟨thread, failure, happened, cause⟩ := threw
  obtain ⟨-, -, -, blamed, -, -, -, drained⟩ := first_failure_ends_the_connection run
  exact ⟨_, pool, run, before, got, between, _, later, thread, failure, rfl,
    returns, ended, happened, cause,
    drained (before ++ got :: between) _ later thread _ (by simp) happened,
    blamed _ (by simp) thread _ _ happened⟩

end Turnrail
