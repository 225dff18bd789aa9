import Turnrail.Ledger.Requests

/-!
# The ledger accepts exactly the lifecycle

In a run whose file writes succeed, the calls on one fingerprint that succeed
form a word of the lifecycle, for one turn.  A fresh fingerprint of a bound turn
that may continue accepts every such word.
-/

namespace Turnrail

open RouterLedger

/-- A run of calls without failures of the disk. -/
inductive LedgerRun (host : Foundation) (start : Ledger) :
    List LedgerCall → Ledger → Prop
  | start : LedgerRun host start [] start
  | succeeded {done ledger call value after} :
      LedgerRun host start done ledger →
      RouterLedger.call (LedgerCall.run host call) ledger [] = (.ok value, after) →
      LedgerRun host start (done ++ [call]) after
  | refused {done ledger call failure after} :
      LedgerRun host start done ledger →
      RouterLedger.call (LedgerCall.run host call) ledger [] = (.error failure, after) →
      LedgerRun host start done after
  | reloaded {done ledger after disk} :
      LedgerRun host start done ledger →
      RouterLedger.init ledger.disk [] = (.ok after, disk) →
      LedgerRun host start done after

/-- The operations on a request with their turns. -/
def operations (fingerprint : String) (done : List LedgerCall) :
    List (Operation × String) :=
  done.filterMap (LedgerCall.concerning fingerprint)

/-- All calls succeed one after the other when file writes succeed. -/
def accepts (host : Foundation) : Ledger → List LedgerCall → Bool
  | _, [] => true
  | ledger, call :: rest =>
    let outcome := RouterLedger.call (call.run host) ledger []
    outcome.1.isOk && accepts host outcome.2 rest

variable {host : Foundation}

/-- The saved state is the memory, apart from responses that were stored for a
request that could not be finished. -/
def Ledger.Synced (ledger : Ledger) : Prop :=
  ∃ history, ledger.disk.ledger = some { ledger.state with history := history }

theorem not_faulty_nil : ¬ Faulty [] := by
  rintro ⟨outcome, member, _⟩
  contradiction

variable {call : LedgerCall} {writes : List WriteOutcome} {fingerprint turn : String}
variable {operation : Operation} {next : RequestState} {done : List LedgerCall}
variable {start ledger before after : Ledger} {account : UUID}

theorem Outcome.synced
    {result : Except PlainError call.Value}
    (outcome : Outcome host [] before call result after)
    (synced : before.Synced) :
    after.Synced := by
  obtain ⟨history, saved⟩ := synced
  cases outcome with
  | answered _ memory same _ => exact ⟨history, by rw [same, saved, memory]⟩
  | unfinished _ memory same _ _ =>
    refine ⟨history, ?_⟩
    rw [same, saved, memory]
    rfl
  | changed list makes memory lags durable faulty _ _ =>
    refine ⟨after.state.history, ?_⟩
    apply durable
    by_contra failed
    exact not_faulty_nil (faulty (by simpa using failed))

theorem Outcome.requests_of_error
    {failure : PlainError}
    (outcome : Outcome host [] before call (.error failure) after) :
    after.state.requests = before.state.requests := by
  cases outcome with
  | answered _ memory _ _ => rw [memory]
  | unfinished _ memory _ _ _ =>
    rw [memory]
    rfl
  | changed list makes memory lags durable faulty _ _ =>
    exact absurd (faulty rfl) not_faulty_nil

variable {ledger : Ledger}

theorem Ledger.Synced.reload
    {disk : Disk}
    (synced : ledger.Synced)
    (opened : RouterLedger.init ledger.disk writes = (.ok after, disk)) :
    after.Synced ∧ after.state.requests = ledger.state.requests ∧ ∀ turn,
      ledger.state.isFailed turn = true → after.state.isFailed turn = true := by
  obtain ⟨history, saved⟩ := synced
  rcases init_cases opened with ⟨failure, impossible, _⟩ | ⟨_, _, _, success⟩
  · contradiction
  · obtain ⟨rfl, durable⟩ := success after rfl
    have state : ledger.disk.opened =
        { ledger.state with history := history }.blockInFlight := by
      simp only [Disk.opened, saved]
    refine ⟨⟨_, durable⟩, ?_, ?_⟩
    · rw [state]
      rfl
    · intro turn failed
      rw [state]
      exact (LedgerState.extends_blockInFlight _).failed failed

/-- The table follows the operations on a request. -/
structure Tracked
    (fingerprint : String) (done : List LedgerCall) (requests : Table Request) : Prop where
  unknown : requests.lookup fingerprint = none → operations fingerprint done = []
  word : ∀ {request}, requests.lookup fingerprint = some request →
    (operations fingerprint done).map Prod.fst ∈ words request.state
  owner : ∀ {request}, requests.lookup fingerprint = some request →
    ∀ named ∈ operations fingerprint done, named.2 = request.turn

theorem operations_append
    (fingerprint : String)
    (done : List LedgerCall)
    (call : LedgerCall) :
    operations fingerprint (done ++ [call]) = operations fingerprint done ++
        (call.concerning fingerprint).toList := by
  unfold operations
  rw [List.filterMap_append]
  cases known : call.concerning fingerprint <;> simp [known]

theorem LedgerCall.operation_of_concerning
    (concerns : call.concerning fingerprint = some (operation, turn)) :
    call.operation = some (fingerprint, operation, turn) := by
  unfold LedgerCall.concerning at concerns
  cases performs : call.operation with
  | none => simp [performs] at concerns
  | some named =>
    obtain ⟨other, found, owner⟩ := named
    simp only [performs] at concerns
    split at concerns
    · rename_i same
      subst same
      cases concerns
      rfl
    · contradiction

theorem LedgerCall.concerning_self
    (performs : call.operation = some (fingerprint, operation, turn)) :
    call.concerning fingerprint = some (operation, turn) := by
  simp only [LedgerCall.concerning, performs, if_true]

theorem Operation.next_none (step : operation.next none = some next) :
    operation = .begin ∧ next = .forwarding := by
  cases operation <;> cases step
  exact ⟨rfl, rfl⟩

theorem Tracked.moves
    {before after : LedgerState}
    (tracked : Tracked fingerprint done before.requests)
    (concerns : call.concerning fingerprint = some (operation, turn))
    (moves : Moves fingerprint operation turn before after next) :
    Tracked fingerprint (done ++ [call]) after.requests := by
  have extended : operations fingerprint (done ++ [call]) =
      operations fingerprint done ++ [(operation, turn)] := by
    rw [operations_append, concerns]
    rfl
  have recorded := moves.recorded
  have step := moves.step
  refine ⟨?_, ?_, ?_⟩
  · intro absent
    rw [recorded] at absent
    contradiction
  · intro request known
    rw [recorded] at known
    cases known
    rw [extended, List.map_append]
    cases current : before.requests.lookup fingerprint with
    | none =>
      rw [current] at step
      obtain ⟨rfl, rfl⟩ := Operation.next_none step
      rw [tracked.unknown current]
      exact submission_le rfl
    | some request =>
      rw [current] at step
      exact words_mul_le step (Language.append_mem_mul (tracked.word current) rfl)
  · intro request known named member
    rw [recorded] at known
    cases known
    rw [extended, List.mem_append, List.mem_singleton] at member
    rcases member with earlier | rfl
    · cases current : before.requests.lookup fingerprint with
      | none =>
        rw [tracked.unknown current] at earlier
        contradiction
      | some request =>
        rw [tracked.owner current named earlier]
        exact moves.owner current
    · rfl

variable {fingerprint : String} {done : List LedgerCall}

theorem Tracked.keeps
    {call : LedgerCall}
    {before after : Table Request}
    (tracked : Tracked fingerprint done before)
    (concerns : call.concerning fingerprint = none)
    (same : AList.lookup fingerprint after = before.lookup fingerprint) :
    Tracked fingerprint (done ++ [call]) after := by
  have extended : operations fingerprint (done ++ [call]) = operations fingerprint done := by
    rw [operations_append, concerns]
    simp
  refine ⟨?_, ?_, ?_⟩
  · rw [same, extended]
    exact tracked.unknown
  · intro request
    rw [same, extended]
    exact tracked.word
  · intro request
    rw [same, extended]
    exact tracked.owner

theorem LedgerRun.tracked
    (run : LedgerRun host start done ledger)
    (synced : start.Synced)
    (fresh : start.state.requests.lookup fingerprint = none) :
    ledger.Synced ∧ Tracked fingerprint done ledger.state.requests := by
  induction run with
  | start =>
    refine ⟨synced, fun _ => rfl, ?_, ?_⟩
    · intro request known
      rw [fresh] at known
      contradiction
    · intro request known
      rw [fresh] at known
      contradiction
  | @succeeded done current call value after _ called ih =>
    obtain ⟨before, tracked⟩ := ih
    have outcome := LedgerCall.outcome called
    refine ⟨outcome.synced before, ?_⟩
    cases concerns : call.concerning fingerprint with
    | some named =>
      obtain ⟨operation, turn⟩ := named
      obtain ⟨next, moves⟩ := outcome.moves (LedgerCall.operation_of_concerning concerns)
      exact tracked.moves concerns moves
    | none =>
      rcases outcome.request fingerprint with same | moved
      · exact tracked.keeps concerns same
      · obtain ⟨operation, turn, next, performs, _⟩ := moved
        rw [LedgerCall.concerning_self performs] at concerns
        contradiction
  | refused _ called ih =>
    obtain ⟨before, tracked⟩ := ih
    have outcome := LedgerCall.outcome called
    rw [outcome.requests_of_error]
    exact ⟨outcome.synced before, tracked⟩
  | reloaded _ opened ih =>
    obtain ⟨before, tracked⟩ := ih
    obtain ⟨after, requests, _⟩ := before.reload opened
    rw [requests]
    exact ⟨after, tracked⟩

variable {turn : String}

theorem LedgerRun.failed
    {start : Ledger}
    (run : LedgerRun host start done ledger)
    (synced : start.Synced)
    (failed : start.state.isFailed turn = true) :
    ledger.Synced ∧ ledger.state.isFailed turn = true ∧
      ∀ fingerprint, LedgerCall.begin fingerprint turn ∉ done := by
  induction run with
  | start => exact ⟨synced, failed, by simp⟩
  | @succeeded done current call value after _ called ih =>
    obtain ⟨before, still, none⟩ := ih
    have outcome := LedgerCall.outcome called
    refine ⟨outcome.synced before, outcome.extends.failed still, ?_⟩
    intro fingerprint member
    rcases List.mem_append.mp member with earlier | last
    · exact none fingerprint earlier
    · cases List.mem_singleton.mp last
      obtain ⟨-, -, healthy, -⟩ := outcome.begin_admitted
      rw [healthy] at still
      contradiction
  | refused _ called ih =>
    obtain ⟨before, still, none⟩ := ih
    have outcome := LedgerCall.outcome called
    exact ⟨outcome.synced before, outcome.extends.failed still, none⟩
  | reloaded _ opened ih =>
    obtain ⟨before, still, none⟩ := ih
    obtain ⟨after, _, kept⟩ := before.reload opened
    exact ⟨after, kept turn still, none⟩

/-- What a successful operation leaves for the next one. -/
def Accepted
    (fingerprint turn : String) (account : UUID) (next : RequestState)
    (result : Except PlainError Unit) (reached : Session) : Prop :=
  result.isOk = true ∧ reached.ledger.state.Binds turn account ∧
    reached.ledger.state.requests.lookup fingerprint = some ⟨turn, next⟩

theorem record_accepted
    (binds : ledger.state.Binds turn account)
    (fingerprint : String)
    (next : RequestState) :
    (record fingerprint turn next).Ends
      ⟨ledger, []⟩ (Accepted fingerprint turn account next) :=
  ⟨rfl, binds, Table.lookup_insert_self _ _ _⟩

variable (host) in
theorem operation_accepted
    (binds : ledger.state.Binds turn account)
    (owner : ∀ {request},
      ledger.state.requests.lookup fingerprint = some request →
      request.turn = turn)
    (step : operation.next
      ((ledger.state.requests.lookup fingerprint).map Request.state) =
        some next) :
    let called :=
      RouterLedger.call ((operation.call fingerprint turn).run host) ledger []
    called.1.isOk = true ∧ called.2.state.Binds turn account ∧
      called.2.state.requests.lookup fingerprint = some ⟨turn, next⟩ := by
  have recorded := record_accepted binds fingerprint
  obtain ⟨continues, bound⟩ := binds
  cases known : ledger.state.requests.lookup fingerprint with
  | none =>
    rw [known] at step
    obtain ⟨rfl, rfl⟩ := Operation.next_none step
    change (begin fingerprint turn).Ends ⟨ledger, []⟩
      (Accepted fingerprint turn account .forwarding)
    simpa [begin, RouterLedger.bound, continues, bound, known] using recorded .forwarding
  | some request =>
    obtain ⟨named, current⟩ := request
    cases owner known
    rw [known, Option.map_some] at step
    cases operation with
    | begin =>
      change (begin fingerprint named).Ends
        ⟨ledger, []⟩ (Accepted fingerprint named account next)
      have admitted : resubmission current = some next := step
      simpa [begin, RouterLedger.bound, continues, bound, known, admitted] using recorded next
    | interrupt =>
      change (interrupt fingerprint named).Ends ⟨ledger, []⟩
        (Accepted fingerprint named account next)
      have admitted : interruption current = some next := step
      simpa [interrupt, known, admitted] using recorded next
    | cancel =>
      change (cancel fingerprint named).Ends
        ⟨ledger, []⟩ (Accepted fingerprint named account next)
      cases current <;> cases step
      case forwarding.refl | retrying.refl => simpa [cancel, known] using recorded .cancelled
      case completed.refl | cancelled.refl =>
          simpa [cancel, known, Accepted] using ⟨rfl, ⟨continues, bound⟩⟩
    | rejectConnectionLimit =>
      change (rejectConnectionLimit fingerprint named).Ends ⟨ledger, []⟩
        (Accepted fingerprint named account next)
      cases current <;> cases step
      simpa [rejectConnectionLimit, known] using recorded .connectionLimited
    | finish =>
      change (finish fingerprint named).Ends
        ⟨ledger, []⟩ (Accepted fingerprint named account next)
      simp only [Operation.next] at step
      split at step
      · rename_i inFlight
        cases step
        simpa [finish, known, inFlight] using recorded .completed
      · contradiction

theorem accepts_of_reading
    {word : List Operation}
    {final : Option RequestState}
    (binds : ledger.state.Binds turn account)
    (owner : ∀ {request}, ledger.state.requests.lookup fingerprint =
        some request → request.turn = turn)
    (reads : word ∈ reading
        ((ledger.state.requests.lookup fingerprint).map Request.state) final) :
    accepts host ledger (word.map (Operation.call fingerprint turn)) =
      true := by
  induction word generalizing ledger with
  | nil => rfl
  | cons operation rest ih =>
    rw [mem_reading, List.foldlM_cons] at reads
    cases step : operation.next
        ((ledger.state.requests.lookup fingerprint).map Request.state) with
    | none =>
      rw [step] at reads
      contradiction
    | some next =>
      rw [step] at reads
      obtain ⟨succeeds, still, recorded⟩ := operation_accepted host binds owner step
      rw [List.map_cons, accepts, Bool.and_eq_true]
      refine ⟨succeeds, ih still ?_ ?_⟩
      · intro request known
        rw [recorded] at known
        cases known
        rfl
      · rw [recorded]
        exact reads

theorem LedgerRun.of_accepts
    {calls : List LedgerCall}
    (run : LedgerRun host start done ledger)
    (accepted : accepts host ledger calls = true) :
    ∃ final, LedgerRun host start (done ++ calls) final := by
  induction calls generalizing done ledger with
  | nil =>
    rw [List.append_nil]
    exact ⟨ledger, run⟩
  | cons call rest ih =>
    rw [accepts, Bool.and_eq_true] at accepted
    obtain ⟨succeeds, remaining⟩ := accepted
    cases called : RouterLedger.call (call.run host) ledger [] with
    | mk result after =>
      rw [called] at succeeds remaining
      cases result with
      | error failure => contradiction
      | ok value =>
        rw [List.append_cons]
        exact ih (run.succeeded called) remaining

theorem accepts_of_append
    {first second : List LedgerCall}
    (accepted : accepts host ledger (first ++ second) = true) :
    accepts host ledger first = true := by
  induction first generalizing ledger with
  | nil => rfl
  | cons call rest ih =>
    rw [List.cons_append, accepts, Bool.and_eq_true] at accepted
    rw [accepts, Bool.and_eq_true]
    exact ⟨accepted.1, ih accepted.2⟩

/-- In every run from a new ledger whose file writes succeed, the successful
operations on a fingerprint form a prefix of a lifecycle, recover from the
connection limit at most once and name one turn, and a failed turn submits
nothing more.  Conversely, every prefix of a lifecycle is accepted for a fresh
fingerprint on a bound turn that may continue. -/
theorem operations_form_lifecycle
    (host : Foundation)
    (fingerprint : String) :
    (∀ start disk, RouterLedger.init .empty [] = (.ok start, disk) →
      ∀ done ledger, LedgerRun host start done ledger →
        (∃ word ∈ lifecycle,
          (operations fingerprint done).map Prod.fst <+: word) ∧
        ((operations fingerprint done).map Prod.fst).count
          .rejectConnectionLimit ≤ 1 ∧
        (∃ turn, ∀ named ∈ operations fingerprint done, named.2 = turn) ∧
        ∀ turn, ledger.state.isFailed turn = true →
          ∀ later final, LedgerRun host ledger later final →
            ∀ other, LedgerCall.begin other turn ∉ later) ∧
      (∀ ledger turn account, ledger.state.Binds turn account →
        ledger.state.requests.lookup fingerprint = none →
        ∀ word ∈ lifecycle, ∀ start, start <+: word →
          accepts host ledger
            (start.map (Operation.call fingerprint turn)) = true) := by
  refine ⟨?_, ?_⟩
  · intro start disk opened done ledger run
    have initial : start.Synced ∧ start.state.requests.lookup fingerprint = none := by
      cases opened
      exact ⟨⟨∅, rfl⟩, rfl⟩
    obtain ⟨synced, tracked⟩ := run.tracked initial.1 initial.2
    have stopped : ∀ turn, ledger.state.isFailed turn = true →
        ∀ later final, LedgerRun host ledger later final →
          ∀ other, LedgerCall.begin other turn ∉ later :=
      fun turn failed later final continues => (continues.failed synced failed).2.2
    cases known : ledger.state.requests.lookup fingerprint with
    | none =>
      rw [tracked.unknown known]
      refine ⟨⟨[.begin], ?_, List.nil_prefix⟩, by simp, ⟨"", by simp⟩, stopped⟩
      exact words_le_lifecycle .forwarding (submission_le rfl)
    | some request =>
      have member := words_le_lifecycle _ (tracked.word known)
      exact ⟨⟨_, member, List.prefix_refl _⟩, count_le_one_of_mem_lifecycle member,
        ⟨request.turn, tracked.owner known⟩, stopped⟩
  · intro ledger turn account binds fresh word member start before
    obtain ⟨rest, rfl⟩ := before
    obtain ⟨final, reads⟩ := lifecycle_le_reading member
    have accepted : accepts host ledger
        ((start ++ rest).map (Operation.call fingerprint turn)) = true := by
      have unowned : ∀ {request}, ledger.state.requests.lookup fingerprint = some request →
          request.turn = turn := by
        intro request known
        rw [fresh] at known
        contradiction
      have read : start ++ rest ∈ reading
          ((ledger.state.requests.lookup fingerprint).map Request.state)
          final := by
        rw [fresh]
        exact reads
      exact accepts_of_reading binds unowned read
    rw [List.map_append] at accepted
    exact accepts_of_append accepted

/-- A bound turn submits a request, which is interrupted, submitted again and
finished. -/
theorem interrupted_request_forms_lifecycle :
    (∃ word ∈ lifecycle,
        [Operation.begin, .interrupt, .begin, .finish] <+: word) ∧
      accepts .mute (RouterLedger.call (RouterLedger.bind "task/turn" ⟨1⟩)
        ⟨.empty, .empty⟩ []).2 [.begin "request" "task/turn"] = true := by
  have opened : RouterLedger.init .empty [] =
      (.ok ⟨.empty, ⟨some .empty, ∅⟩⟩, ⟨some .empty, ∅⟩) := rfl
  have accepted : accepts .mute ⟨.empty, ⟨some .empty, ∅⟩⟩
      [.bind "task/turn" ⟨1⟩, .begin "request" "task/turn",
        .interrupt "request" "task/turn", .begin "request" "task/turn",
        .finish "request" "task/turn"] = true := rfl
  obtain ⟨ledger, run⟩ := LedgerRun.start.of_accepts accepted
  have theory := operations_form_lifecycle .mute "request"
  refine ⟨(theory.1 _ _ opened _ ledger run).1, ?_⟩
  have submitted : [Operation.begin] ∈ lifecycle :=
    words_le_lifecycle .forwarding (submission_le rfl)
  exact theory.2 _ "task/turn" ⟨1⟩ ⟨rfl, rfl⟩ rfl _ submitted _ (List.prefix_refl _)

end Turnrail
