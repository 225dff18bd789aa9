import Turnrail.Ledger.Lifecycle

/-!
# What a call does to one request

A call moves the request it concerns along the automaton of the lifecycle, for
the turn that owns the request, and leaves every other request where it is.
What a successful call reports is in memory, and what it changed is in the
file.
-/

namespace Turnrail

open RouterLedger

variable {host : Foundation}

/-- An operation moves a request to its next state. -/
structure Moves
    (fingerprint : String) (operation : Operation) (turn : String)
    (before after : LedgerState) (next : RequestState) : Prop where
  step : operation.next ((before.requests.lookup fingerprint).map Request.state) = some next
  owner : ∀ {request}, before.requests.lookup fingerprint = some request → request.turn = turn
  recorded : after.requests.lookup fingerprint = some ⟨turn, next⟩

variable {state : LedgerState} {fingerprint turn : String} {operation : Operation}
  {current : RequestState}

theorem Moves.of_known
    {next : RequestState}
    (known : state.requests.lookup fingerprint = some ⟨turn, current⟩)
    (step : operation.next (some current) = some next) :
    Moves fingerprint operation turn state
      (state.change (.request fingerprint turn next)) next where
  step := by
    rw [known]
    exact step
  owner := by
    intro request same
    rw [known] at same
    cases same
    rfl
  recorded := Table.lookup_insert_self _ _ _

theorem Operation.next_cancel (inFlight : current.inFlight = true) :
    Operation.cancel.next (some current) = some .cancelled := by
  cases current <;> first | rfl | contradiction

theorem Operation.next_finish (inFlight : current.inFlight = true) :
    Operation.finish.next (some current) = some .completed := by
  simp only [Operation.next, inFlight, if_true]

variable {call : LedgerCall} {list : List Change}

theorem Makes.moves
    (makes : Makes host state call list)
    (performs : call.operation = some (fingerprint, operation, turn)) :
    ∃ next, Moves fingerprint operation turn state (state.changes list)
      next := by
  cases makes with
  | first _ absent =>
    cases performs
    refine ⟨.forwarding, ?_, ?_, Table.lookup_insert_self _ _ _⟩
    · rw [absent]
      rfl
    · intro request known
      rw [absent] at known
      contradiction
  | again _ known admitted =>
    cases performs
    exact ⟨_, .of_known known admitted⟩
  | interrupt known admitted =>
    cases performs
    exact ⟨_, .of_known known admitted⟩
  | cancel known inFlight =>
    cases performs
    exact ⟨_, .of_known known (Operation.next_cancel inFlight)⟩
  | rejectConnectionLimit known =>
    cases performs
    exact ⟨_, .of_known known rfl⟩
  | complete _ known inFlight =>
    cases performs
    -- The response record does not touch the requests.
    have moved := Moves.of_known known (Operation.next_finish inFlight)
    exact ⟨_, moved.step, moved.owner, Table.lookup_insert_self _ _ _⟩
  | finish known inFlight =>
    cases performs
    exact ⟨_, .of_known known (Operation.next_finish inFlight)⟩
  | _ => contradiction

theorem Makes.keeps
    (makes : Makes host state call list)
    (other : ∀ {named operation turn},
      call.operation = some (named, operation, turn) → fingerprint ≠ named) :
    AList.lookup fingerprint (state.changes list).requests =
      state.requests.lookup fingerprint := by
  cases makes with
  | bind | registerTitle | stop | saveHistory | fail => rfl
  | first | again | interrupt | cancel | rejectConnectionLimit | complete
  | finish => exact AList.lookup_insert_ne (other rfl)

variable {writes : List WriteOutcome}

/-- A call moves a request only by the operation it names. -/
theorem Outcome.request
    {before after : Ledger}
    {result : Except PlainError call.Value}
    (outcome : Outcome host writes before call result after)
    (fingerprint : String) :
    AList.lookup fingerprint after.state.requests =
        before.state.requests.lookup fingerprint ∨ ∃ operation turn next,
      call.operation = some (fingerprint, operation, turn) ∧
      Moves fingerprint operation turn before.state after.state next := by
  cases outcome with
  | answered _ memory _ _ =>
    rw [memory]
    exact .inl rfl
  | unfinished _ memory _ _ _ =>
    rw [memory]
    exact .inl rfl
  | changed list makes memory _ _ _ _ _ =>
    rw [memory]
    by_cases named : ∃ operation turn, call.operation = some (fingerprint, operation, turn)
    · obtain ⟨operation, turn, performs⟩ := named
      obtain ⟨next, moves⟩ := makes.moves performs
      exact .inr ⟨operation, turn, next, performs, moves⟩
    · refine .inl (makes.keeps ?_)
      intro other operation turn performs same
      subst same
      exact named ⟨operation, turn, performs⟩

theorem Outcome.moves
    {before after : Ledger}
    {value : call.Value}
    (outcome : Outcome host writes before call (.ok value) after)
    (performs : call.operation = some (fingerprint, operation, turn)) :
    ∃ next, Moves fingerprint operation turn before.state after.state
      next := by
  cases outcome with
  | changed list makes memory _ _ _ _ _ =>
    rw [memory]
    exact makes.moves performs
  | answered answers memory _ _ =>
    rw [memory]
    cases answers with
    | @cancel fingerprint turn current known terminal =>
      cases performs
      refine ⟨current, ?_, ?_, known⟩
      · rw [known]
        simp only [Option.map_some, Operation.next, if_pos terminal]
      · intro request same
        rw [known] at same
        cases same
        rfl
    | _ => contradiction

namespace LedgerState

/-- A request is under way. -/
def InFlight (state : LedgerState) (fingerprint turn : String) : Prop :=
  ∃ current, state.requests.lookup fingerprint = some ⟨turn, current⟩ ∧ current.inFlight = true

/-- A request is completed. -/
def Completes (state : LedgerState) (fingerprint turn : String) : Prop :=
  state.requests.lookup fingerprint = some ⟨turn, .completed⟩

/-- A response is recorded. -/
def Records (state : LedgerState) (id : String) : Prop :=
  (state.history.lookup id).isSome = true

variable {before after : LedgerState}

theorem Extends.completes
    (grown : before.Extends after)
    (completes : before.Completes fingerprint turn) :
    after.Completes fingerprint turn := by
  obtain ⟨next, known, steps⟩ := grown.requests completes
  rw [Advances.eq_of_terminal (.inl rfl) steps] at known
  exact known

theorem Extends.records
    {id : String}
    (grown : before.Extends after)
    (records : before.Records id) :
    after.Records id := by
  obtain ⟨record, known⟩ := Option.isSome_iff_exists.mp records
  rw [Records, grown.history known]
  rfl

theorem Completes.not_inFlight
    {owner : String}
    (completes : state.Completes fingerprint turn) :
    ¬state.InFlight fingerprint owner := by
  rintro ⟨current, known, inFlight⟩
  rw [completes] at known
  cases known
  cases inFlight

end LedgerState

section Successes

variable {writes : List WriteOutcome} {before after : Ledger} {key : String} {account : UUID}

theorem Outcome.bound_read
    (outcome :
      Outcome host writes before (.bound key) (.ok (some account)) after) :
    after.state.bindings.lookup key = some account := by
  generalize read : (.ok (some account) : Except PlainError (Option UUID)) = result at outcome
  cases outcome with
  | answered answers memory _ _ =>
    rw [memory]
    cases answers with
    | refused failure => cases read
    | bound _ =>
      injection read with read
      exact read.symm
  | changed list makes => cases makes

variable {reply : Except PlainError call.Value}

theorem Outcome.completed_kept
    (outcome : Outcome host writes before call reply after)
    (others : ∀ thread turn, call ≠ .stop thread turn) :
    after.state.completed = before.state.completed := by
  cases outcome with
  | answered _ memory => rw [memory]
  | unfinished _ memory =>
    rw [memory]
    rfl
  | changed list makes memory =>
    rw [memory]
    cases makes with
    | stop => exact absurd rfl (others _ _)
    | _ => rfl

theorem Outcome.binding_added
    (outcome : Outcome host writes before call reply after)
    (absent : before.state.bindings.lookup key = none)
    (present : after.state.bindings.lookup key = some account) :
    call = .bind key account := by
  cases outcome with
  | answered _ memory =>
    rw [memory, absent] at present
    cases present
  | unfinished _ memory =>
    rw [memory] at present
    change before.state.bindings.lookup key = some account at present
    rw [absent] at present
    cases present
  | changed list makes memory =>
    rw [memory] at present
    cases makes with
    | bind _ _ =>
      rw [LedgerState.changes_cons, LedgerState.changes_nil] at present
      simp only [LedgerState.change, Table.lookup_insert] at present
      split at present
      · rename_i same
        subst same
        cases present
        rfl
      · rw [absent] at present
        cases present
    | _ =>
      change before.state.bindings.lookup key = some account at present
      rw [absent] at present
      cases present

variable {thread : String}

theorem Outcome.title_read
    (outcome :
      Outcome host writes before (.title thread) (.ok (some account)) after) :
    ∃ title, after.state.titles.lookup thread = some title ∧
      title.account = account := by
  generalize read : (.ok (some account) : Except PlainError (Option UUID)) = result at outcome
  cases outcome with
  | answered answers memory _ _ =>
    rw [memory]
    cases answers with
    | refused failure => cases read
    | title =>
      injection read with read
      exact Option.map_eq_some_iff.mp read.symm
  | changed list makes => cases makes

theorem Outcome.completedAccount_read
    (outcome : Outcome host writes before
      (.completedAccount thread) (.ok account) after) :
    after.state.completed.lookup thread = some account := by
  cases outcome with
  | answered answers memory _ _ =>
    rw [memory]
    cases answers with
    | completedAccount found => exact found
  | changed list makes => cases makes

variable {value : Unit}

/-- What an admitted `begin` has checked and saved. -/
theorem Outcome.begin_admitted
    (outcome :
      Outcome host writes before (.begin fingerprint turn) (.ok value) after) :
    after.disk.ledger = some after.state ∧
      after.state.InFlight fingerprint turn ∧
      before.state.isFailed turn = false ∧
      (∀ request, before.state.requests.lookup fingerprint = some request →
        request.turn = turn ∧ request.state.resumable = true) ∧
      ∃ account, after.state.bindings.lookup turn = some account := by
  cases outcome with
  | answered answers => cases answers
  | changed list makes memory _ durable _ _ _ =>
    refine ⟨durable rfl, ?_⟩
    rw [memory]
    cases makes with
    | first binds absent =>
      refine ⟨⟨.forwarding, Table.lookup_insert_self _ _ _, rfl⟩, binds.1, ?_, _, binds.2⟩
      intro request known
      rw [absent] at known
      cases known
    | @again _ _ _ current next binds known admitted =>
      refine ⟨⟨next, Table.lookup_insert_self _ _ _, ?_⟩, binds.1, ?_, _, binds.2⟩
      · cases current <;> cases admitted <;> rfl
      · intro request same
        rw [known] at same
        cases same
        refine ⟨rfl, ?_⟩
        cases current <;> first | rfl | cases admitted

variable {history : History}

theorem Outcome.complete_saved
    {response : String}
    (outcome : Outcome host writes before
      (.complete fingerprint turn response history) (.ok value) after) :
    after.disk.ledger = some after.state ∧
      after.state.Completes fingerprint turn ∧
      after.state.Records response := by
  cases outcome with
  | answered answers => cases answers
  | changed list makes memory _ durable _ _ _ =>
    refine ⟨durable rfl, ?_⟩
    rw [memory]
    cases makes with
    | complete =>
      refine ⟨Table.lookup_insert_self _ _ _, ?_⟩
      simp [LedgerState.Records, LedgerState.change]

theorem Outcome.finish_saved
    (outcome :
      Outcome host writes before (.finish fingerprint turn) (.ok value) after) :
    after.disk.ledger = some after.state ∧
      after.state.Completes fingerprint turn := by
  cases outcome with
  | answered answers => cases answers
  | changed list makes memory _ durable _ _ _ =>
    refine ⟨durable rfl, ?_⟩
    rw [memory]
    cases makes with
    | finish => exact Table.lookup_insert_self _ _ _

theorem Outcome.saveHistory_saved
    {id : String}
    (outcome :
      Outcome host writes before (.saveHistory id history) (.ok value) after) :
    after.disk.ledger = some after.state ∧ after.state.Records id := by
  cases outcome with
  | answered answers => cases answers
  | changed list makes memory _ durable _ _ _ =>
    refine ⟨durable rfl, ?_⟩
    rw [memory]
    cases makes with
    | saveHistory => simp [LedgerState.Records, LedgerState.change]

end Successes

end Turnrail
