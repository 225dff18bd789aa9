import Turnrail.Ledger.Operations

/-!
# What a ledger call can do

A call on the ledger either answers without a change, or changes the
dictionaries in memory and tries to save them.  This module names the calls and
the changes, and states once for every call which answers and which changes it
can make in which state.  Later arguments about runs use these relations and
never look into an operation again.
-/

namespace Turnrail

/-- The calls of the ledger. -/
inductive LedgerCall
  | bound (key : String)
  | bind (key : String) (account : UUID)
  | registerTitle (thread cwd : String) (account : UUID)
  | title (thread : String)
  | completedAccount (thread : String)
  | stop (thread turn : String)
  | history (id thread : String)
  | saveHistory (id : String) (value : History)
  | begin (fingerprint turn : String)
  | interrupt (fingerprint turn : String)
  | cancel (fingerprint turn : String)
  | rejectConnectionLimit (fingerprint turn : String)
  | complete (fingerprint turn response : String) (value : History)
  | finish (fingerprint turn : String)
  | fail (turn : String)

namespace LedgerCall

/-- What a call returns when it does not throw. -/
@[reducible] def Value : LedgerCall → Type
  | .bound _ | .title _ => Option UUID
  | .completedAccount _ => UUID
  | .history _ _ => History
  | _ => Unit

/-- The operation of a call. -/
def run (host : Foundation) : (call : LedgerCall) → LedgerM call.Value
  | .bound key => RouterLedger.bound key
  | .bind key account => RouterLedger.bind key account
  | .registerTitle thread cwd account => RouterLedger.registerTitle thread cwd account
  | .title thread => RouterLedger.title thread
  | .completedAccount thread => RouterLedger.completedAccount thread
  | .stop thread turn => RouterLedger.stop host thread turn
  | .history id thread => RouterLedger.history host id thread
  | .saveHistory id value => RouterLedger.saveHistory host id value
  | .begin fingerprint turn => RouterLedger.begin fingerprint turn
  | .interrupt fingerprint turn => RouterLedger.interrupt fingerprint turn
  | .cancel fingerprint turn => RouterLedger.cancel fingerprint turn
  | .rejectConnectionLimit fingerprint turn =>
    RouterLedger.rejectConnectionLimit fingerprint turn
  | .complete fingerprint turn response value =>
    RouterLedger.complete host fingerprint turn response value
  | .finish fingerprint turn => RouterLedger.finish fingerprint turn
  | .fail turn => RouterLedger.fail turn

end LedgerCall

/-- The changes of the state. -/
inductive Change
  | bind (key : String) (account : UUID)
  | title (thread : String) (entry : Title)
  | stop (thread : String) (account : UUID)
  | respond (id : String) (record : HistoryRecord)
  | request (fingerprint turn : String) (next : RequestState)
  | fail (turn : String)

/-- The state after a change. -/
def LedgerState.change (state : LedgerState) : Change → LedgerState
  | .bind key account => { state with bindings := state.bindings.insert key account }
  | .title thread entry => { state with titles := state.titles.insert thread entry }
  | .stop thread account => { state with completed := state.completed.insert thread account }
  | .respond id record => { state with history := state.history.insert id record }
  | .request fingerprint turn next =>
    { state with requests := state.requests.insert fingerprint ⟨turn, next⟩ }
  | .fail turn => { state with failed := state.failed.insert turn true }

/-- Make several changes in order. -/
def LedgerState.changes (state : LedgerState) (list : List Change) :
    LedgerState :=
  list.foldl LedgerState.change state

@[simp] theorem LedgerState.changes_nil (state : LedgerState) :
    state.changes [] = state := rfl

@[simp] theorem LedgerState.changes_cons
    (state : LedgerState)
    (change : Change)
    (rest : List Change) :
    state.changes (change :: rest) = (state.change change).changes rest := rfl

/-- A request of a turn is in flight. -/
def LedgerState.awaits (state : LedgerState) (fingerprint turn : String) :
    Bool :=
  match state.requests.lookup fingerprint with
  | some request => request.turn = turn && request.state.inFlight
  | none => false

section Platform

variable (host : Foundation)

/-- The content identity of a message. -/
def digest (item : Object) : String :=
  RouterJSON.hash host (RouterJSON.data host item)

/-- The record of a response. -/
def History.stored (value : History) : HistoryRecord where
  thread := value.thread
  previous := value.previous
  input := value.input.map (digest host)
  output := value.output.map (digest host)
  account := value.account
  generation := value.generation

/-- A turn is bound and may continue. -/
def LedgerState.Binds
    (state : LedgerState) (turn : String) (account : UUID) : Prop :=
  state.isFailed turn = false ∧ state.bindings.lookup turn = some account

/-- The changes a call makes if it succeeds. -/
inductive Makes (state : LedgerState) : LedgerCall → List Change → Prop
  | bind {key account} :
      state.isFailed key = false →
      state.bindings.lookup key = none →
      Makes state (.bind key account) [.bind key account]
  | registerTitle {thread cwd account} :
      state.titles.lookup thread = none →
      Makes state (.registerTitle thread cwd account) [.title thread ⟨cwd, account⟩]
  | stop {thread turn key account} :
      RouterLedger.key host thread turn = .ok key →
      state.Binds key account →
      Makes state (.stop thread turn) [.stop thread account]
  | saveHistory {id value} :
      state.history.lookup id = none →
      Makes state (.saveHistory id value) [.respond id (value.stored host)]
  | first {fingerprint turn account} :
      state.Binds turn account →
      state.requests.lookup fingerprint = none →
      Makes state (.begin fingerprint turn) [.request fingerprint turn .forwarding]
  | again {fingerprint turn account current next} :
      state.Binds turn account →
      state.requests.lookup fingerprint = some ⟨turn, current⟩ →
      RouterLedger.resubmission current = some next →
      Makes state (.begin fingerprint turn) [.request fingerprint turn next]
  | interrupt {fingerprint turn current next} :
      state.requests.lookup fingerprint = some ⟨turn, current⟩ →
      RouterLedger.interruption current = some next →
      Makes state (.interrupt fingerprint turn) [.request fingerprint turn next]
  | cancel {fingerprint turn current} :
      state.requests.lookup fingerprint = some ⟨turn, current⟩ →
      current.inFlight = true →
      Makes state (.cancel fingerprint turn) [.request fingerprint turn .cancelled]
  | rejectConnectionLimit {fingerprint turn} :
      state.requests.lookup fingerprint = some ⟨turn, .forwarding⟩ →
      Makes state (.rejectConnectionLimit fingerprint turn)
        [.request fingerprint turn .connectionLimited]
  | complete {fingerprint turn response value current} :
      state.history.lookup response = none →
      state.requests.lookup fingerprint = some ⟨turn, current⟩ →
      current.inFlight = true →
      Makes state (.complete fingerprint turn response value)
        [.respond response (value.stored host), .request fingerprint turn .completed]
  | finish {fingerprint turn current} :
      state.requests.lookup fingerprint = some ⟨turn, current⟩ →
      current.inFlight = true →
      Makes state (.finish fingerprint turn) [.request fingerprint turn .completed]
  | fail {turn} : Makes state (.fail turn) [.fail turn]

/-- What a call answers without a change. -/
inductive Answers (ledger : Ledger) :
    (call : LedgerCall) → Except PlainError call.Value → Prop
  | refused (call : LedgerCall) (failure : PlainError) :
      Answers ledger call (.error failure)
  | bound {key} :
      ledger.state.isFailed key = false →
      Answers ledger (.bound key) (.ok (ledger.state.bindings.lookup key))
  | bind {key account} :
      ledger.state.Binds key account →
      Answers ledger (.bind key account) (.ok ())
  | registerTitle {thread cwd account} :
      ledger.state.titles.lookup thread = some ⟨cwd, account⟩ →
      Answers ledger (.registerTitle thread cwd account) (.ok ())
  | title {thread} :
      Answers ledger (.title thread)
        (.ok ((ledger.state.titles.lookup thread).map Title.account))
  | completedAccount {thread account} :
      ledger.state.completed.lookup thread = some account →
      Answers ledger (.completedAccount thread) (.ok account)
  | history {id thread result} :
      result = (RouterLedger.call (RouterLedger.history host id thread) ledger []).1 →
      Answers ledger (.history id thread) result
  | cancel {fingerprint turn current} :
      ledger.state.requests.lookup fingerprint = some ⟨turn, current⟩ →
      (current = .completed ∨ current = .cancelled) →
      Answers ledger (.cancel fingerprint turn) (.ok ())

/-- A call passes the guards before its first change, and the change is not
there yet. -/
def LedgerCall.alters (state : LedgerState) : LedgerCall → Bool
  | .bind key _ => !state.isFailed key && (state.bindings.lookup key).isNone
  | .registerTitle thread _ _ => (state.titles.lookup thread).isNone
  | .stop thread turn =>
    match RouterLedger.key host thread turn with
    | .ok key =>
      !state.isFailed key && (state.bindings.lookup key).isSome &&
        state.completed.lookup thread != state.bindings.lookup key
    | .error _ => false
  | .saveHistory id _ => (state.history.lookup id).isNone
  | .begin fingerprint turn =>
    !state.isFailed turn && (state.bindings.lookup turn).isSome &&
      match state.requests.lookup fingerprint with
      | none => true
      | some request => request.turn = turn && (RouterLedger.resubmission request.state).isSome
  | .interrupt fingerprint turn | .cancel fingerprint turn
  | .finish fingerprint turn => state.awaits fingerprint turn
  | .rejectConnectionLimit fingerprint turn =>
    state.requests.lookup fingerprint = some ⟨turn, .forwarding⟩
  | .complete _ _ id _ => (state.history.lookup id).isNone
  | .fail turn => !state.isFailed turn
  | _ => false

/-- Files of some messages are added under their content identities, and no
file is replaced. -/
structure Grows (items : List Object) (before after : Table Data) : Prop where
  kept : ∀ {name bytes}, before.lookup name = some bytes → after.lookup name = some bytes
  added : ∀ {name bytes}, after.lookup name = some bytes → before.lookup name = some bytes ∨
      ∃ item ∈ items, name = digest host item ∧ bytes = RouterJSON.data host item

/-- Every item is filed. -/
def Filed (messages : Table Data) (items : List Object) : Prop :=
  ∀ item ∈ items, (messages.lookup (digest host item)).isSome

/-- The messages whose files a call relies on. -/
def LedgerCall.items : LedgerCall → List Object
  | .saveHistory _ value => value.input ++ value.output
  | .complete _ _ _ value => value.input ++ value.output
  | _ => []

/-- Some file write does not succeed. -/
def Faulty (writes : List WriteOutcome) : Prop :=
  ∃ outcome ∈ writes, outcome ≠ .committed

/-- What a call leads to. -/
inductive Outcome (writes : List WriteOutcome) (before : Ledger) :
    (call : LedgerCall) → Except PlainError call.Value → Ledger → Prop
  | answered {call result after} :
      Answers host before call result →
      after.state = before.state →
      after.disk.ledger = before.disk.ledger →
      Grows host call.items before.disk.messages after.disk.messages →
      Outcome writes before call result after
  | changed {call result after} (list : List Change) :
      Makes host before.state call list →
      after.state = before.state.changes list →
      (after.disk.ledger = before.disk.ledger ∨ after.disk.ledger = some after.state) →
      (result.isOk → after.disk.ledger = some after.state) →
      (result.isOk = false → Faulty writes) →
      Grows host call.items before.disk.messages after.disk.messages →
      Filed host after.disk.messages call.items →
      Outcome writes before call result after
  | unfinished {fingerprint turn response value failure after} :
      before.state.history.lookup response = none →
      after.state = before.state.change (.respond response (value.stored host)) →
      after.disk.ledger = before.disk.ledger →
      Grows host (value.input ++ value.output) before.disk.messages after.disk.messages →
      Filed host after.disk.messages (value.input ++ value.output) →
      Outcome writes before (.complete fingerprint turn response value) (.error failure) after

end Platform
end Turnrail
