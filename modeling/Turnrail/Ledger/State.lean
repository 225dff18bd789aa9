import Turnrail.Failure.Service
import Mathlib.Data.List.AList

/-!
# State of the routing ledger

The ledger keeps account bindings, response history and delivery decisions in
memory and writes the whole state to one file after each change.  Message
bodies live in files named by their content.

A file write goes through a temporary file and a rename.  It can fail before
the rename, which leaves the old file, or after it, which leaves the new file
although the caller sees an error.  The outcomes of the writes of one call are
given as a script; an exhausted script means that writes succeed.
-/

namespace Turnrail

/-- A dictionary with text keys. -/
abbrev Table (α : Type) := AList fun _ : String => α

namespace Table

theorem lookup_insert
    (table : Table α)
    (key : String)
    (value : α)
    (other : String) :
    AList.lookup other (table.insert key value) =
      if other = key then some value else table.lookup other := by
  by_cases same : other = key
  · subst same
    simp
  · rw [if_neg same, AList.lookup_insert_ne same]

theorem lookup_insert_self
    (table : Table α)
    (key : String)
    (value : α) :
    AList.lookup key (table.insert key value) = some value :=
  AList.lookup_insert table

end Table

/-- The states of a request. -/
inductive RequestState
  | forwarding
  | retrying
  | interrupted
  | interruptedRetry
  | connectionLimited
  | completed
  | cancelled
  deriving DecidableEq

/-- A request whose outcome at the service is not known yet. -/
def RequestState.inFlight : RequestState → Bool
  | .forwarding | .retrying => true
  | _ => false

/-- A request that may be submitted again. -/
def RequestState.resumable : RequestState → Bool
  | .interrupted | .interruptedRetry | .connectionLimited => true
  | _ => false

/-- A request of a turn. -/
structure Request where
  turn : String
  state : RequestState
  deriving DecidableEq

/-- A title task. -/
structure Title where
  cwd : String
  account : UUID
  deriving DecidableEq

/-- Client deltas of one response, or a reconstructed conversation. -/
structure History where
  thread : String
  previous : Option String
  input : List Object
  output : List Object
  account : Option UUID
  generation : Option String

/-- A recorded response. -/
structure HistoryRecord where
  thread : String
  previous : Option String
  input : List String
  output : List String
  account : Option UUID
  generation : Option String
  deriving DecidableEq

/-- What the ledger remembers. -/
structure LedgerState where
  schemaVersion : Nat
  bindings : Table UUID
  titles : Table Title
  completed : Table UUID
  history : Table HistoryRecord
  requests : Table Request
  failed : Table Bool

namespace LedgerState

/-- The state of a new ledger. -/
def empty : LedgerState where
  schemaVersion := 1
  bindings := ∅
  titles := ∅
  completed := ∅
  history := ∅
  requests := ∅
  failed := ∅

/-- A turn that must not continue. -/
def isFailed (state : LedgerState) (turn : String) : Bool :=
  (state.failed.lookup turn).isSome

/-- Add to the failed turns every turn that owns an in-flight request. -/
def blockInFlight (state : LedgerState) : LedgerState :=
  { state with
    failed := state.requests.entries.foldl (fun failed entry =>
        if entry.2.state.inFlight then failed.insert entry.2.turn true
        else failed)
      state.failed }

end LedgerState

/-- The files of the ledger. -/
structure Disk where
  ledger : Option LedgerState
  messages : Table Data

/-- Files of a directory that was just created. -/
def Disk.empty : Disk where
  ledger := none
  messages := ∅

/-- A running ledger: its memory and its files. -/
structure Ledger where
  state : LedgerState
  disk : Disk

/-- How one private file write ends. -/
inductive WriteOutcome
  | committed
  | notCreated
  | notWritten
  | notRenamed
  | notSynchronized
  deriving DecidableEq

namespace WriteOutcome

/-- The new contents replaced the old ones. -/
def renamed : WriteOutcome → Bool
  | .committed | .notSynchronized => true
  | _ => false

/-- The error the caller sees. -/
def failure : WriteOutcome → Option RouterFailure
  | .committed => none
  | .notCreated => some ⟨"Could not create private runtime data."⟩
  | .notWritten => some ⟨"Could not write private runtime data."⟩
  | .notRenamed => some ⟨"Could not commit private runtime data."⟩
  | .notSynchronized => some ⟨"Could not synchronize runtime storage."⟩

end WriteOutcome

/-- A ledger and the outcomes of its writes to come. -/
structure Session where
  ledger : Ledger
  writes : List WriteOutcome

/-- One call on a locked ledger.  Changes survive an exception. -/
def LedgerM (α : Type) : Type :=
  Session → Except PlainError α × Session

namespace LedgerM

instance : Monad LedgerM where
  pure value := fun session => (.ok value, session)
  bind operation next := fun session =>
    match operation session with
    | (.ok value, reached) => next value reached
    | (.error failure, reached) => (.error failure, reached)

instance : MonadExceptOf PlainError LedgerM where
  throw failure := fun session => (.error failure, session)
  tryCatch operation handler := fun session =>
    match operation session with
    | (.ok value, reached) => (.ok value, reached)
    | (.error failure, reached) => handler failure reached

instance : MonadStateOf Session LedgerM where
  get := fun session => (.ok session, session)
  set session := fun _ => (.ok (), session)
  modifyGet change := fun session => (.ok (change session).1, (change session).2)

/-- A call ends with a result and a session that satisfy the postcondition. -/
def Ends
    (operation : LedgerM α)
    (session : Session)
    (post : Except PlainError α → Session → Prop) : Prop :=
  post (operation session).1 (operation session).2

section Rules

variable (session : Session)

@[simp] theorem ends_pure
    (value : α)
    (post : Except PlainError α → Session → Prop) :
    (pure value : LedgerM α).Ends session post ↔ post (.ok value) session :=
  Iff.rfl

@[simp] theorem ends_throw
    (failure : PlainError)
    (post : Except PlainError α → Session → Prop) :
    (throw failure : LedgerM α).Ends session post ↔
      post (.error failure) session := Iff.rfl

@[simp] theorem ends_get (post : Except PlainError Session → Session → Prop) :
    (get : LedgerM Session).Ends session post ↔ post (.ok session) session :=
  Iff.rfl

@[simp] theorem ends_set
    (next : Session)
    (post : Except PlainError PUnit → Session → Prop) :
    (set next : LedgerM PUnit).Ends session post ↔ post (.ok ()) next := Iff.rfl

@[simp] theorem ends_bind
    (operation : LedgerM α)
    (next : α → LedgerM β)
    (post : Except PlainError β → Session → Prop) :
    (operation >>= next).Ends session post ↔
      operation.Ends session fun result reached =>
        match result with
        | .ok value => (next value).Ends reached post
        | .error failure => post (.error failure) reached := by
  simp only [Ends, bind]
  rcases operation session with ⟨failure | value, reached⟩ <;> rfl

@[simp] theorem ends_ite
    (condition : Prop)
    [Decidable condition]
    (first second : LedgerM α)
    (post : Except PlainError α → Session → Prop) :
    (if condition then first else second).Ends session post ↔
      if condition then first.Ends session post
      else second.Ends session post := by
  split <;> rfl

variable {session} {operation : LedgerM α}

theorem Ends.mono
    {post weaker : Except PlainError α → Session → Prop}
    (ends : operation.Ends session post)
    (weakens : ∀ result reached, post result reached → weaker result reached) :
    operation.Ends session weaker :=
  weakens _ _ ends

/-- Two postconditions hold together. -/
theorem Ends.and
    {first second : Except PlainError α → Session → Prop}
    (one : operation.Ends session first)
    (other : operation.Ends session second) :
    operation.Ends session fun result reached => first result reached ∧
      second result reached :=
  ⟨one, other⟩

end Rules

end LedgerM

namespace RouterLedger

/-- Throw a message. -/
def reject (message : String) : LedgerM α :=
  throw (.failure ⟨message⟩)

/-- The state in memory. -/
def state : LedgerM LedgerState := do
  return (← get).ledger.state

/-- The filed messages. -/
def messages : LedgerM (Table Data) := do
  return (← get).ledger.disk.messages

/-- Change the state in memory. -/
def put (change : LedgerState → LedgerState) : LedgerM Unit :=
  modify fun session =>
    { session with ledger := { session.ledger with state := change session.ledger.state } }

/-- Write a file, or fail to. -/
def writePrivate (replace : Disk → Disk) : LedgerM Unit := do
  let session ← get
  match session.writes with
  | [] =>
    set { session with ledger := { session.ledger with disk := replace session.ledger.disk } }
  | outcome :: remaining =>
    set { ledger :=
            if outcome.renamed then
              { session.ledger with disk := replace session.ledger.disk }
            else session.ledger
          writes := remaining : Session }
    match outcome.failure with
    | some failure => throw (.failure failure)
    | none => return ()

/-- Save the state. -/
def persist : LedgerM Unit := do
  let current ← state
  writePrivate fun disk => { disk with ledger := some current }

/-- Call an operation. -/
def call (operation : LedgerM α) (ledger : Ledger)
    (writes : List WriteOutcome) : Except PlainError α × Ledger :=
  let result := operation ⟨ledger, writes⟩
  (result.1, result.2.ledger)

@[simp] theorem ends_reject
    (message : String)
    (session : Session)
    (post : Except PlainError α → Session → Prop) :
    (reject message : LedgerM α).Ends session post ↔
      post (.error (.failure ⟨message⟩)) session := Iff.rfl

@[simp] theorem ends_state
    (session : Session)
    (post : Except PlainError LedgerState → Session → Prop) :
    state.Ends session post ↔ post (.ok session.ledger.state) session := Iff.rfl

@[simp] theorem ends_messages
    (session : Session)
    (post : Except PlainError (Table Data) → Session → Prop) :
    messages.Ends session post ↔
      post (.ok session.ledger.disk.messages) session :=
  Iff.rfl

@[simp] theorem ends_put
    (change : LedgerState → LedgerState)
    (session : Session)
    (post : Except PlainError Unit → Session → Prop) :
    (put change).Ends session post ↔
      post (.ok ()) { session with ledger :=
        { session.ledger with state := change session.ledger.state } } :=
  Iff.rfl

end RouterLedger

end Turnrail
