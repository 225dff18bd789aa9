import Turnrail.Ledger.State

/-!
# Operations of the routing ledger

Each operation runs under the ledger's lock, so it is one atomic step for all
workers.  An operation that changes the dictionaries changes them in memory
first and then saves them; a failed save leaves the change in memory.
-/

namespace Turnrail
namespace RouterLedger

/-- The key of a turn. -/
def key (host : Foundation) (thread turn : String) :
    Except RouterFailure String :=
  if thread.isEmpty ∨ turn.isEmpty ∨ host.segmentation.contains thread '/' ∨
      host.segmentation.contains turn '/' then
    .error ⟨"Invalid thread or turn identity."⟩
  else .ok (thread ++ "/" ++ turn)

/-- The account of a turn. -/
def bound (key : String) : LedgerM (Option UUID) := do
  let state ← state
  if state.isFailed key then
    reject "This turn stopped after an uncertain or failed request. Start a new turn."
  else return state.bindings.lookup key

/-- Bind a turn to an account. -/
def bind (key : String) (account : UUID) : LedgerM Unit := do
  match ← bound key with
  | some existing =>
    if existing = account then return ()
    else reject "An active turn cannot change accounts."
  | none =>
    put fun state => { state with bindings := state.bindings.insert key account }
    persist

/-- Register a title task. -/
def registerTitle (thread cwd : String) (account : UUID) : LedgerM Unit := do
  let entry : Title := ⟨cwd, account⟩
  match (← state).titles.lookup thread with
  | some current =>
    if current = entry then return ()
    else reject "A title task cannot change routing context."
  | none =>
    put fun state => { state with titles := state.titles.insert thread entry }
    persist

/-- The account of a title task. -/
def title (thread : String) : LedgerM (Option UUID) := do
  return ((← state).titles.lookup thread).map Title.account

/-- The account that completed a turn of a task. -/
def completedAccount (thread : String) : LedgerM UUID := do
  match (← state).completed.lookup thread with
  | some account => return account
  | none => reject "An automatic request requires a completed turn binding."

/-- Note which account completed a turn. -/
def stop (host : Foundation) (thread turn : String) : LedgerM Unit := do
  match key host thread turn with
  | .error failure => throw (.failure failure)
  | .ok key =>
    match ← bound key with
    | none => reject "Cannot finish an unbound turn."
    | some account =>
      put fun state => { state with completed := state.completed.insert thread account }
      persist

/-- The lowercase hexadecimal digits, with their full-width forms. -/
def isContentDigit (character : Char) : Bool :=
  let scalar := character.val
  (0x30 ≤ scalar && scalar ≤ 0x39) || (0x61 ≤ scalar && scalar ≤ 0x66) ||
    (0xFF10 ≤ scalar && scalar ≤ 0xFF19) || (0xFF41 ≤ scalar && scalar ≤ 0xFF46)

/-- The number of bytes one reconstructed conversation may have. -/
def maximumHistoryBytes : Nat := 64 * 1024 * 1024

/-- The number of responses one reconstructed conversation may have. -/
def maximumHistoryRecords : Nat := 100000

section Platform

variable (host : Foundation)

/-- Parse bytes that must hold a JSON object. -/
def readObject (bytes : Data) : LedgerM Object :=
  match RouterJSON.object host bytes with
  | .ok object => return object
  | .error failure => throw failure

/-- Read the messages with the given content identities, and count their bytes
on top of the bytes read before. -/
def readMessages : List String → Nat → LedgerM (List Object × Nat)
  | [], byteCount => return ([], byteCount)
  | key :: rest, byteCount => do
    if key.toList.length = 64 ∧ key.toList.all isContentDigit then
      match (← messages).lookup key with
      | none => throw (.foreign "The file could not be opened.")
      | some data =>
        let total := byteCount + data.length
        if total ≤ maximumHistoryBytes ∧ RouterJSON.hash host data = key then
          let message ← readObject host data
          let (messages, total) ← readMessages rest total
          return (message :: messages, total)
        else
          reject "Response history is corrupt or exceeds the supported size."
    else reject "Invalid history content identity."

/-- The error for a response that cannot be found. -/
def unknownResponse : RouterFailure :=
  ⟨"The previous response is unknown, corrupt, or belongs to another task."⟩

/-- Collect the records from a response back to the start of its conversation.
`visited` holds the responses already collected; the allowance is the number of
responses that may still follow. -/
def collectChain (histories : Table HistoryRecord) (thread : String) :
    Nat → List String → String → Except RouterFailure (List HistoryRecord)
  | 0, _, _ => .error unknownResponse
  | allowance + 1, visited, current =>
    if current ∈ visited then .error unknownResponse
    else
      match histories.lookup current with
      | none => .error unknownResponse
      | some record =>
        if record.thread = thread then
          match record.previous with
          | none => .ok [record]
          | some previous =>
            if previous.isEmpty then
              .error ⟨"Missing or invalid previous."⟩
            else
              (collectChain histories thread allowance
                (current :: visited) previous).map (record :: ·)
        else .error unknownResponse

/-- Read the inputs and outputs of earlier responses, oldest first, and the
input of the last one. -/
def readChain : List HistoryRecord → Nat → LedgerM (List Object × Nat)
  | [], byteCount => return ([], byteCount)
  | [record], byteCount => readMessages host record.input byteCount
  | record :: rest, byteCount => do
    let (input, total) ← readMessages host record.input byteCount
    let (output, total) ← readMessages host record.output total
    let (later, total) ← readChain rest total
    return (input ++ output ++ later, total)

/-- Reconstruct the conversation that ends with a response. -/
def history (id thread : String) : LedgerM History := do
  match collectChain (← state).history thread maximumHistoryRecords [] id with
  | .error failure => throw (.failure failure)
  | .ok chain =>
    match chain with
    | [] => reject "Missing response history."
    | result :: _ =>
      let (input, byteCount) ← readChain host chain.reverse 0
      let (output, _) ← readMessages host result.output byteCount
      return {
        thread := result.thread
        previous := result.previous
        input := input
        output := output
        account := result.account
        generation := result.generation }

/-- Save a message that has no file yet, and return its content identity. -/
def storeMessage (item : Object) : LedgerM String := do
  let data := RouterJSON.data host item
  let digest := RouterJSON.hash host data
  if ((← messages).lookup digest).isNone then
    writePrivate fun disk => { disk with messages := disk.messages.insert digest data }
  return digest

/-- Save messages in order, and return their content identities. -/
def storeMessages : List Object → LedgerM (List String)
  | [] => return []
  | item :: rest => do
    let digest ← storeMessage host item
    let digests ← storeMessages rest
    return digest :: digests

/-- Record a response. -/
def storeHistory (id : String) (value : History) : LedgerM Unit := do
  if ((← state).history.lookup id).isSome then
    reject "The account reused a response identity."
  else
    let input ← storeMessages host value.input
    let output ← storeMessages host value.output
    let stored : HistoryRecord := {
      thread := value.thread
      previous := value.previous
      input := input
      output := output
      account := value.account
      generation := value.generation }
    put fun state => { state with history := state.history.insert id stored }

/-- Save the history of a response that needs no delivery decision. -/
def saveHistory (id : String) (value : History) : LedgerM Unit := do
  storeHistory host id value
  persist

end Platform

/-- Record the state of a request. -/
def record (fingerprint turn : String) (next : RequestState) :
    LedgerM Unit := do
  put fun state => { state with requests := state.requests.insert fingerprint ⟨turn, next⟩ }
  persist

/-- The delivery state of a submission that follows the recorded one. -/
def resubmission : RequestState → Option RequestState
  | .connectionLimited | .interruptedRetry => some .retrying
  | .interrupted => some .forwarding
  | _ => none

/-- The state of a request that is interrupted. -/
def interruption : RequestState → Option RequestState
  | .forwarding => some .interrupted
  | .retrying => some .interruptedRetry
  | _ => none

/-- Begin a request. -/
def begin (fingerprint turn : String) : LedgerM Unit := do
  match ← bound turn with
  | none => reject "Inference requires an immutable account binding."
  | some _ =>
    match (← state).requests.lookup fingerprint with
    | none => record fingerprint turn .forwarding
    | some request =>
      if request.turn = turn then
        match resubmission request.state with
        | some next => record fingerprint turn next
        | none => reject "This inference request has no recorded recoverable interruption."
      else reject "Invalid saved inference request identity."

/-- Record a transport interruption that was observed. -/
def interrupt (fingerprint turn : String) : LedgerM Unit := do
  match (← state).requests.lookup fingerprint with
  | none => reject "Cannot interrupt an unknown inference request."
  | some request =>
    if request.turn = turn then
      match interruption request.state with
      | some next => record fingerprint turn next
      | none => reject "Cannot interrupt a request that is not in flight."
    else reject "Cannot interrupt an unknown inference request."

/-- Cancel a request. -/
def cancel (fingerprint turn : String) : LedgerM Unit := do
  match (← state).requests.lookup fingerprint with
  | none => reject "Cannot cancel an unknown inference request."
  | some request =>
    if request.turn = turn then
      match request.state with
      | .completed | .cancelled => return ()
      | .forwarding | .retrying => record fingerprint turn .cancelled
      | _ => reject "Cannot cancel a request that is not in flight."
    else reject "Cannot cancel an unknown inference request."

/-- Make a request wait after a connection limit. -/
def rejectConnectionLimit (fingerprint turn : String) : LedgerM Unit := do
  match (← state).requests.lookup fingerprint with
  | some ⟨owner, .forwarding⟩ =>
    if owner = turn then record fingerprint turn .connectionLimited
    else
      reject
        "Cannot recover this request from another WebSocket connection limit. Start a new turn."
  | _ =>
    reject
      "Cannot recover this request from another WebSocket connection limit. Start a new turn."

/-- Finish a request. -/
def finish (fingerprint turn : String) : LedgerM Unit := do
  match (← state).requests.lookup fingerprint with
  | none => reject "Cannot complete a request that was not submitted by this turn."
  | some request =>
    if request.turn = turn ∧ request.state.inFlight then
      record fingerprint turn .completed
    else
      reject "Cannot complete a request that was not submitted by this turn."

/-- Save the response of a request together with its delivery decision. -/
def complete (host : Foundation)
    (fingerprint turn response : String) (history : History) : LedgerM Unit := do
  storeHistory host response history
  finish fingerprint turn

/-- Fail a turn. -/
def fail (turn : String) : LedgerM Unit := do
  put fun state => { state with failed := state.failed.insert turn true }
  persist

/-- Open the ledger from its files.  The result is the memory of the new
ledger, if it opened, and the files. -/
def init (disk : Disk) (writes : List WriteOutcome) :
    Except PlainError Ledger × Disk :=
  match disk.ledger with
  | none =>
    let result := call persist ⟨.empty, disk⟩ writes
    (result.1.map fun _ => result.2, result.2.disk)
  | some saved =>
    if saved.schemaVersion = 1 then
      let result := call persist ⟨saved.blockInFlight, disk⟩ writes
      (result.1.map fun _ => result.2, result.2.disk)
    else (.error (.failure ⟨"Unsupported routing ledger schema."⟩), disk)

end RouterLedger
end Turnrail
