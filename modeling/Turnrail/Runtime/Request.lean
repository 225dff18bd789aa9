import Turnrail.Runtime.Effects

/-!
# Model requests

The functions that read a `response.create` request: its metadata, the account
binding it inherits, the conversation it continues, the payload sent to the
account and the fingerprint under which it is delivered.
-/

namespace Turnrail

open Interleaving RouterJSON

/-- The routines of the router. -/
abbrev Worker (ρ α : Type) := Routine router ρ RouterError α

namespace Worker

/-- Perform an effect. -/
def perform (effect : Effect) : Worker ρ effect.Reply :=
  @Routine.perform router ρ RouterError effect

/-- Raise an error with the given text. -/
def failure (message : String) : Worker ρ α :=
  throw (.plain (.failure ⟨message⟩))

/-- Continue with the value of a check, or raise its error. -/
def check (outcome : Except RouterFailure α) : Worker ρ α :=
  Routine.ofExcept (outcome.mapError fun error => .plain (.failure error))

/-- Continue with the value of a call, or raise its error. -/
def plain (outcome : Except PlainError α) : Worker ρ α :=
  Routine.ofExcept (outcome.mapError .plain)

/-- Check that an account offers what a request asks for. -/
def validate (request : Object) (catalog : List Object) : Worker ρ Unit := do
  check (← perform (.validate request catalog))

/-- Send a frame to the Engine. -/
def frame (frame : Frame) : Worker ρ Unit := do
  plain (← perform (.frame frame))

/-- Call the ledger. -/
def ledger (call : LedgerCall) : Worker ρ call.Value := do
  plain (← perform (.ledger call))

end Worker

/-- A field is missing or null. -/
def absent (object : Object) (key : String) : Bool :=
  match object.get key with
  | none | some .null => true
  | some _ => false

namespace RouterRequest

/-- The response a request continues. -/
def previousResponse (body : Object) : Except RouterFailure (Option String) :=
  if absent body "previous_response_id" then .ok none
  else (text body "previous_response_id").map some

/-- The record of a response. -/
def history (body : Object) (thread : String) (output : List Object) :
    Except RouterFailure History := do
  let input ← array body "input"
  let previous ← previousResponse body
  return {
    thread := thread
    previous := previous
    input := input
    output := output
    account := none
    generation := none }

/-- Routing state that belongs to one account. -/
def accountSpecific : List String :=
  ["x-codex-turn-state", "x-codex-routing-hint"]

/-- The kinds of requests. -/
def requestKinds : List String := ["turn", "compaction", "prewarm"]

/-- The metadata of a request. -/
def metadata (host : Foundation) (body : Object) :
    Except PlainError Object := do
  if (body.get "type").bind Json.asString = some "response.create" then
    let client ← (map body "client_metadata").mapError .failure
    if accountSpecific.any fun key => (client.get key).isSome then
      throw (.failure ⟨"Account-specific routing state cannot be reused across accounts."⟩)
    else
      let text ←
        (text client "x-codex-turn-metadata").mapError .failure
      let metadata ← object host (utf8 text)
      let kind ← (RouterJSON.text metadata "request_kind").mapError .failure
      if requestKinds.contains kind then return metadata
      else
        throw (.failure ⟨"The model request has no supported routing purpose."⟩)
  else throw (.failure ⟨"Only response.create is supported."⟩)

/-- A text of the metadata that may be absent. -/
def optionalMetadataText (metadata : Object) (key : String) :
    Except RouterFailure (Option String) :=
  if (metadata.get key).isNone then .ok none
  else (text metadata key).map some

section Platform

variable (host : Foundation)

/-- Bind a registered title task to the account of its folder. -/
def inheritTitle (metadata : Object) (thread key : String)
    (source trigger : Option String) : Worker ρ Unit := do
  if source = some "thread_title" ∧ trigger = some "thread_title" ∧
      (metadata.get "request_kind").bind Json.asString = some "turn" then
    match ← Worker.ledger (.title thread) with
    | some account => Worker.ledger (.bind key account)
    | none =>
      Worker.failure "The automatic title task was not registered by the Engine observer."
  else
    Worker.failure "The automatic title task was not registered by the Engine observer."

/-- Bind a child to the account of its parent turn. -/
def inheritParent (metadata : Object) (key : String) : Worker ρ Unit := do
  let parentThread ←
    Worker.check (text metadata "parent_thread_id")
  let parentTurn ← Worker.check (text metadata "parent_turn_id")
  let parent ←
    Worker.check (RouterLedger.key host parentThread parentTurn)
  match ← Worker.ledger (.bound parent) with
  | some account => Worker.ledger (.bind key account)
  | none => Worker.failure "A child request requires its parent turn binding."

/-- Bind a goal continuation to the account of the last completed turn. -/
def inheritGoal (metadata : Object) (thread key : String) :
    Worker ρ Unit := do
  match ← Worker.ledger (.bound key) with
  | some _ => return ()
  | none =>
    if (metadata.get "request_kind").bind Json.asString = some "turn" then
      let account ← Worker.ledger (.completedAccount thread)
      Worker.ledger (.bind key account)
    else Worker.failure "Goal continuation requires a turn request."

/-- Bind a turn to the account of the turn before. -/
def inherit (metadata : Object) (thread key : String)
    (source trigger : Option String) : Worker ρ Unit := do
  if source = some "thread_title" ∨ trigger = some "thread_title" then
    inheritTitle metadata thread key source trigger
  else
    match ← Worker.ledger (.title thread) with
    | some _ => Worker.failure "Title task classification changed."
    | none =>
      if source = some "subagent" ∨ source = some "guardian_review" then
        inheritParent host metadata key
      else if trigger = some "goal" then inheritGoal metadata thread key
      else return ()

/-- The turn of a request and its account.  A title task, a child and a goal
continuation inherit an account; an ordinary turn has the one its prompt hook
selected. -/
def binding (metadata : Object) : Worker ρ (String × UUID) := do
  let thread ← Worker.check (text metadata "thread_id")
  let turn ← Worker.check (text metadata "turn_id")
  let key ← Worker.check (RouterLedger.key host thread turn)
  let source ← Worker.check (optionalMetadataText metadata "thread_source")
  let trigger ← Worker.check (optionalMetadataText metadata "turn_trigger")
  inherit host metadata thread key source trigger
  match ← Worker.ledger (.bound key) with
  | some account => return (key, account)
  | none => Worker.failure "No prompt-hook binding exists for this turn."

/-- The whole conversation of a request, and the response it continues. -/
def expanded (body : Object) (thread : String) :
    Worker ρ (List Object × Option History) := do
  let input ← Worker.check (array body "input")
  match ← Worker.check (previousResponse body) with
  | none => return (input, none)
  | some id =>
    let previous ← Worker.ledger (.history id thread)
    return (previous.input ++ previous.output ++ input, some previous)

/-- What is sent to the account: the delta on the connection that produced the
previous response, the whole conversation otherwise. -/
def payload (body : Object) (input : List Object) (previous : Option History)
    (account : UUID) (generation : String) : Object :=
  if previous.bind History.account ≠ some account ∨
      previous.bind History.generation ≠ some generation then
    (body.removeValue "previous_response_id").set "input" (.objects input)
  else body

/-- The identity of a request. -/
def fingerprint (body : Object) (input : List Object) (turn : String) :
    String :=
  let identity :=
    (((body.removeValue "previous_response_id").removeValue
      "client_metadata").removeValue "stream").set "input" (.objects input)
  hash host (data host
    [("turn", .string turn), ("request", .object identity)])

end Platform

end RouterRequest
end Turnrail
