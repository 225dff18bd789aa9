import Turnrail.Failure.Transport
import Mathlib.Algebra.Order.Ring.Unbundled.Rat

/-!
# Service failures

A terminal event of the model service is read into a bounded diagnostic.  Only
identifiers of a fixed list survive; every other text is reduced to a field
state.  The classification decides whether the official Engine may recover.
-/

namespace Turnrail

/-- Seconds since a fixed point in time. -/
abbrev Date := Rat

/-- ASCII lowercase, which is all that the compared header name contains. -/
def lowercased (text : String) : String :=
  String.ofList (text.toList.map Char.toLower)

namespace RouterServiceRetryDelay

/-- What is known about a delay. -/
inductive State
  | missing
  | null
  | valid
  | invalid
  | excessive
  deriving DecidableEq

/-- The longest delay that is honored, in seconds. -/
def maximumSeconds : Rat := 60

end RouterServiceRetryDelay

/-- A delay that the service asks for. -/
structure RouterServiceRetryDelay where
  state : RouterServiceRetryDelay.State
  deadline : Option Date
  deriving DecidableEq

namespace RouterServiceRetryDelay

/-- The number of some digits. -/
def decimal (digits : List Char) : Nat :=
  digits.foldl (fun value digit => 10 * value + (digit.toNat - 48)) 0

/-- The delay of a header. -/
def ofValue (host : Foundation) (value : String) (now : Date) :
    RouterServiceRetryDelay :=
  let bounded (seconds : Rat) : RouterServiceRetryDelay :=
    if seconds ≤ maximumSeconds then ⟨.valid, some (now + seconds)⟩
    else ⟨.excessive, none⟩
  if value.toList.all (fun digit => 48 ≤ digit.toNat && digit.toNat ≤ 57) then
    bounded (decimal value.toList)
  else
    match host.parseDate value with
    | some date =>
      if host.formatDate date = value then bounded (max 0 (date - now))
      else ⟨.invalid, none⟩
    | none => ⟨.invalid, none⟩

/-- Read the headers of an event. -/
def ofHeaders (host : Foundation) (headers : Option Json) (now : Date) :
    RouterServiceRetryDelay :=
  match headers with
  | none => ⟨.missing, none⟩
  | some .null => ⟨.null, none⟩
  | some (.object headers) =>
    match headers.filter fun field => lowercased field.1 = "retry-after" with
    | [] => ⟨.missing, none⟩
    | [(_, .string value)] =>
      if value.isEmpty then ⟨.invalid, none⟩
      else ofValue host value now
    | _ => ⟨.invalid, none⟩
  | some _ => ⟨.invalid, none⟩

/-- A delay does not rule recovery out. -/
def permitsRecovery (delay : RouterServiceRetryDelay) : Bool :=
  match delay.state with
  | .missing | .null | .valid => true
  | .invalid | .excessive => false

end RouterServiceRetryDelay

namespace RouterServiceFailure

/-- The shape in which the service reported a failure. -/
inductive Envelope
  | wrappedError
  | streamError
  | failedResponse
  | incompleteResponse
  deriving DecidableEq

/-- Identifiers the protocol defines.  No other text leaves the router. -/
def identifiers : List String :=
  ["invalid_request_error", "authentication_error", "permission_error",
    "server_error", "service_unavailable_error", "server_is_overloaded",
    "context_length_exceeded", "invalid_encrypted_content", "invalid_prompt",
    "invalid_value", "invalid_argument", "invalid_parameter",
    "missing_required_parameter", "unsupported_parameter",
    "previous_response_not_found", "model_not_found", "invalid_api_key",
    "token_revoked", "insufficient_permissions", "permission_denied",
    "rate_limit_exceeded", "usage_limit_reached",
    "workspace_member_usage_limit_reached", "usage_not_included",
    "insufficient_quota", "credit_balance_exhausted",
    "organization_spend_limit_exceeded", "project_spend_limit_exceeded",
    "organization_usage_limit_exceeded", "server_overloaded",
    "internal_error", "slow_down", "websocket_connection_limit_reached",
    "websocket_timeout", "max_output_tokens", "max_tool_calls",
    "content_filter", "cyber_policy", "bio_policy",
    "misalignment_policy_violation"]

/-- How much of a field was understood. -/
inductive FieldState
  | missing
  | null
  | invalid
  | unrecognized
  | recognized
  deriving DecidableEq

/-- The name of a state. -/
def FieldState.rawValue : FieldState → String
  | .missing => "missing"
  | .null => "null"
  | .invalid => "invalid"
  | .unrecognized => "unrecognized"
  | .recognized => "recognized"

/-- A field of a failure. -/
structure Field where
  state : FieldState
  value : Option String
  deriving DecidableEq

/-- The field of a value. -/
def Field.of : Option Json → Field
  | none => ⟨.missing, none⟩
  | some .null => ⟨.null, none⟩
  | some (.string text) =>
    if identifiers.contains text then ⟨.recognized, some text⟩
    else ⟨.unrecognized, none⟩
  | some _ => ⟨.invalid, none⟩

/-- A field is missing or null. -/
def Field.isAbsent (field : Field) : Bool :=
  field.state = .missing || field.state = .null

/-- What the diagnostics show of a field. -/
def Field.diagnostic (field : Field) : String :=
  field.value.getD field.state.rawValue

end RouterServiceFailure

open RouterServiceFailure in

/-- A failure that the service reports. -/
structure RouterServiceFailure where
  eventType : String
  envelope : Envelope
  status : Option Int
  statusState : FieldState
  errorType : Field
  code : Field
  reason : Field
  retryDelay : RouterServiceRetryDelay
  summary : String
  reference : Option String := none
  diagnosticWriteFailed : Bool := false
  deriving DecidableEq

namespace RouterServiceFailure

/-- The envelope of an event, its error and where it stands. -/
def detail (event : Object) (type : String) :
    Except RouterFailure (Envelope × Object × String) :=
  match type with
  | "error" =>
    let summary := "The model service rejected the request."
    match event.get "error" with
    | some _ => do
      if (event.get "code").isSome || (event.get "message").isSome then
        throw ⟨"The model service returned conflicting error envelopes."⟩
      return (.wrappedError, ← RouterJSON.map event "error", summary)
    | none =>
      if (event.get "code").isSome || ((event.get "message").bind Json.asString).isSome then
        .ok (.streamError, event.removeValue "type", summary)
      else .error ⟨"The model service returned an invalid stream error."⟩
  | "response.failed" => do
    let response ← RouterJSON.map event "response"
    return (.failedResponse, ← RouterJSON.map response "error",
      "The model service could not complete the response.")
  | "response.incomplete" => do
    let response ← RouterJSON.map event "response"
    return (.incompleteResponse,
      ((response.get "incomplete_details").bind Json.asObject).getD [],
      "The model service returned an incomplete response.")
  | _ => .error ⟨"Expected a terminal model-service failure."⟩

/-- The status of an event. -/
def readStatus (event : Object) : Option Int × FieldState :=
  match (event.get "status").bind Json.asInt with
  | some value =>
    if 400 ≤ value ∧ value ≤ 599 then (some value, .recognized)
    else (none, .invalid)
  | none =>
    let field := Field.of (event.get "status")
    (none, if field.isAbsent then field.state else .invalid)

/-- The failure of an event. -/
def of (host : Foundation) (event : Object) (now : Date) :
    Except RouterFailure RouterServiceFailure := do
  let type ← RouterJSON.text event "type"
  let (envelope, detail, summary) ← detail event type
  return {
    eventType := type
    envelope := envelope
    status := (readStatus event).1
    statusState := (readStatus event).2
    errorType := Field.of (detail.get "type")
    code := Field.of (detail.get "code")
    reason := Field.of (detail.get "reason")
    retryDelay := RouterServiceRetryDelay.ofHeaders host (event.get "headers") now
    summary := summary }

variable (failure : RouterServiceFailure)

/-- The service refused the request for safety reasons. -/
def isMisalignmentPolicyViolation : Bool :=
  failure.eventType ≠ "response.incomplete" &&
    failure.code.value = some "misalignment_policy_violation"

/-- The service closed the connection because of its age. -/
def isWebSocketConnectionLimit : Bool :=
  failure.envelope = .wrappedError && failure.status = some 400 &&
    failure.errorType.value = some "invalid_request_error" &&
    failure.code.value = some "websocket_connection_limit_reached"

/-- Explicit transient evidence is required; conflicting details stay
terminal. -/
def permitsEngineRecovery : Bool :=
  let temporaryStatus :=
    match failure.status with
    | some status => [500, 502, 503, 504].contains status
    | none => false
  let serverType :=
    failure.errorType.value = some "server_error" ||
      failure.errorType.value = some "service_unavailable_error"
  let serverCode :=
    failure.code.value = some "server_error" ||
      failure.code.value = some "server_is_overloaded"
  let absentStatus := failure.statusState = .missing || failure.statusState = .null
  failure.eventType ≠ "response.incomplete" && failure.reason.isAbsent &&
    failure.retryDelay.permitsRecovery &&
    ((temporaryStatus || absentStatus) && (serverType || failure.errorType.isAbsent) &&
      (serverCode || failure.code.isAbsent) &&
      (temporaryStatus || serverType || serverCode))

/-- The text of a failure. -/
def description : String :=
  let fields := [("type", failure.errorType), ("code", failure.code),
    ("reason", failure.reason)]
  let recognized := fields.any fun field => field.2.value.isSome
  failure.summary ++ " [" ++
      "; ".intercalate ([failure.eventType] ++ (match failure.status with
          | some status => ["HTTP " ++ toString status]
          | none => []) ++
        (if recognized then [] else ["reason unavailable or unrecognized"]) ++
        ((fields.filter fun field => !field.2.isAbsent || !recognized).map
          fun field => field.1 ++ ": " ++ field.2.diagnostic) ++
        (match failure.retryDelay.state with
          | .missing | .null => []
          | .valid => ["Retry-After valid"]
          | .invalid => ["invalid Retry-After"]
          | .excessive => ["Retry-After exceeds the 60-second recovery budget"]) ++
        (match failure.reference with
          | some reference => ["ref: " ++ reference]
          | none => []) ++
        (if failure.diagnosticWriteFailed then
          ["diagnostic storage unavailable"] else [])) ++
    "] " ++
    (if failure.permitsEngineRecovery then
      "Recovery is delegated to the official Engine using the bound account."
    else
      "This rejection will not be retried or moved to another account.")

/-- The sanitized event both official transports treat as retryable. -/
def engineRecoveryEvent : Except RouterFailure Object :=
  if failure.permitsEngineRecovery then
    .ok [("type", .string "response.failed"), ("response", .object [("error", .object
        [("code", .string "server_error"), ("message", .string failure.description)])])]
  else .error ⟨"This service failure does not permit Engine recovery."⟩

/-- The sanitized event that asks the Engine to reconnect. -/
def connectionLimitRetryEvent : Object :=
  [("type", .string "error"), ("status", .number 400), ("error", .object
      [("type", .string "invalid_request_error"),
        ("code", .string "websocket_connection_limit_reached"),
        ("message", .string ("The WebSocket connection expired. " ++
            "Reconnect using the bound account."))])]

end RouterServiceFailure

/-- An error of the router or of a library. -/
inductive PlainError
  | failure (failure : RouterFailure)
  | foreign (description : String)
  deriving DecidableEq

/-- Everything the router's workers can catch. -/
inductive RouterError
  | plain (error : PlainError)
  | transport (failure : RouterTransportFailure)
  | service (failure : RouterServiceFailure)
  deriving DecidableEq

/-- The text of an error. -/
def PlainError.localizedDescription : PlainError → String
  | .failure error => error.message
  | .foreign description => description

/-- The text shown for an error. -/
def RouterError.localizedDescription : RouterError → String
  | .plain error => error.localizedDescription
  | .transport error => error.errorDescription
  | .service error => error.description

/-- The object in some bytes. -/
def RouterJSON.object (host : Foundation) (bytes : Data) :
    Except PlainError Object :=
  match host.jsonObject bytes with
  | some (.object fields) => .ok fields
  | some _ => .error (.failure ⟨"Expected a JSON object."⟩)
  | none => .error (.foreign
    "The data couldn’t be read because it isn’t in the correct format.")

end Turnrail
