import Turnrail.Foundation

/-!
# Transport failures

A transport failure carries protocol and numeric codes only.  It knows whether
the official Engine may recover from it: a known connection failure that was
not caused by closing the connection locally.
-/

namespace Turnrail

/-- What one model request looked like when it failed.  The elapsed times of
the diagnostic archive are left out: nothing reads them back. -/
structure RouterTransportObservation where
  kind : String
  connectionReused : Bool
  requestBytes : Nat
  receivedEvents : Nat
  responseStarted : Bool
  deriving DecidableEq

/-- The request kinds that reach an account. -/
def RouterTransportObservation.kinds : List String := ["turn", "compaction"]

/-- Note an event that was received. -/
def RouterTransportObservation.received
    (progress : RouterTransportObservation)
    (type : String) : RouterTransportObservation :=
  { progress with
    receivedEvents := progress.receivedEvents + 1
    responseStarted := progress.responseStarted || type == "response.created" }

namespace RouterTransportFailure

/-- When a connection fails. -/
inductive Phase
  | check
  | send
  | receive
  deriving DecidableEq

/-- The text of a phase in diagnostics. -/
def Phase.rawValue : Phase → String
  | .check => "check"
  | .send => "send"
  | .receive => "receive"

/-- Why a connection fails. -/
inductive Cause
  | transport
  | keepAlive
  | probe
  | sendTimeout
  | receiveTimeout
  | localClose
  deriving DecidableEq

/-- The text of a cause in diagnostics. -/
def Cause.rawValue : Cause → String
  | .transport => "transport"
  | .keepAlive => "keepAlive"
  | .probe => "probe"
  | .sendTimeout => "sendTimeout"
  | .receiveTimeout => "receiveTimeout"
  | .localClose => "localClose"

/-- The error domains whose codes are retained. -/
inductive Domain
  | url
  | posix
  deriving DecidableEq

/-- The text of a domain in diagnostics. -/
def Domain.rawValue : Domain → String
  | .url => "NSURLErrorDomain"
  | .posix => "NSPOSIXErrorDomain"

end RouterTransportFailure

open RouterTransportFailure in

/-- A failure of a connection. -/
structure RouterTransportFailure where
  phase : Phase
  cause : Cause := .transport
  domain : Option Domain
  code : Option Int
  closeCode : Option Int
  connectionAgeMS : Option Int := none
  request : Option RouterTransportObservation := none
  reference : Option String := none
  diagnosticWriteFailed : Bool := false
  deriving DecidableEq

namespace RouterTransportFailure

/-- The failure of an error and a close code. -/
def of
    (phase : Phase)
    (error : Option (Domain × Int))
    (closeCode : Int) : RouterTransportFailure where
  phase := phase
  domain := error.map Prod.fst
  code := error.map Prod.snd
  closeCode :=
    if 1000 ≤ closeCode ∧ closeCode ≤ 4999 then some closeCode else none

/-- The close codes after which the Engine may try again. -/
def recoverableCloseCodes : List Int :=
  [1000, 1001, 1005, 1006, 1011, 1012, 1013]

/-- URL-loading codes that leave recovery to the Engine: timed out, cannot find
host, cannot connect to host, connection lost, DNS lookup failed, offline. -/
def recoverableURLCodes : List Int :=
  [-1001, -1003, -1004, -1005, -1006, -1009]

/-- The POSIX code of a cancelled operation. -/
def ECANCELED : Int := 89

/-- POSIX codes that leave recovery to the Engine: `ENOTCONN`, `ECONNRESET`,
`ECONNABORTED`, `EPIPE`, `ETIMEDOUT`, `ENETDOWN`, `ENETUNREACH`, `EHOSTUNREACH`
and `ECONNREFUSED`. -/
def recoverablePOSIXCodes : List Int :=
  [57, 54, 53, 32, 60, 50, 51, 65, 61]

/-- The Engine may try again after a failure. -/
def permitsEngineRecovery (failure : RouterTransportFailure) : Bool :=
  failure.cause ≠ .localClose && (match failure.closeCode with
      | some code => recoverableCloseCodes.contains code
      | none => true) &&
    (match failure.domain, failure.code with
      | some .url, some code => recoverableURLCodes.contains code
      | some .posix, some code =>
        if code = ECANCELED then
          failure.phase = .receive && failure.cause = .transport
        else recoverablePOSIXCodes.contains code
      | _, _ => false)

theorem not_permitsEngineRecovery_of_localClose
    {failure : RouterTransportFailure}
    (closed : failure.cause = .localClose) :
    failure.permitsEngineRecovery = false := by
  simp [permitsEngineRecovery, closed]

/-- What the diagnostics show of a failure. -/
def diagnostic (failure : RouterTransportFailure) : String :=
  "; ".intercalate (["phase: " ++ failure.phase.rawValue] ++
      (match failure.domain, failure.code with
        | some domain, some code => [domain.rawValue ++ ": " ++ toString code]
        | _, _ => []) ++
      (match failure.closeCode with
        | some code => ["close: " ++ toString code]
        | none => []) ++
      (if failure.cause = .transport then []
        else ["source: " ++ failure.cause.rawValue]) ++
      (match failure.request with
        | some request =>
          ["request: " ++ request.kind, "events: " ++ toString request.receivedEvents]
        | none => []) ++
      (match failure.reference with
        | some reference => ["ref: " ++ reference]
        | none => []) ++
      (if failure.diagnosticWriteFailed then
        ["diagnostic storage unavailable"] else []))

/-- The text of a failure. -/
def errorDescription (failure : RouterTransportFailure) : String :=
  (match failure.phase with
    | .check =>
      "The bound account connection was unavailable before sending. " ++ "No request was sent."
    | .send => "The bound account connection failed while sending. " ++
      "No request was replayed."
    | .receive => "The bound account connection was interrupted. " ++
      "No request was replayed.") ++
    " [" ++ failure.diagnostic ++ "]"

end RouterTransportFailure

end Turnrail
