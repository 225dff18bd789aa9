import Turnrail.Checks.Scan
import Turnrail.Foundation
import Turnrail.Number.Rounding

/-!
# Reading the usage of an account

Settings asks the Engine how much of its quota an account used.
`AccountUsageProtocol` reads the response: it fails with an error, returns the
limits, or stops the whole process if a number is converted that does not fit
into an integer.
-/

namespace Turnrail

namespace TurnrailViewModel

/-- What the user can do about a failure. -/
inductive AccountRecoveryAction
  | reauthenticate
  deriving DecidableEq

/-- A failure that the server reports. -/
structure AccountServerFailure where
  message : String
  diagnosticJSON : String
  recoveryAction : Option AccountRecoveryAction

/-- The errors of reading an account. -/
inductive AccountReaderError
  | authenticationRequired
  | timedOut
  | engineExited (status : Int) (message : String)
  | invalidResponse
  | serverError (failure : AccountServerFailure)
  | unsupportedAccountType (type : String)
  | missingEmail
  | unsupportedPlan (plan : String)
  | invalidUsage (message : String)

/-- The text of an error. -/
def AccountReaderError.errorDescription : AccountReaderError → String
  | .authenticationRequired => "This account needs to sign in again."
  | .timedOut => "Timed out while reading the ChatGPT account."
  | .engineExited status message =>
    "ChatGPT Engine exited with status " ++ toString status ++ ": " ++ message
  | .invalidResponse => "ChatGPT Engine returned an invalid account response."
  | .serverError failure =>
    "ChatGPT Engine could not read the ChatGPT account: " ++ failure.message
  | .unsupportedAccountType type =>
    "ChatGPT Engine returned unsupported account type " ++ type ++ "."
  | .missingEmail => "ChatGPT did not return an email address for this account."
  | .unsupportedPlan plan => "ChatGPT Engine returned unsupported plan type " ++ plan ++ "."
  | .invalidUsage message => "ChatGPT Engine returned invalid usage data: " ++ message

end TurnrailViewModel

open TurnrailViewModel

/-- A limit within a time. -/
structure AccountRateLimitWindow where
  usedPercent : Int
  windowDurationMinutes : Option Int
  resetsAt : Option Rat
  percentage : 0 ≤ usedPercent ∧ usedPercent ≤ 100
  lasting : ∀ minutes ∈ windowDurationMinutes, 0 < minutes
  ending : ∀ date ∈ resetsAt, 0 < date

/-- A limit with its windows. -/
structure AccountRateLimitBucket where
  limitID : Option String
  name : Option String
  primary : Option AccountRateLimitWindow
  secondary : Option AccountRateLimitWindow

namespace AccountResetCredit

/-- The types of a reset. -/
inductive ResetType
  | codexRateLimits
  | unknown
  deriving DecidableEq

/-- The states of a reset. -/
inductive Status
  | available
  | redeeming
  | redeemed
  | unknown
  deriving DecidableEq

end AccountResetCredit

/-- A reset that an account may use. -/
structure AccountResetCredit where
  id : String
  resetType : AccountResetCredit.ResetType
  status : AccountResetCredit.Status
  grantedAt : Rat
  expiresAt : Option Rat
  title : Option String

/-- The resets of an account. -/
structure AccountResetCredits where
  availableCount : Int
  credits : Option (List AccountResetCredit)

/-- The limits of an account. -/
structure AccountRateLimits where
  buckets : List AccountRateLimitBucket
  resetCredits : Option AccountResetCredits

namespace AccountUsageProtocol

/-- The errors of reading a response. -/
inductive UsageError
  | serialization
  | decoding
  | reader (error : AccountReaderError)

/-- How reading ends without a result. -/
inductive Stop
  | thrown (error : UsageError)
  | trap

/-- The platform below the reader. -/
structure Platform where
  foundation : Foundation
  texts : Texts
  intValue : Rat → Int
  recoded : Object → Option Object
  prettyPrinted : Object → Option String
  rest : String → String → Option String
  precedes : String → String → Bool

/-- What cannot stop the process is part of what can. -/
def attempt (outcome : Except UsageError α) : Except Stop α :=
  outcome.mapError .thrown

/-- The reader does not understand a response. -/
def invalidResponse : UsageError := .reader .invalidResponse

/-- An error about the usage. -/
def invalidUsage (message : String) : UsageError := .reader (.invalidUsage message)

end AccountUsageProtocol

namespace AccountServerFailureParser

open AccountUsageProtocol

/-- The codes of an expired login. -/
def expiredTokenCodes : List String :=
  ["token_expired", "token_revoked", "refresh_token_reused", "refresh_token_expired",
    "refresh_token_invalidated"]

/-- An object has the code of an expired login. -/
def hasExpiredTokenCode (texts : Texts) (object : Object) : Bool :=
  match object.get "code" with
  | some (.string code) => expiredTokenCodes.any (texts.same code)
  | _ => false

mutual

/-- Whether a value or one below it says that a token expired. -/
def containsExpiredTokenCode (texts : Texts) : Json → Bool
  | .object fields => hasExpiredTokenCode texts fields ||
    fieldsContainExpiredTokenCode texts fields
  | .array items => itemsContainExpiredTokenCode texts items
  | _ => false

/-- A field contains the code of an expired login. -/
def fieldsContainExpiredTokenCode (texts : Texts) : List (String × Json) → Bool
  | [] => false
  | (_, value) :: rest =>
    containsExpiredTokenCode texts value || fieldsContainExpiredTokenCode texts rest

/-- An item contains the code of an expired login. -/
def itemsContainExpiredTokenCode (texts : Texts) : List Json → Bool
  | [] => false
  | value :: rest => containsExpiredTokenCode texts value ||
    itemsContainExpiredTokenCode texts rest

end

/-- A text contains an object with such a code. -/
def embeddedBodyContainsExpiredTokenCode (platform : Platform) (message : String) :
    Bool :=
  match platform.rest "; body=" message with
  | none => false
  | some body =>
    match platform.foundation.jsonObject (utf8 body) with
    | none => false
    | some value => containsExpiredTokenCode platform.texts value

/-- The failure of a response. -/
def parse (platform : Platform) (response error : Object) :
    Except UsageError AccountServerFailure :=
  match (error.get "message").bind Json.asString, platform.prettyPrinted response with
  | some message, some diagnosticJSON =>
    .ok { message, diagnosticJSON
          recoveryAction :=
            if containsExpiredTokenCode platform.texts (.object error) ||
                embeddedBodyContainsExpiredTokenCode platform message then
              some .reauthenticate
            else none }
  | _, _ => .error invalidResponse

end AccountServerFailureParser

namespace AccountResetCredit

open AccountUsageProtocol

variable (texts : Texts)

/-- Decode a text. -/
def decodeString : Option Json → Except UsageError String
  | some (.string text) => .ok text
  | _ => .error .decoding

/-- Decode an integer. -/
def decodeInteger : Option Json → Except UsageError Int
  | some (.number value) =>
    if value.den = 1 ∧ -2 ^ 63 ≤ value.num ∧ value.num < 2 ^ 63 then .ok value.num
    else .error .decoding
  | _ => .error .decoding

/-- Decode a value unless it is missing. -/
def decodeIfPresent (decode : Option Json → Except UsageError α) :
    Option Json → Except UsageError (Option α)
  | none | some .null => .ok none
  | value => some <$> decode value

/-- Decode a word of a list. -/
def decodeWord (words : List (String × α)) (value : Option Json) :
    Except UsageError α := do
  let text ← decodeString value
  match words.find? fun word => texts.same word.1 text with
  | some word => .ok word.2
  | none => .error .decoding

/-- The names of the types. -/
def ResetType.words : List (String × ResetType) :=
  [("codexRateLimits", .codexRateLimits), ("unknown", .unknown)]

/-- The words for whether a credit can be used. -/
def Status.words : List (String × Status) :=
  [("available", .available), ("redeeming", .redeeming), ("redeemed", .redeemed),
    ("unknown", .unknown)]

/-- A time of four digits for its year. -/
def timestamp (seconds : Int) : Except UsageError Rat :=
  if 0 ≤ seconds ∧ seconds ≤ 253402300799 then .ok seconds
  else .error (invalidUsage "Reset credit timestamp is out of range")

/-- Decode a reset. -/
def ofDecoder (values : Object) : Except UsageError AccountResetCredit := do
  let id ← decodeString (values.get "id")
  if id.isEmpty then .error (invalidUsage "Reset credit ID must not be empty")
  let resetType ← decodeWord texts ResetType.words (values.get "resetType")
  let status ← decodeWord texts Status.words (values.get "status")
  let grantedAt ← decodeInteger (values.get "grantedAt") >>= timestamp
  if (values.get "expiresAt").isNone then .error .decoding
  let expiresAt ← decodeIfPresent (decodeInteger · >>= timestamp) (values.get "expiresAt")
  let title ← decodeIfPresent decodeString (values.get "title")
  return { id, resetType, status, grantedAt, expiresAt, title }

/-- Decode a reset in a list. -/
def ofItem : Json → Except UsageError AccountResetCredit
  | .object values => ofDecoder texts values
  | _ => .error .decoding

/-- Decode the resets of a list. -/
def decodeArray : Option Json → Except UsageError (List AccountResetCredit)
  | some (.array items) => items.mapM (ofItem texts)
  | _ => .error .decoding

end AccountResetCredit

namespace AccountResetCredits

open AccountUsageProtocol

variable (texts : Texts)

/-- The resets, if their number fits. -/
def create (availableCount : Int) (credits : Option (List AccountResetCredit)) :
    Except UsageError AccountResetCredits := do
  if availableCount < 0 then
    .error (invalidUsage "availableCount must not be negative")
  if let some credits := credits then
    if ¬(credits.map fun credit => texts.canonical credit.id).Nodup then
      .error (invalidUsage "Reset credit IDs must be unique")
    if availableCount < (credits.filter fun credit => credit.status = .available).length then
      .error (invalidUsage "Reset details exceed the available count")
  return { availableCount, credits }

/-- Decode the resets. -/
def ofDecoder (values : Object) : Except UsageError AccountResetCredits := do
  let availableCount ← AccountResetCredit.decodeInteger (values.get "availableCount")
  let credits ← AccountResetCredit.decodeIfPresent
    (AccountResetCredit.decodeArray texts) (values.get "credits")
  create texts availableCount credits

end AccountResetCredits

/-- A window, if its values fit. -/
def AccountRateLimitWindow.create (usedPercent : Int)
    (windowDurationMinutes : Option Int) (resetsAt : Option Rat) :
    Except AccountUsageProtocol.UsageError AccountRateLimitWindow :=
  if percentage : 0 ≤ usedPercent ∧ usedPercent ≤ 100 then
    if lasting : ∀ minutes ∈ windowDurationMinutes, 0 < minutes then
      if ending : ∀ date ∈ resetsAt, 0 < date then
        .ok { usedPercent, windowDurationMinutes, resetsAt, percentage, lasting, ending }
      else
        .error (AccountUsageProtocol.invalidUsage "resetsAt must be a positive Unix timestamp")
    else .error (AccountUsageProtocol.invalidUsage "windowDurationMins must be positive")
  else
    .error (AccountUsageProtocol.invalidUsage "usedPercent must be between 0 and 100")

namespace AccountUsageProtocol

open Number

variable (platform : Platform)

/-- The integer of a double, which traps if it does not fit. -/
def toInteger (double : ℚ) : Except Stop Int :=
  if -2 ^ 63 - 1 < double ∧ double < 2 ^ 63 then .ok (towardZero double)
  else .error .trap

/-- The double of an integer. -/
def toDouble (integer : Int) : ℚ := binary64.rounded integer

/-- The integer of a number. -/
def integer (value : ℚ) : Except Stop Int :=
  match binary64.nearest value with
  | .infinite _ => .error (.thrown invalidResponse)
  | .finite double =>
    if towardZero double = double ∧ toDouble (-2 ^ 63) ≤ double ∧
        double ≤ toDouble (2 ^ 63 - 1) then
      toInteger double
    else .error (.thrown invalidResponse)

/-- An integer that must be there. -/
def requiredInteger : Option Json → Except Stop Int
  | some (.number value) => integer value
  | _ => .error (.thrown invalidResponse)

/-- A positive integer that may be absent. -/
def optionalPositiveInteger (field : String) : Option Json → Except Stop (Option Int)
  | none | some .null => .ok none
  | value => do
    let integer ← requiredInteger value
    if 0 < integer then return some integer
    else .error (.thrown (invalidUsage (field ++ " must be positive")))

/-- A text that may be absent. -/
def optionalString : Option Json → Except UsageError (Option String)
  | none | some .null => .ok none
  | some (.string text) => .ok (some text)
  | _ => .error invalidResponse

/-- The window of an object. -/
def window (object : Object) : Except Stop AccountRateLimitWindow := do
  let usedPercent ← requiredInteger (object.get "usedPercent")
  let duration ← optionalPositiveInteger "windowDurationMins" (object.get "windowDurationMins")
  let resetTimestamp ← optionalPositiveInteger "resetsAt" (object.get "resetsAt")
  attempt (AccountRateLimitWindow.create usedPercent duration (resetTimestamp.map toDouble))

/-- A window that may be absent. -/
def optionalWindow : Option Json → Except Stop (Option AccountRateLimitWindow)
  | none | some .null => .ok none
  | some (.object object) => some <$> window object
  | _ => .error (.thrown invalidResponse)

/-- The key of a limit is another one than its identifier. -/
def mismatched (explicitLimitID responseLimitID : Option String) : Bool :=
  match explicitLimitID, responseLimitID with
  | some first, some second => !platform.texts.same first second
  | _, _ => false

/-- Read the name and the windows of a limit. -/
def bucket (snapshot : Object) (limitID : Option String) :
    Except Stop AccountRateLimitBucket := do
  let name ← attempt (optionalString (snapshot.get "limitName"))
  let primary ← optionalWindow (snapshot.get "primary")
  let secondary ← optionalWindow (snapshot.get "secondary")
  return { limitID, name, primary, secondary }

/-- The limit of an object. -/
def parseBucket (snapshot : Object) (explicitLimitID : Option String) :
    Except Stop AccountRateLimitBucket := do
  let responseLimitID ← attempt (optionalString (snapshot.get "limitId"))
  if mismatched platform explicitLimitID responseLimitID then
    .error (.thrown (invalidUsage "rateLimitsByLimitId key does not match rateLimits.limitId"))
  else bucket snapshot (explicitLimitID.or responseLimitID)

/-- Read a limit that is listed with its key. -/
def parseEntry (field : String × Json) : Except Stop AccountRateLimitBucket :=
  match field.2 with
  | .object snapshot => parseBucket platform snapshot (some field.1)
  | _ => .error (.thrown invalidResponse)

/-- The resets of a result. -/
def parseResetCredits : Option Json → Except UsageError (Option AccountResetCredits)
  | none | some .null => .ok none
  | some (.object object) =>
    match platform.recoded object with
    | some values => some <$> AccountResetCredits.ofDecoder platform.texts values
    | none => .error .serialization
  | _ => .error invalidResponse

/-- Whether a limit is the one of the Engine. -/
def isCodex (bucket : AccountRateLimitBucket) : Bool :=
  bucket.limitID.any fun id => platform.texts.same id "codex"

/-- Whether a limit is listed before another one. -/
def isBefore (left right : AccountRateLimitBucket) : Bool :=
  if isCodex platform left then !isCodex platform right
  else if isCodex platform right then false
  else platform.precedes ((left.name.or left.limitID).getD "")
    ((right.name.or right.limitID).getD "")

/-- The limits in the order of their names. -/
def sortedBuckets (buckets : List AccountRateLimitBucket) :
    List AccountRateLimitBucket :=
  buckets.mergeSort fun left right => !isBefore platform right left

/-- Whether a response has the identifier of the request.  A Boolean is a number
object for zero or one. -/
def isReply : Option Json → Bool
  | some (.number value) => platform.intValue value == 3
  | _ => false

/-- The limits of a result. -/
def parseResult (result : Object) : Except Stop AccountRateLimits :=
  match result.get "rateLimits" with
  | some (.object historicalSnapshot) => do
    let resetCredits ← attempt
      (parseResetCredits platform (result.get "rateLimitResetCredits"))
    match result.get "rateLimitsByLimitId" with
    | none | some .null => do
      let bucket ← parseBucket platform historicalSnapshot none
      return { buckets := [bucket], resetCredits }
    | some (.object bucketValues) => do
      let buckets ← bucketValues.mapM (parseEntry platform)
      return { buckets := sortedBuckets platform buckets, resetCredits }
    | _ => .error (.thrown invalidResponse)
  | _ => .error (.thrown invalidResponse)

/-- Read a response that is an object. -/
def parseObject (object : Object) : Except Stop AccountRateLimits :=
  if isReply platform (object.get "id") then
    match object.get "error", object.get "result" with
    | some (.object error), _ => do
      let failure ← attempt (AccountServerFailureParser.parse platform object error)
      .error (.thrown (.reader (.serverError failure)))
    | _, some (.object result) => parseResult platform result
    | _, _ => .error (.thrown invalidResponse)
  else .error (.thrown invalidResponse)

/-- The limits in a line. -/
def parseRateLimitsResponse (line : String) : Except Stop AccountRateLimits :=
  match platform.foundation.jsonObject (utf8 line) with
  | none => .error (.thrown .serialization)
  | some (.object object) => parseObject platform object
  | some _ => .error (.thrown invalidResponse)

end AccountUsageProtocol

end Turnrail
