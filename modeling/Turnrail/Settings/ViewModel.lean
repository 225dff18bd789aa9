import Turnrail.Interleaving.Simulation
import Turnrail.Registry.Store
import Turnrail.Settings.Usage

/-!
# Accounts in Settings

`TurnrailViewModel` shows the accounts of the registry, whether they are signed
in and how much of their quota is used.  Its operations run on one actor and
interleave where they await a reader, a login or a logout.  Each part of an
operation between two such points is one effect here.
-/

namespace Turnrail

open Interleaving

namespace TurnrailViewModel

/-- Texts that the platform gives. -/
structure Wording where
  uuidString : UUID → String
  file : String
  decoding : String
  cancellation : String

/-- The text of an error of the registry. -/
def registryDescription (wording : Wording) : AccountRegistryError → String
  | .unsupportedSchemaVersion version =>
    "Account registry schema version " ++ toString version ++ " is not supported."
  | .invalidEmail => "ChatGPT did not return a valid account email address."
  | .duplicateEmail email => email ++ " is already connected."
  | .duplicateAccountID id =>
    "Account registry contains duplicate account ID " ++ wording.uuidString id ++ "."
  | .unknownAccount id => "Account " ++ wording.uuidString id ++ " does not exist."
  | .identityMismatch expected actual =>
    "Expected " ++ expected ++ ", but ChatGPT logged in as " ++ actual ++ "."
  | .cannotMoveAccount id direction =>
    "Account " ++ wording.uuidString id ++ " cannot move " ++
      (if direction = .up then "up" else "down") ++ "."
  | .revisionOverflow => "Account registry revision reached its maximum value."

/-- The text of an error of the routing. -/
def routingDescription (wording : Wording) : AccountRoutingError → String
  | .unknownRule id => "Directory rule " ++ wording.uuidString id ++ " does not exist."
  | .duplicateRule id =>
    "Directory rule " ++ wording.uuidString id ++ " occurs more than once."
  | .invalidDirectory path => "Choose an existing directory with an absolute path: " ++ path
  | .duplicateDirectory path => "A rule already exists for " ++ path ++ "."
  | .duplicateAccount id =>
    "Account " ++ wording.uuidString id ++ " occurs more than once in a rule."
  | .accountNotAllowed _ => "This account is not allowed by the selected rule."

/-- Everything an operation can throw. -/
inductive SettingsError
  | reader (error : AccountReaderError)
  | registry (error : AccountError)
  | commandFailed (operation : String) (status : Int) (output : String)
  | loginCompletedWithoutAccount
  | cancellation
  | foreign (description : String)

/-- The text of an error. -/
def SettingsError.localizedDescription (wording : Wording) :
    SettingsError → String
  | .reader error => error.errorDescription
  | .registry (.registry error) => registryDescription wording error
  | .registry (.routing error) => routingDescription wording error
  | .registry .file => wording.file
  | .registry .decoding => wording.decoding
  | .commandFailed operation status output =>
    operation ++ " failed (exit " ++ toString status ++ "): " ++ output
  | .loginCompletedWithoutAccount => "Login completed, but ChatGPT did not return an account."
  | .cancellation => wording.cancellation
  | .foreign description => description

/-- What failed about an account. -/
inductive Source
  | authentication
  | usage
  deriving DecidableEq

/-- An issue of an account. -/
structure AccountIssue where
  accountID : UUID
  source : Source
  details : String
  recoveryAction : Option AccountRecoveryAction
  deriving DecidableEq

/-- The issue of an error. -/
def accountIssue (wording : Wording) (accountID : UUID) (source : Source) :
    SettingsError → AccountIssue
  | .reader .authenticationRequired =>
    { accountID, source,
      details := AccountReaderError.authenticationRequired.errorDescription,
      recoveryAction := some .reauthenticate }
  | .reader (.serverError failure) =>
    { accountID, source, details := failure.diagnosticJSON,
      recoveryAction := failure.recoveryAction }
  | error =>
    { accountID, source, details := error.localizedDescription wording,
      recoveryAction := none }

/-- What is known about a login. -/
inductive AccountAuthStatus
  | checking
  | loggedOut
  | loggedIn
  | loginInProgress
  | failed (issue : AccountIssue)
  deriving DecidableEq

/-- What is known about the usage. -/
inductive AccountUsageStatus
  | checking
  | available (limits : AccountRateLimits)
  | failed (issue : AccountIssue)

/-- When an account was last used. -/
inductive AccountLastUsedStatus
  | neverUsed
  | used (date : Rat)
  | failed (message : String)

/-- What a login is for. -/
inductive LoginTarget
  | newAccount
  | account (id : UUID)

/-- What a command left behind. -/
structure CommandResult where
  exitCode : Int
  standardOutput : String
  standardError : String

/-- The operations of Settings. -/
inductive Call
  | refreshAuthStatus (id : UUID)
  | refreshUsage (id : UUID)
  | addAccount
  | reauthenticate (id : UUID)
  | cancelSignIn
  | remove (id : UUID)
  | refreshLastUsed
  | updateRouting (routing : AccountRoutingConfiguration)

/-- The parts of operations between two points where they await. -/
inductive Effect
  | beginRefresh (id : UUID)
  | readIdentity (id : UUID)
  | applyIdentity (id operation : UUID)
      (outcome : Except SettingsError (Option ChatGPTAccountIdentity))
  | beginUsage (id : UUID)
  | readUsage (id : UUID)
  | applyUsage (id operation : UUID)
      (outcome : Except SettingsError AccountRateLimits)
  | beginAdd
  | newAccount
  | checkCancellation
  | authenticationCommand (id : UUID) (expectedEmail : Option String)
  | login (id : UUID) (expectedEmail : Option String)
  | logout (id : UUID)
  | removeAuthHome (id : UUID)
  | completeAdd (id : UUID) (identity : ChatGPTAccountIdentity)
  | finishAdd
  | failAdd (error : SettingsError) (cleanupError : Option String)
  | beginReauthentication (id : UUID)
  | completeReauthentication (id : UUID) (identity : ChatGPTAccountIdentity)
  | failReauthentication (id : UUID) (error : SettingsError)
  | finishLogin
  | cancelSignIn
  | beginRemove (id : UUID)
  | completeRemove (id : UUID) (outcome : Except SettingsError CommandResult)
  | refreshLastUsed
  | updateRouting (routing : AccountRoutingConfiguration)

/-- What an effect is answered. -/
@[reducible] def Effect.Reply : Effect → Type
  | .beginRefresh _ | .beginUsage _ => Option UUID
  | .readIdentity _ => Except SettingsError (Option ChatGPTAccountIdentity)
  | .readUsage _ => Except SettingsError AccountRateLimits
  | .newAccount => UUID
  | .login _ _ | .logout _ => Except SettingsError CommandResult
  | .checkCancellation | .authenticationCommand _ _ | .removeAuthHome _
  | .completeAdd _ _ | .completeReauthentication _ _ => Except SettingsError Unit
  | .applyIdentity _ _ _ | .beginAdd | .failReauthentication _ _
  | .beginRemove _ => Bool
  | .beginReauthentication _ => Option String
  | .applyUsage _ _ _ | .finishAdd | .failAdd _ _ | .finishLogin
  | .cancelSignIn | .completeRemove _ _ | .refreshLastUsed
  | .updateRouting _ => Unit

/-- The effects of the calls. -/
@[reducible] def operations : Signature where
  Effect := Effect
  Reply := Effect.Reply

/-- A part of an operation.  Its variable says whether a login was started. -/
abbrev Work (α : Type) := Routine operations Bool SettingsError α

namespace Work

/-- Perform an effect. -/
def perform (effect : Effect) : Work effect.Reply :=
  @Routine.perform operations Bool SettingsError effect

/-- Pass an outcome on. -/
def pass (outcome : Except SettingsError α) : Work α :=
  Routine.ofExcept outcome

end Work

/-- Read the usage of an account. -/
def refreshUsage (id : UUID) : Work Unit := do
  match ← Work.perform (.beginUsage id) with
  | none => pure ()
  | some operation =>
    let outcome ← Work.perform (.readUsage id)
    Work.perform (.applyUsage id operation outcome)

/-- Read the login of an account. -/
def refreshAuthStatus (id : UUID) : Work Unit := do
  match ← Work.perform (.beginRefresh id) with
  | none => pure ()
  | some operation =>
    let outcome ← Work.perform (.readIdentity id)
    if ← Work.perform (.applyIdentity id operation outcome) then
      refreshUsage id
    else pure ()

/-- What is parametric in the texts and the state of the platform. -/
structure Settings where
  texts : Texts
  wording : Wording
  codec : RegistryCodec
  storeError : Option SettingsError

variable (settings : Settings)

/-- What a command wrote. -/
def commandOutput (result : CommandResult) : String :=
  settings.texts.trimmed (result.standardOutput ++ result.standardError)

/-- A command must succeed. -/
def checkCommand (operation : String) (result : CommandResult) :
    Except SettingsError Unit :=
  if result.exitCode = 0 then .ok ()
  else .error (.commandFailed operation result.exitCode (commandOutput settings result))

/-- Sign in and read the identity. -/
def signIn (id : UUID) (expectedEmail : Option String) :
    Work ChatGPTAccountIdentity := do
  Work.pass (← Work.perform .checkCancellation)
  Work.pass (← Work.perform (.authenticationCommand id expectedEmail))
  Routine.modify fun _ => true
  let result ← Work.pass (← Work.perform (.login id expectedEmail))
  Work.pass (← Work.perform .checkCancellation)
  Work.pass (checkCommand settings "Login" result)
  match ← Work.pass (← Work.perform (.readIdentity id)) with
  | some identity => pure identity
  | none => throw .loginCompletedWithoutAccount

/-- Sign out and delete what an unfinished login left. -/
def cleanupTemporaryAccount (id : UUID) (logout : Bool) :
    Work (Option String) := do
  let outcome ← Routine.attempt do
    if logout then
      let result ← Work.pass (← Work.perform (.logout id))
      Work.pass (checkCommand settings "Temporary account cleanup" result)
    else pure ()
    Work.pass (← Work.perform (.removeAuthHome id))
  match outcome with
  | .ok () => pure none
  | .error error => pure (some ("Temporary account cleanup failed: " ++
      error.localizedDescription settings.wording))

/-- Add an account. -/
def addAccount : Work Unit := do
  if ← Work.perform .beginAdd then
    let id : UUID ← Work.perform .newAccount
    let outcome ← Routine.attempt do
      let identity ← signIn settings id none
      Work.pass (← Work.perform (.completeAdd id identity))
      refreshUsage id
    match outcome with
    | .ok () => Work.perform .finishAdd
    | .error error =>
      let started : Bool ← Routine.get
      let cleanupError ← cleanupTemporaryAccount settings id started
      Work.perform (.failAdd error cleanupError)
  else pure ()

/-- Log in to an account again. -/
def reauthenticate (id : UUID) : Work Unit := do
  match ← Work.perform (.beginReauthentication id) with
  | none => pure ()
  | some email =>
    let outcome ← Routine.attempt do
      let identity ← signIn settings id (some email)
      Work.pass (← Work.perform (.completeReauthentication id identity))
      refreshUsage id
    match outcome with
    | .ok () => Work.perform .finishLogin
    | .error error =>
      if ← Work.perform (.failReauthentication id error) then
        refreshAuthStatus id
        Work.perform .finishLogin
      else pure ()

/-- Remove an account. -/
def remove (id : UUID) : Work Unit := do
  if ← Work.perform (.beginRemove id) then
    let outcome ← Work.perform (.logout id)
    Work.perform (.completeRemove id outcome)
  else pure ()

/-- The routine of a call. -/
def body : Call → Work Unit
  | .refreshAuthStatus id => refreshAuthStatus id
  | .refreshUsage id => refreshUsage id
  | .addAccount => addAccount settings
  | .reauthenticate id => reauthenticate settings id
  | .cancelSignIn => Work.perform .cancelSignIn
  | .remove id => remove id
  | .refreshLastUsed => Work.perform .refreshLastUsed
  | .updateRouting routing => Work.perform (.updateRouting routing)

/-- The program of a call. -/
def code (call : Call) : Program operations (Option Call) :=
  ((body settings call).run false).bind fun _ => .pure none

/-- What the settings show and remember. -/
structure Model where
  registry : Registry settings.codec
  registryLoadError : Option String
  accountError : Option String
  authStatus : UUID → Option AccountAuthStatus
  usageStatus : UUID → Option AccountUsageStatus
  lastUsed : UUID → Option AccountLastUsedStatus
  activeLogin : Option LoginTarget
  loginTask : Option Nat
  isCancelled : Bool
  isCancellingLogin : Bool
  isCompletingLogin : Bool
  removing : List UUID
  operation : UUID → Option UUID
  issued : List UUID

/-- What the platform does. -/
structure Environment where
  files : Files
  fresh : UUID
  deleted : Except SettingsError Unit
  lastUsed : UUID → AccountLastUsedStatus
  answer : (effect : Effect) → effect.Reply

namespace Model

variable {settings} (model : Model settings) (environment : Environment)

/-- The identifiers of the accounts. -/
def ids : List UUID := model.registry.state.accounts.map TurnrailAccount.id

/-- An account is registered. -/
def registered (id : UUID) : Bool :=
  model.registry.state.accounts.any fun account => account.id == id

/-- Show a login status. -/
def setAuth (id : UUID) (status : Option AccountAuthStatus) : Model settings :=
  { model with authStatus := Function.update model.authStatus id status }

/-- Show a usage status. -/
def setUsage (id : UUID) (status : Option AccountUsageStatus) :
    Model settings :=
  { model with usageStatus := Function.update model.usageStatus id status }

/-- Start a new operation of an account. -/
def claim (id : UUID) : Model settings :=
  { model with
    operation := Function.update model.operation id (some environment.fresh)
    issued := environment.fresh :: model.issued }

/-- Change the registry. -/
def change (call : RegistryCall) : Except SettingsError Unit × Model settings :=
  match settings.storeError with
  | some error => (.error error, model)
  | none =>
    match model.registry.call settings.texts environment.files call with
    | (.error error, file) =>
      (.error (.registry error),
        { model with registry := ⟨model.registry.state, file⟩ })
    | (.ok state, file) => (.ok (), { model with registry := ⟨state, file⟩ })

/-- Show why an account could not be refreshed. -/
def failAuth (id : UUID) (error : SettingsError) : Model settings :=
  (model.setAuth id (some (.failed (accountIssue settings.wording id .authentication
      error)))).setUsage id none

/-- Start refreshing the status of an account. -/
def beginRefresh (id : UUID) : Model settings :=
  let claimed := model.claim environment id
  (claimed.setAuth id (some ((model.authStatus id).getD .checking))).setUsage id
    (some ((model.usageStatus id).getD .checking))

/-- Show what was read about a login. -/
def applyIdentity (id : UUID)
    (outcome : Except SettingsError (Option ChatGPTAccountIdentity)) : Bool × Model settings :=
  match outcome with
  | .error error => (false, model.failAuth id error)
  | .ok none => (false, (model.setAuth id (some .loggedOut)).setUsage id none)
  | .ok (some identity) =>
    match model.change environment (.updateIdentity identity id) with
    | (.error error, changed) => (false, changed.failAuth id error)
    | (.ok (), changed) => (true, changed.setAuth id (some .loggedIn))

/-- Start refreshing the usage of an account. -/
def beginUsage (id : UUID) : Model settings :=
  (model.claim environment id).setUsage id (some ((model.usageStatus id).getD .checking))

/-- Show what was read about the usage. -/
def applyUsage (id : UUID)
    (outcome : Except SettingsError AccountRateLimits) : Model settings :=
  match outcome with
  | .ok limits => model.setUsage id (some (.available limits))
  | .error error => model.setUsage id
      (some (.failed (accountIssue settings.wording id .usage error)))

/-- Start a login. -/
def beginLogin (thread : Nat) (target : LoginTarget) : Model settings :=
  { model with
    activeLogin := some target, loginTask := some thread, isCancelled := false }

/-- End a login. -/
def finishLogin : Model settings :=
  { model with
    activeLogin := none, isCancellingLogin := false, isCompletingLogin := false,
    loginTask := none }

/-- Take over the identity of a login. -/
def completeLogin (id : UUID) (call : RegistryCall) :
    Except SettingsError Unit × Model settings :=
  if model.isCancelled then (.error .cancellation, model)
  else
    match model.change environment call with
    | (.error error, changed) => (.error error, changed)
    | (.ok (), changed) =>
      (.ok (), { changed.setAuth id (some .loggedIn) with
        isCompletingLogin := true })

/-- An error ends a cancelled login. -/
def cancels : SettingsError → Bool
  | .cancellation => true
  | _ => model.isCancelled

/-- What the user is told when no account was added. -/
def addError (error : SettingsError) (cleanupError : Option String) :
    Option String :=
  if model.cancels error then cleanupError
  else some ("\n".intercalate (error.localizedDescription settings.wording ::
      cleanupError.toList))

/-- Forget an account that is not registered any more. -/
def forget (id : UUID) : Model settings :=
  { (model.setAuth id none).setUsage id none with
    lastUsed := Function.update model.lastUsed id none
    operation := Function.update model.operation id none }

/-- Tell the user about an error. -/
def report (error : SettingsError) : Model settings :=
  { model with
    accountError := some (error.localizedDescription settings.wording) }

/-- Tell the user that an account is gone. -/
def reportMissing (id : UUID) : Model settings :=
  { model with
    accountError := some ("Account " ++ settings.wording.uuidString id ++
      " no longer exists.") }

/-- Remove an account that was signed out. -/
def completeRemove (id : UUID)
    (outcome : Except SettingsError CommandResult) : Model settings :=
  let after :=
    match outcome.bind (checkCommand settings "Logout") with
    | .error error => model.report error
    | .ok () =>
      match model.change environment (.removeAccount id) with
      | (.error error, changed) => changed.report error
      | (.ok (), changed) =>
        match environment.deleted with
        | .error error => (changed.forget id).report error
        | .ok () => changed.forget id
  { after with removing := after.removing.filter (· ≠ id) }

/-- Show when the accounts were used. -/
def refreshLastUsed : Model settings :=
  { model with
    lastUsed := fun id => if model.registered id
      then some (environment.lastUsed id) else none }

/-- Change the routing. -/
def updateRouting (routing : AccountRoutingConfiguration) : Model settings :=
  match model.change environment (.updateRouting routing) with
  | (.error error, changed) => changed.report error
  | (.ok (), changed) => { changed with accountError := none }

/-- An identifier was never created before. -/
def isFresh : Bool := decide (environment.fresh ∉ model.issued)

/-- What an effect does to the model. -/
def act (thread : Nat) :
    (effect : Effect) → Option (effect.Reply × Model settings)
  | .beginRefresh id =>
    if model.registered id && model.authStatus id ≠ some .loginInProgress &&
        id ∉ model.removing then
      if model.isFresh environment then
        some (some environment.fresh, model.beginRefresh environment id)
      else none
    else some (none, model)
  | .applyIdentity id operation outcome =>
    some (if model.operation id = some operation then
      model.applyIdentity environment id outcome else (false, model))
  | .beginUsage id =>
    if model.registered id && model.authStatus id = some .loggedIn && id ∉ model.removing then
      if model.isFresh environment then
        some (some environment.fresh, model.beginUsage environment id)
      else none
    else some (none, model)
  | .applyUsage id operation outcome =>
    some ((), if model.operation id = some operation then
      model.applyUsage id outcome else model)
  | .beginAdd =>
    if model.activeLogin.isNone && model.registryLoadError.isNone then
      some (true, { model.beginLogin thread .newAccount with
        accountError := none })
    else some (false, model)
  | .newAccount =>
    if model.isFresh environment then
      some (environment.fresh, { model with
        issued := environment.fresh :: model.issued })
    else none
  | .checkCancellation =>
    some (if model.isCancelled then .error .cancellation else .ok (), model)
  | .completeAdd id identity =>
    some (model.completeLogin environment id (.registerAccount identity id))
  | .finishAdd => some ((), { model.finishLogin with accountError := none })
  | .failAdd error cleanupError =>
    some ((), { model.finishLogin with
      accountError := model.addError error cleanupError })
  | .beginReauthentication id =>
    match model.registry.state.accounts.find? fun account =>
        account.id == id with
    | none => some (none, model.reportMissing id)
    | some account =>
      if model.activeLogin.isNone && model.registryLoadError.isNone && id ∉ model.removing then
        if model.isFresh environment then
          some (some account.email,
            ((((model.beginLogin thread (.account id)).claim environment
              id).setAuth id (some .loginInProgress)).setUsage id none))
        else none
      else some (none, model)
  | .completeReauthentication id identity =>
    some (model.completeLogin environment id (.updateIdentity identity id))
  | .failReauthentication id error =>
    some (if model.cancels error then (true, model.setAuth id none)
      else (false, (model.setAuth id (some (.failed (accountIssue
        settings.wording id .authentication error)))).finishLogin))
  | .finishLogin => some ((), model.finishLogin)
  | .cancelSignIn =>
    some ((), if model.loginTask.isSome && !model.isCancellingLogin &&
      !model.isCompletingLogin then
      { model with isCancellingLogin := true, isCancelled := true }
      else model)
  | .beginRemove id =>
    if id ∉ model.removing ∧ model.authStatus id ≠ some .loginInProgress then
      if model.isFresh environment then
        some (true, { model.claim environment id with
          removing := id :: model.removing, accountError := none })
      else none
    else some (false, model)
  | .completeRemove id outcome => some ((), model.completeRemove environment id outcome)
  | .refreshLastUsed => some ((), model.refreshLastUsed environment)
  | .updateRouting routing =>
    some ((), if model.registryLoadError.isNone then
      model.updateRouting environment routing else model)
  | .readIdentity id => some (environment.answer (.readIdentity id), model)
  | .readUsage id => some (environment.answer (.readUsage id), model)
  | .authenticationCommand id email =>
    some (environment.answer (.authenticationCommand id email), model)
  | .login id email => some (environment.answer (.login id email), model)
  | .logout id => some (environment.answer (.logout id), model)
  | .removeAuthHome id => some (environment.answer (.removeAuthHome id), model)

end Model

/-- The model of a program that starts. -/
def Model.start (files : Files) (file : Option settings.codec.Bytes)
    (lastUsed : UUID → AccountLastUsedStatus) : Model settings :=
  let loaded : Except SettingsError AccountRegistryState × Option settings.codec.Bytes :=
    match settings.storeError with
    | some error => (.error error, file)
    | none =>
      let result := AccountRegistryStore.loadOrInitialize settings.texts
        settings.codec files file
      (result.1.mapError .registry, result.2)
  let message := match loaded.1 with
    | .error error => some (error.localizedDescription settings.wording)
    | .ok _ => none
  let state := match loaded.1 with
    | .error _ => AccountRegistryState.empty
    | .ok state => state
  { registry := ⟨state, loaded.2⟩
    registryLoadError := message
    accountError := message
    authStatus _ := none
    usageStatus _ := none
    lastUsed id :=
      if state.accounts.any fun account => account.id == id then
        some (lastUsed id) else none
    activeLogin := none
    loginTask := none
    isCancelled := false
    isCancellingLogin := false
    isCompletingLogin := false
    removing := []
    operation _ := none
    issued := state.accounts.map TurnrailAccount.id }

/-- The effects on the model. -/
def machine : Machine operations (Model settings) where
  exec thread model effect reply after :=
    ∃ environment, model.act environment thread effect = some (reply, after)
  drift _ _ := False
  reset _ _ := False

/-- Everything that any number of operations can do together. -/
abbrev Run (initial : Model settings)
    (trace : List (Moment operations Call (Model settings)))
    (pool : Pool operations Call (Model settings)) : Prop :=
  Pool.Run (machine settings) (fun _ => True) (code settings) (Pool.idle initial) trace pool

/-- The executor of the operations, for given decisions of the platform. -/
def execution : Executor (machine settings) (fun _ : Call => True) where
  Choice := Environment
  starts _ := true
  exec environment thread model effect := model.act environment thread effect
  drift _ _ := none
  reset _ _ := none
  starts_sound _ := trivial
  exec_sound {environment _ _ _ _ _} acts := ⟨environment, acts⟩
  drift_sound drifts := by cases drifts
  reset_sound resets := by cases resets

end TurnrailViewModel

end Turnrail
