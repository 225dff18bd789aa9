import Turnrail.Interleaving.Simulation
import Turnrail.Registry.Store

/-!
# Inspecting accounts

A turn starts on the first usable account of its folder and stays with it.  The
router keeps what it learned about each account: the credential, the catalog and
the time of the inspection.  An inspection holds a recursive lock while it talks
to the account service; the kept values have a lock of their own, so that a slow
inspection holds up no turn whose binding is still valid.

The sections under the second lock, the calls of the account service and the
readings of the clock are atomic effects.
-/

namespace Turnrail

open Interleaving

/-- A credential of an account. -/
structure RouterCredential where
  accessToken : String
  accountID : String
  expiresAt : Rat

/-- Why an account cannot be used. -/
inductive RouterAccountUnavailable
  | loginRequired
  | exhausted

/-- Why the authentication of an account is not accepted. -/
inductive RouterAuthenticationRejection
  | identityMismatch
  | workspaceMismatch
  | workspaceChanged
  | unverifiedPolicy

/-- Why the quota of an account is unknown. -/
inductive RouterQuotaUnavailable
  | timedOut
  | transport
  | httpStatus (status : Int)
  | invalidResponse

/-- What is known about the quota of an account. -/
inductive RouterQuotaAvailability
  | available
  | exhausted
  | unavailable (reason : RouterQuotaUnavailable)

/-- The errors of the calls. -/
inductive AccountFailure
  | unavailable (reason : RouterAccountUnavailable)
  | rejection (reason : RouterAuthenticationRejection)
  | failure (error : RouterFailure)
  | other

/-- The service that inspects, selects and binds accounts. -/
structure RouterAccounts where
  texts : Texts
  quotaWait : Rat
  intersection : List (List Object) → Except RouterFailure (List Object)

namespace RouterAccounts

/-- An account with its credential and its models. -/
structure Snapshot where
  account : TurnrailAccount
  credential : RouterCredential
  models : List Object
  inspectedAt : Rat

/-- The calls of the service's client. -/
inductive Call
  | select (cwd : String)
  | bound (id : UUID)
  | inspect (account : TurnrailAccount)
  | commonCatalog

/-- What a call returns. -/
inductive Result
  | snapshot (snapshot : Snapshot)
  | catalog (models : List Object)

/-- The atomic effects of a call. -/
inductive Effect
  | registry
  | folder (cwd : String) (routing : AccountRoutingConfiguration)
  | now
  | uptime
  | acquire
  | release
  | authenticate (account : TurnrailAccount) (timestamp : Rat)
  | get (credential : RouterCredential)
  | readQuota (credential : RouterCredential) (deadline : Rat)
  | report (reason : RouterQuotaUnavailable)
  | cached (id : UUID)
  | binding (account : TurnrailAccount)
  | saved (id : UUID)
  | reject (id : UUID)
  | commit (snapshot : Snapshot)
  | renew (id : UUID) (snapshot : Snapshot)
  | finish (outcome : Except AccountFailure Result)

/-- What an effect is answered. -/
@[reducible] def Effect.Reply : Effect → Type
  | .registry => Except AccountFailure AccountRegistryState
  | .folder _ _ => Except AccountFailure (List UUID)
  | .now | .uptime => Rat
  | .authenticate _ _ => Except AccountFailure RouterCredential
  | .get _ => Except AccountFailure Object
  | .readQuota _ _ => Except AccountFailure RouterQuotaAvailability
  | .cached _ | .saved _ => Option Snapshot
  | .binding _ => Except AccountFailure (Option Snapshot)
  | .acquire | .release | .report _ | .reject _ | .commit _ | .renew _ _
  | .finish _ => Unit

/-- The effects of the calls. -/
@[reducible] def calls : Signature where
  Effect := Effect
  Reply := Effect.Reply

/-- A part of a call, with the rest of the time to wait for quota as its
variable. -/
abbrev Inquiry (α : Type) := Routine calls Rat AccountFailure α

namespace Inquiry

/-- Perform an effect. -/
def perform (effect : Effect) : Inquiry effect.Reply :=
  @Routine.perform calls Rat AccountFailure effect

/-- Pass an outcome on. -/
def pass (outcome : Except AccountFailure α) : Inquiry α :=
  Routine.ofExcept outcome

/-- Pass the outcome of a check on. -/
def check (outcome : Except RouterFailure α) : Inquiry α :=
  Routine.ofExcept (outcome.mapError .failure)

/-- Throw a message. -/
def fail (message : String) : Inquiry α :=
  throw (.failure ⟨message⟩)

/-- Hold the recursive lock. -/
def withLock (inquiry : Inquiry α) : Inquiry α := do
  perform .acquire
  let outcome ← Routine.attempt inquiry
  perform .release
  pass outcome

end Inquiry

variable (accounts : RouterAccounts)

/-- Ask the Engine for a credential of the account that was inspected before,
and keep in mind when that is refused. -/
def validatedCredential (account : TurnrailAccount) (timestamp : Rat) :
    Inquiry RouterCredential := do
  let outcome ← Routine.attempt do
    let credential ← Inquiry.pass (← Inquiry.perform (.authenticate account timestamp))
    match ← Inquiry.perform (.saved account.id) with
    | some saved =>
      if accounts.texts.same saved.account.email account.email &&
          accounts.texts.same saved.credential.accountID credential.accountID then pure ()
      else throw (.rejection .workspaceChanged)
    | none => pure ()
    let time : Rat ← Inquiry.perform .now
    if credential.expiresAt > time then pure credential
    else throw (.unavailable .loginRequired)
  match outcome with
  | .ok credential => pure credential
  | .error (.unavailable .loginRequired) => do
    Inquiry.perform (.reject account.id)
    throw (.unavailable .loginRequired)
  | .error (.rejection reason) => do
    Inquiry.perform (.reject account.id)
    throw (.rejection reason)
  | .error error => throw error

/-- Check that all models have their own name. -/
def distinctSlugs : List Object → List String → Except RouterFailure Unit
  | [], _ => .ok ()
  | model :: rest, slugs => do
    let slug ← RouterJSON.text model "slug"
    if slugs.any (accounts.texts.same slug) then
      .error ⟨"The account catalog contains duplicate models."⟩
    else distinctSlugs rest (slug :: slugs)

/-- The models of an account, if it has any. -/
def validatedModels (credential : RouterCredential) :
    Inquiry (List Object) := do
  let response ← Inquiry.pass (← Inquiry.perform (.get credential))
  let models ← Inquiry.check (RouterJSON.array response "models")
  Inquiry.check (accounts.distinctSlugs models [])
  if models.isEmpty then
    Inquiry.fail "The account returned an empty model catalog."
  else
    let time : Rat ← Inquiry.perform .now
    if credential.expiresAt > time then pure models
    else throw (.unavailable .loginRequired)

/-- What is kept about an account can be used without another inspection. -/
def isFresh (saved : Snapshot) (account : TurnrailAccount) (timestamp : Rat) :
    Bool :=
  saved.account.same accounts.texts account &&
    decide (timestamp - saved.inspectedAt < 60) &&
    decide (saved.credential.expiresAt - timestamp > 60)

/-- Inspect an account under the lock. -/
def inspectLocked (account : TurnrailAccount) : Inquiry Snapshot := do
  let timestamp : Rat ← Inquiry.perform .now
  let cached : Option Snapshot ← Inquiry.perform (.cached account.id)
  match cached.filter (accounts.isFresh · account timestamp) with
  | some saved => pure saved
  | none =>
    let credential ← accounts.validatedCredential account timestamp
    let models ← accounts.validatedModels credential
    let snapshot : Snapshot := { account, credential, models, inspectedAt := timestamp }
    Inquiry.perform (.commit snapshot)
    pure snapshot

/-- Inspect an account, and forget it if it must log in again. -/
def inspect (account : TurnrailAccount) : Inquiry Snapshot :=
  Inquiry.withLock do
    let outcome ← Routine.attempt (accounts.inspectLocked account)
    match outcome with
    | .error (.unavailable .loginRequired) => do
      Inquiry.perform (.reject account.id)
      throw (.unavailable .loginRequired)
    | outcome => Inquiry.pass outcome

/-- The credential lives long enough for another request. -/
def lasts (saved : Snapshot) (time : Rat) : Bool :=
  decide (saved.credential.expiresAt - time > 60)

/-- Renew a binding while the lock is held. -/
def boundLocked (account : TurnrailAccount) : Inquiry Snapshot := do
  match ← Inquiry.pass (← Inquiry.perform (.binding account)) with
  | none => accounts.inspect account
  | some saved =>
    let timestamp : Rat ← Inquiry.perform .now
    if lasts saved timestamp then pure saved
    else
      let credential ← accounts.validatedCredential account timestamp
      let updated : Snapshot :=
        { account, credential, models := saved.models,
          inspectedAt := saved.inspectedAt }
      Inquiry.perform (.renew account.id updated)
      pure updated

/-- The account that is registered under an id. -/
def registered (state : AccountRegistryState) (id : UUID) :
    Option TurnrailAccount :=
  state.accounts.find? fun account => account.id == id

/-- The snapshot of the account a conversation is bound to. -/
def bound (id : UUID) : Inquiry Snapshot := do
  let state ← Inquiry.pass (← Inquiry.perform .registry)
  match registered state id with
  | none => Inquiry.fail "The account bound to this turn was removed. Start a new turn."
  | some account =>
    match ← Inquiry.pass (← Inquiry.perform (.binding account)) with
    | some saved =>
      let time : Rat ← Inquiry.perform .now
      if lasts saved time then pure saved
      else Inquiry.withLock (accounts.boundLocked account)
    | none => Inquiry.withLock (accounts.boundLocked account)

/-- Read the quota of an account, as long as there is time to wait for it. -/
def readBudget (credential : RouterCredential) :
    Inquiry RouterQuotaAvailability := do
  let remaining : Rat ← Routine.get
  if remaining > 0 then
    let started : Rat ← Inquiry.perform .uptime
    let outcome ← Inquiry.perform (.readQuota credential (started + remaining))
    let ended : Rat ← Inquiry.perform .uptime
    Routine.modify fun remaining => remaining - (ended - started)
    Inquiry.pass outcome
  else pure (.unavailable .timedOut)

/-- What is known about a candidate, if it can be used. -/
def candidate (account : TurnrailAccount) : Inquiry (Option Snapshot) := do
  let snapshot ← accounts.inspect account
  let availability ← readBudget snapshot.credential
  let time : Rat ← Inquiry.perform .now
  if snapshot.credential.expiresAt > time then
    match availability with
    | .available => pure (some snapshot)
    | .exhausted => pure none
    | .unavailable reason =>
      Inquiry.perform (.report reason)
      pure (some snapshot)
  else throw (.unavailable .loginRequired)

/-- The first candidate that can be used. -/
def firstUsable (state : AccountRegistryState) : List UUID → Inquiry Snapshot
  | [] =>
    Inquiry.fail
      "All accounts allowed for this folder need sign-in or have exhausted their usage limits."
  | id :: rest =>
    match registered state id with
    | none => Inquiry.fail "The folder references an unknown account."
    | some account => do
      match ← Routine.attempt (accounts.candidate account) with
      | .ok (some snapshot) => pure snapshot
      | .ok none => firstUsable state rest
      | .error (.unavailable .loginRequired) =>
        Inquiry.perform (.reject id)
        firstUsable state rest
      | .error (.unavailable .exhausted) => firstUsable state rest
      | .error error => throw error

/-- Select an account for a folder. -/
def select (cwd : String) : Inquiry Snapshot := do
  let state ← Inquiry.pass (← Inquiry.perform .registry)
  let ordered ← Inquiry.pass (← Inquiry.perform (.folder cwd state.routing))
  if ordered.isEmpty then
    Inquiry.fail "No accounts are allowed for this folder. Assign an account in Turnrail."
  else
    Routine.modify fun _ => accounts.quotaWait
    accounts.firstUsable state ordered

/-- The catalogs of the accounts that can be used. -/
def availableCatalogs : List TurnrailAccount → Inquiry (List (List Object))
  | [] => pure []
  | account :: rest => do
    match ← Routine.attempt (accounts.inspect account) with
    | .ok snapshot =>
      let others ← availableCatalogs rest
      pure (snapshot.models :: others)
    | .error (.unavailable _) => availableCatalogs rest
    | .error error => throw error

/-- The catalog that the assigned accounts share. -/
def commonCatalog : Inquiry (List Object) := do
  let state ← Inquiry.pass (← Inquiry.perform .registry)
  let assigned := state.accounts.filter fun account =>
    state.routing.lists.any fun ids => ids.contains account.id
  let catalogs ← accounts.availableCatalogs assigned
  Inquiry.check (accounts.intersection catalogs)

/-- The routine of a call. -/
def routine : Call → Inquiry Result
  | .select cwd => Result.snapshot <$> accounts.select cwd
  | .bound id => Result.snapshot <$> accounts.bound id
  | .inspect account => Result.snapshot <$> accounts.inspect account
  | .commonCatalog => Result.catalog <$> accounts.commonCatalog

/-- A call shows its outcome at its end. -/
def code (call : Call) : Program calls (Option Call) :=
  ((accounts.routine call).run 0).bind fun result =>
    .perform (.finish result.1) fun _ => .pure none

/-- The values that calls share. -/
structure Memory where
  cache : UUID → Option Snapshot
  rejected : List UUID
  lock : Option (Nat × Nat)

/-- The memory of a service that starts. -/
def Memory.start : Memory := ⟨fun _ => none, [], none⟩

namespace Memory

/-- The cached snapshot of a bound account, unless it was rejected. -/
def cachedBinding (memory : Memory) (account : TurnrailAccount) :
    Except AccountFailure (Option Snapshot) :=
  if account.id ∈ memory.rejected then
    .error (.failure
      ⟨"The bound account requires authentication validation. Start a new turn."⟩)
  else
    match memory.cache account.id with
    | none => .ok none
    | some saved =>
      if accounts.texts.same saved.account.email account.email then
        .ok (some saved)
      else
        .error (.failure
          ⟨"The account bound to this turn changed identity. Start a new turn."⟩)

variable {accounts} in
theorem cachedBinding_ok
    {memory : Memory}
    {account : TurnrailAccount}
    {saved : Option Snapshot}
    (read : memory.cachedBinding accounts account = .ok saved) :
    account.id ∉ memory.rejected ∧ memory.cache account.id = saved := by
  unfold cachedBinding at read
  split at read
  · cases read
  · rename_i accepted
    split at read
    · rename_i absent
      cases read
      exact ⟨accepted, absent⟩
    · rename_i present
      split at read
      · cases read
        exact ⟨accepted, present⟩
      · cases read

/-- Cache a snapshot and lift the rejection of its account. -/
def keep (memory : Memory) (id : UUID) (snapshot : Snapshot) : Memory :=
  { memory with cache := Function.update memory.cache id (some snapshot) }

/-- Take the lock unless another thread holds it. -/
def acquire (memory : Memory) (thread : Nat) : Option Memory :=
  match memory.lock with
  | none => some { memory with lock := some (thread, 1) }
  | some (holder, depth) =>
    if holder = thread then
      some { memory with lock := some (thread, depth + 1) }
    else none

/-- Give the lock back. -/
def release (memory : Memory) : Memory :=
  match memory.lock with
  | some (holder, depth + 2) => { memory with lock := some (holder, depth + 1) }
  | _ => { memory with lock := none }

/-- The effect of a thread on the shared values.  The account service, the
registry and the clocks may answer anything. -/
def act (memory : Memory) (thread : Nat) (answer : (effect : Effect) → effect.Reply) :
    (effect : Effect) → Option (effect.Reply × Memory)
  | .acquire => (memory.acquire thread).map fun after => ((), after)
  | .release => some ((), memory.release)
  | .cached id => some (if id ∈ memory.rejected then none else memory.cache id, memory)
  | .binding account => some (memory.cachedBinding accounts account, memory)
  | .saved id => some (memory.cache id, memory)
  | .reject id => some ((), { memory with rejected := memory.rejected.insert id })
  | .commit snapshot =>
    let kept := memory.keep snapshot.account.id snapshot
    some ((), { kept with
      rejected := kept.rejected.filter (· ≠ snapshot.account.id) })
  | .renew id snapshot => some ((), memory.keep id snapshot)
  | effect => some (answer effect, memory)

end Memory

/-- The effects on the memory. -/
def machine : Machine calls Memory where
  exec thread memory effect reply after :=
    ∃ answer, memory.act accounts thread answer effect = some (reply, after)
  drift _ _ := False
  reset _ _ := False

/-- Everything that any number of calls can do together. -/
abbrev Run (trace : List (Moment calls Call Memory))
    (pool : Pool calls Call Memory) : Prop :=
  Pool.Run accounts.machine (fun _ => True) accounts.code (Pool.idle Memory.start) trace pool

/-- The machine is executed with the answers to its effects. -/
def execution : Executor accounts.machine (fun _ : Call => True) where
  Choice := (effect : Effect) → effect.Reply
  starts _ := true
  exec answer thread memory effect := memory.act accounts thread answer effect
  drift _ _ := none
  reset _ _ := none
  starts_sound _ := trivial
  exec_sound {answer _ _ _ _ _} acts := ⟨answer, acts⟩
  drift_sound drifts := by cases drifts
  reset_sound resets := by cases resets

namespace Rehearsal

/-- A service that joins the catalogs. -/
def service : RouterAccounts := ⟨.plain, 2, fun catalogs => .ok catalogs.flatten⟩

/-- An account. -/
def account : TurnrailAccount := ⟨⟨1⟩, "user@example.com", .plus⟩

/-- A registry with one account. -/
def state : AccountRegistryState := ⟨3, 1, [account], ⟨[⟨1⟩], []⟩⟩

/-- A credential that expires. -/
def credential (token : String) (expiresAt : Rat) : RouterCredential :=
  ⟨token, "workspace", expiresAt⟩

/-- Answers with a credential and a quota. -/
def answers (time : Rat) (granted : RouterCredential)
    (quota : Except AccountFailure RouterQuotaAvailability) : (effect : Effect) → effect.Reply
  | .registry => .ok state
  | .folder _ _ => .ok [⟨1⟩]
  | .now | .uptime => time
  | .authenticate _ _ => .ok granted
  | .get _ => .ok [("models", .array [.object [("slug", .string "model")]])]
  | .readQuota _ _ => quota
  | .cached _ | .saved _ => none
  | .binding _ => .ok none
  | .acquire | .release | .report _ | .reject _ | .commit _ | .renew _ _
  | .finish _ => ()

/-- A script of calls. -/
abbrev Script := List (Command ((effect : Effect) → effect.Reply) Call)

/-- Run a thread for some steps. -/
def go (thread steps : Nat) (answer : (effect : Effect) → effect.Reply) :
    Script :=
  List.replicate steps (.run thread answer)

/-- The thread, the account and the token of a returned snapshot. -/
def returned (moment : Moment calls Call Memory) :
    Option (Nat × UUID × String) :=
  match moment.event with
  | .performed thread (.finish (.ok (.snapshot snapshot))) _ =>
    some (thread, snapshot.account.id, snapshot.credential.accessToken)
  | _ => none

/-- A thread returns a token. -/
def returning (thread : Nat) (token : String) :
    Goal (Moment calls Call Memory) where
  wanted moment := decide (returned moment = some (thread, ⟨1⟩, token))

/-- A thread is spawned to bind an account. -/
def binding (thread : Nat) : Goal (Moment calls Call Memory) where
  wanted moment :=
    match moment.event with
    | .spawned other (.bound id) => decide (other = thread ∧ id = ⟨1⟩)
    | _ => false

theorem run
    (script : Script)
    (goals : List (Goal (Moment calls Call Memory)))
    (rest : Moment calls Call Memory → Bool)
    (passes : ((Pool.idle Memory.start).simulate service.execution service.code
      script).any (fun result => visits goals rest result.1) = true) :
    ∃ trace pool, service.Run trace pool ∧ visits goals rest trace = true :=
  Pool.rehearse service.execution script (visits goals rest) passes

end Rehearsal

end RouterAccounts

end Turnrail
