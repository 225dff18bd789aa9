import Turnrail.Registry.Routing

/-!
# The account registry

The registry lists the accounts and their routing in one file.  Every operation
takes the state that was read or written last, builds the next one, checks the
whole and replaces the file.  The file therefore always holds the last state
that an operation returned, and that state is always valid.
-/

namespace Turnrail

/-- The plans of an account. -/
inductive ChatGPTPlan
  | free
  | go
  | plus
  | pro
  | proLite
  | team
  | selfServeBusinessProLite
  | selfServeBusinessUsageBased
  | business
  | ent26
  | enterpriseCBPAutomation
  | enterpriseCBPUsageBased
  | enterprise
  | edu
  | eduPlus
  | eduPro
  | unknown
  deriving DecidableEq

/-- Who an account belongs to. -/
structure ChatGPTAccountIdentity where
  email : String
  planType : ChatGPTPlan

/-- A registered account. -/
structure TurnrailAccount where
  id : UUID
  email : String
  planType : ChatGPTPlan

/-- The contents of the registry. -/
structure AccountRegistryState where
  schemaVersion : Int
  revision : UInt64
  accounts : List TurnrailAccount
  routing : AccountRoutingConfiguration

namespace AccountRegistryState

/-- The format this version writes. -/
def currentSchemaVersion : Int := 3

/-- A registry without accounts. -/
def empty : AccountRegistryState where
  schemaVersion := currentSchemaVersion
  revision := 0
  accounts := []
  routing := .empty

end AccountRegistryState

variable (texts : Texts)

/-- An email address in normal form, with something on both sides of its only
at sign. -/
def validatedEmail (rawEmail : String) : Except AccountError String :=
  let email := texts.lowercased (texts.trimmed rawEmail)
  match (texts.segmentation.characters email.toList).splitOn ['@'] with
  | [first, second] =>
    if first.isEmpty || second.isEmpty then .error (.registry .invalidEmail)
    else .ok email
  | _ => .error (.registry .invalidEmail)

namespace TurnrailAccount

/-- An account with a normalized address. -/
def make (id : UUID) (email : String) (planType : ChatGPTPlan) :
    Except AccountError TurnrailAccount := do
  return { id, email := ← validatedEmail texts email, planType }

/-- Two accounts are the same. -/
def same (first second : TurnrailAccount) : Bool :=
  first.id == second.id && texts.same first.email second.email &&
    first.planType == second.planType

end TurnrailAccount

namespace AccountRegistryState

/-- An account must be normalized and new. -/
def checkAccount (account : TurnrailAccount) (seen : List TurnrailAccount) :
    Except AccountError Unit := do
  let email ← validatedEmail texts account.email
  if texts.same email account.email = false then
    .error (.registry .invalidEmail)
  else if seen.any fun other => other.id == account.id then
    .error (.registry (.duplicateAccountID account.id))
  else if seen.any fun other => texts.same account.email other.email then
    .error (.registry (.duplicateEmail account.email))
  else .ok ()

/-- A registry must be well formed. -/
def validate (state : AccountRegistryState) : Except AccountError Unit :=
  if state.schemaVersion = currentSchemaVersion then do
    Checks.scan (checkAccount texts) state.accounts []
    state.routing.validate texts (state.accounts.map TurnrailAccount.id)
  else
    .error (.registry (.unsupportedSchemaVersion state.schemaVersion))

/-- What a state satisfies once it was checked. -/
structure Valid (state : AccountRegistryState) : Prop where
  version : state.schemaVersion = currentSchemaVersion
  normalized : ∀ account ∈ state.accounts, ∃ email,
    validatedEmail texts account.email = .ok email ∧
      texts.same email account.email = true
  ids : (state.accounts.map TurnrailAccount.id).Nodup
  emails : state.accounts.Pairwise fun account other =>
    texts.same account.email other.email = false
  routing : state.routing.Valid texts (state.accounts.map TurnrailAccount.id)

variable {texts}

theorem checkAccount_eq_ok
    (account : TurnrailAccount)
    (seen : List TurnrailAccount) :
    checkAccount texts account seen = .ok () ↔
      (∃ email, validatedEmail texts account.email = .ok email ∧
        texts.same email account.email = true) ∧ ∀ other ∈ seen,
      other.id ≠ account.id ∧ texts.same account.email other.email = false := by
  unfold checkAccount
  cases validates : validatedEmail texts account.email with
  | error error => simp [bind, Except.bind]
  | ok email =>
    simp only [bind, Except.bind]
    split
    · rename_i different
      simp [different]
    · rename_i normal
      split
      · rename_i repeated
        obtain ⟨other, member, same⟩ := List.any_eq_true.mp repeated
        simp only [reduceCtorEq, false_iff, not_and]
        intro _ apart
        exact (apart other member).1 (eq_of_beq same)
      · rename_i fresh
        split
        · rename_i repeated
          obtain ⟨other, member, same⟩ := List.any_eq_true.mp repeated
          simp only [reduceCtorEq, false_iff, not_and]
          intro _ apart
          rw [(apart other member).2] at same
          cases same
        · simp_all

theorem validate_eq_ok (state : AccountRegistryState) :
    state.validate texts = .ok () ↔ state.Valid texts := by
  unfold validate
  split
  · rename_i version
    rw [Checks.bind_eq_ok_unit, Checks.scan_eq_ok checkAccount_eq_ok,
      AccountRoutingConfiguration.validate_eq_ok]
    constructor
    · rintro ⟨⟨normalized, apart, -⟩, routing⟩
      refine ⟨version, normalized, ?_, ?_, routing⟩
      · exact List.pairwise_map.mpr (apart.imp fun accounts => accounts.1)
      · refine apart.imp fun accounts => ?_
        rw [texts.same_comm]
        exact accounts.2
    · rintro ⟨-, normalized, ids, emails, routing⟩
      refine ⟨⟨normalized, ?_, by simp⟩, routing⟩
      refine (List.pairwise_map.mp ids).imp₂ ?_ emails
      intro account other different addresses
      rw [texts.same_comm]
      exact ⟨different, addresses⟩
  · rename_i other
    simp only [reduceCtorEq, false_iff]
    intro valid
    exact other valid.version

/-- The revision after a change. -/
def nextRevision (revision : UInt64) : Except AccountError UInt64 :=
  if revision.toNat + 1 = UInt64.size then
    .error (.registry .revisionOverflow)
  else .ok (revision + 1)

theorem nextRevision_toNat
    {revision next : UInt64}
    (advances : nextRevision revision = .ok next) :
    next.toNat = revision.toNat + 1 := by
  unfold nextRevision at advances
  split at advances
  · cases advances
  · rename_i fits
    cases advances
    have bound := revision.toNat_lt_size
    rw [UInt64.toNat_add, UInt64.toNat_one]
    exact Nat.mod_eq_of_lt (by unfold UInt64.size at fits bound; omega)

end AccountRegistryState

/-- The calls of the store. -/
inductive RegistryCall
  | loadOrInitialize
  | registerAccount (identity : ChatGPTAccountIdentity) (id : UUID)
  | updateIdentity (identity : ChatGPTAccountIdentity) (id : UUID)
  | updateRouting (routing : AccountRoutingConfiguration)
  | removeAccount (id : UUID)

/-- The ids of the accounts after a call. -/
def RegistryCall.listed (ids : List UUID) : RegistryCall → List UUID
  | .registerAccount _ id => ids ++ [id]
  | .removeAccount id => ids.filter (· ≠ id)
  | _ => ids

/-- The form of the registry in a file, which gives back what was written. -/
structure RegistryCodec where
  Bytes : Type
  encode : AccountRegistryState → Bytes
  header : Bytes → Option Int
  decode : Bytes → Option AccountRegistryState
  header_encode : ∀ state, header (encode state) = some state.schemaVersion
  decode_encode : ∀ state, decode (encode state) = some state

/-- A file that keeps the registry itself. -/
def RegistryCodec.plain : RegistryCodec where
  Bytes := AccountRegistryState
  encode := id
  header state := some state.schemaVersion
  decode := some
  header_encode _ := rfl
  decode_encode _ := rfl

/-- What the file system lets a call do. -/
structure Files where
  created : Bool
  replaced : Bool
  readable : Bool

namespace AccountRegistryStore

variable (codec : RegistryCodec) (files : Files)

/-- Write the registry to its file. -/
def save (state : AccountRegistryState) (file : Option codec.Bytes) :
    Except AccountError Unit × Option codec.Bytes :=
  match state.validate texts with
  | .error error => (.error error, file)
  | .ok () =>
    if files.created && files.replaced then
      (.ok (), some (codec.encode state))
    else (.error .file, file)

/-- Read the registry, or write an empty one. -/
def loadOrInitialize (file : Option codec.Bytes) :
    Except AccountError AccountRegistryState × Option codec.Bytes :=
  match file with
  | none =>
    match save texts codec files .empty none with
    | (.error error, file) => (.error error, file)
    | (.ok (), file) => (.ok .empty, file)
  | some bytes =>
    if files.readable then
      match codec.header bytes with
      | none => (.error .decoding, file)
      | some version =>
        if version = AccountRegistryState.currentSchemaVersion then
          match codec.decode bytes with
          | none => (.error .decoding, file)
          | some state =>
            match state.validate texts with
            | .error error => (.error error, file)
            | .ok () => (.ok state, file)
        else
          (.error (.registry (.unsupportedSchemaVersion version)), file)
    else (.error .file, file)

/-- Carry out a planned change.  A plan without contents returns the state as
it is. -/
def change (state : AccountRegistryState)
    (plan : Except AccountError (Option (List TurnrailAccount × AccountRoutingConfiguration)))
    (file : Option codec.Bytes) :
    Except AccountError AccountRegistryState × Option codec.Bytes :=
  match plan with
  | .error error => (.error error, file)
  | .ok none => (.ok state, file)
  | .ok (some (accounts, routing)) =>
    match AccountRegistryState.nextRevision state.revision with
    | .error error => (.error error, file)
    | .ok revision =>
      let updated : AccountRegistryState :=
        { schemaVersion := AccountRegistryState.currentSchemaVersion, revision, accounts, routing }
      match save texts codec files updated file with
      | (.error error, file) => (.error error, file)
      | (.ok (), file) => (.ok updated, file)

/-- The contents with a new account. -/
def registration (identity : ChatGPTAccountIdentity) (id : UUID)
    (state : AccountRegistryState) : Except AccountError
      (Option (List TurnrailAccount × AccountRoutingConfiguration)) := do
  state.validate texts
  if state.accounts.any fun account => texts.caseInsensitive account.email identity.email then
    .error (.registry (.duplicateEmail identity.email))
  else
    let account ← TurnrailAccount.make texts id identity.email identity.planType
    .ok (some (state.accounts ++ [account], state.routing))

/-- What a new identity changes. -/
def refreshment (identity : ChatGPTAccountIdentity) (id : UUID)
    (state : AccountRegistryState) : Except AccountError
      (Option (List TurnrailAccount × AccountRoutingConfiguration)) := do
  state.validate texts
  match state.accounts.find? fun account => account.id == id with
  | none => .error (.registry (.unknownAccount id))
  | some existing =>
    if texts.same existing.email identity.email = false then
      .error (.registry (.identityMismatch existing.email identity.email))
    else
      let refreshed ← TurnrailAccount.make texts existing.id identity.email identity.planType
      if refreshed.same texts existing then .ok none
      else
        let index := state.accounts.findIdx fun account => account.id == id
        .ok (some (state.accounts.set index refreshed, state.routing))

/-- What a new routing changes. -/
def rerouting (routing : AccountRoutingConfiguration)
    (state : AccountRegistryState) : Except AccountError
      (Option (List TurnrailAccount × AccountRoutingConfiguration)) := do
  state.validate texts
  if state.routing.same texts routing then .ok none
  else .ok (some (state.accounts, routing))

/-- The contents without an account. -/
def removal (id : UUID) (state : AccountRegistryState) :
    Except AccountError (Option (List TurnrailAccount × AccountRoutingConfiguration)) := do
  state.validate texts
  if state.accounts.any fun account => account.id == id then
    .ok (some (state.accounts.filter fun account => account.id != id,
      state.routing.removingAccount id))
  else .error (.registry (.unknownAccount id))

/-- Register an account. -/
def registerAccount (identity : ChatGPTAccountIdentity)
    (state : AccountRegistryState) (id : UUID) :=
  change texts codec files state (registration texts identity id state)

/-- Change the identity of an account. -/
def updateIdentity (identity : ChatGPTAccountIdentity) (id : UUID)
    (state : AccountRegistryState) :=
  change texts codec files state (refreshment texts identity id state)

/-- Change the routing. -/
def updateRouting (routing : AccountRoutingConfiguration)
    (state : AccountRegistryState) :=
  change texts codec files state (rerouting texts routing state)

/-- Remove an account. -/
def removeAccount (id : UUID) (state : AccountRegistryState) :=
  change texts codec files state (removal texts id state)

/-- What a call makes of the accounts and the routing, or nothing if they stay
as they are. -/
inductive Plans (state : AccountRegistryState) :
    RegistryCall → Option (List TurnrailAccount × AccountRoutingConfiguration) → Prop
  | registered {identity : ChatGPTAccountIdentity} {id : UUID} {email : String}
      (valid : validatedEmail texts identity.email = .ok email)
      (fresh : ∀ account ∈ state.accounts,
        texts.caseInsensitive account.email identity.email = false) :
      Plans state (.registerAccount identity id)
        (some (state.accounts ++ [⟨id, email, identity.planType⟩], state.routing))
  | known {identity : ChatGPTAccountIdentity} {id : UUID} {existing : TurnrailAccount}
      (found : state.accounts.find? (fun account => account.id == id) = some existing) :
      Plans state (.updateIdentity identity id) none
  | refreshed {identity : ChatGPTAccountIdentity} {id : UUID} {existing : TurnrailAccount}
      {email : String}
      (found : state.accounts.find? (fun account => account.id == id) = some existing)
      (own : texts.same existing.email identity.email = true)
      (valid : validatedEmail texts identity.email = .ok email)
      (other : ¬TurnrailAccount.same texts ⟨existing.id, email, identity.planType⟩ existing) :
      Plans state (.updateIdentity identity id)
        (some (state.accounts.set (state.accounts.findIdx fun account => account.id == id)
          ⟨existing.id, email, identity.planType⟩, state.routing))
  | alike {routing : AccountRoutingConfiguration}
      (same : state.routing.same texts routing = true) :
      Plans state (.updateRouting routing) none
  | rerouted {routing : AccountRoutingConfiguration}
      (other : ¬state.routing.same texts routing) :
      Plans state (.updateRouting routing) (some (state.accounts, routing))
  | removed {id : UUID} {account : TurnrailAccount}
      (registered : account ∈ state.accounts)
      (named : account.id = id) :
      Plans state (.removeAccount id)
        (some (state.accounts.filter fun account => account.id != id,
          state.routing.removingAccount id))

variable {texts} {state : AccountRegistryState} {identity : ChatGPTAccountIdentity} {id : UUID}
variable {contents : Option (List TurnrailAccount × AccountRoutingConfiguration)}

theorem registration_plans
    (planned : registration texts identity id state = .ok contents) :
    Plans texts state (.registerAccount identity id) contents := by
  obtain ⟨-, -, planned⟩ := bind_eq_ok.mp planned
  split at planned
  · cases planned
  · rename_i fresh
    obtain ⟨account, made, planned⟩ := bind_eq_ok.mp planned
    obtain ⟨email, valid, made⟩ := bind_eq_ok.mp made
    cases made
    cases planned
    exact .registered valid (by simpa using fresh)

theorem refreshment_plans
    (planned : refreshment texts identity id state = .ok contents) :
    Plans texts state (.updateIdentity identity id) contents := by
  obtain ⟨-, -, planned⟩ := bind_eq_ok.mp planned
  split at planned
  · cases planned
  · rename_i existing found
    split at planned
    · cases planned
    · rename_i own
      obtain ⟨refreshed, made, planned⟩ := bind_eq_ok.mp planned
      obtain ⟨email, valid, made⟩ := bind_eq_ok.mp made
      cases made
      split at planned
      · cases planned
        exact .known found
      · rename_i other
        cases planned
        exact .refreshed found (by simpa using own) valid other

theorem rerouting_plans
    {routing : AccountRoutingConfiguration}
    (planned : rerouting texts routing state = .ok contents) :
    Plans texts state (.updateRouting routing) contents := by
  obtain ⟨-, -, planned⟩ := bind_eq_ok.mp planned
  split at planned
  · rename_i same
    cases planned
    exact .alike same
  · rename_i other
    cases planned
    exact .rerouted other

theorem removal_plans (planned : removal texts id state = .ok contents) :
    Plans texts state (.removeAccount id) contents := by
  obtain ⟨-, -, planned⟩ := bind_eq_ok.mp planned
  split at planned
  · rename_i registered
    cases planned
    obtain ⟨account, member, same⟩ := List.any_eq_true.mp registered
    exact .removed member (eq_of_beq same)
  · cases planned

variable {call : RegistryCall} {existing refreshed : TurnrailAccount}

theorem getElem_findIdx
    (found :
      state.accounts.find? (fun account => account.id == id) = some existing) :
    state.accounts[state.accounts.findIdx fun account => account.id == id]? =
      some existing := by
  rw [← found, List.find?_eq_getElem?_findIdx]

/-- A plan never gives the contents there are. -/
theorem Plans.alters
    {after : List TurnrailAccount × AccountRoutingConfiguration}
    (plans : Plans texts state call (some after)) :
    after ≠ (state.accounts, state.routing) := by
  intro unchanged
  cases plans with
  | registered => simp at unchanged
  | @refreshed identity id existing email found _ _ other =>
    have replaced := congrArg (fun contents => contents.1[state.accounts.findIdx
      fun account => account.id == id]?) unchanged
    rw [List.getElem?_set_self', getElem_findIdx found] at replaced
    have same : ⟨existing.id, email, identity.planType⟩ = existing := Option.some.inj replaced
    rw [same] at other
    simp [TurnrailAccount.same] at other
  | rerouted other =>
    cases unchanged
    simp at other
  | removed registered named =>
    have kept := List.filter_eq_self.mp (congrArg Prod.fst unchanged) _ registered
    simp [named] at kept

/-- The accounts after a call, whatever it changes about them. -/
theorem Plans.ids (plans : Plans texts state call contents) :
    (contents.getD (state.accounts, state.routing)).1.map TurnrailAccount.id =
      call.listed (state.accounts.map TurnrailAccount.id) := by
  cases plans with
  | registered => simp [RegistryCall.listed]
  | known | alike | rerouted => rfl
  | refreshed found =>
    -- The account that is put in place has the id of the one it replaces.
    refine List.ext_getElem? fun place => ?_
    rw [Option.getD_some, List.map_set, List.getElem?_set]
    split
    · rename_i same
      subst same
      have place := getElem_findIdx found
      have inside := (List.getElem?_eq_some_iff.mp place).1
      rw [if_pos (by simpa using inside)]
      simp [RegistryCall.listed, place]
    · rfl
  | removed =>
    rw [Option.getD_some, RegistryCall.listed, List.filter_map]
    congr 1
    refine List.filter_congr fun account _ => ?_
    simp only [Function.comp_apply, decide_not]
    rfl

theorem change_eq_ok
    {codec : RegistryCodec}
    {files : Files}
    {plan : Except AccountError
      (Option (List TurnrailAccount × AccountRoutingConfiguration))}
    {updated : AccountRegistryState}
    {file after : Option codec.Bytes}
    (changed :
      change texts codec files state plan file = (.ok updated, after)) :
    ∃ contents, plan = .ok contents ∧
      (updated.accounts, updated.routing) =
        contents.getD (state.accounts, state.routing) := by
  unfold change at changed
  split at changed
  · cases changed
  · cases changed
    exact ⟨none, rfl, rfl⟩
  · split at changed
    · cases changed
    · dsimp only at changed
      split at changed
      · cases changed
      · cases changed
        exact ⟨some _, rfl, rfl⟩

end AccountRegistryStore

/-- The registry in memory and in its file. -/
structure Registry (codec : RegistryCodec) where
  state : AccountRegistryState
  file : Option codec.Bytes

namespace Registry

open AccountRegistryStore

variable {codec : RegistryCodec}

/-- A store without a file. -/
def start (codec : RegistryCodec) : Registry codec := ⟨.empty, none⟩

/-- What a call returns and leaves in the file. -/
def call (registry : Registry codec) (files : Files) :
    RegistryCall → Except AccountError AccountRegistryState × Option codec.Bytes
  | .loadOrInitialize => loadOrInitialize texts codec files registry.file
  | .registerAccount identity id =>
    registerAccount texts codec files identity registry.state id registry.file
  | .updateIdentity identity id =>
    updateIdentity texts codec files identity id registry.state registry.file
  | .updateRouting routing =>
    updateRouting texts codec files routing registry.state registry.file
  | .removeAccount id => removeAccount texts codec files id registry.state registry.file

/-- The store after a call. -/
def step (registry : Registry codec) (step : RegistryCall × Files) :
    Registry codec :=
  match registry.call texts step.2 step.1 with
  | (.error _, file) => ⟨registry.state, file⟩
  | (.ok state, file) => ⟨state, file⟩

/-- The store after some calls. -/
def run (codec : RegistryCodec) (calls : List (RegistryCall × Files)) :
    Registry codec :=
  calls.foldl (step texts) (start codec)

/-- What holds of a store at all times. -/
structure Sound (registry : Registry codec) : Prop where
  valid : registry.state.Valid texts
  saved : registry.file = some (codec.encode registry.state) ∨
    registry.file = none ∧ registry.state = .empty

/-- What a call can do. -/
inductive Answers (registry : Registry codec) :
    Except AccountError AccountRegistryState × Option codec.Bytes → Prop
  | thrown (error : AccountError) :
      Answers registry (.error error, registry.file)
  | kept : Answers registry (.ok registry.state, registry.file)
  | written :
      Answers registry (.ok registry.state, some (codec.encode registry.state))
  | changed (updated : AccountRegistryState)
      (valid : updated.Valid texts)
      (revision : updated.revision.toNat = registry.state.revision.toNat + 1)
      (contents : (updated.accounts, updated.routing) ≠
        (registry.state.accounts, registry.state.routing)) :
      Answers registry (.ok updated, some (codec.encode updated))

variable {texts}

theorem save_cases
    (files : Files)
    (state : AccountRegistryState)
    (file : Option codec.Bytes) :
    (∃ error, save texts codec files state file = (.error error, file)) ∨
      state.Valid texts ∧ save texts codec files state file = (.ok (),
        some (codec.encode state)) := by
  unfold save
  cases checked : state.validate texts with
  | error error => exact .inl ⟨error, rfl⟩
  | ok value =>
    by_cases possible : (files.created && files.replaced) = true
    · exact .inr ⟨(AccountRegistryState.validate_eq_ok state).mp checked, if_pos possible⟩
    · exact .inl ⟨.file, if_neg possible⟩

theorem change_answers
    {call : RegistryCall}
    (registry : Registry codec)
    (files : Files)
    {plan : Except AccountError
      (Option (List TurnrailAccount × AccountRoutingConfiguration))}
    (plans : ∀ contents, plan = .ok contents →
      Plans texts registry.state call contents) :
    registry.Answers texts
      (change texts codec files registry.state plan registry.file) := by
  unfold change
  split
  · exact .thrown _
  · exact .kept
  · rename_i accounts routing
    split
    · exact .thrown _
    · rename_i revision advances
      have saves := @save_cases texts codec files
        ⟨AccountRegistryState.currentSchemaVersion, revision, accounts, routing⟩
        registry.file
      obtain ⟨error, saved⟩ | ⟨valid, saved⟩ := saves
      · simp only [saved]
        exact .thrown error
      · simp only [saved]
        exact .changed _ valid (AccountRegistryState.nextRevision_toNat advances)
          (plans _ rfl).alters

variable {registry : Registry codec}

theorem load_answers
    (sound : registry.Sound texts)
    (files : Files) :
    registry.Answers texts
      (loadOrInitialize texts codec files registry.file) := by
  obtain ⟨state, file⟩ := registry
  obtain ⟨valid, saved⟩ := sound
  change file = some (codec.encode state) ∨ file = none ∧ state = .empty at saved
  change state.Valid texts at valid
  obtain rfl | ⟨rfl, rfl⟩ := saved
  · have checked := (AccountRegistryState.validate_eq_ok state).mpr valid
    simp only [loadOrInitialize, codec.header_encode,
      codec.decode_encode, valid.version, if_true, checked]
    split
    · exact .kept
    · exact .thrown _
  · unfold loadOrInitialize
    obtain ⟨error, saved⟩ | ⟨-, saved⟩ := @save_cases texts codec files .empty none
    · simp only [saved]
      exact .thrown error
    · simp only [saved]
      exact .written

theorem Sound.answers
    (sound : registry.Sound texts)
    (files : Files)
    (call : RegistryCall) :
    registry.Answers texts (registry.call texts files call) := by
  cases call with
  | loadOrInitialize => exact load_answers sound files
  | registerAccount => exact change_answers registry files fun _ => registration_plans
  | updateIdentity => exact change_answers registry files fun _ => refreshment_plans
  | updateRouting => exact change_answers registry files fun _ => rerouting_plans
  | removeAccount => exact change_answers registry files fun _ => removal_plans

/-- A call that returns has made of the contents what its plan says. -/
theorem call_plans
    {next : RegistryCall}
    {files : Files}
    {updated : AccountRegistryState}
    {file : Option codec.Bytes}
    (changes : next ≠ .loadOrInitialize)
    (called : registry.call texts files next = (.ok updated, file)) :
    ∃ contents, Plans texts registry.state next contents ∧
      (updated.accounts, updated.routing) =
        contents.getD (registry.state.accounts, registry.state.routing) := by
  cases next with
  | loadOrInitialize => exact absurd rfl changes
  | registerAccount =>
    obtain ⟨contents, planned, same⟩ := change_eq_ok called
    exact ⟨contents, registration_plans planned, same⟩
  | updateIdentity =>
    obtain ⟨contents, planned, same⟩ := change_eq_ok called
    exact ⟨contents, refreshment_plans planned, same⟩
  | updateRouting =>
    obtain ⟨contents, planned, same⟩ := change_eq_ok called
    exact ⟨contents, rerouting_plans planned, same⟩
  | removeAccount =>
    obtain ⟨contents, planned, same⟩ := change_eq_ok called
    exact ⟨contents, removal_plans planned, same⟩

example :
    let calls := [.registerAccount ⟨"user@example.com", .plus⟩ ⟨1⟩,
      .updateRouting ⟨[⟨1⟩], []⟩, .registerAccount ⟨"user@example.com", .free⟩ ⟨2⟩]
    let registry := run .plain .plain (calls.map fun call => (call, ⟨true, true, true⟩))
    registry.state.revision = 2 ∧ registry.state.routing.defaultAccountIDs = [⟨1⟩] ∧
      registry.state.accounts.map (fun account => account.email) = ["user@example.com"] := by
  decide +kernel

theorem start_sound : (start codec).Sound texts where
  valid := by
    refine ⟨rfl, ?_, ?_, ?_, ?_, ?_, ?_, ?_, ?_⟩ <;>
      simp [start, AccountRegistryState.empty,
        AccountRoutingConfiguration.empty, AccountRoutingConfiguration.lists]
  saved := .inr ⟨rfl, rfl⟩

theorem Sound.step
    {registry : Registry codec}
    (sound : registry.Sound texts)
    (next : RegistryCall × Files) :
    (registry.step texts next).Sound texts := by
  unfold Registry.step
  have answers := sound.answers next.2 next.1
  generalize registry.call texts next.2 next.1 = result at answers ⊢
  cases answers with
  | thrown | kept => exact ⟨sound.valid, sound.saved⟩
  | written => exact ⟨sound.valid, .inl rfl⟩
  | changed updated valid revision contents => exact ⟨valid, .inl rfl⟩

theorem run_sound (calls : List (RegistryCall × Files)) :
    (run texts codec calls).Sound texts := by
  -- A fold from the left, so the induction adds the last call.
  induction calls using List.reverseRecOn with
  | nil => exact start_sound
  | append_singleton earlier last ih =>
    unfold run at ih ⊢
    rw [List.foldl_append]
    exact ih.step last

theorem Sound.loads (sound : registry.Sound texts) :
    (loadOrInitialize texts codec ⟨true, true, true⟩
      registry.file).1 = .ok registry.state := by
  obtain ⟨valid, saved | ⟨missing, fresh⟩⟩ := sound
  · have checked := (AccountRegistryState.validate_eq_ok _).mpr valid
    simp [loadOrInitialize, saved, codec.header_encode,
      codec.decode_encode, valid.version, checked]
  · rw [fresh] at valid
    have checked := (AccountRegistryState.validate_eq_ok _).mpr valid
    simp [loadOrInitialize, save, missing, fresh, checked]

end Registry

/-- After any calls on an empty folder the file is loaded as the state returned
last, and that state is valid.  A further call that throws leaves the file, and
one that returns either returns the same state or other contents one revision
later. -/
theorem registry_keeps_integrity
    (texts : Texts)
    (codec : RegistryCodec)
    (calls : List (RegistryCall × Files)) :
    let registry := Registry.run texts codec calls
    (AccountRegistryStore.loadOrInitialize texts codec ⟨true, true, true⟩
      registry.file).1 = .ok registry.state ∧
      registry.state.Valid texts ∧
      ∀ (next : RegistryCall) (files : Files),
        (∀ error, (registry.call texts files next).1 = .error error →
          (registry.call texts files next).2 = registry.file) ∧
        ∀ state, (registry.call texts files next).1 = .ok state →
          state = registry.state ∨
            state.revision.toNat = registry.state.revision.toNat + 1 ∧
            (state.accounts, state.routing) ≠
              (registry.state.accounts, registry.state.routing) := by
  intro registry
  have sound : registry.Sound texts := Registry.run_sound calls
  refine ⟨sound.loads, sound.valid, fun next files => ?_⟩
  have answers := sound.answers files next
  generalize registry.call texts files next = result at answers ⊢
  cases answers with
  | thrown | kept | written => simp
  | changed updated valid revision contents =>
    refine ⟨by simp, ?_⟩
    rintro state returned
    cases returned
    exact .inr ⟨revision, contents⟩

end Turnrail
