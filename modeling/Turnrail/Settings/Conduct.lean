import Turnrail.Settings.ViewModel

/-!
# What the operations of Settings do

Settings are seen here as accounts with their statuses, the operation that may
still report about each account, and the accounts that are being removed.  Every
effect of an operation is one of a few changes of this view.  The protocol of
the operations says which operation may make which change.
-/

namespace Turnrail

open Interleaving Interleaving.Routine Routine.Follows

namespace TurnrailViewModel

open Model

/-- What matters of Settings for the results of operations. -/
structure View where
  ids : List UUID
  authStatus : UUID → Option AccountAuthStatus
  usageStatus : UUID → Option AccountUsageStatus
  lastUsed : UUID → Option AccountLastUsedStatus
  operation : UUID → Option UUID
  removing : List UUID
  active : Bool
  loginTask : Option Nat
  issued : List UUID

/-- What the effects of a model are about. -/
def Model.view {settings : Settings} (model : Model settings) : View where
  ids := model.ids
  authStatus := model.authStatus
  usageStatus := model.usageStatus
  lastUsed := model.lastUsed
  operation := model.operation
  removing := model.removing
  active := model.activeLogin.isSome
  loginTask := model.loginTask
  issued := model.issued

/-- An effect changes nothing that is shown. -/
def Effect.Passive : (effect : Effect) → effect.Reply → Prop
  | .beginRefresh _, reply | .beginUsage _, reply => reply = none
  | .beginReauthentication _, reply => reply = none
  | .beginAdd, reply | .beginRemove _, reply => reply = false
  | .completeAdd _ _, reply | .completeReauthentication _ _, reply =>
    ∃ error, reply = .error error
  | .newAccount, _ | .finishAdd, _ | .failAdd _ _, _ | .finishLogin, _
  | .failReauthentication _ _, _ | .completeRemove _ _, _ => False
  | _, _ => True

namespace View

/-- Show a login status. -/
def setAuth (view : View) (id : UUID) (status : Option AccountAuthStatus) :
    View :=
  { view with authStatus := Function.update view.authStatus id status }

/-- Show a usage status. -/
def setUsage (view : View) (id : UUID) (status : Option AccountUsageStatus) :
    View :=
  { view with usageStatus := Function.update view.usageStatus id status }

/-- Start a new operation of an account. -/
def claim (view : View) (id operation : UUID) : View :=
  { view with
    operation := Function.update view.operation id (some operation)
    issued := operation :: view.issued }

/-- A login starts. -/
def login (view : View) (thread : Nat) : View :=
  { view with active := true, loginTask := some thread }

/-- A login ends. -/
def finishLogin (view : View) : View :=
  { view with active := false, loginTask := none }

/-- An account is not being removed any more. -/
def release (view : View) (id : UUID) : View :=
  { view with removing := view.removing.filter (· ≠ id) }

/-- An account is removed. -/
def forget (view : View) (id : UUID) : View :=
  { (view.setAuth id none).setUsage id none with
    ids := view.ids.filter (· ≠ id)
    lastUsed := Function.update view.lastUsed id none
    operation := Function.update view.operation id none }

/-- What an effect does to a view. -/
inductive Does (view : View) (thread : Nat) :
    (effect : Effect) → effect.Reply → View → Prop
  | passive (effect : Effect) (reply : effect.Reply) :
      effect.Passive reply → Does view thread effect reply view
  | beginRefresh (id operation : UUID) (status : AccountAuthStatus)
      (usage : AccountUsageStatus) :
      id ∈ view.ids → view.authStatus id ≠ some .loginInProgress →
      id ∉ view.removing → operation ∉ view.issued →
      status ≠ .loginInProgress →
      Does view thread (.beginRefresh id) (some operation)
        (((view.claim id operation).setAuth id (some status)).setUsage id (some usage))
  | applyIdentity (id operation : UUID)
      (outcome : Except SettingsError (Option ChatGPTAccountIdentity))
      (reply : Bool) (status : AccountAuthStatus)
      (usage : Option AccountUsageStatus) :
      view.operation id = some operation → status ≠ .loginInProgress →
      Does view thread (.applyIdentity id operation outcome) reply
        ((view.setAuth id (some status)).setUsage id usage)
  | beginUsage (id operation : UUID) (usage : AccountUsageStatus) :
      id ∈ view.ids → view.authStatus id = some .loggedIn →
      id ∉ view.removing → operation ∉ view.issued →
      Does view thread (.beginUsage id) (some operation)
        ((view.claim id operation).setUsage id (some usage))
  | applyUsage (id operation : UUID)
      (outcome : Except SettingsError AccountRateLimits)
      (usage : AccountUsageStatus) :
      view.operation id = some operation →
      Does view thread (.applyUsage id operation outcome) () (view.setUsage id (some usage))
  | beginAdd : view.active = false →
      Does view thread .beginAdd true (view.login thread)
  | newAccount (id : UUID) : id ∉ view.issued →
      Does view thread .newAccount id { view with issued := id :: view.issued }
  | completeAdd (id : UUID) (identity : ChatGPTAccountIdentity) :
      Does view thread (.completeAdd id identity) (.ok ())
        { view.setAuth id (some .loggedIn) with ids := view.ids ++ [id] }
  | finishAdd : Does view thread .finishAdd () view.finishLogin
  | failAdd (error : SettingsError) (cleanupError : Option String) :
      Does view thread (.failAdd error cleanupError) () view.finishLogin
  | finishLogin : Does view thread .finishLogin () view.finishLogin
  | beginReauthentication (id operation : UUID) (email : String) :
      id ∈ view.ids → view.active = false → id ∉ view.removing →
      operation ∉ view.issued →
      Does view thread (.beginReauthentication id) (some email)
        ((((view.login thread).claim id operation).setAuth id
          (some .loginInProgress)).setUsage id none)
  | completeReauthentication (id : UUID) (identity : ChatGPTAccountIdentity) :
      Does view thread (.completeReauthentication id identity) (.ok ())
        (view.setAuth id (some .loggedIn))
  | cancelReauthentication (id : UUID) (error : SettingsError) :
      Does view thread (.failReauthentication id error) true (view.setAuth id none)
  | failReauthentication (id : UUID) (error : SettingsError)
      (issue : AccountIssue) :
      Does view thread (.failReauthentication id error) false
        (view.setAuth id (some (.failed issue))).finishLogin
  | beginRemove (id operation : UUID) :
      id ∉ view.removing → view.authStatus id ≠ some .loginInProgress →
      operation ∉ view.issued →
      Does view thread (.beginRemove id) true
        { view.claim id operation with removing := id :: view.removing }
  | abandonRemove (id : UUID) (outcome : Except SettingsError CommandResult) :
      Does view thread (.completeRemove id outcome) () (view.release id)
  | completeRemove (id : UUID) (outcome : Except SettingsError CommandResult) :
      Does view thread (.completeRemove id outcome) () ((view.forget id).release id)
  | refreshLastUsed (lastUsed : UUID → Option AccountLastUsedStatus) :
      (∀ id, lastUsed id ≠ none → id ∈ view.ids) →
      Does view thread .refreshLastUsed () { view with lastUsed }

end View

section Refinement

variable {settings : Settings} {model after : Model settings}
variable {environment : Environment}

variable {call : RegistryCall}

theorem Model.change_error
    {error : SettingsError}
    (changed : model.change environment call = (.error error, after)) :
    after.view = model.view := by
  unfold change at changed
  split at changed
  · cases changed
    rfl
  · split at changed
    · cases changed
      rfl
    · cases changed

theorem Model.change_ok
    (changed : model.change environment call = (.ok (), after))
    (changes : call ≠ .loadOrInitialize) :
    after.view = { model.view with ids := call.listed model.ids } := by
  unfold change at changed
  split at changed
  · cases changed
  · split at changed
    · cases changed
    · rename_i state file called
      cases changed
      obtain ⟨contents, plans, same⟩ := Registry.call_plans changes called
      unfold view ids
      rw [← plans.ids, ← same]

theorem Model.registered_iff (id : UUID) :
    model.registered id = true ↔ id ∈ model.view.ids := by
  simp [registered, view, ids, beq_iff_eq]

theorem Model.isFresh_iff :
    model.isFresh environment = true ↔
      environment.fresh ∉ model.view.issued := by
  simp [isFresh, view]

theorem Model.view_start
    (files : Files)
    (file : Option settings.codec.Bytes)
    (lastUsed : UUID → AccountLastUsedStatus) :
    let view := (start settings files file lastUsed).view
    view.authStatus = (fun _ => none) ∧ view.usageStatus = (fun _ => none) ∧
      (∀ id, view.lastUsed id ≠ none → id ∈ view.ids) ∧
      view.active = false ∧ view.loginTask = none ∧ view.issued = view.ids := by
  refine ⟨rfl, rfl, fun id shown => ?_, rfl, rfl, rfl⟩
  by_contra missing
  refine shown (if_neg fun found => missing ?_)
  exact (registered_iff id).mp found

theorem Model.applyIdentity_view
    (id : UUID)
    (outcome : Except SettingsError (Option ChatGPTAccountIdentity)) :
    ∃ status usage, status ≠ AccountAuthStatus.loginInProgress ∧
      (model.applyIdentity environment id outcome).2.view =
        (model.view.setAuth id (some status)).setUsage id usage := by
  unfold applyIdentity
  split
  · rename_i error
    exact ⟨.failed (accountIssue settings.wording id .authentication error), none, nofun, rfl⟩
  · exact ⟨.loggedOut, none, nofun, rfl⟩
  · split
    · rename_i error changed known
      refine ⟨.failed (accountIssue settings.wording id .authentication error),
        none, nofun, ?_⟩
      rw [← change_error known]
      rfl
    · rename_i changed known
      refine ⟨.loggedIn, model.usageStatus id, nofun, ?_⟩
      have same := change_ok known nofun
      change changed.view.setAuth id (some .loggedIn) = _
      rw [same]
      simp [View.setUsage, View.setAuth, view, RegistryCall.listed]

theorem Model.completeLogin_view
    {id : UUID}
    {reply : Except SettingsError Unit}
    (completed : model.completeLogin environment id call = (reply, after))
    (changes : call ≠ .loadOrInitialize) :
    (∃ error, reply = .error error ∧ after.view = model.view) ∨
      (reply = .ok () ∧
        after.view = { model.view.setAuth id (some .loggedIn) with
          ids := call.listed model.ids }) := by
  unfold completeLogin at completed
  split at completed
  · cases completed
    exact .inl ⟨_, rfl, rfl⟩
  · split at completed
    · rename_i error changed known
      cases completed
      exact .inl ⟨_, rfl, change_error known⟩
    · rename_i changed known
      cases completed
      refine .inr ⟨rfl, ?_⟩
      change changed.view.setAuth id (some .loggedIn) = _
      rw [change_ok known changes]
      rfl

theorem Model.completeRemove_view
    (id : UUID)
    (outcome : Except SettingsError CommandResult) :
    (model.completeRemove environment id outcome).view = model.view.release id ∨
      (model.completeRemove environment id outcome).view =
        (model.view.forget id).release id := by
  unfold completeRemove
  split
  · exact .inl rfl
  · split
    · rename_i error changed known
      refine .inl ?_
      change changed.view.release id = _
      rw [change_error known]
    · rename_i changed known
      refine .inr ?_
      have forgets : (changed.forget id).view = model.view.forget id := by
        change { (changed.view.setAuth id none).setUsage id none with
          lastUsed := Function.update changed.view.lastUsed id none
          operation := Function.update changed.view.operation id none } = _
        rw [change_ok known nofun]
        rfl
      split
      · change (changed.forget id).view.release id = _
        rw [forgets]
      · change (changed.forget id).view.release id = _
        rw [forgets]

theorem Model.updateRouting_view (routing : AccountRoutingConfiguration) :
    (model.updateRouting environment routing).view = model.view := by
  unfold updateRouting
  split
  · rename_i error changed known
    change changed.view = model.view
    exact change_error known
  · rename_i changed known
    change changed.view = model.view
    exact change_ok known nofun

theorem getD_checking_ne
    {status : Option AccountAuthStatus}
    (idle : status ≠ some .loginInProgress) :
    status.getD .checking ≠ .loginInProgress := by
  cases status with
  | none => nofun
  | some status => simpa using idle

theorem does_of_act
    {thread : Nat}
    {effect : Effect}
    {reply : effect.Reply}
    (acts : model.act environment thread effect = some (reply, after)) :
    model.view.Does thread effect reply after.view := by
  cases effect with
  | beginRefresh id =>
    simp only [act] at acts
    split at acts
    · rename_i guards
      simp only [Bool.and_eq_true, decide_eq_true_eq] at guards
      obtain ⟨⟨registered, idle⟩, stays⟩ := guards
      split at acts
      · rename_i fresh
        cases acts
        exact .beginRefresh id _ _ _ ((registered_iff id).mp registered)
          idle stays (isFresh_iff.mp fresh) (getD_checking_ne idle)
      · cases acts
    · cases acts
      exact .passive _ _ rfl
  | applyIdentity id operation outcome =>
    simp only [act, Option.some.injEq] at acts
    split at acts
    · rename_i current
      obtain ⟨status, usage, idle, same⟩ :=
        @Model.applyIdentity_view _ model environment id outcome
      rw [acts] at same
      rw [same]
      exact .applyIdentity id operation outcome reply status usage current idle
    · cases acts
      exact .passive _ _ trivial
  | beginUsage id =>
    simp only [act] at acts
    split at acts
    · rename_i guards
      simp only [Bool.and_eq_true, decide_eq_true_eq] at guards
      obtain ⟨⟨registered, loggedIn⟩, stays⟩ := guards
      split at acts
      · rename_i fresh
        cases acts
        exact .beginUsage id _ _ ((registered_iff id).mp registered)
          loggedIn stays (isFresh_iff.mp fresh)
      · cases acts
    · cases acts
      exact .passive _ _ rfl
  | applyUsage id operation outcome =>
    simp only [act] at acts
    split at acts
    · rename_i current
      cases acts
      cases outcome with
      | ok | error => exact .applyUsage id operation _ _ current
    · cases acts
      exact .passive _ _ trivial
  | beginAdd =>
    simp only [act] at acts
    split at acts
    · rename_i guards
      rw [Bool.and_eq_true] at guards
      cases acts
      exact .beginAdd (by simpa [view] using guards.1)
    · cases acts
      exact .passive _ _ rfl
  | newAccount =>
    simp only [act] at acts
    split at acts
    · rename_i fresh
      cases acts
      exact .newAccount _ (isFresh_iff.mp fresh)
    · cases acts
  | completeAdd id identity | completeReauthentication id identity =>
    simp only [act, Option.some.injEq] at acts
    rcases completeLogin_view acts nofun with ⟨error, rfl, same⟩ | ⟨rfl, same⟩
    · rw [same]
      exact .passive _ _ ⟨error, rfl⟩
    · rw [same]
      constructor
  | finishAdd => cases acts; exact .finishAdd
  | failAdd error cleanupError => cases acts; exact .failAdd error cleanupError
  | beginReauthentication id =>
    simp only [act] at acts
    split at acts
    · cases acts
      exact .passive _ _ rfl
    · rename_i account found
      split at acts
      · rename_i guards
        simp only [Bool.and_eq_true, decide_eq_true_eq] at guards
        split at acts
        · rename_i fresh
          cases acts
          have same : (account.id == id) = true := by simpa using List.find?_some found
          have registered : model.registered id = true :=
            List.any_eq_true.mpr ⟨account, List.mem_of_find?_eq_some found, same⟩
          exact .beginReauthentication id _ _ ((registered_iff id).mp registered)
            (by simpa [view] using guards.1.1) guards.2
            (isFresh_iff.mp fresh)
        · cases acts
      · cases acts
        exact .passive _ _ rfl

  | failReauthentication id error =>
    simp only [act, Option.some.injEq] at acts
    split at acts
    · cases acts
      exact .cancelReauthentication id error
    · cases acts
      exact .failReauthentication id error _
  | finishLogin => cases acts; exact .finishLogin
  | cancelSignIn =>
    simp only [act] at acts
    split at acts <;> cases acts <;> exact .passive _ _ trivial
  | beginRemove id =>
    simp only [act] at acts
    split at acts
    · rename_i guards
      split at acts
      · rename_i fresh
        cases acts
        exact .beginRemove id _ guards.1 guards.2 (isFresh_iff.mp fresh)
      · cases acts
    · cases acts
      exact .passive _ _ rfl
  | completeRemove id outcome =>
    cases acts
    rcases @Model.completeRemove_view _ model environment id outcome with
      same | same
    · rw [same]
      exact .abandonRemove id outcome
    · rw [same]
      exact .completeRemove id outcome
  | refreshLastUsed =>
    cases acts
    refine .refreshLastUsed _ fun id shown => ?_
    by_contra missing
    refine shown (if_neg fun found => missing ?_)
    exact (registered_iff id).mp found
  | updateRouting routing =>
    simp only [act] at acts
    split at acts
    · cases acts
      rw [updateRouting_view]
      exact .passive _ _ trivial
    · cases acts
      exact .passive _ _ trivial
  | checkCancellation | readIdentity | readUsage | authenticationCommand | login | logout
  | removeAuthHome => cases acts; exact .passive _ _ trivial

end Refinement

/-- How far an operation has come with a login. -/
inductive Session
  | outside
  | begun
  | adding (id : UUID)
  | reauthenticating (id : UUID)
  | closing

/-- Where a call stands. -/
structure Stage where
  session : Session
  reading : Option (UUID × UUID)
  removing : Option UUID

namespace Stage

/-- The stage of a call that starts. -/
def start : Stage := ⟨.outside, none, none⟩

/-- The login after an effect. -/
def nextSession (session : Session) :
    (effect : Effect) → effect.Reply → Session
  | .beginAdd, true => .begun
  | .newAccount, id => .adding id
  | .beginReauthentication id, some _ => .reauthenticating id
  | .completeAdd _ _, .ok () | .completeReauthentication _ _, .ok ()
  | .failReauthentication _ _, true => .closing
  | .failReauthentication _ _, false | .finishAdd, _ | .failAdd _ _, _
  | .finishLogin, _ => .outside
  | _, _ => session

/-- The reading after an effect. -/
def nextReading (reading : Option (UUID × UUID)) :
    (effect : Effect) → effect.Reply → Option (UUID × UUID)
  | .beginRefresh id, some operation | .beginUsage id, some operation => some (id, operation)
  | .applyIdentity _ _ _, _ | .applyUsage _ _ _, _ => none
  | _, _ => reading

/-- The removal after an effect. -/
def nextRemoving (removing : Option UUID) :
    (effect : Effect) → effect.Reply → Option UUID
  | .beginRemove id, true => some id
  | .completeRemove _ _, _ => none
  | _, _ => removing

/-- The stage after an effect. -/
def next (stage : Stage) (effect : Effect) (reply : effect.Reply) : Stage where
  session := nextSession stage.session effect reply
  reading := nextReading stage.reading effect reply
  removing := nextRemoving stage.removing effect reply

/-- The effects a call may perform. -/
def Allows (stage : Stage) : Effect → Prop
  | .applyIdentity id operation _ | .applyUsage id operation _ =>
    stage.reading = some (id, operation)
  | .beginAdd | .beginReauthentication _ => stage.session = .outside
  | .newAccount => stage.session = .begun
  | .completeAdd id _ => stage.session = .adding id
  | .completeReauthentication id _ | .failReauthentication id _ =>
    stage.session = .reauthenticating id
  | .finishAdd | .failAdd _ _ | .finishLogin => stage.session ≠ .outside
  | .completeRemove id _ => stage.removing = some id
  | _ => True

/-- Two stages that differ in their readings only. -/
structure Like (stage reached : Stage) : Prop where
  session : reached.session = stage.session
  removing : reached.removing = stage.removing

theorem Like.refl (stage : Stage) : stage.Like stage := ⟨rfl, rfl⟩

end Stage

/-- The protocol of the calls. -/
@[reducible] def manners : Protocol operations where
  Stage := Stage
  allows := Stage.Allows
  admits _ _ _ := True
  next := Stage.next

/-- A part of an operation that follows the protocol. -/
abbrev Keeps (work : Work α) (started : Bool) (stage : Stage)
    (post : Except SettingsError α → Stage → Prop) : Prop :=
  Routine.Keeps manners work started stage post

section Operations

variable {settings : Settings} {started : Bool} {stage : Stage}

theorem Stage.like_next
    (stage : Stage)
    {effect : Effect}
    {reply : effect.Reply}
    (session : nextSession stage.session effect reply = stage.session)
    (removing : nextRemoving stage.removing effect reply = stage.removing) :
    stage.Like (stage.next effect reply) :=
  ⟨session, removing⟩

theorem refreshUsage_keeps (id : UUID) :
    Keeps (refreshUsage id) started stage fun outcome reached =>
      outcome = .ok () ∧ stage.Like reached := by
  refine keeps_perform trivial fun reply => ?_
  have begun : stage.Like (stage.next (.beginUsage id) reply) :=
    stage.like_next (by cases reply <;> rfl) rfl
  cases reply with
  | none => exact keeps_pure ⟨rfl, begun⟩
  | some operation =>
    refine keeps_perform trivial fun outcome => ?_
    exact keeps_perform_last rfl fun _ => ⟨rfl, begun.session, begun.removing⟩

theorem refreshAuthStatus_keeps (id : UUID) :
    Keeps (refreshAuthStatus id) started stage fun outcome reached =>
      outcome = .ok () ∧ stage.Like reached := by
  refine keeps_perform trivial fun reply => ?_
  have begun : stage.Like (stage.next (.beginRefresh id) reply) :=
    stage.like_next (by cases reply <;> rfl) rfl
  cases reply with
  | none => exact keeps_pure ⟨rfl, begun⟩
  | some operation =>
    refine keeps_perform trivial fun outcome => ?_
    refine keeps_perform rfl fun applied => ?_
    cases applied with
    | false => exact keeps_pure ⟨rfl, begun.session, begun.removing⟩
    | true =>
      refine mono (refreshUsage_keeps id) ?_
      rintro outcome _ reached ⟨returned, like⟩
      exact ⟨returned, like.session.trans begun.session, like.removing.trans begun.removing⟩

theorem signIn_keeps
    (id : UUID)
    (expectedEmail : Option String) :
    Keeps (signIn settings id expectedEmail) started stage fun _ reached =>
      stage.Like reached := by
  refine keeps_perform trivial fun checked => ?_
  refine keeps_pass (fun _ _ => .refl stage) fun _ _ => ?_
  refine keeps_perform trivial fun command => ?_
  refine keeps_pass (fun _ _ => .refl stage) fun _ _ => ?_
  refine modify ?_
  refine keeps_perform trivial fun result => ?_
  refine keeps_pass (fun _ _ => .refl stage) fun _ _ => ?_
  refine keeps_perform trivial fun checked => ?_
  refine keeps_pass (fun _ _ => .refl stage) fun _ _ => ?_
  refine keeps_pass (fun _ _ => .refl stage) fun _ _ => ?_
  refine keeps_perform trivial fun read => ?_
  refine keeps_pass (fun _ _ => .refl stage) fun identity _ => ?_
  cases identity with
  | none => exact keeps_throw (.refl stage)
  | some identity => exact keeps_pure (.refl stage)

theorem cleanupTemporaryAccount_keeps
    (id : UUID)
    (logout : Bool) :
    Keeps (cleanupTemporaryAccount settings id logout) started
        stage fun outcome reached => (∃ message, outcome = .ok message) ∧
      stage.Like reached := by
  refine @keeps_attempt _ _ _ _ _ manners _ _ _ _ (fun _ reached => stage.Like reached) _ ?_ ?_
  · have deletes : ∀ now,
      Keeps (do Work.pass (← Work.perform (.removeAuthHome id)) : Work Unit) now
        stage fun _ reached => stage.Like reached := fun now =>
      keeps_perform trivial fun _ => keeps_pass_last (.refl stage)
    cases logout with
    | false => exact deletes started
    | true =>
      refine keeps_perform trivial fun result => ?_
      refine keeps_pass (fun _ _ => .refl stage) fun _ _ => ?_
      refine keeps_pass (fun _ _ => .refl stage) fun _ _ => ?_
      exact deletes started
  · intro outcome now reached like
    cases outcome with
    | ok | error => exact keeps_pure ⟨⟨_, rfl⟩, like⟩

theorem addAccount_keeps (outside : stage.session = .outside) :
    Keeps (addAccount settings) started stage fun _ _ => True := by
  refine keeps_perform outside fun begun => ?_
  cases begun with
  | false => exact keeps_pure trivial
  | true =>
    refine keeps_perform rfl fun id => ?_
    refine @keeps_attempt _ _ _ _ _ manners _ _ _ _
      (fun _ reached => reached.session ≠ .outside) _ ?_ ?_
    · refine keeps_bind (signIn_keeps id none) ?_ ?_
      · intro error reached like
        rw [like.session]
        nofun
      · intro identity now reached like
        refine keeps_perform like.session fun completed => keeps_pass ?_ ?_
        · rintro error rfl
          change reached.session ≠ .outside
          rw [like.session]
          nofun
        · rintro value rfl
          refine mono (refreshUsage_keeps id) ?_
          rintro outcome _ final ⟨-, further⟩
          rw [further.session]
          nofun
    · intro outcome now reached inside
      cases outcome with
      | ok value => exact keeps_perform_last inside fun _ => trivial
      | error error =>
        refine get ?_
        refine keeps_bind (cleanupTemporaryAccount_keeps id now) ?_ ?_
        · intro error final holds
          trivial
        · rintro message _ final ⟨-, like⟩
          refine keeps_perform_last ?_ fun _ => trivial
          change final.session ≠ .outside
          rwa [like.session]

theorem reauthenticate_keeps
    (outside : stage.session = .outside)
    (id : UUID) :
    Keeps (reauthenticate settings id) started stage fun _ _ => True := by
  refine keeps_perform outside fun email => ?_
  cases email with
  | none => exact keeps_pure trivial
  | some email =>
    refine @keeps_attempt _ _ _ _ _ manners _ _ _ _ (fun outcome reached => match outcome with
        | .ok _ => reached.session ≠ .outside
        | .error _ => reached.session = .reauthenticating id) _ ?_ ?_
    · refine keeps_bind (signIn_keeps id (some email)) ?_ ?_
      · intro error reached like
        exact like.session
      · intro identity now reached like
        refine keeps_perform like.session fun completed => keeps_pass ?_ ?_
        · rintro error rfl
          exact like.session
        · rintro value rfl
          refine mono (refreshUsage_keeps id) ?_
          rintro outcome _ final ⟨rfl, further⟩
          change final.session ≠ .outside
          rw [further.session]
          nofun
    · intro outcome now reached holds
      cases outcome with
      | ok value => exact keeps_perform_last holds fun _ => trivial
      | error error =>
        refine keeps_perform holds fun cancelled => ?_
        cases cancelled with
        | false => exact keeps_pure trivial
        | true =>
          refine keeps_bind (refreshAuthStatus_keeps id) ?_ ?_
          · intro error final holds
            trivial
          · rintro value _ final ⟨-, like⟩
            refine keeps_perform_last ?_ fun _ => trivial
            change final.session ≠ .outside
            rw [like.session]
            nofun

theorem remove_keeps (id : UUID) :
    Keeps (remove id) started stage fun _ _ => True := by
  refine keeps_perform trivial fun begun => ?_
  cases begun with
  | false => exact keeps_pure trivial
  | true =>
    refine keeps_perform trivial fun outcome => ?_
    exact keeps_perform_last rfl fun _ => trivial

theorem body_keeps (call : Call) :
    Keeps (body settings call) started Stage.start fun _ _ => True := by
  cases call with
  | refreshAuthStatus id =>
    exact mono (refreshAuthStatus_keeps id) fun _ _ _ _ => trivial
  | refreshUsage id => exact mono (refreshUsage_keeps id) fun _ _ _ _ => trivial
  | addAccount => exact addAccount_keeps rfl
  | reauthenticate id => exact reauthenticate_keeps rfl id
  | cancelSignIn => exact keeps_perform_last trivial fun _ => trivial
  | remove id => exact remove_keeps id
  | refreshLastUsed | updateRouting => exact keeps_perform_last trivial fun _ => trivial

end Operations

/-- The operations follow the protocol. -/
def certificate (settings : Settings) :
    Certificate manners (fun _ : Call => True) (code settings) where
  start _ := Stage.start
  Reentry _ stage := stage = Stage.start
  entered _ _ := rfl
  follows call stage starts := by
    subst starts
    rw [code, Program.follows_bind]
    refine Program.Follows.mono (body_keeps call) ?_
    intro _ _ _ target named
    cases named

end TurnrailViewModel

end Turnrail
