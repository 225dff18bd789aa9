import Turnrail.Settings.Conduct

/-!
# Stale results in Settings

An operation that reports about an account holds an identifier of its own, and
reports only while that is the last operation of the account.  Identifiers are
never created twice.  While an operation may still report, its account is
registered, is not being removed and is not signing in, so nothing is ever shown
for an account that is not registered.
-/

namespace Turnrail

open Interleaving Function List

namespace TurnrailViewModel

namespace View

/-- Operations may report about an account. -/
structure Live (view : View) (id : UUID) : Prop where
  registered : id ∈ view.ids
  stays : id ∉ view.removing
  idle : view.authStatus id ≠ some .loginInProgress

/-- An account is signing in again. -/
structure Busy (view : View) (id : UUID) : Prop where
  registered : id ∈ view.ids
  stays : id ∉ view.removing
  busy : view.authStatus id = some .loginInProgress

/-- What holds of Settings at all times. -/
structure Sound (view : View) : Prop where
  authStatus : ∀ id, view.authStatus id ≠ none → id ∈ view.ids
  usageStatus : ∀ id, view.usageStatus id ≠ none → id ∈ view.ids
  lastUsed : ∀ id, view.lastUsed id ≠ none → id ∈ view.ids
  active : view.active = view.loginTask.isSome
  known : ∀ id ∈ view.ids, id ∈ view.issued

end View

/-- What a thread knows about Settings from its login. -/
def Session.Fits (view : View) (thread : Nat) : Session → Prop
  | .outside => True
  | .begun | .closing => view.loginTask = some thread
  | .adding id => view.loginTask = some thread ∧ id ∈ view.issued ∧ id ∉ view.ids
  | .reauthenticating id => view.loginTask = some thread ∧ view.Busy id

/-- What a thread knows about the view. -/
structure Stage.Fits (view : View) (thread : Nat) (stage : Stage) : Prop where
  created : ∀ id operation, stage.reading = some (id, operation) → operation ∈ view.issued
  current : ∀ id operation, stage.reading = some (id, operation) →
    view.operation id = some operation → view.Live id
  session : stage.session.Fits view thread
  removing : ∀ id, stage.removing = some id → id ∈ view.removing

section Effects

variable {view after : View} {thread holder : Nat} {stage : Stage}
variable {effect : Effect} {reply : effect.Reply} {id operation : UUID}

variable {table : UUID → Option τ} {ids : List UUID} {session : Session}

theorem update_keys
    {value : Option τ}
    (keys : ∀ id, table id ≠ none → id ∈ ids)
    (member : value ≠ none → id ∈ ids) :
    ∀ other, update table id value other ≠ none → other ∈ ids := by
  intro other present
  by_cases same : other = id
  · subst same
    rw [update_self] at present
    exact member present
  · rw [update_of_ne same] at present
    exact keys other present

theorem forget_keys (keys : ∀ id, table id ≠ none → id ∈ ids) :
    ∀ other, update table id none other ≠ none →
      other ∈ ids.filter (· ≠ id) := by
  intro other present
  by_cases same : other = id
  · subst same
    rw [update_self] at present
    exact absurd rfl present
  · rw [update_of_ne same] at present
    exact mem_filter.mpr ⟨keys other present, by simpa using same⟩

theorem View.Does.issued (does : view.Does thread effect reply after) :
    view.issued ⊆ after.issued := by
  cases does with
  | beginRefresh | beginUsage | newAccount | beginReauthentication | beginRemove =>
    exact subset_cons_self _ _
  | _ => exact Subset.refl _

/-- The account of an operation that was created before gets no new one. -/
theorem ne_of_update
    {other : UUID}
    {value : Option UUID}
    (created : operation ∈ view.issued)
    (fresh : ∀ issued ∈ value, issued ∉ view.issued)
    (last : update view.operation other value id = some operation) :
    id ≠ other := by
  rintro rfl
  rw [update_self] at last
  exact fresh operation last created

theorem View.Does.last_operation
    (does : view.Does thread effect reply after)
    (created : operation ∈ view.issued)
    (last : after.operation id = some operation) :
    view.operation id = some operation := by
  have starts : ∀ {other : UUID} {value : Option UUID},
      (∀ issued ∈ value, issued ∉ view.issued) →
      update view.operation other value id = some operation →
      view.operation id = some operation := by
    intro other value fresh last
    rwa [update_of_ne (ne_of_update created fresh last)] at last
  cases does with
  | beginRefresh _ _ _ _ _ _ _ unused | beginUsage _ _ _ _ _ _ unused
  | beginReauthentication _ _ _ _ _ _ unused | beginRemove _ _ _ _ unused =>
    exact starts (by simpa using unused) last
  | completeRemove => exact starts (by simp) last
  | _ => exact last

theorem View.Live.does
    (live : view.Live id)
    (does : view.Does thread effect reply after)
    (created : operation ∈ view.issued)
    (last : after.operation id = some operation) :
    after.Live id := by
  -- A change of another account, or to another status than signing in.
  have idles : ∀ {other : UUID} {status : Option AccountAuthStatus},
      (id = other → status ≠ some .loginInProgress) →
      update view.authStatus other status id ≠ some .loginInProgress := by
    intro other status harmless
    by_cases same : id = other
    · subst same
      rw [update_self]
      exact harmless rfl
    · rw [update_of_ne same]
      exact live.idle
  cases does with
  | beginRefresh _ _ _ _ _ _ _ _ signed | applyIdentity _ _ _ _ _ _ _ signed =>
    exact ⟨live.registered, live.stays, idles fun _ => by simpa using signed⟩
  | completeAdd other identity =>
    exact ⟨mem_append_left _ live.registered, live.stays, idles fun _ => nofun⟩
  | beginReauthentication other fresh email registered inactive stays unused =>
    exact ⟨live.registered, live.stays,
      idles fun same => absurd same (ne_of_update created (by simpa using unused) last)⟩
  | completeReauthentication | cancelReauthentication | failReauthentication =>
    exact ⟨live.registered, live.stays, idles fun _ => nofun⟩
  | beginRemove other fresh stays idle unused =>
    refine ⟨live.registered, fun member => ?_, live.idle⟩
    rcases mem_cons.mp member with same | member
    · exact ne_of_update created (by simpa using unused) last same
    · exact live.stays member
  | abandonRemove other outcome =>
    exact ⟨live.registered, fun member => live.stays (mem_of_mem_filter member), live.idle⟩
  | completeRemove other outcome =>
    have different : id ≠ other := ne_of_update created (by simp) last
    exact ⟨mem_filter.mpr ⟨live.registered, by simpa using different⟩,
      fun member => live.stays (mem_of_mem_filter member),
      idles fun same => absurd same different⟩
  | _ => exact ⟨live.registered, live.stays, live.idle⟩

theorem Stage.Fits.sound
    (fits : stage.Fits view thread)
    (sound : view.Sound)
    (allowed : stage.Allows effect)
    (does : view.Does thread effect reply after) :
    after.Sound := by
  have known : ∀ id ∈ view.ids, id ∈ after.issued :=
    fun id member => does.issued (sound.known id member)
  cases does with
  | passive => exact sound
  | beginRefresh id operation status usage registered =>
    exact ⟨update_keys sound.authStatus fun _ => registered,
      update_keys sound.usageStatus fun _ => registered, sound.lastUsed,
      sound.active, known⟩
  | applyIdentity id operation outcome reply status usage current =>
    have live := fits.current id operation allowed current
    exact ⟨update_keys sound.authStatus fun _ => live.registered,
      update_keys sound.usageStatus fun _ => live.registered, sound.lastUsed,
      sound.active, known⟩
  | beginUsage id operation usage registered =>
    exact ⟨sound.authStatus, update_keys sound.usageStatus fun _ => registered, sound.lastUsed,
      sound.active, known⟩
  | applyUsage id operation outcome usage current =>
    have live := fits.current id operation allowed current
    exact ⟨sound.authStatus, update_keys sound.usageStatus fun _ =>
      live.registered, sound.lastUsed,
      sound.active, known⟩

  | newAccount | beginRemove | abandonRemove =>
    exact ⟨sound.authStatus, sound.usageStatus, sound.lastUsed, sound.active, known⟩
  | completeAdd id identity =>
    have session := fits.session
    rw [show stage.session = .adding id from allowed] at session
    have keep : ∀ {other}, other ∈ view.ids → other ∈ view.ids ++ [id] :=
      fun member => mem_append_left _ member
    refine ⟨update_keys (fun other present => keep
        (sound.authStatus other present)) fun _ => by simp,
      fun other present => keep (sound.usageStatus other present),
      fun other present => keep (sound.lastUsed other present),
      sound.active, fun other member => ?_⟩
    rcases mem_append.mp member with member | member
    · exact sound.known other member
    · obtain rfl := mem_singleton.mp member
      exact session.2.1
  | beginReauthentication id operation email registered =>
    exact ⟨update_keys sound.authStatus fun _ => registered,
      update_keys sound.usageStatus fun set => absurd rfl set, sound.lastUsed,
      rfl, known⟩
  | completeReauthentication id identity =>
    have session := fits.session
    rw [show stage.session = .reauthenticating id from allowed] at session
    exact ⟨update_keys sound.authStatus fun _ => session.2.registered,
      sound.usageStatus, sound.lastUsed, sound.active, known⟩
  | cancelReauthentication id error =>
    exact ⟨update_keys sound.authStatus fun set => absurd rfl set,
      sound.usageStatus, sound.lastUsed, sound.active, known⟩
  | failReauthentication id error issue =>
    have session := fits.session
    rw [show stage.session = .reauthenticating id from allowed] at session
    exact ⟨update_keys sound.authStatus fun _ => session.2.registered,
      sound.usageStatus, sound.lastUsed, rfl, known⟩

  | completeRemove id outcome =>
    exact ⟨forget_keys sound.authStatus, forget_keys sound.usageStatus,
      forget_keys sound.lastUsed, sound.active,
      fun other member => sound.known other (mem_of_mem_filter member)⟩
  | refreshLastUsed lastUsed registered =>
    exact ⟨sound.authStatus, sound.usageStatus, registered, sound.active, known⟩
  | _ => exact ⟨sound.authStatus, sound.usageStatus, sound.lastUsed, rfl, known⟩

/-- The effects that belong to a login. -/
def Effect.logsIn : Effect → Bool
  | .beginAdd | .newAccount | .completeAdd _ _ | .finishAdd | .failAdd _ _
  | .beginReauthentication _ | .completeReauthentication _ _
  | .failReauthentication _ _ | .finishLogin => true
  | _ => false

theorem Session.Fits.holds
    (fits : session.Fits view holder)
    (inside : session ≠ .outside) :
    view.loginTask = some holder := by
  cases session with
  | outside => exact absurd rfl inside
  | begun | closing => exact fits
  | adding | reauthenticating => exact fits.1

theorem Session.Fits.frame
    (fits : session.Fits view holder)
    (task : after.loginTask = view.loginTask)
    (issued : view.issued ⊆ after.issued)
    (registers : ∀ id, id ∈ after.ids → id ∈ view.ids)
    (busy : ∀ id, view.Busy id → after.Busy id) :
    session.Fits after holder := by
  cases session with
  | outside => trivial
  | begun | closing => exact task.trans fits
  | adding id =>
    exact ⟨task.trans fits.1, issued fits.2.1, fun member => fits.2.2 (registers id member)⟩
  | reauthenticating id => exact ⟨task.trans fits.1, busy id fits.2⟩

theorem View.Busy.does
    (busy : view.Busy id)
    (fits : stage.Fits view thread)
    (allowed : stage.Allows effect)
    (does : view.Does thread effect reply after)
    (quiet : effect.logsIn = false) :
    after.Busy id := by
  have status : ∀ {other : UUID} {status : Option AccountAuthStatus},
      id ≠ other → update view.authStatus other status id = some .loginInProgress := by
    intro other status different
    rw [update_of_ne different]
    exact busy.busy
  cases does with
  | beginRefresh other operation status' usage registered idle =>
    have different : id ≠ other := by
      rintro rfl
      exact idle busy.busy
    exact ⟨busy.registered, busy.stays, status different⟩
  | applyIdentity other operation outcome reply status' usage current =>
    have different : id ≠ other := by
      rintro rfl
      exact (fits.current id operation allowed current).idle busy.busy
    exact ⟨busy.registered, busy.stays, status different⟩
  | beginRemove other operation stays idle =>
    refine ⟨busy.registered, fun member => ?_, busy.busy⟩
    rcases mem_cons.mp member with rfl | member
    · exact idle busy.busy
    · exact busy.stays member
  | abandonRemove other outcome =>
    exact ⟨busy.registered, fun member => busy.stays (mem_of_mem_filter member), busy.busy⟩
  | completeRemove other outcome =>
    have different : id ≠ other := by
      rintro rfl
      exact busy.stays (fits.removing id allowed)
    exact ⟨mem_filter.mpr ⟨busy.registered, by simpa using different⟩,
      fun member => busy.stays (mem_of_mem_filter member),
      status different⟩
  | beginAdd | newAccount | completeAdd | finishAdd | failAdd | finishLogin
  | beginReauthentication | completeReauthentication | cancelReauthentication
  | failReauthentication => cases quiet
  | _ => exact ⟨busy.registered, busy.stays, busy.busy⟩

theorem View.Does.quiet
    (does : view.Does thread effect reply after)
    (quiet : effect.logsIn = false) :
    after.loginTask = view.loginTask ∧ ∀ id, id ∈ after.ids →
      id ∈ view.ids := by
  cases does with
  | beginAdd | newAccount | completeAdd | finishAdd | failAdd | finishLogin
  | beginReauthentication | completeReauthentication | cancelReauthentication
  | failReauthentication => cases quiet
  | completeRemove other outcome => exact ⟨rfl, fun _ member => mem_of_mem_filter member⟩
  | _ => exact ⟨rfl, fun _ member => member⟩

theorem Session.Fits.quiet
    (knows : session.Fits view holder)
    (fits : stage.Fits view thread)
    (allowed : stage.Allows effect)
    (does : view.Does thread effect reply after)
    (quiet : effect.logsIn = false) :
    session.Fits after holder := by
  obtain ⟨task, registers⟩ := does.quiet quiet
  exact knows.frame task does.issued registers fun _ busy => busy.does fits allowed does quiet

theorem View.Does.outside
    (does : view.Does thread effect reply after)
    (sound : view.Sound)
    (allowed : stage.Allows effect)
    (outside : stage.session = .outside)
    (taken : view.loginTask = some holder)
    (logsIn : effect.logsIn = true) :
    after = view := by
  have active : view.active = true := by
    rw [sound.active, taken]
    rfl
  cases does with
  | passive => rfl
  | beginAdd inactive =>
    rw [active] at inactive
    cases inactive
  | beginReauthentication id operation email registered inactive =>
    rw [active] at inactive
    cases inactive
  | finishAdd | failAdd | finishLogin => exact absurd outside allowed
  | newAccount | completeAdd | completeReauthentication | cancelReauthentication
  | failReauthentication => cases outside.symm.trans allowed
  | beginRefresh | applyIdentity | beginUsage | applyUsage | beginRemove | abandonRemove
  | completeRemove | refreshLastUsed => cases logsIn

theorem nextSession_passive
    (session : Session)
    (passive : effect.Passive reply) :
    Stage.nextSession session effect reply = session := by
  cases effect with
  | beginAdd | beginReauthentication =>
    cases passive
    rfl
  | completeAdd | completeReauthentication =>
    obtain ⟨error, rfl⟩ := passive
    rfl
  | newAccount | finishAdd | failAdd | finishLogin | failReauthentication => cases passive
  | _ => rfl

theorem nextSession_quiet
    (session : Session)
    (quiet : effect.logsIn = false) :
    Stage.nextSession session effect reply = session := by
  cases effect with
  | beginAdd | newAccount | completeAdd | finishAdd | failAdd | beginReauthentication
  | completeReauthentication | failReauthentication | finishLogin => cases quiet
  | _ => rfl

theorem Stage.Fits.nextSession
    (fits : stage.Fits view thread)
    (sound : view.Sound)
    (allowed : stage.Allows effect)
    (does : view.Does thread effect reply after) :
    (nextSession stage.session effect reply).Fits after thread := by
  have session := fits.session
  by_cases quiet : effect.logsIn = false
  · rw [nextSession_quiet stage.session quiet]
    exact session.quiet fits allowed does quiet
  · cases does with
    | passive effect reply passive =>
      rw [nextSession_passive stage.session passive]
      exact session
    | beginAdd inactive => exact rfl
    | newAccount id unused =>
      rw [show stage.session = .begun from allowed] at session
      exact ⟨session, mem_cons_self, fun member => unused (sound.known id member)⟩
    | completeAdd id identity =>
      rw [show stage.session = .adding id from allowed] at session
      exact session.1
    | finishAdd | failAdd | finishLogin => trivial
    | beginReauthentication id operation email registered inactive stays =>
      exact ⟨rfl, registered, stays, update_self _ _ _⟩
    | completeReauthentication id | cancelReauthentication id =>
      rw [show stage.session = .reauthenticating id from allowed] at session
      exact session.1
    | failReauthentication id error issue => trivial
    | beginRefresh | applyIdentity | beginUsage | applyUsage | beginRemove | abandonRemove
    | completeRemove | refreshLastUsed => exact absurd rfl quiet

/-- Every other login is as far as it was. -/
theorem Session.Fits.elsewhere
    (knows : session.Fits view holder)
    (fits : stage.Fits view thread)
    (sound : view.Sound)
    (allowed : stage.Allows effect)
    (does : view.Does thread effect reply after)
    (different : holder ≠ thread) :
    session.Fits after holder := by
  by_cases outside : session = .outside
  · rw [outside]
    trivial
  · cases logsIn : effect.logsIn with
    | false => exact knows.quiet fits allowed does logsIn
    | true =>
      have taken := knows.holds outside
      have other : stage.session = .outside := by
        by_contra inside
        have own := fits.session.holds inside
        exact different (Option.some.inj (taken.symm.trans own))
      rw [does.outside sound allowed other taken logsIn]
      exact knows

theorem View.Does.current
    (does : view.Does thread effect reply after)
    (created : operation ∈ view.issued)
    (current : view.operation id = some operation → view.Live id)
    (last : after.operation id = some operation) :
    after.Live id :=
  (current (does.last_operation created last)).does does created last

theorem Stage.Fits.nextCurrent
    (fits : stage.Fits view thread)
    (does : view.Does thread effect reply after)
    (reading : nextReading stage.reading effect reply = some (id, operation)) :
    operation ∈ after.issued ∧
      (after.operation id = some operation → after.Live id) := by
  have old : stage.reading = some (id, operation) → operation ∈ after.issued ∧
      (after.operation id = some operation → after.Live id) := fun known =>
    ⟨does.issued (fits.created id operation known),
      does.current (fits.created id operation known)
        (fits.current id operation known)⟩
  cases does with
  | beginRefresh other fresh status usage registered idle stays unused signed =>
    cases reading
    refine ⟨mem_cons_self, fun _ => ⟨registered, stays, ?_⟩⟩
    change update view.authStatus id (some status) id ≠ _
    rw [update_self]
    simpa using signed
  | beginUsage other fresh usage registered loggedIn stays unused =>
    cases reading
    refine ⟨mem_cons_self, fun _ => ⟨registered, stays, ?_⟩⟩
    change view.authStatus id ≠ _
    rw [loggedIn]
    nofun
  | applyIdentity | applyUsage => cases reading
  | passive effect reply passive =>
    cases effect with
    | beginRefresh other =>
      cases passive
      exact old reading
    | beginUsage other =>
      cases passive
      exact old reading
    | applyIdentity | applyUsage => cases reading
    | _ => exact old reading
  | _ => exact old reading

theorem View.Does.removing
    (does : view.Does thread effect reply after)
    (allowed : stage.Allows effect)
    (apart : stage.removing ≠ some id)
    (member : id ∈ view.removing) :
    id ∈ after.removing := by
  have released : ∀ {other : UUID}, stage.removing = some other →
      id ∈ view.removing.filter (· ≠ other) := by
    intro other removes
    refine mem_filter.mpr ⟨member, ?_⟩
    have different : id ≠ other := by
      rintro rfl
      exact apart removes
    simpa using different
  cases does with
  | beginRemove => exact mem_cons_of_mem _ member
  | abandonRemove | completeRemove => exact released allowed
  | _ => exact member

theorem Stage.Fits.nextRemoving
    (fits : stage.Fits view thread)
    (does : view.Does thread effect reply after)
    (removes : nextRemoving stage.removing effect reply = some id) :
    id ∈ after.removing := by
  cases does with
  | beginRemove other operation stays idle unused =>
    cases removes
    exact mem_cons_self
  | abandonRemove | completeRemove => cases removes
  | passive effect reply passive =>
    cases effect with
    | beginRemove other =>
      cases passive
      exact fits.removing id removes
    | completeRemove other outcome => cases removes
    | _ => exact fits.removing id removes
  | _ => exact fits.removing id removes

theorem Stage.Fits.next
    (fits : stage.Fits view thread)
    (sound : view.Sound)
    (allowed : stage.Allows effect)
    (does : view.Does thread effect reply after) :
    (stage.next effect reply).Fits after thread where
  created _ _ reading := (fits.nextCurrent does reading).1
  current _ _ reading := (fits.nextCurrent does reading).2
  session := fits.nextSession sound allowed does
  removing _ removes := fits.nextRemoving does removes

theorem Stage.Fits.elsewhere
    {watcher : Stage}
    (watches : watcher.Fits view holder)
    (fits : stage.Fits view thread)
    (sound : view.Sound)
    (allowed : stage.Allows effect)
    (does : view.Does thread effect reply after)
    (different : holder ≠ thread)
    (apart : ∀ id, watcher.removing = some id → stage.removing ≠ some id) :
    watcher.Fits after holder where
  created id operation reading := does.issued (watches.created id operation reading)
  current id operation reading :=
    does.current (watches.created id operation reading) (watches.current id operation reading)
  session := watches.session.elsewhere fits sound allowed does different
  removing id removes := does.removing allowed (apart id removes) (watches.removing id removes)

end Effects

/-- A refresh of an account starts. -/
def Starts (thread : Nat) (id operation : UUID)
    (event : Event operations Call) : Prop :=
  event = .performed thread (.beginRefresh id) (some operation) ∨
    event = .performed thread (.beginUsage id) (some operation)

/-- A refresh, a login or the removal of an account starts. -/
def Supersedes (id : UUID) (event : Event operations Call) : Prop :=
  ∃ thread, (∃ operation, Starts thread id operation event) ∨
    (∃ email, event = .performed thread (.beginReauthentication id) (some email)) ∨
    event = .performed thread (.beginRemove id) true

/-- The result of a refresh arrives. -/
def Reports (thread : Nat) (id operation : UUID)
    (event : Event operations Call) : Prop :=
  (∃ outcome reply, event = .performed thread (.applyIdentity id operation outcome) reply) ∨
    ∃ outcome, event = .performed thread (.applyUsage id operation outcome) ()

/-- A refresh started during a run, and what superseded it since then took its
place. -/
def Begun {settings : Settings}
    (trace : List (Moment operations Call (Model settings)))
    (view : View) (thread : Nat) (id operation : UUID) : Prop :=
  ∃ earlier start between, trace = earlier ++ start :: between ∧
    Starts thread id operation start.event ∧
    ((∃ other ∈ between, Supersedes id other.event) → view.operation id ≠ some operation)

/-- What holds of everything that happened and of the Settings it left. -/
structure Recorded {settings : Settings}
    (trace : List (Moment operations Call (Model settings)))
    (parties : Parties manners (Model settings)) : Prop where
  sound : parties.world.view.Sound
  fits : ∀ thread (stage : Stage), parties.stages thread = some stage →
    stage.Fits parties.world.view thread
  alone : ∀ {first second : Nat} {one two : Stage} {id : UUID},
    parties.stages first = some one → parties.stages second = some two →
    one.removing = some id → two.removing = some id → first = second
  begun : ∀ thread (stage : Stage) id operation, parties.stages thread = some stage →
    stage.reading = some (id, operation) →
    Begun trace parties.world.view thread id operation

section Runs

variable {settings : Settings}
variable {trace earlier later : List (Moment operations Call (Model settings))}
variable {moment : Moment operations Call (Model settings)}
variable {parties next : Parties manners (Model settings)}
variable {event : Event operations Call}
variable {thread holder : Nat} {stage : Stage}
variable {effect : Effect} {reply : effect.Reply} {id operation : UUID} {view : View}

theorem View.Does.supersedes
    {after : View}
    (does : view.Does thread effect reply after)
    (supersedes : Supersedes id (.performed thread effect reply)) :
    ∃ fresh, fresh ∉ view.issued ∧ after.operation id = some fresh := by
  have updated : ∀ (fresh : UUID), update view.operation id (some fresh) id = some fresh :=
    fun fresh => update_self _ _ _
  obtain ⟨other, ⟨operation, starts | starts⟩ | ⟨email, starts⟩ | starts⟩ := supersedes
  · cases starts
    cases does with
    | passive _ _ passive => cases passive
    | beginRefresh _ _ status usage registered idle stays unused =>
      exact ⟨operation, unused, updated operation⟩
  · cases starts
    cases does with
    | passive _ _ passive => cases passive
    | beginUsage _ _ usage registered loggedIn stays unused =>
      exact ⟨operation, unused, updated operation⟩
  · cases starts
    cases does with
    | passive _ _ passive => cases passive
    | beginReauthentication _ fresh _ registered inactive stays unused =>
      exact ⟨fresh, unused, updated fresh⟩
  · cases starts
    cases does with
    | passive _ _ passive => cases passive
    | beginRemove _ fresh stays idle unused => exact ⟨fresh, unused, updated fresh⟩

variable {after : Model settings}

theorem Begun.perform
    (begun : Begun trace view holder id operation)
    (created : operation ∈ view.issued)
    (does : view.Does thread effect reply after.view) :
    Begun (trace ++ [⟨.performed thread effect reply, after⟩]) after.view
      holder id operation := by
  obtain ⟨earlier, start, between, rfl, starts, stale⟩ := begun
  refine ⟨earlier, start,
    between ++ [⟨.performed thread effect reply, after⟩], by simp, starts, ?_⟩
  rintro ⟨other, member, supersedes⟩ last
  rcases mem_append.mp member with member | member
  · exact stale ⟨other, member, supersedes⟩ (does.last_operation created last)
  · obtain rfl := mem_singleton.mp member
    obtain ⟨fresh, unused, newest⟩ := does.supersedes supersedes
    rw [last] at newest
    cases newest
    exact unused created

theorem Begun.still
    {model : Model settings}
    (begun : Begun trace view holder id operation)
    (silent : ∀ thread effect reply, event ≠ .performed thread effect reply) :
    Begun (trace ++ [⟨event, model⟩]) view holder id operation := by
  obtain ⟨earlier, start, between, rfl, starts, stale⟩ := begun
  refine ⟨earlier, start, between ++ [⟨event, model⟩], by simp, starts, ?_⟩
  rintro ⟨other, member, supersedes⟩
  rcases mem_append.mp member with member | member
  · exact stale ⟨other, member, supersedes⟩
  · obtain rfl := mem_singleton.mp member
    obtain ⟨thread, ⟨_, happened | happened⟩ | ⟨_, happened⟩ | happened⟩ :=
      supersedes <;>
    exact absurd happened (silent _ _ _)

theorem Recorded.nextBegun
    (recorded : Recorded trace parties)
    (known : parties.stages thread = some stage)
    (does : parties.world.view.Does thread effect reply after.view)
    (reading :
      Stage.nextReading stage.reading effect reply = some (id, operation)) :
    Begun (trace ++ [⟨.performed thread effect reply, after⟩]) after.view
      thread id operation := by
  have old : stage.reading = some (id, operation) →
      Begun (trace ++ [⟨.performed thread effect reply, after⟩]) after.view
        thread id operation := fun reads =>
    (recorded.begun thread stage id operation known reads).perform
      ((recorded.fits thread stage known).created id operation reads) does
  cases effect with
  | beginRefresh other =>
    cases reply with
    | none => exact old reading
    | some fresh =>
      cases reading
      exact ⟨trace, _, [], rfl, .inl rfl, by simp⟩
  | beginUsage other =>
    cases reply with
    | none => exact old reading
    | some fresh =>
      cases reading
      exact ⟨trace, _, [], rfl, .inr rfl, by simp⟩
  | applyIdentity | applyUsage => cases reading
  | _ => exact old reading

theorem View.Does.stays
    {after : View}
    (does : view.Does thread (.beginRemove id) true after) :
    id ∉ view.removing := by
  cases does with
  | passive _ _ passive => cases passive
  | beginRemove _ operation stays => exact stays

theorem Recorded.nextAlone
    {watcher : Stage}
    (recorded : Recorded trace parties)
    (known : parties.stages thread = some stage)
    (does : parties.world.view.Does thread effect reply after.view)
    (present : parties.stages holder = some watcher)
    (watches : watcher.removing = some id)
    (removes : Stage.nextRemoving stage.removing effect reply = some id) :
    holder = thread := by
  have old : stage.removing = some id → holder = thread := fun removes =>
    recorded.alone present known watches removes
  cases effect with
  | beginRemove other =>
    cases reply with
    | false => exact old removes
    | true =>
      cases removes
      exact absurd ((recorded.fits holder watcher present).removing id watches) does.stays
  | completeRemove => cases removes
  | _ => exact old removes

theorem recorded_start
    (files : Files)
    (file : Option settings.codec.Bytes)
    (lastUsed : UUID → AccountLastUsedStatus) :
    Recorded []
      (⟨Model.start settings files file lastUsed, fun _ => none⟩ :
        Parties manners (Model settings)) := by
  obtain ⟨noStatus, noUsage, used, inactive, idle, issued⟩ :=
    Model.view_start files file lastUsed
  refine ⟨⟨?_, ?_, used, ?_, ?_⟩, nofun, nofun, nofun⟩
  · intro id shown
    rw [noStatus] at shown
    exact absurd rfl shown
  · intro id shown
    rw [noUsage] at shown
    exact absurd rfl shown
  · rw [inactive, idle]
    rfl
  · intro id member
    rw [issued]
    exact member

theorem Recorded.still
    (recorded : Recorded trace parties)
    (silent : ∀ thread effect reply, event ≠ .performed thread effect reply)
    {stages : Nat → Option Stage}
    (known : ∀ thread (stage : Stage), stages thread = some stage →
      parties.stages thread = some stage ∨ stage = Stage.start) :
    Recorded (trace ++ [⟨event, parties.world⟩]) ⟨parties.world, stages⟩ where
  sound := recorded.sound
  fits thread stage present := by
    rcases known thread stage present with present | rfl
    · exact recorded.fits thread stage present
    · exact ⟨nofun, nofun, trivial, nofun⟩
  alone {first second one two id} left right removesOne removesTwo := by
    rcases known first one left with left | rfl
    · rcases known second two right with right | rfl
      · exact recorded.alone left right removesOne removesTwo
      · cases removesTwo
    · cases removesOne
  begun thread stage id operation present reading := by
    rcases known thread stage present with present | rfl
    · exact (recorded.begun thread stage id operation present reading).still silent
    · cases reading

theorem Recorded.perform
    (recorded : Recorded trace parties)
    (known : parties.stages thread = some stage)
    (allowed : stage.Allows effect)
    (does : parties.world.view.Does thread effect reply after.view) :
    Recorded (trace ++ [⟨.performed thread effect reply, after⟩]) ⟨after,
        update parties.stages thread (some (stage.next effect reply))⟩ := by
  have fits := recorded.fits thread stage known
  refine ⟨fits.sound recorded.sound allowed does, ?_, ?_, ?_⟩
  · intro other watcher present
    rcases update_cases present with ⟨rfl, same⟩ | ⟨different, present⟩
    · cases same
      exact fits.next recorded.sound allowed does
    · refine (recorded.fits other watcher present).elsewhere fits recorded.sound
        allowed does different fun id watches removes => ?_
      exact different (recorded.alone present known watches removes)
  · intro first second one two id left right removesOne removesTwo
    rcases update_cases left with ⟨rfl, same⟩ | ⟨-, before⟩
    · cases same
      rcases update_cases right with ⟨rfl, -⟩ | ⟨-, right⟩
      · rfl
      · exact (recorded.nextAlone known does right removesTwo removesOne).symm
    · rcases update_cases right with ⟨rfl, same⟩ | ⟨-, right⟩
      · cases same
        exact recorded.nextAlone known does before removesOne removesTwo
      · exact recorded.alone before right removesOne removesTwo
  · intro other watcher id operation present reading
    rcases update_cases present with ⟨rfl, same⟩ | ⟨-, present⟩
    · cases same
      exact recorded.nextBegun known does reading
    · exact (recorded.begun other watcher id operation present reading).perform
        ((recorded.fits other watcher present).created id operation reading) does

theorem Recorded.step
    (recorded : Recorded trace parties)
    (taken : Protocol.Step (machine settings) manners
      (fun _ => Stage.start) parties event next) :
    Recorded (trace ++ [⟨event, next.world⟩]) next := by
  have origin := fun thread stage (present : next.stages thread = some stage) =>
    taken.stage_cases present
  cases taken with
  | perform thread known allowed admitted executed =>
    obtain ⟨environment, acts⟩ := executed
    exact recorded.perform known allowed (does_of_act acts)
  | drift drifts => cases drifts
  | restart resets => cases resets
  | _ =>
    refine recorded.still (fun _ _ _ same => by cases same) fun thread stage present => ?_
    rcases origin thread stage present with ⟨-, -, rfl⟩ | ⟨_, _, _, ⟨⟩, -⟩ | ⟨present, -⟩
    · exact .inr rfl
    · exact .inl present

variable {files : Files} {file : Option settings.codec.Bytes}
variable {lastUsed : UUID → AccountLastUsedStatus}

theorem recorded_of_run
    (run : Protocol.Run (machine settings) manners (fun _ =>
        Stage.start) (Model.start settings files file lastUsed) trace parties) :
    Recorded trace parties :=
  run.record Recorded (recorded_start files file lastUsed) fun recorded taken =>
    recorded.step taken

/-- A result that was superseded changes nothing. -/
theorem stale_of_recorded
    {environment : Environment}
    (stale : parties.world.operation id ≠ some operation)
    (reports : Reports holder id operation (.performed thread effect reply))
    (acts : parties.world.act environment thread effect = some (reply, after)) :
    after = parties.world := by
  rcases reports with ⟨outcome, applied, happened⟩ | ⟨outcome, happened⟩
  · cases happened
    simp only [Model.act, if_neg stale, Option.some.injEq] at acts
    cases acts
    rfl
  · cases happened
    simp only [Model.act, if_neg stale, Option.some.injEq] at acts
    cases acts
    rfl

theorem Stage.Allows.reading
    (allowed : stage.Allows effect)
    (reports : Reports holder id operation (.performed thread effect reply)) :
    holder = thread ∧ stage.reading = some (id, operation) := by
  rcases reports with ⟨outcome, applied, happened⟩ | ⟨outcome, happened⟩
  · cases happened
    exact ⟨rfl, allowed⟩
  · cases happened
    exact ⟨rfl, allowed⟩

theorem reports_of_run
    (run : Protocol.Run (machine settings) manners
      (fun _ => Stage.start) (Model.start settings files file lastUsed)
      (earlier ++ moment :: later) parties)
    (reports : Reports holder id operation moment.event) :
    ∃ before start between, earlier = before ++ start :: between ∧
      Starts holder id operation start.event ∧
      ((∃ other ∈ between, Supersedes id other.event) → moment.world =
          worldAfter (Model.start settings files file lastUsed) earlier) := by
  obtain ⟨before, after, run, taken, same⟩ := run.at
  have recorded := recorded_of_run run
  generalize happened : moment.event = event at taken reports
  cases taken with
  | perform thread known allowed admitted executed =>
    obtain ⟨environment, acts⟩ := executed
    obtain ⟨rfl, reading⟩ := Stage.Allows.reading allowed reports
    obtain ⟨first, start, between, split, starts, stale⟩ :=
      recorded.begun _ _ id operation known reading
    refine ⟨first, start, between, split, starts, fun superseded => ?_⟩
    rw [same, ← run.world_eq]
    exact stale_of_recorded (stale superseded) reports acts
  | drift drifts => cases drifts
  | restart resets => cases resets
  | _ =>
    rcases reports with ⟨outcome, applied, other⟩ | ⟨outcome, other⟩ <;>
    cases other

/-- An account was removed and is not registered again. -/
structure Gone (id : UUID) (parties : Parties manners (Model settings)) :
    Prop where
  created : id ∈ parties.world.view.issued
  missing : id ∉ parties.world.view.ids
  unclaimed : ∀ thread (stage : Stage), parties.stages thread = some stage →
    stage.session ≠ .adding id

theorem View.Does.adding
    {after : View}
    {session : Session}
    (does : view.Does thread effect reply after)
    (created : id ∈ view.issued)
    (adds : Stage.nextSession session effect reply = .adding id) :
    session = .adding id := by
  cases does with
  | passive _ _ passive =>
    rw [nextSession_passive session passive] at adds
    exact adds
  | newAccount fresh unused =>
    cases adds
    exact absurd created unused
  | beginRefresh | applyIdentity | beginUsage | applyUsage | beginRemove | abandonRemove
  | completeRemove | refreshLastUsed => exact adds
  | _ => cases adds

theorem View.Does.missing
    {after : View}
    (does : view.Does thread effect reply after)
    (allowed : stage.Allows effect)
    (missing : id ∉ view.ids)
    (unclaimed : stage.session ≠ .adding id) :
    id ∉ after.ids := by
  cases does with
  | completeAdd other identity =>
    intro member
    rcases mem_append.mp member with member | member
    · exact missing member
    · obtain rfl := mem_singleton.mp member
      exact unclaimed allowed
  | completeRemove other outcome => exact fun member => missing (mem_of_mem_filter member)
  | _ => exact missing

/-- An account that was removed stays so. -/
theorem Gone.step
    (gone : Gone id parties)
    (taken : Protocol.Step (machine settings) manners
      (fun _ => Stage.start) parties event next) :
    Gone id next := by
  have origin := fun thread stage (present : next.stages thread = some stage) =>
    taken.stage_cases present
  cases taken with
  | perform thread known allowed admitted executed =>
    obtain ⟨environment, acts⟩ := executed
    have does := does_of_act acts
    refine ⟨does.issued gone.created,
      does.missing allowed gone.missing (gone.unclaimed thread _ known), ?_⟩
    intro other watcher present
    rcases update_cases present with ⟨rfl, same⟩ | ⟨-, present⟩
    · cases same
      exact fun adds => gone.unclaimed _ _ known (does.adding gone.created adds)
    · exact gone.unclaimed other watcher present
  | drift drifts => cases drifts
  | restart resets => cases resets
  | _ =>
    refine ⟨gone.created, gone.missing, fun thread stage present => ?_⟩
    rcases origin thread stage present with ⟨-, -, rfl⟩ | ⟨_, _, _, ⟨⟩, -⟩ | ⟨present, -⟩
    · nofun
    · exact gone.unclaimed thread stage present

theorem gone_of_removed
    {outcome : Except SettingsError CommandResult}
    (recorded : Recorded trace parties)
    (taken : Protocol.Step (machine settings) manners
      (fun _ : Call => Stage.start) parties
      (.performed thread (.completeRemove id outcome) ()) next)
    (registered : id ∈ parties.world.ids)
    (removed : id ∉ next.world.ids) :
    Gone id next := by
  cases taken with
  | perform _ known allowed admitted executed =>
    obtain ⟨environment, acts⟩ := executed
    have does := does_of_act acts
    refine ⟨does.issued (recorded.sound.known id registered), removed, ?_⟩
    intro other watcher present adds
    have before : ∃ stage : Stage, parties.stages other = some stage ∧
        stage.session = .adding id := by
      rcases update_cases present with ⟨rfl, same⟩ | ⟨-, present⟩
      · cases same
        exact ⟨_, known, adds⟩
      · exact ⟨watcher, present, adds⟩
    obtain ⟨stage, present, adds⟩ := before
    have session := (recorded.fits other stage present).session
    rw [adds] at session
    exact session.2.2 registered

end Runs

end TurnrailViewModel

open TurnrailViewModel in
/-- Only registered accounts are shown.  A result of a refresh is applied only if
no refresh, login or removal of the account started since the refresh did.  An
account that was removed is not registered or shown again. -/
theorem stale_results_never_resurface
    {settings : Settings}
    {files : Files}
    {file : Option settings.codec.Bytes}
    {lastUsed : UUID → AccountLastUsedStatus}
    {trace : List (Moment TurnrailViewModel.operations Call (Model settings))}
    {pool : Pool TurnrailViewModel.operations Call (Model settings)}
    (run : Run settings (Model.start settings files file lastUsed) trace pool) :
    (∀ id, pool.world.authStatus id ≠ none ∨ pool.world.usageStatus id ≠ none ∨
      pool.world.lastUsed id ≠ none → id ∈ pool.world.ids) ∧
      (∀ earlier moment later thread id operation,
        trace = earlier ++ moment :: later →
        Reports thread id operation moment.event →
        ∃ before start between, earlier = before ++ start :: between ∧
          Starts thread id operation start.event ∧
          ((∃ other ∈ between, Supersedes id other.event) →
            moment.world =
              worldAfter (Model.start settings files file lastUsed) earlier)) ∧
      (∀ earlier moment later thread id outcome,
        trace = earlier ++ moment :: later →
        moment.event = .performed thread (.completeRemove id outcome) () →
        id ∈ (worldAfter
          (Model.start settings files file lastUsed) earlier).ids →
        id ∉ moment.world.ids →
        ∀ other ∈ moment :: later, id ∉ other.world.ids ∧
          other.world.authStatus id = none ∧
          other.world.usageStatus id = none ∧
          other.world.lastUsed id = none) := by
  obtain ⟨stages, -, followed⟩ :=
    run.refines (TurnrailViewModel.certificate settings) fun _ _ _ _ => trivial
  have recorded := recorded_of_run followed
  refine ⟨?_, ?_, ?_⟩
  · rintro id (shown | shown | shown)
    · exact recorded.sound.authStatus id shown
    · exact recorded.sound.usageStatus id shown
    · exact recorded.sound.lastUsed id shown
  · rintro earlier moment later thread id operation rfl reports
    exact reports_of_run followed reports
  · rintro earlier moment later thread id outcome rfl happened registered removed other member
    obtain ⟨before, after, ran, taken, world, onward⟩ := followed.onward
    rw [happened] at taken
    rw [← ran.world_eq] at registered
    rw [world] at removed
    have before := recorded_of_run ran
    have established : Gone id after ∧ after.world.view.Sound :=
      ⟨gone_of_removed before taken registered removed, (before.step taken).sound⟩
    obtain ⟨-, passed⟩ := onward
      (fun parties => Gone id parties ∧ parties.world.view.Sound) established
      fun ran _ taken holds => ⟨holds.1.step taken, ((recorded_of_run ran).step taken).sound⟩
    obtain ⟨reached, ⟨gone, sound⟩, same⟩ := passed other member
    rw [same]
    exact ⟨gone.missing, not_not.mp fun shown => gone.missing (sound.authStatus id shown),
      not_not.mp fun shown => gone.missing (sound.usageStatus id shown),
      not_not.mp fun shown => gone.missing (sound.lastUsed id shown)⟩

namespace TurnrailViewModel.Rehearsal

/-- Settings for a trial. -/
def settings : Settings where
  texts := .plain
  wording := ⟨fun _ => "", "", "", ""⟩
  codec := .plain
  storeError := none

/-- A registry with one account. -/
def file : AccountRegistryState :=
  ⟨3, 1, [⟨⟨1⟩, "user@example.com", .plus⟩], ⟨[⟨1⟩], []⟩⟩

/-- A model of this registry. -/
def opened : Model settings :=
  Model.start settings ⟨true, true, true⟩ (some file) fun _ => .neverUsed

/-- The answers of the platform. -/
def answer : (effect : Effect) → effect.Reply
  | .readIdentity _ => .ok (some ⟨"user@example.com", .plus⟩)
  | .readUsage _ => .ok ⟨[], none⟩
  | .login _ _ | .logout _ => .ok ⟨0, "", ""⟩
  | .checkCancellation | .authenticationCommand _ _ | .removeAuthHome _
  | .completeAdd _ _ | .completeReauthentication _ _ => .ok ()
  | .beginRefresh _ | .beginUsage _ => none
  | .newAccount => ⟨0⟩
  | .applyIdentity _ _ _ | .beginAdd | .failReauthentication _ _
  | .beginRemove _ => false
  | .beginReauthentication _ => none
  | .applyUsage _ _ _ | .finishAdd | .failAdd _ _ | .finishLogin
  | .cancelSignIn | .completeRemove _ _ | .refreshLastUsed
  | .updateRouting _ => ()

/-- A platform that grants what it is asked for. -/
def host (fresh : Nat) : Environment :=
  ⟨⟨true, true, true⟩, ⟨fresh⟩, .ok (), fun _ => .neverUsed, answer⟩

/-- An account is removed while its identity is read. -/
def removal : List (Command Environment Call) :=
  [.spawn 0 (.refreshAuthStatus ⟨1⟩), .run 0 (host 2), .run 0 (host 3),
    .spawn 1 (.remove ⟨1⟩), .run 1 (host 3), .run 1 (host 4),
    .run 1 (host 4), .run 0 (host 4)]

/-- The account is removed. -/
def removing : Goal (Moment TurnrailViewModel.operations Call (Model settings)) where
  wanted moment :=
    match moment.event with
    | .performed _ (.beginRemove id) true => decide (id = ⟨1⟩)
    | _ => false

/-- The identity is reported. -/
def reporting : Goal (Moment TurnrailViewModel.operations Call (Model settings)) where
  wanted moment :=
    match moment.event with
    | .performed _ (.applyIdentity id _ _) _ => decide (id = ⟨1⟩ ∧ id ∉ moment.world.ids)
    | _ => false

variable {moment : Moment TurnrailViewModel.operations Call (Model settings)}

theorem removing_wanted (wanted : removing.wanted moment = true) :
    Supersedes ⟨1⟩ moment.event := by
  simp only [removing] at wanted
  split at wanted
  · rename_i thread id happened
    obtain rfl := of_decide_eq_true wanted
    exact ⟨thread, .inr (.inr happened)⟩
  · cases wanted

theorem reporting_wanted (wanted : reporting.wanted moment = true) :
    ∃ thread operation, Reports thread ⟨1⟩ operation moment.event ∧
      (⟨1⟩ : UUID) ∉ moment.world.ids := by
  simp only [reporting] at wanted
  split at wanted
  · rename_i thread id operation outcome reply happened
    obtain ⟨rfl, missing⟩ := of_decide_eq_true wanted
    exact ⟨thread, operation, .inl ⟨outcome, reply, happened⟩, missing⟩
  · cases wanted

theorem run
    (script : List (Command Environment Call))
    (goals :
      List (Goal (Moment TurnrailViewModel.operations Call (Model settings))))
    (passes : ((Pool.idle opened).simulate
        (execution settings) (code settings) script).any (fun result =>
        visits goals (fun _ => true) result.1) = true) :
    ∃ trace pool, Run settings opened trace pool ∧
      visits goals (fun _ => true) trace = true :=
  Pool.rehearse (execution settings) script (visits goals fun _ => true) passes

end TurnrailViewModel.Rehearsal

open TurnrailViewModel in
/-- An identity that arrives after its account was removed changes nothing. -/
theorem identity_after_removal_changes_nothing :
    ∃ trace pool, Run TurnrailViewModel.Rehearsal.settings
        TurnrailViewModel.Rehearsal.opened trace pool ∧
      ∃ earlier report later thread operation,
        trace = earlier ++ report :: later ∧
        Reports thread ⟨1⟩ operation report.event ∧
        (∃ removal ∈ earlier, Supersedes ⟨1⟩ removal.event) ∧
        (⟨1⟩ : UUID) ∉ report.world.ids ∧
        ∃ before start between, earlier = before ++ start :: between ∧
          Starts thread ⟨1⟩ operation start.event ∧
          ((∃ other ∈ between, Supersedes ⟨1⟩ other.event) →
            report.world =
              worldAfter TurnrailViewModel.Rehearsal.opened earlier) := by
  obtain ⟨trace, pool, run, visited⟩ :=
    TurnrailViewModel.Rehearsal.run TurnrailViewModel.Rehearsal.removal
      [TurnrailViewModel.Rehearsal.removing,
        TurnrailViewModel.Rehearsal.reporting] (by decide +kernel)
  obtain ⟨before, removal, rest, rfl, -, removes, visited⟩ := split_of_visits visited
  obtain ⟨between, report, later, rfl, -, reports, -⟩ := split_of_visits visited
  obtain ⟨thread, operation, reports, missing⟩ :=
    TurnrailViewModel.Rehearsal.reporting_wanted reports
  obtain ⟨-, stale, -⟩ := stale_results_never_resurface run
  exact ⟨_, pool, run, before ++ removal :: between, report, later, thread,
    operation, by simp, reports,
    ⟨removal, by simp, TurnrailViewModel.Rehearsal.removing_wanted removes⟩, missing,
    stale (before ++ removal :: between) report later thread ⟨1⟩ operation (by simp) reports⟩

end Turnrail
