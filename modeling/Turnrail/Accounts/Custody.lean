import Turnrail.Accounts.Inspection

/-!
# How calls handle credentials

The protocol of the calls.  A credential is compared with what is kept about its
account before it is kept itself, and both happen under the recursive lock.  A
call returns only what was kept at some time, and the account of a bound turn is
only returned with a credential that was seen to be valid.
-/

namespace Turnrail

open Interleaving Routine.Follows

namespace RouterAccounts

variable (accounts : RouterAccounts)

/-- How far a call has come with a new credential. -/
structure Standing where
  inspecting : Bool
  fresh : Option (TurnrailAccount × RouterCredential)
  compared : Bool

/-- A credential belongs to the workspace that is kept. -/
def agrees (account : TurnrailAccount) (credential : RouterCredential) :
    Option Snapshot → Bool
  | none => true
  | some saved =>
    accounts.texts.same saved.account.email account.email &&
      accounts.texts.same saved.credential.accountID credential.accountID

namespace Standing

/-- Nothing is known about the account. -/
def start : Standing := ⟨false, none, false⟩

/-- Give a new credential up. -/
def dropped (standing : Standing) : Standing :=
  ⟨standing.inspecting, none, false⟩

/-- Compare a new credential with what is kept about an account. -/
def compare (standing : Standing) (id : UUID) (saved : Option Snapshot) :
    Standing :=
  { standing with
    compared := standing.fresh.any fun fresh =>
      fresh.1.id == id && accounts.agrees fresh.1 fresh.2 saved }

/-- What is known after an effect. -/
def next (standing : Standing) : (effect : Effect) → effect.Reply → Standing
  | .cached _, _ => ⟨true, none, false⟩
  | .binding _, _ => ⟨false, none, false⟩
  | .authenticate account _, .ok credential =>
    ⟨standing.inspecting, some (account, credential), false⟩
  | .authenticate _ _, .error _ => standing.dropped
  | .saved id, saved => standing.compare accounts id saved
  | .release, _ | .reject _, _ | .commit _, _ | .renew _ _, _ => standing.dropped
  | _, _ => standing

end Standing

/-- An effect with its reply. -/
abbrev Entry := (effect : Effect) × effect.Reply

/-- The snapshot an effect read or kept. -/
def Entry.shows : Entry → Option Snapshot
  | ⟨.cached _, reply⟩ => reply
  | ⟨.binding _, .ok reply⟩ => reply
  | ⟨.commit snapshot, _⟩ => some snapshot
  | ⟨.renew _ snapshot, _⟩ => some snapshot
  | _ => none

/-- A snapshot was kept at some time during a call. -/
def Shown (journal : List Entry) (snapshot : Snapshot) : Prop :=
  ∃ entry ∈ journal, entry.shows = some snapshot

/-- A call saw that a credential is valid: it lives for more than a minute, or
it is new and not expired. -/
def Valid (journal : List Entry) (credential : RouterCredential) : Prop :=
  (∃ reading : Rat, ⟨.now, reading⟩ ∈ journal ∧ credential.expiresAt - reading > 60) ∨
  (∃ account timestamp, ⟨.authenticate account timestamp, .ok credential⟩ ∈ journal) ∧
    ∃ reading : Rat, ⟨.now, reading⟩ ∈ journal ∧ credential.expiresAt > reading

/-- A bound turn may use a snapshot of the account that the registry lists. -/
def Serves (journal : List Entry) (id : UUID) (snapshot : Snapshot) : Prop :=
  ∃ state account saved, ⟨.registry, .ok state⟩ ∈ journal ∧
    registered state id = some account ∧
      ⟨.binding account, .ok saved⟩ ∈ journal ∧ snapshot.account.id = id ∧
      Valid journal snapshot.credential

/-- Where a call stands. -/
structure Stage where
  call : Call
  depth : Nat
  standing : Standing
  journal : List Entry

namespace Stage

/-- The number of times the lock is held after an effect. -/
def nextDepth (depth : Nat) : Effect → Nat
  | .acquire => depth + 1
  | .release => depth - 1
  | _ => depth

/-- The stage after an effect. -/
def next (stage : Stage) (effect : Effect) (reply : effect.Reply) : Stage where
  call := stage.call
  depth := nextDepth stage.depth effect
  standing := stage.standing.next accounts effect reply
  journal := ⟨effect, reply⟩ :: stage.journal

/-- The effects a call may perform at a stage. -/
def Allows (stage : Stage) : Effect → Prop
  | .authenticate _ _ | .saved _ | .release => 0 < stage.depth
  | .commit snapshot =>
    0 < stage.depth ∧ stage.standing =
        ⟨true, some (snapshot.account, snapshot.credential), true⟩
  | .renew id snapshot =>
    0 < stage.depth ∧ id = snapshot.account.id ∧ stage.standing =
        ⟨false, some (snapshot.account, snapshot.credential), true⟩
  | .finish (.ok (.snapshot snapshot)) =>
    Shown stage.journal snapshot ∧ ∀ id, stage.call = .bound id →
      Serves stage.journal id snapshot
  | _ => True

/-- The replies that are relied upon. -/
def Admits : (effect : Effect) → effect.Reply → Prop
  | .cached id, reply => ∀ saved, reply = some saved → saved.account.id = id
  | .binding account, reply =>
    ∀ saved, reply = .ok (some saved) → saved.account.id = account.id
  | _, _ => True

end Stage

/-- The protocol of the calls. -/
@[reducible] def custody : Protocol calls where
  Stage := Stage
  allows := Stage.Allows
  admits _ := Stage.Admits
  next := Stage.next accounts

/-- An inquiry that follows the protocol. -/
abbrev Keeps (inquiry : Inquiry α) (time : Rat) (stage : Stage)
    (post : Except AccountFailure α → Rat → Stage → Prop) : Prop :=
  Routine.Follows accounts.custody inquiry time stage post

/-- A later stage of the same call that holds the lock as many times. -/
structure Stage.Extends (stage reached : Stage) : Prop where
  call : reached.call = stage.call
  depth : reached.depth = stage.depth
  journal : stage.journal ⊆ reached.journal

theorem Stage.Extends.refl (stage : Stage) : stage.Extends stage :=
  ⟨rfl, rfl, List.Subset.refl _⟩

theorem Stage.Extends.trans
    {first second third : Stage}
    (left : first.Extends second)
    (right : second.Extends third) :
    first.Extends third :=
  ⟨right.call.trans left.call, right.depth.trans left.depth,
    List.Subset.trans left.journal right.journal⟩

theorem Stage.Extends.next
    {base stage : Stage}
    (onward : base.Extends stage)
    (accounts : RouterAccounts)
    (effect : Effect)
    (reply : effect.Reply)
    (other : nextDepth stage.depth effect = stage.depth) :
    base.Extends (stage.next accounts effect reply) :=
  onward.trans ⟨rfl, other, List.subset_cons_self _ _⟩

variable {journal longer : List Entry} {snapshot : Snapshot}

theorem Shown.mono
    (shown : Shown journal snapshot)
    (grows : journal ⊆ longer) :
    Shown longer snapshot := by
  obtain ⟨entry, member, shows⟩ := shown
  exact ⟨entry, grows member, shows⟩

variable {credential : RouterCredential}

theorem Valid.mono
    (valid : Valid journal credential)
    (grows : journal ⊆ longer) :
    Valid longer credential := by
  obtain ⟨reading, read, lasts⟩
    | ⟨⟨account, timestamp, granted⟩, reading, read, lasts⟩ := valid
  · exact .inl ⟨reading, grows read, lasts⟩
  · exact .inr ⟨⟨account, timestamp, grows granted⟩, reading, grows read, lasts⟩

section Rules

variable {accounts : RouterAccounts} {time : Rat} {stage : Stage}

variable {post : Except AccountFailure β → Rat → Stage → Prop}

theorem keeps_perform
    {effect : Effect}
    {rest : effect.Reply → Inquiry β}
    (allowed : stage.Allows effect)
    (replied : ∀ reply, Stage.Admits effect reply →
      accounts.Keeps (rest reply) time (stage.next accounts effect reply)
        post) :
    accounts.Keeps (Inquiry.perform effect >>= rest) time stage post :=
  perform allowed replied

variable {outcome : Except AccountFailure α} {rest : α → Inquiry β}

theorem keeps_pass
    (failed : ∀ error, outcome = .error error → post (.error error) time stage)
    (passed : ∀ value, outcome = .ok value →
      accounts.Keeps (rest value) time stage post) :
    accounts.Keeps (Inquiry.pass outcome >>= rest) time stage post :=
  ofExcept failed passed

theorem keeps_check
    {outcome : Except RouterFailure α}
    (failed : ∀ error, post (.error error) time stage)
    (passed : ∀ value, outcome = .ok value →
      accounts.Keeps (rest value) time stage post) :
    accounts.Keeps (Inquiry.check outcome >>= rest) time stage post :=
  ofExcept (fun error _ => failed error) fun value checked =>
    passed value (mapError_eq_ok.mp checked)

variable {post : Except AccountFailure α → Rat → Stage → Prop}

theorem keeps_throw
    {error : AccountFailure}
    (holds : post (.error error) time stage) :
    accounts.Keeps (throw error : Inquiry α) time stage post := holds

theorem keeps_pure
    {value : α}
    (holds : post (.ok value) time stage) :
    accounts.Keeps (pure value : Inquiry α) time stage post := holds

theorem keeps_pass_last (holds : post outcome time stage) :
    accounts.Keeps (Inquiry.pass outcome) time stage post := by
  cases outcome <;> exact holds

theorem keeps_withLock
    {inquiry : Inquiry α}
    (inside : accounts.Keeps inquiry time (stage.next accounts .acquire ())
      fun outcome reached current => current.Allows .release ∧
        post outcome reached (current.next accounts .release ())) :
    accounts.Keeps (Inquiry.withLock inquiry) time stage post := by
  refine keeps_perform trivial fun _ _ => ?_
  refine attempt inside ?_
  rintro outcome reached current ⟨held, holds⟩
  exact keeps_perform held fun _ _ => keeps_pass_last holds

end Rules

/-- A credential was granted during the call, can be kept, and is not expired. -/
structure Granted (account : TurnrailAccount) (inspecting : Bool)
    (stage : Stage) (credential : RouterCredential) : Prop where
  standing : stage.standing = ⟨inspecting, some (account, credential), true⟩
  valid : Valid stage.journal credential

/-- A part of a call goes on, and what it returns is known. -/
def Onward (stage : Stage) (known : α → Stage → Prop)
    (outcome : Except AccountFailure α) (_ : Rat) (reached : Stage) : Prop :=
  stage.Extends reached ∧ ∀ value, outcome = .ok value → known value reached

section Inspection

variable {accounts : RouterAccounts} {time : Rat} {stage base : Stage}

variable {known : α → Stage → Prop} {account : TurnrailAccount} {reached : Stage}
variable {inquiry : Inquiry α}

theorem onward_error
    (onward : base.Extends stage)
    (error : AccountFailure) :
    Onward base known (.error error) time stage :=
  ⟨onward, fun _ returned => by cases returned⟩

theorem onward_ok
    {value : α}
    (onward : base.Extends stage)
    (holds : known value stage) :
    Onward base known (.ok value) time stage := by
  refine ⟨onward, fun _ returned => ?_⟩
  cases returned
  exact holds

theorem keeps_reject
    (onward : base.Extends stage)
    (id : UUID)
    (error : AccountFailure) :
    accounts.Keeps
      (do Inquiry.perform (.reject id); throw error : Inquiry α) time stage
      (Onward base known) := by
  refine keeps_perform trivial fun reply _ => keeps_throw ?_
  exact onward_error (onward.next accounts (.reject id) reply rfl) error

theorem granted_of_agrees
    {timestamp reading : Rat}
    {saved : Option Snapshot}
    (agreed : accounts.agrees account credential saved = true)
    (lasts : credential.expiresAt > reading) :
    Granted account stage.standing.inspecting
      (((stage.next accounts (.authenticate account timestamp)
            (.ok credential)).next accounts (.saved account.id) saved).next
        accounts .now reading) credential where
  standing := by simp [Stage.next, Standing.next, Standing.compare, agreed]
  valid := by
    refine .inr ⟨⟨account, timestamp, ?_⟩, reading, ?_, lasts⟩ <;>
      simp [Stage.next]

theorem validatedCredential_keeps
    (account : TurnrailAccount)
    (timestamp : Rat)
    (held : 0 < stage.depth) :
    accounts.Keeps (accounts.validatedCredential account timestamp) time stage
      (Onward stage fun credential reached =>
        Granted account stage.standing.inspecting reached credential) := by
  refine @Routine.Follows.attempt _ _ _ _ _ _ _ _ _ (Onward stage fun credential reached =>
      Granted account stage.standing.inspecting reached credential) _ _ ?_ ?_
  · refine keeps_perform held fun reply _ => ?_
    have granting := (Stage.Extends.refl stage).next accounts
      (.authenticate account timestamp) reply rfl
    refine keeps_pass (fun error _ => onward_error granting error) ?_
    rintro credential rfl
    refine keeps_perform held fun saved _ => ?_
    have comparing := granting.next accounts (.saved account.id) saved rfl
    -- Both ways to agree go on with the check of the expiry.
    have rest (agreed : accounts.agrees account credential saved = true) : accounts.Keeps (do
          let time : Rat ← Inquiry.perform .now
          if credential.expiresAt > time then pure credential
          else throw (.unavailable .loginRequired)) time
          ((stage.next accounts (.authenticate account timestamp)
            (.ok credential)).next accounts (.saved account.id) saved)
          (Onward stage fun credential reached =>
            Granted account stage.standing.inspecting reached credential) := by
      refine keeps_perform trivial fun reading _ => ?_
      have onward := comparing.next accounts .now reading rfl
      split
      · rename_i lasts
        exact keeps_pure (onward_ok onward (granted_of_agrees agreed lasts))
      · exact keeps_throw (onward_error onward _)
    cases saved with
    | none => exact rest rfl
    | some saved =>
      dsimp only
      split
      · rename_i agreed
        exact rest agreed
      · exact keeps_throw (onward_error comparing _)
  · rintro outcome reached current ⟨onward, known⟩
    split
    · rename_i credential
      exact keeps_pure (onward_ok onward (known credential rfl))
    · exact keeps_reject onward _ _
    · exact keeps_reject onward _ _
    · exact keeps_throw (onward_error onward _)

theorem validatedModels_keeps (credential : RouterCredential) :
    accounts.Keeps (accounts.validatedModels credential) time stage
      (Onward stage fun _ reached => reached.standing = stage.standing) := by
  refine keeps_perform trivial fun reply _ => ?_
  have onward := (Stage.Extends.refl stage).next accounts (.get credential) reply rfl
  refine keeps_pass (fun error _ => onward_error onward error) ?_
  intro response _
  refine keeps_check (fun error => onward_error onward error) ?_
  intro models _
  refine keeps_check (fun error => onward_error onward error) ?_
  intro _ _
  split
  · exact keeps_throw (onward_error onward _)
  · refine keeps_perform trivial fun reading _ => ?_
    have onward := onward.next accounts .now reading rfl
    split
    · exact keeps_pure (onward_ok onward rfl)
    · exact keeps_throw (onward_error onward _)

/-- What a call knows about a snapshot it inspected. -/
structure Inspected (account : TurnrailAccount) (snapshot : Snapshot)
    (stage : Stage) : Prop where
  shown : Shown stage.journal snapshot
  identity : snapshot.account.id = account.id
  valid : Valid stage.journal snapshot.credential

theorem inspectLocked_keeps
    (account : TurnrailAccount)
    (held : 0 < stage.depth) :
    accounts.Keeps (accounts.inspectLocked account) time stage
      (Onward stage (Inspected account)) := by
  refine keeps_perform trivial fun timestamp _ => ?_
  have begun := (Stage.Extends.refl stage).next accounts .now timestamp rfl
  refine keeps_perform trivial fun cached own => ?_
  have read := begun.next accounts (.cached account.id) cached rfl
  split
  · rename_i saved fresh
    obtain ⟨rfl, isFresh⟩ := Option.filter_eq_some_iff.mp fresh
    simp only [RouterAccounts.isFresh, Bool.and_eq_true, decide_eq_true_eq] at isFresh
    refine keeps_pure (onward_ok read ⟨?_, own saved rfl, ?_⟩)
    · exact ⟨_, List.mem_cons_self, rfl⟩
    · exact .inl ⟨timestamp, by simp [Stage.next], isFresh.2⟩
  · have still : 0 < ((stage.next accounts .now timestamp).next accounts
        (.cached account.id) cached).depth := held
    refine (validatedCredential_keeps account timestamp still).bind ?_ ?_
    · rintro error reached current ⟨onward, -⟩
      exact onward_error (read.trans onward) error
    · rintro credential reached current ⟨onward, known⟩
      have granted := known credential rfl
      have onward := read.trans onward
      refine (validatedModels_keeps credential).bind ?_ ?_
      · rintro error later last ⟨further, -⟩
        exact onward_error (onward.trans further) error
      · rintro models later last ⟨further, known⟩
        have standing := known models rfl
        have onward := onward.trans further
        refine keeps_perform ⟨?_, ?_⟩ fun reply _ => ?_
        · rw [onward.depth]
          exact held
        · rw [standing, granted.standing]
          rfl
        · refine keeps_pure (onward_ok
            (onward.next accounts (.commit _) reply rfl) ⟨?_, rfl, ?_⟩)
          · exact ⟨_, List.mem_cons_self, rfl⟩
          · exact (granted.valid.mono further.journal).mono (List.subset_cons_self _ _)

theorem Stage.Extends.unlock
    (onward : (stage.next accounts .acquire ()).Extends reached) :
    stage.Extends (reached.next accounts .release ()) := by
  refine ⟨onward.call, ?_, ?_⟩
  · change reached.depth - 1 = stage.depth
    rw [onward.depth]
    rfl
  · exact List.Subset.trans (List.subset_cons_self _ _)
      (List.Subset.trans onward.journal (List.subset_cons_self _ _))

theorem keeps_locked
    (stays : ∀ {value current}, known value current →
      known value (current.next accounts .release ()))
    (inside : ∀ {stage : Stage}, 0 < stage.depth →
      accounts.Keeps inquiry time stage (Onward stage known)) :
    accounts.Keeps (Inquiry.withLock inquiry) time stage
      (Onward stage known) := by
  refine keeps_withLock (mono (inside (Nat.succ_pos stage.depth)) ?_)
  rintro outcome reached current ⟨onward, holds⟩
  refine ⟨?_, onward.unlock, fun value returned => ?_⟩
  · change 0 < current.depth
    rw [onward.depth]
    exact Nat.succ_pos stage.depth
  · exact stays (holds value returned)

theorem Inspected.mono
    (inspected : Inspected account snapshot stage)
    (grows : stage.journal ⊆ reached.journal) :
    Inspected account snapshot reached := by
  exact ⟨inspected.shown.mono grows, inspected.identity, inspected.valid.mono grows⟩

theorem inspect_keeps (account : TurnrailAccount) :
    accounts.Keeps (accounts.inspect account) time stage
      (Onward stage (Inspected account)) := by
  refine keeps_locked (fun inspected =>
    inspected.mono (List.subset_cons_self _ _)) fun held => ?_
  refine attempt (inspectLocked_keeps account held) ?_
  rintro outcome reached current ⟨onward, known⟩
  split
  · exact keeps_reject onward _ _
  · exact keeps_pass_last ⟨onward, known⟩

theorem boundLocked_keeps
    (account : TurnrailAccount)
    (held : 0 < stage.depth) :
    accounts.Keeps (accounts.boundLocked account) time stage
      (Onward stage (Inspected account)) := by
  refine keeps_perform trivial fun reply own => ?_
  have read := (Stage.Extends.refl stage).next accounts (.binding account) reply rfl
  refine keeps_pass (fun error _ => onward_error read error) ?_
  rintro (_ | saved) rfl
  · refine mono (inspect_keeps account) ?_
    rintro outcome reached current ⟨onward, known⟩
    exact ⟨read.trans onward, known⟩
  · refine keeps_perform trivial fun timestamp _ => ?_
    have onward := read.next accounts .now timestamp rfl
    split
    · rename_i lasts
      refine keeps_pure (onward_ok onward ⟨?_, own saved rfl, ?_⟩)
      · exact ⟨⟨.binding account, .ok (some saved)⟩, by simp [Stage.next], rfl⟩
      · exact .inl ⟨timestamp, List.mem_cons_self, of_decide_eq_true lasts⟩
    · have still : 0 < ((stage.next accounts (.binding account)
          (.ok (some saved))).next accounts .now timestamp).depth := held
      refine (validatedCredential_keeps account timestamp still).bind ?_ ?_
      · rintro error reached current ⟨further, -⟩
        exact onward_error (onward.trans further) error
      · rintro credential reached current ⟨further, known⟩
        have granted := known credential rfl
        have onward := onward.trans further
        refine keeps_perform ⟨?_, rfl, granted.standing⟩ fun reply _ => ?_
        · rw [onward.depth]
          exact held
        · refine keeps_pure (onward_ok
            (onward.next accounts (.renew _ _) reply rfl) ⟨?_, rfl, ?_⟩)
          · exact ⟨_, List.mem_cons_self, rfl⟩
          · exact granted.valid.mono (List.subset_cons_self _ _)

/-- What a call knows about the snapshot of a bound account. -/
def Bound (id : UUID) (snapshot : Snapshot) (stage : Stage) : Prop :=
  Shown stage.journal snapshot ∧ Serves stage.journal id snapshot

theorem registered_id
    {state : AccountRegistryState}
    {id : UUID}
    (found : registered state id = some account) :
    account.id = id := by
  unfold registered at found
  have same := List.find?_some found
  exact eq_of_beq same

theorem bound_keeps (id : UUID) :
    accounts.Keeps (accounts.bound id) time stage
      (Onward stage (Bound id)) := by
  refine keeps_perform trivial fun reply _ => ?_
  have listed := (Stage.Extends.refl stage).next accounts .registry reply rfl
  refine keeps_pass (fun error _ => onward_error listed error) ?_
  rintro state rfl
  split
  · exact keeps_throw (onward_error listed _)
  · rename_i account found
    refine keeps_perform trivial fun reply own => ?_
    have read := listed.next accounts (.binding account) reply rfl
    refine keeps_pass (fun error _ => onward_error read error) ?_
    rintro saved rfl
    -- Whatever the rest returns about the account serves the turn.
    have serves {snapshot : Snapshot} {reached : Stage}
        (inspected : Inspected account snapshot reached)
        (further : ((stage.next accounts .registry (.ok state)).next accounts
          (.binding account) (.ok saved)).Extends reached) :
        Bound id snapshot reached := by
      refine ⟨inspected.shown, state, account, saved, ?_, found, ?_, ?_, inspected.valid⟩
      · exact further.journal (by simp [Stage.next])
      · exact further.journal (by simp [Stage.next])
      · rw [inspected.identity, registered_id found]
    have locked (current : Stage)
        (further : ((stage.next accounts .registry (.ok state)).next accounts
          (.binding account) (.ok saved)).Extends current) :
        accounts.Keeps (Inquiry.withLock (accounts.boundLocked account)) time
          current (Onward stage (Bound id)) := by
      refine mono (keeps_locked (fun inspected =>
        Inspected.mono inspected (List.subset_cons_self _ _)) (boundLocked_keeps account)) ?_
      rintro outcome reached last ⟨onward, known⟩
      exact ⟨read.trans (further.trans onward), fun snapshot returned =>
        serves (known snapshot returned) (further.trans onward)⟩
    cases saved with
    | none => exact locked _ (Stage.Extends.refl _)
    | some saved =>
      refine keeps_perform trivial fun reading _ => ?_
      have further := (Stage.Extends.refl ((stage.next accounts .registry
        (.ok state)).next accounts (.binding account)
          (.ok (some saved)))).next accounts .now reading rfl
      split
      · rename_i lasts
        refine keeps_pure (onward_ok (read.trans further)
          (serves ⟨?_, own saved rfl, ?_⟩ further))
        · exact ⟨⟨.binding account, .ok (some saved)⟩, by simp [Stage.next], rfl⟩
        · exact .inl ⟨reading, List.mem_cons_self, of_decide_eq_true lasts⟩
      · exact locked _ further

theorem readBudget_keeps (credential : RouterCredential) :
    accounts.Keeps (readBudget credential) time stage
      (Onward stage fun _ _ => True) := by
  refine get ?_
  split
  · refine keeps_perform trivial fun started _ => ?_
    refine keeps_perform trivial fun outcome _ => ?_
    refine keeps_perform trivial fun ended _ => ?_
    refine modify (keeps_pass_last ⟨?_, fun _ _ => trivial⟩)
    exact (((Stage.Extends.refl stage).next accounts .uptime started rfl).next
      accounts (.readQuota _ _) outcome rfl).next accounts .uptime ended rfl
  · exact keeps_pure (onward_ok (Stage.Extends.refl stage) trivial)

theorem candidate_keeps (account : TurnrailAccount) :
    accounts.Keeps (accounts.candidate account) time stage
      (Onward stage fun result reached => ∀ snapshot, result = some snapshot →
        Shown reached.journal snapshot) := by
  refine (inspect_keeps account).bind ?_ ?_
  · rintro error reached current ⟨onward, -⟩
    exact onward_error onward error
  · rintro snapshot reached current ⟨onward, known⟩
    have shown := (known snapshot rfl).shown
    refine (readBudget_keeps snapshot.credential).bind ?_ ?_
    · rintro error later last ⟨further, -⟩
      exact onward_error (onward.trans further) error
    · rintro availability later last ⟨further, -⟩
      refine keeps_perform trivial fun reading _ => ?_
      have further := further.next accounts .now reading rfl
      have onward := onward.trans further
      split
      · cases availability with
        | available =>
          refine keeps_pure (onward_ok onward ?_)
          rintro _ ⟨⟩
          exact shown.mono further.journal
        | exhausted =>
          refine keeps_pure (onward_ok onward ?_)
          rintro _ ⟨⟩
        | unavailable reason =>
          refine keeps_perform trivial fun reply _ => ?_
          refine keeps_pure (onward_ok (onward.next accounts (.report reason) reply rfl) ?_)
          rintro _ ⟨⟩
          exact shown.mono (further.next accounts (.report reason) reply rfl).journal
      · exact keeps_throw (onward_error onward _)

theorem firstUsable_keeps
    (state : AccountRegistryState)
    (ordered : List UUID) :
    accounts.Keeps (accounts.firstUsable state ordered) time stage
      (Onward stage fun snapshot reached =>
        Shown reached.journal snapshot) := by
  induction ordered generalizing time stage with
  | nil => exact keeps_throw (onward_error (Stage.Extends.refl stage) _)
  | cons id rest ih =>
    -- The next candidate is tried from any later stage.
    have further {time : Rat} {current : Stage} (onward : stage.Extends current) :
        accounts.Keeps (accounts.firstUsable state rest) time current
          (Onward stage fun snapshot reached =>
            Shown reached.journal snapshot) := by
      refine mono ih ?_
      rintro outcome reached last ⟨later, known⟩
      exact ⟨onward.trans later, known⟩
    unfold firstUsable
    split
    · exact keeps_throw (onward_error (Stage.Extends.refl stage) _)
    · rename_i account found
      refine attempt (candidate_keeps account) ?_
      rintro outcome reached current ⟨onward, known⟩
      split
      · rename_i snapshot
        exact keeps_pure (onward_ok onward (known _ rfl snapshot rfl))
      · exact further onward
      · exact keeps_perform trivial fun reply _ =>
          further (onward.next accounts (.reject id) reply rfl)
      · exact further onward
      · exact keeps_throw (onward_error onward _)

theorem select_keeps (cwd : String) :
    accounts.Keeps (accounts.select cwd) time stage
      (Onward stage fun snapshot reached =>
        Shown reached.journal snapshot) := by
  refine keeps_perform trivial fun reply _ => ?_
  have listed := (Stage.Extends.refl stage).next accounts .registry reply rfl
  refine keeps_pass (fun error _ => onward_error listed error) ?_
  rintro state rfl
  refine keeps_perform trivial fun reply _ => ?_
  have ordering := listed.next accounts (.folder cwd state.routing) reply rfl
  refine keeps_pass (fun error _ => onward_error ordering error) ?_
  rintro ordered rfl
  split
  · exact keeps_throw (onward_error ordering _)
  · refine modify (mono (firstUsable_keeps state ordered) ?_)
    rintro outcome reached current ⟨onward, known⟩
    exact ⟨ordering.trans onward, known⟩

theorem availableCatalogs_keeps (assigned : List TurnrailAccount) :
    accounts.Keeps (accounts.availableCatalogs assigned) time stage
      (Onward stage fun _ _ => True) := by
  induction assigned generalizing time stage with
  | nil => exact keeps_pure (onward_ok (Stage.Extends.refl stage) trivial)
  | cons account rest ih =>
    unfold availableCatalogs
    refine attempt (inspect_keeps account) ?_
    rintro outcome reached current ⟨onward, -⟩
    split
    · refine ih.bind ?_ ?_
      · rintro error later last ⟨further, -⟩
        exact onward_error (onward.trans further) error
      · rintro others later last ⟨further, -⟩
        exact keeps_pure (onward_ok (onward.trans further) trivial)
    · refine mono ih ?_
      rintro outcome later last ⟨further, known⟩
      exact ⟨onward.trans further, known⟩
    · exact keeps_throw (onward_error onward _)

theorem commonCatalog_keeps :
    accounts.Keeps accounts.commonCatalog time stage
      (Onward stage fun _ _ => True) := by
  refine keeps_perform trivial fun reply _ => ?_
  have listed := (Stage.Extends.refl stage).next accounts .registry reply rfl
  refine keeps_pass (fun error _ => onward_error listed error) ?_
  rintro state rfl
  refine (availableCatalogs_keeps _).bind ?_ ?_
  · rintro error reached current ⟨onward, -⟩
    exact onward_error (listed.trans onward) error
  · rintro catalogs reached current ⟨onward, -⟩
    exact keeps_pass_last ⟨listed.trans onward, fun _ _ => trivial⟩

/-- What a call may show at its end. -/
def Presents (call : Call) : Result → Stage → Prop
  | .snapshot snapshot, stage =>
    Shown stage.journal snapshot ∧ ∀ id, call = .bound id → Serves stage.journal id snapshot
  | .catalog _, _ => True

theorem keeps_result
    {result : α → Result}
    {call : Call}
    (keeps : accounts.Keeps inquiry time stage (Onward stage known))
    (presents : ∀ value reached, known value reached →
      Presents call (result value) reached) :
    accounts.Keeps (result <$> inquiry) time stage
      (Onward stage (Presents call)) := by
  change accounts.Keeps (inquiry >>= fun value => pure (result value)) time stage _
  refine keeps.bind ?_ ?_
  · rintro error reached current ⟨onward, -⟩
    exact onward_error onward error
  · rintro value reached current ⟨onward, holds⟩
    exact keeps_pure (onward_ok onward (presents value current (holds value rfl)))

theorem routine_keeps (call : Call) :
    accounts.Keeps (accounts.routine call) time stage
      (Onward stage (Presents call)) := by
  cases call with
  | select cwd =>
    refine keeps_result (select_keeps cwd) fun snapshot reached shown => ?_
    exact ⟨shown, fun _ other => by cases other⟩
  | bound id =>
    refine keeps_result (bound_keeps id) fun snapshot reached bound => ?_
    refine ⟨bound.1, fun _ same => ?_⟩
    cases same
    exact bound.2
  | inspect account =>
    refine keeps_result (inspect_keeps account) fun snapshot reached inspected => ?_
    exact ⟨inspected.shown, fun _ other => by cases other⟩
  | commonCatalog => exact keeps_result commonCatalog_keeps fun _ _ _ => trivial

end Inspection

/-- The stage of a call that starts. -/
def Stage.start (call : Call) : Stage := ⟨call, 0, .start, []⟩

/-- The calls follow the protocol. -/
def certificate : Certificate accounts.custody (fun _ => True) accounts.code where
  start := Stage.start
  Reentry call stage := stage = .start call
  entered _ _ := rfl
  follows := by
    rintro call _ rfl
    unfold code
    rw [Program.follows_bind]
    refine Program.Follows.mono (routine_keeps call) ?_
    rintro ⟨outcome, time⟩ reached ⟨onward, known⟩
    refine ⟨?_, fun _ _ _ next => by cases next⟩
    rcases outcome with error | snapshot | models
    · trivial
    · obtain ⟨shown, serves⟩ := known _ rfl
      exact ⟨shown, fun id same => serves id (onward.call.symm.trans same)⟩
    · trivial

end RouterAccounts

end Turnrail
