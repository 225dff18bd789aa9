import Mathlib.Algebra.Order.Ring.Rat
import Turnrail.Accounts.Custody
import Turnrail.Interleaving.Log

/-!
# Selecting the first usable account

A selection goes through the accounts of a folder in order.  It inspects each
account, waits for its quota as long as the common budget lasts, and takes the
first one that can be used.  The log of a selection, whose replies are arbitrary,
is cut into one trial for each account that was considered.
-/

namespace Turnrail

open Interleaving Routine

namespace RouterAccounts

/-- How far a selection comes with an account. -/
inductive Course
  | unknown
  | refused (failure : AccountFailure)
  | unread (snapshot : Snapshot) (waited : Rat) (failure : AccountFailure)
  | judged (snapshot : Snapshot) (waited : Rat)
      (availability : RouterQuotaAvailability) (time : Rat)

namespace Course

/-- The error raised for the account. -/
def failure : Course → Option AccountFailure
  | .unknown => some (.failure ⟨"The folder references an unknown account."⟩)
  | .refused failure => some failure
  | .unread _ _ failure => some failure
  | .judged _ _ _ _ => none

/-- The snapshot an account was inspected with. -/
def inspected : Course → Option Snapshot
  | .unknown => none
  | .refused _ => none
  | .unread snapshot _ _ => some snapshot
  | .judged snapshot _ _ _ => some snapshot

/-- The time spent on the quota. -/
def waited : Course → Rat
  | .unknown => 0
  | .refused _ => 0
  | .unread _ waited _ => waited
  | .judged _ waited _ _ => waited

/-- The account needs sign-in. -/
def LoginRequired (course : Course) : Prop :=
  course.failure = some (.unavailable .loginRequired)

/-- The credential expired before the account could be used. -/
def Expired (course : Course) : Prop :=
  ∃ snapshot waited availability time, course = .judged snapshot waited availability time ∧
      snapshot.credential.expiresAt ≤ time

/-- The usage limits of the account are exhausted. -/
def Exhausted (course : Course) : Prop :=
  course.failure = some (.unavailable .exhausted) ∨
    ∃ snapshot waited time, course = .judged snapshot waited .exhausted time

/-- The selection goes on to the next account. -/
def PassedOver (course : Course) : Prop :=
  course.LoginRequired ∨ course.Expired ∨ course.Exhausted

/-- An account stops the selection with a failure. -/
def Raises (course : Course) (failure : AccountFailure) : Prop :=
  course.failure = some failure ∧ ∀ reason, failure ≠ .unavailable reason

/-- The account passed the inspection, is not expired and not reported
exhausted. -/
def Usable (course : Course) (snapshot : Snapshot) : Prop :=
  ∃ waited availability time, course = .judged snapshot waited availability time ∧
      time < snapshot.credential.expiresAt ∧ availability ≠ .exhausted

variable {course : Course} {snapshot : Snapshot} {failure : AccountFailure}

theorem Usable.not_passedOver (usable : course.Usable snapshot) :
    ¬ course.PassedOver := by
  obtain ⟨waited, availability, time, rfl, unexpired, available⟩ := usable
  rintro (required | ⟨_, _, _, _, same, expired⟩ | raised | ⟨_, _, _, same⟩)
  · cases required
  · cases same
    exact Rat.not_lt.mpr expired unexpired
  · cases raised
  · cases same
    exact available rfl

theorem Raises.not_passedOver (raises : course.Raises failure) :
    ¬ course.PassedOver := by
  obtain ⟨raised, other⟩ := raises
  rintro (required | ⟨_, _, _, _, rfl, -⟩ | exhausted | ⟨_, _, _, rfl⟩)
  · exact other _ (Option.some.inj (raised.symm.trans required))
  · cases raised
  · exact other _ (Option.some.inj (raised.symm.trans exhausted))
  · cases raised

theorem Usable.not_raises (usable : course.Usable snapshot) :
    ¬ course.Raises failure := by
  obtain ⟨waited, availability, time, rfl, -, -⟩ := usable
  rintro ⟨raised, -⟩
  cases raised

end Course

/-- Waiting for the quota of an account: the effects, the outcome and the time
spent.  Nothing is asked once the budget is spent. -/
inductive Waits (credential : RouterCredential) (budget : Rat) :
    List Entry → Except AccountFailure RouterQuotaAvailability → Rat → Prop
  | spent (empty : budget ≤ 0) :
      Waits credential budget [] (.ok (.unavailable .timedOut)) 0
  | read (left : 0 < budget) (started ended : Rat)
      (outcome : Except AccountFailure RouterQuotaAvailability) :
      Waits credential budget
        [⟨.uptime, started⟩,
          ⟨.readQuota credential (started + budget), outcome⟩, ⟨.uptime, ended⟩]
        outcome (ended - started)

/-- The checks of an account that the registry gives for an identity, and the
course they take with a rest of the budget. -/
inductive Told (accounts : RouterAccounts) (state : AccountRegistryState)
    (budget : Rat) (id : UUID) : List Entry → Course → Prop
  | unknown (absent : registered state id = none) :
      Told accounts state budget id [] .unknown
  | refused
      {account : TurnrailAccount}
      {failure : AccountFailure}
      (known : registered state id = some account)
      (inspection : (accounts.inspect account).Plays budget log (.error failure) budget) :
      Told accounts state budget id log (.refused failure)
  | unread
      {account : TurnrailAccount}
      {snapshot : Snapshot}
      {failure : AccountFailure}
      (known : registered state id = some account)
      (inspection : (accounts.inspect account).Plays budget first (.ok snapshot) budget)
      (quota : Waits snapshot.credential budget second (.error failure) waited) :
      Told accounts state budget id (first ++ second) (.unread snapshot waited failure)
  | judged
      {account : TurnrailAccount}
      {snapshot : Snapshot}
      {availability : RouterQuotaAvailability}
      (known : registered state id = some account)
      (inspection : (accounts.inspect account).Plays budget first (.ok snapshot) budget)
      (quota : Waits snapshot.credential budget second (.ok availability) waited)
      (time : Rat) :
      Told accounts state budget id (first ++ second ++ [⟨.now, time⟩])
        (.judged snapshot waited availability time)

/-- What a selection did about one account. -/
structure Trial where
  id : UUID
  checks : List Entry
  marks : List Entry
  course : Course

namespace Trial

/-- The effects of a trial. -/
def log (trial : Trial) : List Entry := trial.checks ++ trial.marks

/-- The effects of a trial are those of its course. -/
structure Sound (accounts : RouterAccounts) (state : AccountRegistryState)
    (budget : Rat) (trial : Trial) : Prop where
  told : Told accounts state budget trial.id trial.checks trial.course
  marked : ∀ mark ∈ trial.marks, mark.1 = .reject trial.id ∨ ∃ reason, mark.1 = .report reason

/-- The time that trials spent on quota. -/
def waited (trials : List Trial) : Rat :=
  (trials.map fun trial => trial.course.waited).sum

end Trial

/-- The selected account is the first one that can be used. -/
structure FirstUsable (accounts : RouterAccounts) (state : AccountRegistryState)
    (budget : Rat) (ordered : List UUID) (trials : List Trial)
    (outcome : Except AccountFailure Snapshot) : Prop where
  inOrder : trials.map Trial.id <+: ordered
  sound : ∀ before trial after, trials = before ++ trial :: after →
    trial.Sound accounts state (budget - Trial.waited before)
  returned : ∀ snapshot, outcome = .ok snapshot → ∃ before trial, trials = before ++ [trial] ∧
      trial.course.Usable snapshot ∧ snapshot.account.id = trial.id ∧
      ∀ earlier ∈ before, earlier.course.PassedOver
  rethrown : ∀ before trial after failure, trials = before ++ trial :: after →
    trial.course.Raises failure → after = [] ∧ outcome = .error failure
  thrown : (∀ trial ∈ trials, ∀ snapshot, ¬ trial.course.Usable snapshot) →
    ∃ failure, outcome = .error failure
  exhausted : (∀ trial ∈ trials, trial.course.PassedOver) → trials.map Trial.id = ordered ∧
      outcome = .error (.failure
        ⟨"All accounts allowed for this folder need sign-in or have exhausted their usage limits."⟩)
  spent : ∀ before trial after snapshot, trials = before ++ trial :: after →
    budget ≤ Trial.waited before → trial.course.inspected = some snapshot →
    ∃ time, trial.course = .judged snapshot 0 (.unavailable .timedOut) time ∧
      (time < snapshot.credential.expiresAt → after = [] ∧ outcome = .ok snapshot)

section Log

variable {accounts : RouterAccounts} {budget reached : Rat} {log : List Entry}

theorem waits_of_readBudget
    {credential : RouterCredential}
    {outcome : Except AccountFailure RouterQuotaAvailability}
    (plays : (readBudget credential).Plays budget log outcome reached) :
    ∃ waited, Waits credential budget log outcome waited ∧
      reached = budget - waited := by
  simp only [readBudget, Inquiry.perform, Inquiry.pass] at plays
  rw [plays_get_bind] at plays
  split at plays
  · rename_i left
    obtain ⟨started, _, rfl, asked⟩ := plays_perform_bind.mp plays
    obtain ⟨answered, _, rfl, waited⟩ := plays_perform_bind.mp asked
    obtain ⟨ended, _, rfl, charged⟩ := plays_perform_bind.mp waited
    rw [plays_modify_bind] at charged
    obtain ⟨rfl, rfl, rfl⟩ := plays_ofExcept.mp charged
    exact ⟨ended - started, .read left started ended outcome, rfl⟩
  · rename_i spent
    obtain ⟨rfl, rfl, rfl⟩ := plays_pure.mp plays
    exact ⟨0, .spent (Rat.not_lt.mp spent), (sub_zero _).symm⟩

theorem leaves_validatedCredential
    (account : TurnrailAccount)
    (timestamp : Rat) :
    (accounts.validatedCredential account timestamp).Leaves := by
  simp only [validatedCredential, Inquiry.perform, Inquiry.pass]
  refine .attempt ?_ fun tried => ?_
  · refine .bind (leaves_perform _) fun granted => ?_
    refine .bind (leaves_ofExcept _) fun credential => ?_
    refine .bind (leaves_perform _) fun saved => ?_
    have clock : (perform Effect.now >>= fun time : Rat =>
        if credential.expiresAt > time then pure credential
        else throw (.unavailable .loginRequired) : Inquiry RouterCredential).Leaves := by
      refine .bind (leaves_perform _) fun time => ?_
      split
      · exact leaves_pure _
      · exact leaves_throw _
    split
    · split
      · exact clock
      · exact .bind (leaves_throw _) fun _ => clock
    · exact clock
  · split
    · exact leaves_pure _
    · exact .bind (leaves_perform _) fun _ => leaves_throw _
    · exact .bind (leaves_perform _) fun _ => leaves_throw _
    · exact leaves_throw _

/-- Reading the catalog takes nothing from the budget. -/
theorem leaves_validatedModels (credential : RouterCredential) :
    (accounts.validatedModels credential).Leaves := by
  simp only [validatedModels, Inquiry.perform, Inquiry.pass, Inquiry.check, Inquiry.fail]
  refine .bind (leaves_perform _) fun response => ?_
  refine .bind (leaves_ofExcept _) fun fields => ?_
  refine .bind (leaves_ofExcept _) fun models => ?_
  refine .bind (leaves_ofExcept _) fun _ => ?_
  split
  · exact leaves_throw _
  · refine .bind (leaves_perform _) fun time => ?_
    split
    · exact leaves_pure _
    · exact leaves_throw _

theorem leaves_inspect (account : TurnrailAccount) :
    (accounts.inspect account).Leaves := by
  have locked : (accounts.inspectLocked account).Leaves := by
    simp only [inspectLocked, Inquiry.perform]
    refine .bind (leaves_perform _) fun timestamp => ?_
    refine .bind (leaves_perform _) fun cached => ?_
    split
    · exact leaves_pure _
    · refine .bind (leaves_validatedCredential _ _) fun credential => ?_
      refine .bind (leaves_validatedModels _) fun models => ?_
      exact .bind (leaves_perform _) fun _ => leaves_pure _
  simp only [inspect, Inquiry.withLock, Inquiry.perform, Inquiry.pass]
  refine .bind (leaves_perform _) fun _ => .attempt ?_ fun tried => ?_
  · refine .attempt locked fun tried => ?_
    split
    · exact .bind (leaves_perform _) fun _ => leaves_throw _
    · exact leaves_ofExcept _
  · exact .bind (leaves_perform _) fun _ => leaves_ofExcept _

variable {account : TurnrailAccount} {snapshot : Snapshot}

theorem inspect_id
    (plays :
      (accounts.inspect account).Plays budget log (.ok snapshot) reached) :
    snapshot.account.id = account.id := by
  simp only [inspect, Inquiry.withLock, Inquiry.perform, Inquiry.pass] at plays
  obtain ⟨_, _, -, held⟩ := plays_perform_bind.mp plays
  obtain ⟨tried, _, _, _, inside, left, -⟩ := plays_attempt_bind.mp held
  obtain ⟨_, _, -, given⟩ := plays_perform_bind.mp left
  obtain ⟨-, rfl, -⟩ := plays_ofExcept.mp given
  obtain ⟨outcome, _, _, _, locked, passed, -⟩ := plays_attempt_bind.mp inside
  split at passed
  · obtain ⟨_, _, -, thrown⟩ := plays_perform_bind.mp passed
    obtain ⟨-, thrown, -⟩ := plays_throw.mp thrown
    cases thrown
  · obtain ⟨-, rfl, -⟩ := plays_ofExcept.mp passed
    simp only [inspectLocked, Inquiry.perform] at locked
    obtain ⟨timestamp, _, -, read⟩ := plays_perform_bind.mp locked
    obtain ⟨cached, _, -, known⟩ := plays_perform_bind.mp read
    split at known
    · rename_i saved fresh
      obtain ⟨-, same, -⟩ := plays_pure.mp known
      cases same
      have kept := (Option.filter_eq_some_iff.mp fresh).2
      simp only [isFresh, TurnrailAccount.same, Bool.and_eq_true] at kept
      exact eq_of_beq kept.1.1.1.1
    · obtain ⟨credential, _, _, _, -, asked, -⟩ := plays_bind_ok.mp known
      obtain ⟨models, _, _, _, -, offered, -⟩ := plays_bind_ok.mp asked
      obtain ⟨_, _, -, committed⟩ := plays_perform_bind.mp offered
      obtain ⟨-, same, -⟩ := plays_pure.mp committed
      cases same
      rfl

/-- What a candidate's course comes to. -/
inductive Course.Decides (course : Course) :
    Except AccountFailure (Option Snapshot) → Prop
  | usable {snapshot : Snapshot} (usable : course.Usable snapshot) :
      course.Decides (.ok (some snapshot))
  | exhausted (exhausted : course.Exhausted) : course.Decides (.ok none)
  | expired (expired : course.Expired) :
      course.Decides (.error (.unavailable .loginRequired))
  | failed {error : AccountFailure} (failed : course.failure = some error) :
      course.Decides (.error error)

theorem told_of_candidate
    {state : AccountRegistryState}
    {id : UUID}
    {outcome : Except AccountFailure (Option Snapshot)}
    (known : registered state id = some account)
    (plays : (accounts.candidate account).Plays budget log outcome reached) :
    ∃ checks reports course, log = checks ++ reports ∧
      Told accounts state budget id checks course ∧
      (∀ mark ∈ reports, ∃ reason, mark.1 = .report reason) ∧
      course.Decides outcome ∧ reached = budget - course.waited := by
  simp only [candidate, Inquiry.perform] at plays
  obtain ⟨failure, refused, rfl⟩ | ⟨snapshot, middle, first, rest, inspection, checked, rfl⟩ :=
    plays_bind.mp plays
  · obtain rfl := leaves_inspect account _ _ _ _ refused
    exact ⟨log, [], .refused failure, (List.append_nil log).symm,
      .refused known refused, by simp, .failed rfl, (sub_zero _).symm⟩
  · obtain rfl := leaves_inspect account _ _ _ _ inspection
    obtain ⟨failure, failed, rfl⟩ | ⟨availability, left, second, later, asked, judged, rfl⟩ :=
      plays_bind.mp checked
    · obtain ⟨waited, waits, rfl⟩ := waits_of_readBudget failed
      exact ⟨first ++ rest, [], .unread snapshot waited failure,
        (List.append_nil _).symm, .unread known inspection waits, by simp,
        .failed rfl, rfl⟩
    · obtain ⟨waited, waits, rfl⟩ := waits_of_readBudget asked
      obtain ⟨time, reports, rfl, decided⟩ := plays_perform_bind.mp judged
      refine ⟨first ++ second ++ [⟨.now, time⟩], reports,
        .judged snapshot waited availability time, by simp,
        .judged known inspection waits time, ?_⟩
      split at decided
      · rename_i unexpired
        split at decided
        · obtain ⟨rfl, rfl, rfl⟩ := plays_pure.mp decided
          exact ⟨by simp, .usable ⟨waited, _, time, rfl, unexpired, by simp⟩, rfl⟩
        · obtain ⟨rfl, rfl, rfl⟩ := plays_pure.mp decided
          exact ⟨by simp, .exhausted (.inr ⟨snapshot, waited, time, rfl⟩), rfl⟩
        · rename_i reason
          obtain ⟨_, _, rfl, reported⟩ := plays_perform_bind.mp decided
          obtain ⟨rfl, rfl, rfl⟩ := plays_pure.mp reported
          exact ⟨by simp, .usable ⟨waited, _, time, rfl, unexpired, by simp⟩, rfl⟩
      · rename_i expired
        obtain ⟨rfl, rfl, rfl⟩ := plays_throw.mp decided
        exact ⟨by simp, .expired ⟨snapshot, waited, availability, time, rfl,
          Rat.not_lt.mp expired⟩, rfl⟩

/-- The trials of the ordered accounts and their result. -/
inductive Trials (accounts : RouterAccounts) (state : AccountRegistryState) :
    Rat → List UUID → List Trial → Except AccountFailure Snapshot → Prop
  | ended {budget : Rat} :
      Trials accounts state budget [] [] (.error (.failure
        ⟨"All accounts allowed for this folder need sign-in or have exhausted their usage limits."⟩))
  | usable
      {budget : Rat} {rest : List UUID} {trial : Trial} {snapshot : Snapshot}
      (sound : trial.Sound accounts state budget)
      (usable : trial.course.Usable snapshot) :
      Trials accounts state budget (trial.id :: rest) [trial] (.ok snapshot)
  | raised
      {budget : Rat} {rest : List UUID} {trial : Trial}
      {failure : AccountFailure}
      (sound : trial.Sound accounts state budget)
      (raises : trial.course.Raises failure) :
      Trials accounts state budget (trial.id :: rest) [trial] (.error failure)
  | passed
      {budget : Rat} {rest : List UUID} {trial : Trial} {trials : List Trial}
      {outcome : Except AccountFailure Snapshot}
      (sound : trial.Sound accounts state budget)
      (passedOver : trial.course.PassedOver)
      (later : Trials accounts state (budget - trial.course.waited) rest trials outcome) :
      Trials accounts state budget (trial.id :: rest) (trial :: trials) outcome

namespace Trials

variable {state : AccountRegistryState} {id : UUID} {checks reports : List Entry}
variable {course : Course} {rest : List UUID}
variable {outcome : Except AccountFailure Snapshot}

variable
  (sound : Trial.Sound accounts state budget ⟨id, checks, reports, course⟩)
include sound

theorem advance
    (passedOver : course.PassedOver)
    (later : ∃ trials, log = trials.flatMap Trial.log ∧
      Trials accounts state (budget - course.waited) rest trials outcome) :
    ∃ trials, checks ++ reports ++ log = trials.flatMap Trial.log ∧
      Trials accounts state budget (id :: rest) trials outcome := by
  obtain ⟨trials, rfl, later⟩ := later
  exact ⟨⟨id, checks, reports, course⟩ :: trials, rfl,
    @passed accounts state budget rest ⟨id, checks, reports, course⟩ trials
      outcome sound passedOver later⟩

theorem reject
    (passedOver : course.PassedOver)
    (later : ∃ trials, log = trials.flatMap Trial.log ∧
      Trials accounts state (budget - course.waited) rest trials outcome) :
    ∃ trials,
      checks ++ reports ++ ⟨.reject id, ()⟩ :: log = trials.flatMap Trial.log ∧
      Trials accounts state budget (id :: rest) trials outcome := by
  have noted : Trial.Sound accounts state budget
      ⟨id, checks, reports ++ [⟨.reject id, ()⟩], course⟩ := by
    refine ⟨sound.told, fun mark member => ?_⟩
    rcases List.mem_append.mp member with member | member
    · exact sound.marked mark member
    · rw [List.mem_singleton.mp member]
      exact .inl rfl
  obtain ⟨trials, same, trials'⟩ := advance noted passedOver later
  refine ⟨trials, ?_, trials'⟩
  rw [← same]
  simp

/-- Another error ends the selection. -/
theorem raise
    {failure : AccountFailure}
    (raises : course.Raises failure)
    (thrown : (throw failure : Inquiry Snapshot).Plays (budget - course.waited)
      log outcome reached) :
    ∃ trials, checks ++ reports ++ log = trials.flatMap Trial.log ∧
      Trials accounts state budget (id :: rest) trials outcome := by
  obtain ⟨rfl, rfl, -⟩ := plays_throw.mp thrown
  exact ⟨[⟨id, checks, reports, course⟩], by simp [Trial.log],
    @raised accounts state budget rest ⟨id, checks, reports, course⟩ failure sound raises⟩

end Trials

variable {state : AccountRegistryState} {id : UUID} {course : Course}
variable {snapshot : Snapshot}

theorem trials_of_firstUsable
    {ordered : List UUID}
    {outcome : Except AccountFailure Snapshot}
    (plays :
      (accounts.firstUsable state ordered).Plays budget log outcome reached) :
    ∃ trials, log = trials.flatMap Trial.log ∧
      Trials accounts state budget ordered trials outcome := by
  induction ordered generalizing budget log with
  | nil =>
    obtain ⟨rfl, rfl, -⟩ := plays_throw.mp plays
    exact ⟨[], rfl, .ended⟩
  | cons id rest ih =>
    rw [firstUsable] at plays
    split at plays
    · rename_i absent
      obtain ⟨rfl, rfl, -⟩ := plays_throw.mp plays
      exact ⟨[⟨id, [], [], .unknown⟩], rfl,
        @Trials.raised accounts state _ rest ⟨id, [], [], .unknown⟩ _
          ⟨.unknown absent, by simp⟩ ⟨rfl, by simp⟩⟩
    · rename_i account known
      obtain ⟨tried, left, first, second, candidate, decided, rfl⟩ :=
        plays_attempt_bind.mp plays
      obtain ⟨checks, reports, course, rfl, told, marked, decides, rfl⟩ :=
        told_of_candidate known candidate
      have sound : Trial.Sound accounts state budget ⟨id, checks, reports, course⟩ :=
        ⟨told, fun mark member => .inr (marked mark member)⟩
      cases decides with
      | usable usable =>
        obtain ⟨rfl, rfl, -⟩ := plays_pure.mp decided
        exact ⟨[⟨id, checks, reports, course⟩], by simp [Trial.log],
          @Trials.usable accounts state budget rest
            ⟨id, checks, reports, course⟩ _ sound usable⟩
      | exhausted exhausted => exact Trials.advance sound (.inr (.inr exhausted)) (ih decided)
      | expired expired =>
        obtain ⟨_, _, rfl, later⟩ := plays_perform_bind.mp decided
        exact Trials.reject sound (.inr (.inl expired)) (ih later)
      | @failed error failed =>
        cases error with
        | unavailable reason =>
          cases reason with
          | loginRequired =>
            obtain ⟨_, _, rfl, later⟩ := plays_perform_bind.mp decided
            exact Trials.reject sound (.inl failed) (ih later)
          | exhausted => exact Trials.advance sound (.inr (.inr (.inl failed))) (ih decided)
        | rejection reason => exact Trials.raise sound ⟨failed, by simp⟩ decided
        | failure | other => exact Trials.raise sound ⟨failed, by simp⟩ decided

theorem Told.id_eq
    (told : Told accounts state budget id log course)
    (usable : course.Usable snapshot) :
    snapshot.account.id = id := by
  obtain ⟨waited, availability, time, rfl, -, -⟩ := usable
  cases told with
  | judged known inspection quota time => rw [inspect_id inspection, registered_id known]

theorem Told.of_spent
    (told : Told accounts state budget id log course)
    (empty : budget ≤ 0)
    (passes : course.inspected = some snapshot) :
    ∃ time, course = .judged snapshot 0 (.unavailable .timedOut) time := by
  cases told with
  | unknown | refused => cases passes
  | unread known inspection quota =>
    cases quota with
    | read left => exact absurd left (Rat.not_lt.mpr empty)
  | judged known inspection quota time =>
    cases passes
    cases quota with
    | spent => exact ⟨time, rfl⟩
    | read left => exact absurd left (Rat.not_lt.mpr empty)

namespace Trials

variable {state : AccountRegistryState} {ordered : List UUID}
variable {trials before after : List Trial} {trial : Trial}
variable {outcome : Except AccountFailure Snapshot}

theorem inOrder
    (selects : Trials accounts state budget ordered trials outcome) :
    trials.map Trial.id <+: ordered := by
  induction selects with
  | ended => exact List.nil_prefix
  | usable | raised => exact ⟨_, rfl⟩
  | passed sound passedOver later ih => exact List.cons_prefix_cons.mpr ⟨rfl, ih⟩

theorem since
    (selects : Trials accounts state budget ordered trials outcome)
    (split : trials = before ++ trial :: after) :
    ∃ rest, Trials accounts state
      (budget - Trial.waited before) rest (trial :: after) outcome := by
  subst split
  induction before generalizing budget ordered with
  | nil =>
    rw [Trial.waited, List.map_nil, List.sum_nil, sub_zero]
    exact ⟨ordered, selects⟩
  | cons first earlier ih =>
    rw [Trial.waited, List.map_cons, List.sum_cons, ← sub_sub]
    generalize remaining : earlier ++ trial :: after = trials at *
    rw [List.cons_append, remaining] at selects
    cases selects with
    | usable | raised => simp at remaining
    | passed sound passedOver later => exact ih later

section

variable
  (selects : Trials accounts state budget ordered (trial :: after) outcome)
include selects

theorem sound_head : trial.Sound accounts state budget := by
  cases selects with
  | usable sound usable => exact sound
  | raised sound raises => exact sound
  | passed sound passedOver later => exact sound

theorem rethrown_head
    {failure : AccountFailure}
    (raises : trial.course.Raises failure) :
    after = [] ∧ outcome = .error failure := by
  cases selects with
  | usable sound usable => exact absurd raises usable.not_raises
  | raised sound other =>
    refine ⟨rfl, ?_⟩
    rw [Option.some.inj (other.1.symm.trans raises.1)]
  | passed sound passedOver later => exact absurd passedOver raises.not_passedOver

theorem usable_head (usable : trial.course.Usable snapshot) :
    after = [] ∧ outcome = .ok snapshot := by
  cases selects with
  | usable sound other =>
    obtain ⟨_, _, _, same, -⟩ := usable
    obtain ⟨_, _, _, again, -⟩ := other
    rw [same] at again
    cases again
    exact ⟨rfl, rfl⟩
  | raised sound raises => exact absurd raises usable.not_raises
  | passed sound passedOver later => exact absurd passedOver usable.not_passedOver

theorem spent_head
    (empty : budget ≤ 0)
    (passes : trial.course.inspected = some snapshot) :
    ∃ time, trial.course = .judged snapshot 0 (.unavailable .timedOut) time ∧
      (time < snapshot.credential.expiresAt →
        after = [] ∧ outcome = .ok snapshot) := by
  obtain ⟨time, same⟩ := selects.sound_head.told.of_spent empty passes
  refine ⟨time, same, fun unexpired => ?_⟩
  exact selects.usable_head ⟨0, _, time, same, unexpired, by simp⟩

end

variable (selects : Trials accounts state budget ordered trials outcome)
include selects

theorem returned (returns : outcome = .ok snapshot) :
    ∃ before trial, trials = before ++ [trial] ∧ trial.course.Usable snapshot ∧
      ∀ earlier ∈ before, earlier.course.PassedOver := by
  induction selects with
  | ended => cases returns
  | @usable _ _ trial _ sound usable =>
    cases returns
    exact ⟨[], trial, rfl, usable, by simp⟩
  | raised sound raises => cases returns
  | @passed _ _ first _ _ sound passedOver later ih =>
    obtain ⟨before, trial, rfl, usable, earlier⟩ := ih returns
    exact ⟨first :: before, trial, rfl, usable, List.forall_mem_cons.mpr ⟨passedOver, earlier⟩⟩

theorem exhausted (passedOver : ∀ trial ∈ trials, trial.course.PassedOver) :
    trials.map Trial.id = ordered ∧
      outcome = .error (.failure
        ⟨"All accounts allowed for this folder need sign-in or have exhausted their usage limits."⟩) := by
  induction selects with
  | ended => exact ⟨rfl, rfl⟩
  | usable sound usable => exact absurd (passedOver _ List.mem_cons_self) usable.not_passedOver
  | raised sound raises => exact absurd (passedOver _ List.mem_cons_self) raises.not_passedOver
  | passed sound skipped later ih =>
    obtain ⟨whole, failed⟩ := ih
      fun trial member => passedOver trial (List.mem_cons_of_mem _ member)
    exact ⟨congrArg _ whole, failed⟩

theorem firstUsable :
    FirstUsable accounts state budget ordered trials outcome where
  inOrder := selects.inOrder
  sound before trial after split := by
    obtain ⟨rest, since⟩ := selects.since split
    exact since.sound_head
  returned snapshot returns := by
    obtain ⟨before, trial, split, usable, earlier⟩ := selects.returned returns
    obtain ⟨rest, since⟩ := selects.since split
    exact ⟨before, trial, split, usable, since.sound_head.told.id_eq usable, earlier⟩
  rethrown before trial after failure split raises := by
    obtain ⟨rest, since⟩ := selects.since split
    exact since.rethrown_head raises
  thrown unusable := by
    cases returns : outcome with
    | error failure => exact ⟨failure, rfl⟩
    | ok snapshot =>
      obtain ⟨before, trial, rfl, usable, -⟩ := selects.returned returns
      exact absurd usable (unusable trial (by simp) snapshot)
  exhausted := selects.exhausted
  spent before trial after snapshot split empty passes := by
    obtain ⟨rest, since⟩ := selects.since split
    exact since.spent_head (sub_nonpos.mpr empty) passes

end Trials

/-- The effects of a selection and its result. -/
inductive Selection (accounts : RouterAccounts) (cwd : String) :
    List Entry → Except AccountFailure Snapshot → Prop
  | unread (failure : AccountFailure) :
      Selection accounts cwd [⟨.registry, .error failure⟩] (.error failure)
  | unresolved (state : AccountRegistryState) (failure : AccountFailure) :
      Selection accounts cwd
        [⟨.registry, .ok state⟩, ⟨.folder cwd state.routing, .error failure⟩]
        (.error failure)
  | unassigned (state : AccountRegistryState) :
      Selection accounts cwd [⟨.registry, .ok state⟩, ⟨.folder cwd state.routing, .ok []⟩]
        (.error (.failure
          ⟨"No accounts are allowed for this folder. Assign an account in Turnrail."⟩))
  | tried (state : AccountRegistryState) (ordered : List UUID)
      (trials : List Trial) {outcome : Except AccountFailure Snapshot}
      (first : FirstUsable accounts state accounts.quotaWait ordered trials outcome) :
      Selection accounts cwd
        (⟨.registry, .ok state⟩ :: ⟨.folder cwd state.routing, .ok ordered⟩ ::
          trials.flatMap Trial.log)
        outcome

end Log

/-- A selection returns the first account of the folder's list that can be
used, whatever the registry, the caches, the account service and the clocks
answer. -/
theorem select_returns_first_usable
    (accounts : RouterAccounts)
    (cwd : String)
    (store reached : Rat)
    (log : List Entry)
    (outcome : Except AccountFailure Snapshot)
    (plays : (accounts.select cwd).Plays store log outcome reached) :
    Selection accounts cwd log outcome := by
  simp only [select, Inquiry.perform, Inquiry.pass] at plays
  obtain ⟨registry, _, rfl, read⟩ := plays_perform_bind.mp plays
  obtain ⟨failure, rfl, rfl, rfl, -⟩ | ⟨state, rfl, known⟩ := plays_ofExcept_bind.mp read
  · exact .unread failure
  obtain ⟨folder, _, rfl, found⟩ := plays_perform_bind.mp known
  obtain ⟨failure, rfl, rfl, rfl, -⟩ | ⟨ordered, rfl, resolved⟩ :=
    plays_ofExcept_bind.mp found
  · exact .unresolved state failure
  split at resolved
  · rename_i empty
    obtain ⟨rfl, rfl, -⟩ := plays_throw.mp resolved
    rw [List.isEmpty_iff.mp empty]
    exact .unassigned state
  · rw [plays_modify_bind] at resolved
    obtain ⟨trials, rfl, selects⟩ := trials_of_firstUsable resolved
    exact .tried state ordered trials selects.firstUsable

/-- Two accounts, of which the first is exhausted. -/
def Rehearsal.pair : (effect : Effect) → effect.Reply
  | .registry => .ok ⟨3, 1, [account, ⟨⟨2⟩, "other@example.com", .plus⟩], ⟨[⟨1⟩, ⟨2⟩], []⟩⟩
  | .folder _ _ => .ok [⟨1⟩, ⟨2⟩]
  | .authenticate account _ => .ok (credential account.email 3600)
  | .readQuota credential _ =>
    .ok (if credential.accessToken = account.email then .exhausted
      else .available)
  | effect => answers 0 (credential "" 3600) (.ok .available) effect

/-- The selection between two accounts. -/
def Rehearsal.selection : List Entry × Except AccountFailure Snapshot × Rat :=
  ((service.select "/folder").run 0).play pair

/-- An exhausted account is passed over for the next one. -/
theorem account_after_exhausted_is_selected :
    (Rehearsal.selection.2.1.toOption.map fun snapshot =>
        snapshot.account.id) = some ⟨2⟩ ∧
      Selection Rehearsal.service "/folder" Rehearsal.selection.1
        Rehearsal.selection.2.1 :=
  ⟨by decide +kernel, select_returns_first_usable Rehearsal.service "/folder" 0 _ _ _
      (@Routine.plays_play calls Rat AccountFailure Snapshot Rehearsal.pair
        (Rehearsal.service.select "/folder") 0)⟩

end RouterAccounts

end Turnrail
