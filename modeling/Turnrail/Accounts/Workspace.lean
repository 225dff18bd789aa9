import Turnrail.Accounts.Custody

/-!
# One workspace for each account

What is kept about an account may be renewed, but it stays with the workspace
and the email it had first.  The recursive lock makes comparing a credential and
keeping it one step for all other calls.
-/

namespace Turnrail

open Interleaving

namespace RouterAccounts

variable {accounts : RouterAccounts}

/-- Snapshots with the same workspace and the same email. -/
def Alike (accounts : RouterAccounts) (first second : Snapshot) : Prop :=
  accounts.texts.same first.credential.accountID second.credential.accountID = true ∧
    accounts.texts.same first.account.email second.account.email = true

theorem Alike.refl (snapshot : Snapshot) : accounts.Alike snapshot snapshot :=
  ⟨accounts.texts.same_self _, accounts.texts.same_self _⟩

variable {first second : Snapshot}

theorem Alike.trans
    {third : Snapshot}
    (left : accounts.Alike first second)
    (right : accounts.Alike second third) :
    accounts.Alike first third := by
  simp only [Alike, Texts.same, beq_iff_eq] at left right ⊢
  exact ⟨left.1.trans right.1, left.2.trans right.2⟩

theorem Alike.symm (alike : accounts.Alike first second) :
    accounts.Alike second first := by
  simp only [Alike, Texts.same, beq_iff_eq] at alike ⊢
  exact ⟨alike.1.symm, alike.2.symm⟩

/-- What an effect keeps about which account. -/
def Effect.writes : Effect → Option (UUID × Snapshot)
  | .commit snapshot => some (snapshot.account.id, snapshot)
  | .renew id snapshot => some (id, snapshot)
  | _ => none

section Effects

variable {thread : Nat} {memory after : Memory} {effect : Effect}
variable {reply : effect.Reply}

variable (executed : accounts.machine.exec thread memory effect reply after)
include executed

theorem exec_cache_of_none (none : effect.writes = none) :
    after.cache = memory.cache := by
  obtain ⟨answer, acts⟩ := executed
  cases effect with
  | acquire =>
    obtain ⟨reached, taken, same⟩ := Option.map_eq_some_iff.mp acts
    cases same
    unfold Memory.acquire at taken
    split at taken
    · cases taken
      rfl
    · split at taken
      · cases taken
        rfl
      · cases taken
  | release =>
    cases acts
    unfold Memory.release
    split <;> rfl
  | commit | renew => cases none
  | _ =>
    cases acts
    rfl

theorem exec_cache_of_writes
    {id : UUID}
    {snapshot : Snapshot}
    (writes : effect.writes = some (id, snapshot)) :
    after.cache = Function.update memory.cache id (some snapshot) := by
  obtain ⟨answer, acts⟩ := executed
  cases effect with
  | commit own =>
    cases writes
    cases acts
    rfl
  | renew own kept =>
    cases writes
    cases acts
    rfl
  | _ => cases writes

theorem exec_lock (other : effect ≠ .acquire ∧ effect ≠ .release) :
    after.lock = memory.lock := by
  obtain ⟨answer, acts⟩ := executed
  cases effect with
  | acquire => exact absurd rfl other.1
  | release => exact absurd rfl other.2
  | _ =>
    cases acts
    rfl

end Effects

/-- The calls as parties of the protocol. -/
abbrev Callers (accounts : RouterAccounts) := Parties accounts.custody Memory

/-- A step of the callers. -/
abbrev CallStep (accounts : RouterAccounts)
    (before : accounts.Callers) (event : Event calls Call)
    (after : accounts.Callers) : Prop :=
  Protocol.Step accounts.machine accounts.custody Stage.start before event after

/-- A call that holds the recursive lock is its holder. -/
def Held (callers : accounts.Callers) : Prop :=
  ∀ thread stage, callers.stages thread = some stage → 0 < stage.depth →
    ∃ count, callers.world.lock = some (thread, count) ∧ stage.depth ≤ count

variable {callers : accounts.Callers}

theorem Held.unique
    (held : Held callers)
    {first second : Nat}
    {one two : Stage}
    (firstStage : callers.stages first = some one)
    (secondStage : callers.stages second = some two)
    (firstHolds : 0 < one.depth)
    (secondHolds : 0 < two.depth) :
    first = second := by
  obtain ⟨count, owner, -⟩ := held first one firstStage firstHolds
  obtain ⟨other, same, -⟩ := held second two secondStage secondHolds
  rw [owner] at same
  cases same
  rfl

variable {after : Memory} {stage : Stage} {thread : Nat}

theorem Held.acquire
    (held : Held callers)
    (known : callers.stages thread = some stage)
    (taken : callers.world.acquire thread = some after) :
    @Held accounts ⟨after, Function.update callers.stages thread
      (some (stage.next accounts .acquire ()))⟩ := by
  intro other current present holds
  unfold Memory.acquire at taken
  rcases update_cases present with ⟨rfl, same⟩ | ⟨different, present⟩
  · cases same
    split at taken
    · rename_i free
      cases taken
      refine ⟨1, rfl, ?_⟩
      by_contra deep
      have holding : 0 < stage.depth := by
        change ¬ stage.depth + 1 ≤ 1 at deep
        omega
      obtain ⟨count, owner, -⟩ := held other stage known holding
      rw [free] at owner
      cases owner
    · rename_i holder depth owned
      split at taken
      · rename_i itself
        cases taken
        refine ⟨depth + 1, rfl, Nat.succ_le_succ ?_⟩
        rcases Nat.eq_zero_or_pos stage.depth with none | holding
        · rw [none]
          exact Nat.zero_le depth
        · obtain ⟨count, owner, enough⟩ := held other stage known holding
          rw [owned] at owner
          cases owner
          exact enough
      · cases taken
  · obtain ⟨count, owner, enough⟩ := held other current present holds
    rw [owner] at taken
    simp [different] at taken

theorem Held.release
    (held : Held callers)
    (known : callers.stages thread = some stage)
    (holding : 0 < stage.depth) :
    @Held accounts ⟨callers.world.release, Function.update callers.stages thread
        (some (stage.next accounts .release ()))⟩ := by
  obtain ⟨count, owner, enough⟩ := held thread stage known holding
  intro other current present holds
  rcases update_cases present with ⟨rfl, same⟩ | ⟨different, present⟩
  · cases same
    change 0 < stage.depth - 1 at holds
    obtain ⟨rest, rfl⟩ : ∃ rest, count = rest + 2 := ⟨count - 2, by omega⟩
    refine ⟨rest + 1, ?_, ?_⟩
    · simp [Memory.release, owner]
    · change stage.depth - 1 ≤ rest + 1
      omega
  · exact absurd (held.unique present known holds holding) different

variable {event : Event calls Call} {before : accounts.Callers}

theorem Held.step
    {after : accounts.Callers}
    (held : Held before)
    (step : accounts.CallStep before event after) :
    Held after := by
  have origin := fun thread stage (present : after.stages thread = some stage) =>
    step.stage_cases present
  cases step with
  | @perform world stage effect reply thread known allowed admitted executed =>
    by_cases acquiring : effect = .acquire
    · subst acquiring
      obtain ⟨answer, acts⟩ := executed
      obtain ⟨reached, taken, same⟩ := Option.map_eq_some_iff.mp acts
      cases same
      exact held.acquire known taken
    · by_cases releasing : effect = .release
      · subst releasing
        obtain ⟨answer, acts⟩ := executed
        cases acts
        exact held.release known allowed
      · have lock := exec_lock executed ⟨acquiring, releasing⟩
        intro other current present holds
        change ∃ count, world.lock = _ ∧ _
        rw [lock]
        rcases update_cases present with ⟨rfl, same⟩ | ⟨-, present⟩
        · cases same
          have depth : (stage.next accounts effect reply).depth = stage.depth := by
            change Stage.nextDepth stage.depth effect = stage.depth
            cases effect <;> first | rfl | contradiction
          change 0 < (stage.next accounts effect reply).depth at holds
          change ∃ count, _ ∧ (stage.next accounts effect reply).depth ≤ count
          rw [depth] at holds ⊢
          exact held other stage known holds
        · exact held other current present holds
  | drift drifts => cases drifts
  | restart resets => cases resets
  | _ =>
    intro other stage present holds
    rcases origin other stage present with ⟨call, -, rfl⟩ | ⟨_, _, _, ⟨⟩, -⟩ | ⟨present, -⟩
    · cases holds
    · exact held other stage present holds

/-- What is kept fits the calls that are under way. -/
structure Kept (callers : accounts.Callers) : Prop where
  held : Held callers
  ids : ∀ id saved, callers.world.cache id = some saved → saved.account.id = id
  compared : ∀ thread stage, callers.stages thread = some stage →
    stage.standing.compared = true → ∃ account credential,
      stage.standing.fresh = some (account, credential) ∧ 0 < stage.depth ∧
        accounts.agrees account credential (callers.world.cache account.id) = true
  shown : ∀ thread stage, callers.stages thread = some stage →
    ∀ snapshot, Shown stage.journal snapshot →
      ∃ saved, callers.world.cache snapshot.account.id = some saved ∧
        accounts.Alike saved snapshot

/-- What is kept may change, but stays with its workspace. -/
def Steady (accounts : RouterAccounts) (before after : Memory) : Prop :=
  ∀ id saved, before.cache id = some saved →
    ∃ renewed, after.cache id = some renewed ∧ accounts.Alike renewed saved

variable {snapshot : Snapshot}

theorem alike_of_agrees
    {saved : Snapshot}
    (agreed : accounts.agrees snapshot.account snapshot.credential
        (some saved) = true) :
    accounts.Alike snapshot saved := by
  simp only [agrees, Bool.and_eq_true] at agreed
  exact Alike.symm ⟨agreed.2, agreed.1⟩

variable {effect : Effect} {reply : effect.Reply}

theorem allows_writes
    {id : UUID}
    (allowed : stage.Allows effect)
    (writes : effect.writes = some (id, snapshot)) :
    0 < stage.depth ∧ id = snapshot.account.id ∧
      stage.standing.fresh = some (snapshot.account, snapshot.credential) ∧
      stage.standing.compared = true := by
  cases effect with
  | commit own =>
    cases writes
    obtain ⟨holding, standing⟩ := allowed
    rw [standing]
    exact ⟨holding, rfl, rfl, rfl⟩
  | renew own kept =>
    cases writes
    obtain ⟨holding, identity, standing⟩ := allowed
    rw [standing]
    exact ⟨holding, identity, rfl, rfl⟩
  | _ => cases writes

theorem Kept.steady
    (kept : Kept callers)
    (known : callers.stages thread = some stage)
    (allowed : stage.Allows effect)
    (executed : accounts.machine.exec thread callers.world effect reply after) :
    accounts.Steady callers.world after := by
  intro id saved present
  cases writes : effect.writes with
  | none =>
    rw [exec_cache_of_none executed writes]
    exact ⟨saved, present, .refl saved⟩
  | some write =>
    obtain ⟨own, snapshot⟩ := write
    rw [exec_cache_of_writes executed writes]
    by_cases same : id = own
    · subst same
      rw [Function.update_self]
      refine ⟨snapshot, rfl, ?_⟩
      obtain ⟨-, rfl, fresh, compared⟩ := allows_writes allowed writes
      obtain ⟨account, credential, itself, -, agreed⟩ :=
        kept.compared thread stage known compared
      rw [fresh] at itself
      cases itself
      rw [present] at agreed
      exact alike_of_agrees agreed
    · rw [Function.update_of_ne same]
      exact ⟨saved, present, .refl saved⟩

theorem compared_next
    (compared : (stage.standing.next accounts effect reply).compared = true) :
    (∃ id, effect = .saved id) ∨
      stage.standing.next accounts effect reply = stage.standing ∧
      effect.writes = none ∧
      stage.depth ≤ Stage.nextDepth stage.depth effect := by
  cases effect with
  | saved id => exact .inl ⟨id, rfl⟩
  | authenticate account timestamp => cases reply <;> cases compared
  | cached | binding | release | reject | commit | renew => cases compared
  | acquire => exact .inr ⟨rfl, rfl, Nat.le_succ _⟩
  | _ => exact .inr ⟨rfl, rfl, Nat.le_refl _⟩

theorem Kept.compared_own
    (kept : Kept callers)
    (known : callers.stages thread = some stage)
    (allowed : stage.Allows effect)
    (executed : accounts.machine.exec thread callers.world effect reply after)
    (compared : (stage.standing.next accounts effect reply).compared = true) :
    ∃ account credential, (stage.standing.next accounts effect reply).fresh =
        some (account, credential) ∧ 0 < Stage.nextDepth stage.depth effect ∧
      accounts.agrees account credential (after.cache account.id) = true := by
  rcases compared_next compared with ⟨id, rfl⟩ | ⟨same, silent, deeper⟩
  · obtain ⟨answer, acts⟩ := executed
    cases acts
    simp only [Standing.next, Standing.compare, Option.any_eq_true_iff_get] at compared
    obtain ⟨isFresh, agreed⟩ := compared
    obtain ⟨⟨account, credential⟩, fresh⟩ := Option.isSome_iff_exists.mp isFresh
    simp only [fresh, Option.get_some, Bool.and_eq_true, beq_iff_eq] at agreed
    refine ⟨account, credential, fresh, allowed, ?_⟩
    rw [agreed.1]
    exact agreed.2
  · rw [same] at compared ⊢
    obtain ⟨account, credential, fresh, holding, agreed⟩ :=
      kept.compared thread stage known compared
    rw [exec_cache_of_none executed silent]
    exact ⟨account, credential, fresh, Nat.lt_of_lt_of_le holding deeper, agreed⟩

theorem Kept.shows
    (kept : Kept callers)
    (allowed : stage.Allows effect)
    (executed : accounts.machine.exec thread callers.world effect reply after)
    (shows : Entry.shows ⟨effect, reply⟩ = some snapshot) :
    after.cache snapshot.account.id = some snapshot := by
  cases writes : effect.writes with
  | some write =>
    obtain ⟨id, written⟩ := write
    obtain ⟨-, rfl, -, -⟩ := allows_writes allowed writes
    have same : written = snapshot := by
      cases effect with
      | commit own =>
        have written := (Prod.mk.inj (Option.some.inj writes)).2
        exact written.symm.trans (Option.some.inj shows)
      | renew id own =>
        have written := (Prod.mk.inj (Option.some.inj writes)).2
        exact written.symm.trans (Option.some.inj shows)
      | _ => cases writes
    rw [exec_cache_of_writes executed writes, same, Function.update_self]
  | none =>
    rw [exec_cache_of_none executed writes]
    obtain ⟨answer, acts⟩ := executed
    cases effect with
    | cached id =>
      cases acts
      dsimp only [Entry.shows] at shows
      split at shows
      · cases shows
      · rwa [kept.ids id snapshot shows]
    | binding account =>
      cases acts
      have read : callers.world.cache account.id = some snapshot := by
        generalize replied : callers.world.cachedBinding accounts account = reply at shows
        cases reply with
        | error error => cases shows
        | ok saved =>
          change saved = some snapshot at shows
          subst shows
          exact (Memory.cachedBinding_ok replied).2
      rwa [kept.ids account.id snapshot read]
    | commit | renew => cases writes
    | _ => cases shows

theorem Kept.perform
    (kept : Kept callers)
    (known : callers.stages thread = some stage)
    (allowed : stage.Allows effect)
    (admitted : Stage.Admits effect reply)
    (executed : accounts.machine.exec thread callers.world effect reply after) :
    @Kept accounts ⟨after, Function.update callers.stages thread
      (some (stage.next accounts effect reply))⟩ where
  held := kept.held.step (.perform thread known allowed admitted executed)
  ids := by
    intro id saved present
    change after.cache id = some saved at present
    cases writes : effect.writes with
    | none =>
      rw [exec_cache_of_none executed writes] at present
      exact kept.ids id saved present
    | some write =>
      obtain ⟨own, snapshot⟩ := write
      rw [exec_cache_of_writes executed writes] at present
      by_cases same : id = own
      · subst same
        rw [Function.update_self] at present
        cases present
        exact (allows_writes allowed writes).2.1.symm
      · rw [Function.update_of_ne same] at present
        exact kept.ids id saved present
  compared := by
    intro other current present compared
    rcases update_cases present with ⟨rfl, same⟩ | ⟨different, present⟩
    · cases same
      exact kept.compared_own known allowed executed compared
    · obtain ⟨account, credential, fresh, holding, agreed⟩ :=
        kept.compared other current present compared
      refine ⟨account, credential, fresh, holding, ?_⟩
      -- Only the holder of the lock keeps anything.
      cases writes : effect.writes with
      | none =>
        change accounts.agrees account credential (after.cache account.id) = true
        rw [exec_cache_of_none executed writes]
        exact agreed
      | some write =>
        have holds := (allows_writes allowed writes).1
        exact absurd (kept.held.unique present known holding holds) different
  shown := by
    intro other current present snapshot shown
    have steady := kept.steady known allowed executed
    -- What was shown before is still kept, perhaps renewed.
    have earlier {stage : Stage} {other : Nat} (present : callers.stages other = some stage)
        (shown : Shown stage.journal snapshot) :
        ∃ saved, after.cache snapshot.account.id = some saved ∧
            accounts.Alike saved snapshot := by
      obtain ⟨saved, read, alike⟩ := kept.shown other stage present snapshot shown
      obtain ⟨renewed, again, same⟩ := steady _ saved read
      exact ⟨renewed, again, same.trans alike⟩
    rcases update_cases present with ⟨rfl, same⟩ | ⟨-, present⟩
    · cases same
      obtain ⟨entry, member, shows⟩ := shown
      rcases List.mem_cons.mp member with rfl | member
      · exact ⟨snapshot, kept.shows allowed executed shows, .refl snapshot⟩
      · exact earlier known ⟨entry, member, shows⟩
    · exact earlier present shown

theorem Kept.step
    {after : accounts.Callers}
    (kept : Kept before)
    (step : accounts.CallStep before event after) :
    Kept after := by
  have held := kept.held.step step
  have origin := fun thread stage (present : after.stages thread = some stage) =>
    step.stage_cases present
  cases step with
  | perform thread known allowed admitted executed =>
    exact kept.perform known allowed admitted executed
  | drift drifts => cases drifts
  | restart resets => cases resets
  | _ =>
    refine ⟨held, kept.ids, ?_, ?_⟩
    · intro other stage present compared
      rcases origin other stage present with ⟨call, -, rfl⟩ | ⟨_, _, _, ⟨⟩, -⟩ | ⟨present, -⟩
      · cases compared
      · exact kept.compared other stage present compared
    · intro other stage present snapshot shown
      rcases origin other stage present with ⟨call, -, rfl⟩ | ⟨_, _, _, ⟨⟩, -⟩ | ⟨present, -⟩
      · obtain ⟨entry, member, -⟩ := shown
        cases member
      · exact kept.shown other stage present snapshot shown

theorem Kept.start : @Kept accounts ⟨Memory.start, fun _ => none⟩ where
  held _ _ present := by cases present
  ids _ _ present := by cases present
  compared _ _ present := by cases present
  shown _ _ present := by cases present

/-- A run of the callers. -/
abbrev CallRun (accounts : RouterAccounts)
    (trace : List (Moment calls Call Memory))
    (callers : accounts.Callers) : Prop :=
  Protocol.Run accounts.machine accounts.custody Stage.start Memory.start trace callers

variable {trace : List (Moment calls Call Memory)}

theorem CallRun.kept (run : accounts.CallRun trace callers) : Kept callers :=
  Protocol.Run.invariant Kept.start Kept.step run

/-- The replies that are relied upon are the ones that are given. -/
theorem Kept.admits
    (kept : Kept callers)
    (executed : accounts.machine.exec thread callers.world effect reply after) :
    Stage.Admits effect reply := by
  obtain ⟨answer, acts⟩ := executed
  cases effect with
  | cached id =>
    cases acts
    intro saved read
    split at read
    · cases read
    · exact kept.ids id saved read
  | binding account =>
    cases acts
    intro saved read
    exact kept.ids account.id saved (Memory.cachedBinding_ok read).2
  | _ => trivial

variable {pool : Pool calls Call Memory}

theorem Run.callRun (run : accounts.Run trace pool) :
    ∃ callers, accounts.CallRun trace callers := by
  obtain ⟨stages, -, parties⟩ := Pool.Run.refines accounts.certificate
    (fun run _ _ executed => (CallRun.kept run).admits executed) run
  exact ⟨_, parties⟩

/-- A thread performed an effect. -/
def Did (thread : Nat) (moments : List (Moment calls Call Memory))
    (effect : Effect) (reply : effect.Reply) : Prop :=
  ∃ moment ∈ moments, moment.event = .performed thread effect reply

/-- A thread returns a snapshot. -/
def Returns (thread : Nat) (snapshot : Snapshot)
    (moment : Moment calls Call Memory) : Prop :=
  moment.event = .performed thread (.finish (.ok (.snapshot snapshot))) ()

/-- What a call is known to have done happened since it was started. -/
def Recorded (trace : List (Moment calls Call Memory)) (thread : Nat)
    (stage : Stage) : Prop :=
  ∃ before spawn during, trace = before ++ spawn :: during ∧
    spawn.event = .spawned thread stage.call ∧
    (∀ moment ∈ during, ∀ call, moment.event ≠ .spawned thread call) ∧
    ∀ entry ∈ stage.journal, Did thread during entry.1 entry.2

theorem Recorded.extend
    {later : Stage}
    (recorded : Recorded trace thread stage)
    (moment : Moment calls Call Memory)
    (same : ∀ call, moment.event ≠ .spawned thread call)
    (sameCall : later.call = stage.call)
    (journal : ∀ entry ∈ later.journal, entry ∈ stage.journal ∨
      moment.event = .performed thread entry.1 entry.2) :
    Recorded (trace ++ [moment]) thread later := by
  obtain ⟨before, spawn, during, rfl, spawned, once, did⟩ := recorded
  refine ⟨before, spawn, during ++ [moment], by simp, sameCall ▸ spawned, ?_, ?_⟩
  · intro other member
    rcases List.mem_append.mp member with member | member
    · exact once other member
    · obtain rfl := List.mem_singleton.mp member
      exact same
  · intro entry member
    rcases journal entry member with earlier | happened
    · obtain ⟨other, inside, happened⟩ := did entry earlier
      exact ⟨other, List.mem_append_left _ inside, happened⟩
    · exact ⟨moment, List.mem_append_right _ (List.mem_singleton_self _), happened⟩

theorem CallRun.recorded (run : accounts.CallRun trace callers) :
    ∀ thread stage, callers.stages thread = some stage →
      Recorded trace thread stage := by
  refine Protocol.Run.record (fun trace callers => ∀ thread stage,
    callers.stages thread = some stage → Recorded trace thread stage) ?_ ?_ run
  · intro thread stage present
    cases present
  · intro trace before event after recorded taken other stage present
    rcases taken.stage_cases present with ⟨call, rfl, rfl⟩ |
      ⟨current, effect, reply, rfl, known, -, -, rfl⟩ | ⟨present, apart, -⟩
    · exact ⟨trace, _, [], rfl, rfl, by simp, by simp [Stage.start]⟩
    · refine (recorded other current known).extend _ (by simp) rfl ?_
      intro entry member
      rcases List.mem_cons.mp member with rfl | member
      · exact .inr rfl
      · exact .inl member
    · refine (recorded other stage present).extend _ ?_ rfl fun _ => .inl
      rintro call rfl
      exact apart rfl

theorem Kept.steady_step
    {after : accounts.Callers}
    (kept : Kept before)
    (step : accounts.CallStep before event after) :
    accounts.Steady before.world after.world := by
  cases step with
  | perform thread known allowed admitted executed => exact kept.steady known allowed executed
  | drift drifts => cases drifts
  | restart resets => cases resets
  | _ => exact fun id saved present => ⟨saved, present, .refl saved⟩

theorem CallRun.returned (run : accounts.CallRun trace callers) :
    Kept callers ∧ ∀ moment ∈ trace,
      ∀ thread snapshot, Returns thread snapshot moment →
      ∃ saved, callers.world.cache snapshot.account.id = some saved ∧
      accounts.Alike saved snapshot := by
  refine Protocol.Run.record (fun trace callers => Kept callers ∧
    ∀ moment ∈ trace, ∀ thread snapshot, Returns thread snapshot moment →
      ∃ saved, callers.world.cache snapshot.account.id = some saved ∧
        accounts.Alike saved snapshot) ⟨Kept.start, by simp⟩ ?_ run
  rintro trace before event after ⟨kept, returned⟩ taken
  refine ⟨kept.step taken, fun moment member thread snapshot returns => ?_⟩
  have steady := kept.steady_step taken
  have saved : ∃ saved, before.world.cache snapshot.account.id = some saved ∧
      accounts.Alike saved snapshot := by
    rcases List.mem_append.mp member with member | member
    · exact returned moment member thread snapshot returns
    · obtain rfl := List.mem_singleton.mp member
      unfold Returns at returns
      cases taken with
      | @perform world stage effect reply other known allowed admitted executed =>
        cases returns
        exact kept.shown thread stage known snapshot allowed.1
      | _ => cases returns
  obtain ⟨saved, present, alike⟩ := saved
  obtain ⟨renewed, again, same⟩ := steady _ saved present
  exact ⟨renewed, again, same.trans alike⟩

theorem Run.bound_returns
    {before during later : List (Moment calls Call Memory)}
    {spawn moment : Moment calls Call Memory}
    (run : accounts.Run (before ++ spawn :: (during ++ moment :: later)) pool)
    {id : UUID}
    (spawned : spawn.event = .spawned thread (.bound id))
    (returns : Returns thread snapshot moment) :
    ∃ journal, Serves journal id snapshot ∧
      ∀ entry ∈ journal, Did thread during entry.1 entry.2 := by
  have once := Pool.Run.spawned_once run spawned
  obtain ⟨callers, parties⟩ := Run.callRun run
  have split : before ++ spawn :: (during ++ moment :: later) =
      (before ++ spawn :: during) ++ moment :: later := by simp
  rw [split] at parties
  obtain ⟨earlier, after, parties, step, -⟩ := parties.at
  unfold Returns at returns
  rw [returns] at step
  cases step with
  | @perform world stage effect reply other known allowed admitted executed =>
    obtain ⟨start, own, since, whole, starts, never, did⟩ :=
      CallRun.recorded parties thread stage known
    -- A thread serves one call, so the recorded start is the given one.
    obtain ⟨-, rfl, rfl⟩ := @split_last_unique _ (fun moment : Moment calls Call Memory =>
        ∃ call, moment.event = .spawned thread call)
      _ _ _ _ _ _ whole ⟨_, spawned⟩ ⟨_, starts⟩
      (fun moment member ⟨call, again⟩ => once moment (by simp [member]) call again)
      (fun moment member ⟨call, again⟩ => never moment member call again)
    rw [spawned] at starts
    obtain ⟨-, same⟩ := Event.spawned.inj starts
    exact ⟨stage.journal, allowed.2 id same.symm, did⟩

end RouterAccounts

open RouterAccounts in
/-- Whatever the account service answers and whatever happens to the registry,
all snapshots that are returned for an account have the same workspace and the
same email.  A bound turn gets the account that the registry lists, with a
credential that lives for more than a minute or one that is new and not
expired. -/
theorem accounts_keep_one_workspace
    {accounts : RouterAccounts}
    {trace : List (Moment calls Call Memory)}
    {pool : Pool calls Call Memory}
    (run : accounts.Run trace pool) :
    (∀ first ∈ trace, ∀ second ∈ trace, ∀ thread other one two,
        Returns thread one first → Returns other two second →
        one.account.id = two.account.id → accounts.Alike one two) ∧
      ∀ before spawn during moment later thread id snapshot,
        trace = before ++ spawn :: (during ++ moment :: later) →
        spawn.event = .spawned thread (.bound id) →
        Returns thread snapshot moment →
        ((∃ reading : Rat, Did thread during .now reading ∧
            snapshot.credential.expiresAt - reading > 60) ∨
          (∃ account timestamp, Did thread during
            (.authenticate account timestamp) (.ok snapshot.credential)) ∧
          ∃ reading : Rat, Did thread during .now reading ∧
            snapshot.credential.expiresAt > reading) ∧
        snapshot.account.id = id ∧
        ∃ state, Did thread during .registry (.ok state) ∧
          id ∈ state.accounts.map TurnrailAccount.id := by
  refine ⟨?_, ?_⟩
  · intro first memberFirst second memberSecond thread other one two returnsOne returnsTwo same
    obtain ⟨callers, parties⟩ := Run.callRun run
    obtain ⟨-, returned⟩ := CallRun.returned parties
    obtain ⟨saved, present, alike⟩ := returned first memberFirst thread one returnsOne
    obtain ⟨again, presentAgain, alikeAgain⟩ :=
      returned second memberSecond other two returnsTwo
    rw [← same, present] at presentAgain
    cases presentAgain
    exact alike.symm.trans alikeAgain
  · rintro before spawn during moment later thread id snapshot rfl spawned returns
    obtain ⟨journal, serves, did⟩ := Run.bound_returns run spawned returns
    obtain ⟨state, account, saved, listed, found, -, identity, valid⟩ := serves
    refine ⟨?_, identity, state, did _ listed, ?_⟩
    · obtain ⟨reading, read, lasts⟩
        | ⟨⟨account, timestamp, granted⟩, reading, read, lasts⟩ := valid
      · exact .inl ⟨reading, did _ read, lasts⟩
      · exact .inr ⟨⟨account, timestamp, did _ granted⟩, reading, did _ read, lasts⟩
    · rw [← registered_id found]
      exact List.mem_map_of_mem (List.mem_of_find?_eq_some found)

namespace RouterAccounts

variable {moment : Moment calls Call Memory}

theorem Rehearsal.returns
    {thread : Nat}
    {token : String}
    (reached : (returning thread token).wanted moment = true) :
    ∃ snapshot, Returns thread snapshot moment ∧ snapshot.account.id = ⟨1⟩ ∧
      snapshot.credential.accessToken = token := by
  have seen : returned moment = some (thread, ⟨1⟩, token) := of_decide_eq_true reached
  unfold returned at seen
  split at seen
  · rename_i other snapshot reply happened
    simp only [Option.some.injEq, Prod.mk.injEq] at seen
    obtain ⟨rfl, identity, token⟩ := seen
    exact ⟨snapshot, happened, identity, token⟩
  · cases seen

theorem Rehearsal.starts
    {thread : Nat}
    (reached : (binding thread).wanted moment = true) :
    moment.event = .spawned thread (.bound ⟨1⟩) := by
  unfold binding at reached
  dsimp only at reached
  split at reached
  · rename_i other id happened
    obtain ⟨rfl, rfl⟩ := of_decide_eq_true reached
    exact happened
  · cases reached

/-- An account is selected, and a turn that is bound to it renews its credential
shortly before it expires. -/
def Rehearsal.renewal : Script :=
  .spawn 0 (.select "/folder") ::
    go 0 17 (answers 0 (credential "first" 100) (.ok .available)) ++
    .spawn 1 (.bound ⟨1⟩) :: go 1 12 (answers 50 (credential "second" 200) (.ok .available))

end RouterAccounts

open RouterAccounts in
/-- A renewed credential belongs to the workspace of the account that was
selected, and was granted to the turn that uses it. -/
theorem renewed_credential_keeps_workspace :
    ∃ trace pool, Rehearsal.service.Run trace pool ∧
      ∃ before first between spawn during second later one two,
        trace =
          before ++ first :: (between ++ spawn :: (during ++ second :: later)) ∧
        Returns 0 one first ∧ one.credential.accessToken = "first" ∧
        spawn.event = .spawned 1 (.bound ⟨1⟩) ∧
        Returns 1 two second ∧ two.credential.accessToken = "second" ∧
        two.account.id = ⟨1⟩ ∧ Rehearsal.service.Alike one two := by
  obtain ⟨trace, pool, run, visited⟩ := Rehearsal.run Rehearsal.renewal
    [Rehearsal.returning 0 "first", Rehearsal.binding 1,
      Rehearsal.returning 1 "second"] (fun _ => true) (by decide +kernel)
  obtain ⟨before, first, rest, rfl, -, returnsFirst, visited⟩ := split_of_visits visited
  obtain ⟨between, spawn, rest, rfl, -, starts, visited⟩ := split_of_visits visited
  obtain ⟨during, second, later, rfl, -, returnsSecond, -⟩ := split_of_visits visited
  obtain ⟨one, returnsOne, identityOne, tokenOne⟩ := Rehearsal.returns returnsFirst
  obtain ⟨two, returnsTwo, -, tokenTwo⟩ := Rehearsal.returns returnsSecond
  have spawned := Rehearsal.starts starts
  obtain ⟨same, bound⟩ := accounts_keep_one_workspace run
  obtain ⟨-, identity, -⟩ := bound (before ++ first :: between) spawn during
    second later 1 ⟨1⟩ two (by simp) spawned returnsTwo
  exact ⟨_, pool, run, before, first, between, spawn, during, second, later, one,
    two, rfl, returnsOne, tokenOne, spawned, returnsTwo, tokenTwo, identity,
    same first (by simp) second (by simp) 0 1 one two returnsOne returnsTwo
      (identityOne.trans identity.symm)⟩

end Turnrail
