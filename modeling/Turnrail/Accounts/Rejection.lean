import Turnrail.Accounts.Workspace

/-!
# Rejected credentials

A call that finds the credentials of an account rejected keeps that in mind, and
a bound turn is refused until an inspection accepts the account again.  An
inspection that authenticated the account before the rejection still accepts it
afterwards.  This happens only if the rejection falls between the two steps of
that inspection; a selection that reads quota rejects without the recursive
lock, so nothing prevents it.
-/

namespace Turnrail

open Interleaving

namespace RouterAccounts

variable {accounts : RouterAccounts}

/-- An inspection of an account has a new credential that it has not kept
yet. -/
def Standing.Pending (standing : Standing) (id : UUID) : Prop :=
  standing.inspecting = true ∧ ∃ account credential,
    standing.fresh = some (account, credential) ∧ account.id = id

/-- How far a thread has come with a new credential after a moment. -/
def Standing.after (accounts : RouterAccounts) (thread : Nat)
    (standing : Standing) (moment : Moment calls Call Memory) : Standing :=
  match moment.event with
  | .spawned other _ => if other = thread then .start else standing
  | .performed other effect reply =>
    if other = thread then standing.next accounts effect reply else standing
  | _ => standing

/-- How far a thread has come with a new credential. -/
def standing (accounts : RouterAccounts)
    (trace : List (Moment calls Call Memory)) (thread : Nat) : Standing :=
  trace.foldl (Standing.after accounts thread) .start

/-- Whenever the credentials of an account are rejected, no other inspection of
the account has a new credential that it has not kept yet. -/
def Undisturbed (accounts : RouterAccounts)
    (trace : List (Moment calls Call Memory)) : Prop :=
  ∀ earlier rejection later thread id, trace = earlier ++ rejection :: later →
    rejection.event = .performed thread (.reject id) () →
    ∀ other, other ≠ thread → ¬ (accounts.standing earlier other).Pending id

/-- A turn that asks for its account after the credentials were rejected only
gets it if the account was authenticated since. -/
def StaysRejected (trace : List (Moment calls Call Memory)) : Prop :=
  ∀ earlier rejection between spawn during moment later caller thread id snapshot,
    trace = earlier ++ rejection :: (between ++ spawn :: (during ++ moment :: later)) →
    rejection.event = .performed caller (.reject id) () →
    spawn.event = .spawned thread (.bound id) →
    Returns thread snapshot moment →
    ∃ other account timestamp credential, account.id = id ∧
      Did other (between ++ spawn :: during)
        (.authenticate account timestamp) (.ok credential)

theorem CallRun.standing
    {trace : List (Moment calls Call Memory)}
    {callers : accounts.Callers}
    (run : accounts.CallRun trace callers) :
    ∀ thread (stage : Stage), callers.stages thread = some stage →
      stage.standing = accounts.standing trace thread := by
  refine Protocol.Run.record (fun trace callers => ∀ thread (stage : Stage),
    callers.stages thread = some stage →
      stage.standing = accounts.standing trace thread) ?_ ?_ run
  · intro thread stage present
    cases present
  · intro trace before event after standing taken other stage present
    have last : accounts.standing (trace ++ [⟨event, after.world⟩]) other =
        (accounts.standing trace other).after accounts other ⟨event, after.world⟩ := by
      simp [RouterAccounts.standing]
    rw [last]
    rcases taken.stage_cases present with ⟨call, rfl, rfl⟩ |
      ⟨current, effect, reply, rfl, known, -, -, rfl⟩ | ⟨present, apart, -⟩
    · simp [Standing.after, Stage.start]
    · rw [← standing other current known]
      simp [Standing.after, Stage.next]
    · rw [standing other stage present]
      cases event with
      | spawned | performed => exact (if_neg apart).symm
      | _ => rfl

/-- The credentials of an account are rejected, and no inspection can accept the
account without authenticating it again. -/
def Barred (id : UUID) (callers : accounts.Callers) : Prop :=
  id ∈ callers.world.rejected ∧ ∀ thread (stage : Stage), callers.stages thread = some stage →
      ¬ stage.standing.Pending id

variable {effect : Effect} {reply : effect.Reply} {id : UUID} {thread : Nat}

theorem Standing.Pending.earlier
    {standing : Standing}
    (pending : (standing.next accounts effect reply).Pending id)
    (other : ∀ account timestamp credential, account.id = id → (⟨effect,
          reply⟩ : Entry) ≠ ⟨.authenticate account timestamp, .ok credential⟩) :
    standing.Pending id := by
  obtain ⟨inspecting, account, credential, fresh, same⟩ := pending
  cases effect with
  | authenticate asked timestamp =>
    cases reply with
    | error error => cases fresh
    | ok granted =>
      obtain ⟨rfl, rfl⟩ := Prod.mk.inj (Option.some.inj fresh)
      exact absurd rfl (other asked timestamp granted same)
  | cached | binding | release | reject | commit | renew => cases fresh
  | saved id => exact ⟨inspecting, account, credential, fresh, same⟩
  | _ => exact ⟨inspecting, account, credential, fresh, same⟩

theorem exec_rejected
    {memory after : Memory}
    (executed : accounts.machine.exec thread memory effect reply after)
    (rejected : id ∈ memory.rejected)
    (other : ∀ snapshot, effect = .commit snapshot → snapshot.account.id ≠ id) :
    id ∈ after.rejected := by
  obtain ⟨answer, acts⟩ := executed
  cases effect with
  | acquire =>
    obtain ⟨reached, taken, same⟩ := Option.map_eq_some_iff.mp acts
    cases same
    unfold Memory.acquire at taken
    split at taken
    · cases taken
      exact rejected
    · split at taken
      · cases taken
        exact rejected
      · cases taken
  | release =>
    cases acts
    unfold Memory.release
    split <;> exact rejected
  | reject own =>
    cases acts
    exact List.mem_insert_of_mem rejected
  | commit snapshot =>
    cases acts
    have different := other snapshot rfl
    simpa [Memory.keep, rejected] using Ne.symm different
  | _ =>
    cases acts
    exact rejected

variable {before after : accounts.Callers}

theorem Barred.step
    {event : Event calls Call}
    {id : UUID}
    (barred : Barred id before)
    (step : accounts.CallStep before event after)
    (other : ∀ thread account timestamp credential, account.id = id → event ≠
        .performed thread (.authenticate account timestamp) (.ok credential)) :
    Barred id after := by
  obtain ⟨rejected, none⟩ := barred
  refine ⟨?_, fun caller stage present pending => ?_⟩
  · cases step with
    | @perform world stage effect reply thread known allowed admitted executed =>
      refine exec_rejected executed rejected ?_
      rintro snapshot rfl same
      refine none thread stage known ⟨?_, snapshot.account,
        snapshot.credential, ?_, same⟩ <;> rw [allowed.2]
    | drift drifts => cases drifts
    | restart resets => cases resets
    | _ => exact rejected
  · rcases step.stage_cases present with ⟨call, -, rfl⟩ |
      ⟨current, effect, reply, rfl, known, -, -, rfl⟩ | ⟨present, -⟩
    · cases pending.1
    · refine none caller current known (pending.earlier ?_)
      intro account timestamp credential same entry
      cases entry
      exact other caller account timestamp credential same rfl
    · exact none caller stage present pending

theorem barred_of_reject
    (step : accounts.CallStep before (.performed thread (.reject id) ()) after)
    (none : ∀ other (stage : Stage), before.stages other = some stage →
      other ≠ thread → ¬ stage.standing.Pending id) :
    Barred id after := by
  cases step with
  | perform thread known allowed admitted executed =>
    obtain ⟨answer, acts⟩ := executed
    cases acts
    refine ⟨List.mem_insert_self, fun other stage present pending => ?_⟩
    rcases update_cases present with ⟨rfl, same⟩ | ⟨different, present⟩
    · cases same
      obtain ⟨-, account, credential, fresh, -⟩ := pending
      cases fresh
    · exact none other stage present different pending

theorem not_barred_of_binding
    {account : TurnrailAccount}
    {saved : Option Snapshot}
    (step : accounts.CallStep before
      (.performed thread (.binding account) (.ok saved)) after) :
    ¬ Barred account.id before := by
  rintro ⟨rejected, -⟩
  cases step with
  | perform thread known allowed admitted executed =>
    obtain ⟨answer, acts⟩ := executed
    have read : before.world.cachedBinding accounts account = .ok saved :=
      congrArg Prod.fst (Option.some.inj acts)
    exact (Memory.cachedBinding_ok read).1 rejected

end RouterAccounts

open RouterAccounts in
/-- If no rejection falls between the authentication and the end of another
inspection of the account, a turn that asks for its account after a rejection
only gets it if the account was authenticated since. -/
theorem rejection_holds_when_undisturbed
    {accounts : RouterAccounts}
    {trace : List (Moment calls Call Memory)}
    {pool : Pool calls Call Memory}
    (run : accounts.Run trace pool)
    (undisturbed : accounts.Undisturbed trace) :
    StaysRejected trace := by
  rintro earlier rejection between spawn during moment later caller thread id
    snapshot rfl rejects spawned returns
  by_contra never
  have split : earlier ++ rejection :: (between ++ spawn :: (during ++ moment :: later)) =
      (earlier ++ rejection :: between) ++ spawn :: (during ++ moment :: later) := by simp
  obtain ⟨journal, serves, did⟩ := by
    rw [split] at run
    exact Run.bound_returns run spawned returns
  obtain ⟨state, account, saved, -, found, bound, -, -⟩ := serves
  obtain ⟨use, member, uses⟩ := did _ bound
  obtain ⟨first, second, rfl⟩ := List.append_of_mem member
  obtain ⟨callers, parties⟩ := Run.callRun run
  -- Up to the moment in which the turn finds its account, nobody authenticates.
  have upToUse : earlier ++ rejection :: (between ++ spawn ::
      ((first ++ use :: second) ++ moment :: later)) =
      (earlier ++ rejection :: (between ++ spawn :: first)) ++
        use :: (second ++ moment :: later) := by simp
  rw [upToUse] at parties
  obtain ⟨reached, after, parties, step, -⟩ := parties.at
  obtain ⟨before, next, begun, rejecting, -, onward⟩ := parties.onward
  have barred : Barred id reached := by
    refine (onward (Barred id) ?_ ?_).1
    · rw [rejects] at rejecting
      refine barred_of_reject rejecting fun other stage present different => ?_
      rw [CallRun.standing begun other stage present]
      exact undisturbed earlier rejection _ caller id rfl rejects other different
    · intro trace before event after _ inside taken barred
      refine barred.step taken ?_
      rintro other account timestamp credential same rfl
      refine never ⟨other, account, timestamp, credential, same,
        ⟨.performed other (.authenticate account timestamp) (.ok credential),
          after.world⟩, ?_, rfl⟩
      simp only [List.mem_append, List.mem_cons] at inside ⊢
      tauto
  rw [uses] at step
  rw [← registered_id found] at barred
  exact not_barred_of_binding step barred

namespace RouterAccounts

/-- The account is rejected. -/
def Rehearsal.isRejection (moment : Moment calls Call Memory) : Bool :=
  match moment.event with
  | .performed _ (.reject id) _ => decide (id = ⟨1⟩)
  | _ => false

/-- A check of the credential passes, and the account is not rejected. -/
def Rehearsal.isIdle (moment : Moment calls Call Memory) : Bool :=
  match moment.event with
  | .performed _ (.authenticate _ _) (.ok _) => false
  | _ => true

theorem Rehearsal.rejects
    {moment : Moment calls Call Memory}
    (reached : isRejection moment = true) :
    ∃ thread, moment.event = .performed thread (.reject ⟨1⟩) () := by
  unfold isRejection at reached
  split at reached
  · rename_i thread id reply happened
    cases of_decide_eq_true reached
    exact ⟨thread, happened⟩
  · cases reached

theorem Rehearsal.idle
    {moments : List (Moment calls Call Memory)}
    (all : ∀ moment ∈ moments, isIdle moment = true)
    {thread : Nat}
    {account : TurnrailAccount}
    {timestamp : Rat}
    {credential : RouterCredential} :
    ¬ Did thread moments
      (.authenticate account timestamp) (.ok credential) := by
  rintro ⟨moment, member, happened⟩
  have passes := all moment member
  simp [isIdle, happened] at passes

/-- A selection waits for quota while another call inspects the account again.
The quota is refused after the inspection authenticated the account, and the
inspection accepts the account nevertheless. -/
def Rehearsal.race : Script :=
  .spawn 0 (.select "/folder") ::
    go 0 13 (answers 0 (credential "first" 1000) (.ok .available)) ++
    .spawn 1 (.inspect account) ::
      go 1 5 (answers 61 (credential "second" 2000) (.ok .available)) ++
      go 0 3 (answers 61 (credential "third" 2000) (.error (.unavailable .loginRequired))) ++
      go 1 6 (answers 61 (credential "second" 2000) (.ok .available)) ++
      .spawn 2 (.bound ⟨1⟩) :: go 2 4 (answers 61 (credential "third" 2000) (.ok .available))

end RouterAccounts

open RouterAccounts in
/-- A turn gets a rejected account although nobody authenticated it since. -/
theorem raced_rejection_is_lost :
    ∃ trace pool, Rehearsal.service.Run trace pool ∧ ¬ StaysRejected trace := by
  obtain ⟨trace, pool, run, visited⟩ := Rehearsal.run Rehearsal.race
    [{ wanted := Rehearsal.isRejection },
      { Rehearsal.binding 2 with passing := Rehearsal.isIdle },
      { Rehearsal.returning 2 "second" with passing := Rehearsal.isIdle }]
    (fun _ => true) (by decide +kernel)
  obtain ⟨earlier, rejection, rest, rfl, -, rejected, visited⟩ := split_of_visits visited
  obtain ⟨between, spawn, rest, rfl, idleBetween, starts, visited⟩ := split_of_visits visited
  obtain ⟨during, moment, later, rfl, idleDuring, returned, -⟩ := split_of_visits visited
  obtain ⟨caller, rejects⟩ := Rehearsal.rejects rejected
  obtain ⟨snapshot, returns, -, -⟩ := Rehearsal.returns returned
  have spawned := Rehearsal.starts starts
  refine ⟨_, pool, run, fun stays => ?_⟩
  obtain ⟨other, account, timestamp, credential, -, did⟩ := stays earlier
    rejection between spawn during moment later caller 2 ⟨1⟩ snapshot rfl rejects
    spawned returns
  refine Rehearsal.idle (fun other member => ?_) did
  rcases List.mem_append.mp member with member | member
  · exact idleBetween other member
  · rcases List.mem_cons.mp member with rfl | member
    · simp [Rehearsal.isIdle, spawned]
    · exact idleDuring other member

namespace RouterAccounts

/-- Whether an inspection has a new credential that it has not kept yet. -/
def Standing.isPending (standing : Standing) (id : UUID) : Bool :=
  standing.inspecting && standing.fresh.any fun fresh => fresh.1.id == id

theorem Standing.Pending.isPending
    {standing : Standing}
    {id : UUID}
    (pending : standing.Pending id) :
    standing.isPending id = true := by
  obtain ⟨inspecting, account, credential, fresh, same⟩ := pending
  simp [Standing.isPending, inspecting, fresh, same]

/-- The event belongs to one of the first threads. -/
def Rehearsal.isAmong (threads : Nat) (moment : Moment calls Call Memory) :
    Bool :=
  match moment.event with
  | .spawned thread _ | .performed thread _ _ => decide (thread < threads)
  | _ => true

/-- A moment that does not reject an account while another of the first threads
has a new credential. -/
def Rehearsal.isCalm (threads : Nat) (earlier : List (Moment calls Call Memory))
    (moment : Moment calls Call Memory) : Bool :=
  match moment.event with
  | .performed thread (.reject id) _ =>
    (List.range threads).all fun other =>
      other == thread || !(service.standing earlier other).isPending id
  | _ => true

/-- No other thread acts after the rejection. -/
def Rehearsal.calm (threads : Nat) :
    List (Moment calls Call Memory) → List (Moment calls Call Memory) → Bool
  | _, [] => true
  | earlier, moment :: later =>
    isAmong threads moment && isCalm threads earlier moment &&
      calm threads (earlier ++ [moment]) later

variable {threads : Nat}

theorem Rehearsal.standing_of_absent
    {other : Nat}
    (absent : threads ≤ other)
    (trace : List (Moment calls Call Memory))
    (among : ∀ moment ∈ trace, isAmong threads moment = true) :
    service.standing trace other = .start := by
  induction trace using List.reverseRecOn with
  | nil => rfl
  | append_singleton earlier moment ih =>
    have same := ih fun moment member => among moment (List.mem_append_left _ member)
    have inside := among moment (by simp)
    rw [standing, List.foldl_append, ← standing, same]
    unfold isAmong at inside
    simp only [List.foldl_cons, List.foldl_nil, Standing.after]
    split at inside <;> simp_all
    omega

theorem Rehearsal.calm_append
    {start earlier later : List (Moment calls Call Memory)}
    {moment : Moment calls Call Memory}
    (calms : calm threads start (earlier ++ moment :: later) = true) :
    (∀ other ∈ earlier, isAmong threads other = true) ∧
      isCalm threads (start ++ earlier) moment = true := by
  induction earlier generalizing start with
  | nil =>
    simp only [List.nil_append, calm, Bool.and_eq_true] at calms
    simpa using calms.1.2
  | cons first rest ih =>
    simp only [List.cons_append, calm, Bool.and_eq_true] at calms
    obtain ⟨among, onward⟩ := ih calms.2
    refine ⟨?_, by simpa using onward⟩
    intro other member
    rcases List.mem_cons.mp member with rfl | member
    · exact calms.1.1
    · exact among other member

theorem Rehearsal.undisturbed
    {trace : List (Moment calls Call Memory)}
    (calms : calm threads [] trace = true) :
    service.Undisturbed trace := by
  rintro earlier rejection later thread id rfl rejects other different pending
  obtain ⟨among, calmly⟩ := calm_append calms
  rcases Nat.lt_or_ge other threads with inside | absent
  · simp only [isCalm, rejects, List.nil_append, List.all_eq_true, List.mem_range] at calmly
    have quiet := calmly other inside
    simp [different, pending.isPending] at quiet
  · rw [standing_of_absent absent earlier among] at pending
    cases pending.1

/-- The quota of the account is refused, another call inspects the account
afterwards, and a turn gets it. -/
def Rehearsal.revalidation : Script :=
  .spawn 0 (.select "/folder") ::
    go 0 13 (answers 0 (credential "first" 1000) (.ok .available)) ++
    go 0 3 (answers 61 (credential "third" 2000) (.error (.unavailable .loginRequired))) ++
    .spawn 1 (.inspect account) ::
      go 1 11 (answers 61 (credential "second" 2000) (.ok .available)) ++
      .spawn 2 (.bound ⟨1⟩) :: go 2 4 (answers 61 (credential "third" 2000) (.ok .available))

end RouterAccounts

open RouterAccounts in
/-- A turn gets an account that was rejected after it was authenticated again. -/
theorem rejected_account_is_authenticated_again :
    ∃ trace pool, Rehearsal.service.Run trace pool ∧
      Rehearsal.service.Undisturbed trace ∧ StaysRejected trace ∧
      visits [{ wanted := Rehearsal.isRejection }, Rehearsal.binding 2,
        Rehearsal.returning 2 "second"] (fun _ => true) trace = true := by
  obtain ⟨trace, pool, run, checked⟩ := Pool.rehearse Rehearsal.service.execution
    Rehearsal.revalidation
    (fun trace => visits [{ wanted := Rehearsal.isRejection },
      Rehearsal.binding 2, Rehearsal.returning 2 "second"] (fun _ => true)
        trace && Rehearsal.calm 3 [] trace)
    (by decide +kernel : ((Pool.idle Memory.start).simulate
      Rehearsal.service.execution Rehearsal.service.code
      Rehearsal.revalidation).any _ = true)
  obtain ⟨visited, calms⟩ := Bool.and_eq_true_iff.mp checked
  have undisturbed := Rehearsal.undisturbed calms
  exact ⟨trace, pool, run, undisturbed,
    rejection_holds_when_undisturbed run undisturbed, visited⟩

end Turnrail
