import Turnrail.Settings.Freshness

/-!
# Who concludes a login in Settings

However the operations interleave, a login is concluded by the operation that
started it, and the account it is about is still what it was.
-/

namespace Turnrail

open Interleaving TurnrailViewModel.Rehearsal

namespace TurnrailViewModel

/-- The effects with which an operation goes on with its login or ends it. -/
def Effect.concludes : Effect → Bool
  | .newAccount | .completeAdd _ _ | .finishAdd | .failAdd _ _ | .completeReauthentication _ _
  | .failReauthentication _ _ | .finishLogin => true
  | _ => false

/-- An effect finds its login and its account as the operation left them. -/
structure Effect.Owned {settings : Settings} (model : Model settings) (thread : Nat)
    (effect : Effect) : Prop where
  login : effect.concludes = true → model.loginTask = some thread
  adds : ∀ id identity, effect = .completeAdd id identity → id ∉ model.ids
  reauthenticates : ∀ id, (∃ identity, effect = .completeReauthentication id identity) ∨
      (∃ error, effect = .failReauthentication id error) →
    id ∈ model.ids ∧ id ∉ model.removing ∧ model.authStatus id = some .loginInProgress
  removes : ∀ id outcome, effect = .completeRemove id outcome → id ∈ model.removing

theorem Stage.Fits.owned
    {settings : Settings}
    {model : Model settings}
    {thread : Nat}
    {stage : Stage}
    {effect : Effect}
    (fits : stage.Fits model.view thread)
    (allowed : stage.Allows effect) :
    effect.Owned model thread where
  login concludes := by
    refine fits.session.holds ?_
    cases effect with
    | finishAdd | failAdd | finishLogin => exact allowed
    | newAccount | completeAdd | completeReauthentication | failReauthentication =>
      rw [show stage.session = _ from allowed]
      nofun
    | _ => cases concludes
  adds id identity same := by
    subst same
    have session := fits.session
    rw [show stage.session = .adding id from allowed] at session
    exact session.2.2
  reauthenticates id concludes := by
    have session := fits.session
    have signing : stage.session = .reauthenticating id := by
      rcases concludes with ⟨_, rfl⟩ | ⟨_, rfl⟩ <;> exact allowed
    rw [signing] at session
    exact ⟨session.2.registered, session.2.stays, session.2.busy⟩
  removes id outcome same := by
    subst same
    exact fits.removing id allowed

end TurnrailViewModel

open TurnrailViewModel in
/-- In every run a login is concluded only by the operation that started it.  An
account that is added is not registered before, one that signs in again is still
registered and nobody removes it, and only accounts that are being removed are. -/
theorem logins_are_concluded_by_their_operation
    {settings : Settings}
    {files : Files}
    {file : Option settings.codec.Bytes}
    {lastUsed : UUID → AccountLastUsedStatus}
    {trace : List (Moment TurnrailViewModel.operations Call (Model settings))}
    {pool : Pool TurnrailViewModel.operations Call (Model settings)}
    (run : Run settings (Model.start settings files file lastUsed) trace pool) :
    ∀ earlier moment later thread effect reply,
      trace = earlier ++ moment :: later →
      moment.event = .performed thread effect reply →
      effect.Owned
        (worldAfter (Model.start settings files file lastUsed) earlier)
        thread := by
  rintro earlier moment later thread effect reply rfl happened
  obtain ⟨stages, -, followed⟩ :=
    run.refines (TurnrailViewModel.certificate settings) fun _ _ _ _ => trivial
  obtain ⟨before, after, ran, taken, -⟩ := followed.at
  rw [happened] at taken
  rw [← ran.world_eq]
  cases taken with
  | perform _ known allowed => exact ((recorded_of_run ran).fits thread _ known).owned allowed

namespace TurnrailViewModel.Rehearsal

/-- An account is removed and added again. -/
def addition : List (Command Environment Call) :=
  [.spawn 0 (.remove ⟨1⟩), .run 0 (host 2), .run 0 (host 3), .run 0 (host 3),
    .spawn 1 .addAccount] ++ (List.range 12).map fun step => .run 1 (host (step + 5))

/-- The account is added. -/
def adding : Goal (Moment TurnrailViewModel.operations Call (Model settings)) where
  wanted moment :=
    match moment.event with
    | .performed thread (.completeAdd id _) (.ok ()) => decide (thread = 1 ∧ id = ⟨6⟩)
    | _ => false

/-- The login ends. -/
def finishing : Goal (Moment TurnrailViewModel.operations Call (Model settings)) where
  wanted moment :=
    match moment.event with
    | .performed thread .finishAdd _ => decide (thread = 1)
    | _ => false

end TurnrailViewModel.Rehearsal

open TurnrailViewModel in
/-- An account is added under a new id, by the operation that then ends its
login. -/
theorem added_account_ends_its_login :
    ∃ trace pool, Run settings opened trace pool ∧
      ∃ earlier added between finished later identity,
      trace = earlier ++ added :: (between ++ finished :: later) ∧
      added.event = .performed 1 (.completeAdd ⟨6⟩ identity) (.ok ()) ∧
      (⟨6⟩ : UUID) ∉ (worldAfter opened earlier).ids ∧
      finished.event = .performed 1 .finishAdd () ∧
      (worldAfter opened (earlier ++ added :: between)).loginTask = some 1 := by
  obtain ⟨trace, pool, run, visited⟩ := run addition [adding, finishing] (by decide +kernel)
  obtain ⟨earlier, added, rest, rfl, -, adds, visited⟩ := split_of_visits visited
  obtain ⟨between, finished, later, rfl, -, finishes, -⟩ := split_of_visits visited
  have owned := logins_are_concluded_by_their_operation run
  simp only [adding] at adds
  simp only [finishing] at finishes
  split at adds
  · rename_i thread id identity happened
    obtain ⟨rfl, rfl⟩ := of_decide_eq_true adds
    split at finishes
    · rename_i thread reply ended
      obtain rfl := of_decide_eq_true finishes
      exact ⟨_, pool, run, earlier, added, between, finished, later, identity, rfl, happened,
        (owned _ _ _ _ _ _ rfl happened).adds _ _ rfl, ended,
        (owned (earlier ++ added :: between) _ later _ _ _ (by simp) ended).login rfl⟩
    · cases finishes
  · cases adds

end Turnrail
