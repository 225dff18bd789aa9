import Turnrail.Runtime.Compliance.Response

/-!
# The error cascade follows the protocol

An error goes through four arms.  Each arm takes some errors over, and passes
on an error that the remaining arms still have to answer.  What is left at the
end stops the turn, and by then something was blamed for it.
-/

namespace Turnrail

open Interleaving RouterRuntime Routine.Follows

variable {host : Foundation}
variable {store : RouteState} {stage : Stage} {transport : Transport} {error : RouterError}

theorem Answerable.next
    {effect : Effect}
    (answers : Answerable transport error store stage)
    (outside : effect.outside = true)
    (reply : effect.Reply) :
    Answerable transport error store (stage.next host effect reply) := by
  have steady := @Stage.steady_next host stage effect outside reply
  refine ⟨steady.transport.trans answers.transport, ?_, ?_, ?_⟩
  · rw [steady.phase]
    exact answers.mayFail
  · rw [steady.phase]
    exact answers.holds
  · intro current
    rcases answers.blamed current with blamed | excused
    · simp [Stage.next, blamed]
    · right
      cases error with
      | plain error => exact excused
      | service failure =>
        refine ⟨?_, excused.2⟩
        rw [steady.transport]
        exact excused.1
      | transport failure =>
        refine ⟨excused.1, fun localClose => ?_⟩
        simp [Stage.next, excused.2 localClose]

/-- A diagnostic changes nothing that the cascade looks at. -/
theorem Answerable.reported
    {reported : RouterError}
    (answers : Answerable transport error store stage)
    (typed : ∀ plain, error ≠ .plain plain)
    (excused : Excused store stage error → Excused store stage reported) :
    Answerable transport reported store stage := by
  refine ⟨answers.transport, answers.mayFail, ?_, ?_⟩
  · intro turn fingerprint current admitted _
    exact answers.holds turn fingerprint current admitted typed
  · intro current
    exact (answers.blamed current).imp_right excused

theorem diagnose_follows (answers : Answerable transport error store stage) :
    Obeys host (diagnose transport error)
        store stage fun outcome reached current => reached = store ∧ ∃ reported,
      outcome = .ok reported ∧ Answerable transport reported store current := by
  cases error with
  | plain error => exact ⟨rfl, _, rfl, answers⟩
  | transport | service =>
    unfold diagnose
    refine get ?_
    refine obeys_perform trivial fun recorded _ => ?_
    have answers := @Answerable.next host _ _ _ _ _ answers rfl recorded
    cases recorded with
    | error | ok => exact ⟨rfl, _, rfl, answers.reported (by simp) id⟩

/-- What the cascade still excuses once a departed Engine was considered. -/
def ExcusedUpstream (transport : Transport) (store : RouteState) :
    RouterError → Prop
  | .transport failure => failure.permitsEngineRecovery = true
  | .service failure => tolerableService transport failure = true ∧
      store.submitted.isSome = true
  | .plain _ => False

/-- What the cascade still excuses once transport failures were considered. -/
def ExcusedService (transport : Transport) (store : RouteState) :
    RouterError → Prop
  | .service failure => tolerableService transport failure = true ∧
      store.submitted.isSome = true
  | _ => False

/-- What the cascade still excuses once expired connections were considered. -/
def ExcusedRetry (store : RouteState) : RouterError → Prop
  | .service failure => failure.permitsEngineRecovery = true ∧
      store.submitted.isSome = true
  | _ => False

/-- What an arm of the cascade passes on. -/
def Remains (transport : Transport) (store : RouteState)
    (excused : RouterError → Prop)
    (outcome : Except RouterError (Option RouterError))
    (reached : RouteState) (current : Stage) : Prop :=
  reached = store ∧ ∃ remaining, outcome = .ok remaining ∧ ∀ error, remaining = some error →
      Owed transport error (excused error) store current

/-- How the body of an arm ends. -/
def Handled (transport : Transport) (store : RouteState)
    (outcome : Except RouterError Unit) (reached : RouteState)
    (current : Stage) : Prop :=
  reached = store ∧ ∀ error, outcome = .error error →
    ∃ plain, error = .plain plain ∧ current.transport = transport ∧
      current.phase.mayFail = true ∧ current.blamed = true

theorem handled_ok {value : Unit} :
    Handled transport store (.ok value) store stage := by
  refine ⟨rfl, ?_⟩
  rintro error ⟨⟩

theorem handled_plain
    {error : PlainError}
    (transported : stage.transport = transport)
    (mayFail : stage.phase.mayFail = true)
    (blamed : stage.blamed = true) :
    Handled transport store (.error (.plain error)) store stage := by
  refine ⟨rfl, ?_⟩
  rintro _ ⟨⟩
  exact ⟨error, rfl, transported, mayFail, blamed⟩

variable {handler : Worker RouteState Unit}

theorem takeOver_follows
    (excused : RouterError → Prop)
    (handled : Obeys host handler store stage (Handled transport store)) :
    Obeys host
      (takeOver handler) store stage (Remains transport store excused) := by
  unfold takeOver
  refine attempt handled ?_
  rintro outcome reached current ⟨rfl, failed⟩
  cases outcome with
  | ok value =>
    refine ⟨rfl, none, rfl, ?_⟩
    rintro error ⟨⟩
  | error error =>
    obtain ⟨plain, rfl, transported, mayFail, blamed⟩ := failed error rfl
    refine ⟨rfl, _, rfl, ?_⟩
    rintro _ ⟨⟩
    refine ⟨transported, fun _ => mayFail, ?_, fun _ => .inl blamed⟩
    intro turn fingerprint _ _ differs
    exact absurd rfl (differs plain)

theorem Owed.remains
    {excused : Prop}
    {remaining : RouterError → Prop}
    (owed : Owed transport error excused store stage)
    (weakened : stage.blamed = true ∨ excused →
      store.currentTurn.isSome = true → stage.blamed = true ∨ remaining error) :
    Remains transport store remaining (.ok (some error)) store stage := by
  refine ⟨rfl, _, rfl, ?_⟩
  rintro _ ⟨⟩
  exact ⟨owed.transport, owed.mayFail, owed.holds,
    fun current => weakened (owed.blamed current) current⟩

theorem handled_released
    {call : LedgerCall}
    {error : PlainError}
    (transported : stage.transport = transport)
    (released : stage.phase.after call (.error error) = .released)
    (learns : stage.learn host (.ledger call) (.error error) =
      { stage with phase := stage.phase.after call (.error error) }) :
    Handled transport store (.error (.plain error)) store
      (stage.next host (.ledger call) (.error error)) := by
  refine handled_plain ?_ ?_ (Bool.or_true _)
  · simp only [Stage.next, learns]
    exact transported
  · simp only [Stage.next, learns, released]
    rfl

theorem cancelSubmitted_follows
    (transported : stage.transport = transport)
    (holds : ∀ turn fingerprint, store.currentTurn = some turn →
      store.submitted = some fingerprint →
      stage.phase.Holds fingerprint turn) :
    Obeys host cancelSubmitted store stage (Handled transport store) := by
  unfold cancelSubmitted
  refine get ?_
  cases current : store.currentTurn with
  | none => exact handled_ok
  | some currentTurn =>
    cases admitted : store.submitted with
    | none => exact handled_ok
    | some submitted =>
      have holds := holds currentTurn submitted current admitted
      refine obeys_ledger_last (.inl holds) ?_ ?_
      · intro error _
        refine handled_released transported ?_ rfl
        rcases holds with begun | sent
        · rw [begun]
          rfl
        · rw [sent]
          rfl
      · intro _ _
        exact handled_ok

theorem interruptSubmitted_follows
    {currentTurn : String}
    (transported : stage.transport = transport)
    (holds : ∀ fingerprint, store.submitted = some fingerprint →
      stage.phase.Holds fingerprint currentTurn) :
    Obeys host (interruptSubmitted currentTurn) store stage
      (Handled transport store) := by
  unfold interruptSubmitted
  refine get ?_
  cases admitted : store.submitted with
  | none => exact handled_ok
  | some submitted =>
    refine obeys_ledger_last (holds submitted admitted) ?_ ?_
    · intro error _
      exact handled_released transported rfl rfl
    · intro _ _
      exact handled_ok

theorem obeys_reported
    {message : String}
    (handled : Obeys host handler store stage (Handled transport store)) :
    Obeys host (do
        handler
        Worker.perform (.reportFailure message))
      store stage (Handled transport store) := by
  refine bind handled ?_ ?_
  · intro error reached current failed
    exact failed
  · rintro value reached current ⟨rfl, -⟩
    exact ⟨trivial, fun _ _ => handled_ok⟩

theorem handleCancellation_follows
    (answers : Answerable transport error store stage) :
    Obeys host (handleCancellation error) store stage
      (Remains transport store (ExcusedUpstream transport store)) := by
  cases error with
  | plain error => exact answers.remains fun excused _ => excused
  | service failure =>
    refine answers.remains fun excused _ => ?_
    rwa [Excused, answers.transport] at excused
  | transport failure =>
    unfold handleCancellation
    dsimp only
    by_cases localClose : failure.cause = .localClose
    · rw [if_pos localClose]
      refine obeys_perform trivial fun (stopped : Bool) _ => ?_
      have answers := @Answerable.next host store stage transport
        (.transport failure) .isStopped answers rfl stopped
      cases stopped with
      | true =>
        refine takeOver_follows
          _ (obeys_reported (cancelSubmitted_follows answers.transport ?_))
        intro turn fingerprint current admitted
        exact answers.holds turn fingerprint current admitted (by simp)
      | false =>
        -- A local close of an open connection was blamed just now.
        refine answers.remains fun excused _ => .inl ?_
        refine excused.elim id fun excused => ?_
        have closing : stage.closing = true := by
          simpa [Stage.next, closes] using excused.2 localClose
        simp [Stage.next, blames, closing]
    · rw [if_neg localClose]
      refine answers.remains fun excused _ => ?_
      refine excused.imp_right fun excused => ?_
      have tolerated := excused.1
      rwa [tolerableTransport, decide_eq_false localClose, Bool.false_or] at tolerated

theorem handleInterruption_follows
    (owed : Owed transport error
      (ExcusedUpstream transport store error) store stage) :
    Obeys host (handleInterruption error) store stage
      (Remains transport store (ExcusedService transport store)) := by
  cases error with
  | plain | service => exact owed.remains fun excused _ => excused
  | transport failure =>
    unfold handleInterruption
    refine get ?_
    split
    · rename_i permitted current
      refine takeOver_follows _ (obeys_reported (interruptSubmitted_follows owed.transport ?_))
      intro fingerprint admitted
      exact owed.holds _ _ current admitted (by simp)
    · rename_i refused
      refine owed.remains fun excused current => ?_
      obtain ⟨turn, current⟩ := Option.isSome_iff_exists.mp current
      refine .inl (excused.resolve_right fun permitted => ?_)
      exact refused turn permitted current

theorem recovery_frame_follows
    {object : Object}
    (transported : stage.transport = transport)
    (released : stage.phase = .released)
    (recovers : (Frame.event object).recovers = true) :
    Obeys host
      (Worker.frame (.event object)) store stage (Handled transport store) := by
  constructor
  · rintro _ ⟨⟩ completes
    simp [Frame.recovers, completes] at recovers
  · rintro (error | value) -
    · refine handled_plain transported ?_ ?_
      · change stage.phase.mayFail = true
        rw [released]
        rfl
      · simp [Stage.next, blames, recovers]
    · exact handled_ok

theorem handleConnectionLimit_follows
    (owed :
      Owed transport error (ExcusedService transport store error) store stage) :
    Obeys host (handleConnectionLimit transport error) store stage
      (Remains transport store (ExcusedRetry store)) := by
  cases error with
  | plain | transport => exact owed.remains fun excused _ => excused
  | service failure =>
    unfold handleConnectionLimit
    refine get ?_
    split
    · rename_i limited current admitted
      refine takeOver_follows _ ?_
      have holds := owed.holds _ _ current admitted (by simp)
      refine obeys_ledger holds ?_ ?_
      · intro error _
        exact handled_released owed.transport rfl rfl
      · intro _ _
        exact recovery_frame_follows owed.transport rfl rfl
    · rename_i refused
      refine owed.remains fun excused current => ?_
      obtain ⟨turn, current⟩ := Option.isSome_iff_exists.mp current
      refine excused.imp_right ?_
      rintro ⟨tolerated, admitted⟩
      obtain ⟨fingerprint, submitted⟩ := Option.isSome_iff_exists.mp admitted
      refine ⟨?_, admitted⟩
      rw [tolerableService, Bool.or_eq_true] at tolerated
      refine tolerated.resolve_left fun limited => ?_
      exact refused turn fingerprint limited current submitted

theorem waitForRecovery_follows (failure : RouterServiceFailure) :
    Obeys host (waitForRecovery failure)
        store stage fun outcome reached current => reached = store ∧
      stage.Steady current ∧ ∃ waited, outcome = .ok waited := by
  unfold waitForRecovery
  split
  · refine ⟨trivial, ?_⟩
    intro waited _
    exact ⟨rfl, stage.steady_next rfl _, waited, rfl⟩
  · exact ⟨rfl, .refl stage, true, rfl⟩

theorem handleServiceRecovery_follows
    (owed : Owed transport error (ExcusedRetry store error) store stage) :
    Obeys host (handleServiceRecovery error) store stage
      (Remains transport store fun _ => False) := by
  cases error with
  | plain | transport => exact owed.remains fun excused _ => excused
  | service failure =>
    unfold handleServiceRecovery
    refine get ?_
    split
    · rename_i permitted current admitted
      refine takeOver_follows _ ?_
      have holds := owed.holds _ _ current admitted (by simp)
      refine obeys_ledger holds ?_ ?_
      · intro error _
        exact handled_released owed.transport rfl rfl
      intro _ _
      refine bind (waitForRecovery_follows failure) ?_ ?_
      · rintro error reached current ⟨-, -, waited, ⟨⟩⟩
      rintro waited reached current ⟨rfl, steady, -⟩
      cases waited with
      | false => exact handled_ok
      | true =>
        refine obeys_check ?_ fun event formed => ?_
        · intro error failed
          simp [RouterServiceFailure.engineRecoveryEvent, permitted] at failed
        refine obeys_reported (recovery_frame_follows
          (steady.transport.trans owed.transport) steady.phase ?_)
        simp only [RouterServiceFailure.engineRecoveryEvent, permitted,
          if_true, Except.ok.injEq] at formed
        rw [← formed]
        rfl
    · rename_i refused
      refine owed.remains fun excused current => ?_
      obtain ⟨turn, current⟩ := Option.isSome_iff_exists.mp current
      refine .inl (excused.resolve_right ?_)
      rintro ⟨permitted, admitted⟩
      obtain ⟨fingerprint, submitted⟩ := Option.isSome_iff_exists.mp admitted
      exact refused turn fingerprint permitted current submitted

theorem stopTurn_follows
    {remaining : RouterError}
    (owed : Owed transport remaining False store stage) :
    Obeys host (stopTurn error remaining) store stage fun _ _ _ => True := by
  unfold stopTurn
  refine obeys_perform trivial fun _ _ => ?_
  have failed : Obeys host failTurn store (stage.next host (.reportFailure
        ("Model routing: " ++ remaining.localizedDescription)) ())
      fun outcome _ _ => outcome = .ok () := by
    unfold failTurn
    refine get ?_
    cases current : store.currentTurn with
    | none => rfl
    | some currentTurn =>
      have stops : store.currentTurn.isSome = true := by
        rw [current]
        rfl
      refine obeys_perform ⟨owed.mayFail stops, ?_⟩ fun _ _ => rfl
      have blamed := (owed.blamed stops).resolve_right id
      simp [Stage.next, blamed]
  refine bind failed ?_ ?_
  · rintro _ _ _ ⟨⟩
  · intro _ _ _ _
    exact obeys_perform trivial fun _ _ => trivial

theorem obeys_arm
    {arm : Worker RouteState (Option RouterError)}
    {excused : RouterError → Prop}
    {rest : RouterError → Worker RouteState Unit}
    (follows : Obeys host arm store stage (Remains transport store excused))
    (continues :
      ∀ error current, Owed transport error (excused error) store current →
      Obeys host (rest error) store current fun _ _ _ => True) :
    Obeys host (do
        let some reported ← arm | return ()
        rest reported)
      store stage fun _ _ _ => True := by
  refine bind follows ?_ ?_
  · intro error _ _ _
    trivial
  · rintro remaining reached current ⟨rfl, _, ⟨⟩, owed⟩
    cases remaining with
    | none => trivial
    | some error => exact continues error current (owed error rfl)

theorem handle_follows (answers : Answerable transport error store stage) :
    Obeys host (handle transport error) store stage fun _ _ _ => True := by
  unfold handle
  refine bind (diagnose_follows answers) ?_ ?_
  · intro error _ _ _
    trivial
  rintro reported reached current ⟨rfl, _, ⟨⟩, answers⟩
  refine obeys_arm (handleCancellation_follows answers) ?_
  intro error current owed
  refine obeys_arm (handleInterruption_follows owed) ?_
  intro error current owed
  refine obeys_arm (handleConnectionLimit_follows owed) ?_
  intro error current owed
  refine obeys_arm (handleServiceRecovery_follows owed) ?_
  intro error current owed
  exact stopTurn_follows owed

theorem leave_follows : Obeys host leave store stage fun _ _ _ => True := by
  unfold leave
  refine obeys_perform trivial fun _ _ => ?_
  refine get ?_
  split
  · exact ⟨trivial, fun _ _ => trivial⟩
  · trivial

end Turnrail
