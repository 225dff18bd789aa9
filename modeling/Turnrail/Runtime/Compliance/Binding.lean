import Turnrail.Runtime.Protocol
import Turnrail.Runtime.Rules

/-!
# Routines that read and create bindings

Reading and creating bindings leaves the phase of a request alone, and a
binding that is returned is the one that was read last.
-/

namespace Turnrail

open Interleaving RouterRequest

variable {host : Foundation}

/-- What reading and creating bindings leaves as it was. -/
structure Stage.Quiet (before after : Stage) : Prop where
  transport : after.transport = before.transport
  phase : after.phase = before.phase
  request : after.request = before.request
  reading : after.reading = before.reading
  connection : after.connection = before.connection
  received : after.received = before.received

theorem Stage.Quiet.refl (stage : Stage) : stage.Quiet stage :=
  ⟨rfl, rfl, rfl, rfl, rfl, rfl⟩

theorem Stage.Quiet.trans
    {first second third : Stage}
    (earlier : first.Quiet second)
    (later : second.Quiet third) :
    first.Quiet third :=
  ⟨later.transport.trans earlier.transport, later.phase.trans earlier.phase,
    later.request.trans earlier.request, later.reading.trans earlier.reading,
    later.connection.trans earlier.connection,
    later.received.trans earlier.received⟩

/-- What effects outside the ledger and the conversation leave as it was. -/
structure Stage.Steady (before after : Stage) : Prop where
  transport : after.transport = before.transport
  phase : after.phase = before.phase
  request : after.request = before.request
  reading : after.reading = before.reading
  binding : after.binding = before.binding
  received : after.received = before.received

theorem Stage.Steady.refl (stage : Stage) : stage.Steady stage :=
  ⟨rfl, rfl, rfl, rfl, rfl, rfl⟩

theorem Stage.Steady.trans
    {first second third : Stage}
    (earlier : first.Steady second)
    (later : second.Steady third) :
    first.Steady third :=
  ⟨later.transport.trans earlier.transport, later.phase.trans earlier.phase,
    later.request.trans earlier.request, later.reading.trans earlier.reading,
    later.binding.trans earlier.binding,
    later.received.trans earlier.received⟩

/-- The effects from which a worker learns at most a connection. -/
def Effect.outside : Effect → Bool
  | .ledger _ | .nextMessage | .send _ _ _ _ | .search _ _ _ _ _
  | .receive _ => false
  | _ => true

theorem Stage.steady_next
    (stage : Stage)
    {effect : Effect}
    (outside : effect.outside = true)
    (reply : effect.Reply) :
    stage.Steady (stage.next host effect reply) := by
  cases effect <;>
    first
    | exact ⟨rfl, rfl, rfl, rfl, rfl, rfl⟩
    | cases outside

/-- The calls that read and create bindings. -/
def LedgerCall.binds : LedgerCall → Bool
  | .bound _ | .bind _ _ | .registerTitle _ _ _ | .title _
  | .completedAccount _ | .stop _ _ => true
  | _ => false

theorem Stage.allowsCall_of_binds
    (stage : Stage)
    {call : LedgerCall}
    (binds : call.binds = true) :
    stage.AllowsCall host call := by
  cases call <;> trivial

theorem Stage.quiet_next
    (stage : Stage)
    {call : LedgerCall}
    (binds : call.binds = true)
    (reply : Except PlainError call.Value) :
    stage.Quiet (stage.next host (.ledger call) reply) := by
  cases call with
  | bound key =>
    rcases reply with error | account
    · exact ⟨rfl, rfl, rfl, rfl, rfl, rfl⟩
    · cases account <;> exact ⟨rfl, rfl, rfl, rfl, rfl, rfl⟩
  | bind | registerTitle | title | completedAccount | stop =>
    cases reply <;> exact ⟨rfl, rfl, rfl, rfl, rfl, rfl⟩
  | _ => cases binds

section Binding

variable {store : ρ} {stage base : Stage}

/-- How a routine ends that only reads and creates bindings. -/
def Inherits (store : ρ) (base : Stage) (outcome : Except RouterError α)
    (reached : ρ) (current : Stage) : Prop :=
  reached = store ∧ base.Quiet current ∧
    ∀ error, outcome = .error error → ∃ plain, error = .plain plain

theorem inherits_ok
    (quiet : base.Quiet stage)
    (value : α) :
    Inherits store base (.ok value) store stage := by
  refine ⟨rfl, quiet, ?_⟩
  rintro error ⟨⟩

theorem inherits_plain
    (quiet : base.Quiet stage)
    (error : PlainError) :
    Inherits store base
      (.error (.plain error) : Except RouterError α) store stage := by
  refine ⟨rfl, quiet, ?_⟩
  rintro _ ⟨⟩
  exact ⟨error, rfl⟩

theorem obeys_binds
    {call : LedgerCall}
    {rest : call.Value → Worker ρ β}
    (binds : call.binds = true)
    (quiet : base.Quiet stage)
    (passed : ∀ value current, base.Quiet current →
      Obeys host (rest value) store current (Inherits store base)) :
    Obeys host
      (Worker.ledger call >>= rest) store stage (Inherits store base) := by
  refine obeys_ledger (stage.allowsCall_of_binds binds) ?_ ?_
  · intro error _
    exact inherits_plain (quiet.trans (stage.quiet_next binds _)) error
  · intro value _
    exact passed value _ (quiet.trans (stage.quiet_next binds _))

theorem obeys_binds_last
    {call : LedgerCall}
    (binds : call.binds = true)
    (quiet : base.Quiet stage) :
    Obeys host (Worker.ledger call) store stage (Inherits store base) := by
  refine obeys_ledger_last (stage.allowsCall_of_binds binds) ?_ ?_
  · intro error _
    exact inherits_plain (quiet.trans (stage.quiet_next binds _)) error
  · intro value _
    exact inherits_ok (quiet.trans (stage.quiet_next binds _)) value

theorem obeys_check_inherits
    {outcome : Except RouterFailure α}
    {rest : α → Worker ρ β}
    (quiet : base.Quiet stage)
    (passed :
      ∀ value, Obeys host (rest value) store stage (Inherits store base)) :
    Obeys host
      (Worker.check outcome >>= rest) store stage (Inherits store base) :=
  obeys_check (fun error _ => inherits_plain quiet (.failure error))
    fun value _ => passed value

theorem inheritTitle_follows
    (metadata : Object)
    (thread key : String)
    (source trigger : Option String)
    (quiet : base.Quiet stage) :
    Obeys host (inheritTitle metadata thread key source trigger) store stage
      (Inherits store base) := by
  unfold inheritTitle
  split
  · refine obeys_binds rfl quiet ?_
    intro account current quiet
    cases account with
    | some account => exact obeys_binds_last rfl quiet
    | none => exact inherits_plain quiet _
  · exact inherits_plain quiet _

theorem inheritParent_follows
    (metadata : Object)
    (key : String)
    (quiet : base.Quiet stage) :
    Obeys host
      (inheritParent host metadata key) store stage (Inherits store base) := by
  unfold inheritParent
  refine obeys_check_inherits quiet fun parentThread => ?_
  refine obeys_check_inherits quiet fun parentTurn => ?_
  refine obeys_check_inherits quiet fun parent => ?_
  refine obeys_binds rfl quiet ?_
  intro account current quiet
  cases account with
  | some account => exact obeys_binds_last rfl quiet
  | none => exact inherits_plain quiet _

theorem inheritGoal_follows
    (metadata : Object)
    (thread key : String)
    (quiet : base.Quiet stage) :
    Obeys host
      (inheritGoal metadata thread key) store stage (Inherits store base) := by
  unfold inheritGoal
  refine obeys_binds rfl quiet ?_
  intro account current quiet
  cases account with
  | some account => exact inherits_ok quiet ()
  | none =>
    dsimp only
    split
    · refine obeys_binds rfl quiet ?_
      intro account current quiet
      exact obeys_binds_last rfl quiet
    · exact inherits_plain quiet _

theorem inherit_follows
    (metadata : Object)
    (thread key : String)
    (source trigger : Option String)
    (quiet : base.Quiet stage) :
    Obeys host (inherit host metadata thread key source trigger) store stage
      (Inherits store base) := by
  unfold inherit
  split
  · exact inheritTitle_follows metadata thread key source trigger quiet
  · refine obeys_binds rfl quiet ?_
    intro account current quiet
    cases account with
    | some account => exact inherits_plain quiet _
    | none =>
      dsimp only
      split
      · exact inheritParent_follows metadata key quiet
      · split
        · exact inheritGoal_follows metadata thread key quiet
        · exact inherits_ok quiet ()

theorem binding_follows (metadata : Object) :
    Obeys host (binding host metadata) store stage
      fun outcome reached current =>
        Inherits store stage outcome reached current ∧
        ∀ key account, outcome = .ok (key, account) →
          current.binding = some (key, account) := by
  have fails : ∀ error, Inherits store stage
        (.error (.plain error) : Except RouterError (String × UUID))
        store stage ∧
      ∀ key account, (.error (.plain error) : Except RouterError (String × UUID)) =
          .ok (key, account) → stage.binding = some (key, account) := by
    intro error
    refine ⟨inherits_plain (.refl stage) error, ?_⟩
    rintro _ _ ⟨⟩
  unfold binding
  refine obeys_check (fun error _ => fails _) fun thread _ => ?_
  refine obeys_check (fun error _ => fails _) fun turn _ => ?_
  refine obeys_check (fun error _ => fails _) fun key _ => ?_
  refine obeys_check (fun error _ => fails _) fun source _ => ?_
  refine obeys_check (fun error _ => fails _) fun trigger _ => ?_
  refine Routine.Follows.bind
    (inherit_follows metadata thread key source trigger (.refl stage)) ?_ ?_
  · rintro error reached current ⟨rfl, quiet, plain⟩
    obtain ⟨error, rfl⟩ := plain error rfl
    refine ⟨inherits_plain quiet error, ?_⟩
    rintro _ _ ⟨⟩
  · rintro ⟨⟩ reached current ⟨rfl, quiet, -⟩
    refine obeys_ledger trivial ?_ ?_
    · intro error _
      refine ⟨inherits_plain (quiet.trans (current.quiet_next rfl _)) error, ?_⟩
      rintro _ _ ⟨⟩
    · intro account _
      have quiet := quiet.trans (@Stage.quiet_next host current (.bound key) rfl (.ok account))
      cases account with
      | some account =>
        refine ⟨inherits_ok quiet _, ?_⟩
        rintro _ _ ⟨⟩
        rfl
      | none =>
        refine ⟨inherits_plain quiet _, ?_⟩
        rintro _ _ ⟨⟩

end Binding

end Turnrail
