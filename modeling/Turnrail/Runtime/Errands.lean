import Turnrail.Runtime.Rules
import Turnrail.Runtime.Workers

/-!
# The calls that assign accounts

Accounts reach the ledger through three calls: hooks, title registrations and
the binding of a model request.  Their protocol says where an account may come
from.  A turn is bound to an account that was selected for its own prompt, to
that of its title task, to that of the parent turn it declares, or to that of
the last completed turn of its task.
-/

namespace Turnrail

open Interleaving RouterRequest RouterRuntime

/-- A call that may assign an account. -/
inductive Errand
  | hook (event : Object)
  | registerTitle (thread : Object)
  | binding (metadata : Object)

/-- The program of an errand. -/
def Errand.code (host : Foundation) :
    Errand → Program router (Option Errand)
  | .hook event => ((RouterRuntime.hook host event).run ()).bind fun _ => .pure none
  | .registerTitle thread =>
    ((RouterRuntime.registerTitle thread).run ()).bind fun _ => .pure none
  | .binding metadata =>
    (Routine.run (RouterRequest.binding host metadata) ()).bind fun _ => .pure none

/-- Runs of calls from an empty directory, in any interleaving. -/
abbrev ErrandRun (host : Foundation)
    (trace : List (Moment router Errand World))
    (pool : Pool router Errand World) : Prop :=
  Pool.Run (machine host) (fun _ => True) (Errand.code host)
    (Pool.idle World.start) trace pool

/-- What a call has found out. -/
structure Enquiry where
  errand : Errand
  selected : Option UUID := none
  title : Option (String × UUID) := none
  bound : Option (String × UUID) := none
  completed : Option (String × UUID) := none

section Protocol

variable (host : Foundation)

/-- A hook belongs to a turn. -/
def HookOf (event : Object) (key : String) : Prop :=
  ∃ thread turn, RouterJSON.text event "session_id" = .ok thread ∧
      RouterJSON.text event "turn_id" = .ok turn ∧
      RouterLedger.key host thread turn = .ok key

/-- A subagent or guardian request declares its parent turn. -/
def Declares (metadata : Object) (parent : String) : Prop :=
  (∃ source, optionalMetadataText metadata "thread_source" =
      .ok (some source) ∧ (source = "subagent" ∨ source = "guardian_review")) ∧
    ∃ thread turn, RouterJSON.text metadata "parent_thread_id" = .ok thread ∧
        RouterJSON.text metadata "parent_turn_id" = .ok turn ∧
        RouterLedger.key host thread turn = .ok parent

/-- Why an errand may bind a turn. -/
inductive Enquiry.Justifies (enquiry : Enquiry) (key : String)
    (account : UUID) : Prop
  | selected {event} :
      enquiry.errand = .hook event → HookOf host event key →
      enquiry.selected = some account → Justifies enquiry key account
  | title {thread turn} :
      RouterLedger.key host thread turn = .ok key →
      enquiry.title = some (thread, account) → Justifies enquiry key account
  | parent {metadata parent} :
      enquiry.errand = .binding metadata →
      Declares host metadata parent →
      enquiry.bound = some (parent, account) → Justifies enquiry key account
  | completed {thread turn} :
      RouterLedger.key host thread turn = .ok key →
      enquiry.completed = some (thread, account) →
      Justifies enquiry key account

/-- The effects a call may perform. -/
def Enquiry.Allows (enquiry : Enquiry) : Effect → Prop
  | .ledger (.bind key account) => enquiry.Justifies host key account
  | .ledger (.registerTitle _ _ account) => enquiry.selected = some account
  | .ledger (.stop _ _) => enquiry.completed = none
  | .ledger (.bound _) | .ledger (.title _) | .ledger (.completedAccount _) => True
  | .ledger _ => False
  | _ => True

/-- What an errand knows after an effect. -/
def Enquiry.next (enquiry : Enquiry) :
    (effect : Effect) → effect.Reply → Enquiry
  | .select _, .ok snapshot => { enquiry with selected := some snapshot.accountID }
  | .ledger (.title thread), .ok (some account) =>
    { enquiry with title := some (thread, account) }
  | .ledger (.bound key), .ok (some account) => { enquiry with bound := some (key, account) }
  | .ledger (.completedAccount thread), .ok account =>
    { enquiry with completed := some (thread, account) }
  | _, _ => enquiry

/-- The protocol of the errands. -/
@[reducible] def provenance : Protocol router where
  Stage := Enquiry
  allows := Enquiry.Allows host
  admits _ _ _ := True
  next := Enquiry.next

end Protocol

section Following

variable {host : Foundation} {store : ρ} {enquiry : Enquiry}

/-- A routine follows the protocol of the calls. -/
abbrev Justified (host : Foundation) (routine : Worker ρ α) (store : ρ)
    (enquiry : Enquiry) : Prop :=
  Routine.Follows (provenance host) routine store enquiry fun _ _ _ => True

theorem justified_check
    {outcome : Except RouterFailure α}
    {rest : α → Worker ρ β}
    (passed : ∀ value, outcome = .ok value →
      Justified host (rest value) store enquiry) :
    Justified host (Worker.check outcome >>= rest) store enquiry :=
  obeys_check (fun _ _ => trivial) passed

variable {call : LedgerCall} {thread turn key : String} {event : Object}
variable {metadata : Object}

theorem justified_ledger
    {rest : call.Value → Worker ρ β}
    (allowed : enquiry.Allows host (.ledger call))
    (passed : ∀ value, Justified host (rest value) store
      (enquiry.next (.ledger call) (.ok value))) :
    Justified host (Worker.ledger call >>= rest) store enquiry :=
  obeys_ledger allowed (fun _ _ => trivial) fun value _ => passed value

theorem justified_ledger_last (allowed : enquiry.Allows host (.ledger call)) :
    Justified host (Worker.ledger call : Worker ρ _) store enquiry :=
  obeys_ledger_last allowed (fun _ _ => trivial) fun _ _ => trivial

theorem registerTitle_justified (thread : Object) :
    Justified host (registerTitle thread) () enquiry := by
  unfold registerTitle
  refine justified_check fun path _ => ?_
  refine obeys_perform trivial fun resolved _ => ?_
  refine obeys_plain (fun _ _ => trivial) fun cwd _ => ?_
  refine obeys_perform trivial fun selection _ => ?_
  refine obeys_plain (fun _ _ => trivial) fun account selected => ?_
  refine justified_check fun id _ => ?_
  refine justified_ledger_last ?_
  rw [selected]
  rfl

theorem preCompact_justified
    (named : RouterLedger.key host thread turn = .ok key) :
    Justified host (preCompact thread key) () enquiry := by
  unfold preCompact
  refine justified_ledger trivial fun bound => ?_
  cases bound with
  | some account => trivial
  | none =>
    refine justified_ledger trivial fun account => ?_
    exact justified_ledger_last (.completed named rfl)

theorem userPromptSubmit_justified
    {key : String}
    (hooks : enquiry.errand = .hook event)
    (named : HookOf host event key) :
    Justified host (userPromptSubmit event key) ()
      enquiry := by
  unfold userPromptSubmit
  split
  · exact justified_check fun agent _ => trivial
  · refine justified_ledger trivial fun bound => ?_
    cases bound with
    | some account => trivial
    | none =>
      refine justified_check fun cwd _ => ?_
      refine obeys_perform trivial fun selection _ => ?_
      refine obeys_plain (fun _ _ => trivial) fun account selected => ?_
      refine justified_ledger ?_ fun _ => ?_
      · subst selected
        exact .selected hooks named rfl
      · refine obeys_perform trivial fun recorded _ => ?_
        rw [Worker.plain, Routine.follows_ofExcept]
        trivial

theorem hookLocked_justified
    (hooks : enquiry.errand = .hook event)
    (fresh : enquiry.completed = none) :
    Justified host (hookLocked host event) ()
      enquiry := by
  unfold hookLocked
  refine justified_check fun thread session => ?_
  refine justified_check fun turn named => ?_
  refine justified_check fun key keyed => ?_
  refine justified_check fun name _ => ?_
  split
  · exact justified_ledger_last fresh
  · split
    · exact preCompact_justified keyed
    · split
      · exact userPromptSubmit_justified hooks ⟨thread, turn, session, named, keyed⟩
      · trivial

theorem hook_justified
    (hooks : enquiry.errand = .hook event)
    (fresh : enquiry.completed = none) :
    Justified host (hook host event) () enquiry := by
  unfold hook
  refine obeys_perform trivial fun _ _ => ?_
  have locked : Justified host (hookLocked host event) ()
      (enquiry.next .lockHook ()) := hookLocked_justified hooks fresh
  refine Routine.Follows.attempt locked fun outcome reached current _ => ?_
  refine obeys_perform trivial fun _ _ => ?_
  rw [Routine.follows_ofExcept]
  trivial

theorem inheritTitle_justified
    (metadata : Object)
    (source trigger : Option String)
    (named : RouterLedger.key host thread turn = .ok key) :
    Justified host
      (inheritTitle metadata thread key source trigger) store enquiry := by
  unfold inheritTitle
  split
  · refine justified_ledger trivial fun account => ?_
    cases account with
    | some account => exact justified_ledger_last (.title named rfl)
    | none => trivial
  · trivial

theorem inheritParent_justified
    {source : String}
    (key : String)
    (binds : enquiry.errand = .binding metadata)
    (sourced :
      optionalMetadataText metadata "thread_source" = .ok (some source))
    (child : source = "subagent" ∨ source = "guardian_review") :
    Justified host (inheritParent host metadata key) store enquiry := by
  unfold inheritParent
  refine justified_check fun thread threadNamed => ?_
  refine justified_check fun turn turnNamed => ?_
  refine justified_check fun parent named => ?_
  refine justified_ledger trivial fun account => ?_
  cases account with
  | some account =>
    exact justified_ledger_last (.parent binds
      ⟨⟨source, sourced, child⟩, thread, turn, threadNamed, turnNamed, named⟩ rfl)
  | none => trivial

theorem inheritGoal_justified
    (metadata : Object)
    (named : RouterLedger.key host thread turn = .ok key) :
    Justified host (inheritGoal metadata thread key) store enquiry := by
  unfold inheritGoal
  refine justified_ledger trivial fun bound => ?_
  cases bound with
  | some account => trivial
  | none =>
    dsimp only
    split
    · refine justified_ledger trivial fun account => ?_
      exact justified_ledger_last (.completed named rfl)
    · trivial

theorem inherit_justified
    {source : Option String}
    (trigger : Option String)
    (binds : enquiry.errand = .binding metadata)
    (named : RouterLedger.key host thread turn = .ok key)
    (sourced : optionalMetadataText metadata "thread_source" = .ok source) :
    Justified host (inherit host metadata thread key source trigger)
      store enquiry := by
  unfold inherit
  split
  · exact inheritTitle_justified metadata source trigger named
  · refine justified_ledger trivial fun title => ?_
    cases title with
    | some account => trivial
    | none =>
      dsimp only
      split
      · rename_i child
        rcases child with rfl | rfl
        · exact inheritParent_justified key binds sourced (.inl rfl)
        · exact inheritParent_justified key binds sourced (.inr rfl)
      · split
        · exact inheritGoal_justified metadata named
        · trivial

theorem binding_justified (binds : enquiry.errand = .binding metadata) :
    Justified host (binding host metadata) store
      enquiry := by
  unfold binding
  refine justified_check fun thread _ => ?_
  refine justified_check fun turn _ => ?_
  refine justified_check fun key named => ?_
  refine justified_check fun source sourced => ?_
  refine justified_check fun trigger _ => ?_
  refine Routine.Follows.bind (inherit_justified trigger binds named sourced)
    (fun _ _ _ _ => trivial) fun _ reached current _ => ?_
  refine justified_ledger trivial fun account => ?_
  cases account <;> trivial

end Following

theorem errand_follows
    {host : Foundation}
    {enquiry : Enquiry}
    {routine : Worker Unit α}
    {post : Option Errand → Enquiry → Prop}
    (justified : Justified host routine () enquiry)
    (ends : ∀ reached, post none reached) :
    ((routine.run ()).bind fun _ => .pure none).Follows
      (provenance host) enquiry post := by
  rw [Program.follows_bind]
  refine Program.Follows.mono justified ?_
  intro _ reached _
  exact ends reached

/-- All calls follow their protocol. -/
def errandCertificate (host : Foundation) :
    Certificate (provenance host) (fun _ : Errand => True) (Errand.code host) where
  start errand := { errand }
  Reentry errand enquiry := enquiry = { errand }
  entered _ _ := rfl
  follows errand enquiry same := by
    subst same
    cases errand with
    | hook event => exact errand_follows (hook_justified rfl rfl) (by rintro _ _ ⟨⟩)
    | registerTitle thread =>
      exact errand_follows (registerTitle_justified thread) (by rintro _ _ ⟨⟩)
    | binding metadata => exact errand_follows (binding_justified rfl) (by rintro _ _ ⟨⟩)

end Turnrail
