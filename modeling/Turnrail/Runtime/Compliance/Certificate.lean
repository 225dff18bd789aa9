import Turnrail.Runtime.Compliance.Cascade

/-!
# All workers follow the protocol

The certificate states in which stage each control point can be reached, and
that the code from every control point to the next one follows the delivery
protocol.  It is all that proofs about runs need to know of the code.
-/

namespace Turnrail

open Interleaving RouterRuntime

variable {host : Foundation}

section Tasks

variable {stage : Stage}

theorem registerTitle_follows (thread : Object) :
    Obeys host (RouterRuntime.registerTitle thread) () stage fun _ _ _ =>
      True := by
  unfold RouterRuntime.registerTitle
  refine obeys_check (fun _ _ => trivial) fun path _ => ?_
  refine obeys_perform trivial fun canonical _ => ?_
  refine obeys_plain (fun _ _ => trivial) fun cwd _ => ?_
  refine obeys_perform trivial fun selected _ => ?_
  refine obeys_plain (fun _ _ => trivial) fun account _ => ?_
  refine obeys_check (fun _ _ => trivial) fun id _ => ?_
  exact obeys_ledger_last trivial (fun _ _ => trivial) fun _ _ => trivial

theorem preCompact_follows (thread key : String) :
    Obeys host (preCompact thread key) () stage fun _ _ _ => True := by
  unfold preCompact
  refine obeys_ledger trivial (fun _ _ => trivial) fun bound _ => ?_
  cases bound with
  | some account => trivial
  | none =>
    refine obeys_ledger trivial (fun _ _ => trivial) fun account _ => ?_
    exact obeys_ledger_last trivial (fun _ _ => trivial) fun _ _ => trivial

theorem userPromptSubmit_follows
    (event : Object)
    (key : String) :
    Obeys host (userPromptSubmit event key) () stage fun _ _ _ => True := by
  unfold userPromptSubmit
  split
  · exact obeys_check (fun _ _ => trivial) fun _ _ => trivial
  · refine obeys_ledger trivial (fun _ _ => trivial) fun bound _ => ?_
    cases bound with
    | some account => trivial
    | none =>
      refine obeys_check (fun _ _ => trivial) fun cwd _ => ?_
      refine obeys_perform trivial fun selected _ => ?_
      refine obeys_plain (fun _ _ => trivial) fun account _ => ?_
      refine obeys_ledger trivial (fun _ _ => trivial) fun _ _ => ?_
      refine obeys_perform trivial fun recorded _ => ?_
      cases recorded <;> trivial

theorem hookLocked_follows (event : Object) :
    Obeys host (hookLocked host event) () stage fun _ _ _ => True := by
  unfold hookLocked
  refine obeys_check (fun _ _ => trivial) fun thread _ => ?_
  refine obeys_check (fun _ _ => trivial) fun turn _ => ?_
  refine obeys_check (fun _ _ => trivial) fun key _ => ?_
  refine obeys_check (fun _ _ => trivial) fun name _ => ?_
  split
  · exact obeys_ledger_last trivial (fun _ _ => trivial) fun _ _ => trivial
  · split
    · exact preCompact_follows thread key
    · split
      · exact userPromptSubmit_follows event key
      · trivial

theorem hook_follows (event : Object) :
    Obeys host (hook host event) () stage fun _ _ _ => True := by
  unfold hook
  refine obeys_perform trivial fun _ _ => ?_
  refine Routine.Follows.attempt (hookLocked_follows event) ?_
  intro outcome _ _ _
  refine obeys_perform trivial fun _ _ => ?_
  cases outcome <;> trivial

theorem exchangeSearch_follows
    {account : RouterAccountSnapshot}
    {data : Data}
    {headers : Headers}
    {fingerprint key : String}
    (begun : stage.phase = .begun fingerprint key)
    (bound : stage.binding = some (key, account.accountID))
    (unconnected : stage.connection = none) :
    Obeys host (exchangeSearch host account data headers fingerprint key) ()
      stage fun outcome _ current => ∀ error, outcome = .error error →
        current.phase.mayFail = true ∧ current.blamed = true := by
  unfold exchangeSearch
  refine obeys_perform ⟨begun, bound, unconnected⟩ fun searched _ => ?_
  refine obeys_plain ?_ fun response _ => ?_
  · intro _ _ _ _
    exact ⟨rfl, Bool.or_true _⟩
  split
  · refine obeys_plain ?_ fun object _ => ?_
    · intro _ _ _ _
      exact ⟨rfl, Bool.or_true _⟩
    split
    · refine obeys_ledger ⟨rfl, unconnected⟩ ?_ fun _ _ => ?_
      · intro _ _ _ _
        exact ⟨rfl, Bool.or_true _⟩
      · rintro _ ⟨⟩
    · intro _ _
      exact ⟨rfl, Bool.or_true _⟩
  · intro _ _
    exact ⟨rfl, Bool.or_true _⟩

theorem webSearch_follows
    {data : Data}
    {headers : Headers}
    (idle : stage.phase = .idle)
    (unconnected : stage.connection = none) :
    Obeys host (RouterRuntime.webSearch host data headers) () stage fun _ _ _ =>
      True := by
  unfold RouterRuntime.webSearch
  split
  · refine obeys_plain (fun _ _ => trivial) fun metadata _ => ?_
    refine obeys_check (fun _ _ => trivial) fun thread _ => ?_
    refine obeys_check (fun _ _ => trivial) fun turn _ => ?_
    refine obeys_check (fun _ _ => trivial) fun key _ => ?_
    refine obeys_ledger trivial (fun _ _ => trivial) fun bound _ => ?_
    cases bound with
    | none => trivial
    | some accountID =>
      refine obeys_plain (fun _ _ => trivial) fun body _ => ?_
      refine obeys_perform trivial fun found identified => ?_
      refine obeys_plain (fun _ _ => trivial) fun account known => ?_
      have identity : account.accountID = accountID := identified account known
      refine obeys_validate trivial (fun _ _ => trivial) fun _ _ => ?_
      refine obeys_ledger ⟨idle, accountID, rfl⟩ (fun _ _ => trivial) fun _ _ => ?_
      refine Routine.Follows.attempt (exchangeSearch_follows rfl ?_ unconnected) ?_
      · rw [identity]
        rfl
      · intro outcome _ current failed
        cases outcome with
        | ok response => trivial
        | error error =>
          exact obeys_ledger (failed error rfl) (fun _ _ => trivial) fun _ _ => trivial
  · trivial

end Tasks

namespace Point

/-- The stage of an entry point. -/
def start : Point → Stage
  | .route transport _ _ => { transport := transport }
  | .receive transport _ _ _ => { transport := transport }
  | _ => { transport := .http }

/-- The stages in which a control point is reached. -/
def Reentry : Point → Stage → Prop
  | .route transport _ store, stage => Serving transport store stage
  | .receive transport _ store exchange, stage => Receiving transport exchange store stage
  | _, stage => stage.phase = .idle ∧ stage.connection = none

end Point

theorem round_follows
    {transport : Transport}
    {headers : Headers}
    {store : RouteState}
    {stage : Stage}
    {body : Worker RouteState Continuation}
    (follows : Obeys host body store stage (Settles transport)) :
    Obeys host (Point.round transport headers body) store stage
      fun outcome reached current =>
        ∀ point, Point.target (outcome, reached) = some point →
          point.Reentry current := by
  have leaves : ∀ reached current, Obeys host (do
          leave
          return (none : Option (RouteState → Point)))
        reached current
        fun outcome reached current =>
          ∀ point, Point.target (outcome, reached) = some point → point.Reentry current := by
    intro reached current
    refine Routine.Follows.bind leave_follows ?_ ?_
    · rintro _ _ _ _ _ ⟨⟩
    · rintro _ _ _ _ _ ⟨⟩
  unfold Point.round
  refine Routine.Follows.attempt follows ?_
  intro outcome reached current settles
  rcases outcome with error | (_ | exchange | _)
  · refine Routine.Follows.bind (handle_follows settles) ?_ ?_
    · rintro _ _ _ _ _ ⟨⟩
    · intro _ reached current _
      exact leaves reached current
  · rintro _ ⟨⟩
    exact settles
  · rintro _ ⟨⟩
    exact settles
  · exact leaves reached current

theorem task_follows
    {task : Worker Unit α}
    {stage : Stage}
    (follows : Obeys host task () stage fun _ _ _ => True) :
    ((task.run ()).bind fun _ =>
        .pure none).Follows (delivery host) stage fun next reached =>
      ∀ point : Point, next = some point → point.Reentry reached := by
  rw [Program.follows_bind]
  refine Program.Follows.mono follows ?_
  rintro _ _ _ _ ⟨⟩

/-- The workers follow the delivery protocol. -/
def certificate (host : Foundation) :
    Certificate (delivery host) Point.entry (Point.code host) where
  start := Point.start
  Reentry := Point.Reentry
  entered := by
    intro point entered
    cases point with
    | route transport headers store =>
      cases entered
      exact ⟨rfl, rfl, rfl⟩
    | receive transport headers store exchange => cases entered
    | webSearch | hook | registerTitle => exact ⟨rfl, rfl⟩
  follows := by
    intro point stage reentry
    cases point with
    | route transport headers store =>
      exact (Program.follows_bind _ _ _ _).mpr (round_follows (serve_follows headers reentry))
    | receive transport headers store exchange =>
      exact (Program.follows_bind _ _ _ _).mpr (round_follows (receive_follows reentry))
    | webSearch data headers => exact task_follows (webSearch_follows reentry.1 reentry.2)
    | hook event => exact task_follows (hook_follows event)
    | registerTitle thread => exact task_follows (registerTitle_follows thread)

end Turnrail
