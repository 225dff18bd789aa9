import Turnrail.Runtime.Durability
import Turnrail.Runtime.Errands
import Turnrail.Runtime.Execution

/-!
# Where accounts come from

Every account in the ledger was selected for a folder at some point.  It spreads
from there along title tasks, parent turns and completed turns only.
-/

namespace Turnrail

open Interleaving LedgerState

variable {host : Foundation}

/-- What happened in a run of calls. -/
abbrev ErrandTrace := List (Moment router Errand World)

/-- A thread selected an account. -/
def SelectedBy (trace : ErrandTrace) (thread : Nat) (account : UUID) : Prop :=
  ∃ moment ∈ trace, ∃ cwd snapshot,
    moment.event = .performed thread (.select cwd) (.ok snapshot) ∧
      snapshot.accountID = account

/-- Some thread selected an account. -/
def SelectedIn (trace : ErrandTrace) (account : UUID) : Prop :=
  ∃ thread, SelectedBy trace thread account

/-- The accounts of the state were selected. -/
structure LedgerState.Sourced (host : Foundation) (trace : ErrandTrace)
    (state : LedgerState) : Prop where
  bindings : ∀ {key account}, state.bindings.lookup key = some account →
    SelectedIn trace account
  titles : ∀ {thread title}, state.titles.lookup thread = some title →
    SelectedIn trace title.account
  completed : ∀ {thread account}, state.completed.lookup thread = some account →
    ∃ turn key, RouterLedger.key host thread turn = .ok key ∧
      state.bindings.lookup key = some account

/-- What a call has found out is true. -/
structure Enquiry.Known (host : Foundation) (trace : ErrandTrace)
    (world : World) (thread : Nat) (enquiry : Enquiry) : Prop where
  spawned : ∃ moment ∈ trace, moment.event = .spawned thread enquiry.errand
  selected : ∀ {account}, enquiry.selected = some account → SelectedBy trace thread account
  title : ∀ {task account}, enquiry.title = some (task, account) →
    ∃ state title, world.memory = some state ∧
      state.titles.lookup task = some title ∧ title.account = account
  bound : ∀ {key account}, enquiry.bound = some (key, account) →
    ∃ state, world.memory = some state ∧ state.bindings.lookup key = some account
  completed : ∀ {task account}, enquiry.completed = some (task, account) →
    ∃ state key, world.memory = some state ∧ state.bindings.lookup key = some account

section Growing

variable {trace : ErrandTrace} {moment : Moment router Errand World}
  {thread : Nat} {account : UUID}

theorem SelectedBy.later (selected : SelectedBy trace thread account) :
    SelectedBy (trace ++ [moment]) thread account := by
  obtain ⟨found, member, rest⟩ := selected
  exact ⟨found, List.mem_append_left _ member, rest⟩

theorem SelectedIn.later (selected : SelectedIn trace account) :
    SelectedIn (trace ++ [moment]) account := by
  obtain ⟨thread, selected⟩ := selected
  exact ⟨thread, selected.later⟩

variable {state : LedgerState}

theorem LedgerState.Sourced.later (sourced : state.Sourced host trace) :
    state.Sourced host (trace ++ [moment]) :=
  ⟨fun known => (sourced.bindings known).later,
    fun known => (sourced.titles known).later, sourced.completed⟩

variable {enquiry : Enquiry}

theorem Enquiry.Known.later
    {world : World}
    (known : enquiry.Known host trace world thread) :
    enquiry.Known host (trace ++ [moment]) world thread := by
  obtain ⟨found, member, happened⟩ := known.spawned
  exact ⟨⟨found, List.mem_append_left _ member, happened⟩,
    fun selected => (known.selected selected).later, known.title, known.bound,
    known.completed⟩

theorem Enquiry.Known.grows
    {before after : World}
    (known : enquiry.Known host trace before thread)
    (grows : ∀ state, before.memory = some state →
      ∃ next, after.memory = some next ∧ state.Extends next) :
    enquiry.Known host trace after thread := by
  refine ⟨known.spawned, known.selected, ?_, ?_, ?_⟩
  · intro task account read
    obtain ⟨state, title, running, found, same⟩ := known.title read
    obtain ⟨next, running, grown⟩ := grows state running
    exact ⟨next, title, running, grown.titles found, same⟩
  · intro key account read
    obtain ⟨state, running, found⟩ := known.bound read
    obtain ⟨next, running, grown⟩ := grows state running
    exact ⟨next, running, grown.bindings found⟩
  · intro task account read
    obtain ⟨state, key, running, found⟩ := known.completed read
    obtain ⟨next, running, grown⟩ := grows state running
    exact ⟨next, key, running, grown.bindings found⟩

theorem LedgerState.Sourced.empty : empty.Sourced host trace := by
  refine ⟨?_, ?_, ?_⟩ <;> rintro _ _ ⟨⟩

theorem LedgerState.Sourced.blockInFlight (sourced : state.Sourced host trace) :
    state.blockInFlight.Sourced host trace :=
  ⟨sourced.bindings, sourced.titles, sourced.completed⟩

theorem LedgerState.Sourced.called
    {writes : List WriteOutcome}
    {before after : Ledger}
    {call : LedgerCall}
    {reply : Except PlainError call.Value}
    (sourced : before.state.Sourced host trace)
    (outcome : Outcome host writes before call reply after)
    (binds : ∀ key account, call = .bind key account → SelectedIn trace account)
    (registers : ∀ thread cwd account,
      call = .registerTitle thread cwd account → SelectedIn trace account) :
    after.state.Sourced host trace := by
  have grown := outcome.extends
  have kept : ∀ {thread account}, before.state.completed.lookup thread = some account →
      ∃ turn key, RouterLedger.key host thread turn = .ok key ∧
        after.state.bindings.lookup key = some account := by
    intro thread account known
    obtain ⟨turn, key, named, bound⟩ := sourced.completed known
    exact ⟨turn, key, named, grown.bindings bound⟩
  cases outcome with
  | answered _ memory =>
    rw [memory]
    exact sourced
  | unfinished _ memory =>
    rw [memory]
    exact ⟨sourced.bindings, sourced.titles, sourced.completed⟩
  | changed list makes memory =>
    rw [memory] at kept ⊢
    cases makes with
    | @bind key account _ absent =>
      refine ⟨?_, sourced.titles, kept⟩
      intro other found known
      rw [changes_cons, changes_nil] at known
      simp only [change, Table.lookup_insert] at known
      split at known
      · cases known
        exact binds key _ rfl
      · exact sourced.bindings known
    | @registerTitle thread cwd account absent =>
      refine ⟨sourced.bindings, ?_, kept⟩
      intro other title known
      rw [changes_cons, changes_nil] at known
      simp only [change, Table.lookup_insert] at known
      split at known
      · cases known
        exact registers thread cwd account rfl
      · exact sourced.titles known
    | @stop thread turn key account named bound =>
      refine ⟨sourced.bindings, sourced.titles, ?_⟩
      intro other found known
      rw [changes_cons, changes_nil] at known
      simp only [change, Table.lookup_insert] at known
      split at known
      · rename_i same
        subst same
        cases known
        exact ⟨turn, key, named, bound.2⟩
      · exact kept known
    | _ => exact ⟨sourced.bindings, sourced.titles, sourced.completed⟩

end Growing

/-- The calls as parties of their protocol. -/
abbrev Enquirers (host : Foundation) :=
  Parties (provenance host) World

/-- One step of the calls, of an Engine connection or of the process. -/
abbrev Enquirers.Step (before : Enquirers host)
    (event : Event router Errand) (after : Enquirers host) : Prop :=
  Protocol.Step (machine host) (provenance host)
    (errandCertificate host).start before event after

/-- A run of the errands. -/
abbrev Enquirers.Run (host : Foundation) (trace : ErrandTrace)
    (enquirers : Enquirers host) : Prop :=
  Protocol.Run (machine host) (provenance host)
    (errandCertificate host).start World.start trace enquirers

/-- What holds of the calls in every run. -/
structure Enquirers.Traced (trace : ErrandTrace)
    (enquirers : Enquirers host) : Prop where
  coherent : enquirers.world.Coherent
  memory : ∀ state, enquirers.world.memory = some state → state.Sourced host trace
  file : ∀ saved, enquirers.world.disk.ledger = some saved → saved.Sourced host trace
  known : ∀ {thread enquiry}, enquirers.stages thread = some enquiry →
    enquiry.Known host trace enquirers.world thread

section Steps

variable {trace : ErrandTrace} {enquirers after : Enquirers host} {thread : Nat}
  {enquiry : Enquiry}

theorem Enquirers.Traced.justified
    {key : String}
    {account : UUID}
    (traced : enquirers.Traced trace)
    (known : enquirers.stages thread = some enquiry)
    (justifies : enquiry.Justifies host key account) :
    SelectedIn trace account := by
  have known := traced.known known
  cases justifies with
  | selected _ _ selected => exact ⟨thread, known.selected selected⟩
  | title _ read =>
    obtain ⟨state, title, running, found, rfl⟩ := known.title read
    exact (traced.memory state running).titles found
  | parent _ _ read =>
    obtain ⟨state, running, found⟩ := known.bound read
    exact (traced.memory state running).bindings found
  | completed _ read =>
    obtain ⟨state, key, running, found⟩ := known.completed read
    exact (traced.memory state running).bindings found

variable {call : LedgerCall} {world : World} {reply : Except PlainError call.Value}

theorem Enquirers.Traced.sourced_called
    (traced : enquirers.Traced trace)
    (known : enquirers.stages thread = some enquiry)
    (allowed : enquiry.Allows host (.ledger call))
    (called : enquirers.world.Called host call reply world) :
    called.ledger.state.Sourced host trace := by
  refine (traced.memory _ called.running).called called.outcome ?_ ?_
  · rintro key account rfl
    exact traced.justified known allowed
  · rintro task cwd account rfl
    exact ⟨thread, (traced.known known).selected allowed⟩

variable {before : World}

theorem Enquiry.Known.called
    (known : enquiry.Known host trace before thread)
    (called : before.Called host call reply world)
    (sourced : called.ledger.state.Sourced host trace) :
    (enquiry.next (.ledger call) reply).Known host trace world thread := by
  have kept : enquiry.Known host trace world thread := by
    refine known.grows ?_
    intro state running
    rw [called.running] at running
    cases running
    exact ⟨_, called.memory, called.grows⟩
  cases call with
  | bound key =>
    rcases reply with error | (_ | account)
    · exact kept
    · exact kept
    · refine ⟨kept.spawned, kept.selected, kept.title, ?_, kept.completed⟩
      rintro _ _ ⟨⟩
      exact ⟨_, called.memory, called.outcome.bound_read⟩
  | title task =>
    rcases reply with error | (_ | account)
    · exact kept
    · exact kept
    · refine ⟨kept.spawned, kept.selected, ?_, kept.bound, kept.completed⟩
      rintro _ _ ⟨⟩
      obtain ⟨title, found, same⟩ := called.outcome.title_read
      exact ⟨_, title, called.memory, found, same⟩
  | completedAccount task =>
    cases reply with
    | error error => exact kept
    | ok account =>
      refine ⟨kept.spawned, kept.selected, kept.title, kept.bound, ?_⟩
      rintro _ _ ⟨⟩
      obtain ⟨turn, key, -, found⟩ := sourced.completed called.outcome.completedAccount_read
      exact ⟨_, key, called.memory, found⟩
  | _ => exact kept

variable {effect : Effect} {reply : effect.Reply}

theorem Enquiry.Known.performed
    (known : enquiry.Known host trace before thread)
    (other : effect.callsLedger = false)
    (memory : world.memory = before.memory) :
    (enquiry.next effect reply).Known host
      (trace ++ [⟨.performed thread effect reply, world⟩]) world thread := by
  have kept : enquiry.Known host
      (trace ++ [⟨.performed thread effect reply, world⟩]) world thread := by
    refine Enquiry.Known.later (known.grows ?_)
    intro state running
    exact ⟨state, memory.trans running, .refl state⟩
  cases effect with
  | ledger call => cases other
  | select cwd =>
    cases reply with
    | error error => exact kept
    | ok snapshot =>
      refine ⟨kept.spawned, ?_, kept.title, kept.bound, kept.completed⟩
      rintro _ ⟨⟩
      exact ⟨_, List.mem_append_right _ (List.mem_singleton_self _), cwd, snapshot, rfl, rfl⟩
  | _ => exact kept

theorem Disk.sourced_opened
    {disk : Disk}
    (sourced : ∀ saved, disk.ledger = some saved → saved.Sourced host trace) :
    disk.opened.Sourced host trace := by
  cases known : disk.ledger with
  | none =>
    simp only [Disk.opened, known]
    exact .empty
  | some saved =>
    simp only [Disk.opened, known]
    exact (sourced saved known).blockInFlight

theorem Enquirers.Traced.performed
    (traced : enquirers.Traced trace)
    (known : enquirers.stages thread = some enquiry)
    (allowed : enquiry.Allows host effect)
    (executed : World.exec host thread enquirers.world effect reply world) :
    @Enquirers.Traced host (trace ++ [⟨.performed thread effect reply, world⟩])
      ⟨world, Function.update enquirers.stages thread
        (some (enquiry.next effect reply))⟩ := by
  have coherent := (exec_coherent executed traced.coherent).2
  cases ledger : effect.callsLedger with
  | false =>
    obtain ⟨memory, disk⟩ := exec_other ledger executed
    refine ⟨coherent, ?_, ?_, ?_⟩
    · intro state running
      exact (traced.memory state (memory.symm.trans running)).later
    · intro saved file
      exact (traced.file saved ((congrArg Disk.ledger disk).symm.trans file)).later
    · intro other another present
      rcases update_cases present with ⟨rfl, ⟨⟩⟩ | ⟨-, present⟩
      · exact (traced.known known).performed ledger memory
      · refine ((traced.known present).grows ?_).later
        intro state running
        exact ⟨state, memory.trans running, .refl state⟩
  | true =>
    cases effect with
    | ledger call =>
      obtain ⟨called⟩ := exec_ledger thread executed
      have sourced := traced.sourced_called known allowed called
      refine ⟨coherent, ?_, ?_, ?_⟩
      · intro state running
        rw [called.memory] at running
        cases running
        exact sourced.later
      · intro saved file
        rcases called.lags with same | same
        · exact (traced.file saved (same.symm.trans file)).later
        · rw [same, called.memory] at file
          cases file
          exact sourced.later
      · intro other another present
        rcases update_cases present with ⟨rfl, ⟨⟩⟩ | ⟨-, present⟩
        · exact ((traced.known known).called called sourced).later
        · refine ((traced.known present).grows ?_).later
          intro state running
          rw [called.running] at running
          cases running
          exact ⟨_, called.memory, called.grows⟩
    | _ => cases ledger

theorem Enquirers.Traced.step
    {event : Event router Errand}
    (traced : enquirers.Traced trace)
    (step : enquirers.Step event after) :
    after.Traced (trace ++ [⟨event, after.world⟩]) := by
  have coherent := (traced.coherent.step step).2
  have memory : ∀ moment state, enquirers.world.memory = some state →
      state.Sourced host (trace ++ [moment]) :=
    fun _ state running => (traced.memory state running).later
  have file : ∀ moment saved, enquirers.world.disk.ledger = some saved →
      saved.Sourced host (trace ++ [moment]) :=
    fun _ saved file => (traced.file saved file).later
  cases step with
  | spawn thread errand =>
    refine ⟨coherent, memory _, file _, ?_⟩
    intro other enquiry present
    rcases update_cases present with ⟨rfl, ⟨⟩⟩ | ⟨-, present⟩
    · refine ⟨⟨_, List.mem_append_right _ (List.mem_singleton_self _), rfl⟩, ?_, ?_, ?_, ?_⟩
      · rintro _ ⟨⟩
      · rintro _ _ ⟨⟩
      · rintro _ _ ⟨⟩
      · rintro _ _ ⟨⟩
    · exact (traced.known present).later
  | perform thread known allowed _ executed => exact traced.performed known allowed executed
  | resume =>
    exact ⟨coherent, memory _, file _,
      fun present => (traced.known present).later⟩
  | finish thread =>
    refine ⟨coherent, memory _, file _, ?_⟩
    intro other enquiry present
    rcases update_cases present with ⟨-, ⟨⟩⟩ | ⟨-, present⟩
    exact (traced.known present).later
  | drift drifts =>
    obtain ⟨thread, rfl⟩ := drifts
    refine ⟨coherent, memory _, file _, ?_⟩
    intro other enquiry present
    refine ((traced.known present).grows ?_).later
    intro state running
    exact ⟨state, running, .refl state⟩
  | restart resets =>
    have opened := Disk.sourced_opened traced.file
    refine ⟨coherent, ?_, ?_, by rintro _ _ ⟨⟩⟩
    · intro state running
      rcases reset_cases resets with ⟨stopped, -⟩ | ⟨memory, -⟩
      · rw [stopped] at running
        cases running
      · rw [memory] at running
        cases running
        exact opened.later
    · intro saved file
      rcases reset_cases resets with ⟨-, same | same⟩ | ⟨-, same⟩
      · exact (traced.file saved (same.symm.trans file)).later
      · rw [same] at file
        cases file
        exact opened.later
      · rw [same] at file
        cases file
        exact opened.later

end Steps

variable {trace : ErrandTrace}

theorem Enquirers.Run.traced
    {enquirers : Enquirers host}
    (run : Enquirers.Run host trace enquirers) :
    enquirers.Traced trace := by
  refine Protocol.Run.record (fun trace enquirers => Enquirers.Traced trace enquirers) ?_
    Enquirers.Traced.step run
  refine ⟨?_, ?_, ?_, ?_⟩
  · rintro _ ⟨⟩
  · rintro _ ⟨⟩
  · rintro _ ⟨⟩
  · rintro _ _ ⟨⟩

/-- The calls that are in progress after a moment. -/
def activeAfter (running : List Nat) (moment : Moment router Errand World) :
    List Nat :=
  match moment.event with
  | .spawned thread _ => thread :: running
  | .ended thread => running.filter (· ≠ thread)
  | .restarted => []
  | _ => running

/-- The calls that are in progress at the end of a trace. -/
def active (trace : ErrandTrace) : List Nat :=
  trace.foldl activeAfter []

theorem active_append
    (trace : ErrandTrace)
    (moment : Moment router Errand World) :
    active (trace ++ [moment]) = activeAfter (active trace) moment := by
  simp [active]

/-- The calls are made one after the other. -/
def Sequential (trace : ErrandTrace) : Prop :=
  ∀ earlier moment later thread errand, trace = earlier ++ moment :: later →
    moment.event = .spawned thread errand → active earlier = []

theorem Sequential.before
    {earlier later : ErrandTrace}
    (sequential : Sequential (earlier ++ later)) :
    Sequential earlier := by
  rintro start found rest thread errand rfl spawned
  exact sequential start found (rest ++ later) thread errand (by simp) spawned

/-- No two errands are for one turn. -/
structure Enquirers.Alone (trace : ErrandTrace)
    (enquirers : Enquirers host) : Prop where
  listed : ∀ {thread enquiry}, enquirers.stages thread = some enquiry → thread ∈ active trace
  single : (active trace).length ≤ 1
  current : ∀ {thread enquiry task account}, enquirers.stages thread = some enquiry →
    enquiry.completed = some (task, account) →
    ∃ state, enquirers.world.memory = some state ∧ state.completed.lookup task = some account

section Sequence

variable {trace : ErrandTrace} {enquirers after : Enquirers host}

theorem Enquirers.Alone.same
    {first second : Nat}
    {one two : Enquiry}
    (alone : enquirers.Alone trace)
    (present : enquirers.stages first = some one)
    (other : enquirers.stages second = some two) :
    first = second := by
  have left := alone.listed present
  have right := alone.listed other
  have single := alone.single
  generalize Turnrail.active trace = running at left right single
  match running with
  | [] => cases left
  | [only] =>
    rw [List.mem_singleton] at left right
    exact left.trans right.symm
  | _ :: _ :: _ => simp at single

variable {world : World} {enquiry : Enquiry}

theorem Enquiry.current_called
    {before : World}
    {call : LedgerCall}
    {reply : Except PlainError call.Value}
    {task : String}
    {account : UUID}
    (current : ∀ {task account}, enquiry.completed = some (task, account) →
      ∃ state,
      before.memory = some state ∧ state.completed.lookup task = some account)
    (allowed : enquiry.Allows host (.ledger call))
    (called : before.Called host call reply world)
    (read :
      (enquiry.next (.ledger call) reply).completed = some (task, account)) :
    ∃ state, world.memory = some state ∧
      state.completed.lookup task = some account := by
  have kept : enquiry.completed = some (task, account) → ∃ state, world.memory = some state ∧
        state.completed.lookup task = some account := by
    intro known
    obtain ⟨state, running, found⟩ := current known
    rw [called.running] at running
    cases running
    refine ⟨_, called.memory, ?_⟩
    rwa [called.outcome.completed_kept]
    rintro thread turn rfl
    rw [show enquiry.completed = none from allowed] at known
    cases known
  cases call with
  | completedAccount other =>
    cases reply with
    | error error => exact kept read
    | ok found =>
      cases read
      exact ⟨_, called.memory, called.outcome.completedAccount_read⟩
  | bound | title => rcases reply with error | (_ | account) <;> exact kept read
  | _ => exact kept read

variable {effect : Effect}

theorem Enquiry.completed_next
    (enquiry : Enquiry)
    (reply : effect.Reply)
    (other : effect.callsLedger = false) :
    (enquiry.next effect reply).completed = enquiry.completed := by
  cases effect with
  | ledger call => cases other
  | select cwd => cases reply <;> rfl
  | _ => rfl

theorem Enquirers.Alone.performed
    {thread : Nat}
    {reply : effect.Reply}
    (alone : enquirers.Alone trace)
    (known : enquirers.stages thread = some enquiry)
    (allowed : enquiry.Allows host effect)
    (executed : World.exec host thread enquirers.world effect reply world) :
    @Enquirers.Alone host (trace ++ [⟨.performed thread effect reply, world⟩])
      ⟨world, Function.update enquirers.stages thread
        (some (enquiry.next effect reply))⟩ := by
  refine ⟨?_, ?_, ?_⟩
  · intro other another present
    rw [active_append]
    rcases update_cases present with ⟨rfl, -⟩ | ⟨-, present⟩
    · exact alone.listed known
    · exact alone.listed present
  · rw [active_append]
    exact alone.single
  · intro other another task account present read
    rcases update_cases present with ⟨rfl, ⟨⟩⟩ | ⟨different, present⟩
    · cases ledger : effect.callsLedger with
      | false =>
        rw [Enquiry.completed_next _ _ ledger] at read
        rw [(exec_other ledger executed).1]
        exact alone.current known read
      | true =>
        cases effect with
        | ledger call =>
          obtain ⟨called⟩ := exec_ledger other executed
          exact Enquiry.current_called (alone.current known) allowed called read
        | _ => cases ledger
    · exact absurd (alone.same present known) different

theorem Enquirers.Alone.step
    {event : Event router Errand}
    (alone : enquirers.Alone trace)
    (step : enquirers.Step event after)
    (sequential : Sequential (trace ++ [⟨event, after.world⟩])) :
    after.Alone (trace ++ [⟨event, after.world⟩]) := by
  cases step with
  | spawn thread errand =>
    have none : active trace = [] := sequential trace _ [] thread errand rfl rfl
    refine ⟨?_, ?_, ?_⟩
    · intro other enquiry present
      rw [active_append]
      rcases update_cases present with ⟨rfl, -⟩ | ⟨-, present⟩
      · exact List.mem_cons_self
      · exact List.mem_cons_of_mem _ (alone.listed present)
    · rw [active_append, none]
      exact Nat.le_refl 1
    · intro other enquiry task account present read
      rcases update_cases present with ⟨rfl, ⟨⟩⟩ | ⟨-, present⟩
      · cases read
      · exact alone.current present read
  | perform thread known allowed _ executed => exact alone.performed known allowed executed
  | resume =>
    refine ⟨?_, ?_, alone.current⟩
    · intro other enquiry present
      rw [active_append]
      exact alone.listed present
    · rw [active_append]
      exact alone.single
  | finish thread =>
    refine ⟨?_, ?_, ?_⟩
    · intro other enquiry present
      rcases update_cases present with ⟨-, ⟨⟩⟩ | ⟨different, present⟩
      rw [active_append]
      exact List.mem_filter.mpr ⟨alone.listed present, decide_eq_true different⟩
    · rw [active_append]
      exact (List.length_filter_le _ _).trans alone.single
    · intro other enquiry task account present read
      rcases update_cases present with ⟨-, ⟨⟩⟩ | ⟨-, present⟩
      exact alone.current present read
  | drift drifts =>
    obtain ⟨thread, rfl⟩ := drifts
    refine ⟨?_, ?_, alone.current⟩
    · intro other enquiry present
      rw [active_append]
      exact alone.listed present
    · rw [active_append]
      exact alone.single
  | restart resets =>
    refine ⟨by rintro _ _ ⟨⟩, ?_, by rintro _ _ _ _ ⟨⟩⟩
    rw [active_append]
    exact Nat.zero_le 1

end Sequence

theorem Enquirers.Run.alone
    {enquirers : Enquirers host}
    (run : Enquirers.Run host trace enquirers) :
    Sequential trace → enquirers.Alone trace := by
  refine Protocol.Run.record (fun trace enquirers => Sequential trace →
      Enquirers.Alone trace enquirers) ?_ ?_ run
  · intro _
    refine ⟨?_, Nat.zero_le 1, ?_⟩
    · rintro _ _ ⟨⟩
    · rintro _ _ _ _ ⟨⟩
  · intro trace before event after alone step sequential
    exact (alone sequential.before).step step sequential

/-- Where the account of a turn comes from. -/
inductive Origin (host : Foundation) (trace : ErrandTrace) (thread : Nat)
    (state : LedgerState) (key : String) (account : UUID) : Prop
  | selected {event} :
      (∃ moment ∈ trace, moment.event = .spawned thread (.hook event)) →
      HookOf host event key → SelectedBy trace thread account →
      Origin host trace thread state key account
  | title {task turn title} :
      RouterLedger.key host task turn = .ok key →
      state.titles.lookup task = some title → title.account = account →
      Origin host trace thread state key account
  | parent {metadata parent} :
      (∃ moment ∈ trace, moment.event = .spawned thread (.binding metadata)) →
      Declares host metadata parent →
      state.bindings.lookup parent = some account →
      Origin host trace thread state key account
  | completed {task turn} :
      RouterLedger.key host task turn = .ok key →
      state.completed.lookup task = some account →
      Origin host trace thread state key account

variable {account : UUID} {state : LedgerState} {key : String}

theorem Enquirers.Traced.origin
    {enquirers : Enquirers host}
    {thread : Nat}
    {enquiry : Enquiry}
    (traced : enquirers.Traced trace)
    (alone : enquirers.Alone trace)
    (present : enquirers.stages thread = some enquiry)
    (running : enquirers.world.memory = some state)
    (justifies : enquiry.Justifies host key account) :
    Origin host trace thread state key account := by
  have known := traced.known present
  cases justifies with
  | selected hooks named selected =>
    exact .selected (hooks ▸ known.spawned) named (known.selected selected)
  | title named read =>
    obtain ⟨current, title, runs, found, same⟩ := known.title read
    cases running.symm.trans runs
    exact .title named found same
  | parent binds declares read =>
    obtain ⟨current, runs, found⟩ := known.bound read
    cases running.symm.trans runs
    exact .parent (binds ▸ known.spawned) declares found
  | completed named read =>
    obtain ⟨current, runs, found⟩ := alone.current present read
    cases running.symm.trans runs
    exact .completed named found

theorem Enquirers.Step.binding_added
    {enquirers after : Enquirers host}
    {event : Event router Errand}
    {next : LedgerState}
    (step : enquirers.Step event after)
    (coherent : enquirers.world.Coherent)
    (before : enquirers.world.memory = some state)
    (now : after.world.memory = some next)
    (absent : state.bindings.lookup key = none)
    (present : next.bindings.lookup key = some account) :
    ∃ thread enquiry reply,
      event = .performed thread (.ledger (.bind key account)) reply ∧
      enquirers.stages thread = some enquiry ∧
      enquiry.Justifies host key account := by
  have unchanged : after.world.memory ≠ enquirers.world.memory := by
    intro same
    rw [before, now] at same
    cases same
    rw [absent] at present
    cases present
  cases step with
  | @perform world enquiry effect reply thread known allowed _ executed =>
    cases ledger : effect.callsLedger with
    | false => exact absurd (exec_other ledger executed).1 unchanged
    | true =>
      cases effect with
      | ledger call =>
        obtain ⟨called⟩ := exec_ledger thread executed
        cases before.symm.trans called.running
        cases now.symm.trans called.memory
        cases called.outcome.binding_added absent present
        exact ⟨thread, enquiry, reply, rfl, known, allowed⟩
      | _ => cases ledger
  | restart resets =>
    -- The file is never ahead of the memory it is read back into.
    obtain ⟨saved, file, behind⟩ := coherent state before
    rcases reset_cases resets with ⟨stopped, -⟩ | ⟨memory, -⟩
    · cases now.symm.trans stopped
    · cases now.symm.trans memory
      simp only [Disk.opened, file] at present
      rw [behind.bindings present] at absent
      cases absent
  | drift drifts =>
    obtain ⟨thread, rfl⟩ := drifts
    exact absurd rfl unchanged
  | _ => exact absurd rfl unchanged

/-- Calls in any interleaving follow their protocol. -/
theorem ErrandRun.enquirers
    {pool : Pool router Errand World}
    (run : ErrandRun host trace pool) :
    ∃ enquirers, Enquirers.Run host trace enquirers ∧
      enquirers.world = pool.world := by
  obtain ⟨stages, -, run⟩ := Pool.Run.refines (errandCertificate host)
    (fun _ _ _ _ => trivial) run
  exact ⟨_, run, rfl⟩

/-- In every interleaving of hooks, title registrations and bindings, with
restarts, every account of the ledger was selected for a folder, and the account
of a completed turn is that of a turn of the same task.  When the calls are made
one after the other, every new binding carries the account selected by the hook
of the turn, or that of the title task, of the declared parent turn or of the
last completed turn, as they are when the binding is made. -/
theorem accounts_have_provenance
    {trace : ErrandTrace}
    {pool : Pool router Errand World}
    (run : ErrandRun host trace pool) :
    (∀ state,
      pool.world.memory = some state ∨ pool.world.disk.ledger = some state →
      (∀ key account, state.bindings.lookup key = some account →
        SelectedIn trace account) ∧
      (∀ task title, state.titles.lookup task = some title →
        SelectedIn trace title.account) ∧
      ∀ task account, state.completed.lookup task = some account →
        SelectedIn trace account ∧
        ∃ turn key, RouterLedger.key host task turn = .ok key ∧
          state.bindings.lookup key = some account) ∧
      (Sequential trace →
        ∀ earlier moment later, trace = earlier ++ moment :: later →
        ∀ state next key account,
        (worldAfter World.start earlier).memory = some state →
        moment.world.memory = some next → state.bindings.lookup key = none →
        next.bindings.lookup key = some account →
        ∃ thread reply, moment.event =
            .performed thread (.ledger (.bind key account)) reply ∧
          Origin host earlier thread state key account) := by
  obtain ⟨enquirers, run, same⟩ := run.enquirers
  constructor
  · intro state stored
    have traced := run.traced
    rw [← same] at stored
    have sourced : state.Sourced host trace := by
      rcases stored with memory | file
      · exact traced.memory state memory
      · exact traced.file state file
    refine ⟨fun _ _ => sourced.bindings, fun _ _ => sourced.titles, ?_⟩
    intro task account known
    obtain ⟨turn, key, named, bound⟩ := sourced.completed known
    exact ⟨sourced.bindings bound, turn, key, named, bound⟩
  · rintro sequential earlier moment later rfl state next key account before now absent present
    obtain ⟨reached, after, run, step, world⟩ := run.at
    rw [← run.world_eq] at before
    rw [world] at now
    have traced := Enquirers.Run.traced run
    have alone := Enquirers.Run.alone run sequential.before
    obtain ⟨thread, enquiry, reply, happened, known, justifies⟩ :=
      Enquirers.Step.binding_added step traced.coherent before now absent present
    exact ⟨thread, reply, happened, traced.origin alone known before justifies⟩

/-- Every call of a trace is made while no other is in progress. -/
def startsAlone (trace : ErrandTrace) : Bool :=
  trace.zipIdx.all fun (moment, index) =>
    match moment.event with
    | .spawned _ _ => (active (trace.take index)).isEmpty
    | _ => true

theorem sequential_of_startsAlone (alone : startsAlone trace = true) :
    Sequential trace := by
  rintro earlier moment later thread errand rfl spawned
  have member : (moment, earlier.length) ∈ (earlier ++ moment :: later).zipIdx := by
    rw [List.mem_zipIdx_iff_getElem?]
    simp
  have none := List.all_eq_true.mp alone _ member
  simpa [spawned] using none

/-- The last event binds a turn. -/
def bindsLast (key : String) (account : UUID) (trace : ErrandTrace) : Bool :=
  decide ((worldAfter World.start trace.dropLast).memory.map
      (fun state => state.bindings.lookup key) = some none) &&
    decide ((worldAfter World.start trace).memory.map
      (fun state => state.bindings.lookup key) = some (some account))

theorem split_of_bindsLast (binds : bindsLast key account trace = true) :
    ∃ earlier moment state next, trace = earlier ++ [moment] ∧
      (worldAfter World.start earlier).memory = some state ∧
      moment.world.memory = some next ∧
      state.bindings.lookup key = none ∧
      next.bindings.lookup key = some account := by
  obtain ⟨before, now⟩ := Bool.and_eq_true_iff.mp binds
  obtain ⟨state, running, absent⟩ := Option.map_eq_some_iff.mp (of_decide_eq_true before)
  obtain ⟨next, runs, present⟩ := Option.map_eq_some_iff.mp (of_decide_eq_true now)
  rcases List.eq_nil_or_concat trace with rfl | ⟨earlier, moment, rfl⟩
  · cases running
  · rw [List.concat_eq_append] at running runs ⊢
    rw [List.dropLast_concat] at running
    simp only [worldAfter, List.getLast?_concat, Option.map_some, Option.getD_some] at runs
    exact ⟨earlier, moment, state, next, rfl, running, runs, absent, present⟩

/-- The end of a turn. -/
def Rehearsal.stop : Object :=
  [("session_id", .string "task"), ("turn_id", .string "turn"),
    ("hook_event_name", .string "Stop")]

/-- The metadata of a continued turn. -/
def Rehearsal.goal : Object :=
  [("request_kind", .string "turn"), ("thread_id", .string "task"),
    ("turn_id", .string "next"), ("turn_trigger", .string "goal")]

/-- A turn that is continued. -/
def Rehearsal.continuation : Script Errand :=
  [.restart (0, { reply := replies "" (.ok []) }), .spawn 0 (.hook prompt)] ++
    Script.go 0 7 (replies "" (.ok [])) ++ [.spawn 1 (.hook stop)] ++
    Script.go 1 4 (replies "" (.ok [])) ++ [.spawn 2 (.binding goal)] ++
    Script.go 2 4 (replies "" (.ok []))

theorem Rehearsal.continuation_run :
    ∃ trace pool, ErrandRun Rehearsal.host trace pool ∧
      (startsAlone trace && bindsLast "task/next" ⟨1⟩ trace) = true :=
  Pool.rehearse (executing Rehearsal.host (fun _ => true) fun _ => trivial)
    continuation _ (by decide +kernel)

/-- A goal continuation is bound to the account that was selected for the
completed turn. -/
theorem goal_continuation_has_provenance :
    ∃ earlier moment pool, ErrandRun Rehearsal.host (earlier ++ [moment]) pool ∧
      SelectedIn (earlier ++ [moment]) ⟨1⟩ ∧
      ∃ thread state,
        Origin Rehearsal.host earlier thread state "task/next" ⟨1⟩ := by
  obtain ⟨trace, pool, run, passed⟩ := Rehearsal.continuation_run
  obtain ⟨alone, binds⟩ := Bool.and_eq_true_iff.mp passed
  obtain ⟨earlier, moment, state, next, rfl, before, now, absent, present⟩ :=
    split_of_bindsLast binds
  obtain ⟨sourced, origins⟩ := accounts_have_provenance run
  have stored : pool.world.memory = some next := by
    rw [run.world_eq]
    simpa [worldAfter] using now
  obtain ⟨thread, reply, -, origin⟩ :=
    origins (sequential_of_startsAlone alone) earlier moment [] rfl state next
      "task/next" ⟨1⟩ before now absent present
  exact ⟨earlier, moment, pool, run,
    (sourced next (.inl stored)).1 "task/next" ⟨1⟩ present, thread, state,
    origin⟩

end Turnrail
