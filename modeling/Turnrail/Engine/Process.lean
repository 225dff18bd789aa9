import Mathlib.Data.List.Basic
import Mathlib.Logic.Function.Basic

/-!
# Signals to the Engine's process group

`RouterEngineProcess` signals the group of its process until the process is
reaped.  The flag that says so is set in a later step than the system call that
reaps.  A thread that signals between the two reaches a group that may already
belong to somebody else.
-/

namespace Turnrail

namespace RouterEngineProcess

/-- The process that leads the group. -/
inductive Leader
  | running
  | exited
  | reaped
  deriving DecidableEq

/-- The signals that are sent. -/
inductive Signal
  | term
  | kill
  deriving DecidableEq

/-- What a signal is sent for. -/
inductive Purpose
  | call
  | stop
  | killer
  deriving DecidableEq

/-- Where a thread stands.  A thread that waits for `stop` keeps the delayed
killer that it cancels afterwards. -/
inductive Point
  | idle
  | signalling (signal : Signal) (purpose : Purpose)
  | scheduling
  | entering (killer : Option Nat)
  | checking (killer : Option Nat)
  | watching (killer : Option Nat)
  | clearing (killer : Option Nat)
  | reaping (killer : Option Nat)
  | recording (killer : Option Nat) (code : Int)
  | leaving (killer : Option Nat)
  | cancelling (killer : Nat)
  | armed
  | finished
  deriving DecidableEq

/-- A thread holds the lock of `wait`. -/
def Point.waits : Point → Bool
  | .checking _ | .watching _ | .clearing _ | .reaping _ | .recording _ _ | .leaving _ => true
  | _ => false

/-- The process and the threads that call it. -/
structure Process where
  leader : Leader
  reaped : Bool
  exitStatus : Option Int
  waitLock : Option Nat
  threads : Nat → Point

/-- A process that was started. -/
def Process.started : Process where
  leader := .running
  reaped := false
  exitStatus := none
  waitLock := none
  threads _ := .idle

/-- Move a thread to a point. -/
def Process.goto (process : Process) (thread : Nat) (point : Point) : Process :=
  { process with threads := Function.update process.threads thread point }

/-- The calls of the threads. -/
inductive Call
  | terminate
  | forceTerminate
  | wait
  | stop

/-- Where a call starts. -/
def Call.start : Call → Point
  | .terminate => .signalling .term .call
  | .forceTerminate => .signalling .kill .call
  | .wait => .entering none
  | .stop => .signalling .term .stop

/-- What waiting for the process returns. -/
inductive Reply
  | success (status : Int)
  | interrupted
  | failure

/-- What one step does to the outside. -/
inductive Event
  | quiet
  | kill (signal : Signal)
  | reap

/-- One step of a thread, unless it is blocked.  A new killer gets a fresh
number. -/
def advance (process : Process) (thread : Nat) (reply : Reply) (fresh : Nat) :
    Option (Event × Process) :=
  match process.threads thread with
  | .idle | .finished => none
  | .signalling signal purpose =>
    let next := process.goto thread
      (match purpose with
        | .call => .idle
        | .stop => .scheduling
        | .killer => .finished)
    some (if process.reaped then .quiet else .kill signal, next)
  | .scheduling =>
    if process.threads fresh = .idle then
      some (.quiet, (process.goto fresh .armed).goto thread (.entering (some fresh)))
    else none
  | .entering killer =>
    if process.waitLock.isNone then
      some (.quiet, { process.goto thread (.checking killer) with waitLock := some thread })
    else none
  | .checking killer =>
    some (.quiet, process.goto thread
      (if process.exitStatus.isSome then .leaving killer else .watching killer))
  | .watching killer =>
    match reply with
    | .interrupted => some (.quiet, process)
    | .failure => some (.quiet, process.goto thread (.reaping killer))
    | .success _ =>
      if process.leader = .running then none
      else some (.quiet, process.goto thread (.clearing killer))
  | .clearing killer => some (.kill .kill, process.goto thread (.reaping killer))
  | .reaping killer =>
    match process.leader, reply with
    | .exited, .success status =>
      some (.reap, { process.goto thread
        (.recording killer (if status = 0 then 0 else 1)) with leader := .reaped })
    | .reaped, .failure => some (.quiet, process.goto thread (.recording killer 1))
    | _, .interrupted => some (.quiet, process)
    | _, _ => none
  | .recording killer code =>
    some (.quiet, { process.goto thread (.leaving killer) with
      reaped := true
      exitStatus := some code })
  | .leaving killer =>
    some (.quiet,
      { process.goto thread (killer.elim .idle .cancelling) with waitLock := none })
  | .cancelling killer =>
    let cancelled :=
      if process.threads killer = .armed then process.goto killer .finished else process
    some (.quiet, cancelled.goto thread .idle)
  | .armed => some (.quiet, process.goto thread (.signalling .kill .killer))

/-- The steps of the process and its threads. -/
inductive Move
  | exits
  | calls (thread : Nat) (call : Call)
  | takes (thread : Nat) (reply : Reply) (fresh : Nat)

/-- Take a step, unless it is blocked. -/
def act (process : Process) : Move → Option (Event × Process)
  | .exits =>
    if process.leader = .running then some (.quiet, { process with leader := .exited })
    else none
  | .calls thread call =>
    if process.threads thread = .idle then some (.quiet, process.goto thread call.start)
    else none
  | .takes thread reply fresh => advance process thread reply fresh

/-- A step of a run. -/
structure Moment where
  process : Process
  move : Move
  event : Event

/-- The steps of a schedule that are not blocked. -/
def trace (process : Process) : List Move → List Moment
  | [] => []
  | move :: rest =>
    match act process move with
    | none => trace process rest
    | some (event, next) => ⟨process, move, event⟩ :: trace next rest

/-- No signal follows the step that reaps. -/
def Spares (earlier later : Moment) : Prop :=
  earlier.event = .reap → ∀ signal, later.event ≠ .kill signal

/-- A thread takes its signalling section while another one stands between
`waitpid` and the section that sets the flag. -/
def Disturbs (process : Process) (move : Move) : Prop :=
  (∃ thread reply fresh signal purpose, move = .takes thread reply fresh ∧
    process.threads thread = .signalling signal purpose) ∧
  ∃ thread killer code, process.threads thread = .recording killer code

/-- What a thread knows from where it stands. -/
def Point.Fits (leader : Leader) (reaped : Bool) : Point → Prop
  | .watching _ | .clearing _ | .reaping _ => leader ≠ .reaped ∧ reaped = false
  | .recording _ _ => leader = .reaped ∧ reaped = false
  | _ => True

/-- What holds of a process at all times. -/
structure Sound (process : Process) : Prop where
  holds : ∀ thread, (process.threads thread).waits = true → process.waitLock = some thread
  flag : process.reaped = process.exitStatus.isSome
  fits : ∀ thread, (process.threads thread).Fits process.leader process.reaped
  lags : process.leader = .reaped → process.reaped = false →
    ∃ thread killer code, process.threads thread = .recording killer code

section Steps

variable {process next : Process} {thread : Nat} {point : Point} {event : Event}

theorem started_sound : Sound .started :=
  ⟨nofun, rfl, fun _ => trivial, nofun⟩

variable {leader : Leader} {reaped : Bool}

theorem fits_of_not_waits (outside : point.waits = false) :
    point.Fits leader reaped := by
  cases point <;> trivial

@[simp] theorem goto_self :
    (process.goto thread point).threads thread = point :=
  Function.update_self ..

theorem goto_of_ne
    {other : Nat}
    (different : other ≠ thread) :
    (process.goto thread point).threads other = process.threads other :=
  Function.update_of_ne different ..

section

variable (sound : Sound process)
include sound

theorem Sound.outside
    (before : (process.threads thread).waits = false)
    (after : point.waits = false) :
    Sound (process.goto thread point) where
  holds other waits := by
    by_cases same : other = thread
    · subst same
      rw [goto_self, after] at waits
      cases waits
    · rw [goto_of_ne same] at waits
      exact sound.holds other waits
  flag := sound.flag
  fits other := by
    by_cases same : other = thread
    · subst same
      rw [goto_self]
      exact fits_of_not_waits after
    · rw [goto_of_ne same]
      exact sound.fits other
  lags reaped unset := by
    obtain ⟨other, killer, code, stands⟩ := sound.lags reaped unset
    have different : other ≠ thread := by
      rintro rfl
      rw [stands] at before
      cases before
    exact ⟨other, killer, code, (goto_of_ne different).trans stands⟩

theorem Sound.alone
    (locked : process.waitLock = some thread ∨ process.waitLock = none)
    {other : Nat}
    (different : other ≠ thread) :
    (process.threads other).waits = false := by
  rw [Bool.eq_false_iff]
  intro waits
  have held := sound.holds other waits
  rcases locked with locked | locked
  · rw [locked] at held
    exact different (Option.some.inj held).symm
  · rw [locked] at held
    cases held

theorem Sound.inside
    {exitStatus : Option Int}
    {waitLock : Option Nat}
    (locked : process.waitLock = some thread ∨ process.waitLock = none)
    (held : point.waits = true → waitLock = some thread)
    (flag : reaped = exitStatus.isSome)
    (fits : point.Fits leader reaped)
    (lags : leader = .reaped →
      reaped = false → ∃ killer code, point = .recording killer code) :
    Sound { process.goto thread point with
      leader, reaped, exitStatus, waitLock } where
  holds other waits := by
    by_cases same : other = thread
    · subst same
      rw [show Process.threads _ other = point from goto_self] at waits
      exact held waits
    · rw [show Process.threads _ other = _
        from goto_of_ne same, sound.alone locked same] at waits
      cases waits
  flag := flag
  fits other := by
    by_cases same : other = thread
    · subst same
      rw [show Process.threads _ other = point from goto_self]
      exact fits
    · rw [show Process.threads _ other = _ from goto_of_ne same]
      exact fits_of_not_waits (sound.alone locked same)
  lags gone unset := by
    obtain ⟨killer, code, rfl⟩ := lags gone unset
    exact ⟨thread, killer, code, goto_self⟩

theorem Sound.unreaped
    (locked : process.waitLock = some thread)
    (stands : ∀ killer code, process.threads thread ≠ .recording killer code)
    (unset : process.reaped = false) :
    process.leader ≠ .reaped := by
  intro reaped
  obtain ⟨other, killer, code, records⟩ := sound.lags reaped unset
  by_cases same : other = thread
  · subst same
    exact stands killer code records
  · have outside := sound.alone (.inl locked) same
    rw [records] at outside
    cases outside

theorem Sound.before
    (held : process.waitLock = some thread)
    (early : process.leader ≠ .reaped ∧ process.reaped = false)
    (fits : point.Fits process.leader process.reaped) :
    Sound (process.goto thread point) :=
  sound.inside (.inl held) (fun _ => held) sound.flag fits fun gone => absurd gone early.1

theorem Sound.locked
    (stands : process.threads thread = point)
    (waits : point.waits = true) :
    process.waitLock = some thread :=
  sound.holds thread (by rw [stands]; exact waits)

theorem Sound.advance
    {reply : Reply}
    {fresh : Nat}
    (acts : advance process thread reply fresh = some (event, next)) :
    Sound next := by
  have fits := sound.fits thread
  -- In every case what the thread does is read off its point.
  revert acts
  rw [RouterEngineProcess.advance]
  cases stands : process.threads thread with
  | idle | finished => nofun
  | signalling signal purpose =>
    rintro ⟨⟩
    exact sound.outside (by rw [stands]; rfl) (by cases purpose <;> rfl)
  | scheduling =>
    dsimp only
    intro acts
    split at acts
    · rename_i free
      cases acts
      have different : thread ≠ fresh := by
        rintro rfl
        rw [stands] at free
        cases free
      exact (sound.outside (by rw [free]; rfl) rfl).outside
        (by rw [goto_of_ne different, stands]; rfl) rfl
    · cases acts
  | entering killer =>
    dsimp only
    intro acts
    split at acts
    · rename_i free
      cases acts
      have free := Option.isNone_iff_eq_none.mp free
      refine sound.inside (.inr free) (fun _ => rfl) sound.flag trivial ?_
      intro gone unset
      obtain ⟨other, killer, code, records⟩ := sound.lags gone unset
      have held := sound.locked records rfl
      rw [free] at held
      cases held
    · cases acts
  | checking killer =>
    have held := sound.locked stands rfl
    rintro ⟨⟩
    refine sound.inside (.inl held) (fun _ => held) sound.flag ?_ ?_
    · split
      · trivial
      · rename_i unset
        have unset : process.reaped = false := by
          rw [sound.flag]
          simpa using unset
        exact ⟨sound.unreaped held (by simp [stands]) unset, unset⟩
    · intro gone unset
      exact absurd gone (sound.unreaped held (by simp [stands]) unset)
  | watching killer =>
    rw [stands] at fits
    have held := sound.locked stands rfl
    intro acts
    cases reply with
    | interrupted =>
      cases acts
      exact sound
    | failure =>
      cases acts
      exact sound.before held fits fits
    | success status =>
      dsimp only at acts
      split at acts
      · cases acts
      · cases acts
        exact sound.before held fits fits
  | clearing killer =>
    rw [stands] at fits
    rintro ⟨⟩
    exact sound.before (sound.locked stands rfl) fits fits
  | reaping killer =>
    have held := sound.locked stands rfl
    rw [stands] at fits
    dsimp only
    intro acts
    split at acts
    · cases acts
      exact sound.inside (.inl held) (fun _ => held) sound.flag ⟨rfl, fits.2⟩
        fun _ _ => ⟨killer, _, rfl⟩
    · rename_i gone
      exact absurd gone fits.1
    · cases acts
      exact sound
    · cases acts
  | recording killer code =>
    have held := sound.locked stands rfl
    rintro ⟨⟩
    exact sound.inside (.inl held) (fun _ => held) rfl trivial nofun
  | leaving killer =>
    have held := sound.locked stands rfl
    rintro ⟨⟩
    refine sound.inside (.inl held) ?_ sound.flag ?_ ?_
    · cases killer <;> exact nofun
    · cases killer <;> trivial
    · intro gone unset
      exact absurd gone (sound.unreaped held (by simp [stands]) unset)
  | cancelling killer =>
    rintro ⟨⟩
    split
    · rename_i waiting
      have different : thread ≠ killer := by
        rintro rfl
        rw [stands] at waiting
        cases waiting
      exact (sound.outside (by rw [waiting]; rfl) rfl).outside
        (by rw [goto_of_ne different, stands]; rfl) rfl
    · exact sound.outside (by rw [stands]; rfl) rfl
  | armed =>
    rintro ⟨⟩
    exact sound.outside (by rw [stands]; rfl) rfl

end

variable {move : Move}

theorem Sound.act
    (sound : Sound process)
    (acts : act process move = some (event, next)) :
    Sound next := by
  cases move with
  | exits =>
    simp only [RouterEngineProcess.act] at acts
    split at acts
    · rename_i runs
      cases acts
      refine ⟨sound.holds, sound.flag, fun thread => ?_, nofun⟩
      have fits := sound.fits thread
      rw [runs] at fits
      cases stands : process.threads thread <;> rw [stands] at fits <;>
        simp_all [Point.Fits]
    · cases acts
  | calls thread call =>
    simp only [RouterEngineProcess.act] at acts
    split at acts
    · rename_i free
      cases acts
      exact sound.outside (by rw [free]; rfl) (by cases call <;> rfl)
    · cases acts
  | takes thread reply fresh => exact sound.advance acts

theorem leader_of_act (acts : act process move = some (event, next)) :
    next.leader = .reaped ↔ process.leader = .reaped ∨ event = .reap := by
  cases move with
  | exits =>
    simp only [act] at acts
    split at acts <;> cases acts
    rename_i runs
    simp [runs]
  | calls thread call =>
    simp only [act] at acts
    split at acts <;> cases acts
    simp [Process.goto]
  | takes thread reply fresh =>
    simp only [act, advance] at acts
    split at acts <;> grind [Process.goto]

theorem signals_of_act
    {signal : Signal}
    (acts : act process move = some (.kill signal, next)) :
    ∃ thread reply fresh, move = .takes thread reply fresh ∧
      ((∃ purpose, process.threads thread = .signalling signal purpose ∧
          process.reaped = false) ∨
        ∃ killer, process.threads thread = .clearing killer) := by
  cases move with
  | exits =>
    simp only [act] at acts
    split at acts <;> cases acts
  | calls thread call =>
    simp only [act] at acts
    split at acts <;> cases acts
  | takes thread reply fresh =>
    refine ⟨thread, reply, fresh, rfl, ?_⟩
    simp only [act, advance] at acts
    split at acts <;> grind

theorem kill_iff_disturbs
    (sound : Sound process)
    (acts : act process move = some (event, next)) :
    (process.leader = .reaped ∧ ∃ signal, event = .kill signal) ↔
      Disturbs process move := by
  constructor
  · rintro ⟨gone, signal, rfl⟩
    obtain ⟨thread, reply, fresh, rfl, ⟨purpose, stands, unset⟩ | ⟨killer, stands⟩⟩ :=
      signals_of_act acts
    · exact ⟨⟨thread, reply, fresh, signal, purpose, rfl, stands⟩, sound.lags gone unset⟩
    · have fits := sound.fits thread
      rw [stands] at fits
      exact absurd gone fits.1
  · rintro ⟨⟨thread, reply, fresh, signal, purpose, rfl, stands⟩, other, killer, code, records⟩
    have fits := sound.fits other
    rw [records] at fits
    simp only [act, advance, stands, fits.2] at acts
    cases acts
    exact ⟨fits.1, signal, rfl⟩

end Steps

theorem spares_iff
    {process : Process}
    (sound : Sound process)
    (moves : List Move) :
    (trace process moves).Pairwise Spares ∧ (process.leader = .reaped →
        ∀ moment ∈ trace process moves, ∀ signal, moment.event ≠ .kill signal) ↔
      ∀ moment ∈ trace process moves, ¬Disturbs moment.process moment.move := by
  induction moves generalizing process with
  | nil => simp [trace]
  | cons move rest ih =>
    rw [trace]
    cases acts : act process move with
    | none => exact ih sound
    | some result =>
      obtain ⟨event, next⟩ := result
      have later := ih (sound.act acts)
      rw [leader_of_act acts] at later
      have now := kill_iff_disturbs sound acts
      simp only [List.pairwise_cons, List.forall_mem_cons, ← now, ← later, Spares]
      grind

/-- Signals reach only the owned process group exactly if no thread takes its
signalling section while another one stands between `waitpid` and setting the
flag. -/
theorem signals_reach_owned_group_iff (moves : List Move) :
    (trace .started moves).Pairwise Spares ↔
      ∀ moment ∈ trace .started moves,
        ¬Disturbs moment.process moment.move := by
  rw [← spares_iff started_sound moves]
  exact ⟨fun spares => ⟨spares, nofun⟩, And.left⟩

/-- A thread waits until it has reaped the process, and another one terminates
it. -/
def Sample.schedule : List Move :=
  [.calls 0 .wait, .takes 0 (.success 0) 0, .takes 0 (.success 0) 0, .exits,
    .takes 0 (.success 0) 0, .takes 0 (.success 0) 0, .takes 0 (.success 0) 0,
    .calls 1 .terminate, .takes 1 (.success 0) 0]

/-- A signal follows the step that reaps. -/
theorem signal_follows_reaping :
    ¬(trace .started Sample.schedule).Pairwise Spares := by
  intro spares
  have events : (trace .started Sample.schedule).map Moment.event =
      [.quiet, .quiet, .quiet, .quiet, .quiet, .kill .kill, .reap, .quiet, .kill .term] := rfl
  have ordered : ((trace .started Sample.schedule).map Moment.event).Pairwise
      fun earlier later => earlier = .reap → ∀ signal, later ≠ .kill signal :=
    List.pairwise_map.mpr spares
  rw [events] at ordered
  simp at ordered

end RouterEngineProcess

end Turnrail
