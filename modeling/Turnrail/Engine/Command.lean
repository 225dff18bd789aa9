import Turnrail.Foundation
import Mathlib.Logic.Function.Basic

/-!
# Running a command

`CommandExecutor.live` waits for its child before it reads what the child wrote.
Until then the pipes have to hold everything, so a child that writes more to a
stream than its pipe holds is never done.
-/

namespace Turnrail

/-- What a command left behind. -/
structure CommandResult where
  exitCode : Int
  standardOutput : String
  standardError : String
  deriving DecidableEq

namespace CommandExecutor

/-- The streams of a child. -/
inductive Stream
  | output
  | error
  deriving DecidableEq

/-- A child that writes and exits. -/
structure Child where
  writes : List (Stream × Data)
  exitCode : Int

/-- What writes bring to a stream. -/
def bytes (stream : Stream) : List (Stream × Data) → Data
  | [] => []
  | (target, data) :: rest => (if target = stream then data else []) ++ bytes stream rest

/-- Where the parent stands. -/
inductive Parent
  | waiting
  | readingOutput (data : Data)
  | readingError (output data : Data)
  | returned (result : CommandResult)

/-- The child, its pipes and the parent that reads them. -/
structure State where
  writes : List (Stream × Data)
  exitCode : Option Int
  pipe : Stream → Data
  parent : Parent

/-- A command that was just started. -/
def Child.started (child : Child) : State where
  writes := child.writes
  exitCode := none
  pipe _ := []
  parent := .waiting

/-- Read some bytes of a pipe, or nothing at its end.  An empty pipe blocks while
the child runs. -/
def State.read (state : State) (stream : Stream) (count : Nat) : Option (Data × State) :=
  if state.pipe stream = [] then
    if state.exitCode.isSome then some ([], state) else none
  else if count = 0 then none
  else some ((state.pipe stream).take count, { state with
    pipe := Function.update state.pipe stream ((state.pipe stream).drop count) })

section Live

variable (decoding : Data → String)

/-- One step of the parent, unless it is blocked. -/
def State.live (state : State) (count : Nat) : Option State :=
  match state.parent with
  | .waiting =>
    if state.exitCode.isSome then some { state with parent := .readingOutput [] } else none
  | .readingOutput data => do
    let (chunk, next) ← state.read .output count
    if chunk = [] then some { next with parent := .readingError data [] }
    else some { next with parent := .readingOutput (data ++ chunk) }
  | .readingError output data => do
    let (chunk, next) ← state.read .error count
    if chunk = [] then
      let code ← next.exitCode
      some { next with parent := .returned ⟨code, decoding output, decoding data⟩ }
    else some { next with parent := .readingError output (data ++ chunk) }
  | .returned _ => none

/-- The steps of a child and its parent. -/
inductive Move
  | writes (count : Nat)
  | exits
  | parent (count : Nat)

/-- Take a step, unless it is blocked.  A write returns when the pipe took all
its bytes. -/
def act (child : Child) (capacity : Nat) (state : State) : Move → Option State
  | .writes count =>
    match state.writes with
    | [] => none
    | (_, []) :: rest => some { state with writes := rest }
    | (stream, byte :: data) :: rest =>
      if count < data.length + 1 ∧ (state.pipe stream).length + count < capacity then
        some { state with
          writes := (stream, data.drop count) :: rest
          pipe := Function.update state.pipe stream
            (state.pipe stream ++ byte :: data.take count) }
      else none
  | .exits =>
    if state.writes = [] ∧ state.exitCode = none then
      some { state with exitCode := some child.exitCode }
    else none
  | .parent count => state.live decoding count

/-- The state after some moves. -/
def run (child : Child) (capacity : Nat) (state : State) (moves : List Move) : Option State :=
  moves.foldlM (act decoding child capacity) state

/-- The parent has returned what the child wrote and its exit code. -/
def Done (child : Child) (state : State) : Prop :=
  state.parent = .returned ⟨child.exitCode, decoding (bytes .output child.writes),
    decoding (bytes .error child.writes)⟩

/-- No state is stuck before the parent is done. -/
def Progresses (child : Child) (capacity : Nat) : Prop :=
  ∀ moves state, run decoding child capacity child.started moves = some state →
    Done decoding child state ∨ ∃ move, (act decoding child capacity state move).isSome = true

end Live

/-- What the parent knows where it stands. -/
def Parent.Fits (child : Child) (state : State) : Parent → Prop
  | .waiting => ∀ stream,
    state.pipe stream ++ bytes stream state.writes = bytes stream child.writes
  | .readingOutput data => data ++ state.pipe .output = bytes .output child.writes ∧
    state.pipe .error = bytes .error child.writes
  | .readingError output data => output = bytes .output child.writes ∧
    data ++ state.pipe .error = bytes .error child.writes
  | .returned _ => True

/-- What holds after every step. -/
structure Kept (decoding : Data → String) (child : Child) (capacity : Nat) (state : State) :
    Prop where
  pipes : ∀ stream, (state.pipe stream).length ≤ capacity
  exited : ∀ code, state.exitCode = some code → code = child.exitCode ∧ state.writes = []
  awaited : state.exitCode = none → state.parent = .waiting
  fits : state.parent.Fits child state
  returned : ∀ result, state.parent = .returned result → Done decoding child state

section Runs

variable {decoding : Data → String} {child : Child} {capacity : Nat} {state next : State}

theorem started_kept : Kept decoding child capacity child.started :=
  ⟨fun _ => Nat.zero_le _, nofun, fun _ => rfl, fun _ => rfl, nofun⟩

variable {stream : Stream} {count : Nat} {chunk : Data}

theorem read_eq_some (reads : state.read stream count = some (chunk, next)) :
    ∃ left, state.pipe stream = chunk ++ left ∧ (chunk = [] → left = []) ∧
      next = { state with pipe := Function.update state.pipe stream left } := by
  simp only [State.read] at reads
  split at reads
  · rename_i empty
    split at reads <;> cases reads
    exact ⟨[], empty, fun _ => rfl, by rw [← empty, Function.update_eq_self]⟩
  · rename_i filled
    split at reads <;> cases reads
    rename_i positive
    exact ⟨(state.pipe stream).drop count, (List.take_append_drop _ _).symm,
      by simp [filled, positive], rfl⟩

namespace Kept

variable (kept : Kept decoding child capacity state)
include kept

theorem writes
    (acts : act decoding child capacity state (.writes count) = some next) :
    Kept decoding child capacity next := by
  have runs : state.writes ≠ [] → state.exitCode = none := fun more =>
    Option.eq_none_iff_forall_ne_some.mpr fun code exits => more (kept.exited code exits).2
  simp only [act] at acts
  split at acts
  · cases acts
  · rename_i target rest held
    cases acts
    have going := runs (by simp [held])
    have fits := kept.fits
    rw [kept.awaited going] at fits
    refine ⟨kept.pipes, by simp [going], kept.awaited, ?_, kept.returned⟩
    rw [kept.awaited going]
    intro stream
    simpa [held, bytes] using fits stream
  · rename_i target byte data rest held
    split at acts <;> cases acts
    rename_i room
    have going := runs (by simp [held])
    have fits := kept.fits
    rw [kept.awaited going] at fits
    refine ⟨fun stream => ?_, by simp [going], kept.awaited, ?_, kept.returned⟩
    · have before := kept.pipes stream
      by_cases same : stream = target
      · subst same
        simp
        omega
      · simpa [same] using before
    · rw [kept.awaited going]
      intro stream
      have before := fits stream
      by_cases same : stream = target
      · subst same
        have whole : data.take count ++ (data.drop count ++ bytes stream rest) =
            data ++ bytes stream rest := by
          rw [← List.append_assoc, List.take_append_drop]
        simpa [held, bytes, whole] using before
      · simpa [held, bytes, same, Ne.symm same] using before

theorem exits (acts : act decoding child capacity state .exits = some next) :
    Kept decoding child capacity next := by
  simp only [act] at acts
  split at acts <;> cases acts
  rename_i ends
  refine ⟨kept.pipes, fun code exits => ?_, nofun, kept.fits, kept.returned⟩
  cases exits
  exact ⟨rfl, ends.1⟩

theorem read
    {other : Stream}
    {left : Data}
    (held : state.pipe stream = chunk ++ left) :
    (Function.update state.pipe stream left other).length ≤ capacity := by
  have before := kept.pipes other
  by_cases same : other = stream
  · subst same
    simp only [held, List.length_append] at before
    simp only [Function.update_self]
    omega
  · simpa [same] using before

theorem parent (acts : state.live decoding count = some next) :
    Kept decoding child capacity next := by
  have fits := kept.fits
  have awaited : state.parent ≠ .waiting → state.exitCode ≠ none := fun goes runs =>
    goes (kept.awaited runs)
  simp only [State.live] at acts
  split at acts
  · rename_i stands
    split at acts <;> cases acts
    rename_i exits
    obtain ⟨code, exits⟩ := Option.isSome_iff_exists.mp exits
    rw [stands] at fits
    have complete : ∀ stream, state.pipe stream = bytes stream child.writes := fun stream => by
      simpa [(kept.exited code exits).2, bytes] using fits stream
    exact ⟨kept.pipes, kept.exited, by simp [exits],
      ⟨complete .output, complete .error⟩, nofun⟩
  · rename_i data stands
    rw [stands] at fits
    have ended := awaited (by simp [stands])
    obtain ⟨⟨chunk, after⟩, reads, acts⟩ := Option.bind_eq_some_iff.mp acts
    obtain ⟨left, held, finished, rfl⟩ := read_eq_some reads
    dsimp only at acts
    split at acts <;> cases acts <;>
      refine ⟨fun _ => kept.read held, kept.exited, fun runs => absurd runs ended, ?_, nofun⟩
    · rename_i empty
      exact ⟨by simpa [held, empty, finished empty] using fits.1, by simpa using fits.2⟩
    · exact ⟨by simpa [held] using fits.1, by simpa using fits.2⟩
  · rename_i output data stands
    rw [stands] at fits
    have ended := awaited (by simp [stands])
    obtain ⟨⟨chunk, after⟩, reads, acts⟩ := Option.bind_eq_some_iff.mp acts
    obtain ⟨left, held, finished, rfl⟩ := read_eq_some reads
    dsimp only at acts
    split at acts
    · rename_i empty
      obtain ⟨code, exits, acts⟩ := Option.bind_eq_some_iff.mp acts
      cases acts
      refine ⟨fun _ => kept.read held, kept.exited, fun runs => absurd runs ended, trivial,
        fun _ _ => ?_⟩
      have complete : data = bytes .error child.writes := by
        simpa [held, empty, finished empty] using fits.2
      rw [Done, ← fits.1, ← complete, ← (kept.exited code exits).1]
    · cases acts
      exact ⟨fun _ => kept.read held, kept.exited, fun runs => absurd runs ended,
        ⟨fits.1, by simpa [held] using fits.2⟩, nofun⟩
  · cases acts

theorem act
    {move : Move}
    (acts : act decoding child capacity state move = some next) :
    Kept decoding child capacity next := by
  cases move with
  | writes count => exact kept.writes acts
  | exits => exact kept.exits acts
  | parent count => exact kept.parent acts

theorem run
    {moves : List Move}
    (runs : run decoding child capacity state moves = some next) :
    Kept decoding child capacity next := by
  induction moves generalizing state with
  | nil =>
    cases runs
    exact kept
  | cons move rest ih =>
    obtain ⟨after, acts, runs⟩ := Option.bind_eq_some_iff.mp runs
    exact ih (kept.act acts) runs

end Kept

/-- How much the child has to do before it exits. -/
def work : List (Stream × Data) → Nat
  | [] => 0
  | (_, data) :: rest => data.length + 1 + work rest

theorem work_lt_of_act
    (acts : act decoding child capacity state (.writes count) = some next) :
    work next.writes < work state.writes ∧ next.exitCode = state.exitCode := by
  simp only [act] at acts
  split at acts
  · cases acts
  · rename_i held
    cases acts
    simp [work, held]
  · rename_i held
    split at acts <;> cases acts
    simp only [work, held, List.length_cons, List.length_drop, and_true]
    omega

theorem exists_act
    (kept : Kept decoding child capacity state)
    (small : ∀ stream, (bytes stream child.writes).length ≤ capacity) :
    Done decoding child state ∨
      ∃ move, (act decoding child capacity state move).isSome = true := by
  cases exits : state.exitCode with
  | none =>
    have fits := kept.fits
    rw [kept.awaited exits] at fits
    refine .inr ?_
    cases held : state.writes with
    | nil => exact ⟨.exits, by simp [act, held, exits]⟩
    | cons write rest =>
      obtain ⟨stream, data⟩ := write
      refine ⟨.writes 0, ?_⟩
      cases data with
      | nil => simp [act, held]
      | cons byte data =>
        have room := congrArg List.length (fits stream)
        have most := small stream
        simp only [held, bytes, if_true, List.length_append, List.length_cons] at room
        have free : (state.pipe stream).length < capacity := by omega
        simp [act, held, free]
  | some code =>
    cases stands : state.parent with
    | waiting => exact .inr ⟨.parent 1, by simp [act, State.live, stands, exits]⟩
    | readingOutput data =>
      refine .inr ⟨.parent 1, ?_⟩
      by_cases empty : state.pipe .output = [] <;>
        simp [act, State.live, stands, State.read, exits, empty]
    | readingError output data =>
      refine .inr ⟨.parent 1, ?_⟩
      by_cases empty : state.pipe .error = [] <;>
        simp [act, State.live, stands, State.read, exits, empty]
    | returned result => exact .inl (kept.returned result stands)

theorem exists_stuck
    (large : capacity < (bytes stream child.writes).length)
    (kept : Kept decoding child capacity state)
    (runs : state.exitCode = none) :
    ∃ moves stuck, run decoding child capacity state moves = some stuck ∧
      ¬Done decoding child stuck ∧
      ∀ move, act decoding child capacity stuck move = none := by
  have waits := kept.awaited runs
  -- By induction on what the child has still to do: every step is one of its writes.
  induction remaining : work state.writes using Nat.strong_induction_on generalizing state with
  | h amount ih =>
    by_cases blocked : ∀ count, act decoding child capacity state (.writes count) = none
    · refine ⟨[], state, rfl, by simp [Done, waits], fun move => ?_⟩
      cases move with
      | writes count => exact blocked count
      | exits =>
        have fits := kept.fits
        rw [waits] at fits
        have room := kept.pipes stream
        have more : state.writes ≠ [] := fun empty => by
          have same := congrArg List.length (fits stream)
          simp only [empty, bytes, List.append_nil] at same
          omega
        simp [act, more]
      | parent count => simp [act, State.live, waits, runs]
    · push Not at blocked
      obtain ⟨count, goes⟩ := blocked
      obtain ⟨next, acts⟩ := Option.ne_none_iff_exists'.mp goes
      obtain ⟨less, same⟩ := work_lt_of_act acts
      have after := kept.writes acts
      have still := same.trans runs
      obtain ⟨moves, stuck, leads, ends⟩ := ih _ (remaining ▸ less) after still
        (after.awaited still) rfl
      exact ⟨.writes count :: moves, stuck,
        Option.bind_eq_some_iff.mpr ⟨next, acts, leads⟩, ends⟩

theorem not_progresses (large : capacity < (bytes stream child.writes).length) :
    ¬Progresses decoding child capacity := by
  intro progresses
  obtain ⟨moves, stuck, leads, unfinished, blocked⟩ := exists_stuck large started_kept rfl
  rcases progresses moves stuck leads with done | ⟨move, enabled⟩
  · exact unfinished done
  · simp [blocked] at enabled

end Runs

/-- Running a command cannot deadlock exactly if each pipe holds all that the
child writes to it. -/
theorem command_progresses_iff
    (decoding : Data → String)
    (child : Child)
    (capacity : Nat) :
    Progresses decoding child capacity ↔
      ∀ stream, (bytes stream child.writes).length ≤ capacity := by
  constructor
  · intro progresses stream
    by_contra large
    exact not_progresses (Nat.lt_of_not_le large) progresses
  · intro small moves state leads
    exact exists_act (started_kept.run leads) small

/-- A child that writes two bytes. -/
def Sample.greeting : Child := ⟨[(.output, [104, 105])], 0⟩

/-- Two bytes do not fit a pipe that holds one. -/
theorem greeting_deadlocks : ¬Progresses (fun _ => "hi") Sample.greeting 1 := by
  have large : 1 < (bytes .output Sample.greeting.writes).length := by decide
  exact not_progresses large

end CommandExecutor

end Turnrail
