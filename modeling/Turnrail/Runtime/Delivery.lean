import Turnrail.Runtime.Durability

/-!
# Who delivers a request

At every point of every run a request is held by at most one worker, and the
worker that holds it has it recorded as in flight, in memory and in the file.
What a worker learned of bindings and responses stays true.
-/

namespace Turnrail

open Interleaving

variable {host : Foundation}

/-- What a worker knows is true. -/
structure Stage.Sound (world : World) (stage : Stage) : Prop where
  binding : ∀ {turn account}, stage.binding = some (turn, account) →
    ∃ state, world.memory = some state ∧ state.bindings.lookup turn = some account
  held : ∀ {fingerprint turn}, stage.phase.Holds fingerprint turn →
    ∃ state saved, world.memory = some state ∧ world.disk.ledger = some saved ∧
      state.InFlight fingerprint turn ∧ saved.InFlight fingerprint turn ∧
      ∃ account, saved.bindings.lookup turn = some account
  committed : ∀ {fingerprint turn response},
    stage.phase = .committed fingerprint turn response →
    ∃ saved, world.disk.ledger = some saved ∧ saved.Completes fingerprint turn ∧
      ∀ id, response = some id → saved.Records id
  saved : ∀ {id}, stage.phase = .saved id →
    ∃ saved, world.disk.ledger = some saved ∧ saved.Records id

theorem Stage.sound_start
    (world : World)
    (point : Point) :
    point.start.Sound world := by
  cases point <;>
    refine ⟨?_, ?_, ?_, ?_⟩ <;>
    simp [Point.start, Phase.Holds]

variable {before after : World} {stage : Stage}

theorem Stage.Sound.kept
    (sound : stage.Sound before)
    (disk : before.disk.Keeps after.disk)
    (lags : after.disk.ledger = before.disk.ledger ∨
      after.disk.ledger = after.memory)
    (memory : ∀ state, before.memory = some state → ∃ next,
      after.memory = some next ∧ state.Extends next ∧ ∀ fingerprint turn,
      stage.phase.Holds fingerprint turn → AList.lookup fingerprint
        next.requests = state.requests.lookup fingerprint) :
    stage.Sound after where
  binding {turn account} known := by
    obtain ⟨state, running, bound⟩ := sound.binding known
    obtain ⟨next, running, grown, -⟩ := memory state running
    exact ⟨next, running, grown.bindings bound⟩
  held {fingerprint turn} holds := by
    obtain ⟨state, saved, running, known, inMemory, inFile, account, bound⟩ := sound.held holds
    obtain ⟨next, running, -, untouched⟩ := memory state running
    obtain ⟨later, final, grown⟩ := disk saved known
    have inFlight : next.InFlight fingerprint turn := by
      rw [LedgerState.InFlight, untouched fingerprint turn holds]
      exact inMemory
    refine ⟨next, later, running, final, inFlight, ?_, account, grown.bindings bound⟩
    rcases lags with same | same
    · rw [same, known] at final
      cases final
      exact inFile
    · rw [same, running] at final
      cases final
      exact inFlight
  committed {fingerprint turn response} known := by
    obtain ⟨saved, known, completes, records⟩ := sound.committed known
    obtain ⟨later, final, grown⟩ := disk saved known
    exact ⟨later, final, grown.completes completes,
      fun id same => grown.records (records id same)⟩
  saved {id} known := by
    obtain ⟨saved, known, records⟩ := sound.saved known
    obtain ⟨later, final, grown⟩ := disk saved known
    exact ⟨later, final, grown.records records⟩

theorem Stage.Sound.unchanged
    (sound : stage.Sound before)
    (memory : after.memory = before.memory)
    (disk : after.disk = before.disk) :
    stage.Sound after := by
  refine sound.kept ?_ (.inl (congrArg Disk.ledger disk)) ?_
  · rw [disk]
    exact .refl _
  · intro state running
    exact ⟨state, memory.trans running, .refl state, fun _ _ _ => rfl⟩

variable {world : World}

theorem Stage.Sound.rebind
    {next : Stage}
    (sound : stage.Sound world)
    (phase : next.phase = stage.phase)
    (binding : ∀ {turn account}, next.binding = some (turn, account) → ∃ state,
      world.memory = some state ∧ state.bindings.lookup turn = some account) :
    next.Sound world where
  binding := binding
  held := by
    rw [phase]
    exact sound.held
  committed := by
    rw [phase]
    exact sound.committed
  saved := by
    rw [phase]
    exact sound.saved

theorem Stage.sound_idle
    (phase : stage.phase = .idle ∨ stage.phase = .released)
    (binding : ∀ {turn account}, stage.binding = some (turn, account) → ∃ state,
      world.memory = some state ∧ state.bindings.lookup turn = some account) :
    stage.Sound world := by
  refine ⟨binding, ?_, ?_, ?_⟩ <;>
    rcases phase with phase | phase <;>
    simp [phase, Phase.Holds]

/-- What holds of the workers at all times. -/
structure Workers.Delivers (workers : Workers host) : Prop where
  coherent : workers.world.Coherent
  sound : ∀ {thread stage}, workers.stages thread = some stage → stage.Sound workers.world
  unique : ∀ {thread stage other another fingerprint turn owner},
    workers.stages thread = some stage →
    workers.stages other = some another →
    stage.phase.Holds fingerprint turn →
    another.phase.Holds fingerprint owner → thread = other

variable {state : LedgerState} {fingerprint turn : String}

theorem begin_refused (inFlight : state.InFlight fingerprint turn) :
    Operation.begin.next
        ((state.requests.lookup fingerprint).map Request.state) = none := by
  obtain ⟨current, known, inFlight⟩ := inFlight
  rw [known]
  cases current <;> first | rfl | cases inFlight

theorem Stage.Sound.completes
    {response : Option String}
    (sound : stage.Sound world)
    (coherent : world.Coherent)
    (running : world.memory = some state)
    (committed : stage.phase = .committed fingerprint turn response) :
    state.Completes fingerprint turn := by
  obtain ⟨saved, known, completes, -⟩ := sound.committed committed
  obtain ⟨saved', known', grown⟩ := coherent state running
  rw [known] at known'
  cases known'
  exact grown.completes completes

namespace Workers.Delivers

variable {workers : Workers host} {thread other : Nat} {another : Stage} {call : LedgerCall}
  {reply : Except PlainError call.Value}

theorem untouched
    (delivers : workers.Delivers)
    (known : workers.stages thread = some stage)
    (allowed : stage.AllowsCall host call)
    (called : workers.world.Called host call reply after)
    (present : workers.stages other = some another)
    (differs : other ≠ thread)
    (holds : another.phase.Holds fingerprint turn) :
    AList.lookup fingerprint called.ledger.state.requests =
      called.state.requests.lookup fingerprint := by
  obtain ⟨state, saved, running, -, inMemory, -, -⟩ := (delivers.sound present).held holds
  rw [called.running] at running
  cases running
  have mine : ∀ owner, ¬stage.phase.Holds fingerprint owner := by
    intro owner held
    exact differs (delivers.unique present known holds held)
  rcases called.outcome.request fingerprint with
    same | ⟨operation, owner, next, performs, moves⟩
  · exact same
  · exfalso
    cases call with
    | begin =>
      cases performs
      have step := moves.step
      rw [begin_refused inMemory] at step
      cases step
    | interrupt | rejectConnectionLimit =>
      cases performs
      exact mine _ allowed
    | finish | complete =>
      cases performs
      exact mine _ (.inr allowed.1)
    | cancel =>
      cases performs
      rcases allowed with held | ⟨response, committed⟩
      · exact mine _ held
      · have completes := (delivers.sound known).completes delivers.coherent
          called.running committed
        exact completes.not_inFlight inMemory
    | _ => cases performs

theorem sound_other
    (delivers : workers.Delivers)
    (known : workers.stages thread = some stage)
    (allowed : stage.AllowsCall host call)
    (called : workers.world.Called host call reply after)
    (present : workers.stages other = some another)
    (differs : other ≠ thread) :
    another.Sound after := by
  refine (delivers.sound present).kept (called.keeps delivers.coherent) called.lags ?_
  intro state running
  rw [called.running] at running
  cases running
  refine ⟨_, called.memory, called.grows, ?_⟩
  intro fingerprint turn holds
  exact delivers.untouched known allowed called present differs holds

theorem binding_self
    (delivers : workers.Delivers)
    (known : workers.stages thread = some stage)
    (called : workers.world.Called host call reply after)
    {account : UUID}
    (learned :
      (stage.next host (.ledger call) reply).binding = some (turn, account)) :
    ∃ state, after.memory = some state ∧
      state.bindings.lookup turn = some account := by
  have kept : stage.binding = some (turn, account) → ∃ state, after.memory = some state ∧
        state.bindings.lookup turn = some account := by
    intro bound
    obtain ⟨state, running, bound⟩ := (delivers.sound known).binding bound
    rw [called.running] at running
    cases running
    exact ⟨_, called.memory, called.grows.bindings bound⟩
  cases call with
  | bound key =>
    rcases reply with error | (_ | found)
    · exact kept learned
    · exact kept learned
    · cases learned
      exact ⟨_, called.memory, called.outcome.bound_read⟩
  | _ => cases reply <;> exact kept learned

theorem sound_self
    (delivers : workers.Delivers)
    (known : workers.stages thread = some stage)
    (allowed : stage.AllowsCall host call)
    (called : workers.world.Called host call reply after) :
    (stage.next host (.ledger call) reply).Sound after := by
  have binding : ∀ {turn account}, (stage.next host (.ledger call) reply).binding =
        some (turn, account) →
      ∃ state, after.memory = some state ∧ state.bindings.lookup turn = some account :=
    fun learned => delivers.binding_self known called learned
  -- The old knowledge survives if the call does not act on the worker's request.
  have steady : (∀ fingerprint turn, stage.phase.Holds fingerprint turn →
        AList.lookup fingerprint called.ledger.state.requests =
          called.state.requests.lookup fingerprint) →
      stage.Sound after := by
    intro untouched
    refine (delivers.sound known).kept (called.keeps delivers.coherent) called.lags ?_
    intro state running
    rw [called.running] at running
    cases running
    exact ⟨_, called.memory, called.grows, untouched⟩
  have silent : call.operation = none → stage.Sound after := by
    intro silent
    refine steady fun fingerprint turn _ => ?_
    rcases called.outcome.request fingerprint with
      same | ⟨_, _, _, performs, -⟩
    · exact same
    · rw [silent] at performs
      cases performs
  cases call with
  | bound key =>
    rcases reply with error | (_ | found) <;>
      exact (silent rfl).rebind rfl binding
  | bind | registerTitle | title | completedAccount | stop | history =>
    cases reply <;> exact (silent rfl).rebind rfl binding
  | saveHistory id value =>
    cases reply with
    | error error => exact (silent rfl).rebind rfl binding
    | ok result =>
      obtain ⟨saved, records⟩ := called.outcome.saveHistory_saved
      refine ⟨binding, ?_, ?_, ?_⟩
      · rintro _ _ (held | held) <;> cases held
      · rintro _ _ _ ⟨⟩
      · rintro _ ⟨⟩
        exact ⟨_, (congrArg Disk.ledger called.disk).trans saved, records⟩
  | begin fingerprint turn =>
    cases reply with
    | error error => exact Stage.sound_idle (.inl allowed.1) binding
    | ok result =>
      obtain ⟨saved, inFlight, -, -, account, bound⟩ := called.outcome.begin_admitted
      refine ⟨binding, ?_, ?_, ?_⟩
      · rintro _ _ (held | held) <;> cases held
        exact ⟨_, _, called.memory, (congrArg Disk.ledger called.disk).trans saved, inFlight,
          inFlight, account, bound⟩
      · rintro _ _ _ ⟨⟩
      · rintro _ ⟨⟩
  | interrupt | rejectConnectionLimit | fail =>
    cases reply <;> exact Stage.sound_idle (.inr rfl) binding
  | cancel fingerprint turn =>
    have phase : (stage.next host (.ledger (.cancel fingerprint turn))
        reply).phase = stage.phase.after (.cancel fingerprint turn) reply :=
      rfl
    rcases allowed with held | ⟨response, committed⟩
    · refine Stage.sound_idle (.inr ?_) binding
      rcases held with held | held <;>
        rw [phase, held] <;>
        rfl
    · refine (steady ?_).rebind ?_ binding
      · rw [committed]
        rintro _ _ (held | held) <;> cases held
      · rw [phase, committed]
        rfl
  | complete fingerprint turn response value =>
    cases reply with
    | error error => exact Stage.sound_idle (.inr rfl) binding
    | ok result =>
      obtain ⟨saved, completes, records⟩ := called.outcome.complete_saved
      refine ⟨binding, ?_, ?_, ?_⟩
      · rintro _ _ (held | held) <;> cases held
      · rintro _ _ _ ⟨⟩
        refine ⟨_, (congrArg Disk.ledger called.disk).trans saved, completes, ?_⟩
        rintro _ ⟨⟩
        exact records
      · rintro _ ⟨⟩
  | finish fingerprint turn =>
    cases reply with
    | error error => exact Stage.sound_idle (.inr rfl) binding
    | ok result =>
      obtain ⟨saved, completes⟩ := called.outcome.finish_saved
      refine ⟨binding, ?_, ?_, ?_⟩
      · rintro _ _ (held | held) <;> cases held
      · rintro _ _ _ ⟨⟩
        refine ⟨_, (congrArg Disk.ledger called.disk).trans saved, completes, ?_⟩
        rintro _ ⟨⟩
      · rintro _ ⟨⟩

theorem phase_called
    (stage : Stage)
    (call : LedgerCall)
    (reply : Except PlainError call.Value) :
    (stage.next host (.ledger call) reply).phase =
      stage.phase.after call reply := by
  cases call with
  | bound key => rcases reply with error | (_ | found) <;> rfl
  | _ => cases reply <;> rfl

theorem holds_called
    {phase : Phase}
    (holds : (phase.after call reply).Holds fingerprint turn) :
    phase.Holds fingerprint turn ∨
      (call = .begin fingerprint turn ∧ reply.isOk = true) := by
  cases call with
  | begin named owner =>
    cases reply with
    | error error => exact .inl holds
    | ok value =>
      rcases holds with holds | holds <;> cases holds
      exact .inr ⟨rfl, rfl⟩
  | interrupt | rejectConnectionLimit | fail => rcases holds with holds | holds <;> cases holds
  | cancel => cases phase <;> rcases holds with holds | holds <;> cases holds
  | complete | finish => cases reply <;> rcases holds with holds | holds <;> cases holds
  | saveHistory id value =>
    cases reply with
    | error error => exact .inl holds
    | ok value => rcases holds with holds | holds <;> cases holds
  | _ => exact .inl holds

variable {effect : Effect} {reply : effect.Reply}

theorem holds_other
    (other : effect.callsLedger = false)
    (allowed : stage.Allows host effect)
    (holds : (stage.next host effect reply).phase.Holds fingerprint turn) :
    stage.phase.Holds fingerprint turn := by
  cases effect with
  | ledger call => cases other
  | nextMessage =>
    cases reply with
    | none => exact holds
    | some raw => rcases holds with holds | holds <;> cases holds
  | send | search =>
    rcases holds with holds | holds <;> cases holds
    exact .inl allowed.1
  | receive connection =>
    cases reply with
    | error error => exact holds
    | ok rawEvent =>
      cases parsed : RouterJSON.object host rawEvent <;>
        simpa [Stage.next, Stage.learn, parsed] using holds
  | _ => exact holds

theorem sound_outside
    (other : effect.callsLedger = false)
    (allowed : stage.Allows host effect)
    (sound : stage.Sound world)
    (memory : after.memory = world.memory)
    (disk : after.disk = world.disk) :
    (stage.next host effect reply).Sound after := by
  have sound := sound.unchanged memory disk
  cases effect with
  | ledger call => cases other
  | nextMessage =>
    cases reply with
    | none => exact sound.rebind rfl sound.binding
    | some raw => exact Stage.sound_idle (.inl rfl) (by rintro _ _ ⟨⟩)
  | send | search =>
    refine ⟨sound.binding, ?_, ?_, ?_⟩
    · rintro _ _ (held | held) <;> cases held
      exact sound.held (.inl allowed.1)
    · rintro _ _ _ ⟨⟩
    · rintro _ ⟨⟩
  | receive connection =>
    have kept : (stage.next host (.receive connection) reply).phase = stage.phase ∧
        (stage.next host (.receive connection) reply).binding = stage.binding := by
      cases reply with
      | error error => exact ⟨rfl, rfl⟩
      | ok rawEvent =>
        cases parsed : RouterJSON.object host rawEvent <;>
          simp [Stage.next, Stage.learn, parsed]
    refine sound.rebind kept.1 ?_
    rw [kept.2]
    exact sound.binding
  | _ => exact sound.rebind rfl sound.binding

theorem unique_next
    (delivers : workers.Delivers)
    (known : workers.stages thread = some stage)
    (allowed : stage.Allows host effect)
    (executed : World.exec host thread workers.world effect reply world)
    {owner : String}
    (present : workers.stages other = some another)
    (holds : (stage.next host effect reply).phase.Holds fingerprint turn)
    (held : another.phase.Holds fingerprint owner) :
    thread = other := by
  cases calls : effect.callsLedger with
  | false => exact delivers.unique known present (holds_other calls allowed holds) held
  | true =>
    cases effect with
    | ledger call =>
      rw [phase_called] at holds
      rcases holds_called holds with holds | ⟨rfl, admitted⟩
      · exact delivers.unique known present holds held
      · -- The request would have been in flight already.
        obtain ⟨called⟩ := exec_ledger thread executed
        obtain ⟨state, -, running, -, ⟨current, found, inFlight⟩, -⟩ :=
          (delivers.sound present).held held
        cases reply with
        | error error => cases admitted
        | ok value =>
          obtain ⟨-, -, -, resumable, -⟩ := called.outcome.begin_admitted
          rw [called.running] at running
          cases running
          have resumable := (resumable _ found).2
          cases current <;> cases inFlight <;> cases resumable
    | _ => cases calls

theorem sound_next
    (delivers : workers.Delivers)
    (known : workers.stages thread = some stage)
    (allowed : stage.Allows host effect)
    (executed : World.exec host thread workers.world effect reply world)
    (present : Function.update workers.stages thread
      (some (stage.next host effect reply)) other = some another) :
    another.Sound world := by
  cases calls : effect.callsLedger with
  | false =>
    obtain ⟨memory, disk⟩ := exec_other calls executed
    rcases update_cases present with ⟨-, ⟨⟩⟩ | ⟨-, present⟩
    · exact sound_outside calls allowed (delivers.sound known) memory disk
    · exact (delivers.sound present).unchanged memory disk
  | true =>
    cases effect with
    | ledger call =>
      obtain ⟨called⟩ := exec_ledger thread executed
      rcases update_cases present with ⟨-, ⟨⟩⟩ | ⟨differs, present⟩
      · exact delivers.sound_self known allowed called
      · exact delivers.sound_other known allowed called present differs
    | _ => cases calls

theorem performed
    (delivers : workers.Delivers)
    (known : workers.stages thread = some stage)
    (allowed : stage.Allows host effect)
    (executed : World.exec host thread workers.world effect reply world) :
    @Workers.Delivers host ⟨world, Function.update workers.stages thread
        (some (stage.next host effect reply))⟩ := by
  refine ⟨(exec_coherent executed delivers.coherent).2, ?_, ?_⟩
  · intro other another present
    exact delivers.sound_next known allowed executed present
  · intro first stage' second another fingerprint turn owner one two holds held
    rcases update_cases one with ⟨rfl, ⟨⟩⟩ | ⟨-, oneBefore⟩ <;>
      rcases update_cases two with ⟨rfl, ⟨⟩⟩ | ⟨-, twoBefore⟩
    · rfl
    · exact delivers.unique_next known allowed executed twoBefore holds held
    · exact (delivers.unique_next known allowed executed oneBefore held holds).symm
    · exact delivers.unique oneBefore twoBefore holds held

theorem step
    {after : Workers host}
    {event : Event router Point}
    (delivers : workers.Delivers)
    (taken : workers.Step event after) :
    after.Delivers := by
  cases taken with
  | spawn thread point absent =>
    refine ⟨delivers.coherent, ?_, ?_⟩
    · intro other stage present
      rcases update_cases present with ⟨-, ⟨⟩⟩ | ⟨-, present⟩
      · exact Stage.sound_start _ point
      · exact delivers.sound present
    · intro first stage second another fingerprint turn owner one two holds held
      have started : ∀ named, ¬point.start.phase.Holds fingerprint named := by
        cases point <;> simp [Point.start, Phase.Holds]
      rcases update_cases one with ⟨-, ⟨⟩⟩ | ⟨-, one⟩
      · exact absurd holds (started turn)
      · rcases update_cases two with ⟨-, ⟨⟩⟩ | ⟨-, two⟩
        · exact absurd held (started owner)
        · exact delivers.unique one two holds held
  | perform thread known allowed _ executed => exact delivers.performed known allowed executed
  | resume => exact delivers
  | finish thread =>
    have remains : ∀ {other stage},
      Function.update workers.stages thread none other = some stage →
        workers.stages other = some stage := by
      intro other stage present
      rcases update_cases present with ⟨-, ⟨⟩⟩ | ⟨-, present⟩
      exact present
    exact ⟨delivers.coherent, fun present => delivers.sound (remains present),
      fun one two => delivers.unique (remains one) (remains two)⟩
  | drift drifts =>
    obtain ⟨thread, rfl⟩ := drifts
    exact ⟨delivers.coherent, fun present => (delivers.sound present).unchanged rfl rfl,
      delivers.unique⟩
  | restart resets =>
    refine ⟨reset_coherent resets, ?_, ?_⟩
    · rintro _ _ ⟨⟩
    · rintro _ _ _ _ _ _ _ ⟨⟩

end Workers.Delivers

theorem cancel_completed
    (disk : Disk)
    (writes : List WriteOutcome)
    (completes : state.Completes fingerprint turn) :
    (RouterLedger.call (RouterLedger.cancel fingerprint turn)
        ⟨state, disk⟩ writes).1 = .ok () := by
  have ends : (RouterLedger.cancel fingerprint turn).Ends
      ⟨⟨state, disk⟩, writes⟩ fun result _ => result = .ok () := by
    unfold RouterLedger.cancel
    rw [LedgerState.Completes] at completes
    simp [RouterLedger.ends_state, completes]
  exact ends

variable {trace : List (Moment router Point World)}

theorem Workers.Run.delivers
    {workers : Workers host}
    (run : Workers.Run host trace workers) :
    workers.Delivers := by
  refine Protocol.Run.invariant ?_ Workers.Delivers.step run
  refine ⟨?_, ?_, ?_⟩
  · rintro _ ⟨⟩
  · rintro _ _ ⟨⟩
  · rintro _ _ _ _ _ _ _ ⟨⟩

theorem Workers.Delivers.trusted
    {workers : Workers host}
    {thread : Nat}
    {effect : Effect}
    {reply : effect.Reply}
    (delivers : workers.Delivers)
    (known : workers.stages thread = some stage)
    (executed : World.exec host thread workers.world effect reply world) :
    stage.Admits effect reply := by
  cases effect with
  | ledger call =>
    cases call with
    | cancel fingerprint turn =>
      intro response committed
      obtain ⟨state, ledger, writes, running, called, -⟩ := executed
      have completes := (delivers.sound known).completes delivers.coherent running committed
      have replied := cancel_completed workers.world.disk writes completes
      exact (congrArg Prod.fst called).symm.trans replied
    | _ => trivial
  | accountBound | connect => exact executed.1
  | _ => trivial

/-- Every run of the router is a run of its protocol. -/
theorem RouterRun.workers
    {pool : Pool router Point World}
    (run : RouterRun host trace pool) :
    ∃ workers : Workers host, Workers.Run host trace workers ∧
      workers.world = pool.world := by
  obtain ⟨stages, -, run⟩ := Pool.Run.refines (certificate host) (fun run known _ executed =>
      (Workers.Run.delivers run).trusted known executed) run
  exact ⟨_, run, rfl⟩

end Turnrail
