import Turnrail.Transport.WebSocket

/-!
# How calls use the connection

The protocol of the calls.  A thread waits only for results it announced, or
for the result of the next message as the only consumer.  It passes on only
errors that it met, and returns a message exactly when it took one.
-/

namespace Turnrail

open Interleaving Interleaving.Routine RouterTransportFailure

namespace RouterWebSocket

open RouterTransportFailure (Cause)

/-- Two errors are the same up to the phase. -/
def Fault.Alike (error failure : Fault) : Prop :=
  ∃ phase, error = failure.inPhase phase

namespace Fault

theorem alike_self (error : Fault) : error.Alike error := by
  cases error with
  | platform | failure => exact ⟨.check, rfl⟩
  | transport error => exact ⟨error.phase, rfl⟩

@[simp] theorem inPhase_inPhase
    (error : Fault)
    (first second : Phase) :
    (error.inPhase first).inPhase second = error.inPhase second := by
  cases error <;> rfl

theorem alike_inPhase
    (error : Fault)
    (phase : Phase) :
    (error.inPhase phase).Alike error :=
  ⟨phase, rfl⟩

theorem Alike.trans
    {first second third : Fault}
    (left : first.Alike second)
    (right : second.Alike third) :
    first.Alike third := by
  obtain ⟨phase, rfl⟩ := left
  obtain ⟨phase', rfl⟩ := right
  exact ⟨phase, by rw [inPhase_inPhase]⟩

end Fault

/-- How far a check has come. -/
inductive Guard
  | free
  | locked
  | probing (slot : Nat)

/-- How far a send or a receive has come. -/
inductive Progress
  | outside
  | entered
  | sending (slot : Nat)
  | reading (slot : Nat)
  | holding (data : Data)
  | refused
  | passed (data : Data)

/-- The message that a receive is about to return. -/
def Progress.carried : Progress → List Data
  | .passed data => [data]
  | _ => []

/-- The message that an outcome returns. -/
def delivered : Except Fault Result → List Data
  | .ok (.message data) => [data]
  | _ => []

/-- An effect with its reply. -/
abbrev Entry := (effect : Effect) × effect.Reply

/-- The error an effect met. -/
def Entry.shows : Entry → Option Fault
  | ⟨.beginProbe, .error error⟩ => some error
  | ⟨.beginSend, .error error⟩ => some error
  | ⟨.readTerminal, terminal⟩ => terminal
  | ⟨.terminate _, saved⟩ => some saved.1
  | ⟨.awaitSignal _, some (.error error)⟩ => some error
  | ⟨.awaitMessage _, .error error⟩ => some error
  | _ => none

/-- An error was met. -/
def Met (journal : List Entry) (error : Fault) : Prop :=
  ∃ entry ∈ journal, ∃ shown, entry.shows = some shown ∧ error.Alike shown

/-- A check was announced while the connection had not failed. -/
def Began (journal : List Entry) : Prop :=
  ∃ slot, ⟨.beginProbe, .ok slot⟩ ∈ journal

/-- Where a call stands. -/
structure Stage where
  call : Call
  guard : Guard
  progress : Progress
  journal : List Entry

namespace Stage

/-- The stage of a call that starts. -/
def start (call : Call) : Stage := ⟨call, .free, .outside, []⟩

/-- The check after an effect. -/
def nextGuard (guard : Guard) : (effect : Effect) → effect.Reply → Guard
  | .lockProbe, _ | .endProbe, _ => .locked
  | .unlockProbe, _ => .free
  | .beginProbe, .ok slot => .probing slot
  | _, _ => guard

/-- The send or receive after an effect. -/
def nextProgress (progress : Progress) :
    (effect : Effect) → effect.Reply → Progress
  | .enter, _ | .endSend, _ => .entered
  | .beginSend, .ok slot => .sending slot
  | .readIncoming, slot => .reading slot
  | .awaitMessage _, .ok data => .holding data
  | .awaitMessage _, .error _ => .refused
  | .renew, _ =>
    match progress with
    | .holding data => .passed data
    | progress => progress
  | .finish _ _, _ => .outside
  | _, _ => progress

/-- The stage after an effect. -/
def next (stage : Stage) (effect : Effect) (reply : effect.Reply) : Stage where
  call := stage.call
  guard := nextGuard stage.guard effect reply
  progress := nextProgress stage.progress effect reply
  journal := ⟨effect, reply⟩ :: stage.journal

/-- How a call may end. -/
structure Ends (stage : Stage) (call : Call) (outcome : Except Fault Result) :
    Prop where
  same : call = stage.call
  delivers : delivered outcome = stage.progress.carried
  meets : ∀ error, outcome = .error error → Met stage.journal error
  refuses : ∀ error, outcome = .error error → call = .receive → stage.progress = .refused
  enters : call.consumes = true → stage.progress ≠ .outside
  checks : ∀ result, outcome = .ok result → call = .checkConnection → Began stage.journal

/-- The effects a call may perform. -/
def Allows (stage : Stage) : Effect → Prop
  | .enter => stage.progress = .outside
  | .lockProbe => stage.guard = .free
  | .unlockProbe | .beginProbe => stage.guard = .locked
  | .endProbe => ∃ slot, stage.guard = .probing slot
  | .beginSend | .readIncoming => stage.progress = .entered
  | .endSend => ∃ slot, stage.progress = .sending slot
  | .start (.received slot) _ => ∃ more, ⟨.renew, (slot, more)⟩ ∈ stage.journal
  | .awaitSignal slot => stage.guard = .probing slot ∨ stage.progress = .sending slot
  | .awaitMessage slot => stage.progress = .reading slot
  | .renew => ∃ data, stage.progress = .holding data
  | .complete slot result =>
    ⟨.called (.received slot), ()⟩ ∈ stage.journal ∧
      ∀ error, result = .error error → Met stage.journal error
  | .signal _ result => ∀ error, result = .error error → Met stage.journal error
  | .finish call outcome => stage.Ends call outcome
  | _ => True

end Stage

/-- The protocol of the calls. -/
@[reducible] def courtesy : Protocol operations where
  Stage := Stage
  allows := Stage.Allows
  admits _ _ _ := True
  next := Stage.next

/-- An operation that follows the protocol. -/
abbrev Keeps (operation : Operation α) (stage : Stage)
    (post : Except Fault α → Stage → Prop) : Prop :=
  Routine.Keeps courtesy operation () stage post

/-- A stage with more effects. -/
structure Stage.Extends (stage reached : Stage) : Prop where
  call : reached.call = stage.call
  guard : reached.guard = stage.guard
  progress : reached.progress = stage.progress
  journal : stage.journal ⊆ reached.journal

theorem Stage.Extends.refl (stage : Stage) : stage.Extends stage :=
  ⟨rfl, rfl, rfl, List.Subset.refl _⟩

theorem Stage.Extends.trans
    {first second third : Stage}
    (left : first.Extends second)
    (right : second.Extends third) :
    first.Extends third :=
  ⟨right.call.trans left.call, right.guard.trans left.guard,
    right.progress.trans left.progress, List.Subset.trans left.journal right.journal⟩

variable {effect : Effect} {reply : effect.Reply} {journal longer : List Entry}

theorem Stage.extends_next
    (stage : Stage)
    (guard : nextGuard stage.guard effect reply = stage.guard)
    (progress : nextProgress stage.progress effect reply = stage.progress) :
    stage.Extends (stage.next effect reply) :=
  ⟨rfl, guard, progress, List.subset_cons_self _ _⟩

theorem Met.mono
    {error : Fault}
    (met : Met journal error)
    (grows : journal ⊆ longer) :
    Met longer error := by
  obtain ⟨entry, member, shown, shows, alike⟩ := met
  exact ⟨entry, grows member, shown, shows, alike⟩

theorem met_next
    (stage : Stage)
    {shown error : Fault}
    (shows : Entry.shows ⟨effect, reply⟩ = some shown)
    (alike : error.Alike shown) :
    Met (stage.next effect reply).journal error :=
  ⟨⟨effect, reply⟩, List.mem_cons_self, shown, shows, alike⟩

theorem Began.mono
    (began : Began journal)
    (grows : journal ⊆ longer) :
    Began longer := by
  obtain ⟨slot, member⟩ := began
  exact ⟨slot, grows member⟩

/-- An operation leaves a call where it was and only throws what it met. -/
def Honest (stage : Stage) (outcome : Except Fault α) (reached : Stage) : Prop :=
  stage.Extends reached ∧ ∀ error, outcome = .error error → Met reached.journal error

/-- A failure that an operation computed was met. -/
def Explained (stage : Stage) (outcome : Except Fault Fault)
    (reached : Stage) : Prop :=
  stage.Extends reached ∧ ∃ error, outcome = .ok error ∧ Met reached.journal error

section Operations

variable {stage base : Stage}

theorem honest_ok
    (onward : base.Extends stage)
    (value : α) :
    Honest base (.ok value) stage :=
  ⟨onward, fun _ thrown => by cases thrown⟩

variable {error : Fault} {slot : Nat} {call : Call}

theorem honest_error
    (onward : base.Extends stage)
    (met : Met stage.journal error) :
    Honest base (.error error : Except Fault α) stage := by
  refine ⟨onward, fun _ thrown => ?_⟩
  cases thrown
  exact met

theorem described_keeps
    (phase : Phase)
    (error : Fault)
    (cause : Cause) :
    Keeps (described phase error cause) stage fun outcome reached =>
      stage.Extends reached ∧ ∃ failure, outcome = .ok failure := by
  cases error with
  | platform error =>
    refine keeps_perform trivial fun reading => ?_
    exact keeps_pure ⟨stage.extends_next rfl rfl, _, rfl⟩
  | failure | transport => exact keeps_pure ⟨.refl stage, _, rfl⟩

theorem fail_keeps
    (phase : Phase)
    (error : Fault)
    (cause : Cause) :
    Keeps (fail phase error cause) stage (Explained stage) := by
  refine keeps_bind (described_keeps phase error cause) ?_ ?_
  · rintro error reached ⟨-, failure, returned⟩
    cases returned
  · rintro failure _ reached ⟨onward, -⟩
    refine keeps_perform trivial fun saved => ?_
    have met : Met (reached.next (.terminate failure) saved).journal (saved.1.inPhase phase) :=
      met_next reached rfl (Fault.alike_inPhase saved.1 phase)
    have ended : reached.Extends (reached.next (.terminate failure) saved) :=
      reached.extends_next rfl rfl
    have onward := onward.trans ended
    cases saved.2 with
    | true =>
      refine keeps_perform trivial fun _ => keeps_pure ⟨?_, _, rfl, ?_⟩
      · exact onward.trans (Stage.extends_next _ rfl rfl)
      · exact met.mono (List.subset_cons_self _ _)
    | false => exact keeps_pure ⟨onward, _, rfl, met⟩

theorem throw_fail_keeps
    (onward : base.Extends stage)
    (phase : Phase)
    (error : Fault)
    (cause : Cause) :
    Keeps (do throw (← fail phase error cause) : Operation α) stage
      (Honest base) := by
  refine keeps_bind (fail_keeps phase error cause) ?_ ?_
  · rintro error reached ⟨-, failure, returned, -⟩
    cases returned
  · rintro failure _ reached ⟨further, error, returned, met⟩
    cases returned
    exact keeps_throw (honest_error (onward.trans further) met)

theorem wait_keeps
    (announced : stage.guard = .probing slot ∨ stage.progress = .sending slot)
    (phase : Phase)
    (cause : Cause) :
    Keeps (wait slot phase cause) stage (Honest stage) := by
  refine keeps_perform announced fun reply => ?_
  have onward : stage.Extends (stage.next (.awaitSignal slot) reply) :=
    stage.extends_next rfl rfl
  match reply with
  | some (.ok ()) => exact keeps_pure (honest_ok onward ())
  | some (.error error) => exact throw_fail_keeps onward phase error cause
  | none => exact throw_fail_keeps onward phase _ cause

theorem checkTerminal_keeps : Keeps checkTerminal stage (Honest stage) := by
  refine keeps_perform trivial fun reply => ?_
  have onward : stage.Extends (stage.next .readTerminal reply) := stage.extends_next rfl rfl
  cases reply with
  | none => exact keeps_pure (honest_ok onward ())
  | some terminal =>
    exact keeps_throw (honest_error onward
      (met_next stage rfl (Fault.alike_inPhase terminal .check)))

theorem announced_keeps
    (announced : stage.guard = .probing slot)
    (cause : Cause) :
    Keeps (do
        Operation.perform (.start (.ponged slot cause) [])
        wait slot .check cause
        checkTerminal)
      stage (Honest stage) := by
  refine keeps_perform trivial fun _ => ?_
  have started : stage.Extends (stage.next (.start (.ponged slot cause) []) ()) :=
    stage.extends_next rfl rfl
  refine keeps_bind (wait_keeps (.inl (started.guard.trans announced)) .check cause) ?_ ?_
  · rintro error reached ⟨onward, met⟩
    exact honest_error (started.trans onward) (met error rfl)
  · rintro _ _ reached ⟨onward, -⟩
    refine checkTerminal_keeps.mono ?_
    rintro outcome _ final ⟨further, met⟩
    exact ⟨(started.trans onward).trans further, met⟩

theorem probe_keeps
    (free : stage.guard = .free)
    (cause : Cause) :
    Keeps (probe cause) stage fun outcome reached =>
      Honest stage outcome reached ∧ ∀ value, outcome = .ok value →
      Began reached.journal := by
  refine keeps_perform free fun _ => ?_
  refine @keeps_attempt _ _ _ _ _ courtesy _ _ _ _ (fun outcome reached =>
      (stage.next .lockProbe ()).Extends reached ∧
        (∀ error, outcome = .error error → Met reached.journal error) ∧
        ∀ value, outcome = .ok value → Began reached.journal) _ ?_ ?_
  · refine keeps_perform rfl fun reply => keeps_pass ?_ ?_
    · rintro error rfl
      refine ⟨Stage.extends_next _ rfl rfl, fun _ thrown => ?_,
        fun _ returned => by cases returned⟩
      cases thrown
      exact met_next _ rfl (Fault.alike_self error)
    · rintro slot rfl
      refine keeps_attempt (announced_keeps rfl cause) ?_
      rintro outcome _ reached ⟨onward, met⟩
      refine keeps_perform ⟨slot, onward.guard⟩ fun _ =>
        keeps_pass_last ⟨?_, fun error thrown => ?_, fun _ _ => ?_⟩
      · exact ⟨onward.call, rfl, onward.progress, fun entry member => List.mem_cons_of_mem _
            (onward.journal (List.mem_cons_of_mem _ member))⟩
      · exact (met error thrown).mono (List.subset_cons_self _ _)
      · exact ⟨slot, List.mem_cons_of_mem _ (onward.journal List.mem_cons_self)⟩
  · rintro outcome _ reached ⟨onward, met, began⟩
    refine keeps_perform onward.guard fun _ => keeps_pass_last ⟨⟨?_, ?_⟩, ?_⟩
    · exact ⟨onward.call, free.symm, onward.progress,
        fun entry member => List.mem_cons_of_mem _
          (onward.journal (List.mem_cons_of_mem _ member))⟩
    · exact fun error thrown => (met error thrown).mono (List.subset_cons_self _ _)
    · exact fun value returned => (began value returned).mono (List.subset_cons_self _ _)

theorem send_keeps
    (entered : stage.progress = .entered)
    (data : Data) :
    Keeps (send data) stage (Honest stage) := by
  refine keeps_perform entered fun reply => keeps_pass ?_ ?_
  · rintro error rfl
    exact honest_error (stage.extends_next rfl rfl)
      (met_next stage rfl (Fault.alike_self error))
  · rintro slot rfl
    refine @keeps_attempt _ _ _ _ _ courtesy _ _ _ _
      (Honest (stage.next .beginSend (.ok slot))) _ ?_ ?_
    · refine keeps_perform trivial fun _ => ?_
      have started : (stage.next .beginSend (.ok slot)).Extends
          ((stage.next .beginSend (.ok slot)).next (.start (.sent slot) data) ()) :=
        Stage.extends_next _ rfl rfl
      refine (wait_keeps (.inr rfl) .send .sendTimeout).mono ?_
      rintro outcome _ final ⟨onward, met⟩
      exact ⟨started.trans onward, met⟩
    · rintro outcome _ reached ⟨onward, met⟩
      refine keeps_perform ⟨slot, onward.progress⟩ fun _ =>
        keeps_pass_last ⟨?_, fun error thrown => ?_⟩
      · exact ⟨onward.call, onward.guard, entered.symm,
          fun entry member => List.mem_cons_of_mem _
            (onward.journal (List.mem_cons_of_mem _ member))⟩
      · exact (met error thrown).mono (List.subset_cons_self _ _)

theorem receive_keeps (entered : stage.progress = .entered) :
    Keeps receive stage fun outcome reached =>
      reached.call = stage.call ∧
        match outcome with
        | .ok data => reached.progress = .passed data
        | .error error =>
          reached.progress = .refused ∧ Met reached.journal error := by
  refine keeps_perform entered fun pending => ?_
  refine keeps_perform rfl fun reply => ?_
  cases reply with
  | error error => exact keeps_throw ⟨rfl, rfl,
    met_next _ rfl (Fault.alike_inPhase error .receive)⟩
  | ok data =>
    refine keeps_perform ⟨data, rfl⟩ fun next => ?_
    obtain ⟨slot, more⟩ := next
    cases more with
    | true => exact keeps_perform ⟨true, List.mem_cons_self⟩ fun _ => keeps_pure ⟨rfl, rfl⟩
    | false => exact keeps_pure ⟨rfl, rfl⟩

theorem close_keeps : Keeps close stage (Honest stage) := by
  refine keeps_bind (fail_keeps .check _ .localClose) ?_ ?_
  · rintro error reached ⟨-, failure, returned, -⟩
    cases returned
  · rintro failure _ reached ⟨onward, -⟩
    exact keeps_pure (honest_ok onward ())

theorem onReceived_keeps
    (slot : Nat)
    (outcome : Except PlatformError Incoming) :
    Keeps (onReceived slot outcome) stage (Honest stage) := by
  refine keeps_perform trivial fun _ => ?_
  have called : stage.Extends (stage.next (.called (.received slot)) ()) :=
    stage.extends_next rfl rfl
  cases accepted outcome with
  | ok data =>
    refine keeps_perform_last ⟨List.mem_cons_self, fun _ failed => ?_⟩
      fun _ => honest_ok (called.trans (Stage.extends_next _ rfl rfl)) ()
    cases failed
  | error error =>
    refine keeps_bind (fail_keeps .receive error .transport) ?_ ?_
    · rintro error reached ⟨-, failure, returned, -⟩
      cases returned
    · rintro failure _ reached ⟨onward, error, returned, met⟩
      cases returned
      refine keeps_perform_last ⟨onward.journal List.mem_cons_self, fun _ failed => ?_⟩
        fun _ => honest_ok ((called.trans onward).trans (Stage.extends_next _ rfl rfl)) ()
      cases failed
      exact met

theorem onSignalled_keeps
    (callback : Callback)
    (slot : Nat)
    (phase : Phase)
    (cause : Cause)
    (outcome : Except PlatformError Unit) :
    Keeps (onSignalled callback slot phase cause outcome) stage
      (Honest stage) := by
  refine keeps_perform trivial fun _ => ?_
  have called : stage.Extends (stage.next (.called callback) ()) := stage.extends_next rfl rfl
  cases outcome with
  | ok value =>
    refine keeps_perform_last (fun _ failed => ?_)
      fun _ => honest_ok (called.trans (Stage.extends_next _ rfl rfl)) ()
    cases failed
  | error error =>
    refine keeps_bind (fail_keeps phase _ cause) ?_ ?_
    · rintro error reached ⟨-, failure, returned, -⟩
      cases returned
    · rintro failure _ reached ⟨onward, error, returned, met⟩
      cases returned
      refine keeps_perform_last (fun _ failed => ?_) fun _ =>
        honest_ok ((called.trans onward).trans
          (Stage.extends_next _ rfl rfl)) ()
      cases failed
      exact met

theorem ends_error
    (same : call = stage.call)
    (nothing : stage.progress.carried = [])
    (met : Met stage.journal error)
    (entered : call.consumes = true → stage.progress ≠ .outside)
    (refused : call = .receive → stage.progress = .refused) :
    stage.Ends call (.error error) where
  same := same
  delivers := nothing.symm
  meets other thrown := by
    cases thrown
    exact met
  refuses _ _ := refused
  enters := entered
  checks _ returned := by cases returned

theorem ends_ok
    {result : Result}
    (same : call = stage.call)
    (delivers : delivered (.ok result) = stage.progress.carried)
    (entered : call.consumes = true → stage.progress ≠ .outside)
    (began : call = .checkConnection → Began stage.journal) :
    stage.Ends call (.ok result) where
  same := same
  delivers := delivers
  meets _ thrown := by cases thrown
  refuses _ thrown := by cases thrown
  enters := entered
  checks _ _ := began

theorem done_keeps
    {operation : Operation Unit}
    (kept : Keeps operation stage (Honest stage))
    (same : call = stage.call)
    (nothing : stage.progress.carried = [])
    (entered : call.consumes = true → stage.progress ≠ .outside)
    (noReceive : call ≠ .receive)
    (noCheck : call ≠ .checkConnection) :
    Keeps (do operation; pure Result.done) stage
      fun outcome reached => reached.Ends call outcome := by
  refine keeps_bind kept ?_ ?_
  · rintro error reached ⟨onward, met⟩
    refine ends_error (same.trans onward.call.symm) ?_ (met error rfl) ?_
      fun receives => absurd receives noReceive
    · rw [onward.progress, nothing]
    · rwa [onward.progress]
  · rintro _ _ reached ⟨onward, -⟩
    refine keeps_pure (ends_ok (same.trans onward.call.symm) ?_ ?_
      fun checks => absurd checks noCheck)
    · rw [onward.progress, nothing]
      rfl
    · rwa [onward.progress]

theorem body_keeps (call : Call) :
    Keeps (body call) (.start call) fun outcome reached =>
      reached.Ends call outcome := by
  cases call with
  | checkConnection =>
    refine keeps_bind (probe_keeps rfl .probe) ?_ ?_
    · rintro error reached ⟨⟨onward, met⟩, -⟩
      refine ends_error onward.call.symm ?_ (met error rfl) nofun nofun
      rw [onward.progress]
      rfl
    · rintro value _ reached ⟨⟨onward, -⟩, began⟩
      refine keeps_pure (ends_ok onward.call.symm ?_ nofun
        fun _ => began value rfl)
      rw [onward.progress]
      rfl
  | keepAlive =>
    refine keeps_attempt (probe_keeps rfl .keepAlive) ?_
    rintro outcome _ reached ⟨⟨onward, -⟩, -⟩
    refine keeps_pure (ends_ok onward.call.symm ?_ nofun nofun)
    rw [onward.progress]
    rfl
  | send data =>
    refine keeps_perform rfl fun _ => ?_
    exact done_keeps (send_keeps rfl data) rfl rfl nofun nofun nofun
  | receive =>
    refine keeps_perform rfl fun _ => ?_
    refine keeps_bind (receive_keeps rfl) ?_ ?_
    · rintro error reached ⟨same, refused, met⟩
      refine ends_error same.symm ?_ met ?_ fun _ => refused
      · rw [refused]
        rfl
      · rw [refused]
        nofun
    · rintro data _ reached ⟨same, passed⟩
      refine keeps_pure (ends_ok same.symm ?_ ?_ nofun)
      · rw [passed]
        rfl
      · rw [passed]
        nofun
  | close => exact done_keeps close_keeps rfl rfl nofun nofun nofun
  | received slot outcome =>
    exact done_keeps (onReceived_keeps slot outcome) rfl rfl nofun nofun
      nofun
  | sent slot outcome =>
    exact done_keeps (onSignalled_keeps _ slot _ _ outcome) rfl rfl nofun nofun nofun
  | ponged slot cause outcome =>
    exact done_keeps (onSignalled_keeps _ slot _ cause outcome) rfl rfl nofun nofun nofun

end Operations

/-- The calls follow the protocol. -/
def certificate : Certificate courtesy (fun _ : Call => True) code where
  start := Stage.start
  Reentry call stage := stage = Stage.start call
  entered _ _ := rfl
  follows call stage starts := by
    subst starts
    rw [code, Program.follows_bind]
    have kept : Keeps (routine call) (.start call) fun _ _ => True :=
      keeps_attempt (body_keeps call) fun outcome _ reached ends =>
        keeps_perform_last ends fun _ => trivial
    refine Program.Follows.mono kept ?_
    intro _ _ _ target named
    cases named

end RouterWebSocket

end Turnrail
