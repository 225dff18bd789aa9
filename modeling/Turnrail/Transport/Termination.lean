import Turnrail.Transport.Courtesy

/-!
# The end of a connection

The first failure of a connection stays its failure.  It completes every
result that is waited for, and results that are created afterwards are
completed with it at once, so no waiter is left behind.  Every error that a
call throws is this failure up to the phase, and the messages that completed a
result are returned before it.
-/

namespace Turnrail

open Interleaving

namespace RouterWebSocket

namespace RouterAsyncResult

variable {results : Nat → Option τ} {slot other : Nat} {result done : τ}

theorem complete_of_some (completed : results slot = some done) :
    complete results slot result = results := by
  unfold complete
  rw [completed]

theorem complete_of_none (isOpen : results slot = none) :
    complete results slot result =
      Function.update results slot (some result) := by
  unfold complete
  rw [isOpen]

theorem complete_cases
    (completed : complete results slot result other = some done) :
    results other = some done ∨
      (other = slot ∧ results slot = none ∧ result = done) := by
  cases known : results slot with
  | some old =>
    rw [complete_of_some known] at completed
    exact .inl completed
  | none =>
    rw [complete_of_none known] at completed
    rcases update_cases completed with ⟨rfl, same⟩ | ⟨-, completed⟩
    · exact .inr ⟨rfl, rfl, Option.some.inj same⟩
    · exact .inl completed

theorem complete_of_ne (different : other ≠ slot) :
    complete results slot result other = results other := by
  cases known : results slot with
  | some old => rw [complete_of_some known]
  | none => rw [complete_of_none known, Function.update_of_ne different]

theorem complete_keeps (completed : results other = some done) :
    complete results slot result other = some done := by
  by_cases same : other = slot
  · subst same
    rw [complete_of_some completed, completed]
  · rw [complete_of_ne same, completed]

theorem complete_isSome :
    (complete results slot result slot).isSome = true := by
  cases known : results slot with
  | some old => simp [complete_of_some known, known]
  | none => simp [complete_of_none known]

end RouterAsyncResult

namespace Socket

/-- Nothing that was decided is decided again. -/
structure Advances (before after : Socket) : Prop where
  terminal : ∀ failure, before.terminal = some failure → after.terminal = some failure
  messages : ∀ slot result, before.messages slot = some result →
    after.messages slot = some result
  signals : ∀ slot result, before.signals slot = some result → after.signals slot = some result
  incoming : before.incoming ≤ after.incoming

/-- Only results are completed. -/
structure Untouched (before after : Socket) : Prop where
  incoming : after.incoming = before.incoming
  pendingProbe : after.pendingProbe = before.pendingProbe
  pendingSend : after.pendingSend = before.pendingSend
  outstanding : after.outstanding = before.outstanding
  probeLock : after.probeLock = before.probeLock
  consumer : after.consumer = before.consumer

/-- The connection ended with a failure that an error is, up to its phase. -/
def Blames (socket : Socket) (error : Fault) : Prop :=
  ∃ failure, socket.terminal = some failure ∧ error.Alike failure

variable {socket before after final : Socket}

theorem Advances.refl (socket : Socket) : socket.Advances socket :=
  ⟨fun _ set => set, fun _ _ done => done, fun _ _ done => done, le_rfl⟩

theorem Advances.trans
    (left : before.Advances after)
    (right : after.Advances final) :
    before.Advances final :=
  ⟨fun failure set => right.terminal failure (left.terminal failure set),
      fun slot result done =>
      right.messages slot result (left.messages slot result done),
    fun slot result done => right.signals slot result (left.signals slot result done),
    left.incoming.trans right.incoming⟩

theorem Untouched.trans
    (left : before.Untouched after)
    (right : after.Untouched final) :
    before.Untouched final :=
  ⟨right.incoming.trans left.incoming, right.pendingProbe.trans left.pendingProbe,
    right.pendingSend.trans left.pendingSend,
    right.outstanding.trans left.outstanding,
    right.probeLock.trans left.probeLock,
    right.consumer.trans left.consumer⟩

theorem Blames.mono
    {error : Fault}
    (blames : before.Blames error)
    (advances : before.Advances after) :
    after.Blames error := by
  obtain ⟨failure, set, alike⟩ := blames
  exact ⟨failure, advances.terminal failure set, alike⟩

theorem Blames.alike
    {error shown : Fault}
    (blames : socket.Blames shown)
    (alike : error.Alike shown) :
    socket.Blames error := by
  obtain ⟨failure, set, likewise⟩ := blames
  exact ⟨failure, set, alike.trans likewise⟩

theorem complete_advances
    (slot : Nat)
    (result : Except Fault Data) :
    socket.Advances (socket.complete slot result) :=
  ⟨fun _ set => set, fun _ _ done => RouterAsyncResult.complete_keeps done,
    fun _ _ done => done, le_rfl⟩

theorem signal_advances
    (slot : Nat)
    (result : Except Fault Unit) :
    socket.Advances (socket.signal slot result) :=
  ⟨fun _ set => set, fun _ _ done => done,
    fun _ _ done => RouterAsyncResult.complete_keeps done, le_rfl⟩

theorem wake_advances
    (pending : Option Nat)
    (failure : Fault) :
    socket.Advances (socket.wake pending failure) := by
  cases pending with
  | none => exact .refl socket
  | some slot => exact signal_advances slot _

theorem wake_untouched
    (pending : Option Nat)
    (failure : Fault) :
    socket.Untouched (socket.wake pending failure) := by
  cases pending <;> exact ⟨rfl, rfl, rfl, rfl, rfl, rfl⟩

@[simp] theorem wake_terminal
    (pending : Option Nat)
    (failure : Fault) :
    (socket.wake pending failure).terminal = socket.terminal := by
  cases pending <;> rfl

@[simp] theorem wake_messages
    (pending : Option Nat)
    (failure : Fault) :
    (socket.wake pending failure).messages = socket.messages := by
  cases pending <;> rfl

@[simp] theorem wake_arrived
    (pending : Option Nat)
    (failure : Fault) :
    (socket.wake pending failure).arrived = socket.arrived := by
  cases pending <;> rfl

theorem terminate_untouched (failure : Fault) :
    socket.Untouched (socket.terminate failure) := by
  refine .trans ?_ (wake_untouched socket.pendingSend failure)
  refine .trans ?_ (wake_untouched socket.pendingProbe failure)
  exact ⟨rfl, rfl, rfl, rfl, rfl, rfl⟩

@[simp] theorem terminate_terminal (failure : Fault) :
    (socket.terminate failure).terminal = some failure := by
  simp [terminate, complete]

@[simp] theorem terminate_messages (failure : Fault) :
    (socket.terminate failure).messages = RouterAsyncResult.complete
        socket.messages socket.incoming (.error failure) := by
  simp [terminate, complete]

@[simp] theorem terminate_arrived (failure : Fault) :
    (socket.terminate failure).arrived = socket.arrived := by
  simp [terminate, complete, Except.toOption]

theorem terminate_advances
    (failure : Fault)
    (lives : socket.terminal = none) :
    socket.Advances (socket.terminate failure) := by
  let ended := { socket with terminal := some failure }
  have ends : socket.Advances ended := by
    refine ⟨fun other set => ?_, fun _ _ done => done, fun _ _ done => done, le_rfl⟩
    rw [lives] at set
    cases set
  exact ((ends.trans (complete_advances _ _)).trans (wake_advances _ _)).trans
    (wake_advances _ _)

/-- What an effect does to a connection. -/
inductive Does (socket : Socket) (thread : Nat) :
    (effect : Effect) → effect.Reply → Socket → Prop
  | enter : socket.consumer = none →
      Does socket thread .enter () { socket with consumer := some thread }
  | lockProbe : socket.probeLock = none →
      Does socket thread .lockProbe () { socket with probeLock := some thread }
  | unlockProbe :
      Does socket thread .unlockProbe () { socket with probeLock := none }
  | refuseProbe (terminal : Fault) : socket.terminal = some terminal →
      Does socket thread .beginProbe (.error (terminal.inPhase .check)) socket
  | beginProbe : socket.terminal = none →
      Does socket thread .beginProbe (.ok socket.signalCount) { socket with
        pendingProbe := some socket.signalCount
        signalCount := socket.signalCount + 1 }
  | endProbe :
      Does socket thread .endProbe () { socket with pendingProbe := none }
  | refuseSend (terminal : Fault) : socket.terminal = some terminal →
      Does socket thread .beginSend (.error (terminal.inPhase .send)) socket
  | beginSend : socket.terminal = none →
      Does socket thread .beginSend (.ok socket.signalCount) { socket with
        pendingSend := some socket.signalCount
        signalCount := socket.signalCount + 1 }
  | endSend :
      Does socket thread .endSend () { socket with pendingSend := none }
  | start (callback : Callback) (data : Data) :
      Does socket thread (.start callback data) ()
        { socket with outstanding := callback :: socket.outstanding }
  | called (callback : Callback) : callback ∈ socket.outstanding →
      Does socket thread (.called callback) ()
        { socket with outstanding := socket.outstanding.erase callback }
  | signalled (slot : Nat) (result : Except Fault Unit) :
      socket.signals slot = some result →
      Does socket thread (.awaitSignal slot) (some result) socket
  | expired (slot : Nat) : Does socket thread (.awaitSignal slot) none socket
  | taken (slot : Nat) (result : Except Fault Data) :
      socket.messages slot = some result →
      Does socket thread (.awaitMessage slot) result socket
  | readTerminal : Does socket thread .readTerminal socket.terminal socket
  | readIncoming : Does socket thread .readIncoming socket.incoming socket
  | renew : Does socket thread .renew
      (socket.incoming + 1, socket.terminal.isNone) socket.renew
  | observe (reading : Int × Int) : Does socket thread .observe reading socket
  | lose (failure terminal : Fault) : socket.terminal = some terminal →
      Does socket thread (.terminate failure) (terminal, false) socket
  | terminate (failure : Fault) : socket.terminal = none →
      Does socket thread (.terminate failure) (failure, true) (socket.terminate failure)
  | cancel : Does socket thread .cancel () socket
  | complete (slot : Nat) (result : Except Fault Data) :
      Does socket thread (.complete slot result) () (socket.complete slot result)
  | signal (slot : Nat) (result : Except Fault Unit) :
      Does socket thread (.signal slot result) () (socket.signal slot result)
  | finish (call : Call) (outcome : Except Fault Result) :
      Does socket thread (.finish call outcome) () { socket with
        consumer := if call.consumes then none else socket.consumer }

variable {thread : Nat} {effect : Effect} {reply : effect.Reply} {slot : Nat}
variable {pending : Option Nat} {failure : Fault}

theorem does_of_act
    {answer : (effect : Effect) → effect.Reply}
    (acts : socket.act thread answer effect = some (reply, after)) :
    socket.Does thread effect reply after := by
  cases effect with
  | enter | lockProbe | called =>
    simp only [act] at acts
    split at acts
    · cases acts
      constructor
      assumption
    · cases acts
  | beginProbe =>
    simp only [act] at acts
    split at acts
    · cases acts
      exact .refuseProbe _ ‹_›
    · cases acts
      exact .beginProbe ‹_›
  | beginSend =>
    simp only [act] at acts
    split at acts
    · cases acts
      exact .refuseSend _ ‹_›
    · cases acts
      exact .beginSend ‹_›
  | awaitSignal slot =>
    simp only [act] at acts
    split at acts
    · obtain ⟨result, known, same⟩ := Option.map_eq_some_iff.mp acts
      cases same
      exact .signalled slot result known
    · cases acts
      exact .expired slot
  | awaitMessage slot =>
    obtain ⟨result, known, same⟩ := Option.map_eq_some_iff.mp acts
    cases same
    exact .taken slot _ known
  | terminate failure =>
    simp only [act] at acts
    split at acts
    · cases acts
      exact .lose failure _ ‹_›
    · cases acts
      exact .terminate failure ‹_›
  | _ =>
    cases acts
    constructor

theorem renew_advances : socket.Advances socket.renew := by
  let next := { socket with incoming := socket.incoming + 1 }
  have renews : socket.Advances next :=
    ⟨fun _ set => set, fun _ _ done => done, fun _ _ done => done, Nat.le_succ _⟩
  unfold renew
  split
  · exact renews.trans (complete_advances _ _)
  · exact renews

/-- Preparing the next result touches nothing else. -/
theorem renew_frame :
    socket.renew.incoming = socket.incoming + 1 ∧
      socket.renew.terminal = socket.terminal ∧
      socket.renew.signals = socket.signals ∧
      socket.renew.pendingProbe = socket.pendingProbe ∧
      socket.renew.pendingSend = socket.pendingSend ∧
      socket.renew.outstanding = socket.outstanding ∧
      socket.renew.probeLock = socket.probeLock ∧
      socket.renew.consumer = socket.consumer := by
  unfold renew
  split <;> exact ⟨rfl, rfl, rfl, rfl, rfl, rfl, rfl, rfl⟩

theorem renew_messages
    {result : Except Fault Data}
    (completed : socket.renew.messages slot = some result) :
    socket.messages slot = some result ∨ slot = socket.incoming + 1 ∧ ∃ failure,
      socket.terminal = some failure ∧ result = .error failure := by
  unfold renew at completed
  split at completed
  · rename_i failure ended
    rcases RouterAsyncResult.complete_cases completed with
      known | ⟨rfl, -, rfl⟩
    · exact .inl known
    · exact .inr ⟨rfl, failure, ended, rfl⟩
  · exact .inl completed

theorem wake_signals
    {result : Except Fault Unit}
    (completed : (socket.wake pending failure).signals slot = some result) :
    socket.signals slot = some result ∨ result = .error failure := by
  cases pending with
  | none => exact .inl completed
  | some waiting =>
    rcases RouterAsyncResult.complete_cases completed with
      known | ⟨-, -, rfl⟩
    · exact .inl known
    · exact .inr rfl

theorem terminate_signals
    {result : Except Fault Unit}
    (completed : (socket.terminate failure).signals slot = some result) :
    socket.signals slot = some result ∨ result = .error failure := by
  rcases wake_signals completed with completed | failed
  · rcases wake_signals completed with known | failed
    · exact .inl known
    · exact .inr failed
  · exact .inr failed

theorem Does.advances (does : socket.Does thread effect reply after) :
    socket.Advances after := by
  cases does with
  | renew => exact renew_advances
  | terminate failure lives => exact terminate_advances failure lives
  | complete slot result => exact complete_advances slot result
  | signal slot result => exact signal_advances slot result
  | _ => exact ⟨fun _ set => set, fun _ _ done => done, fun _ _ done => done, le_rfl⟩

/-- Everything that is waited for is completed once the connection ended. -/
structure Settled (socket : Socket) : Prop where
  incoming : socket.terminal ≠ none → (socket.messages socket.incoming).isSome = true
  pendingProbe : socket.terminal ≠ none → ∀ slot,
    socket.pendingProbe = some slot → (socket.signals slot).isSome = true
  pendingSend : socket.terminal ≠ none → ∀ slot,
    socket.pendingSend = some slot → (socket.signals slot).isSome = true

theorem Advances.message_done
    (advances : before.Advances after)
    (done : (before.messages slot).isSome = true) :
    (after.messages slot).isSome = true := by
  obtain ⟨result, known⟩ := Option.isSome_iff_exists.mp done
  rw [advances.messages slot result known]
  rfl

theorem Advances.signal_done
    (advances : before.Advances after)
    (done : (before.signals slot).isSome = true) :
    (after.signals slot).isSome = true := by
  obtain ⟨result, known⟩ := Option.isSome_iff_exists.mp done
  rw [advances.signals slot result known]
  rfl

theorem wake_done
    (waits : pending = some slot)
    (failure : Fault) :
    ((socket.wake pending failure).signals slot).isSome = true := by
  subst waits
  exact RouterAsyncResult.complete_isSome

/-- Ending the connection wakes everyone. -/
theorem terminate_settled (failure : Fault) :
    (socket.terminate failure).Settled where
  incoming _ := by
    rw [(terminate_untouched failure).incoming, terminate_messages]
    exact RouterAsyncResult.complete_isSome
  pendingProbe _ slot waits := by
    rw [(terminate_untouched failure).pendingProbe] at waits
    exact (wake_advances _ failure).signal_done (wake_done waits failure)
  pendingSend _ slot waits := by
    rw [(terminate_untouched failure).pendingSend] at waits
    exact wake_done waits failure

theorem renew_settled (settled : socket.Settled) : socket.renew.Settled := by
  unfold renew
  split
  · rename_i failure ended
    have dead : socket.terminal ≠ none := by simp [ended]
    exact ⟨fun _ => RouterAsyncResult.complete_isSome,
      fun _ => settled.pendingProbe dead, fun _ => settled.pendingSend dead⟩
  · rename_i lives
    exact ⟨fun ended => absurd lives ended, fun ended => absurd lives ended,
      fun ended => absurd lives ended⟩

theorem Settled.does
    (settled : socket.Settled)
    (does : socket.Does thread effect reply after) :
    after.Settled := by
  have advances := does.advances
  cases does with
  | beginProbe lives =>
    exact ⟨settled.incoming, fun ended => absurd lives ended, settled.pendingSend⟩
  | endProbe => exact ⟨settled.incoming, nofun, settled.pendingSend⟩
  | beginSend lives =>
    exact ⟨settled.incoming, settled.pendingProbe, fun ended => absurd lives ended⟩
  | endSend => exact ⟨settled.incoming, settled.pendingProbe, nofun⟩
  | renew => exact renew_settled settled
  | terminate failure lives => exact terminate_settled failure
  | complete slot result =>
    exact ⟨fun ended => advances.message_done (settled.incoming ended),
      settled.pendingProbe, settled.pendingSend⟩
  | signal slot result =>
    exact ⟨settled.incoming, fun ended other waits =>
        advances.signal_done (settled.pendingProbe ended other waits),
      fun ended other waits => advances.signal_done (settled.pendingSend ended other waits)⟩
  | _ => exact ⟨settled.incoming, settled.pendingProbe, settled.pendingSend⟩

/-- What holds of a connection at all times. -/
structure Sound (socket : Socket) : Prop where
  settled : socket.Settled
  messages : ∀ slot error, socket.messages slot = some (.error error) → socket.Blames error
  signals : ∀ slot error, socket.signals slot = some (.error error) → socket.Blames error
  older : ∀ slot, slot < socket.incoming → (socket.messages slot).isSome = true
  newer : ∀ slot, socket.incoming < slot → socket.messages slot = none
  outstanding : ∀ slot, .received slot ∈ socket.outstanding → slot ≤ socket.incoming

theorem start_sound : start.Sound where
  settled := ⟨fun ended => absurd rfl ended, fun ended => absurd rfl ended,
    fun ended => absurd rfl ended⟩
  messages _ _ failed := by cases failed
  signals _ _ failed := by cases failed
  older _ less := absurd less (Nat.not_lt_zero _)
  newer _ _ := rfl
  outstanding slot member := by
    rw [start, List.mem_singleton] at member
    cases member
    exact le_rfl

end Socket

/-- What a thread knows about the connection from its check. -/
def Guard.Fits (socket : Socket) (thread : Nat) : Guard → Prop
  | .free => True
  | .locked => socket.probeLock = some thread
  | .probing slot => socket.probeLock = some thread ∧ socket.pendingProbe = some slot

/-- What a thread knows about the connection from its send or receive. -/
def Progress.Fits (socket : Socket) (thread : Nat) : Progress → Prop
  | .outside => True
  | .entered | .passed _ => socket.consumer = some thread
  | .sending slot => socket.consumer = some thread ∧ socket.pendingSend = some slot
  | .reading slot => socket.consumer = some thread ∧ slot = socket.incoming
  | .holding data =>
    socket.consumer = some thread ∧ socket.messages socket.incoming = some (.ok data)
  | .refused =>
    socket.consumer = some thread ∧
      ∃ error, socket.messages socket.incoming = some (.error error)

/-- What a thread knows about the connection. -/
structure Stage.Fits (socket : Socket) (thread : Nat) (stage : Stage) :
    Prop where
  met : ∀ entry ∈ stage.journal, ∀ error, entry.shows = some error → socket.Blames error
  renewed : ∀ slot more, ⟨.renew, (slot, more)⟩ ∈ stage.journal → slot ≤ socket.incoming
  called : ∀ slot, ⟨.called (.received slot), ()⟩ ∈ stage.journal → slot ≤ socket.incoming
  guard : stage.guard.Fits socket thread
  progress : stage.progress.Fits socket thread

section Effects

variable {socket after : Socket} {thread other : Nat} {stage : Stage}
variable {effect : Effect} {reply : effect.Reply}

variable {error : Fault} {guard : Guard} {progress : Progress}

theorem Stage.Fits.blames
    (fits : stage.Fits socket thread)
    (met : Met stage.journal error) :
    socket.Blames error := by
  obtain ⟨entry, member, shown, shows, alike⟩ := met
  exact (fits.met entry member shown shows).alike alike

theorem Guard.Fits.holder
    (fits : guard.Fits socket thread)
    (further : guard ≠ .free) :
    socket.probeLock = some thread := by
  cases guard with
  | free => exact absurd rfl further
  | locked => exact fits
  | probing slot => exact fits.1

theorem Progress.Fits.consumer
    (fits : progress.Fits socket thread)
    (inside : progress ≠ .outside) :
    socket.consumer = some thread := by
  cases progress with
  | outside => exact absurd rfl inside
  | entered | passed => exact fits
  | sending | reading | holding | refused => exact fits.1

/-- What is known from a check does not depend on the rest. -/
theorem Guard.Fits.frame
    (fits : guard.Fits socket thread)
    (lock : after.probeLock = socket.probeLock)
    (pending : after.pendingProbe = socket.pendingProbe) :
    guard.Fits after thread := by
  cases guard with
  | free => trivial
  | locked => exact lock.trans fits
  | probing slot => exact ⟨lock.trans fits.1, pending.trans fits.2⟩

theorem Progress.Fits.frame
    (fits : progress.Fits socket thread)
    (advances : socket.Advances after)
    (incoming : after.incoming = socket.incoming)
    (pending : after.pendingSend = socket.pendingSend)
    (consumer : after.consumer = socket.consumer) :
    progress.Fits after thread := by
  cases progress with
  | outside => trivial
  | entered | passed => exact consumer.trans fits
  | sending slot => exact ⟨consumer.trans fits.1, pending.trans fits.2⟩
  | reading slot => exact ⟨consumer.trans fits.1, fits.2.trans incoming.symm⟩
  | holding data =>
    refine ⟨consumer.trans fits.1, ?_⟩
    rw [incoming]
    exact advances.messages _ _ fits.2
  | refused =>
    obtain ⟨holder, error, failed⟩ := fits
    refine ⟨consumer.trans holder, error, ?_⟩
    rw [incoming]
    exact advances.messages _ _ failed

theorem renew_sound
    {data : Data}
    (sound : socket.Sound)
    (taken : socket.messages socket.incoming = some (.ok data)) :
    socket.renew.Sound := by
  obtain ⟨incoming, terminal, signals, -, -, outstanding, -, -⟩ := @Socket.renew_frame socket
  have advances := @Socket.renew_advances socket
  refine ⟨Socket.renew_settled sound.settled, ?_, ?_, ?_, ?_, ?_⟩
  · intro slot error failed
    rcases Socket.renew_messages failed with
      known | ⟨-, failure, ended, same⟩
    · exact (sound.messages slot error known).mono advances
    · cases same
      exact ⟨error, terminal.trans ended, error.alike_self⟩
  · intro slot error failed
    rw [signals] at failed
    exact (sound.signals slot error failed).mono advances
  · intro slot less
    rw [incoming] at less
    refine advances.message_done ?_
    rcases Nat.lt_succ_iff_lt_or_eq.mp less with less | rfl
    · exact sound.older slot less
    · rw [taken]
      rfl
  · intro slot less
    rw [incoming] at less
    rw [Option.eq_none_iff_forall_ne_some]
    intro result completed
    rcases Socket.renew_messages completed with known | ⟨same, -⟩
    · rw [sound.newer slot (by omega)] at known
      cases known
    · omega
  · intro slot member
    rw [outstanding] at member
    rw [incoming]
    exact (sound.outstanding slot member).trans (Nat.le_succ _)

theorem terminate_sound
    (sound : socket.Sound)
    (lives : socket.terminal = none)
    (failure : Fault) :
    (socket.terminate failure).Sound := by
  have untouched := @Socket.terminate_untouched socket failure
  have advances := Socket.terminate_advances failure lives
  have blamed : (socket.terminate failure).Blames failure :=
    ⟨failure, Socket.terminate_terminal failure, failure.alike_self⟩
  refine ⟨Socket.terminate_settled failure, ?_, ?_, ?_, ?_, ?_⟩
  · intro slot error failed
    rw [Socket.terminate_messages] at failed
    rcases RouterAsyncResult.complete_cases failed with
      known | ⟨-, -, same⟩
    · exact (sound.messages slot error known).mono advances
    · cases same
      exact blamed
  · intro slot error failed
    rcases Socket.terminate_signals failed with known | same
    · exact (sound.signals slot error known).mono advances
    · cases same
      exact blamed
  · intro slot less
    rw [untouched.incoming] at less
    exact advances.message_done (sound.older slot less)
  · intro slot less
    rw [untouched.incoming] at less
    rw [Socket.terminate_messages, RouterAsyncResult.complete_of_ne less.ne',
      sound.newer slot less]
  · intro slot member
    rw [untouched.outstanding] at member
    rw [untouched.incoming]
    exact sound.outstanding slot member

theorem complete_sound
    {slot : Nat}
    {result : Except Fault Data}
    (sound : socket.Sound)
    (created : slot ≤ socket.incoming)
    (blamed : ∀ error, result = .error error → socket.Blames error) :
    (socket.complete slot result).Sound := by
  have advances := @Socket.complete_advances socket slot result
  have settled : (socket.complete slot result).Settled :=
    ⟨fun ended => advances.message_done (sound.settled.incoming ended),
      sound.settled.pendingProbe, sound.settled.pendingSend⟩
  refine ⟨settled, ?_, sound.signals, ?_, ?_, sound.outstanding⟩
  · intro other error failed
    rcases RouterAsyncResult.complete_cases failed with
      known | ⟨-, -, same⟩
    · exact sound.messages other error known
    · exact blamed error same
  · intro other less
    exact advances.message_done (sound.older other less)
  · intro other less
    have different : other ≠ slot := (created.trans_lt less).ne'
    exact (RouterAsyncResult.complete_of_ne different).trans (sound.newer other less)

theorem Stage.Fits.sound
    (fits : stage.Fits socket thread)
    (sound : socket.Sound)
    (allowed : stage.Allows effect)
    (does : socket.Does thread effect reply after) :
    after.Sound := by
  have settled := sound.settled.does does
  cases does with
  | renew =>
    obtain ⟨data, holding⟩ := allowed
    have known := fits.progress
    rw [holding] at known
    exact renew_sound sound known.2
  | terminate failure lives => exact terminate_sound sound lives failure
  | complete slot result =>
    exact complete_sound sound (fits.called slot allowed.1)
      fun error failed => fits.blames (allowed.2 error failed)
  | signal slot result =>
    refine ⟨settled, sound.messages, ?_, sound.older, sound.newer, sound.outstanding⟩
    intro other error failed
    rcases RouterAsyncResult.complete_cases failed with
      known | ⟨-, -, same⟩
    · exact sound.signals other error known
    · exact fits.blames (allowed error same)
  | start callback data =>
    refine ⟨settled, sound.messages, sound.signals, sound.older, sound.newer, ?_⟩
    intro slot member
    rcases List.mem_cons.mp member with rfl | member
    · obtain ⟨more, renewed⟩ := allowed
      exact fits.renewed slot more renewed
    · exact sound.outstanding slot member
  | called callback member =>
    exact ⟨settled, sound.messages, sound.signals, sound.older, sound.newer,
      fun slot still => sound.outstanding slot (List.mem_of_mem_erase still)⟩
  | _ => exact ⟨settled, sound.messages, sound.signals, sound.older,
    sound.newer, sound.outstanding⟩

theorem Socket.Does.shows
    (sound : socket.Sound)
    (does : socket.Does thread effect reply after)
    (shows : Entry.shows ⟨effect, reply⟩ = some error) :
    after.Blames error := by
  cases does with
  | refuseProbe terminal ended =>
    cases shows
    exact ⟨terminal, ended, terminal.alike_inPhase .check⟩
  | refuseSend terminal ended =>
    cases shows
    exact ⟨terminal, ended, terminal.alike_inPhase .send⟩
  | signalled slot result known =>
    cases result with
    | ok value => cases shows
    | error failure =>
      cases shows
      exact sound.signals slot error known
  | taken slot result known =>
    cases result with
    | ok data => cases shows
    | error failure =>
      cases shows
      exact sound.messages slot error known
  | readTerminal => exact ⟨error, shows, error.alike_self⟩
  | lose failure terminal ended =>
    cases shows
    exact ⟨terminal, ended, terminal.alike_self⟩
  | terminate failure lives =>
    cases shows
    exact ⟨failure, Socket.terminate_terminal failure, failure.alike_self⟩
  | _ => cases shows

section

variable (fits : stage.Fits socket thread)
include fits

theorem Stage.Fits.nextGuard
    (allowed : stage.Allows effect)
    (does : socket.Does thread effect reply after) :
    (nextGuard stage.guard effect reply).Fits after thread := by
  have known := fits.guard
  cases does with
  | lockProbe free => exact rfl
  | unlockProbe => trivial
  | beginProbe lives =>
    rw [show stage.guard = .locked from allowed] at known
    exact ⟨known, rfl⟩
  | endProbe =>
    obtain ⟨slot, probing⟩ := allowed
    rw [probing] at known
    exact known.1
  | renew =>
    obtain ⟨-, -, -, pending, -, -, lock, -⟩ := @Socket.renew_frame socket
    exact known.frame lock pending
  | terminate failure lives =>
    have untouched := @Socket.terminate_untouched socket failure
    exact known.frame untouched.probeLock untouched.pendingProbe
  | _ => exact known.frame rfl rfl

theorem Stage.Fits.nextProgress
    (allowed : stage.Allows effect)
    (does : socket.Does thread effect reply after) :
    (nextProgress stage.progress effect reply).Fits after thread := by
  have known := fits.progress
  have advances := does.advances
  cases does with
  | enter free => exact rfl
  | beginSend | readIncoming =>
    rw [show stage.progress = .entered from allowed] at known
    exact ⟨known, rfl⟩
  | endSend =>
    obtain ⟨slot, sending⟩ := allowed
    rw [sending] at known
    exact known.1

  | taken slot result completed =>
    rw [show stage.progress = .reading slot from allowed] at known
    obtain ⟨consumer, rfl⟩ := known
    cases result with
    | ok data => exact ⟨consumer, completed⟩
    | error error => exact ⟨consumer, error, completed⟩
  | renew =>
    obtain ⟨data, holding⟩ := allowed
    rw [holding] at known ⊢
    obtain ⟨-, -, -, -, -, -, -, consumer⟩ := @Socket.renew_frame socket
    exact consumer.trans known.1
  | terminate failure lives =>
    have untouched := @Socket.terminate_untouched socket failure
    exact known.frame advances untouched.incoming untouched.pendingSend untouched.consumer
  | finish call outcome => trivial
  | _ => exact known.frame advances rfl rfl rfl

theorem Stage.Fits.next
    (sound : socket.Sound)
    (allowed : stage.Allows effect)
    (does : socket.Does thread effect reply after) :
    (stage.next effect reply).Fits after thread where
  met entry member error shows := by
    rcases List.mem_cons.mp member with rfl | member
    · exact does.shows sound shows
    · exact (fits.met entry member error shows).mono does.advances
  renewed slot more member := by
    rcases List.mem_cons.mp member with same | member
    · cases same
      cases does with
      | renew => exact (@Socket.renew_frame socket).1.ge
    · exact (fits.renewed slot more member).trans does.advances.incoming
  called slot member := by
    rcases List.mem_cons.mp member with same | member
    · cases same
      cases does with
      | called callback member => exact sound.outstanding slot member
    · exact (fits.called slot member).trans does.advances.incoming
  guard := fits.nextGuard allowed does
  progress := fits.nextProgress allowed does

theorem Stage.Fits.probe_frame
    (allowed : stage.Allows effect)
    (does : socket.Does thread effect reply after)
    (different : other ≠ thread)
    (locked : socket.probeLock = some other) :
    after.probeLock = socket.probeLock ∧
      after.pendingProbe = socket.pendingProbe := by
  have free : stage.guard = .free := by
    by_contra further
    have holder := fits.guard.holder further
    exact different (Option.some.inj (locked.symm.trans holder))
  cases does with
  | lockProbe unlocked =>
    rw [locked] at unlocked
    cases unlocked
  | unlockProbe | beginProbe => cases free.symm.trans allowed
  | endProbe =>
    obtain ⟨slot, probing⟩ := allowed
    cases free.symm.trans probing
  | renew =>
    obtain ⟨-, -, -, pending, -, -, lock, -⟩ := @Socket.renew_frame socket
    exact ⟨lock, pending⟩
  | terminate failure lives =>
    have untouched := @Socket.terminate_untouched socket failure
    exact ⟨untouched.probeLock, untouched.pendingProbe⟩
  | _ => exact ⟨rfl, rfl⟩

theorem Stage.Fits.consumer_frame
    (allowed : stage.Allows effect)
    (does : socket.Does thread effect reply after)
    (different : other ≠ thread)
    (busy : socket.consumer = some other) :
    after.incoming = socket.incoming ∧ after.pendingSend = socket.pendingSend ∧
      after.consumer = socket.consumer := by
  have outside : stage.progress = .outside := by
    by_contra inside
    have holder := fits.progress.consumer inside
    exact different (Option.some.inj (busy.symm.trans holder))
  cases does with
  | enter idle =>
    rw [busy] at idle
    cases idle
  | beginSend lives => cases outside.symm.trans allowed
  | endSend =>
    obtain ⟨slot, sending⟩ := allowed
    cases outside.symm.trans sending
  | renew =>
    obtain ⟨data, holding⟩ := allowed
    cases outside.symm.trans holding
  | terminate failure lives =>
    have untouched := @Socket.terminate_untouched socket failure
    exact ⟨untouched.incoming, untouched.pendingSend, untouched.consumer⟩
  | finish call outcome =>
    refine ⟨rfl, rfl, if_neg fun consumes => ?_⟩
    exact allowed.enters consumes outside
  | _ => exact ⟨rfl, rfl, rfl⟩

end

theorem Stage.Fits.elsewhere
    {watcher : Stage}
    (watches : watcher.Fits socket other)
    (fits : stage.Fits socket thread)
    (allowed : stage.Allows effect)
    (does : socket.Does thread effect reply after)
    (different : other ≠ thread) :
    watcher.Fits after other where
  met entry member error shows := (watches.met entry member error shows).mono does.advances
  renewed slot more member := (watches.renewed slot more member).trans does.advances.incoming
  called slot member := (watches.called slot member).trans does.advances.incoming
  guard := by
    have known := watches.guard
    by_cases free : watcher.guard = .free
    · rw [free]
      trivial
    · obtain ⟨lock, pending⟩ := fits.probe_frame allowed does different (known.holder free)
      exact known.frame lock pending
  progress := by
    have known := watches.progress
    by_cases outside : watcher.progress = .outside
    · rw [outside]
      trivial
    · obtain ⟨incoming, pending, consumer⟩ :=
        fits.consumer_frame allowed does different (known.consumer outside)
      exact known.frame does.advances incoming pending consumer

end Effects

end RouterWebSocket

end Turnrail
