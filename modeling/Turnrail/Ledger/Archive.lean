import Turnrail.Ledger.Conversation
import Turnrail.Ledger.Reload

/-!
# The archive of responses

Whatever the ledger is called with, and however often its process restarts, the
conversation it returns for a response is made of the responses that were
stored, in order, and does not change later.  The router stores a response only
after it has read the one that it continues, and no identity is used twice, so
no chain of responses is circular.
-/

namespace Turnrail

open RouterLedger

/-- A process opens the files, possibly after others failed to. -/
inductive Opens : Disk → Ledger → Prop
  | opened {disk after ledger writes} :
      RouterLedger.init disk writes = (.ok ledger, after) → Opens disk ledger
  | retried {disk after ledger writes failure} :
      RouterLedger.init disk writes = (.error failure, after) →
      Opens after ledger → Opens disk ledger

section Definitions

variable (host : Foundation)

/-- A response continues one that is recorded. -/
def LedgerCall.Continues (ledger : Ledger) (call : LedgerCall) : Prop :=
  ∀ id value previous, call.response = some (id, value) → value.previous = some previous →
    previous.isEmpty = false ∧ ∃ conversation, (RouterLedger.call
          (RouterLedger.history host previous value.thread) ledger []).1 =
          .ok conversation

/-- Runs of the ledger in which responses only continue what can be read, with
any outcomes of the file writes and any number of restarts. -/
inductive Archive (start : Ledger) : List LedgerCall → Ledger → Prop
  | start : Archive start [] start
  | called {calls call ledger after writes result} :
      Archive start calls ledger → call.Continues host ledger →
      RouterLedger.call (call.run host) ledger writes = (result, after) →
      Archive start (calls ++ [call]) after
  | reloaded {calls ledger after} :
      Archive start calls ledger → Opens ledger.disk after →
      Archive start calls after

end Definitions

/-- A response that some call was to store. -/
def Submitted (calls : List LedgerCall) (value : History) : Prop :=
  ∃ call ∈ calls, ∃ id, call.response = some (id, value)

variable {value : History}

theorem Submitted.more
    {calls : List LedgerCall}
    (submitted : Submitted calls value)
    (more : List LedgerCall) :
    Submitted (calls ++ more) value := by
  obtain ⟨call, member, names⟩ := submitted
  exact ⟨call, List.mem_append_left more member, names⟩

theorem Submitted.last
    {calls : List LedgerCall}
    {call : LedgerCall}
    {id : String}
    (names : call.response = some (id, value)) :
    Submitted (calls ++ [call]) value :=
  ⟨call, List.mem_append_right calls (List.mem_singleton_self call), id, names⟩

variable {host : Foundation}

/-- What a process starts with comes from the files. -/
theorem Opens.state
    {disk : Disk}
    {ledger : Ledger}
    (opens : Opens disk ledger) :
    ledger.disk.messages = disk.messages ∧
      ledger.disk.ledger = some ledger.state ∧
      ledger.state.history = disk.opened.history ∧ ∀ saved,
      disk.ledger = some saved → saved.Extends ledger.state := by
  induction opens with
  | @opened disk after ledger writes opened =>
    rcases init_cases opened with ⟨_, ⟨⟩, -⟩ | ⟨messages, -, -, success⟩
    obtain ⟨rfl, file⟩ := success ledger rfl
    refine ⟨messages, file, rfl, ?_⟩
    intro saved known
    simp only [Disk.opened, known]
    exact saved.extends_blockInFlight
  | @retried disk after ledger writes failure failed _ ih =>
    obtain ⟨messages, file, history, kept⟩ := ih
    rcases init_cases failed with ⟨_, -, rfl⟩ | ⟨same, -, lags, -⟩
    · exact ⟨messages, file, history, kept⟩
    · refine ⟨messages.trans same, file, ?_, ?_⟩
      · rw [history]
        rcases lags with same | same
        · simp only [Disk.opened, same]
        · simp only [Disk.opened, same, LedgerState.blockInFlight]
      · intro saved known
        rcases lags with same | same
        · exact kept saved (same.trans known)
        · have opened := kept _ same
          simp only [Disk.opened, known] at opened
          exact saved.extends_blockInFlight.trans opened

variable (host) in
/-- What holds of the archive in every run. -/
structure Ledger.Tells (kept : History → Prop) (ledger : Ledger) :
    Prop where
  memory : Told host kept ledger.state ledger.disk.messages
  file : ∃ saved, ledger.disk.ledger = some saved ∧ saved.Extends ledger.state ∧
    Told host kept saved ledger.disk.messages

section Steps

variable {kept : History → Prop} {ledger after : Ledger} {more : History → Prop}

theorem Ledger.Tells.mono
    (tells : ledger.Tells host kept)
    (grows : ∀ {value}, kept value → more value) :
    ledger.Tells host more := by
  obtain ⟨saved, file, behind, told⟩ := tells.file
  exact ⟨tells.memory.mono grows, saved, file, behind, told.mono grows⟩

theorem Ledger.Tells.called
    {call : LedgerCall}
    {writes : List WriteOutcome}
    {result : Except PlainError call.Value}
    (tells : ledger.Tells host kept)
    (outcome : Outcome host writes ledger call result after)
    (known : ∀ id value, call.response = some (id, value) → kept value)
    (continues : call.Continues host ledger) :
    after.Tells host kept := by
  have memory : Told host kept after.state after.disk.messages := by
    refine tells.memory.called outcome known ?_
    intro id value previous names continued
    obtain ⟨named, conversation, reads⟩ := continues id value previous names continued
    exact ⟨named, record_of_history reads⟩
  obtain ⟨saved, file, behind, told⟩ := tells.file
  refine ⟨memory, ?_⟩
  rcases outcome.lags with same | same
  · exact ⟨saved, same.trans file, behind.trans outcome.extends,
      told.called_files outcome known⟩
  · exact ⟨after.state, same, .refl _, memory⟩

theorem Ledger.Tells.reloaded
    (tells : ledger.Tells host kept)
    (opens : Opens ledger.disk after) :
    after.Tells host kept := by
  obtain ⟨messages, same, history, -⟩ := opens.state
  obtain ⟨saved, file, -, told⟩ := tells.file
  have memory : Told host kept after.state after.disk.messages := by
    rw [messages]
    refine told.same_history ?_
    rw [history]
    simp only [Disk.opened, file, LedgerState.blockInFlight]
  exact ⟨memory, after.state, same, .refl _, memory⟩

theorem Opens.tells (opens : Opens .empty ledger) : ledger.Tells host kept := by
  obtain ⟨messages, same, history, -⟩ := opens.state
  have memory : Told host kept ledger.state ledger.disk.messages := by
    rw [messages]
    exact Told.empty.same_history history
  exact ⟨memory, ledger.state, same, .refl _, memory⟩

theorem Archive.tells
    {earlier calls : List LedgerCall}
    {start : Ledger}
    (archive : Archive host start calls ledger)
    (tells : start.Tells host (Submitted earlier)) :
    ledger.Tells host (Submitted (earlier ++ calls)) := by
  induction archive with
  | start =>
    rw [List.append_nil]
    exact tells
  | called _ continues called ih =>
    rw [← List.append_assoc]
    exact (ih.mono fun known => known.more _).called
      (LedgerCall.outcome called) (fun _ _ => .last) continues
  | reloaded _ opens ih => exact ih.reloaded opens

theorem Archive.keeps
    {calls : List LedgerCall}
    {start : Ledger}
    {saved : LedgerState}
    (archive : Archive host start calls ledger)
    (known : start.disk.ledger = some saved)
    (behind : saved.Extends start.state) :
    ∃ later, ledger.disk.ledger = some later ∧ saved.Extends later ∧
      later.Extends ledger.state := by
  induction archive with
  | start => exact ⟨saved, known, .refl saved, behind⟩
  | called _ _ called ih =>
    obtain ⟨later, file, grown, behind⟩ := ih
    have outcome := LedgerCall.outcome called
    have behind := behind.trans outcome.extends
    rcases outcome.lags with same | same
    · exact ⟨later, same.trans file, grown, behind⟩
    · exact ⟨_, same, grown.trans behind, .refl _⟩
  | reloaded _ opens ih =>
    obtain ⟨later, file, grown, -⟩ := ih
    obtain ⟨-, same, -, kept⟩ := opens.state
    exact ⟨_, same, grown.trans (kept later file), .refl _⟩

theorem Archive.files
    {calls : List LedgerCall}
    {start : Ledger}
    {name : String}
    {bytes : Data}
    (archive : Archive host start calls ledger)
    (known : start.disk.messages.lookup name = some bytes) :
    ledger.disk.messages.lookup name = some bytes := by
  induction archive with
  | start => exact known
  | called _ _ called ih => exact (LedgerCall.outcome called).grows.kept ih
  | reloaded _ opens ih =>
    rw [opens.state.1]
    exact ih

theorem history_same
    {state : LedgerState}
    {id : String}
    {record : HistoryRecord}
    (told : Told host kept state ledger.disk.messages)
    (first : Told host kept ledger.state ledger.disk.messages)
    (second : Told host more after.state after.disk.messages)
    (archivable : Archivable host more)
    (grows : ∀ {value}, kept value → more value)
    (files : ∀ {name bytes}, ledger.disk.messages.lookup name = some bytes →
      after.disk.messages.lookup name = some bytes)
    (earlier : state.Extends ledger.state)
    (later : state.Extends after.state)
    (known : state.history.lookup id = some record)
    (thread : String) :
    (call (history host id thread) after []).1 =
      (call (history host id thread) ledger []).1 := by
  by_cases same : record.thread = thread
  · subst same
    obtain ⟨responses, conversation, filed⟩ := told.responses known
    have filed' : ∀ value ∈ responses,
        more value ∧ Filed host after.disk.messages value.messages := by
      intro value member
      refine ⟨grows (filed value member).1, fun item found => ?_⟩
      obtain ⟨bytes, present⟩ :=
        Option.isSome_iff_exists.mp ((filed value member).2 item found)
      rw [files present]
      rfl
    rw [second.history_eq archivable conversation later.history filed',
      first.history_eq (archivable.mono grows) conversation earlier.history filed]
  · have refused : ∀ {other : Ledger}, state.Extends other.state →
        (call (history host id thread) other []).1 = .error (.failure unknownResponse) := by
      intro other grown
      refine history_other fun found present => ?_
      rw [grown.history known] at present
      cases present
      exact same
    rw [refused later, refused earlier]

end Steps

/-- For every response in memory the ledger returns the conversation made of
the responses stored along its chain, unless it is too long or too large, and
refuses every other task.  A call that stores a response writes it to the file.
No call changes what is returned for a response in memory, and neither calls nor
restarts change what is returned for one in the file. -/
theorem history_is_exact_and_stable
    {start ledger : Ledger}
    {calls : List LedgerCall}
    (opens : Opens .empty start)
    (archive : Archive host start calls ledger)
    (archivable : Archivable host (Submitted calls)) :
    (∀ id record, ledger.state.history.lookup id = some record →
      (∃ responses,
        Conversation host ledger.state.history record.thread id responses ∧
        (∀ value ∈ responses, Submitted calls value) ∧
        (call (history host id record.thread) ledger []).1 =
          reconstruct host responses) ∧
      ∀ thread, thread ≠ record.thread →
        (call (history host id thread) ledger []).1 =
          .error (.failure unknownResponse)) ∧
      (∀ (next : LedgerCall) id value writes reply after,
        next.response = some (id, value) →
        call (next.run host) ledger writes = (.ok reply, after) →
        ∃ saved, after.disk.ledger = some saved ∧
          saved.history.lookup id = some (value.stored host)) ∧
      (∀ (next : LedgerCall) writes result after, next.Continues host ledger →
        call (next.run host) ledger writes = (result, after) →
        Archivable host (Submitted (calls ++ [next])) →
        ∀ id record thread, ledger.state.history.lookup id = some record →
          (call (history host id thread) after []).1 =
            (call (history host id thread) ledger []).1) ∧
      ∀ more later, Archive host ledger more later →
        Archivable host (Submitted (calls ++ more)) →
        ∀ saved id record thread, ledger.disk.ledger = some saved →
          saved.history.lookup id = some record →
          (call (history host id thread) later []).1 =
            (call (history host id thread) ledger []).1 := by
  have tells : ledger.Tells host (Submitted calls) :=
    @Archive.tells host ledger [] calls start archive opens.tells
  refine ⟨?_, ?_, ?_, ?_⟩
  · intro id record known
    obtain ⟨responses, conversation, filed⟩ := tells.memory.responses known
    refine ⟨⟨responses, conversation, fun value member => (filed value member).1, ?_⟩, ?_⟩
    · exact tells.memory.history_eq archivable conversation (fun present => present) filed
    · intro thread other
      refine history_other fun found present => ?_
      rw [known] at present
      cases present
      exact Ne.symm other
  · intro next id value writes reply after names called
    exact (LedgerCall.outcome called).stores names
  · intro next writes result after continues called distinct id record thread known
    have outcome := LedgerCall.outcome called
    have later := (tells.mono fun known => known.more [next]).called outcome
      (fun _ _ => .last) continues
    exact history_same tells.memory tells.memory later.memory distinct
      (fun known => known.more [next]) outcome.grows.kept (.refl _)
      outcome.extends known thread
  · intro more later continued distinct saved id record thread file known
    obtain ⟨found, same, behind, told⟩ := tells.file
    rw [file] at same
    cases same
    obtain ⟨final, -, grown, ahead⟩ := continued.keeps file behind
    exact history_same told tells.memory (continued.tells tells).memory
      distinct (fun known => known.more more) continued.files behind
      (grown.trans ahead) known thread

namespace Sample

/-- A message. -/
def message : Object := [("text", .string "question")]

/-- A platform that reads every file as one message. -/
def parrot : Foundation :=
  { Foundation.mute with
    jsonObject := fun _ => some (.object message)
    jsonData := fun _ => [0] }

/-- A response with one message. -/
def response (previous : Option String) : History where
  thread := "task"
  previous := previous
  input := [message]
  output := []
  account := none
  generation := none

/-- Two responses in turn. -/
def calls : List LedgerCall :=
  [.saveHistory "first" (response none), .saveHistory "second" (response (some "first"))]

/-- The ledger after some calls. -/
def after (ledger : Ledger) : List LedgerCall → Ledger
  | [] => ledger
  | call :: rest => after (RouterLedger.call (call.run parrot) ledger []).2 rest

/-- An empty ledger. -/
def start : Ledger := ⟨.empty, ⟨some .empty, ∅⟩⟩

theorem archivable : Archivable parrot (Submitted calls) := by
  have only : ∀ {value item}, Submitted calls value → item ∈ value.messages →
      item = message := by
    rintro value item ⟨call, member, id, names⟩ found
    simp only [calls, List.mem_cons, List.not_mem_nil, or_false] at member
    rcases member with rfl | rfl <;> cases names <;>
      simpa [response, History.messages] using found
  refine ⟨fun _ _ _ _ _ => rfl, ?_⟩
  intro value item known found
  rw [only known found]
  rfl

theorem archive : Archive parrot start calls (after start calls) := by
  have first : Archive parrot start (calls.take 1) (after start (calls.take 1)) := by
    refine @Archive.called parrot start [] _ start _ [] _ .start ?_ rfl
    rintro id value previous ⟨⟩ ⟨⟩
  refine @Archive.called parrot start _ _ _ _ [] _ first ?_ rfl
  rintro id value previous ⟨⟩ ⟨⟩
  refine ⟨by decide, ?_⟩
  have readable : (RouterLedger.call (RouterLedger.history parrot "first"
      "task") (after start (calls.take 1)) []).1.isOk = true := by
    decide +kernel
  change ∃ conversation, (RouterLedger.call (RouterLedger.history parrot
    "first" "task") (after start (calls.take 1)) []).1 = .ok conversation
  generalize (RouterLedger.call (RouterLedger.history parrot "first" "task")
    (after start (calls.take 1)) []).1 = result at readable
  cases result with
  | error failure => cases readable
  | ok conversation => exact ⟨conversation, rfl⟩

end Sample

/-- A response that continues another one is returned with both messages. -/
theorem continued_response_is_reconstructed :
    ∃ responses,
      Conversation Sample.parrot
        (Sample.after Sample.start Sample.calls).state.history
        "task" "second" responses ∧
      (RouterLedger.call (RouterLedger.history Sample.parrot "second" "task")
        (Sample.after Sample.start Sample.calls) []).1 =
        reconstruct Sample.parrot responses := by
  have opens : Opens .empty Sample.start := @Opens.opened _ _ _ [] rfl
  obtain ⟨exact, -⟩ := history_is_exact_and_stable opens Sample.archive Sample.archivable
  obtain ⟨⟨responses, conversation, -, reads⟩, -⟩ :=
    exact "second" ((Sample.response (some "first")).stored Sample.parrot) rfl
  exact ⟨responses, conversation, reads⟩

end Turnrail
