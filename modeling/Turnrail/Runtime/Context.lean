import Turnrail.Ledger.Conversation
import Turnrail.Runtime.Delivery

/-!
# The service's side of a conversation

The model service extends the context of a connection with every payload and
every item, and remembers the context with which each response completed.  The
ledger is a good account of that if each response it recorded for a connection
was produced there, with a context that is the conversation the ledger tells.
-/

namespace Turnrail

open Interleaving RouterLedger

variable {host : Foundation}

/-- A response was handed to the ledger. -/
def Offered (trace : List (Moment router Point World)) (value : History) :
    Prop :=
  ∃ moment ∈ trace, ∃ thread call reply id,
    moment.event = .performed thread (.ledger call) reply ∧
      call.response = some (id, value)

variable (host) in
/-- A response was completed on a connection. -/
def Produced (trace : List (Moment router Point World))
    (connection : RouterUpstream) (id : String) : Prop :=
  ∃ moment ∈ trace, ∃ thread rawEvent event,
    moment.event = .performed thread (.receive connection) (.ok rawEvent) ∧
      RouterJSON.object host rawEvent = .ok event ∧
      completedResponse event = some id

section Trace

variable {trace later : List (Moment router Point World)}

variable {value : History} {world : World} {thread : Nat} {id : String}
variable {connection : RouterUpstream}

theorem Offered.more (offered : Offered trace value) :
    Offered (trace ++ later) value := by
  obtain ⟨moment, member, rest⟩ := offered
  exact ⟨moment, List.mem_append_left later member, rest⟩

theorem Offered.now
    {call : LedgerCall}
    {reply : Except PlainError call.Value}
    (names : call.response = some (id, value)) :
    Offered
      (trace ++ [⟨.performed thread (.ledger call) reply, world⟩]) value :=
  ⟨_, List.mem_append_right trace (List.mem_singleton_self _), thread, call,
    reply, id, rfl, names⟩

theorem Produced.more (produced : Produced host trace connection id) :
    Produced host (trace ++ later) connection id := by
  obtain ⟨moment, member, rest⟩ := produced
  exact ⟨moment, List.mem_append_left later member, rest⟩

theorem Produced.now
    {rawEvent : Data}
    {event : Object}
    (parsed : RouterJSON.object host rawEvent = .ok event)
    (completes : completedResponse event = some id) :
    Produced host
      (trace ++ [⟨.performed thread (.receive connection) (.ok rawEvent),
        world⟩]) connection id :=
  ⟨_, List.mem_append_right trace (List.mem_singleton_self _), thread,
    rawEvent, event, rfl, parsed, completes⟩

end Trace

namespace Service

/-- Nothing happened on a connection. -/
structure Same (before after : Service) (generation : String) : Prop where
  current : after.current.lookup generation = before.current.lookup generation
  contexts : ∀ id, after.contexts.lookup (generation, id) =
    before.contexts.lookup (generation, id)

theorem Same.refl
    (service : Service)
    (generation : String) :
    service.Same service generation :=
  ⟨rfl, fun _ => rfl⟩

/-- The contexts of responses stay. -/
def Remembers (before after : Service) : Prop :=
  ∀ {key context}, before.contexts.lookup key = some context →
    after.contexts.lookup key = some context

variable {service : Service} {generation other : String}

theorem submit_contexts (payload : Object) :
    (service.submit generation payload).contexts = service.contexts := by
  unfold submit
  split <;> rfl

theorem submit_same
    (payload : Object)
    (differs : generation ≠ other) :
    service.Same (service.submit generation payload) other := by
  refine ⟨?_, fun id => by rw [submit_contexts]⟩
  unfold submit
  split
  · exact AList.lookup_insert_ne differs.symm
  · exact AList.lookup_erase_ne differs.symm

theorem submit_current
    {payload : Object}
    {base input : List Object}
    (known : service.base generation payload = some base)
    (reads : (payload.get "input").bind Json.asObjects = some input) :
    (service.submit generation payload).current.lookup generation =
      some (base ++ input) := by
  simp only [submit, known, reads]
  exact AList.lookup_insert _

theorem completedResponse_of_emittedItem
    {event item : Object}
    (emits : emittedItem event = some item) :
    completedResponse event = none := by
  unfold emittedItem at emits
  split at emits
  · rename_i type
    simp [completedResponse, type]
  · cases emits

theorem emit_cases (event : Object) :
    (service.emit generation event = service ∧
        (service.current.lookup generation = none ∨
          (emittedItem event = none ∧ ∀ id, completedResponse event = some id →
            (service.contexts.lookup (generation, id)).isSome = true))) ∨
      (∃ context item, service.current.lookup generation = some context ∧
        emittedItem event = some item ∧
        service.emit generation event = { service with
          current := service.current.insert generation (context ++ [item]) }) ∨
      ∃ context id, service.current.lookup generation = some context ∧
        emittedItem event = none ∧
        completedResponse event = some id ∧
        service.contexts.lookup (generation, id) = none ∧
        service.emit generation event = { service with
          contexts :=
            service.contexts.insert (generation, id) context } := by
  unfold emit
  cases current : service.current.lookup generation with
  | none => exact .inl ⟨rfl, .inl rfl⟩
  | some context =>
    cases emits : emittedItem event with
    | some item => exact .inr (.inl ⟨context, item, rfl, rfl, rfl⟩)
    | none =>
      cases completes : completedResponse event with
      | none => exact .inl ⟨rfl, .inr ⟨rfl, by rintro _ ⟨⟩⟩⟩
      | some id =>
        by_cases present : (service.contexts.lookup (generation, id)).isSome = true
        · refine .inl ⟨if_pos present, .inr ⟨rfl, ?_⟩⟩
          rintro _ ⟨⟩
          exact present
        · refine .inr (.inr ⟨context, id, rfl, rfl, rfl, ?_, if_neg present⟩)
          simpa using present

theorem emit_remembers (event : Object) :
    service.Remembers (service.emit generation event) := by
  intro key context known
  rcases emit_cases event with ⟨same, -⟩ | ⟨_, _, -, -, same⟩ | ⟨_, id, -, -, -, absent, same⟩
  · rw [same]
    exact known
  · rw [same]
    exact known
  · rw [same]
    have differs : key ≠ (generation, id) := by
      rintro rfl
      rw [absent] at known
      cases known
    exact (AList.lookup_insert_ne differs).trans known

theorem emit_same
    (event : Object)
    (differs : generation ≠ other) :
    service.Same (service.emit generation event) other := by
  rcases emit_cases event with ⟨same, -⟩ | ⟨_, _, -, -, same⟩ | ⟨_, id, -, -, -, -, same⟩
  · rw [same]
    exact .refl service other
  · rw [same]
    exact ⟨AList.lookup_insert_ne differs.symm, fun _ => rfl⟩
  · rw [same]
    refine ⟨rfl, fun named => AList.lookup_insert_ne ?_⟩
    rintro ⟨⟩
    exact differs rfl

end Service

/-- The connection an effect uses. -/
def Effect.uses : Effect → Option RouterUpstream
  | .send connection _ _ _ => some connection
  | .receive connection => some connection
  | _ => none

/-- What the workers rely on stays. -/
structure World.Onward (before after : World) : Prop where
  memory : ∀ state, before.memory = some state →
    ∃ next, after.memory = some next ∧ state.Extends next
  generations : ∀ generation ∈ before.generations, generation ∈ after.generations
  service : before.service.Remembers after.service

theorem World.Onward.quiet
    {before after : World}
    (memory : after.memory = before.memory)
    (generations :
      ∀ generation ∈ before.generations, generation ∈ after.generations)
    (service : before.service.Remembers after.service) :
    before.Onward after := by
  refine ⟨?_, generations, service⟩
  intro state running
  exact ⟨state, memory.trans running, .refl state⟩

section Effects

variable {thread : Nat} {world after : World}

theorem exec_receive
    {connection : RouterUpstream}
    {reply : Except RouterError Data}
    (executed :
      World.exec host thread world (.receive connection) reply after) :
    (∃ rawEvent event, reply = .ok rawEvent ∧
        RouterJSON.object host rawEvent = .ok event ∧
        after = { world with
          service := world.service.emit connection.generation event }) ∨
      ((∀ rawEvent event, reply = .ok rawEvent →
          RouterJSON.object host rawEvent ≠ .ok event) ∧
        after = world) := by
  simp only [World.exec] at executed
  cases reply with
  | error error => exact .inr ⟨by rintro _ _ ⟨⟩, executed⟩
  | ok rawEvent =>
    cases parsed : RouterJSON.object host rawEvent with
    | error error =>
      simp only [parsed] at executed
      refine .inr ⟨?_, executed⟩
      rintro _ event ⟨⟩
      rw [parsed]
      rintro ⟨⟩
    | ok event =>
      simp only [parsed] at executed
      exact .inl ⟨rawEvent, event, rfl, parsed, executed⟩

variable {effect : Effect} {reply : effect.Reply}

theorem exec_unused
    (unused : effect.uses = none)
    (executed : World.exec host thread world effect reply after) :
    after.service = world.service := by
  cases effect with
  | send | receive => cases unused
  | ledger call =>
    obtain ⟨_, _, _, -, -, rfl⟩ := executed
    rfl
  | accountBound | nextMessage | attach | validate | readFailure | isStopped
  | waitForRecovery | lockHook =>
    obtain ⟨-, rfl⟩ := executed
    rfl
  | connect transport account headers =>
    obtain ⟨-, -, rfl⟩ := executed
    rfl
  | _ =>
    cases executed
    rfl

variable (executed : World.exec host thread world effect reply after)
include executed

theorem exec_generations :
    ∀ generation ∈ world.generations, generation ∈ after.generations := by
  intro generation member
  cases effect with
  | ledger call =>
    obtain ⟨_, _, _, -, -, rfl⟩ := executed
    exact member
  | accountBound | nextMessage | attach | validate | readFailure | isStopped
  | waitForRecovery | lockHook =>
    obtain ⟨-, rfl⟩ := executed
    exact member
  | connect transport account headers =>
    obtain ⟨-, -, rfl⟩ := executed
    exact List.mem_cons_of_mem _ member
  | receive connection =>
    rcases exec_receive executed with ⟨_, _, -, -, rfl⟩ | ⟨-, rfl⟩ <;>
      exact member
  | _ =>
    cases executed
    exact member

theorem exec_same
    {generation : String}
    (apart : ∀ connection, effect.uses = some connection →
      connection.generation ≠ generation) :
    world.service.Same after.service generation := by
  cases uses : effect.uses with
  | none =>
    rw [exec_unused uses executed]
    exact .refl _ generation
  | some connection =>
    have differs := apart connection uses
    cases effect with
    | send =>
      cases uses
      cases executed
      exact Service.submit_same _ differs
    | receive =>
      cases uses
      rcases exec_receive executed with ⟨_, event, -, -, rfl⟩ | ⟨-, rfl⟩
      · exact Service.emit_same event differs
      · exact .refl _ generation
    | _ => cases uses

theorem exec_onward : world.Onward after := by
  refine ⟨?_, exec_generations executed, ?_⟩
  · intro state running
    cases calls : effect.callsLedger with
    | false => exact ⟨state, (exec_other calls executed).1.trans running, .refl state⟩
    | true =>
      cases effect with
      | ledger call =>
        obtain ⟨called⟩ := exec_ledger thread executed
        rw [called.running] at running
        cases running
        exact ⟨_, called.memory, called.grows⟩
      | _ => cases calls
  · intro key context known
    cases effect with
    | send connection payload =>
      cases executed
      simpa only [Service.submit_contexts] using known
    | receive connection =>
      rcases exec_receive executed with ⟨_, event, -, -, rfl⟩ | ⟨-, rfl⟩
      · exact Service.emit_remembers event known
      · exact known
    | _ =>
      rw [exec_unused rfl executed]
      exact known

end Effects

variable (host) in
/-- A recorded response tells what was sent and received. -/
structure Recounted (trace : List (Moment router Point World))
    (messages : Table Data) (service : Service) (state : LedgerState) : Prop where
  told : Told host (Offered trace) state messages
  mirrors : ∀ {id record generation}, state.history.lookup id = some record →
    record.generation = some generation →
    ∃ account context, record.account = some account ∧
      Produced host trace ⟨generation, account⟩ id ∧
      Recalls host (Offered trace) state record.thread id context ∧
      service.contexts.lookup (generation, id) = some context

variable (host) in
/-- A response continues what was recorded. -/
def Fits (trace : List (Moment router Point World)) (service : Service)
    (state : LedgerState) (id : String) (value : History) : Prop :=
  ∃ base, Grounded host (Offered trace) state value.previous value.thread base ∧
    (state.history.lookup id = none → ∀ generation, value.generation = some generation →
        ∃ account, value.account = some account ∧
          Produced host trace ⟨generation, account⟩ id ∧
          service.contexts.lookup (generation, id) = some (base ++ value.messages))

namespace Recounted

variable {trace later : List (Moment router Point World)}
variable {messages : Table Data} {service : Service} {state : LedgerState}

theorem onward
    {next : Service}
    (recounted : Recounted host trace messages service state)
    (remembers : service.Remembers next) :
    Recounted host (trace ++ later) messages next state := by
  refine ⟨recounted.told.mono Offered.more, ?_⟩
  intro id record generation known made
  obtain ⟨account, context, owned, produced, recalls, mirrored⟩ := recounted.mirrors known made
  exact ⟨account, context, owned, produced.more, recalls.mono Offered.more, remembers mirrored⟩

theorem same_history
    {other : LedgerState}
    (recounted : Recounted host trace messages service state)
    (same : other.history = state.history) :
    Recounted host trace messages service other := by
  refine ⟨recounted.told.same_history same, ?_⟩
  intro id record generation known made
  rw [same] at known
  obtain ⟨account, context, owned, produced, recalls, mirrored⟩ := recounted.mirrors known made
  exact ⟨account, context, owned, produced, recalls.same_history same, mirrored⟩

section Calls

variable {writes : List WriteOutcome} {before after : Ledger}
variable {call : LedgerCall} {result : Except PlainError call.Value}

theorem called_files
    (recounted : Recounted host trace before.disk.messages service state)
    (outcome : Outcome host writes before call result after)
    (known : ∀ id value, call.response = some (id, value) →
      Offered trace value) :
    Recounted host trace after.disk.messages service state :=
  ⟨recounted.told.called_files outcome known, recounted.mirrors⟩

theorem called
    (recounted : Recounted host trace before.disk.messages service before.state)
    (outcome : Outcome host writes before call result after)
    (known : ∀ id value, call.response = some (id, value) → Offered trace value)
    (fits : ∀ id value, call.response = some (id, value) →
      Fits host trace service before.state id value) :
    Recounted host trace after.disk.messages service after.state := by
  constructor
  · refine recounted.told.called outcome known ?_
    intro id value previous names continued
    obtain ⟨base, grounded, -⟩ := fits id value names
    exact grounded.known continued
  · intro id record generation present made
    have old : before.state.history.lookup id = some record →
        ∃ account context, record.account = some account ∧
          Produced host trace ⟨generation, account⟩ id ∧
          Recalls host (Offered trace) after.state record.thread id context ∧
          service.contexts.lookup (generation, id) = some context := by
      intro present
      obtain ⟨account, context, owned, produced, recalls, mirrored⟩ :=
        recounted.mirrors present made
      exact ⟨account, context, owned, produced, recalls.grow outcome.extends, mirrored⟩
    rcases outcome.history_cases with same | ⟨named, value, names, fresh, now, -⟩
    · rw [same] at present
      exact old present
    · rw [now, Table.lookup_insert] at present
      split at present
      · rename_i same
        subst same
        cases present
        obtain ⟨base, grounded, mirrors⟩ := fits id value names
        obtain ⟨account, owned, produced, mirrored⟩ := mirrors fresh generation made
        have recalls := Recalls.respond fresh (known id value names) grounded
        exact ⟨account, _, owned, produced, recalls.same_history now, mirrored⟩
      · exact old present

end Calls

end Recounted

variable (host) in
/-- The memory and the files tell what happened. -/
structure World.Recounts (trace : List (Moment router Point World))
    (world : World) : Prop where
  memory : ∀ state, world.memory = some state →
    Recounted host trace world.disk.messages world.service state
  file : Recounted host trace world.disk.messages world.service world.disk.opened
  named : ∀ {generation id context},
    world.service.contexts.lookup (generation, id) = some context →
    generation ∈ world.generations

namespace World.Recounts

variable {trace later : List (Moment router Point World)}
variable {before after : World}

theorem start : World.start.Recounts host [] := by
  refine ⟨?_, ⟨.empty, ?_⟩, ?_⟩
  · rintro _ ⟨⟩
  · rintro _ _ _ ⟨⟩
  · rintro _ _ _ ⟨⟩

/-- What happens outside the ledger keeps the account good. -/
theorem quiet
    (recounts : before.Recounts host trace)
    (memory : after.memory = before.memory)
    (disk : after.disk = before.disk)
    (onward : before.service.Remembers after.service)
    (named : ∀ {generation id context},
      after.service.contexts.lookup (generation, id) = some context →
      generation ∈ after.generations) :
    after.Recounts host (trace ++ later) := by
  refine ⟨?_, ?_, named⟩
  · rw [memory, disk]
    intro state running
    exact (recounts.memory state running).onward onward
  · rw [disk]
    exact recounts.file.onward onward

theorem called
    {call : LedgerCall}
    {reply : Except PlainError call.Value}
    (recounts : before.Recounts host trace)
    (called : before.Called host call reply after)
    (known : ∀ id value, call.response = some (id, value) →
      Offered (trace ++ later) value)
    (fits : ∀ id value, call.response = some (id, value) →
      Fits host (trace ++ later) before.service called.state id value) :
    after.Recounts host (trace ++ later) := by
  have remembers : before.service.Remembers before.service := fun known => known
  have memory : Recounted host (trace ++ later)
      called.ledger.disk.messages before.service called.ledger.state :=
    ((recounts.memory _ called.running).onward remembers).called called.outcome known fits
  obtain ⟨service, generations⟩ : after.service = before.service ∧
      after.generations = before.generations := by
    rw [called.rest]
    exact ⟨rfl, rfl⟩
  rw [← service, ← called.disk] at memory
  refine ⟨?_, ?_, ?_⟩
  · intro state running
    rw [called.memory] at running
    cases running
    exact memory
  · rcases called.lags with same | same
    · have opened : after.disk.opened = before.disk.opened := by simp only [Disk.opened, same]
      rw [opened, service, called.disk]
      exact (recounts.file.onward remembers).called_files called.outcome known
    · refine memory.same_history ?_
      simp only [Disk.opened, same, called.memory]
      rfl
  · rw [service, generations]
    exact recounts.named

/-- A new process finds a good account. -/
theorem reset
    (recounts : before.Recounts host trace)
    (resets : before.reset after) :
    after.Recounts host (trace ++ later) := by
  obtain ⟨messages, service, generations⟩ :
      after.disk.messages = before.disk.messages ∧ after.service = before.service ∧
        after.generations = before.generations := by
    obtain ⟨writes, result, disk, opened, rfl⟩ := resets
    refine ⟨?_, rfl, rfl⟩
    rcases init_cases opened with ⟨_, -, rfl⟩ | ⟨same, -⟩
    · rfl
    · exact same
  have opened : Recounted host (trace ++ later) after.disk.messages
      after.service before.disk.opened := by
    rw [messages, service]
    exact recounts.file.onward fun known => known
  -- Opening what was opened changes nothing but the failed turns.
  have reopened : after.disk.ledger = some before.disk.opened →
      Recounted host (trace ++ later) after.disk.messages after.service after.disk.opened := by
    intro same
    refine opened.same_history ?_
    simp only [Disk.opened, same]
    rfl
  refine ⟨?_, ?_, ?_⟩
  · intro state running
    rcases reset_cases resets with ⟨stopped, -⟩ | ⟨memory, -⟩
    · rw [stopped] at running
      cases running
    · rw [memory] at running
      cases running
      exact opened
  · rcases reset_cases resets with ⟨-, same | same⟩ | ⟨-, same⟩
    · have unchanged : after.disk.opened =
        before.disk.opened := by simp only [Disk.opened, same]
      rw [unchanged]
      exact opened
    · exact reopened same
    · exact reopened same
  · rw [service, generations]
    exact recounts.named

end World.Recounts

end Turnrail
