import Turnrail.Engine.Relay

/-!
# The order of the relayed messages

Both loops settle a message before they take the next one, so no message is lost,
repeated or overtaken on its way.  A message of the desktop is delivered as the
helper configuration prepared it, and a message of the Engine unchanged.
-/

namespace Turnrail

open Interleaving

namespace Relay

section Definitions

variable (texts : Texts) (router engine : String)

/-- The second event is what becomes of the message of the first. -/
def Settles : Event → Event → Prop
  | .admitted message, .delivered sent =>
    sent = RouterHelperConfiguration.prepare texts router engine message
  | .refused message error, .replied id told => message.get "id" = some id ∧ told = error
  | .received message, .forwarded sent => sent = message
  | .received message, .failed id _ =>
    message.get "method" = none ∧ message.get "id" = some id
  | _, _ => False

/-- A loop takes a message. -/
def Event.takes : Event → Bool
  | .admitted _ | .refused _ _ | .received _ => true
  | _ => false

/-- Each message is settled before the next one is taken; the last may remain. -/
def InTurn (events : List Event) (rest : Option Event) : Prop :=
  (∀ event ∈ rest, event.takes = true) ∧
    ∃ pairs : List (Event × Event),
      (∀ pair ∈ pairs, Settles texts router engine pair.1 pair.2) ∧
        events = pairs.flatMap (fun pair => [pair.1, pair.2]) ++ rest.toList

/-- Events of messages from the desktop. -/
def Event.isInward : Event → Bool
  | .admitted _ | .refused _ _ | .delivered _ | .replied _ _ => true
  | _ => false

/-- Events of messages from the Engine. -/
def Event.isOutward : Event → Bool
  | .received _ | .forwarded _ | .failed _ _ => true
  | _ => false

/-- What the loop from the desktop still has to do with the message it took. -/
def Input.Owes (rest : Option Event) : Input → Prop
  | .reading => rest = none
  | .delivering prepared => ∃ message, rest = some (.admitted message) ∧
      prepared = RouterHelperConfiguration.prepare texts router engine message
  | .refusing id error =>
    ∃ message, rest = some (.refused message error) ∧ message.get "id" = some id
  | .stopped => True

/-- What the loop from the Engine still has to do with the message it took. -/
def Output.Owes (rest : Option Event) : Output → Prop
  | .reading => rest = none
  | .registering message _ | .forwarding message => rest = some (.received message)
  | .failing id _ => ∃ message, rest = some (.received message) ∧
      message.get "method" = none ∧ message.get "id" = some id
  | .stopped => True

/-- Both loops know the message that remains. -/
def Orderly (history : List Event) (relay : Relay) : Prop :=
  (∃ rest, InTurn texts router engine (history.filter Event.isInward) rest ∧
      relay.input.Owes texts router engine rest) ∧
    ∃ rest, InTurn texts router engine (history.filter Event.isOutward) rest ∧
      relay.output.Owes rest

end Definitions

variable {texts : Texts} {router engine : String}
variable {relay next : Relay} {history events : List Event} {rest : Option Event}
variable {taken event : Event} {message : Object} {error : RouterFailure}

theorem InTurn.skip (turns : InTurn texts router engine events rest) :
    InTurn texts router engine (events ++ []) rest := by
  rwa [List.append_nil]

theorem InTurn.take
    (turns : InTurn texts router engine events none)
    (takes : taken.takes = true) :
    InTurn texts router engine (events ++ [taken]) (some taken) := by
  obtain ⟨-, pairs, settled, rfl⟩ := turns
  exact ⟨by simpa using takes, pairs, settled, by simp⟩

/-- Settling the last message completes a pair. -/
theorem InTurn.settle
    (turns : InTurn texts router engine events (some taken))
    (settles : Settles texts router engine taken event) :
    InTurn texts router engine (events ++ [event]) none := by
  obtain ⟨-, pairs, settled, rfl⟩ := turns
  refine ⟨nofun, pairs ++ [(taken, event)], ?_, by simp⟩
  simpa [or_imp, forall_and] using ⟨fun one two => settled (one, two), settles⟩

theorem Input.owes_afterError :
    (Input.afterError message error).Owes texts router engine
      (some (.refused message error)) := by
  unfold Input.afterError
  split
  · rename_i known
    exact ⟨message, rfl, known⟩
  · trivial

theorem Output.owes_afterError :
    (Output.afterError message error).Owes (some (.received message)) := by
  unfold Output.afterError
  split
  · rename_i none known
    exact ⟨message, rfl, none, known⟩
  · trivial

/-- A step takes a message, settles it or leaves its direction alone. -/
theorem Orderly.step
    (orderly : Orderly texts router engine history relay)
    (steps : Step texts router engine relay event next) :
    Orderly texts router engine (history ++ [event]) next := by
  obtain ⟨⟨inner, inward, owesInput⟩, outer, outward, owesOutput⟩ := orderly
  rw [Orderly, List.filter_append, List.filter_append]
  cases steps with
  | accept message =>
    cases owesInput
    exact ⟨⟨_, inward.take rfl, message, rfl, rfl⟩, outer, outward.skip, owesOutput⟩
  | refuse message error =>
    cases owesInput
    exact ⟨⟨_, inward.take rfl, Input.owes_afterError⟩, outer, outward.skip, owesOutput⟩
  | deliver =>
    obtain ⟨message, rfl, rfl⟩ := owesInput
    exact ⟨⟨_, inward.settle rfl, rfl⟩, outer, outward.skip, owesOutput⟩
  | reply id error =>
    obtain ⟨message, rfl, known⟩ := owesInput
    exact ⟨⟨_, inward.settle ⟨known, rfl⟩, rfl⟩, outer, outward.skip, owesOutput⟩
  | stopInput => exact ⟨⟨inner, inward.skip, trivial⟩, outer, outward.skip, owesOutput⟩
  | @receive titles _ message =>
    cases owesOutput
    refine ⟨⟨inner, inward.skip, owesInput⟩, _, outward.take rfl, ?_⟩
    cases (RouterEngineObserver.response texts titles message).1 with
    | forward | register => exact rfl
    | fail => exact Output.owes_afterError
  | register => exact ⟨⟨inner, inward.skip, owesInput⟩, outer, outward.skip, owesOutput⟩
  | reject =>
    cases owesOutput
    exact ⟨⟨inner, inward.skip, owesInput⟩, _, outward.skip, Output.owes_afterError⟩
  | forward =>
    cases owesOutput
    exact ⟨⟨inner, inward.skip, owesInput⟩, _, outward.settle rfl, rfl⟩
  | fail =>
    obtain ⟨message, rfl, known⟩ := owesOutput
    exact ⟨⟨inner, inward.skip, owesInput⟩, _, outward.settle known, rfl⟩
  | stopOutput => exact ⟨⟨inner, inward.skip, owesInput⟩, outer, outward.skip, trivial⟩

/-- A stopped loop stays stopped and does nothing. -/
theorem Step.input_stopped
    (steps : Step texts router engine relay event next)
    (stopped : relay.input = .stopped) :
    next.input = .stopped ∧ event.isInward = false := by
  cases steps <;> simp_all [Event.isInward]

theorem Step.output_stopped
    (steps : Step texts router engine relay event next)
    (stopped : relay.output = .stopped) :
    next.output = .stopped ∧ event.isOutward = false := by
  cases steps <;> simp_all [Event.isOutward]

theorem silent_of_stopped
    {stopped : Relay → Prop}
    {kind : Event → Bool}
    (keeps : ∀ relay event next, Step texts router engine relay event next →
      stopped relay → stopped next ∧ kind event = false)
    (runs : Runs (Step texts router engine) relay events next)
    (holds : stopped relay) :
    events.filter kind = [] := by
  have both : stopped next ∧ events.filter kind = [] := by
    refine @Runs.keeps _ _ _ _ _
      (fun events relay => stopped relay ∧ events.filter kind = []) ⟨holds, rfl⟩ ?_ _ runs
    rintro events event state after - ⟨still, silent⟩ steps
    obtain ⟨again, other⟩ := keeps state event after steps still
    exact ⟨again, by simp [silent, other]⟩
  exact both.2

end Relay

open Relay in
/-- However the loops interleave, every message of the desktop is delivered as
prepared or answered with its error, and every message of the Engine is
forwarded unchanged or answered with an error, exactly once and in the order of
arrival.  Only the last one of each direction may not be settled yet, and a loop
that has stopped takes and settles nothing more. -/
theorem relay_settles_messages_in_turn
    {texts : Texts}
    {router engine : String}
    {history : List Event}
    {relay : Relay}
    (run : Run texts router engine history relay) :
    (∃ rest, InTurn texts router engine (history.filter Event.isInward) rest) ∧
      (∃ rest,
        InTurn texts router engine (history.filter Event.isOutward) rest) ∧
      (∀ before after, history = before ++ .inputStopped :: after →
        after.filter Event.isInward = []) ∧
      ∀ before after, history = before ++ .outputStopped :: after →
        after.filter Event.isOutward = [] := by
  obtain ⟨⟨inner, inward, -⟩, outer, outward, -⟩ : Orderly texts router engine history relay :=
    Runs.keeps ⟨⟨none, ⟨nofun, [], by simp⟩, rfl⟩, none, ⟨nofun, [], by simp⟩, rfl⟩
      (fun _ orderly steps => orderly.step steps) run
  refine ⟨⟨inner, inward⟩, ⟨outer, outward⟩, ?_, ?_⟩
  · rintro before after rfl
    obtain ⟨_, -, later⟩ := run.split
    obtain ⟨_, stops, later⟩ := later.head
    exact silent_of_stopped (fun _ _ _ steps => steps.input_stopped) later
      (by cases stops; rfl)
  · rintro before after rfl
    obtain ⟨_, -, later⟩ := run.split
    obtain ⟨_, stops, later⟩ := later.head
    exact silent_of_stopped (fun _ _ _ steps => steps.output_stopped) later
      (by cases stops; rfl)

open Relay TitleExchange in
/-- While a title task is registered, the request is delivered with the path of
the Engine, and the answers of the Engine are forwarded in turn. -/
theorem title_answer_keeps_its_turn :
    ∃ history, Run .plain "/router" "/engine" history start ∧
      .admitted titleRequest ∈ history ∧
      .delivered (titleRequestWith "/engine") ∈ history ∧
      .received titleAnswer ∈ history ∧
      (∃ rest, InTurn .plain "/router" "/engine"
        (history.filter Event.isInward) rest) ∧
      ∃ rest, InTurn .plain "/router" "/engine"
        (history.filter Event.isOutward) rest := by
  obtain ⟨inward, outward, -⟩ := relay_settles_messages_in_turn runs
  exact ⟨_, runs, by simp [waiting], by simp [waiting], by simp, inward, outward⟩

end Turnrail
