import Turnrail.Foundation
import Turnrail.Interleaving.Runs

/-!
# The messages of a connection

`RouterMessages` queues what its receiver reads from the desktop, and keeps the
upstream that the worker waits on, so that whoever stops the connection also
closes the upstream.  Every call is one section under a lock, and the calls of
all threads may be interleaved.
-/

namespace Turnrail

open Interleaving

/-- The thread that reads from the desktop. -/
inductive Receiver
  | reading
  | leaving
  | gone
  deriving DecidableEq

/-- The messages of a connection. -/
structure RouterMessages (Upstream : Type) where
  messages : List Data := []
  stopped : Bool := false
  singleRequest : Bool := false
  upstream : Option Upstream := none
  receiver : Receiver := .reading
  closed : List Upstream := []

namespace RouterMessages

variable {Upstream : Type}

/-- What happens to a connection. -/
inductive Action (Upstream : Type)
  | received (message : Data)
  | ended
  | leave
  | next
  | attach (upstream : Upstream)
  | stop

/-- What a call returns. -/
inductive Reply
  | unit
  | queued (accepted : Bool)
  | message (message : Option Data)
  | attached (result : Except RouterFailure Unit)

/-- A connection that was just started, with the body of a single request or
without. -/
def start (request : Option Data) : RouterMessages Upstream where
  messages := request.toList
  singleRequest := request.isSome

section Actions

variable (connection : RouterMessages Upstream)

/-- Stop the connection. -/
def stop : RouterMessages Upstream :=
  { connection with
    stopped := true
    upstream := none
    closed := connection.closed ++ connection.upstream.toList }

/-- Take the next message, unless it must be waited for. -/
def next : Option (Option Data × RouterMessages Upstream) :=
  if connection.stopped then some (none, connection)
  else
    match connection.messages with
    | [] => if connection.singleRequest then some (none, connection) else none
    | message :: rest => some (some message, { connection with messages := rest })

/-- Attach a connection to the service. -/
def attach (upstream : Upstream) : Except RouterFailure Unit × RouterMessages Upstream :=
  if connection.stopped then
    (.error ⟨"The desktop cancelled the request."⟩,
      { connection with closed := connection.closed ++ [upstream] })
  else
    (.ok (), { connection with
      upstream := some upstream
      closed := connection.closed ++ connection.upstream.toList })

/-- What an action does and returns, unless it waits. -/
def act : Action Upstream → Option (Reply × RouterMessages Upstream)
  | .received message =>
    if connection.receiver = .reading ∧ connection.singleRequest = false then
      -- A message too many ends the loop of the receiver.
      if connection.stopped = true ∨ 8 ≤ connection.messages.length then
        some (.queued false, { connection with receiver := .leaving })
      else some (.queued true,
        { connection with messages := connection.messages ++ [message] })
    else none
  | .ended =>
    if connection.receiver = .reading then
      some (.unit, { connection with receiver := .leaving })
    else none
  | .leave =>
    if connection.receiver = .leaving
      then some (.unit, { connection.stop with receiver := .gone })
    else none
  | .next => connection.next.map fun (message, after) => (.message message, after)
  | .attach upstream =>
    let (result, after) := connection.attach upstream
    some (.attached result, after)
  | .stop => some (.unit, connection.stop)

end Actions

/-- An action with what it returned. -/
abbrev Happening (Upstream : Type) := Action Upstream × Reply

/-- The happenings of a connection from its start. -/
abbrev Run (request : Option Data) (history : List (Happening Upstream))
    (connection : RouterMessages Upstream) : Prop :=
  Runs (fun before (happening : Happening Upstream) after =>
      before.act happening.1 = some (happening.2, after))
    (start request) history connection

/-- An action stops the connection. -/
def Action.stops : Action Upstream → Bool
  | .leave | .stop => true
  | _ => false

/-- A stop has completed. -/
def Stopped (history : List (Happening Upstream)) : Prop :=
  ∃ happening ∈ history, happening.1.stops = true

/-- The messages that were queued. -/
def enqueued (history : List (Happening Upstream)) : List Data :=
  history.filterMap fun happening =>
    match happening with
    | (.received message, .queued true) => some message
    | _ => none

/-- The messages that were returned. -/
def returned (history : List (Happening Upstream)) : List Data :=
  history.filterMap fun happening =>
    match happening with
    | (_, .message message) => message
    | _ => none

/-- No message is returned, and no upstream is accepted. -/
def Refuses (happening : Happening Upstream) : Prop :=
  (happening.1 = .next → happening.2 = .message none) ∧
    ∀ upstream, happening.1 = .attach upstream →
      happening.2 = .attached (.error ⟨"The desktop cancelled the request."⟩)

/-- What holds after every run. -/
structure Kept (request : Option Data) (history : List (Happening Upstream))
    (connection : RouterMessages Upstream) : Prop where
  single : connection.singleRequest = request.isSome
  bounded : connection.messages.length ≤ 8
  ordered : returned history ++ connection.messages = request.toList ++ enqueued history
  stops : connection.stopped = true ↔ Stopped history
  detached : connection.stopped = true → connection.upstream = none
  closed : ∀ upstream reply, (.attach upstream, reply) ∈ history →
    upstream ∈ connection.closed ∨ connection.upstream = some upstream
  refuses : history.Pairwise fun earlier later => earlier.1.stops = true → Refuses later
  silent : request = none → (.next, .message none) ∈ history → Stopped history

section Steps

variable {request : Option Data} {history : List (Happening Upstream)}
variable {connection after : RouterMessages Upstream} {happening : Happening Upstream}

theorem stopped_concat :
    Stopped (history ++ [happening]) ↔
      Stopped history ∨ happening.1.stops = true := by
  simp [Stopped, or_and_right, exists_or]

theorem start_kept :
    Kept request [] (start request : RouterMessages Upstream) := by
  refine ⟨rfl, ?_, by simp [returned, enqueued, start],
    by simp [Stopped, start], nofun, by simp, .nil, by simp⟩
  cases request <;> simp [start]

theorem returned_concat
    {action : Action Upstream}
    {reply : Reply} :
    returned (history ++ [(action, reply)]) = returned history ++
      match reply with
      | .message message => message.toList
      | _ => [] := by
  cases reply with
  | message message => cases message <;> simp [returned]
  | _ => simp [returned]

/-- What one action has to keep. -/
theorem Kept.extend
    (kept : Kept request history connection)
    (single : after.singleRequest = connection.singleRequest)
    (bounded : after.messages.length ≤ 8)
    (ordered : returned (history ++ [happening]) ++ after.messages =
      request.toList ++ enqueued (history ++ [happening]))
    (stops : after.stopped = (connection.stopped || happening.1.stops))
    (detached : after.stopped = true → after.upstream = none)
    (closed : ∀ upstream, upstream ∈ connection.closed ∨
      connection.upstream = some upstream ∨ happening.1 = .attach upstream →
      upstream ∈ after.closed ∨ after.upstream = some upstream)
    (refuses : connection.stopped = true → Refuses happening)
    (silent : request = none →
      happening = (.next, .message none) → connection.stopped = true) :
    Kept request (history ++ [happening]) after := by
  have stopped : after.stopped = true ↔ Stopped (history ++ [happening]) := by
    rw [stops, Bool.or_eq_true, kept.stops, stopped_concat]
  refine ⟨single.trans kept.single, bounded, ordered, stopped, detached, ?_, ?_, ?_⟩
  · intro upstream reply member
    refine closed upstream ?_
    rcases List.mem_append.mp member with earlier | now
    · exact (kept.closed upstream reply earlier).imp_right .inl
    · exact .inr (.inr (by rw [← List.mem_singleton.mp now]))
  · refine List.pairwise_append.mpr ⟨kept.refuses, List.pairwise_singleton _ _, ?_⟩
    intro earlier member later same stopping
    rw [List.mem_singleton.mp same]
    exact refuses (kept.stops.mpr ⟨earlier, member, stopping⟩)
  · intro none member
    rcases List.mem_append.mp member with earlier | now
    · exact stopped_concat.mpr (.inl (kept.silent none earlier))
    · exact stopped_concat.mpr
        (.inl (kept.stops.mp (silent none (List.mem_singleton.mp now).symm)))

theorem Kept.step
    (kept : Kept request history connection)
    (acts : connection.act happening.1 = some (happening.2, after)) :
    Kept request (history ++ [happening]) after := by
  obtain ⟨action, reply⟩ := happening
  have ordered := kept.ordered
  have bounded := kept.bounded
  cases action with
  | received message =>
    simp only [act] at acts
    split at acts
    · split at acts <;> cases acts
      · refine kept.extend rfl bounded ?_ (by simp [Action.stops]) kept.detached
          (by simp) (by simp [Refuses]) (by simp)
        simpa [returned_concat, enqueued] using ordered
      · rename_i room
        obtain ⟨runs, few⟩ := not_or.mp room
        refine kept.extend rfl ?_ ?_ (by simp [Action.stops]) kept.detached
          (by simp) (by simp [Refuses]) (by simp)
        · simp only [List.length_append, List.length_singleton]
          omega
        · rw [returned_concat, List.append_nil, ← List.append_assoc, ordered]
          simp [enqueued]
    · cases acts
  | ended =>
    simp only [act] at acts
    split at acts <;> cases acts
    refine kept.extend rfl bounded ?_ (by simp [Action.stops]) kept.detached
      (by simp) (by simp [Refuses]) (by simp)
    simpa [returned_concat, enqueued] using ordered
  | leave =>
    simp only [act] at acts
    split at acts <;> cases acts
    refine kept.extend rfl bounded ?_ (by simp [Action.stops, stop]) (fun _ => rfl)
      (by simp [stop]) (by simp [Refuses]) (by simp)
    simpa [returned_concat, enqueued, stop] using ordered
  | stop =>
    cases acts
    refine kept.extend rfl bounded ?_ (by simp [Action.stops, stop]) (fun _ => rfl)
      (by simp [stop]) (by simp [Refuses]) (by simp)
    simpa [returned_concat, enqueued, stop] using ordered
  | attach upstream =>
    simp only [act, RouterMessages.attach] at acts
    split at acts <;> cases acts
    · rename_i stopped
      refine kept.extend rfl bounded ?_ (by simp [Action.stops]) kept.detached
        (by grind) (by simp [Refuses]) (by simp)
      simpa [returned_concat, enqueued] using ordered
    · rename_i runs
      refine kept.extend rfl bounded ?_
        (by simp [Action.stops]) (fun stopped => absurd stopped runs)
        (by grind) (fun stopped => absurd stopped runs) (by simp)
      simpa [returned_concat, enqueued] using ordered
  | next =>
    obtain ⟨⟨message, rest⟩, nexts, same⟩ := Option.map_eq_some_iff.mp acts
    cases same
    simp only [RouterMessages.next] at nexts
    split at nexts
    · rename_i stopped
      cases nexts
      refine kept.extend rfl bounded ?_ (by simp [Action.stops]) kept.detached
        (by simp) (by simp [Refuses]) (fun _ _ => stopped)
      simpa [returned_concat, enqueued] using ordered
    · rename_i runs
      split at nexts
      · rename_i empty
        split at nexts <;> cases nexts
        rename_i once
        refine kept.extend rfl bounded ?_ (by simp [Action.stops]) kept.detached
          (by simp) (by simp [Refuses]) (fun none => ?_)
        · simpa [returned_concat, enqueued] using ordered
        · rw [kept.single, none] at once
          cases once
      · rename_i message rest held
        cases nexts
        rw [held] at ordered bounded
        refine kept.extend rfl (by simp at bounded ⊢; omega) ?_ (by simp [Action.stops])
          kept.detached (by simp) (fun stopped => absurd stopped runs) (by simp)
        simpa [returned_concat, enqueued] using ordered

theorem kept_of_run (run : Run request history connection) :
    Kept request history connection :=
  Runs.keeps start_kept (fun _ kept acts => kept.step acts) run

variable (kept : Kept request history connection)
include kept

/-- Once a stop has completed, the queue is not looked at any more. -/
theorem Kept.next_of_stopped (stopped : Stopped history) :
    connection.act .next = some (.message none, connection) := by
  simp [act, RouterMessages.next, kept.stops.mpr stopped]

/-- Before that, the head of the queue is returned. -/
theorem Kept.next_of_queued
    {message : Data}
    {rest : List Data}
    (runs : ¬Stopped history)
    (queued : connection.messages = message :: rest) :
    connection.act .next =
      some (.message (some message), { connection with messages := rest }) := by
  have running : connection.stopped = false := by
    rw [← kept.stops] at runs
    exact Bool.eq_false_iff.mpr runs
  simp [act, RouterMessages.next, running, queued]

/-- The worker waits only for a message that the desktop may still send. -/
theorem Kept.next_waits_iff :
    connection.act .next = none ↔
      ¬Stopped history ∧ connection.messages = [] ∧ request = none := by
  rw [← kept.stops]
  simp only [act, RouterMessages.next, kept.single, Option.map_eq_none_iff]
  split
  · rename_i stopped
    simp [stopped]
  · rename_i runs
    cases connection.messages <;> cases request <;> simp [runs]

theorem Kept.attach_of_stopped
    (stopped : Stopped history)
    (upstream : Upstream) :
    connection.act (.attach upstream) =
      some (.attached (.error ⟨"The desktop cancelled the request."⟩),
        { connection with closed := connection.closed ++ [upstream] }) := by
  simp [act, RouterMessages.attach, kept.stops.mpr stopped]

theorem Kept.closed_of_stopped
    (stopped : Stopped history)
    (upstream : Upstream)
    (reply : Reply)
    (member : (.attach upstream, reply) ∈ history) :
    upstream ∈ connection.closed := by
  rcases kept.closed upstream reply member with closed | attached
  · exact closed
  · rw [kept.detached (kept.stops.mpr stopped)] at attached
    cases attached

end Steps

end RouterMessages

open RouterMessages in
/-- However the calls are interleaved, at most eight messages wait, and `next`
returns them in order and each once.  It waits only if nothing is queued and
nothing was stopped.  Once a stop has completed, every `next` returns nil, every
upstream that was ever attached is closed, and a later one is refused and
closed. -/
theorem stopped_connection_leaves_no_upstream_open
    {Upstream : Type}
    (request : Option Data)
    (history : List (Happening Upstream))
    (connection : RouterMessages Upstream)
    (run : Run request history connection) :
    connection.messages.length ≤ 8 ∧
      returned history ++ connection.messages =
        request.toList ++ enqueued history ∧
      (¬Stopped history → ∀ message rest, connection.messages = message :: rest →
        connection.act .next =
          some (.message (some message), { connection with messages := rest })) ∧
      (connection.act .next = none ↔
        ¬Stopped history ∧ connection.messages = [] ∧ request = none) ∧
      (request = none → (.next, .message none) ∈ history → Stopped history) ∧
      (history.Pairwise fun earlier later =>
        earlier.1.stops = true → Refuses later) ∧
      (Stopped history →
        connection.act .next = some (.message none, connection) ∧
          (∀ upstream, connection.act (.attach upstream) =
            some (.attached (.error ⟨"The desktop cancelled the request."⟩),
              { connection with closed := connection.closed ++ [upstream] })) ∧
          ∀ upstream reply, (.attach upstream, reply) ∈ history →
            upstream ∈ connection.closed) := by
  have kept := kept_of_run run
  exact ⟨kept.bounded, kept.ordered, fun runs _ _ => kept.next_of_queued runs,
    kept.next_waits_iff, kept.silent, kept.refuses, fun stopped =>
    ⟨kept.next_of_stopped stopped, kept.attach_of_stopped stopped,
      kept.closed_of_stopped stopped⟩⟩

open RouterMessages in
/-- A queued message is returned, the next call waits, and a stop ends the wait
and closes the upstream that was attached meanwhile. -/
theorem stop_closes_attached_upstream :
    ∃ queued waiting stopped : RouterMessages Nat,
      Run none [(.received [1], .queued true)] queued ∧
        queued.act .next = some (.message (some [1]), waiting) ∧
        waiting.act .next = none ∧
        Run none [(.received [1], .queued true), (.next, .message (some [1])),
          (.attach 7, .attached (.ok ())), (.stop, .unit)] stopped ∧
        stopped.act .next = some (.message none, stopped) ∧
        7 ∈ stopped.closed := by
  have first : Run none [(.received [1], .queued true)] (_ : RouterMessages Nat) :=
    Runs.start.extend rfl
  have second : Run none [(.received [1], .queued true), (.next, .message (some [1]))] _ :=
    first.extend rfl
  have last : Run none [(.received [1], .queued true), (.next, .message (some [1])),
      (.attach 7, .attached (.ok ())), (.stop, .unit)] _ :=
    (second.extend rfl).extend rfl
  obtain ⟨-, -, returns, -⟩ := stopped_connection_leaves_no_upstream_open none _ _ first
  obtain ⟨-, -, -, waits, -⟩ := stopped_connection_leaves_no_upstream_open none _ _ second
  obtain ⟨-, -, -, -, -, -, ends⟩ := stopped_connection_leaves_no_upstream_open none _ _ last
  obtain ⟨silent, -, closed⟩ := ends ⟨(.stop, .unit), by simp, rfl⟩
  exact ⟨_, _, _, first, returns (by simp [Stopped, Action.stops]) [1] [] rfl,
    waits.mpr ⟨by simp [Stopped, Action.stops], rfl, rfl⟩, last, silent,
    closed 7 (.attached (.ok ())) (by simp)⟩

end Turnrail
