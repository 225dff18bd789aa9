import Turnrail.Interleaving.Simulation
import Turnrail.Runtime.Workers

/-!
# Executing the router

The router can be executed once the environment's choices are given: the
outcomes of file writes, the clock, and the replies that the router does not
determine itself.  Every execution is a run, so facts about concrete runs can be
evaluated.
-/

namespace Turnrail

open Interleaving

/-- What the environment decides while one effect is performed. -/
structure Circumstances where
  writes : List WriteOutcome := []
  now : Date := 0
  reply : (effect : Effect) → effect.Reply

/-- Perform an effect under given circumstances.  There is no result if the
circumstances offer a reply that cannot happen. -/
def World.perform (host : Foundation) (circumstances : Circumstances)
    (thread : Nat) (world : World) : (effect : Effect) → Option (effect.Reply × World)
  | .ledger call =>
    world.memory.map fun state =>
      let result := RouterLedger.call (call.run host) ⟨state, world.disk⟩ circumstances.writes
      (result.1,
        { world with memory := some result.2.state, disk := result.2.disk })
  | .accountBound id =>
    match circumstances.reply (.accountBound id) with
    | .ok snapshot => if snapshot.accountID = id then some (.ok snapshot, world) else none
    | .error error => some (.error error, world)
  | .nextMessage =>
    some (if world.stopped thread then none
      else circumstances.reply .nextMessage, world)
  | .connect transport account headers =>
    let connection := circumstances.reply (.connect transport account headers)
    if connection.accountID = account.accountID ∧
      connection.generation ∉ world.generations then
      some (connection,
        { world with
          generations := connection.generation :: world.generations })
    else none
  | .attach _ =>
    some (if world.stopped thread then
        .error (.failure ⟨"The desktop cancelled the request."⟩)
      else .ok (), world)
  | .send connection payload fingerprint turn =>
    some (circumstances.reply (.send connection payload fingerprint turn),
      { world with
        service := world.service.submit connection.generation payload })
  | .receive connection =>
    let reply := circumstances.reply (.receive connection)
    some (reply,
      match reply with
      | .ok rawEvent =>
        match RouterJSON.object host rawEvent with
        | .ok event => { world with
            service := world.service.emit connection.generation event }
        | .error _ => world
      | .error _ => world)
  | .validate request catalog =>
    some (RouterModelCatalog.validate .plain request catalog, world)
  | .readFailure event => some (RouterServiceFailure.of host event circumstances.now, world)
  | .isStopped => some (world.stopped thread, world)
  | .waitForRecovery _ => some (!world.stopped thread, world)
  | .stopMessages => some ((), world.stop thread)
  | .lockHook =>
    if world.hookOwner = none then
      some ((), { world with hookOwner := some thread })
    else none
  | .unlockHook => some ((), { world with hookOwner := none })
  | effect => some (circumstances.reply effect, world)

theorem World.perform_exec
    {host : Foundation}
    {circumstances : Circumstances}
    {thread : Nat}
    {world after : World}
    {effect : Effect}
    {reply : effect.Reply}
    (performed :
      world.perform host circumstances thread effect = some (reply, after)) :
    World.exec host thread world effect reply after := by
  cases effect with
  | ledger call =>
    obtain ⟨state, running, same⟩ := Option.map_eq_some_iff.mp performed
    cases same
    exact ⟨state, _, circumstances.writes, running, rfl, rfl⟩
  | accountBound id =>
    simp only [World.perform] at performed
    split at performed
    · split at performed
      · rename_i snapshot _ same
        cases performed
        refine ⟨?_, rfl⟩
        rintro _ ⟨⟩
        exact same
      · cases performed
    · cases performed
      exact ⟨by rintro _ ⟨⟩, rfl⟩
  | nextMessage =>
    cases performed
    exact ⟨fun stopped => by rw [if_pos stopped], rfl⟩
  | connect transport account headers =>
    simp only [World.perform] at performed
    split at performed
    · rename_i fresh
      cases performed
      exact ⟨fresh.1, fresh.2, rfl⟩
    · cases performed
  | lockHook =>
    simp only [World.perform] at performed
    split at performed
    · rename_i free
      cases performed
      exact ⟨free, rfl⟩
    · cases performed
  | readFailure event =>
    cases performed
    exact ⟨⟨circumstances.now, rfl⟩, rfl⟩
  | attach | validate | isStopped | waitForRecovery =>
    cases performed
    exact ⟨rfl, rfl⟩
  | _ =>
    cases performed
    rfl

/-- A worker starts with empty variables. -/
def Point.starts : Point → Bool
  | .route _ _ store =>
    store.upstream.isNone && store.currentTurn.isNone &&
      store.submitted.isNone && store.progress.isNone
  | .receive _ _ _ _ => false
  | _ => true

theorem Point.starts_entry
    {point : Point}
    (starts : point.starts = true) :
    point.entry := by
  cases point with
  | route transport headers store =>
    obtain ⟨upstream, currentTurn, submitted, progress⟩ := store
    simp only [Point.starts, Bool.and_eq_true, Option.isNone_iff_eq_none] at starts
    obtain ⟨⟨⟨rfl, rfl⟩, rfl⟩, rfl⟩ := starts
    rfl
  | receive => cases starts
  | _ => trivial

/-- Open the ledger in a new process. -/
def World.reopen (circumstances : Circumstances) (world : World) : World :=
  let (result, disk) := RouterLedger.init world.disk circumstances.writes
  { world with
    memory := result.toOption.map Ledger.state
    disk := disk
    hookOwner := none }

/-- The executor of the machine, for threads that start where they may.  The
Engine connection that closes is the one of the thread named with the
circumstances. -/
def executing (host : Foundation) (starts : Place → Bool)
    (starts_sound : ∀ {point}, starts point = true → entry point) :
    Executor (machine host) entry where
  Choice := Nat × Circumstances
  starts := starts
  exec choice thread world effect := world.perform host choice.2 thread effect
  drift choice world := some (world.stop choice.1)
  reset choice world := some (world.reopen choice.2)
  starts_sound := starts_sound
  exec_sound := World.perform_exec
  drift_sound {choice world after} drifts := by
    cases drifts
    exact ⟨choice.1, rfl⟩
  reset_sound {choice world after} resets := by
    cases resets
    exact ⟨choice.2.writes, _, _, rfl, rfl⟩

/-- The machine with its circumstances. -/
def execution (host : Foundation) :
    Executor (machine host) Point.entry :=
  executing host Point.starts Point.starts_entry

/-- A request. -/
def Rehearsal.body : Object :=
  [("type", .string "response.create"), ("model", .string "model"),
    ("input", .array [.object [("text", .string "question")]]),
    ("client_metadata", .object [("x-codex-turn-metadata", .string "metadata")])]

/-- The metadata of a turn. -/
def Rehearsal.metadata : Object :=
  [("request_kind", .string "turn"), ("thread_id", .string "task"),
    ("turn_id", .string "turn")]

/-- The end of a response. -/
def Rehearsal.completed : Object :=
  [("type", .string "response.completed"), ("response", .object [("id", .string "answer")])]

/-- A prompt. -/
def Rehearsal.prompt : Object :=
  [("session_id", .string "task"), ("turn_id", .string "turn"),
    ("hook_event_name", .string "UserPromptSubmit"),
    ("cwd", .string "/folder")]

/-- A platform that reads the request, its metadata, the event that completes
the response and one that tells of an expired connection. -/
def Rehearsal.host : Foundation where
  jsonObject bytes :=
    if bytes = [0] then some (.object body)
    else if bytes = [1] then some (.object completed)
    else if bytes = [2] then
      some (.object RouterServiceFailure.connectionLimitRetryEvent)
    else if bytes = utf8 "metadata" then some (.object metadata)
    else none
  jsonData _ := []
  sha256 _ := .replicate 32 0
  parseDate _ := none
  formatDate _ := ""
  segmentation := Text.diacritics

/-- The digest of everything. -/
def Rehearsal.digest : String := RouterJSON.hash host []

/-- An account. -/
def Rehearsal.account : RouterAccountSnapshot where
  accountID := ⟨1⟩
  models := [[("slug", .string "model")]]

/-- Replies to one worker: the Engine sends the request, and everything works
except for what the connection delivers. -/
def Rehearsal.replies (generation : String)
    (incoming : Except RouterError Data) : (effect : Effect) → effect.Reply
  | .ledger _ => .error (.failure ⟨""⟩)
  | .select _ | .accountBound _ => .ok account
  | .canonical path => .ok path
  | .recordLastUsed _ | .attach _ | .frame _ | .reject _ _ => .ok ()
  | .nextMessage => some [0]
  | .connect _ account _ => ⟨generation, account.accountID⟩
  | .checkConnection _ | .send _ _ _ _ => .ok ()
  | .receive _ => incoming
  | .search _ _ _ _ _ => .ok []
  | .isStopped | .waitForRecovery _ => true
  | .recordTransport _ | .recordService _ _ _ => .ok "reference"
  | .validate _ _ => .ok ()
  | .readFailure _ => .error ⟨""⟩
  | .newUUID => "uuid"
  | .close _ | .stopMessages | .reportFailure _ | .lockHook | .unlockHook => ()

/-- A lost connection. -/
def Rehearsal.lost : RouterTransportFailure :=
  .of .receive (some (.url, -1005)) 0

/-- A connection that was closed here. -/
def Rehearsal.closed : RouterTransportFailure :=
  { RouterTransportFailure.of .receive none 0 with cause := .localClose }

/-- The Engine does not receive a message. -/
def Rehearsal.undelivered (incoming : Data) :
    (effect : Effect) → effect.Reply
  | .frame _ => .error (.failure ⟨"The connection is closed."⟩)
  | effect => replies "" (.ok incoming) effect

/-- A script of threads. -/
abbrev Script (Place : Type) := List (Command (Nat × Circumstances) Place)

/-- Run a thread for some steps. -/
def Script.go (thread steps : Nat) (reply : (effect : Effect) → effect.Reply) :
    Script Place :=
  List.replicate steps (.run thread (thread, { reply }))

/-- The router starts and a prompt binds the turn. -/
def Rehearsal.prelude : Script Point :=
  [.restart (0, { reply := replies "" (.ok []) }), .spawn 0 (.hook prompt)] ++
    Script.go 0 7 (replies "" (.ok []))

/-- A thread submits the request. -/
def Rehearsal.submission (thread : Nat) (generation : String) :
    Script Point :=
  .spawn thread (.route .webSocket [] {}) :: Script.go thread 10 (replies generation (.ok [1]))

/-- What is seen of a performed effect. -/
def observed (observe : Effect → Option α)
    (moment : Moment router Point World) : Option α :=
  match moment.event with
  | .performed _ effect _ => observe effect
  | _ => none

/-- An effect with a given value is performed. -/
def observing [DecidableEq α] (observe : Effect → Option α) (value : α) :
    Goal (Moment router Point World) where
  wanted moment := decide (observed observe moment = some value)

theorem performed_of_observing
    [DecidableEq α]
    {observe : Effect → Option α}
    {value : α}
    {moment : Moment router Point World}
    (reached : (observing observe value).wanted moment = true) :
    ∃ thread effect reply, moment.event = .performed thread effect reply ∧
      observe effect = some value := by
  have seen : observed observe moment = some value := of_decide_eq_true reached
  unfold observed at seen
  split at seen
  · rename_i thread effect reply happened
    exact ⟨thread, effect, reply, happened, seen⟩
  · cases seen

theorem Rehearsal.run
    (script : Script Point)
    (goals : List (Goal (Moment router Point World)))
    (rest : Moment router Point World → Bool)
    (passes : ((Pool.idle World.start).simulate (execution host)
      (Point.code host) script).any
        (fun result => visits goals rest result.1) = true) :
    ∃ trace pool, RouterRun host trace pool ∧ visits goals rest trace = true :=
  Pool.rehearse (execution host) script (visits goals rest) passes

end Turnrail
