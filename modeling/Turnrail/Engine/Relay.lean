import Turnrail.Engine.Helper
import Turnrail.Engine.Observer
import Turnrail.Interleaving.Runs

/-!
# Relaying messages between the desktop and the Engine

One loop takes messages from the desktop to the Engine and another one takes
messages back.  They share the pending title requests, which the observer keeps
under a lock.  A title task must be registered before the desktop learns its
identity, so the answer that names the task waits for the registration.
-/

namespace Turnrail

open Interleaving List
open RouterEngineObserver (Duty request response startsTitle)

/-- The methods before which the browser plugin is synchronized. -/
def RouterHelperConfiguration.loadingMethods : List String :=
  ["thread/start", "thread/resume", "thread/fork", "config/mcpServer/reload",
    "mcpServerStatus/list"]

namespace Relay

/-- Where the loop from the desktop stands.  An admitted message is delivered as
it was prepared. -/
inductive Input
  | reading
  | delivering (prepared : Object)
  | refusing (id : Json) (error : RouterFailure)
  | stopped

/-- Where the loop from the Engine stands. -/
inductive Output
  | reading
  | registering (message thread : Object)
  | forwarding (message : Object)
  | failing (id : Json) (error : RouterFailure)
  | stopped

/-- What either loop does. -/
inductive Event
  | admitted (message : Object)
  | refused (message : Object) (error : RouterFailure)
  | delivered (prepared : Object)
  | replied (id : Json) (error : RouterFailure)
  | received (message : Object)
  | registered (thread : Object) (failure : Option RouterFailure)
  | forwarded (message : Object)
  | failed (id : Json) (error : RouterFailure)
  | inputStopped
  | outputStopped

/-- What the loop from the Engine does with a message after looking at it. -/
def Event.isOutput : Event → Bool
  | .registered _ _ => true
  | .forwarded _ => true
  | .failed _ _ => true
  | _ => false

end Relay

/-- The two loops and the pending title requests. -/
structure Relay where
  titles : List String
  input : Relay.Input
  output : Relay.Output

namespace Relay

variable (texts : Texts)

/-- Both loops read and nothing is pending. -/
def start : Relay := ⟨[], .reading, .reading⟩

/-- The plugin is synchronized before a message. -/
def loads (message : Object) : Bool :=
  match (message.get "method").bind Json.asString with
  | some method => RouterHelperConfiguration.loadingMethods.contains method
  | none => false

/-- A message is refused by the observer, or because the plugin could not be
synchronized. -/
def Refuses (titles : List String) (message : Object) (error : RouterFailure) :
    Prop :=
  request texts titles message = .error error ∨ loads message = true

/-- Where the loop goes after an error. -/
def Input.afterError (message : Object) (error : RouterFailure) : Input :=
  match message.get "id" with
  | some id => .refusing id error
  | none => .stopped

/-- What follows an error about a message of the Engine.  It belongs to the
request that was answered, not to every active task. -/
def Output.afterError (message : Object) (error : RouterFailure) : Output :=
  match message.get "method", message.get "id" with
  | none, some id => .failing id error
  | _, _ => .stopped

/-- What follows the observer's look at a message of the Engine. -/
def Output.after (message : Object) : Duty → Output
  | .forward => .forwarding message
  | .register thread => .registering message thread
  | .fail error => .afterError message error

section Steps

variable (router engine : String)

/-- One step of either loop.  Messages come from outside in any order, the
registration of a task may fail, and reading or writing may end a loop. -/
inductive Step : Relay → Event → Relay → Prop
  | accept {titles pending output} (message : Object) :
      request texts titles message = .ok pending →
      Step ⟨titles, .reading, output⟩ (.admitted message)
        ⟨pending,
          .delivering (RouterHelperConfiguration.prepare texts router engine message), output⟩
  | refuse {titles output} (message : Object) (error : RouterFailure) :
      Refuses texts titles message error →
      Step ⟨titles, .reading, output⟩ (.refused message error)
        ⟨titles, .afterError message error, output⟩
  | deliver {titles output} (prepared : Object) :
      Step ⟨titles, .delivering prepared, output⟩ (.delivered prepared)
        ⟨titles, .reading, output⟩
  | reply {titles output} (id : Json) (error : RouterFailure) :
      Step ⟨titles, .refusing id error, output⟩ (.replied id error) ⟨titles, .reading, output⟩
  | stopInput {titles input output} :
      Step ⟨titles, input, output⟩ .inputStopped ⟨titles, .stopped, output⟩
  | receive {titles input} (message : Object) :
      Step ⟨titles, input, .reading⟩ (.received message)
        ⟨(response texts titles message).2, input,
          .after message (response texts titles message).1⟩
  | register {titles input} (message thread : Object) :
      Step ⟨titles, input, .registering message thread⟩
        (.registered thread none) ⟨titles, input, .forwarding message⟩
  | reject {titles input} (message thread : Object) (error : RouterFailure) :
      Step ⟨titles, input, .registering message thread⟩ (.registered thread (some error))
        ⟨titles, input, .afterError message error⟩
  | forward {titles input} (message : Object) :
      Step ⟨titles, input, .forwarding message⟩ (.forwarded message) ⟨titles, input, .reading⟩
  | fail {titles input} (id : Json) (error : RouterFailure) :
      Step ⟨titles, input, .failing id error⟩ (.failed id error) ⟨titles, input, .reading⟩
  | stopOutput {titles input output} :
      Step ⟨titles, input, output⟩ .outputStopped ⟨titles, input, .stopped⟩

/-- What happens from the start of the relay. -/
abbrev Run (history : List Event) (relay : Relay) : Prop :=
  Runs (Step texts router engine) start history relay

end Steps

/-- A request of the desktop. -/
def asks (message : Object) : Bool :=
  ((message.get "method").bind Json.asString).isSome && (message.get "id").isSome

/-- A message starts a title task. -/
def startsTitleTask (message : Object) : Bool :=
  match (message.get "method").bind Json.asString,
      (message.get "params").bind Json.asObject with
  | some method, some params => startsTitle method params
  | _, _ => false

/-- An answer of the Engine, as opposed to its notifications and its own
requests. -/
def isAnswer (message : Object) : Bool :=
  (message.get "method").isNone && (message.get "id").isSome

/-- Messages with the same identity. -/
def SameID (first second : Object) : Prop :=
  ∃ key other, RouterEngineObserver.id first = .ok key ∧
    RouterEngineObserver.id second = .ok other ∧
    texts.same key other = true

/-- A message answers a request. -/
def Answers (message asked : Object) : Prop :=
  isAnswer message = true ∧ SameID texts message asked

/-- A request was let pass and is not answered yet. -/
def Outstanding (history : List Event) (asked : Object) : Prop :=
  asks asked = true ∧ ∃ before after, history = before ++ .admitted asked :: after ∧
      ∀ message, .received message ∈ after → ¬ Answers texts message asked

/-- Requests that wait for an answer at the same time have different
identities. -/
def DistinctRequests (history : List Event) : Prop :=
  ∀ before asked after, history = before ++ .admitted asked :: after → asks asked = true →
    ∀ earlier, Outstanding texts before earlier → ¬ SameID texts asked earlier

/-- The task an answer names. -/
def namedThread (message : Object) : Except RouterFailure Object :=
  RouterJSON.map message "result" >>= fun result => RouterJSON.map result "thread"

variable {texts}

theorem SameID.symm
    {first second : Object}
    (same : SameID texts first second) :
    SameID texts second first := by
  obtain ⟨key, other, one, two, equal⟩ := same
  exact ⟨other, key, two, one, by rw [texts.same_comm]; exact equal⟩

theorem SameID.trans
    {first second third : Object}
    (left : SameID texts first second)
    (right : SameID texts second third) :
    SameID texts first third := by
  obtain ⟨key, middle, one, two, equal⟩ := left
  obtain ⟨again, other, three, four, same⟩ := right
  rw [two] at three
  cases three
  refine ⟨key, other, one, four, ?_⟩
  simp only [Texts.same, beq_iff_eq] at equal same ⊢
  exact equal.trans same

theorem outstanding_concat
    (history : List Event)
    (event : Event)
    (asked : Object) :
    Outstanding texts (history ++ [event]) asked ↔
      Outstanding texts history asked ∧ (∀ message, event = .received message →
        ¬ Answers texts message asked) ∨
      event = .admitted asked ∧ asks asked = true := by
  constructor
  · rintro ⟨isRequest, before, after, whole, unanswered⟩
    rcases eq_nil_or_concat after with rfl | ⟨rest, last, rfl⟩
    · obtain ⟨-, same⟩ := append_inj' whole rfl
      cases same
      exact .inr ⟨rfl, isRequest⟩
    · rw [concat_eq_append, ← cons_append, ← append_assoc] at whole
      obtain ⟨rfl, same⟩ := append_inj' whole rfl
      cases same
      refine .inl ⟨⟨isRequest, before, rest, rfl, ?_⟩, ?_⟩
      · intro message member
        exact unanswered message (by simp [member])
      · rintro message rfl
        exact unanswered message (by simp)
  · rintro (⟨⟨isRequest, before, after, rfl, unanswered⟩, passes⟩ | ⟨rfl, isRequest⟩)
    · refine ⟨isRequest, before, after ++ [event], by simp, ?_⟩
      intro message member
      rcases mem_append.mp member with member | member
      · exact unanswered message member
      · exact passes message (mem_singleton.mp member).symm
    · exact ⟨isRequest, history, [], rfl, by simp⟩

theorem DistinctRequests.earlier
    {before after : List Event}
    (distinct : DistinctRequests texts (before ++ after)) :
    DistinctRequests texts before := by
  rintro first asked rest rfl
  exact distinct first asked (rest ++ after) (by simp)

variable {router engine : String} {history : List Event} {titles : List String}
variable {relay : Relay} {duty : Duty} {events : List Event} {message thread : Object}

theorem DistinctRequests.unique
    (distinct : DistinctRequests texts history)
    {first second : Object}
    (one : Outstanding texts history first)
    (two : Outstanding texts history second)
    (same : SameID texts first second) :
    first = second := by
  induction history using reverseRecOn with
  | nil =>
    obtain ⟨-, before, after, whole, -⟩ := one
    simp at whole
  | append_singleton history event ih =>
    rcases (outstanding_concat history event first).mp one with
      ⟨firstBefore, -⟩ | ⟨rfl, asksFirst⟩
    · rcases (outstanding_concat history event second).mp two with
        ⟨secondBefore, -⟩ | ⟨rfl, asksSecond⟩
      · exact ih distinct.earlier firstBefore secondBefore
      · exact absurd same.symm (distinct history second [] rfl asksSecond first firstBefore)
    · rcases (outstanding_concat history _ second).mp two with
        ⟨secondBefore, -⟩ | ⟨again, -⟩
      · exact absurd same (distinct history first [] rfl asksFirst second secondBefore)
      · cases again
        rfl

/-- A message of the Engine carries the identity of a pending request. -/
def removes (texts : Texts) (message : Object) (title : String) : Bool :=
  isAnswer message &&
    match RouterEngineObserver.id message with
    | .ok key => texts.same key title
    | .error _ => false

theorem answers_iff (message asked : Object) :
    Answers texts message asked ↔
      ∃ key, RouterEngineObserver.id asked = .ok key ∧
      removes texts message key = true := by
  unfold Answers SameID removes
  cases RouterEngineObserver.id message with
  | error error => simp
  | ok own =>
    simp only [Except.ok.injEq, Bool.and_eq_true]
    constructor
    · rintro ⟨answer, key, other, rfl, identity, same⟩
      exact ⟨other, identity, answer, same⟩
    · rintro ⟨key, identity, answer, same⟩
      exact ⟨answer, own, key, rfl, identity, same⟩

theorem request_titles
    {titles pending : List String}
    (passes : request texts titles message = .ok pending) :
    startsTitleTask message = true ∧ (∃ key,
        RouterEngineObserver.id message = .ok key ∧ pending = key :: titles) ∨
      startsTitleTask message = false ∧ pending = titles := by
  unfold request at passes
  unfold startsTitleTask
  cases hasMethod : (message.get "method").bind Json.asString with
  | none =>
    rw [hasMethod] at passes
    cases passes
    exact .inr ⟨rfl, rfl⟩
  | some method =>
    rw [hasMethod] at passes
    cases hasParams : (message.get "params").bind Json.asObject with
    | none =>
      rw [hasParams] at passes
      cases passes
      exact .inr ⟨rfl, rfl⟩
    | some params =>
      rw [hasParams] at passes
      obtain ⟨-, -, passes⟩ := bind_eq_ok.mp passes
      obtain ⟨-, -, passes⟩ := bind_eq_ok.mp passes
      obtain ⟨-, -, passes⟩ := bind_eq_ok.mp passes
      split at passes
      · rename_i title
        obtain ⟨key, identity, passes⟩ := bind_eq_ok.mp passes
        split at passes
        · cases passes
        · cases passes
          exact .inl ⟨title, key, identity, rfl⟩
      · rename_i other
        cases passes
        exact .inr ⟨by simpa using other, rfl⟩

theorem response_titles
    (titles : List String)
    (message : Object) :
    (response texts titles message).2 =
      titles.filter fun title => !removes texts message title := by
  have untouched (none : ∀ title ∈ titles, removes texts message title = false) :
      titles = titles.filter fun title => !removes texts message title := by
    refine (filter_eq_self.mpr fun title member => ?_).symm
    rw [none title member]
    rfl
  unfold response
  split
  · rename_i other
    refine untouched fun title _ => ?_
    simp only [removes, isAnswer, Bool.and_eq_false_imp]
    intro answer
    simp_all
  · rename_i answer
    have isOne : isAnswer message = true := by
      simpa [isAnswer, Option.isSome_iff_ne_none] using answer
    split
    · rename_i error invalid
      exact untouched fun title _ => by simp [removes, invalid]
    · rename_i key identity
      have reads (title : String) : removes texts message title = texts.same key title := by
        simp [removes, isOne, identity]
      simp only [reads] at untouched ⊢
      split
      · split
        · rfl
        · split <;> rfl
      · rename_i absent
        exact untouched (by simpa using absent)

theorem asks_of_title
    {key : String}
    (title : startsTitleTask message = true)
    (identity : RouterEngineObserver.id message = .ok key) :
    asks message = true := by
  unfold startsTitleTask at title
  unfold RouterEngineObserver.id at identity
  unfold asks
  cases hasMethod : (message.get "method").bind Json.asString with
  | none => simp [hasMethod] at title
  | some method =>
    cases hasID : message.get "id" with
    | none => simp [hasID] at identity
    | some value => rfl

/-- The pending requests are the title requests that wait for an answer. -/
def Pending (texts : Texts) (history : List Event) (titles : List String) :
    Prop :=
  ∀ key, key ∈ titles ↔ ∃ asked, Outstanding texts history asked ∧
    startsTitleTask asked = true ∧ RouterEngineObserver.id asked = .ok key

theorem Pending.quiet
    (pending : Pending texts history titles)
    {event : Event}
    (letsNonePass : ∀ message, event ≠ .admitted message)
    (answersNone : ∀ message, event ≠ .received message) :
    Pending texts (history ++ [event]) titles := by
  intro key
  rw [pending key]
  refine exists_congr fun asked => and_congr_left fun _ => ?_
  rw [outstanding_concat]
  constructor
  · intro waits
    exact .inl ⟨waits, fun message same => absurd same (answersNone message)⟩
  · rintro (⟨waits, -⟩ | ⟨same, -⟩)
    · exact waits
    · exact absurd same (letsNonePass asked)

theorem Pending.accept
    {titles added : List String}
    (pending : Pending texts history titles)
    (passes : request texts titles message = .ok added) :
    Pending texts (history ++ [.admitted message]) added := by
  intro key
  have waiting (asked : Object) :
      Outstanding texts (history ++ [.admitted message]) asked ↔
        Outstanding texts history asked ∨
          message = asked ∧ asks asked = true := by
    rw [outstanding_concat]
    simp
  simp only [waiting]
  obtain ⟨title, own, identity, rfl⟩ | ⟨other, rfl⟩ := request_titles passes
  · rw [mem_cons, pending key]
    constructor
    · rintro (rfl | ⟨asked, waits, rest⟩)
      · exact ⟨message, .inr ⟨rfl, asks_of_title title identity⟩, title, identity⟩
      · exact ⟨asked, .inl waits, rest⟩
    · rintro ⟨asked, waits | ⟨rfl, -⟩, isTitle, itsKey⟩
      · exact .inr ⟨asked, waits, isTitle, itsKey⟩
      · rw [identity] at itsKey
        cases itsKey
        exact .inl rfl
  · rw [pending key]
    constructor
    · rintro ⟨asked, waits, rest⟩
      exact ⟨asked, .inl waits, rest⟩
    · rintro ⟨asked, waits | ⟨rfl, -⟩, isTitle, itsKey⟩
      · exact ⟨asked, waits, isTitle, itsKey⟩
      · rw [other] at isTitle
        cases isTitle

theorem Pending.receive
    (pending : Pending texts history titles)
    (message : Object) :
    Pending texts
      (history ++ [.received message]) (response texts titles message).2 := by
  intro key
  rw [response_titles, mem_filter, pending key]
  simp only [outstanding_concat, answers_iff, Event.received.injEq,
    reduceCtorEq, false_and, or_false, forall_eq']
  constructor
  · rintro ⟨⟨asked, waits, title, identity⟩, stays⟩
    refine ⟨asked, ⟨waits, ?_⟩, title, identity⟩
    rintro ⟨other, itsKey, removed⟩
    rw [identity] at itsKey
    cases itsKey
    simp [removed] at stays
  · rintro ⟨asked, ⟨waits, unanswered⟩, title, identity⟩
    refine ⟨⟨asked, waits, title, identity⟩, ?_⟩
    simpa using fun removed => unanswered ⟨key, identity, removed⟩

theorem Run.pending (run : Run texts router engine history relay) :
    Pending texts history relay.titles := by
  refine @Runs.keeps _ _ _ _ _ (fun history relay =>
    Pending texts history relay.titles) ?_ ?_ _ run
  · intro key
    simp [start, Outstanding]
  · intro history event state next _ pending taken
    cases taken with
    | accept message passes => exact pending.accept passes
    | receive message => exact pending.receive message
    | _ => exact pending.quiet (by simp) (by simp)

/-- Everything the loop from the Engine does with a message. -/
inductive Whole (message : Object) : Duty → List Event → Prop
  | forwarded : Whole message .forward [.forwarded message]
  | told (thread : Object) :
      Whole message (.register thread) [.registered thread none, .forwarded message]
  | reported (thread : Object) (id : Json) (error : RouterFailure) :
      message.get "id" = some id →
      Whole message (.register thread) [.registered thread (some error), .failed id error]
  | failed (id : Json) (error : RouterFailure) :
      message.get "id" = some id →
      Whole message (.fail error) [.failed id error]

/-- How far the loop from the Engine has come with a message, by what it did
with it so far. -/
inductive Progress (message : Object) : Duty → List Event → Output → Prop
  | forwarding : Progress message .forward [] (.forwarding message)
  | registering (thread : Object) :
      Progress message (.register thread) [] (.registering message thread)
  | accepted (thread : Object) :
      Progress message (.register thread) [.registered thread none] (.forwarding message)
  | rejected (thread : Object) (id : Json) (error : RouterFailure) :
      message.get "id" = some id →
      Progress message (.register thread) [.registered thread (some error)] (.failing id error)
  | failing (id : Json) (error : RouterFailure) :
      message.get "id" = some id →
      Progress message (.fail error) [] (.failing id error)
  | finished {duty : Duty} {events : List Event} :
      Whole message duty events →
      Progress message duty events .reading
  | stopped {duty : Duty} {events : List Event} (rest : List Event) :
      Whole message duty (events ++ rest) →
      Progress message duty events .stopped

theorem Progress.begins
    {output : Output}
    (progress : Progress message duty events output) :
    ∃ rest, Whole message duty (events ++ rest) := by
  cases progress with
  | forwarding => exact ⟨_, .forwarded⟩
  | registering thread => exact ⟨_, .told thread⟩
  | accepted thread => exact ⟨_, .told thread⟩
  | rejected thread id error hasID => exact ⟨_, .reported thread id error hasID⟩
  | failing id error hasID => exact ⟨_, .failed id error hasID⟩
  | finished whole => exact ⟨[], by rwa [append_nil]⟩
  | stopped rest whole => exact ⟨rest, whole⟩

theorem not_skipped (answer : isAnswer message = true) :
    ¬ ((message.get "method").isSome || (message.get "id").isNone) = true := by
  obtain ⟨noMethod, hasID⟩ := Bool.and_eq_true_iff.mp answer
  simpa [Option.isSome_iff_ne_none] using And.intro noMethod hasID

theorem afterError_of_answer
    (answer : isAnswer message = true)
    (error : RouterFailure) :
    ∃ id, message.get "id" = some id ∧
      Output.afterError message error = .failing id error := by
  obtain ⟨noMethod, hasID⟩ := Bool.and_eq_true_iff.mp answer
  obtain ⟨id, hasID⟩ := Option.isSome_iff_exists.mp hasID
  refine ⟨id, hasID, ?_⟩
  simp [Output.afterError, Option.isNone_iff_eq_none.mp noMethod, hasID]

theorem Progress.step
    {message : Object}
    {duty : Duty}
    {events : List Event}
    {relay next : Relay}
    {event : Event}
    (answer : isAnswer message = true ∨ duty = .forward)
    (progress : Progress message duty events relay.output)
    (taken : Step texts router engine relay event next)
    (same : ∀ other, event ≠ .received other) :
    Progress message duty
      (events ++ [event].filter Event.isOutput) next.output := by
  cases taken with
  | register other thread =>
    cases progress
    exact .accepted thread
  | reject other thread error =>
    cases progress
    obtain answer | forwards := answer
    · obtain ⟨id, hasID, fails⟩ := afterError_of_answer answer error
      change Progress message _ _ (Output.afterError message error)
      rw [fails]
      exact .rejected thread id error hasID
    · cases forwards
  | forward other =>
    cases progress with
    | forwarding => exact .finished .forwarded
    | accepted thread => exact .finished (.told thread)
  | fail id error =>
    cases progress with
    | rejected thread _ _ hasID => exact .finished (.reported thread id error hasID)
    | failing _ _ hasID => exact .finished (.failed id error hasID)
  | stopOutput =>
    obtain ⟨rest, whole⟩ := progress.begins
    exact .stopped rest (by simpa [Event.isOutput] using whole)
  | receive other => exact absurd rfl (same other)
  | _ => simpa [Event.isOutput] using progress

theorem response_forward_or_answer
    (titles : List String)
    (message : Object) :
    isAnswer message = true ∨ (response texts titles message).1 = .forward := by
  unfold response
  split
  · exact .inr rfl
  · rename_i answer
    refine .inl ?_
    simpa [isAnswer, Option.isSome_iff_ne_none] using answer

theorem response_of_removes
    {title : String}
    (member : title ∈ titles)
    (removed : removes texts message title = true)
    (successful : message.get "error" = none) :
    (response texts titles message).1 =
      match namedThread message with
      | .ok thread => .register thread
      | .error error => .fail error := by
  unfold removes at removed
  obtain ⟨answer, same⟩ := Bool.and_eq_true_iff.mp removed
  cases identity : RouterEngineObserver.id message with
  | error error => simp [identity] at same
  | ok key =>
    rw [identity] at same
    have pending : titles.any (texts.same key) = true := any_eq_true.mpr ⟨title, member, same⟩
    have named : (RouterJSON.map message "result" >>= fun result =>
        RouterJSON.map result "thread") = namedThread message := rfl
    unfold response
    rw [if_neg (not_skipped answer), identity]
    simp only [pending, if_true, successful, Option.isSome_none,
      Bool.false_eq_true, if_false, named]
    cases namedThread message <;> rfl

theorem removes_of_register
    (registers : (response texts titles message).1 = .register thread) :
    message.get "error" = none ∧
      ∃ title ∈ titles, removes texts message title = true := by
  obtain answer | forwards := response_forward_or_answer titles message
  · unfold response at registers
    rw [if_neg (not_skipped answer)] at registers
    cases identity : RouterEngineObserver.id message with
    | error error =>
      rw [identity] at registers
      cases registers
    | ok key =>
      rw [identity] at registers
      dsimp only at registers
      split at registers
      · rename_i pending
        obtain ⟨title, member, same⟩ := any_eq_true.mp pending
        split at registers
        · cases registers
        · rename_i successful
          refine ⟨by simpa using successful, title, member, ?_⟩
          simp [removes, answer, identity, same]
      · cases registers
  · rw [forwards] at registers
    cases registers

theorem Progress.begin (message : Object) :
    Progress message (response texts titles message).1
      [] (.after message (response texts titles message).1) := by
  have answer := @response_forward_or_answer texts titles message
  cases duty : (response texts titles message).1 with
  | forward => exact .forwarding
  | register thread => exact .registering thread
  | fail error =>
    rw [duty] at answer
    obtain answer | forwards := answer
    · obtain ⟨id, hasID, fails⟩ := afterError_of_answer answer error
      rw [Output.after, fails]
      exact .failing id error hasID
    · cases forwards

theorem Run.progress
    {before during : List Event}
    (run :
      Run texts router engine (before ++ .received message :: during) relay)
    (same : ∀ other, .received other ∉ during) :
    ∃ titles, Pending texts before titles ∧
      Progress message (response texts titles message).1
        (during.filter Event.isOutput) relay.output := by
  obtain ⟨middle, earlier, later⟩ := run.split
  obtain ⟨begun, taken, later⟩ := later.head
  refine ⟨middle.titles, Run.pending earlier, ?_⟩
  have answer := @response_forward_or_answer texts middle.titles message
  have started : Progress message (response texts middle.titles message).1
      [] begun.output := by
    cases taken
    exact .begin message
  clear taken
  revert same
  refine @Runs.keeps _ _ _ _ _ (fun during relay =>
    (∀ other, .received other ∉ during) →
      Progress message (response texts middle.titles message).1
        (during.filter Event.isOutput) relay.output) ?_ ?_ _ later
  · intro _
    exact started
  · intro during event state next _ ih step same
    rw [filter_append]
    refine (ih fun other member => ?_).step answer step ?_
    · exact same other (mem_append_left _ member)
    · rintro other rfl
      exact same other (by simp)

/-- What is done with a successful answer to a title request: its task is
registered and the answer is forwarded, or an error with its identity takes its
place. -/
inductive RegistersFirst (message : Object) : List Event → Prop
  | told (thread : Object) :
      namedThread message = .ok thread →
      RegistersFirst message [.registered thread none, .forwarded message]
  | reported (thread : Object) (id : Json) (error : RouterFailure) :
      namedThread message = .ok thread → message.get "id" = some id →
      RegistersFirst message [.registered thread (some error), .failed id error]
  | malformed (id : Json) (error : RouterFailure) :
      namedThread message = .error error → message.get "id" = some id →
      RegistersFirst message [.failed id error]

theorem Whole.registersFirst
    (whole : Whole message duty events)
    (registers : duty =
      match namedThread message with
      | .ok thread => .register thread
      | .error error => .fail error) :
    RegistersFirst message events := by
  cases named : namedThread message with
  | error error =>
    rw [named] at registers
    subst registers
    cases whole with
    | failed id _ hasID => exact .malformed id error named hasID
  | ok thread =>
    rw [named] at registers
    subst registers
    cases whole with
    | told => exact .told thread named
    | reported _ id error hasID => exact .reported thread id error named hasID

theorem Whole.registered
    {failure : Option RouterFailure}
    (whole : Whole message duty events)
    (registered : .registered thread failure ∈ events) :
    duty = .register thread := by
  cases whole <;> simp_all

theorem Progress.whole
    {message next : Object}
    {relay after : Relay}
    (progress : Progress message duty events relay.output)
    (taken : Step texts router engine relay (.received next) after) :
    Whole message duty events := by
  cases taken
  cases progress
  assumption

end Relay

open Relay in
/-- In every run in which requests that wait at the same time have different
identities, the pending requests are the title requests that wait for an answer.
The task of a successful answer to one of them is registered once, before the
answer is forwarded, and an error takes the place of the answer if that fails.
Nothing else is registered. -/
theorem title_tasks_are_registered_first
    {texts : Texts}
    {router engine : String}
    {history : List Event}
    {relay : Relay}
    (run : Run texts router engine history relay)
    (distinct : DistinctRequests texts history) :
    Pending texts history relay.titles ∧
      ∀ before message during,
        before ++ .received message :: during <+: history →
        (∀ other, .received other ∉ during) →
        (∀ asked, Outstanding texts before asked →
          Answers texts message asked → startsTitleTask asked = true →
          message.get "error" = none →
          ∃ events, RegistersFirst message events ∧
            during.filter Event.isOutput <+: events ∧
            ((∃ next, before ++ .received message :: during ++
                [.received next] <+: history) →
              during.filter Event.isOutput = events)) ∧
        ((∃ asked, Outstanding texts before asked ∧
            Answers texts message asked ∧ startsTitleTask asked = false) ∨
          (∀ asked, Outstanding texts before asked →
            ¬ Answers texts message asked) ∨
          message.get "error" ≠ none →
          ∀ thread failure, .registered thread failure ∉ during) := by
  refine ⟨run.pending, fun before message during begins same => ⟨?_, ?_⟩⟩
  · intro asked waits answers title successful
    obtain ⟨key, identity, removed⟩ := (answers_iff message asked).mp answers
    have due (titles : List String) (pending : Pending texts before titles) :
        (response texts titles message).1 =
          match namedThread message with
          | .ok thread => .register thread
          | .error error => .fail error :=
      response_of_removes
        ((pending key).mpr ⟨asked, waits, title, identity⟩) removed successful
    by_cases more : ∃ next,
      before ++ .received message :: during ++ [.received next] <+: history
    · obtain ⟨next, rest, whole⟩ := more
      rw [← whole] at run
      obtain ⟨after, upToNext, -⟩ := Runs.split run
      obtain ⟨state, upTo, taken⟩ := upToNext.last
      obtain ⟨titles, pending, progress⟩ := Run.progress upTo same
      exact ⟨_, (progress.whole taken).registersFirst (due titles pending),
        prefix_rfl, fun _ => rfl⟩
    · obtain ⟨rest, whole⟩ := begins
      rw [← whole] at run
      obtain ⟨state, upTo, -⟩ := Runs.split run
      obtain ⟨titles, pending, progress⟩ := Run.progress upTo same
      obtain ⟨others, whole⟩ := progress.begins
      exact ⟨_, whole.registersFirst (due titles pending),
        prefix_append _ _, fun next => absurd next more⟩
  · intro other thread failure registered
    obtain ⟨rest, whole⟩ := begins
    rw [← whole] at run distinct
    obtain ⟨state, upTo, -⟩ := Runs.split run
    obtain ⟨titles, pending, progress⟩ := Run.progress upTo same
    obtain ⟨others, whole⟩ := progress.begins
    have member : .registered thread failure ∈ during.filter Event.isOutput ++ others :=
      mem_append_left _ (mem_filter.mpr ⟨registered, rfl⟩)
    obtain ⟨successful, key, waiting, removed⟩ := removes_of_register (whole.registered member)
    obtain ⟨asked, waits, title, identity⟩ := (pending key).mp waiting
    have answers : Answers texts message asked :=
      (answers_iff message asked).mpr ⟨key, identity, removed⟩
    -- Identities tell the requests apart, so only the title request is answered.
    rcases other with ⟨instead, itWaits, itsAnswer, noTitle⟩ | none | error
    · have equal : instead = asked :=
        distinct.earlier.earlier.unique itWaits waits (itsAnswer.2.symm.trans answers.2)
      rw [equal, title] at noTitle
      cases noTitle
    · exact none asked waits answers
    · exact error successful

namespace TitleExchange

open Relay

/-- The request for a title with a helper at a command line path. -/
def titleRequestWith (path : String) : Object :=
  [("params", .object
      [("config", .object [("mcp_servers", .object
        [("a", .object [("env", .object [("CODEX_CLI_PATH", .string path)])])])]),
        ("threadSource", .string "thread_title")]),
    ("id", .number 1), ("method", .string "thread/start")]

/-- The desktop names the router. -/
def titleRequest : Object :=
  titleRequestWith "/router"

/-- Another request whose identity is a text with that number. -/
def otherRequest : Object :=
  [("id", .string "1"), ("method", .string "thread/list")]

/-- An answer with a text for its identity. -/
def otherAnswer : Object :=
  [("id", .string "1"), ("result", .object [])]

/-- The title task. -/
def thread : Object :=
  [("id", .string "title"), ("cwd", .string "/work")]

/-- The answer to the title task. -/
def titleAnswer : Object :=
  [("id", .number 1), ("result", .object [("thread", .object thread)])]

/-- What happens up to the answer to the title request. -/
def waiting : List Event :=
  [.admitted titleRequest, .delivered (titleRequestWith "/engine"),
    .admitted otherRequest, .delivered otherRequest,
    .received otherAnswer, .forwarded otherAnswer]

/-- What happens after the answer to the title request was taken. -/
def answering : List Event :=
  [.registered thread none, .forwarded titleAnswer]

theorem runs :
    Run .plain "/router" "/engine"
      (waiting ++ .received titleAnswer :: answering) start := by
  have first : request .plain [] titleRequest = .ok ["n:1"] := by rfl
  have named : RouterHelperConfiguration.prepare .plain "/router" "/engine" titleRequest =
      titleRequestWith "/engine" := by rfl
  have second : request .plain ["n:1"] otherRequest = .ok ["n:1"] := by rfl
  have kept : response .plain ["n:1"] otherAnswer = (.forward, ["n:1"]) := by rfl
  have taken : response .plain ["n:1"] titleAnswer = (.register thread, []) := by rfl
  refine .extend (.extend (.extend (.extend (.extend (.extend (.extend (.extend
    (.extend .start (.accept titleRequest first)) (named ▸ .deliver _))
    (.accept otherRequest second)) (.deliver otherRequest)) (.receive otherAnswer))
    (.forward otherAnswer)) (.receive titleAnswer))
    (.register titleAnswer thread)) (.forward titleAnswer)

theorem titleRequest_id :
    RouterEngineObserver.id titleRequest = .ok "n:1" := by rfl

theorem otherRequest_id :
    RouterEngineObserver.id otherRequest = .ok "s:1" := by rfl

theorem titleRequest_waits : Outstanding .plain waiting titleRequest := by
  refine ⟨by rfl, [], _, rfl, fun message member answers => ?_⟩
  have itself : message = otherAnswer := by simpa using member
  subst itself
  obtain ⟨-, key, other, answered, asked, same⟩ := answers
  rw [titleRequest_id] at asked
  cases answered
  cases asked
  revert same
  decide

theorem distinct :
    DistinctRequests .plain
      (waiting ++ .received titleAnswer :: answering) := by
  intro before asked after whole isRequest earlier waits same
  match before with
  | [] =>
    obtain ⟨-, first, rest, empty, -⟩ := waits
    simp at empty
  | [event, next] =>
    simp only [waiting, answering, cons_append, nil_append,
      cons.injEq, Event.admitted.injEq] at whole
    obtain ⟨rfl, rfl, rfl, -⟩ := whole
    obtain ⟨-, first, rest, split, -⟩ := waits
    have itself : earlier = titleRequest := by
      have member : .admitted earlier ∈
          [Event.admitted titleRequest,
            .delivered (titleRequestWith "/engine")] := by simp [split]
      simpa using member
    subst itself
    obtain ⟨key, other, own, its, equal⟩ := same
    rw [otherRequest_id] at own
    rw [titleRequest_id] at its
    cases own
    cases its
    revert equal
    decide
  | [_] | [_, _, _] | [_, _, _, _] | [_, _, _, _, _] => simp [waiting] at whole
  | _ :: _ :: _ :: _ :: _ :: _ :: rest =>
    simp only [waiting, answering, cons_append, nil_append, cons.injEq] at whole
    have member : Event.admitted asked ∈ rest ++ .admitted asked :: after := by simp
    rw [← whole.2.2.2.2.2.2] at member
    simp at member

end TitleExchange

open Relay TitleExchange in
/-- A title task is registered although another request with a similar identity
is answered first. -/
theorem title_task_is_registered :
    Pending .plain (waiting ++ .received titleAnswer :: answering) [] ∧
      ∃ events, RegistersFirst titleAnswer events ∧
        [.registered thread none, .forwarded titleAnswer] <+: events := by
  obtain ⟨pending, handled⟩ :=
    title_tasks_are_registered_first TitleExchange.runs TitleExchange.distinct
  refine ⟨pending, ?_⟩
  obtain ⟨registers, -⟩ := handled waiting titleAnswer answering
    prefix_rfl (by simp [answering])
  obtain ⟨events, first, begins, -⟩ := registers titleRequest
    titleRequest_waits ⟨by rfl, "n:1", "n:1", by rfl, titleRequest_id, by decide⟩
    (by rfl) (by rfl)
  exact ⟨events, first, begins⟩

end Turnrail
