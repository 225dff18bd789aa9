import Turnrail.Ledger.Archive

/-!
# Failed calls and the memory

A call changes the dictionaries in memory before it saves them.  When the save
fails the call throws, but the change stays.  So does the response of a
`complete` whose request turns out not to be in flight.  This module says for
every call exactly when a failure leaves the memory as it was.
-/

namespace Turnrail

open RouterLedger LedgerState LedgerCall

/-- Two states with the same dictionaries. -/
structure LedgerState.Same (before after : LedgerState) : Prop where
  bindings : ∀ key, after.bindings.lookup key = before.bindings.lookup key
  titles : ∀ thread, after.titles.lookup thread = before.titles.lookup thread
  completed : ∀ thread, after.completed.lookup thread = before.completed.lookup thread
  history : ∀ id, after.history.lookup id = before.history.lookup id
  requests : ∀ fingerprint,
    after.requests.lookup fingerprint = before.requests.lookup fingerprint
  failed : ∀ turn, after.isFailed turn = before.isFailed turn

theorem LedgerState.Same.of_eq
    {before after : LedgerState}
    (same : after = before) :
    before.Same after := by
  subst same
  exact ⟨fun _ => rfl, fun _ => rfl, fun _ => rfl, fun _ => rfl, fun _ => rfl, fun _ => rfl⟩

section Definitions

variable (host : Foundation)

/-- File a message under its digest. -/
def fileMessage (messages : Table Data) (item : Object) : Table Data :=
  if (messages.lookup (digest host item)).isNone then
    messages.insert (digest host item) (RouterJSON.data host item)
  else messages

/-- The number of files that storing messages creates. -/
def newFiles : Table Data → List Object → Nat
  | _, [] => 0
  | messages, item :: rest =>
    (if (messages.lookup (digest host item)).isNone then 1 else 0) +
      newFiles (fileMessage host messages item) rest

/-- A call has no guard that refuses after its first change. -/
def LedgerCall.concludes (state : LedgerState) : LedgerCall → Bool
  | .complete fingerprint turn _ _ => state.awaits fingerprint turn
  | _ => true

/-- The file writes of a call do not fail between its first change and its
end.  A call that cannot write a message file stops before it changes
anything. -/
def LedgerCall.Saves (ledger : Ledger) (writes : List WriteOutcome)
    (call : LedgerCall) : Prop :=
  Faulty (writes.take (newFiles host ledger.disk.messages call.items)) ∨
    (call.concludes ledger.state = true ∧
      writes.getD (newFiles host ledger.disk.messages call.items) .committed = .committed)

end Definitions

variable {host : Foundation}

variable (host) in
/-- What a call does to the memory, in terms of what it is given. -/
structure Behaves (ledger : Ledger) (writes : List WriteOutcome)
    (call : LedgerCall) (result : Except PlainError call.Value)
    (after : LedgerState) : Prop where
  kept : call.alters host ledger.state = false → ledger.state.Same after
  stopped :
    Faulty (writes.take (newFiles host ledger.disk.messages call.items)) →
    ledger.state.Same after
  changed : call.alters host ledger.state = true → ¬Faulty
      (writes.take (newFiles host ledger.disk.messages call.items)) →
    ¬ledger.state.Same after ∧ (result.isOk = true ↔ call.concludes ledger.state = true ∧
          writes.getD (newFiles host ledger.disk.messages call.items) .committed = .committed)

variable {ledger : Ledger} {writes : List WriteOutcome} {call : LedgerCall}
variable {result : Except PlainError call.Value} {after : LedgerState}

theorem Behaves.atomic_iff
    (behaves : Behaves host ledger writes call result after) :
    ((∃ failure, result = .error failure) → ledger.state.Same after) ↔
      (call.alters host ledger.state = true →
        call.Saves host ledger writes) := by
  have failed_iff : (∃ failure, result = .error failure) ↔ ¬result.isOk = true := by
    cases result <;> simp [Except.isOk, Except.toBool]
  rw [failed_iff, Saves]
  by_cases alters : call.alters host ledger.state = true
  · by_cases faulty : Faulty (writes.take (newFiles host ledger.disk.messages call.items))
    · exact ⟨fun _ _ => .inl faulty, fun _ _ => behaves.stopped faulty⟩
    · obtain ⟨differs, succeeds⟩ := behaves.changed alters faulty
      constructor
      · intro atomic _
        refine .inr (succeeds.mp ?_)
        by_contra failed
        exact differs (atomic failed)
      · intro saves failed
        rcases saves alters with absurd' | saved
        · exact absurd absurd' faulty
        · exact absurd (succeeds.mpr saved) failed
  · have unaltered := eq_false_of_ne_true alters
    exact ⟨fun _ altered => absurd altered alters, fun _ _ => behaves.kept unaltered⟩

theorem Behaves.of_kept
    (unaltered : call.alters host ledger.state = false)
    (same : ledger.state.Same after) :
    Behaves host ledger writes call result after :=
  ⟨fun _ => same, fun _ => same, fun altered => by simp [unaltered] at altered⟩

theorem Behaves.of_saved
    (alters : call.alters host ledger.state = true)
    (silent : call.items = [])
    (concludes : call.concludes ledger.state = true)
    (differs : ¬ledger.state.Same after)
    (saves : result.isOk = true ↔ writes.getD 0 .committed = .committed) :
    Behaves host ledger writes call result after := by
  have none : newFiles host ledger.disk.messages call.items = 0 := by
    rw [silent]
    rfl
  refine ⟨fun unaltered => by simp [unaltered] at alters, ?_, ?_⟩
  · intro faulty
    rw [none, List.take_zero] at faulty
    obtain ⟨outcome, member, -⟩ := faulty
    cases member
  · intro _ _
    rw [none, saves]
    exact ⟨differs, fun saved => ⟨concludes, saved⟩, And.right⟩

section Differences

variable {state : LedgerState} {key : String} {account : UUID}

theorem LedgerState.not_same_bind (absent : state.bindings.lookup key = none) :
    ¬state.Same (state.change (.bind key account)) := by
  intro same
  have kept := same.bindings key
  rw [absent, change, Table.lookup_insert_self] at kept
  cases kept

theorem LedgerState.not_same_title
    {entry : Title}
    (absent : state.titles.lookup key = none) :
    ¬state.Same (state.change (.title key entry)) := by
  intro same
  have kept := same.titles key
  rw [absent, change, Table.lookup_insert_self] at kept
  cases kept

theorem LedgerState.not_same_respond
    {record : HistoryRecord}
    (absent : state.history.lookup key = none) :
    ¬state.Same (state.change (.respond key record)) := by
  intro same
  have kept := same.history key
  rw [absent, change, Table.lookup_insert_self] at kept
  cases kept

theorem LedgerState.not_same_request
    {turn : String}
    {next : RequestState}
    (differs : state.requests.lookup key ≠ some ⟨turn, next⟩) :
    ¬state.Same (state.change (.request key turn next)) := by
  intro same
  have kept := same.requests key
  rw [change, Table.lookup_insert_self] at kept
  exact differs kept.symm

theorem LedgerState.same_stop_iff :
    state.Same (state.change (.stop key account)) ↔
      state.completed.lookup key = some account := by
  constructor
  · intro same
    have kept := same.completed key
    rw [change, Table.lookup_insert_self] at kept
    exact kept.symm
  · intro recorded
    refine ⟨fun _ => rfl, fun _ => rfl, ?_, fun _ => rfl, fun _ => rfl, fun _ => rfl⟩
    intro other
    rw [change, Table.lookup_insert]
    split
    · rename_i same
      rw [same, recorded]
    · rfl

theorem LedgerState.same_fail_iff :
    state.Same (state.change (.fail key)) ↔ state.isFailed key = true := by
  constructor
  · intro same
    have kept := same.failed key
    rw [← kept, isFailed, change, Table.lookup_insert_self]
    rfl
  · intro stopped
    refine ⟨fun _ => rfl, fun _ => rfl, fun _ => rfl, fun _ => rfl, fun _ => rfl, ?_⟩
    intro other
    rw [isFailed, change, Table.lookup_insert]
    split
    · rename_i same
      rw [same, stopped]
      rfl
    · rfl

end Differences

theorem Makes.alters
    {state : LedgerState}
    {change : Change}
    (makes : Makes host state call [change]) :
    (call.alters host state = true ∧ ¬state.Same (state.change change)) ∨
      (call.alters host state = false ∧ state.Same (state.change change)) := by
  cases makes with
  | bind continues absent =>
    exact .inl ⟨by simp [alters, continues, absent], not_same_bind absent⟩
  | registerTitle absent =>
    exact .inl ⟨by simp [alters, absent], not_same_title absent⟩
  | @stop thread turn key account named binds =>
    by_cases recorded : state.completed.lookup thread = some account
    · exact .inr ⟨by simp [alters, named, binds.2, recorded],
        same_stop_iff.mpr recorded⟩
    · exact .inl ⟨by simp [alters, named, binds.1, binds.2, recorded],
        fun same => recorded (same_stop_iff.mp same)⟩
  | saveHistory absent =>
    exact .inl ⟨by simp [alters, absent], not_same_respond absent⟩
  | first binds absent =>
    exact .inl ⟨by simp [alters, binds.1, binds.2, absent],
      not_same_request (by simp [absent])⟩
  | @again fingerprint turn account current next binds known admitted =>
    have moves : current ≠ next := by
      rintro rfl
      cases current <;> cases admitted
    exact .inl ⟨by simp [alters, binds.1, binds.2, known, admitted],
      not_same_request (by simp [known, moves])⟩
  | @interrupt fingerprint turn current next known admitted =>
    have moves : current.inFlight = true ∧ current ≠ next := by
      cases current <;> cases admitted <;> simp [RequestState.inFlight]
    exact .inl ⟨by simp [alters, awaits, known, moves.1],
      not_same_request (by simp [known, moves.2])⟩
  | cancel known inFlight | finish known inFlight =>
    refine .inl ⟨by simp [alters, awaits, known, inFlight],
      not_same_request ?_⟩
    intro same
    rw [known] at same
    cases same
    cases inFlight
  | rejectConnectionLimit known =>
    exact .inl ⟨by simp [alters, known], not_same_request (by simp [known])⟩
  | fail =>
    rename_i turn
    by_cases stopped : state.isFailed turn = true
    · exact .inr ⟨by simp [alters, stopped], same_fail_iff.mpr stopped⟩
    · exact .inl ⟨by simp [alters, stopped],
        fun same => stopped (same_fail_iff.mp same)⟩

variable {session reached : Session}

theorem RouterLedger.Conduct.behaves
    (conduct : Conduct host session call result reached)
    (plain : call.plain = true) :
    Behaves host
      session.ledger session.writes call result reached.ledger.state := by
  have silent : call.items = [] := by
    cases call <;> first | rfl | cases plain
  have concludes : call.concludes session.ledger.state = true := by
    cases call <;> first | rfl | cases plain
  cases conduct with
  | answered answers unaltered => exact .of_kept unaltered (.of_eq rfl)
  | changed change makes saves =>
    obtain ⟨saved, succeeds⟩ := saves
    rw [saved.memory]
    rcases makes.alters with ⟨alters, differs⟩ | ⟨unaltered, same⟩
    · exact .of_saved alters silent concludes differs succeeds
    · exact .of_kept unaltered same

section Messages

open LedgerM

variable (host) in
/-- Storing messages creates their files one after the other, and stops at the
first one that cannot be written. -/
structure Stores (session : Session) (items : List Object) (succeeded : Bool)
    (reached : Session) : Prop where
  memory : reached.ledger.state = session.ledger.state
  succeeds : succeeded = true ↔ ¬Faulty (session.writes.take
      (newFiles host session.ledger.disk.messages items))
  files : succeeded = true → reached.ledger.disk.messages =
        items.foldl (fileMessage host) session.ledger.disk.messages ∧
      reached.writes = session.writes.drop (newFiles host session.ledger.disk.messages items)

theorem faulty_take_add
    (writes : List WriteOutcome)
    (first second : Nat) :
    Faulty (writes.take (first + second)) ↔ Faulty (writes.take first) ∨
      Faulty ((writes.drop first).take second) := by
  rw [List.take_add]
  simp only [Faulty, List.mem_append]
  constructor
  · rintro ⟨outcome, found | found, fault⟩
    · exact .inl ⟨outcome, found, fault⟩
    · exact .inr ⟨outcome, found, fault⟩
  · rintro (⟨outcome, found, fault⟩ | ⟨outcome, found, fault⟩)
    · exact ⟨outcome, .inl found, fault⟩
    · exact ⟨outcome, .inr found, fault⟩

theorem not_faulty_take_one (writes : List WriteOutcome) :
    writes.getD 0 .committed = .committed ↔ ¬Faulty (writes.take 1) := by
  cases writes <;> simp [Faulty]

theorem newFiles_append
    (messages : Table Data)
    (first second : List Object) :
    newFiles host messages (first ++ second) = newFiles host messages first +
        newFiles host (first.foldl (fileMessage host) messages)
          second := by
  induction first generalizing messages with
  | nil => simp [newFiles]
  | cons item rest ih =>
    simp only [List.cons_append, newFiles, List.foldl_cons]
    rw [ih, Nat.add_assoc]

variable {first : List Object}

theorem Stores.append
    {middle : Session}
    {second : List Object}
    {succeeded : Bool}
    (earlier : Stores host session first true middle)
    (later : Stores host middle second succeeded reached) :
    Stores host session (first ++ second) succeeded reached := by
  obtain ⟨files, writes⟩ := earlier.files rfl
  have clean := earlier.succeeds.mp rfl
  refine ⟨later.memory.trans earlier.memory, ?_, ?_⟩
  · rw [later.succeeds, newFiles_append, faulty_take_add, files, writes]
    constructor
    · intro fine faulty
      exact faulty.elim clean fine
    · intro fine faulty
      exact fine (.inr faulty)
  · intro success
    obtain ⟨more, rest⟩ := later.files success
    rw [more, files, rest, writes, files, newFiles_append, List.foldl_append, List.drop_drop]
    exact ⟨rfl, rfl⟩

theorem Stores.stopped
    (stores : Stores host session first false reached)
    (second : List Object) :
    Stores host session (first ++ second) false reached := by
  refine ⟨stores.memory, ?_, fun success => by cases success⟩
  have fails : Faulty (session.writes.take
      (newFiles host session.ledger.disk.messages first)) := by
    by_contra clean
    exact absurd (stores.succeeds.mpr clean) (by simp)
  rw [newFiles_append, faulty_take_add]
  simp [fails]

theorem ends_storeMessage_iff
    (item : Object)
    (session : Session) :
    (storeMessage host item).Ends session fun result reached =>
      Stores host session [item] result.isOk reached := by
  simp only [storeMessage, ends_bind, ends_messages, ends_ite, ends_pure]
  split
  · rename_i absent
    have absent : (session.ledger.disk.messages.lookup
        (digest host item)).isNone = true := absent
    have one : newFiles host session.ledger.disk.messages [item] = 1 := by
      simp only [newFiles, if_pos absent]
    refine (ends_writePrivate _ session).mono ?_
    rintro result reached ⟨memory, rest, -, files, saves⟩
    have stored : Stores host session [item] result.isOk reached := by
      refine ⟨memory, ?_, ?_⟩
      · rw [one, saves, not_faulty_take_one]
      · intro success
        rw [one, files success, rest]
        simp only [List.foldl_cons, List.foldl_nil, fileMessage, if_pos absent]
        exact ⟨rfl, trivial⟩
    cases result <;> exact stored
  · rename_i present
    have present : ¬(session.ledger.disk.messages.lookup
        (digest host item)).isNone = true := present
    have none : newFiles host session.ledger.disk.messages [item] = 0 := by
      simp only [newFiles, if_neg present]
    refine ⟨rfl, ?_, ?_⟩
    · rw [none]
      simp [Faulty, Except.isOk, Except.toBool]
    · intro _
      rw [none]
      simp only [List.foldl_cons, List.foldl_nil, fileMessage, if_neg present]
      exact ⟨trivial, rfl⟩

theorem ends_storeMessages_iff
    (items : List Object)
    (session : Session) :
    (storeMessages host items).Ends session fun result reached =>
      Stores host session items result.isOk reached := by
  induction items generalizing session with
  | nil =>
    refine ⟨rfl, ⟨fun _ => ?_, fun _ => rfl⟩, fun _ => ⟨rfl, rfl⟩⟩
    simp [newFiles, Faulty]
  | cons item rest ih =>
    simp only [storeMessages, ends_bind, ends_pure]
    refine (ends_storeMessage_iff item session).mono ?_
    intro result middle first
    cases result with
    | error failure => exact first.stopped rest
    | ok name =>
      refine (ih middle).mono ?_
      intro result reached second
      cases result with
      | error | ok => exact first.append second

theorem ends_storeHistory_iff
    (id : String)
    (value : History)
    (session : Session) :
    (storeHistory host id value).Ends session fun result reached =>
      (result.isOk = true ↔ session.ledger.state.history.lookup id = none ∧
        ¬Faulty (session.writes.take
          (newFiles host session.ledger.disk.messages value.messages))) ∧
      (result.isOk = true → reached.writes = session.writes.drop (newFiles host
          session.ledger.disk.messages value.messages)) := by
  simp only [storeHistory, ends_bind, ends_state, ends_ite, ends_reject, ends_put]
  split
  · rename_i known
    have known : session.ledger.state.history.lookup id ≠ none :=
      Option.isSome_iff_ne_none.mp known
    simp [Except.isOk, Except.toBool, known]
  · rename_i unknown
    have fresh : session.ledger.state.history.lookup id = none := by simpa using unknown
    refine (ends_storeMessages_iff value.input session).mono ?_
    intro result middle first
    cases result with
    | error failure =>
      have whole := first.stopped value.output
      refine ⟨?_, by simp [Except.isOk, Except.toBool]⟩
      rw [and_iff_right fresh]
      exact whole.succeeds
    | ok input =>
      refine (ends_storeMessages_iff value.output middle).mono ?_
      intro result reached second
      cases result with
      | error failure =>
        have whole := first.append second
        refine ⟨?_, by simp [Except.isOk, Except.toBool]⟩
        rw [and_iff_right fresh]
        exact whole.succeeds
      | ok output =>
        have whole := first.append second
        refine ⟨?_, fun _ => (whole.files rfl).2⟩
        rw [and_iff_right fresh]
        exact whole.succeeds

theorem Behaves.of_stored
    {id : String}
    {value : History}
    {call : LedgerCall}
    {rest : Unit → LedgerM call.Value}
    (names : call.response = some (id, value))
    (alters_iff : call.alters host session.ledger.state =
      (session.ledger.state.history.lookup id).isNone)
    (continues : ∀ reached, reached.ledger.state =
        session.ledger.state.change (.respond id (value.stored host)) →
      session.ledger.state.history.lookup id = none →
      (rest ()).Ends reached fun result final =>
        ¬session.ledger.state.Same final.ledger.state ∧ (result.isOk = true ↔
            call.concludes session.ledger.state = true ∧
              reached.writes.getD 0 .committed = .committed)) :
    (storeHistory host id value >>= rest).Ends session
      fun result reached => Behaves host session.ledger session.writes call
        result reached.ledger.state := by
  have items : call.items = value.messages := by
    cases call <;> cases names <;> rfl
  rw [ends_bind]
  refine ((ends_storeHistory id value session).and
    (ends_storeHistory_iff id value session)).mono ?_
  rintro result reached ⟨⟨failure, rfl, filing⟩ | ⟨rfl, fresh, -, filing⟩, succeeds, writes⟩
  · have same : session.ledger.state.Same reached.ledger.state := .of_eq filing.memory
    refine ⟨fun _ => same, fun _ => same, ?_⟩
    intro alters clean
    rw [alters_iff, Option.isNone_iff_eq_none] at alters
    rw [items] at clean
    exact absurd (succeeds.mpr ⟨alters, clean⟩) (by simp [Except.isOk, Except.toBool])
  · obtain ⟨-, clean⟩ := succeeds.mp rfl
    refine (continues reached filing.memory fresh).mono ?_
    rintro result final ⟨differs, saves⟩
    refine ⟨?_, ?_, ?_⟩
    · intro unaltered
      rw [alters_iff, fresh] at unaltered
      cases unaltered
    · intro faulty
      rw [items] at faulty
      exact absurd faulty clean
    · intro _ _
      rw [writes rfl] at saves
      rw [items]
      refine ⟨differs, ?_⟩
      simpa [List.getD_eq_getElem?_getD] using saves

theorem saveHistory_behaves
    (id : String)
    (value : History)
    (session : Session) :
    (saveHistory host id value).Ends session fun result reached =>
      Behaves host session.ledger session.writes
      (.saveHistory id value) result reached.ledger.state := by
  refine Behaves.of_stored rfl rfl ?_
  intro reached memory fresh
  refine (ends_persist reached).mono ?_
  rintro result final ⟨saved, saves⟩
  rw [saved.memory, memory, saves]
  exact ⟨not_same_respond fresh, fun saved => ⟨rfl, saved⟩, And.right⟩

theorem complete_behaves
    (fingerprint turn response : String)
    (value : History)
    (session : Session) :
    (complete host fingerprint turn response value).Ends
      session fun result reached => Behaves host session.ledger session.writes
      (.complete fingerprint turn response value)
      result reached.ledger.state := by
  refine Behaves.of_stored rfl rfl ?_
  intro reached memory fresh
  have awaits : reached.ledger.state.awaits fingerprint turn =
      session.ledger.state.awaits fingerprint turn := by
    rw [memory]
    rfl
  refine (@finish_conduct host reached fingerprint turn).mono ?_
  intro result final conduct
  -- The response stays in memory whether or not the request is completed.
  have differs : final.ledger.state.history = reached.ledger.state.history →
      ¬session.ledger.state.Same final.ledger.state := by
    intro kept same
    have history := same.history response
    rw [kept, memory, LedgerState.change, Table.lookup_insert_self, fresh] at history
    cases history
  cases conduct with
  | answered answers unaltered =>
    cases answers
    have unfinished : session.ledger.state.awaits fingerprint turn = false :=
      awaits.symm.trans unaltered
    exact ⟨differs rfl, by simp [concludes, unfinished, Except.isOk, Except.toBool]⟩
  | changed change makes saves =>
    obtain ⟨saved, succeeds⟩ := saves
    cases makes with
    | finish known inFlight =>
      have finished : session.ledger.state.awaits fingerprint turn = true := by
        rw [← awaits]
        simp [LedgerState.awaits, known, inFlight]
      exact ⟨differs (by rw [saved.memory]; rfl), by simp [concludes, finished, succeeds]⟩

end Messages

theorem LedgerCall.run_behaves
    (call : LedgerCall)
    (session : Session) :
    (call.run host).Ends session fun result reached => Behaves host
      session.ledger session.writes call result reached.ledger.state := by
  cases call with
  | history id thread =>
    refine (history_outcome id thread session).mono ?_
    intro result reached outcome
    cases outcome with
    | answered _ memory => exact .of_kept rfl (.of_eq memory)
    | changed list makes => cases makes
  | saveHistory id value => exact saveHistory_behaves id value session
  | complete fingerprint turn response value =>
    exact complete_behaves fingerprint turn response value session
  | _ => exact (run_conduct _ rfl session).mono fun _ _ conduct => conduct.behaves rfl

/-- A call that throws leaves the memory as it was exactly if the call has
nothing to change, stops at a message file, or ends without a further refusal or
failed write. -/
theorem failed_call_keeps_memory_iff
    (host : Foundation)
    (ledger : Ledger)
    (call : LedgerCall)
    (writes : List WriteOutcome) :
    ((∃ failure,
        (RouterLedger.call (call.run host) ledger writes).1 = .error failure) →
      ledger.state.Same
        (RouterLedger.call (call.run host) ledger writes).2.state) ↔
      (call.alters host ledger.state = true → call.Saves host ledger writes) :=
  Behaves.atomic_iff (call.run_behaves ⟨ledger, writes⟩)

/-- On a new ledger, a binding that could not be saved stays in memory, and so
does a response whose request was never submitted. -/
theorem failed_call_changes_memory :
    ∃ ledger, Opens .empty ledger ∧
      (∃ failure after,
        RouterLedger.call (RouterLedger.bind "task/turn" ⟨1⟩) ledger
          [.notWritten] = (.error failure, after) ∧
        ledger.state.bindings.lookup "task/turn" = none ∧
        after.state.bindings.lookup "task/turn" = some ⟨1⟩) ∧
      ∃ failure after record,
        RouterLedger.call (RouterLedger.complete .mute "request" "task/turn"
          "answer" ⟨"task", none, [], [], none, none⟩) ledger [] =
          (.error failure, after) ∧
        ledger.state.history.lookup "answer" = none ∧
        after.state.history.lookup "answer" = some record := by
  refine ⟨⟨.empty, ⟨some .empty, ∅⟩⟩, @Opens.opened _ _ _ [] rfl, ?_, ?_⟩
  · exact ⟨_, _, rfl, rfl, rfl⟩
  · exact ⟨_, _, _, rfl, rfl, rfl⟩

end Turnrail
