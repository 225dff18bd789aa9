import Turnrail.Ledger.Calls

/-!
# Every ledger call has one of the stated outcomes

Each operation is followed once along its branches.  The result, `run_outcome`,
is the only fact about the text of the operations that arguments about runs
need.
-/

namespace Turnrail

open LedgerM LedgerCall LedgerState

variable {host : Foundation}

theorem Grows.refl
    (items : List Object)
    (messages : Table Data) :
    Grows host items messages messages where
  kept := id
  added := Or.inl

theorem Grows.trans
    {items : List Object}
    {first second third : Table Data}
    (earlier : Grows host items first second)
    (later : Grows host items second third) :
    Grows host items first third where
  kept present := later.kept (earlier.kept present)
  added present := (later.added present).elim earlier.added Or.inr

theorem Grows.mono
    {some all : List Object}
    {before after : Table Data}
    (grows : Grows host some before after)
    (subset : some ⊆ all) :
    Grows host all before after where
  kept := grows.kept
  added present := by
    rcases grows.added present with old | ⟨item, member, same⟩
    · exact .inl old
    · exact .inr ⟨item, subset member, same⟩

theorem Grows.insert
    {messages : Table Data}
    {item : Object}
    (absent : messages.lookup (digest host item) = none) :
    Grows host [item] messages
      (messages.insert (digest host item) (RouterJSON.data host item)) where
  kept := by
    intro name bytes present
    rw [Table.lookup_insert]
    split
    · rename_i same
      rw [same, absent] at present
      contradiction
    · exact present
  added := by
    intro name bytes present
    rw [Table.lookup_insert] at present
    split at present
    · rename_i same
      exact .inr ⟨item, List.mem_singleton_self item, same, (Option.some.inj present).symm⟩
    · exact .inl present

theorem Filed.grow
    {before after : Table Data}
    {items added : List Object}
    (filed : Filed host before items)
    (grows : Grows host added before after) :
    Filed host after items := by
  intro item member
  obtain ⟨bytes, present⟩ := Option.isSome_iff_exists.mp (filed item member)
  rw [grows.kept present]
  rfl

theorem Filed.nil (messages : Table Data) : Filed host messages [] := by
  intro item member
  contradiction

theorem Filed.append
    {messages : Table Data}
    {first second : List Object}
    (left : Filed host messages first)
    (right : Filed host messages second) :
    Filed host messages (first ++ second) := by
  intro item member
  exact (List.mem_append.mp member).elim (left item) (right item)

variable (host) in
/-- Messages are filed and nothing else changes. -/
structure Filing (items : List Object) (before after : Session) : Prop where
  memory : after.ledger.state = before.ledger.state
  saved : after.ledger.disk.ledger = before.ledger.disk.ledger
  grows : Grows host items before.ledger.disk.messages after.ledger.disk.messages
  writes : after.writes ⊆ before.writes

theorem Filing.refl
    (items : List Object)
    (session : Session) :
    Filing host items session session :=
  ⟨rfl, rfl, .refl _ _, List.Subset.refl _⟩

theorem Filing.mono
    {some all : List Object}
    {before after : Session}
    (filing : Filing host some before after)
    (subset : some ⊆ all) :
    Filing host all before after :=
  ⟨filing.memory, filing.saved, filing.grows.mono subset, filing.writes⟩

theorem Filing.trans
    {items : List Object}
    {first second third : Session}
    (earlier : Filing host items first second)
    (later : Filing host items second third) :
    Filing host items first third :=
  ⟨later.memory.trans earlier.memory, later.saved.trans earlier.saved,
    earlier.grows.trans later.grows,
    List.Subset.trans later.writes earlier.writes⟩

theorem Faulty.mono
    {some all : List WriteOutcome}
    (faulty : Faulty some)
    (subset : some ⊆ all) :
    Faulty all := by
  obtain ⟨outcome, member, fault⟩ := faulty
  exact ⟨outcome, subset member, fault⟩

/-- A call that neither reads nor stores messages. -/
def LedgerCall.plain : LedgerCall → Bool
  | .history _ _ | .saveHistory _ _ | .complete _ _ _ _ => false
  | _ => true

namespace RouterLedger

theorem ends_writePrivate
    (replace : Disk → Disk)
    (session : Session) :
    (writePrivate replace).Ends session fun result reached =>
      reached.ledger.state = session.ledger.state ∧
      reached.writes = session.writes.drop 1 ∧
      (reached.ledger.disk = session.ledger.disk ∨
        reached.ledger.disk = replace session.ledger.disk) ∧
      (result.isOk = true → reached.ledger.disk = replace session.ledger.disk) ∧
      (result.isOk = true ↔ session.writes.getD 0 .committed = .committed) := by
  obtain ⟨ledger, writes⟩ := session
  cases writes with
  | nil => simp [writePrivate, Except.isOk, Except.toBool]
  | cons outcome rest =>
    cases outcome <;>
      simp [writePrivate, WriteOutcome.renamed, WriteOutcome.failure,
        Except.isOk, Except.toBool]

theorem faulty_of_not_committed
    {writes : List WriteOutcome}
    (fails : writes.getD 0 .committed ≠ .committed) :
    Faulty writes := by
  cases writes with
  | nil => exact absurd rfl fails
  | cons outcome rest => exact ⟨outcome, List.mem_cons_self, fails⟩

/-- A change of the memory was saved, or not. -/
structure Saved (writes : List WriteOutcome) (before after : Ledger)
    (succeeded : Bool) : Prop where
  memory : after.state = before.state
  messages : after.disk.messages = before.disk.messages
  lags : after.disk.ledger = before.disk.ledger ∨ after.disk.ledger = some after.state
  durable : succeeded → after.disk.ledger = some after.state
  faulty : succeeded = false → Faulty writes

theorem ends_persist (session : Session) :
    persist.Ends session fun result reached =>
      Saved session.writes session.ledger reached.ledger result.isOk ∧
      (result.isOk = true ↔ session.writes.getD 0 .committed = .committed) := by
  simp only [persist, ends_bind, ends_state]
  refine (ends_writePrivate _ session).mono ?_
  intro result reached written
  obtain ⟨memory, _, either, success, succeeds⟩ := written
  refine ⟨⟨memory, ?_, ?_, ?_, ?_⟩, succeeds⟩
  · rcases either with same | new
    · rw [same]
    · rw [new]
  · rcases either with same | new
    · exact .inl (by rw [same])
    · exact .inr (by rw [new, memory])
  · intro succeeded
    rw [success succeeded, memory]
  · intro failed
    exact faulty_of_not_committed fun committed => by simp [succeeds.mpr committed] at failed

theorem ends_put_persist
    (change : LedgerState → LedgerState)
    (session : Session) :
    (do put change; persist : LedgerM Unit).Ends session fun result reached =>
      Saved session.writes
        { session.ledger with state := change session.ledger.state }
        reached.ledger result.isOk ∧
      (result.isOk = true ↔ session.writes.getD 0 .committed = .committed) := by
  simp only [ends_bind, ends_put]
  exact ends_persist _

variable (host) in
/-- What a call does to a session. -/
inductive Conduct (session : Session) (call : LedgerCall) :
    Except PlainError call.Value → Session → Prop
  | answered {result} :
      Answers host session.ledger call result →
      call.alters host session.ledger.state = false →
      Conduct session call result session
  | changed {result reached} (change : Change) :
      Makes host session.ledger.state call [change] →
      Saved session.writes { session.ledger with state := session.ledger.state.change change }
          reached.ledger result.isOk ∧
        (result.isOk = true ↔ session.writes.getD 0 .committed = .committed) →
      Conduct session call result reached

section Conducts

variable {session : Session}

theorem Conduct.refused
    {call : LedgerCall}
    {failure : PlainError}
    (unaltered : call.alters host session.ledger.state = false) :
    Conduct host session call (.error failure) session :=
  .answered (.refused call failure) unaltered

theorem Conduct.outcome
    {call : LedgerCall}
    {result : Except PlainError call.Value}
    {reached : Session}
    (conduct : Conduct host session call result reached)
    (silent : call.items = []) :
    Outcome host session.writes session.ledger call result reached.ledger := by
  cases conduct with
  | answered answers => exact .answered answers rfl rfl (.refl _ _)
  | changed change makes saves =>
    obtain ⟨saved, -⟩ := saves
    refine .changed [change] makes saved.memory saved.lags saved.durable saved.faulty ?_ ?_
    · rw [saved.messages]
      exact .refl _ _
    · rw [silent]
      exact .nil _

variable (session)

theorem bound_conduct (key : String) :
    (bound key).Ends session (Conduct host session (.bound key)) := by
  simp only [bound, ends_bind, ends_state, ends_ite, ends_reject, ends_pure]
  split
  · exact .refused rfl
  · rename_i continues
    exact .answered (.bound (by simpa using continues)) rfl

theorem bind_conduct
    (key : String)
    (account : UUID) :
    (bind key account).Ends session
      (Conduct host session (.bind key account)) := by
  simp only [bind, bound, ends_bind, ends_state, ends_ite, ends_reject, ends_pure]
  split
  · rename_i failed
    exact .refused (by simp [LedgerCall.alters, failed])
  · rename_i continues
    have continues : session.ledger.state.isFailed key = false := by simpa using continues
    cases existing : session.ledger.state.bindings.lookup key with
    | none =>
      exact (ends_put_persist _ session).mono fun _ _ => .changed _ (.bind continues existing)
    | some current =>
      have kept : (LedgerCall.bind key account).alters host session.ledger.state = false := by
        simp [LedgerCall.alters, existing]
      simp only [ends_ite, ends_pure, ends_reject]
      split
      · rename_i same
        subst same
        exact .answered (.bind ⟨continues, existing⟩) kept
      · exact .refused kept

theorem registerTitle_conduct
    (thread cwd : String)
    (account : UUID) :
    (registerTitle thread cwd account).Ends session
      (Conduct host session (.registerTitle thread cwd account)) := by
  simp only [registerTitle, ends_bind, ends_state]
  cases existing : session.ledger.state.titles.lookup thread with
  | none => exact (ends_put_persist _ session).mono fun _ _ =>
    .changed _ (.registerTitle existing)
  | some current =>
    have kept : (LedgerCall.registerTitle thread cwd account).alters host
        session.ledger.state = false := by
      simp [LedgerCall.alters, existing]
    simp only [ends_ite, ends_pure, ends_reject]
    split
    · rename_i same
      subst same
      exact .answered (.registerTitle existing) kept
    · exact .refused kept

theorem title_conduct (thread : String) :
    (title thread).Ends session (Conduct host session (.title thread)) := by
  simp only [title, ends_bind, ends_state, ends_pure]
  exact .answered .title rfl

theorem completedAccount_conduct (thread : String) :
    (completedAccount thread).Ends session
      (Conduct host session (.completedAccount thread)) := by
  simp only [completedAccount, ends_bind, ends_state]
  cases existing : session.ledger.state.completed.lookup thread with
  | none => exact .refused rfl
  | some account => exact .answered (.completedAccount existing) rfl

theorem stop_conduct (thread turn : String) :
    (stop host thread turn).Ends session
      (Conduct host session (.stop thread turn)) := by
  unfold stop
  cases named : RouterLedger.key host thread turn with
  | error failure => exact .refused (by simp [alters, named])
  | ok key =>
    simp only [bound, ends_bind, ends_state, ends_ite, ends_reject, ends_pure]
    split
    · rename_i failed
      exact .refused (by simp [alters, named, failed])
    · rename_i continues
      have continues : session.ledger.state.isFailed key = false := by simpa using continues
      cases existing : session.ledger.state.bindings.lookup key with
      | none => exact .refused (by simp [alters, named, existing])
      | some account =>
        exact (ends_put_persist _ session).mono fun _ _ =>
          .changed _ (.stop named ⟨continues, existing⟩)

section

variable (fingerprint turn : String)

theorem begin_conduct :
    (begin fingerprint turn).Ends session
      (Conduct host session (.begin fingerprint turn)) := by
  simp only [begin, bound, ends_bind, ends_state, ends_ite, ends_reject, ends_pure]
  split
  · rename_i failed
    exact .refused (by simp [alters, failed])
  · rename_i continues
    have continues : session.ledger.state.isFailed turn = false := by simpa using continues
    cases existing : session.ledger.state.bindings.lookup turn with
    | none => exact .refused (by simp [alters, existing])
    | some account =>
      simp only [ends_bind, ends_state]
      cases saved : session.ledger.state.requests.lookup fingerprint with
      | none =>
        exact (ends_put_persist _ session).mono fun _ _ =>
          .changed _ (.first ⟨continues, existing⟩ saved)
      | some request =>
        obtain ⟨owner, current⟩ := request
        simp only [ends_ite, ends_reject]
        split
        · rename_i same
          subst same
          cases admitted : resubmission current with
          | none => exact .refused (by simp [alters, saved, admitted])
          | some next =>
            exact (ends_put_persist _ session).mono fun _ _ =>
              .changed _ (.again ⟨continues, existing⟩ saved admitted)
        · rename_i other
          exact .refused (by simp [alters, saved, other])

theorem interrupt_conduct :
    (interrupt fingerprint turn).Ends session
      (Conduct host session (.interrupt fingerprint turn)) := by
  simp only [interrupt, ends_bind, ends_state]
  cases saved : session.ledger.state.requests.lookup fingerprint with
  | none => exact .refused (by simp [alters, awaits, saved])
  | some request =>
    obtain ⟨owner, current⟩ := request
    simp only [ends_ite, ends_reject]
    split
    · rename_i same
      subst same
      cases current with
      | forwarding | retrying =>
        exact (ends_put_persist _ session).mono fun _ _ => .changed _ (.interrupt saved rfl)
      | _ =>
        exact .refused (by
          simp [alters, awaits, saved, RequestState.inFlight])
    · rename_i other
      exact .refused (by simp [alters, awaits, saved, other])

theorem cancel_conduct :
    (cancel fingerprint turn).Ends session
      (Conduct host session (.cancel fingerprint turn)) := by
  simp only [cancel, ends_bind, ends_state]
  cases saved : session.ledger.state.requests.lookup fingerprint with
  | none => exact .refused (by simp [alters, awaits, saved])
  | some request =>
    obtain ⟨owner, current⟩ := request
    simp only [ends_ite, ends_reject]
    split
    · rename_i same
      subst same
      cases current with
      | completed | cancelled =>
        exact .answered (.cancel saved (by simp)) (by
          simp [alters, awaits, saved, RequestState.inFlight])
      | forwarding | retrying =>
        exact (ends_put_persist _ session).mono fun _ _ => .changed _ (.cancel saved rfl)
      | interrupted | interruptedRetry | connectionLimited =>
        exact .refused (by
          simp [alters, awaits, saved, RequestState.inFlight])
    · rename_i other
      exact .refused (by simp [alters, awaits, saved, other])

theorem rejectConnectionLimit_conduct :
    (rejectConnectionLimit fingerprint turn).Ends session
      (Conduct host session (.rejectConnectionLimit fingerprint turn)) := by
  simp only [rejectConnectionLimit, ends_bind, ends_state]
  cases saved : session.ledger.state.requests.lookup fingerprint with
  | none => exact .refused (by simp [alters, saved])
  | some request =>
    obtain ⟨owner, current⟩ := request
    cases current with
    | forwarding =>
      simp only [ends_ite, ends_reject]
      split
      · rename_i same
        subst same
        exact (ends_put_persist _ session).mono fun _ _ =>
          .changed _ (.rejectConnectionLimit saved)
      · rename_i other
        exact .refused (by simp [alters, saved, other])
    | _ => exact .refused (by simp [alters, saved])

theorem finish_conduct :
    (finish fingerprint turn).Ends session
      (Conduct host session (.finish fingerprint turn)) := by
  simp only [finish, ends_bind, ends_state]
  cases saved : session.ledger.state.requests.lookup fingerprint with
  | none => exact .refused (by simp [alters, awaits, saved])
  | some request =>
    obtain ⟨owner, current⟩ := request
    simp only [ends_ite, ends_reject]
    split
    · rename_i same
      obtain ⟨rfl, inFlight⟩ := same
      exact (ends_put_persist _ session).mono fun _ _ => .changed _ (.finish saved inFlight)
    · rename_i other
      exact .refused (by simpa [alters, awaits, saved] using other)

end

theorem fail_conduct (turn : String) :
    (fail turn).Ends session (Conduct host session (.fail turn)) :=
  (ends_put_persist _ session).mono fun _ _ => .changed _ .fail

end Conducts

/-- An operation whose answer depends on the ledger only and that changes
nothing. -/
def Reads (operation : LedgerM α) : Prop :=
  ∃ answer : Ledger → Except PlainError α,
    ∀ session, operation session = (answer session.ledger, session)

theorem Reads.pure (value : α) : Reads (pure value : LedgerM α) :=
  ⟨fun _ => .ok value, fun _ => rfl⟩

theorem Reads.throw (failure : PlainError) :
    Reads (throw failure : LedgerM α) :=
  ⟨fun _ => .error failure, fun _ => rfl⟩

theorem Reads.bind
    {operation : LedgerM α}
    {next : α → LedgerM β}
    (first : Reads operation)
    (second : ∀ value, Reads (next value)) :
    Reads (operation >>= next) := by
  obtain ⟨answer, answers⟩ := first
  choose rest continues using second
  refine ⟨fun ledger => (answer ledger).bind fun value => rest value ledger, ?_⟩
  intro session
  simp only [Bind.bind, answers]
  cases answer session.ledger with
  | ok value => exact continues value session
  | error failure => rfl

theorem Reads.state : Reads state :=
  ⟨fun ledger => .ok ledger.state, fun _ => rfl⟩

theorem Reads.messages : Reads messages :=
  ⟨fun ledger => .ok ledger.disk.messages, fun _ => rfl⟩

theorem reads_readObject (bytes : Data) : Reads (readObject host bytes) := by
  unfold readObject
  split
  · exact .pure _
  · exact .throw _

theorem reads_readMessages
    (keys : List String)
    (byteCount : Nat) :
    Reads (readMessages host keys byteCount) := by
  induction keys generalizing byteCount with
  | nil => exact .pure _
  | cons key rest ih =>
    unfold readMessages
    split
    · apply Reads.messages.bind
      intro files
      split
      · exact .throw _
      · dsimp only
        split
        · apply (reads_readObject _).bind
          intro message
          apply (ih _).bind
          intro value
          exact .pure _
        · exact .throw _
    · exact .throw _

theorem reads_readChain
    (chain : List HistoryRecord)
    (byteCount : Nat) :
    Reads (readChain host chain byteCount) := by
  fun_induction readChain host chain byteCount with
  | case1 byteCount => exact .pure _
  | case2 record byteCount => exact reads_readMessages _ _
  | case3 record rest byteCount nonempty ih =>
    apply (reads_readMessages _ _).bind
    intro input
    apply (reads_readMessages _ _).bind
    intro output
    apply (ih _).bind
    intro later
    exact .pure _

theorem reads_history (id thread : String) :
    Reads (history host id thread) := by
  apply Reads.state.bind
  intro state
  split
  · exact .throw _
  · split
    · exact .throw _
    · apply (reads_readChain _ _).bind
      intro input
      apply (reads_readMessages _ _).bind
      intro output
      exact .pure _

theorem history_outcome
    (id thread : String)
    (session : Session) :
    (history host id thread).Ends session fun result reached =>
      Outcome host session.writes session.ledger (.history id thread) result
        reached.ledger := by
  obtain ⟨answer, answers⟩ := @reads_history host id thread
  have same : answer session.ledger = (call (history host id thread) session.ledger []).1 := by
    simp only [call, answers]
  simp only [LedgerM.Ends, answers, same]
  exact .answered (.history rfl) rfl rfl (.refl _ _)

theorem ends_storeMessage
    (item : Object)
    (session : Session) :
    (storeMessage host item).Ends session fun result reached =>
      Filing host [item] session reached ∧
      ∀ name, result = .ok name → name = digest host item ∧
          Filed host reached.ledger.disk.messages [item] := by
  simp only [storeMessage, ends_bind, ends_messages, ends_ite, ends_pure]
  split
  · rename_i absent
    refine (ends_writePrivate _ session).mono ?_
    intro result reached written
    obtain ⟨memory, rest, either, success, _⟩ := written
    have subset : reached.writes ⊆ session.writes := rest ▸ List.drop_subset 1 _
    have filing : Filing host [item] session reached := by
      rcases either with same | new
      · refine ⟨memory, by rw [same], ?_, subset⟩
        rw [same]
        exact .refl _ _
      · refine ⟨memory, by rw [new], ?_, subset⟩
        rw [new]
        exact .insert (Option.isNone_iff_eq_none.mp absent)
    cases result with
    | error failure => exact ⟨filing, by simp⟩
    | ok value =>
      refine ⟨filing, ?_⟩
      intro name same
      cases same
      refine ⟨rfl, ?_⟩
      intro other member
      rw [List.mem_singleton.mp member, success rfl]
      simp only [digest, Table.lookup_insert_self, Option.isSome_some]
  · rename_i present
    refine ⟨.refl _ _, ?_⟩
    intro name same
    cases same
    refine ⟨rfl, ?_⟩
    intro other member
    rw [List.mem_singleton.mp member]
    simpa [Option.isSome_iff_ne_none, digest] using present

theorem ends_storeMessages
    (items : List Object)
    (session : Session) :
    (storeMessages host items).Ends session fun result reached =>
      Filing host items session reached ∧
      ∀ names, result = .ok names → names = items.map (digest host) ∧
          Filed host reached.ledger.disk.messages items := by
  induction items generalizing session with
  | nil =>
    simp only [storeMessages, ends_pure]
    refine ⟨.refl _ _, ?_⟩
    intro names same
    cases same
    exact ⟨rfl, .nil _⟩
  | cons item rest ih =>
    simp only [storeMessages, ends_bind, ends_pure]
    refine (ends_storeMessage item session).mono ?_
    intro result reached stored
    obtain ⟨filing, named⟩ := stored
    have filing : Filing host (item :: rest) session reached := filing.mono (by simp)
    cases result with
    | error failure => exact ⟨filing, by simp⟩
    | ok name =>
      obtain ⟨rfl, filed⟩ := named name rfl
      refine (ih reached).mono ?_
      intro result final stored
      obtain ⟨later, listed⟩ := stored
      have both := filing.trans (later.mono (List.subset_cons_self _ _))
      cases result with
      | error failure => exact ⟨both, by simp⟩
      | ok names =>
        obtain ⟨rfl, remaining⟩ := listed names rfl
        refine ⟨both, ?_⟩
        intro all same
        cases same
        exact ⟨rfl, (filed.grow later.grows).append remaining⟩

theorem ends_storeHistory
    (id : String)
    (value : History)
    (session : Session) :
    (storeHistory host id value).Ends session fun result reached =>
      (∃ failure, result = .error failure ∧
        Filing host (value.input ++ value.output) session reached) ∨
      (result = .ok () ∧ session.ledger.state.history.lookup id = none ∧
        Filed host reached.ledger.disk.messages (value.input ++ value.output) ∧
        Filing host (value.input ++ value.output)
          ⟨⟨session.ledger.state.change (.respond id (value.stored host)),
            session.ledger.disk⟩, session.writes⟩
          reached) := by
  simp only [storeHistory, ends_bind, ends_state, ends_ite, ends_reject, ends_put]
  split
  · exact .inl ⟨_, rfl, .refl _ _⟩
  · rename_i fresh
    refine (ends_storeMessages value.input session).mono ?_
    intro result reached stored
    obtain ⟨filing, listed⟩ := stored
    have filing : Filing host (value.input ++ value.output) session reached :=
      filing.mono (List.subset_append_left _ _)
    cases result with
    | error failure => exact .inl ⟨failure, rfl, filing⟩
    | ok input =>
      obtain ⟨rfl, filed⟩ := listed input rfl
      refine (ends_storeMessages value.output reached).mono ?_
      intro result final stored
      obtain ⟨later, listed⟩ := stored
      have both := filing.trans (later.mono (List.subset_append_right _ _))
      cases result with
      | error failure => exact .inl ⟨failure, rfl, both⟩
      | ok output =>
        obtain ⟨rfl, remaining⟩ := listed output rfl
        refine .inr
          ⟨trivial, by simpa using fresh, (filed.grow later.grows).append remaining, ?_⟩
        exact ⟨by rw [both.memory]; rfl, both.saved, both.grows, both.writes⟩

theorem saveHistory_outcome
    (id : String)
    (value : History)
    (session : Session) :
    (saveHistory host id value).Ends session fun result reached =>
      Outcome host session.writes session.ledger (.saveHistory id value) result
        reached.ledger := by
  simp only [saveHistory, ends_bind]
  refine (ends_storeHistory id value session).mono ?_
  intro result reached stored
  rcases stored with ⟨failure, rfl, filing⟩ | ⟨rfl, fresh, filed, filing⟩
  · exact .answered (.refused _ _) filing.memory filing.saved filing.grows
  · refine (ends_persist reached).mono ?_
    rintro result final ⟨saved, -⟩
    refine .changed _ (.saveHistory fresh) ?_ ?_ saved.durable ?_ ?_ ?_
    · rw [saved.memory, filing.memory]
      rfl
    · rw [← filing.saved]
      exact saved.lags
    · intro failed
      exact (saved.faulty failed).mono filing.writes
    · rw [saved.messages]
      exact filing.grows
    · rw [saved.messages]
      exact filed

theorem complete_outcome
    (fingerprint turn response : String)
    (value : History)
    (session : Session) :
    (complete host fingerprint turn response value).Ends
      session fun result reached => Outcome host session.writes session.ledger
      (.complete fingerprint turn response value) result reached.ledger := by
  simp only [complete, ends_bind]
  refine (ends_storeHistory response value session).mono ?_
  intro result reached stored
  rcases stored with ⟨failure, rfl, filing⟩ | ⟨rfl, fresh, filed, filing⟩
  · exact .answered (.refused _ _) filing.memory filing.saved filing.grows
  · have requests : reached.ledger.state.requests = session.ledger.state.requests := by
      rw [filing.memory]
      rfl
    refine (@finish_conduct host reached fingerprint turn).mono ?_
    intro result final conduct
    cases conduct with
    | answered answers =>
      cases answers
      exact .unfinished fresh filing.memory filing.saved filing.grows filed
    | changed change makes saves =>
      obtain ⟨saved, -⟩ := saves
      cases makes with
      | finish known inFlight =>
        rw [requests] at known
        refine .changed _ (.complete fresh known inFlight) ?_ ?_ saved.durable ?_ ?_ ?_
        · rw [saved.memory, filing.memory]
          rfl
        · rw [← filing.saved]
          exact saved.lags
        · intro failed
          exact (saved.faulty failed).mono filing.writes
        · rw [saved.messages]
          exact filing.grows
        · rw [saved.messages]
          exact filed

theorem run_conduct
    (call : LedgerCall)
    (plain : call.plain = true)
    (session : Session) :
    (call.run host).Ends session (Conduct host session call) := by
  cases call with
  | bound key => exact bound_conduct session key
  | bind key account => exact bind_conduct session key account
  | registerTitle thread cwd account => exact registerTitle_conduct session thread cwd account
  | title thread => exact title_conduct session thread
  | completedAccount thread => exact completedAccount_conduct session thread
  | stop thread turn => exact stop_conduct session thread turn
  | history | saveHistory | complete => cases plain
  | begin fingerprint turn => exact begin_conduct session fingerprint turn
  | interrupt fingerprint turn => exact interrupt_conduct session fingerprint turn
  | cancel fingerprint turn => exact cancel_conduct session fingerprint turn
  | rejectConnectionLimit fingerprint turn =>
    exact rejectConnectionLimit_conduct session fingerprint turn
  | finish fingerprint turn => exact finish_conduct session fingerprint turn
  | fail turn => exact fail_conduct session turn

end RouterLedger

theorem LedgerCall.run_outcome
    (call : LedgerCall)
    (session : Session) :
    (call.run host).Ends session fun result reached => Outcome host
      session.writes session.ledger call result reached.ledger := by
  cases call with
  | history id thread => exact RouterLedger.history_outcome id thread session
  | saveHistory id value => exact RouterLedger.saveHistory_outcome id value session
  | complete fingerprint turn response value =>
    exact RouterLedger.complete_outcome fingerprint turn response value session
  | _ => exact (RouterLedger.run_conduct _ rfl session).mono fun _ _ conduct =>
    conduct.outcome rfl

theorem LedgerCall.outcome
    {call : LedgerCall}
    {ledger after : Ledger}
    {writes : List WriteOutcome}
    {result : Except PlainError call.Value}
    (called :
      RouterLedger.call (call.run host) ledger writes = (result, after)) :
    Outcome host writes ledger call result after := by
  obtain ⟨rfl, rfl⟩ := Prod.mk.inj called
  exact call.run_outcome ⟨ledger, writes⟩

end Turnrail
