import Turnrail.Ledger.Growth
import Mathlib.Algebra.GroupWithZero.Nat

/-!
# Conversations in the ledger

The ledger stores of each response only what it added: the messages sent and the
messages received, each by its content identity.  A conversation is a response
together with those it continues.  `RouterLedger.history` walks such a chain
backwards and reads it forwards; `history_eq` says what it returns in terms of
the responses alone, as long as every message has its file.
-/

namespace Turnrail

open RouterLedger History List RouterJSON

/-- The messages that a response added. -/
def History.messages (value : History) : List Object :=
  value.input ++ value.output

/-- The error for a conversation with too many bytes. -/
def oversized : PlainError :=
  .failure ⟨"Response history is corrupt or exceeds the supported size."⟩

section Definitions

variable (host : Foundation)

/-- The responses of a task from the start of a conversation to the given
one. -/
inductive Conversation (histories : Table HistoryRecord) (thread : String) :
    String → List History → Prop
  | first {id value} :
      histories.lookup id = some (value.stored host) →
      value.thread = thread → value.previous = none →
      Conversation histories thread id [value]
  | next {id previous earlier value} :
      histories.lookup id = some (value.stored host) →
      value.thread = thread → value.previous = some previous →
      previous.isEmpty = false →
      Conversation histories thread previous earlier →
      Conversation histories thread id (earlier ++ [value])

/-- The number of bytes of some messages. -/
def byteCount (items : List Object) : Nat :=
  (items.map fun item => (data host item).length).sum

/-- The conversation that the ledger should return for some responses: all
their messages in order, with the output of the last one kept apart. -/
def reconstruct (responses : List History) : Except PlainError History :=
  match responses.getLast? with
  | none => .error (.failure ⟨"Missing response history."⟩)
  | some value =>
    if maximumHistoryRecords < responses.length then
      .error (.failure unknownResponse)
    else if maximumHistoryBytes < byteCount host (responses.flatMap messages) then
      .error oversized
    else
      .ok { value with
        input := responses.dropLast.flatMap messages ++ value.input }

/-- A message is filed under its digest. -/
structure Archived (messages : Table Data) (item : Object) : Prop where
  file : messages.lookup (digest host item) = some (data host item)
  reads : object host (data host item) = .ok item

end Definitions

variable {host : Foundation}

section Identities

theorem isContentDigit_digitChar
    {digit : Nat}
    (small : digit < 16) :
    isContentDigit (Nat.digitChar digit) = true := by
  have all : ∀ digit : Fin 16, isContentDigit (Nat.digitChar digit.val) = true := by decide
  exact all ⟨digit, small⟩

theorem hexadecimal_digits (byte : UInt8) :
    (hexadecimal byte).all isContentDigit = true := by
  have bound := byte.toNat_lt
  have high : byte.toNat / 16 < 16 := by omega
  have low : byte.toNat % 16 < 16 := by omega
  simp [hexadecimal, isContentDigit_digitChar high, isContentDigit_digitChar low]

theorem digest_digits (item : Object) :
    (digest host item).toList.length = 64 ∧
      (digest host item).toList.all isContentDigit = true := by
  simp only [digest, RouterJSON.hash, String.toList_ofList]
  constructor
  · have pairs : ∀ byte, (RouterJSON.hexadecimal byte).length = 2 := fun _ => rfl
    simp [length_flatMap, pairs]
  · rw [all_flatMap, all_eq_true]
    intro byte _
    exact hexadecimal_digits byte

end Identities

section Reading

theorem byteCount_append (first second : List Object) :
    byteCount host (first ++ second) =
      byteCount host first + byteCount host second := by
  simp [byteCount]

theorem byteCount_cons
    (item : Object)
    (rest : List Object) :
    byteCount host (item :: rest) =
      (data host item).length + byteCount host rest := by
  simp [byteCount]

variable {session : Session} {total size : Nat} {items : List Object}

theorem ends_readObject
    {bytes : Data}
    {object : Object}
    (reads : RouterJSON.object host bytes = .ok object)
    (post : Except PlainError Object → Session → Prop) :
    (readObject host bytes).Ends session post ↔ post (.ok object) session := by
  rw [readObject, reads]
  exact LedgerM.ends_pure session object post

/-- An operation that reads a value of some bytes on top of those read before,
up to the supported size, and changes nothing. -/
def Measured (session : Session) (total size : Nat) (value : α)
    (operation : LedgerM (α × Nat)) : Prop :=
  operation.Ends session fun result reached => reached = session ∧ result =
      if total + size ≤ maximumHistoryBytes then .ok (value, total + size)
      else .error oversized

theorem Measured.pure
    (small : total ≤ maximumHistoryBytes)
    (value : α) :
    Measured session total 0 value (pure (value, total)) := by
  rw [Measured, Nat.add_zero, if_pos small]
  exact ⟨rfl, rfl⟩

variable {operation : LedgerM (α × Nat)}

theorem Measured.ends
    {value : α}
    {next : α × Nat → LedgerM β}
    {post : Except PlainError β → Session → Prop}
    (measured : Measured session total size value operation)
    (continues : total + size ≤ maximumHistoryBytes →
      (next (value, total + size)).Ends session post)
    (stops : maximumHistoryBytes < total + size →
      post (.error oversized) session) :
    (operation >>= next).Ends session post := by
  rw [LedgerM.ends_bind]
  refine LedgerM.Ends.mono measured ?_
  rintro outcome reached ⟨rfl, same⟩
  split at same
  · rename_i fits
    subst same
    exact continues fits
  · rename_i exceeds
    subst same
    exact stops (Nat.lt_of_not_le exceeds)

variable {session : Session}

/-- What is read after something else comes on top of it. -/
theorem Measured.bind
    {total size more : Nat}
    {value : α}
    {result : β}
    {next : α × Nat → LedgerM (β × Nat)}
    (first : Measured session total size value operation)
    (second : total + size ≤ maximumHistoryBytes → Measured session (total +
        size) more result (next (value, total + size))) :
    Measured session total (size + more) result (operation >>= next) := by
  refine first.ends ?_ ?_
  · intro fits
    rw [← Nat.add_assoc]
    exact second fits
  · intro exceeds
    rw [if_neg (by omega)]
    exact ⟨rfl, rfl⟩

theorem Measured.message
    {item : Object}
    {rest : List String}
    (archived : Archived host session.ledger.disk.messages item)
    (second : total + (RouterJSON.data host item).length ≤ maximumHistoryBytes →
      Measured session (total + (RouterJSON.data host item).length) size items
        (readMessages host rest (total + (RouterJSON.data host item).length))) :
    Measured session total ((RouterJSON.data host item).length + size)
      (item :: items) (readMessages host (digest host item :: rest) total) := by
  rw [Measured, readMessages, LedgerM.ends_ite, if_pos (digest_digits item)]
  simp only [LedgerM.ends_bind, ends_messages, archived.file,
    LedgerM.ends_ite, ends_readObject archived.reads, LedgerM.ends_pure,
    ends_reject]
  rw [← Nat.add_assoc]
  split
  · rename_i fits
    refine LedgerM.Ends.mono (second fits.1) ?_
    rintro outcome reached ⟨rfl, same⟩
    split at same
    · rename_i all
      subst same
      rw [if_pos all]
      exact ⟨rfl, rfl⟩
    · rename_i exceeds
      subst same
      rw [if_neg exceeds]
      exact ⟨rfl, rfl⟩
  · rename_i exceeds
    have large : ¬total + (RouterJSON.data host item).length ≤
        maximumHistoryBytes := fun fits => exceeds ⟨fits, rfl⟩
    rw [if_neg (by omega)]
    exact ⟨trivial, rfl⟩

theorem measured_readMessages
    (archived : ∀ item ∈ items, Archived host session.ledger.disk.messages item)
    (small : total ≤ maximumHistoryBytes) :
    Measured session total (byteCount host items) items
      (readMessages host (items.map (digest host)) total) := by
  induction items generalizing total with
  | nil => exact .pure small []
  | cons item rest ih =>
    rw [byteCount_cons]
    refine .message (archived item mem_cons_self) fun fits => ?_
    exact ih (fun other member => archived other (mem_cons_of_mem _ member)) fits

theorem readChain_cons
    {rest : List HistoryRecord}
    (record : HistoryRecord)
    (more : rest ≠ [])
    (total : Nat) :
    readChain host (record :: rest) total = (do
        let (input, total) ← readMessages host record.input total
        let (output, total) ← readMessages host record.output total
        let (later, total) ← readChain host rest total
        return (input ++ output ++ later, total)) := by
  cases rest with
  | nil => exact absurd rfl more
  | cons next others => rfl

theorem measured_readChain
    {earlier : List History}
    {last : History}
    {total : Nat}
    (archived : ∀ value ∈ earlier ++ [last], ∀ item ∈ value.messages,
      Archived host session.ledger.disk.messages item)
    (small : total ≤ maximumHistoryBytes) :
    Measured session total
      (byteCount host (earlier.flatMap History.messages ++ last.input))
      (earlier.flatMap History.messages ++ last.input)
      (readChain host ((earlier ++ [last]).map (History.stored host))
        total) := by
  induction earlier generalizing total with
  | nil =>
    refine measured_readMessages ?_ small
    intro item member
    exact archived last (by simp) item (mem_append_left _ member)
  | cons value rest ih =>
    have head := archived value (by simp)
    have tail : ∀ other ∈ rest ++ [last], ∀ item ∈ other.messages,
        Archived host session.ledger.disk.messages item :=
      fun other member => archived other (mem_cons_of_mem value member)
    have more : (rest ++ [last]).map (History.stored host) ≠ [] := by simp
    have size : byteCount host ((value :: rest).flatMap History.messages ++ last.input) =
        byteCount host value.input + (byteCount host value.output + (byteCount host
              (rest.flatMap History.messages ++ last.input) + 0)) := by
      simp only [flatMap_cons, History.messages, byteCount_append]
      omega
    rw [cons_append, map_cons, readChain_cons _ more, size]
    refine (measured_readMessages (fun item member =>
      head item (mem_append_left _ member)) small).bind fun fits => ?_
    refine (measured_readMessages (fun item member =>
      head item (mem_append_right _ member)) fits).bind fun fits => ?_
    refine (ih tail fits).bind fun fits => ?_
    simpa [History.messages] using Measured.pure fits (value.input ++ value.output ++
        (rest.flatMap History.messages ++ last.input))

end Reading

section Walking

variable {histories : Table HistoryRecord} {thread id : String}
variable {responses : List History}

section

variable (conversation : Conversation host histories thread id responses)
include conversation

theorem Conversation.last :
    ∃ earlier value, responses = earlier ++ [value] ∧
      histories.lookup id = some (value.stored host) ∧
      value.thread = thread := by
  cases conversation with
  | first known same _ => exact ⟨[], _, rfl, known, same⟩
  | next known same _ _ _ => exact ⟨_, _, rfl, known, same⟩

theorem Conversation.records_unique
    {task : String}
    {others : List History}
    (other : Conversation host histories task id others) :
    responses.map (stored host) = others.map (stored host) := by
  induction conversation generalizing others with
  | @first id value known _ starts =>
    cases other with
    | first known' _ _ =>
      rw [known] at known'
      simpa using known'
    | next known' _ continues _ _ =>
      rw [known] at known'
      have same := congrArg HistoryRecord.previous (Option.some.inj known')
      rw [stored, stored, starts, continues] at same
      cases same
  | @next id previous earlier value known _ continues _ _ ih =>
    cases other with
    | first known' _ starts =>
      rw [known] at known'
      have same := congrArg HistoryRecord.previous (Option.some.inj known')
      rw [stored, stored, continues, starts] at same
      cases same
    | next known' _ continues' _ before =>
      rw [known] at known'
      have same := congrArg HistoryRecord.previous (Option.some.inj known')
      rw [stored, stored, continues, continues'] at same
      cases same
      rw [map_append, map_append, ih before]
      simpa using known'

theorem Conversation.grow
    {later : Table HistoryRecord}
    (grows : ∀ {other record}, histories.lookup other = some record →
      later.lookup other = some record) :
    Conversation host later thread id responses := by
  induction conversation with
  | first known same starts => exact .first (grows known) same starts
  | next known same continues named _ ih => exact .next (grows known) same continues named ih

end

variable {allowance : Nat} {visited : List String}

theorem collectChain_eq
    (conversation : Conversation host histories thread id responses)
    (newer : ∀ other ∈ visited,
      ∃ longer, Conversation host histories thread other longer ∧
      responses.length < longer.length) :
    collectChain histories thread allowance visited id =
      if responses.length ≤ allowance then
        .ok (responses.map (stored host)).reverse
      else .error unknownResponse := by
  induction conversation generalizing allowance visited with
  | @first id value known same starts =>
    have fresh : id ∉ visited := by
      intro member
      obtain ⟨longer, found, more⟩ := newer id member
      have equal := congrArg length
        ((Conversation.first known same starts).records_unique found)
      simp only [length_map] at equal
      omega
    cases allowance with
    | zero => rfl
    | succ allowance =>
      rw [collectChain, if_neg fresh, known]
      simp [stored, same, starts]
  | @next id previous earlier value known same continues named before
      ih =>
      have whole := Conversation.next known same continues named before
      have fresh : id ∉ visited := by
        intro member
        obtain ⟨longer, found, more⟩ := newer id member
        have equal := congrArg length (whole.records_unique found)
        simp only [length_map] at equal
        omega
      have older : ∀ other ∈ id :: visited, ∃ longer,
          Conversation host histories thread other longer ∧
              earlier.length < longer.length := by
        intro other member
        rcases mem_cons.mp member with rfl | member
        · exact ⟨_, whole, by simp⟩
        · obtain ⟨longer, found, more⟩ := newer other member
          simp only [length_append, length_singleton] at more
          exact ⟨longer, found, by omega⟩
      cases allowance with
      | zero => simp [collectChain]
      | succ allowance =>
        rw [collectChain, if_neg fresh, known]
        simp only [stored, same, continues, if_true, named, Bool.false_eq_true, if_false]
        rw [ih older]
        by_cases fits : earlier.length ≤ allowance
        · simp [fits, Except.map, stored, same, continues]
        · simp [fits, Except.map]

theorem collectChain_other
    (other : ∀ record, histories.lookup id = some record →
      record.thread ≠ thread) :
    collectChain histories thread allowance visited id =
      .error unknownResponse := by
  cases allowance with
  | zero => rfl
  | succ allowance =>
    rw [collectChain]
    split
    · rfl
    · cases known : histories.lookup id with
      | none => rfl
      | some record => simp [other record known]

variable {ledger : Ledger}

theorem history_other
    (other : ∀ record, ledger.state.history.lookup id = some record →
      record.thread ≠ thread) :
    (call (history host id thread) ledger []).1 =
      .error (.failure unknownResponse) := by
  suffices ends : (history host id thread).Ends ⟨ledger, []⟩
      fun result _ => result = .error (.failure unknownResponse) from ends
  simp only [history, LedgerM.ends_bind, ends_state, collectChain_other other]
  rfl

theorem record_of_history
    {conversation : History}
    (reads : (call (history host id thread) ledger []).1 = .ok conversation) :
    ∃ record, ledger.state.history.lookup id = some record ∧
      record.thread = thread := by
  by_contra absent
  have other : ∀ record, ledger.state.history.lookup id = some record →
      record.thread ≠ thread :=
    fun record known same => absent ⟨record, known, same⟩
  rw [history_other other] at reads
  cases reads

theorem history_eq
    (conversation : Conversation host ledger.state.history thread id responses)
    (archived : ∀ value ∈ responses, ∀ item ∈ value.messages,
      Archived host ledger.disk.messages item) :
    (call (history host id thread) ledger []).1 =
      reconstruct host responses := by
  obtain ⟨earlier, value, rfl, known, same⟩ := conversation.last
  have small : 0 ≤ maximumHistoryBytes := Nat.zero_le _
  have walked := @collectChain_eq host ledger.state.history thread id
    (earlier ++ [value]) maximumHistoryRecords [] conversation (by simp)
  suffices ends : (history host id thread).Ends ⟨ledger, []⟩
      fun result _ => result = reconstruct host (earlier ++ [value]) from
    ends
  simp only [history, LedgerM.ends_bind, ends_state, walked, reconstruct,
    getLast?_concat, dropLast_concat]
  by_cases long : maximumHistoryRecords < (earlier ++ [value]).length
  · rw [if_neg (Nat.not_le.mpr long), if_pos long]
    exact rfl
  · have newest : ((earlier ++ [value]).map (stored host)).reverse =
        value.stored host :: (earlier.map (stored host)).reverse := by
      simp
    have oldest : (value.stored host ::
          (earlier.map (stored host)).reverse).reverse =
        (earlier ++ [value]).map (stored host) := by
      simp
    rw [if_pos (Nat.le_of_not_lt long), if_neg long, newest]
    dsimp only
    rw [oldest]
    have size : byteCount host ((earlier ++ [value]).flatMap messages) =
        byteCount host (earlier.flatMap messages ++ value.input) +
          byteCount host value.output := by
      rw [flatMap_append, flatMap_singleton, History.messages,
        ← append_assoc, byteCount_append]
    have outputs : ∀ item ∈ value.output,
        Archived host ledger.disk.messages item := fun item member =>
      archived value (by simp) item (mem_append_right _ member)
    have chained := @measured_readChain host ⟨ledger, []⟩ earlier value 0 archived small
    refine chained.ends (fun fits => ?_) fun exceeds => ?_
    · refine (measured_readMessages outputs fits).ends (fun fits => ?_) fun exceeds => ?_
      · rw [size, if_neg (by omega)]
        rfl
      · rw [size, if_pos (by omega)]
    · rw [size, if_pos (by omega)]

end Walking

section Storing

variable (host) in
/-- Responses whose messages can be told apart by their content identities and
read back from their canonical bytes. -/
structure Archivable (kept : History → Prop) : Prop where
  distinct : ∀ {value another item other}, kept value → kept another →
    item ∈ value.messages → other ∈ another.messages →
    digest host item = digest host other →
    data host item = data host other
  reads : ∀ {value item}, kept value → item ∈ value.messages →
    object host (data host item) = .ok item

variable (host) in
/-- Every response of a state ends a conversation of responses whose messages
have files, and every file holds such a message. -/
structure Told (kept : History → Prop) (state : LedgerState)
    (messages : Table Data) : Prop where
  responses : ∀ {id record}, state.history.lookup id = some record →
    ∃ responses, Conversation host state.history record.thread id responses ∧
      ∀ value ∈ responses, kept value ∧ Filed host messages value.messages
  files : ∀ {name bytes}, messages.lookup name = some bytes →
    ∃ value item, kept value ∧ item ∈ value.messages ∧
      name = digest host item ∧ bytes = data host item

theorem Archivable.mono
    {kept more : History → Prop}
    (archivable : Archivable host more)
    (grows : ∀ {value}, kept value → more value) :
    Archivable host kept :=
  ⟨fun first second => archivable.distinct (grows first) (grows second),
    fun known => archivable.reads (grows known)⟩

variable {kept : History → Prop} {state : LedgerState} {messages : Table Data}

theorem Told.empty : Told host kept .empty ∅ := by
  refine ⟨?_, ?_⟩ <;> rintro _ _ ⟨⟩

variable {value : History}

theorem Told.archived
    {item : Object}
    (told : Told host kept state messages)
    (archivable : Archivable host kept)
    (known : kept value)
    (member : item ∈ value.messages)
    (filed : Filed host messages value.messages) :
    Archived host messages item := by
  obtain ⟨bytes, present⟩ := Option.isSome_iff_exists.mp (filed item member)
  obtain ⟨another, other, known', member', same, rfl⟩ := told.files present
  refine ⟨?_, archivable.reads known member⟩
  rw [present, archivable.distinct known known' member member' same]

theorem Told.history_eq
    {ledger : Ledger}
    {histories : Table HistoryRecord}
    {thread id : String}
    {responses : List History}
    (told : Told host kept ledger.state ledger.disk.messages)
    (archivable : Archivable host kept)
    (conversation : Conversation host histories thread id responses)
    (grows : ∀ {other record}, histories.lookup other = some record →
      ledger.state.history.lookup other = some record)
    (filed : ∀ value ∈ responses, kept value ∧
      Filed host ledger.disk.messages value.messages) :
    (call (history host id thread) ledger []).1 =
      reconstruct host responses := by
  refine Turnrail.history_eq (conversation.grow grows) ?_
  intro value member item found
  obtain ⟨known, filed⟩ := filed value member
  exact told.archived archivable known found filed

variable (told : Told host kept state messages)
include told

theorem Told.mono
    {more : History → Prop}
    (grows : ∀ {value}, kept value → more value) :
    Told host more state messages := by
  refine ⟨?_, ?_⟩
  · intro id record known
    obtain ⟨responses, conversation, filed⟩ := told.responses known
    refine ⟨responses, conversation, ?_⟩
    intro value member
    exact ⟨grows (filed value member).1, (filed value member).2⟩
  · intro name bytes known
    obtain ⟨value, item, known, rest⟩ := told.files known
    exact ⟨value, item, grows known, rest⟩

theorem Told.same_history
    {other : LedgerState}
    (same : other.history = state.history) :
    Told host kept other messages := by
  refine ⟨?_, told.files⟩
  rw [same]
  exact told.responses

theorem Told.more_files
    {items : List Object}
    {after : Table Data}
    (grows : Grows host items messages after)
    (known : ∀ item ∈ items, ∃ value, kept value ∧ item ∈ value.messages) :
    Told host kept state after := by
  refine ⟨?_, ?_⟩
  · intro id record present
    obtain ⟨responses, conversation, filed⟩ := told.responses present
    refine ⟨responses, conversation, ?_⟩
    intro value member
    exact ⟨(filed value member).1, (filed value member).2.grow grows⟩
  · intro name bytes present
    rcases grows.added present with old | ⟨item, member, same, data⟩
    · exact told.files old
    · obtain ⟨value, known, found⟩ := known item member
      exact ⟨value, item, known, found, same, data⟩

theorem Told.respond
    {id : String}
    (fresh : state.history.lookup id = none)
    (known : kept value)
    (filed : Filed host messages value.messages)
    (continues : ∀ previous, value.previous = some previous →
      previous.isEmpty = false ∧
      ∃ record, state.history.lookup previous = some record ∧
        record.thread = value.thread) :
    Told host kept
      (state.change (.respond id (value.stored host))) messages := by
  refine ⟨?_, told.files⟩
  have grows : ∀ {other record}, state.history.lookup other = some record →
      (state.history.insert id (value.stored host)).lookup other = some record :=
    LedgerState.lookup_insert_of_absent fresh
  have now : (state.history.insert id (value.stored host)).lookup id =
      some (value.stored host) :=
    Table.lookup_insert_self _ _ _
  intro other record present
  simp only [LedgerState.change] at present ⊢
  rw [Table.lookup_insert] at present
  split at present
  · rename_i same
    subst same
    cases present
    cases continued : value.previous with
    | none =>
      refine ⟨[value], .first now rfl continued, ?_⟩
      intro found member
      rw [mem_singleton.mp member]
      exact ⟨known, filed⟩
    | some previous =>
      obtain ⟨named, record, present, same⟩ := continues previous continued
      obtain ⟨responses, conversation, earlier⟩ := told.responses present
      rw [same] at conversation
      refine ⟨responses ++ [value],
        .next now rfl continued named (conversation.grow grows), ?_⟩
      intro found member
      rcases mem_append.mp member with before | last
      · exact earlier found before
      · rw [mem_singleton.mp last]
        exact ⟨known, filed⟩
  · obtain ⟨responses, conversation, filed⟩ := told.responses present
    exact ⟨responses, conversation.grow grows, filed⟩

end Storing

/-- The response that a call records. -/
def LedgerCall.response : LedgerCall → Option (String × History)
  | .saveHistory id value => some (id, value)
  | .complete _ _ id value => some (id, value)
  | _ => none

section Calls

variable {writes : List WriteOutcome} {before after : Ledger}
variable {call : LedgerCall} {result : Except PlainError call.Value}

theorem Outcome.history_cases
    (outcome : Outcome host writes before call result after) :
    after.state.history = before.state.history ∨ ∃ id value,
      call.response = some (id, value) ∧ before.state.history.lookup id = none ∧
      after.state.history = before.state.history.insert id (value.stored host) ∧
      Filed host after.disk.messages value.messages := by
  cases outcome with
  | answered _ memory =>
    rw [memory]
    exact .inl rfl
  | unfinished absent memory _ _ filed =>
    rw [memory]
    exact .inr ⟨_, _, rfl, absent, rfl, filed⟩
  | changed list makes memory _ _ _ _ filed =>
    rw [memory]
    cases makes with
    | saveHistory absent => exact .inr ⟨_, _, rfl, absent, rfl, filed⟩
    | complete absent => exact .inr ⟨_, _, rfl, absent, rfl, filed⟩
    | _ => exact .inl rfl

theorem Outcome.stores
    {id : String}
    {value : History}
    {reply : call.Value}
    (outcome : Outcome host writes before call (.ok reply) after)
    (names : call.response = some (id, value)) :
    ∃ saved, after.disk.ledger = some saved ∧
      saved.history.lookup id = some (value.stored host) := by
  generalize succeeded : (.ok reply : Except PlainError call.Value) = result at outcome
  cases outcome with
  | answered answers =>
    subst succeeded
    cases answers <;> cases names
  | unfinished => cases succeeded
  | changed list makes memory _ durable =>
    subst succeeded
    refine ⟨_, durable rfl, ?_⟩
    rw [memory]
    cases makes <;> cases names <;> exact Table.lookup_insert_self _ _ _

theorem Outcome.history_read
    {id thread : String}
    {conversation : History}
    (outcome : Outcome host writes before
      (.history id thread) (.ok conversation) after) :
    (RouterLedger.call (history host id thread) before []).1 =
        .ok conversation ∧
      after.state = before.state := by
  generalize returned : (.ok conversation : Except PlainError History) = reply at outcome
  cases outcome with
  | answered answers memory =>
    cases answers with
    | refused => cases returned
    | history reads => exact ⟨reads.symm, memory⟩
  | changed list makes => cases makes

theorem LedgerCall.response_of_items
    {item : Object}
    (member : item ∈ call.items) :
    ∃ id value, call.response = some (id, value) ∧ item ∈ value.messages := by
  cases call with
  | saveHistory id value => exact ⟨id, value, rfl, member⟩
  | complete fingerprint turn id value => exact ⟨id, value, rfl, member⟩
  | _ => cases member

variable {kept : History → Prop}

theorem Told.called_files
    {state : LedgerState}
    (told : Told host kept state before.disk.messages)
    (outcome : Outcome host writes before call result after)
    (known : ∀ id value, call.response = some (id, value) → kept value) :
    Told host kept state after.disk.messages := by
  refine told.more_files outcome.grows ?_
  intro item member
  obtain ⟨id, value, names, found⟩ := LedgerCall.response_of_items member
  exact ⟨value, known id value names, found⟩

theorem Told.called
    (told : Told host kept before.state before.disk.messages)
    (outcome : Outcome host writes before call result after)
    (known : ∀ id value, call.response = some (id, value) → kept value)
    (continues : ∀ id value previous, call.response = some (id, value) →
      value.previous = some previous → previous.isEmpty = false ∧ ∃ record,
      before.state.history.lookup previous = some record ∧
      record.thread = value.thread) :
    Told host kept after.state after.disk.messages := by
  have filed := told.called_files outcome known
  rcases outcome.history_cases with same | ⟨id, value, names, fresh, now, files⟩
  · exact filed.same_history same
  · have responded := filed.respond fresh (known id value names) files
      fun previous continued => continues id value previous names continued
    exact responded.same_history now

end Calls

section Contexts

variable (host) in
/-- All messages of the conversation that ends with a response. -/
def Recalls (kept : History → Prop) (state : LedgerState)
    (thread id : String) (context : List Object) : Prop :=
  ∃ responses, Conversation host state.history thread id responses ∧
    (∀ value ∈ responses, kept value) ∧
    context = responses.flatMap messages

variable {kept : History → Prop} {state : LedgerState}
variable {thread id : String} {context : List Object}

variable {later : LedgerState} {more : History → Prop}

theorem Recalls.grow
    (recalls : Recalls host kept state thread id context)
    (grows : state.Extends later) :
    Recalls host kept later thread id context := by
  obtain ⟨responses, conversation, known, same⟩ := recalls
  exact ⟨responses, conversation.grow grows.history, known, same⟩

theorem Recalls.mono
    (recalls : Recalls host kept state thread id context)
    (grows : ∀ {value}, kept value → more value) :
    Recalls host more state thread id context := by
  obtain ⟨responses, conversation, known, same⟩ := recalls
  exact ⟨responses, conversation, fun value member => grows (known value member), same⟩

theorem Recalls.same_history
    {other : LedgerState}
    (recalls : Recalls host kept state thread id context)
    (same : other.history = state.history) :
    Recalls host kept other thread id context := by
  rw [Recalls, same]
  exact recalls

theorem Archivable.same_messages
    {items others : List Object}
    (archivable : Archivable host kept)
    (known : ∀ item ∈ items, ∃ value, kept value ∧ item ∈ value.messages)
    (known' : ∀ item ∈ others, ∃ value, kept value ∧ item ∈ value.messages)
    (same : items.map (digest host) = others.map (digest host)) :
    items = others := by
  induction items generalizing others with
  | nil =>
    cases others with
    | nil => rfl
    | cons other rest => cases same
  | cons item rest ih =>
    cases others with
    | nil => cases same
    | cons other others =>
      rw [map_cons, map_cons] at same
      obtain ⟨first, remaining⟩ := cons.inj same
      obtain ⟨value, kept, member⟩ := known item mem_cons_self
      obtain ⟨another, kept', member'⟩ := known' other mem_cons_self
      have bytes := archivable.distinct kept kept' member member' first
      have reads := archivable.reads kept member
      rw [bytes, archivable.reads kept' member'] at reads
      have equal : other = item := by simpa using reads
      rw [equal, ih (fun found member => known found (mem_cons_of_mem _ member))
        (fun found member => known' found (mem_cons_of_mem _ member))
        remaining]

theorem Archivable.same_responses
    {responses others : List History}
    (archivable : Archivable host kept)
    (known : ∀ value ∈ responses, kept value)
    (known' : ∀ value ∈ others, kept value)
    (same :
      responses.map (History.stored host) = others.map (History.stored host)) :
    responses.flatMap History.messages = others.flatMap History.messages := by
  refine archivable.same_messages ?_ ?_ ?_
  · intro item member
    obtain ⟨value, found, inside⟩ := mem_flatMap.mp member
    exact ⟨value, known value found, inside⟩
  · intro item member
    obtain ⟨value, found, inside⟩ := mem_flatMap.mp member
    exact ⟨value, known' value found, inside⟩
  · have digests : ∀ list : List History, (list.flatMap History.messages).map (digest host) =
          (list.map (History.stored host)).flatMap
            fun record => record.input ++ record.output := by
      intro list
      simp [map_flatMap, flatMap_map, History.messages, History.stored]
    rw [digests, digests, same]

theorem Recalls.unique
    {other : List Object}
    (archivable : Archivable host kept)
    (recalls : Recalls host kept state thread id context)
    (recalls' : Recalls host kept state thread id other) :
    context = other := by
  obtain ⟨responses, conversation, known, rfl⟩ := recalls
  obtain ⟨others, conversation', known', rfl⟩ := recalls'
  exact archivable.same_responses known known' (conversation.records_unique conversation')

variable {conversation value : History}

theorem reconstruct_ok
    {earlier : List History}
    (returned : reconstruct host (earlier ++ [value]) = .ok conversation) :
    conversation.input ++ conversation.output =
        (earlier ++ [value]).flatMap History.messages ∧
      conversation.account = value.account ∧
      conversation.generation = value.generation := by
  simp only [reconstruct, getLast?_concat, dropLast_concat] at returned
  split at returned
  · cases returned
  · split at returned
    · cases returned
    · cases returned
      simp [History.messages]

theorem Told.read
    {ledger : Ledger}
    (told : Told host kept ledger.state ledger.disk.messages)
    (archivable : Archivable host kept)
    (reads : (call (history host id thread) ledger []).1 = .ok conversation) :
    ∃ record, ledger.state.history.lookup id = some record ∧
      record.thread = thread ∧ conversation.account = record.account ∧
      conversation.generation = record.generation ∧
      Recalls host kept ledger.state thread id (conversation.input ++
        conversation.output) := by
  obtain ⟨record, known, rfl⟩ := record_of_history reads
  obtain ⟨responses, whole, filed⟩ := told.responses known
  rw [told.history_eq archivable whole (fun present => present) filed] at reads
  obtain ⟨earlier, value, rfl, stored, -⟩ := whole.last
  rw [known] at stored
  cases stored
  obtain ⟨messages, account, generation⟩ := reconstruct_ok reads
  refine ⟨_, known, rfl, account, generation, _, whole, fun value member =>
    (filed value member).1, messages⟩

variable (host) in
/-- The messages before a response of a task. -/
def Grounded (kept : History → Prop) (state : LedgerState)
    (previous : Option String) (thread : String) (base : List Object) : Prop :=
  (previous = none ∧ base = []) ∨ ∃ id, previous = some id ∧ id.isEmpty = false ∧
      Recalls host kept state thread id base

variable {previous : Option String} {base : List Object}

section

variable (grounded : Grounded host kept state previous thread base)
include grounded

theorem Grounded.grow (grows : state.Extends later) :
    Grounded host kept later previous thread base := by
  rcases grounded with starts | ⟨id, continued, named, recalls⟩
  · exact .inl starts
  · exact .inr ⟨id, continued, named, recalls.grow grows⟩

theorem Grounded.mono (grows : ∀ {value}, kept value → more value) :
    Grounded host more state previous thread base := by
  rcases grounded with starts | ⟨id, continued, named, recalls⟩
  · exact .inl starts
  · exact .inr ⟨id, continued, named, recalls.mono grows⟩

theorem Grounded.known (continued : previous = some id) :
    id.isEmpty = false ∧ ∃ record, state.history.lookup id = some record ∧
      record.thread = thread := by
  subst continued
  rcases grounded with ⟨⟨⟩, -⟩ | ⟨_, ⟨⟩, named, responses, conversation, -⟩
  refine ⟨named, ?_⟩
  obtain ⟨earlier, value, -, stored, same⟩ := conversation.last
  exact ⟨_, stored, same⟩

end

theorem Recalls.respond
    (fresh : state.history.lookup id = none)
    (known : kept value)
    (continues : Grounded host kept state value.previous value.thread base) :
    Recalls host kept (state.change (.respond id (value.stored host)))
      value.thread id (base ++ value.messages) := by
  have now : (state.history.insert id (value.stored host)).lookup id =
      some (value.stored host) :=
    Table.lookup_insert_self _ _ _
  rcases continues with ⟨starts, rfl⟩ | ⟨previous, continued, named, recalls⟩
  · refine ⟨[value], .first now rfl starts, ?_, by simp⟩
    intro found member
    rw [mem_singleton.mp member]
    exact known
  · obtain ⟨responses, conversation, earlier, rfl⟩ := recalls
    refine ⟨responses ++ [value], .next now rfl continued named
      (conversation.grow (LedgerState.lookup_insert_of_absent fresh)), ?_,
      by simp⟩
    intro found member
    rcases mem_append.mp member with before | last
    · exact earlier found before
    · rw [mem_singleton.mp last]
      exact known

end Contexts

end Turnrail
