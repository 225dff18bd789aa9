import Turnrail.Ledger.Outcomes
import Mathlib.Logic.Relation

/-!
# What stays in the ledger

Bindings, titles, response history and failed turns are never removed or
replaced, and a request keeps its owner while its delivery state moves along
fixed steps.  This holds for every call, and for every reload, because a reload
only adds failed turns.
-/

namespace Turnrail

open RouterLedger LedgerState

/-- One recorded step of a request. -/
inductive Advances : RequestState → RequestState → Prop
  | resubmitted {current next} :
      resubmission current = some next → Advances current next
  | interrupted {current next} :
      interruption current = some next → Advances current next
  | limited : Advances .forwarding .connectionLimited
  | cancelled {current} : current.inFlight = true → Advances current .cancelled
  | completed {current} : current.inFlight = true → Advances current .completed

theorem Advances.eq_of_terminal
    {current next : RequestState}
    (terminal : current = .completed ∨ current = .cancelled)
    (steps : Relation.ReflTransGen Advances current next) :
    next = current := by
  induction steps with
  | refl => rfl
  | tail _ step ih =>
    subst ih
    rcases terminal with rfl | rfl <;> cases step <;> contradiction

namespace LedgerState

/-- Everything that is kept from one state to a later one. -/
structure Extends (before after : LedgerState) : Prop where
  schemaVersion : after.schemaVersion = before.schemaVersion
  bindings : ∀ {key account}, before.bindings.lookup key = some account →
    after.bindings.lookup key = some account
  titles : ∀ {thread entry}, before.titles.lookup thread = some entry →
    after.titles.lookup thread = some entry
  history : ∀ {id record}, before.history.lookup id = some record →
    after.history.lookup id = some record
  failed : ∀ {turn}, before.isFailed turn = true → after.isFailed turn = true
  requests : ∀ {fingerprint request}, before.requests.lookup fingerprint = some request →
    ∃ next, after.requests.lookup fingerprint = some ⟨request.turn, next⟩ ∧
      Relation.ReflTransGen Advances request.state next

theorem Extends.refl (state : LedgerState) : state.Extends state where
  schemaVersion := rfl
  bindings := id
  titles := id
  history := id
  failed := id
  requests known := ⟨_, known, .refl⟩

theorem Extends.trans
    {first second third : LedgerState}
    (earlier : first.Extends second)
    (later : second.Extends third) :
    first.Extends third where
  schemaVersion := later.schemaVersion.trans earlier.schemaVersion
  bindings known := later.bindings (earlier.bindings known)
  titles known := later.titles (earlier.titles known)
  history known := later.history (earlier.history known)
  failed known := later.failed (earlier.failed known)
  requests known := by
    obtain ⟨middle, reached, steps⟩ := earlier.requests known
    obtain ⟨final, reached, further⟩ := later.requests reached
    exact ⟨final, reached, steps.trans further⟩

/-- The guard each change has in every call that makes it. -/
inductive Permits (state : LedgerState) : Change → Prop
  | bind {key account} :
      state.bindings.lookup key = none → Permits state (.bind key account)
  | title {thread entry} :
      state.titles.lookup thread = none → Permits state (.title thread entry)
  | stop {thread account} : Permits state (.stop thread account)
  | respond {id record} :
      state.history.lookup id = none → Permits state (.respond id record)
  | first {fingerprint turn} :
      state.requests.lookup fingerprint = none →
      Permits state (.request fingerprint turn .forwarding)
  | advance {fingerprint turn current next} :
      state.requests.lookup fingerprint = some ⟨turn, current⟩ →
      Advances current next →
      Permits state (.request fingerprint turn next)
  | fail {turn} : Permits state (.fail turn)

theorem lookup_insert_of_absent
    {table : Table α}
    {key : String}
    {value : α}
    (absent : table.lookup key = none)
    {other : String}
    {known : α}
    (present : table.lookup other = some known) :
    AList.lookup other (table.insert key value) = some known := by
  rw [Table.lookup_insert]
  split
  · rename_i same
    rw [same, absent] at present
    contradiction
  · exact present

theorem extends_change
    {state : LedgerState}
    {change : Change}
    (permits : state.Permits change) :
    state.Extends (state.change change) := by
  have same := Extends.refl state
  cases permits with
  | bind absent => exact { same with bindings := lookup_insert_of_absent absent }
  | title absent => exact { same with titles := lookup_insert_of_absent absent }
  | stop => exact { same with }
  | respond absent => exact { same with history := lookup_insert_of_absent absent }
  | first absent =>
    exact { same with
      requests := fun known => ⟨_, lookup_insert_of_absent absent known, .refl⟩ }
  | @advance fingerprint turn current next present step =>
    refine { same with requests := ?_ }
    intro other request known
    simp only [change, Table.lookup_insert]
    split
    · rename_i equal
      rw [equal, present] at known
      cases known
      exact ⟨next, rfl, .single step⟩
    · exact ⟨request.state, known, .refl⟩
  | @fail turn =>
    refine { same with failed := ?_ }
    intro other known
    simp only [isFailed, change, Table.lookup_insert] at known ⊢
    split
    · rfl
    · exact known

end LedgerState

variable {host : Foundation}

variable {call : LedgerCall} {writes : List WriteOutcome} {before after : Ledger}
variable {result : Except PlainError call.Value}

theorem Makes.extends
    {state : LedgerState}
    {list : List Change}
    (makes : Makes host state call list) :
    state.Extends (state.changes list) := by
  cases makes with
  | bind _ absent => exact extends_change (.bind absent)
  | registerTitle absent => exact extends_change (.title absent)
  | stop _ _ => exact extends_change .stop
  | saveHistory absent => exact extends_change (.respond absent)
  | first _ absent => exact extends_change (.first absent)
  | again _ known admitted =>
    exact extends_change (.advance known (.resubmitted admitted))
  | interrupt known admitted =>
    exact extends_change (.advance known (.interrupted admitted))
  | cancel known inFlight => exact extends_change (.advance known (.cancelled inFlight))
  | rejectConnectionLimit known => exact extends_change (.advance known .limited)
  | @complete _ _ response value _ absent known inFlight =>
    -- Recording the response leaves the request where it was.
    have recorded : state.Extends (state.change (.respond response (value.stored host))) :=
      extends_change (.respond absent)
    refine recorded.trans ?_
    refine extends_change (.advance ?_ (.completed inFlight))
    exact known
  | finish known inFlight => exact extends_change (.advance known (.completed inFlight))
  | fail => exact extends_change .fail

variable (outcome : Outcome host writes before call result after)
include outcome

theorem Outcome.extends : before.state.Extends after.state := by
  cases outcome with
  | answered _ memory _ _ =>
    rw [memory]
    exact .refl _
  | changed list makes memory _ _ _ _ _ =>
    rw [memory]
    exact makes.extends
  | unfinished absent memory _ _ _ =>
    rw [memory]
    exact extends_change (.respond absent)

theorem Outcome.lags :
    after.disk.ledger = before.disk.ledger ∨
      after.disk.ledger = some after.state := by
  cases outcome with
  | answered _ _ saved _ => exact .inl saved
  | changed _ _ _ lags _ _ _ _ => exact lags
  | unfinished _ _ saved _ _ => exact .inl saved

theorem Outcome.grows :
    Grows host call.items before.disk.messages after.disk.messages := by
  cases outcome with
  | answered _ _ _ grows => exact grows
  | changed _ _ _ _ _ _ grows _ => exact grows
  | unfinished _ _ _ grows _ => exact grows

end Turnrail
