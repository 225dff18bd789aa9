import Turnrail.Ledger.Growth

/-!
# Opening the ledger from its files

A new process reads the saved state, adds to the failed turns every turn that
owns an in-flight request, and saves the result before it serves anything.  If
that save fails the process does not start, but the file may already hold the
new state.
-/

namespace Turnrail

open RouterLedger

namespace LedgerState

/-- A turn owns a request whose outcome is not known. -/
def Uncertain (state : LedgerState) (turn : String) : Prop :=
  ∃ fingerprint request, state.requests.lookup fingerprint = some request ∧
      request.state.inFlight = true ∧ request.turn = turn

theorem lookup_foldl_failed
    (entries : List (Sigma fun _ : String => Request))
    (failed : Table Bool)
    (turn : String) :
    (AList.lookup turn (entries.foldl (fun failed entry =>
        if entry.2.state.inFlight then failed.insert entry.2.turn true
        else failed) failed)).isSome = true ↔
      (failed.lookup turn).isSome = true ∨
        ∃ entry ∈ entries,
          entry.2.state.inFlight = true ∧ entry.2.turn = turn := by
  induction entries generalizing failed with
  | nil => simp
  | cons entry rest ih =>
    rw [List.foldl_cons, ih]
    by_cases inFlight : entry.2.state.inFlight = true
    · rw [if_pos inFlight, Table.lookup_insert]
      by_cases same : turn = entry.2.turn
      · simp [same, inFlight]
      · simp [same, inFlight, Ne.symm same]
    · simp [inFlight]

theorem isFailed_blockInFlight
    (state : LedgerState)
    (turn : String) :
    state.blockInFlight.isFailed turn = true ↔
      state.isFailed turn = true ∨ state.Uncertain turn := by
  simp only [isFailed, blockInFlight, lookup_foldl_failed]
  refine or_congr Iff.rfl ?_
  constructor
  · rintro ⟨⟨fingerprint, request⟩, member, inFlight, owner⟩
    exact ⟨fingerprint, request, AList.mem_lookup_iff.mpr member, inFlight, owner⟩
  · rintro ⟨fingerprint, request, known, inFlight, owner⟩
    exact ⟨⟨fingerprint, request⟩, AList.mem_lookup_iff.mp known, inFlight, owner⟩

/-- A reload keeps what was saved. -/
theorem extends_blockInFlight (state : LedgerState) :
    state.Extends state.blockInFlight :=
  { Extends.refl state with
    failed := fun known => (isFailed_blockInFlight state _).mpr (.inl known) }

end LedgerState

/-- The state a new process starts from. -/
def Disk.opened (disk : Disk) : LedgerState :=
  match disk.ledger with
  | none => .empty
  | some saved => saved.blockInFlight

variable {disk after : Disk} {writes : List WriteOutcome}
variable {result : Except PlainError Ledger}

theorem init_saving
    {state : LedgerState}
    (saving : ((call persist ⟨state, disk⟩ writes).1.map fun _ =>
        (call persist ⟨state, disk⟩ writes).2,
        (call persist ⟨state, disk⟩ writes).2.disk) = (result, after)) :
    after.messages = disk.messages ∧ (after.ledger = disk.ledger ∨
        after.ledger = some state) ∧ ∀ ledger, result = .ok ledger →
      ledger = ⟨state, after⟩ ∧ after.ledger = some state := by
  have saved : Saved writes ⟨state, disk⟩ (call persist ⟨state, disk⟩ writes).2
      (call persist ⟨state, disk⟩ writes).1.isOk :=
    And.left (ends_persist ⟨⟨state, disk⟩, writes⟩)
  generalize call persist ⟨state, disk⟩ writes = reached at saving saved
  obtain ⟨answer, ⟨memory, files⟩⟩ := reached
  obtain ⟨rfl, rfl⟩ := Prod.mk.inj saving
  obtain ⟨rfl, messages, lags, durable, _⟩ := saved
  refine ⟨messages, lags, ?_⟩
  intro ledger succeeded
  cases answer with
  | error failure => contradiction
  | ok value =>
    cases succeeded
    exact ⟨rfl, durable rfl⟩

/-- All that opening a ledger can do to the disk. -/
theorem init_cases (opened : RouterLedger.init disk writes = (result, after)) :
    (∃ failure, result = .error failure ∧ after = disk) ∨
      (after.messages = disk.messages ∧ (∀ saved, disk.ledger = some saved →
          saved.schemaVersion = 1) ∧ (after.ledger = disk.ledger ∨
          after.ledger = some disk.opened) ∧ ∀ ledger, result = .ok ledger →
        ledger = ⟨disk.opened, after⟩ ∧ after.ledger = some disk.opened) := by
  unfold RouterLedger.init at opened
  cases saved : disk.ledger with
  | none =>
    simp only [saved] at opened
    have same : disk.opened = .empty := by simp only [Disk.opened, saved]
    obtain ⟨messages, lags, success⟩ := init_saving opened
    rw [same, ← saved]
    exact .inr ⟨messages, by simp [saved], lags, success⟩
  | some state =>
    simp only [saved] at opened
    have same : disk.opened = state.blockInFlight := by simp only [Disk.opened, saved]
    split at opened
    · rename_i supported
      obtain ⟨messages, lags, success⟩ := init_saving opened
      rw [same, ← saved]
      refine .inr ⟨messages, ?_, lags, success⟩
      intro other known
      rw [saved] at known
      cases known
      exact supported
    · cases opened
      exact .inl ⟨_, rfl, rfl⟩

end Turnrail
