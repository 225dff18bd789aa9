import Turnrail.Runtime.Request

/-!
# Rules for workers that follow a protocol

The code of a worker is inspected once for each protocol.  Each routine has one
lemma that says from which knowledge it follows the protocol, and what is known
when it returns or throws.  The rules here take a routine apart step by step.
-/

namespace Turnrail

open Interleaving Routine

section Rules

variable {protocol : Protocol router} {store : ρ} {stage : protocol.Stage}
  {post : Except RouterError β → ρ → protocol.Stage → Prop}

theorem obeys_check
    {outcome : Except RouterFailure α}
    {rest : α → Worker ρ β}
    (failed : ∀ error, outcome = .error error →
      post (.error (.plain (.failure error))) store stage)
    (passed : ∀ value, outcome = .ok value →
      Follows protocol (rest value) store stage post) :
    Follows protocol (Worker.check outcome >>= rest) store stage post := by
  rw [follows_bind, Worker.check, follows_ofExcept]
  cases outcome with
  | error error => exact failed error rfl
  | ok value => exact passed value rfl

theorem obeys_plain
    {outcome : Except PlainError α}
    {rest : α → Worker ρ β}
    (failed : ∀ error, outcome = .error error →
      post (.error (.plain error)) store stage)
    (passed : ∀ value, outcome = .ok value →
      Follows protocol (rest value) store stage post) :
    Follows protocol (Worker.plain outcome >>= rest) store stage post := by
  rw [follows_bind, Worker.plain, follows_ofExcept]
  cases outcome with
  | error error => exact failed error rfl
  | ok value => exact passed value rfl

theorem obeys_perform
    {effect : Effect}
    {rest : effect.Reply → Worker ρ β}
    (allowed : protocol.allows stage effect)
    (replied : ∀ reply : effect.Reply, protocol.admits stage effect reply →
      Follows protocol
        (rest reply) store (protocol.next stage effect reply) post) :
    Follows protocol (Worker.perform effect >>= rest) store stage post := by
  rw [follows_bind]
  exact ⟨allowed, replied⟩

variable {rest : Unit → Worker ρ β}

theorem obeys_frame
    {frame : Frame}
    (allowed : protocol.allows stage (.frame frame))
    (failed : ∀ error, protocol.admits stage (.frame frame) (.error error) →
      post (.error (.plain error)) store
        (protocol.next stage (.frame frame) (.error error)))
    (passed : ∀ value, protocol.admits stage (.frame frame) (.ok value) →
      Follows protocol (rest value) store
        (protocol.next stage (.frame frame) (.ok value)) post) :
    Follows protocol (Worker.frame frame >>= rest) store stage post := by
  rw [follows_bind]
  refine ⟨allowed, ?_⟩
  intro reply admitted
  cases reply with
  | error error => exact failed error admitted
  | ok value => exact passed value admitted

theorem obeys_validate
    {request : Object}
    {catalog : List Object}
    (allowed : protocol.allows stage (.validate request catalog))
    (failed : ∀ error,
      protocol.admits stage (.validate request catalog) (.error error) →
      post (.error (.plain (.failure error))) store
        (protocol.next stage (.validate request catalog) (.error error)))
    (passed : ∀ value,
      protocol.admits stage (.validate request catalog) (.ok value) →
      Follows protocol (rest value) store
        (protocol.next stage (.validate request catalog) (.ok value)) post) :
    Follows protocol (Worker.validate request catalog >>= rest) store stage
      post := by
  rw [follows_bind]
  refine ⟨allowed, ?_⟩
  intro reply admitted
  cases reply with
  | error error => exact failed error admitted
  | ok value => exact passed value admitted

variable {call : LedgerCall}

theorem obeys_ledger
    {rest : call.Value → Worker ρ β}
    (allowed : protocol.allows stage (.ledger call))
    (failed : ∀ error, protocol.admits stage (.ledger call) (.error error) →
      post (.error (.plain error)) store
        (protocol.next stage (.ledger call) (.error error)))
    (passed : ∀ value, protocol.admits stage (.ledger call) (.ok value) →
      Follows protocol (rest value) store
        (protocol.next stage (.ledger call) (.ok value)) post) :
    Follows protocol (Worker.ledger call >>= rest) store stage post := by
  rw [follows_bind]
  refine ⟨allowed, ?_⟩
  intro reply admitted
  cases reply with
  | error error => exact failed error admitted
  | ok value => exact passed value admitted

theorem obeys_ledger_last
    {post : Except RouterError call.Value → ρ → protocol.Stage → Prop}
    (allowed : protocol.allows stage (.ledger call))
    (failed : ∀ error, protocol.admits stage (.ledger call) (.error error) →
      post (.error (.plain error)) store
        (protocol.next stage (.ledger call) (.error error)))
    (passed : ∀ value, protocol.admits stage (.ledger call) (.ok value) →
      post (.ok value) store (protocol.next stage (.ledger call) (.ok value))) :
    Follows protocol (Worker.ledger call) store stage post := by
  refine ⟨allowed, ?_⟩
  intro reply admitted
  cases reply with
  | error error => exact failed error admitted
  | ok value => exact passed value admitted

end Rules

end Turnrail
