import Turnrail.Ledger.Reload
import Mathlib.Computability.Language
import Mathlib.Order.CompletePartialOrder

/-!
# The lifecycle of a request

The calls that concern one fingerprint form a word over five operations.  The
seven delivery states are the states of an automaton that reads it: an
unbounded number of interruptions, and one connection limit.  `lifecycle` is
its language, written as a regular expression.  The ledger accepts exactly the
words of that language, across reloads and whatever happens to other requests.
-/

namespace Turnrail

open Computability RouterLedger

/-- An operation that concerns one fingerprint. -/
inductive Operation
  | begin
  | interrupt
  | cancel
  | rejectConnectionLimit
  | finish
  deriving DecidableEq

namespace Operation

/-- The state of a request after an operation. -/
def next : Operation → Option RequestState → Option RequestState
  | .begin, none => some .forwarding
  | .begin, some current => resubmission current
  | .interrupt, some current => interruption current
  | .cancel, some current =>
    if current = .completed ∨ current = .cancelled then some current
    else if current.inFlight then some .cancelled
    else none
  | .rejectConnectionLimit, some .forwarding => some .connectionLimited
  | .finish, some current => if current.inFlight then some .completed else none
  | _, _ => none

/-- The call of an operation. -/
def call (fingerprint turn : String) : Operation → LedgerCall
  | .begin => .begin fingerprint turn
  | .interrupt => .interrupt fingerprint turn
  | .cancel => .cancel fingerprint turn
  | .rejectConnectionLimit => .rejectConnectionLimit fingerprint turn
  | .finish => .finish fingerprint turn

end Operation

/-- The operation a call performs on a request, with the turn it names.
Completing a response finishes its request. -/
def LedgerCall.operation : LedgerCall → Option (String × Operation × String)
  | .begin fingerprint turn => some (fingerprint, .begin, turn)
  | .interrupt fingerprint turn => some (fingerprint, .interrupt, turn)
  | .cancel fingerprint turn => some (fingerprint, .cancel, turn)
  | .rejectConnectionLimit fingerprint turn => some (fingerprint, .rejectConnectionLimit, turn)
  | .complete fingerprint turn _ _ => some (fingerprint, .finish, turn)
  | .finish fingerprint turn => some (fingerprint, .finish, turn)
  | _ => none

/-- The operation of a call on a request. -/
def LedgerCall.concerning (fingerprint : String) (call : LedgerCall) :
    Option (Operation × String) :=
  match call.operation with
  | some (named, operation, turn) =>
    if named = fingerprint then some (operation, turn) else none
  | none => none

section Words

/-- A submission, and resubmissions after interruptions. -/
def submissions : Language Operation :=
  {[.begin]} * ({[.interrupt]} * {[.begin]})∗

/-- How a submitted request can end. -/
def endings : Language Operation :=
  1 + {[.interrupt]} + {[.finish]} * {[.cancel]}∗ +
    {[.cancel]} * {[.cancel]}∗

/-- All words of operations on one request. -/
def lifecycle : Language Operation :=
  submissions * (endings +
    {[.rejectConnectionLimit]} * (1 + submissions * endings))

/-- Submissions after the connection limit. -/
def retries : Language Operation :=
  submissions * ({[.rejectConnectionLimit]} * submissions)

/-- The operations that lead to a state. -/
def words : RequestState → Language Operation
  | .forwarding => submissions
  | .interrupted => submissions * {[.interrupt]}
  | .connectionLimited => submissions * {[.rejectConnectionLimit]}
  | .retrying => retries
  | .interruptedRetry => retries * {[.interrupt]}
  | .completed => (submissions + retries) * ({[.finish]} * {[.cancel]}∗)
  | .cancelled => (submissions + retries) * ({[.cancel]} * {[.cancel]}∗)

theorem submission_le : ({[.begin]} : Language Operation) ≤ submissions :=
  le_mul_of_one_le_right' one_le_kstar

theorem resubmission_le :
    submissions * {[.interrupt]} * {[.begin]} ≤ submissions := by
  unfold submissions
  rw [mul_assoc, mul_assoc]
  gcongr
  exact kstar_mul_le_kstar

theorem retry_le : retries * {[.interrupt]} * {[.begin]} ≤ retries :=
  calc
    retries * {[.interrupt]} * {[.begin]} = submissions * ({[.rejectConnectionLimit]} *
          (submissions * {[.interrupt]} * {[.begin]})) := by
      simp only [retries, mul_assoc]
    _ ≤ retries := by
      unfold retries
      gcongr
      exact resubmission_le

theorem settle_le
    {first all : Language Operation}
    (among : first ≤ all)
    (last : Operation) :
    first * {[last]} ≤ all * ({[last]} * {[.cancel]}∗) := by
  gcongr
  exact le_mul_of_one_le_right' one_le_kstar

theorem recancel_le
    (all : Language Operation)
    (last : Operation) :
    all * ({[last]} * {[.cancel]}∗) * {[.cancel]} ≤
      all * ({[last]} * {[.cancel]}∗) := by
  rw [mul_assoc, mul_assoc]
  gcongr
  exact kstar_mul_le_kstar

variable {operation : Operation} {ending : Language Operation}
variable {start : Option RequestState} {flight pause : RequestState}
variable {word : List Operation}

theorem words_mul_le
    {current next : RequestState}
    (step : operation.next (some current) = some next) :
    words current * {[operation]} ≤ words next := by
  have direct : submissions ≤ submissions + retries := le_self_add
  have retried : retries ≤ submissions + retries := le_add_self
  cases operation with
  | begin =>
    cases current <;> cases step
    case begin.interrupted.refl => exact resubmission_le
    case begin.interruptedRetry.refl => exact retry_le
    case begin.connectionLimited.refl =>
        rw [words, mul_assoc]
        simp only [words, retries]
        gcongr
        exact submission_le
  | interrupt => cases current <;> cases step <;> exact le_rfl
  | cancel =>
    cases current <;> cases step
    case cancel.forwarding.refl => exact settle_le direct .cancel
    case cancel.retrying.refl => exact settle_le retried .cancel
    case cancel.completed.refl => exact recancel_le _ .finish
    case cancel.cancelled.refl => exact recancel_le _ .cancel
  | rejectConnectionLimit =>
    cases current <;> cases step
    exact le_rfl
  | finish =>
    cases current <;> cases step
    case finish.forwarding.refl => exact settle_le direct .finish
    case finish.retrying.refl => exact settle_le retried .finish

theorem lifecycle_eq :
    lifecycle = submissions * endings +
        submissions * {[.rejectConnectionLimit]} + retries * endings := by
  simp only [lifecycle, retries, mul_add, mul_one, mul_assoc, add_assoc]

theorem submissions_mul_le (among : ending ≤ endings) :
    submissions * ending ≤ lifecycle := by
  rw [lifecycle_eq, add_assoc]
  exact le_add_of_le_left (mul_le_mul_right among _)

theorem retries_mul_le (among : ending ≤ endings) :
    retries * ending ≤ lifecycle := by
  rw [lifecycle_eq]
  exact le_add_of_le_right (mul_le_mul_right among _)

theorem words_le_lifecycle (state : RequestState) :
    words state ≤ lifecycle := by
  have finished : {[.finish]} * {[.cancel]}∗ ≤ endings := le_add_of_le_left le_add_self
  have cancelled : {[.cancel]} * {[.cancel]}∗ ≤ endings := le_add_self
  have interrupted : {[.interrupt]} ≤ endings :=
    le_add_of_le_left (le_add_of_le_left le_add_self)
  have nothing : 1 ≤ endings := le_add_of_le_left (le_add_of_le_left le_self_add)
  cases state with
  | forwarding => simpa only [words, mul_one] using submissions_mul_le nothing
  | interrupted => exact submissions_mul_le interrupted
  | connectionLimited =>
    rw [lifecycle_eq]
    exact le_add_of_le_left le_add_self
  | retrying => simpa only [words, mul_one] using retries_mul_le nothing
  | interruptedRetry => exact retries_mul_le interrupted
  | completed =>
    rw [words, add_mul]
    exact add_le (submissions_mul_le finished) (retries_mul_le finished)
  | cancelled =>
    rw [words, add_mul]
    exact add_le (submissions_mul_le cancelled) (retries_mul_le cancelled)

/-- The operations that lead from one state to another. -/
def reading (start final : Option RequestState) : Language Operation :=
  {word | word.foldlM (fun current operation =>
    (operation.next current).map some) start = some final}

theorem mem_reading
    (start final : Option RequestState)
    (word : List Operation) :
    word ∈ reading start final ↔ word.foldlM (fun current operation =>
        (operation.next current).map some) start = some final := Iff.rfl

theorem reading_mul_le (first second third : Option RequestState) :
    reading first second * reading second third ≤ reading first third := by
  intro word member
  obtain ⟨left, reads, right, continues, rfl⟩ := Language.mem_mul.mp member
  rw [mem_reading] at reads continues
  change List.foldlM _ first (left ++ right) = some third
  rw [List.foldlM_append, reads]
  exact continues

theorem letter_le_reading
    {final : RequestState}
    (step : operation.next start = some final) :
    {[operation]} ≤ reading start (some final) := by
  intro word member
  cases member
  change List.foldlM _ start [operation] = some (some final)
  simp [step]

theorem submissions_le_reading
    (submit : Operation.begin.next start = some flight)
    (interrupt : Operation.interrupt.next (some flight) = some pause)
    (resubmit : Operation.begin.next (some pause) = some flight) :
    submissions ≤ reading start (some flight) := by
  refine mul_kstar_le (letter_le_reading submit) ?_
  calc
    reading start (some flight) * ({[.interrupt]} * {[.begin]}) ≤ reading start (some flight) *
          (reading (some flight) (some pause) * reading (some pause) (some flight)) := by
      gcongr
      · exact letter_le_reading interrupt
      · exact letter_le_reading resubmit
    _ ≤ reading start (some flight) * reading (some flight) (some flight) := by
      gcongr
      exact reading_mul_le _ _ _
    _ ≤ reading start (some flight) := reading_mul_le _ _ _

theorem endings_le_reading
    (interrupt : Operation.interrupt.next (some flight) = some pause)
    (inFlight : flight.inFlight = true)
    (member : word ∈ endings) :
    ∃ final, word ∈ reading (some flight) final := by
  have finish : Operation.finish.next (some flight) = some .completed := by
    simp [Operation.next, inFlight]
  have cancel : Operation.cancel.next (some flight) = some .cancelled := by
    cases flight <;> first | rfl | contradiction
  have settled : ∀ {last : Operation} {final : RequestState},
    last.next (some flight) = some final →
      Operation.cancel.next (some final) = some final →
      {[last]} * {[.cancel]}∗ ≤ reading (some flight) (some final) := by
    intro last final ends repeats
    refine mul_kstar_le (letter_le_reading ends) ?_
    refine le_trans ?_ (reading_mul_le _ (some final) _)
    gcongr
    exact letter_le_reading repeats
  rcases member with ((nothing | interrupted) | finished) | cancelled
  · cases nothing
    exact ⟨some flight, rfl⟩
  · exact ⟨some pause, letter_le_reading interrupt interrupted⟩
  · exact ⟨some .completed, settled finish rfl finished⟩
  · exact ⟨some .cancelled, settled cancel rfl cancelled⟩

theorem lifecycle_le_reading (member : word ∈ lifecycle) :
    ∃ final, word ∈ reading none final := by
  have interrupts : Operation.interrupt.next (some .forwarding) = some .interrupted := rfl
  have interruptsRetry :
    Operation.interrupt.next (some .retrying) = some .interruptedRetry := rfl
  have submitted : submissions ≤ reading none (some .forwarding) :=
    submissions_le_reading rfl interrupts rfl
  have retried : submissions ≤ reading (some .connectionLimited) (some .retrying) :=
    submissions_le_reading rfl interruptsRetry rfl
  have limited : {[.rejectConnectionLimit]} ≤
      reading (some .forwarding) (some .connectionLimited) :=
    letter_le_reading rfl
  rw [lifecycle_eq] at member
  rcases member with (direct | limit) | retry
  · obtain ⟨first, reads, rest, ends, rfl⟩ := Language.mem_mul.mp direct
    obtain ⟨final, continues⟩ := endings_le_reading interrupts rfl ends
    exact ⟨final, reading_mul_le _ _ _ (Language.append_mem_mul (submitted reads) continues)⟩
  · refine ⟨some .connectionLimited, ?_⟩
    exact reading_mul_le _ _ _ (mul_le_mul' submitted limited limit)
  · obtain ⟨first, reads, rest, ends, rfl⟩ := Language.mem_mul.mp retry
    obtain ⟨final, continues⟩ := endings_le_reading interruptsRetry rfl ends
    have resubmitted : retries ≤ reading none (some .retrying) :=
      calc
        retries ≤ reading none (some .forwarding) *
            (reading (some .forwarding) (some .connectionLimited) *
              reading (some .connectionLimited) (some .retrying)) := by
          unfold retries
          gcongr
        _ ≤ reading none (some .forwarding) * reading (some .forwarding) (some .retrying) := by
          gcongr
          exact reading_mul_le _ _ _
        _ ≤ reading none (some .retrying) := reading_mul_le _ _ _
    exact ⟨final, reading_mul_le _ _ _ (Language.append_mem_mul (resubmitted reads) continues)⟩

/-- Words without a connection limit. -/
def unlimited : Language Operation :=
  {word | word.count .rejectConnectionLimit = 0}

theorem unlimited_mul_le
    {first second : Language Operation}
    (left : first ≤ unlimited)
    (right : second ≤ unlimited) :
    first * second ≤ unlimited := by
  intro word member
  obtain ⟨start, reads, rest, continues, rfl⟩ := Language.mem_mul.mp member
  have before : start.count .rejectConnectionLimit = 0 := left reads
  have after : rest.count .rejectConnectionLimit = 0 := right continues
  change (start ++ rest).count .rejectConnectionLimit = 0
  rw [List.count_append, before, after]

theorem unlimited_kstar_le
    {language : Language Operation}
    (among : language ≤ unlimited) :
    language∗ ≤ unlimited := by
  refine kstar_le_of_mul_le_right ?_ (unlimited_mul_le among le_rfl)
  intro word member
  cases member
  rfl

theorem letter_le_unlimited (other : operation ≠ .rejectConnectionLimit) :
    {[operation]} ≤ unlimited := by
  intro word member
  cases member
  exact List.count_eq_zero.mpr (by simpa using other.symm)

theorem submissions_le_unlimited : submissions ≤ unlimited :=
  unlimited_mul_le (letter_le_unlimited (by decide))
    (unlimited_kstar_le (unlimited_mul_le (letter_le_unlimited (by decide))
      (letter_le_unlimited (by decide))))

theorem endings_le_unlimited : endings ≤ unlimited := by
  have cancels : {[.cancel]}∗ ≤ unlimited :=
    unlimited_kstar_le (letter_le_unlimited (by decide))
  refine add_le (add_le (add_le ?_ (letter_le_unlimited (by decide))) ?_) ?_
  · intro word member
    cases member
    rfl
  · exact unlimited_mul_le (letter_le_unlimited (by decide)) cancels
  · exact unlimited_mul_le (letter_le_unlimited (by decide)) cancels

theorem count_le_one_of_mem_lifecycle (member : word ∈ lifecycle) :
    word.count .rejectConnectionLimit ≤ 1 := by
  obtain ⟨first, submitted, rest, ends, rfl⟩ := Language.mem_mul.mp member
  have none : first.count .rejectConnectionLimit = 0 := submissions_le_unlimited submitted
  rw [List.count_append, none]
  rcases ends with ended | limited
  · have none : rest.count .rejectConnectionLimit = 0 := endings_le_unlimited ended
    omega
  · obtain ⟨limit, one, later, continues, rfl⟩ := Language.mem_mul.mp limited
    cases one
    have none : later.count .rejectConnectionLimit = 0 := by
      rcases continues with nothing | retried
      · cases nothing
        rfl
      · exact unlimited_mul_le submissions_le_unlimited endings_le_unlimited retried
    rw [List.count_append, none]
    decide

end Words

end Turnrail
