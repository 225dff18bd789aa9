import Turnrail.Foundation

/-!
# A local connection

`RouterSocket` reads from and writes to one local connection.  A call either
returns or throws; what it has read and written stays read and written.
-/

namespace Turnrail

/-- The two directions of a connection. -/
structure Wire where
  input : Data
  output : Data := []
  receives : Bool := true
  deriving DecidableEq

namespace RouterSocket

/-- A call that uses the connection. -/
abbrev Call := ExceptT RouterFailure (StateM Wire)

/-- Throw unless a condition holds. -/
def ensure (condition : Prop) [Decidable condition] (message : String) :
    Call Unit :=
  if condition then pure () else throw ⟨message⟩

/-- The largest read, and the largest message. -/
def maximumBytes : Nat := 64 * 1024 * 1024

/-- Read some bytes. -/
def read (count : Nat) : Call Data := do
  ensure (count ≤ maximumBytes) "Unsupported socket message size."
  let wire ← get
  set { wire with input := wire.input.drop count }
  ensure (count ≤ wire.input.length) "The local connection closed or timed out."
  return wire.input.take count

/-- Write bytes. -/
def write (data : Data) : Call Unit := do
  let wire ← get
  ensure (wire.receives = true) "The local connection could not receive the response."
  set { wire with output := wire.output ++ data }

/-- A call returns a value. -/
def Returns (call : Call α) (before : Wire) (value : α) (after : Wire) : Prop :=
  (call.run.run before).run = (.ok value, after)

instance [DecidableEq α] (call : Call α) (before : Wire) (value : α)
    (after : Wire) : Decidable (Returns call before value after) :=
  inferInstanceAs (Decidable (_ = _))

section Rules

variable {before after : Wire} {first : Call α} {next : α → Call β}

@[simp] theorem returns_pure {value result : α} :
    Returns (pure value) before result after ↔
      value = result ∧ before = after := by
  simp [Returns]

@[simp] theorem not_returns_throw
    {error : RouterFailure}
    {result : α} :
    ¬ Returns (throw error) before result after := by
  simp [Returns]

@[simp] theorem returns_bind {result : β} :
    Returns (first >>= next) before result after ↔
      ∃ value between, Returns first before value between ∧
      Returns (next value) between result after := by
  unfold Returns
  rw [ExceptT.run_bind, StateT.run_bind, Id.run_bind]
  rcases outcome : (first.run.run before).run with ⟨answer, between⟩
  cases answer with
  | error | ok => simp

theorem Returns.bind
    {value : α}
    {between : Wire}
    {result : β}
    (returned : Returns first before value between)
    (rest : Returns (next value) between result after) :
    Returns (first >>= next) before result after :=
  returns_bind.mpr ⟨value, between, returned, rest⟩

variable {wire : Wire} {condition : Prop} {message : String} {count : Nat}
variable {bytes : Data}

@[simp] theorem returns_get :
    Returns get before wire after ↔ before = wire ∧ before = after := by
  change (Except.ok before, before) = (Except.ok wire, after) ↔ _
  simp

@[simp] theorem returns_set {result : PUnit} :
    Returns (set wire) before result after ↔ wire = after := by
  change (Except.ok PUnit.unit, wire) = (Except.ok result, after) ↔ _
  simp

@[simp] theorem returns_ensure
    [Decidable condition]
    {result : Unit} :
    Returns (ensure condition message) before result after ↔
      condition ∧ before = after := by
  unfold ensure
  by_cases holds : condition <;> simp [holds]

theorem Returns.ensure
    [Decidable condition]
    {next : Unit → Call β}
    {result : β}
    (holds : condition)
    (rest : Returns (next ()) before result after) :
    Returns (RouterSocket.ensure condition message >>= next) before
      result after :=
  returns_bind.mpr ⟨(), before, returns_ensure.mpr ⟨holds, rfl⟩, rest⟩

theorem returns_read :
    Returns (read count) before bytes after ↔ count ≤ maximumBytes ∧ bytes.length = count ∧
        before = { after with input := bytes ++ after.input } := by
  have steps : Returns (read count) before bytes after ↔
      count ≤ maximumBytes ∧ count ≤ before.input.length ∧ before.input.take count = bytes ∧
        { before with input := before.input.drop count } = after := by
    simp only [read, returns_bind, returns_ensure, returns_get, returns_set,
      returns_pure, exists_and_left, exists_eq_left', exists_const, and_assoc]
  rw [steps]
  constructor
  · rintro ⟨small, enough, rfl, rfl⟩
    refine ⟨small, List.length_take_of_le enough, ?_⟩
    simp only [List.take_append_drop]
  · rintro ⟨small, rfl, rfl⟩
    simp [small]

theorem returns_read_append
    {bytes : Data}
    (small : bytes.length ≤ maximumBytes)
    (rest output : Data)
    (receives : Bool) :
    Returns (read bytes.length)
      ⟨bytes ++ rest, output, receives⟩ bytes ⟨rest, output, receives⟩ :=
  returns_read.mpr ⟨small, rfl, rfl⟩

theorem returns_write
    {data : Data}
    {result : Unit} :
    Returns (write data) before result after ↔ before.receives = true ∧
      after = { before with output := before.output ++ data } := by
  simp only [write, returns_bind, returns_get, returns_ensure, returns_set,
    exists_and_left, exists_eq_left', exists_const, and_assoc, eq_comm]

end Rules

end RouterSocket

end Turnrail
