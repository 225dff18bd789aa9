import Mathlib.Logic.Function.Basic

/-!
# Programs of atomic effects

A program is a tree of atomic effects.  Each node performs one effect and
resumes with the reply the environment gives, so a scheduler may interleave
programs exactly at their nodes.

A protocol assigns a stage to a program.  It says which effects a stage allows
and which stage follows each reply.  `Program.Follows` says that every effect
of a program is allowed, and its rules reduce that statement along the
structure of the program.  Routines add exceptions and mutable variables, which
survive an exception.
-/

namespace Interleaving

/-- Effects with their replies. -/
structure Signature where
  Effect : Type
  Reply : Effect → Type

/-- A finite-depth tree of effects with a result at each leaf. -/
inductive Program (σ : Signature) (α : Type) : Type
  | pure (value : α)
  | perform (effect : σ.Effect) (resume : σ.Reply effect → Program σ α)

namespace Program

/-- Run one program after another. -/
protected def bind : Program σ α → (α → Program σ β) → Program σ β
  | .pure value, next => next value
  | .perform effect resume, next => .perform effect fun reply => (resume reply).bind next

instance : Monad (Program σ) where
  pure := .pure
  bind := Program.bind

@[simp] theorem pure_bind
    (value : α)
    (next : α → Program σ β) :
    (Program.pure value : Program σ α).bind next = next value := rfl

@[simp] theorem perform_bind
    (effect : σ.Effect)
    (resume : σ.Reply effect → Program σ α)
    (next : α → Program σ β) :
    (perform effect resume).bind next = perform effect fun reply =>
      (resume reply).bind next := rfl

/-- The value of a program whose effects are answered. -/
def answer (reply : (effect : σ.Effect) → Option (σ.Reply effect)) :
    Program σ α → Option α
  | .pure value => some value
  | .perform effect resume => (reply effect).bind fun value => (resume value).answer reply

end Program

/-- Stages of one party, the effects each stage allows, the replies that are
relied upon, and the stage after each reply. -/
structure Protocol (σ : Signature) where
  Stage : Type
  allows : Stage → σ.Effect → Prop
  admits : Stage → (effect : σ.Effect) → σ.Reply effect → Prop
  next : Stage → (effect : σ.Effect) → σ.Reply effect → Stage

namespace Program

/-- Every effect of the program is allowed in the stage where it is performed,
for all admitted replies, and the result and the final stage satisfy the
postcondition. -/
def Follows (protocol : Protocol σ) :
    Program σ α → protocol.Stage → (α → protocol.Stage → Prop) → Prop
  | .pure value, stage, post => post value stage
  | .perform effect resume, stage, post =>
    protocol.allows stage effect ∧ ∀ reply, protocol.admits stage effect reply →
        (resume reply).Follows protocol (protocol.next stage effect reply) post

variable {protocol : Protocol σ}

@[simp] theorem follows_pure
    (value : α)
    (stage : protocol.Stage)
    (post : α → protocol.Stage → Prop) :
    (Program.pure value : Program σ α).Follows protocol stage post ↔
      post value stage := Iff.rfl

@[simp] theorem follows_perform
    (effect : σ.Effect)
    (resume : σ.Reply effect → Program σ α)
    (stage : protocol.Stage)
    (post : α → protocol.Stage → Prop) :
    (perform effect resume).Follows protocol stage post ↔
      protocol.allows stage effect ∧ ∀ reply,
      protocol.admits stage effect reply →
      (resume reply).Follows protocol (protocol.next stage effect reply) post :=
  Iff.rfl

@[simp] theorem follows_bind
    (program : Program σ α)
    (next : α → Program σ β)
    (stage : protocol.Stage)
    (post : β → protocol.Stage → Prop) :
    (program.bind next).Follows protocol stage post ↔
      program.Follows protocol stage fun value reached =>
      (next value).Follows protocol reached post := by
  induction program generalizing stage with
  | pure value => rfl
  | perform effect resume ih => simp only [perform_bind, follows_perform, ih]

theorem Follows.mono
    {program : Program σ α}
    {stage : protocol.Stage}
    {post weaker : α → protocol.Stage → Prop}
    (follows : program.Follows protocol stage post)
    (weakens : ∀ value reached, post value reached → weaker value reached) :
    program.Follows protocol stage weaker := by
  induction program generalizing stage with
  | pure value => exact weakens value stage follows
  | perform effect resume ih =>
    refine ⟨follows.1, ?_⟩
    intro reply admitted
    exact ih reply (follows.2 reply admitted)

end Program

/-- A program with variables of type `ρ` and exceptions of type `ε`.  The
variables keep the values they had when an exception was thrown. -/
def Routine (σ : Signature) (ρ ε α : Type) : Type :=
  ρ → Program σ (Except ε α × ρ)

namespace Routine

/-- Run a routine from its variables. -/
def run (routine : Routine σ ρ ε α) (store : ρ) :
    Program σ (Except ε α × ρ) :=
  routine store

/-- Continue after a normal result, pass an exception on. -/
protected def bind
    (routine : Routine σ ρ ε α)
    (next : α → Routine σ ρ ε β) : Routine σ ρ ε β :=
  fun store => (routine store).bind fun
    | (.ok value, reached) => next value reached
    | (.error failure, reached) => .pure (.error failure, reached)

/-- Continue with the handler after an exception. -/
protected def tryCatch
    (routine : Routine σ ρ ε α)
    (handler : ε → Routine σ ρ ε α) : Routine σ ρ ε α :=
  fun store => (routine store).bind fun
    | (.ok value, reached) => .pure (.ok value, reached)
    | (.error failure, reached) => handler failure reached

instance : Monad (Routine σ ρ ε) where
  pure value := fun store => .pure (.ok value, store)
  bind := Routine.bind

instance : MonadExceptOf ε (Routine σ ρ ε) where
  throw failure := fun store => .pure (.error failure, store)
  tryCatch := Routine.tryCatch

/-- Read the variables. -/
protected def get : Routine σ ρ ε ρ :=
  fun store => .pure (.ok store, store)

/-- Change the variables. -/
protected def modify (change : ρ → ρ) : Routine σ ρ ε Unit :=
  fun store => .pure (.ok (), change store)

/-- Perform an effect. -/
def perform (effect : σ.Effect) : Routine σ ρ ε (σ.Reply effect) :=
  fun store => .perform effect fun reply => .pure (.ok reply, store)

/-- Turn an outcome into a result or an exception. -/
def ofExcept : Except ε α → Routine σ ρ ε α
  | .ok value => fun store => .pure (.ok value, store)
  | .error failure => fun store => .pure (.error failure, store)

/-- Run a routine and keep its outcome, whether or not it is an exception. -/
def attempt (routine : Routine σ ρ ε α) : Routine σ ρ ε (Except ε α) :=
  fun store => (routine store).bind fun
    | (outcome, reached) => .pure (.ok outcome, reached)

/-- Every effect of the routine is allowed, and its outcome, its variables and
the final stage satisfy the postcondition. -/
def Follows (protocol : Protocol σ)
    (routine : Routine σ ρ ε α)
    (store : ρ)
    (stage : protocol.Stage)
    (post : Except ε α → ρ → protocol.Stage → Prop) : Prop :=
  (routine.run store).Follows protocol stage fun result reached =>
    post result.1 result.2 reached

/-- Pass a normal result on to a continuation's requirement and an exception on
to the postcondition. -/
def Onward
    (normal : α → ρ → τ → Prop)
    (post : Except ε β → ρ → τ → Prop) : Except ε α → ρ → τ → Prop
  | .ok value, store, stage => normal value store stage
  | .error failure, store, stage => post (.error failure) store stage

@[simp] theorem onward_ok
    (normal : α → ρ → τ → Prop)
    (post : Except ε β → ρ → τ → Prop)
    (value : α)
    (store : ρ)
    (stage : τ) :
    Onward normal post (.ok value) store stage ↔ normal value store stage :=
  Iff.rfl

@[simp] theorem onward_error
    (normal : α → ρ → τ → Prop)
    (post : Except ε β → ρ → τ → Prop)
    (failure : ε)
    (store : ρ)
    (stage : τ) :
    Onward normal post (.error failure) store stage ↔
      post (.error failure) store stage := Iff.rfl

section Rules

variable {protocol : Protocol σ}
variable (store : ρ) (stage : protocol.Stage)

@[simp] theorem follows_pure
    (value : α)
    (post : Except ε α → ρ → protocol.Stage → Prop) :
    (Pure.pure value : Routine σ ρ ε α).Follows protocol store stage post ↔
      post (.ok value) store stage := Iff.rfl

@[simp] theorem follows_perform
    (effect : σ.Effect)
    (post : Except ε (σ.Reply effect) → ρ → protocol.Stage → Prop) :
    (perform effect : Routine σ ρ ε _).Follows protocol store stage post ↔
      protocol.allows stage effect ∧ ∀ reply,
      protocol.admits stage effect reply →
      post (.ok reply) store (protocol.next stage effect reply) := Iff.rfl

@[simp] theorem follows_ofExcept
    (outcome : Except ε α)
    (post : Except ε α → ρ → protocol.Stage → Prop) :
    (ofExcept outcome : Routine σ ρ ε α).Follows protocol store stage post ↔
      post outcome store stage := by
  cases outcome <;> rfl

@[simp] theorem follows_bind
    (routine : Routine σ ρ ε α)
    (next : α → Routine σ ρ ε β)
    (post : Except ε β → ρ → protocol.Stage → Prop) :
    (routine >>= next).Follows protocol store stage post ↔
      routine.Follows protocol store stage (Onward (fun value reached current =>
          (next value).Follows protocol reached current post) post) := by
  change ((routine store).bind _).Follows _ _ _ ↔ _
  rw [Program.follows_bind]
  constructor <;>
    intro follows <;>
    refine follows.mono ?_ <;>
    rintro ⟨value | value, reached⟩ current holds <;>
    exact holds

@[simp] theorem follows_attempt
    (routine : Routine σ ρ ε α)
    (post : Except ε (Except ε α) → ρ → protocol.Stage → Prop) :
    (attempt routine).Follows protocol store stage post ↔
      routine.Follows protocol store stage fun outcome reached current =>
      post (.ok outcome) reached current := by
  change ((routine store).bind _).Follows _ _ _ ↔ _
  rw [Program.follows_bind]
  rfl

variable {store stage} {routine : Routine σ ρ ε α}

theorem Follows.mono
    {post weaker : Except ε α → ρ → protocol.Stage → Prop}
    (follows : routine.Follows protocol store stage post)
    (weakens : ∀ outcome reached current,
      post outcome reached current → weaker outcome reached current) :
    routine.Follows protocol store stage weaker :=
  Program.Follows.mono follows fun result reached holds =>
    weakens result.1 result.2 reached holds

variable {rest : α → Routine σ ρ ε β} {middle : Except ε α → ρ → protocol.Stage → Prop}
  {post : Except ε β → ρ → protocol.Stage → Prop}

theorem Follows.bind
    (first : routine.Follows protocol store stage middle)
    (failed : ∀ error reached current, middle (.error error) reached current →
      post (.error error) reached current)
    (passed : ∀ value reached current, middle (.ok value) reached current →
      (rest value).Follows protocol reached current post) :
    (routine >>= rest).Follows protocol store stage post := by
  rw [follows_bind]
  refine first.mono ?_
  intro outcome reached current holds
  cases outcome with
  | error error => exact failed error reached current holds
  | ok value => exact passed value reached current holds

theorem Follows.attempt
    {rest : Except ε α → Routine σ ρ ε β}
    (first : routine.Follows protocol store stage middle)
    (follows : ∀ outcome reached current, middle outcome reached current →
      (rest outcome).Follows protocol reached current post) :
    (Routine.attempt routine >>= rest).Follows protocol store stage post := by
  rw [follows_bind, follows_attempt]
  exact first.mono follows

theorem Follows.modify
    {change : ρ → ρ}
    {rest : Unit → Routine σ ρ ε β}
    (follows : (rest ()).Follows protocol (change store) stage post) :
    (Routine.modify change >>= rest).Follows protocol store stage post := by
  rw [follows_bind]
  exact follows

theorem Follows.get
    {rest : ρ → Routine σ ρ ε β}
    (follows : (rest store).Follows protocol store stage post) :
    (Routine.get >>= rest).Follows protocol store stage post := by
  rw [follows_bind]
  exact follows

theorem Follows.perform
    {effect : σ.Effect}
    {rest : σ.Reply effect → Routine σ ρ ε β}
    (allowed : protocol.allows stage effect)
    (replied : ∀ reply, protocol.admits stage effect reply →
      (rest reply).Follows protocol store
        (protocol.next stage effect reply) post) :
    (Routine.perform effect >>= rest).Follows protocol store stage post := by
  rw [follows_bind]
  exact ⟨allowed, replied⟩

theorem Follows.ofExcept
    {outcome : Except ε α}
    (failed : ∀ error, outcome = .error error → post (.error error) store stage)
    (passed : ∀ value, outcome = .ok value →
      (rest value).Follows protocol store stage post) :
    (Routine.ofExcept outcome >>= rest).Follows protocol store stage post := by
  rw [follows_bind, follows_ofExcept]
  cases outcome with
  | error error => exact failed error rfl
  | ok value => exact passed value rfl

end Rules

/-- A routine follows the protocol, and its outcome and the final stage satisfy
the postcondition, whatever its variables are. -/
abbrev Keeps (protocol : Protocol σ)
    (routine : Routine σ ρ ε α)
    (store : ρ)
    (stage : protocol.Stage)
    (post : Except ε α → protocol.Stage → Prop) : Prop :=
  routine.Follows protocol store stage fun outcome _ reached => post outcome reached

section Keeps

variable {protocol : Protocol σ} {store : ρ} {stage : protocol.Stage}
variable {post : Except ε β → protocol.Stage → Prop}

theorem keeps_perform
    {effect : σ.Effect}
    {rest : σ.Reply effect → Routine σ ρ ε β}
    (allowed : protocol.allows stage effect)
    (replied : ∀ reply, Keeps protocol
      (rest reply) store (protocol.next stage effect reply) post) :
    Keeps protocol (Routine.perform effect >>= rest) store stage post :=
  Follows.perform allowed fun reply _ => replied reply

theorem keeps_perform_last
    {effect : σ.Effect}
    {post : Except ε (σ.Reply effect) → protocol.Stage → Prop}
    (allowed : protocol.allows stage effect)
    (replied : ∀ reply, post (.ok reply) (protocol.next stage effect reply)) :
    Keeps protocol
      (Routine.perform effect : Routine σ ρ ε _) store stage post :=
  ⟨allowed, fun reply _ => replied reply⟩

theorem keeps_pass
    {outcome : Except ε α}
    {rest : α → Routine σ ρ ε β}
    (failed : ∀ error, outcome = .error error → post (.error error) stage)
    (passed : ∀ value, outcome = .ok value →
      Keeps protocol (rest value) store stage post) :
    Keeps protocol (Routine.ofExcept outcome >>= rest) store stage post :=
  Follows.ofExcept failed passed

theorem keeps_pass_last
    {outcome : Except ε β}
    (holds : post outcome stage) :
    Keeps protocol (Routine.ofExcept outcome) store stage post := by
  cases outcome <;> exact holds

theorem keeps_throw
    {error : ε}
    (holds : post (.error error) stage) :
    Keeps protocol (throw error : Routine σ ρ ε β) store stage post := holds

theorem keeps_pure
    {value : β}
    (holds : post (.ok value) stage) :
    Keeps protocol (pure value : Routine σ ρ ε β) store stage post := holds

variable {routine : Routine σ ρ ε α}
variable {middle : Except ε α → protocol.Stage → Prop}

theorem keeps_bind
    {rest : α → Routine σ ρ ε β}
    (first : Keeps protocol routine store stage middle)
    (failed : ∀ error reached, middle (.error error) reached →
      post (.error error) reached)
    (passed : ∀ value now reached, middle (.ok value) reached →
      Keeps protocol (rest value) now reached post) :
    Keeps protocol (routine >>= rest) store stage post :=
  Follows.bind first (fun error _ reached holds => failed error reached holds) passed

theorem keeps_attempt
    {rest : Except ε α → Routine σ ρ ε β}
    (first : Keeps protocol routine store stage middle)
    (follows : ∀ outcome now reached, middle outcome reached →
      Keeps protocol (rest outcome) now reached post) :
    Keeps protocol (Routine.attempt routine >>= rest) store stage post :=
  Follows.attempt first follows

end Keeps

end Routine
end Interleaving
