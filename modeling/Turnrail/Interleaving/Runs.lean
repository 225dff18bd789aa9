import Mathlib.Data.List.Induction

/-!
# Runs of a labelled step relation

A run is a finite sequence of steps from a given state.  It is extended at its
end, so that an invariant may speak about the whole history.
-/

namespace Interleaving

variable {State Event : Type}

/-- The events of a run from the initial state. -/
inductive Runs (step : State → Event → State → Prop) (initial : State) :
    List Event → State → Prop
  | start : Runs step initial [] initial
  | extend {history event state next} :
      Runs step initial history state → step state event next →
      Runs step initial (history ++ [event]) next

namespace Runs

variable {step : State → Event → State → Prop} {initial final : State}

/-- The invariant rule of runs. -/
theorem keeps
    {invariant : List Event → State → Prop}
    (holds : invariant [] initial)
    (kept : ∀ {history event state next}, Runs step initial history state →
      invariant history state → step state event next →
      invariant (history ++ [event]) next)
    {history : List Event}
    (run : Runs step initial history final) :
    invariant history final := by
  induction run with
  | start => exact holds
  | extend run taken ih => exact kept run ih taken

theorem eq_of_nil (run : Runs step initial [] final) : final = initial := by
  generalize empty : [] = history at run
  cases run with
  | start => rfl
  | extend run taken => simp at empty

theorem last
    {history : List Event}
    {event : Event}
    (run : Runs step initial (history ++ [event]) final) :
    ∃ state, Runs step initial history state ∧ step state event final := by
  generalize whole : history ++ [event] = events at run
  cases run with
  | start => simp at whole
  | extend run taken =>
    obtain ⟨rfl, same⟩ := List.append_inj' whole rfl
    cases same
    exact ⟨_, run, taken⟩

theorem split
    {before after : List Event}
    (run : Runs step initial (before ++ after) final) :
    ∃ middle, Runs step initial before middle ∧
      Runs step middle after final := by
  induction after using List.reverseRecOn generalizing final with
  | nil =>
    rw [List.append_nil] at run
    exact ⟨final, run, .start⟩
  | append_singleton rest event ih =>
    rw [← List.append_assoc] at run
    obtain ⟨state, earlier, taken⟩ := run.last
    obtain ⟨middle, first, second⟩ := ih earlier
    exact ⟨middle, first, .extend second taken⟩

theorem head
    {event : Event}
    {rest : List Event}
    (run : Runs step initial (event :: rest) final) :
    ∃ next, step initial event next ∧ Runs step next rest final := by
  obtain ⟨next, first, others⟩ := @split _ _ _ _ _ [event] rest run
  obtain ⟨state, none, taken⟩ := @last _ _ _ _ _ [] event first
  rw [none.eq_of_nil] at taken
  exact ⟨next, taken, others⟩

end Runs

end Interleaving
