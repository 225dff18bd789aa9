import Turnrail.Runtime.Delivery
import Turnrail.Runtime.Execution

/-!
# The ledger file as a journal

Whatever the workers and the process do, the file loses nothing, and a call that
succeeds has saved the whole memory, with all that earlier calls failed to save.
-/

namespace Turnrail

open Interleaving

variable {host : Foundation}

theorem Disk.Keeps.trans
    {first second third : Disk}
    (earlier : first.Keeps second)
    (later : second.Keeps third) :
    first.Keeps third := by
  intro saved known
  obtain ⟨middle, known, grown⟩ := earlier saved known
  obtain ⟨final, known, further⟩ := later middle known
  exact ⟨final, known, grown.trans further⟩

/-- The file keeps all bindings, titles, responses and failed turns, and requests
in it keep their turn and only advance.  No memory is behind the file.  A call
that succeeds saves the memory, or it changes nothing. -/
theorem ledger_file_is_a_journal
    {trace : List (Moment router Point World)}
    {pool : Pool router Point World}
    (run : RouterRun host trace pool) :
    (∀ earlier first later, trace = earlier ++ first :: later →
        ∀ second ∈ later, first.world.disk.Keeps second.world.disk) ∧
      (∀ moment ∈ trace, moment.world.Coherent) ∧
      ∀ earlier moment later thread call value,
        trace = earlier ++ moment :: later →
        moment.event = .performed thread (.ledger call) (.ok value) →
        moment.world.disk.ledger = moment.world.memory ∨
          moment.world.memory = (worldAfter World.start earlier).memory ∧
          moment.world.disk.ledger =
            (worldAfter World.start earlier).disk.ledger := by
  obtain ⟨workers, run, -⟩ := run.workers
  refine ⟨?_, ?_, ?_⟩
  · rintro earlier first later rfl second member
    obtain ⟨before, after, -, -, same, onward⟩ := run.onward
    obtain ⟨reached, keeps, world⟩ := (onward
      (fun workers => first.world.disk.Keeps workers.world.disk) (same ▸ .refl _)
      fun run _ step keeps => keeps.trans ((Workers.Run.delivers run).coherent.step step).1).2
        second (.tail _ member)
    rwa [world]
  · intro moment member
    obtain ⟨earlier, later, rfl⟩ := List.append_of_mem member
    obtain ⟨before, after, run, step, same⟩ := run.at
    rw [same]
    exact ((Workers.Run.delivers run).coherent.step step).2
  · rintro earlier moment later thread call value rfl happened
    obtain ⟨before, after, run, step, same⟩ := run.at
    rw [happened] at step
    rw [same, ← run.world_eq]
    cases step with
    | perform _ _ _ _ executed =>
      obtain ⟨called⟩ := exec_ledger thread executed
      rw [called.memory, called.disk, called.running]
      cases called.outcome with
      | answered _ memory file => exact .inr ⟨congrArg some memory, file⟩
      | changed _ _ _ _ saved => exact .inl (saved rfl)

/-- What is on file when a prompt is handled is kept. -/
theorem prompt_stays_on_file :
    ∃ trace pool, RouterRun Rehearsal.host trace pool ∧
      ∃ first ∈ trace, ∃ second ∈ trace, first.world.disk.ledger.isSome = true ∧
      first.world.disk.Keeps second.world.disk ∧ second.world.Coherent := by
  obtain ⟨trace, pool, run, visited⟩ := Rehearsal.run
    (Rehearsal.prelude ++ Rehearsal.submission 1 "first")
    [⟨fun _ => true, fun moment => moment.world.disk.ledger.isSome⟩,
      ⟨fun _ => true, fun _ => true⟩]
    (fun _ => true) (by decide +kernel)
  obtain ⟨earlier, first, rest, rfl, -, filled, visited⟩ := split_of_visits visited
  obtain ⟨between, second, later, rfl, -, -, -⟩ := split_of_visits visited
  obtain ⟨keeps, coherent, -⟩ := ledger_file_is_a_journal run
  exact ⟨_, pool, run, first, by simp, second, by simp, filled,
    keeps _ _ _ rfl second (by simp), coherent second (by simp)⟩

end Turnrail
