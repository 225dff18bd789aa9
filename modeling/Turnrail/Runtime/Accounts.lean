import Turnrail.Runtime.Delivery
import Turnrail.Runtime.Execution

/-!
# A turn keeps its account

Everything that is sent for a turn goes out on a connection of the account that
the file binds the turn to, and the file never changes a binding.
-/

namespace Turnrail

open Interleaving

variable {host : Foundation}

/-- The turn for which an effect sends a request, and the account of the
connection it uses. -/
def Effect.sendsOn : Effect → Option (String × UUID)
  | .send connection _ _ turn => some (turn, connection.accountID)
  | .search account _ _ _ turn => some (turn, account.accountID)
  | _ => none

/-- A request of a turn is sent on an account. -/
def SendsOn (turn : String) (account : UUID)
    (moment : Moment router Point World) : Prop :=
  ∃ thread effect reply, moment.event = .performed thread effect reply ∧
      effect.sendsOn = some (turn, account)

/-- A file binds a turn to an account. -/
def Disk.Binds (disk : Disk) (turn : String) (account : UUID) : Prop :=
  ∃ saved, disk.ledger = some saved ∧ saved.bindings.lookup turn = some account

variable {turn : String} {account : UUID}

theorem Disk.Keeps.binds
    {before after : Disk}
    (keeps : before.Keeps after)
    (binds : before.Binds turn account) :
    after.Binds turn account := by
  obtain ⟨saved, known, bound⟩ := binds
  obtain ⟨later, known, grown⟩ := keeps saved known
  exact ⟨later, known, grown.bindings bound⟩

theorem Disk.Binds.unique
    {disk : Disk}
    {first second : UUID}
    (one : disk.Binds turn first)
    (two : disk.Binds turn second) :
    first = second := by
  obtain ⟨saved, known, bound⟩ := one
  obtain ⟨saved', known', bound'⟩ := two
  rw [known] at known'
  cases known'
  rw [bound] at bound'
  cases bound'
  rfl

theorem Workers.Delivers.binds
    {workers : Workers host}
    {thread : Nat}
    {stage : Stage}
    {fingerprint turn : String}
    (delivers : workers.Delivers)
    (known : workers.stages thread = some stage)
    (begun : stage.phase = .begun fingerprint turn)
    (bound : stage.binding = some (turn, account)) :
    workers.world.disk.Binds turn account := by
  have sound := delivers.sound known
  obtain ⟨state, running, inMemory⟩ := sound.binding bound
  obtain ⟨-, saved, -, file, -, -, account', inFile⟩ := sound.held (.inl begun)
  -- The memory is not behind the file, so both name the same account.
  obtain ⟨saved', file', grown⟩ := delivers.coherent state running
  rw [file] at file'
  cases file'
  have same := grown.bindings inFile
  rw [inMemory] at same
  cases same
  exact ⟨saved, file, inFile⟩

theorem Workers.Delivers.sends_on
    {workers after : Workers host}
    {moment : Moment router Point World}
    (delivers : workers.Delivers)
    (sends : SendsOn turn account moment)
    (step : workers.Step moment.event after) :
    after.world.disk.Binds turn account := by
  obtain ⟨thread, effect, reply, happened, sends⟩ := sends
  rw [happened] at step
  cases step with
  | @perform world stage _ _ _ known allowed _ executed =>
    have other : effect.callsLedger = false := by
      cases effect <;> cases sends <;> rfl
    obtain ⟨-, disk⟩ := exec_other other executed
    rw [disk]
    cases effect with
    | send connection payload fingerprint turn =>
      cases sends
      obtain ⟨begun, _, _, account, _, _, -, bound, -, rfl, -⟩ := allowed
      exact delivers.binds known begun bound
    | search account body headers fingerprint turn =>
      cases sends
      exact delivers.binds known allowed.1 allowed.2.1
    | _ => cases sends

/-- Every send of a turn goes out on a connection of the account that the file
binds the turn to, and any two sends of a turn use the same account. -/
theorem turn_keeps_account
    {trace : List (Moment router Point World)}
    {pool : Pool router Point World}
    (run : RouterRun host trace pool)
    (turn : String) :
    (∀ moment ∈ trace, ∀ account, SendsOn turn account moment →
        moment.world.disk.Binds turn account) ∧
      (∀ earlier first between second later firstAccount secondAccount,
        trace = earlier ++ first :: (between ++ second :: later) →
        SendsOn turn firstAccount first → SendsOn turn secondAccount second →
        firstAccount = secondAccount) := by
  obtain ⟨workers, run, -⟩ := run.workers
  constructor
  · intro moment member account sends
    obtain ⟨earlier, later, rfl⟩ := List.append_of_mem member
    obtain ⟨before, after, run, step, same⟩ := run.at
    rw [same]
    exact (Workers.Run.delivers run).sends_on sends step
  · rintro earlier first between second later firstAccount secondAccount
      rfl sendsFirst sendsSecond
    have split : earlier ++ first :: (between ++ second :: later) =
        (earlier ++ first :: between) ++ second :: later := by simp
    rw [split] at run
    obtain ⟨before, after, run, step, -⟩ := run.at
    have delivers := Workers.Run.delivers run
    have bound : before.world.disk.Binds turn firstAccount := by
      obtain ⟨middle, reached, run, first, -, onward⟩ := run.onward
      refine (onward (fun workers => workers.world.disk.Binds turn firstAccount)
        ((Workers.Run.delivers run).sends_on sendsFirst first) ?_).1
      intro trace before event after run _ step bound
      have coherent := (Workers.Run.delivers run).coherent
      exact (coherent.step step).1.binds bound
    have kept := (delivers.coherent.step step).1.binds bound
    exact kept.unique (delivers.sends_on sendsSecond step)

/-- A request that is sent twice, on different connections, stays with the
account of its turn. -/
theorem lost_request_stays_with_account :
    ∃ trace pool, RouterRun Rehearsal.host trace pool ∧
      ∃ earlier first between second later firstAccount secondAccount,
        trace = earlier ++ first :: (between ++ second :: later) ∧
        SendsOn "task/turn" firstAccount first ∧
        SendsOn "task/turn" secondAccount second ∧
        firstAccount = secondAccount ∧
        first.world.disk.Binds "task/turn" firstAccount ∧
        second.world.disk.Binds "task/turn" secondAccount := by
  obtain ⟨trace, pool, run, visited⟩ := Rehearsal.run
    (Rehearsal.prelude ++ Rehearsal.submission 1 "first" ++ Script.go 1 8
        (Rehearsal.replies "first" (.error (.transport Rehearsal.lost))) ++
      Rehearsal.submission 2 "second")
    [observing Effect.sendsOn ("task/turn", ⟨1⟩), observing Effect.sendsOn ("task/turn", ⟨1⟩)]
    (fun _ => true) (by decide +kernel)
  obtain ⟨bound, same⟩ := turn_keeps_account run "task/turn"
  obtain ⟨earlier, first, rest, rfl, -, sentFirst, visited⟩ := split_of_visits visited
  obtain ⟨between, second, later, rfl, -, sentSecond, -⟩ := split_of_visits visited
  have sendsFirst : SendsOn "task/turn" ⟨1⟩ first := performed_of_observing sentFirst
  have sendsSecond : SendsOn "task/turn" ⟨1⟩ second := performed_of_observing sentSecond
  exact ⟨_, pool, run, _, _, _, _, _, _, _, rfl, sendsFirst, sendsSecond,
    same _ _ _ _ _ _ _ rfl sendsFirst sendsSecond,
    bound first (by simp) _ sendsFirst, bound second (by simp) _ sendsSecond⟩

end Turnrail
