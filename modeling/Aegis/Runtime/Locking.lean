import Aegis.Runtime.Calls

/-! The manager's mutex.

Every public operation locks the mutex for its whole length. The failed boot is the one
place where an operation calls another one, and there the lock is held.
-/

set_option autoImplicit false

namespace Aegis.Runtime
open Library

/-- Firecracker listens, and the boot that follows is not reported as a success. -/
def BootFails (host : Host) (config : SandboxConfig) (env : CreateEnv) : Prop :=
  Spawned host config env ∧ ¬ BootThrows config env.boot ∧ ¬ BootReported config env.boot

instance (host : Host) (config : SandboxConfig) (env : CreateEnv) : Decidable (BootFails host config env) :=
  inferInstanceAs (Decidable (_ ∧ _ ∧ _))

theorem CreateResult.blocked_iff {host after : Host} {config : SandboxConfig} {env : CreateEnv}
    {outcome : Outcome Status} (result : CreateResult .plain host config env (outcome, after)) :
    outcome = .blocked ↔ BootFails host config env := by
  constructor
  · intro stuck
    cases result with
    | unbooted up quiet fails => exact ⟨up, quiet, fails⟩
    | rejected | known | unmade | undone | tapless | uncleared | unforked | unpolled | unspawned | bootThrew | done =>
      cases stuck
  · rintro ⟨spawned, quiet, unreported⟩
    rcases result.past_spawn spawned quiet with ⟨-, status, same⟩ | ⟨reported, -⟩
    · exact same
    · exact absurd reported unreported

/-- The call returns or throws, and the mutex is free then. -/
def EndsFree (op : Op) (host : Host) : Prop :=
  ((call op).ends host).1 ≠ .blocked ∧ ((call op).ends host).2.lockDepth = 0

/-- The call locks the mutex while it holds it. -/
def LocksAgain (op : Op) (host : Host) : Prop :=
  match op with
  | .create config env => BootFails host config env
  | _ => False

theorem endsFree_iff {host : Host} (free : host.lockDepth = 0) (op : Op) : EndsFree op host ↔ ¬ LocksAgain op host := by
  have returns : EndsFree op host ↔ ((call op).ends host).1 ≠ .blocked :=
    ⟨fun ended => ended.1, fun ended => ⟨ended, call_ends_free free op ended⟩⟩
  have quiet (still : op.Quiet) : EndsFree op host := by
    obtain ⟨answer, after, ends, -⟩ := quiet_ends free still
    rw [returns, ends]
    simp
  cases op with
  | create config env =>
    obtain ⟨outcome, after, result, blocked, -⟩ := create_ends free config env
    rw [returns, ne_eq, blocked, result.blocked_iff]
    rfl
  | terminate sandboxId env =>
    obtain ⟨status, after, ends, -⟩ := terminate_ends free sandboxId env
    rw [returns, ends]
    exact iff_of_true (by simp) id
  | execute sandboxId codePayload env => exact iff_of_true (quiet trivial) id
  | metadata sandboxId => exact iff_of_true (quiet trivial) id
  | terminateAll env => exact iff_of_true (quiet trivial) id
  | exit pid => exact iff_of_true (quiet trivial) id

/-- Along a run from a constructed manager every call ends with the mutex free, if and only if
no creation gets as far as a boot that fails. -/
theorem runs_end_free_iff {host : Host} (fresh : Fresh host) (ops : List Op) :
    Along call EndsFree ops host ↔ Along call (fun op host => ¬ LocksAgain op host) ops host := by
  refine along_congr (fun host => host.lockDepth = 0) (fun _ _ => True) ?_ ?_ ops host fresh.free
    (along_of_forall (fun _ _ => trivial) ops host)
  · intro op before free _
    exact endsFree_iff free op
  · intro op before free _ _ ended
    exact call_ends_free free op ended

/-- A creation, an execution and a bulk termination, with every answer favourable. -/
def quietRun : List Op :=
  [.create { sandboxId := "a" } (smoothEnv 77), .execute "a" "print(1)" {}, .terminateAll {}]

theorem quietRun_ends_free : Along call EndsFree quietRun (bareHost none none) := by
  have boots : ¬ BootFails (bareHost none none) { sandboxId := "a" } (smoothEnv 77) := by decide
  exact (runs_end_free_iff ⟨rfl, rfl, rfl⟩ quietRun).mpr ⟨boots, fun _ => ⟨id, fun _ => ⟨id, fun _ => trivial⟩⟩⟩

/-- Firecracker refuses to start the microVM: the creation waits for its own lock. -/
def refusedBoot : CreateEnv := { smoothEnv 77 with boot := { actions := .answered false false } }

theorem refused_boot_blocks :
    Fresh (bareHost none none) ∧
      ¬ EndsFree (.create { sandboxId := "sbx-9f82a1" } refusedBoot) (bareHost none none) := by
  refine ⟨⟨rfl, rfl, rfl⟩, fun ended => ?_⟩
  have fails : BootFails (bareHost none none) { sandboxId := "sbx-9f82a1" } refusedBoot := by decide
  exact (endsFree_iff rfl (.create _ _)).mp ended fails

end Aegis.Runtime
