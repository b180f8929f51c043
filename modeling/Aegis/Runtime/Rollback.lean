import Aegis.Runtime.Creation

/-! What a failed creation leaves behind.

The mutex counts as reentrant here, so that the clean-up code itself is looked at. Up to
the fork the undo lists are complete but for the directories; from the fork on they miss
the child, and the last two hand the work to an operation that does not know the id.
-/

set_option autoImplicit false

namespace Aegis.Runtime
open Library

/-- The two trees the managers work in. -/
def Host.Region (host : Host) (l : Location) : Prop :=
  l.Within host.baseRuntimeDir.location ∨ l.Within host.rootPath.location

/-- Both tables, the children, the descriptors, the maps and the two trees are as they were. -/
structure RolledBack (host after : Host) : Prop where
  sandboxes : after.sandboxes = host.sandboxes
  cgroups : after.cgroups = host.cgroups
  children : after.children = host.children
  descriptors : after.descriptors = host.descriptors
  ebpfLoader : after.ebpfLoader = host.ebpfLoader
  files : ∀ l, host.Region l → after.files l = host.files l

/-- In the two trees nothing stood where the clean-up removes, and it removes all that was made. -/
def CleanSweep (host : Host) (made : List Location) (removed : Location → Prop) : Prop :=
  (∀ l, host.Region l → removed l → host.files l = none) ∧ ∀ l ∈ made, host.Region l → removed l

/-- All goes well until the fork is tried or the socket cannot be cleared. -/
def PastFork (host : Host) (config : SandboxConfig) (env : CreateEnv) : Prop :=
  env.cgroup.Granted host config.sandboxId ∧ env.tap.Granted (host.withDescriptor env.cgroup.fd) ∧
    (env.spawn.Clears → host.FreePid env.spawn.pid)

instance (host : Host) (config : SandboxConfig) (env : CreateEnv) : Decidable (PastFork host config env) :=
  inferInstanceAs (Decidable (_ ∧ _ ∧ _))

/-- The condition for a creation to succeed or to leave nothing behind. -/
def CleansUp (host : Host) (config : SandboxConfig) (env : CreateEnv) : Prop :=
  if ¬ Admitted host config then True
  else if config.sandboxId ∈ host.cgroups then
    CleanSweep host (sbxDirectories host config env) (·.Within (sbxDir host config).location)
  else if env.cgroup.mkdir ≠ none then
    CleanSweep host (sbxDirectories host config env ++ cgroupDirectories host config env)
      (·.Within (sbxDir host config).location)
  else if ¬ PastFork host config env then
    CleanSweep host (sbxDirectories host config env ++ cgroupDirectories host config env) (bothDirs host config)
  else Completed host config env

section
variable {host work after : Host} {config : SandboxConfig} {env : CreateEnv} {places removed : Location → Prop}
  {made : List Location}

/-- A host that differs in files and messages only is rolled back when its files are. -/
theorem swept_iff (traced : Traced places host work) (wiped : host.files.Wiped made removed work.files)
    (issued : List UInt64) : RolledBack host { work with issued := issued } ↔ CleanSweep host made removed := by
  unfold CleanSweep
  rw [← wiped.restored_iff]
  constructor
  · exact fun back => back.files
  · intro same
    obtain ⟨files, touched, sent, rfl⟩ := traced.frame
    exact ⟨rfl, rfl, rfl, rfl, rfl, same⟩

theorem not_rolledBack_of_cgroup (new : config.sandboxId ∉ host.cgroups)
    (left : after.cgroups = host.cgroups.insert config.sandboxId (cgroupInfo host config env)) :
    ¬ RolledBack host after := by
  intro back
  have known : config.sandboxId ∈ after.cgroups := by
    rw [left]
    exact Finmap.mem_insert.mpr (.inl rfl)
  rw [back.cgroups] at known
  exact new known

/-- The lock is not part of what is rolled back. -/
theorem rolledBack_relock (host after : Host) (depth other : Nat) :
    RolledBack host { after with lockDepth := depth } ↔ RolledBack { host with lockDepth := other } after :=
  ⟨fun ⟨sandboxes, cgroups, children, descriptors, loader, files⟩ =>
      ⟨sandboxes, cgroups, children, descriptors, loader, files⟩,
    fun ⟨sandboxes, cgroups, children, descriptors, loader, files⟩ =>
      ⟨sandboxes, cgroups, children, descriptors, loader, files⟩⟩

theorem cleansUp_of_rejected (refused : ¬ Admitted host config) : CleansUp host config env := by
  unfold CleansUp
  rw [if_pos refused]
  trivial

theorem cleansUp_past (made : CgroupMade host config env) (past : PastFork host config env) :
    CleansUp host config env ↔ Completed host config env := by
  obtain ⟨admitted, new, mkdir⟩ := made
  unfold CleansUp
  rw [if_neg (not_not.mpr admitted), if_neg new, if_neg (not_not.mpr mkdir), if_neg (not_not.mpr past)]

theorem cleansUp_before (made : CgroupMade host config env) (fails : ¬ PastFork host config env) :
    CleansUp host config env ↔
      CleanSweep host (sbxDirectories host config env ++ cgroupDirectories host config env)
        (bothDirs host config) := by
  obtain ⟨admitted, new, mkdir⟩ := made
  unfold CleansUp
  rw [if_neg (not_not.mpr admitted), if_neg new, if_neg (not_not.mpr mkdir), if_pos fails]

theorem Forked.pastFork (up : Forked host config env) : PastFork host config env :=
  ⟨up.tapUp.granted, up.tapUp.2, fun _ => up.free⟩

/-- A creation that ends past the fork, or at a socket that cannot be cleared, keeps its cgroup or its child. -/
theorem leaves_behind (made : CgroupMade host config env) (past : PastFork host config env)
    (incomplete : ¬ Completed host config env) {outcome : Outcome Status} (failed : outcome ≠ .returned .success)
    (left : ¬ RolledBack host after) :
    (outcome ≠ .returned .success → RolledBack host after) ↔ CleansUp host config env := by
  rw [cleansUp_past made past]
  exact iff_of_false (fun back => left (back failed)) incomplete

theorem CreateResult.rolledBack_iff {outcome : Outcome Status}
    (result : CreateResult .reentrant host config env (outcome, after)) :
    (outcome ≠ .returned .success → RolledBack host after) ↔ CleansUp host config env := by
  have failed {value : Outcome Status} (fails : value ≠ .returned .success) :
      (value ≠ .returned .success → RolledBack host after) ↔ RolledBack host after :=
    ⟨fun back => back fails, fun back _ => back⟩
  cases result with
  | rejected refused =>
    exact iff_of_true (fun _ => ⟨rfl, rfl, rfl, rfl, rfl, fun _ _ => rfl⟩) (cleansUp_of_rejected refused)
  | known admitted taken traced wiped =>
    rw [failed (by simp), CleansUp, if_neg (not_not.mpr admitted), if_pos taken]
    exact swept_iff traced wiped _
  | unmade admitted new error traced wiped =>
    rw [failed (by simp), CleansUp, if_neg (not_not.mpr admitted), if_neg new, if_pos error]
    exact swept_iff traced wiped _
  | undone made refused traced wiped =>
    rw [failed (by simp), cleansUp_before made fun past => refused past.1]
    exact swept_iff traced wiped _
  | tapless up refused traced wiped =>
    rw [failed (by simp), cleansUp_before up.1 fun past => refused past.2.1]
    exact swept_iff traced wiped _
  | unforked up clears taken traced wiped =>
    rw [failed (by simp), cleansUp_before up.made fun past => taken (past.2.2 clears)]
    exact swept_iff traced wiped _
  -- from here on the cgroup is not destroyed any more
  | uncleared up fails =>
    have past : PastFork host config env := ⟨up.granted, up.2, fun clears => absurd clears fails⟩
    exact leaves_behind up.made past (fun complete => fails complete.spawned.forked.clears) (by simp)
      (not_rolledBack_of_cgroup up.made.new rfl)
  | unpolled up throws =>
    refine leaves_behind up.made up.pastFork (fun complete => ?_) (by simp)
      (not_rolledBack_of_cgroup up.made.new rfl)
    simp [complete.1.2] at throws
  | unspawned up silent =>
    refine leaves_behind up.made up.pastFork (fun complete => ?_) (by simp) (fun back => ?_)
    · simp [complete.1.2] at silent
    -- the child that never opened its socket is not killed
    · have running : env.spawn.pid ∈ host.children := by
        rw [← back.children]
        exact Finmap.mem_insert.mpr (.inl rfl)
      exact up.free.2 running
  | bootThrew up throws =>
    exact leaves_behind up.made up.forked.pastFork (fun complete => complete.2.1 throws) (by simp)
      (not_rolledBack_of_cgroup up.made.new rfl)
  -- `terminate_sandbox` is called, but the id is not in the table yet
  | unbooted up quiet fails unsuccessful =>
    exact leaves_behind up.made up.forked.pastFork (fun complete => fails complete.2.2)
      (fun same => unsuccessful (Outcome.returned.inj same)) (not_rolledBack_of_cgroup up.made.new rfl)
  | done complete =>
    exact iff_of_true (fun other => absurd rfl other)
      ((cleansUp_past complete.made complete.spawned.forked.pastFork).mpr complete)

end

/-- The result of a creation, seen from outside the lock. -/
theorem reentrant_result (host : Host) (config : SandboxConfig) (env : CreateEnv) :
    ∃ after, CreateResult .reentrant { host with lockDepth := host.lockDepth + 1 } config env
        (((createSandbox .reentrant config env).ends host).1, after) ∧
      (RolledBack host ((createSandbox .reentrant config env).ends host).2 ↔
        RolledBack { host with lockDepth := host.lockDepth + 1 } after) := by
  obtain ⟨outcome, after, result, ends⟩ := createSandbox_ends (.inr rfl) config env
  rw [ends]
  refine ⟨after, result, ?_⟩
  by_cases stuck : outcome = .blocked
  · rw [if_pos stuck]
    exact rolledBack_relock host after after.lockDepth _
  · rw [if_neg stuck]
    exact rolledBack_relock host after _ _

/-- A creation that does not end with Success leaves everything as it was, if and only if it is
rejected at once, or it fails before the fork and the directories are all removed again. -/
theorem failed_creation_rolls_back_iff (host : Host) (config : SandboxConfig) (env : CreateEnv) :
    (((createSandbox .reentrant config env).ends host).1 ≠ .returned .success →
      RolledBack host ((createSandbox .reentrant config env).ends host).2) ↔ CleansUp host config env := by
  obtain ⟨after, result, outside⟩ := reentrant_result host config env
  rw [outside]
  exact result.rolledBack_iff

/-- An id with a NUL in it has the directories of another id. -/
example (host : Host) : sbxDir host { sandboxId := "sbx1\x00y" } = sbxDir host { sandboxId := "sbx1" } ∧
    cgroupDir host { sandboxId := "sbx1\x00y" } = cgroupDir host { sandboxId := "sbx1" } := ⟨rfl, rfl⟩

/-- Firecracker never opens its socket: the creation fails and its process stays. -/
def silentSpawn : CreateEnv := { smoothEnv 77 with spawn := { pid := 100, polls := fun _ => .no } }

theorem silent_spawn_leaves_child :
    Fresh (bareHost none none) ∧
      ((createSandbox .reentrant { sandboxId := "sbx-9f82a1" } silentSpawn).ends (bareHost none none)).1 ≠
        .returned .success ∧
      ¬ RolledBack (bareHost none none)
        ((createSandbox .reentrant { sandboxId := "sbx-9f82a1" } silentSpawn).ends (bareHost none none)).2 := by
  obtain ⟨after, result, outside⟩ := reentrant_result (bareHost none none) { sandboxId := "sbx-9f82a1" } silentSpawn
  have made : CgroupMade (bareHost none none) { sandboxId := "sbx-9f82a1" } silentSpawn := by decide
  have past : PastFork (bareHost none none) { sandboxId := "sbx-9f82a1" } silentSpawn := by decide
  have incomplete : ¬ Completed (bareHost none none) { sandboxId := "sbx-9f82a1" } silentSpawn := by decide
  have dirty := mt result.rolledBack_iff.mp (mt (cleansUp_past made past).mp incomplete)
  rw [outside]
  exact ⟨⟨rfl, rfl, rfl⟩, Classical.not_imp.mp dirty⟩

end Aegis.Runtime
