import Aegis.Runtime.Consistency
import Aegis.Runtime.Descriptors

/-! The constructors and destructors of the two managers. -/

set_option autoImplicit false

namespace Aegis.Runtime
open Library Ebpf Policy

/-- What the system answers while a manager is constructed. -/
structure InitEnv where
  rootMkdir : Option Nat := none
  subtreeControl : SysfsAnswer := {}
  baseMkdir : Option Nat := none

def initCgroupManager (rootCgroupPath : Path) (env : InitEnv) : Proc Host Unit := do
  Proc.modify fun host => { host with rootPath := rootCgroupPath, cgroups := ∅ }
  let ec ← createDirectories rootCgroupPath env.rootMkdir
  if ec then pure ()
  else do
    let subtreeControl := rootCgroupPath.parentPath / "cgroup.subtree_control"
    let _ ← writeSysfsFile subtreeControl "+cpu +memory +pids" env.subtreeControl
    pure ()

def initSandboxManager (ebpfLoader : Option EBPFLoader) (policyEngine : Option PolicyEngine) (baseRuntimeDir : Path)
    (env : InitEnv) : Proc Host Unit := do
  Proc.modify fun host => { host with lockDepth := 0, sandboxes := ∅, ebpfLoader, policyEngine, baseRuntimeDir }
  initCgroupManager (.parse "/sys/fs/cgroup/aegis") env
  let _ ← createDirectories baseRuntimeDir env.baseMkdir
  pure ()

/-- What the system answers while a manager is destroyed, and the order in which the second
table is visited. -/
structure ExitEnv where
  terminateAll : TerminateAllEnv := {}
  cgroupOrder : List String := []

/-- The cgroup manager is a member, so that it goes last. -/
def destroySandboxManager (env : ExitEnv) : Proc Host Unit := do
  terminateAll env.terminateAll
  destroyAll .lenient env.cgroupOrder

/-- A manager under construction changes files, and nothing else that is there before. -/
theorem initSandboxManager_ends (host : Host) (ebpfLoader : Option EBPFLoader) (policyEngine : Option PolicyEngine)
    (baseRuntimeDir : Path) (env : InitEnv) :
    ∃ files touched, (initSandboxManager ebpfLoader policyEngine baseRuntimeDir env).ends host = (.returned (),
      { host with
        lockDepth := 0, sandboxes := ∅, baseRuntimeDir, rootPath := .parse "/sys/fs/cgroup/aegis", cgroups := ∅,
        ebpfLoader, policyEngine, files := files, touched := touched }) := by
  unfold initSandboxManager initCgroupManager
  cases env.rootMkdir with
  | none => exact ⟨_, _, rfl⟩
  | some count => exact ⟨_, _, rfl⟩

/-- A manager whose tables are in step leaves nothing behind in them. -/
theorem destroySandboxManager_ends {others : Finset Int} {host : Host} (free : host.lockDepth = 0)
    (inStep : InStep others host) (env : ExitEnv) :
    ∃ after, (destroySandboxManager env).ends host = (.returned (), after) ∧ after.descriptors = others := by
  obtain ⟨middle, ends, -, cleared⟩ := terminateAll_ends free env.terminateAll
  have kept : InStep others middle := by
    have stays := inStep.terminateAll free env.terminateAll
    have called : (call (.terminateAll env.terminateAll)).ends host = (.returned .done, middle) :=
      Proc.ends_bind_returned ends
    rwa [called] at stays
  have empty : middle.cgroups = ∅ := by
    apply Finmap.ext_lookup
    intro id
    rw [Finmap.lookup_empty]
    apply Finmap.lookup_eq_none.mpr
    rw [← kept.mem_iff id, cleared]
    exact Finmap.notMem_empty
  obtain ⟨after, destroyed, -, remaining⟩ := destroyAll_ends (Holds.of_empty empty) env.cgroupOrder
  refine ⟨after, (Proc.ends_bind_returned ends).trans (destroyed .lenient), remaining.trans ?_⟩
  have held : middle.held = fun _ => none := by
    funext owner
    cases owner with
    | tap id => simp [Host.held, cleared]
    | cgroup id => simp [Host.held, empty]
  have owns := kept.owns
  rw [held] at owns
  exact owns.eq_others

end Aegis.Runtime
