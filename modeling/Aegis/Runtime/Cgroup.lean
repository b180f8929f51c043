import Aegis.Runtime.Host

/-! The cgroup manager. -/

set_option autoImplicit false

namespace Aegis.Runtime
open Library

/-- The kernel's answers to one `create_cgroup`. The inode number is 0 when `stat` fails. -/
structure CgroupEnv where
  mkdir : Option Nat := none
  cpuMax : SysfsAnswer := {}
  memoryMax : SysfsAnswer := {}
  pidsMax : SysfsAnswer := {}
  inode : UInt64
  fd : Int

def applyLimits (cgroupPath : Path) (limits : CgroupLimits) (env : CgroupEnv) : Proc Host Status := do
  -- The products fit in 64 bits.
  let cpuMaxStr := toString (limits.cpuCores.toNat * 100000) ++ " 100000"
  let cpu ← writeSysfsFile (cgroupPath / "cpu.max") cpuMaxStr env.cpuMax
  if cpu then
    let memoryMaxStr := toString (limits.memoryMb.toNat * 1024 * 1024)
    let memory ← writeSysfsFile (cgroupPath / "memory.max") memoryMaxStr env.memoryMax
    if memory then
      let pidsMaxStr := toString limits.maxPids.toNat
      let pids ← writeSysfsFile (cgroupPath / "pids.max") pidsMaxStr env.pidsMax
      if pids then pure .success else pure .errCgroupQuotaExceeded
    else pure .errCgroupQuotaExceeded
  else pure .errCgroupQuotaExceeded

/-- No byte of the id is a NUL. -/
def NulFree (sandboxId : String) : Prop := '\x00' ∉ sandboxId.toList

instance (sandboxId : String) : Decidable (NulFree sandboxId) := inferInstanceAs (Decidable (¬ _))

theorem PlainName.nulFree {name : String} (plain : PlainName name) : NulFree name := by
  apply Path.nul_notMem_parse
  rw [plain.1]
  exact List.mem_singleton_self name

/-- The answers for the limit files of an id. Behind a NUL the name of a file is not seen: its stream
is given the directory, and that does not open. -/
def CgroupEnv.seen (env : CgroupEnv) (sandboxId : String) : CgroupEnv :=
  if NulFree sandboxId then env
  else { env with cpuMax := { opens := false }, memoryMax := { opens := false }, pidsMax := { opens := false } }

def Host.addCgroup (host : Host) (info : CgroupInfo) : Host :=
  { host with
    cgroups := host.cgroups.insert info.sandboxId info
    issued := host.issued ++ [info.cgroupId] }

def createCgroup (sandboxId : String) (limits : CgroupLimits) (env : CgroupEnv) : Proc Host Status := do
  let host ← Proc.get
  if sandboxId ∈ host.cgroups then pure .errInvalidSandboxID
  else
    let cgroupPath := host.rootPath / sandboxId
    let ec ← createDirectories cgroupPath env.mkdir
    if ec then pure .errCgroupQuotaExceeded
    else
      let status ← applyLimits cgroupPath limits (env.seen sandboxId)
      if status ≠ .success then do
        removeAll cgroupPath
        pure status
      else
        let cgroupId := env.inode
        if cgroupId = 0 then do
          removeAll cgroupPath
          pure .errCgroupQuotaExceeded
        else
          let cgroupFd ← openDescriptor env.fd
          if cgroupFd < 0 then do
            removeAll cgroupPath
            pure .errCgroupQuotaExceeded
          else do
            Proc.modify fun host => host.addCgroup { sandboxId, cgroupPath, cgroupId, cgroupFd, limits }
            pure .success

def attachPid (sandboxId : String) (pid : Int) (answer : SysfsAnswer) : Proc Host Status := do
  let host ← Proc.get
  match host.cgroups.lookup sandboxId with
  | none => pure .errInvalidSandboxID
  | some info => do
      -- a registered id has no NUL: its limit files were opened
      let written ← writeSysfsFile (info.cgroupPath / "cgroup.procs") (toString pid) answer
      -- The kernel moves the process when it takes the write.
      if answer.opens ∧ answer.accepts then
        Proc.modify fun host => host.updateChild pid fun child => { child with joined := true }
      else pure ()
      if written then pure .success else pure .errCgroupQuotaExceeded

def Host.dropCgroup (host : Host) (sandboxId : String) (info : CgroupInfo) : Host :=
  { (host.closeDescriptor info.cgroupFd).removeAll info.cgroupPath with
    cgroups := host.cgroups.erase sandboxId }

def destroyCgroup (sandboxId : String) : Proc Host Status := do
  let host ← Proc.get
  match host.cgroups.lookup sandboxId with
  | none => pure .errInvalidSandboxID
  | some info => do
      closeDescriptor info.cgroupFd
      removeAll info.cgroupPath
      Proc.modify fun host => { host with cgroups := host.cgroups.erase sandboxId }
      pure .success

def Host.getCgroupId (host : Host) (sandboxId : String) : UInt64 :=
  match host.cgroups.lookup sandboxId with
  | some info => info.cgroupId
  | none => 0

/-! How the operations end. -/

def CgroupEnv.LimitsOpen (env : CgroupEnv) : Prop :=
  env.cpuMax.opens = true ∧ env.memoryMax.opens = true ∧ env.pidsMax.opens = true

instance (env : CgroupEnv) : Decidable env.LimitsOpen := inferInstanceAs (Decidable (_ ∧ _ ∧ _))

theorem CgroupEnv.seen_nulFree (env : CgroupEnv) {sandboxId : String} (plain : NulFree sandboxId) :
    env.seen sandboxId = env := if_pos plain

theorem CgroupEnv.limitsOpen_seen (env : CgroupEnv) (sandboxId : String) :
    (env.seen sandboxId).LimitsOpen ↔ NulFree sandboxId ∧ env.LimitsOpen := by
  unfold seen
  split
  · simp [*]
  · simp [*, LimitsOpen]

/-- Everything after the directory goes well. -/
def CgroupEnv.Granted (env : CgroupEnv) (host : Host) (sandboxId : String) : Prop :=
  (NulFree sandboxId ∧ env.LimitsOpen) ∧ env.inode ≠ 0 ∧ host.FreeDescriptor env.fd

instance (env : CgroupEnv) (host : Host) (sandboxId : String) : Decidable (env.Granted host sandboxId) :=
  inferInstanceAs (Decidable ((_ ∧ _) ∧ _ ∧ _))

theorem applyLimits_ends (host : Host) (path : Path) (limits : CgroupLimits) (env : CgroupEnv) :
    ∃ work, Confined path.location host work ∧ (applyLimits path limits env).ends host =
      (.returned (if env.LimitsOpen then .success else .errCgroupQuotaExceeded), work) := by
  unfold applyLimits
  rw [Proc.ends_bind_returned (writeSysfsFile_ends _ _ _ _)]
  have cpu := Confined.writeFile host path (show PlainName "cpu.max" by decide)
    (toString (limits.cpuCores.toNat * 100000) ++ " 100000") env.cpuMax
  by_cases first : env.cpuMax.opens = true
  · rw [if_pos first, Proc.ends_bind_returned (writeSysfsFile_ends _ _ _ _)]
    have memory := cpu.trans (Confined.writeFile _ path (show PlainName "memory.max" by decide)
      (toString (limits.memoryMb.toNat * 1024 * 1024)) env.memoryMax)
    by_cases second : env.memoryMax.opens = true
    · rw [if_pos second, Proc.ends_bind_returned (writeSysfsFile_ends _ _ _ _)]
      have pids := memory.trans (Confined.writeFile _ path (show PlainName "pids.max" by decide)
        (toString limits.maxPids.toNat) env.pidsMax)
      refine ⟨_, pids, ?_⟩
      by_cases third : env.pidsMax.opens = true
      · simp [CgroupEnv.LimitsOpen, first, second, third]
      · simp [CgroupEnv.LimitsOpen, third]
    · exact ⟨_, memory, by simp [CgroupEnv.LimitsOpen, second]⟩
  · exact ⟨_, cpu, by simp [CgroupEnv.LimitsOpen, first]⟩

section
variable {host : Host} {sandboxId : String} {limits : CgroupLimits} {env : CgroupEnv}

theorem createCgroup_known (known : sandboxId ∈ host.cgroups) :
    (createCgroup sandboxId limits env).ends host = (.returned .errInvalidSandboxID, host) := by
  simp [createCgroup, known]

theorem createCgroup_unmade (new : sandboxId ∉ host.cgroups) {count : Nat} (error : env.mkdir = some count) :
    (createCgroup sandboxId limits env).ends host =
      (.returned .errCgroupQuotaExceeded, host.makeDirectories (host.rootPath / sandboxId) (some count)) := by
  unfold createCgroup
  rw [Proc.ends_get_bind, if_neg new, Proc.ends_bind_returned (createDirectories_ends _ _ _)]
  simp [error]

/-- The steps after the directory, seen from the host they start in. -/
theorem createCgroup_steps (new : sandboxId ∉ host.cgroups) (made : env.mkdir = none) :
    ∃ work, Confined (host.rootPath / sandboxId).location
        (host.makeDirectories (host.rootPath / sandboxId) none) work ∧
      (createCgroup sandboxId limits env).ends host =
        if env.Granted host sandboxId then
          (.returned .success,
            { work with descriptors := insert env.fd work.descriptors }.addCgroup
              ⟨sandboxId, host.rootPath / sandboxId, env.inode, env.fd, limits⟩)
        else (.returned .errCgroupQuotaExceeded, work.removeAll (host.rootPath / sandboxId)) := by
  unfold createCgroup
  rw [Proc.ends_get_bind, if_neg new, Proc.ends_bind_returned (createDirectories_ends _ _ _), made]
  obtain ⟨work, confined, limited⟩ := applyLimits_ends
    (host.makeDirectories (host.rootPath / sandboxId) none) (host.rootPath / sandboxId) limits
    (env.seen sandboxId)
  refine ⟨work, confined, ?_⟩
  rw [if_congr (env.limitsOpen_seen sandboxId) rfl rfl] at limited
  rw [if_neg (by simp), Proc.ends_bind_returned limited]
  have same : work.FreeDescriptor env.fd ↔ host.FreeDescriptor env.fd := by
    obtain ⟨files, touched, rfl, -⟩ := confined
    rfl
  by_cases opens : NulFree sandboxId ∧ env.LimitsOpen
  · by_cases zero : env.inode = 0
    · simp [CgroupEnv.Granted, opens, zero, removeAll]
    · by_cases free : work.FreeDescriptor env.fd
      · have entry := free.1
        simp [CgroupEnv.Granted, opens, zero, ← same, free, Proc.ends_bind_returned (openDescriptor_ends free)]
        omega
      · simp [CgroupEnv.Granted, opens, zero, ← same, free,
          Proc.ends_bind_returned (openDescriptor_refused free), removeAll]
  · simp [CgroupEnv.Granted, opens, removeAll]

theorem destroyCgroup_unknown (unknown : host.cgroups.lookup sandboxId = none) :
    (destroyCgroup sandboxId).ends host = (.returned .errInvalidSandboxID, host) := by
  simp [destroyCgroup, unknown]

theorem destroyCgroup_known {info : CgroupInfo} (known : host.cgroups.lookup sandboxId = some info) :
    (destroyCgroup sandboxId).ends host = (.returned .success, host.dropCgroup sandboxId info) := by
  simp [destroyCgroup, known, closeDescriptor, removeAll, Host.dropCgroup, Host.removeAll, Host.closeDescriptor]

end

end Aegis.Runtime
