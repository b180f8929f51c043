import Aegis.Runtime.Sandbox

/-! How far a creation gets.

Each step is described once: under which answers it goes through, and what it leaves
behind in either case. The conditions speak of the arguments, the answers and the host
before the call only.
-/

set_option autoImplicit false

namespace Aegis.Runtime
open Library Ebpf Policy

/-! Steps one by one. -/

def Host.withDescriptor (host : Host) (fd : Int) : Host := { host with descriptors := insert fd host.descriptors }

def tapEntry (entry : SandboxInstance) (fd : Int) : SandboxInstance :=
  { entry with
    tapFd := fd
    metadata := { entry.metadata with
      tapDeviceName := tapName entry.config.sandboxId
      guestIp := "172.16.0.2" } }

def TapEnv.Granted (env : TapEnv) (host : Host) : Prop := host.FreeDescriptor env.fd ∧ env.ioctl = true

instance (env : TapEnv) (host : Host) : Decidable (env.Granted host) := inferInstanceAs (Decidable (_ ∧ _))

theorem setupTap_up {host : Host} {env : TapEnv} (granted : env.Granted host) (entry : SandboxInstance) :
    (setupTapInterface entry env).ends host =
      (.returned (.success, tapEntry entry env.fd), host.withDescriptor env.fd) := by
  obtain ⟨free, ioctl⟩ := granted
  have valid := free.1
  unfold setupTapInterface
  rw [Proc.ends_bind_returned (openDescriptor_ends free), if_neg (by omega), if_pos ioctl]
  rfl

theorem setupTap_down {host : Host} {env : TapEnv} (refused : ¬ env.Granted host) (entry : SandboxInstance) :
    (setupTapInterface entry env).ends host = (.returned (.errTAPInterfaceCreationFailed, entry), host) := by
  unfold setupTapInterface
  by_cases free : host.FreeDescriptor env.fd
  · -- The device opened, so the ioctl failed and the descriptor is closed again.
    have ioctl : env.ioctl ≠ true := fun yes => refused ⟨free, yes⟩
    have valid := free.1
    rw [Proc.ends_bind_returned (openDescriptor_ends free), if_neg (by omega), if_neg ioctl]
    simp [closeDescriptor, Host.closeDescriptor, valid, free.2]
  · rw [Proc.ends_bind_returned (openDescriptor_refused free)]
    simp

/-- The first answer that ends the polling, if there is one. -/
def socketAnswer : List Query → Query
  | [] => .no
  | .no :: rest => socketAnswer rest
  | answer :: _ => answer

def SpawnEnv.answer (env : SpawnEnv) : Query := socketAnswer ((List.range 50).map env.polls)

def SpawnEnv.Clears (env : SpawnEnv) : Prop := env.stale ≠ .throws ∧ (env.stale = .yes → env.removes = true)

instance (env : SpawnEnv) : Decidable env.Clears := inferInstanceAs (Decidable (_ ∧ _))

def Host.cleared (host : Host) (socketPath : Path) (env : SpawnEnv) : Host :=
  { host with
    files := if env.stale = .yes then host.files.remove socketPath.location else host.files
    touched := if env.stale = .yes then host.touched ++ [socketPath.location] else host.touched }

theorem clearSocket_ends {env : SpawnEnv} (clears : env.Clears) (host : Host) (socketPath : Path) :
    (clearSocket socketPath env).ends host = (.returned (), host.cleared socketPath env) := by
  obtain ⟨quiet, removes⟩ := clears
  cases stale : env.stale with
  | yes => simp [clearSocket, Host.cleared, Host.remove, stale, removes stale]
  | no => simp [clearSocket, Host.cleared, stale]
  | throws => exact absurd stale quiet

theorem clearSocket_threw {env : SpawnEnv} (fails : ¬ env.Clears) (host : Host) (socketPath : Path) :
    (clearSocket socketPath env).ends host = (.threw, host) := by
  cases stale : env.stale with
  | yes =>
    have stays : env.removes ≠ true := fun removes => fails ⟨by simp [stale], fun _ => removes⟩
    simp [clearSocket, stale, stays]
  | no => exact absurd ⟨by simp [stale], by simp [stale]⟩ fails
  | throws => simp [clearSocket, stale]

theorem pollSocket_ends (polls : List Query) (host : Host) :
    (pollSocket polls).ends host = (match socketAnswer polls with
      | .yes => .returned .success
      | .no => .returned .errMicroVMBootFailed
      | .throws => .threw, host) := by
  induction polls with
  | nil => rfl
  | cons first rest ih =>
    cases first with
    | yes => rfl
    | no => exact ih
    | throws => rfl

theorem fork_ends {host : Host} {pid : Int} (free : host.FreePid pid) (config : SandboxConfig) :
    (fork config pid).ends host = (.returned pid, host.addChild pid config) := by
  simp [fork, free]

theorem fork_refused {host : Host} {pid : Int} (taken : ¬ host.FreePid pid) (config : SandboxConfig) :
    (fork config pid).ends host = (.returned (-1), host) := by
  simp [fork, taken]

section
variable {host : Host} {env : SpawnEnv} (entry : SandboxInstance)

theorem spawn_threw (fails : ¬ env.Clears) : (spawnFirecrackerProcess entry env).ends host = (.threw, host) :=
  Proc.ends_bind_threw (clearSocket_threw fails host entry.socketPath)

theorem spawn_refused (clears : env.Clears) (taken : ¬ host.FreePid env.pid) :
    (spawnFirecrackerProcess entry env).ends host =
      (.returned (.errMicroVMBootFailed, entry), host.cleared entry.socketPath env) := by
  have still : ¬ (host.cleared entry.socketPath env).FreePid env.pid := taken
  unfold spawnFirecrackerProcess
  rw [Proc.ends_bind_returned (clearSocket_ends clears host entry.socketPath),
    Proc.ends_bind_returned (fork_refused still _)]
  simp

theorem spawn_forked (clears : env.Clears) (free : host.FreePid env.pid) :
    (spawnFirecrackerProcess entry env).ends host = (match env.answer with
      | .yes => .returned (.success, { entry with firecrackerPid := env.pid })
      | .no => .returned (.errMicroVMBootFailed, { entry with firecrackerPid := env.pid })
      | .throws => .threw, (host.cleared entry.socketPath env).addChild env.pid entry.config) := by
  have still : (host.cleared entry.socketPath env).FreePid env.pid := free
  have positive := free.1
  unfold spawnFirecrackerProcess
  rw [Proc.ends_bind_returned (clearSocket_ends clears host entry.socketPath),
    Proc.ends_bind_returned (fork_ends still _), if_neg (by omega)]
  have polled := pollSocket_ends ((List.range 50).map env.polls)
    ((host.cleared entry.socketPath env).addChild env.pid entry.config)
  unfold SpawnEnv.answer
  cases answer : socketAnswer ((List.range 50).map env.polls) with
  | yes =>
    rw [answer] at polled
    exact Proc.ends_bind_returned polled
  | no =>
    rw [answer] at polled
    exact Proc.ends_bind_returned polled
  | throws =>
    rw [answer] at polled
    exact Proc.ends_bind_threw polled

end

/-- The write of the process id to `cgroup.procs`. -/
def Host.attached (host : Host) (info : CgroupInfo) (pid : Int) (answer : SysfsAnswer) : Host :=
  let written := host.writeFile (info.cgroupPath / "cgroup.procs") (toString pid) answer
  { written with
    children := if answer.opens ∧ answer.accepts then
        (host.updateChild pid fun child => { child with joined := true }).children
      else host.children }

theorem attachPid_ends {host : Host} {sandboxId : String} {info : CgroupInfo}
    (known : host.cgroups.lookup sandboxId = some info) (pid : Int) (answer : SysfsAnswer) :
    (attachPid sandboxId pid answer).ends host =
      (.returned (if answer.opens then .success else .errCgroupQuotaExceeded),
        host.attached info pid answer) := by
  unfold attachPid
  rw [Proc.ends_get_bind, known]
  dsimp only
  rw [Proc.ends_bind_returned (writeSysfsFile_ends _ _ _ _)]
  by_cases taken : answer.opens ∧ answer.accepts
  · simp [Host.attached, taken, Host.updateChild, Host.writeFile]
  · simp only [Host.attached, if_neg taken]
    by_cases opens : answer.opens = true
    · simp [opens, Host.writeFile]
    · simp [opens, Host.writeFile]

/-! Booting. -/

/-- The boot goes by the snapshot. -/
def Restores (config : SandboxConfig) (env : BootEnv) : Prop :=
  config.useSnapshotRestore = true ∧ env.snapshotExists = .yes

/-- Looking for the snapshot throws. -/
def BootThrows (config : SandboxConfig) (env : BootEnv) : Prop :=
  config.useSnapshotRestore = true ∧ env.snapshotExists = .throws

instance (config : SandboxConfig) (env : BootEnv) : Decidable (Restores config env) :=
  inferInstanceAs (Decidable (_ ∧ _))

instance (config : SandboxConfig) (env : BootEnv) : Decidable (BootThrows config env) :=
  inferInstanceAs (Decidable (_ ∧ _))

/-- The cold boot gets as far as the last request. -/
def BootEnv.Configured (env : BootEnv) : Prop :=
  env.bootSource.reported = true ∧ env.drives.reported = true ∧ env.machineConfig.reported = true

instance (env : BootEnv) : Decidable env.Configured := inferInstanceAs (Decidable (_ ∧ _ ∧ _))

/-- Firecracker starts the microVM, whether or not that is reported. -/
def BootStarts (config : SandboxConfig) (env : BootEnv) : Prop :=
  if Restores config env then env.snapshotLoad.accepted = true
  else env.Configured ∧ env.actions.accepted = true

/-- The manager is told that the boot went well. -/
def BootReported (config : SandboxConfig) (env : BootEnv) : Prop :=
  if Restores config env then env.snapshotLoad.reported = true
  else env.Configured ∧ env.actions.reported = true

instance (config : SandboxConfig) (env : BootEnv) : Decidable (BootStarts config env) := by
  unfold BootStarts
  infer_instance

instance (config : SandboxConfig) (env : BootEnv) : Decidable (BootReported config env) := by
  unfold BootReported
  infer_instance

theorem sendUnixHttpPut_ends (host : Host) (socketPath : Path) (endpoint payload : String) (answer : PutAnswer)
    (effect : Host → Host) : ∃ sent, (sendUnixHttpPut socketPath endpoint payload answer effect).ends host =
      (.returned answer.reported, (if answer.accepted then effect else id) { host with sent := sent }) := by
  cases answer with
  | unreachable => exact ⟨host.sent, rfl⟩
  | answered accepted reported =>
    refine ⟨host.sent ++ [(socketPath, httpRequest endpoint payload)], ?_⟩
    cases accepted with
    | true => rfl
    | false => rfl

/-- The requests were sent, and the microVM was started or not. -/
def Host.booted (host : Host) (pid : Int) (starts : Bool) (sent : List (Path × String)) : Host :=
  { host with
    sent := sent
    children := if starts then (host.startVm pid).children else host.children }

/-! The requests of a boot. -/

inductive Put where
  | bootSource
  | drives
  | machineConfig
  | actions
  | snapshotLoad
  deriving DecidableEq, Repr

def Put.endpoint : Put → String
  | .bootSource => "/boot-source"
  | .drives => "/drives/rootfs"
  | .machineConfig => "/machine-config"
  | .actions => "/actions"
  | .snapshotLoad => "/snapshot/load"

def Put.payload (config : SandboxConfig) : Put → String
  | .bootSource => bootPayload config
  | .drives => drivePayload config
  | .machineConfig => machinePayload config
  | .actions => actionPayload
  | .snapshotLoad => snapshotPayload config

def BootEnv.answer (env : BootEnv) : Put → PutAnswer
  | .bootSource => env.bootSource
  | .drives => env.drives
  | .machineConfig => env.machineConfig
  | .actions => env.actions
  | .snapshotLoad => env.snapshotLoad

/-- The requests are made one by one until one is not reported to have succeeded. -/
def issued (env : BootEnv) : List Put → List Put
  | [] => []
  | put :: rest => put :: if (env.answer put).reported then issued env rest else []

/-- What of a request gets onto the socket. -/
def written (entry : SandboxInstance) (env : BootEnv) (put : Put) : List (Path × String) :=
  if env.answer put = .unreachable then []
  else [(entry.socketPath, httpRequest put.endpoint (put.payload entry.config))]

def bootPuts (config : SandboxConfig) (env : BootEnv) : List Put :=
  if Restores config env then issued env [.snapshotLoad]
  else issued env [.bootSource, .drives, .machineConfig, .actions]

@[simp]
theorem issued_last (env : BootEnv) (put : Put) : issued env [put] = [put] := by
  simp only [issued, ite_self]

theorem issued_append (env : BootEnv) (front back : List Put) :
    issued env (front ++ back) =
      issued env front ++ if ∀ put ∈ front, (env.answer put).reported = true then issued env back else [] := by
  induction front with
  | nil => simp [issued]
  | cons put front ih =>
    by_cases reported : (env.answer put).reported = true
    · simp [issued, reported, ih]
    · simp [issued, reported]

theorem issued_all {env : BootEnv} {puts : List Put} (reported : ∀ put ∈ puts, (env.answer put).reported = true) :
    issued env puts = puts := by
  induction puts with
  | nil => rfl
  | cons put puts ih =>
    rw [issued, if_pos (reported put List.mem_cons_self), ih fun put member => reported put (.tail _ member)]

theorem mem_of_issued {env : BootEnv} {put : Put} {puts : List Put} (member : put ∈ issued env puts) : put ∈ puts := by
  induction puts with
  | nil => exact member
  | cons head puts ih =>
    rcases List.mem_cons.mp member with rfl | later
    · exact List.mem_cons_self
    · split at later
      · exact List.mem_cons_of_mem _ (ih later)
      · cases later

section
variable (host : Host) (entry : SandboxInstance) (env : BootEnv)

theorem put_ends (put : Put) (effect : Host → Host) :
    (sendUnixHttpPut entry.socketPath put.endpoint (put.payload entry.config) (env.answer put) effect).ends host =
      (.returned (env.answer put).reported, (if (env.answer put).accepted then effect else id)
        { host with sent := host.sent ++ written entry env put }) := by
  unfold written
  cases env.answer put with
  | unreachable => simp [sendUnixHttpPut, PutAnswer.reported, PutAnswer.accepted]
  | answered accepted reported =>
    cases accepted with
    | true => rfl
    | false => rfl

theorem start_ends (put : Put) (pid : Int) :
    (sendUnixHttpPut entry.socketPath put.endpoint (put.payload entry.config) (env.answer put)
      (Host.startVm pid)).ends host =
      (.returned (env.answer put).reported,
        host.booted pid (env.answer put).accepted (host.sent ++ written entry env put)) := by
  rw [put_ends]
  cases (env.answer put).accepted with
  | true => rfl
  | false => rfl

/-- Requests that start nothing, and what comes after the last of them. -/
def configuring (next : Proc Host Status) : List Put → Proc Host Status
  | [] => next
  | put :: rest => do
    let reported ← sendUnixHttpPut entry.socketPath put.endpoint (put.payload entry.config) (env.answer put) id
    if reported then configuring next rest else pure .errMicroVMBootFailed

def configPuts : List Put := [.bootSource, .drives, .machineConfig]

theorem configured_iff : (∀ put ∈ configPuts, (env.answer put).reported = true) ↔ env.Configured := by
  simp [configPuts, BootEnv.answer, BootEnv.Configured]

theorem issued_cold :
    issued env [.bootSource, .drives, .machineConfig, .actions] =
      issued env configPuts ++ if env.Configured then [.actions] else [] := by
  have parted := issued_append env configPuts [.actions]
  simp only [configured_iff, issued_last] at parted
  exact parted

def starting : Proc Host Status := do
  let action ← sendUnixHttpPut entry.socketPath "/actions" actionPayload env.actions (Host.startVm entry.firecrackerPid)
  if action then pure .success else pure .errMicroVMBootFailed

theorem configure_eq : configureFirecrackerApi entry env = configuring entry env (starting entry env) configPuts := rfl

/-- Whether they are all reported or not, those that were made have been sent. -/
theorem configuring_ends (next : Proc Host Status) (puts : List Put) :
    (configuring entry env next puts).ends host =
      if ∀ put ∈ puts, (env.answer put).reported = true then
        next.ends { host with sent := host.sent ++ (issued env puts).flatMap (written entry env) }
      else (.returned .errMicroVMBootFailed,
        { host with sent := host.sent ++ (issued env puts).flatMap (written entry env) }) := by
  induction puts generalizing host with
  | nil => simp [configuring, issued]
  | cons put rest ih =>
    have sent := put_ends host entry env put id
    rw [ite_self] at sent
    rw [configuring, Proc.ends_bind_returned sent]
    by_cases reported : (env.answer put).reported = true
    · rw [if_pos reported, id_eq, ih]
      simp [issued, reported]
    · simp [issued, reported]

theorem starting_ends :
    (starting entry env).ends host =
      (.returned (if env.actions.reported = true then .success else .errMicroVMBootFailed),
        host.booted entry.firecrackerPid env.actions.accepted (host.sent ++ written entry env .actions)) := by
  refine (Proc.ends_bind_returned (start_ends host entry env .actions _)).trans ?_
  cases reported : env.actions.reported with
  | true => simp [BootEnv.answer, reported]
  | false => simp [BootEnv.answer, reported]

theorem configure_ends :
    (configureFirecrackerApi entry env).ends host =
      (.returned (if env.Configured ∧ env.actions.reported = true then .success else .errMicroVMBootFailed),
        host.booted entry.firecrackerPid (decide (env.Configured ∧ env.actions.accepted = true))
          (host.sent ++ (issued env [.bootSource, .drives, .machineConfig, .actions]).flatMap (written entry env))) := by
  rw [configure_eq, configuring_ends, issued_cold]
  simp only [configured_iff]
  by_cases configured : env.Configured
  · rw [if_pos configured, starting_ends]
    simp [configured, Host.booted, Host.startVm, Host.updateChild]
  · simp [configured, Host.booted]

theorem restore_ends :
    (restoreFirecrackerSnapshot entry env).ends host =
      (.returned (if env.snapshotLoad.reported = true then .success else .errSnapshotRestoreFailed),
        host.booted entry.firecrackerPid env.snapshotLoad.accepted (host.sent ++ written entry env .snapshotLoad)) := by
  unfold restoreFirecrackerSnapshot
  refine (Proc.ends_bind_returned (start_ends host entry env .snapshotLoad _)).trans ?_
  cases reported : env.snapshotLoad.reported with
  | true => simp [BootEnv.answer, reported]
  | false => simp [BootEnv.answer, reported]

theorem boot_threw (throws : BootThrows entry.config env) : (bootMicroVM entry env).ends host = (.threw, host) := by
  obtain ⟨wanted, query⟩ := throws
  simp [bootMicroVM, wanted, query]

theorem boot_configures {entry : SandboxInstance} {env : BootEnv} (quiet : ¬ BootThrows entry.config env)
    (cold : ¬ Restores entry.config env) : bootMicroVM entry env = configureFirecrackerApi entry env := by
  unfold bootMicroVM
  by_cases wanted : entry.config.useSnapshotRestore = true
  · cases query : env.snapshotExists with
    | yes => exact absurd ⟨wanted, query⟩ cold
    | no => simp
    | throws => exact absurd ⟨wanted, query⟩ quiet
  · simp [wanted]

/-- A boot that does not throw: the status says what was reported, the child what was done. -/
theorem boot_ends (quiet : ¬ BootThrows entry.config env) :
    ∃ status sent, (status = .success ↔ BootReported entry.config env) ∧
      (bootMicroVM entry env).ends host =
        (.returned status, host.booted entry.firecrackerPid (decide (BootStarts entry.config env)) sent) := by
  by_cases restores : Restores entry.config env
  · have goes : bootMicroVM entry env = restoreFirecrackerSnapshot entry env := by
      simp [bootMicroVM, restores.1, restores.2]
    have starts : decide (BootStarts entry.config env) = env.snapshotLoad.accepted := by simp [BootStarts, restores]
    rw [goes, restore_ends, starts]
    exact ⟨_, _, by simp [BootReported, restores], rfl⟩
  · have starts : decide (BootStarts entry.config env) = decide (env.Configured ∧ env.actions.accepted = true) := by
      simp [BootStarts, restores]
    rw [boot_configures quiet restores, configure_ends, starts]
    exact ⟨_, _, by simp [BootReported, restores], rfl⟩

end

/-! Policies. -/

/-- The loader after one loop over the blocked numbers. -/
def blocking (granted : UInt32 → Bool) (numbers : List UInt32) (loader : EBPFLoader) : EBPFLoader :=
  numbers.foldl (fun loader sysNr => (loader.setSyscallPolicy (granted sysNr) sysNr 1).2) loader

def pushed (policy : SecurityPolicy) (env : BpfEnv) (loader : EBPFLoader) : EBPFLoader :=
  let loader := blocking env.syscall policy.syscallRule.blockedSyscalls loader
  if policy.networkRule.blockCloudMetadata then (loader.setBlockedIp env.blockedIp metadataIp true).2 else loader

/-- The loader after the policies of a sandbox in the given cgroup have been applied. -/
def enforced (cgroupId : UInt64) (policy : Option SecurityPolicy) (env : BpfEnv) (loader : EBPFLoader) :
    EBPFLoader :=
  let loader := (loader.setCgroupMonitored env.monitored cgroupId true).2
  match policy with
  | some policy => pushed policy env loader
  | none => loader

theorem blockSyscalls_ends (granted : UInt32 → Bool) (numbers : List UInt32) (host : Host) :
    (blockSyscalls granted numbers).ends host =
      (.returned (), { host with ebpfLoader := host.ebpfLoader.map (blocking granted numbers) }) := by
  induction numbers generalizing host with
  | nil =>
    have same : blocking granted [] = id := rfl
    simp [blockSyscalls, same]
  | cons sysNr rest ih =>
    unfold blockSyscalls updateLoader
    have step : blocking granted (sysNr :: rest) =
        blocking granted rest ∘ fun loader => (loader.setSyscallPolicy (granted sysNr) sysNr 1).2 := rfl
    rw [Proc.ends_modify_bind, ih, step]
    simp [Host.updateLoader]

theorem pushPolicy_ends (policy : SecurityPolicy) (env : BpfEnv) (host : Host) :
    (pushPolicy policy env).ends host =
      (.returned (), { host with ebpfLoader := host.ebpfLoader.map (pushed policy env) }) := by
  unfold pushPolicy
  rw [Proc.ends_bind_returned (blockSyscalls_ends _ _ _)]
  cases metadata : policy.networkRule.blockCloudMetadata with
  | true =>
    have both : pushed policy env = (fun loader => (loader.setBlockedIp env.blockedIp metadataIp true).2) ∘
        blocking env.syscall policy.syscallRule.blockedSyscalls := by
      funext loader
      simp [pushed, metadata]
    simp [updateLoader, Host.updateLoader, both]
  | false =>
    have same : pushed policy env = blocking env.syscall policy.syscallRule.blockedSyscalls := by
      funext loader
      simp [pushed, metadata]
    simp [same]

/-- The maps after the policies of `config` have been applied, if there is a loader and an
engine. -/
def Host.policed (host : Host) (config : SandboxConfig) (cgroupId : UInt64) (env : BpfEnv) : Host :=
  { host with
    ebpfLoader := match host.policyEngine with
      | some engine => host.ebpfLoader.map (enforced cgroupId (engine.getPolicy config.securityPolicyName) env)
      | none => host.ebpfLoader }

theorem Host.policed_bare {host : Host} (bare : host.ebpfLoader = none ∨ host.policyEngine = none)
    (config : SandboxConfig) (cgroupId : UInt64) (env : BpfEnv) : host.policed config cgroupId env = host := by
  have same : (host.policed config cgroupId env).ebpfLoader = host.ebpfLoader := by
    unfold policed
    rcases bare with bare | bare
    · cases host.policyEngine <;> simp [bare]
    · simp [bare]
  calc host.policed config cgroupId env
    _ = { host with ebpfLoader := (host.policed config cgroupId env).ebpfLoader } := rfl
    _ = host := by rw [same]

theorem applyEbpfPolicies_ends {host : Host} {entry : SandboxInstance} {cgroupId : UInt64}
    (known : host.getCgroupId entry.config.sandboxId = cgroupId) (valid : cgroupId ≠ 0) (env : BpfEnv) :
    (applyEbpfPolicies entry env).ends host = (.returned .success, host.policed entry.config cgroupId env) := by
  unfold applyEbpfPolicies
  rw [Proc.ends_get_bind]
  cases loaded : host.ebpfLoader with
  | none => simp [Host.policed_bare (.inl loaded)]
  | some loader =>
    cases present : host.policyEngine with
    | none => simp [Host.policed_bare (.inr present)]
    | some engine =>
      cases found : engine.getPolicy entry.config.securityPolicyName with
      | none => simp [known, valid, found, updateLoader, Host.updateLoader, Host.policed, loaded, present, enforced]
      | some policy =>
        simp [known, valid, found, updateLoader, Host.updateLoader, Host.policed, loaded, present, enforced,
          Proc.ends_bind_returned (pushPolicy_ends _ _ _)]

end Aegis.Runtime
