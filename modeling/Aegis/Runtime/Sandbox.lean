import Aegis.Runtime.Cgroup
import Mathlib.Data.Finset.Sort
import Mathlib.Data.String.Basic

/-! The sandbox manager. -/

set_option autoImplicit false

namespace Aegis.Runtime
open Library Ebpf Policy

structure TapEnv where
  fd : Int
  ioctl : Bool := true

structure SpawnEnv where
  stale : Query := .no
  removes : Bool := true
  pid : Int
  polls : Nat → Query := fun _ => .yes

/-- What becomes of a PUT request: Firecracker is not reached, or it acts on the request or
not and a success status comes back or not. -/
inductive PutAnswer where
  | unreachable
  | answered (accepted reported : Bool)
  deriving DecidableEq, Repr

def PutAnswer.accepted : PutAnswer → Bool
  | .unreachable => false
  | .answered accepted _ => accepted

def PutAnswer.reported : PutAnswer → Bool
  | .unreachable => false
  | .answered _ reported => reported

structure BootEnv where
  snapshotExists : Query := .no
  snapshotLoad : PutAnswer := .answered true true
  bootSource : PutAnswer := .answered true true
  drives : PutAnswer := .answered true true
  machineConfig : PutAnswer := .answered true true
  actions : PutAnswer := .answered true true

structure BpfEnv where
  monitored : Bool := true
  syscall : UInt32 → Bool := fun _ => true
  blockedIp : Bool := true

structure TerminateEnv where
  exits : Bool := true
  unmonitor : Bool := true

/-- All the answers one `create_sandbox` may get. -/
structure CreateEnv where
  mkdir : Option Nat := none
  cgroup : CgroupEnv
  tap : TapEnv
  spawn : SpawnEnv
  attach : SysfsAnswer := {}
  boot : BootEnv := {}
  bpf : BpfEnv := {}
  rollback : TerminateEnv := {}

/-- Without the times and the two flags that nothing sets. -/
structure ExecutionResult where
  sandboxId : String
  exitCode : Int := -1
  stdoutOutput : List UInt8 := []
  stderrOutput : String := ""
  deriving DecidableEq, Repr

structure ExecEnv where
  connects : Bool := true
  response : List UInt8 := []

/-! The steps of a creation. -/

/-- `substr(0, 8)`. A character of an id stands for a byte; the device gets those before a NUL. -/
def tapName (sandboxId : String) : String := "tap_" ++ String.ofList (sandboxId.toList.take 8)

def setupTapInterface (entry : SandboxInstance) (env : TapEnv) : Proc Host (Status × SandboxInstance) := do
  let tapFd ← openDescriptor env.fd
  if tapFd < 0 then pure (.errTAPInterfaceCreationFailed, entry)
  else if env.ioctl then
    pure (.success, { entry with
      tapFd := tapFd
      metadata := { entry.metadata with
        tapDeviceName := tapName entry.config.sandboxId
        guestIp := "172.16.0.2" } })
  else do
    closeDescriptor tapFd
    pure (.errTAPInterfaceCreationFailed, entry)

def clearSocket (socketPath : Path) (env : SpawnEnv) : Proc Host Unit :=
  match env.stale with
  | .throws => Proc.throw
  | .no => pure ()
  | .yes => if env.removes then Proc.modify fun host => host.remove socketPath else Proc.throw

def Host.addChild (host : Host) (pid : Int) (config : SandboxConfig) : Host :=
  let child : Child :=
    { cgroupId := host.getCgroupId config.sandboxId, policyName := config.securityPolicyName }
  { host with children := host.children.insert pid child }

def fork (config : SandboxConfig) (answer : Int) : Proc Host Int := do
  let host ← Proc.get
  if host.FreePid answer then do
    Proc.modify fun host => host.addChild answer config
    pure answer
  else pure (-1)

def pollSocket : List Query → Proc Host Status
  | [] => pure .errMicroVMBootFailed
  | .yes :: _ => pure .success
  | .throws :: _ => Proc.throw
  | .no :: rest => pollSocket rest

def spawnFirecrackerProcess (entry : SandboxInstance) (env : SpawnEnv) :
    Proc Host (Status × SandboxInstance) := do
  clearSocket entry.socketPath env
  let pid ← fork entry.config env.pid
  if pid < 0 then pure (.errMicroVMBootFailed, entry)
  else do
    -- the pid is kept whether or not the socket appears
    let status ← pollSocket ((List.range 50).map env.polls)
    pure (status, { entry with firecrackerPid := pid })

def httpRequest (endpoint jsonPayload : String) : String :=
  "PUT " ++ endpoint ++ " HTTP/1.1\r\n" ++ "Host: localhost\r\n" ++
    "Content-Type: application/json\r\n" ++
    "Content-Length: " ++ toString jsonPayload.length ++ "\r\n" ++
    "Connection: close\r\n\r\n" ++ jsonPayload

/-- `effect` is what Firecracker does when it acts on the request. -/
def sendUnixHttpPut (socketPath : Path) (endpoint jsonPayload : String) (answer : PutAnswer)
    (effect : Host → Host) : Proc Host Bool :=
  match answer with
  | .unreachable => pure false
  | .answered accepted reported => do
      Proc.modify fun host => { host with sent := host.sent ++ [(socketPath, httpRequest endpoint jsonPayload)] }
      if accepted then Proc.modify effect else pure ()
      pure reported

def Host.startVm (pid : Int) (host : Host) : Host :=
  host.updateChild pid fun child => { child with started := true }

def bootPayload (config : SandboxConfig) : String :=
  "\x7b\"kernel_image_path\":\"" ++ config.kernelImagePath ++
    "\",\"boot_args\":\"console=ttyS0 reboot=k panic=1 pci=off " ++
    "ip=172.16.0.2::172.16.0.1:255.255.255.0::eth0:off\"\x7d"

def drivePayload (config : SandboxConfig) : String :=
  "\x7b\"drive_id\":\"rootfs\",\"path_on_host\":\"" ++ config.rootfsImagePath ++
    "\",\"is_root_device\":true,\"is_read_only\":false\x7d"

def machinePayload (config : SandboxConfig) : String :=
  "\x7b\"vcpu_count\":" ++ toString config.resourceLimits.cpuCores.toNat ++
    ",\"mem_size_mib\":" ++ toString config.resourceLimits.memoryMb.toNat ++ "\x7d"

def actionPayload : String := "\x7b\"action_type\":\"InstanceStart\"\x7d"

/-- `operator/` on the text of a path, for a plain name on the right. -/
def appendName (dir name : String) : String :=
  if dir.toList.getLast?.all (· = '/') then dir ++ name else dir ++ "/" ++ name

def snapshotPayload (config : SandboxConfig) : String :=
  "\x7b\"snapshot_path\":\"" ++ appendName config.snapshotDirPath "state.snap" ++
    "\",\"mem_file_path\":\"" ++ appendName config.snapshotDirPath "mem.snap" ++ "\",\"resume_vm\":true\x7d"

def configureFirecrackerApi (entry : SandboxInstance) (env : BootEnv) : Proc Host Status := do
  let source ← sendUnixHttpPut entry.socketPath "/boot-source" (bootPayload entry.config) env.bootSource id
  if source then
    let drive ← sendUnixHttpPut entry.socketPath "/drives/rootfs" (drivePayload entry.config) env.drives id
    if drive then
      let machine ←
        sendUnixHttpPut entry.socketPath "/machine-config" (machinePayload entry.config) env.machineConfig id
      if machine then
        let action ← sendUnixHttpPut entry.socketPath "/actions" actionPayload env.actions
          (Host.startVm entry.firecrackerPid)
        if action then pure .success else pure .errMicroVMBootFailed
      else pure .errMicroVMBootFailed
    else pure .errMicroVMBootFailed
  else pure .errMicroVMBootFailed

def restoreFirecrackerSnapshot (entry : SandboxInstance) (env : BootEnv) : Proc Host Status := do
  let loaded ← sendUnixHttpPut entry.socketPath "/snapshot/load" (snapshotPayload entry.config) env.snapshotLoad
    (Host.startVm entry.firecrackerPid)
  if loaded then pure .success else pure .errSnapshotRestoreFailed

/-- The snapshot if it is asked for and there, else a cold boot. -/
def bootMicroVM (entry : SandboxInstance) (env : BootEnv) : Proc Host Status :=
  if entry.config.useSnapshotRestore then
    match env.snapshotExists with
    | .throws => Proc.throw
    | .yes => restoreFirecrackerSnapshot entry env
    | .no => configureFirecrackerApi entry env
  else configureFirecrackerApi entry env

/-- A map update whose status the caller drops. -/
def Host.updateLoader (host : Host) (update : EBPFLoader → Status × EBPFLoader) : Host :=
  { host with ebpfLoader := host.ebpfLoader.map fun loader => (update loader).2 }

def updateLoader (update : EBPFLoader → Status × EBPFLoader) : Proc Host Unit :=
  Proc.modify fun host => host.updateLoader update

def blockSyscalls (granted : UInt32 → Bool) : List UInt32 → Proc Host Unit
  | [] => pure ()
  | sysNr :: rest => do
      updateLoader fun loader => loader.setSyscallPolicy (granted sysNr) sysNr 1
      blockSyscalls granted rest

def pushPolicy (policy : SecurityPolicy) (env : BpfEnv) : Proc Host Unit := do
  blockSyscalls env.syscall policy.syscallRule.blockedSyscalls
  if policy.networkRule.blockCloudMetadata then
    updateLoader fun loader => loader.setBlockedIp env.blockedIp metadataIp true
  else pure ()

def applyEbpfPolicies (entry : SandboxInstance) (env : BpfEnv) : Proc Host Status := do
  let host ← Proc.get
  match host.ebpfLoader, host.policyEngine with
  | some _, some engine =>
      let cgroupId := host.getCgroupId entry.config.sandboxId
      if cgroupId = 0 then pure .errCgroupQuotaExceeded
      else do
        updateLoader fun loader => loader.setCgroupMonitored env.monitored cgroupId true
        match engine.getPolicy entry.config.securityPolicyName with
        | some policy => pushPolicy policy env
        -- an unknown policy is no error
        | none => pure ()
        pure .success
  -- monitoring is optional
  | _, _ => pure .success

/-! Termination. -/

/-- `waitpid` with WNOHANG: a process that has exited is reaped, one still exiting stays. -/
def Host.reap (host : Host) (pid : Int) (exits : Bool) : Host :=
  { host with
    children := match host.children.lookup pid with
      | some child => if child.exited ∨ exits then host.children.erase pid else host.children
      | none => host.children }

def killFirecracker (pid : Int) (exits : Bool) : Proc Host Unit :=
  if 0 < pid then do
    Proc.modify fun host => host.updateChild pid fun child => { child with killed := true }
    Proc.modify fun host => host.reap pid exits
  else pure ()

def unmonitor (sandboxId : String) (granted : Bool) : Proc Host Unit := do
  let host ← Proc.get
  match host.ebpfLoader with
  | none => pure ()
  | some _ =>
      let cgroupId := host.getCgroupId sandboxId
      if 0 < cgroupId then updateLoader fun loader => loader.setCgroupMonitored granted cgroupId false
      else pure ()

def terminateBody (sandboxId : String) (env : TerminateEnv) : Proc Host Status := do
  let host ← Proc.get
  match host.sandboxes.lookup sandboxId with
  | none => pure .errInvalidSandboxID
  | some entry => do
      killFirecracker entry.firecrackerPid env.exits
      closeDescriptor entry.tapFd
      unmonitor sandboxId env.unmonitor
      let _ ← destroyCgroup sandboxId
      removeAll (host.baseRuntimeDir / sandboxId)
      Proc.modify fun host => { host with sandboxes := host.sandboxes.erase sandboxId }
      pure .success

/-- `relock` says what the mutex does when its holder locks it again. The source's
`std::mutex` is the plain one. -/
def terminateSandbox (relock : Relock) (sandboxId : String) (env : TerminateEnv) : Proc Host Status :=
  sandboxMutex.guard relock (terminateBody sandboxId env)

/-! Creation. -/

/-- The entry as it is set up before the first step. -/
def newEntry (config : SandboxConfig) (sbxDir : Path) : SandboxInstance where
  config := config
  socketPath := sbxDir / "firecracker.socket"
  guestVsockPath := sbxDir / "guest_agent.socket"
  metadata := {
    sandboxId := config.sandboxId
    environment := config.environment
    vcpus := config.resourceLimits.cpuCores
    memoryMb := config.resourceLimits.memoryMb
    vramMb := config.resourceLimits.vramMb
    state := .initializing }

def Host.register (host : Host) (entry : SandboxInstance) : Host :=
  let running := { entry with metadata := { entry.metadata with state := .running }, isActive := true }
  { host with sandboxes := host.sandboxes.insert entry.config.sandboxId running }

/-- From the booted or failed microVM on; both failures are handed to `terminate_sandbox`. -/
def finishCreate (relock : Relock) (entry : SandboxInstance) (env : CreateEnv) : Proc Host Status := do
  let status ← bootMicroVM entry env.boot
  if status ≠ .success then do
    let _ ← terminateSandbox relock entry.config.sandboxId env.rollback
    pure status
  else
    let status ← applyEbpfPolicies entry env.bpf
    if status ≠ .success then do
      let _ ← terminateSandbox relock entry.config.sandboxId env.rollback
      pure status
    else do
      Proc.modify fun host => host.register entry
      pure .success

/-- From the fork of Firecracker on. -/
def spawnCreate (relock : Relock) (entry : SandboxInstance) (sbxDir : Path) (env : CreateEnv) :
    Proc Host Status := do
  let spawned ← spawnFirecrackerProcess entry env.spawn
  if spawned.1 ≠ .success then do
    -- no kill here, even when the fork has succeeded
    closeDescriptor spawned.2.tapFd
    let _ ← destroyCgroup entry.config.sandboxId
    removeAll sbxDir
    pure spawned.1
  else do
    -- the status is dropped
    let _ ← attachPid entry.config.sandboxId spawned.2.firecrackerPid env.attach
    finishCreate relock spawned.2 env

def createBody (relock : Relock) (config : SandboxConfig) (env : CreateEnv) : Proc Host Status := do
  let host ← Proc.get
  if config.sandboxId = "" ∨ config.sandboxId ∈ host.sandboxes then pure .errInvalidSandboxID
  else
    let sbxDir := host.baseRuntimeDir / config.sandboxId
    -- the error code is not looked at
    let _ ← createDirectories sbxDir env.mkdir
    let status ← createCgroup config.sandboxId config.resourceLimits env.cgroup
    if status ≠ .success then do
      removeAll sbxDir
      pure status
    else
      let tap ← setupTapInterface (newEntry config sbxDir) env.tap
      if tap.1 ≠ .success then do
        let _ ← destroyCgroup config.sandboxId
        removeAll sbxDir
        pure tap.1
      else spawnCreate relock tap.2 sbxDir env

def createSandbox (relock : Relock) (config : SandboxConfig) (env : CreateEnv) : Proc Host Status :=
  sandboxMutex.guard relock (createBody relock config env)

/-! The other operations. -/

/-- At most 8191 bytes are read, and the result ends at the first NUL. -/
def agentOutput (response : List UInt8) : List UInt8 := (response.take 8191).takeWhile (· ≠ 0)

def executeBody (sandboxId codePayload : String) (env : ExecEnv) : Proc Host ExecutionResult := do
  let host ← Proc.get
  match host.sandboxes.lookup sandboxId with
  | none => pure { sandboxId, stderrOutput := "Error: Invalid or inactive sandbox ID." }
  | some entry =>
      if entry.isActive then
        if env.connects then do
          Proc.modify fun host => { host with sent := host.sent ++ [(entry.guestVsockPath, codePayload)] }
          if env.response = [] then pure { sandboxId }
          else pure { sandboxId, stdoutOutput := agentOutput env.response, exitCode := 0 }
        else pure { sandboxId }
      else pure { sandboxId, stderrOutput := "Error: Invalid or inactive sandbox ID." }

def executeCode (sandboxId codePayload : String) (env : ExecEnv) : Proc Host ExecutionResult :=
  sandboxMutex.guard .plain (executeBody sandboxId codePayload env)

def metadataBody (sandboxId : String) : Proc Host (Option SandboxMetadata) := do
  let host ← Proc.get
  pure ((host.sandboxes.lookup sandboxId).map (·.metadata))

def getMetadata (sandboxId : String) : Proc Host (Option SandboxMetadata) :=
  sandboxMutex.guard .plain (metadataBody sandboxId)

/-- The order in which the hash table is visited, and which killed processes have exited
when they are waited for. -/
structure TerminateAllEnv where
  order : List String := []
  exits : String → Bool := fun _ => true

/-- `order` if it lists every key once. -/
def visitOrder (order : List String) (keys : Finset String) : List String :=
  if order.Nodup ∧ order.toFinset = keys then order else keys.sort (· ≤ ·)

def terminateEach (exits : String → Bool) : List String → Proc Host Unit
  | [] => pure ()
  | id :: rest => do
      let host ← Proc.get
      match host.sandboxes.lookup id with
      | none => pure ()
      | some entry => do
          -- unlike in `terminate_sandbox` the cgroup stays monitored
          killFirecracker entry.firecrackerPid (exits id)
          closeDescriptor entry.tapFd
          let _ ← destroyCgroup id
          removeAll (host.baseRuntimeDir / id)
      terminateEach exits rest

def terminateAllBody (env : TerminateAllEnv) : Proc Host Unit := do
  let host ← Proc.get
  terminateEach env.exits (visitOrder env.order host.sandboxes.keys)
  Proc.modify fun host => { host with sandboxes := ∅ }

def terminateAll (env : TerminateAllEnv) : Proc Host Unit :=
  sandboxMutex.guard .plain (terminateAllBody env)

/-! Runs. -/

/-- The public operations of the manager, and a child process exiting on its own. -/
inductive Op where
  | create (config : SandboxConfig) (env : CreateEnv)
  | execute (sandboxId codePayload : String) (env : ExecEnv)
  | terminate (sandboxId : String) (env : TerminateEnv)
  | metadata (sandboxId : String)
  | terminateAll (env : TerminateAllEnv)
  | exit (pid : Int)

inductive Answer where
  | status (value : Status)
  | result (value : ExecutionResult)
  | metadata (value : Option SandboxMetadata)
  | done
  deriving DecidableEq, Repr

def call : Op → Proc Host Answer
  | .create config env => do
      let value ← createSandbox .plain config env
      pure (.status value)
  | .execute sandboxId codePayload env => do
      let value ← executeCode sandboxId codePayload env
      pure (.result value)
  | .terminate sandboxId env => do
      let value ← terminateSandbox .plain sandboxId env
      pure (.status value)
  | .metadata sandboxId => do
      let value ← getMetadata sandboxId
      pure (.metadata value)
  | .terminateAll env => do
      terminateAll env
      pure .done
  | .exit pid => do
      Proc.modify fun host => host.updateChild pid fun child => { child with exited := true }
      pure .done

/-- A constructed manager: no lock held, nothing in either table. The system around it is
as it is. -/
structure Fresh (host : Host) : Prop where
  free : host.lockDepth = 0
  sandboxes : host.sandboxes = ∅
  cgroups : host.cgroups = ∅

end Aegis.Runtime
