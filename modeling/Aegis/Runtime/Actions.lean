import Aegis.Library.Code
import Aegis.Runtime.Creation

/-! The operations of the manager as sequences of actions.

A public operation holds the manager's mutex from its start to its end. The calls it makes on
the cgroup manager, the loader and the policy engine lock the mutex of that object for their
own length, and in between other threads may call the engine.
-/

set_option autoImplicit false

namespace Aegis.Runtime
open Library Ebpf Policy

/-- The mutexes of the three objects the manager calls. -/
inductive Leaf where
  | cgroups
  | loader
  | engine
  deriving DecidableEq, Repr

def Host.withEngine (engine : Option PolicyEngine) (host : Host) : Host := { host with policyEngine := engine }

theorem Host.policyEngine_withEngine (engine : Option PolicyEngine) (host : Host) :
    (host.withEngine engine).policyEngine = engine := rfl

theorem Host.withEngine_policyEngine (host : Host) : host.withEngine host.policyEngine = host := rfl

def enginePart : Portion Host (Option PolicyEngine) where
  get := Host.policyEngine
  put := Host.withEngine
  get_put := Host.policyEngine_withEngine
  put_get := Host.withEngine_policyEngine

abbrev HostCode (A : Type) := Code Leaf Host (Option PolicyEngine) A

/-! The operations, cut where another thread may come in between. -/

def getCgroupId (sandboxId : String) : Proc Host UInt64 := do
  let host ← Proc.get
  pure (host.getCgroupId sandboxId)

def blockSyscallsCode (granted : UInt32 → Bool) : List UInt32 → HostCode Unit
  | [] => pure ()
  | sysNr :: rest => do
      Code.call (some .loader) (updateLoader fun loader => loader.setSyscallPolicy (granted sysNr) sysNr 1)
      blockSyscallsCode granted rest

def pushPolicyCode (policy : SecurityPolicy) (env : BpfEnv) : HostCode Unit := do
  blockSyscallsCode env.syscall policy.syscallRule.blockedSyscalls
  if policy.networkRule.blockCloudMetadata then
    Code.call (some .loader) (updateLoader fun loader => loader.setBlockedIp env.blockedIp metadataIp true)
  else pure ()

/-- `attached` says that the manager was handed an engine; the pointer never changes. -/
def applyEbpfPoliciesCode (attached : Bool) (entry : SandboxInstance) (env : BpfEnv) : HostCode Status := do
  let host ← Code.look
  if host.ebpfLoader.isSome ∧ attached then
    let cgroupId ← Code.call (some .cgroups) (getCgroupId entry.config.sandboxId)
    if cgroupId = 0 then pure .errCgroupQuotaExceeded
    else do
      Code.call (some .loader) (updateLoader fun loader => loader.setCgroupMonitored env.monitored cgroupId true)
      let engine ← Code.ask .engine
      match engine.bind (·.getPolicy entry.config.securityPolicyName) with
      | some policy => pushPolicyCode policy env
      | none => pure ()
      pure .success
  else pure .success

def finishCreateCode (attached : Bool) (entry : SandboxInstance) (env : CreateEnv) : HostCode Status := do
  let status ← Code.call none (bootMicroVM entry env.boot)
  -- `terminate_sandbox` locks the mutex that is held here
  if status ≠ .success then Code.relock
  else
    let status ← applyEbpfPoliciesCode attached entry env.bpf
    if status ≠ .success then Code.relock
    else do
      Code.call none (Proc.modify fun host => host.register entry)
      pure .success

def spawnCreateCode (attached : Bool) (entry : SandboxInstance) (sbxDir : Path) (env : CreateEnv) :
    HostCode Status := do
  let spawned ← Code.call none (spawnFirecrackerProcess entry env.spawn)
  if spawned.1 ≠ .success then do
    Code.call none (closeDescriptor spawned.2.tapFd)
    let _ ← Code.call (some .cgroups) (destroyCgroup entry.config.sandboxId)
    Code.call none (removeAll sbxDir)
    pure spawned.1
  else do
    let _ ← Code.call (some .cgroups) (attachPid entry.config.sandboxId spawned.2.firecrackerPid env.attach)
    finishCreateCode attached spawned.2 env

def createCode (attached : Bool) (config : SandboxConfig) (env : CreateEnv) : HostCode Status := do
  let host ← Code.look
  if config.sandboxId = "" ∨ config.sandboxId ∈ host.sandboxes then pure .errInvalidSandboxID
  else
    let sbxDir := host.baseRuntimeDir / config.sandboxId
    let _ ← Code.call none (createDirectories sbxDir env.mkdir)
    let status ← Code.call (some .cgroups) (createCgroup config.sandboxId config.resourceLimits env.cgroup)
    if status ≠ .success then do
      Code.call none (removeAll sbxDir)
      pure status
    else
      let tap ← Code.call none (setupTapInterface (newEntry config sbxDir) env.tap)
      if tap.1 ≠ .success then do
        let _ ← Code.call (some .cgroups) (destroyCgroup config.sandboxId)
        Code.call none (removeAll sbxDir)
        pure tap.1
      else spawnCreateCode attached tap.2 sbxDir env

def unmonitorCode (sandboxId : String) (granted : Bool) : HostCode Unit := do
  let host ← Code.look
  match host.ebpfLoader with
  | none => pure ()
  | some _ =>
      let cgroupId ← Code.call (some .cgroups) (getCgroupId sandboxId)
      if 0 < cgroupId then
        Code.call (some .loader) (updateLoader fun loader => loader.setCgroupMonitored granted cgroupId false)
      else pure ()

def terminateCode (sandboxId : String) (env : TerminateEnv) : HostCode Status := do
  let host ← Code.look
  match host.sandboxes.lookup sandboxId with
  | none => pure .errInvalidSandboxID
  | some entry => do
      Code.call none (killFirecracker entry.firecrackerPid env.exits)
      Code.call none (closeDescriptor entry.tapFd)
      unmonitorCode sandboxId env.unmonitor
      let _ ← Code.call (some .cgroups) (destroyCgroup sandboxId)
      Code.call none (removeAll (host.baseRuntimeDir / sandboxId))
      Code.call none (Proc.modify fun host => { host with sandboxes := host.sandboxes.erase sandboxId })
      pure .success

def terminateEachCode (exits : String → Bool) : List String → HostCode Unit
  | [] => pure ()
  | id :: rest => do
      let host ← Code.look
      match host.sandboxes.lookup id with
      | none => pure ()
      | some entry => do
          Code.call none (killFirecracker entry.firecrackerPid (exits id))
          Code.call none (closeDescriptor entry.tapFd)
          let _ ← Code.call (some .cgroups) (destroyCgroup id)
          Code.call none (removeAll (host.baseRuntimeDir / id))
      terminateEachCode exits rest

def terminateAllCode (env : TerminateAllEnv) : HostCode Unit := do
  let host ← Code.look
  terminateEachCode env.exits (visitOrder env.order host.sandboxes.keys)
  Code.call none (Proc.modify fun host => { host with sandboxes := ∅ })

/-! What the operations leave alone. -/

/-- The mutex and the engine together. -/
def lockPart : Portion Host (Nat × Option PolicyEngine) where
  get host := (host.lockDepth, host.policyEngine)
  put x host := { host with lockDepth := x.1, policyEngine := x.2 }
  get_put _ _ := rfl
  put_get _ := rfl

abbrev Aside {A : Type} (m : Proc Host A) : Prop := m.Unaware lockPart

section
variable {A B : Type}

theorem Aside.get {m : Proc Host A} (aside : Aside m) (host : Host) :
    (m.ends host).2.lockDepth = host.lockDepth ∧ (m.ends host).2.policyEngine = host.policyEngine := by
  have same := congrArg (lockPart.get ∘ Prod.snd) (aside (lockPart.get host) host)
  rw [lockPart.put_get] at same
  exact Prod.mk.inj same

theorem Aside.engine {m : Proc Host A} (aside : Aside m) : m.Unaware enginePart := by
  intro engine host
  have put (after : Host) (depth : after.lockDepth = host.lockDepth) :
      lockPart.put (host.lockDepth, engine) after = enginePart.put engine after := by
    rw [← depth]
    rfl
  have ends := aside (host.lockDepth, engine) host
  rwa [put host rfl, put _ (aside.get host).1] at ends

end

theorem aside_createDirectories (path : Path) (answer : Option Nat) : Aside (createDirectories path answer) :=
  fun _ _ => rfl

theorem aside_removeAll (path : Path) : Aside (removeAll path) := fun _ _ => rfl

theorem aside_closeDescriptor (fd : Int) : Aside (closeDescriptor fd) := fun _ _ => rfl

theorem aside_writeSysfsFile (path : Path) (value : String) (answer : SysfsAnswer) :
    Aside (writeSysfsFile path value answer) := fun _ _ => rfl

theorem aside_openDescriptor (fd : Int) : Aside (openDescriptor fd) := by
  refine Proc.unaware_get_bind (fun _ _ => rfl) fun host => Proc.unaware_ite ?_ (Proc.unaware_pure _)
  exact .bind (Proc.unaware_modify fun _ _ => rfl) fun _ => Proc.unaware_pure _

theorem aside_applyLimits (path : Path) (limits : CgroupLimits) (env : CgroupEnv) :
    Aside (applyLimits path limits env) := by
  refine .bind (aside_writeSysfsFile _ _ _) fun _ => Proc.unaware_ite ?_ (Proc.unaware_pure _)
  refine .bind (aside_writeSysfsFile _ _ _) fun _ => Proc.unaware_ite ?_ (Proc.unaware_pure _)
  exact .bind (aside_writeSysfsFile _ _ _) fun _ => Proc.unaware_ite (Proc.unaware_pure _) (Proc.unaware_pure _)

theorem aside_createCgroup (sandboxId : String) (limits : CgroupLimits) (env : CgroupEnv) :
    Aside (createCgroup sandboxId limits env) := by
  have undone (path : Path) (status : Status) : Aside (do removeAll path; pure status) :=
    .bind (aside_removeAll path) fun _ => Proc.unaware_pure status
  refine Proc.unaware_get_bind (fun _ _ => rfl) fun host => Proc.unaware_ite (Proc.unaware_pure _) ?_
  refine .bind (aside_createDirectories _ _) fun _ => Proc.unaware_ite (Proc.unaware_pure _) ?_
  refine .bind (aside_applyLimits _ _ _) fun _ => Proc.unaware_ite (undone _ _) ?_
  refine Proc.unaware_ite (undone _ _) (.bind (aside_openDescriptor _) fun _ => Proc.unaware_ite (undone _ _) ?_)
  exact .bind (Proc.unaware_modify fun _ _ => rfl) fun _ => Proc.unaware_pure _

theorem aside_attachPid (sandboxId : String) (pid : Int) (answer : SysfsAnswer) :
    Aside (attachPid sandboxId pid answer) := by
  refine Proc.unaware_get_bind (fun _ _ => rfl) fun host => ?_
  cases host.cgroups.lookup sandboxId with
  | none => exact Proc.unaware_pure _
  | some info =>
    have told (written : Bool) :
        Aside (if written then pure Status.success else pure .errCgroupQuotaExceeded) :=
      Proc.unaware_ite (Proc.unaware_pure _) (Proc.unaware_pure _)
    refine .bind (aside_writeSysfsFile _ _ _) fun written => Proc.unaware_ite ?_ (told written)
    exact .bind (Proc.unaware_modify fun _ _ => rfl) fun _ => told written

theorem aside_destroyCgroup (sandboxId : String) : Aside (destroyCgroup sandboxId) := by
  refine Proc.unaware_get_bind (fun _ _ => rfl) fun host => ?_
  cases host.cgroups.lookup sandboxId with
  | none => exact Proc.unaware_pure _
  | some info =>
    refine .bind (aside_closeDescriptor _) fun _ => .bind (aside_removeAll _) fun _ => ?_
    exact .bind (Proc.unaware_modify fun _ _ => rfl) fun _ => Proc.unaware_pure _

theorem aside_getCgroupId (sandboxId : String) : Aside (getCgroupId sandboxId) :=
  Proc.unaware_get_bind (fun _ _ => rfl) fun _ => Proc.unaware_pure _

theorem aside_setupTapInterface (entry : SandboxInstance) (env : TapEnv) : Aside (setupTapInterface entry env) := by
  refine .bind (aside_openDescriptor _) fun _ => Proc.unaware_ite (Proc.unaware_pure _) ?_
  refine Proc.unaware_ite (Proc.unaware_pure _) ?_
  exact .bind (aside_closeDescriptor _) fun _ => Proc.unaware_pure _

theorem aside_pollSocket (answers : List Query) : Aside (pollSocket answers) := by
  induction answers with
  | nil => exact Proc.unaware_pure _
  | cons answer rest ih =>
    cases answer with
    | yes => exact Proc.unaware_pure _
    | throws => exact Proc.unaware_throw
    | no => exact ih

theorem aside_spawnFirecrackerProcess (entry : SandboxInstance) (env : SpawnEnv) :
    Aside (spawnFirecrackerProcess entry env) := by
  have cleared : Aside (clearSocket entry.socketPath env) := by
    unfold clearSocket
    cases env.stale with
    | throws => exact Proc.unaware_throw
    | no => exact Proc.unaware_pure _
    | yes => exact Proc.unaware_ite (Proc.unaware_modify fun _ _ => rfl) Proc.unaware_throw
  have forked : Aside (fork entry.config env.pid) := by
    refine Proc.unaware_get_bind (fun _ _ => rfl) fun host => Proc.unaware_ite ?_ (Proc.unaware_pure _)
    exact .bind (Proc.unaware_modify fun _ _ => rfl) fun _ => Proc.unaware_pure _
  refine .bind cleared fun _ => .bind forked fun _ => Proc.unaware_ite (Proc.unaware_pure _) ?_
  exact .bind (aside_pollSocket _) fun _ => Proc.unaware_pure _

theorem aside_sendUnixHttpPut (socketPath : Path) (endpoint jsonPayload : String) (answer : PutAnswer)
    {effect : Host → Host} (apart : ∀ x host, effect (lockPart.put x host) = lockPart.put x (effect host)) :
    Aside (sendUnixHttpPut socketPath endpoint jsonPayload answer effect) := by
  cases answer with
  | unreachable => exact Proc.unaware_pure _
  | answered accepted reported =>
    refine .bind (Proc.unaware_modify fun _ _ => rfl) fun _ => Proc.unaware_ite ?_ (Proc.unaware_pure _)
    exact .bind (Proc.unaware_modify apart) fun _ => Proc.unaware_pure _

theorem aside_bootMicroVM (entry : SandboxInstance) (env : BootEnv) : Aside (bootMicroVM entry env) := by
  have configured : Aside (configureFirecrackerApi entry env) := by
    refine .bind (aside_sendUnixHttpPut _ _ _ _ fun _ _ => rfl) fun _ => Proc.unaware_ite ?_ (Proc.unaware_pure _)
    refine .bind (aside_sendUnixHttpPut _ _ _ _ fun _ _ => rfl) fun _ => Proc.unaware_ite ?_ (Proc.unaware_pure _)
    refine .bind (aside_sendUnixHttpPut _ _ _ _ fun _ _ => rfl) fun _ => Proc.unaware_ite ?_ (Proc.unaware_pure _)
    exact .bind (aside_sendUnixHttpPut _ _ _ _ fun _ _ => rfl) fun _ =>
      Proc.unaware_ite (Proc.unaware_pure _) (Proc.unaware_pure _)
  have restored : Aside (restoreFirecrackerSnapshot entry env) :=
    .bind (aside_sendUnixHttpPut _ _ _ _ fun _ _ => rfl) fun _ =>
      Proc.unaware_ite (Proc.unaware_pure _) (Proc.unaware_pure _)
  refine Proc.unaware_ite ?_ configured
  cases env.snapshotExists with
  | throws => exact Proc.unaware_throw
  | yes => exact restored
  | no => exact configured

theorem aside_updateLoader (update : EBPFLoader → Status × EBPFLoader) : Aside (updateLoader update) :=
  fun _ _ => rfl

theorem aside_killFirecracker (pid : Int) (exits : Bool) : Aside (killFirecracker pid exits) := by
  refine Proc.unaware_ite ?_ (Proc.unaware_pure _)
  exact .bind (Proc.unaware_modify fun _ _ => rfl) fun _ => Proc.unaware_modify fun _ _ => rfl

theorem aside_executeBody (sandboxId codePayload : String) (env : ExecEnv) :
    Aside (executeBody sandboxId codePayload env) := by
  refine Proc.unaware_get_bind (fun _ _ => rfl) fun host => ?_
  cases host.sandboxes.lookup sandboxId with
  | none => exact Proc.unaware_pure _
  | some entry =>
    refine Proc.unaware_ite (Proc.unaware_ite ?_ (Proc.unaware_pure _)) (Proc.unaware_pure _)
    refine .bind (Proc.unaware_modify fun _ _ => rfl) fun _ => ?_
    exact Proc.unaware_ite (Proc.unaware_pure _) (Proc.unaware_pure _)

theorem aside_metadataBody (sandboxId : String) : Aside (metadataBody sandboxId) :=
  Proc.unaware_get_bind (fun _ _ => rfl) fun _ => Proc.unaware_pure _

/-! Run alone, the operations are those of the manager. -/

/-- The manager's mutex is held. -/
def Holding (attached : Bool) (host : Host) : Prop :=
  host.lockDepth ≠ 0 ∧ host.policyEngine.isSome = attached

section
variable {A B : Type} {attached may : Bool} {lock : Option Leaf} {m : Proc Host A}

theorem Aside.holding (aside : Aside m) {host : Host} (holding : Holding attached host) :
    Holding attached (m.ends host).2 := by
  obtain ⟨depth, engine⟩ := aside.get host
  unfold Holding
  rwa [depth, engine]

/-- One call of another object, and then the rest. -/
theorem Aside.tame_bind (aside : Aside m) {rest : A → HostCode B} (after : ∀ value, (rest value).Tame enginePart may) :
    (Code.call lock m >>= rest).Tame enginePart may :=
  .bind (aside.engine.tame lock false) after

theorem Aside.runs_bind (aside : Aside m) {rest : A → HostCode B} {next : A → Proc Host B}
    (after : ∀ value, Code.Runs enginePart (Holding attached) (rest value) (next value)) :
    Code.Runs enginePart (Holding attached) (Code.call lock m >>= rest) (m >>= next) :=
  (Code.runs_call lock m).bind (fun _ holding => aside.holding holding) after

end

theorem blockSyscallsCode_tame (granted : UInt32 → Bool) (numbers : List UInt32) :
    (blockSyscallsCode granted numbers).Tame enginePart false := by
  induction numbers with
  | nil => trivial
  | cons sysNr rest ih => exact (aside_updateLoader _).tame_bind fun _ => ih

theorem pushPolicyCode_tame (policy : SecurityPolicy) (env : BpfEnv) :
    (pushPolicyCode policy env).Tame enginePart false := by
  refine .bind (blockSyscallsCode_tame _ _) fun _ => Code.tame_ite ?_ trivial
  exact (aside_updateLoader _).engine.tame _ _

theorem applyEbpfPoliciesCode_tame (attached : Bool) (entry : SandboxInstance) (env : BpfEnv) :
    (applyEbpfPoliciesCode attached entry env).Tame enginePart true := by
  refine Code.tame_look (fun _ _ => rfl) fun host => Code.tame_ite ?_ trivial
  refine (aside_getCgroupId _).tame_bind fun cgroupId => Code.tame_ite trivial ?_
  refine (aside_updateLoader _).tame_bind fun _ => Code.tame_ask .engine fun engine => ?_
  cases engine.bind (·.getPolicy entry.config.securityPolicyName) with
  | none => trivial
  | some policy => exact .bind (pushPolicyCode_tame policy env) fun _ => trivial

theorem finishCreateCode_tame (attached : Bool) (entry : SandboxInstance) (env : CreateEnv) :
    (finishCreateCode attached entry env).Tame enginePart true := by
  refine (aside_bootMicroVM _ _).tame_bind fun status => Code.tame_ite trivial ?_
  refine .bind_blind (applyEbpfPoliciesCode_tame attached entry env.bpf) fun status => Code.tame_ite trivial ?_
  have registered : Aside (Proc.modify fun host : Host => host.register entry) := Proc.unaware_modify fun _ _ => rfl
  exact registered.tame_bind fun _ => trivial

theorem spawnCreateCode_tame (attached : Bool) (entry : SandboxInstance) (sbxDir : Path) (env : CreateEnv) :
    (spawnCreateCode attached entry sbxDir env).Tame enginePart true := by
  refine (aside_spawnFirecrackerProcess _ _).tame_bind fun spawned => Code.tame_ite ?_ ?_
  · refine (aside_closeDescriptor _).tame_bind fun _ => (aside_destroyCgroup _).tame_bind fun _ => ?_
    exact (aside_removeAll _).tame_bind fun _ => trivial
  · exact (aside_attachPid _ _ _).tame_bind fun _ => finishCreateCode_tame attached _ env

theorem createCode_tame (attached : Bool) (config : SandboxConfig) (env : CreateEnv) :
    (createCode attached config env).Tame enginePart true := by
  refine Code.tame_look (fun _ _ => rfl) fun host => Code.tame_ite trivial ?_
  refine (aside_createDirectories _ _).tame_bind fun _ => (aside_createCgroup _ _ _).tame_bind fun status => ?_
  refine Code.tame_ite ((aside_removeAll _).tame_bind fun _ => trivial) ?_
  refine (aside_setupTapInterface _ _).tame_bind fun tap => Code.tame_ite ?_ (spawnCreateCode_tame attached _ _ env)
  exact (aside_destroyCgroup _).tame_bind fun _ => (aside_removeAll _).tame_bind fun _ => trivial

theorem unmonitorCode_tame (sandboxId : String) (granted : Bool) :
    (unmonitorCode sandboxId granted).Tame enginePart false := by
  refine Code.tame_look (fun _ _ => rfl) fun host => ?_
  cases host.ebpfLoader with
  | none => trivial
  | some loader =>
    refine (aside_getCgroupId _).tame_bind fun cgroupId => Code.tame_ite ?_ trivial
    exact (aside_updateLoader _).engine.tame _ _

theorem terminateCode_tame (sandboxId : String) (env : TerminateEnv) :
    (terminateCode sandboxId env).Tame enginePart true := by
  refine Code.tame_look (fun _ _ => rfl) fun host => ?_
  cases host.sandboxes.lookup sandboxId with
  | none => trivial
  | some entry =>
    have erased : Aside (Proc.modify fun host : Host => { host with sandboxes := host.sandboxes.erase sandboxId }) :=
      Proc.unaware_modify fun _ _ => rfl
    refine (aside_killFirecracker _ _).tame_bind fun _ => (aside_closeDescriptor _).tame_bind fun _ => ?_
    refine .bind (unmonitorCode_tame _ _) fun _ => (aside_destroyCgroup _).tame_bind fun _ => ?_
    exact (aside_removeAll _).tame_bind fun _ => erased.tame_bind fun _ => trivial

theorem terminateEachCode_tame (exits : String → Bool) (ids : List String) :
    (terminateEachCode exits ids).Tame enginePart false := by
  induction ids with
  | nil => trivial
  | cons id rest ih =>
    refine Code.tame_look (fun _ _ => rfl) fun host => ?_
    cases host.sandboxes.lookup id with
    | none => exact ih
    | some entry =>
      refine (aside_killFirecracker _ _).tame_bind fun _ => (aside_closeDescriptor _).tame_bind fun _ => ?_
      exact (aside_destroyCgroup _).tame_bind fun _ => (aside_removeAll _).tame_bind fun _ => ih

theorem terminateAllCode_tame (env : TerminateAllEnv) : (terminateAllCode env).Tame enginePart true := by
  have cleared : Aside (Proc.modify fun host : Host => { host with sandboxes := ∅ }) :=
    Proc.unaware_modify fun _ _ => rfl
  refine Code.tame_look (fun _ _ => rfl) fun host => ?_
  exact .bind (terminateEachCode_tame _ _) fun _ => cleared.engine.tame _ _

theorem aside_blockSyscalls (granted : UInt32 → Bool) (numbers : List UInt32) :
    Aside (blockSyscalls granted numbers) := by
  induction numbers with
  | nil => exact Proc.unaware_pure _
  | cons sysNr rest ih => exact .bind (aside_updateLoader _) fun _ => ih

theorem aside_pushPolicy (policy : SecurityPolicy) (env : BpfEnv) : Aside (pushPolicy policy env) := by
  refine .bind (aside_blockSyscalls _ _) fun _ => Proc.unaware_ite (aside_updateLoader _) ?_
  exact Proc.unaware_pure _

theorem aside_unmonitor (sandboxId : String) (granted : Bool) : Aside (unmonitor sandboxId granted) := by
  refine Proc.unaware_get_bind (fun _ _ => rfl) fun host => ?_
  cases host.ebpfLoader with
  | none => exact Proc.unaware_pure _
  | some loader => exact Proc.unaware_ite (aside_updateLoader _) (Proc.unaware_pure _)

theorem aside_terminateEach (exits : String → Bool) (ids : List String) : Aside (terminateEach exits ids) := by
  induction ids with
  | nil => exact Proc.unaware_pure _
  | cons id rest ih =>
    refine Proc.unaware_get_bind (fun _ _ => rfl) fun host => ?_
    cases host.sandboxes.lookup id with
    | none => exact ih
    | some entry =>
      refine .bind (aside_killFirecracker _ _) fun _ => .bind (aside_closeDescriptor _) fun _ => ?_
      exact .bind (aside_destroyCgroup _) fun _ => .bind (aside_removeAll _) fun _ => ih

section
variable {attached : Bool}

theorem applyEbpfPolicies_holding (entry : SandboxInstance) (env : BpfEnv) {host : Host}
    (holding : Holding attached host) : Holding attached ((applyEbpfPolicies entry env).ends host).2 := by
  unfold applyEbpfPolicies
  rw [Proc.ends_get_bind]
  cases host.ebpfLoader with
  | none => exact holding
  | some loader =>
    cases host.policyEngine with
    | none => exact holding
    | some engine =>
      refine Aside.holding (Proc.unaware_ite (Proc.unaware_pure _) ?_) holding
      refine .bind (aside_updateLoader _) fun _ => ?_
      cases engine.getPolicy entry.config.securityPolicyName with
      | none => exact Proc.unaware_pure _
      | some policy => exact .bind (aside_pushPolicy policy env) fun _ => Proc.unaware_pure _

theorem blockSyscallsCode_runs (granted : UInt32 → Bool) (numbers : List UInt32) :
    Code.Runs enginePart (Holding attached) (blockSyscallsCode granted numbers) (blockSyscalls granted numbers) := by
  induction numbers with
  | nil => exact Code.runs_pure _
  | cons sysNr rest ih => exact (aside_updateLoader _).runs_bind fun _ => ih

theorem pushPolicyCode_runs (policy : SecurityPolicy) (env : BpfEnv) :
    Code.Runs enginePart (Holding attached) (pushPolicyCode policy env) (pushPolicy policy env) := by
  refine (blockSyscallsCode_runs _ _).bind (fun _ => (aside_blockSyscalls _ _).holding) fun _ => ?_
  exact Code.runs_ite (Code.runs_call _ _) (Code.runs_pure _)

theorem getCgroupIdCode_ends (host : Host) (sandboxId : String) :
    (Code.call (some .cgroups) (getCgroupId sandboxId) : HostCode UInt64).ends enginePart host =
      (.returned (host.getCgroupId sandboxId), host) := rfl

theorem applyEbpfPoliciesCode_runs (entry : SandboxInstance) (env : BpfEnv) :
    Code.Runs enginePart (Holding attached) (applyEbpfPoliciesCode attached entry env)
      (applyEbpfPolicies entry env) := by
  refine Code.runs_look_bind fun host holding => ?_
  have given := holding.2
  cases loaded : host.ebpfLoader with
  | none => rfl
  | some loader =>
    cases engine : host.policyEngine with
    | none =>
      rw [engine] at given
      rw [if_neg (by simp [← given])]
      rfl
    | some policies =>
      rw [engine] at given
      rw [if_pos ⟨rfl, given.symm⟩]
      refine (Code.ends_bind_returned (getCgroupIdCode_ends host _)).trans ?_
      dsimp only
      split
      · rfl
      · refine (Code.ends_bind_returned rfl).trans (Eq.trans ?_ (Proc.ends_bind_returned rfl).symm)
        -- the loader has changed, the engine has not
        have asked (after : Host) (same : after.policyEngine = host.policyEngine) :
            (Code.ask .engine : HostCode (Option PolicyEngine)).ends enginePart after =
              (.returned (some policies), after) := by
          rw [← engine, ← same]
          rfl
        refine (Code.ends_bind_returned (asked _ ((aside_updateLoader _).get host).2)).trans ?_
        dsimp only [Option.bind_some]
        cases policies.getPolicy entry.config.securityPolicyName with
        | none => rfl
        | some policy =>
          exact (pushPolicyCode_runs policy env).bind (fun _ => (aside_pushPolicy policy env).holding)
            (fun _ => Code.runs_pure _) _ (Aside.holding (aside_updateLoader _) holding)

theorem finishCreateCode_runs (entry : SandboxInstance) (env : CreateEnv) :
    Code.Runs enginePart (Holding attached) (finishCreateCode attached entry env) (finishCreate .plain entry env) := by
  have again (status : Status) : Code.Runs enginePart (Holding attached) (Code.relock : HostCode Status) (do
      let _ ← terminateSandbox .plain entry.config.sandboxId env.rollback
      pure status) := by
    intro host holding
    exact (Proc.ends_bind_blocked (terminateSandbox_busy holding.1 _ _)).symm
  refine (aside_bootMicroVM _ _).runs_bind fun status => Code.runs_ite (again status) ?_
  refine (applyEbpfPoliciesCode_runs entry env.bpf).bind (fun _ => applyEbpfPolicies_holding entry env.bpf) fun status => ?_
  refine Code.runs_ite (again status) ?_
  have registered : Aside (Proc.modify fun host : Host => host.register entry) := Proc.unaware_modify fun _ _ => rfl
  exact registered.runs_bind fun _ => Code.runs_pure _

theorem spawnCreateCode_runs (entry : SandboxInstance) (sbxDir : Path) (env : CreateEnv) :
    Code.Runs enginePart (Holding attached) (spawnCreateCode attached entry sbxDir env)
      (spawnCreate .plain entry sbxDir env) := by
  refine (aside_spawnFirecrackerProcess _ _).runs_bind fun spawned => Code.runs_ite ?_ ?_
  · refine (aside_closeDescriptor _).runs_bind fun _ => (aside_destroyCgroup _).runs_bind fun _ => ?_
    exact (aside_removeAll _).runs_bind fun _ => Code.runs_pure _
  · exact (aside_attachPid _ _ _).runs_bind fun _ => finishCreateCode_runs _ env

theorem createCode_runs (config : SandboxConfig) (env : CreateEnv) :
    Code.Runs enginePart (Holding attached) (createCode attached config env) (createBody .plain config env) := by
  refine Code.runs_look_bind fun host holding => ?_
  refine Code.runs_ite (Code.runs_pure _) ?_ host holding
  refine (aside_createDirectories _ _).runs_bind fun _ => (aside_createCgroup _ _ _).runs_bind fun status => ?_
  refine Code.runs_ite ((aside_removeAll _).runs_bind fun _ => Code.runs_pure _) ?_
  refine (aside_setupTapInterface _ _).runs_bind fun tap => Code.runs_ite ?_ (spawnCreateCode_runs _ _ env)
  exact (aside_destroyCgroup _).runs_bind fun _ => (aside_removeAll _).runs_bind fun _ => Code.runs_pure _

theorem unmonitorCode_runs (sandboxId : String) (granted : Bool) :
    Code.Runs enginePart (Holding attached) (unmonitorCode sandboxId granted) (unmonitor sandboxId granted) := by
  refine Code.runs_look_bind fun host holding => ?_
  cases host.ebpfLoader with
  | none => rfl
  | some loader =>
    refine (Code.ends_bind_returned (getCgroupIdCode_ends host sandboxId)).trans ?_
    exact Code.runs_ite (Code.runs_call _ _) (Code.runs_pure _) host holding

theorem terminateCode_runs (sandboxId : String) (env : TerminateEnv) :
    Code.Runs enginePart (Holding attached) (terminateCode sandboxId env) (terminateBody sandboxId env) := by
  refine Code.runs_look_bind fun host holding => ?_
  cases host.sandboxes.lookup sandboxId with
  | none => rfl
  | some entry =>
    have erased : Aside (Proc.modify fun host : Host => { host with sandboxes := host.sandboxes.erase sandboxId }) :=
      Proc.unaware_modify fun _ _ => rfl
    refine (aside_killFirecracker _ _).runs_bind (fun _ => (aside_closeDescriptor _).runs_bind fun _ => ?_) host holding
    refine (unmonitorCode_runs _ _).bind (fun _ => (aside_unmonitor _ _).holding) fun _ => ?_
    refine (aside_destroyCgroup _).runs_bind fun _ => (aside_removeAll _).runs_bind fun _ => ?_
    exact erased.runs_bind fun _ => Code.runs_pure _

theorem terminateEachCode_runs (exits : String → Bool) (ids : List String) :
    Code.Runs enginePart (Holding attached) (terminateEachCode exits ids) (terminateEach exits ids) := by
  induction ids with
  | nil => exact Code.runs_pure _
  | cons id rest ih =>
    refine Code.runs_look_bind fun host holding => ?_
    cases host.sandboxes.lookup id with
    | none => exact ih host holding
    | some entry =>
      refine (aside_killFirecracker _ _).runs_bind (fun _ => (aside_closeDescriptor _).runs_bind fun _ => ?_) host holding
      exact (aside_destroyCgroup _).runs_bind fun _ => (aside_removeAll _).runs_bind fun _ => ih

theorem terminateAllCode_runs (env : TerminateAllEnv) :
    Code.Runs enginePart (Holding attached) (terminateAllCode env) (terminateAllBody env) := by
  refine Code.runs_look_bind fun host holding => ?_
  refine (terminateEachCode_runs _ _).bind (fun _ => (aside_terminateEach _ _).holding) (fun _ => ?_) host holding
  exact Code.runs_call _ _

end

end Aegis.Runtime
