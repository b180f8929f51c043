import Aegis.Library.Session
import Aegis.Runtime.Calls
import Aegis.Runtime.Enforcement

/-! Running guests and the maps, at every step.

A creation starts the microVM before it applies the policies. A termination takes the cgroup
off monitoring after a wait that does not wait. All other steps keep running guests covered.
-/

set_option autoImplicit false

namespace Aegis.Runtime
open Library Ebpf Policy

/-- A microVM with the given cgroup and policy has been started, and its process has not exited. -/
def Running (host : Host) (cgroupId : UInt64) (policyName : String) : Prop :=
  ∃ pid child, host.children.lookup pid = some child ∧ child.started = true ∧ child.exited = false ∧
    child.cgroupId = cgroupId ∧ child.policyName = policyName

/-- The cgroup is monitored and every number the policy blocks is blocked. -/
def Guarded (host : Host) (cgroupId : UInt64) (policyName : String) : Prop :=
  ∀ loader ∈ host.ebpfLoader, ∀ engine ∈ host.policyEngine,
    loader.monitored cgroupId = some 1 ∧
      ∀ rules ∈ engine.getPolicy policyName, ∀ n ∈ rules.syscallRule.blockedSyscalls, loader.policyOf n = some 1

/-- No guest runs unmonitored. -/
def Covered (host : Host) : Prop :=
  ∀ cgroupId policyName, Running host cgroupId policyName → Guarded host cgroupId policyName

section
variable {host after : Host}

theorem Covered.of_running (covered : Covered host) (loader : after.ebpfLoader = host.ebpfLoader)
    (engine : after.policyEngine = host.policyEngine)
    (running : ∀ cgroupId policyName, Running after cgroupId policyName → Running host cgroupId policyName) :
    Covered after := by
  intro cgroupId policyName runs
  unfold Guarded
  rw [loader, engine]
  exact covered cgroupId policyName (running cgroupId policyName runs)

theorem lookup_updateChild (host : Host) (pid other : Int) (change : Child → Child) :
    (host.updateChild pid change).children.lookup other =
      if other = pid then (host.children.lookup pid).map change else host.children.lookup other := by
  by_cases same : other = pid
  · subst same
    cases found : host.children.lookup other with
    | none => simp [Host.updateChild, found]
    | some child => simp [Host.updateChild, found]
  · cases found : host.children.lookup pid with
    | none => simp [Host.updateChild, found, same]
    | some child => simp [Host.updateChild, found, same, Finmap.lookup_insert_of_ne]

/-- A change to one child that starts nothing. -/
theorem Covered.updateChild (covered : Covered host) (pid : Int) {change : Child → Child}
    (keeps : ∀ child, (change child).cgroupId = child.cgroupId ∧ (change child).policyName = child.policyName)
    (starts : ∀ child, (change child).started = true → (change child).exited = false →
      child.started = true ∧ child.exited = false) : Covered (host.updateChild pid change) := by
  refine covered.of_running rfl rfl ?_
  rintro cgroupId policyName ⟨other, child, found, started, alive, cgroup, policy⟩
  rw [lookup_updateChild] at found
  by_cases same : other = pid
  · rw [if_pos same] at found
    obtain ⟨before, known, rfl⟩ := Option.map_eq_some_iff.mp found
    obtain ⟨started', alive'⟩ := starts before started alive
    exact ⟨pid, before, known, started', alive', (keeps before).1 ▸ cgroup, (keeps before).2 ▸ policy⟩
  · rw [if_neg same] at found
    exact ⟨other, child, found, started, alive, cgroup, policy⟩

/-- One more child is covered if it runs nothing or finds its entries. -/
theorem Covered.insertChild (covered : Covered host) (loader : after.ebpfLoader = host.ebpfLoader)
    (engine : after.policyEngine = host.policyEngine) {pid : Int} {child : Child}
    (children : after.children = host.children.insert pid child)
    (safe : child.started = true → Guarded host child.cgroupId child.policyName) : Covered after := by
  rintro cgroupId policyName ⟨other, running, found, started, alive, rfl, rfl⟩
  unfold Guarded
  rw [loader, engine]
  rw [children] at found
  by_cases same : other = pid
  · subst same
    cases (Finmap.lookup_insert _).symm.trans found
    exact safe started
  · rw [Finmap.lookup_insert_of_ne _ same] at found
    exact covered _ _ ⟨other, running, found, started, alive, rfl, rfl⟩

/-- Starting one more microVM asks for its own entries, and for nothing else. -/
theorem covered_startVm_iff (covered : Covered host) {pid : Int} {child : Child}
    (found : host.children.lookup pid = some child) (alive : child.exited = false) :
    Covered (host.startVm pid) ↔ Guarded host child.cgroupId child.policyName := by
  have lookup (other : Int) := lookup_updateChild host pid other fun child => { child with started := true }
  constructor
  · intro after
    refine after _ _ ⟨pid, { child with started := true }, ?_, rfl, alive, rfl, rfl⟩
    exact (lookup pid).trans (by simp [found])
  · rintro guarded cgroupId policyName ⟨other, child', found', started, alive', rfl, rfl⟩
    by_cases same : other = pid
    · have own : child' = { child with started := true } := by
        have here := (lookup other).symm.trans found'
        rw [if_pos same, found] at here
        exact (Option.some.inj here).symm
      rw [own]
      exact guarded
    · refine covered _ _ ⟨other, child', ?_, started, alive', rfl, rfl⟩
      exact ((lookup other).trans (if_neg same)).symm.trans found'

end

/-! The steps that keep running guests covered. -/

theorem stays_soft {change : Host → Host} (loader : ∀ host, (change host).ebpfLoader = host.ebpfLoader)
    (engine : ∀ host, (change host).policyEngine = host.policyEngine)
    (children : ∀ host, (change host).children = host.children) : (Proc.modify change).Stays Covered := by
  apply Proc.stays_modify
  intro host covered
  refine covered.of_running (loader host) (engine host) ?_
  rintro cgroupId policyName ⟨pid, child, found, rest⟩
  exact ⟨pid, child, children host ▸ found, rest⟩

theorem createDirectories_stays (path : Path) (answer : Option Nat) : (createDirectories path answer).Stays Covered :=
  Proc.stays_bind (stays_soft (fun _ => rfl) (fun _ => rfl) fun _ => rfl) fun _ => Proc.stays_pure _

theorem removeAll_stays (path : Path) : (removeAll path).Stays Covered :=
  stays_soft (fun _ => rfl) (fun _ => rfl) fun _ => rfl

theorem closeDescriptor_stays (fd : Int) : (closeDescriptor fd).Stays Covered :=
  stays_soft (fun _ => rfl) (fun _ => rfl) fun _ => rfl

theorem writeSysfsFile_stays (path : Path) (value : String) (answer : SysfsAnswer) :
    (writeSysfsFile path value answer).Stays Covered :=
  Proc.stays_bind (stays_soft (fun _ => rfl) (fun _ => rfl) fun _ => rfl) fun _ => Proc.stays_pure _

theorem openDescriptor_stays (answer : Int) : (openDescriptor answer).Stays Covered := by
  refine Proc.stays_bind Proc.stays_get fun host => Proc.stays_ite ?_ (Proc.stays_pure _)
  exact Proc.stays_bind (stays_soft (fun _ => rfl) (fun _ => rfl) fun _ => rfl) fun _ => Proc.stays_pure _

theorem applyLimits_stays (cgroupPath : Path) (limits : CgroupLimits) (env : CgroupEnv) :
    (applyLimits cgroupPath limits env).Stays Covered := by
  refine Proc.stays_bind (writeSysfsFile_stays _ _ _) fun _ => Proc.stays_ite ?_ (Proc.stays_pure _)
  refine Proc.stays_bind (writeSysfsFile_stays _ _ _) fun _ => Proc.stays_ite ?_ (Proc.stays_pure _)
  exact Proc.stays_bind (writeSysfsFile_stays _ _ _) fun _ =>
    Proc.stays_ite (Proc.stays_pure _) (Proc.stays_pure _)

theorem createCgroup_stays (sandboxId : String) (limits : CgroupLimits) (env : CgroupEnv) :
    (createCgroup sandboxId limits env).Stays Covered := by
  have undo (path : Path) (status : Status) : (do removeAll path; pure status : Proc Host Status).Stays Covered :=
    Proc.stays_bind (removeAll_stays path) fun _ => Proc.stays_pure _
  refine Proc.stays_bind Proc.stays_get fun host => Proc.stays_ite (Proc.stays_pure _) ?_
  refine Proc.stays_bind (createDirectories_stays _ _) fun _ => Proc.stays_ite (Proc.stays_pure _) ?_
  refine Proc.stays_bind (applyLimits_stays _ _ _) fun status => Proc.stays_ite (undo _ _) ?_
  refine Proc.stays_ite (undo _ _) ?_
  refine Proc.stays_bind (openDescriptor_stays _) fun fd => Proc.stays_ite (undo _ _) ?_
  exact Proc.stays_bind (stays_soft (fun _ => rfl) (fun _ => rfl) fun _ => rfl) fun _ => Proc.stays_pure _

theorem destroyCgroup_stays (sandboxId : String) : (destroyCgroup sandboxId).Stays Covered := by
  refine Proc.stays_bind Proc.stays_get fun host => ?_
  cases host.cgroups.lookup sandboxId with
  | none => exact Proc.stays_pure _
  | some info =>
    refine Proc.stays_bind (closeDescriptor_stays _) fun _ => Proc.stays_bind (removeAll_stays _) fun _ => ?_
    exact Proc.stays_bind (stays_soft (fun _ => rfl) (fun _ => rfl) fun _ => rfl) fun _ => Proc.stays_pure _

theorem attachPid_stays (sandboxId : String) (pid : Int) (answer : SysfsAnswer) :
    (attachPid sandboxId pid answer).Stays Covered := by
  refine Proc.stays_bind Proc.stays_get fun host => ?_
  cases host.cgroups.lookup sandboxId with
  | none => exact Proc.stays_pure _
  | some info =>
    refine Proc.stays_bind (writeSysfsFile_stays _ _ _) fun written => ?_
    have told : (if written then pure .success else pure .errCgroupQuotaExceeded : Proc Host Status).Stays Covered :=
      Proc.stays_ite (Proc.stays_pure _) (Proc.stays_pure _)
    refine Proc.stays_ite (Proc.stays_bind (Proc.stays_modify ?_) fun _ => told) told
    exact fun host covered => covered.updateChild pid (fun _ => ⟨rfl, rfl⟩) fun _ started alive => ⟨started, alive⟩

theorem setupTapInterface_stays (entry : SandboxInstance) (env : TapEnv) :
    (setupTapInterface entry env).Stays Covered := by
  refine Proc.stays_bind (openDescriptor_stays _) fun fd => Proc.stays_ite (Proc.stays_pure _) ?_
  exact Proc.stays_ite (Proc.stays_pure _) (Proc.stays_bind (closeDescriptor_stays _) fun _ => Proc.stays_pure _)

theorem fork_stays (config : SandboxConfig) (answer : Int) : (fork config answer).Stays Covered := by
  refine Proc.stays_bind Proc.stays_get fun _ => Proc.stays_ite ?_ (Proc.stays_pure _)
  refine Proc.stays_bind (Proc.stays_modify fun host covered => ?_) fun _ => Proc.stays_pure _
  -- the new child runs nothing yet
  exact covered.insertChild rfl rfl rfl fun started => by cases started

theorem pollSocket_stays (polls : List Query) : (pollSocket polls).Stays Covered := by
  induction polls with
  | nil => exact Proc.stays_pure _
  | cons first rest ih =>
    cases first with
    | yes => exact Proc.stays_pure _
    | no => exact ih
    | throws => exact Proc.stays_throw

theorem spawn_stays (entry : SandboxInstance) (env : SpawnEnv) :
    (spawnFirecrackerProcess entry env).Stays Covered := by
  have clears : (clearSocket entry.socketPath env).Stays Covered := by
    unfold clearSocket
    cases env.stale with
    | yes => exact Proc.stays_ite (stays_soft (fun _ => rfl) (fun _ => rfl) fun _ => rfl) Proc.stays_throw
    | no => exact Proc.stays_pure _
    | throws => exact Proc.stays_throw
  refine Proc.stays_bind clears fun _ => Proc.stays_bind (fork_stays _ _) fun pid => ?_
  exact Proc.stays_ite (Proc.stays_pure _) (Proc.stays_bind (pollSocket_stays _) fun _ => Proc.stays_pure _)

/-- What was monitored or blocked before is so after. -/
def Strengthens (loader after : EBPFLoader) : Prop :=
  (∀ cgroupId, loader.monitored cgroupId = some 1 → after.monitored cgroupId = some 1) ∧
    ∀ n, loader.policyOf n = some 1 → after.policyOf n = some 1

theorem updateLoader_stays {update : EBPFLoader → Status × EBPFLoader}
    (strengthens : ∀ loader, Strengthens loader (update loader).2) : (updateLoader update).Stays Covered := by
  apply Proc.stays_modify
  intro host covered cgroupId policyName running loader loaded engine present
  obtain ⟨before, known, rfl⟩ := Option.map_eq_some_iff.mp (Option.mem_def.mp loaded)
  obtain ⟨monitored, blocked⟩ := covered cgroupId policyName running before known engine present
  obtain ⟨watches, blocks⟩ := strengthens before
  exact ⟨watches _ monitored, fun rules registered n listed => blocks n (blocked rules registered n listed)⟩

theorem setCgroupMonitored_strengthens (granted : Bool) (cgroupId : UInt64) (loader : EBPFLoader) :
    Strengthens loader (loader.setCgroupMonitored granted cgroupId true).2 := by
  constructor
  · intro other monitored
    rw [EBPFLoader.monitored_setCgroupMonitored]
    split
    · rfl
    · exact monitored
  · intro n blocked
    simpa [EBPFLoader.policyOf] using blocked

theorem setSyscallPolicy_strengthens (granted : Bool) (sysNr : UInt32) (loader : EBPFLoader) :
    Strengthens loader (loader.setSyscallPolicy granted sysNr 1).2 := by
  constructor
  · intro cgroupId monitored
    simpa [EBPFLoader.monitored] using monitored
  · intro n blocked
    rw [EBPFLoader.policyOf_setSyscallPolicy]
    split
    · rfl
    · exact blocked

theorem setBlockedIp_strengthens (granted : Bool) (ipv4 : UInt32) (loader : EBPFLoader) :
    Strengthens loader (loader.setBlockedIp granted ipv4 true).2 := by
  simp [Strengthens, EBPFLoader.monitored, EBPFLoader.policyOf]

theorem blockSyscalls_stays (granted : UInt32 → Bool) (numbers : List UInt32) :
    (blockSyscalls granted numbers).Stays Covered := by
  induction numbers with
  | nil => exact Proc.stays_pure _
  | cons sysNr rest ih =>
    exact Proc.stays_bind (updateLoader_stays (setSyscallPolicy_strengthens (granted sysNr) sysNr)) fun _ => ih

theorem pushPolicy_stays (policy : SecurityPolicy) (env : BpfEnv) : (pushPolicy policy env).Stays Covered := by
  refine Proc.stays_bind (blockSyscalls_stays _ _) fun _ => Proc.stays_ite ?_ (Proc.stays_pure _)
  exact updateLoader_stays (setBlockedIp_strengthens env.blockedIp metadataIp)

theorem applyEbpfPolicies_stays (entry : SandboxInstance) (env : BpfEnv) :
    (applyEbpfPolicies entry env).Stays Covered := by
  refine Proc.stays_bind Proc.stays_get fun host => ?_
  cases host.ebpfLoader with
  | none => exact Proc.stays_pure _
  | some loader =>
    cases host.policyEngine with
    | none => exact Proc.stays_pure _
    | some engine =>
      refine Proc.stays_ite (Proc.stays_pure _) ?_
      refine Proc.stays_bind (updateLoader_stays (setCgroupMonitored_strengthens _ _)) fun _ => ?_
      cases engine.getPolicy entry.config.securityPolicyName with
      | none => exact Proc.stays_pure _
      | some policy => exact Proc.stays_bind (pushPolicy_stays policy env) fun _ => Proc.stays_pure _

theorem killFirecracker_stays (pid : Int) (exits : Bool) : (killFirecracker pid exits).Stays Covered := by
  refine Proc.stays_ite (Proc.stays_bind (Proc.stays_modify ?_) fun _ => Proc.stays_modify ?_) (Proc.stays_pure _)
  · exact fun host covered => covered.updateChild pid (fun _ => ⟨rfl, rfl⟩) fun _ started alive => ⟨started, alive⟩
  · intro host covered
    refine covered.of_running rfl rfl ?_
    rintro cgroupId policyName ⟨other, child, found, rest⟩
    refine ⟨other, child, ?_, rest⟩
    unfold Host.reap at found
    cases known : host.children.lookup pid with
    | none => simpa [known] using found
    | some before =>
      by_cases gone : before.exited = true ∨ exits = true
      · simp only [known, if_pos gone] at found
        by_cases same : other = pid
        · rw [same, Finmap.lookup_erase] at found
          cases found
        · rwa [Finmap.lookup_erase_ne same] at found
      · simpa [known, gone] using found

theorem executeBody_stays (sandboxId codePayload : String) (env : ExecEnv) :
    (executeBody sandboxId codePayload env).Stays Covered := by
  refine Proc.stays_bind Proc.stays_get fun host => ?_
  cases host.sandboxes.lookup sandboxId with
  | none => exact Proc.stays_pure _
  | some entry =>
    refine Proc.stays_ite (Proc.stays_ite ?_ (Proc.stays_pure _)) (Proc.stays_pure _)
    refine Proc.stays_bind (stays_soft (fun _ => rfl) (fun _ => rfl) fun _ => rfl) fun _ => ?_
    exact Proc.stays_ite (Proc.stays_pure _) (Proc.stays_pure _)

theorem terminateEach_stays (exits : String → Bool) (ids : List String) : (terminateEach exits ids).Stays Covered := by
  induction ids with
  | nil => exact Proc.stays_pure _
  | cons id rest ih =>
    refine Proc.stays_bind Proc.stays_get fun host => ?_
    cases host.sandboxes.lookup id with
    | none => exact ih
    | some entry =>
      refine Proc.stays_bind (killFirecracker_stays _ _) fun _ => Proc.stays_bind (closeDescriptor_stays _) fun _ => ?_
      exact Proc.stays_bind (destroyCgroup_stays _) fun _ => Proc.stays_bind (removeAll_stays _) fun _ => ih

/-- The operations that neither create nor terminate a single sandbox keep running guests covered. -/
theorem quiet_stays {op : Op} (quiet : op.Quiet) : (call op).Stays Covered := by
  have blind (n : Nat) (host : Host) (covered : Covered host) : Covered (sandboxMutex.put n host) :=
    covered.of_running rfl rfl fun _ _ => id
  cases op with
  | create config env => exact quiet.elim
  | terminate sandboxId env => exact quiet.elim
  | execute sandboxId codePayload env =>
    exact Proc.stays_bind (sandboxMutex.stays_guard blind (executeBody_stays _ _ _)) fun _ => Proc.stays_pure _
  | metadata sandboxId =>
    have body : (metadataBody sandboxId).Stays Covered := Proc.stays_bind Proc.stays_get fun _ => Proc.stays_pure _
    exact Proc.stays_bind (sandboxMutex.stays_guard blind body) fun _ => Proc.stays_pure _
  | terminateAll env =>
    have body : (terminateAllBody env).Stays Covered := Proc.stays_bind Proc.stays_get fun _ =>
      Proc.stays_bind (terminateEach_stays _ _) fun _ => stays_soft (fun _ => rfl) (fun _ => rfl) fun _ => rfl
    exact Proc.stays_bind (sandboxMutex.stays_guard blind body) fun _ => Proc.stays_pure _
  | exit pid =>
    refine Proc.stays_bind (Proc.stays_modify fun host covered => ?_) fun _ => Proc.stays_pure _
    exact covered.updateChild pid (fun _ => ⟨rfl, rfl⟩) fun _ _ alive => absurd alive (by simp)

/-! The boot. -/

theorem Covered.sending {host : Host} (covered : Covered host) (sent : List (Path × String)) :
    Covered { host with sent := sent } :=
  covered.of_running rfl rfl fun _ _ => id

theorem put_stays (socketPath : Path) (endpoint payload : String) (answer : PutAnswer) :
    (sendUnixHttpPut socketPath endpoint payload answer id).Stays Covered := by
  cases answer with
  | unreachable => exact Proc.stays_pure _
  | answered accepted reported =>
    refine Proc.stays_bind (stays_soft (fun _ => rfl) (fun _ => rfl) fun _ => rfl) fun _ => ?_
    exact Proc.stays_ite (Proc.stays_bind (Proc.stays_modify fun _ => id) fun _ => Proc.stays_pure _) (Proc.stays_pure _)

/-- The requests that start nothing only send, so all that counts is whether the rest is reached. -/
theorem configuring_passes_iff {host : Host} (covered : Covered host) (entry : SandboxInstance) (env : BootEnv)
    (next : Proc Host Status) (puts : List Put) :
    (configuring entry env next puts).Passes Covered host ↔
      ((∀ put ∈ puts, (env.answer put).reported = true) →
        next.Passes Covered { host with sent := host.sent ++ (issued env puts).flatMap (written entry env) }) := by
  induction puts generalizing host with
  | nil => simp [configuring, issued]
  | cons put rest ih =>
    have sent := put_ends host entry env put id
    rw [ite_self] at sent
    rw [configuring, (put_stays _ _ _ _).passes_bind covered sent]
    by_cases reported : (env.answer put).reported = true
    · rw [if_pos reported, id_eq, ih (covered.sending _)]
      simp [issued, reported]
    · simp [issued, reported]

section
variable {host : Host} (covered : Covered host) {entry : SandboxInstance} {child : Child}
  (found : host.children.lookup entry.firecrackerPid = some child) (alive : child.exited = false) (env : BootEnv)
include covered found alive

/-- The request that starts the microVM. -/
theorem start_passes_iff (sent : List (Path × String)) (endpoint payload : String) (answer : PutAnswer) :
    (sendUnixHttpPut entry.socketPath endpoint payload answer (Host.startVm entry.firecrackerPid)).Passes Covered
        { host with sent := sent } ↔
      (answer.accepted = true → Guarded host child.cgroupId child.policyName) := by
  cases answer with
  | unreachable => simp [sendUnixHttpPut, PutAnswer.accepted]
  | answered accepted reported =>
    have first := covered.sending (sent ++ [(entry.socketPath, httpRequest endpoint payload)])
    have start := covered_startVm_iff first (by exact found) alive
    cases accepted with
    | false =>
      refine iff_of_true ?_ (by simp [PutAnswer.accepted])
      exact (Proc.passes_bind_returned rfl).mpr ⟨(Proc.passes_modify _ _).mpr first, Proc.passes_pure _ _⟩
    | true =>
      unfold sendUnixHttpPut
      rw [Proc.passes_bind_returned rfl, Proc.passes_modify, and_iff_right first, if_pos rfl]
      refine (Proc.passes_bind_returned rfl).trans ?_
      rw [Proc.passes_modify, and_iff_left (Proc.passes_pure _ _)]
      refine start.trans ?_
      simp [PutAnswer.accepted, Guarded]

theorem restore_passes_iff :
    (restoreFirecrackerSnapshot entry env).Passes Covered host ↔
      (env.snapshotLoad.accepted = true → Guarded host child.cgroupId child.policyName) := by
  refine (Proc.passes_bind_returned (start_ends host entry env .snapshotLoad _)).trans ?_
  refine (and_iff_left ?_).trans (start_passes_iff covered found alive host.sent _ _ _)
  split
  · exact Proc.passes_pure _ _
  · exact Proc.passes_pure _ _

theorem starting_passes_iff (sent : List (Path × String)) :
    (starting entry env).Passes Covered { host with sent := sent } ↔
      (env.actions.accepted = true → Guarded host child.cgroupId child.policyName) := by
  refine (Proc.passes_bind_returned (start_ends _ entry env .actions _)).trans ?_
  refine (and_iff_left ?_).trans (start_passes_iff covered found alive sent _ _ _)
  split
  · exact Proc.passes_pure _ _
  · exact Proc.passes_pure _ _

theorem configure_passes_iff :
    (configureFirecrackerApi entry env).Passes Covered host ↔
      (env.Configured ∧ env.actions.accepted = true → Guarded host child.cgroupId child.policyName) := by
  rw [configure_eq, configuring_passes_iff covered, configured_iff, starting_passes_iff covered found alive, and_imp]

theorem boot_passes_iff :
    (bootMicroVM entry env).Passes Covered host ↔
      (¬ BootThrows entry.config env → BootStarts entry.config env →
        Guarded host child.cgroupId child.policyName) := by
  by_cases throws : BootThrows entry.config env
  · refine iff_of_true ?_ fun quiet => absurd throws quiet
    rw [bootMicroVM, if_pos throws.1, throws.2]
    exact Proc.passes_throw _
  by_cases restores : Restores entry.config env
  · rw [bootMicroVM, if_pos restores.1, restores.2]
    simp only [restore_passes_iff covered found alive, BootStarts, if_pos restores, throws, not_false_eq_true,
      true_implies]
  · have goes : bootMicroVM entry env = configureFirecrackerApi entry env := boot_configures throws restores
    simp only [goes, configure_passes_iff covered found alive, BootStarts, if_neg restores, throws, not_false_eq_true,
      true_implies]

theorem covered_booted (starts : Bool) (sent : List (Path × String))
    (guarded : starts = true → Guarded host child.cgroupId child.policyName) :
    Covered (host.booted entry.firecrackerPid starts sent) := by
  cases starts with
  | false => exact covered.of_running rfl rfl fun _ _ => id
  | true => exact ((covered_startVm_iff covered found alive).mpr (guarded rfl)).of_running rfl rfl fun _ _ => id

/-- The end of a creation: with the lock held, the failed boot takes no further step. -/
theorem finishCreate_passes_iff (held : host.lockDepth ≠ 0) {cgroupId : UInt64}
    (known : host.getCgroupId entry.config.sandboxId = cgroupId) (valid : cgroupId ≠ 0) (env : CreateEnv) :
    (finishCreate .plain entry env).Passes Covered host ↔
      (¬ BootThrows entry.config env.boot → BootStarts entry.config env.boot →
        Guarded host child.cgroupId child.policyName) := by
  rw [← boot_passes_iff covered found alive]
  by_cases throws : BootThrows entry.config env.boot
  · exact Proc.passes_bind_threw (boot_threw host entry env.boot throws)
  obtain ⟨status, sent, success, boot⟩ := boot_ends host entry env.boot throws
  -- if the boot itself is covered then so is all that comes after it
  refine (Proc.passes_bind_returned boot).trans (and_iff_left_of_imp fun passes => ?_)
  have guarded := (boot_passes_iff covered found alive env.boot).mp passes throws
  have booted := covered_booted covered found alive (decide (BootStarts entry.config env.boot)) sent
    fun starts => guarded (of_decide_eq_true starts)
  by_cases failed : status = .success
  · rw [if_neg (not_not.mpr failed)]
    have applied : (applyEbpfPolicies entry env.bpf).ends
        (host.booted entry.firecrackerPid (decide (BootStarts entry.config env.boot)) sent) = _ :=
      applyEbpfPolicies_ends (by exact known) valid env.bpf
    have policed := (applyEbpfPolicies_stays entry env.bpf).after booted applied
    have registers : (Proc.modify fun host : Host => host.register entry).Stays Covered :=
      stays_soft (fun _ => rfl) (fun _ => rfl) fun _ => rfl
    rw [(applyEbpfPolicies_stays entry env.bpf).passes_bind booted applied, if_neg (by simp),
      registers.passes_bind policed rfl]
    exact Proc.passes_pure _ _
  · rw [if_pos failed, Proc.passes_bind_blocked (terminateSandbox_busy (by exact held) _ _)]
    unfold Proc.Passes terminateSandbox
    rw [sandboxMutex.guard_blocked (by exact held)]
    simp

end

/-! The whole creation. -/

/-- A creation that starts its microVM finds the cgroup monitored and the numbers blocked before. -/
def SafeBoot (host : Host) (config : SandboxConfig) (env : CreateEnv) : Prop :=
  Spawned host config env → ¬ BootThrows config env.boot → BootStarts config env.boot →
    Guarded host env.cgroup.inode config.securityPolicyName

section
variable {host work : Host} {config : SandboxConfig} {env : CreateEnv}

theorem undo_stays (sandboxId : String) (dir : Path) (status : Status) :
    (do
      let _ ← destroyCgroup sandboxId
      removeAll dir
      pure status : Proc Host Status).Stays Covered :=
  Proc.stays_bind (destroyCgroup_stays _) fun _ => Proc.stays_bind (removeAll_stays _) fun _ => Proc.stays_pure _

theorem listening_passes_iff (held : host.lockDepth ≠ 0) (spawned : Spawned host config env)
    (traced : Traced (places host config) host work)
    (covered : Covered (withChild host config env (spawnedChild config env) work)) :
    (finishCreate .plain (forkedEntry host config env) env).Passes Covered
        (withChild host config env (spawnedChild config env) work) ↔ SafeBoot host config env := by
  obtain ⟨files, touched, sent, rfl⟩ := traced.frame
  have cgroup : (withChild host config env (spawnedChild config env)
      { host with files := files, touched := touched, sent := sent }).getCgroupId config.sandboxId =
      env.cgroup.inode := by
    simp [Host.getCgroupId, withChild, ready, cgroupInfo]
  have child : (withChild host config env (spawnedChild config env)
      { host with files := files, touched := touched, sent := sent }).children.lookup
      (forkedEntry host config env).firecrackerPid = some (spawnedChild config env) := Finmap.lookup_insert _
  refine (finishCreate_passes_iff covered child rfl held cgroup spawned.cgroupId_ne env).trans ?_
  exact ⟨fun safe _ => safe, fun safe => safe spawned⟩

theorem spawnCreate_passes_iff (held : host.lockDepth ≠ 0) (up : TapUp host config env)
    (works : Works host config env work) (covered : Covered (ready host config env work)) :
    (spawnCreate .plain (readyEntry host config env) (sbxDir host config) env).Passes Covered
        (ready host config env work) ↔ SafeBoot host config env := by
  have spawns := spawn_stays (readyEntry host config env) env.spawn
  unfold spawnCreate
  by_cases clears : env.spawn.Clears
  swap
  · rw [Proc.passes_bind_threw (spawn_threw _ clears)]
    exact iff_of_true (spawns.passes covered) fun spawned => absurd spawned.forked.clears clears
  by_cases free : host.FreePid env.spawn.pid
  swap
  · have taken : ¬ (ready host config env work).FreePid env.spawn.pid := by
      obtain ⟨files, touched, sent, rfl⟩ := works.traced.frame
      exact free
    have refused := spawn_refused (readyEntry host config env) clears taken
    rw [spawns.passes_bind covered refused, if_pos (by simp)]
    have undo := Proc.stays_bind (closeDescriptor_stays (readyEntry host config env).tapFd) fun _ =>
      undo_stays (readyEntry host config env).config.sandboxId (sbxDir host config) .errMicroVMBootFailed
    exact iff_of_true (undo.passes (spawns.after covered refused)) fun spawned => absurd spawned.forked.free free
  have fork := spawn_ready clears free works
  cases answer : env.spawn.answer with
  | throws =>
    rw [answer] at fork
    rw [Proc.passes_bind_threw fork]
    refine iff_of_true (spawns.passes covered) fun spawned => ?_
    cases answer.symm.trans spawned.2
  | no =>
    rw [answer] at fork
    rw [spawns.passes_bind covered fork, if_pos (by simp)]
    have undo := Proc.stays_bind (closeDescriptor_stays (forkedEntry host config env).tapFd) fun _ =>
      undo_stays (readyEntry host config env).config.sandboxId (sbxDir host config) .errMicroVMBootFailed
    refine iff_of_true (undo.passes (spawns.after covered fork)) fun spawned => ?_
    cases answer.symm.trans spawned.2
  | yes =>
    rw [answer] at fork
    have spawned : Spawned host config env := ⟨⟨up, clears, free⟩, answer⟩
    have attaches := attachPid_stays config.sandboxId env.spawn.pid env.attach
    have attach := attach_ready host config env
      (work.cleared (sbxDir host config / "firecracker.socket") env.spawn)
    have forked := spawns.after covered fork
    rw [spawns.passes_bind covered fork, if_neg (by simp)]
    refine (attaches.passes_bind forked attach).trans ?_
    exact listening_passes_iff held spawned
      (attach_traced (cleared_traced env works.traced) (toString env.spawn.pid) env.attach)
      (attaches.after forked attach)

theorem createBody_passes_iff (held : host.lockDepth ≠ 0) (covered : Covered host) :
    (createBody .plain config env).Passes Covered host ↔ SafeBoot host config env := by
  have mkdirs := createDirectories_stays (sbxDir host config) env.mkdir
  have cgroups := createCgroup_stays config.sandboxId config.resourceLimits env.cgroup
  have removes (status : Status) : (do removeAll (sbxDir host config); pure status : Proc Host Status).Stays Covered :=
    Proc.stays_bind (removeAll_stays _) fun _ => Proc.stays_pure _
  have dir : host.baseRuntimeDir / config.sandboxId = sbxDir host config := rfl
  unfold createBody
  rw [Proc.passes_get_bind, dir]
  by_cases admitted : Admitted host config
  swap
  · rw [if_pos (not_admitted.mp admitted)]
    exact iff_of_true (Proc.passes_pure _ _) fun spawned => absurd spawned.made.1 admitted
  have made := mkdirs.after covered (createDirectories_ends _ _ _)
  rw [if_neg (not_or.mpr admitted), mkdirs.passes_bind covered (createDirectories_ends _ _ _)]
  by_cases taken : config.sandboxId ∈ host.cgroups
  · have known : (createCgroup config.sandboxId config.resourceLimits env.cgroup).ends
        (host.makeDirectories (sbxDir host config) env.mkdir) = _ := createCgroup_known (by exact taken)
    rw [cgroups.passes_bind made known, if_pos (by simp)]
    exact iff_of_true ((removes _).passes (cgroups.after made known)) fun spawned => absurd taken spawned.made.new
  cases mkdir : env.cgroup.mkdir with
  | some count =>
    have unmade : (createCgroup config.sandboxId config.resourceLimits env.cgroup).ends
        (host.makeDirectories (sbxDir host config) env.mkdir) = _ := createCgroup_unmade (by exact taken) mkdir
    rw [cgroups.passes_bind made unmade, if_pos (by simp)]
    refine iff_of_true ((removes _).passes (cgroups.after made unmade)) fun spawned => ?_
    cases mkdir.symm.trans spawned.made.2.2
  | none =>
    obtain ⟨work, works, cgroup⟩ := createCgroup_works ⟨admitted, taken, mkdir⟩
    by_cases granted : env.cgroup.Granted host config.sandboxId
    swap
    · rw [if_neg granted] at cgroup
      rw [cgroups.passes_bind made cgroup, if_pos (by simp)]
      exact iff_of_true ((removes _).passes (cgroups.after made cgroup)) fun spawned => absurd spawned.forked.tapUp.granted granted
    rw [if_pos granted] at cgroup
    rw [cgroups.passes_bind made cgroup, if_neg (by simp)]
    have up := cgroups.after made cgroup
    have taps := setupTapInterface_stays (newEntry config (sbxDir host config)) env.tap
    by_cases tap : env.tap.Granted (host.withDescriptor env.cgroup.fd)
    · have device := (tapGranted_iff works).mpr tap
      have opened := setupTap_up device (newEntry config (sbxDir host config))
      rw [ready_eq works.traced] at opened
      rw [taps.passes_bind up opened, if_neg (by simp)]
      exact spawnCreate_passes_iff held ⟨⟨⟨admitted, taken, mkdir⟩, granted⟩, tap⟩ works (taps.after up opened)
    · have device := mt (tapGranted_iff works).mp tap
      have failed := setupTap_down device (newEntry config (sbxDir host config))
      rw [taps.passes_bind up failed, if_pos (by simp)]
      exact iff_of_true ((undo_stays _ _ _).passes (taps.after up failed)) fun spawned => absurd spawned.forked.tapUp.2 tap

theorem covered_withChild (covered : Covered host) (traced : Traced (places host config) host work) {child : Child}
    (safe : child.started = true → Guarded host child.cgroupId child.policyName) :
    Covered (withChild host config env child work) := by
  obtain ⟨files, touched, sent, rfl⟩ := traced.frame
  exact covered.insertChild rfl rfl rfl safe

theorem CreateResult.covered {outcome : Outcome Status} {after : Host} {relock : Relock}
    (result : CreateResult relock host config env (outcome, after)) (covered : Covered host)
    (safe : SafeBoot host config env) : Covered after := by
  cases result with
  | rejected => exact covered
  | known _ _ traced | unmade _ _ _ traced | undone _ _ traced | tapless _ _ traced | uncleared _ _ traced
  | unforked _ _ _ traced =>
    obtain ⟨files, touched, sent, rfl⟩ := traced.frame
    exact covered.of_running rfl rfl fun _ _ => id
  | unspawned _ _ traced =>
    obtain ⟨files, touched, sent, rfl⟩ := traced.frame
    exact covered.insertChild rfl rfl rfl fun started => by cases started
  | unpolled _ _ traced | bootThrew _ _ traced =>
    exact covered_withChild covered traced fun started => by cases started
  | unbooted up quiet _ _ traced =>
    exact covered_withChild covered traced fun started => safe up quiet (of_decide_eq_true started)
  | done complete traced =>
    have booted : Covered (withChild host config env (bootedChild config env) _) :=
      covered_withChild covered traced fun started => safe complete.1 complete.2.1 (of_decide_eq_true started)
    have cgroup (work : Host) : (withChild host config env (bootedChild config env) work).getCgroupId config.sandboxId =
        env.cgroup.inode := by
      simp [Host.getCgroupId, withChild, ready, cgroupInfo]
    have policed := (applyEbpfPolicies_stays (forkedEntry host config env) env.bpf).after booted
      (applyEbpfPolicies_ends (cgroup _) complete.spawned.cgroupId_ne env.bpf)
    exact policed.of_running rfl rfl fun _ _ => id

end

theorem Covered.locked {host : Host} (depth : Nat) (covered : Covered host) : Covered (sandboxMutex.put depth host) :=
  covered.of_running rfl rfl fun _ _ => id

theorem create_passes_iff {host : Host} (free : host.lockDepth = 0) (covered : Covered host) (config : SandboxConfig)
    (env : CreateEnv) : (call (.create config env)).Passes Covered host ↔ SafeBoot host config env := by
  have held : (sandboxMutex.put (sandboxMutex.depth host + 1) host).lockDepth ≠ 0 := Nat.succ_ne_zero _
  have body : (createBody .plain config env).Passes Covered (sandboxMutex.put (sandboxMutex.depth host + 1) host) ↔
      SafeBoot host config env := createBody_passes_iff held (covered.locked _)
  refine (Proc.passes_map _ _ _).trans ⟨fun all => body.mp (sandboxMutex.passes_body (.inl free) all), fun safe => ?_⟩
  refine sandboxMutex.passes_guard (fun depth _ => .locked depth) (.inl free) covered (body.mpr safe) ?_
  exact (createBody_result held .plain config env).covered (covered.locked _) safe

/-! Termination. -/

/-- A key that is set has its slot. -/
theorem monitorRoom_of_monitored {loader : EBPFLoader} {cgroupId : UInt64} {value : UInt8}
    (monitored : loader.monitored cgroupId = some value) : loader.MonitorRoom cgroupId := by
  obtain ⟨table, found, set⟩ := Option.bind_eq_some_iff.mp monitored
  exact ⟨table, found, .inl (Finmap.mem_of_lookup_eq_some set)⟩

/-- The cgroup can be taken off monitoring if and only if no guest of it runs. -/
theorem covered_unmonitored_iff {host : Host} (covered : Covered host) (sandboxId : String) (granted : Bool) :
    Covered { host with ebpfLoader := host.unmonitored sandboxId granted } ↔
      (host.ebpfLoader.isSome → host.policyEngine.isSome → granted = true → 0 < host.getCgroupId sandboxId →
        ∀ policyName, ¬ Running host (host.getCgroupId sandboxId) policyName) := by
  cases loaded : host.ebpfLoader with
  | none =>
    refine iff_of_true (fun _ _ _ loader found => ?_) (by simp)
    simp [Host.unmonitored, loaded] at found
  | some loader =>
    by_cases valid : 0 < host.getCgroupId sandboxId
    swap
    · refine iff_of_true (covered.of_running ?_ rfl fun _ _ => id) fun _ _ _ positive => absurd positive valid
      simp [Host.unmonitored, loaded, valid]
    have maps : host.unmonitored sandboxId granted =
        some (loader.setCgroupMonitored granted (host.getCgroupId sandboxId) false).2 := by
      simp [Host.unmonitored, loaded, valid]
    constructor
    · intro after _ present yes _ policyName running
      obtain ⟨engine, known⟩ := Option.isSome_iff_exists.mp present
      -- the key was set, so the update has its slot and turns it to 0
      have before := (covered _ _ running loader loaded engine known).1
      have now := (after _ _ running _ maps engine known).1
      rw [EBPFLoader.monitored_setCgroupMonitored, if_pos ⟨rfl, yes, monitorRoom_of_monitored before⟩] at now
      cases now
    -- only the key of this sandbox changes
    · intro quiet cgroupId policyName running after current engine known
      obtain rfl : (loader.setCgroupMonitored granted (host.getCgroupId sandboxId) false).2 = after :=
        Option.some.inj (maps.symm.trans current)
      obtain ⟨monitored, blocked⟩ := covered cgroupId policyName running loader loaded engine known
      constructor
      · rw [EBPFLoader.monitored_setCgroupMonitored, if_neg, monitored]
        rintro ⟨rfl, yes, -⟩
        exact quiet rfl (Option.isSome_iff_exists.mpr ⟨engine, known⟩) yes valid policyName running
      · simpa [EBPFLoader.policyOf] using blocked

/-- Whoever still runs in the cgroup of the sandbox is its own process, and that has exited
when it is waited for. -/
def SafeKill (host : Host) (sandboxId : String) (env : TerminateEnv) : Prop :=
  ∀ entry ∈ host.sandboxes.lookup sandboxId, host.ebpfLoader.isSome → host.policyEngine.isSome →
    env.unmonitor = true → 0 < host.getCgroupId sandboxId →
    ∀ pid child, host.children.lookup pid = some child → child.started = true → child.exited = false →
      child.cgroupId = host.getCgroupId sandboxId →
      pid = entry.firecrackerPid ∧ 0 < pid ∧ env.exits = true

/-- Who runs in the cgroup after the kill and the wait. -/
theorem running_killed_iff (host : Host) (pid : Int) (exits : Bool) (cgroupId : UInt64) :
    (∀ policyName, ¬ Running { host with children := host.killed pid exits } cgroupId policyName) ↔
      ∀ other child, host.children.lookup other = some child → child.started = true → child.exited = false →
        child.cgroupId = cgroupId → other = pid ∧ 0 < other ∧ exits = true := by
  constructor
  · intro quiet other child found started alive cgroup
    by_contra survives
    -- a process that is killed but not reaped may still run
    by_cases own : other = pid ∧ 0 < pid
    · obtain ⟨rfl, valid⟩ := own
      have lives : ¬ (child.exited = true ∨ exits = true) := by
        rintro (exited | yes)
        · rw [alive] at exited
          cases exited
        · exact survives ⟨rfl, valid, yes⟩
      refine quiet child.policyName ⟨other, { child with killed := true }, ?_, started, alive, cgroup, rfl⟩
      refine (lookup_killed host other other exits).trans ?_
      simp [valid, found, lives]
    · refine quiet child.policyName ⟨other, child, ?_, started, alive, cgroup, rfl⟩
      exact (lookup_killed host pid other exits).trans ((if_neg own).trans found)
  · rintro gone policyName ⟨other, child, found, started, alive, cgroup, -⟩
    have lookup := (lookup_killed host pid other exits).symm.trans found
    by_cases own : other = pid ∧ 0 < pid
    · rw [if_pos own] at lookup
      obtain ⟨before, known, kept⟩ := Option.bind_eq_some_iff.mp lookup
      split at kept
      · cases kept
      · rename_i lives
        cases kept
        exact lives (.inr (gone pid before known started alive cgroup).2.2)
    · rw [if_neg own] at lookup
      obtain ⟨same, valid, -⟩ := gone other child lookup started alive cgroup
      exact own ⟨same, same ▸ valid⟩

theorem unmonitor_passes_iff {host : Host} (covered : Covered host) (sandboxId : String) (granted : Bool) :
    (unmonitor sandboxId granted).Passes Covered host ↔
      Covered { host with ebpfLoader := host.unmonitored sandboxId granted } := by
  have idle (same : host.unmonitored sandboxId granted = host.ebpfLoader) :
      Covered { host with ebpfLoader := host.unmonitored sandboxId granted } :=
    covered.of_running same rfl fun _ _ => id
  unfold unmonitor
  rw [Proc.passes_get_bind]
  cases loaded : host.ebpfLoader with
  | none => exact iff_of_true (Proc.passes_pure _ _) (idle (by simp [Host.unmonitored, loaded]))
  | some loader =>
    by_cases valid : 0 < host.getCgroupId sandboxId
    · simp [valid, updateLoader, Host.updateLoader, Host.unmonitored, loaded]
    · simp only [if_neg valid]
      exact iff_of_true (Proc.passes_pure _ _) (idle (by simp [Host.unmonitored, loaded, valid]))

theorem terminateBody_passes_iff {host : Host} (covered : Covered host) (sandboxId : String) (env : TerminateEnv) :
    (terminateBody sandboxId env).Passes Covered host ↔ SafeKill host sandboxId env := by
  unfold terminateBody
  rw [Proc.passes_get_bind]
  cases known : host.sandboxes.lookup sandboxId with
  | none => exact iff_of_true (Proc.passes_pure _ _) fun entry found => by cases known.symm.trans found
  | some entry =>
    have kills := killFirecracker_stays entry.firecrackerPid env.exits
    have killed := kills.after covered (killFirecracker_ends host entry.firecrackerPid env.exits)
    have closes := closeDescriptor_stays entry.tapFd
    have closed := closes.after killed rfl
    have rest : (do
        let _ ← destroyCgroup sandboxId
        removeAll (host.baseRuntimeDir / sandboxId)
        Proc.modify fun host => { host with sandboxes := host.sandboxes.erase sandboxId }
        pure .success : Proc Host Status).Stays Covered :=
      Proc.stays_bind (destroyCgroup_stays _) fun _ => Proc.stays_bind (removeAll_stays _) fun _ =>
        Proc.stays_bind (stays_soft (fun _ => rfl) (fun _ => rfl) fun _ => rfl) fun _ => Proc.stays_pure _
    dsimp only
    rw [kills.passes_bind covered (killFirecracker_ends _ _ _), closes.passes_bind killed rfl,
      Proc.passes_bind_returned (unmonitor_ends _ _ _), unmonitor_passes_iff closed,
      and_iff_left_of_imp rest.passes, covered_unmonitored_iff closed]
    have running := running_killed_iff host entry.firecrackerPid env.exits (host.getCgroupId sandboxId)
    constructor
    · intro quiet entry' found loaded present granted valid
      cases known.symm.trans found
      exact running.mp (quiet loaded present granted valid)
    · intro safe loaded present granted valid
      exact running.mpr (safe entry known loaded present granted valid)

theorem terminated_covered {host : Host} (covered : Covered host) {sandboxId : String} {entry : SandboxInstance}
    (known : host.sandboxes.lookup sandboxId = some entry) {env : TerminateEnv} (safe : SafeKill host sandboxId env)
    (files : FileTree) : Covered (terminated host sandboxId entry env files) := by
  have killed : Covered { host with children := host.killed entry.firecrackerPid env.exits } :=
    (killFirecracker_stays entry.firecrackerPid env.exits).after covered (killFirecracker_ends _ _ _)
  have running := running_killed_iff host entry.firecrackerPid env.exits (host.getCgroupId sandboxId)
  have off := (covered_unmonitored_iff killed sandboxId env.unmonitor).mpr fun loaded present granted valid =>
    running.mpr (safe entry known loaded present granted valid)
  exact off.of_running rfl rfl fun _ _ => id

theorem terminate_passes_iff {host : Host} (free : host.lockDepth = 0) (covered : Covered host) (sandboxId : String)
    (env : TerminateEnv) : (call (.terminate sandboxId env)).Passes Covered host ↔ SafeKill host sandboxId env := by
  have body : (terminateBody sandboxId env).Passes Covered (sandboxMutex.put (sandboxMutex.depth host + 1) host) ↔
      SafeKill host sandboxId env := terminateBody_passes_iff (covered.locked _) sandboxId env
  refine (Proc.passes_map _ _ _).trans ⟨fun all => body.mp (sandboxMutex.passes_body (.inl free) all), fun safe => ?_⟩
  refine sandboxMutex.passes_guard (fun depth _ => .locked depth) (.inl free) covered (body.mpr safe) ?_
  cases known : host.sandboxes.lookup sandboxId with
  | none =>
    rw [terminateBody_unknown (by exact known)]
    exact covered.locked _
  | some entry =>
    obtain ⟨files, ends⟩ := terminateBody_known
      (show (sandboxMutex.put (sandboxMutex.depth host + 1) host).sandboxes.lookup sandboxId = some entry from known) env
    rw [ends]
    exact terminated_covered (covered.locked _) (by exact known) (by exact safe) files

/-! Runs. -/

/-- The condition on one call, in the state it starts in. -/
def SafeStep (op : Op) (host : Host) : Prop :=
  match op with
  | .create config env => SafeBoot host config env
  | .terminate sandboxId env => SafeKill host sandboxId env
  | _ => True

section
variable {host : Host} (free : host.lockDepth = 0) (covered : Covered host)
include free covered

theorem call_passes_iff (op : Op) : (call op).Passes Covered host ↔ SafeStep op host := by
  have quiet (still : op.Quiet) : (call op).Passes Covered host := (quiet_stays still).passes covered
  cases op with
  | create config env => exact create_passes_iff free covered config env
  | terminate sandboxId env => exact terminate_passes_iff free covered sandboxId env
  | execute sandboxId codePayload env => exact iff_of_true (quiet trivial) trivial
  | metadata sandboxId => exact iff_of_true (quiet trivial) trivial
  | terminateAll env => exact iff_of_true (quiet trivial) trivial
  | exit pid => exact iff_of_true (quiet trivial) trivial

theorem call_covered (op : Op) (safe : SafeStep op host) : Covered ((call op).ends host).2 := by
  have quiet (still : op.Quiet) : Covered ((call op).ends host).2 := (quiet_stays still).after covered rfl
  cases op with
  | create config env =>
    obtain ⟨outcome, after, result, -, state⟩ := create_ends free config env
    have final := result.covered covered safe
    rw [state]
    split
    · exact final.of_running rfl rfl fun _ _ => id
    · exact final
  | terminate sandboxId env =>
    obtain ⟨status, after, ends, ⟨-, rfl⟩ | ⟨entry, files, known, rfl⟩⟩ := terminate_ends free sandboxId env
    · rw [ends]
      exact covered
    · rw [ends]
      exact terminated_covered covered known safe files
  | execute sandboxId codePayload env => exact quiet trivial
  | metadata sandboxId => exact quiet trivial
  | terminateAll env => exact quiet trivial
  | exit pid => exact quiet trivial

end

/-- In a run from a constructed manager no guest runs unmonitored at any step, if and only if
every creation that starts its microVM finds its entries there already and every termination
finds its process exited. -/
theorem runs_cover_iff {host : Host} (fresh : Fresh host) (childless : host.children = ∅) (ops : List Op) :
    (session call ops).Passes Covered host ↔ Along call SafeStep ops host := by
  rw [session_passed_iff]
  refine along_congr (fun host => host.lockDepth = 0 ∧ Covered host) (fun _ _ => True) ?_ ?_ ops host
    ⟨fresh.free, ?_⟩ (along_of_forall (fun _ _ => trivial) ops host)
  · intro op before ⟨free, covered⟩ _
    exact call_passes_iff free covered op
  · intro op before ⟨free, covered⟩ _ safe ended
    exact ⟨call_ends_free free op ended, call_covered free covered op safe⟩
  · rintro cgroupId policyName ⟨pid, child, found, -⟩
    rw [childless] at found
    cases found

/-- The maps an earlier sandbox of the same cgroup id has left. -/
def warmLoader : EBPFLoader := enforced 77 (some strictPython) {} sysFilterLoader

/-- With the entries already there, a sandbox is covered from its start to its end. -/
theorem warm_run_covered :
    (session call [.create demoConfig (smoothEnv 77), .terminate demoConfig.sandboxId {}]).Passes Covered
      (bareHost (some warmLoader) (some .init)) := by
  have complete : Completed (bareHost none none) demoConfig (smoothEnv 77) := by decide
  obtain ⟨work, traced, created⟩ := create_completes rfl
    (show Completed (bareHost (some warmLoader) (some .init)) demoConfig (smoothEnv 77) from complete)
  refine (runs_cover_iff ⟨rfl, rfl, rfl⟩ rfl _).mpr ((along_cons_returned created _).mpr ⟨?_, ?_, fun _ => trivial⟩)
  · rintro - - - loader loaded engine present
    cases loaded
    cases present
    refine ⟨by decide, fun rules registered n listed => ?_⟩
    cases strictPython_registered.symm.trans registered
    rw [warmLoader, policyOf_enforced]
    exact if_pos ⟨⟨strictPython, rfl, listed⟩, rfl, rfl, strictPython_in_range n listed⟩
  · obtain ⟨files, touched, sent, rfl⟩ := traced.frame
    rintro entry found - - - - pid child running - - -
    cases (Finmap.lookup_insert _).symm.trans found
    by_cases own : pid = 100
    · exact ⟨own, own ▸ by decide, rfl⟩
    · cases (Finmap.lookup_insert_of_ne _ own).symm.trans running

/-- On fresh maps the guest runs before its cgroup is monitored. -/
theorem guest_starts_unmonitored :
    Fresh (bareHost (some sysFilterLoader) (some .init)) ∧
      ¬ (session call [.create demoConfig (smoothEnv 77)]).Passes Covered
        (bareHost (some sysFilterLoader) (some .init)) := by
  have idle : Covered (bareHost (some sysFilterLoader) (some .init)) := by
    rintro cgroupId policyName ⟨pid, child, found, -⟩
    cases found
  have spawned : Spawned (bareHost none none) demoConfig (smoothEnv 77) := by decide
  refine ⟨⟨rfl, rfl, rfl⟩, fun all => ?_⟩
  have first := ((session_passed_iff _ _).mp all).1
  have guarded := (create_passes_iff rfl idle demoConfig (smoothEnv 77)).mp first spawned (by decide) (by decide)
  cases (guarded sysFilterLoader rfl .init rfl).1

end Aegis.Runtime
