import Aegis.Runtime.Creation

/-! What the kernel enforces once a creation has reported success.

The manager pushes the blocked numbers of the policy and, if it is asked to, the metadata
address. It pushes nothing that stands for the allow-list, the default mode, the blocked
addresses or the block on all egress, so the kernel and the evaluators of the policy engine
agree only where these do not matter.
-/

set_option autoImplicit false

namespace Aegis.Runtime
open Library Ebpf Policy

section
variable (loader : EBPFLoader) (granted : UInt32 → Bool)

theorem syscallRoom_setSyscallPolicy (allowed : Bool) (sysNr other : UInt32) (value : UInt8) :
    (loader.setSyscallPolicy allowed sysNr value).2.SyscallRoom other ↔ loader.SyscallRoom other := by
  simp [EBPFLoader.SyscallRoom, EBPFLoader.syscallMap_setSyscallPolicy]

@[simp] theorem monitoredMap_blocking (numbers : List UInt32) :
    (blocking granted numbers loader).monitoredMap = loader.monitoredMap := by
  induction numbers generalizing loader with
  | nil => rfl
  | cons sysNr rest ih => exact (ih _).trans (EBPFLoader.monitoredMap_setSyscallPolicy _ _ _ _)

@[simp] theorem ipMap_blocking (numbers : List UInt32) :
    (blocking granted numbers loader).ipMap = loader.ipMap := by
  induction numbers generalizing loader with
  | nil => rfl
  | cons sysNr rest ih => exact (ih _).trans (EBPFLoader.ipMap_setSyscallPolicy _ _ _ _)

/-- The loop sets exactly the listed numbers that the array has a cell for. -/
theorem policyOf_blocking (numbers : List UInt32) (n : UInt32) :
    (blocking granted numbers loader).policyOf n =
      if n ∈ numbers ∧ granted n = true ∧ loader.SyscallRoom n then some 1 else loader.policyOf n := by
  induction numbers generalizing loader with
  | nil => simp [blocking]
  | cons sysNr rest ih =>
    have step : blocking granted (sysNr :: rest) loader =
        blocking granted rest (loader.setSyscallPolicy (granted sysNr) sysNr 1).2 := rfl
    rw [step, ih, EBPFLoader.policyOf_setSyscallPolicy]
    simp only [syscallRoom_setSyscallPolicy, List.mem_cons]
    by_cases same : n = sysNr
    · subst same
      by_cases accepted : granted n = true ∧ loader.SyscallRoom n
      · simp [accepted]
      · simp [accepted]
    · simp [same]

end

section
variable (loader : EBPFLoader) (cgroupId : UInt64) (policy : Option SecurityPolicy) (env : BpfEnv)

theorem monitoredMap_enforced :
    (enforced cgroupId policy env loader).monitoredMap =
      (loader.setCgroupMonitored env.monitored cgroupId true).2.monitoredMap := by
  cases policy with
  | none => rfl
  | some policy =>
    cases metadata : policy.networkRule.blockCloudMetadata with
    | true => simp [enforced, pushed, metadata]
    | false => simp [enforced, pushed, metadata]

theorem monitored_enforced (other : UInt64) :
    (enforced cgroupId policy env loader).monitored other =
      if other = cgroupId ∧ env.monitored = true ∧ loader.MonitorRoom cgroupId then some 1
      else loader.monitored other := by
  have same := EBPFLoader.monitored_setCgroupMonitored loader env.monitored cgroupId other true
  unfold EBPFLoader.monitored at same ⊢
  rw [monitoredMap_enforced, same]
  simp

theorem policyOf_enforced (n : UInt32) :
    (enforced cgroupId policy env loader).policyOf n =
      if (∃ rules ∈ policy, n ∈ rules.syscallRule.blockedSyscalls) ∧ env.syscall n = true ∧ loader.SyscallRoom n
      then some 1 else loader.policyOf n := by
  have other : (loader.setCgroupMonitored env.monitored cgroupId true).2.policyOf n = loader.policyOf n := by
    simp [EBPFLoader.policyOf]
  have room : (loader.setCgroupMonitored env.monitored cgroupId true).2.SyscallRoom n ↔ loader.SyscallRoom n := by
    simp [EBPFLoader.SyscallRoom]
  cases policy with
  | none => simp [enforced, other]
  | some policy =>
    have last : (enforced cgroupId (some policy) env loader).policyOf n =
        (blocking env.syscall policy.syscallRule.blockedSyscalls
          (loader.setCgroupMonitored env.monitored cgroupId true).2).policyOf n := by
      cases metadata : policy.networkRule.blockCloudMetadata with
      | true => simp [enforced, pushed, metadata, EBPFLoader.policyOf]
      | false => simp [enforced, pushed, metadata]
    rw [last, policyOf_blocking, other]
    simp [room]

theorem isSome_ipMap_enforced : (enforced cgroupId policy env loader).ipMap.isSome = loader.ipMap.isSome := by
  cases policy with
  | none => simp [enforced]
  | some policy =>
    cases metadata : policy.networkRule.blockCloudMetadata with
    | true => simp [enforced, pushed, metadata, EBPFLoader.ipMap_setBlockedIp]
    | false => simp [enforced, pushed, metadata]

theorem blocked_enforced (ipv4 : UInt32) :
    (enforced cgroupId policy env loader).blocked ipv4 =
      if (∃ rules ∈ policy, rules.networkRule.blockCloudMetadata = true) ∧ ipv4 = metadataIp ∧
        env.blockedIp = true ∧ loader.IpRoom metadataIp
      then some 1 else loader.blocked ipv4 := by
  have room : ∀ numbers : List UInt32, (blocking env.syscall numbers
      (loader.setCgroupMonitored env.monitored cgroupId true).2).IpRoom metadataIp ↔ loader.IpRoom metadataIp := by
    intro numbers
    simp [EBPFLoader.IpRoom]
  cases policy with
  | none => simp [enforced, EBPFLoader.blocked]
  | some policy =>
    cases metadata : policy.networkRule.blockCloudMetadata with
    | true =>
      simp only [enforced, pushed, metadata, if_true, EBPFLoader.blocked_setBlockedIp, room]
      simp [EBPFLoader.blocked, metadata]
    | false => simp [enforced, pushed, metadata, EBPFLoader.blocked]

end

/-- Whether the task is killed on entering the call. -/
def Host.sigkills (host : Host) (task : Task) (id : UInt64) (reserved : Bool) : Bool :=
  host.ebpfLoader.any fun loader => loader.sigkills task id reserved

/-- Whether the connect of the task is rejected. -/
def Host.rejects (host : Host) (task : Task) (ctx : SockAddr) (reserved : Bool) : Bool :=
  host.ebpfLoader.any fun loader => loader.rejects task ctx reserved

section
variable {host after : Host} {config : SandboxConfig} {env : CreateEnv} {loader : EBPFLoader}
  {engine : PolicyEngine} {policy : SecurityPolicy}

/-- The maps a successful creation leaves. -/
theorem created_loader (loaded : host.ebpfLoader = some loader) (present : host.policyEngine = some engine)
    (created : (createSandbox .plain config env).ends host = (.returned .success, after)) :
    after.ebpfLoader =
        some (enforced env.cgroup.inode (engine.getPolicy config.securityPolicyName) env.bpf loader) ∧
      after.getCgroupId config.sandboxId = env.cgroup.inode := by
  obtain ⟨-, work, traced, rfl⟩ := createSandbox_success created
  obtain ⟨files, touched, sent, rfl⟩ := traced.frame
  constructor
  · exact completed_loader loaded present
  · simp [completed, Host.register, Host.policed, withChild, ready, Host.getCgroupId, cgroupInfo]

/-- After a creation on fresh maps the kill list is the part of the blocked numbers the array can hold. -/
theorem created_sigkills_iff (loaded : host.ebpfLoader = some loader) (present : host.policyEngine = some engine)
    (fresh : loader.bpfObj.bind (·.sysFilter) = some .fresh)
    (registered : engine.getPolicy config.securityPolicyName = some policy)
    (updates : env.bpf.monitored = true ∧ ∀ n, env.bpf.syscall n = true)
    (created : (createSandbox .plain config env).ends host = (.returned .success, after))
    (task : Task) (inside : task.cgroupId = after.getCgroupId config.sandboxId) (id : UInt64) (reserved : Bool) :
    after.sigkills task id reserved = true ↔
      id.toUInt32 ∈ policy.syscallRule.blockedSyscalls ∧ id.toUInt32.toNat < 512 := by
  obtain ⟨maps, cgroup⟩ := created_loader loaded present created
  obtain ⟨hash, array⟩ := loader.fresh_monitored fresh
  have room : loader.MonitorRoom env.cgroup.inode := ⟨.empty, hash, HashTable.room_empty (by decide) _⟩
  have cells : ∀ n : UInt32, loader.policyOf n = if n.toNat < 512 then some 0 else none := by
    intro n
    simp [EBPFLoader.policyOf, array, ArrayTable.lookup_filled]
  simp only [Host.sigkills, maps, Option.any_some, EBPFLoader.sigkills_iff, monitored_enforced, inside, cgroup, room,
    policyOf_enforced, registered, updates.1, updates.2]
  generalize id.toUInt32 = n
  by_cases bound : n.toNat < 512
  · by_cases blocked : n ∈ policy.syscallRule.blockedSyscalls
    · simp [blocked, bound, EBPFLoader.SyscallRoom, array]
    · simp [blocked, bound, cells]
  · simp [bound, cells, EBPFLoader.SyscallRoom]

/-- The kernel kills on a number exactly when the evaluator denies it, if and only if the
number is blocked and in the range of the array, or allowed, or allowed by default. -/
theorem sigkill_refines_eval_iff (loaded : host.ebpfLoader = some loader) (present : host.policyEngine = some engine)
    (fresh : loader.bpfObj.bind (·.sysFilter) = some .fresh)
    (registered : engine.getPolicy config.securityPolicyName = some policy)
    (updates : env.bpf.monitored = true ∧ ∀ n, env.bpf.syscall n = true)
    (created : (createSandbox .plain config env).ends host = (.returned .success, after))
    (task : Task) (inside : task.cgroupId = after.getCgroupId config.sandboxId) (id : UInt64) (reserved : Bool) :
    (after.sigkills task id reserved = true ↔
        engine.evalSyscall config.securityPolicyName id.toUInt32 = false) ↔
      (id.toUInt32 ∈ policy.syscallRule.blockedSyscalls → id.toUInt32.toNat < 512) ∧
      (id.toUInt32 ∉ policy.syscallRule.blockedSyscalls →
        id.toUInt32 ∈ policy.syscallRule.allowedSyscalls ∨ policy.syscallRule.defaultAllow = true) := by
  rw [created_sigkills_iff loaded present fresh registered updates created task inside id reserved,
    PolicyEngine.evalSyscall_false_iff registered]
  generalize id.toUInt32 = n
  by_cases blocked : n ∈ policy.syscallRule.blockedSyscalls
  · simp [blocked]
  · by_cases allowed : n ∈ policy.syscallRule.allowedSyscalls
    · simp [blocked, allowed]
    · cases mode : policy.syscallRule.defaultAllow with
      | true => simp [blocked, allowed]
      | false => simp [blocked, allowed]

end

/-- A loader with a freshly loaded sys_filter. -/
def sysFilterLoader : EBPFLoader := { bpfObj := some { sysFilter := some .fresh } }

/-- A loader with a freshly loaded net_filter. -/
def netFilterLoader : EBPFLoader := { bpfObj := some { netFilter := some .fresh } }

def demoConfig : SandboxConfig := { sandboxId := "sbx-9f82a1" }

def taskIn (cgroupId : UInt64) : Task := { cgroupId := cgroupId, pidTgid := 0, ktimeNs := 0, comm := .replicate 16 0 }

theorem strictPython_registered : PolicyEngine.init.getPolicy "strict_python" = some strictPython :=
  Finmap.lookup_insert _

/-- Every number the strict Python policy blocks has a cell in the array. -/
theorem strictPython_in_range (n : UInt32) (blocked : n ∈ strictPython.syscallRule.blockedSyscalls) :
    n.toNat < 512 := by
  have all : strictPython.syscallRule.blockedSyscalls.all (fun n => n.toNat < 512) = true := by decide
  simpa using List.all_eq_true.mp all n blocked

theorem demo_creates (loader : EBPFLoader) (engine : PolicyEngine) :
    ∃ after, (createSandbox .plain demoConfig (smoothEnv 77)).ends (bareHost (some loader) (some engine)) =
      (.returned .success, after) ∧ after.getCgroupId "sbx-9f82a1" = 77 := by
  have complete : Completed (bareHost none none) demoConfig (smoothEnv 77) := by decide
  obtain ⟨work, -, created⟩ := createSandbox_completes (.inl rfl)
    (show Completed (bareHost (some loader) (some engine)) demoConfig (smoothEnv 77) from complete)
  exact ⟨_, created, (created_loader rfl rfl created).2⟩

/-- Under the strict Python policy a sandboxed `ptrace` (101) is denied and killed. -/
theorem ptrace_denied_and_killed :
    ∃ after, (createSandbox .plain demoConfig (smoothEnv 77)).ends (bareHost (some sysFilterLoader) (some .init)) =
        (.returned .success, after) ∧
      ((after.sigkills (taskIn 77) 101 true = true ↔ PolicyEngine.init.evalSyscall "strict_python" 101 = false) ↔
        ((101 : UInt32) ∈ strictPython.syscallRule.blockedSyscalls → (101 : UInt32).toNat < 512) ∧
        ((101 : UInt32) ∉ strictPython.syscallRule.blockedSyscalls →
          (101 : UInt32) ∈ strictPython.syscallRule.allowedSyscalls ∨ strictPython.syscallRule.defaultAllow = true)) := by
  obtain ⟨after, created, cgroup⟩ := demo_creates sysFilterLoader .init
  exact ⟨after, created, sigkill_refines_eval_iff rfl rfl rfl strictPython_registered ⟨rfl, fun _ => rfl⟩ created
    (taskIn 77) cgroup.symm 101 true⟩

/-- `execve` (59) is on neither list of the strict Python policy: denied by the evaluator, let
through by the kernel. -/
theorem execve_denied_not_killed :
    ∃ after, (createSandbox .plain demoConfig (smoothEnv 77)).ends (bareHost (some sysFilterLoader) (some .init)) =
        (.returned .success, after) ∧ after.getCgroupId "sbx-9f82a1" = 77 ∧
      ¬ (after.sigkills (taskIn 77) 59 true = true ↔
        PolicyEngine.init.evalSyscall "strict_python" 59 = false) := by
  obtain ⟨after, created, cgroup⟩ := demo_creates sysFilterLoader .init
  refine ⟨after, created, cgroup, ?_⟩
  have kills := created_sigkills_iff rfl rfl rfl strictPython_registered ⟨rfl, fun _ => rfl⟩ created
    (taskIn 77) cgroup.symm 59 true
  have denied : PolicyEngine.init.evalSyscall "strict_python" 59 = false := by decide
  have unlisted : (59 : UInt64).toUInt32 ∉ strictPython.syscallRule.blockedSyscalls := by decide
  intro agree
  exact unlisted (kills.mp (agree.mpr denied)).1

/-! The egress filter. -/

section
variable {host after : Host} {config : SandboxConfig} {env : CreateEnv} {loader : EBPFLoader}
  {engine : PolicyEngine} {policy : SecurityPolicy}

theorem metadataIp_eq : bpfHtonl 0xA9FEA9FE = metadataIp := by decide

/-- After a creation on a fresh map the metadata address is rejected, and nothing else. -/
theorem created_rejects_iff (loaded : host.ebpfLoader = some loader) (present : host.policyEngine = some engine)
    (fresh : loader.bpfObj.bind (·.netFilter) = some .fresh)
    (created : (createSandbox .plain config env).ends host = (.returned .success, after))
    (task : Task) {ctx : SockAddr} (inet : ctx.family = afInet) (reserved : Bool) :
    after.rejects task ctx reserved = true ↔ ctx.userIp4 = metadataIp := by
  obtain ⟨maps, -⟩ := created_loader loaded present created
  have empty := loader.fresh_blocked fresh
  have unset : loader.blocked ctx.userIp4 = none := by simp [EBPFLoader.blocked, empty]
  simp only [Host.rejects, maps, Option.any_some, EBPFLoader.rejects_iff _ _ inet, metadataIp_eq, blocked_enforced,
    unset, isSome_ipMap_enforced, empty, Option.isSome_some, true_and]
  by_cases endpoint : ctx.userIp4 = metadataIp
  · simp [endpoint]
  · simp [endpoint]

/-- The kernel rejects a connect exactly when the evaluator denies it, if and only if the
metadata address is denied in one of three ways, or another address in none of two. -/
theorem reject_refines_eval_iff (loaded : host.ebpfLoader = some loader) (present : host.policyEngine = some engine)
    (fresh : loader.bpfObj.bind (·.netFilter) = some .fresh)
    (registered : engine.getPolicy config.securityPolicyName = some policy)
    (created : (createSandbox .plain config env).ends host = (.returned .success, after))
    (task : Task) {ctx : SockAddr} (inet : ctx.family = afInet) (reserved : Bool) :
    (after.rejects task ctx reserved = true ↔
        engine.evalNetworkEgress config.securityPolicyName ctx.userIp4 = false) ↔
      if ctx.userIp4 = metadataIp then
        policy.networkRule.blockAllEgress = true ∨ policy.networkRule.blockCloudMetadata = true ∨
          metadataIp ∈ policy.networkRule.blockedIpsNetworkOrder
      else
        policy.networkRule.blockAllEgress = false ∧ ctx.userIp4 ∉ policy.networkRule.blockedIpsNetworkOrder := by
  rw [created_rejects_iff loaded present fresh created task inet reserved,
    PolicyEngine.evalNetworkEgress_false_iff registered]
  by_cases endpoint : ctx.userIp4 = metadataIp
  · simp [endpoint]
  · simp [endpoint]

end

def connectTo (ipv4 : UInt32) : SockAddr := { family := afInet, userIp4 := ipv4, userPort := 0x5000, protocol := 6 }

/-- The metadata endpoint is denied by the strict Python policy and rejected by the kernel. -/
theorem metadata_denied_and_rejected :
    ∃ after, (createSandbox .plain demoConfig (smoothEnv 77)).ends (bareHost (some netFilterLoader) (some .init)) =
        (.returned .success, after) ∧
      ((after.rejects (taskIn 77) (connectTo metadataIp) true = true ↔
          PolicyEngine.init.evalNetworkEgress "strict_python" metadataIp = false) ↔
        if metadataIp = metadataIp then
          strictPython.networkRule.blockAllEgress = true ∨ strictPython.networkRule.blockCloudMetadata = true ∨
            metadataIp ∈ strictPython.networkRule.blockedIpsNetworkOrder
        else
          strictPython.networkRule.blockAllEgress = false ∧
            metadataIp ∉ strictPython.networkRule.blockedIpsNetworkOrder) := by
  obtain ⟨after, created, -⟩ := demo_creates netFilterLoader .init
  exact ⟨after, created, reject_refines_eval_iff rfl rfl rfl strictPython_registered created (taskIn 77) rfl true⟩

/-- The policy of the demo, with all egress blocked. -/
def offlinePolicy : SecurityPolicy := { policyName := "strict_python", networkRule := { blockAllEgress := true } }

def offlineEngine : PolicyEngine := (PolicyEngine.init.registerPolicy offlinePolicy).2

/-- With all egress blocked by the policy, a connect to 8.8.8.8 passes the kernel. -/
theorem blocked_egress_not_rejected :
    ∃ after, (createSandbox .plain demoConfig (smoothEnv 77)).ends
          (bareHost (some netFilterLoader) (some offlineEngine)) = (.returned .success, after) ∧
      ¬ (after.rejects (taskIn 77) (connectTo (inetAddr 8 8 8 8)) true = true ↔
        offlineEngine.evalNetworkEgress "strict_python" (inetAddr 8 8 8 8) = false) := by
  obtain ⟨after, created, -⟩ := demo_creates netFilterLoader offlineEngine
  refine ⟨after, created, ?_⟩
  have rejected := created_rejects_iff rfl rfl rfl created (taskIn 77)
    (show (connectTo (inetAddr 8 8 8 8)).family = afInet from rfl) true
  have denied : offlineEngine.evalNetworkEgress "strict_python" (inetAddr 8 8 8 8) = false := by decide
  have other : inetAddr 8 8 8 8 ≠ metadataIp := by decide
  intro agree
  exact other (rejected.mp (agree.mpr denied))

/-! What success promises. -/

/-- The named policy is registered, Firecracker's process is in the sandbox's cgroup, that
cgroup is monitored and every number the policy blocks is blocked. -/
def Secured (host : Host) (config : SandboxConfig) : Prop :=
  ∃ loader ∈ host.ebpfLoader, ∃ engine ∈ host.policyEngine,
    ∃ policy ∈ engine.getPolicy config.securityPolicyName,
      (∃ entry ∈ host.sandboxes.lookup config.sandboxId,
        ∃ child ∈ host.children.lookup entry.firecrackerPid, child.joined = true) ∧
      loader.monitored (host.getCgroupId config.sandboxId) = some 1 ∧
      ∀ n ∈ policy.syscallRule.blockedSyscalls, loader.policyOf n = some 1

section
variable {host after : Host} {config : SandboxConfig} {env : CreateEnv} {loader : EBPFLoader}
  {engine : PolicyEngine}

theorem created_joined (created : (createSandbox .plain config env).ends host = (.returned .success, after)) :
    (∃ entry ∈ after.sandboxes.lookup config.sandboxId,
      ∃ child ∈ after.children.lookup entry.firecrackerPid, child.joined = true) ↔
      env.attach.opens = true ∧ env.attach.accepts = true := by
  obtain ⟨-, work, -, rfl⟩ := createSandbox_success created
  simp [completed, Host.register, Host.policed, withChild, ready, forkedEntry, tapEntry, newEntry, bootedChild,
    spawnedChild]

/-- Success keeps its promise if and only if the policy is known, the kernel takes the process
into the cgroup, and each map entry is accepted or was there before. -/
theorem created_secured_iff (loaded : host.ebpfLoader = some loader) (present : host.policyEngine = some engine)
    (created : (createSandbox .plain config env).ends host = (.returned .success, after)) :
    Secured after config ↔
      ∃ policy ∈ engine.getPolicy config.securityPolicyName,
        (env.attach.opens = true ∧ env.attach.accepts = true) ∧
        (env.bpf.monitored = true ∧ loader.MonitorRoom env.cgroup.inode ∨
          loader.monitored env.cgroup.inode = some 1) ∧
        ∀ n ∈ policy.syscallRule.blockedSyscalls,
          env.bpf.syscall n = true ∧ loader.SyscallRoom n ∨ loader.policyOf n = some 1 := by
  obtain ⟨maps, cgroup⟩ := created_loader loaded present created
  have same : after.policyEngine = some engine := by
    obtain ⟨-, work, traced, rfl⟩ := createSandbox_success created
    obtain ⟨files, touched, sent, rfl⟩ := traced.frame
    exact present
  unfold Secured
  rw [created_joined created, cgroup, maps, same]
  simp only [Option.mem_def, Option.some.injEq, exists_eq_left', monitored_enforced, policyOf_enforced]
  refine exists_congr fun policy => and_congr_right fun registered => and_congr_right fun _ => and_congr ?_ ?_
  · by_cases accepted : env.bpf.monitored = true ∧ loader.MonitorRoom env.cgroup.inode
    · simp [accepted]
    · simp [accepted]
  · refine forall₂_congr fun n blocked => ?_
    have listed : ∃ rules, engine.getPolicy config.securityPolicyName = some rules ∧
        n ∈ rules.syscallRule.blockedSyscalls := ⟨policy, registered, blocked⟩
    by_cases accepted : env.bpf.syscall n = true ∧ loader.SyscallRoom n
    · simp [listed, accepted]
    · simp [accepted]

end

/-- With sys_filter freshly loaded and every answer favourable, the demo sandbox is secured. -/
theorem demo_secured :
    ∃ after, (createSandbox .plain demoConfig (smoothEnv 77)).ends (bareHost (some sysFilterLoader) (some .init)) =
      (.returned .success, after) ∧ Secured after demoConfig := by
  obtain ⟨after, created, -⟩ := demo_creates sysFilterLoader .init
  refine ⟨after, created, (created_secured_iff rfl rfl created).mpr ?_⟩
  refine ⟨strictPython, strictPython_registered, ⟨rfl, rfl⟩, .inl ⟨rfl, by decide⟩, ?_⟩
  exact fun n blocked => .inl ⟨rfl, rfl, strictPython_in_range n blocked⟩

/-- A loader that never loaded an object refuses every update, and creation reports success. -/
theorem unloaded_not_secured :
    ∃ after, (createSandbox .plain demoConfig (smoothEnv 77)).ends (bareHost (some {}) (some .init)) =
      (.returned .success, after) ∧ ¬ Secured after demoConfig := by
  obtain ⟨after, created, cgroup⟩ := demo_creates {} .init
  obtain ⟨maps, -⟩ := created_loader rfl rfl created
  refine ⟨after, created, ?_⟩
  rintro ⟨loader, loaded, -, -, -, -, -, monitored, -⟩
  rw [maps] at loaded
  cases loaded
  rw [monitored_enforced, show after.getCgroupId demoConfig.sandboxId = 77 from cgroup] at monitored
  revert monitored
  decide

end Aegis.Runtime
