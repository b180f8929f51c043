import Aegis.Ebpf.Settings
import Aegis.Policy.Readings
import Aegis.Runtime.Threads

/-! What the kernel filters do after the manager and the engine have been called by several
threads.

A request is, for the kernel, a list of map updates. The maps after a run are the maps before
it with the updates of the log made in order, and the filters follow them.
-/

set_option autoImplicit false

namespace Aegis.Runtime
open Library Ebpf Policy

/-- The updates of a creation that has booted its sandbox. -/
def policyUpdates (cgroupId : UInt64) (policy : Option SecurityPolicy) (env : BpfEnv) : List MapUpdate :=
  .cgroupMonitored env.monitored cgroupId true ::
    match policy with
    | some rules =>
        rules.syscallRule.blockedSyscalls.map (fun n => .syscallPolicy (env.syscall n) n 1) ++
          if rules.networkRule.blockCloudMetadata then [.blockedIp env.blockedIp metadataIp true] else []
    | none => []

theorem updated_append (first second : List MapUpdate) (loader : EBPFLoader) :
    updated (first ++ second) loader = updated second (updated first loader) :=
  runs_append first second loader

theorem updated_blocking (granted : UInt32 → Bool) (numbers : List UInt32) (loader : EBPFLoader) :
    updated (numbers.map fun n => .syscallPolicy (granted n) n 1) loader = blocking granted numbers loader := by
  induction numbers generalizing loader with
  | nil => rfl
  | cons n rest ih => exact ih _

theorem updated_policyUpdates (cgroupId : UInt64) (policy : Option SecurityPolicy) (env : BpfEnv)
    (loader : EBPFLoader) :
    updated (policyUpdates cgroupId policy env) loader = enforced cgroupId policy env loader := by
  cases policy with
  | none => rfl
  | some rules =>
    change updated (_ ++ _) (loader.setCgroupMonitored env.monitored cgroupId true).2 = pushed rules env _
    rw [updated_append, updated_blocking, pushed]
    split
    · rfl
    · rfl

/-- The creation is answered with Success. -/
def Creates (config : SandboxConfig) (env : CreateEnv) (host : Host) : Prop :=
  (Request.serve (.manager (.create config env)) host).1 = .returned (.manager (.status .success))

instance (config : SandboxConfig) (env : CreateEnv) (host : Host) : Decidable (Creates config env host) :=
  inferInstanceAs (Decidable (_ = _))

def creationUpdates (config : SandboxConfig) (env : CreateEnv) (host : Host) : List MapUpdate :=
  if Creates config env host then
    match host.policyEngine with
    | some engine => policyUpdates env.cgroup.inode (engine.getPolicy config.securityPolicyName) env.bpf
    | none => []
  else []

def terminationUpdates (sandboxId : String) (env : TerminateEnv) (host : Host) : List MapUpdate :=
  if sandboxId ∈ host.sandboxes ∧ 0 < host.getCgroupId sandboxId then
    [.cgroupMonitored env.unmonitor (host.getCgroupId sandboxId) false]
  else []

/-- The map updates the request makes. -/
def Request.updates (host : Host) : Request → List MapUpdate
  | .manager (.create config env) => creationUpdates config env host
  | .manager (.terminate sandboxId env) => terminationUpdates sandboxId env host
  | _ => []

/-- The request is a creation that sets the number to blocked. -/
def Request.Blocks (host : Host) (n : UInt32) : Request → Prop
  | .manager (.create config env) =>
      Creates config env host ∧ ∃ policies ∈ host.policyEngine,
        ∃ rules ∈ policies.getPolicy config.securityPolicyName,
          n ∈ rules.syscallRule.blockedSyscalls ∧ env.bpf.syscall n = true
  | _ => False

section
variable {host : Host}

theorem syscallPolicy_mem_policyUpdates (cgroupId : UInt64) (policy : Option SecurityPolicy) (env : BpfEnv)
    (granted : Bool) (n : UInt32) (value : UInt8) :
    .syscallPolicy granted n value ∈ policyUpdates cgroupId policy env ↔
      value = 1 ∧ ∃ rules ∈ policy, n ∈ rules.syscallRule.blockedSyscalls ∧ env.syscall n = granted := by
  cases policy with
  | none => simp [policyUpdates]
  | some rules =>
    have other : ∀ update ∈ (if rules.networkRule.blockCloudMetadata then
        [MapUpdate.blockedIp env.blockedIp metadataIp true] else []), update ≠ .syscallPolicy granted n value := by
      split
      · simp
      · simp
    simp only [policyUpdates, List.mem_cons, List.mem_append, List.mem_map, reduceCtorEq, false_or,
      MapUpdate.syscallPolicy.injEq, Option.mem_def, Option.some.injEq, exists_eq_left']
    constructor
    · rintro (⟨number, listed, rfl, rfl, rfl⟩ | member)
      · exact ⟨rfl, listed, rfl⟩
      · exact absurd rfl (other _ member)
    · rintro ⟨rfl, listed, rfl⟩
      exact .inl ⟨n, listed, rfl, rfl, rfl⟩

theorem syscallPolicy_mem_updates (request : Request) (n : UInt32) :
    .syscallPolicy true n 1 ∈ request.updates host ↔ request.Blocks host n := by
  have creation (config : SandboxConfig) (env : CreateEnv) :
      .syscallPolicy true n 1 ∈ creationUpdates config env host ↔
        Request.Blocks host n (.manager (.create config env)) := by
    unfold creationUpdates
    by_cases success : Creates config env host
    · cases present : host.policyEngine with
      | none => simp [Request.Blocks, success, present]
      | some engine => simp [Request.Blocks, success, present, syscallPolicy_mem_policyUpdates]
    · simp [Request.Blocks, success]
  have termination (sandboxId : String) (env : TerminateEnv) :
      .syscallPolicy true n 1 ∉ terminationUpdates sandboxId env host := by
    unfold terminationUpdates
    split
    · simp
    · simp
  cases request with
  | engine op => exact iff_of_false List.not_mem_nil id
  | manager op =>
    cases op with
    | create config env => exact creation config env
    | terminate sandboxId env => exact iff_of_false (termination sandboxId env) id
    | execute | metadata | terminateAll => exact iff_of_false List.not_mem_nil id

/-- The update sets a number to blocked or blocks the metadata address, if it is not about a cgroup. -/
def Restricts : MapUpdate → Prop
  | .cgroupMonitored _ _ _ => True
  | .syscallPolicy _ _ value => value = 1
  | .blockedIp _ ipv4 isBlocked => ipv4 = metadataIp ∧ isBlocked = true

theorem policyUpdates_restrict {cgroupId : UInt64} {policy : Option SecurityPolicy} {env : BpfEnv} {update : MapUpdate}
    (made : update ∈ policyUpdates cgroupId policy env) : Restricts update := by
  rcases List.mem_cons.mp made with rfl | pushed
  · trivial
  · cases policy with
    | none => cases pushed
    | some rules =>
      rcases List.mem_append.mp pushed with number | address
      · obtain ⟨n, -, rfl⟩ := List.mem_map.mp number
        rfl
      · split at address
        · cases List.mem_singleton.mp address
          exact ⟨rfl, rfl⟩
        · cases address

/-- No request takes back what another has blocked. -/
theorem updates_restrict {request : Request} {update : MapUpdate} (made : update ∈ request.updates host) :
    Restricts update := by
  have creation (config : SandboxConfig) (env : CreateEnv) (made : update ∈ creationUpdates config env host) :
      Restricts update := by
    unfold creationUpdates at made
    split at made
    · split at made
      · exact policyUpdates_restrict made
      · cases made
    · cases made
  have termination (sandboxId : String) (env : TerminateEnv) (made : update ∈ terminationUpdates sandboxId env host) :
      Restricts update := by
    unfold terminationUpdates at made
    split at made
    · cases List.mem_singleton.mp made
      trivial
    · cases made
  cases request with
  | engine op => cases made
  | manager op =>
    cases op with
    | create config env => exact creation config env made
    | terminate sandboxId env => exact termination sandboxId env made
    | execute | metadata | terminateAll => cases made

theorem Restricts.policy {update : MapUpdate} (restricts : Restricts update) {n : UInt32} {value : UInt8}
    (sets : update.policy n = some value) : value = 1 := by
  cases update with
  | cgroupMonitored | blockedIp => cases sets
  | syscallPolicy granted other set =>
    simp only [MapUpdate.policy, Option.ite_none_right_eq_some, Option.some.injEq] at sets
    exact sets.2.symm.trans restricts

theorem Restricts.blocking {update : MapUpdate} (restricts : Restricts update) {ipv4 : UInt32} {value : Bool}
    (sets : update.blocking ipv4 = some value) : ipv4 = metadataIp := by
  cases update with
  | cgroupMonitored | syscallPolicy => cases sets
  | blockedIp granted other set =>
    simp only [MapUpdate.blocking, Option.ite_none_right_eq_some, Option.some.injEq] at sets
    exact sets.1.trans restricts.1

theorem creates_iff (free : host.lockDepth = 0) (config : SandboxConfig) (env : CreateEnv) :
    Creates config env host ↔ Completed host config env := by
  constructor
  · intro success
    have ends : (call (.create config env)).ends host =
        (((createSandbox .plain config env).ends host).1.map Answer.status,
          ((createSandbox .plain config env).ends host).2) := Proc.ends_map _ host
    change ((call (.create config env)).ends host).1.map Reply.manager = _ at success
    rw [ends] at success
    rcases created : (createSandbox .plain config env).ends host with ⟨outcome, after⟩
    rw [created] at success
    cases outcome with
    | threw | blocked => cases success
    | returned status =>
      cases success
      exact (createSandbox_success created).1
  · intro complete
    obtain ⟨work, traced, ends⟩ := create_completes free complete
    change ((call (.create config env)).ends host).1.map Reply.manager = _
    rw [ends]
    rfl

theorem map_updated_nil (loader : Option EBPFLoader) : loader.map (updated []) = loader :=
  congrFun (Option.map_id_fun) loader

theorem create_updates (free : host.lockDepth = 0) (config : SandboxConfig) (env : CreateEnv) :
    ((call (.create config env)).ends host).2.ebpfLoader =
      host.ebpfLoader.map (updated (creationUpdates config env host)) := by
  unfold creationUpdates
  by_cases complete : Completed host config env
  · rw [if_pos ((creates_iff free config env).mpr complete)]
    obtain ⟨work, traced, ends⟩ := create_completes free complete
    have frame : work.ebpfLoader = host.ebpfLoader ∧ work.policyEngine = host.policyEngine := by
      obtain ⟨files, touched, sent, rfl⟩ := traced.frame
      exact ⟨rfl, rfl⟩
    rw [ends]
    cases present : host.policyEngine with
    | none => exact (completed_bare (.inr (frame.2.trans present))).trans (frame.1.trans (map_updated_nil _).symm)
    | some engine =>
      cases loaded : host.ebpfLoader with
      | none => exact (completed_bare (.inl (frame.1.trans loaded))).trans (frame.1.trans loaded)
      | some loader =>
        rw [completed_loader (frame.1.trans loaded) (frame.2.trans present), Option.map_some, updated_policyUpdates]
  · rw [if_neg fun success => complete ((creates_iff free config env).mp success), map_updated_nil]
    exact (create_unapplied free complete).ebpfLoader

theorem terminate_updates (free : host.lockDepth = 0) (sandboxId : String) (env : TerminateEnv) :
    ((call (.terminate sandboxId env)).ends host).2.ebpfLoader =
      host.ebpfLoader.map (updated (terminationUpdates sandboxId env host)) := by
  unfold terminationUpdates
  obtain ⟨status, after, ends, ⟨unknown, rfl⟩ | ⟨entry, files, found, rfl⟩⟩ := terminate_ends free sandboxId env
  · rw [ends, if_neg fun known => unknown known.1, map_updated_nil]
  · have known : sandboxId ∈ host.sandboxes := Finmap.mem_of_lookup_eq_some found
    rw [ends]
    change host.unmonitored sandboxId env.unmonitor = _
    unfold Host.unmonitored
    by_cases valid : 0 < host.getCgroupId sandboxId
    · simp only [known, valid, and_self, if_true]
      rfl
    · rw [if_neg fun both => valid both.2]
      simp only [valid, if_false]
      rfl

theorem serve_updates (free : host.lockDepth = 0) (op : ManagerOp) :
    (Request.serve (.manager op) host).2.ebpfLoader =
      host.ebpfLoader.map (updated (Request.updates host (.manager op))) := by
  have quiet (still : op.op.Quiet) : ((call op.op).ends host).2.ebpfLoader = host.ebpfLoader.map (updated []) := by
    obtain ⟨answer, after, ends, shrinks, -⟩ := quiet_ends free still
    rw [ends, map_updated_nil]
    exact shrinks.ebpfLoader
  cases op with
  | create config env => exact create_updates free config env
  | terminate sandboxId env => exact terminate_updates free sandboxId env
  | execute | metadata | terminateAll => exact quiet trivial

theorem serve_policyEngine (free : host.lockDepth = 0) (op : ManagerOp) :
    (Request.serve (.manager op) host).2.policyEngine = host.policyEngine := by
  have idle : Unlocked host.policyEngine.isSome host := ⟨free, rfl⟩
  have tame : Code.Tame enginePart true (do
      let answer ← op.code host.policyEngine.isSome
      pure (Reply.manager answer)) := .bind_blind (op.code_tame _) fun _ => trivial
  change enginePart.get (Request.serve (.manager op) host).2 = _
  rw [serve_held rfl idle, engine_leave, tame.get_ends]
  rfl

end

section
variable {T : Type}

/-- The updates of the requests, each in the host the requests before it leave. -/
def updatesOf : List (T × Request) → Host → List MapUpdate
  | [], _ => []
  | (_, request) :: rest, host => request.updates host ++ updatesOf rest (request.serve host).2

theorem mem_updatesOf_iff (log : List (T × Request)) (host : Host) (update : MapUpdate) :
    update ∈ updatesOf log host ↔ ∃ before t request after, log = before ++ (t, request) :: after ∧
      update ∈ request.updates (replay Request.serve before host) := by
  induction log generalizing host with
  | nil => simp [updatesOf]
  | cons entry rest ih =>
    obtain ⟨t, request⟩ := entry
    rw [updatesOf, List.mem_append, ih]
    constructor
    · rintro (here | ⟨before, u, later, after, rfl, member⟩)
      · exact ⟨[], t, request, rest, rfl, here⟩
      · exact ⟨(t, request) :: before, u, later, after, rfl, member⟩
    · rintro ⟨before, u, later, after, log, member⟩
      cases before with
      | nil =>
        cases log
        exact .inl member
      | cons first before =>
        cases log
        exact .inr ⟨before, u, later, after, rfl, member⟩

/-- The maps after the log are the maps before it with the updates of the log. -/
theorem replay_updates {attached : Bool} (log : List (T × Request)) (host : Host)
    (orderly : (sandboxSystem attached).Orderly log host) :
    (replay Request.serve log host).ebpfLoader = host.ebpfLoader.map (updated (updatesOf log host)) := by
  induction log generalizing host with
  | nil => exact (map_updated_nil _).symm
  | cons entry rest ih =>
    obtain ⟨t, request⟩ := entry
    obtain ⟨here, later⟩ := orderly
    have step : (request.serve host).2.ebpfLoader = host.ebpfLoader.map (updated (request.updates host)) := by
      cases request with
      | engine op => exact (map_updated_nil _).symm
      | manager op => exact serve_updates (here _ rfl).1 op
    have both : updated (updatesOf ((t, request) :: rest) host) =
        updated (updatesOf rest (request.serve host).2) ∘ updated (request.updates host) :=
      funext fun loader => updated_append _ _ loader
    rw [both, ← Option.map_map, ← step]
    exact ih _ later

theorem updatesOf_restrict {log : List (T × Request)} {host : Host} {update : MapUpdate}
    (member : update ∈ updatesOf log host) : Restricts update := by
  obtain ⟨before, t, request, after, -, made⟩ := (mem_updatesOf_iff log host update).mp member
  exact updates_restrict made

end

theorem setting_of_successful {V : Type} {setting : MapUpdate → Option V} {update : MapUpdate} {loader : EBPFLoader}
    {value : V} (written : successful setting update loader = some value) : setting update = some value := by
  unfold successful at written
  split at written
  · exact written
  · cases written

/-- When every number that is set is set to blocked, one stands blocked once it has been set. -/
theorem lastSuccessful_policy_iff {updates : List MapUpdate} {loader : EBPFLoader} {n : UInt32}
    (present : loader.syscallMap.isSome)
    (restricts : ∀ update ∈ updates, Restricts update) :
    lastSuccessful (·.policy n) updates loader = some 1 ↔
      n.toNat < 512 ∧ .syscallPolicy true n 1 ∈ updates := by
  induction updates generalizing loader with
  | nil => simp [lastSuccessful, lastWrite]
  | cons update rest ih =>
    have later : (update.apply loader).2.syscallMap.isSome := by
      cases update with
      | cgroupMonitored | blockedIp => simpa [MapUpdate.apply] using present
      | syscallPolicy => simpa [MapUpdate.apply, EBPFLoader.syscallMap_setSyscallPolicy] using present
    have step := ih later fun update member => restricts update (List.mem_cons_of_mem _ member)
    have here : successful (·.policy n) update loader = some 1 ↔
        n.toNat < 512 ∧ MapUpdate.syscallPolicy true n 1 = update := by
      cases update with
      | cgroupMonitored | blockedIp => simp [successful, MapUpdate.policy]
      | syscallPolicy granted other value =>
        simp only [successful, MapUpdate.apply, MapUpdate.policy, EBPFLoader.setSyscallPolicy_success_iff,
          EBPFLoader.SyscallRoom, present, Option.ite_none_right_eq_some, Option.some.injEq,
          MapUpdate.syscallPolicy.injEq]
        constructor
        · rintro ⟨⟨rfl, -, bound⟩, rfl, rfl⟩
          exact ⟨bound, rfl, rfl, rfl⟩
        · rintro ⟨bound, rfl, rfl, rfl⟩
          exact ⟨⟨rfl, trivial, bound⟩, rfl, rfl⟩
    rw [List.mem_cons, and_or_left, ← here, ← step]
    change (lastSuccessful (·.policy n) rest (update.apply loader).2).or (successful (·.policy n) update loader) = _ ↔ _
    cases last : lastSuccessful (·.policy n) rest (update.apply loader).2 with
    | none => simp
    | some value =>
      obtain ⟨set, member, reached, written⟩ := lastWrite_eq_some last
      have one : value = 1 := (restricts set (List.mem_cons_of_mem _ member)).policy (setting_of_successful written)
      simp [one]

section
variable {T : Type}

theorem replay_sigkills_iff {attached : Bool} {log : List (T × Request)} {host : Host} {loader : EBPFLoader}
    (loaded : host.ebpfLoader = some loader) (fresh : loader.bpfObj.bind (·.sysFilter) = some .fresh)
    (orderly : (sandboxSystem attached).Orderly log host) (task : Task) (id : UInt64) (reserved : Bool) :
    (replay Request.serve log host).sigkills task id reserved = true ↔
      lastSuccessful (·.monitoring task.cgroupId) (updatesOf log host) loader = some true ∧
        id.toUInt32.toNat < 512 ∧ ∃ before t request after, log = before ++ (t, request) :: after ∧
          request.Blocks (replay Request.serve before host) id.toUInt32 := by
  obtain ⟨-, array⟩ := loader.fresh_monitored fresh
  have present : loader.syscallMap.isSome := by
    rw [array]
    rfl
  rw [Host.sigkills, replay_updates log host orderly, loaded, Option.map_some, Option.any_some,
    sigkills_updated_iff fresh, lastSuccessful_policy_iff present fun _ => updatesOf_restrict, mem_updatesOf_iff]
  simp only [syscallPolicy_mem_updates]

variable [DecidableEq T]

/-- After any run of the threads a task is killed on a call exactly if its cgroup was last set to
monitored and some creation before has pushed the number, for whichever sandbox. -/
theorem threads_kill_iff (host : Host) (free : host.lockDepth = 0) (loader : EBPFLoader)
    (loaded : host.ebpfLoader = some loader) (fresh : loader.bpfObj.bind (·.sysFilter) = some .fresh)
    (programs : T → List Request) (schedule : List T) (settled : (host.threads programs schedule).Settled)
    (task : Task) (id : UInt64) (reserved : Bool) :
    (host.threads programs schedule).state.sigkills task id reserved = true ↔
      lastSuccessful (·.monitoring task.cgroupId) (updatesOf (host.threads programs schedule).log host) loader =
          some true ∧
        id.toUInt32.toNat < 512 ∧ ∃ before t request after,
          (host.threads programs schedule).log = before ++ (t, request) :: after ∧
            request.Blocks (replay Request.serve before host) id.toUInt32 := by
  have linear := threads_linear free programs schedule
  rw [(linear.settled settled).1]
  exact replay_sigkills_iff loaded fresh linear.orderly task id reserved

end

/-- The policy is replaced once the sandbox is there. -/
def replacingPrograms : Bool → List Request
  | false => [.manager (.create demoConfig (smoothEnv 77))]
  | true => [.engine (.store (.registerPolicy { policyName := "strict_python" }))]

def replacingSchedule : List Bool := .replicate 60 false ++ .replicate 3 true

set_option maxRecDepth 8000 in
theorem replaced_policy_still_kills : (policedHost.threads replacingPrograms replacingSchedule).Settled ∧
    ∃ before t request after,
      (policedHost.threads replacingPrograms replacingSchedule).log = before ++ (t, request) :: after ∧
        request.Blocks (replay Request.serve before policedHost) 101 := by
  have settled : (policedHost.threads replacingPrograms replacingSchedule).Settled := by decide
  have killed : (policedHost.threads replacingPrograms replacingSchedule).state.sigkills (taskIn 77) 101 false =
      true := by
    decide
  have iff := threads_kill_iff policedHost rfl sysFilterLoader rfl rfl replacingPrograms replacingSchedule settled
    (taskIn 77) 101 false
  exact ⟨settled, (iff.mp killed).2.2⟩

section
variable {T : Type} [DecidableEq T]

/-- No run of the threads makes the network filter reject anything but the metadata address. -/
theorem threads_reject_iff (host : Host) (free : host.lockDepth = 0) (loader : EBPFLoader)
    (loaded : host.ebpfLoader = some loader) (fresh : loader.bpfObj.bind (·.netFilter) = some .fresh)
    (programs : T → List Request) (schedule : List T) (settled : (host.threads programs schedule).Settled)
    (task : Task) (ctx : SockAddr) (inet : ctx.family = afInet) (reserved : Bool) :
    (host.threads programs schedule).state.rejects task ctx reserved = true ↔ ctx.userIp4 = metadataIp := by
  have linear := threads_linear free programs schedule
  have maps := replay_updates _ host linear.orderly
  rw [Host.rejects, (linear.settled settled).1]
  change (replay Request.serve _ host).ebpfLoader.any _ = true ↔ _
  rw [maps, loaded, Option.map_some, Option.any_some, rejects_updated_iff fresh _ task inet]
  refine or_iff_left_of_imp fun blocked => ?_
  obtain ⟨update, member, reached, written⟩ := lastWrite_eq_some blocked
  exact (updatesOf_restrict member).blocking (setting_of_successful written)

end

/-- The policy blocks all egress, and the network filter is loaded. -/
def filteredHost : Host := bareHost (some netFilterLoader) (some offlineEngine)

set_option maxRecDepth 8000 in
theorem offline_tenant_connects : (filteredHost.threads racingPrograms racingSchedule).Settled ∧
    (filteredHost.threads racingPrograms racingSchedule).state.rejects (taskIn 77) (connectTo 0x08080808) false =
      false := by
  have settled : (filteredHost.threads racingPrograms racingSchedule).Settled := by decide
  have iff := threads_reject_iff filteredHost rfl netFilterLoader rfl rfl racingPrograms racingSchedule settled
    (taskIn 77) (connectTo 0x08080808) rfl false
  exact ⟨settled, Bool.eq_false_iff.mpr fun rejected => absurd (iff.mp rejected) (by decide)⟩

/-! From the text of a policy file to the kernel. -/

theorem resolved_in_range {sysName : String} {n : UInt32} (resolved : resolveSyscallName sysName = some n) :
    n.toNat < 512 := by
  have checked : syscallNameMap.all (fun entry => entry.2.toNat < 512) = true := by decide +kernel
  obtain ⟨first, last, split, -⟩ := List.lookup_eq_some_iff.mp resolved
  have member : (sysName, n) ∈ syscallNameMap := by rw [split]; simp
  exact of_decide_eq_true (List.all_eq_true.mp checked _ member)

theorem lists_in_range {key : String} {content : List Char} {n : UInt32} (listed : Lists key content n) :
    n.toNat < 512 := by
  obtain ⟨body, -, run, -, resolved⟩ := listed
  exact resolved_in_range resolved

section
variable {T : Type}

/-- The call stores nothing under the name. -/
def Request.Spares (policyName : String) (request : Request) : Prop :=
  ∀ op, request = .engine (.store op) → ∀ policy ∈ op.record, policy.policyName ≠ policyName

theorem wrote_of_spares {policyName : String} {op : PolicyOp}
    (spares : Request.Spares policyName (.engine (.store op))) (engine : PolicyEngine) :
    wrote policyName op engine = none := by
  unfold wrote
  split
  · cases record : op.record with
    | none => rfl
    | some policy => simp [Option.filter, spares op rfl policy record]
  · rfl

theorem serve_getPolicy {policyName : String} {request : Request} {host : Host}
    (spares : request.Spares policyName) (free : ∀ op, request = .manager op → host.lockDepth = 0) :
    (request.serve host).2.policyEngine.bind (·.getPolicy policyName) =
      host.policyEngine.bind (·.getPolicy policyName) := by
  cases request with
  | manager op => rw [serve_policyEngine (free op rfl) op]
  | engine op =>
    change (op.action host.policyEngine).2.bind _ = _
    cases host.policyEngine with
    | none => rfl
    | some engine =>
      cases op with
      | getPolicy | evalSyscall | evalNetworkEgress => rfl
      | store op =>
        change (policyStep op engine).getPolicy policyName = _
        rw [getPolicy_policyStep, wrote_of_spares spares, Option.none_or]
        rfl

theorem replay_getPolicy {attached : Bool} {policyName : String} (log : List (T × Request)) (host : Host)
    (orderly : (sandboxSystem attached).Orderly log host) (spares : ∀ entry ∈ log, entry.2.Spares policyName) :
    (replay Request.serve log host).policyEngine.bind (·.getPolicy policyName) =
      host.policyEngine.bind (·.getPolicy policyName) := by
  induction log generalizing host with
  | nil => rfl
  | cons entry rest ih =>
    obtain ⟨t, request⟩ := entry
    obtain ⟨here, later⟩ := orderly
    have free : ∀ op, request = .manager op → host.lockDepth = 0 := by
      rintro op rfl
      exact (here _ rfl).1
    rw [← serve_getPolicy (spares _ List.mem_cons_self) free]
    exact ih _ later fun entry member => spares entry (List.mem_cons_of_mem _ member)

def Request.load (yamlPath : Path) (file : YamlFile) : Request := .engine (.store (.loadFromYaml yamlPath file))

/-- What a load that is answered with Success leaves in the engine. -/
theorem serve_loaded {yamlPath : Path} {file : YamlFile} {host : Host}
    (stored : ((Request.load yamlPath file).serve host).1 =
      .returned (.status .success)) :
    ∃ policy, Reading yamlPath file.content policy ∧
      ((Request.load yamlPath file).serve host).2.policyEngine.bind
        (·.getPolicy policy.policyName) = some policy := by
  change ((EngineOp.store (.loadFromYaml yamlPath file)).action host.policyEngine).1 = _ at stored
  change ∃ policy, _ ∧ ((EngineOp.store (.loadFromYaml yamlPath file)).action host.policyEngine).2.bind _ = _
  cases present : host.policyEngine with
  | none =>
    rw [present] at stored
    cases stored
  | some engine =>
    rw [present] at stored
    rcases ends : (loadFromYaml yamlPath file).ends engine with ⟨outcome, after⟩
    have answer : ((loadFromYaml yamlPath file).ends engine).1.map Reply.status = .returned (.status .success) := stored
    rw [ends] at answer
    cases outcome with
    | threw | blocked => cases answer
    | returned status =>
      cases answer
      obtain ⟨policy, parsed, rfl⟩ := loadFromYaml_success ends
      refine ⟨policy, yamlPolicy_reading parsed, ?_⟩
      change ((loadFromYaml yamlPath file).ends engine).2.getPolicy policy.policyName = _
      rw [ends, getPolicy_put]
      simp [Option.filter]

variable [DecidableEq T]

/-- A policy file is loaded by one thread and a sandbox is then created under its name by another.
The creation blocks exactly the numbers that the text lists, and from then on these kill the
tasks of all monitored cgroups. -/
theorem loaded_text_kills (host : Host) (free : host.lockDepth = 0) (loader : EBPFLoader)
    (loaded : host.ebpfLoader = some loader) (fresh : loader.bpfObj.bind (·.sysFilter) = some .fresh)
    (programs : T → List Request) (schedule : List T) (settled : (host.threads programs schedule).Settled)
    (before middle after : List (T × Request)) (t u : T) (yamlPath : Path) (file : YamlFile)
    (config : SandboxConfig) (env : CreateEnv)
    (log : (host.threads programs schedule).log = before ++ (t, .load yamlPath file) ::
      (middle ++ (u, .manager (.create config env)) :: after))
    (stored : ((Request.load yamlPath file).serve (replay Request.serve before host)).1 =
      .returned (.status .success))
    (named : NameIs yamlPath file.content config.securityPolicyName)
    (spares : ∀ entry ∈ middle, entry.2.Spares config.securityPolicyName)
    (created : Creates config env (replay Request.serve
      (before ++ (t, .load yamlPath file) :: middle) host))
    (granted : ∀ n, env.bpf.syscall n = true) :
    (∀ n, Request.Blocks (replay Request.serve
        (before ++ (t, .load yamlPath file) :: middle) host) n (.manager (.create config env)) ↔
      Lists "blocked_sys_calls" file.content n) ∧
    ∀ task id reserved, Lists "blocked_sys_calls" file.content id.toUInt32 →
      ((host.threads programs schedule).state.sigkills task id reserved = true ↔
        lastSuccessful (·.monitoring task.cgroupId) (updatesOf (host.threads programs schedule).log host) loader =
          some true) := by
  have linear := threads_linear free programs schedule
  obtain ⟨policy, reading, found⟩ := serve_loaded stored
  have name : policy.policyName = config.securityPolicyName := Settles.unique nameForm_of reading.name named
  have orderly : (sandboxSystem host.policyEngine.isSome).Orderly middle
      (replay Request.serve (before ++ [(t, .load yamlPath file)]) host) := by
    have whole := linear.orderly
    rw [log, List.append_cons, System.orderly_append] at whole
    exact (System.orderly_append _ _ _).mp whole.2 |>.1
  -- the policy the creation reads is the one the load has stored
  have read : (replay Request.serve (before ++ (t, .load yamlPath file) :: middle)
      host).policyEngine.bind (·.getPolicy config.securityPolicyName) = some policy := by
    rw [List.append_cons, replay_append, replay_getPolicy middle _ orderly spares, replay_append, ← name]
    exact found
  have blocks (n : UInt32) : Request.Blocks (replay Request.serve
      (before ++ (t, .load yamlPath file) :: middle) host) n (.manager (.create config env)) ↔
      Lists "blocked_sys_calls" file.content n := by
    obtain ⟨engine, present, registered⟩ := Option.bind_eq_some_iff.mp read
    rw [Request.Blocks, and_iff_right created, present]
    simp [registered, granted, reading.blocked]
  refine ⟨blocks, fun task id reserved listed => ?_⟩
  rw [(linear.settled settled).1]
  refine (replay_sigkills_iff loaded fresh linear.orderly task id reserved).trans (and_iff_left ?_)
  refine ⟨lists_in_range listed, before ++ (t, .load yamlPath file) :: middle, u, .manager (.create config env), after,
    ?_, (blocks _).mpr listed⟩
  rw [log, List.append_assoc]
  rfl

end

def ptraceFile : YamlFile where
  content := "blocked_sys_calls: [ptrace]\n".toList

def ptracePath : Path := ⟨false, ["strict_python.yaml"]⟩

/-- One thread loads the file while the other is creating the sandbox. -/
def loadingPrograms : Bool → List Request
  | false => [.manager (.create demoConfig (smoothEnv 77))]
  | true => [.load ptracePath ptraceFile]

def loadingSchedule : List Bool := .replicate 10 false ++ .replicate 3 true ++ .replicate 50 false

theorem loading_settled : (policedHost.threads loadingPrograms loadingSchedule).Settled := by decide +kernel

theorem eq_of_ownedBy {log : List (Bool × Request)} {first second : Request}
    (order : log.map Prod.fst = [true, false]) (mine : ownedBy true log = [first])
    (yours : ownedBy false log = [second]) : log = [(true, first), (false, second)] := by
  obtain ⟨⟨_, here⟩, rest, rfl, rfl, others⟩ := List.map_eq_cons_iff.mp order
  obtain ⟨⟨_, there⟩, rest, rfl, rfl, ended⟩ := List.map_eq_cons_iff.mp others
  obtain rfl := List.map_eq_nil_iff.mp ended
  obtain rfl : here = first := by simpa [ownedBy] using mine
  obtain rfl : there = second := by simpa [ownedBy] using yours
  rfl

theorem loading_log : (policedHost.threads loadingPrograms loadingSchedule).log =
    [(true, .load ptracePath ptraceFile), (false, .manager (.create demoConfig (smoothEnv 77)))] := by
  have order : (policedHost.threads loadingPrograms loadingSchedule).log.map Prod.fst = [true, false] := by
    decide +kernel
  have owned (t : Bool) :
      ownedBy t (policedHost.threads loadingPrograms loadingSchedule).log = loadingPrograms t := by
    have all := (((threads_linear rfl loadingPrograms loadingSchedule).settled loading_settled).2 t).1
    have done : ((policedHost.threads loadingPrograms loadingSchedule).thread t).pending.isEmpty = true := by
      cases t with
      | false => decide +kernel
      | true => decide +kernel
    rw [List.isEmpty_iff.mp done, List.append_nil] at all
    exact all
  exact eq_of_ownedBy order (owned true) (owned false)

theorem ptrace_listed : Lists "blocked_sys_calls" ptraceFile.content 101 := by
  refine (lists_iff_extract _ _ _).mpr ⟨"ptrace".toList, by decide +kernel, "ptrace".toList, ?_, by decide +kernel⟩
  decide +kernel

theorem ptraceFile_kills : (policedHost.threads loadingPrograms loadingSchedule).Settled ∧
    Request.Blocks (replay Request.serve [(true, .load ptracePath ptraceFile)] policedHost) 101
      (.manager (.create demoConfig (smoothEnv 77))) := by
  have named : NameIs ptracePath ptraceFile.content "strict_python" := by
    have stem : nameOf ptracePath ptraceFile.content = "strict_python" := by decide +kernel
    exact stem ▸ nameOf_settled ptracePath ptraceFile.content
  have created : Creates demoConfig (smoothEnv 77)
      (replay Request.serve [(true, .load ptracePath ptraceFile)] policedHost) := by
    decide +kernel
  have stored : ((Request.load ptracePath ptraceFile).serve
      (replay Request.serve ([] : List (Bool × Request)) policedHost)).1 = .returned (.status .success) := by
    decide +kernel
  have kills := loaded_text_kills policedHost rfl sysFilterLoader rfl rfl loadingPrograms loadingSchedule
    loading_settled [] [] [] true false ptracePath ptraceFile demoConfig (smoothEnv 77) loading_log stored named
    (by simp) created fun _ => rfl
  exact ⟨loading_settled, (kills.1 101).mpr ptrace_listed⟩

end Aegis.Runtime
