import Aegis.Library.Specification
import Aegis.Runtime.Verdicts

/-! What the manager and the engine are for.

A registry knows the live sandboxes by the configuration they were created with and the
policies by name. It has no directories, processes, descriptors or maps. The manager and the
engine, called by any number of threads, answer as the registry does.
-/

set_option autoImplicit false

namespace Aegis.Runtime
open Library Ebpf Policy

structure Registry where
  live : String → Option SandboxConfig
  policies : String → Option SecurityPolicy

namespace Registry

def opened (registry : Registry) (config : SandboxConfig) : Registry :=
  { registry with live := Function.update registry.live config.sandboxId (some config) }

def closed (registry : Registry) (sandboxId : String) : Registry :=
  { registry with live := Function.update registry.live sandboxId none }

def cleared (registry : Registry) : Registry := { registry with live := fun _ => none }

def stored (registry : Registry) (policy : SecurityPolicy) : Registry :=
  { registry with policies := Function.update registry.policies policy.policyName (some policy) }

/-- The id is new and may be used. -/
def Vacant (registry : Registry) (config : SandboxConfig) : Prop :=
  config.sandboxId ≠ "" ∧ registry.live config.sandboxId = none

def AllowsSyscall (registry : Registry) (policyName : String) (syscallNr : UInt32) : Prop :=
  ∃ policy, registry.policies policyName = some policy ∧
    syscallNr ∉ policy.syscallRule.blockedSyscalls ∧
    (syscallNr ∈ policy.syscallRule.allowedSyscalls ∨ policy.syscallRule.defaultAllow = true)

def AllowsEgress (registry : Registry) (policyName : String) (ipv4 : UInt32) : Prop :=
  ∃ policy, registry.policies policyName = some policy ∧
    policy.networkRule.blockAllEgress = false ∧
    ¬ (ipv4 = metadataIp ∧ policy.networkRule.blockCloudMetadata = true) ∧
    ipv4 ∉ policy.networkRule.blockedIpsNetworkOrder

end Registry

/-- The metadata of a running sandbox. -/
def SandboxConfig.metadata (config : SandboxConfig) : SandboxMetadata where
  sandboxId := config.sandboxId
  environment := config.environment
  state := .running
  vcpus := config.resourceLimits.cpuCores
  memoryMb := config.resourceLimits.memoryMb
  vramMb := config.resourceLimits.vramMb
  guestIp := "172.16.0.2"
  tapDeviceName := tapName config.sandboxId

/-- The result of an execution in a live sandbox. -/
def agentResult (sandboxId : String) (env : ExecEnv) : ExecutionResult :=
  if env.connects = true ∧ env.response ≠ [] then
    { sandboxId, stdoutOutput := agentOutput env.response, exitCode := 0 }
  else { sandboxId }

/-- The calls on a registry with their answers. A creation may fail for reasons that the registry
does not know; it then changes nothing. -/
inductive Registry.Step (registry : Registry) : Request → Outcome Reply → Registry → Prop where
  | created {config : SandboxConfig} {env : CreateEnv} (vacant : registry.Vacant config) :
      Step registry (.manager (.create config env)) (.returned (.manager (.status .success))) (registry.opened config)
  | failed {config : SandboxConfig} {env : CreateEnv} {outcome : Outcome Status} (vacant : registry.Vacant config)
      (unsuccessful : outcome ≠ .returned .success) :
      Step registry (.manager (.create config env)) (outcome.map fun status => .manager (.status status)) registry
  | refused {config : SandboxConfig} {env : CreateEnv} (taken : ¬ registry.Vacant config) :
      Step registry (.manager (.create config env)) (.returned (.manager (.status .errInvalidSandboxID))) registry
  | executed {sandboxId codePayload : String} {env : ExecEnv} (known : registry.live sandboxId ≠ none) :
      Step registry (.manager (.execute sandboxId codePayload env))
        (.returned (.manager (.result (agentResult sandboxId env)))) registry
  | unexecuted {sandboxId codePayload : String} {env : ExecEnv} (unknown : registry.live sandboxId = none) :
      Step registry (.manager (.execute sandboxId codePayload env))
        (.returned (.manager (.result { sandboxId, stderrOutput := "Error: Invalid or inactive sandbox ID." }))) registry
  | terminated {sandboxId : String} {env : TerminateEnv} (known : registry.live sandboxId ≠ none) :
      Step registry (.manager (.terminate sandboxId env)) (.returned (.manager (.status .success)))
        (registry.closed sandboxId)
  | unterminated {sandboxId : String} {env : TerminateEnv} (unknown : registry.live sandboxId = none) :
      Step registry (.manager (.terminate sandboxId env)) (.returned (.manager (.status .errInvalidSandboxID))) registry
  | metadata {sandboxId : String} :
      Step registry (.manager (.metadata sandboxId))
        (.returned (.manager (.metadata ((registry.live sandboxId).map SandboxConfig.metadata)))) registry
  | cleared {env : TerminateAllEnv} :
      Step registry (.manager (.terminateAll env)) (.returned (.manager .done)) registry.cleared
  | stored {op : PolicyOp} {policy : SecurityPolicy} (record : op.record = some policy) :
      Step registry (.engine (.store op)) (.returned (.status .success)) (registry.stored policy)
  | unstored {op : PolicyOp} {outcome : Outcome Status} (unsuccessful : outcome ≠ .returned .success) :
      Step registry (.engine (.store op)) (outcome.map Reply.status) registry
  | policy {policyName : String} :
      Step registry (.engine (.getPolicy policyName)) (.returned (.policy (registry.policies policyName))) registry
  | syscall {policyName : String} {syscallNr : UInt32} {allowed : Bool}
      (verdict : allowed = true ↔ registry.AllowsSyscall policyName syscallNr) :
      Step registry (.engine (.evalSyscall policyName syscallNr)) (.returned (.verdict allowed)) registry
  | egress {policyName : String} {ipv4 : UInt32} {allowed : Bool}
      (verdict : allowed = true ↔ registry.AllowsEgress policyName ipv4) :
      Step registry (.engine (.evalNetworkEgress policyName ipv4)) (.returned (.verdict allowed)) registry

/-- The registry is what the tables of the host say. -/
structure Registry.Describes (registry : Registry) (host : Host) : Prop where
  live : ∀ id, registry.live id = (host.sandboxes.lookup id).map (·.config)
  running : ∀ id entry, host.sandboxes.lookup id = some entry →
    entry.isActive = true ∧ entry.metadata = entry.config.metadata
  engine : ∃ engine, host.policyEngine = some engine ∧ ∀ name, registry.policies name = engine.getPolicy name

section
variable {registry : Registry} {host after : Host}

/-- Only the tables count. -/
theorem Registry.Describes.congr (describes : registry.Describes host) (sandboxes : after.sandboxes = host.sandboxes)
    (engine : after.policyEngine = host.policyEngine) : registry.Describes after where
  live := by rw [sandboxes]; exact describes.live
  running := by rw [sandboxes]; exact describes.running
  engine := by rw [engine]; exact describes.engine

theorem Registry.Describes.mem_iff (describes : registry.Describes host) (id : String) :
    id ∈ host.sandboxes ↔ registry.live id ≠ none := by
  rw [describes.live, ne_eq, Option.map_eq_none_iff, Finmap.lookup_eq_none, not_not]

theorem Registry.Describes.admitted_iff (describes : registry.Describes host) (config : SandboxConfig) :
    Admitted host config ↔ registry.Vacant config := by
  rw [Admitted, Registry.Vacant, describes.mem_iff, not_not]

theorem Registry.Describes.opened (describes : registry.Describes host) {config : SandboxConfig}
    {entry : SandboxInstance} (same : entry.config = config) (active : entry.isActive = true)
    (metadata : entry.metadata = config.metadata)
    (sandboxes : after.sandboxes = host.sandboxes.insert config.sandboxId entry)
    (engine : after.policyEngine = host.policyEngine) : (registry.opened config).Describes after where
  live id := by
    rw [sandboxes]
    by_cases here : id = config.sandboxId
    · subst here
      simp [Registry.opened, same]
    · simp [Registry.opened, here, Finmap.lookup_insert_of_ne _ here, describes.live]
  running id found lookup := by
    rw [sandboxes] at lookup
    by_cases here : id = config.sandboxId
    · subst here
      rw [Finmap.lookup_insert] at lookup
      cases lookup
      exact ⟨active, same ▸ metadata⟩
    · rw [Finmap.lookup_insert_of_ne _ here] at lookup
      exact describes.running id found lookup
  engine := by rw [engine]; exact describes.engine

theorem Registry.Describes.closed (describes : registry.Describes host) {sandboxId : String}
    (sandboxes : after.sandboxes = host.sandboxes.erase sandboxId)
    (engine : after.policyEngine = host.policyEngine) : (registry.closed sandboxId).Describes after where
  live id := by
    rw [sandboxes]
    by_cases here : id = sandboxId
    · subst here
      simp [Registry.closed]
    · simp [Registry.closed, here, Finmap.lookup_erase_ne here, describes.live]
  running id found lookup := by
    rw [sandboxes] at lookup
    exact describes.running id found (lookup_of_lookup_erase lookup)
  engine := by rw [engine]; exact describes.engine

theorem Registry.Describes.cleared (describes : registry.Describes host) (sandboxes : after.sandboxes = ∅)
    (engine : after.policyEngine = host.policyEngine) : registry.cleared.Describes after where
  live id := by
    rw [sandboxes]
    simp [Registry.cleared]
  running id found lookup := by
    rw [sandboxes] at lookup
    simp at lookup
  engine := by rw [engine]; exact describes.engine

/-- The request is a step of the registry. -/
def Registry.Follows (registry : Registry) (request : Request) (ended : Outcome Reply × Host) : Prop :=
  ∃ next, registry.Step request ended.1 next ∧ next.Describes ended.2

theorem follows_of_ends {op : ManagerOp} {answer : Answer} {next : Registry}
    (ends : (call op.op).ends host = (.returned answer, after))
    (step : registry.Step (.manager op) (.returned (.manager answer)) next) (describes : next.Describes after) :
    registry.Follows (.manager op) (Request.serve (.manager op) host) := by
  have served : Request.serve (.manager op) host = (.returned (.manager answer), after) := by
    change (((call op.op).ends host).1.map Reply.manager, ((call op.op).ends host).2) = _
    rw [ends]
    rfl
  rw [served]
  exact ⟨next, step, describes⟩

theorem serve_attached {engine : PolicyEngine} (present : host.policyEngine = some engine) (op : EngineOp) :
    Request.serve (.engine op) host = ((op.run engine).1, { host with policyEngine := some (op.run engine).2 }) := by
  change ((op.action host.policyEngine).1, { host with policyEngine := (op.action host.policyEngine).2 }) = _
  rw [present]
  rfl

theorem create_fails (describes : registry.Describes host) (free : host.lockDepth = 0) {config : SandboxConfig}
    {env : CreateEnv} (vacant : registry.Vacant config) (incomplete : ¬ Completed host config env) :
    registry.Follows (.manager (.create config env)) (Request.serve (.manager (.create config env)) host) := by
  have unapplied := create_unapplied free incomplete
  refine ⟨registry, ?_, describes.congr unapplied.sandboxes unapplied.policyEngine⟩
  have ends : (call (.create config env)).ends host =
      (((createSandbox .plain config env).ends host).1.map Answer.status,
        ((createSandbox .plain config env).ends host).2) := Proc.ends_map _ host
  have unsuccessful : ((createSandbox .plain config env).ends host).1 ≠ .returned .success := fun success =>
    incomplete (createSandbox_success (Prod.ext success rfl)).1
  change registry.Step _ (((call (.create config env)).ends host).1.map Reply.manager) _
  rw [ends]
  generalize ((createSandbox .plain config env).ends host).1 = outcome at unsuccessful
  have step : registry.Step (.manager (.create config env)) _ _ := .failed vacant unsuccessful
  cases outcome with
  | returned | threw | blocked => exact step

theorem create_follows (describes : registry.Describes host) (free : host.lockDepth = 0) (config : SandboxConfig)
    (env : CreateEnv) :
    registry.Follows (.manager (.create config env)) (Request.serve (.manager (.create config env)) host) := by
  by_cases admitted : Admitted host config
  · have vacant := (describes.admitted_iff config).mp admitted
    by_cases complete : Completed host config env
    · obtain ⟨work, traced, success⟩ := create_completes free complete
      obtain ⟨files, touched, sent, rfl⟩ := traced.frame
      exact follows_of_ends success (.created vacant) (describes.opened rfl rfl rfl rfl rfl)
    · exact create_fails describes free vacant complete
  · have ends : (call (.create config env)).ends host = (.returned (.status .errInvalidSandboxID), host) :=
      Proc.ends_bind_returned (createSandbox_rejected free admitted env)
    have taken : ¬ registry.Vacant config := fun vacant => admitted ((describes.admitted_iff config).mpr vacant)
    exact follows_of_ends ends (.refused taken) describes

theorem terminate_follows (describes : registry.Describes host) (free : host.lockDepth = 0) (sandboxId : String)
    (env : TerminateEnv) :
    registry.Follows (.manager (.terminate sandboxId env))
      (Request.serve (.manager (.terminate sandboxId env)) host) := by
  cases found : host.sandboxes.lookup sandboxId with
  | none =>
    have unknown : registry.live sandboxId = none := by rw [describes.live, found, Option.map_none]
    have ends : (call (.terminate sandboxId env)).ends host = (.returned (.status .errInvalidSandboxID), host) :=
      Proc.ends_bind_returned (terminateSandbox_missing free found env)
    exact follows_of_ends ends (.unterminated unknown) describes
  | some entry =>
    have known : registry.live sandboxId ≠ none := by simp [describes.live, found]
    obtain ⟨files, wiped⟩ := terminateSandbox_known (.inl free) found env
    have ends : (call (.terminate sandboxId env)).ends host = (.returned (.status .success), _) :=
      Proc.ends_bind_returned wiped
    exact follows_of_ends ends (.terminated known) (describes.closed rfl rfl)

/-- The body of an execution in a sandbox that is there. -/
theorem executeBody_active {host : Host} {sandboxId : String} {entry : SandboxInstance}
    (found : host.sandboxes.lookup sandboxId = some entry) (active : entry.isActive = true) (codePayload : String)
    (env : ExecEnv) :
    ∃ sent, (executeBody sandboxId codePayload env).ends host =
      (.returned (agentResult sandboxId env), { host with sent := sent }) := by
  unfold executeBody agentResult
  rw [Proc.ends_get_bind, found]
  dsimp only
  rw [if_pos active]
  by_cases connects : env.connects = true
  · rw [if_pos connects, Proc.ends_modify_bind, Proc.ends_ite]
    by_cases silent : env.response = []
    · rw [if_pos silent, if_neg fun answered => answered.2 silent]
      exact ⟨_, rfl⟩
    · rw [if_neg silent, if_pos ⟨connects, silent⟩]
      exact ⟨_, rfl⟩
  · rw [if_neg connects, if_neg fun answered => connects answered.1]
    exact ⟨host.sent, rfl⟩

theorem execute_follows (describes : registry.Describes host) (free : host.lockDepth = 0)
    (sandboxId codePayload : String) (env : ExecEnv) :
    registry.Follows (.manager (.execute sandboxId codePayload env))
      (Request.serve (.manager (.execute sandboxId codePayload env)) host) := by
  cases found : host.sandboxes.lookup sandboxId with
  | none =>
    have unknown : registry.live sandboxId = none := by rw [describes.live, found, Option.map_none]
    have ends : (call (.execute sandboxId codePayload env)).ends host = (.returned (.result _), host) :=
      Proc.ends_bind_returned (executeCode_unknown free found codePayload env)
    exact follows_of_ends ends (.unexecuted unknown) describes
  | some entry =>
    have known : registry.live sandboxId ≠ none := by simp [describes.live, found]
    obtain ⟨active, -⟩ := describes.running sandboxId entry found
    have inside : (sandboxMutex.put (sandboxMutex.depth host + 1) host).sandboxes.lookup sandboxId = some entry := found
    obtain ⟨sent, body⟩ := executeBody_active inside active codePayload env
    have ends : (call (.execute sandboxId codePayload env)).ends host =
        (.returned (.result (agentResult sandboxId env)), _) :=
      Proc.ends_bind_returned (sandboxMutex.ends_guard (.inl free) (by simp) body)
    exact follows_of_ends ends (.executed known) (describes.congr rfl rfl)

theorem metadata_follows (describes : registry.Describes host) (free : host.lockDepth = 0) (sandboxId : String) :
    registry.Follows (.manager (.metadata sandboxId)) (Request.serve (.manager (.metadata sandboxId)) host) := by
  have ends : (call (.metadata sandboxId)).ends host = (.returned (.metadata _), host) :=
    Proc.ends_bind_returned (getMetadata_ends free sandboxId)
  have same : (host.sandboxes.lookup sandboxId).map (·.metadata) =
      (registry.live sandboxId).map SandboxConfig.metadata := by
    rw [describes.live]
    cases found : host.sandboxes.lookup sandboxId with
    | none => rfl
    | some entry => exact congrArg some (describes.running sandboxId entry found).2
  rw [same] at ends
  exact follows_of_ends ends .metadata describes

theorem store_follows (describes : registry.Describes host) (op : PolicyOp) :
    registry.Follows (.engine (.store op)) (Request.serve (.engine (.store op)) host) := by
  obtain ⟨engine, present, policies⟩ := describes.engine
  have result := policyCall_result op engine
  rw [serve_attached present]
  change ∃ next, registry.Step _ (((policyCall op).ends engine).1.map Reply.status) next ∧
    next.Describes { host with policyEngine := some ((policyCall op).ends engine).2 }
  generalize (policyCall op).ends engine = ended at result
  cases result with
  | @stored policy record =>
    refine ⟨registry.stored policy, .stored record, describes.live, describes.running, engine.put policy, rfl, ?_⟩
    intro name
    rw [getPolicy_put, ← policies]
    by_cases here : name = policy.policyName
    · subst here
      simp [Registry.stored, Option.filter]
    · have other : policy.policyName ≠ name := fun same => here same.symm
      simp [Registry.stored, Option.filter, here, other]
  | failed unsuccessful =>
    exact ⟨registry, .unstored unsuccessful, describes.live, describes.running, engine, rfl, policies⟩

theorem engine_follows (describes : registry.Describes host) (op : EngineOp) :
    registry.Follows (.engine op) (Request.serve (.engine op) host) := by
  obtain ⟨engine, present, policies⟩ := describes.engine
  have reads {reply : Reply} (unchanged : op.run engine = (.returned reply, engine))
      (step : registry.Step (.engine op) (.returned reply) registry) :
      registry.Follows (.engine op) (Request.serve (.engine op) host) := by
    rw [serve_attached present, unchanged]
    exact ⟨registry, step, describes.live, describes.running, engine, rfl, policies⟩
  cases op with
  | store op => exact store_follows describes op
  | getPolicy policyName => exact reads rfl (policies policyName ▸ .policy)
  | evalSyscall policyName syscallNr =>
    refine reads rfl (.syscall ?_)
    rw [PolicyEngine.evalSyscall_iff, Registry.AllowsSyscall, policies]
  | evalNetworkEgress policyName ipv4 =>
    refine reads rfl (.egress ?_)
    rw [PolicyEngine.evalNetworkEgress_iff, Registry.AllowsEgress, policies]

theorem sandboxSystem_simulates (attached : Bool) :
    (sandboxSystem attached).Simulates Registry.Step Registry.Describes := by
  intro registry host request describes ready
  cases request with
  | engine op => exact engine_follows describes op
  | manager op =>
    have free : host.lockDepth = 0 := (ready _ rfl).1
    cases op with
    | create config env => exact create_follows describes free config env
    | execute sandboxId codePayload env => exact execute_follows describes free sandboxId codePayload env
    | terminate sandboxId env => exact terminate_follows describes free sandboxId env
    | metadata sandboxId => exact metadata_follows describes free sandboxId
    | terminateAll env =>
      obtain ⟨after, ends, shrinks, empty⟩ := terminateAll_ends free env
      have answered : (call (.terminateAll env)).ends host = (.returned .done, after) := Proc.ends_bind_returned ends
      exact follows_of_ends answered .cleared (describes.cleared empty shrinks.policyEngine)

end

/-- No sandboxes, and the policies of the engine. -/
def Registry.start (engine : PolicyEngine) : Registry where
  live _ := none
  policies := engine.getPolicy

section
variable {T : Type} [DecidableEq T]

/-- Whatever the schedule, the threads are given the answers of one registry that serves their
requests one at a time, in the order of the log. -/
theorem threads_refine_registry (host : Host) (fresh : Fresh host) (engine : PolicyEngine)
    (present : host.policyEngine = some engine) (programs : T → List Request) (schedule : List T)
    (settled : (host.threads programs schedule).Settled) :
    ∃ order final, order.map Prod.fst = (host.threads programs schedule).log ∧
      (∀ t, ownedBy t (order.map fun entry => (entry.1.1, entry.2)) =
        ((host.threads programs schedule).thread t).answers) ∧
      Steps Registry.Step order (.start engine) final ∧
      final.Describes (host.threads programs schedule).state := by
  have begins : (Registry.start engine).Describes host := by
    refine ⟨fun id => ?_, fun id entry found => ?_, engine, present, fun _ => rfl⟩
    · simp [fresh.sandboxes, Registry.start]
    · simp [fresh.sandboxes] at found
  exact (threads_linear fresh.free programs schedule).explained settled (sandboxSystem_simulates _) begins

end

set_option maxRecDepth 8000 in
theorem race_refines_registry : Fresh policedHost ∧
    ∃ order final, order.map Prod.fst = (policedHost.threads racingPrograms racingSchedule).log ∧
      Steps Registry.Step order (.start .init) final ∧ final.live "sbx-9f82a1" = none := by
  have fresh : Fresh policedHost := ⟨rfl, rfl, rfl⟩
  have settled : (policedHost.threads racingPrograms racingSchedule).Settled := by decide
  have gone : ((policedHost.threads racingPrograms racingSchedule).state.sandboxes.lookup "sbx-9f82a1").isNone =
      true := by
    decide
  obtain ⟨order, final, calls, -, steps, describes⟩ :=
    threads_refine_registry policedHost fresh .init rfl racingPrograms racingSchedule settled
  refine ⟨fresh, order, final, calls, steps, ?_⟩
  rw [describes.live, Option.isNone_iff_eq_none.mp gone, Option.map_none]

end Aegis.Runtime
