import Aegis.Library.Session
import Aegis.Runtime.Calls
import Aegis.Runtime.Enforcement

/-! Interference through the shared maps.

The monitored map is keyed by cgroup, so a sandbox reaches only its own entry there. The
syscall map is keyed by number alone: the numbers one policy blocks are blocked for every
monitored cgroup from then on. The only address ever pushed is one net_filter rejects by itself.
-/

set_option autoImplicit false

namespace Aegis.Runtime
open Library Ebpf Policy

section
variable {first second : EBPFLoader}

theorem sigkills_congr {task : Task} {id : UInt64}
    (monitored : first.monitored task.cgroupId = second.monitored task.cgroupId)
    (cell : first.policyOf id.toUInt32 = second.policyOf id.toUInt32) (reserved : Bool) :
    first.sigkills task id reserved = second.sigkills task id reserved := by
  rw [Bool.eq_iff_iff, EBPFLoader.sigkills_iff, EBPFLoader.sigkills_iff, monitored, cell]

theorem rejects_congr {ctx : SockAddr} (inet : ctx.family = afInet)
    (loaded : first.ipMap.isSome = second.ipMap.isSome)
    (entry : ctx.userIp4 = metadataIp ∨ first.blocked ctx.userIp4 = second.blocked ctx.userIp4)
    (task : Task) (reserved : Bool) : first.rejects task ctx reserved = second.rejects task ctx reserved := by
  rw [Bool.eq_iff_iff, EBPFLoader.rejects_iff _ _ inet, EBPFLoader.rejects_iff _ _ inet, loaded, metadataIp_eq]
  rcases entry with endpoint | same
  · simp [endpoint]
  · rw [same]

end

/-- sys_filter looks at the calls of the cgroup. -/
def Watches (loader : EBPFLoader) (cgroupId : UInt64) : Prop :=
  ∃ value, loader.monitored cgroupId = some value ∧ value ≠ 0

section
variable (loader : EBPFLoader) {cgroupId : UInt64} (policy : Option SecurityPolicy) (env : BpfEnv) {task : Task}

theorem enforced_rejects {ctx : SockAddr} (inet : ctx.family = afInet) (reserved : Bool) :
    (enforced cgroupId policy env loader).rejects task ctx reserved = loader.rejects task ctx reserved := by
  apply rejects_congr inet (isSome_ipMap_enforced loader cgroupId policy env)
  by_cases endpoint : ctx.userIp4 = metadataIp
  · exact .inl endpoint
  · right
    rw [blocked_enforced, if_neg fun pushed => endpoint pushed.2.1]

/-- Another cgroup sees no difference if and only if it is not monitored or every number that
is pushed was blocked before. -/
theorem enforced_sigkills_iff (other : task.cgroupId ≠ cgroupId) :
    (∀ id reserved, (enforced cgroupId policy env loader).sigkills task id reserved =
        loader.sigkills task id reserved) ↔
      (Watches loader task.cgroupId → ∀ rules ∈ policy, ∀ n ∈ rules.syscallRule.blockedSyscalls,
        env.syscall n = true → loader.SyscallRoom n → loader.policyOf n = some 1) := by
  have monitored : (enforced cgroupId policy env loader).monitored task.cgroupId =
      loader.monitored task.cgroupId := by
    rw [monitored_enforced, if_neg fun pushed => other pushed.1]
  constructor
  -- a number that is pushed is killed on now, so it was before
  · intro same watches rules registered n blocked granted room
    have number : n.toUInt64.toUInt32 = n := UInt32.toUInt32_toUInt64 n
    have now : (enforced cgroupId policy env loader).sigkills task n.toUInt64 true = true := by
      rw [EBPFLoader.sigkills_iff, monitored, policyOf_enforced, number]
      exact ⟨watches, if_pos ⟨⟨rules, registered, blocked⟩, granted, room⟩⟩
    rw [same, EBPFLoader.sigkills_iff, number] at now
    exact now.2
  · intro covered id reserved
    by_cases watches : Watches loader task.cgroupId
    · apply sigkills_congr monitored
      rw [policyOf_enforced]
      by_cases pushed : (∃ rules ∈ policy, id.toUInt32 ∈ rules.syscallRule.blockedSyscalls) ∧
          env.syscall id.toUInt32 = true ∧ loader.SyscallRoom id.toUInt32
      · obtain ⟨⟨rules, registered, blocked⟩, granted, room⟩ := pushed
        rw [if_pos ⟨⟨rules, registered, blocked⟩, granted, room⟩,
          covered watches rules registered _ blocked granted room]
      · rw [if_neg pushed]
    · rw [Bool.eq_iff_iff, EBPFLoader.sigkills_iff, EBPFLoader.sigkills_iff, monitored]
      exact iff_of_false (fun killed => watches killed.1) (fun killed => watches killed.1)

end

/-- No verdict for a task of the cgroup differs. -/
def SameVerdicts (cgroupId : UInt64) (host after : Host) : Prop :=
  ∀ task : Task, task.cgroupId = cgroupId →
    (∀ id reserved, after.sigkills task id reserved = host.sigkills task id reserved) ∧
    ∀ ctx reserved, ctx.family = afInet → after.rejects task ctx reserved = host.rejects task ctx reserved

/-- The cgroup of a live sandbox other than the one the call is about. -/
def Bystander (op : Op) (host : Host) (cgroupId : UInt64) : Prop :=
  ∃ id ∈ host.sandboxes, ∃ info ∈ host.cgroups.lookup id, info.cgroupId = cgroupId ∧
    match op with
    | .create config env => id ≠ config.sandboxId ∧ cgroupId ≠ env.cgroup.inode
    | .terminate sandboxId _ => id ≠ sandboxId ∧ cgroupId ≠ host.getCgroupId sandboxId
    | _ => True

/-- The call changes no verdict for the other live sandboxes. -/
def Isolates (op : Op) (host : Host) : Prop :=
  ∀ cgroupId, Bystander op host cgroupId → SameVerdicts cgroupId host ((call op).ends host).2

/-- A creation that completes while another live sandbox is monitored pushes only numbers that
are blocked already. -/
def Harmless (op : Op) (host : Host) : Prop :=
  match op with
  | .create config env => Completed host config env →
      ∀ loader ∈ host.ebpfLoader, ∀ engine ∈ host.policyEngine,
        (∃ cgroupId, Bystander (.create config env) host cgroupId ∧ Watches loader cgroupId) →
        ∀ rules ∈ engine.getPolicy config.securityPolicyName, ∀ n ∈ rules.syscallRule.blockedSyscalls,
          env.bpf.syscall n = true → loader.SyscallRoom n → loader.policyOf n = some 1
  | _ => True

theorem sameVerdicts_of_loader {host after : Host} (same : after.ebpfLoader = host.ebpfLoader) (cgroupId : UInt64) :
    SameVerdicts cgroupId host after := by
  intro task _
  unfold Host.sigkills Host.rejects
  rw [same]
  exact ⟨fun _ _ => rfl, fun _ _ _ => rfl⟩

/-- A termination reaches only the entry of its own cgroup. -/
theorem unmonitored_sameVerdicts {host after : Host} {sandboxId : String} {granted : Bool}
    (loader : after.ebpfLoader = host.unmonitored sandboxId granted) {cgroupId : UInt64}
    (other : cgroupId ≠ host.getCgroupId sandboxId) : SameVerdicts cgroupId host after := by
  rintro task rfl
  unfold Host.sigkills Host.rejects
  rw [loader]
  unfold Host.unmonitored
  cases host.ebpfLoader with
  | none => exact ⟨fun _ _ => rfl, fun _ _ _ => rfl⟩
  | some loader =>
    simp only [Option.map_some, Option.any_some]
    by_cases valid : 0 < host.getCgroupId sandboxId
    · rw [if_pos valid]
      refine ⟨fun id reserved => ?_, fun ctx reserved inet => ?_⟩
      · apply sigkills_congr
        · rw [EBPFLoader.monitored_setCgroupMonitored, if_neg fun own => other own.1]
        · simp [EBPFLoader.policyOf]
      · apply rejects_congr inet
        · simp
        · simp [EBPFLoader.blocked]
    · rw [if_neg valid]
      exact ⟨fun _ _ => rfl, fun _ _ _ => rfl⟩

theorem completed_sameVerdicts_iff {host : Host} {config : SandboxConfig} {env : CreateEnv} (work : Host)
    {cgroupId : UInt64} (other : cgroupId ≠ env.cgroup.inode)
    (loaded : work.ebpfLoader = host.ebpfLoader) (engine : work.policyEngine = host.policyEngine) :
    SameVerdicts cgroupId host (completed host config env work) ↔
      ∀ loader ∈ host.ebpfLoader, ∀ engine ∈ host.policyEngine, Watches loader cgroupId →
        ∀ rules ∈ engine.getPolicy config.securityPolicyName, ∀ n ∈ rules.syscallRule.blockedSyscalls,
          env.bpf.syscall n = true → loader.SyscallRoom n → loader.policyOf n = some 1 := by
  cases present : host.policyEngine with
  | none =>
    exact iff_of_true (sameVerdicts_of_loader ((completed_bare (.inr (engine.trans present))).trans loaded) cgroupId)
      (by simp)
  | some policies =>
    cases found : host.ebpfLoader with
    | none =>
      exact iff_of_true (sameVerdicts_of_loader ((completed_bare (.inl (loaded.trans found))).trans loaded) cgroupId)
        (by simp)
    | some loader =>
      have maps := @completed_loader host config env work _ _ (loaded.trans found) (engine.trans present)
      simp only [SameVerdicts, Host.sigkills, Host.rejects, maps, found, Option.any_some,
        Option.mem_def, Option.some.injEq, forall_eq']
      constructor
      · intro same watches
        exact (enforced_sigkills_iff loader _ _ other).mp (same (taskIn cgroupId) rfl).1 watches
      · rintro covered task rfl
        exact ⟨(enforced_sigkills_iff loader _ _ other).mpr covered,
          fun ctx reserved inet => enforced_rejects loader _ _ inet reserved⟩

theorem create_isolates_iff {host : Host} (free : host.lockDepth = 0) (config : SandboxConfig) (env : CreateEnv) :
    Isolates (.create config env) host ↔ Harmless (.create config env) host := by
  by_cases complete : Completed host config env
  · obtain ⟨work, traced, ends⟩ := create_completes free complete
    have frame : work.ebpfLoader = host.ebpfLoader ∧ work.policyEngine = host.policyEngine := by
      obtain ⟨files, touched, sent, rfl⟩ := traced.frame
      exact ⟨rfl, rfl⟩
    unfold Isolates
    rw [ends]
    constructor
    · rintro isolates - loader loaded engine present ⟨cgroupId, bystander, watches⟩
      obtain ⟨id, -, info, -, -, -, other⟩ := id bystander
      exact (completed_sameVerdicts_iff work other frame.1 frame.2).mp (isolates cgroupId bystander) loader loaded
        engine present watches
    · intro harmless cgroupId bystander
      obtain ⟨id, -, info, -, -, -, other⟩ := id bystander
      refine (completed_sameVerdicts_iff work other frame.1 frame.2).mpr fun loader loaded engine present watches => ?_
      exact harmless complete loader loaded engine present ⟨cgroupId, bystander, watches⟩
  · have unapplied := create_unapplied free complete
    exact iff_of_true (fun cgroupId _ => sameVerdicts_of_loader unapplied.ebpfLoader cgroupId)
      (fun reached => absurd reached complete)

theorem isolates_iff {host : Host} (free : host.lockDepth = 0) (op : Op) : Isolates op host ↔ Harmless op host := by
  have quiet (still : op.Quiet) : Isolates op host := by
    obtain ⟨answer, after, ends, shrinks, -⟩ := quiet_ends free still
    intro cgroupId _
    rw [ends]
    exact sameVerdicts_of_loader shrinks.ebpfLoader cgroupId
  cases op with
  | create config env => exact create_isolates_iff free config env
  | terminate sandboxId env =>
    refine iff_of_true ?_ trivial
    rintro cgroupId ⟨id, -, info, -, -, -, other⟩
    obtain ⟨status, after, ends, ⟨-, rfl⟩ | ⟨entry, files, -, rfl⟩⟩ := terminate_ends free sandboxId env
    · rw [ends]
      exact sameVerdicts_of_loader rfl cgroupId
    · rw [ends]
      exact unmonitored_sameVerdicts rfl other
  | execute sandboxId codePayload env => exact iff_of_true (quiet trivial) trivial
  | metadata sandboxId => exact iff_of_true (quiet trivial) trivial
  | terminateAll env => exact iff_of_true (quiet trivial) trivial
  | exit pid => exact iff_of_true (quiet trivial) trivial

/-- Along a run from a constructed manager no call changes a verdict for the other live
sandboxes, if and only if each creation pushes only what is blocked already. -/
theorem runs_isolate_iff {host : Host} (fresh : Fresh host) (ops : List Op) :
    Along call Isolates ops host ↔ Along call Harmless ops host := by
  refine along_congr (fun host => host.lockDepth = 0) (fun _ _ => True) ?_ ?_ ops host fresh.free
    (along_of_forall (fun _ _ => trivial) ops host)
  · intro op before free _
    exact isolates_iff free op
  · intro op before free _ _ ended
    exact call_ends_free free op ended

/-- Two policies: the default one, and one that also blocks `read` (0). -/
def readlessEngine : PolicyEngine :=
  (PolicyEngine.init.registerPolicy { policyName := "readless", syscallRule := { blockedSyscalls := [0] } }).2

/-- A second creation, with the next numbers that are free. -/
def secondEnv : CreateEnv where
  cgroup := { inode := 78, fd := 5 }
  tap := { fd := 6 }
  spawn := { pid := 101 }

def twoTenants (policyName : String) : List Op :=
  [.create demoConfig (smoothEnv 77), .create { sandboxId := "b", securityPolicyName := policyName } secondEnv]

/-- The host and the maps after the first of two creations. -/
theorem first_tenant (engine : PolicyEngine) (policyName : String) :
    ∃ after, (call (.create demoConfig (smoothEnv 77))).ends (bareHost (some sysFilterLoader) (some engine)) =
        (.returned (.status .success), after) ∧
      after.ebpfLoader =
        some (enforced 77 (engine.getPolicy "strict_python") (smoothEnv 77).bpf sysFilterLoader) ∧
      after.policyEngine = some engine ∧ after.lockDepth = 0 ∧
      Completed after { sandboxId := "b", securityPolicyName := policyName } secondEnv ∧
      Bystander (.create { sandboxId := "b", securityPolicyName := policyName } secondEnv) after 77 := by
  have complete : Completed (bareHost none none) demoConfig (smoothEnv 77) := by decide
  obtain ⟨work, traced, ends⟩ := create_completes rfl
    (show Completed (bareHost (some sysFilterLoader) (some engine)) demoConfig (smoothEnv 77) from complete)
  refine ⟨_, ends, ?_⟩
  obtain ⟨files, touched, sent, rfl⟩ := traced.frame
  refine ⟨rfl, rfl, rfl, ?_, ?_⟩
  · have next : Completed (completed (bareHost none none) demoConfig (smoothEnv 77) (bareHost none none))
        { sandboxId := "b" } secondEnv := by decide
    exact next
  · exact ⟨"sbx-9f82a1", Finmap.mem_insert.mpr (.inl rfl), _, Finmap.lookup_insert _, rfl,
      show "sbx-9f82a1" ≠ "b" by decide, by decide⟩

/-- Two sandboxes under the default policy do not disturb each other. -/
theorem like_tenants_isolated :
    Along call Isolates (twoTenants "strict_python") (bareHost (some sysFilterLoader) (some .init)) := by
  obtain ⟨after, ends, maps, engine, -⟩ := first_tenant .init "strict_python"
  refine (runs_isolate_iff ⟨rfl, rfl, rfl⟩ _).mpr ((along_cons_returned ends _).mpr ⟨?_, ?_, fun _ => trivial⟩)
  · rintro - loader - engine - ⟨cgroupId, ⟨id, live, -⟩, -⟩
    exact absurd live Finmap.notMem_empty
  · rintro - loader loaded _ present - rules registered n blocked granted room
    rw [maps] at loaded
    rw [engine] at present
    cases loaded
    cases present
    have cell : sysFilterLoader.SyscallRoom n := ⟨rfl, room.2⟩
    rw [policyOf_enforced]
    exact if_pos ⟨⟨rules, registered, blocked⟩, rfl, cell⟩

/-- A sandbox under a policy that blocks `read` makes `read` deadly for the one before it. -/
theorem second_policy_reaches_first :
    Fresh (bareHost (some sysFilterLoader) (some readlessEngine)) ∧
      ¬ Along call Isolates (twoTenants "readless") (bareHost (some sysFilterLoader) (some readlessEngine)) := by
  obtain ⟨after, ends, maps, engine, free, complete, bystander⟩ := first_tenant readlessEngine "readless"
  refine ⟨⟨rfl, rfl, rfl⟩, fun isolated => ?_⟩
  have second := ((along_cons_returned ends _).mp isolated).2.1
  have watches : Watches (enforced 77 (readlessEngine.getPolicy "strict_python") (smoothEnv 77).bpf sysFilterLoader)
      77 := by
    rw [Watches, monitored_enforced]
    exact ⟨1, if_pos ⟨rfl, rfl, by decide⟩, by decide⟩
  have blocked := (isolates_iff free _).mp second complete _ maps _ engine ⟨77, bystander, watches⟩ _
    (show readlessEngine.getPolicy "readless" = some _ from Finmap.lookup_insert _) 0 (by decide) rfl (by decide)
  have allowed : (enforced 77 (readlessEngine.getPolicy "strict_python") (smoothEnv 77).bpf sysFilterLoader).policyOf 0 =
      some 0 := by decide
  rw [allowed] at blocked
  revert blocked
  decide

end Aegis.Runtime
