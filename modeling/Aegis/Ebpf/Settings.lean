import Aegis.Ebpf.Loading
import Aegis.Policy.Engine

/-! The filters as functions of the update history.

After the load of a filter's object, its verdicts are determined by the last update of
each key that was reported as a success.
-/

set_option autoImplicit false

namespace Aegis.Ebpf
open Library Policy

/-- What the update sets the cgroup to, if it is about it. -/
def MapUpdate.monitoring (cgroupId : UInt64) : MapUpdate → Option Bool
  | .cgroupMonitored _ other isMonitored => if cgroupId = other then some isMonitored else none
  | .syscallPolicy _ _ _ => none
  | .blockedIp _ _ _ => none

def MapUpdate.policy (syscallNr : UInt32) : MapUpdate → Option UInt8
  | .cgroupMonitored _ _ _ => none
  | .syscallPolicy _ other isBlocked => if syscallNr = other then some isBlocked else none
  | .blockedIp _ _ _ => none

def MapUpdate.blocking (ipv4 : UInt32) : MapUpdate → Option Bool
  | .cgroupMonitored _ _ _ => none
  | .syscallPolicy _ _ _ => none
  | .blockedIp _ other isBlocked => if ipv4 = other then some isBlocked else none

/-- What the maps say of a cgroup and of an address, if they say anything. -/
def EBPFLoader.monitoring (loader : EBPFLoader) (cgroupId : UInt64) : Option Bool :=
  (loader.monitored cgroupId).map fun value => decide (value ≠ 0)

def EBPFLoader.blocking (loader : EBPFLoader) (ipv4 : UInt32) : Option Bool :=
  (loader.blocked ipv4).map fun value => decide (value = 1)

/-- The loader after the updates. -/
def updated (updates : List MapUpdate) (loader : EBPFLoader) : EBPFLoader :=
  runs (fun update loader => (update.apply loader).2) updates loader

/-- The setting, if the update returns Success. -/
def successful {V : Type} (setting : MapUpdate → Option V) (update : MapUpdate) (loader : EBPFLoader) : Option V :=
  if (update.apply loader).1 = .success then setting update else none

/-- The last setting among the updates that returned Success. -/
def lastSuccessful {V : Type} (setting : MapUpdate → Option V) (updates : List MapUpdate) (loader : EBPFLoader) :
    Option V :=
  lastWrite (fun update loader => (update.apply loader).2) (successful setting) updates loader

theorem successful_unrelated {V : Type} {setting : MapUpdate → Option V} {update : MapUpdate}
    (unrelated : setting update = none) (loader : EBPFLoader) : successful setting update loader = none := by
  unfold successful
  split
  · exact unrelated
  · rfl

section
variable (updates : List MapUpdate) (loader : EBPFLoader)

theorem monitoring_updated (cgroupId : UInt64) :
    (updated updates loader).monitoring cgroupId =
      (lastSuccessful (·.monitoring cgroupId) updates loader).or (loader.monitoring cgroupId) := by
  refine read_runs (fun loader => loader.monitoring cgroupId) ?_ updates loader
  intro update loader
  unfold EBPFLoader.monitoring
  cases update with
  | cgroupMonitored granted other isMonitored =>
    simp only [successful, MapUpdate.apply, MapUpdate.monitoring, EBPFLoader.monitored_setCgroupMonitored,
      EBPFLoader.setCgroupMonitored_success_iff]
    by_cases accepted : granted = true ∧ loader.MonitorRoom other
    · by_cases same : cgroupId = other
      · cases isMonitored <;> simp [accepted, same]
      · simp [accepted, same]
    · simp [accepted]
  | syscallPolicy granted syscallNr isBlocked =>
    rw [successful_unrelated rfl, Option.none_or]
    simp [MapUpdate.apply, EBPFLoader.monitored]
  | blockedIp granted ipv4 isBlocked =>
    rw [successful_unrelated rfl, Option.none_or]
    simp [MapUpdate.apply, EBPFLoader.monitored]

theorem policyOf_updated (syscallNr : UInt32) :
    (updated updates loader).policyOf syscallNr =
      (lastSuccessful (·.policy syscallNr) updates loader).or (loader.policyOf syscallNr) := by
  refine read_runs (fun loader => loader.policyOf syscallNr) ?_ updates loader
  intro update loader
  cases update with
  | cgroupMonitored granted cgroupId isMonitored =>
    rw [successful_unrelated rfl, Option.none_or]
    simp [MapUpdate.apply, EBPFLoader.policyOf]
  | syscallPolicy granted other isBlocked =>
    simp only [successful, MapUpdate.apply, MapUpdate.policy, EBPFLoader.policyOf_setSyscallPolicy,
      EBPFLoader.setSyscallPolicy_success_iff]
    by_cases accepted : granted = true ∧ loader.SyscallRoom other
    · by_cases same : syscallNr = other
      · simp [accepted, same]
      · simp [accepted, same]
    · simp [accepted]
  | blockedIp granted ipv4 isBlocked =>
    rw [successful_unrelated rfl, Option.none_or]
    simp [MapUpdate.apply, EBPFLoader.policyOf]

theorem blocking_updated (ipv4 : UInt32) :
    (updated updates loader).blocking ipv4 =
      (lastSuccessful (·.blocking ipv4) updates loader).or (loader.blocking ipv4) := by
  refine read_runs (fun loader => loader.blocking ipv4) ?_ updates loader
  intro update loader
  unfold EBPFLoader.blocking
  cases update with
  | cgroupMonitored granted cgroupId isMonitored =>
    rw [successful_unrelated rfl, Option.none_or]
    simp [MapUpdate.apply, EBPFLoader.blocked]
  | syscallPolicy granted syscallNr isBlocked =>
    rw [successful_unrelated rfl, Option.none_or]
    simp [MapUpdate.apply, EBPFLoader.blocked]
  | blockedIp granted other isBlocked =>
    simp only [successful, MapUpdate.apply, MapUpdate.blocking, EBPFLoader.blocked_setBlockedIp,
      EBPFLoader.setBlockedIp_success_iff]
    by_cases accepted : granted = true ∧ loader.IpRoom other
    · by_cases same : ipv4 = other
      · cases isBlocked <;> simp [accepted, same]
      · simp [accepted, same]
    · simp [accepted]

/-- The updates never take a map away. -/
theorem isSome_ipMap_updated : (updated updates loader).ipMap.isSome = loader.ipMap.isSome := by
  refine runs_invariant (fun after : EBPFLoader => after.ipMap.isSome = loader.ipMap.isSome) ?_ updates loader rfl
  intro update after same
  cases update with
  | cgroupMonitored granted cgroupId isMonitored => simpa [MapUpdate.apply] using same
  | syscallPolicy granted syscallNr isBlocked => simpa [MapUpdate.apply] using same
  | blockedIp granted ipv4 isBlocked => simpa [MapUpdate.apply, EBPFLoader.ipMap_setBlockedIp] using same

end

/-- On a freshly loaded sys_filter the task is killed exactly by the last successful settings. -/
theorem sigkills_updated_iff {loader : EBPFLoader} (fresh : loader.bpfObj.bind (·.sysFilter) = some .fresh)
    (updates : List MapUpdate) (task : Task) (id : UInt64) (reserved : Bool) :
    (updated updates loader).sigkills task id reserved = true ↔
      lastSuccessful (·.monitoring task.cgroupId) updates loader = some true ∧
        lastSuccessful (·.policy id.toUInt32) updates loader = some 1 := by
  obtain ⟨hash, array⟩ := loader.fresh_monitored fresh
  have unmonitored : loader.monitoring task.cgroupId = none := by
    simp [EBPFLoader.monitoring, EBPFLoader.monitored, hash]
  have allowed : loader.policyOf id.toUInt32 ≠ some 1 := by
    simp [EBPFLoader.policyOf, array, ArrayTable.lookup_filled]
  have first := monitoring_updated updates loader task.cgroupId
  rw [unmonitored, Option.or_none] at first
  rw [EBPFLoader.sigkills_iff, ← first, policyOf_updated]
  have second : (lastSuccessful (·.policy id.toUInt32) updates loader).or (loader.policyOf id.toUInt32) = some 1 ↔
      lastSuccessful (·.policy id.toUInt32) updates loader = some 1 := by
    cases lastSuccessful (·.policy id.toUInt32) updates loader with
    | none => simpa using allowed
    | some value => simp
  rw [second]
  simp [EBPFLoader.monitoring]

theorem rejects_updated_iff {loader : EBPFLoader} (fresh : loader.bpfObj.bind (·.netFilter) = some .fresh)
    (updates : List MapUpdate) (task : Task) {ctx : SockAddr} (inet : ctx.family = afInet) (reserved : Bool) :
    (updated updates loader).rejects task ctx reserved = true ↔
      ctx.userIp4 = metadataIp ∨ lastSuccessful (·.blocking ctx.userIp4) updates loader = some true := by
  have empty := loader.fresh_blocked fresh
  have unblocked : loader.blocking ctx.userIp4 = none := by
    simp [EBPFLoader.blocking, EBPFLoader.blocked, empty]
  have present : (updated updates loader).ipMap.isSome = true := by simp [isSome_ipMap_updated, empty]
  have last := blocking_updated updates loader ctx.userIp4
  rw [unblocked, Option.or_none] at last
  have endpoint : bpfHtonl 0xA9FEA9FE = metadataIp := by decide
  rw [EBPFLoader.rejects_iff _ task inet, and_iff_right present, ← last, endpoint]
  simp [EBPFLoader.blocking]

/-- After a successful load and any updates, the filter of the object computes exactly the last
successful settings. -/
theorem filters_follow_settings {file : ObjectFile} {objectPath : String} {env : LoadEnv} {state after : LoaderState}
    (loaded : (loadBpfObject file objectPath env).ends state = (.returned .success, after))
    (updates : List MapUpdate) :
    (file = .sysFilter → ∀ task id reserved,
      ((updated updates after.loader).sigkills task id reserved = true ↔
        lastSuccessful (·.monitoring task.cgroupId) updates after.loader = some true ∧
          lastSuccessful (·.policy id.toUInt32) updates after.loader = some 1)) ∧
    (file = .netFilter → ∀ task ctx reserved, ctx.family = afInet →
      ((updated updates after.loader).rejects task ctx reserved = true ↔
        ctx.userIp4 = metadataIp ∨
          lastSuccessful (·.blocking ctx.userIp4) updates after.loader = some true)) := by
  obtain rfl := loadBpfObject_success loaded
  constructor
  · rintro rfl task id reserved
    exact sigkills_updated_iff rfl updates task id reserved
  · rintro rfl task ctx reserved inet
    exact rejects_updated_iff rfl updates task inet reserved

/-- One cgroup is monitored, taken off and monitored again, and ptrace is blocked. -/
def ptraceUpdates : List MapUpdate :=
  [.cgroupMonitored true 77 true, .cgroupMonitored true 77 false, .syscallPolicy true 101 1,
    .syscallPolicy true 1000 1, .cgroupMonitored true 77 true]

theorem ptrace_killed_after_updates :
    (updated ptraceUpdates { bpfObj := some ObjectFile.sysFilter.object }).sigkills rootTask 101 false = true := by
  have loaded : (loadBpfObject .sysFilter "sys_filter.bpf.o" {}).ends {} = _ := rfl
  exact ((filters_follow_settings loaded ptraceUpdates).1 rfl rootTask 101 false).mpr ⟨by decide, by decide⟩

end Aegis.Ebpf
