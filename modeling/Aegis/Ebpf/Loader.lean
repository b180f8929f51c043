import Aegis.Ebpf.Programs
import Aegis.Status

/-! The loader and its map updates.

The loader holds one BPF object. A map is found by name in that object, and an update
reaches it only if the object has it, the key fits and the kernel grants the update;
every failure is one status code, and leaves the maps as they are.
-/

set_option autoImplicit false

namespace Aegis.Ebpf
open Library

/-- An object in the kernel, by the programs linked into it. The build makes three
objects with one program each. -/
structure BpfObject where
  sysFilter : Option SysFilter := none
  netFilter : Option NetFilter := none
  processMonitor : Option ProcessMonitor := none

namespace BpfObject

-- The map is looked for under sys_filter's name, then under process_monitor's.
def monitoredCgroups (obj : BpfObject) : Option (HashTable UInt64 UInt8 1024) :=
  match obj.sysFilter with
  | some maps => some maps.aegisMonitoredCgroups
  | none => obj.processMonitor.map (·.aegisMonitoredCgroupsProc)

def setMonitoredCgroups (obj : BpfObject) (table : HashTable UInt64 UInt8 1024) : BpfObject :=
  match obj.sysFilter with
  | some maps => { obj with sysFilter := some { maps with aegisMonitoredCgroups := table } }
  | none => { obj with processMonitor := obj.processMonitor.map fun _ => ⟨table⟩ }

def syscallPolicy (obj : BpfObject) : Option (ArrayTable UInt8 512) :=
  obj.sysFilter.map (·.aegisSyscallPolicy)

def setSyscallPolicy (obj : BpfObject) (table : ArrayTable UInt8 512) : BpfObject :=
  { obj with sysFilter := obj.sysFilter.map fun maps => { maps with aegisSyscallPolicy := table } }

def blockedIps (obj : BpfObject) : Option (HashTable UInt32 UInt8 4096) :=
  obj.netFilter.map (·.aegisBlockedIps)

def setBlockedIps (obj : BpfObject) (table : HashTable UInt32 UInt8 4096) : BpfObject :=
  { obj with netFilter := obj.netFilter.map fun _ => ⟨table⟩ }

section
variable (obj : BpfObject)

@[simp] theorem monitoredCgroups_setMonitoredCgroups (table : HashTable UInt64 UInt8 1024) :
    (obj.setMonitoredCgroups table).monitoredCgroups = obj.monitoredCgroups.map fun _ => table := by
  rcases obj with ⟨sys, net, proc⟩
  cases sys with
  | some maps => rfl
  | none => cases proc <;> rfl

@[simp] theorem monitoredCgroups_setSyscallPolicy (table : ArrayTable UInt8 512) :
    (obj.setSyscallPolicy table).monitoredCgroups = obj.monitoredCgroups := by
  rcases obj with ⟨sys, net, proc⟩
  cases sys <;> rfl

@[simp] theorem monitoredCgroups_setBlockedIps (table : HashTable UInt32 UInt8 4096) :
    (obj.setBlockedIps table).monitoredCgroups = obj.monitoredCgroups := rfl

@[simp] theorem syscallPolicy_setMonitoredCgroups (table : HashTable UInt64 UInt8 1024) :
    (obj.setMonitoredCgroups table).syscallPolicy = obj.syscallPolicy := by
  rcases obj with ⟨sys, net, proc⟩
  cases sys <;> rfl

@[simp] theorem syscallPolicy_setSyscallPolicy (table : ArrayTable UInt8 512) :
    (obj.setSyscallPolicy table).syscallPolicy = obj.syscallPolicy.map fun _ => table := by
  rcases obj with ⟨sys, net, proc⟩
  cases sys <;> rfl

@[simp] theorem syscallPolicy_setBlockedIps (table : HashTable UInt32 UInt8 4096) :
    (obj.setBlockedIps table).syscallPolicy = obj.syscallPolicy := rfl

@[simp] theorem blockedIps_setMonitoredCgroups (table : HashTable UInt64 UInt8 1024) :
    (obj.setMonitoredCgroups table).blockedIps = obj.blockedIps := by
  rcases obj with ⟨sys, net, proc⟩
  cases sys <;> rfl

@[simp] theorem blockedIps_setSyscallPolicy (table : ArrayTable UInt8 512) :
    (obj.setSyscallPolicy table).blockedIps = obj.blockedIps := rfl

@[simp] theorem blockedIps_setBlockedIps (table : HashTable UInt32 UInt8 4096) :
    (obj.setBlockedIps table).blockedIps = obj.blockedIps.map fun _ => table := by
  rcases obj with ⟨sys, net, proc⟩
  cases net <;> rfl

end

end BpfObject

structure EBPFLoader where
  bpfObj : Option BpfObject := none

namespace EBPFLoader

/-- One call of `bpf_map_update_elem` on a map found by name. -/
def updateMap {T : Type} (loader : EBPFLoader) (find : BpfObject → Option T) (update : T → Option T)
    (store : BpfObject → T → BpfObject) : Status × EBPFLoader :=
  match loader.bpfObj with
  | none => (.errEBPFProbeLoadFailed, loader)
  | some obj =>
      match (find obj).bind update with
      | none => (.errEBPFProbeLoadFailed, loader)
      | some table => (.success, { loader with bpfObj := some (store obj table) })

def setCgroupMonitored (loader : EBPFLoader) (granted : Bool) (cgroupId : UInt64) (isMonitored : Bool) :
    Status × EBPFLoader :=
  loader.updateMap BpfObject.monitoredCgroups
    (·.update granted cgroupId (if isMonitored then 1 else 0)) BpfObject.setMonitoredCgroups

def setSyscallPolicy (loader : EBPFLoader) (granted : Bool) (syscallNr : UInt32) (isBlocked : UInt8) :
    Status × EBPFLoader :=
  loader.updateMap BpfObject.syscallPolicy
    (·.update granted syscallNr.toNat isBlocked) BpfObject.setSyscallPolicy

def setBlockedIp (loader : EBPFLoader) (granted : Bool) (ipv4NetworkOrder : UInt32) (isBlocked : Bool) :
    Status × EBPFLoader :=
  loader.updateMap BpfObject.blockedIps
    (·.update granted ipv4NetworkOrder (if isBlocked then 1 else 0)) BpfObject.setBlockedIps

/-! What the maps of the loaded object say. -/

def monitoredMap (loader : EBPFLoader) : Option (HashTable UInt64 UInt8 1024) :=
  loader.bpfObj.bind BpfObject.monitoredCgroups

def syscallMap (loader : EBPFLoader) : Option (ArrayTable UInt8 512) :=
  loader.bpfObj.bind BpfObject.syscallPolicy

def ipMap (loader : EBPFLoader) : Option (HashTable UInt32 UInt8 4096) :=
  loader.bpfObj.bind BpfObject.blockedIps

def monitored (loader : EBPFLoader) (cgroupId : UInt64) : Option UInt8 :=
  loader.monitoredMap.bind (·.lookup cgroupId)

def policyOf (loader : EBPFLoader) (syscallNr : UInt32) : Option UInt8 :=
  loader.syscallMap.bind (·.lookup syscallNr.toNat)

def blocked (loader : EBPFLoader) (ipv4 : UInt32) : Option UInt8 :=
  loader.ipMap.bind (·.lookup ipv4)

/-- Whether the loaded sys_filter kills the task on entering the call. -/
def sigkills (loader : EBPFLoader) (task : Task) (id : UInt64) (reserved : Bool) : Bool :=
  match loader.bpfObj.bind (·.sysFilter) with
  | some maps => (maps.handleSysEnter task id reserved).sigkill
  | none => false

/-- Whether the loaded net_filter rejects the connect. -/
def rejects (loader : EBPFLoader) (task : Task) (ctx : SockAddr) (reserved : Bool) : Bool :=
  match loader.bpfObj.bind (·.netFilter) with
  | some maps => (maps.aegisCgroupConnect4 task ctx reserved).result = 0
  | none => false

/-- The monitored-cgroup map is there and takes the key. -/
def MonitorRoom (loader : EBPFLoader) (cgroupId : UInt64) : Prop :=
  ∃ table ∈ loader.monitoredMap, table.Room cgroupId

/-- The syscall policy map is there and has a cell for the number. -/
def SyscallRoom (loader : EBPFLoader) (syscallNr : UInt32) : Prop :=
  loader.syscallMap.isSome ∧ syscallNr.toNat < 512

/-- The blocked-address map is there and takes the key. -/
def IpRoom (loader : EBPFLoader) (ipv4 : UInt32) : Prop :=
  ∃ table ∈ loader.ipMap, table.Room ipv4

instance (loader : EBPFLoader) (cgroupId : UInt64) : Decidable (loader.MonitorRoom cgroupId) :=
  inferInstanceAs (Decidable (∃ table ∈ loader.monitoredMap, table.Room cgroupId))

instance (loader : EBPFLoader) (syscallNr : UInt32) : Decidable (loader.SyscallRoom syscallNr) :=
  inferInstanceAs (Decidable (_ ∧ _))

instance (loader : EBPFLoader) (ipv4 : UInt32) : Decidable (loader.IpRoom ipv4) :=
  inferInstanceAs (Decidable (∃ table ∈ loader.ipMap, table.Room ipv4))

section
variable {T U : Type} (loader : EBPFLoader) {find : BpfObject → Option T} (update : T → Option T)
  {store : BpfObject → T → BpfObject}

/-- The updated map is the one a later look-up finds. -/
theorem find_updateMap (stored : ∀ obj table, find (store obj table) = (find obj).map fun _ => table) :
    (loader.updateMap find update store).2.bpfObj.bind find =
      (loader.bpfObj.bind find).map fun table => (update table).getD table := by
  rcases loader with ⟨_ | obj⟩
  · rfl
  · cases found : find obj with
    | none => simp [updateMap, found]
    | some table =>
      cases after : update table with
      | none => simp [updateMap, found, after]
      | some new => simp [updateMap, found, after, stored]

/-- The other maps are not touched. -/
theorem other_updateMap {other : BpfObject → Option U} (same : ∀ obj table, other (store obj table) = other obj) :
    (loader.updateMap find update store).2.bpfObj.bind other = loader.bpfObj.bind other := by
  rcases loader with ⟨_ | obj⟩
  · rfl
  · cases found : (find obj).bind update with
    | none => simp [updateMap, found]
    | some table => simp [updateMap, found, same]

end

section
variable (loader : EBPFLoader) (granted : Bool)

theorem monitoredMap_setCgroupMonitored (cgroupId : UInt64) (isMonitored : Bool) :
    (loader.setCgroupMonitored granted cgroupId isMonitored).2.monitoredMap =
      loader.monitoredMap.map fun table =>
        (table.update granted cgroupId (if isMonitored then 1 else 0)).getD table :=
  find_updateMap loader _ BpfObject.monitoredCgroups_setMonitoredCgroups

theorem syscallMap_setSyscallPolicy (syscallNr : UInt32) (isBlocked : UInt8) :
    (loader.setSyscallPolicy granted syscallNr isBlocked).2.syscallMap =
      loader.syscallMap.map fun table => (table.update granted syscallNr.toNat isBlocked).getD table :=
  find_updateMap loader _ BpfObject.syscallPolicy_setSyscallPolicy

theorem ipMap_setBlockedIp (ipv4 : UInt32) (isBlocked : Bool) :
    (loader.setBlockedIp granted ipv4 isBlocked).2.ipMap =
      loader.ipMap.map fun table => (table.update granted ipv4 (if isBlocked then 1 else 0)).getD table :=
  find_updateMap loader _ BpfObject.blockedIps_setBlockedIps

@[simp] theorem syscallMap_setCgroupMonitored (cgroupId : UInt64) (isMonitored : Bool) :
    (loader.setCgroupMonitored granted cgroupId isMonitored).2.syscallMap = loader.syscallMap :=
  other_updateMap loader _ BpfObject.syscallPolicy_setMonitoredCgroups

@[simp] theorem ipMap_setCgroupMonitored (cgroupId : UInt64) (isMonitored : Bool) :
    (loader.setCgroupMonitored granted cgroupId isMonitored).2.ipMap = loader.ipMap :=
  other_updateMap loader _ BpfObject.blockedIps_setMonitoredCgroups

@[simp] theorem monitoredMap_setSyscallPolicy (syscallNr : UInt32) (isBlocked : UInt8) :
    (loader.setSyscallPolicy granted syscallNr isBlocked).2.monitoredMap = loader.monitoredMap :=
  other_updateMap loader _ BpfObject.monitoredCgroups_setSyscallPolicy

@[simp] theorem ipMap_setSyscallPolicy (syscallNr : UInt32) (isBlocked : UInt8) :
    (loader.setSyscallPolicy granted syscallNr isBlocked).2.ipMap = loader.ipMap :=
  other_updateMap loader _ BpfObject.blockedIps_setSyscallPolicy

@[simp] theorem monitoredMap_setBlockedIp (ipv4 : UInt32) (isBlocked : Bool) :
    (loader.setBlockedIp granted ipv4 isBlocked).2.monitoredMap = loader.monitoredMap :=
  other_updateMap loader _ BpfObject.monitoredCgroups_setBlockedIps

@[simp] theorem syscallMap_setBlockedIp (ipv4 : UInt32) (isBlocked : Bool) :
    (loader.setBlockedIp granted ipv4 isBlocked).2.syscallMap = loader.syscallMap :=
  other_updateMap loader _ BpfObject.syscallPolicy_setBlockedIps

theorem monitored_setCgroupMonitored (cgroupId other : UInt64) (isMonitored : Bool) :
    (loader.setCgroupMonitored granted cgroupId isMonitored).2.monitored other =
      if other = cgroupId ∧ granted ∧ loader.MonitorRoom cgroupId then
        some (if isMonitored then 1 else 0)
      else loader.monitored other := by
  cases found : loader.monitoredMap with
  | none => simp [monitored, MonitorRoom, monitoredMap_setCgroupMonitored, found]
  | some table =>
    by_cases accepted : granted ∧ table.Room cgroupId
    · simp [monitored, MonitorRoom, monitoredMap_setCgroupMonitored, found, HashTable.update, accepted, HashTable.lookup_put]
    · simp [monitored, MonitorRoom, monitoredMap_setCgroupMonitored, found, HashTable.update, accepted]

theorem policyOf_setSyscallPolicy (syscallNr other : UInt32) (isBlocked : UInt8) :
    (loader.setSyscallPolicy granted syscallNr isBlocked).2.policyOf other =
      if other = syscallNr ∧ granted ∧ loader.SyscallRoom syscallNr then some isBlocked
      else loader.policyOf other := by
  cases found : loader.syscallMap with
  | none => simp [policyOf, SyscallRoom, syscallMap_setSyscallPolicy, found]
  | some table =>
    by_cases accepted : granted ∧ syscallNr.toNat < 512
    · simp [policyOf, SyscallRoom, syscallMap_setSyscallPolicy, found, ArrayTable.update, accepted, ArrayTable.lookup_put, UInt32.toNat_inj]
    · simp [policyOf, SyscallRoom, syscallMap_setSyscallPolicy, found, ArrayTable.update, accepted]

theorem blocked_setBlockedIp (ipv4 other : UInt32) (isBlocked : Bool) :
    (loader.setBlockedIp granted ipv4 isBlocked).2.blocked other =
      if other = ipv4 ∧ granted ∧ loader.IpRoom ipv4 then some (if isBlocked then 1 else 0)
      else loader.blocked other := by
  cases found : loader.ipMap with
  | none => simp [blocked, IpRoom, ipMap_setBlockedIp, found]
  | some table =>
    by_cases accepted : granted ∧ table.Room ipv4
    · simp [blocked, IpRoom, ipMap_setBlockedIp, found, HashTable.update, accepted, HashTable.lookup_put]
    · simp [blocked, IpRoom, ipMap_setBlockedIp, found, HashTable.update, accepted]

theorem sigkills_iff (task : Task) (id : UInt64) (reserved : Bool) :
    loader.sigkills task id reserved = true ↔
      (∃ value, loader.monitored task.cgroupId = some value ∧ value ≠ 0) ∧
        loader.policyOf id.toUInt32 = some 1 := by
  rcases loader with ⟨_ | ⟨sys, net, proc⟩⟩
  · simp [sigkills, policyOf, syscallMap]
  · cases sys with
    | none => simp [sigkills, policyOf, syscallMap, BpfObject.syscallPolicy]
    | some maps => exact maps.sigkill_iff task id reserved

theorem rejects_iff (task : Task) {ctx : SockAddr} (inet : ctx.family = afInet) (reserved : Bool) :
    loader.rejects task ctx reserved = true ↔
      loader.ipMap.isSome ∧ (ctx.userIp4 = bpfHtonl 0xA9FEA9FE ∨ loader.blocked ctx.userIp4 = some 1) := by
  rcases loader with ⟨_ | ⟨sys, net, proc⟩⟩
  · simp [rejects, ipMap]
  · cases net with
    | none => simp [rejects, ipMap, BpfObject.blockedIps]
    | some maps => simp [rejects, ipMap, BpfObject.blockedIps, blocked, maps.rejects_iff task reserved inet]

/-! A freshly loaded sys_filter. -/

theorem fresh_monitored (fresh : loader.bpfObj.bind (·.sysFilter) = some .fresh) :
    loader.monitoredMap = some .empty ∧ loader.syscallMap = some (.filled 0) := by
  obtain ⟨obj, loaded, sys⟩ := Option.bind_eq_some_iff.mp fresh
  simp [monitoredMap, syscallMap, BpfObject.monitoredCgroups, BpfObject.syscallPolicy, loaded, sys, SysFilter.fresh]

theorem fresh_blocked (fresh : loader.bpfObj.bind (·.netFilter) = some .fresh) : loader.ipMap = some .empty := by
  obtain ⟨obj, loaded, net⟩ := Option.bind_eq_some_iff.mp fresh
  simp [ipMap, BpfObject.blockedIps, loaded, net, NetFilter.fresh]

end

end EBPFLoader

end Aegis.Ebpf
