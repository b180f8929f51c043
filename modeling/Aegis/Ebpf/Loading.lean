import Aegis.Ebpf.ProcessMonitor
import Aegis.Library.History

/-! Loading of objects, and the loader's map updates as calls.

The loader keeps a pointer to one object only. An object whose pointer is overwritten is
not closed: it stays in the kernel with its programs and maps, out of the loader's reach.
-/

set_option autoImplicit false

namespace Aegis.Ebpf
open Library

/-- The objects the build makes. -/
inductive ObjectFile where
  | sysFilter
  | netFilter
  | processMonitor
  deriving DecidableEq, Repr

/-- The object as loading leaves it. -/
def ObjectFile.object : ObjectFile → BpfObject
  | .sysFilter => { sysFilter := some .fresh }
  | .netFilter => { netFilter := some .fresh }
  | .processMonitor => { processMonitor := some .fresh }

def ObjectFile.programName : ObjectFile → String
  | .sysFilter => "handle_sys_enter"
  | .netFilter => "aegis_cgroup_connect4"
  | .processMonitor => "handle_execve_enter"

structure EBPFProgramMetadata where
  programName : String
  objectFilePath : String
  isLoaded : Bool
  isAttached : Bool
  deriving DecidableEq, Repr

/-- The loader with its bookkeeping. `abandoned` lists the objects that are in the kernel
without being the loader's. -/
structure LoaderState where
  loader : EBPFLoader := {}
  isLoaded : Bool := false
  programs : Finmap fun _ : String => EBPFProgramMetadata := ∅
  abandoned : List BpfObject := []

/-- What `load_bpf_object` is told: whether the file is there, opens and passes the verifier. -/
structure LoadEnv where
  found : Query := .yes
  opens : Bool := true
  verifies : Bool := true

/-- The pointer is overwritten with null. -/
def LoaderState.abandon (state : LoaderState) : LoaderState :=
  { state with loader := {}, abandoned := state.abandoned ++ state.loader.bpfObj.toList }

def LoaderState.install (state : LoaderState) (file : ObjectFile) (objectPath : String) : LoaderState :=
  { state with
    loader := { bpfObj := some file.object }
    abandoned := state.abandoned ++ state.loader.bpfObj.toList
    isLoaded := true
    programs := state.programs.insert file.programName {
      programName := file.programName, objectFilePath := objectPath, isLoaded := true, isAttached := false } }

def loadBpfObject (file : ObjectFile) (objectPath : String) (env : LoadEnv) : Proc LoaderState Status :=
  match env.found with
  | .throws => Proc.throw
  | .no => pure .errEBPFProbeLoadFailed
  | .yes =>
      if env.opens then
        if env.verifies then do
          Proc.modify fun state => state.install file objectPath
          pure .success
        else do
          Proc.modify LoaderState.abandon
          pure .errEBPFProbeLoadFailed
      else do
        Proc.modify LoaderState.abandon
        pure .errEBPFProbeLoadFailed

/-- Success installs the object; a failure leaves the loader as it is or without an object. -/
theorem loadBpfObject_cases (file : ObjectFile) (objectPath : String) (env : LoadEnv) (state : LoaderState) :
    (loadBpfObject file objectPath env).ends state = (.returned .success, state.install file objectPath) ∨
    ∃ outcome, outcome ≠ .returned .success ∧
      ((loadBpfObject file objectPath env).ends state = (outcome, state) ∨
        (loadBpfObject file objectPath env).ends state = (outcome, state.abandon)) := by
  unfold loadBpfObject
  cases env.found with
  | throws => exact .inr ⟨.threw, by simp, .inl rfl⟩
  | no => exact .inr ⟨.returned .errEBPFProbeLoadFailed, by simp, .inl rfl⟩
  | yes =>
    by_cases opens : env.opens = true
    · by_cases verifies : env.verifies = true
      · simp [opens, verifies]
      · exact .inr ⟨.returned .errEBPFProbeLoadFailed, by simp, .inr (by simp [opens, verifies])⟩
    · exact .inr ⟨.returned .errEBPFProbeLoadFailed, by simp, .inr (by simp [opens])⟩

theorem loadBpfObject_success {file : ObjectFile} {objectPath : String} {env : LoadEnv} {state after : LoaderState}
    (loaded : (loadBpfObject file objectPath env).ends state = (.returned .success, after)) :
    after = state.install file objectPath := by
  rcases loadBpfObject_cases file objectPath env state with done | ⟨outcome, failed, same | same⟩
  · exact (Prod.mk.inj (loaded.symm.trans done)).2
  · exact absurd (Prod.mk.inj (same.symm.trans loaded)).1 failed
  · exact absurd (Prod.mk.inj (same.symm.trans loaded)).1 failed

/-! The map updates. -/

/-- A call of one of the three setters; `granted` is the kernel's own leave. -/
inductive MapUpdate where
  | cgroupMonitored (granted : Bool) (cgroupId : UInt64) (isMonitored : Bool)
  | syscallPolicy (granted : Bool) (syscallNr : UInt32) (isBlocked : UInt8)
  | blockedIp (granted : Bool) (ipv4NetworkOrder : UInt32) (isBlocked : Bool)

def MapUpdate.apply (loader : EBPFLoader) : MapUpdate → Status × EBPFLoader
  | .cgroupMonitored granted cgroupId isMonitored => loader.setCgroupMonitored granted cgroupId isMonitored
  | .syscallPolicy granted syscallNr isBlocked => loader.setSyscallPolicy granted syscallNr isBlocked
  | .blockedIp granted ipv4NetworkOrder isBlocked => loader.setBlockedIp granted ipv4NetworkOrder isBlocked

namespace EBPFLoader

section
variable {T : Type} (loader : EBPFLoader) {find : BpfObject → Option T} {update : T → Option T}
  {store : BpfObject → T → BpfObject}

theorem updateMap_success_iff :
    (loader.updateMap find update store).1 = .success ↔
      ∃ table, loader.bpfObj.bind find = some table ∧ (update table).isSome = true := by
  rcases loader with ⟨_ | obj⟩
  · simp [updateMap]
  · cases found : find obj with
    | none => simp [updateMap, found]
    | some table =>
      cases after : update table with
      | none => simp [updateMap, found, after]
      | some new => simp [updateMap, found, after]

end

variable (loader : EBPFLoader) (granted : Bool)

/-- A hash map takes an entry if the update is granted and the map has room for the key. -/
theorem updateHash_success_iff {K V : Type} [DecidableEq K] {capacity : Nat}
    {find : BpfObject → Option (HashTable K V capacity)} {store : BpfObject → HashTable K V capacity → BpfObject}
    {key : K} {value : V} : (loader.updateMap find (·.update granted key value) store).1 = .success ↔
      granted = true ∧ ∃ table, loader.bpfObj.bind find = some table ∧ table.Room key := by
  rw [updateMap_success_iff]
  constructor
  · rintro ⟨table, found, accepted⟩
    obtain ⟨leave, room⟩ := HashTable.isSome_update.mp accepted
    exact ⟨leave, table, found, room⟩
  · rintro ⟨leave, table, found, room⟩
    exact ⟨table, found, HashTable.isSome_update.mpr ⟨leave, room⟩⟩

theorem setCgroupMonitored_success_iff (cgroupId : UInt64) (isMonitored : Bool) :
    (loader.setCgroupMonitored granted cgroupId isMonitored).1 = .success ↔
      granted = true ∧ loader.MonitorRoom cgroupId := by
  exact loader.updateHash_success_iff granted

theorem setSyscallPolicy_success_iff (syscallNr : UInt32) (isBlocked : UInt8) :
    (loader.setSyscallPolicy granted syscallNr isBlocked).1 = .success ↔
      granted = true ∧ loader.SyscallRoom syscallNr := by
  rw [setSyscallPolicy, updateMap_success_iff]
  constructor
  · rintro ⟨table, found, accepted⟩
    obtain ⟨leave, bound⟩ := ArrayTable.isSome_update.mp accepted
    exact ⟨leave, Option.isSome_iff_exists.mpr ⟨table, found⟩, bound⟩
  · rintro ⟨leave, present, bound⟩
    obtain ⟨table, found⟩ := Option.isSome_iff_exists.mp present
    exact ⟨table, found, ArrayTable.isSome_update.mpr ⟨leave, bound⟩⟩

theorem setBlockedIp_success_iff (ipv4 : UInt32) (isBlocked : Bool) :
    (loader.setBlockedIp granted ipv4 isBlocked).1 = .success ↔ granted = true ∧ loader.IpRoom ipv4 := by
  exact loader.updateHash_success_iff granted

end EBPFLoader

end Aegis.Ebpf
