import Aegis.Ebpf.Settings

/-! Which of the loaded programs a monitoring setting reaches. -/

set_option autoImplicit false

namespace Aegis.Ebpf
open Library

inductive LoaderOp where
  | load (file : ObjectFile) (objectPath : String) (env : LoadEnv)
  | update (update : MapUpdate)

def loaderCall : LoaderOp → Proc LoaderState Status
  | .load file objectPath env => loadBpfObject file objectPath env
  | .update update => do
      let state ← Proc.get
      Proc.modify fun state => { state with loader := (update.apply state.loader).2 }
      pure (update.apply state.loader).1

theorem update_ends (update : MapUpdate) (state : LoaderState) :
    (loaderCall (.update update)).ends state =
      (.returned (update.apply state.loader).1, { state with loader := (update.apply state.loader).2 }) := rfl

/-- Whether the map of sys_filter has the cgroup monitored. -/
def SysFilter.Monitors (maps : SysFilter) (cgroupId : UInt64) : Prop :=
  ∃ value, maps.aegisMonitoredCgroups.lookup cgroupId = some value ∧ value ≠ 0

/-- Each program of the object that has a map of monitored cgroups has this one monitored or not. -/
structure BpfObject.Treats (obj : BpfObject) (cgroupId : UInt64) (isMonitored : Bool) : Prop where
  sysFilter : ∀ maps ∈ obj.sysFilter, (maps.Monitors cgroupId ↔ isMonitored = true)
  processMonitor : ∀ maps ∈ obj.processMonitor, (maps.Monitors cgroupId ↔ isMonitored = true)

/-- All objects in the kernel. -/
def LoaderState.objects (state : LoaderState) : List BpfObject := state.abandoned ++ state.loader.bpfObj.toList

/-- A monitoring setting that returns Success reaches every program loaded so far. -/
def Reaches (op : LoaderOp) (state : LoaderState) : Prop :=
  match op with
  | .update (.cgroupMonitored _ cgroupId isMonitored) =>
      ((loaderCall op).ends state).1 = .returned .success →
        ∀ obj ∈ ((loaderCall op).ends state).2.objects, obj.Treats cgroupId isMonitored
  | _ => True

/-- A monitoring setting that the current object accepts is in force already in every object
that was loaded before it. -/
def AbandonedAgree (op : LoaderOp) (state : LoaderState) : Prop :=
  match op with
  | .update (.cgroupMonitored granted cgroupId isMonitored) =>
      granted = true → state.loader.MonitorRoom cgroupId → ∀ obj ∈ state.abandoned, obj.Treats cgroupId isMonitored
  | _ => True

/-- At most one program of the current object has a map of monitored cgroups. -/
def LoaderState.Single (state : LoaderState) : Prop :=
  ∀ obj ∈ state.loader.bpfObj, obj.sysFilter = none ∨ obj.processMonitor = none

theorem ObjectFile.single (file : ObjectFile) : file.object.sysFilter = none ∨ file.object.processMonitor = none := by
  cases file with
  | sysFilter => exact .inr rfl
  | netFilter => exact .inl rfl
  | processMonitor => exact .inl rfl

section
variable {obj : BpfObject} (single : obj.sysFilter = none ∨ obj.processMonitor = none)
include single

theorem BpfObject.setMonitoredCgroups_single (table : HashTable UInt64 UInt8 1024) :
    (obj.setMonitoredCgroups table).sysFilter = none ∨ (obj.setMonitoredCgroups table).processMonitor = none := by
  rcases obj with ⟨sys, net, proc⟩
  cases sys with
  | none => exact .inl rfl
  | some maps =>
    obtain absent : proc = none := by simpa using single
    exact .inr absent

theorem BpfObject.setSyscallPolicy_single (table : ArrayTable UInt8 512) :
    (obj.setSyscallPolicy table).sysFilter = none ∨ (obj.setSyscallPolicy table).processMonitor = none := by
  rcases single with absent | absent
  · exact .inl (by simp [setSyscallPolicy, absent])
  · exact .inr absent

end

/-- What an update does to the object is to store a map in it, or nothing. -/
theorem EBPFLoader.updateMap_object {T : Type} (loader : EBPFLoader) (find : BpfObject → Option T)
    (update : T → Option T) (store : BpfObject → T → BpfObject) {P : BpfObject → Prop}
    (stores : ∀ obj table, P obj → P (store obj table)) (before : ∀ obj ∈ loader.bpfObj, P obj) :
    ∀ obj ∈ (loader.updateMap find update store).2.bpfObj, P obj := by
  rcases loader with ⟨_ | obj⟩
  · simp [updateMap]
  · have holds : P obj := before obj rfl
    cases found : (find obj).bind update with
    | none => simpa [updateMap, found] using holds
    | some table => simpa [updateMap, found] using stores obj table holds

theorem loaderCall_single {op : LoaderOp} {state : LoaderState} (single : state.Single) :
    ((loaderCall op).ends state).2.Single := by
  cases op with
  | load file objectPath env =>
    unfold loaderCall
    rcases loadBpfObject_cases file objectPath env state with done | ⟨outcome, -, same | gone⟩
    · rw [done]
      intro obj current
      cases current
      exact file.single
    · rw [same]
      exact single
    · rw [gone]
      intro obj current
      cases current
  | update update =>
    rw [update_ends]
    cases update with
    | cgroupMonitored granted cgroupId isMonitored =>
      exact state.loader.updateMap_object _ _ _ (fun _ table before => BpfObject.setMonitoredCgroups_single before table)
        single
    | syscallPolicy granted syscallNr isBlocked =>
      exact state.loader.updateMap_object _ _ _ (fun _ table before => BpfObject.setSyscallPolicy_single before table)
        single
    | blockedIp granted ipv4 isBlocked =>
      exact state.loader.updateMap_object _ _ _ (fun _ _ before => before) single

/-- A setting that is accepted is in force in the current object. -/
theorem current_treats {state : LoaderState} (single : state.Single) {granted : Bool} {cgroupId : UInt64}
    {isMonitored : Bool} (accepted : granted = true) (room : state.loader.MonitorRoom cgroupId) :
    ∀ obj ∈ (state.loader.setCgroupMonitored granted cgroupId isMonitored).2.bpfObj, obj.Treats cgroupId isMonitored := by
  intro obj current
  have set := state.loader.monitored_setCgroupMonitored granted cgroupId cgroupId isMonitored
  rw [if_pos ⟨rfl, accepted, room⟩, EBPFLoader.monitored, EBPFLoader.monitoredMap, Option.mem_def.mp current] at set
  have alone : obj.sysFilter = none ∨ obj.processMonitor = none :=
    state.loader.updateMap_object _ _ _ (fun _ table before => BpfObject.setMonitoredCgroups_single before table) single
      obj current
  rcases obj with ⟨_ | sys, net, _ | proc⟩
  · exact ⟨by simp, by simp⟩
  · refine ⟨by simp, ?_⟩
    rintro maps ⟨⟩
    have found : proc.aegisMonitoredCgroupsProc.lookup cgroupId = some (if isMonitored then 1 else 0) := set
    cases isMonitored <;> simp [ProcessMonitor.Monitors, found]
  · refine ⟨?_, by simp⟩
    rintro maps ⟨⟩
    have found : sys.aegisMonitoredCgroups.lookup cgroupId = some (if isMonitored then 1 else 0) := set
    cases isMonitored <;> simp [SysFilter.Monitors, found]
  · simp at alone

theorem reaches_iff {op : LoaderOp} {state : LoaderState} (single : state.Single) :
    Reaches op state ↔ AbandonedAgree op state := by
  match op with
  | .load _ _ _ => exact Iff.rfl
  | .update (.syscallPolicy _ _ _) => exact Iff.rfl
  | .update (.blockedIp _ _ _) => exact Iff.rfl
  | .update (.cgroupMonitored granted cgroupId isMonitored) =>
    have success := state.loader.setCgroupMonitored_success_iff granted cgroupId isMonitored
    constructor
    · intro reaches accepted room obj abandoned
      have returned : (state.loader.setCgroupMonitored granted cgroupId isMonitored).1 = .success :=
        success.mpr ⟨accepted, room⟩
      exact reaches (congrArg Outcome.returned returned) obj (List.mem_append_left _ abandoned)
    · intro agree returned obj member
      obtain ⟨accepted, room⟩ := success.mp (Outcome.returned.inj returned)
      rcases List.mem_append.mp member with abandoned | current
      · exact agree accepted room obj abandoned
      · exact current_treats single accepted room obj (Option.mem_toList.mp current)

/-- Along any loads and updates, each monitoring setting that returns Success reaches every loaded
program, if and only if each such setting was in force before in the objects that were loaded
before the current one. -/
theorem settings_reach_iff (ops : List LoaderOp) :
    Along loaderCall Reaches ops {} ↔ Along loaderCall AbandonedAgree ops {} := by
  refine along_congr LoaderState.Single (fun _ _ => True) ?_ ?_ ops {} ?_ (along_of_forall (fun _ _ => trivial) ops _)
  · exact fun op state single _ => reaches_iff single
  · exact fun op state single _ _ _ => loaderCall_single single
  · intro obj current
    cases current

/-- sys_filter is loaded, then process_monitor, and then a cgroup is monitored. -/
def twoObjects : List LoaderOp :=
  [.load .sysFilter "sys_filter.bpf.o" {}, .load .processMonitor "process_monitor.bpf.o" {},
    .update (.cgroupMonitored true 77 true)]

/-- The update returns Success and reaches process_monitor only. -/
theorem second_object_hides_first : ¬ Along loaderCall Reaches twoObjects {} := by
  rw [twoObjects, along_cons_returned rfl, along_cons_returned rfl]
  rintro ⟨-, -, reaches, -⟩
  have treats := reaches (by decide) ObjectFile.sysFilter.object (List.mem_cons_self ..)
  obtain ⟨value, found, -⟩ := (treats.sysFilter .fresh rfl).mpr rfl
  cases found

end Aegis.Ebpf
