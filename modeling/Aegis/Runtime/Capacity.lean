import Aegis.Library.Session
import Aegis.Runtime.Calls
import Aegis.Runtime.Enforcement

/-! The slots of the monitored map.

A termination sets the value of its cgroup to 0 and leaves the key. With ids that are never
used twice, the keys are those of all sandboxes there ever were, live or not.
-/

set_option autoImplicit false

namespace Aegis.Runtime
open Library Ebpf Policy

/-- Every live sandbox has a cgroup, and it maps to 1. -/
def AllMonitored (host : Host) : Prop :=
  ∀ id ∈ host.sandboxes, ∃ info ∈ host.cgroups.lookup id,
    ∃ loader ∈ host.ebpfLoader, loader.monitored info.cgroupId = some 1

/-- The call leaves every live sandbox monitored. -/
def LeavesMonitored (op : Op) (host : Host) : Prop := AllMonitored ((call op).ends host).2

/-- A new cgroup gets an id not used before, and its update fails only for want of a slot. -/
def FreshId (op : Op) (host : Host) : Prop :=
  match op with
  | .create _ env => env.cgroup.inode ∉ host.issued ∧ env.bpf.monitored = true
  | _ => True

/-- A creation that completes finds a slot. -/
def FindsSlot (op : Op) (host : Host) : Prop :=
  match op with
  | .create config env =>
      Completed host config env → ∀ loader ∈ host.ebpfLoader, loader.MonitorRoom env.cgroup.inode
  | _ => True

/-- Keys and live cgroups have ids that were handed out, each to one live sandbox. -/
structure Accounted (host : Host) : Prop where
  policyEngine : host.policyEngine.isSome
  ebpfLoader : ∃ loader ∈ host.ebpfLoader, ∀ key, loader.monitored key ≠ none → key ∈ host.issued
  live : ∀ id ∈ host.sandboxes, ∃ info ∈ host.cgroups.lookup id, info.cgroupId ∈ host.issued
  distinct : ∀ id ∈ host.sandboxes, ∀ other ∈ host.sandboxes, ∀ info ∈ host.cgroups.lookup id,
    ∀ info' ∈ host.cgroups.lookup other, info.cgroupId = info'.cgroupId → id = other

/-- An id that has not been handed out has no entry. -/
theorem Accounted.unset {host : Host} (accounted : Accounted host) {loader : EBPFLoader}
    (loaded : loader ∈ host.ebpfLoader) {key : UInt64} (new : key ∉ host.issued) : loader.monitored key = none := by
  obtain ⟨loader', loaded', keys⟩ := accounted.ebpfLoader
  cases Option.mem_unique loaded loaded'
  by_contra present
  exact new (keys key present)

/-- No sandbox is new, and the live ones keep their cgroup and its entry. -/
structure Retains (host after : Host) : Prop where
  policyEngine : after.policyEngine = host.policyEngine
  issued : host.issued ⊆ after.issued
  live : ∀ id ∈ after.sandboxes, id ∈ host.sandboxes ∧ after.cgroups.lookup id = host.cgroups.lookup id
  ebpfLoader : ∀ loader ∈ host.ebpfLoader, ∃ kept ∈ after.ebpfLoader,
    (∀ key, kept.monitored key ≠ none → loader.monitored key ≠ none ∨ key ∈ host.issued) ∧
    ∀ id ∈ after.sandboxes, ∀ info ∈ host.cgroups.lookup id,
      kept.monitored info.cgroupId = loader.monitored info.cgroupId

namespace Retains

variable {host after : Host}

theorem of_loader (policyEngine : after.policyEngine = host.policyEngine) (issued : host.issued ⊆ after.issued)
    (ebpfLoader : after.ebpfLoader = host.ebpfLoader)
    (live : ∀ id ∈ after.sandboxes, id ∈ host.sandboxes ∧ after.cgroups.lookup id = host.cgroups.lookup id) :
    Retains host after where
  policyEngine := policyEngine
  issued := issued
  live := live
  ebpfLoader loader loaded := ⟨loader, ebpfLoader ▸ loaded, fun _ => .inl, fun _ _ _ _ => rfl⟩

theorem accounted (retains : Retains host after) (accounted : Accounted host) : Accounted after where
  policyEngine := retains.policyEngine ▸ accounted.policyEngine
  ebpfLoader := by
    obtain ⟨loader, loaded, keys⟩ := accounted.ebpfLoader
    obtain ⟨kept, found, old, -⟩ := retains.ebpfLoader loader loaded
    refine ⟨kept, found, fun key present => retains.issued ?_⟩
    rcases old key present with before | issued
    · exact keys key before
    · exact issued
  live id member := by
    obtain ⟨before, same⟩ := retains.live id member
    obtain ⟨info, found, issued⟩ := accounted.live id before
    exact ⟨info, same ▸ found, retains.issued issued⟩
  distinct id member other member' info found info' found' equal := by
    obtain ⟨before, same⟩ := retains.live id member
    obtain ⟨before', same'⟩ := retains.live other member'
    exact accounted.distinct id before other before' info (same ▸ found) info' (same' ▸ found') equal

theorem allMonitored (retains : Retains host after) (monitored : AllMonitored host) : AllMonitored after := by
  intro id member
  obtain ⟨before, same⟩ := retains.live id member
  obtain ⟨info, found, loader, loaded, set⟩ := monitored id before
  obtain ⟨kept, current, -, entries⟩ := retains.ebpfLoader loader loaded
  exact ⟨info, same ▸ found, kept, current, (entries id member info found).trans set⟩

end Retains

theorem Unapplied.retains {host after : Host} {config : SandboxConfig} {env : CreateEnv}
    (unapplied : Unapplied host config env after) : Retains host after := by
  refine .of_loader unapplied.policyEngine unapplied.issued unapplied.ebpfLoader fun id member => ?_
  rw [unapplied.sandboxes] at member
  refine ⟨member, ?_⟩
  rcases unapplied.cgroups with same | ⟨admitted, -, grown⟩
  · rw [same]
  -- a cgroup that is left behind belongs to an id that is not live
  · rw [grown]
    exact Finmap.lookup_insert_of_ne _ fun equal => admitted.2 (equal ▸ member)

theorem terminated_retains {host : Host} (accounted : Accounted host) {sandboxId : String} {entry : SandboxInstance}
    (known : host.sandboxes.lookup sandboxId = some entry) (env : TerminateEnv) (files : FileTree) :
    Retains host (terminated host sandboxId entry env files) := by
  have listed : sandboxId ∈ host.sandboxes := Finmap.mem_of_lookup_eq_some known
  have other : ∀ id ∈ (terminated host sandboxId entry env files).sandboxes, id ≠ sandboxId ∧ id ∈ host.sandboxes :=
    fun id member => Finmap.mem_erase.mp member
  obtain ⟨own, found, issued⟩ := accounted.live sandboxId listed
  have cgroup : host.getCgroupId sandboxId = own.cgroupId := by
    rw [Host.getCgroupId, Option.mem_def.mp found]
  refine ⟨rfl, fun _ => id, fun id member => ⟨(other id member).2, Finmap.lookup_erase_ne (other id member).1⟩, ?_⟩
  intro loader loaded
  -- the id 0 stands for no cgroup, and then no map is written
  by_cases valid : 0 < host.getCgroupId sandboxId
  swap
  · refine ⟨loader, ?_, fun _ => .inl, fun _ _ _ _ => rfl⟩
    simp [terminated, Host.unmonitored, valid, Option.mem_def.mp loaded]
  refine ⟨(loader.setCgroupMonitored env.unmonitor own.cgroupId false).2, ?_, fun key present => ?_, ?_⟩
  · simp [terminated, Host.unmonitored, cgroup ▸ valid, cgroup, Option.mem_def.mp loaded]
  · by_cases same : key = own.cgroupId
    · exact .inr (same ▸ issued)
    · rw [EBPFLoader.monitored_setCgroupMonitored, if_neg fun pushed => same pushed.1] at present
      exact .inl present
  · intro id member info found'
    rw [EBPFLoader.monitored_setCgroupMonitored, if_neg]
    rintro ⟨same, -⟩
    exact (other id member).1 (accounted.distinct id (other id member).2 sandboxId listed info found' own found same)

theorem quiet_retains {host : Host} (free : host.lockDepth = 0) {op : Op} (quiet : op.Quiet) :
    Retains host ((call op).ends host).2 := by
  obtain ⟨answer, after, ends, shrinks, tables⟩ := quiet_ends free quiet
  rw [ends]
  refine .of_loader shrinks.policyEngine (fun _ member => shrinks.issued ▸ member) shrinks.ebpfLoader
    fun id member => ?_
  rcases tables with ⟨sandboxes, cgroups⟩ | cleared
  · exact ⟨sandboxes ▸ member, by rw [cgroups]⟩
  · exact absurd (cleared ▸ member) Finmap.notMem_empty

section
variable {host work : Host} {places : Location → Prop} {config : SandboxConfig} {env : CreateEnv}

/-- The loader of a host in which a creation has completed. -/
theorem completed_monitored (traced : Traced places host work) {loader : EBPFLoader}
    (loaded : host.ebpfLoader = some loader) (present : host.policyEngine.isSome) :
    ∃ kept, (completed host config env work).ebpfLoader = some kept ∧ ∀ key, kept.monitored key =
      if key = env.cgroup.inode ∧ env.bpf.monitored = true ∧ loader.MonitorRoom env.cgroup.inode then some 1
      else loader.monitored key := by
  obtain ⟨files, touched, sent, rfl⟩ := traced.frame
  obtain ⟨engine, found⟩ := Option.isSome_iff_exists.mp present
  exact ⟨_, completed_loader loaded found, monitored_enforced loader _ _ _⟩

/-- The live sandboxes after a completed creation, with their cgroups. -/
theorem completed_live (traced : Traced places host work) {id : String}
    (member : id ∈ (completed host config env work).sandboxes) :
    (id = config.sandboxId ∧
      (completed host config env work).cgroups.lookup id = some (cgroupInfo host config env)) ∨
    (id ≠ config.sandboxId ∧ id ∈ host.sandboxes ∧
      (completed host config env work).cgroups.lookup id = host.cgroups.lookup id) := by
  obtain ⟨files, touched, sent, rfl⟩ := traced.frame
  by_cases own : id = config.sandboxId
  · subst own
    exact .inl ⟨rfl, Finmap.lookup_insert _⟩
  · refine .inr ⟨own, ?_, Finmap.lookup_insert_of_ne _ own⟩
    exact (Finmap.mem_insert.mp member).resolve_left own

theorem completed_accounted (traced : Traced places host work) (accounted : Accounted host)
    (new : env.cgroup.inode ∉ host.issued) : Accounted (completed host config env work) := by
  have issued : (completed host config env work).issued = host.issued ++ [env.cgroup.inode] := rfl
  have old {id : String} (before : id ∈ host.sandboxes) {info : CgroupInfo}
      (found : info ∈ host.cgroups.lookup id) : info.cgroupId ≠ env.cgroup.inode := by
    obtain ⟨info', found', handed⟩ := accounted.live id before
    cases Option.mem_unique found found'
    exact fun same => new (same ▸ handed)
  refine ⟨?_, ?_, ?_, ?_⟩
  · obtain ⟨files, touched, sent, rfl⟩ := traced.frame
    exact accounted.policyEngine
  · obtain ⟨loader, loaded, keys⟩ := accounted.ebpfLoader
    obtain ⟨kept, found, entries⟩ := completed_monitored traced loaded accounted.policyEngine
    refine ⟨kept, found, fun key present => ?_⟩
    rw [issued, List.mem_append, List.mem_singleton]
    by_cases own : key = env.cgroup.inode
    · exact .inr own
    · rw [entries, if_neg fun pushed => own pushed.1] at present
      exact .inl (keys key present)
  · intro id member
    rw [issued]
    rcases completed_live traced member with ⟨-, found⟩ | ⟨-, before, same⟩
    · exact ⟨_, found, by simp [cgroupInfo]⟩
    · obtain ⟨info, found, handed⟩ := accounted.live id before
      exact ⟨info, same.trans found, List.mem_append_left _ handed⟩
  · intro id member other member' info found info' found' equal
    rcases completed_live traced member with ⟨own, here⟩ | ⟨-, before, same⟩
    · rcases completed_live traced member' with ⟨own', -⟩ | ⟨-, before', same'⟩
      · exact own.trans own'.symm
      · cases Option.mem_unique found here
        exact absurd equal.symm (old before' (same' ▸ found'))
    · rcases completed_live traced member' with ⟨-, here'⟩ | ⟨-, before', same'⟩
      · cases Option.mem_unique found' here'
        exact absurd equal (old before (same ▸ found))
      · exact accounted.distinct id before other before' info (same ▸ found) info' (same' ▸ found') equal

theorem completed_allMonitored_iff (traced : Traced places host work) (accounted : Accounted host)
    (monitored : AllMonitored host) (new : env.cgroup.inode ∉ host.issued) (granted : env.bpf.monitored = true)
    {loader : EBPFLoader} (loaded : host.ebpfLoader = some loader) :
    AllMonitored (completed host config env work) ↔ loader.MonitorRoom env.cgroup.inode := by
  obtain ⟨kept, found, entries⟩ := completed_monitored traced loaded accounted.policyEngine
  have unset := accounted.unset loaded new
  constructor
  · intro all
    obtain ⟨info, here, loader', current, set⟩ := all config.sandboxId (Finmap.mem_insert.mpr (.inl rfl))
    cases found.symm.trans current
    have own : info = cgroupInfo host config env := Option.mem_unique here (Finmap.lookup_insert _)
    rw [own, entries] at set
    by_contra full
    rw [if_neg fun pushed => full pushed.2.2] at set
    cases unset.symm.trans set
  · intro room id member
    rcases completed_live traced member with ⟨-, here⟩ | ⟨-, before, same⟩
    · exact ⟨_, here, kept, found, (entries _).trans (if_pos ⟨rfl, granted, room⟩)⟩
    · obtain ⟨info, here, loader', current, set⟩ := monitored id before
      cases loaded.symm.trans current
      refine ⟨info, same.trans here, kept, found, ?_⟩
      rw [entries, if_neg, set]
      rintro ⟨own, -⟩
      cases unset.symm.trans (own ▸ set)

end

/-- What one call does to the account, and when it leaves every live sandbox monitored. -/
theorem capacity_step {host : Host} (free : host.lockDepth = 0) (accounted : Accounted host)
    (monitored : AllMonitored host) {op : Op} (fresh : FreshId op host) :
    Accounted ((call op).ends host).2 ∧ (LeavesMonitored op host ↔ FindsSlot op host) := by
  -- only a creation that completes can add a live sandbox or a key
  have retaining (retains : Retains host ((call op).ends host).2) (slot : FindsSlot op host) :
      Accounted ((call op).ends host).2 ∧ (LeavesMonitored op host ↔ FindsSlot op host) :=
    ⟨retains.accounted accounted, iff_of_true (retains.allMonitored monitored) slot⟩
  cases op with
  | create config env =>
    by_cases complete : Completed host config env
    · obtain ⟨work, traced, ends⟩ := create_completes free complete
      obtain ⟨loader, loaded, -⟩ := accounted.ebpfLoader
      unfold LeavesMonitored
      rw [ends, completed_allMonitored_iff traced accounted monitored fresh.1 fresh.2 loaded]
      refine ⟨completed_accounted traced accounted fresh.1, fun room _ loader' loaded' => ?_, fun slot => ?_⟩
      · exact Option.mem_unique loaded loaded' ▸ room
      · exact slot complete loader loaded
    · exact retaining (create_unapplied free complete).retains fun reached => absurd reached complete
  | terminate sandboxId env =>
    apply retaining _ trivial
    obtain ⟨status, after, ends, ⟨-, rfl⟩ | ⟨entry, files, known, rfl⟩⟩ := terminate_ends free sandboxId env
    · rw [ends]
      exact .of_loader rfl (fun _ => id) rfl fun id member => ⟨member, rfl⟩
    · rw [ends]
      exact terminated_retains accounted known env files
  | execute sandboxId codePayload env => exact retaining (quiet_retains free trivial) trivial
  | metadata sandboxId => exact retaining (quiet_retains free trivial) trivial
  | terminateAll env => exact retaining (quiet_retains free trivial) trivial
  | exit pid => exact retaining (quiet_retains free trivial) trivial

theorem Fresh.accounted {host : Host} (fresh : Fresh host) {loader : EBPFLoader}
    (loaded : host.ebpfLoader = some loader) (empty : loader.monitoredMap = some .empty)
    (present : host.policyEngine.isSome) : Accounted host where
  policyEngine := present
  ebpfLoader := ⟨loader, loaded, fun key set => absurd (by simp [EBPFLoader.monitored, empty]) set⟩
  live id member := absurd (fresh.sandboxes ▸ member) Finmap.notMem_empty
  distinct id member := absurd (fresh.sandboxes ▸ member) Finmap.notMem_empty

/-! Counting the slots. -/

/-- So many keys are in the monitored map. -/
def Slots (n : Nat) (host : Host) : Prop :=
  ∃ loader ∈ host.ebpfLoader, ∃ table ∈ loader.monitoredMap, table.entries.keys.card = n

/-- The call is a creation that completes. -/
def Completes (op : Op) (host : Host) : Prop :=
  match op with
  | .create config env => Completed host config env
  | _ => False

instance (op : Op) (host : Host) : Decidable (Completes op host) :=
  match op with
  | .create config env => inferInstanceAs (Decidable (Completed host config env))
  | .terminate _ _ | .execute _ _ _ | .metadata _ | .terminateAll _ | .exit _ => instDecidableFalse

/-- How many creations of a run complete. -/
def completions : List Op → Host → Nat
  | [], _ => 0
  | op :: rest, host =>
      (if Completes op host then 1 else 0) +
        if ((call op).ends host).1 = .blocked then 0 else completions rest ((call op).ends host).2

theorem keys_setCgroupMonitored {loader : EBPFLoader} {table : HashTable UInt64 UInt8 1024}
    (found : loader.monitoredMap = some table) {cgroupId : UInt64} (room : table.Room cgroupId) (isMonitored : Bool) :
    ∃ after, (loader.setCgroupMonitored true cgroupId isMonitored).2.monitoredMap = some after ∧
      after.entries.keys = insert cgroupId table.entries.keys := by
  refine ⟨table.put cgroupId (if isMonitored then 1 else 0), ?_, ?_⟩
  · rw [EBPFLoader.monitoredMap_setCgroupMonitored, found]
    simp [HashTable.update, room]
  · rw [HashTable.keys_put, if_pos room]

/-- An update of a key that is in the map, granted or not, takes no slot. -/
theorem keys_setCgroupMonitored_present {loader : EBPFLoader} {table : HashTable UInt64 UInt8 1024}
    (found : loader.monitoredMap = some table) {cgroupId : UInt64} (present : cgroupId ∈ table.entries.keys)
    (granted isMonitored : Bool) :
    ∃ after, (loader.setCgroupMonitored granted cgroupId isMonitored).2.monitoredMap = some after ∧
      after.entries.keys = table.entries.keys := by
  cases granted with
  | true =>
    obtain ⟨after, current, same⟩ := keys_setCgroupMonitored found (.inl (Finmap.mem_keys.mp present)) isMonitored
    exact ⟨after, current, same.trans (Finset.insert_eq_of_mem present)⟩
  | false =>
    refine ⟨table, ?_, rfl⟩
    rw [EBPFLoader.monitoredMap_setCgroupMonitored, found]
    simp [HashTable.update]

theorem notMem_entries {loader : EBPFLoader} {table : HashTable UInt64 UInt8 1024}
    (found : table ∈ loader.monitoredMap) {key : UInt64} (unset : loader.monitored key = none) :
    key ∉ table.entries := by
  rw [EBPFLoader.monitored, Option.mem_def.mp found] at unset
  exact Finmap.lookup_eq_none.mp unset

theorem mem_keys_of_monitored {loader : EBPFLoader} {table : HashTable UInt64 UInt8 1024}
    (found : loader.monitoredMap = some table) {key : UInt64} (set : loader.monitored key ≠ none) :
    key ∈ table.entries.keys := by
  by_contra missing
  apply set
  rw [EBPFLoader.monitored, found]
  exact Finmap.lookup_eq_none.mpr (mt Finmap.mem_keys.mpr missing)

section
variable {host : Host} {n : Nat} {op : Op}

/-- A new id finds a slot as long as there is one. -/
theorem findsSlot_iff (accounted : Accounted host) (fresh : FreshId op host) (slots : Slots n host) :
    FindsSlot op host ↔ (Completes op host → n < 1024) := by
  obtain ⟨loader, loaded, table, found, rfl⟩ := slots
  cases op with
  | create config env =>
    have absent : env.cgroup.inode ∉ table.entries := notMem_entries found (accounted.unset loaded fresh.1)
    refine imp_congr_right fun _ => ⟨fun slot => ?_, fun room loader' loaded' => ?_⟩
    · obtain ⟨table', found', present | room⟩ := slot loader loaded
      · exact absurd (Option.mem_unique found found' ▸ present) absent
      · exact Option.mem_unique found found' ▸ room
    · cases Option.mem_unique loaded loaded'
      exact ⟨table, found, .inr room⟩
  | terminate | execute | metadata | terminateAll | exit => exact iff_of_true trivial False.elim

/-- A completed creation takes one. -/
theorem slots_completed {work : Host} {places : Location → Prop} {config : SandboxConfig} {env : CreateEnv}
    (traced : Traced places host work) (accounted : Accounted host) (new : env.cgroup.inode ∉ host.issued)
    (granted : env.bpf.monitored = true) (room : n < 1024) (slots : Slots n host) :
    Slots (n + 1) (completed host config env work) := by
  obtain ⟨loader, loaded, table, found, rfl⟩ := slots
  obtain ⟨engine, present⟩ := Option.isSome_iff_exists.mp accounted.policyEngine
  obtain ⟨files, touched, sent, rfl⟩ := traced.frame
  obtain ⟨after, current, grown⟩ := keys_setCgroupMonitored found (.inr room : table.Room env.cgroup.inode) true
  refine ⟨_, completed_loader loaded present, after, ?_, ?_⟩
  · rw [monitoredMap_enforced, granted]
    exact current
  · have absent := notMem_entries found (accounted.unset loaded new)
    rw [grown, Finset.card_insert_of_notMem (mt Finmap.mem_keys.mp absent)]

/-- A termination gives none back. -/
theorem slots_terminated (monitored : AllMonitored host) {sandboxId : String} {entry : SandboxInstance}
    (known : host.sandboxes.lookup sandboxId = some entry) (env : TerminateEnv) (files : FileTree)
    (slots : Slots n host) : Slots n (terminated host sandboxId entry env files) := by
  obtain ⟨loader, loaded, table, found, rfl⟩ := slots
  obtain ⟨info, own, loader', loaded', set⟩ := monitored sandboxId (Finmap.mem_of_lookup_eq_some known)
  cases Option.mem_unique loaded loaded'
  have cgroup : host.getCgroupId sandboxId = info.cgroupId := by rw [Host.getCgroupId, Option.mem_def.mp own]
  have member := mem_keys_of_monitored found (by rw [set]; simp : loader.monitored info.cgroupId ≠ none)
  obtain ⟨after, current, same⟩ := keys_setCgroupMonitored_present found member env.unmonitor false
  by_cases valid : 0 < info.cgroupId
  · refine ⟨(loader.setCgroupMonitored env.unmonitor info.cgroupId false).2, ?_, after, current, by rw [same]⟩
    simp [terminated, Host.unmonitored, cgroup, valid, Option.mem_def.mp loaded]
  · refine ⟨loader, ?_, table, found, rfl⟩
    simp [terminated, Host.unmonitored, cgroup, valid, Option.mem_def.mp loaded]

theorem slots_of_loader {after : Host} (same : after.ebpfLoader = host.ebpfLoader) (slots : Slots n host) :
    Slots n after := by
  unfold Slots
  rwa [same]

/-- Every other call keeps the number. -/
theorem slots_kept (free : host.lockDepth = 0) (monitored : AllMonitored host) (other : ¬ Completes op host)
    (slots : Slots n host) : Slots n ((call op).ends host).2 := by
  have quiet (still : op.Quiet) : Slots n ((call op).ends host).2 := by
    obtain ⟨answer, after, ends, shrinks, -⟩ := quiet_ends free still
    rw [ends]
    exact slots_of_loader shrinks.ebpfLoader slots
  cases op with
  | create config env => exact slots_of_loader (create_unapplied free other).ebpfLoader slots
  | terminate sandboxId env =>
    obtain ⟨status, after, ends, ⟨-, rfl⟩ | ⟨entry, files, known, rfl⟩⟩ := terminate_ends free sandboxId env
    · rw [ends]
      exact slots
    · rw [ends]
      exact slots_terminated monitored known env files slots
  | execute | metadata | terminateAll | exit => exact quiet trivial

/-- The slots last for a run just if no more creations complete in it than there are slots. -/
theorem findsSlot_iff_completions (ops : List Op) (free : host.lockDepth = 0) (accounted : Accounted host)
    (monitored : AllMonitored host) (slots : Slots n host) (small : n ≤ 1024) (ids : Along call FreshId ops host) :
    Along call FindsSlot ops host ↔ n + completions ops host ≤ 1024 := by
  -- by the calls of the run: each completed creation adds a slot to `n`
  induction ops generalizing host n with
  | nil => exact iff_of_true trivial small
  | cons op rest ih =>
    obtain ⟨fresh, later⟩ := ids
    have step := capacity_step free accounted monitored fresh
    have slot := findsSlot_iff accounted fresh slots
    by_cases completes : Completes op host
    · cases op with
      | create config env =>
        obtain ⟨work, traced, ends⟩ := create_completes free completes
        have count : completions (.create config env :: rest) host =
            1 + completions rest (completed host config env work) := by
          simp [completions, completes, ends]
        rw [along_cons_returned ends, count]
        by_cases room : n < 1024
        · have found := slot.mpr fun _ => room
          have ended : ((call (.create config env)).ends host).1 ≠ .blocked := by simp [ends]
          have grown : Slots (n + 1) ((call (.create config env)).ends host).2 := by
            rw [ends]
            exact slots_completed traced accounted fresh.1 fresh.2 room slots
          have total := ih (call_ends_free free _ ended) step.1 (step.2.mpr found) grown room (later ended)
          rw [ends] at total
          rw [total, and_iff_right found, Nat.add_assoc]
        · exact iff_of_false (fun along => room (slot.mp along.1 completes)) (by omega)
      | terminate | execute | metadata | terminateAll | exit => cases completes
    · have found := slot.mpr fun reached => absurd reached completes
      by_cases stuck : ((call op).ends host).1 = .blocked
      · refine iff_of_true ⟨found, fun ended => absurd stuck ended⟩ ?_
        simpa [completions, completes, stuck] using small
      · have total := ih (call_ends_free free op stuck) step.1 (step.2.mpr found)
          (slots_kept free monitored completes slots) small (later stuck)
        rw [completions, if_neg completes, if_neg stuck, Nat.zero_add, ← total]
        exact ⟨fun along => along.2 stuck, fun along => ⟨found, fun _ => along⟩⟩

end

/-- Along a run on an empty map, with ids that are never used twice, every live sandbox is
monitored after every call, if and only if each creation finds a slot for its key, that is if at
most 1024 creations of the run complete. -/
theorem runs_monitor_iff {host : Host} (fresh : Fresh host) {loader : EBPFLoader}
    (loaded : host.ebpfLoader = some loader) (empty : loader.monitoredMap = some .empty)
    (present : host.policyEngine.isSome) (ops : List Op) (ids : Along call FreshId ops host) :
    (Along call LeavesMonitored ops host ↔ Along call FindsSlot ops host) ∧
      (Along call FindsSlot ops host ↔ completions ops host ≤ 1024) := by
  have accounted := fresh.accounted loaded empty present
  have monitored : AllMonitored host := fun id member => absurd (fresh.sandboxes ▸ member) Finmap.notMem_empty
  constructor
  · refine along_congr (fun host => host.lockDepth = 0 ∧ Accounted host ∧ AllMonitored host) FreshId ?_ ?_ ops host
      ⟨fresh.free, accounted, monitored⟩ ids
    · intro op before ⟨free, accounted, monitored⟩ new
      exact (capacity_step free accounted monitored new).2
    · intro op before ⟨free, accounted, monitored⟩ new slot ended
      have step := capacity_step free accounted monitored new
      exact ⟨call_ends_free free op ended, step.1, step.2.mpr slot⟩
  · have slots : Slots 0 host := ⟨loader, loaded, .empty, empty, rfl⟩
    simpa using findsSlot_iff_completions ops fresh.free accounted monitored slots (Nat.zero_le _) ids

theorem first_sandbox_monitored :
    Along call LeavesMonitored [.create demoConfig (smoothEnv 77), .terminate demoConfig.sandboxId {}]
      (bareHost (some sysFilterLoader) (some .init)) := by
  have ids : Along call FreshId [.create demoConfig (smoothEnv 77), .terminate demoConfig.sandboxId {}]
      (bareHost (some sysFilterLoader) (some .init)) :=
    ⟨⟨List.not_mem_nil, rfl⟩, fun _ => ⟨trivial, fun _ => trivial⟩⟩
  refine (runs_monitor_iff ⟨rfl, rfl, rfl⟩ rfl rfl rfl _ ids).1.mpr ⟨fun _ loader loaded => ?_, fun _ => ?_⟩
  · cases loaded
    decide
  · exact ⟨trivial, fun _ => trivial⟩

/-! One sandbox at a time. -/

/-- Nothing is live and nothing is left over, but `n` ids were handed out and have their slots. -/
structure Idle (n : Nat) (host : Host) : Prop where
  free : host.lockDepth = 0
  sandboxes : host.sandboxes = ∅
  cgroups : host.cgroups = ∅
  children : host.children = ∅
  descriptors : host.descriptors = ∅
  policyEngine : host.policyEngine.isSome
  issued : ∀ id ∈ host.issued, id.toNat ≤ n
  ebpfLoader : ∃ loader ∈ host.ebpfLoader, ∃ table ∈ loader.monitoredMap,
    table.entries.keys.card = n ∧ ∀ key ∈ table.entries.keys, key ∈ host.issued

/-- The same sandbox is created and terminated `cycles` times and then created once more. -/
def churn (n : Nat) : Nat → List Op
  | 0 => [.create demoConfig (smoothEnv (.ofNat (n + 1)))]
  | cycles + 1 =>
      .create demoConfig (smoothEnv (.ofNat (n + 1))) :: .terminate demoConfig.sandboxId {} :: churn (n + 1) cycles

/-- At most 1024 sandboxes are live before the call and after it. -/
def FewLive (op : Op) (host : Host) : Prop :=
  host.sandboxes.keys.card ≤ 1024 ∧ ((call op).ends host).2.sandboxes.keys.card ≤ 1024

/-- The policies of a creation take a slot for its cgroup, and clearing the flag again keeps the slot. -/
theorem keys_cleared {loader : EBPFLoader} {table : HashTable UInt64 UInt8 1024}
    (found : loader.monitoredMap = some table) {cgroupId : UInt64} (room : table.Room cgroupId)
    (policy : Option SecurityPolicy) (env : BpfEnv) (granted : env.monitored = true) :
    ∃ after, ((enforced cgroupId policy env loader).setCgroupMonitored true cgroupId false).2.monitoredMap =
        some after ∧ after.entries.keys = insert cgroupId table.entries.keys := by
  obtain ⟨first, created, grown⟩ := keys_setCgroupMonitored found room true
  have monitored : (enforced cgroupId policy env loader).monitoredMap = some first := by
    rw [monitoredMap_enforced, granted, created]
  have taken : first.Room cgroupId := .inl (Finmap.mem_keys.mp (by simp [grown]))
  obtain ⟨second, cleared, same⟩ := keys_setCgroupMonitored monitored taken false
  exact ⟨second, cleared, by simp [same, grown]⟩

namespace Idle

variable {n : Nat} {host : Host}

theorem accounted (idle : Idle n host) : Accounted host where
  policyEngine := idle.policyEngine
  ebpfLoader := by
    obtain ⟨loader, loaded, table, found, -, keys⟩ := idle.ebpfLoader
    exact ⟨loader, loaded, fun key present => keys key (mem_keys_of_monitored found present)⟩
  live id member := absurd (idle.sandboxes ▸ member) Finmap.notMem_empty
  distinct id member := absurd (idle.sandboxes ▸ member) Finmap.notMem_empty

theorem allMonitored (idle : Idle n host) : AllMonitored host :=
  fun _ member => absurd (idle.sandboxes ▸ member) Finmap.notMem_empty

theorem completed (idle : Idle n host) {inode : UInt64} (valid : inode ≠ 0) :
    Completed host demoConfig (smoothEnv inode) := by
  have listed : demoConfig.sandboxId ∉ host.sandboxes := idle.sandboxes ▸ Finmap.notMem_empty
  have cgroup : demoConfig.sandboxId ∉ host.cgroups := idle.cgroups ▸ Finmap.notMem_empty
  have pid : (100 : Int) ∉ host.children := idle.children ▸ Finmap.notMem_empty
  have first : (3 : Int) ∉ host.descriptors := by simp [idle.descriptors]
  have second : (4 : Int) ∉ insert 3 host.descriptors := by simp [idle.descriptors]
  have made : CgroupMade host demoConfig (smoothEnv inode) := ⟨⟨by decide, listed⟩, cgroup, rfl⟩
  have up : TapUp host demoConfig (smoothEnv inode) :=
    ⟨⟨made, ⟨by decide, rfl, rfl, rfl⟩, valid, show (0 : Int) ≤ 3 by decide, first⟩,
      ⟨show (0 : Int) ≤ 4 by decide, second⟩, rfl⟩
  have clears : (smoothEnv 0).spawn.Clears := by decide
  have answer : (smoothEnv 0).spawn.answer = .yes := by decide
  have boots : ¬ BootThrows demoConfig (smoothEnv 0).boot ∧ BootReported demoConfig (smoothEnv 0).boot := by decide
  exact ⟨⟨⟨up, clears, show (0 : Int) < 100 by decide, pid⟩, answer⟩, boots⟩

/-- Creating and terminating a sandbox gives everything back but the slot. -/
theorem cycle (idle : Idle n host) {inode : UInt64} (number : inode.toNat = n + 1) (room : n < 1024) (work : Host)
    {places : Location → Prop} (traced : Traced places host work) {entry : SandboxInstance}
    (known : (Runtime.completed host demoConfig (smoothEnv inode) work).sandboxes.lookup demoConfig.sandboxId =
      some entry) (files : FileTree) :
    Idle (n + 1) (terminated (Runtime.completed host demoConfig (smoothEnv inode) work) demoConfig.sandboxId entry {}
      files) := by
  have listed : demoConfig.sandboxId ∉ host.sandboxes := idle.sandboxes ▸ Finmap.notMem_empty
  have cgroup : demoConfig.sandboxId ∉ host.cgroups := idle.cgroups ▸ Finmap.notMem_empty
  obtain ⟨soft, touched, sent, rfl⟩ := traced.frame
  cases known.symm.trans (Finmap.lookup_insert _)
  refine ⟨idle.free, ?_, ?_, ?_, ?_, idle.policyEngine, ?_, ?_⟩
  · exact (erase_insert listed _).trans idle.sandboxes
  · exact (erase_insert cgroup _).trans idle.cgroups
  -- the child is killed and, having exited, reaped
  · apply Finmap.ext_lookup
    intro pid
    refine (lookup_killed _ 100 pid true).trans ?_
    by_cases own : pid = 100
    · simp [own]
    · rw [if_neg fun both => own both.1]
      refine (Finmap.lookup_insert_of_ne _ own).trans ?_
      rw [idle.children]
  · simp [terminated, Host.freed, Host.closeDescriptor, Runtime.completed, Host.register, Host.policed, withChild, ready,
      cgroupInfo, forkedEntry, tapEntry, smoothEnv, idle.descriptors]
  · intro id member
    rcases List.mem_append.mp member with old | new
    · exact (idle.issued id old).trans (Nat.le_succ n)
    · rw [List.mem_singleton.mp new]
      exact number.le
  · obtain ⟨loader, loaded, table, found, size, keys⟩ := idle.ebpfLoader
    obtain ⟨engine, present⟩ := Option.isSome_iff_exists.mp idle.policyEngine
    have new : inode ∉ table.entries.keys := by
      intro member
      have bound := idle.issued inode (keys inode member)
      omega
    have valid : 0 < inode := by
      rw [UInt64.lt_iff_toNat_lt, number]
      exact Nat.succ_pos n
    obtain ⟨after, cleared, slots⟩ := keys_cleared found (.inr (size ▸ room) : table.Room inode)
      (engine.getPolicy demoConfig.securityPolicyName) (smoothEnv inode).bpf rfl
    refine ⟨_, ?_, after, cleared, ?_, ?_⟩
    · simp [terminated, Host.unmonitored, Host.getCgroupId, Runtime.completed, Host.register, Host.policed, withChild,
        ready, cgroupInfo, smoothEnv, Option.mem_def.mp loaded, present, valid]
    · rw [slots, Finset.card_insert_of_notMem new, size]
    · intro key member
      rw [slots] at member
      rcases Finset.mem_insert.mp member with own | old
      · exact List.mem_append_right _ (List.mem_singleton.mpr own)
      · exact List.mem_append_left _ (keys key old)

theorem number_succ (small : n ≤ 1024) : (UInt64.ofNat (n + 1)).toNat = n + 1 := by
  rw [UInt64.toNat_ofNat']
  omega

theorem freshId (idle : Idle n host) (small : n ≤ 1024) :
    FreshId (.create demoConfig (smoothEnv (.ofNat (n + 1)))) host := by
  refine ⟨fun used => ?_, rfl⟩
  have bound := idle.issued _ used
  rw [show (smoothEnv (.ofNat (n + 1))).cgroup.inode.toNat = n + 1 from number_succ small] at bound
  omega

theorem next_completed (idle : Idle n host) (small : n ≤ 1024) :
    Completed host demoConfig (smoothEnv (.ofNat (n + 1))) := by
  refine idle.completed fun zero => ?_
  have number := number_succ small
  rw [zero] at number
  simp at number

/-- The next creation completes, and one sandbox is live after it. -/
theorem creates (idle : Idle n host) (small : n ≤ 1024) :
    ∃ work, Traced (places host demoConfig) host work ∧
      (call (.create demoConfig (smoothEnv (.ofNat (n + 1))))).ends host = (.returned (.status .success),
        Runtime.completed host demoConfig (smoothEnv (.ofNat (n + 1))) work) ∧
      (Runtime.completed host demoConfig (smoothEnv (.ofNat (n + 1))) work).sandboxes.keys.card ≤ 1024 := by
  obtain ⟨work, traced, created⟩ := create_completes idle.free (idle.next_completed small)
  refine ⟨work, traced, created, ?_⟩
  obtain ⟨files, touched, sent, rfl⟩ := traced.frame
  have keys : (Runtime.completed host demoConfig (smoothEnv (.ofNat (n + 1)))
      { host with files := files, touched := touched, sent := sent }).sandboxes.keys =
      insert demoConfig.sandboxId host.sandboxes.keys := HashTable.keys_insert _ _ _
  rw [keys, idle.sandboxes]
  simp

theorem few_live (idle : Idle n host) : host.sandboxes.keys.card ≤ 1024 := by
  rw [idle.sandboxes]
  simp

/-- The map is full of cgroups that are gone. -/
theorem not_findsSlot (idle : Idle 1024 host) :
    ¬ FindsSlot (.create demoConfig (smoothEnv (.ofNat (1024 + 1)))) host := by
  intro slot
  obtain ⟨loader, loaded, table, found, size, keys⟩ := idle.ebpfLoader
  obtain ⟨table', found', room⟩ := slot (idle.next_completed le_rfl) loader loaded
  cases Option.mem_unique found found'
  rcases room with present | free
  · exact (idle.freshId le_rfl).1 (keys _ (Finmap.mem_keys.mpr present))
  · omega

end Idle

/-- Along the run at most one sandbox is live, and no id is used twice; the last one is not monitored. -/
theorem churn_uses_up (cycles n : Nat) (host : Host) (idle : Idle n host) (total : n + cycles = 1024) :
    Along call (fun op host => FreshId op host ∧ FewLive op host) (churn n cycles) host ∧
      ¬ Along call LeavesMonitored (churn n cycles) host := by
  -- by the cycles still to come: each leads from an idle host to one with a slot less
  induction cycles generalizing n host with
  | zero =>
    obtain rfl : n = 1024 := total
    obtain ⟨work, -, created, live⟩ := idle.creates le_rfl
    have fresh := idle.freshId le_rfl
    refine ⟨⟨⟨fresh, idle.few_live, by rw [created]; exact live⟩, fun _ => trivial⟩, fun monitored => ?_⟩
    exact idle.not_findsSlot ((capacity_step idle.free idle.accounted idle.allMonitored fresh).2.mp monitored.1)
  | succ cycles ih =>
    have small : n < 1024 := by omega
    obtain ⟨work, traced, created, live⟩ := idle.creates small.le
    have free : (completed host demoConfig (smoothEnv (.ofNat (n + 1))) work).lockDepth = 0 := by
      obtain ⟨files, touched, sent, rfl⟩ := traced.frame
      exact idle.free
    obtain ⟨status, after, ended, ⟨unknown, -⟩ | ⟨entry, files, known, rfl⟩⟩ :=
      terminate_ends free demoConfig.sandboxId {}
    · exact absurd (Finmap.mem_insert.mpr (.inl rfl)) unknown
    have next := idle.cycle (Idle.number_succ small.le) small work traced known files
    obtain ⟨given, fails⟩ := ih (n + 1) _ next (by omega)
    constructor
    · refine (along_cons_returned created _).mpr ⟨⟨idle.freshId small.le, idle.few_live, by rw [created]; exact live⟩, ?_⟩
      exact (along_cons_returned ended _).mpr ⟨⟨trivial, live, by rw [ended]; exact next.few_live⟩, given⟩
    · intro monitored
      have rest := ((along_cons_returned created _).mp monitored).2
      exact fails ((along_cons_returned ended _).mp rest).2

/-- After 1024 sandboxes that came and went, the next one is live and not monitored. -/
theorem dead_sandboxes_use_up_slots :
    Fresh (bareHost (some sysFilterLoader) (some .init)) ∧ sysFilterLoader.monitoredMap = some .empty ∧
      Along call (fun op host => FreshId op host ∧ FewLive op host) (churn 0 1024)
        (bareHost (some sysFilterLoader) (some .init)) ∧
      ¬ Along call LeavesMonitored (churn 0 1024) (bareHost (some sysFilterLoader) (some .init)) := by
  have idle : Idle 0 (bareHost (some sysFilterLoader) (some .init)) :=
    ⟨rfl, rfl, rfl, rfl, rfl, rfl, by simp [bareHost], sysFilterLoader, rfl, .empty, rfl, rfl, by simp [HashTable.empty]⟩
  exact ⟨⟨rfl, rfl, rfl⟩, rfl, churn_uses_up 1024 0 _ idle rfl⟩

end Aegis.Runtime
