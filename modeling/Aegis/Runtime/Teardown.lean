import Aegis.Runtime.Containment
import Aegis.Runtime.Enforcement

/-! `terminate_all` against `terminate_sandbox` on each id.

Both release the child, the descriptors, the cgroup and the directory of a sandbox, and
the releases of two sandboxes commute. `terminate_sandbox` also takes the cgroup off
monitoring.
-/

set_option autoImplicit false

namespace Aegis.Runtime
open Library Ebpf Policy

/-- What sandboxes hold outside the table of the manager. -/
structure Resources where
  cgroups : Finmap fun _ : String => CgroupInfo
  files : FileTree
  children : Finmap fun _ : Int => Child
  descriptors : Finset Int

def Host.resources (host : Host) : Resources := ⟨host.cgroups, host.files, host.children, host.descriptors⟩

/-- SIGKILL, then `waitpid` without waiting. -/
def killChild (children : Finmap fun _ : Int => Child) (pid : Int) (exits : Bool) : Finmap fun _ : Int => Child :=
  match children.lookup pid with
  | none => children
  | some child =>
      if 0 < pid then
        if child.exited = true ∨ exits = true then children.erase pid
        else children.insert pid { child with killed := true }
      else children

def closeFd (descriptors : Finset Int) (fd : Int) : Finset Int :=
  if 0 ≤ fd then descriptors.erase fd else descriptors

/-- What is left of a child that is killed and waited for. -/
def Child.struck (child : Child) (exits : Bool) : Option Child :=
  if child.exited = true ∨ exits = true then none else some { child with killed := true }

theorem lookup_killChild (children : Finmap fun _ : Int => Child) (pid other : Int) (exits : Bool) :
    (killChild children pid exits).lookup other =
      if other = pid ∧ 0 < pid then (children.lookup pid).bind (·.struck exits) else children.lookup other := by
  unfold killChild
  by_cases same : other = pid
  · subst same
    cases found : children.lookup other with
    | none => simp [found]
    | some child =>
      by_cases valid : 0 < other
      · by_cases gone : child.exited = true ∨ exits = true
        · simp [valid, gone, Child.struck]
        · simp [valid, gone, Child.struck]
      · simp [valid, found]
  · cases found : children.lookup pid with
    | none => simp [same]
    | some child =>
      by_cases gone : child.exited = true ∨ exits = true
      · by_cases valid : 0 < pid <;> simp [same, valid, gone, Finmap.lookup_erase_ne]
      · by_cases valid : 0 < pid <;> simp [same, valid, gone, Finmap.lookup_insert_of_ne]

theorem killed_eq (host : Host) (pid : Int) (exits : Bool) : host.killed pid exits = killChild host.children pid exits := by
  refine Finmap.ext_lookup fun other => ?_
  rw [lookup_killed, lookup_killChild]
  rfl

theorem Child.struck_comm (child : Child) (first second : Bool) :
    (child.struck first).bind (·.struck second) = (child.struck second).bind (·.struck first) := by
  unfold Child.struck
  by_cases exited : child.exited = true
  · simp [exited]
  · cases first <;> cases second <;> simp [exited]

theorem killChild_comm (children : Finmap fun _ : Int => Child) (pid other : Int) (first second : Bool) :
    killChild (killChild children pid first) other second = killChild (killChild children other second) pid first := by
  refine Finmap.ext_lookup fun found => ?_
  simp only [lookup_killChild]
  by_cases same : pid = other
  · subst same
    by_cases here : found = pid ∧ 0 < pid
    · simp only [here, and_self, if_true, Option.bind_assoc, Child.struck_comm _ first second]
    · simp [here]
  · by_cases here : found = pid ∧ 0 < pid
    · obtain ⟨rfl, valid⟩ := here
      simp [same, valid]
    · by_cases there : found = other ∧ 0 < other
      · obtain ⟨rfl, valid⟩ := there
        simp [Ne.symm same, valid]
      · simp [here, there]

theorem closeFd_comm (descriptors : Finset Int) (first second : Int) :
    closeFd (closeFd descriptors first) second = closeFd (closeFd descriptors second) first := by
  unfold closeFd
  by_cases left : 0 ≤ first <;> by_cases right : 0 ≤ second
  · simp only [left, right, if_true]
    exact Finset.erase_right_comm
  all_goals simp [left, right]

theorem removeAll_comm (tree : FileTree) (first second : Location) :
    (tree.removeAll first).removeAll second = (tree.removeAll second).removeAll first := by
  funext l
  unfold FileTree.removeAll
  by_cases left : l.Within first <;> by_cases right : l.Within second
  all_goals simp [left, right]

namespace Resources

/-- The cgroup directory of the id is removed and the descriptor closed, as far as there are any. -/
def dropCgroup (r : Resources) (sandboxId : String) : Resources :=
  match r.cgroups.lookup sandboxId with
  | none => r
  | some info =>
      { r with
        cgroups := r.cgroups.erase sandboxId
        files := r.files.removeAll info.cgroupPath.location
        descriptors := closeFd r.descriptors info.cgroupFd }

/-- The rest of what a teardown releases. -/
def dropInstance (r : Resources) (directory : Location) (entry : SandboxInstance) (exits : Bool) : Resources :=
  { r with
    files := r.files.removeAll directory
    children := killChild r.children entry.firecrackerPid exits
    descriptors := closeFd r.descriptors entry.tapFd }

/-- The teardown of one sandbox of the table. -/
def release (base : Path) (table : Finmap fun _ : String => SandboxInstance) (exits : String → Bool) (r : Resources)
    (sandboxId : String) : Resources :=
  match table.lookup sandboxId with
  | none => r
  | some entry => (r.dropCgroup sandboxId).dropInstance (base / sandboxId).location entry (exits sandboxId)

theorem dropCgroup_comm (r : Resources) {first second : String} (different : first ≠ second) :
    (r.dropCgroup first).dropCgroup second = (r.dropCgroup second).dropCgroup first := by
  unfold dropCgroup
  cases left : r.cgroups.lookup first with
  | none =>
    cases right : r.cgroups.lookup second with
    | none => simp [left]
    | some other => simp [left, Finmap.lookup_erase_ne different]
  | some info =>
    cases right : r.cgroups.lookup second with
    | none => simp [left, right, Finmap.lookup_erase_ne different.symm]
    | some other =>
      simp only [left, right, Finmap.lookup_erase_ne different, Finmap.lookup_erase_ne different.symm]
      rw [Finmap.erase_erase, removeAll_comm, closeFd_comm]

theorem dropInstance_comm (r : Resources) (first second : Location) (entry other : SandboxInstance)
    (exits exits' : Bool) :
    (r.dropInstance first entry exits).dropInstance second other exits' =
      (r.dropInstance second other exits').dropInstance first entry exits := by
  unfold dropInstance
  rw [removeAll_comm, killChild_comm, closeFd_comm]

theorem drop_comm (r : Resources) (sandboxId : String) (directory : Location) (entry : SandboxInstance) (exits : Bool) :
    (r.dropInstance directory entry exits).dropCgroup sandboxId =
      (r.dropCgroup sandboxId).dropInstance directory entry exits := by
  unfold dropCgroup dropInstance
  cases found : r.cgroups.lookup sandboxId with
  | none => rfl
  | some info =>
    dsimp only
    rw [removeAll_comm, closeFd_comm]

/-- The order of two teardowns does not matter. -/
theorem release_comm (base : Path) (table : Finmap fun _ : String => SandboxInstance) (exits : String → Bool)
    (r : Resources) (first second : String) :
    release base table exits (release base table exits r first) second =
      release base table exits (release base table exits r second) first := by
  by_cases same : first = second
  · rw [same]
  unfold release
  cases left : table.lookup first with
  | none => rfl
  | some entry =>
    cases right : table.lookup second with
    | none => rfl
    | some other =>
      dsimp only
      rw [drop_comm, dropCgroup_comm r same, dropInstance_comm, drop_comm]

theorem children_release {base : Path} {table : Finmap fun _ : String => SandboxInstance} {exits : String → Bool}
    {r : Resources} {id : String} {entry : SandboxInstance} (known : table.lookup id = some entry) :
    (r.release base table exits id).children = killChild r.children entry.firecrackerPid (exits id) := by
  unfold release dropCgroup
  rw [known]
  dsimp only
  split <;> rfl

end Resources

section
variable {host : Host} {sandboxId : String} {entry : SandboxInstance}

/-- One teardown, by whichever of the two it is done. -/
theorem resources_tornDown (known : host.sandboxes.lookup sandboxId = some entry) (exits : String → Bool) :
    (host.tornDown sandboxId entry (exits sandboxId)).resources =
      host.resources.release host.baseRuntimeDir host.sandboxes exits sandboxId := by
  unfold Resources.release
  rw [known]
  unfold Host.tornDown Host.resources Resources.dropInstance Resources.dropCgroup
  rw [killed_eq]
  unfold Host.wiped Host.cgroupFiles Host.freed Host.closeDescriptor
  dsimp only
  cases found : host.cgroups.lookup sandboxId with
  | none =>
    rw [erase_missing (Finmap.lookup_eq_none.mp found)]
    rfl
  | some info =>
    dsimp only
    rw [closeFd_comm]
    rfl

theorem terminateEach_resources (exits : String → Bool) (ids : List String) (host : Host) :
    ((terminateEach exits ids).ends host).2.resources =
      ids.foldl (Resources.release host.baseRuntimeDir host.sandboxes exits) host.resources := by
  induction ids generalizing host with
  | nil => rfl
  | cons id rest ih =>
    rw [List.foldl_cons]
    cases found : host.sandboxes.lookup id with
    | none =>
      rw [terminateEach, Proc.ends_get_bind, found]
      refine (ih host).trans ?_
      rw [Resources.release, found]
    | some entry =>
      rw [terminateEach_turn found, ih, resources_tornDown found]
      rfl

theorem terminateAll_resources (free : host.lockDepth = 0) (env : TerminateAllEnv) :
    ((call (.terminateAll env)).ends host).2.resources =
      (visitOrder env.order host.sandboxes.keys).foldl
        (Resources.release host.baseRuntimeDir host.sandboxes env.exits) host.resources := by
  have each := terminateEach_resources env.exits (visitOrder env.order host.sandboxes.keys)
    (sandboxMutex.put (sandboxMutex.depth host + 1) host)
  obtain ⟨after, ends, -⟩ := terminateEach_ends env.exits
    (visitOrder env.order host.sandboxes.keys) (sandboxMutex.put (sandboxMutex.depth host + 1) host)
  unfold call
  rw [Proc.ends_bind_returned (terminateAll_of_each free ends)]
  rw [ends] at each
  exact each

end

/-! The children after several teardowns. -/

section
variable {base : Path} {table : Finmap fun _ : String => SandboxInstance} {exits : String → Bool} {pid : Int}

/-- The sandbox has this child, and a teardown signals it. -/
def Signals (table : Finmap fun _ : String => SandboxInstance) (pid : Int) (id : String) : Prop :=
  ∃ entry, table.lookup id = some entry ∧ entry.firecrackerPid = pid ∧ 0 < pid

theorem lookup_release_of_not_signals {r : Resources} {id : String} (other : ¬ Signals table pid id) :
    (r.release base table exits id).children.lookup pid = r.children.lookup pid := by
  cases known : table.lookup id with
  | none => rw [Resources.release, known]
  | some entry =>
    rw [Resources.children_release known, lookup_killChild, if_neg]
    rintro ⟨rfl, positive⟩
    exact other ⟨entry, known, rfl, positive⟩

theorem lookup_foldl_of_not_signals {ids : List String} (others : ∀ id ∈ ids, ¬ Signals table pid id) (r : Resources) :
    (ids.foldl (Resources.release base table exits) r).children.lookup pid = r.children.lookup pid := by
  induction ids generalizing r with
  | nil => rfl
  | cons id rest ih =>
    rw [List.foldl_cons, ih fun later member => others later (List.mem_cons_of_mem _ member)]
    exact lookup_release_of_not_signals (others id List.mem_cons_self)

theorem Child.struck_killed {child after : Child} {exits : Bool} (left : child.struck exits = some after) :
    after.killed = true := by
  unfold Child.struck at left
  split at left
  · exact nomatch left
  · cases left
    rfl

/-- A child that is there after its teardown has been killed. -/
theorem killed_release {r : Resources} {id : String} (own : Signals table pid id) {child : Child}
    (found : (r.release base table exits id).children.lookup pid = some child) : child.killed = true := by
  obtain ⟨entry, known, rfl, positive⟩ := own
  rw [Resources.children_release known, lookup_killChild, if_pos ⟨rfl, positive⟩] at found
  obtain ⟨before, -, left⟩ := Option.bind_eq_some_iff.mp found
  exact Child.struck_killed left

theorem killed_foldl_of_killed {r : Resources} (ids : List String)
    (killed : ∀ child, r.children.lookup pid = some child → child.killed = true) {child : Child}
    (found : (ids.foldl (Resources.release base table exits) r).children.lookup pid = some child) :
    child.killed = true := by
  induction ids generalizing r with
  | nil => exact killed child found
  | cons id rest ih =>
    refine ih (fun after left => ?_) found
    by_cases own : Signals table pid id
    · exact killed_release own left
    · rw [lookup_release_of_not_signals own] at left
      exact killed after left

theorem killed_foldl {ids : List String} {id : String} (listed : id ∈ ids) (own : Signals table pid id) {r : Resources}
    {child : Child} (found : (ids.foldl (Resources.release base table exits) r).children.lookup pid = some child) :
    child.killed = true := by
  induction ids generalizing r with
  | nil => exact nomatch listed
  | cons first rest ih =>
    rcases List.mem_cons.mp listed with rfl | later
    · exact killed_foldl_of_killed rest (fun after left => killed_release own left) found
    · exact ih later found

end

/-- The map of the loaded object that says which cgroups are monitored. -/
def Host.monitoredMap (host : Host) : Option (HashTable UInt64 UInt8 1024) :=
  host.ebpfLoader.bind EBPFLoader.monitoredMap

/-- One `terminate_sandbox` for each id. -/
def singly (exits granted : String → Bool) (order : List String) : List Op :=
  order.map fun id => .terminate id { exits := exits id, unmonitor := granted id }

/-- The update by which a termination takes its cgroup off monitoring; id 0 is no cgroup. -/
def unwatch (host : Host) (granted : String → Bool) (table : HashTable UInt64 UInt8 1024) (id : String) :
    HashTable UInt64 UInt8 1024 :=
  table.offer (granted id && decide (0 < host.getCgroupId id)) (host.getCgroupId id) 0

section
variable {host : Host} {sandboxId : String} {entry : SandboxInstance}

theorem monitoredMap_terminated (host : Host) (sandboxId : String) (entry : SandboxInstance) (exits : Bool)
    (granted : String → Bool) (files : FileTree) :
    (terminated host sandboxId entry { exits, unmonitor := granted sandboxId } files).monitoredMap =
      host.monitoredMap.map (unwatch host granted · sandboxId) := by
  unfold terminated Host.monitoredMap Host.unmonitored unwatch
  cases loaded : host.ebpfLoader with
  | none => rfl
  | some loader =>
    simp only [Option.map_some, Option.bind_some]
    by_cases valid : 0 < host.getCgroupId sandboxId
    · simp [valid, EBPFLoader.monitoredMap_setCgroupMonitored, HashTable.offer]
    · simp [valid, HashTable.offer, HashTable.update]

/-- What a termination does to the other ids. -/
theorem getCgroupId_terminated {other : String} (different : other ≠ sandboxId) (env : TerminateEnv)
    (files : FileTree) : (terminated host sandboxId entry env files).getCgroupId other = host.getCgroupId other := by
  unfold Host.getCgroupId
  rw [show (terminated host sandboxId entry env files).cgroups = host.cgroups.erase sandboxId from rfl,
    Finmap.lookup_erase_ne different]

theorem resources_terminated (known : host.sandboxes.lookup sandboxId = some entry) (exits granted : String → Bool) :
    (terminated host sandboxId entry { exits := exits sandboxId, unmonitor := granted sandboxId }
      (host.wiped sandboxId)).resources =
        host.resources.release host.baseRuntimeDir host.sandboxes exits sandboxId :=
  resources_tornDown known exits

theorem terminate_known (free : host.lockDepth = 0) (known : host.sandboxes.lookup sandboxId = some entry)
    (env : TerminateEnv) :
    (call (.terminate sandboxId env)).ends host =
      (.returned (.status .success), terminated host sandboxId entry env (host.wiped sandboxId)) := by
  have enters : host.lockDepth = 0 ∨ Relock.plain = .reentrant := .inl free
  exact Proc.ends_bind_returned (terminateSandbox_wipes enters known env)

/-- The singles, one after the other. -/
theorem singly_ends (free : host.lockDepth = 0) (exits granted : String → Bool) {order : List String}
    (once : order.Nodup) (live : ∀ id ∈ order, id ∈ host.sandboxes) :
    ∃ after, (session call (singly exits granted order)).ends host = (.returned (), after) ∧
      (∀ id, after.sandboxes.lookup id = if id ∈ order then none else host.sandboxes.lookup id) ∧
      after.resources = order.foldl (Resources.release host.baseRuntimeDir host.sandboxes exits) host.resources ∧
      after.monitoredMap = host.monitoredMap.map (order.foldl (unwatch host granted)) := by
  induction order generalizing host with
  | nil => exact ⟨host, rfl, fun id => by simp, rfl, by simp [Option.map_id']⟩
  | cons id rest ih =>
    obtain ⟨fresh, once⟩ := List.nodup_cons.mp once
    obtain ⟨entry, known⟩ := Finmap.mem_iff.mp (live id List.mem_cons_self)
    have first := terminate_known free known { exits := exits id, unmonitor := granted id }
    have other {later : String} (member : later ∈ rest) : later ≠ id := fun same => fresh (same ▸ member)
    have sandboxes {later : String} (different : later ≠ id) :
        (host.sandboxes.erase id).lookup later = host.sandboxes.lookup later := Finmap.lookup_erase_ne different
    -- what the rest finds of its own ids is what was there at the start
    have live' : ∀ later ∈ rest, later ∈ host.sandboxes.erase id := fun later member =>
      Finmap.mem_erase.mpr ⟨other member, live later (List.mem_cons_of_mem _ member)⟩
    obtain ⟨after, ends, table, resources, monitored⟩ :=
      @ih (terminated host id entry { exits := exits id, unmonitor := granted id } (host.wiped id)) free once live'
    refine ⟨after, (session_cons_returned first _).trans ends, ?_, ?_, ?_⟩
    · intro later
      rw [table]
      by_cases same : later = id
      · subst same
        simp [fresh, terminated]
      · simp [same, terminated, sandboxes same]
    · rw [resources, resources_terminated known, List.foldl_cons]
      refine List.foldl_ext _ _ _ fun r later member => ?_
      unfold Resources.release
      rw [show (terminated host id entry { exits := exits id, unmonitor := granted id } (host.wiped id)).sandboxes.lookup
        later = host.sandboxes.lookup later from sandboxes (other member)]
      rfl
    · rw [monitored, monitoredMap_terminated, Option.map_map]
      congr 1
      funext start
      refine List.foldl_ext _ _ _ fun t later member => ?_
      rw [unwatch, getCgroupId_terminated (other member)]
      rfl

end

/-- The two teardowns have left the same behind. -/
structure SameState (bulk single : Host) : Prop where
  sandboxes : bulk.sandboxes = single.sandboxes
  resources : bulk.resources = single.resources
  monitoredMap : bulk.monitoredMap = single.monitoredMap

/-- Taking the sandbox off monitoring would change nothing: there is no map or no cgroup, the
update is refused, or the map says so already. -/
def AlreadyOff (host : Host) (granted : Bool) (sandboxId : String) : Prop :=
  ∀ table ∈ host.monitoredMap, granted = true → 0 < host.getCgroupId sandboxId →
    table.Room (host.getCgroupId sandboxId) → table.lookup (host.getCgroupId sandboxId) = some 0

section
variable {host : Host}

theorem unwatch_eq_self_iff {granted : String → Bool} {table : HashTable UInt64 UInt8 1024} {id : String} :
    unwatch host granted table id = table ↔ (granted id = true → 0 < host.getCgroupId id →
      table.Room (host.getCgroupId id) → table.lookup (host.getCgroupId id) = some 0) := by
  unfold unwatch
  rw [HashTable.offer_eq_self_iff, Bool.and_eq_true, decide_eq_true_iff, and_imp]

/-- The map is as it was if no single termination would have changed it. -/
theorem monitoredMap_singly_iff (granted : String → Bool) (order : List String) :
    host.monitoredMap = host.monitoredMap.map (order.foldl (unwatch host granted)) ↔
      ∀ id ∈ order, AlreadyOff host (granted id) id := by
  unfold AlreadyOff
  cases host.monitoredMap with
  | none => simp
  | some table =>
    have each := HashTable.foldl_offer_eq_self_iff (fun id => granted id && decide (0 < host.getCgroupId id))
      host.getCgroupId 0 order table
    rw [Option.map_some, Option.some_inj, eq_comm]
    refine each.trans (forall₂_congr fun id _ => ?_)
    simp only [Option.mem_some_iff, forall_eq']
    exact unwatch_eq_self_iff

theorem monitoredMap_terminateAll (free : host.lockDepth = 0) (env : TerminateAllEnv) :
    ∃ after, (call (.terminateAll env)).ends host = (.returned .done, after) ∧ after.sandboxes = ∅ ∧
      after.monitoredMap = host.monitoredMap := by
  obtain ⟨after, ends, shrinks, cleared⟩ := terminateAll_ends free env
  refine ⟨after, Proc.ends_bind_returned ends, cleared, ?_⟩
  rw [Host.monitoredMap, shrinks.ebpfLoader, Host.monitoredMap]

end

/-- Both teardowns end, and they leave the same state if and only if no update of the second
changes the map of the monitored cgroups. -/
theorem teardowns_agree_iff {host : Host} (reached : Reachable host) (env : TerminateAllEnv) {order : List String}
    (once : order.Nodup) (every : order.toFinset = host.sandboxes.keys) (granted : String → Bool) :
    ∃ bulk single, (call (.terminateAll env)).ends host = (.returned .done, bulk) ∧
      (session call (singly env.exits granted order)).ends host = (.returned (), single) ∧
      (SameState bulk single ↔ ∀ id ∈ host.sandboxes, AlreadyOff host (granted id) id) := by
  have free := reached.tidy.free
  have listed (id : String) : id ∈ order ↔ id ∈ host.sandboxes := by
    rw [← List.mem_toFinset, every, Finmap.mem_keys]
  obtain ⟨bulk, all, cleared, kept⟩ := monitoredMap_terminateAll free env
  obtain ⟨single, ends, table, resources, monitored⟩ :=
    singly_ends free env.exits granted once fun id member => (listed id).mp member
  refine ⟨bulk, single, all, ends, ?_⟩
  have emptied : single.sandboxes = ∅ := by
    refine Finmap.ext_lookup fun id => ?_
    rw [table, Finmap.lookup_empty]
    split
    · rfl
    · rename_i out
      exact Finmap.lookup_eq_none.mpr (mt (listed id).mpr out)
  -- both visit the same ids, each in an order of its own
  have same : bulk.resources = single.resources := by
    have visited := terminateAll_resources free env
    rw [all] at visited
    rw [visited, resources]
    refine List.Perm.foldl_eq' ?_ (fun first _ second _ r => Resources.release_comm _ _ _ r first second) _
    refine (List.perm_ext_iff_of_nodup (nodup_visitOrder _ _) once).mpr fun id => ?_
    rw [mem_visitOrder, Finmap.mem_keys, listed]
  constructor
  · intro agree id live
    refine (monitoredMap_singly_iff granted order).mp ?_ id ((listed id).mpr live)
    rw [← monitored, ← agree.monitoredMap, kept]
  · intro off
    refine ⟨cleared.trans emptied.symm, same, ?_⟩
    rw [kept, monitored]
    exact (monitoredMap_singly_iff granted order).mpr fun id member => off id ((listed id).mp member)

/-- The host after one creation. -/
def oneSandbox (loader : Option EBPFLoader) : Host :=
  ((call (.create demoConfig (smoothEnv 77))).ends (bareHost loader (some .init))).2

theorem oneSandbox_eq (loader : Option EBPFLoader) :
    Reachable (oneSandbox loader) ∧ (oneSandbox loader).sandboxes.keys = {"sbx-9f82a1"} ∧
      (oneSandbox loader).getCgroupId "sbx-9f82a1" = 77 ∧
      (oneSandbox loader).ebpfLoader = loader.map (enforced 77 (PolicyEngine.init.getPolicy "strict_python") {}) := by
  have complete : Completed (bareHost none none) demoConfig (smoothEnv 77) := by decide
  obtain ⟨work, traced, ends⟩ := create_completes rfl
    (show Completed (bareHost loader (some .init)) demoConfig (smoothEnv 77) from complete)
  have reached : Reachable (oneSandbox loader) := by
    refine .call (.fresh ⟨rfl, rfl, rfl⟩) _ ?_
    rw [ends]
    exact fun stuck => nomatch stuck
  refine ⟨reached, ?_⟩
  rw [oneSandbox, ends]
  have tables : Registered _ demoConfig (smoothEnv 77) _ := completed_registered traced
  obtain ⟨entry, -, grown⟩ := tables.sandboxes
  refine ⟨?_, ?_, ?_⟩
  · rw [grown, HashTable.keys_insert]
    rfl
  · unfold Host.getCgroupId
    rw [tables.cgroups, show "sbx-9f82a1" = demoConfig.sandboxId from rfl, Finmap.lookup_insert]
    rfl
  · obtain ⟨files, touched, sent, rfl⟩ := traced.frame
    cases loader with
    | none => exact completed_bare (.inl rfl)
    | some loader => exact completed_loader rfl rfl

/-- Without a loader there is no map to tell the two apart. -/
theorem unmonitored_teardowns_agree :
    ∃ bulk single, (call (.terminateAll {})).ends (oneSandbox none) = (.returned .done, bulk) ∧
      (session call (singly (fun _ => true) (fun _ => true) ["sbx-9f82a1"])).ends (oneSandbox none) =
        (.returned (), single) ∧ SameState bulk single := by
  obtain ⟨reached, keys, -, maps⟩ := oneSandbox_eq none
  obtain ⟨bulk, single, all, ends, agree⟩ :=
    teardowns_agree_iff reached {} (List.nodup_singleton "sbx-9f82a1") (by rw [keys]; rfl) fun _ => true
  refine ⟨bulk, single, all, ends, agree.mpr fun id _ table present => ?_⟩
  rw [Host.monitoredMap, maps] at present
  exact nomatch present

/-- With one sandbox under monitoring, `terminate_all` leaves its cgroup id set to 1 in the map. -/
theorem terminateAll_leaves_monitored :
    Reachable (oneSandbox (some sysFilterLoader)) ∧
      ¬ SameState ((call (.terminateAll {})).ends (oneSandbox (some sysFilterLoader))).2
        ((session call (singly (fun _ => true) (fun _ => true) ["sbx-9f82a1"])).ends
          (oneSandbox (some sysFilterLoader))).2 := by
  obtain ⟨reached, keys, cgroup, maps⟩ := oneSandbox_eq (some sysFilterLoader)
  have free := reached.tidy.free
  refine ⟨reached, fun same => ?_⟩
  obtain ⟨bulk, all, -, kept⟩ := monitoredMap_terminateAll free {}
  have live : ∀ id ∈ ["sbx-9f82a1"], id ∈ (oneSandbox (some sysFilterLoader)).sandboxes := by
    intro id member
    rw [← Finmap.mem_keys, keys]
    simpa using member
  obtain ⟨single, ends, -, -, monitored⟩ :=
    singly_ends free (fun _ => true) (fun _ => true) (List.nodup_singleton "sbx-9f82a1") live
  rw [all, ends] at same
  have off := (monitoredMap_singly_iff (fun _ => true) ["sbx-9f82a1"]).mp
    (by rw [← monitored, ← same.monitoredMap, kept]) "sbx-9f82a1" List.mem_cons_self
  unfold AlreadyOff Host.monitoredMap at off
  rw [maps, cgroup] at off
  have room : sysFilterLoader.MonitorRoom 77 := by decide
  have on : (enforced 77 (PolicyEngine.init.getPolicy "strict_python") {} sysFilterLoader).monitored 77 = some 1 := by
    rw [monitored_enforced, if_pos ⟨rfl, rfl, room⟩]
  obtain ⟨table, present, stored⟩ := Option.bind_eq_some_iff.mp on
  have cleared := off table present rfl (by decide) (.inl (Finmap.mem_of_lookup_eq_some stored))
  rw [stored] at cleared
  exact absurd cleared (by decide)

end Aegis.Runtime
