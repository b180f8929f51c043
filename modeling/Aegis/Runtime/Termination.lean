import Aegis.Runtime.Creation

/-! How the operations other than creation end. -/

set_option autoImplicit false

namespace Aegis.Runtime
open Library Ebpf Policy

/-- The children after one has been killed and waited for. -/
def Host.killed (host : Host) (pid : Int) (exits : Bool) : Finmap fun _ : Int => Child :=
  if 0 < pid then ((host.updateChild pid fun child => { child with killed := true }).reap pid exits).children
  else host.children

theorem lookup_killed (host : Host) (pid other : Int) (exits : Bool) :
    (host.killed pid exits).lookup other =
      if other = pid ∧ 0 < pid then
        (host.children.lookup pid).bind fun child =>
          if child.exited = true ∨ exits = true then none else some { child with killed := true }
      else host.children.lookup other := by
  unfold Host.killed
  by_cases valid : 0 < pid
  swap
  · simp [valid]
  rw [if_pos valid]
  by_cases same : other = pid
  · subst same
    cases found : host.children.lookup other with
    | none => simp [Host.reap, Host.updateChild, found]
    | some child =>
      by_cases gone : child.exited = true ∨ exits = true
      · simp [Host.reap, Host.updateChild, found, gone, valid]
      · simp [Host.reap, Host.updateChild, found, gone, valid]
  · cases found : host.children.lookup pid with
    | none => simp [Host.reap, Host.updateChild, found, same]
    | some child =>
      by_cases gone : child.exited = true ∨ exits = true
      · simp [Host.reap, Host.updateChild, found, gone, same, Finmap.lookup_erase_ne, Finmap.lookup_insert_of_ne]
      · simp [Host.reap, Host.updateChild, found, gone, same, Finmap.lookup_insert_of_ne]

theorem killFirecracker_ends (host : Host) (pid : Int) (exits : Bool) :
    (killFirecracker pid exits).ends host = (.returned (), { host with children := host.killed pid exits }) := by
  unfold killFirecracker Host.killed
  by_cases valid : 0 < pid
  · simp [valid, Host.reap, Host.updateChild]
  · simp [valid]

/-- The loader after the cgroup of the sandbox has been taken off monitoring. -/
def Host.unmonitored (host : Host) (sandboxId : String) (granted : Bool) : Option EBPFLoader :=
  host.ebpfLoader.map fun loader =>
    if 0 < host.getCgroupId sandboxId then
      (loader.setCgroupMonitored granted (host.getCgroupId sandboxId) false).2
    else loader

theorem unmonitor_ends (host : Host) (sandboxId : String) (granted : Bool) :
    (unmonitor sandboxId granted).ends host =
      (.returned (), { host with ebpfLoader := host.unmonitored sandboxId granted }) := by
  unfold unmonitor
  rw [Proc.ends_get_bind]
  cases loaded : host.ebpfLoader with
  | none =>
    have same : host.unmonitored sandboxId granted = host.ebpfLoader := by simp [Host.unmonitored, loaded]
    rw [same]
    rfl
  | some loader =>
    by_cases valid : 0 < host.getCgroupId sandboxId
    · simp [valid, updateLoader, Host.updateLoader, Host.unmonitored, loaded]
    · have same : host.unmonitored sandboxId granted = host.ebpfLoader := by
        simp [Host.unmonitored, loaded, valid]
      simp [valid, same]

/-- The host after `destroy_cgroup`, known or not. -/
def Host.dropped (host : Host) (sandboxId : String) : Host :=
  match host.cgroups.lookup sandboxId with
  | some info => host.dropCgroup sandboxId info
  | none => host

theorem destroyCgroup_ends (host : Host) (sandboxId : String) :
    ∃ status, (destroyCgroup sandboxId).ends host = (.returned status, host.dropped sandboxId) := by
  unfold Host.dropped
  cases found : host.cgroups.lookup sandboxId with
  | none => exact ⟨_, destroyCgroup_unknown found⟩
  | some info => exact ⟨_, destroyCgroup_known found⟩

/-- The places `destroy_cgroup` hands to a removal. -/
def Host.cgroupPlace (host : Host) (sandboxId : String) : List Location :=
  ((host.cgroups.lookup sandboxId).map (·.cgroupPath.location)).toList

/-- The descriptors `destroy_cgroup` leaves open. -/
def Host.freed (host : Host) (sandboxId : String) : Finset Int :=
  match host.cgroups.lookup sandboxId with
  | some info => (host.closeDescriptor info.cgroupFd).descriptors
  | none => host.descriptors

/-- The files `destroy_cgroup` leaves. -/
def Host.cgroupFiles (host : Host) (sandboxId : String) : FileTree :=
  match host.cgroups.lookup sandboxId with
  | some info => host.files.removeAll info.cgroupPath.location
  | none => host.files

theorem dropped_eq (host : Host) (sandboxId : String) :
    host.dropped sandboxId = { host with
      cgroups := host.cgroups.erase sandboxId
      files := host.cgroupFiles sandboxId
      descriptors := host.freed sandboxId
      touched := host.touched ++ host.cgroupPlace sandboxId } := by
  unfold Host.dropped Host.cgroupPlace Host.freed Host.cgroupFiles
  cases found : host.cgroups.lookup sandboxId with
  | none => simp [erase_missing (Finmap.lookup_eq_none.mp found)]
  | some info => rfl

theorem dropped_frame (host : Host) (sandboxId : String) :
    ∃ files, host.dropped sandboxId = { host with
      cgroups := host.cgroups.erase sandboxId
      files := files
      descriptors := host.freed sandboxId
      touched := host.touched ++ host.cgroupPlace sandboxId } :=
  ⟨_, dropped_eq host sandboxId⟩

/-- The files a termination leaves. -/
def Host.wiped (host : Host) (sandboxId : String) : FileTree :=
  (host.cgroupFiles sandboxId).removeAll (host.baseRuntimeDir / sandboxId).location

/-- The host a termination ends in, with the files it leaves. -/
def terminated (host : Host) (sandboxId : String) (entry : SandboxInstance) (env : TerminateEnv) (files : FileTree) :
    Host :=
  { host with
    sandboxes := host.sandboxes.erase sandboxId
    cgroups := host.cgroups.erase sandboxId
    ebpfLoader := host.unmonitored sandboxId env.unmonitor
    files := files
    touched := host.touched ++ host.cgroupPlace sandboxId ++ [(host.baseRuntimeDir / sandboxId).location]
    children := host.killed entry.firecrackerPid env.exits
    descriptors := (host.closeDescriptor entry.tapFd).freed sandboxId }

theorem terminateBody_unknown {host : Host} {sandboxId : String} (unknown : host.sandboxes.lookup sandboxId = none)
    (env : TerminateEnv) : (terminateBody sandboxId env).ends host = (.returned .errInvalidSandboxID, host) := by
  simp [terminateBody, unknown]

theorem terminateBody_wipes {host : Host} {sandboxId : String} {entry : SandboxInstance}
    (known : host.sandboxes.lookup sandboxId = some entry) (env : TerminateEnv) :
    (terminateBody sandboxId env).ends host =
      (.returned .success, terminated host sandboxId entry env (host.wiped sandboxId)) := by
  unfold terminateBody
  rw [Proc.ends_get_bind, known]
  dsimp only
  rw [Proc.ends_bind_returned (killFirecracker_ends _ _ _)]
  unfold closeDescriptor
  rw [Proc.ends_modify_bind, Proc.ends_bind_returned (unmonitor_ends _ _ _)]
  obtain ⟨status, destroy⟩ := destroyCgroup_ends _ sandboxId
  rw [Proc.ends_bind_returned destroy, dropped_eq]
  rfl

theorem terminateBody_known {host : Host} {sandboxId : String} {entry : SandboxInstance}
    (known : host.sandboxes.lookup sandboxId = some entry) (env : TerminateEnv) :
    ∃ files, (terminateBody sandboxId env).ends host = (.returned .success, terminated host sandboxId entry env files) :=
  ⟨_, terminateBody_wipes known env⟩

theorem terminateSandbox_wipes {host : Host} {relock : Relock} (free : host.lockDepth = 0 ∨ relock = .reentrant)
    {sandboxId : String} {entry : SandboxInstance} (known : host.sandboxes.lookup sandboxId = some entry)
    (env : TerminateEnv) :
    (terminateSandbox relock sandboxId env).ends host =
      (.returned .success, terminated host sandboxId entry env (host.wiped sandboxId)) := by
  have body : (terminateBody sandboxId env).ends (sandboxMutex.put (host.lockDepth + 1) host) =
      (.returned .success, terminated (sandboxMutex.put (host.lockDepth + 1) host) sandboxId entry env
        (host.wiped sandboxId)) :=
    terminateBody_wipes (by exact known) env
  exact sandboxMutex.ends_guard free (by simp) body

theorem terminateSandbox_known {host : Host} {relock : Relock} (free : host.lockDepth = 0 ∨ relock = .reentrant)
    {sandboxId : String} {entry : SandboxInstance} (known : host.sandboxes.lookup sandboxId = some entry)
    (env : TerminateEnv) :
    ∃ files, (terminateSandbox relock sandboxId env).ends host =
      (.returned .success, terminated host sandboxId entry env files) :=
  ⟨_, terminateSandbox_wipes free known env⟩

theorem terminateSandbox_missing {host : Host} (free : host.lockDepth = 0) {sandboxId : String}
    (unknown : host.sandboxes.lookup sandboxId = none) (env : TerminateEnv) :
    (terminateSandbox .plain sandboxId env).ends host = (.returned .errInvalidSandboxID, host) := by
  have body : (terminateBody sandboxId env).ends (sandboxMutex.put (sandboxMutex.depth host + 1) host) =
      (.returned .errInvalidSandboxID, sandboxMutex.put (sandboxMutex.depth host + 1) host) :=
    terminateBody_unknown (by exact unknown) env
  exact sandboxMutex.ends_guard (.inl free) (by simp) body

/-! The operations that leave the maps alone. -/

/-- Nothing is added, and the lock, the maps and the paths are the same. -/
structure Shrinks (host after : Host) : Prop where
  lockDepth : after.lockDepth = host.lockDepth
  baseRuntimeDir : after.baseRuntimeDir = host.baseRuntimeDir
  rootPath : after.rootPath = host.rootPath
  ebpfLoader : after.ebpfLoader = host.ebpfLoader
  policyEngine : after.policyEngine = host.policyEngine
  issued : after.issued = host.issued
  cgroups : ∀ id info, after.cgroups.lookup id = some info → host.cgroups.lookup id = some info

namespace Shrinks

variable {host middle after : Host}

theorem refl (host : Host) : Shrinks host host :=
  ⟨rfl, rfl, rfl, rfl, rfl, rfl, fun _ _ found => found⟩

theorem trans (first : Shrinks host middle) (second : Shrinks middle after) : Shrinks host after where
  lockDepth := second.lockDepth.trans first.lockDepth
  baseRuntimeDir := second.baseRuntimeDir.trans first.baseRuntimeDir
  rootPath := second.rootPath.trans first.rootPath
  ebpfLoader := second.ebpfLoader.trans first.ebpfLoader
  policyEngine := second.policyEngine.trans first.policyEngine
  issued := second.issued.trans first.issued
  cgroups id info found := first.cgroups id info (second.cgroups id info found)

end Shrinks

theorem dropped_shrinks (host : Host) (sandboxId : String) : Shrinks host (host.dropped sandboxId) := by
  obtain ⟨files, frame⟩ := dropped_frame host sandboxId
  rw [frame]
  exact ⟨rfl, rfl, rfl, rfl, rfl, rfl, fun _ _ found => lookup_of_lookup_erase found⟩

theorem mem_visitOrder {order : List String} {keys : Finset String} {id : String} :
    id ∈ visitOrder order keys ↔ id ∈ keys := by
  unfold visitOrder
  split
  · rename_i given
    rw [← given.2, List.mem_toFinset]
  · exact Finset.mem_sort _

theorem nodup_visitOrder (order : List String) (keys : Finset String) : (visitOrder order keys).Nodup := by
  unfold visitOrder
  split
  · rename_i given
    exact given.1
  · exact Finset.sort_nodup _ _

/-- The host after one turn of the loop of `terminate_all`. -/
def Host.tornDown (host : Host) (id : String) (entry : SandboxInstance) (exits : Bool) : Host :=
  { host with
    cgroups := host.cgroups.erase id
    files := host.wiped id
    touched := host.touched ++ host.cgroupPlace id ++ [(host.baseRuntimeDir / id).location]
    children := host.killed entry.firecrackerPid exits
    descriptors := (host.closeDescriptor entry.tapFd).freed id }

theorem terminateEach_turn {host : Host} {id : String} {entry : SandboxInstance}
    (known : host.sandboxes.lookup id = some entry) (exits : String → Bool) (rest : List String) :
    (terminateEach exits (id :: rest)).ends host =
      (terminateEach exits rest).ends (host.tornDown id entry (exits id)) := by
  rw [terminateEach, Proc.ends_get_bind, known]
  dsimp only
  rw [Proc.ends_bind_returned (killFirecracker_ends _ _ _)]
  unfold closeDescriptor removeAll
  rw [Proc.ends_modify_bind]
  obtain ⟨status, destroy⟩ := destroyCgroup_ends _ id
  rw [Proc.ends_bind_returned destroy, Proc.ends_modify_bind, dropped_eq]
  rfl

theorem terminateEach_cons {host : Host} {id : String} {entry : SandboxInstance}
    (known : host.sandboxes.lookup id = some entry) (exits : String → Bool) (rest : List String) :
    ∃ files touched, (terminateEach exits (id :: rest)).ends host = (terminateEach exits rest).ends { host with
      cgroups := host.cgroups.erase id
      files := files
      touched := touched
      children := host.killed entry.firecrackerPid (exits id)
      descriptors := (host.closeDescriptor entry.tapFd).freed id } :=
  ⟨_, _, terminateEach_turn known exits rest⟩

theorem terminateEach_ends (exits : String → Bool) (ids : List String) (host : Host) :
    ∃ after, (terminateEach exits ids).ends host = (.returned (), after) ∧ Shrinks host after := by
  induction ids generalizing host with
  | nil => exact ⟨host, rfl, .refl host⟩
  | cons id rest ih =>
    cases found : host.sandboxes.lookup id with
    | none =>
      rw [terminateEach, Proc.ends_get_bind, found]
      exact ih host
    | some entry =>
      obtain ⟨files, touched, turn⟩ := terminateEach_cons found exits rest
      rw [turn]
      obtain ⟨after, ends, shrinks⟩ := ih _
      refine ⟨after, ends, Shrinks.trans ?_ shrinks⟩
      exact ⟨rfl, rfl, rfl, rfl, rfl, rfl, fun _ _ found => lookup_of_lookup_erase found⟩

/-- The teardowns are made under the mutex, and then the table is cleared. -/
theorem terminateAll_of_each {host after : Host} (free : host.lockDepth = 0) {env : TerminateAllEnv}
    (each : (terminateEach env.exits (visitOrder env.order host.sandboxes.keys)).ends
      (sandboxMutex.put (sandboxMutex.depth host + 1) host) = (.returned (), after)) :
    (terminateAll env).ends host =
      (.returned (), sandboxMutex.put (sandboxMutex.depth after - 1) { after with sandboxes := ∅ }) := by
  have body : (terminateAllBody env).ends (sandboxMutex.put (sandboxMutex.depth host + 1) host) =
      (.returned (), { after with sandboxes := ∅ }) := by
    unfold terminateAllBody
    rw [Proc.ends_get_bind]
    exact Proc.ends_bind_returned each
  exact sandboxMutex.ends_guard (.inl free) (by simp) body

theorem terminateAll_ends {host : Host} (free : host.lockDepth = 0) (env : TerminateAllEnv) :
    ∃ after, (terminateAll env).ends host = (.returned (), after) ∧ Shrinks host after ∧ after.sandboxes = ∅ := by
  obtain ⟨after, each, shrinks⟩ := terminateEach_ends env.exits
    (visitOrder env.order host.sandboxes.keys) (sandboxMutex.put (sandboxMutex.depth host + 1) host)
  refine ⟨_, terminateAll_of_each free each, ?_, rfl⟩
  have depth : after.lockDepth = host.lockDepth + 1 := shrinks.lockDepth
  refine ⟨?_, shrinks.baseRuntimeDir, shrinks.rootPath, shrinks.ebpfLoader, shrinks.policyEngine, shrinks.issued,
    shrinks.cgroups⟩
  show after.lockDepth - 1 = host.lockDepth
  omega

theorem executeBody_ends (host : Host) (sandboxId codePayload : String) (env : ExecEnv) :
    ∃ result sent, (executeBody sandboxId codePayload env).ends host = (.returned result, { host with sent := sent }) := by
  unfold executeBody
  rw [Proc.ends_get_bind]
  cases found : host.sandboxes.lookup sandboxId with
  | none => exact ⟨_, host.sent, rfl⟩
  | some entry =>
    dsimp only
    by_cases active : entry.isActive = true
    · rw [if_pos active]
      by_cases connects : env.connects = true
      · rw [if_pos connects, Proc.ends_modify_bind, Proc.ends_ite]
        split
        · exact ⟨_, _, rfl⟩
        · exact ⟨_, _, rfl⟩
      · rw [if_neg connects]
        exact ⟨_, host.sent, rfl⟩
    · rw [if_neg active]
      exact ⟨_, host.sent, rfl⟩

theorem getMetadata_ends {host : Host} (free : host.lockDepth = 0) (sandboxId : String) :
    (getMetadata sandboxId).ends host = (.returned ((host.sandboxes.lookup sandboxId).map (·.metadata)), host) := by
  have body : (metadataBody sandboxId).ends (sandboxMutex.put (sandboxMutex.depth host + 1) host) =
      (.returned ((host.sandboxes.lookup sandboxId).map (·.metadata)),
        sandboxMutex.put (sandboxMutex.depth host + 1) host) := rfl
  exact sandboxMutex.ends_guard (.inl free) (by simp) body

theorem executeCode_unknown {host : Host} (free : host.lockDepth = 0) {sandboxId : String}
    (unknown : host.sandboxes.lookup sandboxId = none) (codePayload : String) (env : ExecEnv) :
    (executeCode sandboxId codePayload env).ends host =
      (.returned { sandboxId, stderrOutput := "Error: Invalid or inactive sandbox ID." }, host) := by
  have body : (executeBody sandboxId codePayload env).ends (sandboxMutex.put (sandboxMutex.depth host + 1) host) =
      (.returned { sandboxId, stderrOutput := "Error: Invalid or inactive sandbox ID." },
        sandboxMutex.put (sandboxMutex.depth host + 1) host) := by
    have same : (sandboxMutex.put (sandboxMutex.depth host + 1) host).sandboxes.lookup sandboxId = none := unknown
    rw [executeBody, Proc.ends_get_bind, same]
    rfl
  exact sandboxMutex.ends_guard (.inl free) (by simp) body

/-- An operation that neither creates nor terminates sandboxes. -/
def Op.Still : Op → Prop
  | .create _ _ => False
  | .terminate _ _ => False
  | .terminateAll _ => False
  | _ => True

/-- A child that exits stays to be reaped. -/
theorem keys_updateChild (host : Host) (pid : Int) (change : Child → Child) :
    (host.updateChild pid change).children.keys = host.children.keys := by
  unfold Host.updateChild
  cases found : host.children.lookup pid with
  | none => rfl
  | some child =>
    have member : pid ∈ host.children.keys := Finmap.mem_keys.mpr (Finmap.mem_of_lookup_eq_some found)
    exact (HashTable.keys_insert _ _ _).trans (Finset.insert_eq_of_mem member)

theorem still_keys {host : Host} (free : host.lockDepth = 0) {op : Op} (still : op.Still) :
    ∃ answer children sent, children.keys = host.children.keys ∧
      (call op).ends host = (.returned answer, { host with children := children, sent := sent }) := by
  cases op with
  | create config env => exact still.elim
  | terminate sandboxId env => exact still.elim
  | terminateAll env => exact still.elim
  | execute sandboxId codePayload env =>
    obtain ⟨result, sent, body⟩ := executeBody_ends (sandboxMutex.put (sandboxMutex.depth host + 1) host)
      sandboxId codePayload env
    refine ⟨.result result, host.children, sent, rfl, ?_⟩
    exact Proc.ends_bind_returned (sandboxMutex.ends_guard (.inl free) (by simp) body)
  | metadata sandboxId =>
    exact ⟨_, host.children, host.sent, rfl, Proc.ends_bind_returned (getMetadata_ends free sandboxId)⟩
  | exit pid => exact ⟨.done, _, host.sent, keys_updateChild host pid _, rfl⟩

theorem still_ends {host : Host} (free : host.lockDepth = 0) {op : Op} (still : op.Still) :
    ∃ answer children sent,
      (call op).ends host = (.returned answer, { host with children := children, sent := sent }) := by
  obtain ⟨answer, children, sent, -, ends⟩ := still_keys free still
  exact ⟨answer, children, sent, ends⟩

/-- An operation that neither creates nor terminates a single sandbox. -/
def Op.Quiet : Op → Prop
  | .create _ _ => False
  | .terminate _ _ => False
  | _ => True

theorem quiet_ends {host : Host} (free : host.lockDepth = 0) {op : Op} (quiet : op.Quiet) :
    ∃ answer after, (call op).ends host = (.returned answer, after) ∧ Shrinks host after ∧
      (after.sandboxes = host.sandboxes ∧ after.cgroups = host.cgroups ∨ after.sandboxes = ∅) := by
  have unchanged (still : op.Still) : ∃ answer after, (call op).ends host = (.returned answer, after) ∧
      Shrinks host after ∧ (after.sandboxes = host.sandboxes ∧ after.cgroups = host.cgroups ∨ after.sandboxes = ∅) := by
    obtain ⟨answer, children, sent, ends⟩ := still_ends free still
    exact ⟨answer, _, ends, ⟨rfl, rfl, rfl, rfl, rfl, rfl, fun _ _ found => found⟩, .inl ⟨rfl, rfl⟩⟩
  cases op with
  | create config env => exact quiet.elim
  | terminate sandboxId env => exact quiet.elim
  | execute sandboxId codePayload env => exact unchanged trivial
  | metadata sandboxId => exact unchanged trivial
  | terminateAll env =>
    obtain ⟨after, ends, shrinks, cleared⟩ := terminateAll_ends free env
    exact ⟨.done, after, Proc.ends_bind_returned ends, shrinks, .inr cleared⟩
  | exit pid => exact unchanged trivial

end Aegis.Runtime
