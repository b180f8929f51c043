import Aegis.Library.Ownership
import Aegis.Runtime.Calls

/-! The tables of the two managers, in runs all of whose calls return.

The descriptors of both tables come from one pool: a sandbox owns one for its TAP device
and one for its cgroup directory.
-/

set_option autoImplicit false

namespace Aegis.Runtime
open Library Ebpf Policy

inductive Owner where
  | tap (sandboxId : String)
  | cgroup (sandboxId : String)
  deriving DecidableEq

def Host.held (host : Host) : Owner → Option Int
  | .tap sandboxId => column (·.tapFd) host.sandboxes sandboxId
  | .cgroup sandboxId => column (·.cgroupFd) host.cgroups sandboxId

/-- A change of one field of each table, seen by the owners. -/
theorem held_update {host after : Host} {sandboxId : String} {tap cgroup : Option Int}
    (taps : column (·.tapFd) after.sandboxes = Function.update (column (·.tapFd) host.sandboxes) sandboxId tap)
    (cgroups : column (·.cgroupFd) after.cgroups = Function.update (column (·.cgroupFd) host.cgroups) sandboxId cgroup) :
    after.held = Function.update (Function.update host.held (.cgroup sandboxId) cgroup) (.tap sandboxId) tap := by
  funext owner
  cases owner with
  | tap id =>
    by_cases same : id = sandboxId
    · simp [Host.held, taps, same]
    · simp [Host.held, taps, same]
  | cgroup id =>
    by_cases same : id = sandboxId
    · simp [Host.held, cgroups, same]
    · simp [Host.held, cgroups, same]

/-- What an entry of the sandbox table looks like. -/
structure SandboxInstance.Live (sandboxId : String) (entry : SandboxInstance) : Prop where
  nonempty : sandboxId ≠ ""
  config : entry.config.sandboxId = sandboxId
  metadata : entry.metadata.sandboxId = sandboxId
  isActive : entry.isActive = true
  state : entry.metadata.state = .running
  firecrackerPid : 0 < entry.firecrackerPid
  tapFd : 0 ≤ entry.tapFd

structure CgroupInfo.Live (info : CgroupInfo) : Prop where
  cgroupId : info.cgroupId ≠ 0
  cgroupFd : 0 ≤ info.cgroupFd

/-- The tables have the same keys and sound entries; the descriptors in them are open, and
no two of them are the same. -/
structure InStep (others : Finset Int) (host : Host) : Prop where
  keys : host.sandboxes.keys = host.cgroups.keys
  sandbox : ∀ id, ∀ entry ∈ host.sandboxes.lookup id, entry.Live id
  cgroup : ∀ id, ∀ info ∈ host.cgroups.lookup id, info.Live
  owns : Owns others host.held host.descriptors

namespace InStep

variable {others : Finset Int} {host after : Host}

theorem mem_iff (inStep : InStep others host) (id : String) : id ∈ host.sandboxes ↔ id ∈ host.cgroups := by
  rw [← Finmap.mem_keys, inStep.keys, Finmap.mem_keys]

theorem of_empty (sandboxes : host.sandboxes = ∅) (cgroups : host.cgroups = ∅) (descriptors : host.descriptors = others) :
    InStep others host := by
  have unheld : host.held = fun _ => none := by
    funext owner
    cases owner with
    | tap id => simp [Host.held, sandboxes]
    | cgroup id => simp [Host.held, cgroups]
  refine ⟨by rw [sandboxes, cgroups]; rfl, ?_, ?_, ?_⟩
  · simp [sandboxes]
  · simp [cgroups]
  · rw [unheld, descriptors]
    exact .nothing others

/-- Only the two tables and the descriptors matter. -/
theorem congr (inStep : InStep others host) (sandboxes : after.sandboxes = host.sandboxes)
    (cgroups : after.cgroups = host.cgroups) (descriptors : after.descriptors = host.descriptors) :
    InStep others after := by
  have held : after.held = host.held := by
    funext owner
    cases owner with
    | tap id => rw [Host.held, sandboxes, Host.held]
    | cgroup id => rw [Host.held, cgroups, Host.held]
  obtain ⟨keys, sandbox, cgroup, owns⟩ := inStep
  rw [← held, ← descriptors] at owns
  rw [← sandboxes, ← cgroups] at keys
  rw [← sandboxes] at sandbox
  rw [← cgroups] at cgroup
  exact ⟨keys, sandbox, cgroup, owns⟩

/-- A new entry in both tables, with two descriptors that were free. -/
theorem insert (inStep : InStep others host) {sandboxId : String} (new : sandboxId ∉ host.cgroups)
    {entry : SandboxInstance} {info : CgroupInfo} (live : entry.Live sandboxId) (valid : info.Live)
    (freeCgroup : info.cgroupFd ∉ host.descriptors) (freeTap : entry.tapFd ∉ insert info.cgroupFd host.descriptors)
    (sandboxes : after.sandboxes = host.sandboxes.insert sandboxId entry)
    (cgroups : after.cgroups = host.cgroups.insert sandboxId info)
    (descriptors : after.descriptors = insert entry.tapFd (insert info.cgroupFd host.descriptors)) :
    InStep others after := by
  have unknown : sandboxId ∉ host.sandboxes := mt (inStep.mem_iff sandboxId).mp new
  have held := @held_update host after sandboxId (some entry.tapFd) (some info.cgroupFd)
    (by rw [sandboxes, column_insert]) (by rw [cgroups, column_insert])
  constructor
  · ext id
    simp only [Finmap.mem_keys, sandboxes, cgroups, Finmap.mem_insert, inStep.mem_iff]
  · intro id found member
    rw [sandboxes] at member
    rcases lookup_insert_cases member with ⟨rfl, rfl⟩ | old
    · exact live
    · exact inStep.sandbox id found old
  · intro id found member
    rw [cgroups] at member
    rcases lookup_insert_cases member with ⟨-, rfl⟩ | old
    · exact valid
    · exact inStep.cgroup id found old
  · have missingCgroup : host.held (.cgroup sandboxId) = none := column_missing _ new
    have missingTap : host.held (.tap sandboxId) = none := column_missing _ unknown
    rw [held, descriptors]
    exact (inStep.owns.acquire missingCgroup freeCgroup).acquire (by simpa using missingTap) freeTap

/-- An entry leaves both tables, and its descriptors are closed. -/
theorem erase (inStep : InStep others host) {sandboxId : String} {entry : SandboxInstance} {info : CgroupInfo}
    (known : host.sandboxes.lookup sandboxId = some entry) (made : host.cgroups.lookup sandboxId = some info)
    (sandboxes : after.sandboxes = host.sandboxes.erase sandboxId)
    (cgroups : after.cgroups = host.cgroups.erase sandboxId)
    (descriptors : after.descriptors = (host.descriptors.erase entry.tapFd).erase info.cgroupFd) :
    InStep others after := by
  have held := @held_update host after sandboxId none none
    (by rw [sandboxes, column_erase]) (by rw [cgroups, column_erase])
  constructor
  · ext id
    simp only [Finmap.mem_keys, sandboxes, cgroups, Finmap.mem_erase, inStep.mem_iff]
  · intro id found member
    rw [sandboxes] at member
    exact inStep.sandbox id found (lookup_of_lookup_erase member)
  · intro id found member
    rw [cgroups] at member
    exact inStep.cgroup id found (lookup_of_lookup_erase member)
  · have holdsCgroup : host.held (.cgroup sandboxId) = some info.cgroupFd := column_known _ made
    have holdsTap : host.held (.tap sandboxId) = some entry.tapFd := column_known _ known
    rw [held, descriptors, Finset.erase_right_comm]
    exact (inStep.owns.release holdsCgroup).release (by simpa using holdsTap)

/-- A sandbox that is known has a cgroup, and both have a descriptor to close. -/
theorem cgroup_of_known (inStep : InStep others host) {sandboxId : String} {entry : SandboxInstance}
    (known : host.sandboxes.lookup sandboxId = some entry) :
    ∃ info, host.cgroups.lookup sandboxId = some info ∧
      (host.closeDescriptor entry.tapFd).freed sandboxId =
        (host.descriptors.erase entry.tapFd).erase info.cgroupFd := by
  have member : sandboxId ∈ host.cgroups := (inStep.mem_iff sandboxId).mp (Finmap.mem_of_lookup_eq_some known)
  obtain ⟨info, made⟩ := Finmap.mem_iff.mp member
  have tap := (inStep.sandbox sandboxId entry known).tapFd
  have cgroup := (inStep.cgroup sandboxId info made).cgroupFd
  have same : (host.closeDescriptor entry.tapFd).cgroups.lookup sandboxId = some info := made
  refine ⟨info, made, ?_⟩
  rw [Host.freed, same]
  simp [Host.closeDescriptor, tap, cgroup]

theorem terminated (inStep : InStep others host) {sandboxId : String} {entry : SandboxInstance}
    (known : host.sandboxes.lookup sandboxId = some entry) (env : TerminateEnv) (files : FileTree) :
    InStep others (Runtime.terminated host sandboxId entry env files) := by
  obtain ⟨info, made, freed⟩ := inStep.cgroup_of_known known
  exact inStep.erase known made rfl rfl freed

/-- The loop of `terminate_all` leaves the entries in the sandbox table; `left` is the table
as terminating them one by one would leave it. -/
theorem terminateEach (exits : String → Bool) (ids : List String) (host : Host)
    (left : Finmap fun _ : String => SandboxInstance) (nodup : ids.Nodup) (keys : ∀ id, id ∈ left ↔ id ∈ ids)
    (agree : ∀ id ∈ ids, host.sandboxes.lookup id = left.lookup id)
    (inStep : InStep others { host with sandboxes := left }) :
    ∃ after, (Runtime.terminateEach exits ids).ends host = (.returned (), after) ∧
      InStep others { after with sandboxes := ∅ } := by
  induction ids generalizing host left with
  | nil =>
    have empty : left = ∅ := by
      apply Finmap.ext_lookup
      intro id
      rw [Finmap.lookup_empty]
      exact Finmap.lookup_eq_none.mpr fun member => List.not_mem_nil ((keys id).mp member)
    subst empty
    exact ⟨host, rfl, inStep⟩
  | cons id rest ih =>
    obtain ⟨fresh, nodup⟩ := List.nodup_cons.mp nodup
    obtain ⟨entry, found⟩ := Finmap.mem_iff.mp ((keys id).mpr List.mem_cons_self)
    have known := (agree id List.mem_cons_self).trans found
    obtain ⟨files, touched, turn⟩ := terminateEach_cons known exits rest
    obtain ⟨info, made, freed⟩ := inStep.cgroup_of_known found
    rw [turn]
    apply ih _ (left.erase id) nodup
    · intro other
      rw [Finmap.mem_erase, keys, List.mem_cons]
      constructor
      · exact fun ⟨different, member⟩ => member.resolve_left different
      · intro member
        refine ⟨?_, .inr member⟩
        rintro rfl
        exact fresh member
    · intro other member
      have different : other ≠ id := by
        rintro rfl
        exact fresh member
      rw [Finmap.lookup_erase_ne different]
      exact agree other (List.mem_cons_of_mem _ member)
    · exact inStep.erase found made rfl rfl freed

theorem terminateAll (inStep : InStep others host) (free : host.lockDepth = 0) (env : TerminateAllEnv) :
    InStep others ((call (.terminateAll env)).ends host).2 := by
  have keys (id : String) : id ∈ host.sandboxes ↔ id ∈ visitOrder env.order host.sandboxes.keys :=
    Finmap.mem_keys.symm.trans mem_visitOrder.symm
  have held : InStep others { (sandboxMutex.put 1 host) with sandboxes := host.sandboxes } :=
    inStep.congr rfl rfl rfl
  obtain ⟨after, ends, cleared⟩ := InStep.terminateEach env.exits (visitOrder env.order host.sandboxes.keys)
    (sandboxMutex.put 1 host) host.sandboxes (nodup_visitOrder _ _) keys (fun _ _ => rfl) held
  have depth : sandboxMutex.depth host = 0 := free
  have ended : (call (.terminateAll env)).ends host = _ :=
    Proc.ends_bind_returned (terminateAll_of_each free (by rw [depth]; exact ends))
  rw [ended]
  exact cleared.congr rfl rfl rfl

end InStep

theorem CreateResult.returned {host after : Host} {config : SandboxConfig} {env : CreateEnv} {outcome : Outcome Status}
    {status : Status} (result : CreateResult .plain host config env (outcome, after))
    (returned : outcome = .returned status) :
    (after.sandboxes = host.sandboxes ∧ after.cgroups = host.cgroups ∧ after.descriptors = host.descriptors) ∨
      Completed host config env ∧
        ∃ work, Traced (Runtime.places host config) host work ∧ after = Runtime.completed host config env work := by
  cases result with
  | rejected => exact .inl ⟨rfl, rfl, rfl⟩
  | known _ _ traced | unmade _ _ _ traced | undone _ _ traced | tapless _ _ traced | unforked _ _ _ traced
  | unspawned _ _ traced =>
    obtain ⟨files, touched, sent, rfl⟩ := traced.frame
    exact .inl ⟨rfl, rfl, rfl⟩
  | done complete traced => exact .inr ⟨complete, _, traced, rfl⟩
  | uncleared | unpolled | bootThrew | unbooted => cases returned

/-- The call gives control back without an exception. -/
def Returns (op : Op) (host : Host) : Prop := ∃ answer, ((call op).ends host).1 = .returned answer

namespace InStep

variable {others : Finset Int} {host : Host}

theorem completed (inStep : InStep others host) {config : SandboxConfig} {env : CreateEnv} {work : Host}
    (complete : Completed host config env) (traced : Traced (places host config) host work) :
    InStep others (Runtime.completed host config env work) := by
  have up := complete.spawned.forked.tapUp
  have tap : (host.withDescriptor env.cgroup.fd).FreeDescriptor env.tap.fd := up.2.1
  have info : (cgroupInfo host config env).Live := ⟨complete.spawned.cgroupId_ne, up.granted.2.2.1⟩
  have entry : SandboxInstance.Live config.sandboxId { forkedEntry host config env with
      metadata := { (forkedEntry host config env).metadata with state := .running }, isActive := true } :=
    ⟨complete.made.1.1, rfl, rfl, rfl, rfl, complete.spawned.forked.free.1, tap.1⟩
  obtain ⟨files, touched, sent, rfl⟩ := traced.frame
  exact inStep.insert complete.made.new entry info up.granted.2.2.2 tap.2 rfl rfl rfl

theorem create (inStep : InStep others host) (free : host.lockDepth = 0) {config : SandboxConfig} {env : CreateEnv}
    (returns : Returns (.create config env) host) : InStep others ((call (.create config env)).ends host).2 := by
  obtain ⟨outcome, after, result, ends⟩ := create_call free config env
  obtain ⟨answer, returned⟩ := returns
  rw [ends] at returned ⊢
  cases outcome with
  | threw => cases returned
  | blocked => cases returned
  | returned status =>
    rw [if_neg (by simp)]
    rcases result.returned rfl with ⟨sandboxes, cgroups, descriptors⟩ | ⟨complete, work, traced, rfl⟩
    · exact inStep.congr sandboxes cgroups descriptors
    · exact inStep.completed complete traced

/-- Every call that returns keeps the tables in step. -/
theorem call (inStep : InStep others host) (free : host.lockDepth = 0) {op : Op} (returns : Returns op host) :
    InStep others ((Runtime.call op).ends host).2 := by
  have unchanged (still : op.Still) : InStep others ((Runtime.call op).ends host).2 := by
    obtain ⟨answer, children, sent, ends⟩ := still_ends free still
    rw [ends]
    exact inStep.congr rfl rfl rfl
  cases op with
  | create config env => exact inStep.create free returns
  | terminate sandboxId env =>
    obtain ⟨status, after, ends, ⟨-, rfl⟩ | ⟨entry, files, known, rfl⟩⟩ := terminate_ends free sandboxId env
    · rw [ends]
      exact inStep
    · rw [ends]
      exact inStep.terminated known env files
  | terminateAll env => exact inStep.terminateAll free env
  | execute sandboxId codePayload env => exact unchanged trivial
  | metadata sandboxId => exact unchanged trivial
  | exit pid => exact unchanged trivial

/-- An id that is admitted is new to the cgroup manager as well. -/
theorem new_of_admitted (inStep : InStep others host) {config : SandboxConfig} (admitted : Admitted host config) :
    config.sandboxId ∉ host.cgroups := mt (inStep.mem_iff config.sandboxId).mpr admitted.2

end InStep

/-- The host in which `create_sandbox` calls `create_cgroup`: the lock is held, and the
runtime directory has been made. -/
def atCreateCgroup (host : Host) (config : SandboxConfig) (env : CreateEnv) : Host :=
  (sandboxMutex.put (host.lockDepth + 1) host).makeDirectories (sbxDir host config) env.mkdir

theorem createCgroup_status {host : Host} {sandboxId : String} (new : sandboxId ∉ host.cgroups) (limits : CgroupLimits)
    (env : CgroupEnv) : ((createCgroup sandboxId limits env).ends host).1 ≠ .returned .errInvalidSandboxID := by
  cases mkdir : env.mkdir with
  | some count =>
    rw [createCgroup_unmade new mkdir]
    simp
  | none =>
    obtain ⟨work, -, ends⟩ := @createCgroup_steps host sandboxId limits env new mkdir
    rw [ends]
    split
    · simp
    · simp

theorem terminate_success_iff {host : Host} (free : host.lockDepth = 0) (sandboxId : String) (env : TerminateEnv) :
    ((call (.terminate sandboxId env)).ends host).1 = .returned (.status .success) ↔ sandboxId ∈ host.sandboxes := by
  unfold call
  cases found : host.sandboxes.lookup sandboxId with
  | none =>
    have missing : sandboxId ∉ host.sandboxes := Finmap.lookup_eq_none.mp found
    rw [Proc.ends_bind_returned (terminateSandbox_missing free found env)]
    simp [missing]
  | some entry =>
    obtain ⟨files, ends⟩ := terminateSandbox_known (.inl free) found env
    rw [Proc.ends_bind_returned ends]
    simp [Finmap.mem_of_lookup_eq_some found]

/-- The host a run ends in. -/
def Host.after (host : Host) (ops : List Op) : Host := ((session call ops).ends host).2

/-- As long as the calls return, each id is in both tables or in neither: `create_cgroup`
knows no id that `create_sandbox` admits, and what can be terminated is what is listed. -/
theorem managers_stay_in_step (host : Host) (fresh : Fresh host) (ops : List Op)
    (returns : Along call Returns ops host) :
    InStep host.descriptors (host.after ops) ∧
    (∀ config env, Admitted (host.after ops) config →
      ((createCgroup config.sandboxId config.resourceLimits env.cgroup).ends
        (atCreateCgroup (host.after ops) config env)).1 ≠ .returned .errInvalidSandboxID) ∧
    ∀ sandboxId env, ((call (.terminate sandboxId env)).ends (host.after ops)).1 = .returned (.status .success) ↔
      sandboxId ∈ (host.after ops).sandboxes := by
  have step (op : Op) (before : Host) (kept : before.lockDepth = 0 ∧ InStep host.descriptors before)
      (returned : Returns op before) :
      ((call op).run before).state.lockDepth = 0 ∧ InStep host.descriptors ((call op).run before).state := by
    obtain ⟨answer, same⟩ := id returned
    exact ⟨call_ends_free kept.1 op (by simp [same]), kept.2.call kept.1 returned⟩
  have start : host.lockDepth = 0 ∧ InStep host.descriptors host :=
    ⟨fresh.free, .of_empty fresh.sandboxes fresh.cgroups rfl⟩
  obtain ⟨free, inStep⟩ := session_invariant (fun host' => host'.lockDepth = 0 ∧ InStep host.descriptors host')
    step ops host start returns
  refine ⟨inStep, fun config env admitted => ?_, terminate_success_iff free⟩
  have new : config.sandboxId ∉ (atCreateCgroup (host.after ops) config env).cgroups := inStep.new_of_admitted admitted
  exact createCgroup_status new _ _

theorem demo_in_step : Fresh (bareHost none none) ∧
    Along call Returns [.create { sandboxId := "sbx-9f82a1" } (smoothEnv 77)] (bareHost none none) ∧
    InStep ∅ ((bareHost none none).after [.create { sandboxId := "sbx-9f82a1" } (smoothEnv 77)]) := by
  have fresh : Fresh (bareHost none none) := ⟨rfl, rfl, rfl⟩
  have complete : Completed (bareHost none none) { sandboxId := "sbx-9f82a1" } (smoothEnv 77) := by decide
  obtain ⟨work, -, ends⟩ := create_completes fresh.free complete
  have returns : Along call Returns [.create { sandboxId := "sbx-9f82a1" } (smoothEnv 77)] (bareHost none none) :=
    (along_cons_returned ends []).mpr ⟨⟨_, congrArg Prod.fst ends⟩, trivial⟩
  exact ⟨fresh, returns, (managers_stay_in_step _ fresh _ returns).1⟩

end Aegis.Runtime
