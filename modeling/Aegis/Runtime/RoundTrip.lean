import Aegis.Runtime.Isolation
import Aegis.Runtime.Teardown

/-! A creation and the termination that follows it.

The tables and the descriptors are as they were before the creation, and the files but for the
directories above the two of the sandbox: `remove_all` is taken to remove what it is given. The
child is killed, and gone once it has been waited for. The maps keep the numbers that were pushed.
-/

set_option autoImplicit false

namespace Aegis.Runtime
open Library Ebpf

section
variable {host work : Host} {config : SandboxConfig} {env : CreateEnv}

/-- What the termination removes again, from a host that differs from `work` at most inside the two
directories of the sandbox. -/
theorem Works.swept (works : Works host config env work) {before : Host}
    (same : ∀ l, ¬ bothDirs host config l → before.files l = work.files l) :
    host.files.Wiped (sbxDirectories host config env ++ cgroupDirectories host config env) (bothDirs host config)
      ((before.removeAll (cgroupDir host config)).removeAll (sbxDir host config)).files where
  fresh := directories_fresh host config env
  gone l removed := by
    by_cases within : l.Within (sbxDir host config).location
    · exact if_pos within
    · exact (if_neg within).trans (if_pos (removed.resolve_right within))
  kept l stays := by
    obtain ⟨out, away⟩ := not_or.mp stays
    have own := (works.wiped fun _ _ => rfl).kept l stays
    calc ((before.removeAll (cgroupDir host config)).removeAll (sbxDir host config)).files l
      _ = before.files l := (if_neg away).trans (if_neg out)
      _ = work.files l := same l stays
      _ = ((work.removeAll (cgroupDir host config)).removeAll (sbxDir host config)).files l :=
        ((if_neg away).trans (if_neg out)).symm
      _ = _ := own

/-- A host with the files and messages of a creation that has gone through, before it is registered. -/
def Prepared (host : Host) (config : SandboxConfig) (env : CreateEnv) (work : Host) : Prop :=
  Traced (places host config) host work ∧
    host.files.Wiped (sbxDirectories host config env ++ cgroupDirectories host config env) (bothDirs host config)
      ((work.removeAll (cgroupDir host config)).removeAll (sbxDir host config)).files

/-- The socket has been cleared, the child attached and the boot's requests sent. -/
def bootedWork (host : Host) (config : SandboxConfig) (env : CreateEnv) (work : Host) (sent : List (Path × String)) :
    Host :=
  { (work.cleared (sbxDir host config / "firecracker.socket") env.spawn).writeFile
      (cgroupDir host config / "cgroup.procs") (toString env.spawn.pid) env.attach with sent := sent }

theorem Works.prepared (works : Works host config env work) (sent : List (Path × String)) :
    Prepared host config env (bootedWork host config env work sent) := by
  have traced := attach_traced (cleared_traced env works.traced) (toString env.spawn.pid) env.attach
  refine ⟨traced.trans (.sending _ sent), works.swept fun l out => ?_⟩
  have written := Confined.writeFile (work.cleared (sbxDir host config / "firecracker.socket") env.spawn)
    (cgroupDir host config) (show PlainName "cgroup.procs" by decide) (toString env.spawn.pid) env.attach
  obtain ⟨files, new, frame, kept, -⟩ := written
  obtain ⟨away, apart⟩ := not_or.mp out
  change (Host.writeFile _ _ _ _).files l = _
  rw [frame]
  exact (kept l away).trans (cleared_outside l apart)

/-- From the TAP device on. -/
theorem spawnCreate_completes (complete : Completed host config env) (works : Works host config env work)
    (relock : Relock) :
    ∃ sent, (spawnCreate relock (readyEntry host config env) (sbxDir host config) env).ends
      (ready host config env work) =
        (.returned .success, completed host config env (bootedWork host config env work sent)) := by
  obtain ⟨⟨⟨⟨⟨-, granted⟩, -⟩, clears, free⟩, answer⟩, quiet, reported⟩ := complete
  have fork := spawn_ready clears free works
  rw [answer] at fork
  have attach := attach_ready host config env (work.cleared (sbxDir host config / "firecracker.socket") env.spawn)
  have known : (withChild host config env (spawnedChild config env)
      ((work.cleared (sbxDir host config / "firecracker.socket") env.spawn).writeFile
        (cgroupDir host config / "cgroup.procs") (toString env.spawn.pid) env.attach)).getCgroupId config.sandboxId =
      env.cgroup.inode := by
    simp [Host.getCgroupId, withChild, ready, cgroupInfo]
  obtain ⟨sent, finish⟩ := finishCreate_done _ (forkedEntry host config env) known granted.2.1 quiet reported relock
  refine ⟨sent, ?_⟩
  unfold spawnCreate
  rw [Proc.ends_bind_returned fork, if_neg (by simp)]
  refine (Proc.ends_bind_returned attach).trans (finish.trans ?_)
  rw [completed, bootedWork, ← booted_withChild]
  rfl

/-- The body of a creation that goes through every step. -/
theorem createBody_completes (complete : Completed host config env) (relock : Relock) :
    ∃ work, Prepared host config env work ∧
      (createBody relock config env).ends host = (.returned .success, completed host config env work) := by
  obtain ⟨⟨⟨⟨made, granted⟩, tap⟩, -⟩, -⟩ := complete.spawned
  obtain ⟨work, works, cgroup⟩ := createCgroup_works made
  rw [if_pos granted] at cgroup
  have dir : host.baseRuntimeDir / config.sandboxId = sbxDir host config := rfl
  have device := (tapGranted_iff works).mpr tap
  obtain ⟨sent, spawned⟩ := spawnCreate_completes complete works relock
  refine ⟨_, works.prepared sent, ?_⟩
  unfold createBody
  rw [Proc.ends_get_bind, dir, if_neg (not_or.mpr made.1), Proc.ends_bind_returned (createDirectories_ends _ _ _),
    Proc.ends_bind_returned cgroup, if_neg (by simp), Proc.ends_bind_returned (setupTap_up device _),
    if_neg (by simp), ready_eq works.traced]
  exact spawned

theorem createSandbox_prepared {middle : Host} (free : host.lockDepth = 0)
    (created : (createSandbox .plain config env).ends host = (.returned .success, middle)) :
    Completed host config env ∧ ∃ work, Prepared host config env work ∧ middle = completed host config env work := by
  obtain ⟨complete, -⟩ := createSandbox_success created
  refine ⟨complete, ?_⟩
  obtain ⟨work, ⟨traced, wiped⟩, body⟩ :=
    createBody_completes (show Completed { host with lockDepth := host.lockDepth + 1 } config env from complete) .plain
  have ends : (createSandbox .plain config env).ends host = _ := sandboxMutex.ends_guard (.inl free) (by simp) body
  obtain ⟨-, same⟩ := Prod.mk.inj (created.symm.trans ends)
  obtain ⟨files, new, sent, rfl, within⟩ := traced
  exact ⟨{ host with files := files, touched := host.touched ++ new, sent := sent },
    ⟨⟨files, new, sent, rfl, within⟩, wiped⟩, same⟩

end

/-- The host is as before the creation, but for the child and the maps, and the directories above the
two of the sandbox. -/
structure Released (host : Host) (config : SandboxConfig) (env : CreateEnv) (exits : Bool) (after : Host) : Prop where
  sandboxes : after.sandboxes = host.sandboxes
  cgroups : after.cgroups = host.cgroups
  descriptors : after.descriptors = host.descriptors
  policyEngine : after.policyEngine = host.policyEngine
  issued : after.issued = host.issued ++ [env.cgroup.inode]
  children : ∀ pid, after.children.lookup pid =
    if pid = env.spawn.pid then (bootedChild config env).struck exits else host.children.lookup pid
  files : host.files.Wiped (sbxDirectories host config env ++ cgroupDirectories host config env)
    (bothDirs host config) after.files

section
variable {host work : Host} {config : SandboxConfig} {env : CreateEnv}

theorem freed_closed {host : Host} {sandboxId : String} {info : CgroupInfo}
    (known : host.cgroups.lookup sandboxId = some info) (fd : Int) :
    (host.closeDescriptor fd).freed sandboxId = closeFd (closeFd host.descriptors fd) info.cgroupFd := by
  have same : (host.closeDescriptor fd).cgroups.lookup sandboxId = some info := known
  unfold Host.freed
  rw [same]
  rfl

theorem completed_released (complete : Completed host config env) (prepared : Prepared host config env work)
    {entry : SandboxInstance} (pid : entry.firecrackerPid = env.spawn.pid) (fd : entry.tapFd = env.tap.fd)
    (terminate : TerminateEnv) :
    Released host config env terminate.exits
      (terminated (completed host config env work) config.sandboxId entry terminate
        ((completed host config env work).wiped config.sandboxId)) := by
  obtain ⟨traced, wiped⟩ := prepared
  obtain ⟨⟨⟨⟨⟨⟨-, unlisted⟩, new, -⟩, granted⟩, tap⟩, -, free⟩, -⟩ := complete.spawned
  have info : (completed host config env work).cgroups.lookup config.sandboxId = some (cgroupInfo host config env) :=
    Finmap.lookup_insert _
  obtain ⟨files, touched, sent, rfl⟩ := traced.frame
  constructor
  · exact erase_insert unlisted _
  · exact erase_insert new _
  · have back : (insert env.tap.fd (insert env.cgroup.fd host.descriptors)).erase env.tap.fd =
        insert env.cgroup.fd host.descriptors := Finset.erase_insert tap.1.2
    have own : (insert env.cgroup.fd host.descriptors).erase env.cgroup.fd = host.descriptors :=
      Finset.erase_insert granted.2.2.2
    change ((completed host config env _).closeDescriptor entry.tapFd).freed config.sandboxId = _
    rw [freed_closed info, fd]
    change closeFd (closeFd (insert env.tap.fd (insert env.cgroup.fd host.descriptors)) _) env.cgroup.fd = _
    rw [closeFd, if_pos granted.2.2.1, closeFd, if_pos tap.1.1, back, own]
  · rfl
  · rfl
  · intro other
    change ((completed host config env _).killed entry.firecrackerPid terminate.exits).lookup other = _
    have children : (completed host config env
        { host with files := files, touched := touched, sent := sent }).children =
          host.children.insert env.spawn.pid (bootedChild config env) := rfl
    rw [killed_eq, lookup_killChild, pid, children]
    by_cases here : other = env.spawn.pid
    · simp [here, free.1]
    · simp [here, Finmap.lookup_insert_of_ne _ here]
  · change host.files.Wiped _ _ ((completed host config env _).wiped config.sandboxId)
    unfold Host.wiped Host.cgroupFiles
    rw [info]
    exact wiped

theorem completed_removed {places : Location → Prop} (traced : Traced places host work) :
    (completed host config env work).touched ++ (completed host config env work).cgroupPlace config.sandboxId ++
        [((completed host config env work).baseRuntimeDir / config.sandboxId).location] =
      (completed host config env work).touched ++
        [(cgroupDir host config).location, (sbxDir host config).location] := by
  have info : (completed host config env work).cgroups.lookup config.sandboxId = some (cgroupInfo host config env) :=
    Finmap.lookup_insert _
  obtain ⟨files, touched, sent, rfl⟩ := traced.frame
  rw [Host.cgroupPlace, info]
  exact List.append_assoc _ _ _

/-- A cgroup whose monitoring has been switched off is left alone by the filter. -/
theorem unmonitored_spares {loader : EBPFLoader} {cgroupId : UInt64} {task : Task} (inside : task.cgroupId = cgroupId)
    (id : UInt64) (reserved : Bool) :
    (loader.setCgroupMonitored true cgroupId false).2.sigkills task id reserved = false := by
  rw [Bool.eq_false_iff, ne_eq, EBPFLoader.sigkills_iff, EBPFLoader.monitored_setCgroupMonitored, inside]
  rintro ⟨⟨value, monitored, nonzero⟩, -⟩
  split at monitored
  · exact nonzero (Option.some.inj monitored).symm
  · rename_i refused
    -- a key that the full map does not take is not in it either
    obtain ⟨table, found, lookup⟩ := Option.bind_eq_some_iff.mp monitored
    exact refused ⟨rfl, rfl, table, found, .inl (Finmap.mem_iff.mpr ⟨value, lookup⟩)⟩

/-- A sandbox that has been created and terminated leaves no trace in the tables and the descriptors,
and its two directories, and nothing else, are handed to `remove_all`. Its tasks, if any are left, are
not killed any more, and no verdict about another cgroup has changed since the creation. -/
theorem terminate_undoes_create (host : Host) (free : host.lockDepth = 0) (config : SandboxConfig) (env : CreateEnv)
    (middle : Host) (created : (createSandbox .plain config env).ends host = (.returned .success, middle))
    (terminate : TerminateEnv) :
    ∃ after, (terminateSandbox .plain config.sandboxId terminate).ends middle = (.returned .success, after) ∧
      Released host config env terminate.exits after ∧
      after.touched = middle.touched ++ [(cgroupDir host config).location, (sbxDir host config).location] ∧
      (∀ cgroupId, cgroupId ≠ env.cgroup.inode → SameVerdicts cgroupId middle after) ∧
      (terminate.unmonitor = true → ∀ task id reserved, task.cgroupId = env.cgroup.inode →
        after.sigkills task id reserved = false) := by
  obtain ⟨complete, work, prepared, rfl⟩ := createSandbox_prepared free created
  have found : (completed host config env work).sandboxes.lookup config.sandboxId =
      some { forkedEntry host config env with
        metadata := { (forkedEntry host config env).metadata with state := .running }, isActive := true } :=
    Finmap.lookup_insert _
  have unlocked : (completed host config env work).lockDepth = 0 := by
    obtain ⟨files, touched, sent, rfl⟩ := prepared.1.frame
    exact free
  have cgroup : (completed host config env work).getCgroupId config.sandboxId = env.cgroup.inode := by
    simp [completed, Host.register, Host.policed, withChild, ready, Host.getCgroupId, cgroupInfo]
  refine ⟨_, terminateSandbox_wipes (.inl unlocked) found terminate,
    completed_released complete prepared rfl rfl terminate, completed_removed prepared.1,
    fun cgroupId other => ?_, fun granted task id reserved inside => ?_⟩
  · exact unmonitored_sameVerdicts rfl (cgroup ▸ other)
  · have valid : 0 < env.cgroup.inode := UInt64.pos_iff_ne_zero.mpr complete.spawned.cgroupId_ne
    change ((completed host config env work).unmonitored config.sandboxId terminate.unmonitor).any _ = false
    rw [Host.unmonitored, cgroup, granted]
    simp only [valid, if_true]
    cases (completed host config env work).ebpfLoader with
    | none => rfl
    | some loader => exact unmonitored_spares inside id reserved

end

/-- The demonstration sandbox comes and goes; its directories and all else are as before. -/
theorem demo_undone : ∃ middle after,
    (createSandbox .plain demoConfig (smoothEnv 77)).ends (bareHost (some sysFilterLoader) (some .init)) =
      (.returned .success, middle) ∧
    (terminateSandbox .plain "sbx-9f82a1" {}).ends middle = (.returned .success, after) ∧
    Released (bareHost (some sysFilterLoader) (some .init)) demoConfig (smoothEnv 77) true after := by
  have complete : Completed (bareHost (some sysFilterLoader) (some .init)) demoConfig (smoothEnv 77) := by decide
  obtain ⟨work, -, created⟩ := createSandbox_completes (.inl rfl) complete
  obtain ⟨after, ends, released, -, -⟩ := terminate_undoes_create (bareHost (some sysFilterLoader) (some .init)) rfl
    demoConfig (smoothEnv 77) _ created {}
  exact ⟨_, after, created, ends, released⟩

end Aegis.Runtime
