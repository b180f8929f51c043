import Aegis.Runtime.Stages

/-! All ways a creation can end.

The steps are put together once. What the rest of the development says about a creation
it reads off the list of results, by cases.
-/

set_option autoImplicit false

namespace Aegis.Runtime
open Library Ebpf Policy

theorem terminateSandbox_unknown {host : Host} {sandboxId : String} (unknown : sandboxId ∉ host.sandboxes)
    (env : TerminateEnv) :
    (terminateSandbox .reentrant sandboxId env).ends host = (.returned .errInvalidSandboxID, host) := by
  have missing : host.sandboxes.lookup sandboxId = none := Finmap.lookup_eq_none.mpr unknown
  have inner : (terminateBody sandboxId env).ends (sandboxMutex.put (sandboxMutex.depth host + 1) host) =
      (.returned .errInvalidSandboxID, sandboxMutex.put (sandboxMutex.depth host + 1) host) := by
    simp [terminateBody, sandboxMutex, missing]
  rw [terminateSandbox, sandboxMutex.ends_guard (.inr rfl) (by simp) inner]
  simp [sandboxMutex]

theorem terminateSandbox_busy {host : Host} (busy : host.lockDepth ≠ 0) (sandboxId : String) (env : TerminateEnv) :
    (terminateSandbox .plain sandboxId env).ends host = (.blocked, host) := by
  unfold terminateSandbox Proc.ends
  rw [sandboxMutex.guard_blocked busy]

/-- The end of a call that locks the mutex again before it would return `status`. -/
def relocked : Relock → Status → Outcome Status
  | .plain, _ => .blocked
  | .reentrant, status => .returned status

section
variable (host : Host) (entry : SandboxInstance) {env : CreateEnv}

theorem finishCreate_threw (throws : BootThrows entry.config env.boot) (relock : Relock) :
    (finishCreate relock entry env).ends host = (.threw, host) :=
  Proc.ends_bind_threw (boot_threw host entry env.boot throws)

/-- A failed boot calls `terminate_sandbox` with the lock held, on an id it does not know. -/
theorem finishCreate_failed (held : host.lockDepth ≠ 0) (unknown : entry.config.sandboxId ∉ host.sandboxes)
    (quiet : ¬ BootThrows entry.config env.boot) (fails : ¬ BootReported entry.config env.boot) (relock : Relock) :
    ∃ status sent, status ≠ .success ∧ (finishCreate relock entry env).ends host =
      (relocked relock status,
        host.booted entry.firecrackerPid (decide (BootStarts entry.config env.boot)) sent) := by
  obtain ⟨status, sent, success, boot⟩ := boot_ends host entry env.boot quiet
  have failed : status ≠ .success := fun same => fails (success.mp same)
  refine ⟨status, sent, failed, ?_⟩
  unfold finishCreate
  rw [Proc.ends_bind_returned boot, if_pos failed]
  cases relock with
  | plain => exact Proc.ends_bind_blocked (terminateSandbox_busy (by exact held) _ _)
  | reentrant => exact Proc.ends_bind_returned (terminateSandbox_unknown (by exact unknown) _)

theorem finishCreate_done {cgroupId : UInt64} (known : host.getCgroupId entry.config.sandboxId = cgroupId)
    (valid : cgroupId ≠ 0) (quiet : ¬ BootThrows entry.config env.boot)
    (reported : BootReported entry.config env.boot) (relock : Relock) :
    ∃ sent, (finishCreate relock entry env).ends host = (.returned .success,
      ((host.booted entry.firecrackerPid (decide (BootStarts entry.config env.boot)) sent).policed
        entry.config cgroupId env.bpf).register entry) := by
  obtain ⟨status, sent, success, boot⟩ := boot_ends host entry env.boot quiet
  refine ⟨sent, ?_⟩
  unfold finishCreate
  rw [Proc.ends_bind_returned boot, if_neg (by simp [success.mpr reported]),
    Proc.ends_bind_returned (applyEbpfPolicies_ends (by exact known) valid env.bpf)]
  simp

end

section
variable (host : Host) (config : SandboxConfig) (env : CreateEnv)

def sbxDir : Path := host.baseRuntimeDir / config.sandboxId

def cgroupDir : Path := host.rootPath / config.sandboxId

/-- The id is accepted. -/
def Admitted : Prop := config.sandboxId ≠ "" ∧ config.sandboxId ∉ host.sandboxes

/-- The cgroup directory is made. -/
def CgroupMade : Prop := Admitted host config ∧ config.sandboxId ∉ host.cgroups ∧ env.cgroup.mkdir = none

/-- The cgroup is there. -/
def CgroupUp : Prop := CgroupMade host config env ∧ env.cgroup.Granted host config.sandboxId

/-- The cgroup and the TAP device are there. -/
def TapUp : Prop := CgroupUp host config env ∧ env.tap.Granted (host.withDescriptor env.cgroup.fd)

/-- Firecracker has been forked. -/
def Forked : Prop := TapUp host config env ∧ env.spawn.Clears ∧ host.FreePid env.spawn.pid

/-- Firecracker listens. -/
def Spawned : Prop := Forked host config env ∧ env.spawn.answer = .yes

/-- All steps that can fail have gone well. -/
def Completed : Prop :=
  Spawned host config env ∧ ¬ BootThrows config env.boot ∧ BootReported config env.boot

instance : Decidable (Admitted host config) := inferInstanceAs (Decidable (_ ∧ _))
instance : Decidable (CgroupMade host config env) := inferInstanceAs (Decidable (_ ∧ _ ∧ _))
instance : Decidable (CgroupUp host config env) := inferInstanceAs (Decidable (_ ∧ _))
instance : Decidable (TapUp host config env) := inferInstanceAs (Decidable (_ ∧ _))
instance : Decidable (Forked host config env) := inferInstanceAs (Decidable (_ ∧ _ ∧ _))
instance : Decidable (Spawned host config env) := inferInstanceAs (Decidable (_ ∧ _))
instance : Decidable (Completed host config env) := inferInstanceAs (Decidable (_ ∧ _ ∧ _))

section
variable {host config env}

theorem not_admitted : ¬ Admitted host config ↔ config.sandboxId = "" ∨ config.sandboxId ∈ host.sandboxes := by
  simp [Admitted, Classical.or_iff_not_imp_left]

theorem CgroupMade.new (made : CgroupMade host config env) : config.sandboxId ∉ host.cgroups := made.2.1

theorem TapUp.made (up : TapUp host config env) : CgroupMade host config env := up.1.1

theorem TapUp.granted (up : TapUp host config env) : env.cgroup.Granted host config.sandboxId := up.1.2

theorem Forked.tapUp (forked : Forked host config env) : TapUp host config env := forked.1

theorem Forked.made (forked : Forked host config env) : CgroupMade host config env := forked.tapUp.made

theorem Forked.clears (forked : Forked host config env) : env.spawn.Clears := forked.2.1

theorem Forked.free (forked : Forked host config env) : host.FreePid env.spawn.pid := forked.2.2

theorem Spawned.forked (spawned : Spawned host config env) : Forked host config env := spawned.1

theorem Spawned.made (spawned : Spawned host config env) : CgroupMade host config env := spawned.forked.made

theorem Spawned.cgroupId_ne (spawned : Spawned host config env) : env.cgroup.inode ≠ 0 :=
  spawned.forked.tapUp.granted.2.1

theorem Completed.spawned (complete : Completed host config env) : Spawned host config env := complete.1

theorem Completed.made (complete : Completed host config env) : CgroupMade host config env := complete.spawned.made

end

/-- The directories made for the sandbox and for its cgroup. -/
def sbxDirectories : List Location := host.files.created (sbxDir host config).directories env.mkdir

def cgroupDirectories : List Location :=
  (host.files.withDirectories (sbxDirectories host config env)).created (cgroupDir host config).directories
    env.cgroup.mkdir

/-- Where the work on the runtime directory and on the cgroup directory may leave traces. -/
def sbxPlaces (l : Location) : Prop :=
  l ∈ host.files.missing (sbxDir host config).directories ∨ l.Within (sbxDir host config).location

def cgroupPlaces (l : Location) : Prop :=
  l ∈ host.files.missing (cgroupDir host config).directories ∨ l.Within (cgroupDir host config).location

def places (l : Location) : Prop := sbxPlaces host config l ∨ cgroupPlaces host config l

/-- What a complete rollback removes. -/
def bothDirs (l : Location) : Prop :=
  l.Within (cgroupDir host config).location ∨ l.Within (sbxDir host config).location

def cgroupInfo : CgroupInfo :=
  ⟨config.sandboxId, cgroupDir host config, env.cgroup.inode, env.cgroup.fd, config.resourceLimits⟩

/-! The hosts in between. In each, `work` supplies the files and messages. -/

/-- The cgroup and the TAP device are there. -/
def ready (work : Host) : Host :=
  { work with
    cgroups := host.cgroups.insert config.sandboxId (cgroupInfo host config env)
    issued := host.issued ++ [env.cgroup.inode]
    descriptors := insert env.tap.fd (insert env.cgroup.fd host.descriptors) }

/-- The child as it is forked. -/
def newChild : Child := { cgroupId := env.cgroup.inode, policyName := config.securityPolicyName }

def withChild (child : Child) (work : Host) : Host :=
  { ready host config env work with children := host.children.insert env.spawn.pid child }

/-- The child when the boot starts. -/
def spawnedChild : Child :=
  { newChild config env with joined := env.attach.opens && env.attach.accepts }

/-- The child when the boot is over. -/
def bootedChild : Child :=
  { spawnedChild config env with started := decide (BootStarts config env.boot) }

/-- The entry once Firecracker has been forked. -/
def forkedEntry : SandboxInstance :=
  { tapEntry (newEntry config (sbxDir host config)) env.tap.fd with firecrackerPid := env.spawn.pid }

/-- The host a successful creation ends in. -/
def completed (work : Host) : Host :=
  ((withChild host config env (bootedChild config env) work).policed config env.cgroup.inode env.bpf).register
    (forkedEntry host config env)

variable {host config env} {work : Host}

theorem completed_loader {loader : EBPFLoader} {engine : PolicyEngine} (loaded : work.ebpfLoader = some loader)
    (present : work.policyEngine = some engine) :
    (completed host config env work).ebpfLoader =
      some (enforced env.cgroup.inode (engine.getPolicy config.securityPolicyName) env.bpf loader) := by
  simp [completed, Host.register, Host.policed, withChild, ready, loaded, present]

theorem completed_bare (bare : work.ebpfLoader = none ∨ work.policyEngine = none) :
    (completed host config env work).ebpfLoader = work.ebpfLoader := by
  have unchanged : (withChild host config env (bootedChild config env) work).ebpfLoader = none ∨
      (withChild host config env (bootedChild config env) work).policyEngine = none := bare
  rw [completed, Host.policed_bare unchanged]
  rfl

end

/-- All ways a creation can end, with what it leaves behind. -/
inductive CreateResult (relock : Relock) (host : Host) (config : SandboxConfig) (env : CreateEnv) :
    Outcome Status × Host → Prop where
  | rejected (refused : ¬ Admitted host config) :
      CreateResult relock host config env (.returned .errInvalidSandboxID, host)
  | known {work : Host} (admitted : Admitted host config) (taken : config.sandboxId ∈ host.cgroups)
      (traced : Traced (sbxPlaces host config) host work)
      (wiped : host.files.Wiped (sbxDirectories host config env)
        (·.Within (sbxDir host config).location) work.files) :
      CreateResult relock host config env (.returned .errInvalidSandboxID, work)
  | unmade {work : Host} (admitted : Admitted host config) (new : config.sandboxId ∉ host.cgroups)
      (error : env.cgroup.mkdir ≠ none) (traced : Traced (places host config) host work)
      (wiped : host.files.Wiped (sbxDirectories host config env ++ cgroupDirectories host config env)
        (·.Within (sbxDir host config).location) work.files) :
      CreateResult relock host config env (.returned .errCgroupQuotaExceeded, work)
  | undone {work : Host} (made : CgroupMade host config env) (refused : ¬ env.cgroup.Granted host config.sandboxId)
      (traced : Traced (places host config) host work)
      (wiped : host.files.Wiped (sbxDirectories host config env ++ cgroupDirectories host config env)
        (bothDirs host config) work.files) :
      CreateResult relock host config env (.returned .errCgroupQuotaExceeded, work)
  | tapless {work : Host} (up : CgroupUp host config env)
      (refused : ¬ env.tap.Granted (host.withDescriptor env.cgroup.fd))
      (traced : Traced (places host config) host work)
      (wiped : host.files.Wiped (sbxDirectories host config env ++ cgroupDirectories host config env)
        (bothDirs host config) work.files) :
      CreateResult relock host config env (.returned .errTAPInterfaceCreationFailed,
        { work with issued := host.issued ++ [env.cgroup.inode] })
  | uncleared {work : Host} (up : TapUp host config env) (fails : ¬ env.spawn.Clears)
      (traced : Traced (places host config) host work) :
      CreateResult relock host config env (.threw, ready host config env work)
  | unforked {work : Host} (up : TapUp host config env) (clears : env.spawn.Clears)
      (taken : ¬ host.FreePid env.spawn.pid) (traced : Traced (places host config) host work)
      (wiped : host.files.Wiped (sbxDirectories host config env ++ cgroupDirectories host config env)
        (bothDirs host config) work.files) :
      CreateResult relock host config env (.returned .errMicroVMBootFailed,
        { work with issued := host.issued ++ [env.cgroup.inode] })
  | unpolled {work : Host} (up : Forked host config env) (throws : env.spawn.answer = .throws)
      (traced : Traced (places host config) host work) :
      CreateResult relock host config env (.threw, withChild host config env (newChild config env) work)
  | unspawned {work : Host} (up : Forked host config env) (silent : env.spawn.answer = .no)
      (traced : Traced (places host config) host work) :
      CreateResult relock host config env (.returned .errMicroVMBootFailed,
        { work with
          issued := host.issued ++ [env.cgroup.inode]
          children := host.children.insert env.spawn.pid (newChild config env) })
  | bootThrew {work : Host} (up : Spawned host config env) (throws : BootThrows config env.boot)
      (traced : Traced (places host config) host work) :
      CreateResult relock host config env (.threw, withChild host config env (spawnedChild config env) work)
  | unbooted {work : Host} {status : Status} (up : Spawned host config env)
      (quiet : ¬ BootThrows config env.boot) (fails : ¬ BootReported config env.boot)
      (failed : status ≠ .success) (traced : Traced (places host config) host work) :
      CreateResult relock host config env
        (relocked relock status, withChild host config env (bootedChild config env) work)
  | done {work : Host} (complete : Completed host config env) (traced : Traced (places host config) host work) :
      CreateResult relock host config env (.returned .success, completed host config env work)

/-! Putting the steps together. -/

section
variable (host : Host) (config : SandboxConfig) (env : CreateEnv)

/-- The host in which both directories have been made and the limits written. -/
def Works (work : Host) : Prop :=
  Confined (cgroupDir host config).location
    ((host.makeDirectories (sbxDir host config) env.mkdir).makeDirectories (cgroupDir host config)
      env.cgroup.mkdir) work

theorem sbx_traced :
    Traced (sbxPlaces host config) host (host.makeDirectories (sbxDir host config) env.mkdir) :=
  (Traced.makeDirectories _ _ _).mono fun _ => .inl

theorem cgroup_traced : Traced (places host config) host
    ((host.makeDirectories (sbxDir host config) env.mkdir).makeDirectories (cgroupDir host config)
      env.cgroup.mkdir) := by
  refine ((sbx_traced host config env).mono fun _ => .inl).trans ?_
  refine (Traced.makeDirectories _ _ _).mono fun l missing => .inr (.inl ?_)
  exact FileTree.mem_missing_of_withDirectories missing

theorem sbx_removed {work : Host} (places : Location → Prop) (wider : ∀ l, sbxPlaces host config l → places l) :
    Traced places work (work.removeAll (sbxDir host config)) :=
  (Traced.removeAll _ _).mono fun l within => wider l (.inr within)

theorem directories_fresh (l : Location)
    (member : l ∈ sbxDirectories host config env ++ cgroupDirectories host config env) : host.files l = none := by
  rcases List.mem_append.mp member with here | here
  · exact (FileTree.mem_of_created here).2
  · have missing := FileTree.mem_missing.mpr (FileTree.mem_of_created here)
    exact (FileTree.mem_missing.mp (FileTree.mem_missing_of_withDirectories missing)).2

theorem known_wiped : host.files.Wiped (sbxDirectories host config env) (·.Within (sbxDir host config).location)
    ((host.makeDirectories (sbxDir host config) env.mkdir).removeAll (sbxDir host config)).files where
  fresh _ member := (FileTree.mem_of_created member).2
  gone _ within := if_pos within
  kept _ out := if_neg out

theorem unmade_wiped :
    host.files.Wiped (sbxDirectories host config env ++ cgroupDirectories host config env)
      (·.Within (sbxDir host config).location)
      (((host.makeDirectories (sbxDir host config) env.mkdir).makeDirectories (cgroupDir host config)
        env.cgroup.mkdir).removeAll (sbxDir host config)).files where
  fresh := directories_fresh host config env
  gone _ within := if_pos within
  kept _ out := by
    rw [← FileTree.withDirectories_append]
    exact if_neg out

end

section
variable {host : Host} {config : SandboxConfig} {env : CreateEnv} {work : Host}

theorem Works.traced (works : Works host config env work) : Traced (places host config) host work :=
  (cgroup_traced host config env).trans
    ((Traced.of_confined works).mono fun _ within => .inr (.inr within))

/-- A complete rollback, from a host that differs from `work` at most inside the runtime directory. -/
theorem Works.wiped (works : Works host config env work) {before : Host}
    (same : ∀ l, ¬ l.Within (sbxDir host config).location → before.files l = work.files l) :
    host.files.Wiped (sbxDirectories host config env ++ cgroupDirectories host config env) (bothDirs host config)
      ((before.removeAll (cgroupDir host config)).removeAll (sbxDir host config)).files where
  fresh := directories_fresh host config env
  gone l removed := by
    by_cases within : l.Within (sbxDir host config).location
    · exact if_pos within
    · have inside := removed.resolve_right within
      exact (if_neg within).trans (if_pos inside)
  kept l stays := by
    obtain ⟨out, away⟩ := not_or.mp stays
    obtain ⟨files, new, rfl, kept, -⟩ := works
    calc ((before.removeAll (cgroupDir host config)).removeAll (sbxDir host config)).files l
      _ = before.files l := (if_neg away).trans (if_neg out)
      _ = files l := same l away
      _ = _ := kept l out
      _ = host.files.withDirectories (sbxDirectories host config env ++ cgroupDirectories host config env) l := by
        rw [← FileTree.withDirectories_append]
        rfl

theorem ready_eq (traced : Traced (places host config) host work) :
    ((work.withDescriptor env.cgroup.fd).addCgroup (cgroupInfo host config env)).withDescriptor env.tap.fd =
      ready host config env work := by
  obtain ⟨files, touched, sent, rfl⟩ := traced.frame
  simp [ready, Host.withDescriptor, Host.addCgroup, cgroupInfo]

theorem cleared_ready (socketPath : Path) :
    (ready host config env work).cleared socketPath env.spawn =
      ready host config env (work.cleared socketPath env.spawn) := by
  simp [ready, Host.cleared]

theorem addChild_ready (traced : Traced (places host config) host work) :
    (ready host config env work).addChild env.spawn.pid config =
      withChild host config env (newChild config env) work := by
  obtain ⟨files, touched, sent, rfl⟩ := traced.frame
  simp [withChild, ready, Host.addChild, Host.getCgroupId, newChild, cgroupInfo]

theorem attached_withChild :
    (withChild host config env (newChild config env) work).attached (cgroupInfo host config env) env.spawn.pid
        env.attach =
      withChild host config env (spawnedChild config env)
        (work.writeFile (cgroupDir host config / "cgroup.procs") (toString env.spawn.pid) env.attach) := by
  by_cases taken : env.attach.opens = true ∧ env.attach.accepts = true
  · simp [withChild, ready, Host.attached, Host.updateChild, Host.writeFile, spawnedChild, taken, cgroupInfo]
  · have unjoined : (env.attach.opens && env.attach.accepts) = false := by simpa using taken
    simp [withChild, ready, Host.attached, Host.writeFile, spawnedChild, newChild, taken, unjoined, cgroupInfo]

theorem booted_withChild (sent : List (Path × String)) :
    (withChild host config env (spawnedChild config env) work).booted env.spawn.pid
        (decide (BootStarts config env.boot)) sent =
      withChild host config env (bootedChild config env) { work with sent := sent } := by
  by_cases starts : BootStarts config env.boot
  · simp [withChild, ready, Host.booted, Host.startVm, Host.updateChild, bootedChild, starts]
  · simp [withChild, ready, Host.booted, bootedChild, spawnedChild, newChild, starts]

theorem removed_withChild (new : config.sandboxId ∉ host.cgroups) (cgroup : host.FreeDescriptor env.cgroup.fd)
    (tap : (host.withDescriptor env.cgroup.fd).FreeDescriptor env.tap.fd)
    (traced : Traced (places host config) host work) :
    (((withChild host config env (newChild config env) work).closeDescriptor env.tap.fd).dropCgroup
        config.sandboxId (cgroupInfo host config env)).removeAll (sbxDir host config) =
      { (work.removeAll (cgroupDir host config)).removeAll (sbxDir host config) with
        issued := host.issued ++ [env.cgroup.inode]
        children := host.children.insert env.spawn.pid (newChild config env) } := by
  have back : (insert env.tap.fd (insert env.cgroup.fd host.descriptors)).erase env.tap.fd =
      insert env.cgroup.fd host.descriptors := Finset.erase_insert tap.2
  obtain ⟨files, touched, sent, rfl⟩ := traced.frame
  simp [withChild, ready, Host.closeDescriptor, Host.dropCgroup, Host.removeAll, cgroupInfo, back,
    erase_insert new, cgroup.1, cgroup.2, tap.1]

/-- The end of every rollback that knows the cgroup. -/
theorem rollback_ends {sandboxId : String} {info : CgroupInfo} (known : host.cgroups.lookup sandboxId = some info)
    (dir : Path) (status : Status) :
    (do
      let _ ← destroyCgroup sandboxId
      removeAll dir
      pure status : Proc Host Status).ends host =
      (.returned status, (host.dropCgroup sandboxId info).removeAll dir) :=
  Proc.ends_bind_returned (destroyCgroup_known known)

/-- Destroying the cgroup just made gives everything back but the directories above it. -/
theorem undo_ends (host : Host) (config : SandboxConfig) (env : CreateEnv) (before : Host)
    (new : config.sandboxId ∉ before.cgroups) (free : before.FreeDescriptor env.cgroup.fd) (dir : Path)
    (status : Status) :
    (do
      let _ ← destroyCgroup config.sandboxId
      removeAll dir
      pure status : Proc Host Status).ends
        ((before.withDescriptor env.cgroup.fd).addCgroup (cgroupInfo host config env)) =
      (.returned status, { (before.removeAll (cgroupDir host config)).removeAll dir with
        issued := before.issued ++ [env.cgroup.inode] }) := by
  have known : ((before.withDescriptor env.cgroup.fd).addCgroup (cgroupInfo host config env)).cgroups.lookup
      config.sandboxId = some (cgroupInfo host config env) := by
    simp [Host.addCgroup, cgroupInfo]
  rw [rollback_ends known]
  simp [Host.dropCgroup, Host.addCgroup, Host.withDescriptor, Host.closeDescriptor, Host.removeAll, cgroupInfo,
    erase_insert new, free.1, free.2]

theorem createCgroup_works (made : CgroupMade host config env) :
    ∃ work, Works host config env work ∧
      (createCgroup config.sandboxId config.resourceLimits env.cgroup).ends
        (host.makeDirectories (sbxDir host config) env.mkdir) =
        if env.cgroup.Granted host config.sandboxId then
          (.returned .success, (work.withDescriptor env.cgroup.fd).addCgroup (cgroupInfo host config env))
        else (.returned .errCgroupQuotaExceeded, work.removeAll (cgroupDir host config)) := by
  unfold Works
  rw [made.2.2]
  exact createCgroup_steps made.2.1 made.2.2

theorem closed_ready (tap : (host.withDescriptor env.cgroup.fd).FreeDescriptor env.tap.fd)
    (traced : Traced (places host config) host work) :
    (ready host config env work).closeDescriptor env.tap.fd =
      (work.withDescriptor env.cgroup.fd).addCgroup (cgroupInfo host config env) := by
  have back : (insert env.tap.fd (insert env.cgroup.fd host.descriptors)).erase env.tap.fd =
      insert env.cgroup.fd host.descriptors := Finset.erase_insert tap.2
  obtain ⟨files, touched, sent, rfl⟩ := traced.frame
  simp [ready, Host.closeDescriptor, Host.withDescriptor, Host.addCgroup, cgroupInfo, tap.1, back]

theorem socket_below : (sbxDir host config / "firecracker.socket").location.Below (sbxDir host config).location :=
  below_div (by decide)

theorem cleared_traced (env : CreateEnv) (traced : Traced (places host config) host work) : Traced (places host config) host
    (work.cleared (sbxDir host config / "firecracker.socket") env.spawn) := by
  refine traced.trans ?_
  by_cases stale : env.spawn.stale = .yes
  · have removal := Confined.remove work (sbxDir host config) (show PlainName "firecracker.socket" by decide)
    have same : work.cleared (sbxDir host config / "firecracker.socket") env.spawn =
        work.remove (sbxDir host config / "firecracker.socket") := by
      simp [Host.cleared, Host.remove, stale]
    rw [same]
    exact (Traced.of_confined removal).mono fun _ within => .inl (.inr within)
  · have same : work.cleared (sbxDir host config / "firecracker.socket") env.spawn = work := by
      simp [Host.cleared, stale]
    rw [same]
    exact .refl work

theorem attach_traced (traced : Traced (places host config) host work) (text : String) (answer : SysfsAnswer) :
    Traced (places host config) host (work.writeFile (cgroupDir host config / "cgroup.procs") text answer) := by
  have write := Confined.writeFile work (cgroupDir host config) (show PlainName "cgroup.procs" by decide) text answer
  exact traced.trans ((Traced.of_confined write).mono fun _ within => .inr (.inr within))

theorem removed_traced (traced : Traced (places host config) host work) : Traced (places host config) host
    ((work.removeAll (cgroupDir host config)).removeAll (sbxDir host config)) := by
  have first := traced.trans ((Traced.removeAll work (cgroupDir host config)).mono fun _ within => .inr (.inr within))
  exact first.trans ((Traced.removeAll _ (sbxDir host config)).mono fun _ within => .inl (.inr within))

/-- Nothing but the socket, which is inside the runtime directory, is gone. -/
theorem cleared_outside (l : Location) (out : ¬ l.Within (sbxDir host config).location) :
    (work.cleared (sbxDir host config / "firecracker.socket") env.spawn).files l = work.files l := by
  by_cases stale : env.spawn.stale = .yes
  · have other : l ≠ (sbxDir host config / "firecracker.socket").location := by
      intro same
      exact out (same ▸ socket_below.within)
    simp [Host.cleared, FileTree.remove, stale, other]
  · simp [Host.cleared, stale]

/-- The entry with the TAP device. -/
def readyEntry (host : Host) (config : SandboxConfig) (env : CreateEnv) : SandboxInstance :=
  tapEntry (newEntry config (sbxDir host config)) env.tap.fd

/-- The fork and the wait for the socket, from the host in which the TAP device is there. -/
theorem spawn_ready (clears : env.spawn.Clears) (free : host.FreePid env.spawn.pid) (works : Works host config env work) :
    (spawnFirecrackerProcess (readyEntry host config env) env.spawn).ends (ready host config env work) =
      (match env.spawn.answer with
        | .yes => .returned (.success, forkedEntry host config env)
        | .no => .returned (.errMicroVMBootFailed, forkedEntry host config env)
        | .throws => .threw,
        withChild host config env (newChild config env)
          (work.cleared (sbxDir host config / "firecracker.socket") env.spawn)) := by
  rw [← addChild_ready (cleared_traced env works.traced), ← cleared_ready]
  refine spawn_forked _ clears ?_
  obtain ⟨files, touched, sent, rfl⟩ := works.traced.frame
  exact free

theorem attach_ready (host : Host) (config : SandboxConfig) (env : CreateEnv) (work : Host) :
    (attachPid config.sandboxId env.spawn.pid env.attach).ends (withChild host config env (newChild config env) work) =
      (.returned (if env.attach.opens then .success else .errCgroupQuotaExceeded),
        withChild host config env (spawnedChild config env)
          (work.writeFile (cgroupDir host config / "cgroup.procs") (toString env.spawn.pid) env.attach)) := by
  rw [← attached_withChild]
  exact attachPid_ends (Finmap.lookup_insert _) env.spawn.pid env.attach

theorem spawnCreate_unforked (up : TapUp host config env) (clears : env.spawn.Clears)
    (taken : ¬ host.FreePid env.spawn.pid) (works : Works host config env work) (relock : Relock) :
    CreateResult relock host config env
      ((spawnCreate relock (readyEntry host config env) (sbxDir host config) env).ends
        (ready host config env work)) := by
  obtain ⟨⟨⟨-, new, -⟩, granted⟩, tap⟩ := id up
  have traced := cleared_traced env works.traced
  have spawn : (spawnFirecrackerProcess (readyEntry host config env) env.spawn).ends (ready host config env work) =
      (.returned (.errMicroVMBootFailed, readyEntry host config env), ready host config env
        (work.cleared (sbxDir host config / "firecracker.socket") env.spawn)) := by
    rw [← cleared_ready]
    refine spawn_refused _ clears ?_
    obtain ⟨files, touched, sent, rfl⟩ := works.traced.frame
    exact taken
  have undone := undo_ends host config env (work.cleared (sbxDir host config / "firecracker.socket") env.spawn)
    (by obtain ⟨files, touched, sent, same⟩ := traced.frame; rw [same]; exact new)
    (by obtain ⟨files, touched, sent, same⟩ := traced.frame; rw [same]; exact granted.2.2)
    (sbxDir host config) .errMicroVMBootFailed
  rw [← closed_ready tap.1 traced] at undone
  have result : CreateResult relock host config env _ :=
    .unforked up clears taken (removed_traced traced) (works.wiped cleared_outside)
  unfold spawnCreate
  rw [Proc.ends_bind_returned spawn, if_pos (by simp)]
  convert result using 1
  refine Eq.trans undone ?_
  have same : (work.cleared (sbxDir host config / "firecracker.socket") env.spawn).issued = host.issued := by
    obtain ⟨files, touched, sent, same⟩ := traced.frame
    rw [same]
  rw [same]

/-- The last part of a creation, from the host in which Firecracker listens. -/
theorem finishCreate_result (held : host.lockDepth ≠ 0) (up : Spawned host config env)
    (traced : Traced (places host config) host work) (relock : Relock) :
    CreateResult relock host config env ((finishCreate relock (forkedEntry host config env) env).ends
      (withChild host config env (spawnedChild config env) work)) := by
  obtain ⟨⟨⟨⟨⟨⟨-, unlisted⟩, -⟩, granted⟩, -⟩, -⟩, -⟩ := id up
  by_cases throws : BootThrows config env.boot
  · rw [finishCreate_threw _ _ (by exact throws)]
    exact .bootThrew up throws traced
  by_cases reported : BootReported config env.boot
  · have known : (withChild host config env (spawnedChild config env) work).getCgroupId config.sandboxId =
        env.cgroup.inode := by
      simp [Host.getCgroupId, withChild, ready, cgroupInfo]
    obtain ⟨sent, finish⟩ := finishCreate_done _ (forkedEntry host config env) known granted.2.1 throws reported relock
    have result : CreateResult relock host config env _ :=
      .done ⟨up, throws, reported⟩ (traced.trans (.sending work sent))
    convert result using 1
    rw [finish, completed, ← booted_withChild]
    rfl
  -- the rollback finds the lock held and, if it gets past that, an id that is not listed yet
  · have busy : (withChild host config env (spawnedChild config env) work).lockDepth ≠ 0 := by
      obtain ⟨files, touched, sent, rfl⟩ := traced.frame
      exact held
    have fresh : config.sandboxId ∉ (withChild host config env (spawnedChild config env) work).sandboxes := by
      obtain ⟨files, touched, sent, rfl⟩ := traced.frame
      exact unlisted
    obtain ⟨status, sent, failed, finish⟩ := finishCreate_failed _ (forkedEntry host config env) busy fresh throws
      reported relock
    have result : CreateResult relock host config env _ :=
      .unbooted up throws reported failed (traced.trans (.sending work sent))
    convert result using 1
    rw [finish, ← booted_withChild]
    rfl

theorem spawnCreate_result (held : host.lockDepth ≠ 0) (up : TapUp host config env)
    (works : Works host config env work) (relock : Relock) :
    CreateResult relock host config env
      ((spawnCreate relock (readyEntry host config env) (sbxDir host config) env).ends
        (ready host config env work)) := by
  -- `exists` and `remove` without an error code throw, past all of the clean-up
  by_cases clears : env.spawn.Clears
  swap
  · unfold spawnCreate
    rw [Proc.ends_bind_threw (spawn_threw _ clears)]
    exact .uncleared up clears works.traced
  by_cases free : host.FreePid env.spawn.pid
  swap
  · exact spawnCreate_unforked up clears free works relock
  obtain ⟨⟨⟨-, new, -⟩, granted⟩, tap⟩ := id up
  have forked : Forked host config env := ⟨up, clears, free⟩
  have traced := cleared_traced env works.traced
  have fork := spawn_ready clears free works
  unfold spawnCreate
  cases answer : env.spawn.answer with
  | throws =>
    rw [answer] at fork
    rw [Proc.ends_bind_threw fork]
    exact .unpolled forked answer traced
  | no =>
    have known : ((withChild host config env (newChild config env) (work.cleared
        (sbxDir host config / "firecracker.socket") env.spawn)).closeDescriptor env.tap.fd).cgroups.lookup
        config.sandboxId = some (cgroupInfo host config env) := Finmap.lookup_insert _
    have result : CreateResult relock host config env _ := .unspawned forked answer (removed_traced traced)
    rw [← removed_withChild new granted.2.2 tap.1 traced] at result
    rw [answer] at fork
    rw [Proc.ends_bind_returned fork, if_pos (by simp)]
    convert result using 1
    exact rollback_ends known (sbxDir host config) .errMicroVMBootFailed
  | yes =>
    have attach := attach_ready host config env
      (work.cleared (sbxDir host config / "firecracker.socket") env.spawn)
    have result := finishCreate_result held ⟨forked, answer⟩
      (attach_traced traced (toString env.spawn.pid) env.attach) relock
    rw [answer] at fork
    rw [Proc.ends_bind_returned fork, if_neg (by simp)]
    convert result using 1
    exact Proc.ends_bind_returned attach

end

/-- The cgroup's files do not matter to the TAP device. -/
theorem tapGranted_iff {host work : Host} {config : SandboxConfig} {env : CreateEnv}
    (works : Works host config env work) :
    env.tap.Granted ((work.withDescriptor env.cgroup.fd).addCgroup (cgroupInfo host config env)) ↔
      env.tap.Granted (host.withDescriptor env.cgroup.fd) := by
  obtain ⟨files, touched, sent, rfl⟩ := works.traced.frame
  rfl

theorem createBody_result {host : Host} (held : host.lockDepth ≠ 0) (relock : Relock) (config : SandboxConfig)
    (env : CreateEnv) : CreateResult relock host config env ((createBody relock config env).ends host) := by
  have dir : host.baseRuntimeDir / config.sandboxId = sbxDir host config := rfl
  -- one case for each step that can fail, in the order of the source
  unfold createBody
  rw [Proc.ends_get_bind, dir]
  by_cases admitted : Admitted host config
  swap
  · rw [if_pos (not_admitted.mp admitted)]
    exact .rejected admitted
  rw [if_neg (not_or.mpr admitted), Proc.ends_bind_returned (createDirectories_ends _ _ _)]
  by_cases taken : config.sandboxId ∈ host.cgroups
  · rw [Proc.ends_bind_returned (createCgroup_known (by exact taken)), if_pos (by simp)]
    exact .known admitted taken ((sbx_traced host config env).trans (sbx_removed host config _ fun _ => id))
      (known_wiped host config env)
  cases mkdir : env.cgroup.mkdir with
  | some count =>
    have traced := (cgroup_traced host config env).trans (sbx_removed host config (places host config) fun _ => .inl)
    have wiped := unmade_wiped host config env
    rw [mkdir] at traced wiped
    rw [Proc.ends_bind_returned (createCgroup_unmade (by exact taken) mkdir), if_pos (by simp)]
    exact .unmade admitted taken (by simp [mkdir]) traced wiped
  | none =>
    have made : CgroupMade host config env := ⟨admitted, taken, mkdir⟩
    obtain ⟨work, works, cgroup⟩ := createCgroup_works made
    by_cases granted : env.cgroup.Granted host config.sandboxId
    swap
    · rw [if_neg granted] at cgroup
      rw [Proc.ends_bind_returned cgroup, if_pos (by simp)]
      exact .undone made granted (removed_traced works.traced) (works.wiped fun _ _ => rfl)
    rw [if_pos granted] at cgroup
    rw [Proc.ends_bind_returned cgroup, if_neg (by simp)]
    by_cases tap : env.tap.Granted (host.withDescriptor env.cgroup.fd)
    · have device := (tapGranted_iff works).mpr tap
      rw [Proc.ends_bind_returned (setupTap_up device _), if_neg (by simp), ready_eq works.traced]
      exact spawnCreate_result held ⟨⟨made, granted⟩, tap⟩ works relock
    · have device := mt (tapGranted_iff works).mp tap
      have result : CreateResult relock host config env _ :=
        .tapless ⟨made, granted⟩ tap (removed_traced works.traced) (works.wiped fun _ _ => rfl)
      rw [Proc.ends_bind_returned (setupTap_down device _), if_pos (by simp)]
      have tables : work.cgroups = host.cgroups ∧ work.descriptors = host.descriptors ∧ work.issued = host.issued := by
        obtain ⟨files, touched, sent, rfl⟩ := works.traced.frame
        exact ⟨rfl, rfl, rfl⟩
      have undone := undo_ends host config env work (by rw [tables.1]; exact taken)
        (by unfold Host.FreeDescriptor; rw [tables.2.1]; exact granted.2.2) (sbxDir host config)
        .errTAPInterfaceCreationFailed
      rw [tables.2.2] at undone
      convert result using 1

/-- The lock is taken at the start and given back at the end, unless the call is stuck. -/
theorem createSandbox_ends {host : Host} {relock : Relock} (free : host.lockDepth = 0 ∨ relock = .reentrant)
    (config : SandboxConfig) (env : CreateEnv) :
    ∃ outcome after, CreateResult relock { host with lockDepth := host.lockDepth + 1 } config env (outcome, after) ∧
      (createSandbox relock config env).ends host =
        (outcome, if outcome = .blocked then after else { after with lockDepth := after.lockDepth - 1 }) := by
  have held : { host with lockDepth := host.lockDepth + 1 }.lockDepth ≠ 0 := Nat.succ_ne_zero _
  have result := createBody_result held relock config env
  rcases inner : (createBody relock config env).ends { host with lockDepth := host.lockDepth + 1 } with ⟨outcome, after⟩
  rw [inner] at result
  refine ⟨outcome, after, result, ?_⟩
  by_cases stuck : outcome = .blocked
  · subst stuck
    exact sandboxMutex.ends_guard_blocked free inner
  · rw [if_neg stuck]
    exact sandboxMutex.ends_guard free stuck inner

theorem createSandbox_busy {host : Host} (busy : host.lockDepth ≠ 0) (config : SandboxConfig) (env : CreateEnv) :
    (createSandbox .plain config env).ends host = (.blocked, host) := by
  unfold createSandbox Proc.ends
  rw [sandboxMutex.guard_blocked busy]

section
variable {host after : Host} {relock : Relock} {config : SandboxConfig} {env : CreateEnv} {outcome : Outcome Status}

theorem CreateResult.lockDepth_eq (result : CreateResult relock host config env (outcome, after)) :
    after.lockDepth = host.lockDepth := by
  cases result with
  | rejected => rfl
  | known _ _ traced | unmade _ _ _ traced | undone _ _ traced | tapless _ _ traced | uncleared _ _ traced
  | unforked _ _ _ traced | unpolled _ _ traced | unspawned _ _ traced | bootThrew _ _ traced
  | unbooted _ _ _ _ traced | done _ traced =>
    obtain ⟨files, touched, sent, rfl⟩ := traced.frame
    rfl

/-- A creation that reports success has gone through every step. -/
theorem createSandbox_success (created : (createSandbox relock config env).ends host = (.returned .success, after)) :
    Completed host config env ∧
      ∃ work, Traced (places host config) host work ∧ after = completed host config env work := by
  have free : host.lockDepth = 0 ∨ relock = .reentrant := by
    by_contra busy
    obtain ⟨locked, plain⟩ := not_or.mp busy
    cases relock with
    | plain =>
      rw [createSandbox_busy locked] at created
      cases created
    | reentrant => exact plain rfl
  obtain ⟨outcome, final, result, ends⟩ := createSandbox_ends free config env
  obtain ⟨same, state⟩ := Prod.mk.inj (ends.symm.trans created)
  rw [if_neg (by simp [same])] at state
  subst state
  cases result with
  | done complete traced =>
    obtain ⟨files, new, sent, rfl, within⟩ := traced
    exact ⟨complete, { host with files := files, touched := host.touched ++ new, sent := sent },
      ⟨files, new, sent, rfl, within⟩, rfl⟩
  -- the failed boot is the one case whose outcome depends on the mutex
  | unbooted _ _ _ failed =>
    cases relock with
    | plain => cases same
    | reentrant => exact absurd (Outcome.returned.inj same) failed
  | rejected | known | unmade | undone | tapless | uncleared | unforked | unpolled | unspawned | bootThrew =>
    cases same

/-- Once Firecracker listens and the boot does not throw, the creation is at its last step. -/
theorem CreateResult.past_spawn (result : CreateResult relock host config env (outcome, after))
    (spawned : Spawned host config env) (quiet : ¬ BootThrows config env.boot) :
    (¬ BootReported config env.boot ∧ ∃ status, outcome = relocked relock status) ∨
      BootReported config env.boot ∧ outcome = .returned .success ∧
        ∃ work, Traced (places host config) host work ∧ after = Runtime.completed host config env work := by
  obtain ⟨⟨⟨⟨⟨admitted, new, mkdir⟩, granted⟩, tap⟩, clears, free⟩, answer⟩ := spawned
  cases result with
  | rejected refused => exact absurd admitted refused
  | known _ taken => exact absurd taken new
  | unmade _ _ error => exact absurd mkdir error
  | undone _ refused => exact absurd granted refused
  | tapless _ refused => exact absurd tap refused
  | uncleared _ fails => exact absurd clears fails
  | unforked _ _ taken => exact absurd free taken
  | unpolled _ throws => simp [answer] at throws
  | unspawned _ silent => simp [answer] at silent
  | bootThrew _ throws => exact absurd throws quiet
  | unbooted _ _ fails => exact .inl ⟨fails, _, rfl⟩
  | done complete traced => exact .inr ⟨complete.2.2, rfl, _, traced, rfl⟩

theorem CreateResult.completed (result : CreateResult relock host config env (outcome, after))
    (complete : Completed host config env) :
    outcome = .returned .success ∧
      ∃ work, Traced (places host config) host work ∧ after = Runtime.completed host config env work := by
  obtain ⟨spawned, quiet, reported⟩ := complete
  rcases result.past_spawn spawned quiet with ⟨unreported, -⟩ | ⟨-, done⟩
  · exact absurd reported unreported
  · exact done

theorem createSandbox_completes (free : host.lockDepth = 0 ∨ relock = .reentrant)
    (complete : Completed host config env) :
    ∃ work, Traced (places host config) host work ∧
      (createSandbox relock config env).ends host = (.returned .success, Runtime.completed host config env work) := by
  obtain ⟨outcome, final, result, ends⟩ := createSandbox_ends free config env
  obtain ⟨rfl, work, traced, rfl⟩ := result.completed complete
  obtain ⟨files, new, sent, rfl, within⟩ := traced
  exact ⟨{ host with files := files, touched := host.touched ++ new, sent := sent },
    ⟨files, new, sent, rfl, within⟩, ends⟩

end

/-- Every answer is favourable; the numbers are the first ones free. -/
def smoothEnv (inode : UInt64) : CreateEnv where
  cgroup := { inode := inode, fd := 3 }
  tap := { fd := 4 }
  spawn := { pid := 100 }

/-- A host with both base directories and nothing else. -/
def bareHost (loader : Option EBPFLoader) (engine : Option PolicyEngine) : Host where
  ebpfLoader := loader
  policyEngine := engine
  files := FileTree.empty.withDirectories
    ((Path.parse "/var/run/aegis").directories ++ (Path.parse "/sys/fs/cgroup/aegis").directories)

example : Completed (bareHost none none) { sandboxId := "sbx-9f82a1" } (smoothEnv 77) := by decide

end Aegis.Runtime
