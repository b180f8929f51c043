import Aegis.Runtime.Termination

/-! What one call of a run does, seen from outside the lock.

The results of a creation are restated for the host the caller sees, and their effect on
the tables and the maps is summed up in two cases. The properties of runs are read off
these facts and those about the other operations.
-/

set_option autoImplicit false

namespace Aegis.Runtime
open Library Ebpf Policy

section
variable {places : Location → Prop} {host work after : Host} {depth : Nat} {relock : Relock}
  {config : SandboxConfig} {env : CreateEnv} {outcome : Outcome Status}

theorem Traced.unlocked (traced : Traced places { host with lockDepth := depth } work) :
    Traced places host { work with lockDepth := host.lockDepth } := by
  obtain ⟨files, new, sent, rfl, within⟩ := traced
  exact ⟨files, new, sent, rfl, within⟩

/-- No result depends on the depth of the lock. -/
theorem CreateResult.unlocked
    (result : CreateResult relock { host with lockDepth := depth } config env (outcome, after)) :
    CreateResult relock host config env (outcome, { after with lockDepth := host.lockDepth }) := by
  cases result with
  | rejected refused => exact .rejected refused
  | known admitted taken traced wiped => exact .known admitted taken traced.unlocked wiped
  | unmade admitted new error traced wiped => exact .unmade admitted new error traced.unlocked wiped
  | undone made refused traced wiped => exact .undone made refused traced.unlocked wiped
  | tapless up refused traced wiped => exact @CreateResult.tapless relock host config env _ up refused traced.unlocked wiped
  | uncleared up fails traced => exact @CreateResult.uncleared relock host config env _ up fails traced.unlocked
  | unforked up clears taken traced wiped => exact @CreateResult.unforked relock host config env _ up clears taken traced.unlocked wiped
  | unpolled up throws traced => exact @CreateResult.unpolled relock host config env _ up throws traced.unlocked
  | unspawned up silent traced => exact @CreateResult.unspawned relock host config env _ up silent traced.unlocked
  | bootThrew up throws traced => exact @CreateResult.bootThrew relock host config env _ up throws traced.unlocked
  | unbooted up quiet fails failed traced => exact @CreateResult.unbooted relock host config env _ _ up quiet fails failed traced.unlocked
  | done complete traced => exact @CreateResult.done relock host config env _ complete traced.unlocked

/-- No policy has been applied and no sandbox registered. -/
structure Unapplied (host : Host) (config : SandboxConfig) (env : CreateEnv) (after : Host) : Prop where
  incomplete : ¬ Completed host config env
  sandboxes : after.sandboxes = host.sandboxes
  baseRuntimeDir : after.baseRuntimeDir = host.baseRuntimeDir
  rootPath : after.rootPath = host.rootPath
  ebpfLoader : after.ebpfLoader = host.ebpfLoader
  policyEngine : after.policyEngine = host.policyEngine
  cgroups : after.cgroups = host.cgroups ∨ Admitted host config ∧ config.sandboxId ∉ host.cgroups ∧
    after.cgroups = host.cgroups.insert config.sandboxId (cgroupInfo host config env)
  issued : host.issued ⊆ after.issued

theorem Unapplied.of_traced {places : Location → Prop} (incomplete : ¬ Completed host config env)
    (traced : Traced places host work) : Unapplied host config env work := by
  obtain ⟨files, touched, sent, rfl⟩ := traced.frame
  exact ⟨incomplete, rfl, rfl, rfl, rfl, rfl, .inl rfl, fun _ => id⟩

/-- The cgroup has been given back, or only its table entry is there. -/
theorem Unapplied.issuing (unapplied : Unapplied host config env work) (inode : UInt64)
    (children : Finmap fun _ : Int => Child) :
    Unapplied host config env { work with issued := work.issued ++ [inode], children := children } :=
  { unapplied with issued := fun _ member => List.mem_append_left _ (unapplied.issued member) }

theorem Unapplied.of_ready {places : Location → Prop} (incomplete : ¬ Completed host config env)
    (made : CgroupMade host config env) (traced : Traced places host work)
    (children : Finmap fun _ : Int => Child) :
    Unapplied host config env { ready host config env work with children := children } := by
  obtain ⟨files, touched, sent, rfl⟩ := traced.frame
  exact ⟨incomplete, rfl, rfl, rfl, rfl, rfl, .inr ⟨made.1, made.2.1, rfl⟩, List.subset_append_left _ _⟩

/-- A creation completes, or it has no effect on the maps and the sandboxes. -/
theorem CreateResult.effect (result : CreateResult relock host config env (outcome, after)) :
    (Completed host config env ∧
      ∃ work, Traced (Runtime.places host config) host work ∧ after = Runtime.completed host config env work) ∨
    Unapplied host config env after := by
  by_cases complete : Completed host config env
  · exact .inl ⟨complete, (result.completed complete).2⟩
  refine .inr ?_
  cases result with
  | rejected => exact .of_traced complete (show Traced (Runtime.places host config) host host from .refl host)
  | known _ _ traced | unmade _ _ _ traced | undone _ _ traced => exact .of_traced complete traced
  -- the cgroup is destroyed again; its id was handed out all the same
  | tapless _ _ traced | unforked _ _ _ traced | unspawned _ _ traced =>
    have base : Unapplied host config env _ := .of_traced complete traced
    obtain ⟨files, touched, sent, rfl⟩ := traced.frame
    exact base.issuing _ _
  | uncleared up _ traced => exact .of_ready complete up.made traced _
  | unpolled up _ traced => exact .of_ready complete up.made traced _
  | bootThrew up _ traced | unbooted up _ _ _ traced => exact .of_ready complete up.made traced _
  | done reached => exact absurd reached complete

end

/-- The result of a creation; a creation that is stuck holds the lock. -/
theorem create_call {host : Host} (free : host.lockDepth = 0) (config : SandboxConfig) (env : CreateEnv) :
    ∃ outcome after, CreateResult .plain host config env (outcome, after) ∧
      (call (.create config env)).ends host =
        (outcome.map .status, if outcome = .blocked then { after with lockDepth := 1 } else after) := by
  have enters : host.lockDepth = 0 ∨ Relock.plain = .reentrant := .inl free
  obtain ⟨outcome, after, result, ends⟩ := createSandbox_ends enters config env
  have depth : after.lockDepth = host.lockDepth + 1 := result.lockDepth_eq
  refine ⟨outcome, { after with lockDepth := host.lockDepth }, result.unlocked, ?_⟩
  refine (Proc.ends_map _ host).trans ?_
  rw [ends]
  split
  · rw [show after = { after with lockDepth := 1 } by rw [show 1 = after.lockDepth by omega]]
  · rw [depth]
    rfl

theorem create_ends {host : Host} (free : host.lockDepth = 0) (config : SandboxConfig) (env : CreateEnv) :
    ∃ outcome after, CreateResult .plain host config env (outcome, after) ∧
      (((call (.create config env)).ends host).1 = .blocked ↔ outcome = .blocked) ∧
      ((call (.create config env)).ends host).2 =
        if outcome = .blocked then { after with lockDepth := 1 } else after := by
  obtain ⟨outcome, after, result, ends⟩ := create_call free config env
  rw [ends]
  exact ⟨outcome, after, result, Outcome.map_eq_blocked, rfl⟩

theorem createSandbox_rejected {host : Host} (free : host.lockDepth = 0) {config : SandboxConfig}
    (refused : ¬ Admitted host config) (env : CreateEnv) :
    (createSandbox .plain config env).ends host = (.returned .errInvalidSandboxID, host) := by
  have body : (createBody .plain config env).ends (sandboxMutex.put (sandboxMutex.depth host + 1) host) =
      (.returned .errInvalidSandboxID, sandboxMutex.put (sandboxMutex.depth host + 1) host) := by
    rw [createBody, Proc.ends_get_bind]
    exact congrArg (fun p : Proc Host Status => p.ends _) (if_pos (not_admitted.mp refused))
  exact sandboxMutex.ends_guard (.inl free) (by simp) body

theorem create_completes {host : Host} (free : host.lockDepth = 0) {config : SandboxConfig} {env : CreateEnv}
    (complete : Completed host config env) :
    ∃ work, Traced (places host config) host work ∧
      (call (.create config env)).ends host = (.returned (.status .success), completed host config env work) := by
  obtain ⟨work, traced, created⟩ := createSandbox_completes (.inl free) complete
  exact ⟨work, traced, Proc.ends_bind_returned created⟩

/-- The tables after a completed creation. -/
structure Registered (host : Host) (config : SandboxConfig) (env : CreateEnv) (after : Host) : Prop where
  sandboxes : ∃ entry : SandboxInstance, entry.firecrackerPid = env.spawn.pid ∧
    after.sandboxes = host.sandboxes.insert config.sandboxId entry
  cgroups : after.cgroups = host.cgroups.insert config.sandboxId (cgroupInfo host config env)
  children : after.children = host.children.insert env.spawn.pid (bootedChild config env)
  lockDepth : after.lockDepth = host.lockDepth
  baseRuntimeDir : after.baseRuntimeDir = host.baseRuntimeDir
  rootPath : after.rootPath = host.rootPath

theorem completed_registered {host work : Host} {config : SandboxConfig} {env : CreateEnv}
    {places : Location → Prop} (traced : Traced places host work) :
    Registered host config env (completed host config env work) := by
  obtain ⟨files, touched, sent, rfl⟩ := traced.frame
  exact ⟨⟨_, rfl, rfl⟩, rfl, rfl, rfl, rfl, rfl⟩

theorem create_registers {host : Host} (free : host.lockDepth = 0) {config : SandboxConfig} {env : CreateEnv}
    (complete : Completed host config env) :
    ∃ after, (call (.create config env)).ends host = (.returned (.status .success), after) ∧
      Registered host config env after := by
  obtain ⟨work, traced, ends⟩ := create_completes free complete
  exact ⟨_, ends, completed_registered traced⟩

theorem Unapplied.locked {host after : Host} {config : SandboxConfig} {env : CreateEnv}
    (unapplied : Unapplied host config env after) (depth : Nat) :
    Unapplied host config env { after with lockDepth := depth } :=
  { unapplied with }

/-- A creation that does not complete applies nothing, also when it is stuck. -/
theorem create_unapplied {host : Host} (free : host.lockDepth = 0) {config : SandboxConfig} {env : CreateEnv}
    (incomplete : ¬ Completed host config env) :
    Unapplied host config env ((call (.create config env)).ends host).2 := by
  obtain ⟨outcome, after, result, -, state⟩ := create_ends free config env
  have unapplied := result.effect.resolve_left fun reached => incomplete reached.1
  rw [state]
  split
  · exact unapplied.locked 1
  · exact unapplied

/-- A termination of an unknown id changes nothing. -/
theorem terminate_ends {host : Host} (free : host.lockDepth = 0) (sandboxId : String) (env : TerminateEnv) :
    ∃ status after, (call (.terminate sandboxId env)).ends host = (.returned (.status status), after) ∧
      ((sandboxId ∉ host.sandboxes ∧ after = host) ∨
        ∃ entry files, host.sandboxes.lookup sandboxId = some entry ∧
          after = terminated host sandboxId entry env files) := by
  unfold call
  cases found : host.sandboxes.lookup sandboxId with
  | none =>
    exact ⟨_, host, Proc.ends_bind_returned (terminateSandbox_missing free found env),
      .inl ⟨Finmap.lookup_eq_none.mp found, rfl⟩⟩
  | some entry =>
    obtain ⟨files, ends⟩ := terminateSandbox_known (.inl free) found env
    exact ⟨_, _, Proc.ends_bind_returned ends, .inr ⟨entry, files, rfl, rfl⟩⟩

/-- A call that ends leaves the lock free. -/
theorem call_ends_free {host : Host} (free : host.lockDepth = 0) (op : Op)
    (ended : ((call op).ends host).1 ≠ .blocked) : ((call op).ends host).2.lockDepth = 0 := by
  have quiet (still : op.Quiet) : ((call op).ends host).2.lockDepth = 0 := by
    obtain ⟨answer, after, ends, shrinks, -⟩ := quiet_ends free still
    rw [ends]
    exact shrinks.lockDepth.trans free
  cases op with
  | create config env =>
    obtain ⟨outcome, after, result, blocked, state⟩ := create_ends free config env
    rw [state, if_neg (mt blocked.mpr ended)]
    exact result.lockDepth_eq.trans free
  | terminate sandboxId env =>
    obtain ⟨status, after, ends, ⟨-, rfl⟩ | ⟨entry, files, -, rfl⟩⟩ := terminate_ends free sandboxId env
    · rw [ends]
      exact free
    · rw [ends]
      exact free
  | execute sandboxId codePayload env => exact quiet trivial
  | metadata sandboxId => exact quiet trivial
  | terminateAll env => exact quiet trivial
  | exit pid => exact quiet trivial

/-- A call that is stuck holds the lock. -/
theorem call_blocked_busy {host : Host} (free : host.lockDepth = 0) {op : Op}
    (stuck : ((call op).ends host).1 = .blocked) : ((call op).ends host).2.lockDepth ≠ 0 := by
  have quiet (still : op.Quiet) : ((call op).ends host).1 ≠ .blocked := by
    obtain ⟨answer, after, ends, -⟩ := quiet_ends free still
    rw [ends]
    exact fun stuck => nomatch stuck
  cases op with
  | create config env =>
    obtain ⟨outcome, after, -, blocked, state⟩ := create_ends free config env
    rw [state, if_pos (blocked.mp stuck)]
    exact Nat.one_ne_zero
  | terminate sandboxId env =>
    obtain ⟨status, after, ends, -⟩ := terminate_ends free sandboxId env
    rw [ends] at stuck
    exact nomatch stuck
  | execute sandboxId codePayload env => exact absurd stuck (quiet trivial)
  | metadata sandboxId => exact absurd stuck (quiet trivial)
  | terminateAll env => exact absurd stuck (quiet trivial)
  | exit pid => exact absurd stuck (quiet trivial)

end Aegis.Runtime
