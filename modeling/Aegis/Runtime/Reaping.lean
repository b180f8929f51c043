import Aegis.Library.Ownership
import Aegis.Runtime.Teardown

/-! Which children are there to be reaped.

A child is owned by the sandbox it was forked for, through the pid in the table. It comes
with the fork, before its sandbox is in the table, and goes with the one `waitpid` of a
teardown, which does not wait.
-/

set_option autoImplicit false

namespace Aegis.Runtime
open Library

def Host.pids (host : Host) : String → Option Int := column SandboxInstance.firecrackerPid host.sandboxes

/-- The children not yet reaped are those of the live sandboxes. -/
def ChildrenExact (host : Host) : Prop :=
  ∀ pid, pid ∈ host.children ↔ ∃ id entry, host.sandboxes.lookup id = some entry ∧ entry.firecrackerPid = pid

/-- After the call, if it ends, the children are those of the live sandboxes. -/
def Accounts (op : Op) (host : Host) : Prop :=
  ((call op).ends host).1 ≠ .blocked → ChildrenExact ((call op).ends host).2

/-- The process of the sandbox has exited when it is waited for. -/
def ExitsInTime (host : Host) (entry : SandboxInstance) (exits : Bool) : Prop :=
  exits = true ∨ ∃ child, host.children.lookup entry.firecrackerPid = some child ∧ child.exited = true

/-- A creation that forks gets its socket and no exception in the boot; a teardown finds each
process exited. -/
def Reaps (op : Op) (host : Host) : Prop :=
  match op with
  | .create config env => Forked host config env → env.spawn.answer = .yes ∧ ¬ BootThrows config env.boot
  | .terminate sandboxId env =>
      ∀ entry, host.sandboxes.lookup sandboxId = some entry → ExitsInTime host entry env.exits
  | .terminateAll env =>
      ∀ id entry, host.sandboxes.lookup id = some entry → ExitsInTime host entry (env.exits id)
  | _ => True

/-- The lock is free, and each child has one owner in the table. -/
structure Kept (host : Host) : Prop where
  free : host.lockDepth = 0
  owns : Owns ∅ host.pids host.children.keys
  positive : ∀ pid ∈ host.children, 0 < pid

section
variable {host after : Host} {pid : Int}

theorem pids_eq_some {id : String} :
    host.pids id = some pid ↔ ∃ entry, host.sandboxes.lookup id = some entry ∧ entry.firecrackerPid = pid :=
  Option.map_eq_some_iff

theorem Kept.exact (kept : Kept host) : ChildrenExact host := by
  intro pid
  rw [← Finmap.mem_keys, kept.owns.exact pid]
  simp [pids_eq_some]

/-- A child that no sandbox of the table has. -/
theorem not_exact (member : pid ∈ host.children) (unowned : ∀ id, host.pids id ≠ some pid) : ¬ ChildrenExact host := by
  intro exact
  obtain ⟨id, owner⟩ := (exact pid).mp member
  exact unowned id (pids_eq_some.mpr owner)

theorem Kept.unowned (kept : Kept host) (free : pid ∉ host.children) (id : String) : host.pids id ≠ some pid :=
  fun owner => free (Finmap.mem_keys.mp (kept.owns.isOpen owner))

/-- Everything that matters has stayed the same. -/
theorem Kept.congr (kept : Kept host) (free : after.lockDepth = 0) (sandboxes : after.sandboxes = host.sandboxes)
    (children : after.children.keys = host.children.keys) : Kept after where
  free := free
  owns := by
    rw [Host.pids, sandboxes, children]
    exact kept.owns
  positive pid member := by
    rw [← Finmap.mem_keys, children, Finmap.mem_keys] at member
    exact kept.positive pid member

/-- The three ends of a call: stuck, well accounted for, or with a child that nobody has. -/
def Verdict (op : Op) (host : Host) : Prop :=
  Reaps op host ∧ ((call op).ends host).1 = .blocked ∨
    Reaps op host ∧ Kept ((call op).ends host).2 ∨
      ¬ Reaps op host ∧ ((call op).ends host).1 ≠ .blocked ∧ ¬ ChildrenExact ((call op).ends host).2

theorem Verdict.accounts_iff {op : Op} (verdict : Verdict op host) : Accounts op host ↔ Reaps op host := by
  rcases verdict with ⟨reaps, stuck⟩ | ⟨reaps, kept⟩ | ⟨leaks, ended, wrong⟩
  · exact iff_of_true (fun ended => absurd stuck ended) reaps
  · exact iff_of_true (fun _ => kept.exact) reaps
  · exact iff_of_false (fun accounts => wrong (accounts ended)) leaks

theorem Verdict.kept {op : Op} (verdict : Verdict op host) (reaps : Reaps op host)
    (ended : ((call op).ends host).1 ≠ .blocked) : Kept ((call op).ends host).2 := by
  rcases verdict with ⟨-, stuck⟩ | ⟨-, kept⟩ | ⟨leaks, -⟩
  · exact absurd stuck ended
  · exact kept
  · exact absurd reaps leaks

end

/-! Creation. -/

section
variable {host after : Host} {config : SandboxConfig} {env : CreateEnv}

theorem Kept.registered (kept : Kept host) (complete : Completed host config env)
    (tables : Registered host config env after) : Kept after := by
  obtain ⟨entry, own, grown⟩ := tables.sandboxes
  have free := complete.spawned.forked.free
  refine ⟨tables.lockDepth.trans kept.free, ?_, fun pid member => ?_⟩
  · rw [Host.pids, grown, column_insert, tables.children, HashTable.keys_insert, own]
    exact kept.owns.acquire (column_missing _ complete.made.1.2) (mt Finmap.mem_keys.mp free.2)
  · rw [tables.children, Finmap.mem_insert] at member
    rcases member with rfl | old
    · exact free.1
    · exact kept.positive pid old

/-- The child of a creation that fails after the fork has no owner. -/
theorem Kept.leaked (kept : Kept host) (forked : Forked host config env) {child : Child}
    (sandboxes : after.sandboxes = host.sandboxes)
    (children : after.children = host.children.insert env.spawn.pid child) : ¬ ChildrenExact after := by
  refine @not_exact after env.spawn.pid ?_ fun id => ?_
  · rw [children]
    exact Finmap.mem_insert.mpr (.inl rfl)
  · rw [Host.pids, sandboxes]
    exact kept.unowned forked.free.2 id

theorem CreateResult.children_unforked {outcome : Outcome Status}
    (result : CreateResult .plain host config env (outcome, after)) (unforked : ¬ Forked host config env) :
    outcome ≠ .blocked ∧ after.sandboxes = host.sandboxes ∧ after.children = host.children := by
  cases result with
  | rejected => exact ⟨by simp, rfl, rfl⟩
  | known _ _ traced | unmade _ _ _ traced | undone _ _ traced | tapless _ _ traced | uncleared _ _ traced
  | unforked _ _ _ traced =>
    obtain ⟨files, touched, sent, rfl⟩ := traced.frame
    exact ⟨by simp, rfl, rfl⟩
  | unpolled up => exact absurd up unforked
  | unspawned up => exact absurd up unforked
  | bootThrew up => exact absurd up.forked unforked
  | unbooted up => exact absurd up.forked unforked
  | done complete => exact absurd complete.spawned.forked unforked

/-- After the fork only a boot that reports its failure is stuck; the other failures end. -/
theorem CreateResult.children_forked {outcome : Outcome Status}
    (result : CreateResult .plain host config env (outcome, after)) (forked : Forked host config env)
    (incomplete : ¬ Completed host config env) :
    after.sandboxes = host.sandboxes ∧ (∃ child, after.children = host.children.insert env.spawn.pid child) ∧
      (outcome = .blocked ↔ env.spawn.answer = .yes ∧ ¬ BootThrows config env.boot) := by
  cases result with
  | rejected refused => exact absurd forked.made.1 refused
  | known _ taken => exact absurd taken forked.made.2.1
  | unmade _ _ error => exact absurd forked.made.2.2 error
  | undone _ refused => exact absurd forked.tapUp.granted refused
  | tapless _ refused => exact absurd forked.tapUp.2 refused
  | uncleared _ fails => exact absurd forked.clears fails
  | unforked _ _ taken => exact absurd forked.free taken
  | unpolled _ throws traced | unspawned _ throws traced =>
    obtain ⟨files, touched, sent, rfl⟩ := traced.frame
    exact ⟨rfl, ⟨_, rfl⟩, by simp [throws]⟩
  | bootThrew _ throws traced =>
    obtain ⟨files, touched, sent, rfl⟩ := traced.frame
    exact ⟨rfl, ⟨_, rfl⟩, by simp [throws]⟩
  | unbooted up quiet _ _ traced =>
    obtain ⟨files, touched, sent, rfl⟩ := traced.frame
    exact ⟨rfl, ⟨_, rfl⟩, by simp [relocked, quiet, up.2]⟩
  | done complete => exact absurd complete incomplete

theorem create_verdict (kept : Kept host) (config : SandboxConfig) (env : CreateEnv) :
    Verdict (.create config env) host := by
  by_cases complete : Completed host config env
  · obtain ⟨after, ends, tables⟩ := create_registers kept.free complete
    refine .inr (.inl ⟨fun _ => ⟨complete.1.2, complete.2.1⟩, ?_⟩)
    rw [ends]
    exact kept.registered complete tables
  obtain ⟨outcome, after, result, blocked, state⟩ := create_ends kept.free config env
  by_cases forked : Forked host config env
  · obtain ⟨sandboxes, ⟨child, children⟩, stuck⟩ := result.children_forked forked complete
    by_cases reports : env.spawn.answer = .yes ∧ ¬ BootThrows config env.boot
    · exact .inl ⟨fun _ => reports, blocked.mpr (stuck.mpr reports)⟩
    · refine .inr (.inr ⟨fun reaps => reports (reaps forked), mt blocked.mp (mt stuck.mp reports), ?_⟩)
      rw [state, if_neg (mt stuck.mp reports)]
      exact kept.leaked forked sandboxes children
  · obtain ⟨ended, sandboxes, children⟩ := result.children_unforked forked
    refine .inr (.inl ⟨fun up => absurd up forked, ?_⟩)
    rw [state, if_neg ended]
    exact kept.congr (result.lockDepth_eq.trans kept.free) sandboxes (congrArg Finmap.keys children)

end

/-! Teardown. -/

section
variable {host : Host}

/-- A child of the table entry is reaped by the teardown, or it stays. -/
theorem keys_killChild {children : Finmap fun _ : Int => Child} {pid : Int} {child : Child}
    (found : children.lookup pid = some child) (positive : 0 < pid) (exits : Bool) :
    (killChild children pid exits).keys =
      if child.exited = true ∨ exits = true then children.keys.erase pid else children.keys := by
  unfold killChild
  rw [found]
  dsimp only
  rw [if_pos positive]
  split
  · exact Finmap.keys_erase _ _
  · rw [HashTable.keys_insert]
    exact Finset.insert_eq_of_mem (Finmap.mem_keys.mpr (Finmap.mem_of_lookup_eq_some found))

/-- A live sandbox has a child, with a pid above 0. -/
theorem Kept.child (kept : Kept host) {id : String} {entry : SandboxInstance}
    (known : host.sandboxes.lookup id = some entry) :
    ∃ child, host.children.lookup entry.firecrackerPid = some child ∧ 0 < entry.firecrackerPid := by
  have member := Finmap.mem_keys.mp (kept.owns.isOpen (column_known SandboxInstance.firecrackerPid known))
  obtain ⟨child, found⟩ := Finmap.mem_iff.mp member
  exact ⟨child, found, kept.positive _ member⟩

theorem exitsInTime_iff {entry : SandboxInstance} {child : Child} {exits : Bool}
    (found : host.children.lookup entry.firecrackerPid = some child) :
    ExitsInTime host entry exits ↔ child.exited = true ∨ exits = true := by
  unfold ExitsInTime
  rw [found, or_comm]
  simp

theorem terminate_verdict (kept : Kept host) (sandboxId : String) (env : TerminateEnv) :
    Verdict (.terminate sandboxId env) host := by
  cases known : host.sandboxes.lookup sandboxId with
  | none =>
    have vacuous : Reaps (.terminate sandboxId env) host := fun entry found => nomatch known.symm.trans found
    have missing := terminateSandbox_missing kept.free known env
    have ends : (call (.terminate sandboxId env)).ends host = _ := Proc.ends_bind_returned missing
    refine .inr (.inl ⟨vacuous, ?_⟩)
    rw [ends]
    exact kept
  | some entry =>
    obtain ⟨child, found, positive⟩ := kept.child known
    have owner : host.pids sandboxId = some entry.firecrackerPid := column_known _ known
    have children : (terminated host sandboxId entry env (host.wiped sandboxId)).children.keys =
        if child.exited = true ∨ env.exits = true then host.children.keys.erase entry.firecrackerPid
        else host.children.keys := by
      rw [← keys_killChild found positive, ← killed_eq]
      rfl
    have pids : (terminated host sandboxId entry env (host.wiped sandboxId)).pids =
        Function.update host.pids sandboxId none := column_erase _ _ _
    have reaps : Reaps (.terminate sandboxId env) host ↔ child.exited = true ∨ env.exits = true := by
      rw [← exitsInTime_iff found]
      exact ⟨fun all => all entry known, fun gone other same => Option.some.inj (known.symm.trans same) ▸ gone⟩
    unfold Verdict
    rw [reaps, terminate_known kept.free known env]
    by_cases gone : child.exited = true ∨ env.exits = true
    · refine .inr (.inl ⟨gone, kept.free, ?_, fun pid member => ?_⟩)
      · rw [pids, children, if_pos gone]
        exact kept.owns.release owner
      · rw [← Finmap.mem_keys, children, if_pos gone] at member
        exact kept.positive pid (Finmap.mem_keys.mp (Finset.mem_of_mem_erase member))
    · refine .inr (.inr ⟨gone, by simp, @not_exact _ entry.firecrackerPid ?_ fun other owner' => ?_⟩)
      · rw [← Finmap.mem_keys, children, if_neg gone]
        exact kept.owns.isOpen owner
      -- its only owner has just been taken off the table
      · rw [pids] at owner'
        by_cases same : other = sandboxId
        · rw [same, Function.update_self] at owner'
          exact nomatch owner'
        · rw [Function.update_of_ne same] at owner'
          exact same (kept.owns.distinct other sandboxId _ owner' owner)

/-- The children left after several teardowns: those that none of them found exited. -/
theorem mem_children_foldl (base : Path) (table : Finmap fun _ : String => SandboxInstance) (exits : String → Bool)
    (pid : Int) (ids : List String) (r : Resources) :
    pid ∈ (ids.foldl (Resources.release base table exits) r).children ↔
      ∃ child, r.children.lookup pid = some child ∧ ∀ id ∈ ids, ∀ entry, table.lookup id = some entry →
        entry.firecrackerPid = pid → 0 < pid → ¬ (child.exited = true ∨ exits id = true) := by
  induction ids generalizing r with
  | nil => simp [Finmap.mem_iff]
  | cons id rest ih =>
    rw [List.foldl_cons, ih]
    cases known : table.lookup id with
    | none => simp [Resources.release, known]
    | some entry =>
      rw [Resources.children_release known, lookup_killChild]
      by_cases hit : pid = entry.firecrackerPid ∧ 0 < entry.firecrackerPid
      swap
      · rw [if_neg hit]
        refine exists_congr fun child => and_congr_right fun _ => ?_
        rw [List.forall_mem_cons, and_iff_right]
        intro other same own positive
        cases known.symm.trans same
        exact absurd ⟨own.symm, own ▸ positive⟩ hit
      obtain ⟨rfl, positive⟩ := hit
      rw [if_pos ⟨rfl, positive⟩]
      cases found : r.children.lookup entry.firecrackerPid with
      | none => simp
      | some child =>
        simp only [Option.bind_some, Child.struck, Option.some.injEq, exists_eq_left', List.forall_mem_cons, known,
          forall_eq', forall_const, positive]
        by_cases gone : child.exited = true ∨ exits id = true
        · simp [gone]
        · simp [gone]

theorem terminateAll_verdict (kept : Kept host) (env : TerminateAllEnv) : Verdict (.terminateAll env) host := by
  obtain ⟨after, ends, cleared, -⟩ := monitoredMap_terminateAll kept.free env
  have children (pid : Int) : pid ∈ after.children ↔ ∃ child, host.children.lookup pid = some child ∧
      ∀ id ∈ host.sandboxes, ∀ entry, host.sandboxes.lookup id = some entry → entry.firecrackerPid = pid → 0 < pid →
        ¬ (child.exited = true ∨ env.exits id = true) := by
    have all := terminateAll_resources kept.free env
    rw [ends] at all
    rw [show after.children = after.resources.children from rfl, all, mem_children_foldl]
    simp only [mem_visitOrder, Finmap.mem_keys]
    rfl
  have pids : after.pids = fun _ => none := by
    rw [Host.pids, cleared, column_empty]
  by_cases reaps : Reaps (.terminateAll env) host
  · have gone (pid : Int) : pid ∉ after.children := by
      intro left
      obtain ⟨child, found, survives⟩ := (children pid).mp left
      have member := Finmap.mem_of_lookup_eq_some found
      obtain ⟨id, entry, known, rfl⟩ := (kept.exact pid).mp member
      refine survives id (Finmap.mem_of_lookup_eq_some known) entry known rfl (kept.positive _ member) ?_
      exact (exitsInTime_iff found).mp (reaps id entry known)
    have empty : after.children.keys = ∅ := Finset.eq_empty_of_forall_notMem fun pid => mt Finmap.mem_keys.mp (gone pid)
    have free := call_ends_free kept.free (.terminateAll env) (by rw [ends]; simp)
    refine .inr (.inl ⟨reaps, free, ?_, ?_⟩)
    · rw [ends, pids, empty]
      exact .nothing ∅
    · rw [ends]
      exact fun pid left => absurd left (gone pid)
  · unfold Verdict
    rw [ends]
    refine .inr (.inr ⟨reaps, by simp, ?_⟩)
    simp only [Reaps, not_forall] at reaps
    obtain ⟨id, entry, known, late⟩ := reaps
    obtain ⟨child, found, positive⟩ := kept.child known
    refine @not_exact _ entry.firecrackerPid ((children _).mpr ⟨child, found, ?_⟩) fun other => ?_
    · intro other _ entry' known' same _ struck
      -- no other sandbox has this pid
      have owner' : host.pids other = some entry.firecrackerPid := pids_eq_some.mpr ⟨entry', known', same⟩
      cases kept.owns.distinct other id _ owner' (column_known _ known)
      exact late ((exitsInTime_iff found).mpr struck)
    · rw [pids]
      exact fun owner => nomatch owner

theorem still_verdict (kept : Kept host) {op : Op} (still : op.Still) (reaps : Reaps op host) : Verdict op host := by
  obtain ⟨answer, children, sent, keys, ends⟩ := still_keys kept.free still
  refine .inr (.inl ⟨reaps, ?_⟩)
  rw [ends]
  exact kept.congr kept.free rfl keys

theorem call_verdict (kept : Kept host) (op : Op) : Verdict op host := by
  cases op with
  | create config env => exact create_verdict kept config env
  | terminate sandboxId env => exact terminate_verdict kept sandboxId env
  | terminateAll env => exact terminateAll_verdict kept env
  | execute sandboxId codePayload env => exact still_verdict kept trivial trivial
  | metadata sandboxId => exact still_verdict kept trivial trivial
  | exit pid => exact still_verdict kept trivial trivial

end

theorem Fresh.kept {host : Host} (fresh : Fresh host) (childless : host.children = ∅) : Kept host := by
  refine ⟨fresh.free, ?_, fun pid member => ?_⟩
  · rw [Host.pids, fresh.sandboxes, column_empty, childless]
    exact .nothing ∅
  · rw [childless] at member
    exact absurd member Finmap.notMem_empty

/-- After every call of a run the children not yet reaped are those of the live sandboxes, if and
only if no creation fails between the fork and the boot and no teardown comes too early. -/
theorem runs_account_iff {host : Host} (fresh : Fresh host) (childless : host.children = ∅) (ops : List Op) :
    Along call Accounts ops host ↔ Along call Reaps ops host := by
  refine along_congr Kept (fun _ _ => True) ?_ ?_ ops host (fresh.kept childless)
    (along_of_forall (fun _ _ => trivial) ops host)
  · exact fun op before kept _ => (call_verdict kept op).accounts_iff
  · exact fun op before kept _ reaps ended => (call_verdict kept op).kept reaps ended

/-- A sandbox whose process has exited by the time it is waited for. -/
theorem prompt_exit_accounted :
    Along call Accounts [.create demoConfig (smoothEnv 77), .terminate demoConfig.sandboxId { exits := true }]
      (bareHost none none) := by
  have complete : Completed (bareHost none none) demoConfig (smoothEnv 77) := by decide
  obtain ⟨after, ends, -⟩ := create_registers rfl complete
  refine (runs_account_iff ⟨rfl, rfl, rfl⟩ rfl _).mpr ((along_cons_returned ends _).mpr ⟨?_, ?_, fun _ => trivial⟩)
  · exact fun _ => ⟨complete.1.2, complete.2.1⟩
  · exact fun entry known => .inl rfl

/-- Firecracker does not open its socket in time: the creation fails and forgets the child. -/
theorem silent_child_lost :
    Fresh (bareHost none none) ∧ (bareHost none none).children = ∅ ∧
      ¬ Along call Accounts [.create demoConfig { smoothEnv 77 with spawn := { pid := 100, polls := fun _ => .no } }]
        (bareHost none none) := by
  have fresh : Fresh (bareHost none none) := ⟨rfl, rfl, rfl⟩
  refine ⟨fresh, rfl, fun all => ?_⟩
  have reaps := (call_verdict (fresh.kept rfl) _).accounts_iff.mp all.1
  exact absurd (reaps (by decide)).1 (by decide)

end Aegis.Runtime
