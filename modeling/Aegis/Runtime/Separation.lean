import Aegis.Runtime.Containment

/-! What the sandboxes of one manager have in common.

A sandbox has a runtime directory, a cgroup directory and a TAP device, all three named
after its id. Ids are compared as strings only; whether the names they lead to are apart is
never looked at.
-/

set_option autoImplicit false

namespace Aegis.Runtime
open Library Ebpf Policy

/-- The two directories of a sandbox. -/
def Host.directoriesOf (host : Host) (sandboxId : String) : List Location :=
  [(host.baseRuntimeDir / sandboxId).location, (host.rootPath / sandboxId).location]

/-- The names that two ids lead to are apart. -/
structure Separate (host : Host) (sandboxId other : String) : Prop where
  directories : ∀ d ∈ host.directoriesOf sandboxId, ∀ e ∈ host.directoriesOf other, d.Apart e
  tapName : tapName sandboxId ≠ tapName other

/-- The termination of the first sandbox leaves the files and the cgroup of the second. -/
def Spares (host : Host) (sandboxId other : String) : Prop := ∀ env,
  (∀ d ∈ host.directoriesOf other, ∀ l : Location, l.Within d →
    ((call (.terminate sandboxId env)).ends host).2.files l = host.files l) ∧
  ((call (.terminate sandboxId env)).ends host).2.cgroups.lookup other = host.cgroups.lookup other

/-- No two live sandboxes share anything. -/
def AllSeparate (host : Host) : Prop := ∀ sandboxId ∈ host.sandboxes, ∀ other ∈ host.sandboxes,
  sandboxId ≠ other → Separate host sandboxId other ∧ Spares host sandboxId other

/-- Names are apart pairwise among the live sandboxes. -/
def NamesApart (host : Host) : Prop := ∀ sandboxId ∈ host.sandboxes, ∀ other ∈ host.sandboxes,
  sandboxId ≠ other → Separate host sandboxId other

section
variable {host after : Host} {sandboxId other : String}

theorem Separate.symm (separate : Separate host sandboxId other) : Separate host other sandboxId :=
  ⟨fun d left e right => (separate.directories e right d left).symm, separate.tapName.symm⟩

/-- Only the two directories of the manager matter. -/
theorem Separate.congr (base : after.baseRuntimeDir = host.baseRuntimeDir) (root : after.rootPath = host.rootPath) :
    Separate after sandboxId other ↔ Separate host sandboxId other := by
  have same (id : String) : after.directoriesOf id = host.directoriesOf id := by
    rw [Host.directoriesOf, base, root, Host.directoriesOf]
  constructor
  · rintro ⟨directories, tap⟩
    rw [same, same] at directories
    exact ⟨directories, tap⟩
  · rintro ⟨directories, tap⟩
    refine ⟨?_, tap⟩
    rw [same, same]
    exact directories

/-- An id that is one ordinary component. -/
def PlainId (sandboxId : String) : Prop :=
  Ordinary sandboxId ∧ Path.parse sandboxId = ⟨false, [sandboxId]⟩

theorem tapName_eq_iff : tapName sandboxId = tapName other ↔ sandboxId.toList.take 8 = other.toList.take 8 := by
  unfold tapName
  rw [String.append_right_inj, String.ofList_inj]

/-- For plain ids only the first eight characters count: the directories are apart anyway. -/
theorem separate_iff_take (roots : host.baseRuntimeDir.location.Apart host.rootPath.location)
    (plain : PlainId sandboxId) (plain' : PlainId other) :
    Separate host sandboxId other ↔ sandboxId.toList.take 8 ≠ other.toList.take 8 := by
  rw [ne_eq, ← tapName_eq_iff]
  refine ⟨Separate.tapName, fun names => ⟨?_, names⟩⟩
  have different : sandboxId ≠ other := fun same => names (congrArg tapName same)
  have entered (dir : Path) : (dir / sandboxId).location.Apart (dir / other).location := by
    rw [Path.location_div_ordinary dir plain.2, Path.location_div_ordinary dir plain'.2]
    exact Location.apart_enter plain.1 plain'.1 different
  have within {id : String} (plain : PlainId id) (dir : Path) : (dir / id).location.Within dir.location := by
    rw [Path.location_div_ordinary dir plain.2]
    exact ((Location.within_refl _).enter plain.1).within
  simp only [Host.directoriesOf, List.forall_mem_cons, List.not_mem_nil, false_imp_iff, implies_true, and_true]
  exact ⟨⟨entered _, roots.mono (within plain _) (within plain' _)⟩,
    ⟨(roots.mono (within plain' _) (within plain _)).symm, entered _⟩⟩

/-- A termination removes what is in the two directories of its sandbox and nothing else. -/
theorem wiped_outside (tidy : Tidy host) {l : Location} (out : ∀ d ∈ host.directoriesOf sandboxId, ¬ l.Within d) :
    host.wiped sandboxId l = host.files l := by
  have runtime := out _ List.mem_cons_self
  have cgroup := out _ (List.mem_cons_of_mem _ List.mem_cons_self)
  unfold Host.wiped Host.cgroupFiles FileTree.removeAll
  rw [if_neg runtime]
  cases found : host.cgroups.lookup sandboxId with
  | none => rfl
  | some info =>
    rw [← tidy.cgroupPath sandboxId info found] at cgroup
    exact if_neg cgroup

theorem Separate.spares (separate : Separate host sandboxId other) (different : sandboxId ≠ other) (tidy : Tidy host) :
    Spares host sandboxId other := by
  intro env
  cases found : host.sandboxes.lookup sandboxId with
  | none =>
    unfold call
    rw [Proc.ends_bind_returned (terminateSandbox_missing tidy.free found env)]
    exact ⟨fun _ _ _ _ => rfl, rfl⟩
  | some entry =>
    unfold call
    rw [Proc.ends_bind_returned (terminateSandbox_wipes (.inl tidy.free) found env)]
    refine ⟨fun d listed l within => ?_, Finmap.lookup_erase_ne different.symm⟩
    refine wiped_outside tidy fun e listed' within' => ?_
    exact (separate.directories e listed' d listed).not_within within' within

/-- While the lock is held a termination does nothing. -/
theorem spares_of_busy (busy : host.lockDepth ≠ 0) : Spares host sandboxId other := by
  intro env
  unfold call
  rw [Proc.ends_bind_blocked (terminateSandbox_busy busy sandboxId env)]
  exact ⟨fun _ _ _ _ => rfl, rfl⟩

theorem AllSeparate.namesApart (all : AllSeparate host) : NamesApart host :=
  fun sandboxId live other live' different => (all sandboxId live other live' different).1

/-- The second half of the property follows from the first. -/
theorem allSeparate_iff (tidy : host.lockDepth = 0 → Tidy host) : AllSeparate host ↔ NamesApart host := by
  constructor
  · exact AllSeparate.namesApart
  · intro all sandboxId live other live' different
    have separate := all sandboxId live other live' different
    refine ⟨separate, ?_⟩
    by_cases free : host.lockDepth = 0
    · exact separate.spares different (tidy free)
    · exact spares_of_busy free

end

/-- The state after a call has no two sandboxes that share anything. -/
def LeavesSeparate (op : Op) (host : Host) : Prop := AllSeparate ((call op).ends host).2

/-- A creation that completes has an id whose names are apart from those of the live ids. -/
def CreatesApart (op : Op) (host : Host) : Prop :=
  match op with
  | .create config env => Completed host config env → ∀ other ∈ host.sandboxes, Separate host config.sandboxId other
  | _ => True

section
variable {host after : Host}

/-- Fewer sandboxes under the same directories. -/
theorem NamesApart.subset (apart : NamesApart host) (base : after.baseRuntimeDir = host.baseRuntimeDir)
    (root : after.rootPath = host.rootPath) (fewer : ∀ id ∈ after.sandboxes, id ∈ host.sandboxes) :
    NamesApart after := by
  intro sandboxId live other live' different
  rw [Separate.congr base root]
  exact apart sandboxId (fewer _ live) other (fewer _ live') different

/-- One more sandbox is one more row of pairs. -/
theorem namesApart_insert (apart : NamesApart host) (base : after.baseRuntimeDir = host.baseRuntimeDir)
    (root : after.rootPath = host.rootPath) {sandboxId : String} {entry : SandboxInstance}
    (new : sandboxId ∉ host.sandboxes) (grown : after.sandboxes = host.sandboxes.insert sandboxId entry) :
    NamesApart after ↔ ∀ other ∈ host.sandboxes, Separate host sandboxId other := by
  constructor
  · intro all other live
    have live' : other ∈ after.sandboxes := by rw [grown]; exact Finmap.mem_insert.mpr (.inr live)
    have here : sandboxId ∈ after.sandboxes := by rw [grown]; exact Finmap.mem_insert.mpr (.inl rfl)
    rw [← Separate.congr base root]
    exact all sandboxId here other live' fun same => new (same ▸ live)
  · intro row first live second live' different
    rw [grown, Finmap.mem_insert] at live live'
    rw [Separate.congr base root]
    rcases live with rfl | live <;> rcases live' with rfl | live'
    · exact absurd rfl different
    · exact row second live'
    · exact (row first live).symm
    · exact apart first live second live' different

/-- One call: a completed creation decides. -/
theorem namesApart_call_iff (free : host.lockDepth = 0) (apart : NamesApart host) (op : Op) :
    NamesApart ((call op).ends host).2 ↔ CreatesApart op host := by
  have quiet (still : op.Quiet) : NamesApart ((call op).ends host).2 := by
    obtain ⟨answer, after, ends, shrinks, ⟨same, -⟩ | gone⟩ := quiet_ends free still
    · rw [ends]
      exact apart.subset shrinks.baseRuntimeDir shrinks.rootPath fun id live => same ▸ live
    · rw [ends]
      exact fun id live => absurd (gone ▸ live) Finmap.notMem_empty
  cases op with
  | create config env =>
    by_cases complete : Completed host config env
    · obtain ⟨after, ends, tables⟩ := create_registers free complete
      obtain ⟨entry, -, grown⟩ := tables.sandboxes
      rw [ends]
      refine (namesApart_insert apart tables.baseRuntimeDir tables.rootPath complete.made.1.2 grown).trans ?_
      exact ⟨fun all _ => all, fun all => all complete⟩
    · have unapplied := create_unapplied free complete
      refine iff_of_true ?_ fun reached => absurd reached complete
      exact apart.subset unapplied.baseRuntimeDir unapplied.rootPath fun id live => unapplied.sandboxes ▸ live
  | terminate sandboxId env =>
    refine iff_of_true ?_ trivial
    obtain ⟨status, after, ends, ⟨-, rfl⟩ | ⟨entry, files, -, rfl⟩⟩ := terminate_ends free sandboxId env
    · rw [ends]
      exact apart
    · rw [ends]
      exact apart.subset rfl rfl fun id live => (Finmap.mem_erase.mp live).2
  | execute sandboxId codePayload env => exact iff_of_true (quiet trivial) trivial
  | metadata sandboxId => exact iff_of_true (quiet trivial) trivial
  | terminateAll env => exact iff_of_true (quiet trivial) trivial
  | exit pid => exact iff_of_true (quiet trivial) trivial

theorem leavesSeparate_iff (tidy : Tidy host) (apart : NamesApart host) (op : Op) :
    LeavesSeparate op host ↔ CreatesApart op host := by
  have after : ((call op).ends host).2.lockDepth = 0 → Tidy ((call op).ends host).2 := by
    intro free
    refine tidy.call op fun stuck => ?_
    exact call_blocked_busy tidy.free stuck free
  exact (allSeparate_iff after).trans (namesApart_call_iff tidy.free apart op)

end

/-- In every state of a run the live sandboxes share nothing, if and only if each creation that
completes has an id apart from those of the live ones. Two ids that are one ordinary component each are
apart if and only if their first eight characters differ. -/
theorem runs_separate_iff {host : Host} (fresh : Fresh host) (ops : List Op) :
    (Along call LeavesSeparate ops host ↔ Along call CreatesApart ops host) ∧
    ∀ (before : Host) (sandboxId other : String), before.baseRuntimeDir.location.Apart before.rootPath.location →
      PlainId sandboxId → PlainId other →
      (Separate before sandboxId other ↔ sandboxId.toList.take 8 ≠ other.toList.take 8) := by
  refine ⟨?_, fun before sandboxId other roots plain plain' => separate_iff_take roots plain plain'⟩
  have tidy : Tidy host := ⟨fresh.free, fun id info found => by
    rw [fresh.cgroups, Finmap.lookup_empty] at found; exact nomatch found⟩
  have apart : NamesApart host := by
    intro id live
    rw [fresh.sandboxes] at live
    exact absurd live Finmap.notMem_empty
  refine along_congr (fun host => Tidy host ∧ NamesApart host) (fun _ _ => True) ?_ ?_ ops host ⟨tidy, apart⟩
    (along_of_forall (fun _ _ => trivial) ops host)
  · intro op before ⟨tidy, apart⟩ _
    exact leavesSeparate_iff tidy apart op
  · intro op before ⟨tidy, apart⟩ _ creates ended
    exact ⟨tidy.call op ended, (namesApart_call_iff tidy.free apart op).mpr creates⟩

/-- Numbers for a second sandbox; the inode is the first one's where the directory is. -/
def nextEnv (inode : UInt64) : CreateEnv where
  cgroup := { inode := inode, fd := 5 }
  tap := { fd := 6 }
  spawn := { pid := 101 }

/-- Both creations complete. -/
theorem both_created {first second : String} {inode : UInt64}
    (complete : Completed (bareHost none none) { sandboxId := first } (smoothEnv 77))
    (next : Completed (completed (bareHost none none) { sandboxId := first } (smoothEnv 77) (bareHost none none))
      { sandboxId := second } (nextEnv inode)) :
    ∃ after, (call (.create { sandboxId := first } (smoothEnv 77))).ends (bareHost none none) =
        (.returned (.status .success), after) ∧
      after.lockDepth = 0 ∧ Completed after { sandboxId := second } (nextEnv inode) ∧
      (∀ id, id ∈ after.sandboxes ↔ id = first) ∧
      ∀ id other, Separate after id other ↔ Separate (bareHost none none) id other := by
  obtain ⟨work, traced, ends⟩ := create_completes rfl complete
  refine ⟨_, ends, ?_⟩
  obtain ⟨files, touched, sent, rfl⟩ := traced.frame
  refine ⟨rfl, next, fun id => ?_, fun id other => Separate.congr rfl rfl⟩
  refine Finmap.mem_insert.trans (or_iff_left ?_)
  exact Finmap.notMem_empty

/-- Two plain ids without a common beginning. -/
theorem plain_ids_separate :
    Along call LeavesSeparate
      [.create { sandboxId := "sbx-9f82a1" } (smoothEnv 77), .create { sandboxId := "job-17" } (nextEnv 78)]
      (bareHost none none) := by
  obtain ⟨after, ends, -, complete, live, same⟩ :=
    @both_created "sbx-9f82a1" "job-17" 78 (by decide) (by decide)
  refine (runs_separate_iff ⟨rfl, rfl, rfl⟩ _).1.mpr ((along_cons_returned ends _).mpr ⟨?_, ?_, fun _ => trivial⟩)
  · exact fun _ other gone => absurd gone Finmap.notMem_empty
  · intro _ other found
    rw [live] at found
    subst found
    rw [same]
    exact ⟨by decide, by decide⟩

/-- Two strings for one directory: both creations succeed, and the two sandboxes have the same
runtime directory and the same cgroup. -/
theorem alias_shares_directories :
    Fresh (bareHost none none) ∧
      ¬ Along call LeavesSeparate
        [.create { sandboxId := "sandbox-two" } (smoothEnv 77),
          .create { sandboxId := "sandboxes/../sandbox-two" } (nextEnv 77)]
        (bareHost none none) := by
  obtain ⟨after, ends, free, complete, live, same⟩ :=
    @both_created "sandbox-two" "sandboxes/../sandbox-two" 77 (by decide) (by decide)
  refine ⟨⟨rfl, rfl, rfl⟩, fun all => ?_⟩
  have second : LeavesSeparate _ after := ((along_cons_returned ends _).mp all).2.1
  have apart : NamesApart after := by
    intro id here other here' different
    exact absurd (((live id).mp here).trans ((live other).mp here').symm) different
  have separate := (namesApart_call_iff free apart _).mp (AllSeparate.namesApart second) complete _ ((live _).mpr rfl)
  rw [same] at separate
  have shared : ¬ Separate (bareHost none none) "sandboxes/../sandbox-two" "sandbox-two" := fun separate =>
    absurd separate.directories (by decide)
  exact shared separate

end Aegis.Runtime
