import Aegis.Runtime.Calls

/-! Where the managers write and remove.

Both managers join the id to a directory of theirs and look at it no further. What a call
touches stays below the two directories for the ids that lead there, and whenever the call
does not get as far as using the id.
-/

set_option autoImplicit false

namespace Aegis.Runtime
open Library

/-- Strictly below the runtime directory or the cgroup root. -/
def Inside (host : Host) (l : Location) : Prop :=
  l.Below host.baseRuntimeDir.location ∨ l.Below host.rootPath.location

instance (host : Host) (l : Location) : Decidable (Inside host l) := inferInstanceAs (Decidable (_ ∨ _))

theorem Inside.of_within {host : Host} {l middle : Location} (within : l.Within middle) (inside : Inside host middle) :
    Inside host l :=
  inside.imp within.below within.below

/-- The places a call makes, writes or hands to a removal. -/
def touches {A : Type} (m : Proc Host A) (host : Host) : List Location :=
  (m.ends { host with touched := [] }).2.touched

/-- The operations that turn an id into a path. -/
inductive PathOp where
  | createSandbox
  | terminateSandbox
  | createCgroup
  | destroyCgroup
  deriving DecidableEq, Repr

/-- Whatever the other arguments are and whichever step fails, the operation touches nothing
outside the two directories. -/
def Contained (op : PathOp) (host : Host) (sandboxId : String) : Prop :=
  match op with
  | .createSandbox => ∀ config env, config.sandboxId = sandboxId →
      ∀ l ∈ touches (call (.create config env)) host, Inside host l
  | .terminateSandbox => ∀ env, ∀ l ∈ touches (call (.terminate sandboxId env)) host, Inside host l
  | .createCgroup => ∀ limits env, ∀ l ∈ touches (createCgroup sandboxId limits env) host, Inside host l
  | .destroyCgroup => ∀ l ∈ touches (destroyCgroup sandboxId) host, Inside host l

/-- The directory and those that have to be made on the way to it are inside. -/
def SafeDirectory (host : Host) (path : Path) : Prop :=
  Inside host path.location ∧ ∀ l ∈ host.files.missing path.directories, Inside host l

instance (host : Host) (path : Path) : Decidable (SafeDirectory host path) := inferInstanceAs (Decidable (_ ∧ _))

/-- The id leads inside wherever the operation uses it. -/
def LeadsInside (op : PathOp) (host : Host) (sandboxId : String) : Prop :=
  match op with
  | .createSandbox => sandboxId ≠ "" → sandboxId ∉ host.sandboxes →
      SafeDirectory host (host.baseRuntimeDir / sandboxId) ∧
        (sandboxId ∉ host.cgroups → SafeDirectory host (host.rootPath / sandboxId))
  | .terminateSandbox => sandboxId ∈ host.sandboxes →
      Inside host (host.baseRuntimeDir / sandboxId).location ∧
        (sandboxId ∈ host.cgroups → Inside host (host.rootPath / sandboxId).location)
  | .createCgroup => sandboxId ∉ host.cgroups → SafeDirectory host (host.rootPath / sandboxId)
  | .destroyCgroup => sandboxId ∈ host.cgroups → Inside host (host.rootPath / sandboxId).location

/-- The lock is free, and every cgroup of the table is where its id leads. -/
structure Tidy (host : Host) : Prop where
  free : host.lockDepth = 0
  cgroupPath : ∀ id info, host.cgroups.lookup id = some info → info.cgroupPath = host.rootPath / id

section
variable {host after : Host} {sandboxId : String}

theorem destroyCgroup_touches_iff (tidy : Tidy host) :
    (∀ l ∈ host.cgroupPlace sandboxId, Inside host l) ↔
      (sandboxId ∈ host.cgroups → Inside host (host.rootPath / sandboxId).location) := by
  unfold Host.cgroupPlace
  cases found : host.cgroups.lookup sandboxId with
  | none => simp [Finmap.lookup_eq_none.mp found]
  | some info => simp [Finmap.mem_of_lookup_eq_some found, tidy.cgroupPath sandboxId info found]

theorem destroy_contained_iff (tidy : Tidy host) :
    Contained .destroyCgroup host sandboxId ↔ LeadsInside .destroyCgroup host sandboxId := by
  have places : touches (destroyCgroup sandboxId) host = host.cgroupPlace sandboxId := by
    obtain ⟨status, ends⟩ := destroyCgroup_ends { host with touched := [] } sandboxId
    obtain ⟨files, frame⟩ := dropped_frame { host with touched := [] } sandboxId
    rw [touches, ends, frame]
    rfl
  unfold Contained LeadsInside
  rw [places]
  exact destroyCgroup_touches_iff tidy

theorem terminate_contained_iff (tidy : Tidy host) :
    Contained .terminateSandbox host sandboxId ↔ LeadsInside .terminateSandbox host sandboxId := by
  -- which places are touched does not depend on how the operating system answers
  have places (env : TerminateEnv) : touches (call (.terminate sandboxId env)) host =
      if sandboxId ∈ host.sandboxes then
        host.cgroupPlace sandboxId ++ [(host.baseRuntimeDir / sandboxId).location] else [] := by
    obtain ⟨status, after, ends, ⟨unknown, rfl⟩ | ⟨entry, files, known, rfl⟩⟩ :=
      terminate_ends (show ({ host with touched := [] } : Host).lockDepth = 0 from tidy.free) sandboxId env
    · rw [touches, ends, if_neg (by exact unknown)]
    · rw [touches, ends, if_pos (Finmap.mem_of_lookup_eq_some (by exact known))]
      rfl
  unfold Contained LeadsInside
  simp only [places]
  by_cases live : sandboxId ∈ host.sandboxes
  swap
  · simp [live]
  rw [← destroyCgroup_touches_iff tidy]
  simp only [live, if_true, true_implies, List.mem_append, List.mem_singleton]
  constructor
  · intro inside
    exact ⟨inside {} _ (.inr rfl), fun l member => inside {} l (.inl member)⟩
  · rintro ⟨base, cgroup⟩ - l (member | rfl)
    · exact cgroup l member
    · exact base

theorem Traced.mem_touched {places : Location → Prop} (traced : Traced places host after) {l : Location}
    (member : l ∈ after.touched) : l ∈ host.touched ∨ places l := by
  obtain ⟨files, new, sent, rfl, within⟩ := traced
  exact (List.mem_append.mp member).imp id (within l)

/-- A safe directory takes all the work on it inside. -/
theorem SafeDirectory.inside {path : Path} (safe : SafeDirectory host path) {l : Location}
    (place : l ∈ host.files.missing path.directories ∨ l.Within path.location) : Inside host l := by
  rcases place with missing | within
  · exact safe.2 l missing
  · exact .of_within within safe.1

theorem createCgroup_touched (new : sandboxId ∉ host.cgroups) (limits : CgroupLimits) (env : CgroupEnv) {l : Location}
    (member : l ∈ touches (createCgroup sandboxId limits env) host) :
    l ∈ host.files.missing (host.rootPath / sandboxId).directories ∨
      l.Within (host.rootPath / sandboxId).location := by
  have bare : sandboxId ∉ ({ host with touched := [] } : Host).cgroups := new
  unfold touches at member
  cases mkdir : env.mkdir with
  | some count =>
    rw [createCgroup_unmade bare mkdir] at member
    exact .inl (((Traced.makeDirectories _ _ _).mem_touched member).resolve_left List.not_mem_nil)
  | none =>
    obtain ⟨work, confined, ends⟩ := createCgroup_steps bare mkdir
    have traced : Traced (fun l => l ∈ host.files.missing (host.rootPath / sandboxId).directories ∨
        l.Within (host.rootPath / sandboxId).location) { host with touched := [] } work :=
      ((Traced.makeDirectories _ _ _).mono fun _ => .inl).trans ((Traced.of_confined confined).mono fun _ => .inr)
    rw [ends] at member
    by_cases granted : env.Granted { host with touched := [] } sandboxId
    · rw [if_pos granted] at member
      exact (traced.mem_touched member).resolve_left List.not_mem_nil
    · rw [if_neg granted] at member
      have removed := traced.trans ((Traced.removeAll work (host.rootPath / sandboxId)).mono fun _ => .inr)
      exact (removed.mem_touched member).resolve_left List.not_mem_nil

/-- When the limits cannot be written, the directories have been made and are removed. -/
theorem createCgroup_refused (new : sandboxId ∉ host.cgroups) (limits : CgroupLimits) (env : CgroupEnv)
    (made : env.mkdir = none) (closed : ¬ env.LimitsOpen) :
    ∃ work, (createCgroup sandboxId limits env).ends host = (.returned .errCgroupQuotaExceeded, work) ∧
      (∀ l ∈ host.touched, l ∈ work.touched) ∧
      ∀ l, l ∈ host.files.missing (host.rootPath / sandboxId).directories ∨
        l = (host.rootPath / sandboxId).location → l ∈ work.touched := by
  obtain ⟨work, confined, ends⟩ := createCgroup_steps new made
  rw [if_neg fun granted => closed granted.1.2] at ends
  obtain ⟨files, later, rfl, -, -⟩ := confined
  refine ⟨_, ends, fun l before => ?_, fun l place => List.mem_append.mpr ?_⟩
  · exact List.mem_append_left _ (List.mem_append_left _ (List.mem_append_left _ before))
  · rcases place with missing | rfl
    · exact .inl (List.mem_append_left _ (List.mem_append_right _ missing))
    · exact .inr (List.mem_singleton_self _)

/-- An environment in which no limit file opens. -/
def closedLimits : CgroupEnv := { cpuMax := { opens := false }, inode := 0, fd := 0 }

theorem createCgroup_contained_iff :
    Contained .createCgroup host sandboxId ↔ LeadsInside .createCgroup host sandboxId := by
  constructor
  · intro contained new
    obtain ⟨work, ends, -, all⟩ := createCgroup_refused
      (show sandboxId ∉ ({ host with touched := [] } : Host).cgroups from new) {} closedLimits rfl (by decide)
    have inside : ∀ l ∈ work.touched, Inside host l := by
      have every := contained {} closedLimits
      unfold touches at every
      rw [ends] at every
      exact every
    exact ⟨inside _ (all _ (.inr rfl)), fun l missing => inside l (all l (.inl missing))⟩
  · intro leads limits env l member
    by_cases known : sandboxId ∈ host.cgroups
    · rw [touches, createCgroup_known (by exact known)] at member
      cases member
    · exact (leads known).inside (createCgroup_touched known limits env member)

/-- A creation whose cgroup cannot be had removes the runtime directory and is over. -/
theorem create_stops (free : host.lockDepth = 0) (config : SandboxConfig) (env : CreateEnv)
    (admitted : Admitted host config) {status : Status} (failed : status ≠ .success) {work : Host}
    (ended : (createCgroup config.sandboxId config.resourceLimits env.cgroup).ends
      (({ host with lockDepth := 1 } : Host).makeDirectories (sbxDir host config) env.mkdir) =
      (.returned status, work)) :
    ((call (.create config env)).ends host).2.touched = work.touched ++ [(sbxDir host config).location] := by
  have body : (createBody .plain config env).ends { host with lockDepth := 1 } =
      (.returned status, work.removeAll (sbxDir host config)) := by
    unfold createBody
    rw [Proc.ends_get_bind, if_neg (not_or.mpr admitted), Proc.ends_bind_returned (createDirectories_ends _ _ _)]
    refine (Proc.ends_bind_returned ended).trans ?_
    rw [if_pos failed]
    rfl
  have locked : sandboxMutex.put (sandboxMutex.depth host + 1) host = { host with lockDepth := 1 } := by
    simp [sandboxMutex, free]
  rw [← locked] at body
  have ends : (createSandbox .plain config env).ends host = _ := sandboxMutex.ends_guard (.inl free) (by simp) body
  rw [call, Proc.ends_bind_returned ends]
  rfl

/-- Everything a creation touches belongs to the work on one of its two directories. -/
theorem create_touched (free : host.lockDepth = 0) (config : SandboxConfig) (env : CreateEnv) {l : Location}
    (member : l ∈ touches (call (.create config env)) host) :
    Admitted host config ∧ (sbxPlaces host config l ∨ config.sandboxId ∉ host.cgroups ∧ cgroupPlaces host config l) := by
  obtain ⟨outcome, after, result, -, state⟩ :=
    create_ends (show ({ host with touched := [] } : Host).lockDepth = 0 from free) config env
  have here : l ∈ after.touched := by
    rw [touches, state, apply_ite Host.touched, ite_self] at member
    exact member
  -- past the cgroup both directories have been used
  have both (made : CgroupMade host config env) {work : Host}
      (traced : Traced (places host config) { host with touched := [] } work) (touched : l ∈ work.touched) :
      Admitted host config ∧
        (sbxPlaces host config l ∨ config.sandboxId ∉ host.cgroups ∧ cgroupPlaces host config l) := by
    have place := (traced.mem_touched touched).resolve_left List.not_mem_nil
    exact ⟨made.1, place.imp id fun inside => ⟨made.2.1, inside⟩⟩
  cases result with
  | rejected => cases here
  | known admitted _ traced => exact ⟨admitted, .inl ((traced.mem_touched here).resolve_left List.not_mem_nil)⟩
  | unmade admitted new _ traced =>
    have place := (traced.mem_touched here).resolve_left List.not_mem_nil
    exact ⟨admitted, place.imp id fun inside => ⟨new, inside⟩⟩
  | undone made _ traced => exact both made traced here
  | tapless up _ traced => exact both up.1 traced here
  | uncleared up _ traced | unforked up _ _ traced => exact both up.1.1 traced here
  | unpolled up _ traced | unspawned up _ traced => exact both up.made traced here
  | bootThrew up _ traced | unbooted up _ _ _ traced => exact both up.made traced here
  | done complete traced => exact both complete.made traced here

/-- No limit file opens. -/
def noLimits : CreateEnv := { cgroup := closedLimits, tap := { fd := 0 }, spawn := { pid := 0 } }

theorem noLimits_stops (free : host.lockDepth = 0) (admitted : Admitted host { sandboxId := sandboxId })
    (new : sandboxId ∉ host.cgroups) :
    let made := ({ host with lockDepth := 1 } : Host).makeDirectories (host.baseRuntimeDir / sandboxId) none
    ∃ work : Host, ((call (.create { sandboxId := sandboxId } noLimits)).ends host).2.touched =
        work.touched ++ [(host.baseRuntimeDir / sandboxId).location] ∧
      (∀ l ∈ made.touched, l ∈ work.touched) ∧
      ∀ l, l ∈ made.files.missing (host.rootPath / sandboxId).directories ∨
        l = (host.rootPath / sandboxId).location → l ∈ work.touched := by
  intro made
  obtain ⟨work, ends, kept, all⟩ := createCgroup_refused (show sandboxId ∉ made.cgroups from new) {} closedLimits rfl
    (by decide)
  exact ⟨work, create_stops free { sandboxId := sandboxId } noLimits admitted (by simp) ends, kept, all⟩

/-- Such a creation works on all of the runtime directory. -/
theorem touches_sbxDir (free : host.lockDepth = 0) (admitted : Admitted host { sandboxId := sandboxId }) {l : Location}
    (place : l ∈ host.files.missing (host.baseRuntimeDir / sandboxId).directories ∨
      l = (host.baseRuntimeDir / sandboxId).location) :
    l ∈ ((call (.create { sandboxId := sandboxId } noLimits)).ends host).2.touched := by
  have made (missing : l ∈ host.files.missing (host.baseRuntimeDir / sandboxId).directories) :
      l ∈ (({ host with lockDepth := 1 } : Host).makeDirectories (host.baseRuntimeDir / sandboxId) none).touched :=
    List.mem_append_right _ missing
  by_cases known : sandboxId ∈ host.cgroups
  · rw [create_stops free _ noLimits admitted (by simp) (createCgroup_known (by exact known))]
    exact List.mem_append.mpr (place.imp made List.mem_singleton.mpr)
  · obtain ⟨work, ends, kept, -⟩ := noLimits_stops free admitted known
    rw [ends]
    exact List.mem_append.mpr (place.imp (fun missing => kept l (made missing)) List.mem_singleton.mpr)

/-- And on all of the cgroup directory: what the runtime directory has not brought is made for it. -/
theorem touches_cgroupDir (free : host.lockDepth = 0) (admitted : Admitted host { sandboxId := sandboxId })
    (new : sandboxId ∉ host.cgroups) {l : Location}
    (place : l ∈ host.files.missing (host.rootPath / sandboxId).directories ∨
      l = (host.rootPath / sandboxId).location) :
    l ∈ ((call (.create { sandboxId := sandboxId } noLimits)).ends host).2.touched := by
  obtain ⟨work, ends, kept, all⟩ := noLimits_stops free admitted new
  rw [ends]
  refine List.mem_append_left _ ?_
  rcases place with missing | same
  · by_cases early : l ∈ host.files.missing (host.baseRuntimeDir / sandboxId).directories
    · exact kept l (List.mem_append_right _ early)
    · obtain ⟨listed, absent⟩ := FileTree.mem_missing.mp missing
      refine all l (.inl (FileTree.mem_missing.mpr ⟨listed, ?_⟩))
      exact (if_neg early).trans absent
  · exact all l (.inr same)

theorem create_contained_iff (free : host.lockDepth = 0) :
    Contained .createSandbox host sandboxId ↔ LeadsInside .createSandbox host sandboxId := by
  constructor
  · intro contained named unlisted
    have admitted : Admitted { host with touched := [] } { sandboxId := sandboxId } := ⟨named, unlisted⟩
    have free : ({ host with touched := [] } : Host).lockDepth = 0 := free
    refine ⟨⟨?_, fun l missing => ?_⟩, fun new => ⟨?_, fun l missing => ?_⟩⟩
    · exact contained { sandboxId := sandboxId } noLimits rfl _ (touches_sbxDir free admitted (.inr rfl))
    · exact contained { sandboxId := sandboxId } noLimits rfl l (touches_sbxDir free admitted (.inl missing))
    · exact contained { sandboxId := sandboxId } noLimits rfl _ (touches_cgroupDir free admitted new (.inr rfl))
    · exact contained { sandboxId := sandboxId } noLimits rfl l (touches_cgroupDir free admitted new (.inl missing))
  · rintro leads config env rfl l member
    obtain ⟨admitted, place⟩ := create_touched free config env member
    obtain ⟨base, cgroup⟩ := leads admitted.1 admitted.2
    rcases place with inside | ⟨new, inside⟩
    · exact base.inside inside
    · exact (cgroup new).inside inside

end

/-- The states of the managers: after any calls of either, each returned or left by an exception. -/
inductive Reachable : Host → Prop where
  | fresh {host : Host} (fresh : Fresh host) : Reachable host
  | call {host : Host} (reached : Reachable host) (op : Op) (ended : ((call op).ends host).1 ≠ .blocked) :
      Reachable ((call op).ends host).2
  | createCgroup {host : Host} (reached : Reachable host) (sandboxId : String) (limits : CgroupLimits)
      (env : CgroupEnv) : Reachable ((createCgroup sandboxId limits env).ends host).2
  | attachPid {host : Host} (reached : Reachable host) (sandboxId : String) (pid : Int) (answer : SysfsAnswer) :
      Reachable ((attachPid sandboxId pid answer).ends host).2
  | destroyCgroup {host : Host} (reached : Reachable host) (sandboxId : String) :
      Reachable ((destroyCgroup sandboxId).ends host).2

namespace Tidy

variable {host after : Host}

/-- Entries that go away or are new and lead where their id leads do no harm. -/
theorem step (tidy : Tidy host) (free : after.lockDepth = 0) (root : after.rootPath = host.rootPath)
    (entries : ∀ id info, after.cgroups.lookup id = some info →
      info.cgroupPath = host.rootPath / id ∨ host.cgroups.lookup id = some info) : Tidy after := by
  refine ⟨free, fun id info found => ?_⟩
  rw [root]
  rcases entries id info found with new | old
  · exact new
  · exact tidy.cgroupPath id info old

theorem insert_entries {sandboxId : String} {info : CgroupInfo} (leads : info.cgroupPath = host.rootPath / sandboxId)
    (id : String) (other : CgroupInfo) (found : (host.cgroups.insert sandboxId info).lookup id = some other) :
    other.cgroupPath = host.rootPath / id ∨ host.cgroups.lookup id = some other := by
  rcases lookup_insert_cases found with ⟨rfl, rfl⟩ | old
  · exact .inl leads
  · exact .inr old

theorem create (tidy : Tidy host) (config : SandboxConfig) (env : CreateEnv)
    (free : ((call (.create config env)).ends host).2.lockDepth = 0) :
    Tidy ((call (.create config env)).ends host).2 := by
  by_cases complete : Completed host config env
  · obtain ⟨work, traced, ends⟩ := create_completes tidy.free complete
    rw [ends] at free ⊢
    obtain ⟨files, touched, sent, rfl⟩ := traced.frame
    exact tidy.step free rfl (insert_entries rfl)
  · have unapplied := create_unapplied tidy.free complete
    refine tidy.step free unapplied.rootPath ?_
    rcases unapplied.cgroups with same | ⟨-, -, grown⟩
    · rw [same]
      exact fun _ _ => .inr
    · rw [grown]
      exact insert_entries rfl

theorem call (tidy : Tidy host) (op : Op) (ended : ((call op).ends host).1 ≠ .blocked) :
    Tidy ((Runtime.call op).ends host).2 := by
  have free := call_ends_free tidy.free op ended
  have quiet (still : op.Quiet) : Tidy ((Runtime.call op).ends host).2 := by
    obtain ⟨answer, after, ends, shrinks, -⟩ := quiet_ends tidy.free still
    rw [ends] at free ⊢
    exact tidy.step free shrinks.rootPath fun id info found => .inr (shrinks.cgroups id info found)
  cases op with
  | create config env => exact tidy.create config env free
  | terminate sandboxId env =>
    obtain ⟨status, after, ends, ⟨-, rfl⟩ | ⟨entry, files, -, rfl⟩⟩ := terminate_ends tidy.free sandboxId env
    · rw [ends]
      exact tidy
    · rw [ends]
      exact tidy.step tidy.free rfl fun _ _ found => .inr (lookup_of_lookup_erase found)
  | execute sandboxId codePayload env => exact quiet trivial
  | metadata sandboxId => exact quiet trivial
  | terminateAll env => exact quiet trivial
  | exit pid => exact quiet trivial

theorem createCgroup (tidy : Tidy host) (sandboxId : String) (limits : CgroupLimits) (env : CgroupEnv) :
    Tidy ((createCgroup sandboxId limits env).ends host).2 := by
  by_cases known : sandboxId ∈ host.cgroups
  · rw [createCgroup_known known]
    exact tidy
  cases mkdir : env.mkdir with
  | some count =>
    rw [createCgroup_unmade known mkdir]
    exact tidy.step tidy.free rfl fun _ _ => .inr
  | none =>
    obtain ⟨work, confined, ends⟩ := createCgroup_steps known mkdir
    obtain ⟨depth, root, table⟩ : work.lockDepth = host.lockDepth ∧ work.rootPath = host.rootPath ∧
        work.cgroups = host.cgroups := by
      obtain ⟨files, new, rfl, -, -⟩ := confined
      exact ⟨rfl, rfl, rfl⟩
    rw [ends]
    split
    · refine tidy.step (depth.trans tidy.free) root ?_
      rw [Host.addCgroup, table]
      exact insert_entries rfl
    · refine tidy.step (depth.trans tidy.free) root ?_
      rw [Host.removeAll, table]
      exact fun _ _ => .inr

theorem attachPid (tidy : Tidy host) (sandboxId : String) (pid : Int) (answer : SysfsAnswer) :
    Tidy ((attachPid sandboxId pid answer).ends host).2 := by
  cases found : host.cgroups.lookup sandboxId with
  | none => simpa [Runtime.attachPid, found] using tidy
  | some info =>
    rw [attachPid_ends found]
    exact tidy.step tidy.free rfl fun _ _ => .inr

theorem destroyCgroup (tidy : Tidy host) (sandboxId : String) : Tidy ((destroyCgroup sandboxId).ends host).2 := by
  obtain ⟨status, ends⟩ := destroyCgroup_ends host sandboxId
  have shrinks := dropped_shrinks host sandboxId
  rw [ends]
  exact tidy.step (shrinks.lockDepth.trans tidy.free) shrinks.rootPath fun id info found =>
    .inr (shrinks.cgroups id info found)

end Tidy

theorem Reachable.tidy {host : Host} (reached : Reachable host) : Tidy host := by
  induction reached with
  | fresh fresh =>
    refine ⟨fresh.free, fun id info found => ?_⟩
    rw [fresh.cgroups] at found
    cases found
  | call _ op ended tidy => exact tidy.call op ended
  | createCgroup _ sandboxId limits env tidy => exact tidy.createCgroup sandboxId limits env
  | attachPid _ sandboxId pid answer tidy => exact tidy.attachPid sandboxId pid answer
  | destroyCgroup _ sandboxId tidy => exact tidy.destroyCgroup sandboxId

/-- In every reachable state an operation keeps to the two directories, whichever of its steps
fails, if and only if the id leads below them wherever the operation uses it. -/
theorem contained_iff_leads_inside {host : Host} (reached : Reachable host) (op : PathOp) (sandboxId : String) :
    Contained op host sandboxId ↔ LeadsInside op host sandboxId := by
  have tidy := reached.tidy
  cases op with
  | createSandbox => exact create_contained_iff tidy.free
  | terminateSandbox => exact terminate_contained_iff tidy
  | createCgroup => exact createCgroup_contained_iff
  | destroyCgroup => exact destroy_contained_iff tidy

/-- A plain id is safe on a new manager. -/
theorem plain_id_contained :
    Contained .createSandbox (bareHost none none) "sbx-9f82a1" ∧
      Contained .createCgroup (bareHost none none) "sbx-9f82a1" := by
  have reached : Reachable (bareHost none none) := .fresh ⟨rfl, rfl, rfl⟩
  have base : SafeDirectory (bareHost none none) ((bareHost none none).baseRuntimeDir / "sbx-9f82a1") := by decide
  have root : SafeDirectory (bareHost none none) ((bareHost none none).rootPath / "sbx-9f82a1") := by decide
  constructor
  · exact (contained_iff_leads_inside reached .createSandbox _).mpr fun _ _ => ⟨base, fun _ => root⟩
  · exact (contained_iff_leads_inside reached .createCgroup _).mpr fun _ => root

/-- The kernel does not set up the TAP device. -/
def noTap : CreateEnv := { smoothEnv 77 with tap := { fd := 4, ioctl := false } }

/-- The id "/etc" makes a failing creation remove /etc. -/
theorem absolute_id_escapes :
    Reachable (bareHost none none) ∧
      (Path.parse "/etc").location ∈ touches (call (.create { sandboxId := "/etc" } noTap)) (bareHost none none) ∧
      ¬ Contained .createSandbox (bareHost none none) "/etc" := by
  have outside : ¬ Inside (bareHost none none) (Path.parse "/etc").location := by decide
  have touched : (Path.parse "/etc").location ∈
      touches (call (.create { sandboxId := "/etc" } noTap)) (bareHost none none) := by decide +kernel
  exact ⟨.fresh ⟨rfl, rfl, rfl⟩, touched, fun contained => outside (contained _ _ rfl _ touched)⟩

end Aegis.Runtime
