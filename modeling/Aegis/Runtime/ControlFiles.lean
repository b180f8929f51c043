import Aegis.Runtime.Lifetime

/-! What the control files of a cgroup hold after a success.

A stream hands its text to the kernel when it is destroyed, after its state has been looked
at, so a value the kernel refuses is reported as written. And a cgroup has control files only
if its parent delegates the controllers to it.
-/

set_option autoImplicit false

namespace Aegis.Runtime
open Library

/-! The stream. -/

/-- `std::ofstream`; what is inserted waits in the buffer. -/
structure OFStream where
  filePath : Path
  isOpen : Bool
  buffer : String := ""

namespace OFStream

def insert (file : OFStream) (value : String) : OFStream := { file with buffer := file.buffer ++ value }

/-- Nothing that could have failed has happened since the file was opened. -/
def good (file : OFStream) : Bool := file.isOpen

/-- The text goes to the kernel, and the answer goes nowhere. -/
def destroy (file : OFStream) (accepts : Bool) : Proc Host Unit :=
  Proc.modify fun host => host.writeFile file.filePath file.buffer ⟨file.isOpen, accepts⟩

end OFStream

/-- The body of `write_sysfs_file` statement by statement. -/
def writeThroughStream (filePath : Path) (value : String) (answer : SysfsAnswer) : Proc Host Bool := do
  let file : OFStream := { filePath, isOpen := answer.opens }
  if ¬ file.isOpen then pure false
  else
    let file := file.insert value
    -- the result is computed before the destructor runs
    let result := file.good
    file.destroy answer.accepts
    pure result

theorem writeThroughStream_ends (filePath : Path) (value : String) (answer : SysfsAnswer) (host : Host) :
    (writeThroughStream filePath value answer).ends host = (writeSysfsFile filePath value answer).ends host := by
  rw [writeSysfsFile_ends]
  cases opens : answer.opens with
  | false => simp [writeThroughStream, opens, Host.writeFile]
  | true => simp [writeThroughStream, opens, OFStream.insert, OFStream.good, OFStream.destroy, Host.writeFile]

/-! The three limits. -/

def cpuMaxText (limits : CgroupLimits) : String := toString (limits.cpuCores.toNat * 100000) ++ " 100000"

def memoryMaxText (limits : CgroupLimits) : String := toString (limits.memoryMb.toNat * 1024 * 1024)

def pidsMaxText (limits : CgroupLimits) : String := toString limits.maxPids.toNat

/-- The source computes with 64 bits. -/
structure NoWrap (limits : CgroupLimits) : Prop where
  cpu : (limits.cpuCores.toUInt64 * 100000).toNat = limits.cpuCores.toNat * 100000
  memory : (limits.memoryMb.toUInt64 * 1024 * 1024).toNat = limits.memoryMb.toNat * 1024 * 1024

theorem noWrap (limits : CgroupLimits) : NoWrap limits := by
  have cores := limits.cpuCores.toNat_lt
  have megabytes := limits.memoryMb.toNat_lt
  constructor
  · rw [UInt64.toNat_mul, UInt32.toNat_toUInt64]
    exact Nat.mod_eq_of_lt (by simp only [UInt64.reduceToNat]; omega)
  · rw [UInt64.toNat_mul, UInt64.toNat_mul, UInt32.toNat_toUInt64]
    simp only [UInt64.reduceToNat]
    omega

/-- The limit files of the cgroup hold the limits. -/
structure HoldsLimits (host : Host) (cgroupPath : Path) (limits : CgroupLimits) : Prop where
  cpu : host.files (cgroupPath / "cpu.max").location = some (.file (cpuMaxText limits))
  memory : host.files (cgroupPath / "memory.max").location = some (.file (memoryMaxText limits))
  pids : host.files (cgroupPath / "pids.max").location = some (.file (pidsMaxText limits))

def Host.writeLimits (host : Host) (cgroupPath : Path) (limits : CgroupLimits) (env : CgroupEnv) : Host :=
  ((host.writeFile (cgroupPath / "cpu.max") (cpuMaxText limits) env.cpuMax).writeFile (cgroupPath / "memory.max")
    (memoryMaxText limits) env.memoryMax).writeFile (cgroupPath / "pids.max") (pidsMaxText limits) env.pidsMax

theorem applyLimits_written (host : Host) (cgroupPath : Path) (limits : CgroupLimits) {env : CgroupEnv}
    (opens : env.LimitsOpen) :
    (applyLimits cgroupPath limits env).ends host = (.returned .success, host.writeLimits cgroupPath limits env) := by
  obtain ⟨cpu, memory, pids⟩ := opens
  unfold applyLimits
  rw [Proc.ends_bind_returned (writeSysfsFile_ends _ _ _ _), if_pos cpu,
    Proc.ends_bind_returned (writeSysfsFile_ends _ _ _ _), if_pos memory,
    Proc.ends_bind_returned (writeSysfsFile_ends _ _ _ _), if_pos pids]
  rfl

theorem createCgroup_granted {host : Host} {sandboxId : String} {env : CgroupEnv} (limits : CgroupLimits)
    (new : sandboxId ∉ host.cgroups) (made : env.mkdir = none) (granted : env.Granted host sandboxId) :
    ∃ after, (createCgroup sandboxId limits env).ends host = (.returned .success, after) ∧
      after.files = ((host.makeDirectories (host.rootPath / sandboxId) none).writeLimits (host.rootPath / sandboxId)
        limits env).files := by
  obtain ⟨⟨plain, opens⟩, inode, free⟩ := granted
  unfold createCgroup
  rw [Proc.ends_get_bind, if_neg new, Proc.ends_bind_returned (createDirectories_ends _ _ _), made,
    if_neg (by simp), env.seen_nulFree plain, Proc.ends_bind_returned (applyLimits_written _ _ _ opens),
    if_neg (by simp), if_neg inode]
  have unused : ((host.makeDirectories (host.rootPath / sandboxId) none).writeLimits (host.rootPath / sandboxId)
      limits env).FreeDescriptor env.fd := by
    simpa only [Host.FreeDescriptor, Host.writeLimits, Host.writeFile, Host.makeDirectories] using free
  generalize (host.makeDirectories (host.rootPath / sandboxId) none).writeLimits (host.rootPath / sandboxId)
    limits env = work at unused
  rw [Proc.ends_bind_returned (openDescriptor_ends unused), if_neg (Int.not_lt.mpr free.1)]
  exact ⟨_, rfl, rfl⟩

/-- The kernel has the value. -/
def SysfsAnswer.Taken (answer : SysfsAnswer) : Prop := answer.opens = true ∧ answer.accepts = true

instance (answer : SysfsAnswer) : Decidable answer.Taken := inferInstanceAs (Decidable (_ ∧ _))

theorem files_writeFile_same (host : Host) (path : Path) (value : String) (answer : SysfsAnswer) :
    (host.writeFile path value answer).files path.location =
      if answer.Taken then some (.file value) else host.files path.location := by
  by_cases taken : answer.opens = true ∧ answer.accepts = true
  · simp [Host.writeFile, SysfsAnswer.Taken, taken, FileTree.write]
  · simp [Host.writeFile, SysfsAnswer.Taken, taken]

theorem files_writeFile_other (host : Host) (path : Path) (value : String) (answer : SysfsAnswer) {place : Location}
    (other : place ≠ path.location) : (host.writeFile path value answer).files place = host.files place := by
  unfold Host.writeFile
  split
  · simp [FileTree.write, other]
  · rfl

theorem div_ne {path : Path} {first second : String} (plain : PlainName first) (plain' : PlainName second)
    (different : first ≠ second) : (path / first).location ≠ (path / second).location := by
  rw [Path.location_div_ordinary path plain.1, Path.location_div_ordinary path plain'.1]
  intro same
  have apart := Location.apart_enter (l := path.location) plain.2 plain'.2 different
  rw [same] at apart
  exact apart.1 (Location.within_refl _)

theorem plain_limits : PlainName "cpu.max" ∧ PlainName "memory.max" ∧ PlainName "pids.max" := by decide

section
variable (host : Host) (cgroupPath : Path) (limits : CgroupLimits) (env : CgroupEnv)

theorem files_writeLimits_cpu : (host.writeLimits cgroupPath limits env).files (cgroupPath / "cpu.max").location =
    if env.cpuMax.Taken then some (.file (cpuMaxText limits)) else host.files (cgroupPath / "cpu.max").location := by
  obtain ⟨cpu, memory, pids⟩ := plain_limits
  rw [Host.writeLimits, files_writeFile_other _ _ _ _ (div_ne cpu pids (by decide)),
    files_writeFile_other _ _ _ _ (div_ne cpu memory (by decide)), files_writeFile_same]

theorem files_writeLimits_memory :
    (host.writeLimits cgroupPath limits env).files (cgroupPath / "memory.max").location =
      if env.memoryMax.Taken then some (.file (memoryMaxText limits))
      else host.files (cgroupPath / "memory.max").location := by
  obtain ⟨cpu, memory, pids⟩ := plain_limits
  rw [Host.writeLimits, files_writeFile_other _ _ _ _ (div_ne memory pids (by decide)), files_writeFile_same,
    files_writeFile_other _ _ _ _ (div_ne memory cpu (by decide))]

theorem files_writeLimits_pids : (host.writeLimits cgroupPath limits env).files (cgroupPath / "pids.max").location =
    if env.pidsMax.Taken then some (.file (pidsMaxText limits)) else host.files (cgroupPath / "pids.max").location := by
  obtain ⟨cpu, memory, pids⟩ := plain_limits
  rw [Host.writeLimits, files_writeFile_same, files_writeFile_other _ _ _ _ (div_ne pids memory (by decide)),
    files_writeFile_other _ _ _ _ (div_ne pids cpu (by decide))]

end

/-- Making directories makes no file, and changes none. -/
theorem file_makeDirectories_iff (host : Host) (path : Path) (answer : Option Nat) (place : Location) (text : String) :
    (host.makeDirectories path answer).files place = some (.file text) ↔ host.files place = some (.file text) := by
  unfold Host.makeDirectories FileTree.withDirectories
  dsimp only
  split
  · rename_i member
    simp [(FileTree.mem_of_created member).2]
  · rfl

theorem taken_or_held_iff {answer : SysfsAnswer} {node : Option Node} {text : String} :
    (if answer.Taken then some (.file text) else node) = some (.file text) ↔
      answer.Taken ∨ node = some (.file text) := by
  split
  · simp [*]
  · simp [*]

/-! Success and what the kernel has. -/

/-- After a success the limits are in force. -/
def LimitsInForce (host : Host) (sandboxId : String) (limits : CgroupLimits) (env : CgroupEnv) : Prop :=
  ∀ after, (createCgroup sandboxId limits env).ends host = (.returned .success, after) →
    HoldsLimits after (host.rootPath / sandboxId) limits

/-- Which cgroup the kernel has each process in, after a write of `pid` to the processes of
another one. -/
def moved (cgroupOf : Int → Option Location) (pid : Int) (cgroup : Location) (answer : SysfsAnswer) :
    Int → Option Location :=
  if answer.Taken then Function.update cgroupOf pid (some cgroup) else cgroupOf

/-- After a success the process is in the cgroup. -/
def AttachedInForce (host : Host) (cgroupOf : Int → Option Location) (sandboxId : String) (pid : Int)
    (answer : SysfsAnswer) : Prop :=
  ∀ after, (attachPid sandboxId pid answer).ends host = (.returned .success, after) →
    ∃ info, host.cgroups.lookup sandboxId = some info ∧
      moved cgroupOf pid info.cgroupPath.location answer pid = some info.cgroupPath.location

section
variable {host : Host} {sandboxId : String} {limits : CgroupLimits} {env : CgroupEnv}

/-- When `create_cgroup` succeeds. -/
def CgroupEnv.Succeeds (env : CgroupEnv) (host : Host) (sandboxId : String) : Prop :=
  sandboxId ∉ host.cgroups ∧ env.mkdir = none ∧ env.Granted host sandboxId

theorem createCgroup_success_iff (limits : CgroupLimits) :
    ((createCgroup sandboxId limits env).ends host).1 = .returned .success ↔ env.Succeeds host sandboxId := by
  by_cases known : sandboxId ∈ host.cgroups
  · simp [createCgroup_known known, CgroupEnv.Succeeds, known]
  · cases made : env.mkdir with
    | some count => simp [createCgroup_unmade known made, CgroupEnv.Succeeds, made]
    | none =>
      obtain ⟨work, -, ended⟩ := @createCgroup_steps host sandboxId limits env known made
      rw [ended]
      by_cases granted : env.Granted host sandboxId
      · simp [CgroupEnv.Succeeds, known, made, granted]
      · simp [CgroupEnv.Succeeds, granted]

theorem limitsInForce_of_failed (failed : ¬ env.Succeeds host sandboxId) :
    LimitsInForce host sandboxId limits env := by
  intro after ended
  refine absurd ((createCgroup_success_iff limits).mp ?_) failed
  rw [ended]

/-- The kernel accepts the value, or the file has held it all the time. -/
def InPlace (host : Host) (path : Path) (text : String) (answer : SysfsAnswer) : Prop :=
  answer.accepts = true ∨ host.files path.location = some (.file text)

theorem limitsInForce_of_succeeds (succeeds : env.Succeeds host sandboxId) :
    LimitsInForce host sandboxId limits env ↔
      InPlace host (host.rootPath / sandboxId / "cpu.max") (cpuMaxText limits) env.cpuMax ∧
      InPlace host (host.rootPath / sandboxId / "memory.max") (memoryMaxText limits) env.memoryMax ∧
      InPlace host (host.rootPath / sandboxId / "pids.max") (pidsMaxText limits) env.pidsMax := by
  obtain ⟨new, made, granted⟩ := succeeds
  obtain ⟨after, ended, files⟩ := createCgroup_granted limits new made granted
  obtain ⟨cpu, memory, pids⟩ := granted.1.2
  have holds : LimitsInForce host sandboxId limits env ↔ HoldsLimits after (host.rootPath / sandboxId) limits := by
    unfold LimitsInForce
    simp [ended]
  have fields : HoldsLimits after (host.rootPath / sandboxId) limits ↔
      after.files (host.rootPath / sandboxId / "cpu.max").location = some (.file (cpuMaxText limits)) ∧
      after.files (host.rootPath / sandboxId / "memory.max").location = some (.file (memoryMaxText limits)) ∧
      after.files (host.rootPath / sandboxId / "pids.max").location = some (.file (pidsMaxText limits)) :=
    ⟨fun ⟨first, second, third⟩ => ⟨first, second, third⟩, fun ⟨first, second, third⟩ => ⟨first, second, third⟩⟩
  rw [holds, fields, files, files_writeLimits_cpu, files_writeLimits_memory, files_writeLimits_pids]
  simp only [taken_or_held_iff, file_makeDirectories_iff]
  simp only [SysfsAnswer.Taken, cpu, memory, pids, true_and, InPlace]

theorem attachedInForce_iff (cgroupOf : Int → Option Location) (pid : Int) (answer : SysfsAnswer) :
    AttachedInForce host cgroupOf sandboxId pid answer ↔
      ∀ info, host.cgroups.lookup sandboxId = some info → answer.opens = true →
        answer.accepts = true ∨ cgroupOf pid = some info.cgroupPath.location := by
  unfold AttachedInForce
  cases known : host.cgroups.lookup sandboxId with
  | none => simp [attachPid, known]
  | some info =>
    rw [attachPid_ends known]
    cases opens : answer.opens with
    | false => simp
    | true =>
      cases accepts : answer.accepts with
      | false => simp [moved, SysfsAnswer.Taken, accepts]
      | true => simp [moved, SysfsAnswer.Taken, opens, accepts]

end

/-- Whether the success of an operation means that the kernel has the values is up to the
kernel: it has to accept each value, where it does not have it already. -/
theorem success_in_force_iff (host : Host) (sandboxId : String) (limits : CgroupLimits) (env : CgroupEnv)
    (cgroupOf : Int → Option Location) (pid : Int) (answer : SysfsAnswer) :
    NoWrap limits ∧
    (LimitsInForce host sandboxId limits env ↔ (env.Succeeds host sandboxId →
      InPlace host (host.rootPath / sandboxId / "cpu.max") (cpuMaxText limits) env.cpuMax ∧
      InPlace host (host.rootPath / sandboxId / "memory.max") (memoryMaxText limits) env.memoryMax ∧
      InPlace host (host.rootPath / sandboxId / "pids.max") (pidsMaxText limits) env.pidsMax)) ∧
    (AttachedInForce host cgroupOf sandboxId pid answer ↔
      ∀ info, host.cgroups.lookup sandboxId = some info → answer.opens = true →
        answer.accepts = true ∨ cgroupOf pid = some info.cgroupPath.location) := by
  refine ⟨noWrap limits, ?_, attachedInForce_iff cgroupOf pid answer⟩
  by_cases succeeds : env.Succeeds host sandboxId
  · rw [limitsInForce_of_succeeds succeeds]
    exact (imp_iff_right succeeds).symm
  · exact iff_of_true (limitsInForce_of_failed succeeds) fun yes => absurd yes succeeds

/-- No cores asked for: the kernel refuses a quota of 0. -/
def idleLimits : CgroupLimits := { cpuCores := 0 }

def refusingEnv : CgroupEnv := { cpuMax := { accepts := false }, inode := 77, fd := 3 }

def heldCgroup : CgroupInfo :=
  { sandboxId := "held", cgroupPath := .parse "/sys/fs/cgroup/aegis/held", cgroupId := 5, cgroupFd := 4, limits := {} }

def quietHost : Host where
  files := .empty
  cgroups := (∅ : Finmap fun _ : String => CgroupInfo).insert "held" heldCgroup

theorem heldCgroup_known : quietHost.cgroups.lookup "held" = some heldCgroup := Finmap.lookup_insert _

theorem refused_quota_reported :
    (∃ after, (createCgroup "sbx" idleLimits refusingEnv).ends quietHost = (.returned .success, after) ∧
      after.files (quietHost.rootPath / "sbx" / "cpu.max").location = none) ∧
    ¬ LimitsInForce quietHost "sbx" idleLimits refusingEnv ∧
    ((attachPid "held" 9 { accepts := false }).ends quietHost).1 = .returned .success ∧
    ¬ AttachedInForce quietHost (fun _ => none) "held" 9 { accepts := false } := by
  have succeeds : refusingEnv.Succeeds quietHost "sbx" := by
    exact ⟨by decide, rfl, ⟨⟨by decide, rfl, rfl, rfl⟩, by decide, by decide, by decide⟩⟩
  obtain ⟨after, ended, files⟩ := createCgroup_granted idleLimits succeeds.1 succeeds.2.1 succeeds.2.2
  have absent : after.files (quietHost.rootPath / "sbx" / "cpu.max").location = none := by
    rw [files, files_writeLimits_cpu]
    decide
  have attached := attachPid_ends heldCgroup_known 9 { accepts := false }
  refine ⟨⟨after, ended, absent⟩, fun inForce => ?_, by rw [attached]; rfl, fun inForce => ?_⟩
  · have held := (inForce after ended).cpu
    rw [absent] at held
    cases held
  · obtain ⟨info, -, placed⟩ := inForce _ attached
    cases placed

/-! Which controllers there are. -/

def neededControllers : List String := ["cpu", "memory", "pids"]

/-- The controllers named in a `cgroup.subtree_control`. -/
def controllers (text : String) : List String :=
  (text.toList.splitOnP Char.isWhitespace).map fun word => String.ofList (word.dropWhile (· = '+'))

/-- The directory hands the needed controllers on to its children. -/
def Host.delegates (host : Host) (dir : Location) : Bool :=
  match host.files (dir.enter "cgroup.subtree_control") with
  | some (.file text) => neededControllers.all fun name => (controllers text).contains name
  | _ => false

/-- The manager as it is constructed when nothing goes wrong. -/
def Host.constructed (host : Host) (rootCgroupPath : Path) : Host :=
  ({ host with rootPath := rootCgroupPath, cgroups := ∅ }.makeDirectories rootCgroupPath none).writeFile
    (rootCgroupPath.parentPath / "cgroup.subtree_control") "+cpu +memory +pids" {}

theorem initCgroupManager_ends (host : Host) (rootCgroupPath : Path) :
    (initCgroupManager rootCgroupPath {}).ends host = (.returned (), host.constructed rootCgroupPath) := by
  unfold initCgroupManager
  rw [Proc.ends_modify_bind, Proc.ends_bind_returned (createDirectories_ends _ _ _), if_neg (by simp),
    Proc.ends_bind_returned (writeSysfsFile_ends _ _ _ _)]
  rfl

/-- The kernel's answers under the rule of delegation: a cgroup has the limit files just if its
parent hands the controllers on. The rest goes well. -/
def Host.cgroupEnv (host : Host) (sandboxId : String) (inode : UInt64) (fd : Int) : CgroupEnv :=
  let limitFile : SysfsAnswer := { opens := host.delegates (host.rootPath / sandboxId).location.parent }
  { cpuMax := limitFile, memoryMax := limitFile, pidsMax := limitFile, inode := inode, fd := fd }

theorem parent_enter (l : Location) {name : String} (ordinary : Ordinary name) : (l.enter name).parent = l := by
  rw [Location.enter_ordinary ordinary]
  simp [Location.parent, ordinary.2.2]

theorem enter_left_injective {l m : Location} {name : String} (ordinary : Ordinary name)
    (same : l.enter name = m.enter name) : l = m := by
  rw [← parent_enter l ordinary, same, parent_enter m ordinary]

theorem plain_subtreeControl : PlainName "cgroup.subtree_control" := by decide

theorem delegates_iff (host : Host) (dir : Location) :
    host.delegates dir = true ↔ ∃ text, host.files (dir.enter "cgroup.subtree_control") = some (.file text) ∧
      (neededControllers.all fun name => (controllers text).contains name) = true := by
  unfold Host.delegates
  split
  · simp [*]
  · rename_i other
    simp only [Bool.false_eq_true, false_iff]
    rintro ⟨text, here, -⟩
    exact other text here

/-- The constructor makes the parent of the root path delegate. -/
theorem delegates_constructed (host : Host) (root : Path) (dir : Location) :
    (host.constructed root).delegates dir = true ↔ host.delegates dir = true ∨ root.parentPath.location = dir := by
  have written : (root.parentPath / "cgroup.subtree_control").location =
      root.parentPath.location.enter "cgroup.subtree_control" :=
    Path.location_div_ordinary _ plain_subtreeControl.1
  rw [delegates_iff, delegates_iff, Host.constructed]
  by_cases same : root.parentPath.location = dir
  · subst same
    rw [← written, files_writeFile_same, if_pos ⟨rfl, rfl⟩]
    refine iff_of_true ⟨_, rfl, ?_⟩ (.inr rfl)
    decide
  · have other : dir.enter "cgroup.subtree_control" ≠ (root.parentPath / "cgroup.subtree_control").location := by
      rw [written]
      exact fun equal => same (enter_left_injective plain_subtreeControl.2 equal).symm
    rw [files_writeFile_other _ _ _ _ other]
    simp only [file_makeDirectories_iff, same, or_false]

/-- A trailing separator, and nothing else, is all that `parent_path` takes off such a path. -/
theorem parentPath_location (root : Path) :
    (root.names.getLast? = some "" → root.parentPath.location = root.location) ∧
      ∀ last, root.names.getLast? = some last → Ordinary last → root.parentPath.location ≠ root.location := by
  have split : ∀ last, root.names.getLast? = some last → root.location = root.parentPath.location.enter last := by
    intro last ends
    have whole : root.names = root.parentPath.names ++ [last] := (List.dropLast_append_getLast? last ends).symm
    have walked : root.location = (Location.start root.rooted).walk (root.parentPath.names ++ [last]) := by
      rw [← whole]
      rfl
    rw [walked, Location.walk_append]
    rfl
  constructor
  · intro ends
    rw [split "" ends, Location.enter_empty]
  · intro last ends ordinary same
    rw [split last ends, Location.enter_ordinary ordinary] at same
    have names := congrArg (fun l => l.names.length) same
    simp at names

/-- Creating a cgroup under a new manager succeeds just if the root path delegates the
controllers already or `parent_path` leads back to it. It does so behind a trailing separator,
and not if the path ends in a name. -/
theorem controllers_enabled_iff (host built : Host) (root : Path) (sandboxId : String) (limits : CgroupLimits)
    (inode : UInt64) (fd : Int) (constructs : (initCgroupManager root {}).ends host = (.returned (), built))
    (single : PlainName sandboxId) (real : inode ≠ 0) (free : host.FreeDescriptor fd) :
    (((createCgroup sandboxId limits (built.cgroupEnv sandboxId inode fd)).ends built).1 = .returned .success ↔
      host.delegates root.location = true ∨ root.parentPath.location = root.location) ∧
    (root.names.getLast? = some "" → root.parentPath.location = root.location) ∧
    ∀ last, root.names.getLast? = some last → Ordinary last → root.parentPath.location ≠ root.location := by
  rw [initCgroupManager_ends] at constructs
  obtain ⟨-, rfl⟩ := Prod.mk.inj constructs
  refine ⟨?_, parentPath_location root⟩
  have above : ((host.constructed root).rootPath / sandboxId).location.parent = root.location := by
    rw [Path.location_div_ordinary _ single.1, parent_enter _ single.2]
    rfl
  rw [createCgroup_success_iff, ← delegates_constructed]
  unfold CgroupEnv.Succeeds CgroupEnv.Granted CgroupEnv.LimitsOpen Host.cgroupEnv
  simp only [above, and_self]
  constructor
  · rintro ⟨-, -, ⟨-, opens⟩, -⟩
    exact opens
  · intro opens
    exact ⟨Finmap.notMem_empty, trivial, ⟨single.nulFree, opens⟩, real, free⟩

/-- A system that delegates the controllers down to the parent of the default root path. -/
def delegatingHost : Host where
  files := FileTree.empty.write ⟨true, ["sys", "fs", "cgroup", "cgroup.subtree_control"]⟩ "cpu memory pids\n"

/-- The default root path with a separator behind it. -/
theorem trailing_separator_enables : ∃ built,
    (initCgroupManager (.parse "/sys/fs/cgroup/aegis/") {}).ends delegatingHost = (.returned (), built) ∧
      ((createCgroup "sbx" {} (built.cgroupEnv "sbx" 77 3)).ends built).1 = .returned .success := by
  have built := initCgroupManager_ends delegatingHost (.parse "/sys/fs/cgroup/aegis/")
  have enabled := controllers_enabled_iff _ _ _ "sbx" {} 77 3 built (by decide) (by decide) (by decide)
  exact ⟨_, built, enabled.1.mpr (.inr (enabled.2.1 (by decide)))⟩

theorem default_root_not_enabled : ∃ built,
    (initCgroupManager (.parse "/sys/fs/cgroup/aegis") {}).ends delegatingHost = (.returned (), built) ∧
      built.delegates (Path.parse "/sys/fs/cgroup").location = true ∧
      built.delegates (Path.parse "/sys/fs/cgroup/aegis").location = false ∧
      ((createCgroup "sbx" {} (built.cgroupEnv "sbx" 77 3)).ends built).1 = .returned .errCgroupQuotaExceeded := by
  have built := initCgroupManager_ends delegatingHost (.parse "/sys/fs/cgroup/aegis")
  exact ⟨_, built, by decide, by decide, by decide⟩

end Aegis.Runtime
