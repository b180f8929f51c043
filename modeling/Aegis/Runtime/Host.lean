import Aegis.Ebpf.Loader
import Aegis.Library.FileTree
import Aegis.Library.Session
import Aegis.Library.Table
import Aegis.Policy.Engine

/-! The state the two managers work on, and the kernel's side of their calls.

Both managers are kept in one flat record together with the parts of the system they
change: the directory tree, their child processes, their open descriptors and, through
the loader, the kernel maps. What the kernel answers to a call is an input of the call.
-/

set_option autoImplicit false

namespace Aegis.Runtime
open Library Ebpf Policy

structure CgroupLimits where
  cpuCores : UInt32 := 1
  memoryMb : UInt32 := 512
  vramMb : UInt32 := 0
  maxPids : UInt32 := 100
  deriving DecidableEq, Repr

structure CgroupInfo where
  sandboxId : String
  cgroupPath : Path
  cgroupId : UInt64 := 0
  cgroupFd : Int := -1
  limits : CgroupLimits
  deriving DecidableEq, Repr

/-- The four host paths are kept as they are written: they are only passed on. -/
structure SandboxConfig where
  sandboxId : String
  environment : RuntimeEnvironment := .python311
  resourceLimits : CgroupLimits := {}
  securityPolicyName : String := "strict_python"
  useSnapshotRestore : Bool := true
  firecrackerBinPath : String := "/usr/local/bin/firecracker"
  rootfsImagePath : String := "/var/lib/aegis/rootfs/alpine-python311.ext4"
  kernelImagePath : String := "/var/lib/aegis/kernel/vmlinux-6.6.x"
  snapshotDirPath : String := "/var/lib/aegis/snapshots"
  deriving DecidableEq, Repr

/-- Without the two times, which no decision depends on. -/
structure SandboxMetadata where
  sandboxId : String := ""
  environment : RuntimeEnvironment := .unspecified
  state : SandboxState := .initializing
  vcpus : UInt32 := 1
  memoryMb : UInt32 := 512
  vramMb : UInt32 := 0
  guestIp : String := ""
  tapDeviceName : String := ""
  deriving DecidableEq, Repr

structure SandboxInstance where
  config : SandboxConfig
  metadata : SandboxMetadata := {}
  firecrackerPid : Int := -1
  socketPath : Path
  guestVsockPath : Path
  tapFd : Int := -1
  isActive : Bool := false
  deriving DecidableEq, Repr

/-- A forked Firecracker process until it is reaped, with the cgroup and the policy of the
sandbox it was forked for. -/
structure Child where
  cgroupId : UInt64
  policyName : String
  joined : Bool := false
  started : Bool := false
  killed : Bool := false
  exited : Bool := false
  deriving DecidableEq, Repr

/-- Both managers and the system around them. `touched` lists the places where a directory
was made or a file written or which were handed to a removal; `issued` lists the cgroup ids
handed out so far; `sent` lists what was written to which socket. -/
structure Host where
  lockDepth : Nat := 0
  sandboxes : Finmap fun _ : String => SandboxInstance := ∅
  baseRuntimeDir : Path := .parse "/var/run/aegis"
  rootPath : Path := .parse "/sys/fs/cgroup/aegis"
  cgroups : Finmap fun _ : String => CgroupInfo := ∅
  ebpfLoader : Option EBPFLoader := none
  policyEngine : Option PolicyEngine := none
  files : FileTree
  touched : List Location := []
  children : Finmap fun _ : Int => Child := ∅
  descriptors : Finset Int := ∅
  issued : List UInt64 := []
  sent : List (Path × String) := []

/-- The mutex of SandboxManager. Those of the other classes are never held across a call. -/
def sandboxMutex : Mutex Host where
  depth host := host.lockDepth
  put n host := { host with lockDepth := n }
  depth_put _ _ := rfl
  put_put _ _ _ := rfl
  put_depth _ := rfl

/-- The stream is buffered: that the file opens decides what the writer is told, that the
kernel takes the value shows only in the file. -/
structure SysfsAnswer where
  opens : Bool := true
  accepts : Bool := true
  deriving DecidableEq, Repr

section
variable (host : Host)

def Host.makeDirectories (path : Path) (answer : Option Nat) : Host :=
  let made := host.files.created path.directories answer
  { host with files := host.files.withDirectories made, touched := host.touched ++ made }

/-- `remove_all` is taken to remove what stands at the path and all below it. The source does not look
at its error code. On a mounted cgroup2 the call fails, since control files cannot be unlinked, and
the directory stays; so does one whose path ends in a dot, once it is empty. -/
def Host.removeAll (path : Path) : Host :=
  { host with files := host.files.removeAll path.location, touched := host.touched ++ [path.location] }

def Host.remove (path : Path) : Host :=
  { host with files := host.files.remove path.location, touched := host.touched ++ [path.location] }

def Host.writeFile (path : Path) (value : String) (answer : SysfsAnswer) : Host :=
  { host with
    files := if answer.opens ∧ answer.accepts then host.files.write path.location value else host.files
    touched := if answer.opens then host.touched ++ [path.location] else host.touched }

/-- The kernel hands out a descriptor that is not in use, or none. -/
def Host.FreeDescriptor (fd : Int) : Prop := 0 ≤ fd ∧ fd ∉ host.descriptors

instance (fd : Int) : Decidable (host.FreeDescriptor fd) := inferInstanceAs (Decidable (_ ∧ _))

/-- The kernel hands out a process id that no unreaped child has, or none. -/
def Host.FreePid (pid : Int) : Prop := 0 < pid ∧ pid ∉ host.children

instance (pid : Int) : Decidable (host.FreePid pid) := inferInstanceAs (Decidable (_ ∧ _))

def Host.closeDescriptor (fd : Int) : Host :=
  { host with descriptors := if 0 ≤ fd then host.descriptors.erase fd else host.descriptors }

def Host.updateChild (pid : Int) (change : Child → Child) : Host :=
  { host with
    children := match host.children.lookup pid with
      | some child => host.children.insert pid (change child)
      | none => host.children }

end

/-- The flag returned is the error code being set. -/
def createDirectories (path : Path) (answer : Option Nat) : Proc Host Bool := do
  Proc.modify fun host => host.makeDirectories path answer
  pure answer.isSome

def removeAll (path : Path) : Proc Host Unit := Proc.modify fun host => host.removeAll path

def writeSysfsFile (filePath : Path) (value : String) (answer : SysfsAnswer) : Proc Host Bool := do
  Proc.modify fun host => host.writeFile filePath value answer
  pure answer.opens

/-- The descriptor the kernel would hand out, or a negative number. -/
def openDescriptor (answer : Int) : Proc Host Int := do
  let host ← Proc.get
  if host.FreeDescriptor answer then do
    Proc.modify fun host => { host with descriptors := insert answer host.descriptors }
    pure answer
  else pure (-1)

def closeDescriptor (fd : Int) : Proc Host Unit := Proc.modify fun host => host.closeDescriptor fd

theorem createDirectories_ends (host : Host) (path : Path) (answer : Option Nat) :
    (createDirectories path answer).ends host = (.returned answer.isSome, host.makeDirectories path answer) := rfl

theorem writeSysfsFile_ends (host : Host) (path : Path) (value : String) (answer : SysfsAnswer) :
    (writeSysfsFile path value answer).ends host =
      (.returned answer.opens, host.writeFile path value answer) := rfl

theorem openDescriptor_ends {host : Host} {fd : Int} (free : host.FreeDescriptor fd) :
    (openDescriptor fd).ends host =
      (.returned fd, { host with descriptors := insert fd host.descriptors }) := by
  simp [openDescriptor, free]

theorem openDescriptor_refused {host : Host} {fd : Int} (taken : ¬ host.FreeDescriptor fd) :
    (openDescriptor fd).ends host = (.returned (-1), host) := by
  simp [openDescriptor, taken]

/-- A name that stays one component when it is joined to a path. -/
def PlainName (name : String) : Prop := Path.parse name = ⟨false, [name]⟩ ∧ Ordinary name

instance (name : String) : Decidable (PlainName name) := inferInstanceAs (Decidable (_ ∧ _))

theorem below_div {path : Path} {name : String} (plain : PlainName name) :
    (path / name).location.Below path.location := by
  rw [Path.location_div_ordinary path plain.1]
  exact (Location.within_refl _).enter plain.2

/-- Nothing changes but files at or under `root`, and all that is touched is under it. -/
def Confined (root : Location) (host after : Host) : Prop :=
  ∃ files new, after = { host with files := files, touched := host.touched ++ new } ∧
    (∀ l, ¬ l.Within root → files l = host.files l) ∧ ∀ l ∈ new, l.Below root

namespace Confined

variable {root : Location} {host middle after : Host}

theorem refl (host : Host) : Confined root host host :=
  ⟨host.files, [], by simp, fun _ _ => rfl, by simp⟩

theorem trans (first : Confined root host middle) (second : Confined root middle after) :
    Confined root host after := by
  obtain ⟨files, new, rfl, kept, below⟩ := first
  obtain ⟨files', new', rfl, kept', below'⟩ := second
  refine ⟨files', new ++ new', by simp, fun l out => (kept' l out).trans (kept l out), ?_⟩
  intro l member
  rcases List.mem_append.mp member with here | here
  · exact below l here
  · exact below' l here

/-- Any change of what stands at one place under the root. -/
theorem at_place {place : Location} (below : place.Below root) {files : FileTree}
    (same : ∀ l, l ≠ place → files l = host.files l) :
    Confined root host { host with files := files, touched := host.touched ++ [place] } := by
  refine ⟨files, [place], rfl, fun l out => same l ?_, by simpa using below⟩
  rintro rfl
  exact out below.within

theorem writeFile (host : Host) (path : Path) {name : String} (plain : PlainName name) (value : String)
    (answer : SysfsAnswer) : Confined path.location host (host.writeFile (path / name) value answer) := by
  by_cases opens : answer.opens = true
  · rw [Host.writeFile, if_pos opens]
    apply at_place (below_div plain)
    intro l other
    split
    · simp [FileTree.write, other]
    · rfl
  · have same : host.writeFile (path / name) value answer = host := by
      simp [Host.writeFile, opens]
    rw [same]
    exact refl host

theorem remove (host : Host) (path : Path) {name : String} (plain : PlainName name) :
    Confined path.location host (host.remove (path / name)) := by
  apply at_place (below_div plain)
  intro l other
  simp [FileTree.remove, other]

end Confined

/-- Nothing changes but files and messages, and all that is touched is at one of `places`. -/
def Traced (places : Location → Prop) (host after : Host) : Prop :=
  ∃ files new sent, after = { host with files := files, touched := host.touched ++ new, sent := sent } ∧
    ∀ l ∈ new, places l

namespace Traced

variable {places others : Location → Prop} {root : Location} {host middle after : Host}

theorem refl (host : Host) : Traced places host host :=
  ⟨host.files, [], host.sent, by simp, by simp⟩

theorem trans (first : Traced places host middle) (second : Traced places middle after) :
    Traced places host after := by
  obtain ⟨files, new, sent, rfl, here⟩ := first
  obtain ⟨files', new', sent', rfl, there⟩ := second
  refine ⟨files', new ++ new', sent', by simp, ?_⟩
  intro l member
  rcases List.mem_append.mp member with old | recent
  · exact here l old
  · exact there l recent

theorem mono (traced : Traced places host after) (wider : ∀ l, places l → others l) : Traced others host after := by
  obtain ⟨files, new, sent, same, here⟩ := traced
  exact ⟨files, new, sent, same, fun l member => wider l (here l member)⟩

theorem of_confined (confined : Confined root host after) : Traced (·.Within root) host after := by
  obtain ⟨files, new, same, -, below⟩ := confined
  exact ⟨files, new, host.sent, same, fun l member => (below l member).within⟩

theorem makeDirectories (host : Host) (path : Path) (answer : Option Nat) :
    Traced (· ∈ host.files.missing path.directories) host (host.makeDirectories path answer) := by
  refine ⟨_, _, host.sent, rfl, fun l member => ?_⟩
  exact FileTree.mem_missing.mpr (FileTree.mem_of_created member)

theorem removeAll (host : Host) (path : Path) : Traced (·.Within path.location) host (host.removeAll path) := by
  refine ⟨_, [path.location], host.sent, rfl, ?_⟩
  simpa using Location.within_refl path.location

theorem sending (host : Host) (sent : List (Path × String)) : Traced places host { host with sent := sent } :=
  ⟨host.files, [], sent, by simp, by simp⟩

/-- The fields other than the soft ones, all at once. -/
theorem frame (traced : Traced places host after) :
    ∃ files touched sent, after = { host with files := files, touched := touched, sent := sent } := by
  obtain ⟨files, new, sent, same, -⟩ := traced
  exact ⟨files, _, sent, same⟩

end Traced

end Aegis.Runtime
