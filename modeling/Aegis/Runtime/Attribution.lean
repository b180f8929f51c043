import Aegis.Ebpf.ProcessMonitor
import Aegis.Ebpf.RingBuffer
import Aegis.Runtime.Cgroup

/-! Which task and which sandbox an event is put down to.

The helper of the kernel returns the id of the thread group in the upper and that of the
thread in the lower half of a word. The programs take the two the other way round, and they
keep the lower half of the cgroup id only.
-/

set_option autoImplicit false

namespace Aegis.Ebpf
open Library Layout

/-! The record read as the kind it was emitted as. -/

def asSyscall (data : List UInt8) : SecurityEventVariant :=
  let raw := RawSyscallEvent.read data
  .syscall {
    timestampNs := raw.timestampNs
    pid := raw.pid
    tgid := raw.tgid
    cgroupId := raw.cgroupId
    syscallNr := raw.syscallNr
    comm := boundedString raw.comm 16
    actionTaken := raw.actionTaken }

def asNetwork (data : List UInt8) : SecurityEventVariant :=
  let raw := RawNetworkEvent.read data
  .network {
    timestampNs := raw.timestampNs
    pid := raw.pid
    tgid := raw.tgid
    cgroupId := raw.cgroupId
    dstIpNetworkOrder := raw.dstIp
    dstPort := raw.dstPort
    protocol := raw.proto
    actionTaken := raw.actionTaken
    comm := boundedString raw.comm 16 }

def asProcess (data : List UInt8) : SecurityEventVariant :=
  let raw := RawProcessEvent.read data
  .process {
    timestampNs := raw.timestampNs
    pid := raw.pid
    tgid := raw.tgid
    ppid := raw.ppid
    cgroupId := raw.cgroupId
    uid := raw.uid
    gid := raw.gid
    isPrivilegeEscalation := raw.isPrivilegeEscalation ≠ 0
    actionTaken := raw.actionTaken
    comm := boundedString raw.comm 16
    filename := boundedString raw.filename 256 }

/-- These are the three calls of the reader. -/
theorem dispatchEvent_eq {reader : RingBufferReader} (set : reader.userCallback = true) (data : List UInt8)
    (size : Nat) : reader.dispatchEvent data size =
      if size = sizeof RawSyscallEvent.layout then [asSyscall data]
      else if size = sizeof RawNetworkEvent.layout then [asNetwork data]
      else if size = sizeof RawProcessEvent.layout then [asProcess data]
      else [] := by
  unfold RingBufferReader.dispatchEvent
  rw [if_neg (not_not.mpr set)]
  rfl

def KernelEvent.delivered (event : KernelEvent) (padding : Nat → UInt8) : SecurityEventVariant :=
  match event with
  | .syscall _ => asSyscall (event.bytes padding)
  | .network _ => asNetwork (event.bytes padding)
  | .process _ => asProcess (event.bytes padding)

/-! The fields that name the task. -/

structure Identity where
  pid : UInt32
  tgid : UInt32
  cgroupId : UInt32
  deriving DecidableEq

def KernelEvent.identity : KernelEvent → Identity
  | .syscall e => ⟨e.pid, e.tgid, e.cgroupId⟩
  | .network e => ⟨e.pid, e.tgid, e.cgroupId⟩
  | .process e => ⟨e.pid, e.tgid, e.cgroupId⟩

def SecurityEventVariant.identity : SecurityEventVariant → Identity
  | .syscall e => ⟨e.pid, e.tgid, e.cgroupId⟩
  | .network e => ⟨e.pid, e.tgid, e.cgroupId⟩
  | .process e => ⟨e.pid, e.tgid, e.cgroupId⟩

/-- The fields that name the task stand at the same places in the syscall and network records. -/
theorem read_network (e : NetSecurityEvent) (padding : Nat → UInt8) :
    let raw := RawNetworkEvent.read ((KernelEvent.network e).bytes padding)
    raw.pid = e.pid ∧ raw.tgid = e.tgid ∧ raw.cgroupId = e.cgroupId := by
  have stored : ∀ i < 9, member RawNetworkEvent.layout ((KernelEvent.network e).bytes padding) i =
      e.fields.getD i [] := (KernelEvent.network e).member_bytes padding
  simp only [RawNetworkEvent.read, u32At]
  rw [stored 1 (by decide), stored 2 (by decide), stored 3 (by decide)]
  simp only [NetSecurityEvent.fields, List.getD_cons_zero, List.getD_cons_succ, u32_bytes, and_self]

theorem identity_delivered (event : KernelEvent) (padding : Nat → UInt8) :
    (event.delivered padding).identity = event.identity := by
  cases event with
  | syscall e => simp only [KernelEvent.delivered, asSyscall, read_syscall, SecurityEventVariant.identity,
      KernelEvent.identity]
  | network e =>
    obtain ⟨pid, tgid, cgroupId⟩ := read_network e padding
    simp only [KernelEvent.delivered, asNetwork, SecurityEventVariant.identity, KernelEvent.identity, pid, tgid, cgroupId]
  | process e => simp only [KernelEvent.delivered, asProcess, read_process, SecurityEventVariant.identity,
      KernelEvent.identity]

/-! The events of the programs. -/

def Hook.emits (task : Task) (ring : Ring) : Hook → Option KernelEvent
  | .sysEnter maps id => (maps.handleSysEnter task id ring.reserves).event.map .syscall
  | .connect4 maps ctx => (maps.aegisCgroupConnect4 task ctx ring.reserves).event.map .network
  | .execve maps ctx => (maps.handleExecveEnter task ctx ring).event.map .process

def Task.identity (task : Task) : Identity :=
  ⟨(task.pidTgid >>> 32).toUInt32, task.pidTgid.toUInt32, task.cgroupId.toUInt32⟩

theorem SysFilter.identity_event {maps : SysFilter} {task : Task} {id : UInt64} {reserved : Bool} {e : SecurityEvent}
    (emitted : (maps.handleSysEnter task id reserved).event = some e) :
    (KernelEvent.syscall e).identity = task.identity := by
  unfold handleSysEnter at emitted
  cases monitored : maps.aegisMonitoredCgroups.lookup task.cgroupId with
  | none => simp [monitored] at emitted
  | some value =>
    simp only [monitored] at emitted
    split at emitted
    · cases emitted
    · split at emitted
      · obtain ⟨-, same⟩ := Option.ite_none_right_eq_some.mp emitted
        cases same
        rfl
      · cases emitted

theorem NetFilter.identity_event {maps : NetFilter} {task : Task} {ctx : SockAddr} {reserved : Bool}
    {e : NetSecurityEvent} (emitted : (maps.aegisCgroupConnect4 task ctx reserved).event = some e) :
    (KernelEvent.network e).identity = task.identity := by
  unfold aegisCgroupConnect4 at emitted
  split at emitted
  · cases emitted
  · simp only at emitted
    split at emitted
    · obtain ⟨-, same⟩ := Option.ite_none_right_eq_some.mp emitted
      cases same
      rfl
    · cases emitted

theorem ProcessMonitor.identity_event {maps : ProcessMonitor} {task : Task} {ctx : ExecveContext} {ring : Ring}
    {e : ProcessExecEvent} (emitted : (maps.handleExecveEnter task ctx ring).event = some e) :
    (KernelEvent.process e).identity = task.identity := by
  unfold handleExecveEnter at emitted
  cases monitored : maps.aegisMonitoredCgroupsProc.lookup task.cgroupId with
  | none => simp [monitored] at emitted
  | some value =>
    simp only [monitored] at emitted
    split at emitted
    · cases emitted
    · split at emitted
      · cases emitted
      · cases emitted
        rfl

/-- All three programs fill in the task in the same way. -/
theorem identity_emitted {hook : Hook} {task : Task} {ring : Ring} {event : KernelEvent}
    (emitted : hook.emits task ring = some event) : event.identity = task.identity := by
  cases hook with
  | sysEnter maps id =>
    obtain ⟨e, found, rfl⟩ := Option.map_eq_some_iff.mp emitted
    exact SysFilter.identity_event found
  | connect4 maps ctx =>
    obtain ⟨e, found, rfl⟩ := Option.map_eq_some_iff.mp emitted
    exact NetFilter.identity_event found
  | execve maps ctx =>
    obtain ⟨e, found, rfl⟩ := Option.map_eq_some_iff.mp emitted
    exact ProcessMonitor.identity_event found

/-- `bpf_get_current_pid_tgid`. -/
def getCurrentPidTgid (t g : UInt32) : UInt64 := UInt64.ofNat (g.toNat * 2 ^ 32 + t.toNat)

theorem toNat_getCurrentPidTgid (t g : UInt32) : (getCurrentPidTgid t g).toNat = g.toNat * 2 ^ 32 + t.toNat := by
  have group := g.toNat_lt
  have thread := t.toNat_lt
  rw [getCurrentPidTgid, UInt64.toNat_ofNat']
  omega

theorem upper_half (t g : UInt32) : (getCurrentPidTgid t g >>> 32).toUInt32 = g := by
  have group := g.toNat_lt
  have thread := t.toNat_lt
  rw [← UInt32.toNat_inj, UInt64.toNat_toUInt32, UInt64.toNat_shiftRight, toNat_getCurrentPidTgid,
    show (32 : UInt64).toNat % 64 = 32 from rfl, Nat.shiftRight_eq_div_pow]
  omega

theorem lower_half (t g : UInt32) : (getCurrentPidTgid t g).toUInt32 = t := by
  rw [← UInt32.toNat_inj, UInt64.toNat_toUInt32, toNat_getCurrentPidTgid]
  have thread := t.toNat_lt
  omega

end Aegis.Ebpf

namespace Aegis.Runtime
open Library Ebpf

/-! Attribution. -/

/-- The comparison of an event's cgroup id, widened to 64 bits, with that of a live sandbox. -/
def Host.Matches (host : Host) (sandboxId : String) (event : SecurityEventVariant) : Prop :=
  event.identity.cgroupId.toUInt64 = host.getCgroupId sandboxId

/-- The event names the thread and its group, and among the live sandboxes it matches those in
the task's cgroup. -/
structure Attributed (host : Host) (t g : UInt32) (c : UInt64) (event : SecurityEventVariant) : Prop where
  pid : event.identity.pid = t
  tgid : event.identity.tgid = g
  sandbox : ∀ sandboxId ∈ host.cgroups, host.Matches sandboxId event ↔ host.getCgroupId sandboxId = c

/-- The part of a cgroup id that an event keeps. -/
def lowerHalf (c : UInt64) : UInt64 := c.toUInt32.toUInt64

theorem lowerHalf_eq_iff (c : UInt64) : lowerHalf c = c ↔ c.toNat < 2 ^ 32 := by
  rw [lowerHalf, ← UInt64.toNat_inj, UInt32.toNat_toUInt64, UInt64.toNat_toUInt32]
  exact Nat.mod_eq_iff_lt (by decide)

/-- Of two different ids each live sandbox may have neither. -/
theorem same_for_all_iff {P : String → Prop} {f : String → UInt64} (x y : UInt64) :
    (∀ sandboxId, P sandboxId → (x = f sandboxId ↔ f sandboxId = y)) ↔
      x = y ∨ ∀ sandboxId, P sandboxId → f sandboxId ≠ x ∧ f sandboxId ≠ y := by
  constructor
  · intro same
    by_cases equal : x = y
    · exact .inl equal
    · refine .inr fun sandboxId live => ⟨fun left => ?_, fun right => ?_⟩
      · exact equal (left.symm.trans ((same sandboxId live).mp left.symm))
      · exact equal (((same sandboxId live).mpr right).trans right)
  · rintro (rfl | apart) sandboxId live
    · exact eq_comm
    · obtain ⟨left, right⟩ := apart sandboxId live
      exact iff_of_false (fun same => left same.symm) right

/-- An event is put down to the right task and sandbox just if the task is the first thread of
its group and its cgroup id has at most 32 bits, or no live sandbox has that id or its lower
half. -/
theorem attributed_iff (host : Host) (t g : UInt32) (task : Task) (hook : Hook) (ring : Ring) (event : KernelEvent)
    (padding : Nat → UInt8) (current : task.pidTgid = getCurrentPidTgid t g)
    (emitted : hook.emits task ring = some event) :
    Attributed host t g task.cgroupId (event.delivered padding) ↔ t = g ∧
      (task.cgroupId.toNat < 2 ^ 32 ∨ ∀ sandboxId ∈ host.cgroups,
        host.getCgroupId sandboxId ≠ lowerHalf task.cgroupId ∧ host.getCgroupId sandboxId ≠ task.cgroupId) := by
  have named : (event.delivered padding).identity = ⟨g, t, task.cgroupId.toUInt32⟩ := by
    rw [identity_delivered, identity_emitted emitted, Task.identity, current, upper_half, lower_half]
  rw [← lowerHalf_eq_iff, ← same_for_all_iff]
  constructor
  · intro attributed
    have pid := attributed.pid
    have sandbox := attributed.sandbox
    unfold Host.Matches at sandbox
    rw [named] at pid sandbox
    exact ⟨pid.symm, sandbox⟩
  · rintro ⟨rfl, sandbox⟩
    refine ⟨by rw [named], by rw [named], ?_⟩
    unfold Host.Matches
    rw [named]
    exact sandbox

/-- An execve by a thread in a monitored cgroup. -/
def threadTask (t g : UInt32) (c : UInt64) : Task where
  cgroupId := c
  pidTgid := getCurrentPidTgid t g
  ktimeNs := 1
  comm := Vector.replicate 16 0

def threadHook (c : UInt64) : Hook :=
  .execve ⟨HashTable.empty.put c 1⟩ { uidGid := 0x3E8000003E8, parentTgid := 1, filename := .text [47, 98, 105, 110] }

/-- Two live sandboxes whose cgroup ids have the same lower half. -/
def twinHost : Host where
  files := fun _ => none
  cgroups := (∅ : Finmap fun _ : String => CgroupInfo).insert "low"
      { sandboxId := "low", cgroupPath := .parse "/low", cgroupId := 42, limits := {} }
    |>.insert "high" { sandboxId := "high", cgroupPath := .parse "/high", cgroupId := 0x10000002A, limits := {} }

theorem emits_threadHook (t g : UInt32) (c : UInt64) :
    ∃ event, (threadHook c).emits (threadTask t g c) {} = some event := by
  have monitored : (HashTable.empty.put c 1 : HashTable UInt64 UInt8 1024).lookup c = some 1 := by
    simp [HashTable.lookup_put, HashTable.room_empty]
  simp [threadHook, Hook.emits, ProcessMonitor.handleExecveEnter, threadTask, monitored]

theorem first_thread_attributed : ∃ event, (threadHook 42).emits (threadTask 7 7 42) {} = some event ∧
    Attributed twinHost 7 7 42 (event.delivered fun _ => 0) := by
  obtain ⟨event, emitted⟩ := emits_threadHook 7 7 42
  exact ⟨event, emitted, (attributed_iff twinHost 7 7 (threadTask 7 7 42) (threadHook 42) {} event _ rfl emitted).mpr
    ⟨rfl, .inl (by decide)⟩⟩

/-- Thread 8 of process 7 in the cgroup of the second sandbox is reported as thread 7 of
process 8, and put down to the first sandbox. -/
theorem thread_misattributed : ∃ event,
    (threadHook 0x10000002A).emits (threadTask 8 7 0x10000002A) {} = some event ∧
      (event.delivered fun _ => 0).identity = ⟨7, 8, 42⟩ ∧ twinHost.Matches "low" (event.delivered fun _ => 0) ∧
      ¬ twinHost.Matches "high" (event.delivered fun _ => 0) ∧
      ¬ Attributed twinHost 8 7 0x10000002A (event.delivered fun _ => 0) := by
  obtain ⟨event, emitted⟩ := emits_threadHook 8 7 0x10000002A
  have named : (event.delivered fun _ => 0).identity = ⟨7, 8, 42⟩ := by
    rw [identity_delivered, identity_emitted emitted]
    decide
  refine ⟨event, emitted, named, ?_, ?_, fun attributed => ?_⟩
  · rw [Host.Matches, named]
    decide
  · rw [Host.Matches, named]
    decide
  · have pid := attributed.pid
    rw [named] at pid
    exact absurd pid (by decide)

end Aegis.Runtime
