import Aegis.Ebpf.Events

/-! The ring-buffer reader: raw records in, typed events out.

The reader is handed a record's bytes and its size, and nothing else. It takes the
size for the kind of the record. The kernel's `security_event` and `net_security_event`
are both 48 bytes once padded, so the first comparison of `dispatchEvent` claims the
records of both.
-/

set_option autoImplicit false

namespace Aegis.Ebpf
open Library.Layout

/-- The C++ mirror of `security_event`. -/
structure RawSyscallEvent where
  timestampNs : UInt64
  pid : UInt32
  tgid : UInt32
  cgroupId : UInt32
  syscallNr : UInt32
  comm : List UInt8
  actionTaken : UInt8

/-- The C++ mirror of `net_security_event`. -/
structure RawNetworkEvent where
  timestampNs : UInt64
  pid : UInt32
  tgid : UInt32
  cgroupId : UInt32
  dstIp : UInt32
  dstPort : UInt16
  proto : UInt8
  actionTaken : UInt8
  comm : List UInt8

/-- The C++ mirror of `process_exec_event`. -/
structure RawProcessEvent where
  timestampNs : UInt64
  pid : UInt32
  tgid : UInt32
  ppid : UInt32
  cgroupId : UInt32
  uid : UInt32
  gid : UInt32
  isPrivilegeEscalation : UInt8
  actionTaken : UInt8
  comm : List UInt8
  filename : List UInt8

def RawSyscallEvent.layout : List Member := [.u64, .u32, .u32, .u32, .u32, .chars 16, .u8]

def RawNetworkEvent.layout : List Member :=
  [.u64, .u32, .u32, .u32, .u32, .u16, .u8, .u8, .chars 16]

def RawProcessEvent.layout : List Member :=
  [.u64, .u32, .u32, .u32, .u32, .u32, .u32, .u8, .u8, .chars 16, .chars 256]

section
variable (layout : List Member) (data : List UInt8) (i : Nat)

def u8At : UInt8 := UInt8.ofNat (ofBytes (member layout data i))
def u16At : UInt16 := UInt16.ofNat (ofBytes (member layout data i))
def u32At : UInt32 := UInt32.ofNat (ofBytes (member layout data i))
def u64At : UInt64 := UInt64.ofNat (ofBytes (member layout data i))

end

def RawSyscallEvent.read (data : List UInt8) : RawSyscallEvent where
  timestampNs := u64At layout data 0
  pid := u32At layout data 1
  tgid := u32At layout data 2
  cgroupId := u32At layout data 3
  syscallNr := u32At layout data 4
  comm := member layout data 5
  actionTaken := u8At layout data 6

def RawNetworkEvent.read (data : List UInt8) : RawNetworkEvent where
  timestampNs := u64At layout data 0
  pid := u32At layout data 1
  tgid := u32At layout data 2
  cgroupId := u32At layout data 3
  dstIp := u32At layout data 4
  dstPort := u16At layout data 5
  proto := u8At layout data 6
  actionTaken := u8At layout data 7
  comm := member layout data 8

def RawProcessEvent.read (data : List UInt8) : RawProcessEvent where
  timestampNs := u64At layout data 0
  pid := u32At layout data 1
  tgid := u32At layout data 2
  ppid := u32At layout data 3
  cgroupId := u32At layout data 4
  uid := u32At layout data 5
  gid := u32At layout data 6
  isPrivilegeEscalation := u8At layout data 7
  actionTaken := u8At layout data 8
  comm := member layout data 9
  filename := member layout data 10

/-- The event handed to the user's callback. A `std::string` is its bytes. -/
structure SecuritySyscallEvent where
  timestampNs : UInt64
  pid : UInt32
  tgid : UInt32
  cgroupId : UInt32
  syscallNr : UInt32
  comm : List UInt8
  actionTaken : UInt8
  deriving DecidableEq

structure SecurityNetworkEvent where
  timestampNs : UInt64
  pid : UInt32
  tgid : UInt32
  cgroupId : UInt32
  dstIpNetworkOrder : UInt32
  dstPort : UInt16
  protocol : UInt8
  actionTaken : UInt8
  comm : List UInt8
  deriving DecidableEq

structure SecurityProcessEvent where
  timestampNs : UInt64
  pid : UInt32
  tgid : UInt32
  ppid : UInt32
  cgroupId : UInt32
  uid : UInt32
  gid : UInt32
  isPrivilegeEscalation : Bool
  actionTaken : UInt8
  comm : List UInt8
  filename : List UInt8
  deriving DecidableEq

inductive SecurityEventVariant where
  | syscall (event : SecuritySyscallEvent)
  | network (event : SecurityNetworkEvent)
  | process (event : SecurityProcessEvent)
  deriving DecidableEq

def strnlen (s : List UInt8) (limit : Nat) : Nat := ((s.take limit).takeWhile (· ≠ 0)).length

/-- `std::string(s, strnlen(s, limit))`. -/
def boundedString (s : List UInt8) (limit : Nat) : List UInt8 := s.take (strnlen s limit)

/-- The reader, as far as an incoming record sees it. -/
structure RingBufferReader where
  userCallback : Bool
  deriving DecidableEq

/-- The calls made to the user's callback for one record. -/
def RingBufferReader.dispatchEvent (reader : RingBufferReader) (data : List UInt8) (size : Nat) :
    List SecurityEventVariant :=
  if ¬ reader.userCallback then []
  else if size = sizeof RawSyscallEvent.layout then
    let raw := RawSyscallEvent.read data
    [.syscall {
      timestampNs := raw.timestampNs
      pid := raw.pid
      tgid := raw.tgid
      cgroupId := raw.cgroupId
      syscallNr := raw.syscallNr
      comm := boundedString raw.comm 16
      actionTaken := raw.actionTaken }]
  else if size = sizeof RawNetworkEvent.layout then
    let raw := RawNetworkEvent.read data
    [.network {
      timestampNs := raw.timestampNs
      pid := raw.pid
      tgid := raw.tgid
      cgroupId := raw.cgroupId
      dstIpNetworkOrder := raw.dstIp
      dstPort := raw.dstPort
      protocol := raw.proto
      actionTaken := raw.actionTaken
      comm := boundedString raw.comm 16 }]
  else if size = sizeof RawProcessEvent.layout then
    let raw := RawProcessEvent.read data
    [.process {
      timestampNs := raw.timestampNs
      pid := raw.pid
      tgid := raw.tgid
      ppid := raw.ppid
      cgroupId := raw.cgroupId
      uid := raw.uid
      gid := raw.gid
      isPrivilegeEscalation := raw.isPrivilegeEscalation ≠ 0
      actionTaken := raw.actionTaken
      comm := boundedString raw.comm 16
      filename := boundedString raw.filename 256 }]
  else []

/-- The bridge libbpf calls. Its C result is 0 whatever happens. -/
def rawSampleCallback (ctx : Option RingBufferReader) (data : Option (List UInt8)) (size : Nat) :
    List SecurityEventVariant :=
  match ctx, data with
  | some reader, some bytes => if size = 0 then [] else reader.dispatchEvent bytes size
  | _, _ => []

/-- A character array up to its first NUL, or all of it. -/
def text (chars : List UInt8) : List UInt8 := chars.takeWhile (· ≠ 0)

/-- The delivered event has the kind of the emitted record and every field of it. -/
def SecurityEventVariant.Carries : SecurityEventVariant → KernelEvent → Prop
  | .syscall d, .syscall e =>
      d.timestampNs = e.timestampNs ∧ d.pid = e.pid ∧ d.tgid = e.tgid ∧ d.cgroupId = e.cgroupId ∧
      d.syscallNr = e.syscallNr ∧ d.comm = text e.comm.toList ∧ d.actionTaken = e.actionTaken
  | .network d, .network e =>
      d.timestampNs = e.timestampNs ∧ d.pid = e.pid ∧ d.tgid = e.tgid ∧ d.cgroupId = e.cgroupId ∧
      d.dstIpNetworkOrder = e.dstIp ∧ d.dstPort = e.dstPort ∧ d.protocol = e.proto ∧
      d.actionTaken = e.actionTaken ∧ d.comm = text e.comm.toList
  | .process d, .process e =>
      d.timestampNs = e.timestampNs ∧ d.pid = e.pid ∧ d.tgid = e.tgid ∧ d.ppid = e.ppid ∧
      d.cgroupId = e.cgroupId ∧ d.uid = e.uid ∧ d.gid = e.gid ∧
      (if d.isPrivilegeEscalation then 1 else 0) = e.isPrivilegeEscalation ∧
      d.actionTaken = e.actionTaken ∧ d.comm = text e.comm.toList ∧ d.filename = text e.filename.toList
  | _, _ => False

/-- The records the reader can hand on unchanged: no network record, and a flag byte
that is a truth value. -/
def KernelEvent.Transportable : KernelEvent → Prop
  | .syscall _ => True
  | .network _ => False
  | .process e => e.isPrivilegeEscalation = 0 ∨ e.isPrivilegeEscalation = 1

theorem boundedString_eq_text (chars : List UInt8) (limit : Nat) (fits : chars.length = limit) :
    boundedString chars limit = text chars := by
  unfold boundedString strnlen text
  rw [List.take_of_length_le (Nat.le_of_eq fits)]
  exact (List.prefix_iff_eq_take.mp (List.takeWhile_prefix _)).symm

theorem u8_bytes (x : UInt8) : UInt8.ofNat (ofBytes (toBytes 1 x.toNat)) = x := by
  rw [ofBytes_toBytes_of_lt (by simpa using x.toNat_lt), UInt8.ofNat_toNat]

theorem u32_bytes (x : UInt32) : UInt32.ofNat (ofBytes (toBytes 4 x.toNat)) = x := by
  rw [ofBytes_toBytes_of_lt (by simpa using x.toNat_lt), UInt32.ofNat_toNat]

theorem u64_bytes (x : UInt64) : UInt64.ofNat (ofBytes (toBytes 8 x.toNat)) = x := by
  rw [ofBytes_toBytes_of_lt (by simpa using x.toNat_lt), UInt64.ofNat_toNat]

theorem read_syscall (e : SecurityEvent) (padding : Nat → UInt8) :
    RawSyscallEvent.read ((KernelEvent.syscall e).bytes padding) =
      ⟨e.timestampNs, e.pid, e.tgid, e.cgroupId, e.syscallNr, e.comm.toList, e.actionTaken⟩ := by
  have stored : ∀ i < 7, member RawSyscallEvent.layout ((KernelEvent.syscall e).bytes padding) i =
      e.fields.getD i [] := (KernelEvent.syscall e).member_bytes padding
  simp only [RawSyscallEvent.read, u8At, u32At, u64At]
  rw [stored 0 (by decide), stored 1 (by decide), stored 2 (by decide), stored 3 (by decide),
    stored 4 (by decide), stored 5 (by decide), stored 6 (by decide)]
  simp only [SecurityEvent.fields, List.getD_cons_zero, List.getD_cons_succ, u8_bytes, u32_bytes,
    u64_bytes]

theorem read_process (e : ProcessExecEvent) (padding : Nat → UInt8) :
    RawProcessEvent.read ((KernelEvent.process e).bytes padding) =
      ⟨e.timestampNs, e.pid, e.tgid, e.ppid, e.cgroupId, e.uid, e.gid, e.isPrivilegeEscalation,
        e.actionTaken, e.comm.toList, e.filename.toList⟩ := by
  have stored : ∀ i < 11, member RawProcessEvent.layout ((KernelEvent.process e).bytes padding) i =
      e.fields.getD i [] := (KernelEvent.process e).member_bytes padding
  simp only [RawProcessEvent.read, u8At, u32At, u64At]
  rw [stored 0 (by decide), stored 1 (by decide), stored 2 (by decide), stored 3 (by decide),
    stored 4 (by decide), stored 5 (by decide), stored 6 (by decide), stored 7 (by decide),
    stored 8 (by decide), stored 9 (by decide), stored 10 (by decide)]
  simp only [ProcessExecEvent.fields, List.getD_cons_zero, List.getD_cons_succ, u8_bytes, u32_bytes,
    u64_bytes]

-- The collision: two kinds, one size. The third kind is told apart.
theorem size_syscall : sizeof RawSyscallEvent.layout = 48 := by decide

theorem size_network : sizeof RawNetworkEvent.layout = 48 := by decide

theorem size_process : sizeof RawProcessEvent.layout = 312 := by decide

theorem dispatch_syscall {reader : RingBufferReader} (set : reader.userCallback = true)
    (e : SecurityEvent) (padding : Nat → UInt8) :
    rawSampleCallback (some reader) (some ((KernelEvent.syscall e).bytes padding))
        (KernelEvent.syscall e).size =
      [.syscall ⟨e.timestampNs, e.pid, e.tgid, e.cgroupId, e.syscallNr, text e.comm.toList,
        e.actionTaken⟩] := by
  have size : (KernelEvent.syscall e).size = sizeof RawSyscallEvent.layout := rfl
  have comm : boundedString e.comm.toList 16 = text e.comm.toList :=
    boundedString_eq_text _ _ (by simp)
  simp [rawSampleCallback, RingBufferReader.dispatchEvent, set, size, size_syscall, read_syscall, comm]

/-- Whatever a network record holds, it is announced as a system call. -/
theorem dispatch_network {reader : RingBufferReader} (set : reader.userCallback = true)
    (e : NetSecurityEvent) (padding : Nat → UInt8) :
    ∃ event, rawSampleCallback (some reader) (some ((KernelEvent.network e).bytes padding))
      (KernelEvent.network e).size = [.syscall event] := by
  have size : (KernelEvent.network e).size = sizeof RawSyscallEvent.layout :=
    size_network.trans size_syscall.symm
  simp [rawSampleCallback, RingBufferReader.dispatchEvent, set, size, size_syscall]

theorem dispatch_process {reader : RingBufferReader} (set : reader.userCallback = true)
    (e : ProcessExecEvent) (padding : Nat → UInt8) :
    rawSampleCallback (some reader) (some ((KernelEvent.process e).bytes padding))
        (KernelEvent.process e).size =
      [.process ⟨e.timestampNs, e.pid, e.tgid, e.ppid, e.cgroupId, e.uid, e.gid,
        e.isPrivilegeEscalation ≠ 0, e.actionTaken, text e.comm.toList, text e.filename.toList⟩] := by
  have size : (KernelEvent.process e).size = 312 := size_process
  have comm : boundedString e.comm.toList 16 = text e.comm.toList :=
    boundedString_eq_text _ _ (by simp)
  have filename : boundedString e.filename.toList 256 = text e.filename.toList :=
    boundedString_eq_text _ _ (by simp)
  simp [rawSampleCallback, RingBufferReader.dispatchEvent, set, size, size_syscall, size_network,
    size_process, read_process, comm, filename]

/-- The reader calls back once with the emitted event exactly when the record is not a
network record and its flag byte, if it has one, is 0 or 1. -/
theorem transport_faithful_iff {reader : RingBufferReader} (set : reader.userCallback = true)
    (event : KernelEvent) (padding : Nat → UInt8) :
    (∃ delivered, rawSampleCallback (some reader) (some (event.bytes padding)) event.size = [delivered] ∧
      delivered.Carries event) ↔ event.Transportable := by
  cases event with
  | syscall e =>
    rw [dispatch_syscall set]
    simp [SecurityEventVariant.Carries, KernelEvent.Transportable]
  | network e =>
    obtain ⟨event, called⟩ := dispatch_network set e padding
    rw [called]
    simp [SecurityEventVariant.Carries, KernelEvent.Transportable]
  | process e =>
    rw [dispatch_process set]
    by_cases clear : e.isPrivilegeEscalation = 0
    · simp [SecurityEventVariant.Carries, KernelEvent.Transportable, clear]
    · simp [SecurityEventVariant.Carries, KernelEvent.Transportable, clear]
      exact eq_comm

/-- A blocked connect to the metadata address, as net_filter reports it. -/
def metadataAlert : NetSecurityEvent where
  timestampNs := 1
  pid := 7
  tgid := 7
  cgroupId := 42
  dstIp := 0xFEA9FEA9
  dstPort := 80
  proto := 6
  actionTaken := 1
  comm := #v[99, 117, 114, 108, 0, 0, 0, 0, 0, 0, 0, 0, 0, 0, 0, 0]

/-- The alert arrives as system call 0xFEA9FEA9 of a process named after the port, with
the action it reports lost. -/
theorem network_alert_misread :
    rawSampleCallback (some ⟨true⟩) (some ((KernelEvent.network metadataAlert).bytes fun _ => 0))
        (KernelEvent.network metadataAlert).size = [.syscall ⟨1, 7, 7, 42, 0xFEA9FEA9, [80], 0⟩] ∧
      ¬ ∃ delivered, rawSampleCallback (some ⟨true⟩)
          (some ((KernelEvent.network metadataAlert).bytes fun _ => 0))
          (KernelEvent.network metadataAlert).size = [delivered] ∧
        delivered.Carries (.network metadataAlert) := by
  have called : rawSampleCallback (some ⟨true⟩)
      (some ((KernelEvent.network metadataAlert).bytes fun _ => 0))
      (KernelEvent.network metadataAlert).size = [.syscall ⟨1, 7, 7, 42, 0xFEA9FEA9, [80], 0⟩] := by
    decide
  refine ⟨called, ?_⟩
  rw [called]
  simp [SecurityEventVariant.Carries]

/-- A killed `ptrace`, as sys_filter reports it. -/
def ptraceAlert : SecurityEvent where
  timestampNs := 1
  pid := 7
  tgid := 7
  cgroupId := 42
  syscallNr := 101
  comm := #v[103, 100, 98, 0, 0, 0, 0, 0, 0, 0, 0, 0, 0, 0, 0, 0]
  actionTaken := 1

theorem ptrace_alert_arrives :
    ∃ delivered, rawSampleCallback (some ⟨true⟩)
        (some ((KernelEvent.syscall ptraceAlert).bytes fun _ => 0xFF))
        (KernelEvent.syscall ptraceAlert).size = [delivered] ∧
      delivered.Carries (.syscall ptraceAlert) :=
  (transport_faithful_iff rfl (.syscall ptraceAlert) fun _ => 0xFF).mpr trivial

end Aegis.Ebpf
