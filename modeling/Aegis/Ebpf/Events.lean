import Aegis.Library.Layout

/-! The event records of the three kernel programs, as their C structs lay them out.

Character arrays are bytes; the programs and the reader share the little-endian
x86-64 layout.
-/

set_option autoImplicit false

namespace Aegis.Ebpf
open Library.Layout

/-- `TASK_COMM_LEN` bytes. -/
abbrev Comm := Vector UInt8 16

/-- `MAX_PATH_LEN` bytes. -/
abbrev Filename := Vector UInt8 256

/-- `struct security_event` of sys_filter. -/
structure SecurityEvent where
  timestampNs : UInt64
  pid : UInt32
  tgid : UInt32
  cgroupId : UInt32
  syscallNr : UInt32
  comm : Comm
  actionTaken : UInt8
  deriving DecidableEq

/-- `struct net_security_event` of net_filter. -/
structure NetSecurityEvent where
  timestampNs : UInt64
  pid : UInt32
  tgid : UInt32
  cgroupId : UInt32
  dstIp : UInt32
  dstPort : UInt16
  proto : UInt8
  actionTaken : UInt8
  comm : Comm
  deriving DecidableEq

/-- `struct process_exec_event` of process_monitor. -/
structure ProcessExecEvent where
  timestampNs : UInt64
  pid : UInt32
  tgid : UInt32
  ppid : UInt32
  cgroupId : UInt32
  uid : UInt32
  gid : UInt32
  isPrivilegeEscalation : UInt8
  actionTaken : UInt8
  comm : Comm
  filename : Filename
  deriving DecidableEq

def SecurityEvent.layout : List Member := [.u64, .u32, .u32, .u32, .u32, .chars 16, .u8]

def NetSecurityEvent.layout : List Member :=
  [.u64, .u32, .u32, .u32, .u32, .u16, .u8, .u8, .chars 16]

def ProcessExecEvent.layout : List Member :=
  [.u64, .u32, .u32, .u32, .u32, .u32, .u32, .u8, .u8, .chars 16, .chars 256]

def SecurityEvent.fields (e : SecurityEvent) : List (List UInt8) :=
  [toBytes 8 e.timestampNs.toNat, toBytes 4 e.pid.toNat, toBytes 4 e.tgid.toNat,
    toBytes 4 e.cgroupId.toNat, toBytes 4 e.syscallNr.toNat, e.comm.toList,
    toBytes 1 e.actionTaken.toNat]

def NetSecurityEvent.fields (e : NetSecurityEvent) : List (List UInt8) :=
  [toBytes 8 e.timestampNs.toNat, toBytes 4 e.pid.toNat, toBytes 4 e.tgid.toNat,
    toBytes 4 e.cgroupId.toNat, toBytes 4 e.dstIp.toNat, toBytes 2 e.dstPort.toNat,
    toBytes 1 e.proto.toNat, toBytes 1 e.actionTaken.toNat, e.comm.toList]

def ProcessExecEvent.fields (e : ProcessExecEvent) : List (List UInt8) :=
  [toBytes 8 e.timestampNs.toNat, toBytes 4 e.pid.toNat, toBytes 4 e.tgid.toNat,
    toBytes 4 e.ppid.toNat, toBytes 4 e.cgroupId.toNat, toBytes 4 e.uid.toNat,
    toBytes 4 e.gid.toNat, toBytes 1 e.isPrivilegeEscalation.toNat,
    toBytes 1 e.actionTaken.toNat, e.comm.toList, e.filename.toList]

/-- A record as one of the programs submits it to its ring buffer. -/
inductive KernelEvent where
  | syscall (event : SecurityEvent)
  | network (event : NetSecurityEvent)
  | process (event : ProcessExecEvent)
  deriving DecidableEq

def KernelEvent.layout : KernelEvent → List Member
  | .syscall _ => SecurityEvent.layout
  | .network _ => NetSecurityEvent.layout
  | .process _ => ProcessExecEvent.layout

def KernelEvent.fields : KernelEvent → List (List UInt8)
  | .syscall e => e.fields
  | .network e => e.fields
  | .process e => e.fields

/-- The submitted bytes. The ring buffer's earlier content shows in the padding. -/
def KernelEvent.bytes (event : KernelEvent) (padding : Nat → UInt8) : List UInt8 :=
  encode event.layout padding event.fields

def KernelEvent.size (event : KernelEvent) : Nat := sizeof event.layout

theorem KernelEvent.fits (event : KernelEvent) : Fits event.layout event.fields := by
  cases event <;>
    simp [layout, fields, SecurityEvent.layout, SecurityEvent.fields, NetSecurityEvent.layout,
      NetSecurityEvent.fields, ProcessExecEvent.layout, ProcessExecEvent.fields, Member.size]

theorem KernelEvent.length_bytes (event : KernelEvent) (padding : Nat → UInt8) :
    (event.bytes padding).length = event.size :=
  length_encode event.fits padding

/-- A member read from the submitted bytes is the field that was stored. -/
theorem KernelEvent.member_bytes (event : KernelEvent) (padding : Nat → UInt8) (i : Nat)
    (bound : i < event.layout.length) :
    member event.layout (event.bytes padding) i = event.fields.getD i [] :=
  member_encode event.fits padding i bound

end Aegis.Ebpf
