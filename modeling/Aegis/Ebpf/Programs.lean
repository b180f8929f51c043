import Aegis.Ebpf.Events
import Aegis.Library.BoundedMap

/-! The kernel programs and the maps they consult. -/

set_option autoImplicit false

namespace Aegis.Ebpf
open Library

/-- The policy maps of sys_filter. -/
structure SysFilter where
  aegisMonitoredCgroups : HashTable UInt64 UInt8 1024
  aegisSyscallPolicy : ArrayTable UInt8 512

/-- The policy map of net_filter. -/
structure NetFilter where
  aegisBlockedIps : HashTable UInt32 UInt8 4096

/-- The policy map of process_monitor. -/
structure ProcessMonitor where
  aegisMonitoredCgroupsProc : HashTable UInt64 UInt8 1024

/-- The maps as loading leaves them: hash maps empty, arrays zeroed. -/
def SysFilter.fresh : SysFilter := ⟨.empty, .filled 0⟩

def NetFilter.fresh : NetFilter := ⟨.empty⟩

def ProcessMonitor.fresh : ProcessMonitor := ⟨.empty⟩

/-- What the helper functions tell a program about the current task. -/
structure Task where
  cgroupId : UInt64
  pidTgid : UInt64
  ktimeNs : UInt64
  comm : Comm

/-- The effects of one run of sys_filter. -/
structure SysEnterEffects where
  sigkill : Bool
  event : Option SecurityEvent

/-- `id` is the tracepoint's `long id`; `reserved` says whether the ring buffer had room. -/
def SysFilter.handleSysEnter (maps : SysFilter) (task : Task) (id : UInt64) (reserved : Bool) :
    SysEnterEffects :=
  match maps.aegisMonitoredCgroups.lookup task.cgroupId with
  | none => ⟨false, none⟩
  | some isMonitored =>
      if isMonitored = 0 then ⟨false, none⟩
      else
        let syscallNr := id.toUInt32
        if maps.aegisSyscallPolicy.lookup syscallNr.toNat = some 1 then
          { sigkill := true
            event := if reserved then some {
                timestampNs := task.ktimeNs
                pid := (task.pidTgid >>> 32).toUInt32
                tgid := task.pidTgid.toUInt32
                cgroupId := task.cgroupId.toUInt32
                syscallNr := syscallNr
                actionTaken := 1
                comm := task.comm }
              else none }
        else ⟨false, none⟩

/-- The fields of `struct bpf_sock_addr` that net_filter reads. -/
structure SockAddr where
  family : UInt32
  userIp4 : UInt32
  userPort : UInt32
  protocol : UInt32

def afInet : UInt32 := 2

def bswap32 (x : UInt32) : UInt32 :=
  (x <<< 24) ||| ((x &&& (0xFF00 : UInt32)) <<< 8) ||| ((x >>> 8) &&& (0xFF00 : UInt32)) ||| (x >>> 24)

def bswap16 (x : UInt16) : UInt16 := (x <<< 8) ||| (x >>> 8)

-- Host and BPF are little-endian, so both conversions swap.
def bpfHtonl (x : UInt32) : UInt32 := bswap32 x

def bpfNtohs (x : UInt16) : UInt16 := bswap16 x

/-- The result of one run of net_filter: 0 rejects the connect, 1 lets it pass. -/
structure ConnectEffects where
  result : Nat
  event : Option NetSecurityEvent

def NetFilter.aegisCgroupConnect4 (maps : NetFilter) (task : Task) (ctx : SockAddr) (reserved : Bool) :
    ConnectEffects :=
  if ctx.family ≠ afInet then ⟨1, none⟩
  else
    let dstIp := ctx.userIp4
    let dstPort := bpfNtohs ctx.userPort.toUInt16
    let metadataIp := bpfHtonl 0xA9FEA9FE
    let isBlocked := dstIp = metadataIp ∨ maps.aegisBlockedIps.lookup dstIp = some 1
    if isBlocked then
      { result := 0
        event := if reserved then some {
            timestampNs := task.ktimeNs
            pid := (task.pidTgid >>> 32).toUInt32
            tgid := task.pidTgid.toUInt32
            cgroupId := task.cgroupId.toUInt32
            dstIp := dstIp
            dstPort := dstPort
            proto := ctx.protocol.toUInt8
            actionTaken := 1
            comm := task.comm }
          else none }
    else ⟨1, none⟩

/-- A task is killed exactly when its cgroup is monitored and the number is blocked. -/
theorem SysFilter.sigkill_iff (maps : SysFilter) (task : Task) (id : UInt64) (reserved : Bool) :
    (maps.handleSysEnter task id reserved).sigkill = true ↔
      (∃ value, maps.aegisMonitoredCgroups.lookup task.cgroupId = some value ∧ value ≠ 0) ∧
        maps.aegisSyscallPolicy.lookup id.toUInt32.toNat = some 1 := by
  unfold handleSysEnter
  generalize id.toUInt32 = syscallNr
  cases monitored : maps.aegisMonitoredCgroups.lookup task.cgroupId with
  | none => simp
  | some value =>
    by_cases zero : value = 0
    · simp [zero]
    · by_cases blocked : maps.aegisSyscallPolicy.lookup syscallNr.toNat = some 1
      · simp [zero, blocked]
      · simp [zero, blocked]

theorem NetFilter.rejects_iff (maps : NetFilter) (task : Task) {ctx : SockAddr} (reserved : Bool)
    (inet : ctx.family = afInet) :
    (maps.aegisCgroupConnect4 task ctx reserved).result = 0 ↔
      ctx.userIp4 = bpfHtonl 0xA9FEA9FE ∨ maps.aegisBlockedIps.lookup ctx.userIp4 = some 1 := by
  unfold aegisCgroupConnect4
  rw [if_neg (by simp [inet])]
  by_cases blocked : ctx.userIp4 = bpfHtonl 0xA9FEA9FE ∨ maps.aegisBlockedIps.lookup ctx.userIp4 = some 1
  · simp [blocked]
  · simp [blocked]

end Aegis.Ebpf
