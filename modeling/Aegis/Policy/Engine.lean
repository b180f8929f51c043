import Mathlib.Data.Finmap
import Aegis.Status

/-! The policy engine: named policies, the syscall name table and the two evaluators. -/

set_option autoImplicit false

namespace Aegis.Policy

/-- The two sets are listed in the order the source iterates over them. -/
structure SyscallPolicyRule where
  allowedSyscalls : List UInt32 := []
  blockedSyscalls : List UInt32 := []
  defaultAllow : Bool := false
  deriving DecidableEq, Repr

structure NetworkPolicyRule where
  blockAllEgress : Bool := false
  blockCloudMetadata : Bool := true
  blockedCidrs : List String := []
  blockedIpsNetworkOrder : List UInt32 := []
  deriving DecidableEq, Repr

structure SecurityPolicy where
  policyName : String := ""
  syscallRule : SyscallPolicyRule := {}
  networkRule : NetworkPolicyRule := {}
  maxExecutionTimeSec : UInt32 := 30
  deriving DecidableEq, Repr

/-- `inet_addr` of a dotted quad on a little-endian host: the first byte is the lowest. -/
def inetAddr (a b c d : UInt8) : UInt32 :=
  a.toUInt32 ||| (b.toUInt32 <<< 8) ||| (c.toUInt32 <<< 16) ||| (d.toUInt32 <<< 24)

/-- The cloud metadata endpoint, 169.254.169.254. -/
def metadataIp : UInt32 := inetAddr 169 254 169 254

def syscallNameMap : List (String × UInt32) := [
  ("read", 0), ("write", 1), ("open", 2), ("close", 3), ("stat", 4), ("fstat", 5),
  ("lstat", 6), ("poll", 7), ("lseek", 8), ("mmap", 9), ("mprotect", 10), ("munmap", 11),
  ("brk", 12), ("rt_sigaction", 13), ("rt_sigprocmask", 14), ("rt_sigreturn", 15),
  ("ioctl", 16), ("pread64", 17), ("pwrite64", 18), ("readv", 19), ("writev", 20),
  ("access", 21), ("pipe", 22), ("select", 23), ("sched_yield", 24), ("mremap", 25),
  ("msync", 26), ("mincore", 27), ("madvise", 28), ("dup", 32), ("dup2", 33),
  ("pause", 34), ("nanosleep", 35), ("getpid", 39), ("sendfile", 40), ("socket", 41),
  ("connect", 42), ("accept", 43), ("sendto", 44), ("recvfrom", 45), ("sendmsg", 46),
  ("recvmsg", 47), ("shutdown", 48), ("bind", 49), ("listen", 50), ("getsockname", 51),
  ("getpeername", 52), ("socketpair", 53), ("setsockopt", 54), ("getsockopt", 55),
  ("clone", 56), ("fork", 57), ("vfork", 58), ("execve", 59), ("exit", 60), ("wait4", 61),
  ("kill", 62), ("uname", 63), ("fcntl", 72), ("flock", 73), ("fsync", 74), ("fdatasync", 75),
  ("getcwd", 79), ("chdir", 80), ("mkdir", 83), ("rmdir", 84), ("unlink", 87),
  ("chmod", 90), ("fchmod", 91), ("chown", 92), ("gettimeofday", 96), ("getrlimit", 97),
  ("getrusage", 98), ("sysinfo", 99), ("ptrace", 101), ("getuid", 102), ("getgid", 104),
  ("setuid", 105), ("setgid", 106), ("geteuid", 107), ("getegid", 108), ("sigaltstack", 131),
  ("statfs", 137), ("fstatfs", 138), ("prctl", 157), ("arch_prctl", 158), ("setrlimit", 160),
  ("chroot", 161), ("sync", 162), ("reboot", 169), ("init_module", 175), ("delete_module", 176),
  ("gettid", 186), ("futex", 202), ("sched_setaffinity", 203), ("sched_getaffinity", 204),
  ("epoll_create", 213), ("epoll_ctl", 233), ("epoll_wait", 232), ("set_tid_address", 218),
  ("clock_gettime", 228), ("clock_getres", 229), ("clock_nanosleep", 230), ("exit_group", 231),
  ("tgkill", 234), ("openat", 257), ("mkdirat", 258), ("mknodat", 259), ("fchownat", 260),
  ("fstatat", 262), ("unlinkat", 263), ("renameat", 264), ("fchmodat", 268), ("faccessat", 269),
  ("pselect6", 270), ("ppoll", 271), ("unshare", 272), ("splice", 275), ("epoll_pwait", 281),
  ("timerfd_create", 283), ("eventfd", 284), ("fallocate", 285), ("timerfd_settime", 286),
  ("accept4", 288), ("signalfd4", 289), ("eventfd2", 290), ("epoll_create1", 291), ("dup3", 292),
  ("pipe2", 293), ("inotify_init1", 294), ("preadv", 295), ("pwritev", 296), ("prlimit64", 302),
  ("name_to_handle_at", 303), ("open_by_handle_at", 304), ("getrandom", 318), ("memfd_create", 319),
  ("bpf", 321), ("execveat", 322), ("userfaultfd", 323), ("copy_file_range", 326), ("statx", 332),
  ("io_uring_setup", 425), ("io_uring_enter", 426), ("io_uring_register", 427), ("openat2", 437),
  ("faccessat2", 439), ("epoll_pwait2", 441), ("landlock_create_ruleset", 444),
  ("landlock_restrict_self", 445)]

def resolveSyscallName (syscallName : String) : Option UInt32 := syscallNameMap.lookup syscallName

/-- Names the table does not have are skipped. -/
def insertResolved (names : List String) (numbers : List UInt32) : List UInt32 :=
  names.foldl (fun set sysName => match resolveSyscallName sysName with
    | some sysNr => set.insert sysNr
    | none => set) numbers

theorem mem_insertResolved {syscallNr : UInt32} (names : List String) (numbers : List UInt32) :
    syscallNr ∈ insertResolved names numbers ↔
      syscallNr ∈ numbers ∨ ∃ sysName ∈ names, resolveSyscallName sysName = some syscallNr := by
  unfold insertResolved
  induction names generalizing numbers with
  | nil => simp
  | cons sysName names ih =>
    rw [List.foldl_cons, ih]
    cases resolved : resolveSyscallName sysName with
    | none => simp [resolved]
    | some sysNr =>
      simp only [List.mem_insert_iff, List.exists_mem_cons_iff, resolved, Option.some.injEq]
      tauto

structure PolicyEngine where
  policies : Finmap fun _ : String => SecurityPolicy := ∅

namespace PolicyEngine

def registerPolicy (engine : PolicyEngine) (policy : SecurityPolicy) : Status × PolicyEngine :=
  (.success, { engine with policies := engine.policies.insert policy.policyName policy })

def getPolicy (engine : PolicyEngine) (policyName : String) : Option SecurityPolicy :=
  engine.policies.lookup policyName

def evalSyscall (engine : PolicyEngine) (policyName : String) (syscallNr : UInt32) : Bool :=
  match engine.policies.lookup policyName with
  | none => false
  | some policy =>
      let rule := policy.syscallRule
      if syscallNr ∈ rule.blockedSyscalls then false
      else if syscallNr ∈ rule.allowedSyscalls then true
      else rule.defaultAllow

def evalNetworkEgress (engine : PolicyEngine) (policyName : String) (ipv4NetworkOrder : UInt32) : Bool :=
  match engine.policies.lookup policyName with
  | none => false
  | some policy =>
      let netRule := policy.networkRule
      if netRule.blockAllEgress then false
      else if netRule.blockCloudMetadata ∧ ipv4NetworkOrder = metadataIp then false
      else if ipv4NetworkOrder ∈ netRule.blockedIpsNetworkOrder then false
      else true

end PolicyEngine

def strictPython : SecurityPolicy where
  policyName := "strict_python"
  maxExecutionTimeSec := 15
  networkRule := { blockAllEgress := false, blockCloudMetadata := true }
  syscallRule := {
    allowedSyscalls := insertResolved [
      "read", "write", "openat", "close", "fstat", "mmap", "mprotect", "munmap", "brk",
      "rt_sigaction", "rt_sigprocmask", "ioctl", "access", "futex", "exit_group",
      "epoll_create1", "epoll_ctl", "epoll_wait", "getrandom", "statx", "fcntl",
      "getcwd", "getuid", "getgid", "geteuid", "getegid", "gettid", "lseek"] []
    blockedSyscalls := insertResolved [
      "ptrace", "bpf", "init_module", "delete_module", "kexec_load", "pivot_root",
      "reboot", "chroot", "sysfs", "iopl", "ioperm"] []
    defaultAllow := false }

def PolicyEngine.registerDefaultStrictPythonPolicy (engine : PolicyEngine) : Status × PolicyEngine :=
  engine.registerPolicy strictPython

/-- A constructed engine knows the strict Python policy and no other. -/
def PolicyEngine.init : PolicyEngine := (registerDefaultStrictPythonPolicy {}).2

-- kexec_load, pivot_root, sysfs, iopl and ioperm are not in the name table.
example : strictPython.syscallRule.blockedSyscalls = [161, 169, 176, 175, 321, 101] := by decide

namespace PolicyEngine

variable {engine : PolicyEngine} {policyName : String} {policy : SecurityPolicy}

theorem evalSyscall_false_iff (registered : engine.getPolicy policyName = some policy) (syscallNr : UInt32) :
    engine.evalSyscall policyName syscallNr = false ↔
      syscallNr ∈ policy.syscallRule.blockedSyscalls ∨
        (syscallNr ∉ policy.syscallRule.allowedSyscalls ∧ policy.syscallRule.defaultAllow = false) := by
  unfold getPolicy at registered
  by_cases blocked : syscallNr ∈ policy.syscallRule.blockedSyscalls
  · simp [evalSyscall, registered, blocked]
  · by_cases allowed : syscallNr ∈ policy.syscallRule.allowedSyscalls
    · simp [evalSyscall, registered, blocked, allowed]
    · simp [evalSyscall, registered, blocked, allowed]

theorem evalNetworkEgress_false_iff (registered : engine.getPolicy policyName = some policy) (ipv4 : UInt32) :
    engine.evalNetworkEgress policyName ipv4 = false ↔
      policy.networkRule.blockAllEgress = true ∨
        (policy.networkRule.blockCloudMetadata = true ∧ ipv4 = metadataIp) ∨
        ipv4 ∈ policy.networkRule.blockedIpsNetworkOrder := by
  unfold getPolicy at registered
  by_cases all : policy.networkRule.blockAllEgress = true
  · simp [evalNetworkEgress, registered, all]
  · by_cases endpoint : policy.networkRule.blockCloudMetadata = true ∧ ipv4 = metadataIp
    · simp [evalNetworkEgress, registered, endpoint]
    · by_cases listed : ipv4 ∈ policy.networkRule.blockedIpsNetworkOrder
      · simp [evalNetworkEgress, registered, listed]
      · simp [evalNetworkEgress, registered, all, endpoint, listed]

end PolicyEngine

end Aegis.Policy
