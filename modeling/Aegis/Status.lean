import Mathlib.Logic.Basic

/-! Status codes and enumerations of the core header, and the answers of a file query. -/

set_option autoImplicit false

namespace Aegis

inductive Status where
  | success
  | errMicroVMBootFailed
  | errSnapshotRestoreFailed
  | errEBPFProbeLoadFailed
  | errSyscallBlocked
  | errNetworkEgressBlocked
  | errAgentExecutionTimeout
  | errPolicyViolation
  | errCgroupQuotaExceeded
  | errInvalidSandboxID
  | errTAPInterfaceCreationFailed
  | errUnknown
  deriving DecidableEq, Repr

inductive RuntimeEnvironment where
  | unspecified
  | python311
  | bash
  | nodeJS
  deriving DecidableEq, Repr

inductive SandboxState where
  | initializing
  | prewarmed
  | running
  | terminating
  | terminated
  | violated
  deriving DecidableEq, Repr

/-- The answer of `std::filesystem::exists`, which throws on an error. -/
inductive Query where
  | yes
  | no
  | throws
  deriving DecidableEq, Repr

end Aegis
