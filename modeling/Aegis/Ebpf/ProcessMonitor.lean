import Aegis.Ebpf.Loader

/-! The third kernel program, and what the state of an event ring buffer can do to a verdict. -/

set_option autoImplicit false

namespace Aegis.Ebpf
open Library

/-- What user memory holds where `ctx->filename` points. -/
inductive UserString where
  | null
  | unreadable
  | text (bytes : List UInt8)

/-- What process_monitor reads besides the current task. -/
structure ExecveContext where
  uidGid : UInt64
  parentTgid : UInt32
  filename : UserString

/-- An event ring buffer as one run of a program meets it: whether a record can be reserved,
what its bytes held before, and the byte that stands in the place of `is_privilege_escalation`
when another producer has taken the record again after it was submitted. -/
structure Ring where
  reserves : Bool := true
  stale : Filename := Vector.replicate 256 0
  reused : Option UInt8 := none

/-- `bpf_probe_read_user_str` leaves what stands after the terminator. -/
def readFilename (filename : UserString) (stale : Filename) : Filename :=
  match filename with
  | .null => Vector.ofFn fun i => [0].getD i stale[i]
  | .unreadable => Vector.replicate 256 0
  | .text bytes =>
      let copied := (bytes.takeWhile (· ≠ 0)).take 255 ++ [0]
      Vector.ofFn fun i => copied.getD i stale[i]

/-- The effects of one run of process_monitor. -/
structure ExecveEffects where
  sigkill : Bool
  event : Option ProcessExecEvent

def ProcessMonitor.handleExecveEnter (maps : ProcessMonitor) (task : Task) (ctx : ExecveContext) (ring : Ring) :
    ExecveEffects :=
  match maps.aegisMonitoredCgroupsProc.lookup task.cgroupId with
  | none => ⟨false, none⟩
  | some isMonitored =>
      if isMonitored = 0 then ⟨false, none⟩
      -- without a record the program returns before it looks at the uid
      else if ring.reserves = false then ⟨false, none⟩
      else
        let uid := ctx.uidGid.toUInt32
        let event : ProcessExecEvent := {
          timestampNs := task.ktimeNs
          pid := (task.pidTgid >>> 32).toUInt32
          tgid := task.pidTgid.toUInt32
          ppid := ctx.parentTgid
          cgroupId := task.cgroupId.toUInt32
          uid := uid
          gid := (ctx.uidGid >>> 32).toUInt32
          isPrivilegeEscalation := if uid = 0 then 1 else 0
          actionTaken := if uid = 0 then 1 else 0
          comm := task.comm
          filename := readFilename ctx.filename ring.stale }
        -- the flag is read from the record once more after the submit
        { sigkill := ring.reused.getD event.isPrivilegeEscalation ≠ 0
          event := some event }

/-- Whether the map of process_monitor has the cgroup monitored. -/
def ProcessMonitor.Monitors (maps : ProcessMonitor) (cgroupId : UInt64) : Prop :=
  ∃ value, maps.aegisMonitoredCgroupsProc.lookup cgroupId = some value ∧ value ≠ 0

theorem ProcessMonitor.sigkill_unmonitored (maps : ProcessMonitor) {task : Task}
    (unmonitored : ¬ maps.Monitors task.cgroupId) (ctx : ExecveContext) (ring : Ring) :
    (maps.handleExecveEnter task ctx ring).sigkill = false := by
  unfold handleExecveEnter
  cases found : maps.aegisMonitoredCgroupsProc.lookup task.cgroupId with
  | none => rfl
  | some value =>
    have zero : value = 0 := by
      by_contra set
      exact unmonitored ⟨value, found, set⟩
    simp [zero]

theorem ProcessMonitor.sigkill_monitored (maps : ProcessMonitor) {task : Task}
    (monitored : maps.Monitors task.cgroupId) (ctx : ExecveContext) (ring : Ring) :
    (maps.handleExecveEnter task ctx ring).sigkill =
      (ring.reserves && ring.reused.getD (if ctx.uidGid.toUInt32 = 0 then 1 else 0) ≠ 0) := by
  obtain ⟨value, found, set⟩ := monitored
  cases reserves : ring.reserves with
  | false => simp [handleExecveEnter, found, set, reserves]
  | true => simp [handleExecveEnter, found, set, reserves]

/-- A program that enforces a policy, with its policy maps and its context. -/
inductive Hook where
  | sysEnter (maps : SysFilter) (id : UInt64)
  | connect4 (maps : NetFilter) (ctx : SockAddr)
  | execve (maps : ProcessMonitor) (ctx : ExecveContext)

/-- The enforcement action: SIGKILL is sent, or the connect is rejected. -/
def Hook.enforces (task : Task) (ring : Ring) : Hook → Bool
  | .sysEnter maps id => (maps.handleSysEnter task id ring.reserves).sigkill
  | .connect4 maps ctx => (maps.aegisCgroupConnect4 task ctx ring.reserves).result = 0
  | .execve maps ctx => (maps.handleExecveEnter task ctx ring).sigkill

/-- No two ring buffers make a difference, and a monitored execve by uid 0 is killed with any. -/
structure Hook.RingIndependent (hook : Hook) (task : Task) : Prop where
  same : ∀ ring other : Ring, hook.enforces task ring = hook.enforces task other
  rootKilled : ∀ maps ctx, hook = .execve maps ctx → maps.Monitors task.cgroupId → ctx.uidGid.toUInt32 = 0 →
    ∀ ring, hook.enforces task ring = true

/-- The hook is the one on execve, and the task is in a cgroup it monitors. -/
def Hook.Exposed (task : Task) : Hook → Prop
  | .sysEnter _ _ => False
  | .connect4 _ _ => False
  | .execve maps _ => maps.Monitors task.cgroupId

theorem SysFilter.sigkill_ring (maps : SysFilter) (task : Task) (id : UInt64) (reserved other : Bool) :
    (maps.handleSysEnter task id reserved).sigkill = (maps.handleSysEnter task id other).sigkill := by
  rw [Bool.eq_iff_iff, sigkill_iff, sigkill_iff]

theorem NetFilter.result_ring (maps : NetFilter) (task : Task) (ctx : SockAddr) (reserved other : Bool) :
    (maps.aegisCgroupConnect4 task ctx reserved).result = (maps.aegisCgroupConnect4 task ctx other).result := by
  unfold aegisCgroupConnect4
  split
  · rfl
  · dsimp only
    split
    · rfl
    · rfl

/-- A full ring buffer lets a monitored execve pass; a record that is taken again with the flag
set kills it, and one with the flag cleared lets it pass. -/
theorem exposed_not_ringIndependent {hook : Hook} {task : Task} (exposed : hook.Exposed task) :
    ¬ hook.RingIndependent task := by
  cases hook with
  | sysEnter maps id => exact exposed.elim
  | connect4 maps ctx => exact exposed.elim
  | execve maps ctx =>
    intro independent
    have differ := independent.same { reserves := false } { reused := some 1 }
    simp [Hook.enforces, maps.sigkill_monitored exposed] at differ

/-- Enforcement does not depend on the ring buffer if and only if the hook is not the one on
execve or the task's cgroup is not monitored there. -/
theorem ringIndependent_iff (hook : Hook) (task : Task) : hook.RingIndependent task ↔ ¬ hook.Exposed task := by
  constructor
  · exact fun independent exposed => exposed_not_ringIndependent exposed independent
  · intro hidden
    cases hook with
    | sysEnter maps id =>
      exact ⟨fun ring other => maps.sigkill_ring task id _ _, fun _ _ same => by cases same⟩
    | connect4 maps ctx =>
      refine ⟨fun ring other => ?_, fun _ _ same => by cases same⟩
      simp only [Hook.enforces, maps.result_ring task ctx ring.reserves other.reserves]
    | execve maps ctx =>
      refine ⟨fun ring other => ?_, fun _ _ same monitored => ?_⟩
      · simp only [Hook.enforces, maps.sigkill_unmonitored hidden]
      · cases same
        exact absurd monitored hidden

/-- A process of uid 0 in the monitored cgroup 77. -/
def rootTask : Task := { cgroupId := 77, pidTgid := 0, ktimeNs := 0, comm := Vector.replicate 16 0 }

def rootHook : Hook :=
  .execve ⟨HashTable.empty.put 77 1⟩ { uidGid := 0, parentTgid := 1, filename := .text [47, 98, 105, 110] }

/-- With a free record the execve of uid 0 is killed; with the ring buffer full it goes through. -/
theorem full_ring_spares_root :
    rootHook.enforces rootTask {} = true ∧ rootHook.enforces rootTask { reserves := false } = false ∧
      ¬ rootHook.RingIndependent rootTask := by
  have monitors : rootHook.Exposed rootTask := ⟨1, by decide, by decide⟩
  refine ⟨?_, ?_, exposed_not_ringIndependent monitors⟩
  · exact (ProcessMonitor.sigkill_monitored _ monitors _ _).trans (by decide)
  · exact (ProcessMonitor.sigkill_monitored _ monitors _ _).trans (by decide)

end Aegis.Ebpf
