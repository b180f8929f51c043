import Aegis.Cli.Processes
import Aegis.Library.Beside
import Aegis.Runtime.Teardown

/-! SIGINT and SIGTERM at any point of the command line tool.

The handler runs on the interrupted thread. It finds the manager through a global pointer,
which main sets once the manager is constructed and clears only before it returns 0.
-/

set_option autoImplicit false

namespace Aegis.Cli
open Library Policy Aegis.Runtime

/-- The global pointer: null, to the manager, or to where the manager was. -/
inductive Pointer where
  | null
  | valid
  | dangling
  deriving DecidableEq, Repr

/-- The members of the manager are being destroyed. -/
def Pointer.expire : Pointer → Pointer
  | .valid => .dangling
  | pointer => pointer

/-- What the tool is called with: without a command it prints its usage, as `version` prints
its header; an unknown command is noticed only after the manager has been constructed. -/
inductive CommandLine where
  | version
  | known (invocation : Invocation)
  | unknown (env : ProcessEnv)

/-- Only a return of 0 clears the pointer. -/
def conclude (report : Report) : Proc (Host × Pointer) Report :=
  if report.exitCode = 0 then do
    Proc.note fun _ => .null
    pure report
  else pure report

/-- The `try` block of main. -/
def managed (env : ProcessEnv) (command : Proc Host Report) : Proc (Host × Pointer) Report :=
  Proc.recover (do
    (initSandboxManager (some {}) (some .init) (.parse "/var/run/aegis") env.init).beside
    Proc.note fun _ => .valid
    Proc.ensure (do
        let report ← command.beside
        conclude report)
      (do
        (terminateAll env.exit.terminateAll).beside
        Proc.note Pointer.expire
        (destroyAll .lenient env.exit.cgroupOrder).beside)) ⟨1, none⟩

def main : CommandLine → Proc (Host × Pointer) Report
  | .version => pure ⟨0, none⟩
  | .known invocation => managed invocation.env (runCommand invocation)
  | .unknown env => managed env (pure ⟨1, none⟩)

/-- Apart from the pointer, the manager is constructed, used and destroyed. -/
theorem managed_shadows (env : ProcessEnv) (command : Proc Host Report) :
    Proc.Shadows (managed env command) (Proc.recover (do
      initSandboxManager (some {}) (some .init) (.parse "/var/run/aegis") env.init
      command.ensure (destroySandboxManager env.exit)) ⟨1, none⟩) := by
  refine Proc.Shadows.recover ?_ _
  refine (Proc.shadows_beside _).bind fun _ => Proc.Shadows.after_note ?_ _
  refine Proc.Shadows.ensure ((Proc.shadows_beside _).then_same fun report => ?_) ?_
  · unfold conclude
    split
    · exact (Proc.shadows_pure report).after_note _
    · exact Proc.shadows_pure report
  · exact (Proc.shadows_beside _).bind fun _ => (Proc.shadows_beside _).after_note _

/-- Apart from the pointer, main does what the process does. -/
theorem main_shadows_cliMain (invocation : Invocation) :
    Proc.Shadows (main (.known invocation)) (cliMain invocation) :=
  managed_shadows invocation.env (runCommand invocation)

/-- The points at which main can be interrupted. -/
def points (line : CommandLine) (machine : Machine) : List (Host × Pointer) :=
  (machine.boot, .null) :: ((main line).run (machine.boot, .null)).passed

/-- What the handler does before it exits. Nothing is said of a call through a dangling pointer. -/
def signalHandler (env : TerminateAllEnv) (point : Host × Pointer) : Option (Outcome Unit × Host) :=
  match point.2 with
  | .null => some (.returned (), point.1)
  | .valid => some ((terminateAll env).ends point.1)
  | .dangling => none

def Running (child : Child) : Prop := child.killed = false ∧ child.exited = false

def NoneRunning (host : Host) : Prop :=
  ∀ pid child, host.children.lookup pid = some child → ¬ Running child

/-- The handler comes to its end and leaves no Firecracker process running. -/
def CleansUp (point : Host × Pointer) : Prop :=
  ∀ env, ∃ after, signalHandler env point = some (.returned (), after) ∧ NoneRunning after

/-- With a null pointer nothing may be running; with a valid one the mutex is free, and every
running process is that of a sandbox in the table. -/
def Interruptible (point : Host × Pointer) : Prop :=
  match point.2 with
  | .null => NoneRunning point.1
  | .valid => point.1.lockDepth = 0 ∧ ∀ pid child, point.1.children.lookup pid = some child →
      Running child → ∃ id, Signals point.1.sandboxes pid id
  | .dangling => False

section
variable {host : Host}

theorem terminateAll_busy (busy : host.lockDepth ≠ 0) (env : TerminateAllEnv) :
    (terminateAll env).ends host = (.blocked, host) := by
  unfold terminateAll Proc.ends
  rw [sandboxMutex.guard_blocked busy]

/-- What is still running after `terminate_all` was running before, for no sandbox of the table. -/
theorem running_after_terminateAll (free : host.lockDepth = 0) (env : TerminateAllEnv) :
    ∃ after, (terminateAll env).ends host = (.returned (), after) ∧
      (NoneRunning after ↔ ∀ pid child, host.children.lookup pid = some child → Running child →
        ∃ id, Signals host.sandboxes pid id) := by
  obtain ⟨after, ends, -, -⟩ := terminateAll_ends free env
  have called : (call (.terminateAll env)).ends host = (.returned .done, after) := Proc.ends_bind_returned ends
  have resources := terminateAll_resources free env
  rw [called] at resources
  have children : after.children = _ := congrArg Resources.children resources
  refine ⟨after, ends, ?_⟩
  unfold NoneRunning
  rw [children]
  constructor
  · intro stopped pid child found runs
    by_contra unowned
    refine stopped pid child ?_ runs
    rw [lookup_foldl_of_not_signals fun id _ own => unowned ⟨id, own⟩]
    exact found
  · intro owned pid child found runs
    by_cases own : ∃ id, Signals host.sandboxes pid id
    · obtain ⟨id, own⟩ := own
      have live : id ∈ host.sandboxes := by
        obtain ⟨entry, known, -⟩ := own
        exact Finmap.mem_of_lookup_eq_some known
      have killed := killed_foldl (mem_visitOrder.mpr (Finmap.mem_keys.mpr live)) own found
      exact nomatch runs.1.symm.trans killed
    · rw [lookup_foldl_of_not_signals fun id _ signals => own ⟨id, signals⟩] at found
      exact own (owned pid child found runs)

end

/-- One point, wherever it is. -/
theorem cleansUp_iff (point : Host × Pointer) : CleansUp point ↔ Interruptible point := by
  obtain ⟨host, pointer⟩ := point
  unfold CleansUp Interruptible signalHandler
  cases pointer with
  | null =>
    constructor
    · intro cleans
      obtain ⟨after, same, stopped⟩ := cleans {}
      cases same
      exact stopped
    · exact fun stopped env => ⟨host, rfl, stopped⟩
  | dangling =>
    refine iff_of_false (fun cleans => ?_) not_false
    obtain ⟨after, same, -⟩ := cleans {}
    exact nomatch same
  | valid =>
    dsimp only
    by_cases free : host.lockDepth = 0
    · rw [and_iff_right free]
      have each (env : TerminateAllEnv) := running_after_terminateAll free env
      constructor
      · intro cleans
        obtain ⟨after, ends, stopped⟩ := cleans {}
        obtain ⟨after', ends', iff⟩ := each {}
        cases (Option.some.inj ends).symm.trans ends'
        exact iff.mp stopped
      · intro owned env
        obtain ⟨after, ends, iff⟩ := each env
        exact ⟨after, by rw [ends], iff.mpr owned⟩
    · refine iff_of_false (fun cleans => ?_) fun clear => free clear.1
      obtain ⟨after, ends, -⟩ := cleans {}
      rw [terminateAll_busy free] at ends
      exact nomatch ends

/-- A call under the mutex that is made through the pointer cannot be interrupted at its start. -/
theorem not_passes_guard {host : Host} (free : host.lockDepth = 0) {A : Type} {body : Proc Host A}
    (all : (sandboxMutex.guard .plain body).Passes (fun t => CleansUp (t, .valid)) host) : False := by
  have held := (cleansUp_iff _).mp (all _ (sandboxMutex.held_mem_passed (.inl free)))
  exact Nat.succ_ne_zero host.lockDepth held.1

/-- Each command makes such a call. -/
theorem not_passes_runCommand {host : Host} (free : host.lockDepth = 0) {invocation : Invocation}
    (all : (runCommand invocation).Passes (fun t => CleansUp (t, .valid)) host) : False := by
  unfold runCommand at all
  cases command : invocation.command with
  | create | exec | terminate | status =>
    rw [command] at all
    exact not_passes_guard free all.of_bind

/-- The points of the command, and those of the destructor after a command that fails at once. -/
theorem managed_passes {env : ProcessEnv} {command : Proc Host Report} {machine : Machine}
    (all : (managed env command).Passes CleansUp (machine.boot, .null)) :
    command.Passes (fun t => CleansUp (t, .valid)) (machine.constructed env.init) ∧
      ∀ report t, command.ends (machine.constructed env.init) = (.returned report, t) → report.exitCode ≠ 0 →
        (terminateAll env.exit.terminateAll).Passes (fun t => CleansUp (t, .valid)) t := by
  have constructed := Proc.ends_beside (constructed_ends machine env.init) Pointer.null
  have inside := ((Proc.passes_bind_returned constructed).mp (Proc.passes_recover.mp all)).2
  have scope := ((Proc.passes_bind_returned (Proc.ends_modify _ _)).mp inside).2.of_ensure
  refine ⟨Proc.passes_beside.mp scope.1.of_bind, fun report t ends failed => ?_⟩
  have body : (do let report ← command.beside; conclude report).ends (machine.constructed env.init, Pointer.valid) =
      (.returned report, (t, .valid)) := by
    rw [Proc.ends_bind_returned (Proc.ends_beside ends Pointer.valid), conclude, if_neg failed]
    rfl
  have cleanup := scope.2
  dsimp only at cleanup
  rw [body] at cleanup
  exact Proc.passes_beside.mp (cleanup fun stuck => nomatch stuck).of_bind

/-- Each command line but `version` has a point at which the handler waits for ever: the first
in a call of the manager, of the command or of the destructor. -/
theorem all_clean_up_iff (line : CommandLine) (machine : Machine) :
    (∀ point ∈ points line machine, CleansUp point) ↔ line = .version := by
  have free (env : InitEnv) : (machine.constructed env).lockDepth = 0 := (constructed_fresh machine env).1.free
  unfold points
  rw [List.forall_mem_cons]
  cases line with
  | version =>
    refine iff_of_true ⟨(cleansUp_iff _).mpr ?_, fun _ absent => nomatch absent⟩ rfl
    intro pid child found
    rw [show machine.boot.children = ∅ from rfl, Finmap.lookup_empty] at found
    exact nomatch found
  | known invocation =>
    refine iff_of_false (fun all => ?_) fun same => nomatch same
    exact not_passes_runCommand (free _) (managed_passes all.2).1
  | unknown env =>
    refine iff_of_false (fun all => ?_) fun same => nomatch same
    exact not_passes_guard (free _) ((managed_passes all.2).2 _ _ rfl Nat.one_ne_zero)

/-- A signal is cleaned up after exactly at the points that are interruptible; only `version` has
no others. -/
theorem signals_clean_up_iff (line : CommandLine) (machine : Machine) :
    (∀ point ∈ points line machine, CleansUp point ↔ Interruptible point) ∧
      ((∀ point ∈ points line machine, CleansUp point) ↔ line = .version) :=
  ⟨fun point _ => cleansUp_iff point, all_clean_up_iff line machine⟩

/-- A signal during `create` finds Firecracker forked and the mutex held by the thread it has
interrupted: the handler waits for ever. -/
theorem create_interrupted_blocks :
    ∃ point ∈ points (.known demoCreate) ⟨.empty, []⟩,
      (100 ∈ point.1.children ∧ signalHandler {} point = some (.blocked, point.1)) ∧ ¬ CleansUp point := by
  have busy : (points (.known demoCreate) ⟨.empty, []⟩).any
      (fun point => point.2 = .valid ∧ point.1.lockDepth ≠ 0 ∧ 100 ∈ point.1.children) = true := by decide +kernel
  obtain ⟨⟨host, pointer⟩, listed, holds⟩ := List.any_eq_true.mp busy
  obtain ⟨rfl, locked, forked⟩ := of_decide_eq_true holds
  have blocks : signalHandler {} (host, .valid) = some (.blocked, host) := congrArg some (terminateAll_busy locked {})
  refine ⟨(host, .valid), listed, ⟨forked, blocks⟩, fun cleans => ?_⟩
  obtain ⟨after, ends, -⟩ := cleans {}
  exact nomatch blocks.symm.trans ends

end Aegis.Cli
