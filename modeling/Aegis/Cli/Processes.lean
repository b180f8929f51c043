import Aegis.Runtime.Lifetime

/-! The command line tool, and sequences of its processes.

Each command is a process of its own. It constructs a manager, makes one call and destroys
the manager again; only the file system is there for the next process.
-/

set_option autoImplicit false

namespace Aegis.Cli
open Library Policy Aegis.Runtime

inductive Command where
  | create
  | exec
  | terminate
  | status
  deriving DecidableEq, Repr

structure Options where
  sandboxId : String := "sbx-demo"
  policyName : String := "strict_python"
  codePayload : String := "print('Hello from Aegis Isolated MicroVM!')"
  cpus : UInt32 := 1
  memoryMb : UInt32 := 512

def Options.config (options : Options) : SandboxConfig where
  sandboxId := options.sandboxId
  securityPolicyName := options.policyName
  resourceLimits := { cpuCores := options.cpus, memoryMb := options.memoryMb }
  useSnapshotRestore := true

/-- What the system answers to one process. -/
structure ProcessEnv where
  init : InitEnv := {}
  create : CreateEnv
  exec : ExecEnv := {}
  terminate : TerminateEnv := {}
  exit : ExitEnv := {}

structure Invocation where
  command : Command
  options : Options := {}
  env : ProcessEnv

/-- The exit code and what the manager answered, if it did. -/
structure Report where
  exitCode : Nat
  answer : Option Answer

def runCommand (invocation : Invocation) : Proc Host Report :=
  match invocation.command with
  | .create => do
      let status ← createSandbox .plain invocation.options.config invocation.env.create
      if status = .success then do
        -- for the boot time that is printed
        let _ ← getMetadata invocation.options.sandboxId
        pure ⟨0, some (.status status)⟩
      else pure ⟨1, some (.status status)⟩
  | .exec => do
      let result ← executeCode invocation.options.sandboxId invocation.options.codePayload invocation.env.exec
      pure ⟨0, some (.result result)⟩
  | .terminate => do
      let status ← terminateSandbox .plain invocation.options.sandboxId invocation.env.terminate
      pure ⟨if status = .success then 0 else 1, some (.status status)⟩
  | .status => do
      let metadata ← getMetadata invocation.options.sandboxId
      pure ⟨0, some (.metadata metadata)⟩

/-- `main` behind its argument parsing. No BPF object is ever loaded. -/
def cliMain (invocation : Invocation) : Proc Host Report :=
  Proc.recover (do
    initSandboxManager (some {}) (some .init) (.parse "/var/run/aegis") invocation.env.init
    (runCommand invocation).ensure (destroySandboxManager invocation.env.exit)) ⟨1, none⟩

/-- What is there between two processes, and a record of the completed ones. -/
structure Machine where
  files : FileTree
  log : List (Invocation × Report) := []

def Machine.boot (machine : Machine) : Host := { files := machine.files }

def process (invocation : Invocation) : Proc Machine Report where
  run machine :=
    let ended := (cliMain invocation).ends machine.boot
    match ended.1 with
    | .returned report => ⟨.returned report, ⟨ended.2.files, machine.log ++ [(invocation, report)]⟩, []⟩
    | .threw => ⟨.threw, { machine with files := ended.2.files }, []⟩
    | .blocked => ⟨.blocked, { machine with files := ended.2.files }, []⟩

/-- The host in which the command runs. -/
def Machine.constructed (machine : Machine) (env : InitEnv) : Host :=
  ((initSandboxManager (some {}) (some .init) (.parse "/var/run/aegis") env).ends machine.boot).2

/-! What the usage examples promise. -/

/-- The command has found its sandbox. -/
def Report.Finds (report : Report) : Prop :=
  match report.answer with
  | some (.status value) => value = .success
  | some (.result value) => value.stderrOutput ≠ "Error: Invalid or inactive sandbox ID."
  | some (.metadata value) => value.isSome
  | _ => False

def Invocation.Concerns (invocation : Invocation) (sandboxId : String) : Prop :=
  (invocation.command = .create ∨ invocation.command = .terminate) ∧ invocation.options.sandboxId = sandboxId

instance (invocation : Invocation) (sandboxId : String) : Decidable (invocation.Concerns sandboxId) :=
  inferInstanceAs (Decidable (_ ∧ _))

/-- The last process that created or terminated the sandbox, or tried to. -/
def lastConcerning (sandboxId : String) (log : List (Invocation × Report)) : Option (Invocation × Report) :=
  (log.filter fun step => step.1.Concerns sandboxId).getLast?

/-- The last process to create or terminate the sandbox created it. -/
def CreatedLast (sandboxId : String) (log : List (Invocation × Report)) : Prop :=
  ∃ step ∈ lastConcerning sandboxId log, step.1.command = .create ∧ step.2.Finds

/-- A process other than a creation finds the sandbox exactly if it has been created and not
been terminated since. -/
def FindsCreated (invocation : Invocation) (machine : Machine) : Prop :=
  invocation.command ≠ .create → ∃ report, ((process invocation).ends machine).1 = .returned report ∧
    (report.Finds ↔ CreatedLast invocation.options.sandboxId machine.log)

/-- Every step of the system that a creation needs succeeds. -/
def Smooth (invocation : Invocation) (machine : Machine) : Prop :=
  invocation.command = .create →
    Admitted (machine.constructed invocation.env.init) invocation.options.config →
    Completed (machine.constructed invocation.env.init) invocation.options.config invocation.env.create

/-- No creation of the sandbox is the last process to concern it. -/
def Unannounced (invocation : Invocation) (machine : Machine) : Prop :=
  invocation.command ≠ .create → invocation.options.sandboxId = "" ∨
    ∀ step ∈ lastConcerning invocation.options.sandboxId machine.log, step.1.command ≠ .create

/-! How one process ends. -/

theorem constructed_fresh (machine : Machine) (env : InitEnv) :
    Fresh (machine.constructed env) ∧ (machine.constructed env).descriptors = ∅ := by
  obtain ⟨files, touched, ends⟩ := initSandboxManager_ends machine.boot (some {}) (some .init) (.parse "/var/run/aegis") env
  unfold Machine.constructed
  rw [ends]
  exact ⟨⟨rfl, rfl, rfl⟩, rfl⟩

theorem constructed_ends (machine : Machine) (env : InitEnv) :
    (initSandboxManager (some {}) (some .init) (.parse "/var/run/aegis") env).ends machine.boot =
      (.returned (), machine.constructed env) := by
  obtain ⟨files, touched, ends⟩ := initSandboxManager_ends machine.boot (some {}) (some .init) (.parse "/var/run/aegis") env
  unfold Machine.constructed
  rw [ends]

section
variable {host : Host} (fresh : Fresh host) {invocation : Invocation}
include fresh

/-- A new manager knows no sandbox, so that only a creation can be successful. -/
theorem runCommand_ends (smooth : invocation.command = .create → Admitted host invocation.options.config →
      Completed host invocation.options.config invocation.env.create) :
    ∃ report after, (runCommand invocation).ends host = (.returned report, after) ∧ after.lockDepth = 0 ∧
      InStep host.descriptors after ∧
      (report.Finds ↔ invocation.command = .create ∧ invocation.options.sandboxId ≠ "") := by
  have unknown (sandboxId : String) : host.sandboxes.lookup sandboxId = none := by simp [fresh.sandboxes]
  have inStep : InStep host.descriptors host := .of_empty fresh.sandboxes fresh.cgroups rfl
  unfold runCommand
  cases command : invocation.command with
  | create =>
    by_cases named : invocation.options.sandboxId = ""
    · have refused : ¬ Admitted host invocation.options.config := fun admitted => admitted.1 named
      refine ⟨⟨1, some (.status .errInvalidSandboxID)⟩, host, ?_, fresh.free, inStep, by simp [Report.Finds, named]⟩
      exact Proc.ends_bind_returned (createSandbox_rejected fresh.free refused _)
    · have admitted : Admitted host invocation.options.config := by
        refine ⟨named, ?_⟩
        rw [fresh.sandboxes]
        exact Finmap.notMem_empty
      have complete := smooth command admitted
      obtain ⟨work, traced, created⟩ := createSandbox_completes (.inl fresh.free) complete
      have free : (completed host invocation.options.config invocation.env.create work).lockDepth = 0 := by
        obtain ⟨files, touched, sent, rfl⟩ := traced.frame
        exact fresh.free
      refine ⟨⟨0, some (.status .success)⟩, _, ?_, free, inStep.completed complete traced, by simp [Report.Finds, named]⟩
      refine (Proc.ends_bind_returned created).trans ?_
      exact Proc.ends_bind_returned (getMetadata_ends free _)
  | exec =>
    refine ⟨_, host, Proc.ends_bind_returned (executeCode_unknown fresh.free (unknown _) _ _), fresh.free, inStep, ?_⟩
    simp [Report.Finds]
  | terminate =>
    refine ⟨_, host, Proc.ends_bind_returned (terminateSandbox_missing fresh.free (unknown _) _), fresh.free, inStep, ?_⟩
    simp [Report.Finds]
  | status =>
    refine ⟨_, host, Proc.ends_bind_returned (getMetadata_ends fresh.free _), fresh.free, inStep, ?_⟩
    simp [Report.Finds, unknown]

end

theorem process_ends {invocation : Invocation} {machine : Machine} (smooth : Smooth invocation machine) :
    ∃ report files, (process invocation).ends machine =
        (.returned report, ⟨files, machine.log ++ [(invocation, report)]⟩) ∧
      (report.Finds ↔ invocation.command = .create ∧ invocation.options.sandboxId ≠ "") := by
  obtain ⟨fresh, -⟩ := constructed_fresh machine invocation.env.init
  obtain ⟨report, after, ran, free, inStep, finds⟩ := runCommand_ends fresh smooth
  obtain ⟨final, destroyed, -⟩ := destroySandboxManager_ends free inStep invocation.env.exit
  have main : (cliMain invocation).ends machine.boot = (.returned report, final) :=
    Proc.ends_recover ((Proc.ends_bind_returned (constructed_ends machine _)).trans (Proc.ends_ensure ran destroyed))
  refine ⟨report, final.files, ?_, finds⟩
  rw [process, Proc.ends]
  simp only [main]

/-! Sequences of processes. -/

theorem lastConcerning_mem {sandboxId : String} {log : List (Invocation × Report)} {step : Invocation × Report}
    (last : lastConcerning sandboxId log = some step) : step ∈ log ∧ step.1.options.sandboxId = sandboxId := by
  have member := List.mem_of_getLast? last
  rw [List.mem_filter] at member
  exact ⟨member.1, (of_decide_eq_true member.2).2⟩

/-- The record of a run says of each creation whether its id was empty. -/
def Recorded (machine : Machine) : Prop :=
  ∀ step ∈ machine.log, step.1.command = .create → (step.2.Finds ↔ step.1.options.sandboxId ≠ "")

theorem createdLast_iff {machine : Machine} (recorded : Recorded machine) (sandboxId : String) :
    CreatedLast sandboxId machine.log ↔
      sandboxId ≠ "" ∧ ∃ step ∈ lastConcerning sandboxId machine.log, step.1.command = .create := by
  constructor
  · rintro ⟨step, last, created, finds⟩
    obtain ⟨member, named⟩ := lastConcerning_mem last
    exact ⟨named ▸ (recorded step member created).mp finds, step, last, created⟩
  · rintro ⟨named, step, last, created⟩
    obtain ⟨member, same⟩ := lastConcerning_mem last
    exact ⟨step, last, created, (recorded step member created).mpr (same ▸ named)⟩

/-- No process but a creation finds a sandbox. -/
theorem findsCreated_iff {invocation : Invocation} {machine : Machine} (recorded : Recorded machine)
    (smooth : Smooth invocation machine) : FindsCreated invocation machine ↔ Unannounced invocation machine := by
  obtain ⟨report, files, ends, finds⟩ := process_ends smooth
  unfold FindsCreated Unannounced
  refine imp_congr_right fun other => ?_
  have lost : ¬ report.Finds := fun found => other (finds.mp found).1
  have answer (value : Report) : ((process invocation).ends machine).1 = .returned value ↔ value = report := by
    rw [ends]
    simp [eq_comm]
  simp only [answer, exists_eq_left, lost, false_iff, createdLast_iff recorded]
  rw [not_and_or, not_not]
  simp

theorem recorded_process {invocation : Invocation} {machine : Machine} (recorded : Recorded machine)
    (smooth : Smooth invocation machine) : Recorded ((process invocation).run machine).state := by
  obtain ⟨report, files, ends, finds⟩ := process_ends smooth
  have state : ((process invocation).run machine).state = ⟨files, machine.log ++ [(invocation, report)]⟩ :=
    congrArg Prod.snd ends
  rw [state]
  intro step member created
  rcases List.mem_append.mp member with old | new
  · exact recorded step old created
  · obtain rfl := List.mem_singleton.mp new
    rw [finds]
    exact and_iff_right created

/-- The usage examples hold in no sequence in which a sandbox that was created is asked for:
it is gone with the process that created it. -/
theorem sandboxes_persist_iff (machine : Machine) (new : machine.log = []) (invocations : List Invocation)
    (smooth : Along process Smooth invocations machine) :
    Along process FindsCreated invocations machine ↔ Along process Unannounced invocations machine := by
  refine along_congr Recorded Smooth (fun _ _ => findsCreated_iff) ?_ invocations machine ?_ smooth
  · exact fun _ _ recorded smooth _ _ => recorded_process recorded smooth
  · intro step member
    rw [new] at member
    cases member

def demoCreate : Invocation := { command := .create, env := { create := smoothEnv 77 } }

def demoStatus : Invocation := { command := .status, env := { create := smoothEnv 77 } }

theorem demoCreate_smooth (machine : Machine) : Smooth demoCreate machine := by
  intro _ _
  have bare : Completed (bareHost none none) demoCreate.options.config demoCreate.env.create := by decide
  obtain ⟨files, touched, ends⟩ := initSandboxManager_ends machine.boot (some {}) (some .init)
    (.parse "/var/run/aegis") demoCreate.env.init
  unfold Machine.constructed
  rw [ends]
  exact bare

theorem demoStatus_smooth (machine : Machine) : Smooth demoStatus machine := by
  intro impossible
  cases impossible

/-- Nothing is found where nothing has been created. -/
theorem status_before_create :
    Along process Smooth [demoStatus, demoCreate] ⟨.empty, []⟩ ∧
      Along process FindsCreated [demoStatus, demoCreate] ⟨.empty, []⟩ := by
  have smooth : Along process Smooth [demoStatus, demoCreate] ⟨.empty, []⟩ :=
    ⟨demoStatus_smooth _, fun _ => ⟨demoCreate_smooth _, fun _ => trivial⟩⟩
  refine ⟨smooth, (sandboxes_persist_iff ⟨.empty, []⟩ rfl [demoStatus, demoCreate] smooth).mpr ?_⟩
  refine ⟨fun _ => .inr ?_, fun _ => ⟨fun create => absurd rfl create, fun _ => trivial⟩⟩
  intro step last
  cases last

/-- The sandbox is gone before the next process can ask for it. -/
theorem created_sandbox_not_found :
    Along process Smooth [demoCreate, demoStatus] ⟨.empty, []⟩ ∧
      ¬ Along process FindsCreated [demoCreate, demoStatus] ⟨.empty, []⟩ := by
  refine ⟨⟨demoCreate_smooth _, fun _ => ⟨demoStatus_smooth _, fun _ => trivial⟩⟩, ?_⟩
  obtain ⟨report, files, ends, finds⟩ := process_ends (demoCreate_smooth ⟨.empty, []⟩)
  rw [along_cons_returned ends]
  rintro ⟨-, found, -⟩
  obtain ⟨report', files', ends', finds'⟩ := process_ends (demoStatus_smooth ⟨files, [] ++ [(demoCreate, report)]⟩)
  obtain ⟨value, same, agree⟩ := found (by decide)
  rw [ends'] at same
  obtain rfl : report' = value := Outcome.returned.inj same
  have created : CreatedLast "sbx-demo" [(demoCreate, report)] :=
    ⟨(demoCreate, report), rfl, rfl, finds.mpr ⟨rfl, by decide⟩⟩
  have lost := (finds'.mp (agree.mpr created)).1
  cases lost

end Aegis.Cli
