import Aegis.Ebpf.ProcessMonitor
import Aegis.Ebpf.RingBuffer
import Aegis.Library.Interleaving
import Aegis.Library.Ring

/-! From the kernel programs to the callback: runs of one program on many processors, its event ring
buffer, and the reader at the other end.

A run reserves a record, fills and submits it, and takes its action after that. The runs on
different processors interleave with each other and with the reader. What `Ring` leaves open for
a single run is here what the runs and the reader have made of the memory.
-/

set_option autoImplicit false

namespace Aegis.Ebpf.Pipeline
open Library Library.Layout

inductive Program where
  | sysFilter
  | netFilter
  | processMonitor
  deriving DecidableEq

def Program.size : Program → Nat
  | .sysFilter => sizeof SecurityEvent.layout
  | .netFilter => sizeof NetSecurityEvent.layout
  | .processMonitor => sizeof ProcessExecEvent.layout

/-- 256 KiB, with a header of eight bytes before each record. -/
def Program.shape (program : Program) : RingShape where
  capacity := 256 * 1024
  header := 8
  size := program.size
  length := alignUp (8 + program.size) 8
  inside := le_alignUp _ (by decide)
  small := by cases program <;> decide

/-- How many records fit in. One byte always stays free. -/
def Program.limit (program : Program) : Nat := (program.shape.capacity - 1) / program.shape.length

example : Program.sysFilter.limit = 4681 ∧ Program.netFilter.limit = 4681 ∧ Program.processMonitor.limit = 819 := by
  decide

def programOf : Hook → Program
  | .sysEnter _ _ => .sysFilter
  | .connect4 _ _ => .netFilter
  | .execve _ _ => .processMonitor

/-- One run of a program: the task it runs in, and what its record held before. -/
structure Run where
  task : Task
  hook : Hook
  stale : Filename

/-- The event of a run that gets a record. -/
def Run.event (run : Run) : Option KernelEvent :=
  match run.hook with
  | .sysEnter maps id => (maps.handleSysEnter run.task id true).event.map .syscall
  | .connect4 maps ctx => (maps.aegisCgroupConnect4 run.task ctx true).event.map .network
  | .execve maps ctx => (maps.handleExecveEnter run.task ctx { stale := run.stale }).event.map .process

/-- The policy asks for an action: the number is blocked in a monitored cgroup, the address is the
metadata address or a blocked one, or uid 0 calls execve in a monitored cgroup. -/
def Run.Due (run : Run) : Prop :=
  match run.hook with
  | .sysEnter maps id =>
      (∃ value, maps.aegisMonitoredCgroups.lookup run.task.cgroupId = some value ∧ value ≠ 0) ∧
        maps.aegisSyscallPolicy.lookup id.toUInt32.toNat = some 1
  | .connect4 maps ctx =>
      ctx.family = afInet ∧
        (ctx.userIp4 = bpfHtonl 0xA9FEA9FE ∨ maps.aegisBlockedIps.lookup ctx.userIp4 = some 1)
  | .execve maps ctx =>
      (∃ value, maps.aegisMonitoredCgroupsProc.lookup run.task.cgroupId = some value ∧ value ≠ 0) ∧
        ctx.uidGid.toUInt32 = 0

/-- Where a processor is. -/
inductive Pc where
  | idle
  | filling (run : Run) (record : Nat) (event : KernelEvent)
  | leaving (run : Run) (record : Nat) (event : KernelEvent)

/-- A run that has an event, with the records that were unread when it asked for one. -/
structure Attempt where
  event : KernelEvent
  unread : Nat
  recorded : Bool

/-- How a run came by a record: `unread` ones were in its way, or it got one and `later` ones were
reserved after it before the run took its action. -/
inductive Outcome where
  | unneeded
  | refused (unread : Nat)
  | recorded (later : Nat)
  deriving DecidableEq

/-- A run that is over, and whether it killed the task or rejected the connect. -/
structure Verdict where
  run : Run
  outcome : Outcome
  enforced : Bool

structure State (program : Program) where
  ring : RecordRing program.shape
  cpus : Nat → Pc := fun _ => .idle
  attempts : List Attempt := []
  verdicts : List Verdict := []
  delivered : List SecurityEventVariant := []

inductive Action where
  | enter (cpu : Nat) (task : Task) (hook : Hook)
  | submit (cpu : Nat)
  | finish (cpu : Nat)
  /-- The reader takes a record, if there is one for it. -/
  | poll

namespace State
variable {program : Program}

def goto (s : State program) (cpu : Nat) (pc : Pc) : State program :=
  { s with cpus := Function.update s.cpus cpu pc }

/-- What the bytes of a record hold now. -/
def byteAt (s : State program) (record offset : Nat) : UInt8 := s.ring.memory (program.shape.address record offset)

def staleFilename (s : State program) : Filename :=
  Vector.ofFn fun i => s.byteAt s.ring.reserved ((offsetsFrom 0 ProcessExecEvent.layout).getD 10 0 + i)

/-- process_monitor looks at its record once more after the submit. -/
def flag (s : State program) (record : Nat) : UInt8 :=
  s.byteAt record ((offsetsFrom 0 ProcessExecEvent.layout).getD 7 0)

/-- A run with an event gets a record. -/
def grant (s : State program) (cpu : Nat) (run : Run) (event : KernelEvent) (ring : RecordRing program.shape) :
    State program :=
  { s.goto cpu (.filling run s.ring.reserved event) with
    ring
    attempts := s.attempts ++ [⟨event, s.ring.unread, true⟩] }

/-- It gets none, and goes on without. -/
def refuse (s : State program) (run : Run) (event : KernelEvent) : State program :=
  { s with
    attempts := s.attempts ++ [⟨event, s.ring.unread, false⟩]
    verdicts := s.verdicts ++ [⟨run, .refused s.ring.unread, run.hook.enforces run.task { reserves := false }⟩] }

def enter (s : State program) (cpu : Nat) (run : Run) : State program :=
  match run.event with
  | none => { s with verdicts := s.verdicts ++ [⟨run, .unneeded, run.hook.enforces run.task {}⟩] }
  | some event =>
      match s.ring.reserve with
      | some ring => s.grant cpu run event ring
      | none => s.refuse run event

def submit (s : State program) (cpu : Nat) (run : Run) (record : Nat) (event : KernelEvent) : State program :=
  { s.goto cpu (.leaving run record event) with
    ring := s.ring.commit record (event.bytes (s.byteAt record)) }

def finish (s : State program) (cpu : Nat) (run : Run) (record : Nat) : State program :=
  { s.goto cpu .idle with
    verdicts := s.verdicts ++ [⟨run, .recorded (s.ring.reserved - (record + 1)),
      run.hook.enforces run.task { stale := run.stale, reused := some (s.flag record) }⟩] }

/-- The reader has taken a record. -/
def report (s : State program) (bytes : List UInt8) (ring : RecordRing program.shape) : State program :=
  { s with
    ring
    delivered := s.delivered ++ rawSampleCallback (some ⟨true⟩) (some bytes) program.size }

end State

def step {program : Program} (action : Action) (s : State program) : Option (State program) :=
  match action with
  | .enter cpu task hook =>
      match s.cpus cpu with
      | .idle => if programOf hook = program then some (s.enter cpu ⟨task, hook, s.staleFilename⟩) else none
      | _ => none
  | .submit cpu =>
      match s.cpus cpu with
      | .filling run record event => some (s.submit cpu run record event)
      | _ => none
  | .finish cpu =>
      match s.cpus cpu with
      | .leaving run record _ => some (s.finish cpu run record)
      | _ => none
  | .poll => s.ring.take.map fun found => s.report found.1 found.2

def start (program : Program) (memory : Nat → UInt8) : State program := { ring := { memory } }

def run {program : Program} (actions : List Action) (s : State program) : State program :=
  actions.foldl (fun s action => taken step action s) s

/-! What a single run does. -/

theorem limit_le {program : Program} {unread : Nat} :
    ¬ (unread + 1) * program.shape.length < program.shape.capacity ↔ program.limit ≤ unread := by
  have positive : 0 < program.shape.length := by cases program <;> decide
  have big : 1 ≤ program.shape.capacity := by cases program <;> decide
  rw [Program.limit, Nat.div_le_iff_le_mul_add_pred positive, Nat.succ_mul]
  rw [Nat.mul_comm]
  omega

theorem event_execve {maps : ProcessMonitor} {task : Task} {ctx : ExecveContext} {ring : Ring} {e : ProcessExecEvent}
    (made : (maps.handleExecveEnter task ctx ring).event = some e) :
    maps.Monitors task.cgroupId ∧ e.isPrivilegeEscalation = if ctx.uidGid.toUInt32 = 0 then 1 else 0 := by
  unfold ProcessMonitor.handleExecveEnter at made
  cases found : maps.aegisMonitoredCgroupsProc.lookup task.cgroupId with
  | none => simp [found] at made
  | some value =>
    rw [found] at made
    dsimp only at made
    split at made
    · cases made
    · rename_i set
      split at made
      · cases made
      · cases made
        exact ⟨⟨value, found, set⟩, rfl⟩

theorem size_of_event {run : Run} {event : KernelEvent} (made : run.event = some event) :
    event.size = (programOf run.hook).size := by
  obtain ⟨task, hook, stale⟩ := run
  cases hook <;> (
    obtain ⟨_, -, rfl⟩ := Option.map_eq_some_iff.mp made
    rfl)

theorem transportable_of_event {run : Run} {event : KernelEvent} (made : run.event = some event)
    (other : programOf run.hook ≠ .netFilter) : event.Transportable := by
  obtain ⟨task, hook, stale⟩ := run
  cases hook with
  | sysEnter maps id =>
    obtain ⟨_, -, rfl⟩ := Option.map_eq_some_iff.mp made
    exact trivial
  | connect4 maps ctx => exact absurd rfl other
  | execve maps ctx =>
    obtain ⟨e, event, rfl⟩ := Option.map_eq_some_iff.mp made
    have flag := (event_execve event).2
    by_cases root : ctx.uidGid.toUInt32 = 0
    · exact .inr (by rw [flag, if_pos root])
    · exact .inl (by rw [flag, if_neg root])

theorem connect4_rejects_iff (maps : NetFilter) (task : Task) (ctx : SockAddr) (reserved : Bool) :
    (maps.aegisCgroupConnect4 task ctx reserved).result = 0 ↔ ctx.family = afInet ∧
      (ctx.userIp4 = bpfHtonl 0xA9FEA9FE ∨ maps.aegisBlockedIps.lookup ctx.userIp4 = some 1) := by
  by_cases inet : ctx.family = afInet
  · rw [maps.rejects_iff task reserved inet, and_iff_right inet]
  · simp [NetFilter.aegisCgroupConnect4, inet]

/-- Only process_monitor looks at more than the policy. -/
theorem enforces_iff_due {run : Run} (other : programOf run.hook ≠ .processMonitor) (ring : Ring) :
    run.hook.enforces run.task ring = true ↔ run.Due := by
  obtain ⟨task, hook, stale⟩ := run
  cases hook with
  | sysEnter maps id => exact maps.sigkill_iff task id _
  | connect4 maps ctx => exact decide_eq_true_iff.trans (connect4_rejects_iff maps task ctx _)
  | execve maps ctx => exact absurd rfl other

theorem enforces_unneeded {run : Run} (unneeded : run.event = none) (ring : Ring) :
    run.hook.enforces run.task ring = true ↔ run.Due := by
  by_cases other : programOf run.hook = .processMonitor
  · obtain ⟨task, hook, stale⟩ := run
    cases hook with
    | sysEnter maps id => cases other
    | connect4 maps ctx => cases other
    | execve maps ctx =>
      have unmonitored : ¬ maps.Monitors task.cgroupId := by
        rintro ⟨value, found, set⟩
        simp [Run.event, ProcessMonitor.handleExecveEnter, found, set] at unneeded
      refine iff_of_false ?_ fun due => unmonitored due.1
      simp [Hook.enforces, maps.sigkill_unmonitored unmonitored]
  · exact enforces_iff_due other ring

/-- With the flag of its own event, process_monitor does what is due. -/
theorem enforces_flag {run : Run} {e : ProcessExecEvent} (made : run.event = some (.process e)) (stale : Filename) :
    run.hook.enforces run.task { stale, reused := some e.isPrivilegeEscalation } = true ↔ run.Due := by
  obtain ⟨task, hook, before⟩ := run
  cases hook with
  | sysEnter maps id =>
    obtain ⟨_, -, ⟨⟩⟩ := Option.map_eq_some_iff.mp made
  | connect4 maps ctx =>
    obtain ⟨_, -, ⟨⟩⟩ := Option.map_eq_some_iff.mp made
  | execve maps ctx =>
    obtain ⟨_, event, ⟨⟩⟩ := Option.map_eq_some_iff.mp made
    obtain ⟨monitored, flag⟩ := event_execve event
    have due : Run.Due ⟨task, .execve maps ctx, before⟩ ↔ ctx.uidGid.toUInt32 = 0 := and_iff_right monitored
    rw [due, Hook.enforces, maps.sigkill_monitored monitored, flag]
    by_cases root : ctx.uidGid.toUInt32 = 0 <;> simp [root]

/-! Whole runs. -/

namespace State
variable {program : Program}

/-- The events that got a record, in the order of their records. -/
def recorded (s : State program) : List KernelEvent :=
  (s.attempts.filter (·.recorded)).map (·.event)

@[simp]
theorem recorded_grant (s : State program) (cpu : Nat) (run : Run) (event : KernelEvent)
    (ring : RecordRing program.shape) : (s.grant cpu run event ring).recorded = s.recorded ++ [event] := by
  simp [recorded, grant]

@[simp]
theorem recorded_refuse (s : State program) (run : Run) (event : KernelEvent) :
    (s.refuse run event).recorded = s.recorded := by
  simp [recorded, refuse]

end State

/-- The callback was called for this event alone. -/
def Reports (delivered : SecurityEventVariant) (event : KernelEvent) : Prop :=
  ∃ padding, rawSampleCallback (some ⟨true⟩) (some (event.bytes padding)) event.size = [delivered]

/-- An execve that found a whole ring of records unread, or after whose record a whole ring of them
was reserved before its last look at it. -/
def Verdict.Overrun (v : Verdict) : Prop :=
  programOf v.run.hook = .processMonitor ∧
    ((∃ unread, v.outcome = .refused unread ∧ Program.processMonitor.limit ≤ unread) ∨
      ∃ later, v.outcome = .recorded later ∧ Program.processMonitor.limit ≤ later)

structure Invariant {program : Program} (s : State program) (contents : List (Option (List UInt8))) : Prop where
  keeps : s.ring.Keeps contents
  reserved : s.recorded.length = s.ring.reserved
  made : ∀ event ∈ s.recorded, ∃ run : Run, programOf run.hook = program ∧ run.event = some event
  written : ∀ (k : Nat) (bytes : List UInt8), contents[k]? = some (some bytes) →
    ∃ event padding, s.recorded[k]? = some event ∧ bytes = event.bytes padding
  filling : ∀ cpu run record event, s.cpus cpu = .filling run record event →
    run.event = some event ∧ programOf run.hook = program ∧ contents[record]? = some none ∧
      s.recorded[record]? = some event
  leaving : ∀ cpu run record event, s.cpus cpu = .leaving run record event →
    run.event = some event ∧ programOf run.hook = program ∧
      ∃ padding, contents[record]? = some (some (event.bytes padding))
  apart : ∀ first second run run' record event event', s.cpus first = .filling run record event →
    s.cpus second = .filling run' record event' → first = second
  delivered : List.Forall₂ Reports s.delivered (s.recorded.take s.ring.consumed)
  attempts : ∀ attempt ∈ s.attempts, attempt.recorded = decide (attempt.unread < program.limit)
  verdicts : ∀ v ∈ s.verdicts, (v.enforced = true ↔ v.run.Due) ∨ v.Overrun

theorem invariant_start (program : Program) (memory : Nat → UInt8) : Invariant (start program memory) [] where
  keeps := RecordRing.keeps_empty memory
  reserved := rfl
  made _ member := nomatch member
  written k bytes found := by simp at found
  filling _ _ _ _ here := nomatch here
  leaving _ _ _ _ here := nomatch here
  apart _ _ _ _ _ _ _ here := nomatch here
  delivered := .nil
  attempts _ member := nomatch member
  verdicts _ member := nomatch member

section
variable {program : Program} {s : State program} {contents : List (Option (List UInt8))}

theorem Invariant.size_eq (inv : Invariant s contents) {event : KernelEvent} (member : event ∈ s.recorded) :
    event.size = program.size := by
  obtain ⟨run, hooked, made⟩ := inv.made event member
  rw [size_of_event made, hooked]

theorem forall_mem_concat {T : Type} {P : T → Prop} {list : List T} (all : ∀ x ∈ list, P x) {last : T} (holds : P last) :
    ∀ x ∈ list ++ [last], P x := by
  rw [List.forall_mem_append]
  exact ⟨all, by simpa using holds⟩

theorem getElem?_concat {T : Type} {list : List T} {k : Nat} {x : T} (found : list[k]? = some x) (last : T) :
    (list ++ [last])[k]? = some x := by
  rw [List.getElem?_append_left (List.getElem?_eq_some_iff.mp found).1, found]

theorem refuse_keeps (inv : Invariant s contents) {run : Run} (hooked : programOf run.hook = program)
    (event : KernelEvent) (full : s.ring.reserve = none) : Invariant (s.refuse run event) contents := by
  have late : program.limit ≤ s.ring.unread := by
    unfold RecordRing.reserve at full
    exact limit_le.mp (by simpa using full)
  have same := s.recorded_refuse run event
  refine ⟨inv.keeps, ?_, ?_, ?_, ?_, inv.leaving, inv.apart, ?_, ?_, ?_⟩
  · rw [same]
    exact inv.reserved
  · rw [same]
    exact inv.made
  · rw [same]
    exact inv.written
  · rw [same]
    exact inv.filling
  · rw [same]
    exact inv.delivered
  · exact forall_mem_concat inv.attempts (decide_eq_false (Nat.not_lt.mpr late)).symm
  · refine forall_mem_concat inv.verdicts ?_
    by_cases other : programOf run.hook = .processMonitor
    · exact .inr ⟨other, .inl ⟨_, rfl, by rwa [← other, hooked]⟩⟩
    · exact .inl (enforces_iff_due other _)

theorem goto_cpus {cpu other : Nat} {pc there : Pc} (here : (s.goto cpu pc).cpus other = there) :
    (other = cpu ∧ pc = there) ∨ other ≠ cpu ∧ s.cpus other = there := by
  by_cases same : other = cpu
  · subst same
    exact .inl ⟨rfl, by simpa [State.goto] using here⟩
  · exact .inr ⟨same, by simpa [State.goto, same] using here⟩

theorem grant_keeps (inv : Invariant s contents) {cpu : Nat} {run : Run}
    (hooked : programOf run.hook = program) {event : KernelEvent} (made : run.event = some event)
    {ring : RecordRing program.shape} (reserves : s.ring.reserve = some ring) :
    Invariant (s.grant cpu run event ring) (contents ++ [none]) := by
  obtain ⟨room, counted⟩ := RecordRing.reserve_eq_some.mp reserves
  have length := inv.keeps.length
  have same := s.recorded_grant cpu run event ring
  -- the new record is behind all the others, so no other CPU is filling it
  have older {record : Nat} {content : Option (List UInt8)} (found : contents[record]? = some content) :
      record ≠ s.ring.reserved := by
    have bound := (List.getElem?_eq_some_iff.mp found).1
    omega
  refine ⟨inv.keeps.reserve reserves, ?_, ?_, ?_, ?_, ?_, ?_, ?_, ?_, inv.verdicts⟩
  · rw [same, List.length_append, inv.reserved, State.grant, ← counted]
    rfl
  · rw [same]
    exact forall_mem_concat inv.made ⟨run, hooked, made⟩
  · rw [same]
    intro k bytes found
    obtain ⟨event', padding, listed, rfl⟩ := inv.written k bytes (by grind)
    exact ⟨event', padding, getElem?_concat listed _, rfl⟩
  · rw [same]
    intro other run' record event' here
    rcases goto_cpus here with ⟨-, now⟩ | ⟨-, there⟩
    · cases now
      exact ⟨made, hooked, by simp [← length], by simp [← inv.reserved]⟩
    · obtain ⟨made', hooked', held, listed⟩ := inv.filling _ _ _ _ there
      exact ⟨made', hooked', getElem?_concat held _, getElem?_concat listed _⟩
  · intro other run' record event' here
    rcases goto_cpus here with ⟨-, ⟨⟩⟩ | ⟨-, there⟩
    obtain ⟨made', hooked', padding, held⟩ := inv.leaving _ _ _ _ there
    exact ⟨made', hooked', padding, getElem?_concat held _⟩
  · intro first second run' run'' record event' event'' here there
    rcases goto_cpus here with ⟨rfl, now⟩ | ⟨-, old⟩
    · rcases goto_cpus there with ⟨rfl, -⟩ | ⟨-, old⟩
      · rfl
      · cases now
        exact absurd rfl (older (inv.filling _ _ _ _ old).2.2.1)
    · rcases goto_cpus there with ⟨rfl, now⟩ | ⟨-, old'⟩
      · cases now
        exact absurd rfl (older (inv.filling _ _ _ _ old).2.2.1)
      · exact inv.apart _ _ _ _ _ _ _ old old'
  · have behind : s.ring.consumed ≤ s.recorded.length := by
      rw [inv.reserved]
      exact inv.keeps.behind
    rw [same, show (s.grant cpu run event ring).ring.consumed = s.ring.consumed by rw [State.grant, ← counted],
      List.take_append_of_le_length behind]
    exact inv.delivered
  · refine forall_mem_concat inv.attempts (decide_eq_true ?_).symm
    exact Nat.lt_of_not_le fun late => limit_le.mpr late room

theorem enter_keeps (inv : Invariant s contents) {cpu : Nat} {run : Run}
    (hooked : programOf run.hook = program) : ∃ contents, Invariant (s.enter cpu run) contents := by
  unfold State.enter
  cases made : run.event with
  | none =>
    refine ⟨contents, { inv with verdicts := ?_ }⟩
    exact forall_mem_concat inv.verdicts (.inl (enforces_unneeded made _))
  | some event =>
    dsimp only
    cases reserves : s.ring.reserve with
    | none => exact ⟨_, refuse_keeps inv hooked event reserves⟩
    | some ring => exact ⟨_, grant_keeps inv hooked made reserves⟩

theorem submit_keeps (inv : Invariant s contents) {cpu : Nat} {run : Run} {record : Nat} {event : KernelEvent}
    (here : s.cpus cpu = .filling run record event) :
    Invariant (s.submit cpu run record event) (contents.set record (some (event.bytes (s.byteAt record)))) := by
  obtain ⟨made, hooked, held, listed⟩ := inv.filling _ _ _ _ here
  have present : record < contents.length := (List.getElem?_eq_some_iff.mp held).1
  have fills : (event.bytes (s.byteAt record)).length = program.shape.size := by
    rw [KernelEvent.length_bytes]
    exact inv.size_eq (List.mem_of_getElem? listed)
  refine ⟨inv.keeps.commit held fills, inv.reserved, inv.made, ?_, ?_, ?_, ?_, inv.delivered, inv.attempts,
    inv.verdicts⟩
  · intro k bytes found
    by_cases same : k = record
    · subst same
      rw [List.getElem?_set_self present] at found
      cases found
      exact ⟨event, _, listed, rfl⟩
    · rw [List.getElem?_set_ne (Ne.symm same)] at found
      exact inv.written k bytes found
  · intro other run' record' event' there
    rcases goto_cpus there with ⟨-, ⟨⟩⟩ | ⟨different, old⟩
    obtain ⟨made', hooked', held', listed'⟩ := inv.filling _ _ _ _ old
    have apart : record ≠ record' := by
      rintro rfl
      exact different (inv.apart _ _ _ _ _ _ _ old here)
    exact ⟨made', hooked', by rwa [List.getElem?_set_ne apart], listed'⟩
  · intro other run' record' event' there
    rcases goto_cpus there with ⟨-, now⟩ | ⟨-, old⟩
    · cases now
      exact ⟨made, hooked, _, List.getElem?_set_self present⟩
    · obtain ⟨made', hooked', padding, held'⟩ := inv.leaving _ _ _ _ old
      have apart : record ≠ record' := by
        rintro rfl
        rw [held] at held'
        cases held'
      exact ⟨made', hooked', padding, by rwa [List.getElem?_set_ne apart]⟩
  · intro first second run' run'' record' event' event'' one two
    rcases goto_cpus one with ⟨-, ⟨⟩⟩ | ⟨-, old⟩
    rcases goto_cpus two with ⟨-, ⟨⟩⟩ | ⟨-, old'⟩
    exact inv.apart _ _ _ _ _ _ _ old old'

/-- The flag is where the other end of the struct has it. -/
theorem flag_of_load {s : State .processMonitor} {record : Nat} {e : ProcessExecEvent} {padding : Nat → UInt8}
    (loaded : Program.processMonitor.shape.load s.ring.memory record = (KernelEvent.process e).bytes padding) :
    s.flag record = e.isPrivilegeEscalation := by
  have stored : (((KernelEvent.process e).bytes padding).drop 32).take 1 = [e.isPrivilegeEscalation] := by
    refine ((KernelEvent.process e).member_bytes padding 7 (by decide : 7 < 11)).trans ?_
    exact congrArg (fun b => [b]) e.isPrivilegeEscalation.ofNat_toNat
  have byte := congrArg List.head? stored
  have inside : 32 < Program.processMonitor.shape.size := by decide
  rw [List.head?_take, if_neg (by decide), List.head?_drop, ← loaded, RingShape.load, List.getElem?_map,
    List.getElem?_range inside] at byte
  exact Option.some.inj byte

theorem process_of_event {run : Run} (hooked : programOf run.hook = .processMonitor) {event : KernelEvent}
    (made : run.event = some event) : ∃ e, event = .process e := by
  obtain ⟨task, hook, stale⟩ := run
  cases hook with
  | sysEnter maps id => cases hooked
  | connect4 maps ctx => cases hooked
  | execve maps ctx =>
    obtain ⟨e, -, same⟩ := Option.map_eq_some_iff.mp made
    exact ⟨e, same.symm⟩

theorem finish_keeps (inv : Invariant s contents) {cpu : Nat} {run : Run} {record : Nat} {event : KernelEvent}
    (here : s.cpus cpu = .leaving run record event) : Invariant (s.finish cpu run record) contents := by
  obtain ⟨made, hooked, padding, held⟩ := inv.leaving _ _ _ _ here
  refine ⟨inv.keeps, inv.reserved, inv.made, inv.written, ?_, ?_, ?_, inv.delivered, inv.attempts, ?_⟩
  · intro other run' record' event' there
    rcases goto_cpus there with ⟨-, ⟨⟩⟩ | ⟨-, old⟩
    exact inv.filling _ _ _ _ old
  · intro other run' record' event' there
    rcases goto_cpus there with ⟨-, ⟨⟩⟩ | ⟨-, old⟩
    exact inv.leaving _ _ _ _ old
  · intro first second run' run'' record' event' event'' one two
    rcases goto_cpus one with ⟨-, ⟨⟩⟩ | ⟨-, old⟩
    rcases goto_cpus two with ⟨-, ⟨⟩⟩ | ⟨-, old'⟩
    exact inv.apart _ _ _ _ _ _ _ old old'
  · refine forall_mem_concat inv.verdicts ?_
    by_cases other : programOf run.hook = .processMonitor
    · obtain rfl : program = .processMonitor := hooked.symm.trans other
      by_cases lost : Program.processMonitor.limit ≤ s.ring.reserved - (record + 1)
      · exact .inr ⟨other, .inr ⟨_, rfl, lost⟩⟩
      · obtain ⟨e, rfl⟩ := process_of_event other made
        have there : record < s.ring.reserved := by
          rw [← inv.keeps.length]
          exact (List.getElem?_eq_some_iff.mp held).1
        -- the records after it have not come round to it
        have turn : (s.ring.reserved - record) * Program.processMonitor.shape.length ≤
            Program.processMonitor.shape.capacity := by
          have less := not_not.mp (mt limit_le.mp lost)
          rw [show s.ring.reserved - record = s.ring.reserved - (record + 1) + 1 by omega]
          exact Nat.le_of_lt less
        have flag := flag_of_load (inv.keeps.stored _ _ held turn)
        refine .inl ?_
        rw [flag]
        exact enforces_flag made _
    · exact .inl (enforces_iff_due other _)

theorem callback_single (event : KernelEvent) (padding : Nat → UInt8) :
    ∃ delivered, rawSampleCallback (some ⟨true⟩) (some (event.bytes padding)) event.size = [delivered] := by
  cases event with
  | syscall e => exact ⟨_, dispatch_syscall rfl e padding⟩
  | network e =>
    obtain ⟨event, called⟩ := dispatch_network rfl e padding
    exact ⟨_, called⟩
  | process e => exact ⟨_, dispatch_process rfl e padding⟩

theorem report_keeps (inv : Invariant s contents) {bytes : List UInt8} {ring : RecordRing program.shape}
    (taken : s.ring.take = some (bytes, ring)) : Invariant (s.report bytes ring) contents := by
  obtain ⟨found, keeps, consumed⟩ := inv.keeps.take taken
  obtain ⟨event, padding, listed, rfl⟩ := inv.written _ _ found
  have size : event.size = program.size := inv.size_eq (List.mem_of_getElem? listed)
  obtain ⟨delivered, called⟩ := callback_single event padding
  have same : ring.reserved = s.ring.reserved := keeps.length.symm.trans inv.keeps.length
  refine ⟨keeps, inv.reserved.trans same.symm, inv.made, inv.written, inv.filling, inv.leaving, inv.apart, ?_,
    inv.attempts, inv.verdicts⟩
  change List.Forall₂ Reports (s.delivered ++ rawSampleCallback (some ⟨true⟩) (some (event.bytes padding)) program.size)
    (s.recorded.take ring.consumed)
  rw [← size, called, consumed, List.take_add_one, listed]
  exact List.rel_append inv.delivered (.cons ⟨padding, called⟩ .nil)

theorem step_keeps (inv : Invariant s contents) {action : Action} {after : State program}
    (taken : step action s = some after) : ∃ contents, Invariant after contents := by
  cases action with
  | enter cpu task hook =>
    simp only [step] at taken
    split at taken
    · obtain ⟨hooked, same⟩ := Option.ite_none_right_eq_some.mp taken
      cases same
      exact enter_keeps inv hooked
    · cases taken
  | submit cpu =>
    simp only [step] at taken
    split at taken
    · rename_i here
      cases taken
      exact ⟨_, submit_keeps inv here⟩
    · cases taken
  | finish cpu =>
    simp only [step] at taken
    split at taken
    · rename_i here
      cases taken
      exact ⟨_, finish_keeps inv here⟩
    · cases taken
  | poll =>
    obtain ⟨found, took, rfl⟩ := Option.map_eq_some_iff.mp taken
    exact ⟨_, report_keeps inv took⟩

end

theorem run_keeps {program : Program} (actions : List Action) {s : State program}
    (initial : ∃ contents, Invariant s contents) : ∃ contents, Invariant (run actions s) contents := by
  induction actions generalizing s with
  | nil => exact initial
  | cons action rest ih =>
    apply ih
    refine taken_keeps (fun s => ∃ contents, Invariant s contents) initial fun after taken => ?_
    obtain ⟨contents, inv⟩ := initial
    exact step_keeps inv taken

theorem Reports.carries {delivered : SecurityEventVariant} {event : KernelEvent} (reports : Reports delivered event)
    (transportable : event.Transportable) : delivered.Carries event := by
  obtain ⟨padding, called⟩ := reports
  obtain ⟨delivered', called', carries⟩ := (transport_faithful_iff rfl event padding).mpr transportable
  rw [called] at called'
  cases called'
  exact carries

/-- Every event that is reported was emitted, and is reported once, whole and in the order of the
records; one gets no record only while the ring is full. So if the reader never falls behind by a
whole ring, nothing is missing when it has caught up. -/
theorem alerts_arrive {program : Program} (other : program ≠ .netFilter) (memory : Nat → UInt8)
    (actions : List Action) :
    let s := run actions (start program memory)
    List.Forall₂ SecurityEventVariant.Carries s.delivered (s.recorded.take s.ring.consumed) ∧
      (∀ attempt ∈ s.attempts, attempt.recorded = decide (attempt.unread < program.limit)) ∧
      ((∀ attempt ∈ s.attempts, attempt.unread < program.limit) → s.ring.unread = 0 →
        List.Forall₂ SecurityEventVariant.Carries s.delivered (s.attempts.map (·.event))) := by
  intro s
  obtain ⟨contents, inv⟩ : ∃ contents, Invariant s contents := run_keeps actions ⟨_, invariant_start program memory⟩
  have carried : List.Forall₂ SecurityEventVariant.Carries s.delivered (s.recorded.take s.ring.consumed) := by
    obtain ⟨length, reports⟩ := List.forall₂_iff_zip.mp inv.delivered
    refine List.forall₂_iff_zip.mpr ⟨length, fun pair => ?_⟩
    obtain ⟨run, hooked, made⟩ := inv.made _ (List.mem_of_mem_take (List.of_mem_zip pair).2)
    exact (reports pair).carries (transportable_of_event made (by rwa [hooked]))
  refine ⟨carried, inv.attempts, fun kept caughtUp => ?_⟩
  have all : s.recorded = s.attempts.map (·.event) := by
    refine congrArg _ (List.filter_eq_self.mpr fun attempt member => ?_)
    rw [inv.attempts attempt member]
    exact decide_eq_true (kept attempt member)
  have read : s.recorded.length ≤ s.ring.consumed := by
    rw [inv.reserved]
    exact Nat.sub_eq_zero_iff_le.mp caughtUp
  rwa [List.take_of_length_le read, all] at carried

/-- A task in cgroup 42 that calls `ptrace`, which is blocked there. -/
def tracer (ktimeNs : UInt64) : Task := ⟨42, 0x0000000700000007, ktimeNs, Vector.replicate 16 0⟩

def ptraceHook : Hook := .sysEnter ⟨HashTable.empty.put 42 1, (ArrayTable.filled 0).put 101 1⟩ 101

/-- The second processor submits first, and the reader waits for the first one. -/
def crossing : List Action :=
  [.enter 0 (tracer 1) ptraceHook, .enter 1 (tracer 2) ptraceHook, .submit 1, .poll, .submit 0, .poll, .finish 0, .poll,
    .finish 1]

theorem crossing_arrives :
    let s := run crossing (start .sysFilter fun _ => 0)
    s.attempts.length = 2 ∧ List.Forall₂ SecurityEventVariant.Carries s.delivered (s.attempts.map (·.event)) := by
  intro s
  have kept : (s.attempts.all fun attempt => attempt.unread < Program.sysFilter.limit) = true := by decide +kernel
  refine ⟨by decide +kernel, (alerts_arrive (by decide) _ crossing).2.2 ?_ (by decide +kernel)⟩
  simpa using kept

/-- A run does what the policy asks for, whatever becomes of its record, except for an execve on
which a whole ring of records has come in between. -/
theorem verdicts_due {program : Program} (memory : Nat → UInt8) (actions : List Action) :
    ∀ v ∈ (run actions (start program memory)).verdicts, (v.enforced = true ↔ v.run.Due) ∨ v.Overrun := by
  obtain ⟨contents, inv⟩ := run_keeps actions ⟨_, invariant_start program memory⟩
  exact inv.verdicts

def rootExecve : List Action :=
  [.enter 0 (tracer 1) (.execve ⟨HashTable.empty.put 42 1⟩ ⟨0, 1, .null⟩), .submit 0, .poll, .finish 0]

/-- The reader may have the record already when the program looks at it again. -/
theorem rootExecve_killed :
    ∃ v ∈ (run rootExecve (start .processMonitor fun _ => 0)).verdicts, v.enforced = true := by
  obtain ⟨v, same, due, outcome⟩ : ∃ v, (run rootExecve (start .processMonitor fun _ => 0)).verdicts = [v] ∧
      v.run.Due ∧ v.outcome = .recorded 0 := ⟨_, rfl, ⟨⟨1, rfl, by decide⟩, rfl⟩, rfl⟩
  have member : v ∈ (run rootExecve (start .processMonitor fun _ => 0)).verdicts := by
    rw [same]
    exact List.mem_cons_self
  refine ⟨v, member, ?_⟩
  rcases verdicts_due _ _ v member with done | ⟨-, ⟨unread, refused, -⟩ | ⟨later, recorded, late⟩⟩
  · exact done.mpr due
  · rw [outcome] at refused
    cases refused
  · rw [outcome] at recorded
    cases recorded
    exact absurd late (by decide)

end Aegis.Ebpf.Pipeline
