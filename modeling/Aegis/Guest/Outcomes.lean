import Aegis.Guest.Agent

/-! What the agent answers about an execution.

Times are in nanoseconds from the making of the context; they are part of what happens and
not read from a clock. Whether the deadline has passed is looked at after the process has
ended and its pipes have been closed, not when it ends; if a process keeps the pipes for good there
is no answer.
-/

set_option autoImplicit false

namespace Aegis.Guest
open Library

def second : Int := 10 ^ 9

def defaultTimeout : Int := 15 * second

/-- The product is taken in 64 bits. -/
def timeout (req : ExecutionRequest) : Int :=
  if 0 < req.timeoutSec then (req.timeoutSec * second).bmod (2 ^ 64) else defaultTimeout

/-- The timeout that was asked for. -/
def requestedTimeout (req : ExecutionRequest) : Int :=
  if 0 < req.timeoutSec then req.timeoutSec * second else defaultTimeout

/-- A context with a timeout expires when its timer is served, at once if there is none to set. -/
structure Context (timeout : Int) where
  expires : Nat
  timed : timeout ≤ expires
  overdue : timeout ≤ 0 → expires = 0

/-- How a process ends that is not killed by the agent. -/
inductive Ending where
  | exited (code : UInt8)
  | signalled
  deriving DecidableEq, Repr

def Ending.exitCode : Ending → Int
  | .exited code => code.toNat
  | .signalled => -1

/-- A process that has ended: when, when `Wait` notices, and when the last holder of the pipes
closes them, if ever. `overtaken` says that the kill was sent in between. -/
structure Ended (expires : Nat) where
  start : Nat
  time : Nat
  ending : Ending
  noticed : Nat
  overtaken : Bool := false
  closed : Option Nat
  delay : Nat := 0
  start_lt : start < expires
  start_le : start ≤ time
  time_le : time ≤ noticed
  overtaken_le : overtaken = true → expires ≤ noticed

/-- A process that was still there when the kill was sent. -/
structure Killed (expires : Nat) where
  start : Nat
  time : Nat
  closed : Option Nat
  delay : Nat := 0
  start_lt : start < expires
  expires_le : expires ≤ time

/-- When the context is looked at: some time after `Run` has returned, which waits for the process
and for its pipes. -/
def Ended.looked {expires : Nat} (process : Ended expires) : Option Nat :=
  process.closed.map fun closed => max process.noticed closed + process.delay

def Killed.looked {expires : Nat} (process : Killed expires) : Option Nat :=
  process.closed.map fun closed => max process.time closed + process.delay

/-- What becomes of the command. It is not started in a context that has expired. -/
inductive Execution (expires : Nat) where
  | refused (looked : Nat) (late : expires ≤ looked)
  | failed (message : Bytes) (looked : Nat)
  | ended (process : Ended expires)
  | killed (process : Killed expires)

/-- What it has written, and the time it took. -/
structure Output where
  stdout : Bytes := []
  stderr : Bytes := []
  durationMs : Bytes := bytesOf "0"

namespace Execution
variable {expires : Nat}

def looked : Execution expires → Option Nat
  | refused looked _ | failed _ looked => some looked
  | ended process => process.looked
  | killed process => process.looked

/-- The error of `cmd.Run`. A kill that was sent makes one even of a success. -/
def runError : Execution expires → Option RunError
  | refused _ _ => some (.other (bytesOf "context deadline exceeded"))
  | failed message _ => some (.other message)
  | ended process =>
      if process.ending = .exited 0 then
        if process.overtaken then some (.other (bytesOf "context deadline exceeded")) else none
      else some (.exit process.ending.exitCode)
  | killed _ => some (.exit (-1))

/-- What the agent sees, once `Run` has returned. -/
def env (execution : Execution expires) (output : Output) : Option GuestEnv :=
  execution.looked.map fun looked => {
    runError := execution.runError
    deadlineExceeded := expires ≤ looked
    stdout := output.stdout
    stderr := output.stderr
    durationMs := output.durationMs }

/-- The response, `none` if it is never sent. -/
def answer (execution : Execution expires) (stream : Bytes) (output : Output) : Option ExecutionResponse :=
  (execution.env output).bind (handleConnection stream)

/-- The process did not end before this time. -/
def RunsUntil (time : Int) : Execution expires → Prop
  | refused _ _ | failed _ _ => False
  | ended process => time ≤ process.time
  | killed process => time ≤ process.time

end Execution

def timeoutMessage : Bytes := bytesOf "Execution timed out inside guest microVM"

def ExecutionResponse.TimedOut (resp : ExecutionResponse) : Prop :=
  resp.exitCode = 124 ∧ resp.errorString = timeoutMessage

/-- There is an answer, and it says that the time was up just if it was, and else how the script has
exited. -/
def Faithful (stream : Bytes) (req : ExecutionRequest) {expires : Nat} (execution : Execution expires)
    (output : Output) : Prop :=
  ∃ resp, execution.answer stream output = some resp ∧
    (resp.TimedOut ↔ execution.RunsUntil (requestedTimeout req)) ∧
    (¬ execution.RunsUntil (requestedTimeout req) → ∀ process code, execution = .ended process →
      process.ending = .exited code → resp.exitCode = code.toNat ∧ resp.errorString = [])

/-! The duration. -/

theorem timeout_of_small {req : ExecutionRequest} (small : req.timeoutSec ≤ 9223372036) :
    timeout req = requestedTimeout req := by
  unfold timeout requestedTimeout
  split
  · rw [second, Int.bmod_eq_of_le (by omega) (by omega)]
  · rfl

/-! The answer. -/

/-- The fields that tell of the outcome, with the context looked at at this time. -/
def Answers (resp : ExecutionResponse) {expires : Nat} (execution : Execution expires) (looked : Nat) : Prop :=
  (resp.exitCode, resp.errorString) =
    exitStatus { runError := execution.runError, deadlineExceeded := expires ≤ looked }

section
variable {expires : Nat} {execution : Execution expires} {looked : Nat} {resp : ExecutionResponse}

theorem answer_request {stream : Bytes} {req : ExecutionRequest} (decoded : decode stream = .request req)
    (returned : execution.looked = some looked) (output : Output) :
    ∃ resp, execution.answer stream output = some resp ∧ Answers resp execution looked := by
  unfold Execution.answer Execution.env
  rw [returned]
  refine ⟨_, by rw [Option.map_some, Option.bind_some, handleConnection, decoded], ?_⟩
  rfl

theorem answer_never {stream : Bytes} (never : execution.looked = none) (output : Output) :
    execution.answer stream output = none := by
  rw [Execution.answer, Execution.env, never]
  rfl

theorem timedOut_iff (answers : Answers resp execution looked) :
    resp.TimedOut ↔ execution.runError ≠ none ∧ expires ≤ looked := by
  have spoken : timeoutMessage ≠ [] := by decide +kernel
  unfold ExecutionResponse.TimedOut
  rw [← Prod.mk_inj, answers]
  unfold exitStatus
  cases error : execution.runError with
  | none => simp
  | some value =>
    by_cases expired : expires ≤ looked
    · simp [expired, timeoutMessage]
    · -- an exit has no message, another error has another code
      cases value with
      | exit code => simp [expired, Ne.symm spoken]
      | other message => simp [expired]

/-- `Run` has no error to tell of. -/
def Ended.Clean (process : Ended expires) : Prop := process.ending = .exited 0 ∧ process.overtaken = false

instance (process : Ended expires) : Decidable process.Clean := inferInstanceAs (Decidable (_ ∧ _))

theorem runError_ended (process : Ended expires) : (Execution.ended process).runError ≠ none ↔ ¬ process.Clean := by
  unfold Execution.runError Ended.Clean
  by_cases success : process.ending = .exited 0
  · cases overtaken : process.overtaken <;> simp [success, overtaken]
  · simp [success]

theorem Ended.noticed_le {process : Ended expires} (returned : process.looked = some looked) :
    process.noticed ≤ looked := by
  obtain ⟨closed, -, rfl⟩ := Option.map_eq_some_iff.mp returned
  omega

theorem Killed.time_le {process : Killed expires} (returned : process.looked = some looked) :
    process.time ≤ looked := by
  obtain ⟨closed, -, rfl⟩ := Option.map_eq_some_iff.mp returned
  omega

/-- A process that ended by itself is reported with its code, unless as timed out. -/
theorem reported_of_ended {process : Ended expires} (returned : process.looked = some looked)
    (answers : Answers resp (.ended process) looked)
    (inTime : ¬ resp.TimedOut) : resp.exitCode = process.ending.exitCode ∧ resp.errorString = [] := by
  rw [timedOut_iff answers] at inTime
  rw [← Prod.mk_inj, answers]
  by_cases success : process.ending = .exited 0
  · cases overtaken : process.overtaken with
    | true =>
      -- the kill was sent after the deadline, so this exit has been called a timeout
      have late : expires ≤ looked := Nat.le_trans (process.overtaken_le overtaken) (Ended.noticed_le returned)
      exact absurd ⟨by simp [Execution.runError, success, overtaken], late⟩ inTime
    | false => simp [exitStatus, Execution.runError, success, overtaken, Ending.exitCode]
  · have early : ¬ expires ≤ looked := fun late => inTime ⟨by simp [Execution.runError, success], late⟩
    simp [exitStatus, Execution.runError, success, early]

end

/-- The answer is right if there is one and it is right about the timeout. -/
theorem faithful_iff_timedOut {stream : Bytes} {req : ExecutionRequest} (decoded : decode stream = .request req)
    {expires : Nat} (execution : Execution expires) (output : Output) :
    Faithful stream req execution output ↔ ∃ looked, execution.looked = some looked ∧
      (execution.runError ≠ none ∧ expires ≤ looked ↔ execution.RunsUntil (requestedTimeout req)) := by
  unfold Faithful
  cases returned : execution.looked with
  | none => simp [answer_never returned]
  | some looked =>
    obtain ⟨resp, given, answers⟩ := answer_request decoded returned output
    simp only [given, Option.some.injEq, exists_eq_left']
    rw [← timedOut_iff answers]
    refine and_iff_left_of_imp fun same done => ?_
    rintro process code rfl exited
    obtain ⟨status, text⟩ := reported_of_ended returned answers fun timedOut => done (same.mp timedOut)
    rw [exited] at status
    exact ⟨status, text⟩

/-- A kill comes when it was asked for, unless the timeout has wrapped around. -/
theorem killed_in_time {req : ExecutionRequest} (small : req.timeoutSec ≤ 9223372036)
    (context : Context (timeout req)) (process : Killed context.expires) : requestedTimeout req ≤ process.time := by
  have timed := context.timed
  have later := process.expires_le
  have same := timeout_of_small small
  omega

/-- The kill comes when it was asked for, the pipes are closed some time, and nothing but a kill or a
late end is followed by the deadline before the context is looked at. -/
def Undisturbed (req : ExecutionRequest) {expires : Nat} : Execution expires → Prop
  | .refused _ _ => False
  | .failed _ looked => looked < expires
  | .ended process => ∃ looked, process.looked = some looked ∧
      if process.time < requestedTimeout req then process.Clean ∨ looked < expires
      else ¬ process.Clean ∧ expires ≤ looked
  | .killed process => process.closed ≠ none ∧
      (req.timeoutSec ≤ 9223372036 ∨ requestedTimeout req ≤ process.time)

/-- The deadline is looked at after the pipes have been closed, and only if there is an error. -/
theorem faithful_iff {stream : Bytes} {req : ExecutionRequest} (decoded : decode stream = .request req)
    (context : Context (timeout req)) (execution : Execution context.expires) (output : Output) :
    Faithful stream req execution output ↔ Undisturbed req execution := by
  rw [faithful_iff_timedOut decoded]
  cases execution with
  | refused looked late => simp [Execution.runError, Execution.looked, Execution.RunsUntil, Undisturbed, late]
  | failed message looked => simp [Execution.runError, Execution.looked, Execution.RunsUntil, Undisturbed]
  | ended process =>
    refine exists_congr fun looked => and_congr_right fun _ => ?_
    rw [runError_ended, Execution.RunsUntil]
    by_cases early : process.time < requestedTimeout req
    · rw [if_pos early, iff_false_right (not_le.mpr early)]
      by_cases clean : process.Clean <;> simp [clean]
    · rw [if_neg early, iff_true_right (not_lt.mp early)]
  | killed process =>
    have killed : (Execution.killed process).runError ≠ none := by simp [Execution.runError]
    constructor
    · rintro ⟨looked, returned, same⟩
      -- the answer is 124 in any case, so that it has to have been due
      have late : context.expires ≤ looked := Nat.le_trans process.expires_le (Killed.time_le returned)
      refine ⟨fun never => ?_, .inr (same.mp ⟨killed, late⟩)⟩
      simp [Execution.looked, Killed.looked, never] at returned
    · rintro ⟨closes, waits⟩
      obtain ⟨closed, given⟩ := Option.ne_none_iff_exists'.mp closes
      have returned : process.looked = some (max process.time closed + process.delay) := by
        rw [Killed.looked, given]
        rfl
      have late := Nat.le_trans process.expires_le (Killed.time_le returned)
      have due : requestedTimeout req ≤ process.time :=
        waits.elim (fun small => killed_in_time small context process) id
      exact ⟨_, returned, iff_of_true ⟨killed, late⟩ due⟩

def Decoding.timeoutSec? : Decoding → Option Int
  | .request req => some req.timeoutSec
  | _ => none

theorem request_of_timeoutSec {stream : Bytes} {seconds : Int} (read : (decode stream).timeoutSec? = some seconds) :
    ∃ req, decode stream = .request req ∧ req.timeoutSec = seconds := by
  cases decoded : decode stream with
  | request req =>
    rw [decoded] at read
    exact ⟨req, rfl, Option.some.inj read⟩
  | failed =>
    rw [decoded] at read
    cases read
  | waiting =>
    rw [decoded] at read
    cases read

/-- A script that exits with 3 after one second and has its output closed. -/
def failingScript : Ended 5000000000 where
  start := 0
  time := 1000000000
  ending := .exited 3
  noticed := 1000000000
  closed := some 1000000000
  start_lt := by decide
  start_le := by decide
  time_le := by decide
  overtaken_le := by decide

theorem failing_script_reported :
    ∃ req, decode (bytesOf "\x7b\"timeout_sec\":5\x7d") = .request req ∧
      Faithful (bytesOf "\x7b\"timeout_sec\":5\x7d") req (.ended failingScript) {} := by
  obtain ⟨req, decoded, seconds⟩ := request_of_timeoutSec
    (show (decode (bytesOf "\x7b\"timeout_sec\":5\x7d")).timeoutSec? = some 5 by decide +kernel)
  have effective : timeout req = 5000000000 := by
    rw [timeout, seconds]
    decide
  have asked : requestedTimeout req = 5000000000 := by
    rw [requestedTimeout, seconds]
    decide
  let context : Context (timeout req) := ⟨5000000000, by rw [effective]; decide, by rw [effective]; decide⟩
  have early : (failingScript.time : Int) < 5000000000 := by decide
  have inTime : 1000000000 < 5000000000 := by decide
  refine ⟨req, decoded, (faithful_iff decoded context (.ended failingScript) {}).mpr ⟨1000000000, rfl, ?_⟩⟩
  rw [asked, if_pos early]
  exact .inr inTime

/-- The same script without a timeout of its own, and a child that keeps the pipes for 20 seconds. -/
def sharedPipes : Ended 15000000000 where
  start := 0
  time := 1000000000
  ending := .exited 3
  noticed := 1000000000
  closed := some 20000000000
  start_lt := by decide
  start_le := by decide
  time_le := by decide
  overtaken_le := by decide

/-- A script killed in time, whose child keeps the pipes for good. -/
def orphanedPipes : Killed 5000000000 where
  start := 0
  time := 5000000000
  closed := none
  start_lt := by decide
  expires_le := by decide

/-- An early exit is called a timeout when a child keeps the pipes, a long timeout wraps around
into one that is over before the script is started, and a child that never closes the pipes leaves
a timeout without an answer. -/
theorem timeouts_misreported :
    (∃ req, decode (bytesOf "\x7b\x7d") = .request req ∧ ∃ context : Context (timeout req),
      context.expires = 15000000000 ∧ ¬ Faithful (bytesOf "\x7b\x7d") req (.ended sharedPipes) {}) ∧
    (∃ req, decode (bytesOf "\x7b\"timeout_sec\":9223372037\x7d") = .request req ∧
      ∃ context : Context (timeout req), context.expires = 0 ∧
        ¬ Faithful (bytesOf "\x7b\"timeout_sec\":9223372037\x7d") req (.refused 0 (le_refl 0) : Execution 0) {}) ∧
    ∃ req, decode (bytesOf "\x7b\"timeout_sec\":5\x7d") = .request req ∧ ∃ context : Context (timeout req),
      context.expires = 5000000000 ∧ ¬ Faithful (bytesOf "\x7b\"timeout_sec\":5\x7d") req (.killed orphanedPipes) {} := by
  refine ⟨?_, ?_, ?_⟩
  -- the script ends in time, but its pipes are held open past the deadline
  · obtain ⟨req, decoded, seconds⟩ := request_of_timeoutSec
      (show (decode (bytesOf "\x7b\x7d")).timeoutSec? = some 0 by decide +kernel)
    have effective : timeout req = 15000000000 := by
      rw [timeout, seconds]
      decide
    have asked : requestedTimeout req = 15000000000 := by
      rw [requestedTimeout, seconds]
      decide
    refine ⟨req, decoded, ⟨15000000000, by rw [effective]; decide, by rw [effective]; decide⟩, rfl, ?_⟩
    rw [faithful_iff_timedOut decoded, asked, Execution.RunsUntil]
    rintro ⟨looked, returned, same⟩
    cases returned
    exact absurd (same.mp ⟨by decide, by decide⟩) (by decide)
  -- the seconds overflow to a negative duration, and the script is never started
  · obtain ⟨req, decoded, seconds⟩ := request_of_timeoutSec
      (show (decode (bytesOf "\x7b\"timeout_sec\":9223372037\x7d")).timeoutSec? = some 9223372037 by decide +kernel)
    have effective : timeout req = -9223372036709551616 := by
      rw [timeout, seconds]
      decide
    refine ⟨req, decoded, ⟨0, by rw [effective]; decide, fun _ => rfl⟩, rfl, ?_⟩
    rw [faithful_iff_timedOut decoded]
    rintro ⟨looked, returned, same⟩
    exact same.mp ⟨by decide, Nat.zero_le looked⟩
  -- the script is killed, but what it started keeps the pipes, and no answer comes
  · obtain ⟨req, decoded, seconds⟩ := request_of_timeoutSec
      (show (decode (bytesOf "\x7b\"timeout_sec\":5\x7d")).timeoutSec? = some 5 by decide +kernel)
    have effective : timeout req = 5000000000 := by
      rw [timeout, seconds]
      decide
    refine ⟨req, decoded, ⟨5000000000, by rw [effective]; decide, by rw [effective]; decide⟩, rfl, ?_⟩
    rintro ⟨resp, given, -⟩
    rw [answer_never rfl] at given
    cases given

end Aegis.Guest
