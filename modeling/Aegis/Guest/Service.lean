import Aegis.Guest.ChildEnvironment
import Aegis.Guest.Encoder
import Aegis.Guest.Outcomes
import Aegis.Guest.Scripts

/-! The agent while it serves any number of connections at once.

A connection is followed from its first byte to the removal of its script. Some of the clients may
send anything. How much has arrived, when a process is started and what becomes of it is up to the
steps.
-/

set_option autoImplicit false

namespace Aegis.Guest
open Library

/-- What `exec.CommandContext` is called with, and the environment that is set afterwards. -/
structure Command where
  args : List Bytes
  env : List Bytes
  timeout : Int
  deriving DecidableEq

def pythonCommand (osEnviron : List Bytes) (req : ExecutionRequest) (walk : Walk req.environment) (nanos : Int) :
    Command where
  args := bytesOf "python3" :: bytesOf (scriptPath nanos) :: req.cliArgs
  env := childEnv osEnviron walk
  timeout := timeout req

/-- `received` counts the bytes that the decoder has been given. The other fields are set as the
goroutine gets to them; `reading` is what the clock told it, and `unremoved` says that its script
could not be removed. -/
structure Connection where
  received : Nat := 0
  request : Option ExecutionRequest := none
  reading : Option Int := none
  command : Option Command := none
  outcome : Option GuestEnv := none
  answer : Option Bytes := none
  unremoved : Bool := false

/-- The files, with the place of each goroutine, are those of the scripts. -/
structure Service where
  agent : Agent
  connections : Nat → Connection := fun _ => {}

namespace Service

def update (s : Service) (i : Nat) (connection : Connection) : Service :=
  { s with connections := Function.update s.connections i connection }

theorem update_self (s : Service) (i : Nat) (connection : Connection) :
    (s.update i connection).connections i = connection := Function.update_self _ _ _

theorem update_of_ne (s : Service) {i j : Nat} (other : j ≠ i) (connection : Connection) :
    (s.update i connection).connections j = s.connections j := Function.update_of_ne other _ _

def requests (s : Service) (i : Nat) : ExecutionRequest := (s.connections i).request.getD {}

def script (s : Service) (action : ScriptAction) : Option Service :=
  (scriptStep s.requests action s.agent).map fun agent => { s with agent }

end Service

inductive ServiceAction where
  /-- So many bytes have come in. -/
  | receive (i count : Nat)
  | decode (i : Nat) (error : Bytes)
  | readClock (i : Nat) (now : Int)
  | writeScript (i : Nat)
  | failWrite (i : Nat) (left : Option Bytes) (error : Bytes)
  | start (i : Nat)
  | readScript (i : Nat)
  /-- `cmd.Run` returns, whether python3 was started or not. -/
  | finish (i : Nat) (run : GuestEnv)
  | answer (i : Nat)
  | removeScript (i : Nat)
  | failRemove (i : Nat)

/-- The step on the files. -/
def ServiceAction.file : ServiceAction → Option ScriptAction
  | .readClock i now => some (.readClock i now)
  | .writeScript i => some (.writeScript i)
  | .failWrite i left _ => some (.failWrite i left)
  | .readScript i => some (.readScript i)
  | .removeScript i => some (.removeScript i)
  | .failRemove i => some (.failRemove i)
  | _ => none

-- What a client sends is given, and so is the order in which its goroutine would walk over a map.
variable (texts : Nat → Bytes) (osEnviron : List Bytes)
variable (walks : Nat → (table : Finmap fun _ : Bytes => Bytes) → Walk table)

def Service.reply (s : Service) (i : Nat) (env : GuestEnv) : Service :=
  let connection := s.connections i
  s.update i { connection with
    answer := (handleConnection ((texts i).take connection.received) env).map ExecutionResponse.encode }

def serviceStep (action : ServiceAction) (s : Service) : Option Service :=
  match action with
  | .receive i count =>
      let c := s.connections i
      if c.request.isNone ∧ c.answer.isNone ∧ c.received ≤ count then
        some (s.update i { c with received := count })
      else none
  | .decode i error =>
      let c := s.connections i
      if c.request.isNone ∧ c.answer.isNone then
        match decode ((texts i).take c.received) with
        | .waiting => none
        | .failed => some (s.reply texts i { decodeError := error })
        | .request req => some (s.update i { c with request := some req })
      else none
  | .readClock i now =>
      let c := s.connections i
      if c.request.isSome then
        (s.script (.readClock i now)).map fun s => s.update i { c with reading := some now }
      else none
  | .writeScript i => s.script (.writeScript i)
  | .failWrite i left error =>
      -- the removal is deferred only behind this return
      (s.script (.failWrite i left)).map fun s => s.reply texts i { writeError := some error }
  | .start i =>
      let c := s.connections i
      match c.request, s.agent.stage i with
      | some req, .written nanos =>
          if c.command.isNone ∧ c.outcome.isNone then
            some (s.update i { c with command := some (pythonCommand osEnviron req (walks i req.environment) nanos) })
          else none
      | _, _ => none
  | .readScript i =>
      let c := s.connections i
      if c.command.isSome ∧ c.outcome.isNone then s.script (.readScript i) else none
  | .finish i run =>
      let c := s.connections i
      if (s.agent.stage i).nanos.isSome ∧ c.outcome.isNone ∧ run.writeError = none ∧
          Json.isNumber run.durationMs then
        some (s.update i { c with outcome := some run })
      else none
  | .answer i =>
      let c := s.connections i
      match c.outcome with
      | some run => if c.answer.isNone then some (s.reply texts i run) else none
      | none => none
  | .removeScript i =>
      let c := s.connections i
      if c.outcome.isSome ∧ c.answer.isSome then s.script (.removeScript i) else none
  | .failRemove i =>
      let c := s.connections i
      if c.outcome.isSome ∧ c.answer.isSome then
        (s.script (.failRemove i)).map fun s => s.update i { c with unremoved := true }
      else none

/-- The steps that can be taken, each with what it finds and what it leaves. -/
inductive ServiceMove (s : Service) : ServiceAction → Service → Prop where
  | receive {i count : Nat} (unasked : (s.connections i).request = none)
      (unanswered : (s.connections i).answer = none) :
      ServiceMove s (.receive i count) (s.update i { s.connections i with received := count })
  | refuse {i : Nat} {error : Bytes} (decoded : decode ((texts i).take (s.connections i).received) = .failed) :
      ServiceMove s (.decode i error) (s.reply texts i { decodeError := error })
  | ask {i : Nat} {error : Bytes} {req : ExecutionRequest} (unasked : (s.connections i).request = none)
      (unanswered : (s.connections i).answer = none)
      (decoded : decode ((texts i).take (s.connections i).received) = .request req) :
      ServiceMove s (.decode i error) (s.update i { s.connections i with request := some req })
  | readClock {i : Nat} {now : Int} {agent : Agent} (asked : (s.connections i).request ≠ none)
      (stepped : scriptStep s.requests (.readClock i now) s.agent = some agent) :
      ServiceMove s (.readClock i now)
        (({ s with agent } : Service).update i { s.connections i with reading := some now })
  | writeScript {i : Nat} {agent : Agent} (stepped : scriptStep s.requests (.writeScript i) s.agent = some agent) :
      ServiceMove s (.writeScript i) { s with agent }
  | failWrite {i : Nat} {left : Option Bytes} {error : Bytes} {agent : Agent}
      (stepped : scriptStep s.requests (.failWrite i left) s.agent = some agent) :
      ServiceMove s (.failWrite i left error) (({ s with agent } : Service).reply texts i { writeError := some error })
  | start {i : Nat} {req : ExecutionRequest} {nanos : Int} (known : (s.connections i).request = some req)
      (here : s.agent.stage i = .written nanos) :
      ServiceMove s (.start i) (s.update i { s.connections i with
        command := some (pythonCommand osEnviron req (walks i req.environment) nanos) })
  | readScript {i : Nat} {agent : Agent} (stepped : scriptStep s.requests (.readScript i) s.agent = some agent) :
      ServiceMove s (.readScript i) { s with agent }
  | finish {i : Nat} {run : GuestEnv} (placed : (s.agent.stage i).nanos.isSome = true)
      (running : (s.connections i).outcome = none) (written : run.writeError = none)
      (number : Json.isNumber run.durationMs = true) :
      ServiceMove s (.finish i run) (s.update i { s.connections i with outcome := some run })
  | answer {i : Nat} {run : GuestEnv} (ran : (s.connections i).outcome = some run) :
      ServiceMove s (.answer i) (s.reply texts i run)
  | removeScript {i : Nat} {agent : Agent} (stepped : scriptStep s.requests (.removeScript i) s.agent = some agent) :
      ServiceMove s (.removeScript i) { s with agent }
  | failRemove {i : Nat} {agent : Agent} (stepped : scriptStep s.requests (.failRemove i) s.agent = some agent) :
      ServiceMove s (.failRemove i) (({ s with agent } : Service).update i { s.connections i with unremoved := true })

theorem serviceStep_cases {texts osEnviron walks} {s t : Service} {action : ServiceAction}
    (moves : serviceStep texts osEnviron walks action s = some t) : ServiceMove texts osEnviron walks s action t := by
  cases action with
  | receive i count =>
    simp only [serviceStep, Option.ite_none_right_eq_some, Option.some.injEq, Option.isNone_iff_eq_none] at moves
    obtain ⟨⟨unasked, unanswered, -⟩, rfl⟩ := moves
    exact .receive unasked unanswered
  | decode i error =>
    simp only [serviceStep, Option.ite_none_right_eq_some, Option.isNone_iff_eq_none] at moves
    obtain ⟨⟨unasked, unanswered⟩, goes⟩ := moves
    cases decoded : decode ((texts i).take (s.connections i).received) with
    | waiting => simp [decoded] at goes
    | failed =>
      simp only [decoded, Option.some.injEq] at goes
      exact goes ▸ .refuse decoded
    | request req =>
      simp only [decoded, Option.some.injEq] at goes
      exact goes ▸ .ask unasked unanswered decoded
  | readClock i now =>
    simp only [serviceStep, Option.ite_none_right_eq_some] at moves
    obtain ⟨asked, goes⟩ := moves
    obtain ⟨next, moved, rfl⟩ := Option.map_eq_some_iff.mp goes
    obtain ⟨agent, stepped, rfl⟩ := Option.map_eq_some_iff.mp moved
    exact .readClock (Option.isSome_iff_ne_none.mp asked) stepped
  | writeScript i =>
    obtain ⟨agent, stepped, rfl⟩ := Option.map_eq_some_iff.mp moves
    exact .writeScript stepped
  | failWrite i left error =>
    obtain ⟨next, moved, rfl⟩ := Option.map_eq_some_iff.mp moves
    obtain ⟨agent, stepped, rfl⟩ := Option.map_eq_some_iff.mp moved
    exact .failWrite stepped
  | start i =>
    simp only [serviceStep] at moves
    cases known : (s.connections i).request with
    | none => simp [known] at moves
    | some req =>
      cases here : s.agent.stage i with
      | written nanos =>
        simp only [known, here, Option.ite_none_right_eq_some, Option.some.injEq] at moves
        obtain ⟨-, rfl⟩ := moves
        rw [← known]
        exact .start known here
      | decoded | timed | ran | closed => simp [known, here] at moves
  | readScript i =>
    simp only [serviceStep, Option.ite_none_right_eq_some] at moves
    obtain ⟨agent, stepped, rfl⟩ := Option.map_eq_some_iff.mp moves.2
    exact .readScript stepped
  | finish i run =>
    simp only [serviceStep, Option.ite_none_right_eq_some, Option.some.injEq, Option.isNone_iff_eq_none] at moves
    obtain ⟨⟨placed, running, written, number⟩, rfl⟩ := moves
    exact .finish placed running written number
  | answer i =>
    simp only [serviceStep] at moves
    cases ran : (s.connections i).outcome with
    | none => simp [ran] at moves
    | some run =>
      simp only [ran, Option.ite_none_right_eq_some, Option.some.injEq] at moves
      obtain ⟨-, rfl⟩ := moves
      exact .answer ran
  | removeScript i =>
    simp only [serviceStep, Option.ite_none_right_eq_some] at moves
    obtain ⟨agent, stepped, rfl⟩ := Option.map_eq_some_iff.mp moves.2
    exact .removeScript stepped
  | failRemove i =>
    simp only [serviceStep, Option.ite_none_right_eq_some] at moves
    obtain ⟨next, moved, rfl⟩ := Option.map_eq_some_iff.mp moves.2
    obtain ⟨agent, stepped, rfl⟩ := Option.map_eq_some_iff.mp moved
    exact .failRemove stepped

/-! What a client gets whose text is a request. -/

/-- The answer when the script could not be written. -/
def writeFailure (error : Bytes) : ExecutionResponse where
  exitCode := -1
  errorString := bytesOf "Failed to write temporary python script: " ++ error

/-- The answer behind a run. -/
def runResponse (run : GuestEnv) : ExecutionResponse where
  exitCode := (exitStatus run).1
  stdout := run.stdout
  stderr := run.stderr
  durationMs := run.durationMs
  errorString := (exitStatus run).2

/-- Only what the client has asked for is run for it, and only the outcome of that is its answer. The
path of the script is made from the reading that its own goroutine took. -/
structure Served (text : Bytes) (req : ExecutionRequest) (walk : Walk req.environment) (connection : Connection)
    (found : Option (Option Bytes)) : Prop where
  command : ∀ started, connection.command = some started →
    ∃ nanos, connection.reading = some nanos ∧ started = pythonCommand osEnviron req walk nanos
  script : ∀ content, found = some content → content = some req.codePayload
  answer : ∀ bytes, connection.answer = some bytes → decode (text.take connection.received) = .request req ∧
    ((∃ error, connection.command = none ∧ connection.outcome = none ∧ bytes = (writeFailure error).encode) ∨
      ∃ run, connection.outcome = some run ∧ bytes = (runResponse run).encode ∧
        Json.read bytes = .value (.obj (runResponse run).members))

/-! The invariant. -/

/-- There is no script yet. -/
def Stage.Early : Stage → Prop
  | .decoded | .timed _ => True
  | _ => False

/-- A script has its place from the write on. -/
theorem Stage.Early.unplaced {stage : Stage} (early : stage.Early) : stage.nanos = none := by
  cases stage with
  | decoded | timed time => rfl
  | written time | ran time | closed => exact early.elim

/-- What is known of a connection from the place of its goroutine. -/
structure Connection.Sound (text : Bytes) (walk : (table : Finmap fun _ : Bytes => Bytes) → Walk table)
    (connection : Connection) (stage : Stage) (found : Option (Option Bytes)) : Prop where
  fresh : connection.request = none → stage = .decoded ∧ found = none
  early : stage.Early → connection.command = none ∧ connection.outcome = none
  reading : ∀ nanos, stage.reading = some nanos → connection.reading = some nanos
  decoded : ∀ req, connection.request = some req → decode (text.take connection.received) = .request req
  command : ∀ started, connection.command = some started → ∃ req nanos, connection.request = some req ∧
    connection.reading = some nanos ∧ started = pythonCommand osEnviron req (walk req.environment) nanos
  outcome : ∀ run, connection.outcome = some run → run.writeError = none ∧ Json.isNumber run.durationMs = true
  answer : ∀ bytes, connection.answer = some bytes → ∃ env,
    (handleConnection (text.take connection.received) env).map ExecutionResponse.encode = some bytes ∧
    (decode (text.take connection.received) = .failed ∨
      ((∃ error, env = { writeError := some error }) ∧ stage = .closed ∧ connection.command = none ∧
        connection.outcome = none) ∨
      connection.outcome = some env)

structure Service.Sound (s : Service) : Prop where
  unmixed : Unmixed s.requests s.agent
  each : ∀ i, (s.connections i).Sound osEnviron (texts i) (walks i) (s.agent.stage i) (s.agent.found i)

section
variable {text : Bytes} {walk : (table : Finmap fun _ : Bytes => Bytes) → Walk table}
variable {connection : Connection} {stage stage' : Stage} {found found' : Option (Option Bytes)} {osEnviron}

theorem Connection.Sound.asked (sound : connection.Sound osEnviron text walk stage found) (begun : stage ≠ .decoded) :
    connection.request ≠ none := fun missing => begun (sound.fresh missing).1

/-- Before the end an answer is not that of a failed write. -/
theorem Connection.Sound.explains (sound : connection.Sound osEnviron text walk stage found)
    (unclosed : stage ≠ .closed) {bytes : Bytes} (answered : connection.answer = some bytes) :
    ∃ env, (handleConnection (text.take connection.received) env).map ExecutionResponse.encode = some bytes ∧
      (decode (text.take connection.received) = .failed ∨ connection.outcome = some env) := by
  obtain ⟨env, handled, why⟩ := sound.answer bytes answered
  refine ⟨env, handled, why.imp_right fun later => ?_⟩
  exact later.resolve_left fun unwritten => unclosed unwritten.2.1

/-- The goroutine goes on with its file. -/
theorem Connection.Sound.move (sound : connection.Sound osEnviron text walk stage found) (unclosed : stage ≠ .closed)
    (asked : connection.request ≠ none) (early : stage'.Early → stage.Early)
    (reading : ∀ nanos, stage'.reading = some nanos → stage.reading = some nanos) :
    connection.Sound osEnviron text walk stage' found' where
  fresh missing := absurd missing asked
  early place := sound.early (early place)
  reading nanos read := sound.reading nanos (reading nanos read)
  decoded := sound.decoded
  command := sound.command
  outcome := sound.outcome
  answer bytes answered := by
    obtain ⟨env, handled, why⟩ := sound.explains unclosed answered
    exact ⟨env, handled, why.imp_right .inr⟩

/-- Nothing has been started when the goroutine looks at the clock. -/
theorem Connection.Sound.timed (sound : connection.Sound osEnviron text walk .decoded found)
    (asked : connection.request ≠ none) (now : Int) :
    ({ connection with reading := some now } : Connection).Sound osEnviron text walk (.timed now) found' where
  fresh missing := absurd missing asked
  early _ := sound.early trivial
  reading _ read := read
  decoded := sound.decoded
  command started has := absurd ((sound.early trivial).1.symm.trans has) (by simp)
  outcome := sound.outcome
  answer bytes answered := by
    obtain ⟨env, handled, why⟩ := sound.explains (by simp) answered
    exact ⟨env, handled, why.imp_right .inr⟩

end

def ScriptAction.request : ScriptAction → Nat
  | .readClock request _ | .writeScript request | .failWrite request _ | .readScript request
  | .removeScript request | .failRemove request => request

/-- A step on the files is one of its own goroutine, which has not come to its end. It is in the
beginning only with its look at the clock, which is the only one it takes. -/
structure Moves (action : ScriptAction) (s t : Agent) : Prop where
  others : ∀ other, other ≠ action.request → t.stage other = s.stage other ∧ t.found other = s.found other
  unclosed : s.stage action.request ≠ .closed
  early : (t.stage action.request).Early → (s.stage action.request).Early
  clock : (∃ now, action = .readClock action.request now ∧ s.stage action.request = .decoded ∧
      t.stage action.request = .timed now) ∨
    s.stage action.request ≠ .decoded ∧ ∀ nanos, (t.stage action.request).reading = some nanos →
      (s.stage action.request).reading = some nanos

/-- A goroutine that has a reading goes on. -/
theorem moves_of_goto {action : ScriptAction} {s t : Agent} {stage : Stage}
    (goes : t.stage = Function.update s.stage action.request stage)
    (finds : ∀ other, other ≠ action.request → t.found other = s.found other)
    {nanos : Int} (placed : (s.stage action.request).reading = some nanos) (late : ¬ stage.Early)
    (kept : stage.reading = none ∨ stage.reading = some nanos) : Moves action s t where
  others other different := ⟨by rw [goes, Function.update_of_ne different], finds other different⟩
  unclosed closed := by simp [closed, Stage.reading] at placed
  early early := by
    rw [goes, Function.update_self] at early
    exact absurd early late
  clock := by
    refine .inr ⟨fun decoded => ?_, fun time read => ?_⟩
    · simp [decoded, Stage.reading] at placed
    · rw [goes, Function.update_self] at read
      rcases kept with unread | same
      · rw [unread] at read
        cases read
      · rw [placed, ← same, read]

theorem scriptStep_moves {requests : Nat → ExecutionRequest} {action : ScriptAction} {s t : Agent}
    (moves : scriptStep requests action s = some t) : Moves action s t := by
  cases scriptStep_cases moves with
  | @readClock request now here later =>
    refine ⟨fun other different => ⟨Function.update_of_ne different _ _, rfl⟩, ?_, fun _ => ?_, .inl ⟨now, rfl, here, ?_⟩⟩
    · simp [ScriptAction.request, here]
    · rw [ScriptAction.request, here]
      trivial
    · exact Function.update_self _ _ _
  | writeScript here => exact moves_of_goto rfl (fun _ _ => rfl) (congrArg Stage.reading here) id (.inr rfl)
  | failOpen here | failWrite here =>
    exact moves_of_goto rfl (fun _ _ => rfl) (congrArg Stage.reading here) id (.inl rfl)
  | readScript here =>
    exact moves_of_goto rfl (fun _ different => Function.update_of_ne different _ _) (congrArg Stage.reading here) id
      (.inr rfl)
  | removeScript placed | failRemove placed =>
    exact moves_of_goto rfl (fun _ _ => rfl) (Stage.reading_of_nanos placed) id (.inl rfl)

theorem failWrite_closes {requests : Nat → ExecutionRequest} {i : Nat} {left : Option Bytes} {s t : Agent}
    (moves : scriptStep requests (.failWrite i left) s = some t) :
    (s.stage i).Early ∧ t.stage i = .closed := by
  cases scriptStep_cases moves with
  | failOpen here | failWrite here => exact ⟨by rw [here]; trivial, stage_goto_self _ i .closed⟩

section
variable {texts osEnviron walks} {s t : Service} {i : Nat}

theorem Service.Sound.update (sound : s.Sound texts osEnviron walks) {connection : Connection}
    (same : connection.request = (s.connections i).request)
    (own : connection.Sound osEnviron (texts i) (walks i) (s.agent.stage i) (s.agent.found i)) :
    (s.update i connection).Sound texts osEnviron walks where
  unmixed := by
    have kept : (s.update i connection).requests = s.requests := by
      funext j
      unfold Service.requests
      by_cases here : j = i
      · rw [here, update_self, same]
      · rw [update_of_ne s here]
    rw [kept]
    exact sound.unmixed
  each j := by
    by_cases here : j = i
    · subst here
      rwa [update_self]
    · rw [update_of_ne s here]
      exact sound.each j

/-- The requests are known one after the other, each before anything is done with it. -/
theorem Service.Sound.asks (sound : s.Sound texts osEnviron walks) {req : ExecutionRequest}
    (missing : (s.connections i).request = none) (unanswered : (s.connections i).answer = none)
    (decoded : decode ((texts i).take (s.connections i).received) = .request req) :
    (s.update i { s.connections i with request := some req }).Sound texts osEnviron walks where
  unmixed := by
    obtain ⟨waits, unread⟩ := (sound.each i).fresh missing
    have kept {j : Nat} (other : j ≠ i) :
        (s.update i { s.connections i with request := some req }).requests j = s.requests j := by
      rw [Service.requests, update_of_ne s other, Service.requests]
    constructor
    · intro j nanos written
      have other : j ≠ i := by
        rintro rfl
        exact nomatch waits.symm.trans written
      rw [kept other]
      exact sound.unmixed.own j nanos written
    · intro j script read
      have other : j ≠ i := by
        rintro rfl
        exact nomatch unread.symm.trans read
      rw [kept other]
      exact sound.unmixed.reads j script read
  each j := by
    by_cases here : j = i
    · subst here
      rw [update_self]
      obtain ⟨waits, unread⟩ := (sound.each j).fresh missing
      obtain ⟨unstarted, -⟩ := (sound.each j).early (by rw [waits]; trivial)
      refine ⟨nofun, (sound.each j).early, (sound.each j).reading, fun _ same => ?_, fun started has => ?_,
        (sound.each j).outcome, fun bytes answered => ?_⟩
      · cases same
        exact decoded
      · exact nomatch unstarted.symm.trans has
      · exact nomatch unanswered.symm.trans answered
    · rw [update_of_ne s here]
      exact sound.each j

/-- A goroutine goes on with its file. -/
theorem Service.Sound.moved (sound : s.Sound texts osEnviron walks) {action : ScriptAction} {connection : Connection}
    (undisturbing : Undisturbing action s.agent) (stepped : scriptStep s.requests action s.agent = some t.agent)
    (goes : t.connections = Function.update s.connections action.request connection)
    (same : connection.request = (s.connections action.request).request)
    (own : connection.Sound osEnviron (texts action.request) (walks action.request) (t.agent.stage action.request)
      (t.agent.found action.request)) : t.Sound texts osEnviron walks where
  unmixed := by
    have kept : t.requests = s.requests := by
      funext j
      unfold Service.requests
      rw [goes]
      by_cases here : j = action.request
      · rw [here, Function.update_self, same]
      · rw [Function.update_of_ne here]
    have after := (unmixed_step_iff sound.unmixed action).mpr undisturbing
    rwa [taken_eq stepped, ← kept] at after
  each j := by
    rw [goes]
    by_cases here : j = action.request
    · subst here
      rwa [Function.update_self]
    · obtain ⟨stays, keeps⟩ := (scriptStep_moves stepped).others j here
      rw [Function.update_of_ne here, stays, keeps]
      exact sound.each j

/-- Behind its look at the clock a goroutine knows its request. -/
theorem Service.Sound.own (sound : s.Sound texts osEnviron walks) {action : ScriptAction} {agent : Agent}
    (stepped : scriptStep s.requests action s.agent = some agent)
    (other : ∀ i now, action ≠ .readClock i now) :
    (s.connections action.request).Sound osEnviron (texts action.request) (walks action.request)
      (agent.stage action.request) (agent.found action.request) := by
  have goes := scriptStep_moves stepped
  rcases goes.clock with ⟨now, looks, -⟩ | ⟨begun, reading⟩
  · exact absurd looks (other _ now)
  · have before := sound.each action.request
    exact before.move goes.unclosed (before.asked begun) goes.early reading

theorem Service.Sound.script (sound : s.Sound texts osEnviron walks) {action : ScriptAction} {agent : Agent}
    (undisturbing : Undisturbing action s.agent) (other : ∀ i now, action ≠ .readClock i now)
    (stepped : scriptStep s.requests action s.agent = some agent) :
    ({ s with agent } : Service).Sound texts osEnviron walks :=
  sound.moved undisturbing stepped (Function.update_eq_self _ _).symm rfl (sound.own stepped other)

theorem Service.Sound.reply (sound : s.Sound texts osEnviron walks) {env : GuestEnv}
    (why : decode ((texts i).take (s.connections i).received) = .failed ∨
      ((∃ error, env = { writeError := some error }) ∧ s.agent.stage i = .closed ∧
        (s.connections i).command = none ∧ (s.connections i).outcome = none) ∨
      (s.connections i).outcome = some env) : (s.reply texts i env).Sound texts osEnviron walks := by
  have before := sound.each i
  exact sound.update rfl ⟨before.fresh, before.early, before.reading, before.decoded, before.command, before.outcome,
    fun bytes answered => ⟨env, answered, why⟩⟩

/-- The command is that of the request, with the path of the script the goroutine has written. -/
theorem Service.Sound.start (sound : s.Sound texts osEnviron walks) {req : ExecutionRequest} {nanos : Int}
    (known : (s.connections i).request = some req) (here : s.agent.stage i = .written nanos) :
    (s.update i { s.connections i with
      command := some (pythonCommand osEnviron req (walks i req.environment) nanos) }).Sound texts osEnviron walks := by
  have before := sound.each i
  have unclosed : s.agent.stage i ≠ .closed := by simp [here]
  refine sound.update rfl ⟨before.fresh, fun early => ?_, before.reading, before.decoded, fun started has => ?_,
    before.outcome, fun bytes answered => ?_⟩
  · rw [here] at early
    exact early.elim
  · cases has
    exact ⟨req, nanos, known, before.reading nanos (by rw [here]; rfl), rfl⟩
  · obtain ⟨env, handled, why⟩ := before.explains unclosed answered
    exact ⟨env, handled, why.imp_right .inr⟩

/-- An outcome comes once and not before there is a script. -/
theorem Service.Sound.finish (sound : s.Sound texts osEnviron walks) {run : GuestEnv}
    (placed : (s.agent.stage i).nanos.isSome = true) (running : (s.connections i).outcome = none)
    (written : run.writeError = none) (number : Json.isNumber run.durationMs = true) :
    (s.update i { s.connections i with outcome := some run }).Sound texts osEnviron walks := by
  have before := sound.each i
  have unclosed : s.agent.stage i ≠ .closed := by
    intro closed
    simp [closed, Stage.nanos] at placed
  refine sound.update rfl ⟨before.fresh, fun early => ?_, before.reading, before.decoded, before.command,
    fun _ same => ?_, fun bytes answered => ?_⟩
  · simp [early.unplaced] at placed
  · cases same
    exact ⟨written, number⟩
  · obtain ⟨env, handled, why⟩ := before.explains unclosed answered
    refine ⟨env, handled, why.imp_right fun ran => ?_⟩
    rw [running] at ran
    cases ran

end

/-- What writes or removes a file finds no other goroutine waiting to have it read. -/
def Careful (action : ServiceAction) (s : Service) : Prop :=
  ∀ file, action.file = some file → Undisturbing file s.agent

theorem serviceStep_keeps {texts osEnviron walks} {s t : Service} (sound : s.Sound texts osEnviron walks)
    {action : ServiceAction} (careful : Careful action s)
    (moves : serviceStep texts osEnviron walks action s = some t) : t.Sound texts osEnviron walks := by
  cases serviceStep_cases moves with
  | @receive i count unasked unanswered =>
    have before := sound.each i
    refine sound.update rfl ⟨before.fresh, before.early, before.reading, fun req has => ?_, before.command,
      before.outcome, fun bytes answered => ?_⟩
    · exact absurd (unasked.symm.trans has) (by simp)
    · exact absurd (unanswered.symm.trans answered) (by simp)
  | refuse decoded => exact sound.reply (.inl decoded)
  | ask unasked unanswered decoded => exact sound.asks unasked unanswered decoded
  | @readClock i now agent asked stepped =>
    have looks := (scriptStep_moves stepped).clock
    simp only [ScriptAction.request, ScriptAction.readClock.injEq, true_and] at looks
    have before := sound.each i
    refine sound.moved (careful _ rfl) stepped rfl rfl ?_
    rcases looks with ⟨_, rfl, waits, timed⟩ | ⟨begun, -⟩
    · rw [waits] at before
      simp only [ScriptAction.request, Service.update, timed]
      exact before.timed asked _
    · simp [scriptStep, begun] at stepped
  | writeScript stepped | readScript stepped | removeScript stepped =>
    exact sound.script (careful _ rfl) (by simp) stepped
  | @failWrite i left error agent stepped =>
    -- the goroutine is at its end before it answers
    have after := sound.script (careful _ rfl) (by simp) stepped
    obtain ⟨before, closed⟩ := failWrite_closes stepped
    exact after.reply (.inr (.inl ⟨⟨error, rfl⟩, closed, (sound.each i).early before⟩))
  | start known here => exact sound.start known here
  | finish placed running written number => exact sound.finish placed running written number
  | answer ran => exact sound.reply (.inr (.inr ran))
  | failRemove stepped =>
    obtain ⟨fresh, early, reading, decoded, command, outcome, answer⟩ := sound.own stepped (by simp)
    exact sound.moved (careful _ rfl) stepped rfl rfl ⟨fresh, early, reading, decoded, command, outcome, answer⟩

/-! Back to the client. -/

theorem decode_first {text : Bytes} {req other : ExecutionRequest} (sent : decode text = .request req) {count : Nat}
    (decoded : decode (text.take count) = .request other) : other = req := by
  rcases decode_take text count with waiting | same
  · rw [waiting] at decoded
    cases decoded
  · exact Decoding.request.inj (decoded.symm.trans (same.trans sent))

theorem Service.Sound.served {texts osEnviron walks} {s : Service} (sound : s.Sound texts osEnviron walks) {i : Nat}
    {req : ExecutionRequest} (sent : decode (texts i) = .request req) :
    Served osEnviron (texts i) req (walks i req.environment) (s.connections i) (s.agent.found i) := by
  have own := sound.each i
  refine ⟨fun started has => ?_, fun content read => ?_, fun bytes answered => ?_⟩
  · obtain ⟨_, nanos, known, reading, same⟩ := own.command started has
    cases decode_first sent (own.decoded _ known)
    exact ⟨nanos, reading, same⟩
  · have asked : (s.connections i).request ≠ none := by
      intro missing
      exact absurd ((own.fresh missing).2.symm.trans read) (by simp)
    obtain ⟨_, known⟩ := Option.ne_none_iff_exists'.mp asked
    cases decode_first sent (own.decoded _ known)
    have mine := sound.unmixed.reads i content read
    rwa [Service.requests, known] at mine
  · obtain ⟨env, handled, why⟩ := own.answer bytes answered
    obtain ⟨resp, handles, rfl⟩ := Option.map_eq_some_iff.mp handled
    rcases decode_take (texts i) (s.connections i).received with waiting | same
    · rw [handleConnection, waiting] at handles
      cases handles
    · have decoded := same.trans sent
      refine ⟨decoded, ?_⟩
      rcases why with undecoded | ⟨⟨error, rfl⟩, -, unstarted, unfinished⟩ | ran
      · exact absurd (decoded.symm.trans undecoded) (by simp)
      · rw [handleConnection, decoded] at handles
        cases handles
        exact .inl ⟨error, unstarted, unfinished, rfl⟩
      · obtain ⟨written, number⟩ := own.outcome env ran
        rw [handleConnection, decoded, written] at handles
        cases handles
        refine .inr ⟨env, ran, rfl, ?_⟩
        have read := (runResponse env).read_take_encode number (runResponse env).encode.length
        rwa [List.take_length, if_pos (Nat.le_succ _)] at read

theorem sound_init (clock : Int) (files : String → Option Script) :
    Service.Sound texts osEnviron walks { agent := { clock, files } } where
  unmixed := unmixed_init clock files
  each _ := ⟨fun _ => ⟨rfl, rfl⟩, fun _ => ⟨rfl, rfl⟩, by simp [Stage.reading], nofun, nofun, nofun, nofun⟩

/-! What a step does to the files and the outcomes. -/

structure Effect (action : ServiceAction) (s t : Service) : Prop where
  files : ∀ file, action.file = some file → scriptStep s.requests file s.agent = some t.agent
  still : action.file = none → t.agent = s.agent
  outcomes : ∀ i, (t.connections i).outcome = (s.connections i).outcome ∨
    action.file = none ∧ (s.agent.stage i).nanos.isSome = true
  unremoved : ∀ i, (s.connections i).unremoved = true ∨ action.file = some (.failRemove i) →
    (t.connections i).unremoved = true

section
variable {s t : Service} {action : ServiceAction}

theorem effect_of_update {i : Nat} {connection : Connection} (quiet : action.file = none)
    (outcome : connection.outcome = (s.connections i).outcome ∨ (s.agent.stage i).nanos.isSome = true)
    (unremoved : connection.unremoved = (s.connections i).unremoved) : Effect action s (s.update i connection) where
  files file named := absurd (quiet.symm.trans named) (by simp)
  still _ := rfl
  outcomes j := by
    by_cases here : j = i
    · subst here
      rw [Service.update_self]
      exact outcome.imp_right fun placed => ⟨quiet, placed⟩
    · rw [Service.update_of_ne s here]
      exact .inl rfl
  unremoved j before := by
    have kept := before.resolve_right fun named => absurd (quiet.symm.trans named) (by simp)
    by_cases here : j = i
    · subst here
      rwa [Service.update_self, unremoved]
    · rwa [Service.update_of_ne s here]

theorem effect_of_file {file : ScriptAction} {connection : Connection} (named : action.file = some file)
    (stepped : scriptStep s.requests file s.agent = some t.agent)
    (goes : t.connections = Function.update s.connections file.request connection)
    (outcome : connection.outcome = (s.connections file.request).outcome)
    (unremoved : (s.connections file.request).unremoved = true ∨ file = .failRemove file.request →
      connection.unremoved = true) : Effect action s t where
  files other same := by
    cases named.symm.trans same
    exact stepped
  still quiet := absurd (quiet.symm.trans named) (by simp)
  outcomes j := by
    rw [goes]
    by_cases here : j = file.request
    · rw [here, Function.update_self]
      exact .inl outcome
    · rw [Function.update_of_ne here]
      exact .inl rfl
  unremoved j before := by
    rw [goes]
    rw [named, Option.some.injEq] at before
    by_cases here : j = file.request
    · subst here
      rw [Function.update_self]
      exact unremoved before
    · rw [Function.update_of_ne here]
      refine before.resolve_right fun same => here ?_
      rw [same]
      rfl

theorem effect_of_script {file : ScriptAction} {agent : Agent} (named : action.file = some file)
    (stepped : scriptStep s.requests file s.agent = some agent) (other : ∀ i, file ≠ .failRemove i) :
    Effect action s { s with agent } :=
  effect_of_file named stepped (Function.update_eq_self _ _).symm rfl fun before => before.resolve_right (other _)

theorem reply_outcome (texts : Nat → Bytes) (i : Nat) (env : GuestEnv) (j : Nat) :
    ((s.reply texts i env).connections j).outcome = (s.connections j).outcome ∧
      ((s.reply texts i env).connections j).unremoved = (s.connections j).unremoved := by
  unfold Service.reply
  by_cases here : j = i
  · rw [here, Service.update_self]
    exact ⟨rfl, rfl⟩
  · rw [Service.update_of_ne s here]
    exact ⟨rfl, rfl⟩

theorem serviceStep_effect {texts osEnviron walks} (moves : serviceStep texts osEnviron walks action s = some t) :
    Effect action s t := by
  cases serviceStep_cases moves with
  | receive | refuse | ask | start | answer => exact effect_of_update rfl (.inl rfl) rfl
  | finish placed => exact effect_of_update rfl (.inr placed) rfl
  | readClock asked stepped => exact effect_of_file rfl stepped rfl rfl fun before => before.resolve_right (by simp)
  | writeScript stepped | readScript stepped | removeScript stepped => exact effect_of_script rfl stepped (by simp)
  | @failWrite i left error agent stepped =>
    have effect : Effect (.failWrite i left error) s { s with agent } := effect_of_script rfl stepped (by simp)
    -- the answer is no outcome
    refine ⟨effect.files, effect.still, fun j => ?_, fun j before => ?_⟩
    · rw [(reply_outcome texts i _ j).1]
      exact effect.outcomes j
    · rw [(reply_outcome texts i _ j).2]
      exact effect.unremoved j before
  | failRemove stepped => exact effect_of_file rfl stepped rfl rfl fun _ => rfl

end

/-! A clock that ticks between two readings is all the care that is needed. -/

def Ticking (action : ServiceAction) (s : Service) : Prop :=
  match action with
  | .readClock _ now => s.agent.clock < now
  | _ => True

instance (action : ServiceAction) (s : Service) : Decidable (Ticking action s) := by
  unfold Ticking
  split <;> infer_instance

section
variable {texts osEnviron walks} {s t : Service}

theorem serviceStep_timed (timed : Timed s.agent) {action : ServiceAction} (ticks : Ticking action s)
    (moves : serviceStep texts osEnviron walks action s = some t) : Timed t.agent := by
  have effect := serviceStep_effect moves
  cases named : action.file with
  | none =>
    rw [effect.still named]
    exact timed
  | some file =>
    refine timed.step ?_ (effect.files file named)
    cases action with
    | readClock i now =>
      cases named
      exact ticks
    | writeScript i | failWrite i left error | readScript i | removeScript i | failRemove i =>
      cases named
      trivial
    | receive i count | decode i error | start i | finish i run | answer i => cases named

theorem careful_of_ticking (timed : Timed s.agent) {actions : List ServiceAction}
    (ticking : EachStep (serviceStep texts osEnviron walks) Ticking actions s) :
    EachStep (serviceStep texts osEnviron walks) Careful actions s := by
  induction actions generalizing s with
  | nil => trivial
  | cons action rest ih =>
    refine ⟨fun file _ => timed.undisturbing file, ih ?_ ticking.2⟩
    exact taken_keeps (fun s : Service => Timed s.agent) timed fun t moves => serviceStep_timed timed ticking.1 moves

end

/-- The members are in no particular order, and a line feed follows. -/
def printerText : Bytes := bytesOf "\x7b \"cli_args\": [\"-v\"], \"code_payload\": \"print(1)\" \x7d\n"

def printed : GuestEnv := { stdout := bytesOf "1\n", durationMs := bytesOf "3.5" }

/-- Another client sends what is no request; the printer's arrives in two parts. -/
def printing : List ServiceAction :=
  [.receive 1 1, .receive 0 20, .decode 1 (bytesOf "invalid character 'x' looking for beginning of value"),
    .decode 0 [], .receive 0 500, .decode 0 [], .readClock 0 7, .writeScript 0, .start 0, .readScript 0,
    .finish 0 printed, .answer 0, .removeScript 0]

noncomputable def anyWalk (table : Finmap fun _ : Bytes => Bytes) : Walk table := (Walk.nonempty table).some

def printingTexts (i : Nat) : Bytes := if i = 0 then printerText else bytesOf "x"

noncomputable def afterPrinting : Service :=
  printing.foldl (fun s a => taken (serviceStep printingTexts [] fun _ => anyWalk) a s)
    { agent := { clock := 0, files := fun _ => none } }

def Decoding.codePayload? : Decoding → Option Bytes
  | .request req => some req.codePayload
  | _ => none

theorem request_of_codePayload {stream code : Bytes} (read : (decode stream).codePayload? = some code) :
    ∃ req, decode stream = .request req ∧ req.codePayload = code := by
  cases decoded : decode stream with
  | request req =>
    rw [decoded] at read
    exact ⟨req, rfl, Option.some.inj read⟩
  | failed | waiting =>
    rw [decoded] at read
    cases read

end Aegis.Guest
