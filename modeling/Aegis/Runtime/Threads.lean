import Aegis.Library.Waiting
import Aegis.Policy.Store
import Aegis.Runtime.Actions
import Aegis.Runtime.Consistency
import Aegis.Runtime.Enforcement
import Aegis.Runtime.Locking

/-! The manager and the policy engine, called by several threads. -/

set_option autoImplicit false

namespace Aegis.Runtime
open Library Ebpf Policy

/-- The public operations of the engine. -/
inductive EngineOp where
  | store (op : PolicyOp)
  | getPolicy (policyName : String)
  | evalSyscall (policyName : String) (syscallNr : UInt32)
  | evalNetworkEgress (policyName : String) (ipv4NetworkOrder : UInt32)

inductive Reply where
  | manager (answer : Answer)
  | status (value : Status)
  | policy (value : Option SecurityPolicy)
  | verdict (allowed : Bool)
  deriving DecidableEq

def EngineOp.run : EngineOp → PolicyEngine → Outcome Reply × PolicyEngine
  | .store op, engine =>
      let ended := (policyCall op).ends engine
      (ended.1.map .status, ended.2)
  | .getPolicy policyName, engine => (.returned (.policy (engine.getPolicy policyName)), engine)
  | .evalSyscall policyName syscallNr, engine =>
      (.returned (.verdict (engine.evalSyscall policyName syscallNr)), engine)
  | .evalNetworkEgress policyName ipv4, engine =>
      (.returned (.verdict (engine.evalNetworkEgress policyName ipv4)), engine)

/-- On the engine that the manager was handed; without one there is nothing to call. -/
def EngineOp.action (op : EngineOp) : Option PolicyEngine → Outcome Reply × Option PolicyEngine
  | some engine => ((op.run engine).1, some (op.run engine).2)
  | none => (.threw, none)

/-- The public operations of the manager. -/
inductive ManagerOp where
  | create (config : SandboxConfig) (env : CreateEnv)
  | execute (sandboxId codePayload : String) (env : ExecEnv)
  | terminate (sandboxId : String) (env : TerminateEnv)
  | metadata (sandboxId : String)
  | terminateAll (env : TerminateAllEnv)

def ManagerOp.op : ManagerOp → Op
  | .create config env => .create config env
  | .execute sandboxId codePayload env => .execute sandboxId codePayload env
  | .terminate sandboxId env => .terminate sandboxId env
  | .metadata sandboxId => .metadata sandboxId
  | .terminateAll env => .terminateAll env

def ManagerOp.code (attached : Bool) : ManagerOp → HostCode Answer
  | .create config env => do
      let value ← createCode attached config env
      pure (.status value)
  | .execute sandboxId codePayload env => do
      let value ← Code.call none (executeBody sandboxId codePayload env)
      pure (.result value)
  | .terminate sandboxId env => do
      let value ← terminateCode sandboxId env
      pure (.status value)
  | .metadata sandboxId => do
      let value ← Code.call none (metadataBody sandboxId)
      pure (.metadata value)
  | .terminateAll env => do
      terminateAllCode env
      pure .done

inductive Request where
  | manager (op : ManagerOp)
  | engine (op : EngineOp)

/-- The request when nobody else moves. -/
def Request.serve : Request → Host → Outcome Reply × Host
  | .manager op, host => (((call op.op).ends host).1.map .manager, ((call op.op).ends host).2)
  | .engine op, host => ((op.action host.policyEngine).1, { host with policyEngine := (op.action host.policyEngine).2 })

def Request.job (attached : Bool) : Request → Job Leaf Host (Option PolicyEngine) Reply
  | .manager op => .held do
      let answer ← op.code attached
      pure (.manager answer)
  | .engine op => .single .engine op.action

/-- The body of an operation, under the mutex. -/
def ManagerOp.body : ManagerOp → Proc Host Answer
  | .create config env => do
      let value ← createBody .plain config env
      pure (.status value)
  | .execute sandboxId codePayload env => do
      let value ← executeBody sandboxId codePayload env
      pure (.result value)
  | .terminate sandboxId env => do
      let value ← terminateBody sandboxId env
      pure (.status value)
  | .metadata sandboxId => do
      let value ← metadataBody sandboxId
      pure (.metadata value)
  | .terminateAll env => do
      terminateAllBody env
      pure .done

theorem guard_ends {A : Type} {host : Host} (free : host.lockDepth = 0) (body : Proc Host A)
    (released : ((sandboxMutex.guard .plain body).ends host).1 ≠ .blocked →
      ((sandboxMutex.guard .plain body).ends host).2.lockDepth = 0) :
    (sandboxMutex.guard .plain body).ends host = sandboxMutex.leave (body.ends (sandboxMutex.put 1 host)) := by
  have enters : sandboxMutex.depth host = 0 ∨ Relock.plain = .reentrant := .inl free
  have one : sandboxMutex.put (sandboxMutex.depth host + 1) host = sandboxMutex.put 1 host := by
    change sandboxMutex.put (host.lockDepth + 1) host = _
    rw [free]
  rcases inner : body.ends (sandboxMutex.put 1 host) with ⟨outcome, after⟩
  rw [← one] at inner
  by_cases stuck : outcome = .blocked
  · subst stuck
    exact sandboxMutex.ends_guard_blocked enters inner
  · have ends := sandboxMutex.ends_guard enters stuck inner
    rw [ends] at released ⊢
    have zero : sandboxMutex.depth after - 1 = 0 := released stuck
    rw [zero]
    cases outcome with
    | returned | threw => rfl
    | blocked => exact absurd rfl stuck

/-- A guarded operation whose answer is wrapped up afterwards. -/
theorem wrapped_ends {A : Type} {host : Host} (free : host.lockDepth = 0) {op : Op} {body : Proc Host A}
    {wrap : A → Answer} (same : call op = do let value ← sandboxMutex.guard .plain body; pure (wrap value)) :
    (call op).ends host =
      sandboxMutex.leave ((do let value ← body; pure (wrap value)).ends (sandboxMutex.put 1 host)) := by
  have released := call_ends_free free op
  rw [same, Proc.ends_map] at released
  rw [same, Proc.ends_map, Proc.ends_map, guard_ends free body fun ended => released (by simpa [Outcome.map_eq_blocked] using ended)]
  rcases body.ends (sandboxMutex.put 1 host) with ⟨_ | _ | _, after⟩ <;> rfl

theorem ManagerOp.call_ends (op : ManagerOp) {host : Host} (free : host.lockDepth = 0) :
    (call op.op).ends host = sandboxMutex.leave (op.body.ends (sandboxMutex.put 1 host)) := by
  cases op with
  | create | execute | terminate | metadata | terminateAll => exact wrapped_ends free rfl

theorem ManagerOp.code_runs (attached : Bool) (op : ManagerOp) :
    Code.Runs enginePart (Holding attached) (op.code attached) op.body := by
  cases op with
  | create config env => exact (createCode_runs config env).map _
  | execute sandboxId codePayload env => exact (Code.runs_call _ _).map _
  | terminate sandboxId env => exact (terminateCode_runs sandboxId env).map _
  | metadata sandboxId => exact (Code.runs_call _ _).map _
  | terminateAll env => exact (terminateAllCode_runs env).map fun _ => Answer.done

theorem ManagerOp.code_tame (attached : Bool) (op : ManagerOp) : (op.code attached).Tame enginePart true := by
  cases op with
  | create config env => exact .bind_blind (createCode_tame attached config env) fun _ => trivial
  | execute sandboxId codePayload env => exact (aside_executeBody _ _ _).tame_bind fun _ => trivial
  | terminate sandboxId env => exact .bind_blind (terminateCode_tame sandboxId env) fun _ => trivial
  | metadata sandboxId => exact (aside_metadataBody _).tame_bind fun _ => trivial
  | terminateAll env => exact .bind_blind (terminateAllCode_tame env) fun _ => trivial

/-- The mutex is free and the engine is there or not, as it was handed over. -/
def Unlocked (attached : Bool) (host : Host) : Prop := host.lockDepth = 0 ∧ host.policyEngine.isSome = attached

theorem EngineOp.action_isSome (op : EngineOp) (engine : Option PolicyEngine) :
    (op.action engine).2.isSome = engine.isSome := by
  cases engine with
  | none => rfl
  | some engine => rfl

theorem serve_held {attached : Bool} {request : Request} {code : HostCode Reply} {host : Host}
    (job : request.job attached = .held code) (idle : Unlocked attached host) :
    request.serve host = sandboxMutex.leave (code.ends enginePart (sandboxMutex.put 1 host)) := by
  cases request with
  | engine op => cases job
  | manager op =>
    cases job
    have ends := (op.code_runs attached).map Reply.manager (sandboxMutex.put 1 host) ⟨Nat.one_ne_zero, idle.2⟩
    rw [ends, Proc.ends_map, Request.serve, op.call_ends idle.1]
    rcases op.body.ends (sandboxMutex.put 1 host) with ⟨_ | _ | _, after⟩ <;> rfl

theorem engine_leave (ended : Outcome Reply × Host) :
    enginePart.get (sandboxMutex.leave ended).2 = enginePart.get ended.2 := by
  rcases ended with ⟨_ | _ | _, host⟩ <;> rfl

theorem serve_engine {attached : Bool} {request : Request} {lock : Leaf}
    {action : Option PolicyEngine → Outcome Reply × Option PolicyEngine} {host : Host}
    (job : request.job attached = .single lock action) :
    request.serve host = ((action (enginePart.get host)).1, enginePart.put (action (enginePart.get host)).2 host) := by
  cases request with
  | manager op => cases job
  | engine op =>
    cases job
    rfl

/-- The manager and the engine as one object that threads call. -/
def sandboxSystem (attached : Bool) : System Leaf Host (Option PolicyEngine) Reply Request where
  mutex := sandboxMutex
  part := enginePart
  job := Request.job attached
  call := Request.serve
  ready := Unlocked attached
  apart _ _ _ := rfl
  tame := by
    intro request code job
    cases request with
    | engine op => cases job
    | manager op =>
      cases job
      exact .bind_blind (op.code_tame attached) fun _ => trivial
  call_held := serve_held
  call_single := serve_engine
  ready_held := by
    intro request code host job idle ended
    cases request with
    | engine op => cases job
    | manager op =>
      have tame : code.Tame enginePart true := by
        cases job
        exact .bind_blind (op.code_tame attached) fun _ => trivial
      refine ⟨call_ends_free idle.1 op.op fun stuck => ended ?_, ?_⟩
      · rw [Request.serve, stuck]
        rfl
      · have same : enginePart.get (Request.serve (.manager op) host).2 = enginePart.get host := by
          rw [serve_held job idle, engine_leave, tame.get_ends]
          rfl
        exact (congrArg Option.isSome same).trans idle.2
  ready_single := by
    intro request lock action host job idle
    rw [serve_engine job]
    cases request with
    | manager op => cases job
    | engine op =>
      cases job
      exact ⟨idle.1, (op.action_isSome _).trans idle.2⟩

section
variable {T : Type} [DecidableEq T]

/-- The system after a schedule of the threads, each with its list of requests. -/
def Host.threads (host : Host) (programs : T → List Request) (schedule : List T) :
    Config T Leaf Host (Option PolicyEngine) Reply Request :=
  (sandboxSystem host.policyEngine.isSome).run schedule (.start host programs)

theorem threads_linear {host : Host} (free : host.lockDepth = 0) (programs : T → List Request) (schedule : List T) :
    Linear (sandboxSystem host.policyEngine.isSome) host programs (host.threads programs schedule) :=
  (sandboxSystem host.policyEngine.isSome).run_linear ⟨free, rfl⟩ schedule

/-- Whatever the schedule, the log is an order in which the requests give the same answers and
leave the same host: a request is in it from a moment at which it is being served. -/
theorem threads_linearize (host : Host) (free : host.lockDepth = 0) (programs : T → List Request)
    (schedule later : List T) :
    (host.threads programs schedule).log <+: (host.threads programs (schedule ++ later)).log ∧
    (∀ t, ∃ due : List (Outcome Reply), due.length ≤ 1 ∧
      (((host.threads programs schedule).thread t).point = .idle → due = []) ∧
      ownedBy t (host.threads programs schedule).log =
        (programs t).take (((host.threads programs schedule).thread t).answers.length + due.length) ∧
      ownedBy t (replies Request.serve (host.threads programs schedule).log host) =
        ((host.threads programs schedule).thread t).answers ++ due) ∧
    ((host.threads programs schedule).Settled →
      (host.threads programs schedule).state = replay Request.serve (host.threads programs schedule).log host) := by
  have linear := threads_linear free programs schedule
  refine ⟨?_, fun t => linear.served t, fun settled => (linear.settled settled).1⟩
  unfold Host.threads
  rw [System.run_append]
  exact System.log_run _ _ later

end

/-- One thread creates a sandbox while another replaces the policy it names. -/
def racingPrograms : Bool → List Request
  | false => [.manager (.create demoConfig (smoothEnv 77)), .manager (.terminate "sbx-9f82a1" {})]
  | true => [.engine (.store (.registerPolicy { policyName := "strict_python" }))]

/-- The policy is replaced after the cgroup is monitored and before the policy is read. -/
def racingSchedule : List Bool := .replicate 19 false ++ .replicate 3 true ++ .replicate 70 false

def policedHost : Host := bareHost (some sysFilterLoader) (some .init)

set_option maxRecDepth 8000 in
theorem race_linearizes : policedHost.lockDepth = 0 ∧
    (policedHost.threads racingPrograms racingSchedule).Settled ∧
    (policedHost.threads racingPrograms racingSchedule).state =
      replay Request.serve (policedHost.threads racingPrograms racingSchedule).log policedHost := by
  have settled : (policedHost.threads racingPrograms racingSchedule).Settled := by decide
  exact ⟨rfl, settled, (threads_linearize policedHost rfl racingPrograms racingSchedule []).2.2 settled⟩

section
variable {T : Type} [DecidableEq T]

theorem policyCall_not_blocked (op : PolicyOp) (engine : PolicyEngine) : ((policyCall op).ends engine).1 ≠ .blocked := by
  cases op with
  | registerPolicy | loadFromJson | registerDefaultStrictPythonPolicy => exact nofun
  | loadFromYaml yamlPath file =>
    change ((loadFromYaml yamlPath file).ends engine).1 ≠ .blocked
    unfold loadFromYaml
    cases file.found with
    | throws | no => exact nofun
    | yes =>
      cases file.opens with
      | false => exact nofun
      | true =>
        cases yamlPolicy yamlPath file.content with
        | none => exact nofun
        | some policy => exact nofun

theorem EngineOp.action_not_blocked (op : EngineOp) (engine : Option PolicyEngine) :
    (op.action engine).1 ≠ .blocked := by
  cases engine with
  | none => exact nofun
  | some engine =>
    cases op with
    | getPolicy | evalSyscall | evalNetworkEgress => exact nofun
    | store op =>
      change ((policyCall op).ends engine).1.map Reply.status ≠ .blocked
      rw [ne_eq, Outcome.map_eq_blocked]
      exact policyCall_not_blocked op engine

/-- When no thread can move, no leaf mutex is held, and all threads are done or one of them is in
`create_sandbox` after a boot that failed and waits for the manager's mutex, which it holds; the
others are done or wait for that mutex too. -/
theorem stalled_threads (host : Host) (free : host.lockDepth = 0) (programs : T → List Request) (schedule : List T)
    (stalled : (sandboxSystem host.policyEngine.isSome).Stalled (host.threads programs schedule)) :
    (∀ lock, (host.threads programs schedule).owner lock = none) ∧
    ((∀ t, ((host.threads programs schedule).thread t).point = .idle ∧
      ((host.threads programs schedule).thread t).pending = []) ∨
    ∃ t before config env after,
      (host.threads programs schedule).log = before ++ (t, .manager (.create config env)) :: after ∧
      ownedBy t after = [] ∧
      BootFails (replay Request.serve before host) config env ∧
      (host.threads programs schedule).holder = some t ∧
      ((host.threads programs schedule).thread t).point = .stuck ∧
      ∀ u, u ≠ t → ((host.threads programs schedule).thread u).point = .idle ∧
        ∀ request rest, ((host.threads programs schedule).thread u).pending = request :: rest →
          ∃ op, request = .manager op) := by
  have linear := threads_linear free programs schedule
  have locked : Locked (host.threads programs schedule) := System.run_locked host programs schedule
  refine ⟨locked.stalled_free stalled, ?_⟩
  rcases locked.stalled linear.holds stalled with done | ⟨t, holder, stuck, others⟩
  · exact .inl done
  · obtain ⟨before, request, after, log, last, blocks, ready⟩ := linear.blocked stuck
    cases request with
    | engine op => exact absurd blocks (op.action_not_blocked _)
    | manager op =>
      have idle : (replay Request.serve before host).lockDepth = 0 := (ready _ rfl).1
      have again : LocksAgain op.op (replay Request.serve before host) := by
        by_contra quiet
        exact ((endsFree_iff idle op.op).mpr quiet).1 (Outcome.map_eq_blocked.mp blocks)
      cases op with
      | execute | terminate | metadata | terminateAll => exact again.elim
      | create config env =>
        refine .inr ⟨t, before, config, env, after, log, last, again, holder, stuck, fun u other => ?_⟩
        obtain ⟨idle, pending⟩ := others u other
        refine ⟨idle, fun request rest next => ?_⟩
        obtain ⟨code, job⟩ := pending request rest next
        cases request with
        | manager op => exact ⟨op, rfl⟩
        | engine op => cases job

end

/-- One creation whose boot is refused, and a thread that asks for metadata. -/
def refusedPrograms : Bool → List Request
  | false => [.manager (.create { sandboxId := "a" } refusedBoot)]
  | true => [.manager (.metadata "a")]

theorem refused_boot_stalls : (sandboxSystem false).Stalled
      ((bareHost none none).threads refusedPrograms (.replicate 13 false)) ∧
    ∃ t before config env after,
      ((bareHost none none).threads refusedPrograms (.replicate 13 false)).log =
        before ++ (t, .manager (.create config env)) :: after ∧
      BootFails (replay Request.serve before (bareHost none none)) config env ∧
      (((bareHost none none).threads refusedPrograms (.replicate 13 false)).thread t).point = .stuck := by
  have stalled : (sandboxSystem false).Stalled
      ((bareHost none none).threads refusedPrograms (.replicate 13 false)) := by
    intro t
    cases t with
    | false => exact Option.isNone_iff_eq_none.mp (by decide)
    | true => exact Option.isNone_iff_eq_none.mp (by decide)
  have unfinished :
      (((bareHost none none).threads refusedPrograms (.replicate 13 false)).thread true).pending.isEmpty = false := by
    decide
  rcases stalled_threads (bareHost none none) rfl refusedPrograms (.replicate 13 false) stalled with ⟨-, done | stuck⟩
  · rw [(done true).2] at unfinished
    cases unfinished
  · obtain ⟨t, before, config, env, after, log, -, fails, -, point, -⟩ := stuck
    exact ⟨stalled, t, before, config, env, after, log, fails, point⟩

section
variable {T : Type} [DecidableEq T]

omit [DecidableEq T] in
theorem replay_inStep {others : Finset Int} {attached : Bool} (log : List (T × Request)) (host : Host)
    (inStep : InStep others host) (orderly : (sandboxSystem attached).Orderly log host)
    (returned : ∀ entry ∈ replies Request.serve log host, ∃ reply, entry.2 = .returned reply) :
    InStep others (replay Request.serve log host) := by
  induction log generalizing host with
  | nil => exact inStep
  | cons entry rest ih =>
    obtain ⟨t, request⟩ := entry
    obtain ⟨here, later⟩ := orderly
    obtain ⟨reply, answer⟩ := returned _ List.mem_cons_self
    refine ih _ ?_ later fun entry member => returned entry (List.mem_cons_of_mem _ member)
    cases request with
    | engine op => exact inStep.congr rfl rfl rfl
    | manager op =>
      have returns : Returns op.op host := by
        change ((call op.op).ends host).1.map Reply.manager = .returned reply at answer
        cases outcome : ((call op.op).ends host).1 with
        | returned value => exact ⟨value, outcome⟩
        | threw | blocked =>
          rw [outcome] at answer
          cases answer
      exact inStep.call (here _ rfl).1 returns

/-- The tables stay in step whatever the schedule, as long as every request is answered. -/
theorem threads_stay_in_step (host : Host) (fresh : Fresh host) (programs : T → List Request) (schedule : List T)
    (settled : (host.threads programs schedule).Settled)
    (answered : ∀ t, .threw ∉ ((host.threads programs schedule).thread t).answers ∧
      .blocked ∉ ((host.threads programs schedule).thread t).answers) :
    InStep host.descriptors (host.threads programs schedule).state := by
  have linear := threads_linear fresh.free programs schedule
  obtain ⟨state, owned⟩ := linear.settled settled
  have returned : ∀ entry ∈ replies Request.serve (host.threads programs schedule).log host,
      ∃ reply, entry.2 = .returned reply := by
    rintro ⟨t, outcome⟩ member
    have mine : outcome ∈ ((host.threads programs schedule).thread t).answers := by
      rw [← (owned t).2]
      exact List.mem_map.mpr ⟨_, List.mem_filter.mpr ⟨member, by simp⟩, rfl⟩
    cases outcome with
    | returned reply => exact ⟨reply, rfl⟩
    | threw => exact absurd mine (answered t).1
    | blocked => exact absurd mine (answered t).2
  rw [state]
  exact replay_inStep _ host (.of_empty fresh.sandboxes fresh.cgroups rfl) linear.orderly returned

end

set_option maxRecDepth 8000 in
theorem race_in_step : Fresh policedHost ∧
    InStep policedHost.descriptors (policedHost.threads racingPrograms racingSchedule).state := by
  have fresh : Fresh policedHost := ⟨rfl, rfl, rfl⟩
  have settled : (policedHost.threads racingPrograms racingSchedule).Settled := by decide
  exact ⟨fresh, threads_stay_in_step policedHost fresh racingPrograms racingSchedule settled (by decide)⟩

end Aegis.Runtime
