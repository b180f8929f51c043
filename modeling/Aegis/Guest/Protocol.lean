import Aegis.Guest.Agent
import Aegis.Runtime.Termination

/-! The two ends of the socket: what `execute_code` sends and makes of the answer, and what the
agent makes of what it is sent. -/

set_option autoImplicit false

namespace Aegis.Guest
open Library Aegis.Runtime

section
variable {host : Host} {sandboxId : String} {entry : SandboxInstance}

theorem executeCode_active (free : host.lockDepth = 0) (known : host.sandboxes.lookup sandboxId = some entry)
    (active : entry.isActive = true) (codePayload : String) {env : ExecEnv} (connects : env.connects = true) :
    (executeCode sandboxId codePayload env).ends host =
      (.returned (if env.response = [] then { sandboxId }
        else { sandboxId, stdoutOutput := agentOutput env.response, exitCode := 0 }),
        { host with sent := host.sent ++ [(entry.guestVsockPath, codePayload)] }) := by
  let locked := sandboxMutex.put (sandboxMutex.depth host + 1) host
  have body : (executeBody sandboxId codePayload env).ends locked =
      (.returned (if env.response = [] then { sandboxId }
        else { sandboxId, stdoutOutput := agentOutput env.response, exitCode := 0 }),
        { locked with sent := host.sent ++ [(entry.guestVsockPath, codePayload)] }) := by
    have same : locked.sandboxes.lookup sandboxId = some entry := known
    rw [executeBody, Proc.ends_get_bind, same]
    dsimp only
    rw [if_pos active, if_pos connects, Proc.ends_modify_bind, Proc.ends_ite]
    split
    · rfl
    · rfl
  exact sandboxMutex.ends_guard (.inl free) (by simp) body

/-- The bytes that a call of `execute_code` adds to what went into the sockets. -/
def written (host : Host) (sandboxId codePayload : String) : Bytes :=
  ((((executeCode sandboxId codePayload {}).ends host).2.sent.drop host.sent.length).map fun message =>
    bytesOf message.2).flatten

theorem written_active (free : host.lockDepth = 0) (known : host.sandboxes.lookup sandboxId = some entry)
    (active : entry.isActive = true) (codePayload : String) :
    written host sandboxId codePayload = bytesOf codePayload := by
  unfold written
  rw [executeCode_active free known active codePayload rfl, List.drop_left]
  simp

/-- The result is the response, field by field. -/
def ExecutionResponse.Carried (resp : ExecutionResponse) (result : ExecutionResult) : Prop :=
  result.exitCode = resp.exitCode ∧ result.stdoutOutput = resp.stdout ∧ bytesOf result.stderrOutput = resp.stderr

/-- The agent takes the payload for what it is, and the host the answer, which arrives in `reads`. -/
structure Agree (host : Host) (sandboxId codePayload : String) (guest : GuestEnv) (reads : List Bytes) : Prop where
  request : ∃ req, decode (written host sandboxId codePayload) = .request req ∧ req.codePayload = bytesOf codePayload
  result : ∀ resp, handleConnection (written host sandboxId codePayload) guest = some resp →
    resp.Encodes reads.flatten → (∀ part ∈ reads, part ≠ []) →
    ∃ result after, (executeCode sandboxId codePayload { response := reads.headD [] }).ends host =
      (.returned result, after) ∧ resp.Carried result

/-- An answer is never taken apart: whatever it says, the call has succeeded. -/
theorem carried_iff (free : host.lockDepth = 0) (known : host.sandboxes.lookup sandboxId = some entry)
    (active : entry.isActive = true) (codePayload : String) {first : Bytes} (filled : first ≠ [])
    (resp : ExecutionResponse) :
    (∃ result after, (executeCode sandboxId codePayload { response := first }).ends host = (.returned result, after) ∧
      resp.Carried result) ↔ resp.exitCode = 0 ∧ resp.stdout = agentOutput first ∧ resp.stderr = [] := by
  rw [executeCode_active free known active codePayload rfl, if_neg filled]
  constructor
  · rintro ⟨result, after, ends, exit, out, err⟩
    cases ends
    exact ⟨exit.symm, out.symm, err.symm⟩
  · rintro ⟨exit, out, err⟩
    exact ⟨_, _, rfl, exit.symm, out.symm, err.symm⟩

/-- The host sends the code itself where the agent expects a request that contains it. -/
theorem host_and_guest_never_agree (free : host.lockDepth = 0)
    (known : host.sandboxes.lookup sandboxId = some entry) (active : entry.isActive = true) (codePayload : String)
    (guest : GuestEnv) (reads : List Bytes) : ¬ Agree host sandboxId codePayload guest reads := by
  intro agree
  obtain ⟨req, decoded, same⟩ := agree.request
  rw [written_active free known active codePayload] at decoded
  exact codePayload_ne_stream decoded same

end

def servingEntry : SandboxInstance where
  config := { sandboxId := "sbx-demo" }
  metadata := { sandboxId := "sbx-demo", state := .running }
  firecrackerPid := 4242
  socketPath := .parse "/var/run/aegis/sbx-demo/firecracker.socket"
  guestVsockPath := .parse "/var/run/aegis/sbx-demo/guest_agent.socket"
  tapFd := 9
  isActive := true

def servingHost : Host := { bareHost none none with sandboxes := Finmap.singleton "sbx-demo" servingEntry }

theorem servingHost_known : servingHost.sandboxes.lookup "sbx-demo" = some servingEntry :=
  Finmap.lookup_singleton_eq

/-- A payload that is itself a request still is not the payload of that request. -/
theorem request_as_payload_disagrees :
    ¬ Agree servingHost "sbx-demo" "\x7b\"code_payload\": \"print(1)\"\x7d" { stdout := bytesOf "1\n" } [] :=
  host_and_guest_never_agree rfl servingHost_known rfl _ _ _

def refusing : GuestEnv := { decodeError := bytesOf "invalid character 'p' looking for beginning of value" }

def refusal : Bytes := 0x7B :: bytesOf ("\"exit_code\":-1,\"stdout\":\"\",\"stderr\":\"\",\"duration_ms\":0," ++
  "\"error_string\":\"Failed to decode JSON execution request: invalid character 'p' looking for beginning of value\"\x7d\n")

/-- The agent refuses the plain code, and the host reports its refusal as the output of a success. -/
theorem plain_code_refused :
    ¬ Agree servingHost "sbx-demo" "print(1)" refusing [refusal] ∧
      ∃ resp, handleConnection (written servingHost "sbx-demo" "print(1)") refusing = some resp ∧
        resp.exitCode = -1 ∧
        ¬ ∃ result after, (executeCode "sbx-demo" "print(1)" { response := refusal }).ends servingHost =
          (.returned result, after) ∧ resp.Carried result := by
  have sent := written_active rfl servingHost_known rfl "print(1)"
  have failed : decode (bytesOf "print(1)") = .failed := rfl
  constructor
  · intro agree
    obtain ⟨req, decoded, -⟩ := agree.request
    rw [sent, failed] at decoded
    cases decoded
  · rw [sent, handleConnection, failed]
    refine ⟨_, rfl, rfl, ?_⟩
    have filled : refusal ≠ [] := List.cons_ne_nil _ _
    rw [carried_iff rfl servingHost_known rfl "print(1)" filled]
    rintro ⟨exit, -⟩
    exact absurd exit (by decide)

end Aegis.Guest
