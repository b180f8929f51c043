import Aegis.Guest.Protocol
import Aegis.Library.JsonWriter
import Mathlib.Data.List.TakeWhile

/-! JSON texts of the agent's two messages: what it decodes of a request that a client writes, and
how much the host gets of the answer that it writes itself. -/

set_option autoImplicit false

namespace Aegis.Guest
open Library Aegis.Runtime

/-! The request. -/

theorem head_digits (n : Nat) : (bytesOf (toString n)).head? ≠ some (byte '-') := by
  rcases Nat.eq_zero_or_pos n with rfl | positive
  · decide
  · obtain ⟨c, rest, written, first, -⟩ := Json.advance_digits positive
    rw [written]
    rintro ⟨⟩
    cases first

theorem parseInt_toString {n : Int} (fits : -2 ^ 63 ≤ n ∧ n < 2 ^ 63) : parseInt (bytesOf (toString n)) = some n := by
  have kept : (some n).filter (fun n => decide (-2 ^ 63 ≤ n ∧ n < 2 ^ 63)) = some n := by
    rw [Option.filter_some, if_pos (decide_eq_true fits)]
  cases n with
  | ofNat n =>
    rw [show toString (Int.ofNat n) = toString n from rfl, parseInt, if_neg (head_digits n), Json.decimal_toString]
    exact kept
  | negSucc n =>
    rw [show toString (Int.negSucc n) = "-" ++ toString (n + 1) from rfl, bytesOf_append, parseInt]
    rw [if_pos (show (bytesOf "-" ++ bytesOf (toString (n + 1))).head? = some (byte '-') from rfl)]
    rw [show (bytesOf "-" ++ bytesOf (toString (n + 1))).tail = bytesOf (toString (n + 1)) from rfl, Json.decimal_toString]
    exact kept

/-- A request with its members in the order of the fields. -/
def requestMembers (codePayload : Bytes) (cliArgs : List Bytes) (environment : List (Bytes × Bytes)) (timeoutSec : Int) :
    List (Bytes × Json) :=
  [(bytesOf "code_payload", .str codePayload),
    (bytesOf "cli_args", .arr (cliArgs.map .str)),
    (bytesOf "environment", .obj (environment.map fun entry => (entry.1, .str entry.2))),
    (bytesOf "timeout_sec", .num (bytesOf (toString timeoutSec)))]

def encodeRequest (codePayload : Bytes) (cliArgs : List Bytes) (environment : List (Bytes × Bytes)) (timeoutSec : Int) :
    Bytes :=
  (Json.obj (requestMembers codePayload cliArgs environment timeoutSec)).write

theorem requestMembers_sound (codePayload : Bytes) (cliArgs : List Bytes) (environment : List (Bytes × Bytes))
    (timeoutSec : Int) : Json.SoundMembers 1 (requestMembers codePayload cliArgs environment timeoutSec) := by
  have args : Json.SoundItems 0 (cliArgs.map .str) := by
    induction cliArgs with
    | nil => simp [Json.SoundItems]
    | cons arg cliArgs ih => simpa [Json.SoundItems, Json.Sound] using ih
  have entries : Json.SoundMembers 0 (environment.map fun entry => (entry.1, .str entry.2)) := by
    induction environment with
    | nil => simp [Json.SoundMembers]
    | cons entry environment ih => simpa [Json.SoundMembers, Json.Sound] using ih
  have number : Json.isNumber (bytesOf (toString timeoutSec)) = true := Json.isNumber_int _
  simp [-Int.toString_eq_repr, requestMembers, Json.SoundMembers, Json.Sound, args, entries, number]

theorem argsOf_validItems (backing cliArgs : List Bytes) :
    argsOf backing (Json.validItems (cliArgs.map .str)) = some (cliArgs.map (toValid 0)) := by
  induction cliArgs generalizing backing with
  | nil => rfl
  | cons arg cliArgs ih =>
    rw [List.map_cons, Json.validItems, Json.valid, argsOf, ih]
    rfl

/-- Of several entries of one name the last one stays. -/
def environmentOf (environment : List (Bytes × Bytes)) : Finmap fun _ : Bytes => Bytes :=
  environment.foldl (fun table entry => table.insert (toValid 0 entry.1) (toValid 0 entry.2)) ∅

theorem entriesOf_validMembers (environment : List (Bytes × Bytes)) :
    entriesOf ∅ (Json.validMembers (environment.map fun entry => (entry.1, .str entry.2))) =
      some (environmentOf environment) := by
  unfold environmentOf
  generalize (∅ : Finmap fun _ : Bytes => Bytes) = table
  induction environment generalizing table with
  | nil => rfl
  | cons entry environment ih => exact ih _

theorem unmarshal_request (codePayload : Bytes) (cliArgs : List Bytes) (environment : List (Bytes × Bytes))
    {timeoutSec : Int} (fits : -2 ^ 63 ≤ timeoutSec ∧ timeoutSec < 2 ^ 63) :
    unmarshal (.obj (Json.validMembers (requestMembers codePayload cliArgs environment timeoutSec))) = some {
      codePayload := toValid 0 codePayload, cliArgs := cliArgs.map (toValid 0)
      environment := environmentOf environment, timeoutSec } := by
  have names : toValid 0 (bytesOf "code_payload") = bytesOf "code_payload" ∧
      toValid 0 (bytesOf "cli_args") = bytesOf "cli_args" ∧ toValid 0 (bytesOf "environment") = bytesOf "environment" ∧
      toValid 0 (bytesOf "timeout_sec") = bytesOf "timeout_sec" := by decide +kernel
  have fields : fieldOf (bytesOf "code_payload") = some .codePayload ∧ fieldOf (bytesOf "cli_args") = some .cliArgs ∧
      fieldOf (bytesOf "environment") = some .environment ∧ fieldOf (bytesOf "timeout_sec") = some .timeoutSec := by
    decide +kernel
  simp only [requestMembers, Json.validMembers, Json.valid, names, unmarshal, setFields, fields, setField,
    argsOf_validItems, Target.setArgs, entriesOf_validMembers, parseInt_toString fits, Option.bind_eq_bind, Option.bind_some,
    Option.pure_def, Option.map_some]

theorem read_take_request (codePayload : Bytes) (cliArgs : List Bytes) (environment : List (Bytes × Bytes))
    (timeoutSec : Int) (count : Nat) :
    Json.read ((encodeRequest codePayload cliArgs environment timeoutSec).take count) =
      if (encodeRequest codePayload cliArgs environment timeoutSec).length ≤ count then
        .value (.obj (Json.validMembers (requestMembers codePayload cliArgs environment timeoutSec)))
      else .more := by
  have blank : ([] : Bytes).all Json.isSpace = true := rfl
  have taken := Json.read_take_write (requestMembers_sound codePayload cliArgs environment timeoutSec) (by decide)
    blank count
  rwa [List.append_nil] at taken

/-- However much of a request has arrived, the agent knows whether it is all, and takes it for
what it says. -/
theorem decode_take_request (codePayload : Bytes) (cliArgs : List Bytes) (environment : List (Bytes × Bytes))
    {timeoutSec : Int} (fits : -2 ^ 63 ≤ timeoutSec ∧ timeoutSec < 2 ^ 63) (count : Nat) :
    decode ((encodeRequest codePayload cliArgs environment timeoutSec).take count) =
      if (encodeRequest codePayload cliArgs environment timeoutSec).length ≤ count then .request {
        codePayload := toValid 0 codePayload, cliArgs := cliArgs.map (toValid 0)
        environment := environmentOf environment, timeoutSec }
      else .waiting := by
  unfold decode
  rw [read_take_request]
  by_cases whole : (encodeRequest codePayload cliArgs environment timeoutSec).length ≤ count
  · rw [if_pos whole, if_pos whole]
    dsimp only
    rw [unmarshal_request codePayload cliArgs environment fits]
  · rw [if_neg whole, if_neg whole]

def sampleRequest : Bytes :=
  encodeRequest (bytesOf "print('<')\n" ++ [0xFF]) [bytesOf "-v"] [(bytesOf "A", []), (bytesOf "A", bytesOf "1")] (-5)

/-- The stray byte has become U+FFFD, and of the two entries of one name the second is there. -/
theorem sampleRequest_arrives :
    decode (sampleRequest.take 40) = .waiting ∧ decode sampleRequest = .request {
      codePayload := bytesOf "print('<')\n" ++ replacement, cliArgs := [bytesOf "-v"]
      environment := Finmap.singleton (bytesOf "A") (bytesOf "1"), timeoutSec := -5 } := by
  have arrives (count : Nat) := decode_take_request (bytesOf "print('<')\n" ++ [0xFF]) [bytesOf "-v"]
    [(bytesOf "A", []), (bytesOf "A", bytesOf "1")] (show -2 ^ 63 ≤ (-5 : Int) ∧ (-5 : Int) < 2 ^ 63 by decide) count
  constructor
  · exact (arrives 40).trans (if_neg (by decide +kernel))
  · have whole := (arrives sampleRequest.length).trans (if_pos (Nat.le_refl _))
    rwa [show encodeRequest _ _ _ _ = sampleRequest from rfl, List.take_length] at whole

/-! The answer. -/

namespace ExecutionResponse

/-- The fields in their order. An empty error string is left out. -/
def fields (resp : ExecutionResponse) : List (Bytes × Json) :=
  [(bytesOf "exit_code", .num (bytesOf (toString resp.exitCode))),
    (bytesOf "stdout", .str resp.stdout),
    (bytesOf "stderr", .str resp.stderr),
    (bytesOf "duration_ms", .num resp.durationMs)] ++
  if resp.errorString = [] then [] else [(bytesOf "error_string", .str resp.errorString)]

/-- The object, and the line feed behind every value of a stream. -/
def encode (resp : ExecutionResponse) : Bytes := (Json.obj resp.fields).write ++ [0x0A]

variable {resp : ExecutionResponse}

theorem valid_fields (resp : ExecutionResponse) : Json.validMembers resp.fields = resp.members := by
  unfold fields members
  split <;> rfl

theorem fields_sound (number : Json.isNumber resp.durationMs = true) : Json.SoundMembers 0 resp.fields := by
  have exit : Json.isNumber (bytesOf (toString resp.exitCode)) = true := Json.isNumber_int _
  unfold fields
  split <;> simp [-Int.toString_eq_repr, Json.SoundMembers, Json.Sound, exit, number]

theorem read_take_encode (number : Json.isNumber resp.durationMs = true) (count : Nat) :
    Json.read (resp.encode.take count) =
      if resp.encode.length ≤ count + 1 then .value (.obj resp.members) else .more := by
  have blank : ([0x0A] : Bytes).all Json.isSpace = true := rfl
  have taken := Json.read_take_write (fields_sound number) (by decide) blank count
  have length : resp.encode.length = (Json.obj resp.fields).write.length + 1 := by simp [encode]
  rw [valid_fields] at taken
  rw [length, encode, taken]
  simp

theorem visible_fields (number : Json.isNumber resp.durationMs = true) :
    ∀ b ∈ (Json.obj resp.fields).write, 0x20 ≤ b :=
  Json.visible_write 1 _ (by simpa [Json.Sound] using fields_sound number)

theorem nonzero_encode (number : Json.isNumber resp.durationMs = true) : ∀ b ∈ resp.encode, b ≠ 0 := by
  intro b member
  rcases List.mem_append.mp member with inside | last
  · rintro rfl
    exact absurd (visible_fields number 0 inside) (by decide)
  · rw [List.mem_singleton.mp last]
    decide

end ExecutionResponse

/-- The answer is one line, which is read as the response. -/
theorem encodes_encode {resp : ExecutionResponse} (number : Json.isNumber resp.durationMs = true) :
    resp.Encodes resp.encode ∧ ∃ line, resp.encode = line ++ [0x0A] ∧ ∀ b ∈ line, 0x20 ≤ b := by
  refine ⟨?_, _, rfl, resp.visible_fields number⟩
  have whole := resp.read_take_encode number resp.encode.length
  rwa [List.take_length, if_pos (Nat.le_succ _)] at whole

def failedRun : ExecutionResponse where
  exitCode := -1
  stdout := bytesOf "<b>\t\"1\"\n" ++ [0xE2, 0x80, 0xA8, 0xFF]
  durationMs := bytesOf "12.5e-7"
  errorString := bytesOf "exec: \\"

theorem failedRun_reads_back :
    failedRun.Encodes failedRun.encode ∧ ∃ line, failedRun.encode = line ++ [0x0A] ∧ ∀ b ∈ line, 0x20 ≤ b :=
  encodes_encode (by decide +kernel)

section
variable {host : Host} {sandboxId : String} {entry : SandboxInstance}

/-- The answer arrives in several reads, of which the host makes one. -/
theorem output_reads_back (free : host.lockDepth = 0) (known : host.sandboxes.lookup sandboxId = some entry)
    (active : entry.isActive = true) (codePayload : String) {resp : ExecutionResponse}
    (number : Json.isNumber resp.durationMs = true) {first rest : Bytes} (filled : first ≠ [])
    (arrives : first ++ rest = resp.encode) :
    ∃ result after, (executeCode sandboxId codePayload { response := first }).ends host = (.returned result, after) ∧
      result.exitCode = 0 ∧ result.stdoutOutput = first.take 8191 ∧
      Json.read result.stdoutOutput =
        if resp.encode.length ≤ min 8191 first.length + 1 then .value (.obj resp.members) else .more := by
  have connects : ({ response := first } : ExecEnv).connects = true := rfl
  have ends := executeCode_active free known active codePayload connects
  rw [if_neg filled] at ends
  have output : agentOutput first = first.take 8191 := by
    refine List.takeWhile_eq_self_iff.mpr fun b member => ?_
    have inside : b ∈ resp.encode := by
      rw [← arrives]
      exact List.mem_append_left _ (List.mem_of_mem_take member)
    simpa using resp.nonzero_encode number b inside
  have taken : first.take 8191 = resp.encode.take (min 8191 first.length) := by
    rw [← arrives, ← List.take_take, List.take_left]
  refine ⟨_, _, ends, rfl, output, ?_⟩
  dsimp only
  rw [output, taken]
  exact resp.read_take_encode number _

/-- The failure of the run is only in the text that is taken for its output. -/
theorem failedRun_passes :
    ∃ result after, (executeCode "sbx-demo" "print(1)" { response := failedRun.encode }).ends servingHost =
      (.returned result, after) ∧ result.exitCode = 0 ∧
      Json.read result.stdoutOutput = .value (.obj failedRun.members) := by
  obtain ⟨result, after, ends, exit, -, read⟩ := output_reads_back rfl servingHost_known rfl "print(1)"
    (show Json.isNumber failedRun.durationMs = true by decide +kernel) (by decide +kernel) (List.append_nil _)
  refine ⟨result, after, ends, exit, ?_⟩
  rwa [if_pos (by decide +kernel)] at read

end

end Aegis.Guest
