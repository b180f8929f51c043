import Aegis.Library.Json
import Mathlib.Data.Finmap

/-! The agent inside the microVM: how it decodes a request, and what it answers. -/

set_option autoImplicit false

namespace Aegis.Guest
open Library

structure ExecutionRequest where
  codePayload : Bytes := []
  cliArgs : List Bytes := []
  environment : Finmap fun _ : Bytes => Bytes := ∅
  timeoutSec : Int := 0

/-- `durationMs` is the number as it is written. -/
structure ExecutionResponse where
  exitCode : Int
  stdout : Bytes := []
  stderr : Bytes := []
  durationMs : Bytes := bytesOf "0"
  errorString : Bytes := []
  deriving DecidableEq

/-! Decoding a value into the fields of a request. -/

inductive Field where
  | codePayload
  | cliArgs
  | environment
  | timeoutSec
  deriving DecidableEq

/-- Names are compared without regard to case. The long s and the Kelvin sign have a letter of
ASCII as their upper case. -/
def foldName : Bytes → Bytes
  | 0xC5 :: 0xBF :: rest => byte 'S' :: foldName rest
  | 0xE2 :: 0x84 :: 0xAA :: rest => byte 'K' :: foldName rest
  | b :: rest => (if byte 'a' ≤ b ∧ b ≤ byte 'z' then b - 32 else b) :: foldName rest
  | [] => []

def fieldOf (key : Bytes) : Option Field :=
  if foldName key = foldName (bytesOf "code_payload") then some .codePayload
  else if foldName key = foldName (bytesOf "cli_args") then some .cliArgs
  else if foldName key = foldName (bytesOf "environment") then some .environment
  else if foldName key = foldName (bytesOf "timeout_sec") then some .timeoutSec
  else none

/-- A number with a fraction or an exponent is no `int`, nor is one beyond 64 bits. -/
def parseInt (text : Bytes) : Option Int :=
  let value := if text.head? = some (byte '-') then (Json.decimal text.tail).map fun n => -(n : Int)
    else (Json.decimal text).map fun n => (n : Int)
  value.filter fun n => -2 ^ 63 ≤ n ∧ n < 2 ^ 63

def stringOf : Json → Option Bytes
  | .str text => some text
  | .null => some []
  | _ => none

def entriesOf (table : Finmap fun _ : Bytes => Bytes) : List (Bytes × Json) → Option (Finmap fun _ : Bytes => Bytes)
  | [] => some table
  | (key, value) :: rest => do entriesOf (table.insert key (← stringOf value)) rest

/-- The items of an array. A `null` leaves what the backing array has in its place. -/
def argsOf (backing : List Bytes) : List Json → Option (List Bytes)
  | [] => some []
  | .str text :: rest => (argsOf backing.tail rest).map (text :: ·)
  | .null :: rest => (argsOf backing.tail rest).map (backing.headD [] :: ·)
  | _ :: _ => none

/-- The struct that is decoded into. The array behind `cliArgs` may be longer than the slice: a
shorter one does not overwrite the end of a longer one that came before it. -/
structure Target where
  req : ExecutionRequest := {}
  backing : List Bytes := []

def Target.setArgs (target : Target) (args : List Bytes) : Target where
  req := { target.req with cliArgs := args }
  backing := if args = [] then [] else args ++ target.backing.drop args.length

/-- `none` if the value is not of the field's type. A `null` empties a slice or a map and leaves
the other fields alone. -/
def setField (target : Target) : Field → Json → Option Target
  | .codePayload, .str text => some { target with req.codePayload := text }
  | .codePayload, .null => some target
  | .cliArgs, .arr items => do return target.setArgs (← argsOf target.backing items)
  | .cliArgs, .null => some (target.setArgs [])
  | .environment, .obj members => do
      return { target with req.environment := ← entriesOf target.req.environment members }
  | .environment, .null => some { target with req.environment := ∅ }
  | .timeoutSec, .num text => do return { target with req.timeoutSec := ← parseInt text }
  | .timeoutSec, .null => some target
  | _, _ => none

/-- Later members overwrite earlier ones, unknown ones are skipped. -/
def setFields (target : Target) : List (Bytes × Json) → Option Target
  | [] => some target
  | (key, value) :: rest =>
      match fieldOf key with
      | none => setFields target rest
      | some field => do setFields (← setField target field value) rest

def unmarshal : Json → Option ExecutionRequest
  | .null => some {}
  | .obj members => (setFields {} members).map Target.req
  | _ => none

/-- The host leaves the connection open until it has read the answer, so that a request which
does not end keeps the agent waiting. -/
inductive Decoding where
  | request (req : ExecutionRequest)
  | failed
  | waiting

def decode (stream : Bytes) : Decoding :=
  match Json.read stream with
  | .value value =>
      match unmarshal value with
      | some req => .request req
      | none => .failed
  | .refused => .failed
  | .more => .waiting

/-- The first bytes of a request either leave the agent waiting or are the request already. -/
theorem decode_take (stream : Bytes) (count : Nat) :
    decode (stream.take count) = .waiting ∨ decode (stream.take count) = decode stream := by
  unfold decode
  rcases Json.read_take stream count with more | same
  · rw [more]
    exact .inl rfl
  · rw [same]
    exact .inr rfl

/-! The answer. -/

inductive RunError where
  | exit (code : Int)
  | other (message : Bytes)
  deriving DecidableEq

/-- What the agent sees of the decoder, the file system and the process it starts. -/
structure GuestEnv where
  decodeError : Bytes := []
  writeError : Option Bytes := none
  runError : Option RunError := none
  deadlineExceeded : Bool := false
  stdout : Bytes := []
  stderr : Bytes := []
  durationMs : Bytes := bytesOf "0"

def exitStatus (env : GuestEnv) : Int × Bytes :=
  match env.runError with
  | none => (0, [])
  | some error =>
      if env.deadlineExceeded then (124, bytesOf "Execution timed out inside guest microVM")
      else match error with
        | .exit code => (code, [])
        | .other message => (-1, message)

/-- The response to what has been received, `none` while the agent waits for more. -/
def handleConnection (stream : Bytes) (env : GuestEnv) : Option ExecutionResponse :=
  match decode stream with
  | .waiting => none
  | .failed =>
      some { exitCode := -1, errorString := bytesOf "Failed to decode JSON execution request: " ++ env.decodeError }
  | .request _ =>
      match env.writeError with
      | some error =>
          some { exitCode := -1, errorString := bytesOf "Failed to write temporary python script: " ++ error }
      | none =>
          some {
            exitCode := (exitStatus env).1, stdout := env.stdout, stderr := env.stderr
            durationMs := env.durationMs, errorString := (exitStatus env).2 }

/-- An empty error string is left out. -/
def ExecutionResponse.members (resp : ExecutionResponse) : List (Bytes × Json) :=
  [(bytesOf "exit_code", .num (bytesOf (toString resp.exitCode))),
    (bytesOf "stdout", .str (toValid 0 resp.stdout)),
    (bytesOf "stderr", .str (toValid 0 resp.stderr)),
    (bytesOf "duration_ms", .num resp.durationMs)] ++
  if resp.errorString = [] then [] else [(bytesOf "error_string", .str (toValid 0 resp.errorString))]

/-- The stream is a JSON text of the response. Which characters it escapes is left open. -/
def ExecutionResponse.Encodes (resp : ExecutionResponse) (stream : Bytes) : Prop :=
  Json.read stream = .value (.obj resp.members)

/-! A decoded payload is shorter than what was received. -/

/-- The payload, if there is one, is a string that leaves room for its quotes. -/
def ExecutionRequest.Fits (bound : Nat) (req : ExecutionRequest) : Prop :=
  asciiCount req.codePayload + 2 ≤ bound ∨ req.codePayload = []

section
variable {bound : Nat} {target result : Target}

theorem setField_fits (fits : target.req.Fits bound) {field : Field} {value : Json} (inside : value.Fits bound)
    (set : setField target field value = some result) : result.req.Fits bound := by
  unfold setField at set
  split at set
  · cases set
    exact .inl inside
  · cases set
    exact fits
  · obtain ⟨args, -, same⟩ := Option.bind_eq_some_iff.mp set
    cases same
    exact fits
  · cases set
    exact fits
  · obtain ⟨table, -, same⟩ := Option.bind_eq_some_iff.mp set
    cases same
    exact fits
  · cases set
    exact fits
  · obtain ⟨seconds, -, same⟩ := Option.bind_eq_some_iff.mp set
    cases same
    exact fits
  · cases set
    exact fits
  · cases set

theorem setFields_fits {members : List (Bytes × Json)} (inside : Json.MembersFit bound members)
    (fits : target.req.Fits bound) (set : setFields target members = some result) : result.req.Fits bound := by
  induction members generalizing target with
  | nil =>
    cases set
    exact fits
  | cons member rest ih =>
    obtain ⟨key, value⟩ := member
    obtain ⟨first, others⟩ := List.forall_mem_cons.mp inside
    unfold setFields at set
    cases named : fieldOf key with
    | none =>
      rw [named] at set
      exact ih others fits set
    | some field =>
      rw [named] at set
      obtain ⟨next, one, later⟩ := Option.bind_eq_some_iff.mp set
      exact ih others (setField_fits fits first one) later

end

theorem decode_fits {stream : Bytes} {req : ExecutionRequest} (decoded : decode stream = .request req) :
    req.Fits (asciiCount stream) := by
  unfold decode at decoded
  cases found : Json.read stream with
  | refused => simp [found] at decoded
  | more => simp [found] at decoded
  | value value =>
    cases result : unmarshal value with
    | none => simp [found, result] at decoded
    | some req' =>
      simp only [found, result, Decoding.request.injEq] at decoded
      subst decoded
      cases value with
      | null =>
        cases result
        exact .inr rfl
      | obj members =>
        obtain ⟨target, set, rfl⟩ := Option.map_eq_some_iff.mp result
        exact setFields_fits (Json.read_within found) (.inr rfl) set
      | _ => cases result

example : (match decode (bytesOf "\x7b\"Code_Payload\": \"print(1)\\n\", \"cli_args\": null\x7d") with
    | .request req => req.codePayload
    | _ => []) = bytesOf "print(1)\n" := by decide +kernel

example : (match decode (bytesOf "\x7b\"cli_args\":[\"a\",\"b\"],\"cli_args\":[\"c\"],\"cli_args\":[null,null]\x7d") with
    | .request req => req.cliArgs
    | _ => []) = [bytesOf "c", bytesOf "b"] := by decide +kernel

/-- No request carries the very bytes it was sent as. -/
theorem codePayload_ne_stream {stream : Bytes} {req : ExecutionRequest} (decoded : decode stream = .request req) :
    req.codePayload ≠ stream := by
  intro same
  rcases decode_fits decoded with shorter | empty
  · rw [same] at shorter
    omega
  · -- nothing has been received, so that the decoder is still waiting
    rw [← same, empty] at decoded
    cases decoded

end Aegis.Guest
