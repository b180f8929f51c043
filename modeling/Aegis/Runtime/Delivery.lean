import Aegis.Library.Http
import Aegis.Runtime.HttpClient

/-! Booting over a stream with an HTTP server at its other end.

What the manager writes may be cut short, and what it reads too. The server is any that waits for
whole requests and serves them one after the other. One that answers sooner is not meant: it can
make a boot succeed of which it has read one byte.
-/

set_option autoImplicit false

namespace Aegis.Runtime
open Library

/-! What the server reads. -/

def putRequest (endpoint payload : String) : Http.Request where
  method := bytesOf "PUT"
  target := bytesOf endpoint
  fields := [
    (bytesOf "Host", bytesOf "localhost"),
    (bytesOf "Content-Type", bytesOf "application/json"),
    (bytesOf "Content-Length", bytesOf (toString payload.length)),
    (bytesOf "Connection", bytesOf "close")]
  body := bytesOf payload

theorem write_putRequest (endpoint payload : String) :
    (putRequest endpoint payload).write = bytesOf (httpRequest endpoint payload) := by
  have verb : bytesOf "PUT " = bytesOf "PUT" ++ [0x20] := by decide
  have version : bytesOf " HTTP/1.1\r\n" = 0x20 :: (bytesOf "HTTP/1.1" ++ Http.crlf) := by decide
  have host : bytesOf "Host: localhost\r\n" =
      bytesOf "Host" ++ byte ':' :: 0x20 :: (bytesOf "localhost" ++ Http.crlf) := by decide
  have type : bytesOf "Content-Type: application/json\r\n" =
      bytesOf "Content-Type" ++ byte ':' :: 0x20 :: (bytesOf "application/json" ++ Http.crlf) := by decide
  have length : bytesOf "Content-Length: " = bytesOf "Content-Length" ++ [byte ':', 0x20] := by decide
  have ended : bytesOf "\r\n" = Http.crlf := by decide
  have close : bytesOf "Connection: close\r\n\r\n" =
      bytesOf "Connection" ++ byte ':' :: 0x20 :: (bytesOf "close" ++ (Http.crlf ++ Http.crlf)) := by decide
  unfold httpRequest
  simp only [bytesOf_append, verb, version, host, type, length, ended, close]
  simp only [Http.Request.write, Http.Request.lines, Http.Request.firstLine, Http.writeHead, Http.writeField,
    putRequest, List.map_cons, List.map_nil, List.flatMap_cons, List.flatMap_nil, List.append_assoc, List.cons_append,
    List.nil_append]

theorem proper_putRequest {endpoint : String} (word : Http.IsWord (bytesOf endpoint)) (payload : String) :
    (putRequest endpoint payload).Proper where
  method := (by decide : Http.IsWord (bytesOf "PUT"))
  target := word
  names := by
    have all : ∀ name ∈ [bytesOf "Host", bytesOf "Content-Type", bytesOf "Content-Length", bytesOf "Connection"],
        Http.IsName name := by decide +kernel
    exact fun field member => all field.1 (List.mem_map_of_mem member)
  values := by
    have others : ∀ value ∈ [bytesOf "localhost", bytesOf "application/json", bytesOf "close"],
        Http.IsValue value := by decide +kernel
    have size := Http.isValue_toString payload.length
    simp only [List.forall_mem_cons] at others
    simpa [putRequest, others] using size
  size := by
    have single : (putRequest endpoint payload).fields.filter Http.isLength =
        [(bytesOf "Content-Length", bytesOf (toString payload.length))] := by
      have host : ¬ Http.isLength (bytesOf "Host", bytesOf "localhost") = true := by decide +kernel
      have type : ¬ Http.isLength (bytesOf "Content-Type", bytesOf "application/json") = true := by decide +kernel
      have close : ¬ Http.isLength (bytesOf "Connection", bytesOf "close") = true := by decide +kernel
      have named : (bytesOf "Content-Length").map Http.lower = bytesOf "content-length" := by decide +kernel
      have length : Http.isLength (bytesOf "Content-Length", bytesOf (toString payload.length)) = true :=
        decide_eq_true named
      simp only [putRequest]
      rw [List.filter_cons_of_neg host, List.filter_cons_of_neg type, List.filter_cons_of_pos length,
        List.filter_cons_of_neg close, List.filter_nil]
    have bytes : (bytesOf payload).length = payload.length := by
      rw [bytesOf, List.length_map, String.length_toList]
    unfold Http.contentLength
    rw [single]
    exact (Json.decimal_toString _).trans (congrArg some bytes.symm)

/-- Nothing in the payload ends the request early or adds another to it. -/
theorem read_httpRequest {endpoint : String} (word : Http.IsWord (bytesOf endpoint)) (payload : String) (count : Nat) :
    Http.read ((bytesOf (httpRequest endpoint payload)).take count) =
      if (bytesOf (httpRequest endpoint payload)).length ≤ count then .request (putRequest endpoint payload) []
      else .more := by
  have taken := Http.read_write (proper_putRequest word payload) [] count
  rwa [List.append_nil, List.take_nil, write_putRequest] at taken

/-! The server. -/

/-- `receive` says what it makes of the bytes so far: its next state, its answer, and whether it has
acted on them. -/
structure ApiServer (σ : Type) where
  receive : σ → Bytes → σ × Bytes × Bool
  serve : σ → Http.Request → σ × Bytes × Bool
  waits : ∀ state stream, Http.read stream = .more → receive state stream = (state, [], false)
  serves : ∀ state stream request rest, Http.read stream = .request request rest →
    receive state stream = serve state request

/-- All of the request comes to the other end. -/
def Exchange.Carries (exchange : Exchange) (httpRequest : Bytes) : Prop :=
  exchange.connects = true ∧ httpRequest.length ≤ exchange.takes

instance (exchange : Exchange) (httpRequest : Bytes) : Decidable (exchange.Carries httpRequest) :=
  inferInstanceAs (Decidable (_ ∧ _))

/-- What the read brings of the response has a 2xx status in it. -/
def Exchange.Shows (exchange : Exchange) (response : Bytes) : Prop :=
  success2xx <:+: cString (response.take (min exchange.gives (responseBufSize - 1)))

instance (exchange : Exchange) (response : Bytes) : Decidable (exchange.Shows response) :=
  inferInstanceAs (Decidable (_ <:+: _))

namespace ApiServer
variable {σ : Type} (server : ApiServer σ)

/-- `send_unix_http_put` against this server. -/
def answer (state : σ) (exchange : Exchange) (endpoint payload : String) : σ × PutAnswer :=
  if exchange.connects then
    let request := bytesOf (httpRequest endpoint payload)
    let (next, response, acted) := server.receive state (request.take exchange.takes)
    (next, exchange.answer request response acted)
  else (state, .unreachable)

section
variable {endpoint : String} (word : Http.IsWord (bytesOf endpoint)) (payload : String)
variable (exchange : Exchange) (state : σ)
include word

theorem answer_carried (carries : exchange.Carries (bytesOf (httpRequest endpoint payload))) :
    server.answer state exchange endpoint payload =
      ((server.serve state (putRequest endpoint payload)).1,
        .answered (server.serve state (putRequest endpoint payload)).2.2
          (sendUnixHttpPutOver exchange (bytesOf (httpRequest endpoint payload))
            (server.serve state (putRequest endpoint payload)).2.1)) := by
  have taken := read_httpRequest word payload exchange.takes
  rw [if_pos carries.2] at taken
  simp [answer, server.serves _ _ _ _ taken, Exchange.answer, carries.1]

/-- Nothing comes of a request that is cut short. -/
theorem answer_lost (lost : ¬ exchange.Carries (bytesOf (httpRequest endpoint payload))) :
    (server.answer state exchange endpoint payload).1 = state ∧
      (server.answer state exchange endpoint payload).2.accepted = false ∧
      (server.answer state exchange endpoint payload).2.reported = false := by
  by_cases connects : exchange.connects = true
  · have taken := read_httpRequest word payload exchange.takes
    rw [if_neg fun whole => lost ⟨connects, whole⟩] at taken
    simp [answer, server.waits _ _ taken, Exchange.answer, connects, PutAnswer.accepted, PutAnswer.reported,
      sendUnixHttpPutOver]
  · simp [answer, connects, PutAnswer.accepted, PutAnswer.reported]

theorem answer_reported :
    (server.answer state exchange endpoint payload).2.reported = true ↔
      exchange.Carries (bytesOf (httpRequest endpoint payload)) ∧
        exchange.Shows (server.serve state (putRequest endpoint payload)).2.1 := by
  have filled := httpRequest_ne_nil endpoint payload
  by_cases carries : exchange.Carries (bytesOf (httpRequest endpoint payload))
  · have positive : 0 < exchange.takes := (List.length_pos_iff.mpr filled).trans_le carries.2
    rw [server.answer_carried word payload exchange state carries, PutAnswer.reported,
      exchange.sends_iff_infix filled]
    simp [carries, carries.1, positive, Exchange.Shows]
  · simp [server.answer_lost word payload exchange state carries, carries]

end

/-! A boot. -/

end ApiServer

def Put.request (config : SandboxConfig) (put : Put) : Http.Request := putRequest put.endpoint (put.payload config)

def Put.bytes (config : SandboxConfig) (put : Put) : Bytes := bytesOf (httpRequest put.endpoint (put.payload config))

theorem Put.endpoint_word (put : Put) : Http.IsWord (bytesOf put.endpoint) := by
  cases put <;> decide +kernel

/-- The requests of a boot that goes well. -/
def wantedPuts (config : SandboxConfig) (env : BootEnv) : List Put :=
  if Restores config env then [.snapshotLoad] else [.bootSource, .drives, .machineConfig, .actions]

/-- The requests that are made. Looking for the snapshot comes before all of them. -/
def madePuts (config : SandboxConfig) (env : BootEnv) : List Put :=
  if BootThrows config env then [] else bootPuts config env

theorem bootPuts_eq (config : SandboxConfig) (env : BootEnv) :
    bootPuts config env = issued env (wantedPuts config env) := by
  unfold bootPuts wantedPuts
  split
  · rfl
  · rfl

theorem bootReported_iff (config : SandboxConfig) (env : BootEnv) :
    BootReported config env ↔ ∀ put ∈ wantedPuts config env, (env.answer put).reported = true := by
  unfold BootReported wantedPuts
  split
  · simp [BootEnv.answer]
  · simp [BootEnv.answer, BootEnv.Configured, and_assoc]

namespace ApiServer
variable {σ : Type} (server : ApiServer σ) (exchange : Put → Exchange) (config : SandboxConfig)

def put (state : σ) (put : Put) : σ × PutAnswer :=
  server.answer state (exchange put) put.endpoint (put.payload config)

/-- The server's state behind these requests. -/
def after (state : σ) (puts : List Put) : σ :=
  puts.foldl (fun state put => (server.put exchange config state put).1) state

/-- What the manager is told when its requests go to this server. -/
def env (state : σ) (found : Query) : BootEnv :=
  let told (before : List Put) (put : Put) :=
    (server.put exchange config (server.after exchange config state before) put).2
  { snapshotExists := found
    snapshotLoad := told [] .snapshotLoad
    bootSource := told [] .bootSource
    drives := told [.bootSource] .drives
    machineConfig := told [.bootSource, .drives] .machineConfig
    actions := told [.bootSource, .drives, .machineConfig] .actions }

/-- The server's state when it has served these requests, each as it was meant. -/
def serveAll (state : σ) (puts : List Put) : σ :=
  puts.foldl (fun state put => (server.serve state (put.request config)).1) state

/-- The request comes in whole, and the answer shows a success in what is read of it. -/
def Serves (state : σ) (put : Put) : Prop :=
  (exchange put).Carries (put.bytes config) ∧
    (exchange put).Shows (server.serve state (put.request config)).2.1

def ServesAll : σ → List Put → Prop
  | _, [] => True
  | state, put :: rest =>
    server.Serves exchange config state put ∧ ServesAll (server.serve state (put.request config)).1 rest

/-- The manager is told just that. -/
def Tells (env : BootEnv) : σ → List Put → Prop
  | _, [] => True
  | state, put :: rest =>
    env.answer put = (server.put exchange config state put).2 ∧
      Tells env (server.put exchange config state put).1 rest

section
variable (state : σ)

theorem put_reported (put : Put) :
    (server.put exchange config state put).2.reported = true ↔ server.Serves exchange config state put :=
  server.answer_reported put.endpoint_word (put.payload config) (exchange put) state

theorem put_carried {put : Put} (carries : (exchange put).Carries (put.bytes config)) :
    (server.put exchange config state put).1 = (server.serve state (put.request config)).1 :=
  congrArg Prod.fst (server.answer_carried put.endpoint_word (put.payload config) (exchange put) state carries)

theorem put_lost {put : Put} (lost : ¬ (exchange put).Carries (put.bytes config)) :
    (server.put exchange config state put).1 = state :=
  (server.answer_lost put.endpoint_word (put.payload config) (exchange put) state lost).1

end

theorem reported_iff {env : BootEnv} {state : σ} {puts : List Put}
    (tells : server.Tells exchange config env state puts) :
    (∀ put ∈ puts, (env.answer put).reported = true) ↔ server.ServesAll exchange config state puts := by
  induction puts generalizing state with
  | nil => simp [ServesAll]
  | cons put rest ih =>
    obtain ⟨here, later⟩ := tells
    rw [List.forall_mem_cons, here, put_reported, ih later]
    refine and_congr_right fun serves => ?_
    rw [put_carried server exchange config state serves.1]

/-- The first request that does not come in whole is the last to be made. -/
theorem after_issued {env : BootEnv} {state : σ} {puts : List Put}
    (tells : server.Tells exchange config env state puts) :
    ∃ served, served <+: puts ∧
      server.after exchange config state (issued env puts) = server.serveAll config state served ∧
      (server.ServesAll exchange config state puts → served = puts) := by
  induction puts generalizing state with
  | nil => exact ⟨[], List.prefix_rfl, rfl, fun _ => rfl⟩
  | cons put rest ih =>
    obtain ⟨here, later⟩ := tells
    by_cases carries : (exchange put).Carries (put.bytes config)
    · have next := put_carried server exchange config state carries
      rw [next] at later
      by_cases reported : (env.answer put).reported = true
      -- the boot goes on to the next request
      · obtain ⟨served, front, same, whole⟩ := ih later
        refine ⟨put :: served, List.cons_prefix_cons.mpr ⟨rfl, front⟩, ?_, fun all => ?_⟩
        · rw [issued, if_pos reported, after, List.foldl_cons, next]
          exact same
        · rw [whole all.2]
      -- the server has acted, but the boot takes the answer for a failure and stops
      · have refused : ¬ server.Serves exchange config state put := by
          rwa [here, put_reported] at reported
        refine ⟨[put], List.cons_prefix_cons.mpr ⟨rfl, List.nil_prefix⟩, ?_, fun all => absurd all.1 refused⟩
        rw [issued, if_neg reported]
        exact next
    -- the request is cut short, so that the server never acts on it
    · have refused : ¬ server.Serves exchange config state put := fun serves => carries serves.1
      have unreported : ¬ (env.answer put).reported = true := by
        rwa [here, put_reported]
      refine ⟨[], List.nil_prefix, ?_, fun all => absurd all.1 refused⟩
      rw [issued, if_neg unreported]
      exact put_lost server exchange config state carries

theorem tells_wanted (state : σ) (found : Query) :
    server.Tells exchange config (server.env exchange config state found) state
      (wantedPuts config (server.env exchange config state found)) := by
  unfold wantedPuts
  split
  · exact ⟨rfl, trivial⟩
  · exact ⟨rfl, rfl, rfl, rfl, trivial⟩

end ApiServer

/-- A server that counts what it serves, and answers 204 to it. -/
def countingServer : ApiServer Nat where
  receive count stream :=
    match Http.read stream with
    | .request _ _ => (count + 1, noContent.bytes, true)
    | _ => (count, [], false)
  serve count _ := (count + 1, noContent.bytes, true)
  waits count stream waiting := by rw [waiting]
  serves count stream request rest found := by rw [found]

/-- Ten bytes of its answer are enough. -/
example (count : Nat) (request : Http.Request) :
    ({ takes := 4096, gives := 10 } : Exchange).Shows (countingServer.serve count request).2.1 := by
  change ({ takes := 4096, gives := 10 } : Exchange).Shows noContent.bytes
  decide +kernel

end Aegis.Runtime
