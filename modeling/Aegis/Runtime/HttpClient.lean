import Aegis.Library.JsonText
import Aegis.Runtime.Stages
import Mathlib.Data.List.Infix
import Mathlib.Data.List.TakeWhile
import Mathlib.Tactic.IntervalCases

/-! The HTTP client that speaks to Firecracker.

It makes one write and one read. The status is looked for as a text, anywhere in what that
read has brought.
-/

set_option autoImplicit false

namespace Aegis.Runtime
open Library

/-- How much the write takes and how much the read finds. Nothing stands for an error too. The peer
has not closed its end before the write: that would raise SIGPIPE, which nobody handles. -/
structure Exchange where
  connects : Bool := true
  takes : Nat
  gives : Nat
  deriving DecidableEq, Repr

/-- The text the answer is searched for. -/
def success2xx : Bytes := bytesOf "HTTP/1.1 2"

def responseBufSize : Nat := 1024

/-- A `string_view` made from a pointer ends at the first zero byte. -/
def cString (buffer : Bytes) : Bytes := buffer.takeWhile (· ≠ 0)

/-- `send_unix_http_put` down to the calls on the socket. -/
def sendUnixHttpPutOver (exchange : Exchange) (httpRequest response : Bytes) : Bool :=
  if exchange.connects then
    let bytesSent := min exchange.takes httpRequest.length
    let responseBuf := response.take (min exchange.gives (responseBufSize - 1))
    if bytesSent = 0 ∨ responseBuf.length = 0 then false
    else decide (success2xx <:+: cString responseBuf)
  else false

/-- What the manager makes of the exchange. -/
def Exchange.answer (exchange : Exchange) (httpRequest response : Bytes) (accepted : Bool) : PutAnswer :=
  if exchange.connects then .answered accepted (sendUnixHttpPutOver exchange httpRequest response) else .unreachable

theorem reported_answer (exchange : Exchange) (httpRequest response : Bytes) (accepted : Bool) :
    (exchange.answer httpRequest response accepted).reported = sendUnixHttpPutOver exchange httpRequest response := by
  unfold Exchange.answer sendUnixHttpPutOver
  by_cases connects : exchange.connects = true
  · simp [connects, PutAnswer.reported]
  · simp [connects, PutAnswer.reported]

theorem sendUnixHttpPut_over (host : Host) (socketPath : Path) (endpoint payload : String) (exchange : Exchange)
    (response : Bytes) (accepted : Bool) (effect : Host → Host) :
    ((sendUnixHttpPut socketPath endpoint payload
      (exchange.answer (bytesOf (httpRequest endpoint payload)) response accepted) effect).ends host).1 =
      .returned (sendUnixHttpPutOver exchange (bytesOf (httpRequest endpoint payload)) response) := by
  obtain ⟨sent, ends⟩ := sendUnixHttpPut_ends host socketPath endpoint payload
    (exchange.answer (bytesOf (httpRequest endpoint payload)) response accepted) effect
  rw [ends, reported_answer]

/-! Responses. -/

def digit (n : Nat) : UInt8 := UInt8.ofNat (0x30 + n)

/-- A response that begins with a status line. A reason has no control characters but tabs. -/
structure HttpResponse where
  code : Fin 1000
  reason : Bytes
  legal : ∀ b ∈ reason, b = 0x09 ∨ 0x20 ≤ b ∧ b ≠ 0x7F
  rest : Bytes

namespace HttpResponse
variable (response : HttpResponse)

def statusLine : Bytes :=
  bytesOf "HTTP/1.1 " ++ [digit (response.code / 100), digit (response.code / 10 % 10), digit (response.code % 10)] ++
    bytesOf " " ++ response.reason ++ bytesOf "\r\n"

def bytes : Bytes := response.statusLine ++ response.rest

/-- The status code is 2xx. -/
def Succeeds : Prop := response.code.val / 100 = 2

instance : Decidable response.Succeeds := inferInstanceAs (Decidable (_ = _))

/-- The searched text stands somewhere in the first `size` bytes, before any zero byte. -/
def Shows (size : Nat) : Prop :=
  ∃ before after, response.bytes = before ++ success2xx ++ after ∧ 0 ∉ before ∧
    before.length + success2xx.length ≤ size

end HttpResponse

/-! What the search finds. -/

theorem zero_notMem_success2xx : 0 ∉ success2xx := by decide +kernel

theorem length_success2xx : success2xx.length = 10 := by decide +kernel

theorem infix_cString {part : Bytes} (plain : 0 ∉ part) (buffer : Bytes) :
    part <:+: cString buffer ↔ ∃ before after, buffer = before ++ part ++ after ∧ 0 ∉ before := by
  have kept : ∀ {text : Bytes}, 0 ∉ text → ∀ b ∈ text, decide (b ≠ 0) = true := by
    intro text free b member
    refine decide_eq_true fun zero => free ?_
    rwa [← zero]
  constructor
  · -- what is behind the first zero byte is put back
    rintro ⟨before, after, found⟩
    refine ⟨before, after ++ buffer.dropWhile (· ≠ 0), ?_, fun member => ?_⟩
    · rw [← List.append_assoc, found, cString, List.takeWhile_append_dropWhile]
    · have inside : 0 ∈ cString buffer := by
        rw [← found]
        exact List.mem_append_left _ (List.mem_append_left _ member)
      simpa using List.mem_takeWhile_imp inside
  · -- neither the text nor what precedes it has a zero byte to stop at
    rintro ⟨before, after, rfl, free⟩
    refine ⟨before, cString after, ?_⟩
    unfold cString
    rw [List.takeWhile_append_of_pos]
    intro b member
    rcases List.mem_append.mp member with left | right
    · exact kept free b left
    · exact kept plain b right

section
variable (response : HttpResponse) (size : Nat)

theorem shows_iff : response.Shows size ↔ success2xx <:+: cString (response.bytes.take size) := by
  rw [infix_cString zero_notMem_success2xx]
  constructor
  · rintro ⟨before, after, whole, free, fits⟩
    refine ⟨before, after.take (size - (before ++ success2xx).length), ?_, free⟩
    rw [whole, List.take_append, List.take_of_length_le (by simpa using fits)]
  · rintro ⟨before, after, found, free⟩
    refine ⟨before, after ++ response.bytes.drop size, ?_, free, ?_⟩
    · rw [← List.append_assoc, ← found, List.take_append_drop]
    · have shorter := congrArg List.length found
      simp only [List.length_append, List.length_take] at shorter
      omega

theorem Exchange.sends_iff_infix (exchange : Exchange) {httpRequest : Bytes} (filled : httpRequest ≠ [])
    (response : Bytes) :
    sendUnixHttpPutOver exchange httpRequest response = true ↔ exchange.connects = true ∧ 0 < exchange.takes ∧
      success2xx <:+: cString (response.take (min exchange.gives (responseBufSize - 1))) := by
  have long := List.length_pos_iff.mpr filled
  have sent : min exchange.takes httpRequest.length = 0 ↔ exchange.takes = 0 := by omega
  unfold sendUnixHttpPutOver
  by_cases connects : exchange.connects = true
  · rw [if_pos connects]
    by_cases nothing : exchange.takes = 0
    · simp [nothing]
    have positive := Nat.pos_of_ne_zero nothing
    by_cases empty : response.take (min exchange.gives (responseBufSize - 1)) = []
    · -- an empty buffer does not show the text either
      have missing : ¬ success2xx <:+: cString [] := by decide +kernel
      rw [empty]
      simp [missing]
    · have full : ¬ (response.take (min exchange.gives (responseBufSize - 1))).length = 0 :=
        fun zero => empty (List.length_eq_zero_iff.mp zero)
      have goes : ¬ (min exchange.takes httpRequest.length = 0 ∨
          (response.take (min exchange.gives (responseBufSize - 1))).length = 0) :=
        fun fails => fails.elim (fun stopped => nothing (sent.mp stopped)) full
      dsimp only
      rw [if_neg goes, decide_eq_true_eq]
      exact ⟨fun found => ⟨connects, positive, found⟩, fun all => all.2.2⟩
  · simp [connects]

theorem Exchange.sends_iff (exchange : Exchange) {httpRequest : Bytes} (filled : httpRequest ≠ []) :
    sendUnixHttpPutOver exchange httpRequest response.bytes = true ↔
      exchange.connects = true ∧ 0 < exchange.takes ∧ response.Shows (min exchange.gives (responseBufSize - 1)) := by
  rw [exchange.sends_iff_infix filled, shows_iff]

theorem digit_two {n : Nat} (small : n < 10) : digit n = byte '2' ↔ n = 2 := by
  interval_cases n <;> decide

/-- The code of the first line shows in the tenth byte. -/
theorem prefix_iff : success2xx <+: response.bytes ↔ response.Succeeds := by
  have split : success2xx = bytesOf "HTTP/1.1 " ++ [byte '2'] := by decide +kernel
  have small : response.code.val / 100 < 10 := by omega
  have bytes : response.bytes = bytesOf "HTTP/1.1 " ++ (digit (response.code / 100) ::
      ([digit (response.code / 10 % 10), digit (response.code % 10)] ++ bytesOf " " ++ response.reason ++
        bytesOf "\r\n" ++ response.rest)) := by
    simp [HttpResponse.bytes, HttpResponse.statusLine]
  rw [split, bytes, List.prefix_append_right_inj, List.cons_prefix_cons, HttpResponse.Succeeds, ← digit_two small]
  exact ⟨fun same => same.1.symm, fun same => ⟨same.symm, List.nil_prefix⟩⟩

theorem shows_of_succeeds (succeeds : response.Succeeds) : response.Shows size ↔ 10 ≤ size := by
  constructor
  · rintro ⟨before, after, -, -, fits⟩
    rw [length_success2xx] at fits
    omega
  · intro enough
    obtain ⟨after, whole⟩ := (prefix_iff response).mpr succeeds
    exact ⟨[], after, whole.symm, List.not_mem_nil, by rw [length_success2xx]; simpa using enough⟩

end

theorem httpRequest_ne_nil (endpoint payload : String) : bytesOf (httpRequest endpoint payload) ≠ [] := by
  unfold httpRequest
  rw [bytesOf_append, bytesOf_append]
  intro nothing
  -- the line in front of the body is always there
  have closing := (List.append_eq_nil_iff.mp (List.append_eq_nil_iff.mp nothing).1).2
  exact absurd closing (by decide)

/-- The result is the real outcome: all of the request was written and the code is 2xx. -/
def RealOutcome (endpoint payload : String) (response : HttpResponse) (exchange : Exchange) : Prop :=
  sendUnixHttpPutOver exchange (bytesOf (httpRequest endpoint payload)) response.bytes = true ↔
    (exchange.connects = true ∧ (bytesOf (httpRequest endpoint payload)).length ≤ exchange.takes) ∧ response.Succeeds

theorem real_outcome_iff (endpoint payload : String) (response : HttpResponse) (exchange : Exchange) :
    RealOutcome endpoint payload response exchange ↔ (exchange.connects = true → 0 < exchange.takes →
      if response.Succeeds then (bytesOf (httpRequest endpoint payload)).length ≤ exchange.takes ↔ 10 ≤ exchange.gives
      else ¬ response.Shows (min exchange.gives (responseBufSize - 1))) := by
  have filled := httpRequest_ne_nil endpoint payload
  have long := List.length_pos_iff.mpr filled
  have room : 10 ≤ min exchange.gives (responseBufSize - 1) ↔ 10 ≤ exchange.gives := by
    simp only [responseBufSize]
    omega
  unfold RealOutcome
  rw [exchange.sends_iff response filled]
  by_cases connects : exchange.connects = true
  · by_cases taken : 0 < exchange.takes
    · by_cases succeeds : response.Succeeds
      · rw [shows_of_succeeds response _ succeeds, room, if_pos succeeds]
        simp only [connects, taken, succeeds, true_and, and_true, true_imp_iff]
        exact Iff.comm
      · simp [connects, taken, succeeds]
    · have unwritten : ¬ (bytesOf (httpRequest endpoint payload)).length ≤ exchange.takes := by omega
      simp [taken, unwritten]
  · simp [connects]

/-- A refusal that quotes a status line. -/
def quotingRefusal : HttpResponse where
  code := 400
  reason := bytesOf "Bad Request"
  legal := by decide +kernel
  rest := bytesOf "\r\nno HTTP/1.1 2"

def noContent : HttpResponse where
  code := 204
  reason := bytesOf "No Content"
  legal := by decide +kernel
  rest := bytesOf "\r\n"

theorem outcomes_misreported :
    (¬ RealOutcome "/actions" actionPayload quotingRefusal { takes := 1000, gives := 1000 } ∧
      sendUnixHttpPutOver { takes := 1000, gives := 1000 } (bytesOf (httpRequest "/actions" actionPayload))
        quotingRefusal.bytes = true) ∧
    (¬ RealOutcome "/actions" actionPayload noContent { takes := 1, gives := 1000 } ∧
      sendUnixHttpPutOver { takes := 1, gives := 1000 } (bytesOf (httpRequest "/actions" actionPayload))
        noContent.bytes = true) ∧
    ¬ RealOutcome "/actions" actionPayload noContent { takes := 1000, gives := 5 } ∧
      sendUnixHttpPutOver { takes := 1000, gives := 5 } (bytesOf (httpRequest "/actions" actionPayload))
        noContent.bytes = false := by
  unfold RealOutcome
  decide +kernel

end Aegis.Runtime
