import Aegis.Ebpf.Polling
import Mathlib.Data.Finset.Range

/-! The ring buffer reader from its construction to its destruction.

`init` holds the mutex while it sets the callback and the ring buffer; `poll` reads both without
it, on the polling thread or in any other. The destructor stops the polling, frees the ring buffer
and then drops the thread object. The callback may call the reader too; on the polling thread it
then runs inside the poll of its loop.
-/

set_option autoImplicit false

namespace Aegis.Ebpf.Reader
open Library Polling

/-- Where a call of `init` is; the operation named is the next one. Arguments that it refuses are
not told apart. -/
inductive InitPc where
  | idle
  | lock (callback : Option Nat)
  | assign (callback : Nat)
  | create (callback : Nat)
  | unlock
  deriving DecidableEq, Repr

/-- Where a thread is with its poll: outside, about to look for the ring buffer, or in libbpf. -/
inductive PollPc where
  | out
  | load
  | waits (ring : Nat)
  deriving DecidableEq, Repr

def PollPc.waiting : PollPc → Bool
  | .waits _ => true
  | _ => false

/-- Who calls: a thread of its own has an even number, and the callback on the thread of a loop the
odd one behind twice the loop's. -/
def loopOf (caller : Nat) : Option Nat := if caller % 2 = 1 then some (caller / 2) else none

/-- The callback on the thread of a loop. -/
def callbackOf (loop : Nat) : Nat := 2 * loop + 1

inductive Destruction where
  | alive
  | stopping (caller : Nat)
  | freed
  | gone
  deriving DecidableEq, Repr

/-- `holder` is the `init` that has the mutex. The ring buffers are numbered as they are created:
`opened` are those not freed, `registered` says with which callback each was made, and `released`
is the one the destructor has freed. -/
structure State where
  polling : Polling.State := {}
  ringBuf : Option Nat := none
  userCallback : Option Nat := none
  holder : Option Nat := none
  inits : Nat → InitPc := fun _ => .idle
  loops : Nat → PollPc := fun _ => .out
  polls : Nat → PollPc := fun _ => .out
  created : Nat := 0
  opened : Finset Nat := ∅
  registered : Nat → Nat := id
  released : Option Nat := none
  destruction : Destruction := .alive

inductive Action where
  /-- An operation of `start_polling`, `stop_polling` or the head of the loop. -/
  | call (action : Polling.Action)
  | loopNext (loop : Nat)
  | init (caller : Nat) (callback : Option Nat)
  /-- The next operation; `ring_buffer__new` may fail. -/
  | initNext (caller : Nat) (succeeds : Bool)
  | poll (caller : Nat)
  | pollNext (caller : Nat)
  | destroy (caller : Nat)
  | free
  | drop
  deriving DecidableEq, Repr

namespace State
variable (s : State)

/-- The callback is called while its loop polls. -/
def mayCall (caller : Nat) : Bool :=
  match loopOf caller with
  | some loop => (s.loops loop).waiting
  | none => true

/-- The callback has come back from what it called. -/
def returned (loop : Nat) : Prop :=
  s.polling.callers (callbackOf loop) = .idle ∧ s.inits (callbackOf loop) = .idle ∧ s.polls (callbackOf loop) = .out

instance (loop : Nat) : Decidable (s.returned loop) := inferInstanceAs (Decidable (_ ∧ _ ∧ _))

/-- Without a ring buffer `poll` returns at once. -/
def pollNext : PollPc → Option PollPc
  | .out => none
  | .load => some (match s.ringBuf with
      | some ring => .waits ring
      | none => .out)
  | .waits _ => some .out

def gotoInit (caller : Nat) (pc : InitPc) : State := { s with inits := Function.update s.inits caller pc }

def initNext (caller : Nat) (succeeds : Bool) : Option State :=
  match s.inits caller with
  | .idle => none
  | .lock callback =>
      if s.holder = none ∧ s.polling.mutex = none then
        some { s.gotoInit caller (match callback with
          | some callback => .assign callback
          | none => .unlock) with holder := some caller }
      else none
  | .assign callback => some { s.gotoInit caller (.create callback) with userCallback := some callback }
  | .create callback =>
      -- whatever ring buffer was there is left to itself
      if succeeds then
        some { s.gotoInit caller .unlock with
          ringBuf := some s.created
          created := s.created + 1
          opened := insert s.created s.opened
          registered := Function.update s.registered s.created callback }
      else some { s.gotoInit caller .unlock with ringBuf := none }
  | .unlock => some { s.gotoInit caller .idle with holder := none }

/-- The mutex is shared with `init`, and `start_polling` looks for a ring buffer too. A thread that
joins itself gets an exception, which `stop_polling` does not let out. -/
def call : Polling.Action → Option State
  | .advance caller =>
      if s.polling.callers caller = .stopJoin ∧ s.polling.pollingThread ≠ none ∧
          s.polling.pollingThread = loopOf caller then
        some { s with polling := { s.polling with terminated := true } }
      else if s.polling.callers caller = .startLock ∧ s.holder ≠ none then none
      else if s.polling.callers caller = .startLoad ∧ s.ringBuf = none then
        some { s with polling := s.polling.goto caller .startUnlock }
      else (Polling.step (.advance caller) s.polling).map fun polling => { s with polling }
  | .loopHead loop =>
      if s.loops loop = .out then
        (Polling.step (.loopHead loop) s.polling).map fun polling =>
          { s with
            polling
            loops := if s.polling.isPolling then Function.update s.loops loop .load else s.loops }
      else none
  | .startPolling caller =>
      if s.mayCall caller then (Polling.step (.startPolling caller) s.polling).map fun polling => { s with polling }
      else none
  | .stopPolling caller =>
      if s.mayCall caller then (Polling.step (.stopPolling caller) s.polling).map fun polling => { s with polling }
      else none

end State

def step (action : Action) (s : State) : Option State :=
  if s.polling.terminated then none
  else match action with
    | .call action => s.call action
    | .loopNext loop =>
        if s.returned loop then
          (s.pollNext (s.loops loop)).map fun pc => { s with loops := Function.update s.loops loop pc }
        else none
    | .init caller callback =>
        if s.inits caller = .idle ∧ s.mayCall caller then some (s.gotoInit caller (.lock callback)) else none
    | .initNext caller succeeds => s.initNext caller succeeds
    | .poll caller =>
        if s.polls caller = .out ∧ s.mayCall caller then some { s with polls := Function.update s.polls caller .load }
        else none
    | .pollNext caller =>
        (s.pollNext (s.polls caller)).map fun pc => { s with polls := Function.update s.polls caller pc }
    | .destroy caller =>
        if s.destruction = .alive ∧ s.polling.callers caller = .idle ∧ s.mayCall caller then
          some { s with destruction := .stopping caller, polling := s.polling.goto caller .stopExchange }
        else none
    | .free =>
        match s.destruction with
        | .stopping caller =>
            if s.polling.callers caller = .idle then
              some { s with
                destruction := .freed
                ringBuf := none
                released := s.ringBuf
                opened := match s.ringBuf with
                  | some ring => s.opened.erase ring
                  | none => s.opened }
            else none
        | _ => none
    | .drop =>
        match s.destruction with
        | .freed =>
            -- a thread object that is still joinable takes the program down
            some { s with
              destruction := .gone
              polling := { s.polling with terminated := s.polling.pollingThread.isSome } }
        | _ => none

/-- The init is between its check and its unlock, and the fields are its own. -/
def InitPc.Writing : InitPc → Prop
  | .assign _ | .create _ => True
  | _ => False

/-- Starts and stops do not overlap, no stop is called by the callback on the polling thread, an `init`
gets its turn while nothing polls, no poll begins under it, and the object is destroyed when the calls
on it are over. -/
def Orderly (action : Action) (s : State) : Prop :=
  match action with
  | .call (.startPolling _) | .init _ _ => s.destruction = .alive
  | .call (.stopPolling caller) => s.destruction = .alive ∧ loopOf caller = none
  | .call (.advance caller) =>
      (s.polling.callers caller = .startStore → s.polling.pollingThread = none) ∧
        (s.polling.callers caller = .stopExchange → ¬ s.polling.starter.Midway)
  | .initNext caller _ => ∀ callback, s.inits caller = .lock (some callback) →
      s.polling.running = ∅ ∧ ∀ other, s.polls other = .out
  | .poll _ => s.destruction = .alive ∧ s.holder = none
  | .destroy caller => loopOf caller = none ∧ (∀ other, s.polling.callers other = .idle) ∧
      (∀ other, s.inits other = .idle) ∧ ∀ other, s.polls other = .out
  | _ => True

/-- Nobody is in a poll or about to enter it. -/
def State.Unpolled (s : State) : Prop := (∀ loop, s.loops loop = .out) ∧ ∀ caller, s.polls caller = .out

/-- The thread object is never misused; the callback and the ring buffer are written only while nobody may
read them; a poll is on a ring buffer that is there, and its events go to the callback it was made with;
at most the last ring buffer is ever freed, and only when no loop runs any more. -/
structure Safe (s : State) : Prop where
  polling : Polling.Safe s.polling
  written : ∀ caller, (s.inits caller).Writing → s.polling.mutex = none ∧ s.Unpolled
  polled : ∀ thread ring, s.loops thread = .waits ring ∨ s.polls thread = .waits ring →
    ring ∈ s.opened ∧ s.userCallback = some (s.registered ring)
  opened : ∀ ring, ring ∈ s.opened ↔ ring < s.created ∧ s.released ≠ some ring
  released : ∀ ring, s.released = some ring → ring + 1 = s.created
  ended : s.destruction = .freed ∨ s.destruction = .gone →
    s.polling.running = ∅ ∧ s.polling.pollingThread = none ∧ s.Unpolled

/-! Starting and stopping without overlap. -/

/-- While a start is midway the flag is on, and a thread that is to be joined has it on or a stop that will join. -/
structure Ordered (p : Polling.State) : Prop where
  invariant : Polling.Invariant p
  lit : p.starter.Midway → p.isPolling = true
  joined : p.pollingThread ≠ none → p.isPolling = true ∨ ∃ caller, (p.callers caller).Pending

section
variable {p q : Polling.State} {caller : Nat}

/-- A place on the way of a stop. -/
@[grind =]
def Stopping : Pc → Prop
  | .idle | .stopExchange | .stopJoinable | .stopJoin => True
  | _ => False

/-- Whoever was going to join still is, unless there is nothing left to be joined. -/
theorem joined_of (joined : p.pollingThread ≠ none → p.isPolling = true ∨ ∃ other, (p.callers other).Pending)
    (thread : q.pollingThread ≠ none → p.pollingThread ≠ none)
    (flag : p.isPolling = true → q.isPolling = true ∨ ∃ other, (q.callers other).Pending)
    (pending : q.pollingThread ≠ none → ∀ other, (p.callers other).Pending → (q.callers other).Pending)
    (held : q.pollingThread ≠ none) : q.isPolling = true ∨ ∃ other, (q.callers other).Pending := by
  rcases joined (thread held) with on | ⟨other, waits⟩
  · exact flag on
  · exact .inr ⟨other, pending held other waits⟩

/-- What one operation of a caller does, for the rest of the reader. -/
structure Advances (caller : Nat) (p q : Polling.State) : Prop where
  lit : q.starter.Midway → q.isPolling = true
  joined : q.pollingThread ≠ none → q.isPolling = true ∨ ∃ other, (q.callers other).Pending
  others : ∀ other, other ≠ caller → q.callers other = p.callers other
  mutex : q.mutex ≠ none → p.mutex ≠ none ∨ p.callers caller = .startLock
  running : p.running ⊆ q.running
  spawns : p.mutex = none → q.running = p.running
  stops : Stopping (p.callers caller) → Stopping (q.callers caller) ∧
    (p.callers caller = .stopExchange ∨ p.isPolling = false → q.isPolling = false)
  stays : Stopping (q.callers caller) → q.callers caller = .idle ∨ Stopping (p.callers caller) ∧ p.callers caller ≠ .idle

theorem advance_effect (ordered : Ordered p)
    (stops : p.callers caller = .stopExchange → ¬ p.starter.Midway) (moves : advance caller p = some q) :
    Advances caller p q := by
  obtain ⟨invariant, lit, joined⟩ := ordered
  have starter (inside : (p.callers caller).Inside) := invariant.starter_eq inside
  have held (inside : (p.callers caller).Inside) := invariant.inside caller inside
  unfold advance at moves
  cases here : p.callers caller with
  | idle => simp [here] at moves
  | startLock =>
    simp only [here, Option.ite_none_right_eq_some, Option.some.injEq] at moves
    obtain ⟨free, rfl⟩ := moves
    constructor
    case joined => exact joined_of joined id .inl fun _ other waits => by grind
    all_goals grind -ring -linarith
  | startLoad =>
    simp only [here, Option.some.injEq] at moves
    subst moves
    constructor
    case joined => exact joined_of joined id .inl fun _ other waits => by grind
    all_goals grind -ring -linarith
  | startStore =>
    simp only [here, Option.some.injEq] at moves
    subst moves
    constructor
    all_goals grind -ring -linarith
  | startSpawn =>
    simp only [here, Option.some.injEq] at moves
    subst moves
    constructor
    all_goals grind -ring -linarith
  | startAssign loop =>
    have joined : p.pollingThread = none := invariant.empty (by grind)
    simp only [here, joined, Option.isSome_none, Bool.false_eq_true, if_false, Option.some.injEq] at moves
    subst moves
    constructor
    all_goals grind -ring -linarith
  | startUnlock =>
    simp only [here, Option.some.injEq] at moves
    subst moves
    constructor
    case joined => exact joined_of joined id .inl fun _ other waits => by grind
    all_goals grind -ring -linarith
  | stopExchange =>
    simp only [here, Option.some.injEq] at moves
    subst moves
    constructor
    -- who takes the flag down has the thread to join
    case joined =>
      refine joined_of joined id (fun on => .inr ⟨caller, ?_⟩) fun _ other waits => by grind
      simp [State.goto, on, Pc.Pending]
    all_goals grind -ring -linarith
  | stopJoinable =>
    simp only [here, Option.some.injEq] at moves
    subst moves
    constructor
    case joined =>
      refine joined_of joined id .inl fun held other waits => ?_
      have joinable : p.pollingThread.isSome = true := Option.isSome_iff_ne_none.mpr held
      grind
    all_goals grind -ring -linarith
  | stopJoin =>
    -- no other caller joins the same thread, so that there is still one
    obtain ⟨loop, held⟩ := Option.ne_none_iff_exists'.mp (invariant.joins caller here)
    simp only [here, held, Option.ite_none_left_eq_some, Option.some.injEq] at moves
    obtain ⟨gone, rfl⟩ := moves
    constructor
    all_goals grind -ring -linarith

theorem ordered_advance (ordered : Ordered p) (starts : p.callers caller = .startStore → p.pollingThread = none)
    (stops : p.callers caller = .stopExchange → ¬ p.starter.Midway) (moves : advance caller p = some q) :
    Ordered q :=
  have effect := advance_effect ordered stops moves
  ⟨advance_keeps ordered.invariant starts moves, effect.lit, effect.joined⟩

/-- A caller begins, or leaves without having done anything. -/
theorem ordered_goto (ordered : Ordered p) {pc : Pc} (inside : pc.Inside ↔ (p.callers caller).Inside)
    (midway : ¬ pc.Midway ∧ ¬ (p.callers caller).Midway) (pending : ¬ pc.Pending ∧ ¬ (p.callers caller).Pending)
    (checked : pc ≠ .startStore) : Ordered (p.goto caller pc) := by
  have keeps : Polling.Invariant (p.goto caller pc) :=
    goto_keeps ordered.invariant inside midway (fun here => absurd here pending.1) (fun here => absurd here checked)
      fun here => absurd (by rw [here]; trivial) pending.1
  refine ⟨keeps, fun between => ?_, joined_of ordered.joined id .inl fun _ other waits => ?_⟩
  · rw [starter_goto] at between
    split at between
    · exact absurd between midway.1
    · exact ordered.lit between
  · have apart : other ≠ caller := by
      rintro rfl
      exact pending.2 waits
    simpa [State.goto, apart] using waits

theorem ordered_begin (ordered : Ordered p) (here : p.callers caller = .idle) {pc : Pc}
    (begins : pc = .startLock ∨ pc = .stopExchange) : Ordered (p.goto caller pc) := by
  rcases begins with rfl | rfl <;>
    exact ordered_goto ordered (by simp [here, Pc.Inside]) (by simp [here, Pc.Midway]) (by simp [here, Pc.Pending]) nofun

theorem ordered_loopHead (ordered : Ordered p) {loop : Nat} (moves : Polling.step (.loopHead loop) p = some q) :
    Ordered q := by
  have keeps : Polling.Invariant q :=
    step_keeps ordered.invariant (show StartsAfterJoin (.loopHead loop) p from trivial) moves
  simp only [Polling.step, Option.ite_none_left_eq_some, Option.ite_none_right_eq_some, Option.some.injEq] at moves
  obtain ⟨-, -, rfl⟩ := moves
  refine ⟨keeps, ?_, ?_⟩
  · split
    · exact ordered.lit
    · exact ordered.lit
  · split
    · exact ordered.joined
    · exact ordered.joined

end

end Aegis.Ebpf.Reader
