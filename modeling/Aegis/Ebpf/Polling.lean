import Aegis.Library.Interleaving
import Mathlib.Data.Finset.Card

/-! The polling thread of the ring buffer reader, started and stopped from any threads.

`start_polling` holds the mutex; `stop_polling` does not take it. One flag says both that a
polling thread exists and that it is to keep running. The steps are the single operations
on the flag, the mutex and the thread object.
-/

set_option autoImplicit false

namespace Aegis.Ebpf.Polling
open Library

/-- Where a caller is; the operation named is the next one. -/
inductive Pc where
  | idle
  | startLock
  | startLoad
  | startStore
  | startSpawn
  | startAssign (loop : Nat)
  | startUnlock
  | stopExchange
  | stopJoinable
  | stopJoin
  deriving DecidableEq, Repr

/-- `pollingThread` is the loop of the thread object while it is joinable; `running` are the
loops that have not left their `while`. `terminated` is set when `std::terminate` is called:
by an assignment to a joinable thread, or by a join without one. -/
structure State where
  mutex : Option Nat := none
  isPolling : Bool := false
  pollingThread : Option Nat := none
  running : Finset Nat := ∅
  spawned : Nat := 0
  callers : Nat → Pc := fun _ => .idle
  terminated : Bool := false

@[grind =]
def State.goto (s : State) (caller : Nat) (pc : Pc) : State :=
  { s with callers := fun other => if other = caller then pc else s.callers other }

inductive Action where
  | startPolling (caller : Nat)
  | stopPolling (caller : Nat)
  /-- The caller's next operation. -/
  | advance (caller : Nat)
  /-- A loop loads the flag at its head. -/
  | loopHead (loop : Nat)
  deriving DecidableEq, Repr

/-- One operation of `start_polling` or `stop_polling`. -/
def advance (caller : Nat) (s : State) : Option State :=
  match s.callers caller with
  | .idle => none
  | .startLock => if s.mutex = none then some { s.goto caller .startLoad with mutex := some caller } else none
  | .startLoad => some (s.goto caller (if s.isPolling then .startUnlock else .startStore))
  | .startStore => some { s.goto caller .startSpawn with isPolling := true }
  | .startSpawn =>
      some { s.goto caller (.startAssign s.spawned) with
        running := insert s.spawned s.running
        spawned := s.spawned + 1 }
  | .startAssign loop =>
      if s.pollingThread.isSome then some { s with terminated := true }
      else some { s.goto caller .startUnlock with pollingThread := some loop }
  | .startUnlock => some { s.goto caller .idle with mutex := none }
  | .stopExchange => some { s.goto caller (if s.isPolling then .stopJoinable else .idle) with isPolling := false }
  | .stopJoinable => some (s.goto caller (if s.pollingThread.isSome then .stopJoin else .idle))
  | .stopJoin =>
      match s.pollingThread with
      | none => some { s with terminated := true }
      | some loop => if loop ∈ s.running then none else some { s.goto caller .idle with pollingThread := none }

def step (action : Action) (s : State) : Option State :=
  if s.terminated then none
  else match action with
    | .startPolling caller => if s.callers caller = .idle then some (s.goto caller .startLock) else none
    | .stopPolling caller => if s.callers caller = .idle then some (s.goto caller .stopExchange) else none
    | .advance caller => advance caller s
    | .loopHead loop =>
        if loop ∈ s.running then some (if s.isPolling then s else { s with running := s.running.erase loop })
        else none

/-- The thread object is never misused, at most one loop runs, and a caller at its join waits for
a loop that will see the flag off, unless it has gone already. -/
structure Safe (s : State) : Prop where
  terminated : s.terminated = false
  single : s.running.card ≤ 1
  told : ∀ caller, s.callers caller = .stopJoin →
    ∃ loop, s.pollingThread = some loop ∧ (loop ∈ s.running → s.isPolling = false)

/-- `start_polling` goes on past its check only when no thread is waiting to be joined. -/
def StartsAfterJoin (action : Action) (s : State) : Prop :=
  match action with
  | .advance caller => s.callers caller = .startStore → s.pollingThread = none
  | _ => True

instance (action : Action) (s : State) : Decidable (StartsAfterJoin action s) := by
  unfold StartsAfterJoin
  split <;> infer_instance

/-! The places in the code. -/

/-- The caller holds the mutex. -/
@[grind =]
def Pc.Inside : Pc → Prop
  | .startLoad | .startStore | .startSpawn | .startAssign _ | .startUnlock => True
  | _ => False

/-- Between the store and the assignment. -/
@[grind =]
def Pc.Midway : Pc → Prop
  | .startSpawn | .startAssign _ => True
  | _ => False

/-- Between an exchange that switched the flag and the end of the join. -/
@[grind =]
def Pc.Pending : Pc → Prop
  | .stopJoinable | .stopJoin => True
  | _ => False

/-- Where the caller is that holds the mutex. -/
@[grind =]
def State.starter (s : State) : Pc :=
  match s.mutex with
  | some caller => s.callers caller
  | none => .idle

/-- The starter is the only caller inside; the loops are those of the thread object and of the
starter; a caller with a join ahead is the only one, and the flag is off. -/
structure Invariant (s : State) : Prop where
  terminated : s.terminated = false
  inside : ∀ caller, (s.callers caller).Inside → s.mutex = some caller
  checked : s.starter = .startStore → s.isPolling = false
  empty : s.starter.Midway → s.pollingThread = none
  loops : ∀ loop ∈ s.running, s.pollingThread = some loop ∨ s.starter = .startAssign loop
  told : ∀ caller, (s.callers caller).Pending → s.isPolling = false
  alone : ∀ caller other, (s.callers caller).Pending → (s.callers other).Pending → caller = other
  joins : ∀ caller, s.callers caller = .stopJoin → s.pollingThread ≠ none
  polled : s.isPolling = true → s.pollingThread ≠ none ∨ s.starter.Midway
  awaited : ∀ caller, (s.callers caller).Pending → s.pollingThread ≠ none ∨ s.starter.Midway

section
variable {s : State} {caller : Nat}

theorem Invariant.starter_eq (inv : Invariant s) (inside : (s.callers caller).Inside) :
    s.starter = s.callers caller := by
  rw [State.starter, inv.inside caller inside]

theorem starter_goto (pc : Pc) : (s.goto caller pc).starter = if s.mutex = some caller then pc else s.starter := by
  unfold State.starter State.goto
  cases s.mutex with
  | none => simp
  | some holder => simp

/-- A caller can go on without touching anything, if it stays inside or outside of the mutex, does not
enter the stretches the invariant speaks of, and has done the check of the place it goes to. -/
theorem goto_keeps (inv : Invariant s) {pc : Pc} (inside : pc.Inside ↔ (s.callers caller).Inside)
    (midway : ¬ pc.Midway ∧ ¬ (s.callers caller).Midway) (pending : pc.Pending → (s.callers caller).Pending)
    (checked : pc = .startStore → s.isPolling = false) (joins : pc = .stopJoin → s.pollingThread ≠ none) :
    Invariant (s.goto caller pc) := by
  have same : (s.goto caller pc).starter.Midway ↔ s.starter.Midway := by
    rw [starter_goto]
    split
    · rename_i held
      rw [State.starter, held]
      exact iff_of_false midway.1 midway.2
    · rfl
  have assigning (loop : Nat) (assigns : s.starter = .startAssign loop) :
      (s.goto caller pc).starter = .startAssign loop := by
    rw [starter_goto, if_neg, assigns]
    intro held
    have owner : s.starter = s.callers caller := by rw [State.starter, held]
    exact midway.2 (by rw [← owner, assigns]; trivial)
  have pends (other : Nat) (here : ((s.goto caller pc).callers other).Pending) : (s.callers other).Pending := by
    by_cases own : other = caller
    · subst own
      exact pending (by simpa [State.goto] using here)
    · simpa [State.goto, own] using here
  refine ⟨inv.terminated, fun other here => ?_, fun store => ?_, fun between => inv.empty (same.mp between),
    fun loop runs => (inv.loops loop runs).imp_right (assigning loop),
    fun other here => inv.told other (pends other here),
    fun one other here there => inv.alone one other (pends one here) (pends other there), fun other here => ?_,
    fun on => (inv.polled on).imp_right same.mpr,
    fun other here => (inv.awaited other (pends other here)).imp_right same.mpr⟩
  · by_cases own : other = caller
    · subst own
      exact inv.inside other (inside.mp (by simpa [State.goto] using here))
    · exact inv.inside other (by simpa [State.goto, own] using here)
  · rw [starter_goto] at store
    split at store
    · exact checked store
    · exact inv.checked store
  · by_cases own : other = caller
    · subst own
      exact joins (by simpa [State.goto] using here)
    · exact inv.joins other (by simpa [State.goto, own] using here)

theorem lock_keeps (inv : Invariant s) (free : s.mutex = none) :
    Invariant { s.goto caller .startLoad with mutex := some caller } := by
  obtain ⟨terminated, inside, checked, empty, loops, told, alone, joins, polled, awaited⟩ := inv
  constructor
  all_goals grind -ring -linarith

theorem unlock_keeps (inv : Invariant s) (here : s.callers caller = .startUnlock) :
    Invariant { s.goto caller .idle with mutex := none } := by
  have starter : s.starter = .startUnlock := (inv.starter_eq (by rw [here]; trivial)).trans here
  obtain ⟨terminated, inside, checked, empty, loops, told, alone, joins, polled, awaited⟩ := inv
  constructor
  all_goals grind -ring -linarith

/-- At its store, a starter that finds no thread to be joined finds no stop under way either. -/
theorem store_keeps (inv : Invariant s) (here : s.callers caller = .startStore) (joined : s.pollingThread = none) :
    Invariant { s.goto caller .startSpawn with isPolling := true } := by
  have starter : s.starter = .startStore := (inv.starter_eq (by rw [here]; trivial)).trans here
  have unpended (other : Nat) : ¬ (s.callers other).Pending := by
    intro pending
    rcases inv.awaited other pending with held | midway
    · exact held joined
    · rw [starter] at midway
      exact midway
  have quiet (loop : Nat) : loop ∉ s.running := by
    intro runs
    rcases inv.loops loop runs with held | assigns
    · exact nomatch joined.symm.trans held
    · exact nomatch starter.symm.trans assigns
  obtain ⟨terminated, inside, checked, empty, loops, told, alone, joins, polled, awaited⟩ := inv
  constructor
  all_goals grind -ring -linarith

/-- No loop runs when the next one is spawned. -/
theorem spawn_keeps (inv : Invariant s) (here : s.callers caller = .startSpawn) :
    Invariant { s.goto caller (.startAssign s.spawned) with
      running := insert s.spawned s.running
      spawned := s.spawned + 1 } := by
  have starter : s.starter = .startSpawn := (inv.starter_eq (by rw [here]; trivial)).trans here
  have empty : s.pollingThread = none := inv.empty (by rw [starter]; trivial)
  have quiet (loop : Nat) : loop ∉ s.running := by
    intro runs
    rcases inv.loops loop runs with held | assigns
    · exact nomatch empty.symm.trans held
    · exact nomatch starter.symm.trans assigns
  obtain ⟨terminated, inside, checked, -, loops, told, alone, joins, polled, awaited⟩ := inv
  constructor
  all_goals grind -ring -linarith

/-- The assignment finds the thread object as the store left it. -/
theorem assign_keeps (inv : Invariant s) {loop : Nat} (here : s.callers caller = .startAssign loop) :
    s.pollingThread = none ∧ Invariant { s.goto caller .startUnlock with pollingThread := some loop } := by
  have starter : s.starter = .startAssign loop := (inv.starter_eq (by rw [here]; trivial)).trans here
  have joined : s.pollingThread = none := inv.empty (by rw [starter]; trivial)
  refine ⟨joined, ?_⟩
  obtain ⟨terminated, inside, checked, empty, loops, told, alone, joins, polled, awaited⟩ := inv
  constructor
  all_goals grind -ring -linarith

/-- A stop that switches the flag is the only one with a join ahead: the flag was on. -/
theorem exchange_keeps (inv : Invariant s) (here : s.callers caller = .stopExchange) :
    Invariant { s.goto caller (if s.isPolling then .stopJoinable else .idle) with isPolling := false } := by
  have unpended (on : s.isPolling = true) (other : Nat) : ¬ (s.callers other).Pending := by
    intro pending
    exact nomatch on.symm.trans (inv.told other pending)
  obtain ⟨terminated, inside, checked, empty, loops, told, alone, joins, polled, awaited⟩ := inv
  constructor
  all_goals grind -ring -linarith

theorem join_keeps (inv : Invariant s) (here : s.callers caller = .stopJoin) {loop : Nat}
    (held : s.pollingThread = some loop) (gone : loop ∉ s.running) :
    Invariant { s.goto caller .idle with pollingThread := none } := by
  have off : s.isPolling = false := inv.told caller (by rw [here]; trivial)
  -- a starter midway would have found the thread object empty
  have outside : ¬ s.starter.Midway := fun midway => nomatch (inv.empty midway).symm.trans held
  obtain ⟨terminated, inside, checked, empty, loops, told, alone, joins, polled, awaited⟩ := inv
  constructor
  all_goals grind -ring -linarith

/-- Every operation of a caller keeps the invariant; only the store needs the condition. -/
theorem advance_keeps (inv : Invariant s) (careful : s.callers caller = .startStore → s.pollingThread = none)
    {t : State} (moves : advance caller s = some t) : Invariant t := by
  unfold advance at moves
  cases here : s.callers caller with
  | idle => simp [here] at moves
  | startLock =>
    simp only [here, Option.ite_none_right_eq_some, Option.some.injEq] at moves
    obtain ⟨free, rfl⟩ := moves
    exact lock_keeps inv free
  | startLoad =>
    simp only [here, Option.some.injEq] at moves
    subst moves
    cases on : s.isPolling with
    | true => exact goto_keeps inv (by simp [here, Pc.Inside]) (by simp [here, Pc.Midway]) nofun nofun nofun
    | false => exact goto_keeps inv (by simp [here, Pc.Inside]) (by simp [here, Pc.Midway]) nofun (fun _ => on) nofun
  | startStore =>
    simp only [here, Option.some.injEq] at moves
    exact moves ▸ store_keeps inv here (careful here)
  | startSpawn =>
    simp only [here, Option.some.injEq] at moves
    exact moves ▸ spawn_keeps inv here
  | startAssign loop =>
    obtain ⟨joined, keeps⟩ := assign_keeps inv here
    simp only [here, joined, Option.isSome_none, Bool.false_eq_true, if_false, Option.some.injEq] at moves
    exact moves ▸ keeps
  | startUnlock =>
    simp only [here, Option.some.injEq] at moves
    exact moves ▸ unlock_keeps inv here
  | stopExchange =>
    simp only [here, Option.some.injEq] at moves
    exact moves ▸ exchange_keeps inv here
  | stopJoinable =>
    simp only [here, Option.some.injEq] at moves
    subst moves
    cases held : s.pollingThread with
    | none => exact goto_keeps inv (by simp [here, Pc.Inside]) (by simp [here, Pc.Midway]) nofun nofun nofun
    | some loop =>
      exact goto_keeps inv (by simp [here, Pc.Inside]) (by simp [here, Pc.Midway]) (by simp [here, Pc.Pending]) nofun
        fun _ => by simp [held]
  | stopJoin =>
    obtain ⟨loop, held⟩ := Option.ne_none_iff_exists'.mp (inv.joins caller here)
    simp only [here, held, Option.ite_none_left_eq_some, Option.some.injEq] at moves
    obtain ⟨gone, rfl⟩ := moves
    exact join_keeps inv here held gone

theorem step_keeps (inv : Invariant s) {action : Action} (careful : StartsAfterJoin action s) {t : State}
    (moves : step action s = some t) : Invariant t := by
  unfold step at moves
  rw [if_neg (by rw [inv.terminated]; exact Bool.false_ne_true)] at moves
  cases action with
  | startPolling caller =>
    simp only [Option.ite_none_right_eq_some, Option.some.injEq] at moves
    obtain ⟨here, rfl⟩ := moves
    exact goto_keeps inv (by simp [here, Pc.Inside]) (by simp [here, Pc.Midway]) nofun nofun nofun
  | stopPolling caller =>
    simp only [Option.ite_none_right_eq_some, Option.some.injEq] at moves
    obtain ⟨here, rfl⟩ := moves
    exact goto_keeps inv (by simp [here, Pc.Inside]) (by simp [here, Pc.Midway]) nofun nofun nofun
  | advance caller => exact advance_keeps inv careful moves
  | loopHead loop =>
    simp only [Option.ite_none_right_eq_some, Option.some.injEq] at moves
    obtain ⟨-, rfl⟩ := moves
    split
    · exact inv
    · exact { inv with loops := fun other left => inv.loops other (Finset.mem_of_mem_erase left) }

/-- Two loops would both be the one of the thread object, or of the starter. -/
theorem Invariant.safe (inv : Invariant s) : Safe s := by
  refine ⟨inv.terminated, Finset.card_le_one.mpr fun loop runs other runs' => ?_, fun caller here => ?_⟩
  · rcases inv.loops loop runs with held | assigns <;> rcases inv.loops other runs' with held' | assigns'
    · exact Option.some.inj (held.symm.trans held')
    · exact nomatch (inv.empty (by rw [assigns']; trivial)).symm.trans held
    · exact nomatch (inv.empty (by rw [assigns]; trivial)).symm.trans held'
    · cases assigns.symm.trans assigns'
      rfl
  · obtain ⟨loop, held⟩ := Option.ne_none_iff_exists'.mp (inv.joins caller here)
    exact ⟨loop, held, fun _ => inv.told caller (by rw [here]; trivial)⟩

end

theorem invariant_init : Invariant {} := by
  constructor
  all_goals simp [State.starter, Pc.Inside, Pc.Midway, Pc.Pending]

/-- In every interleaving in which no start goes on past its check while a thread is still to be
joined, every state is safe. -/
theorem interleavings_safe (actions : List Action) (careful : EachStep step StartsAfterJoin actions {}) :
    Always step Safe actions {} :=
  always_of_invariant Invariant (fun _ _ _ inv careful moves => step_keeps inv careful moves)
    (fun _ inv => inv.safe) actions {} invariant_init careful

/-- A caller starts the thread and stops it again. -/
def startStop : List Action :=
  [.startPolling 0, .advance 0, .advance 0, .advance 0, .advance 0, .advance 0, .advance 0,
    .stopPolling 0, .advance 0, .advance 0, .loopHead 0, .advance 0]

theorem start_stop_safe : EachStep step StartsAfterJoin startStop {} ∧ Always step Safe startStop {} :=
  ⟨by decide, interleavings_safe startStop (by decide)⟩

/-- A start between the exchange of a stop and its join: the thread object is assigned while it
is joinable. -/
theorem start_before_join_terminates :
    ¬ Always step Safe
      [.startPolling 0, .advance 0, .advance 0, .advance 0, .advance 0, .advance 0, .advance 0,
        .stopPolling 1, .advance 1,
        .startPolling 0, .advance 0, .advance 0, .advance 0, .advance 0, .advance 0] {} := by
  intro always
  have terminated := always.last.terminated
  exact absurd terminated (by decide)

/-- Whenever the condition is not met, the start has only to run on to bring the program down. -/
theorem start_onto_thread {s : State} (alive : s.terminated = false) {caller : Nat}
    (here : s.callers caller = .startStore) (joinable : s.pollingThread.isSome = true) :
    ([.advance caller, .advance caller, .advance caller].foldl (fun s a => taken step a s) s).terminated = true := by
  simp [taken, step, advance, State.goto, alive, here, joinable]

end Aegis.Ebpf.Polling
