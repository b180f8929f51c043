import Aegis.Library.Code
import Aegis.Library.Interleaving
import Mathlib.Logic.Function.Basic

/-! Threads that make calls on one object.

A call either holds the object's mutex from its first action to its last, or it is a single
action on a shared part that has a lock of its own. The calls that hold the mutex look at the
shared part once at most. Then every interleaving gives the answers and the state of the same
calls made one after the other, and nobody waits for ever but a thread that locks the mutex
it holds.
-/

set_option autoImplicit false

namespace Aegis.Library

variable {T L S X A Op : Type}

/-- How a call is made. -/
inductive Job (L S X A : Type) where
  | held (code : Code L S X A)
  | single (lock : L) (action : X → Outcome A × X)

/-- The mutex is given back unless the call is blocked. -/
def Mutex.leave (mutex : Mutex S) : Outcome A × S → Outcome A × S
  | (.blocked, s) => (.blocked, s)
  | (.returned value, s) => (.returned value, mutex.put 0 s)
  | (.threw, s) => (.threw, mutex.put 0 s)

/-- The calls of an object. `call` is what a call does when nobody else moves, from a state
that is ready for it. -/
structure System (L S X A Op : Type) where
  mutex : Mutex S
  part : Portion S X
  job : Op → Job L S X A
  call : Op → S → Outcome A × S
  ready : S → Prop
  apart : ∀ n x s, mutex.put n (part.put x s) = part.put x (mutex.put n s)
  tame : ∀ {op code}, job op = .held code → code.Tame part true
  call_held : ∀ {op code s}, job op = .held code → ready s →
    call op s = mutex.leave (code.ends part (mutex.put 1 s))
  call_single : ∀ {op lock action s}, job op = .single lock action →
    call op s = ((action (part.get s)).1, part.put (action (part.get s)).2 s)
  ready_held : ∀ {op code s}, job op = .held code → ready s → (call op s).1 ≠ .blocked → ready (call op s).2
  ready_single : ∀ {op lock action s}, job op = .single lock action → ready s → ready (call op s).2

/-- Where a thread is: between two calls, in a call that holds the mutex, at a wait for the
mutex it holds, or in a single action. -/
inductive Point (L S X A : Type) where
  | idle
  | inside (code : Code L S X A)
  -- the lock of the next action is taken
  | entered (lock : L) (code : Code L S X A)
  -- the action is made, its lock still held
  | leaving (lock : L) (code : Code L S X A)
  | stuck
  | serving (lock : L) (action : X → Outcome A × X)
  | served (lock : L) (outcome : Outcome A)

/-- What is left of the call that holds the mutex. -/
def Point.code? : Point L S X A → Option (Code L S X A)
  | .inside code | .entered _ code | .leaving _ code => some code
  | _ => none

/-- A thread: the calls it has still to make, the present one first, whether that one has
taken effect, and the answers to the others. -/
structure Thread (L S X A Op : Type) where
  pending : List Op
  point : Point L S X A := .idle
  committed : Bool := false
  answers : List (Outcome A) := []

/-- The present call if it has not taken effect. -/
def Thread.unlogged (me : Thread L S X A Op) : List Op := if me.committed then [] else me.pending.take 1

/-- The thread has the mutex. -/
def Thread.Holds (me : Thread L S X A Op) : Prop := me.point.code?.isSome ∨ me.point = .stuck

/-- The log lists the calls in the order in which they take effect. -/
structure Config (T L S X A Op : Type) where
  state : S
  holder : Option T := none
  owner : L → Option T := fun _ => none
  thread : T → Thread L S X A Op
  log : List (T × Op) := []

namespace Config

def start (s : S) (programs : T → List Op) : Config T L S X A Op where
  state := s
  thread t := { pending := programs t }

variable [DecidableEq T] (c : Config T L S X A Op) (t : T)

def goTo (point : Point L S X A) : Config T L S X A Op :=
  { c with thread := Function.update c.thread t { c.thread t with point := point } }

/-- The present call goes into the log if it is not there yet. -/
def logged : List (T × Op) := c.log ++ (c.thread t).unlogged.map (Prod.mk t)

def commit (point : Point L S X A) : Config T L S X A Op :=
  { c with
    log := c.logged t
    thread := Function.update c.thread t { c.thread t with point := point, committed := true } }

def complete (outcome : Outcome A) (point : Point L S X A) : Config T L S X A Op :=
  { c with
    log := c.logged t
    thread := Function.update c.thread t {
      pending := (c.thread t).pending.tail
      point := point
      answers := (c.thread t).answers ++ [outcome] } }

section
variable {c t}

@[simp] theorem thread_goTo (point : Point L S X A) :
    (c.goTo t point).thread t = { c.thread t with point := point } := Function.update_self ..

@[simp] theorem thread_commit (point : Point L S X A) :
    (c.commit t point).thread t = { c.thread t with point := point, committed := true } := Function.update_self ..

@[simp] theorem thread_complete (outcome : Outcome A) (point : Point L S X A) :
    (c.complete t outcome point).thread t =
      ⟨(c.thread t).pending.tail, point, false, (c.thread t).answers ++ [outcome]⟩ := Function.update_self ..

variable {u : T} (other : u ≠ t)

include other

theorem thread_goTo_other (point : Point L S X A) : (c.goTo t point).thread u = c.thread u :=
  Function.update_of_ne other ..

theorem thread_commit_other (point : Point L S X A) : (c.commit t point).thread u = c.thread u :=
  Function.update_of_ne other ..

theorem thread_complete_other (outcome : Outcome A) (point : Point L S X A) :
    (c.complete t outcome point).thread u = c.thread u :=
  Function.update_of_ne other ..

end

variable [DecidableEq L]

def take (lock : L) : Config T L S X A Op := { c with owner := Function.update c.owner lock (some t) }

def release (lock : L) : Config T L S X A Op := { c with owner := Function.update c.owner lock none }

end Config

section
variable [DecidableEq T] [DecidableEq L] (sys : System L S X A Op)

/-- The next step of a thread, if it has one. -/
def System.step (t : T) (c : Config T L S X A Op) : Option (Config T L S X A Op) :=
  match (c.thread t).point with
  | .idle =>
      match (c.thread t).pending with
      | [] => none
      | op :: _ =>
          match sys.job op with
          | .held code =>
              if c.holder.isNone then
                some { c.goTo t (.inside code) with state := sys.mutex.put 1 c.state, holder := some t }
              else none
          | .single lock action =>
              if (c.owner lock).isNone then some ((c.goTo t (.serving lock action)).take t lock) else none
  | .inside (.ret value) =>
      some { c.complete t (.returned value) .idle with state := sys.mutex.put 0 c.state, holder := none }
  | .inside .throw => some { c.complete t .threw .idle with state := sys.mutex.put 0 c.state, holder := none }
  | .inside .relock => some (c.complete t .blocked .stuck)
  | .inside (.act none change next) =>
      some { c.goTo t (.inside (next c.state)) with state := change c.state }
  | .inside (.act (some lock) change next) =>
      if (c.owner lock).isNone then some ((c.goTo t (.entered lock (.act (some lock) change next))).take t lock)
      else none
  | .inside (.consult lock next) =>
      if (c.owner lock).isNone then some ((c.goTo t (.entered lock (.consult lock next))).take t lock) else none
  | .entered lock (.act _ change next) =>
      some { c.goTo t (.leaving lock (next c.state)) with state := change c.state }
  | .entered lock (.consult _ next) => some (c.commit t (.leaving lock (next (sys.part.get c.state))))
  | .entered _ _ => none
  | .leaving lock code => some ((c.goTo t (.inside code)).release lock)
  | .stuck => none
  | .serving lock action =>
      some { c.commit t (.served lock (action (sys.part.get c.state)).1) with
        state := sys.part.put (action (sys.part.get c.state)).2 c.state }
  | .served lock outcome => some ((c.complete t outcome .idle).release lock)

/-- The configuration after a schedule: a thread that cannot move is passed over. -/
def System.run (schedule : List T) (c : Config T L S X A Op) : Config T L S X A Op :=
  schedule.foldl (fun c t => taken sys.step t c) c

/-- All that a step can be. -/
inductive System.Move (t : T) (c : Config T L S X A Op) : Config T L S X A Op → Prop where
  | enter {op : Op} {rest : List Op} {code : Code L S X A} (point : (c.thread t).point = .idle)
      (pending : (c.thread t).pending = op :: rest) (job : sys.job op = .held code) (free : c.holder = none) :
      Move t c { c.goTo t (.inside code) with state := sys.mutex.put 1 c.state, holder := some t }
  | request {op : Op} {rest : List Op} {lock : L} {action : X → Outcome A × X} (point : (c.thread t).point = .idle)
      (pending : (c.thread t).pending = op :: rest) (job : sys.job op = .single lock action)
      (free : c.owner lock = none) : Move t c ((c.goTo t (.serving lock action)).take t lock)
  | finish {code : Code L S X A} {outcome : Outcome A} (point : (c.thread t).point = .inside code)
      (ends : ∀ s, code.ends sys.part s = (outcome, s)) (ended : outcome ≠ .blocked) :
      Move t c { c.complete t outcome .idle with state := sys.mutex.put 0 c.state, holder := none }
  | block (point : (c.thread t).point = .inside .relock) : Move t c (c.complete t .blocked .stuck)
  | act {change : S → S} {next : S → Code L S X A} (point : (c.thread t).point = .inside (.act none change next)) :
      Move t c { c.goTo t (.inside (next c.state)) with state := change c.state }
  | take {code : Code L S X A} {lock : L} (point : (c.thread t).point = .inside code)
      (needs : code.lock? = some lock) (free : c.owner lock = none) :
      Move t c ((c.goTo t (.entered lock code)).take t lock)
  | lockedAct {lock : L} {own : Option L} {change : S → S} {next : S → Code L S X A}
      (point : (c.thread t).point = .entered lock (.act own change next)) :
      Move t c { c.goTo t (.leaving lock (next c.state)) with state := change c.state }
  | consult {lock own : L} {next : X → Code L S X A} (point : (c.thread t).point = .entered lock (.consult own next)) :
      Move t c (c.commit t (.leaving lock (next (sys.part.get c.state))))
  | release {lock : L} {code : Code L S X A} (point : (c.thread t).point = .leaving lock code) :
      Move t c ((c.goTo t (.inside code)).release lock)
  | serve {lock : L} {action : X → Outcome A × X} (point : (c.thread t).point = .serving lock action) :
      Move t c { c.commit t (.served lock (action (sys.part.get c.state)).1) with
        state := sys.part.put (action (sys.part.get c.state)).2 c.state }
  | leave {lock : L} {outcome : Outcome A} (point : (c.thread t).point = .served lock outcome) :
      Move t c ((c.complete t outcome .idle).release lock)

variable {sys}

theorem System.step_moves {t : T} {c after : Config T L S X A Op} (steps : sys.step t c = some after) :
    sys.Move t c after := by
  unfold System.step at steps
  cases point : (c.thread t).point with
  | idle =>
    rw [point] at steps
    cases pending : (c.thread t).pending with
    | nil => simp [pending] at steps
    | cons op rest =>
      cases job : sys.job op with
      | held code =>
        simp only [pending, job, Option.isNone_iff_eq_none, Option.ite_none_right_eq_some, Option.some.injEq] at steps
        obtain ⟨free, rfl⟩ := steps
        exact .enter point pending job free
      | single lock action =>
        simp only [pending, job, Option.isNone_iff_eq_none, Option.ite_none_right_eq_some, Option.some.injEq] at steps
        obtain ⟨free, rfl⟩ := steps
        exact .request point pending job free
  | inside code =>
    rw [point] at steps
    match code, steps with
    | .ret value, steps =>
      cases steps
      exact .finish point (fun _ => rfl) (by simp)
    | .throw, steps =>
      cases steps
      exact .finish point (fun _ => rfl) (by simp)
    | .relock, steps =>
      cases steps
      exact .block point
    | .act none change next, steps =>
      cases steps
      exact .act point
    | .act (some lock) change next, steps =>
      simp only [Option.isNone_iff_eq_none, Option.ite_none_right_eq_some, Option.some.injEq] at steps
      obtain ⟨free, rfl⟩ := steps
      exact .take point rfl free
    | .consult lock next, steps =>
      simp only [Option.isNone_iff_eq_none, Option.ite_none_right_eq_some, Option.some.injEq] at steps
      obtain ⟨free, rfl⟩ := steps
      exact .take point rfl free
  | entered lock code =>
    rw [point] at steps
    cases code with
    | ret | throw | relock => cases steps
    | act own change next =>
      cases steps
      exact .lockedAct point
    | consult own next =>
      cases steps
      exact .consult point
  | leaving lock code =>
    rw [point] at steps
    cases steps
    exact .release point
  | stuck =>
    rw [point] at steps
    cases steps
  | serving lock action =>
    rw [point] at steps
    cases steps
    exact .serve point
  | served lock outcome =>
    rw [point] at steps
    cases steps
    exact .leave point

/-- The log only grows. -/
theorem System.Move.log {t : T} {c after : Config T L S X A Op} (move : sys.Move t c after) : c.log <+: after.log := by
  cases move with
  | enter | request | act | take | lockedAct | release => exact List.prefix_rfl
  | finish | block | consult | serve | leave => exact List.prefix_append _ _

theorem System.run_append (first second : List T) (c : Config T L S X A Op) :
    sys.run (first ++ second) c = sys.run second (sys.run first c) := List.foldl_append

theorem System.log_run (sys : System L S X A Op) (c : Config T L S X A Op) (schedule : List T) :
    c.log <+: (sys.run schedule c).log := by
  induction schedule generalizing c with
  | nil => exact List.prefix_rfl
  | cons t rest ih =>
    refine List.IsPrefix.trans ?_ (ih _)
    exact taken_keeps (fun after => c.log <+: after.log) List.prefix_rfl fun after steps => (step_moves steps).log

end

end Aegis.Library
