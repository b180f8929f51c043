import Mathlib.Data.List.Basic

/-! Stepwise computations over a state.

A computation returns, leaves with an exception, or blocks for ever on a lock it
holds itself. Its record keeps the state after every step, so that a property can
be asked of the states passed through and not only of the last one.
-/

set_option autoImplicit false

namespace Aegis.Library

variable {S A B Op : Type}

/-- How a computation ends. A blocked computation never gives control back. -/
inductive Outcome (A : Type) where
  | returned (value : A)
  | threw
  | blocked
  deriving DecidableEq, Repr

def Outcome.map (f : A → B) : Outcome A → Outcome B
  | .returned value => .returned (f value)
  | .threw => .threw
  | .blocked => .blocked

theorem Outcome.map_eq_blocked {f : A → B} {outcome : Outcome A} : outcome.map f = .blocked ↔ outcome = .blocked := by
  cases outcome with
  | returned value => simp [map]
  | threw => simp [map]
  | blocked => simp [map]

/-- The end of a computation, its last state and the states after each of its
steps, oldest first. -/
structure Execution (S A : Type) where
  outcome : Outcome A
  state : S
  passed : List S

/-- A computation, given by its record from each state. -/
structure Proc (S A : Type) where
  run : S → Execution S A

/-- Continue a returned execution; the other outcomes keep their record. -/
def Execution.follow (first : Execution S A) (next : A → Proc S B) : Execution S B :=
  match first.outcome with
  | .returned value =>
      let rest := (next value).run first.state
      ⟨rest.outcome, rest.state, first.passed ++ rest.passed⟩
  | .threw => ⟨.threw, first.state, first.passed⟩
  | .blocked => ⟨.blocked, first.state, first.passed⟩

namespace Proc

instance : Monad (Proc S) where
  pure value := ⟨fun s => ⟨.returned value, s, []⟩⟩
  bind first next := ⟨fun s => (first.run s).follow next⟩

/-- Read the state; reading is no step. -/
def get : Proc S S := ⟨fun s => ⟨.returned s, s, []⟩⟩

/-- One atomic step. -/
def modify (change : S → S) : Proc S Unit := ⟨fun s => ⟨.returned (), change s, [change s]⟩⟩

def throw : Proc S A := ⟨fun s => ⟨.threw, s, []⟩⟩

/-- Leave a scope: the second part runs when the first returns and when it throws. -/
def ensure (body : Proc S A) (cleanup : Proc S Unit) : Proc S A where
  run s :=
    let inner := body.run s
    match inner.outcome with
    | .blocked => inner
    | outcome =>
        let after := cleanup.run inner.state
        match after.outcome with
        | .returned _ => ⟨outcome, after.state, inner.passed ++ after.passed⟩
        | .threw => ⟨.threw, after.state, inner.passed ++ after.passed⟩
        | .blocked => ⟨.blocked, after.state, inner.passed ++ after.passed⟩

/-- Catch an exception. -/
def recover (body : Proc S A) (value : A) : Proc S A where
  run s :=
    let inner := body.run s
    match inner.outcome with
    | .threw => ⟨.returned value, inner.state, inner.passed⟩
    | _ => inner

@[simp] theorem run_pure (value : A) (s : S) :
    (pure value : Proc S A).run s = ⟨.returned value, s, []⟩ := rfl

@[simp] theorem run_get (s : S) : (get : Proc S S).run s = ⟨.returned s, s, []⟩ := rfl

@[simp] theorem run_modify (change : S → S) (s : S) :
    (modify change).run s = ⟨.returned (), change s, [change s]⟩ := rfl

@[simp] theorem run_throw (s : S) : (throw : Proc S A).run s = ⟨.threw, s, []⟩ := rfl

@[simp] theorem run_bind (first : Proc S A) (next : A → Proc S B) (s : S) :
    (first >>= next).run s = (first.run s).follow next := rfl

/-- How a computation ends and where, without the states on the way. -/
def ends (m : Proc S A) (s : S) : Outcome A × S := ((m.run s).outcome, (m.run s).state)

@[simp] theorem ends_pure (value : A) (s : S) : (pure value : Proc S A).ends s = (.returned value, s) := rfl

@[simp] theorem ends_get (s : S) : (get : Proc S S).ends s = (.returned s, s) := rfl

@[simp] theorem ends_modify (change : S → S) (s : S) : (modify change).ends s = (.returned (), change s) := rfl

@[simp] theorem ends_throw (s : S) : (throw : Proc S A).ends s = (.threw, s) := rfl

section
variable {first : Proc S A} {next : A → Proc S B} {s t : S}

theorem ends_bind_returned {value : A} (head : first.ends s = (.returned value, t)) :
    (first >>= next).ends s = (next value).ends t := by
  obtain ⟨outcome, state⟩ := Prod.mk.inj head
  simp [ends, Execution.follow, outcome, state]

theorem ends_bind_threw (head : first.ends s = (.threw, t)) : (first >>= next).ends s = (.threw, t) := by
  obtain ⟨outcome, state⟩ := Prod.mk.inj head
  simp [ends, Execution.follow, outcome, state]

theorem ends_bind_blocked (head : first.ends s = (.blocked, t)) : (first >>= next).ends s = (.blocked, t) := by
  obtain ⟨outcome, state⟩ := Prod.mk.inj head
  simp [ends, Execution.follow, outcome, state]

theorem ends_map (f : A → B) (s : S) :
    (do let value ← first; pure (f value)).ends s = ((first.ends s).1.map f, (first.ends s).2) := by
  rcases ended : first.ends s with ⟨outcome, t⟩
  cases outcome with
  | returned value => exact ends_bind_returned ended
  | threw => exact ends_bind_threw ended
  | blocked => exact ends_bind_blocked ended

end

theorem ends_ensure {body : Proc S A} {cleanup : Proc S Unit} {s t u : S} {value : A}
    (inner : body.ends s = (.returned value, t)) (after : cleanup.ends t = (.returned (), u)) :
    (body.ensure cleanup).ends s = (.returned value, u) := by
  obtain ⟨outcome, rfl⟩ := Prod.mk.inj inner
  obtain ⟨outcome', rfl⟩ := Prod.mk.inj after
  simp only [ends, ensure, outcome, outcome']

theorem ends_recover {body : Proc S A} {s t : S} {value other : A} (inner : body.ends s = (.returned value, t)) :
    (body.recover other).ends s = (.returned value, t) := by
  obtain ⟨outcome, rfl⟩ := Prod.mk.inj inner
  simp only [ends, recover, outcome]

@[simp] theorem ends_get_bind (next : S → Proc S B) (s : S) : (get >>= next).ends s = (next s).ends s :=
  ends_bind_returned rfl

@[simp] theorem ends_modify_bind (change : S → S) (next : Unit → Proc S B) (s : S) :
    (modify change >>= next).ends s = (next ()).ends (change s) :=
  ends_bind_returned rfl

@[simp] theorem ends_ite (c : Prop) [Decidable c] (first second : Proc S A) (s : S) :
    (if c then first else second).ends s = if c then first.ends s else second.ends s := by
  split <;> rfl

/-- Every state passed through satisfies `P`. -/
def Passes (P : S → Prop) (m : Proc S A) (s : S) : Prop := ∀ t ∈ (m.run s).passed, P t

/-- Every step keeps `P`. -/
def Stays (P : S → Prop) (m : Proc S A) : Prop := ∀ s, P s → m.Passes P s ∧ P (m.ends s).2

section
variable {P : S → Prop}

@[simp] theorem passes_pure (value : A) (s : S) : (pure value : Proc S A).Passes P s := by
  simp [Passes]

@[simp] theorem passes_throw (s : S) : (throw : Proc S A).Passes P s := by
  simp [Passes]

@[simp] theorem passes_modify (change : S → S) (s : S) : (modify change).Passes P s ↔ P (change s) := by
  simp [Passes]

section
variable {first : Proc S A} {next : A → Proc S B} {s t : S}

/-- Nothing is lost between the two halves of a run. -/
theorem passes_bind_returned {value : A} (head : first.ends s = (.returned value, t)) :
    (first >>= next).Passes P s ↔ first.Passes P s ∧ (next value).Passes P t := by
  obtain ⟨outcome, state⟩ := Prod.mk.inj head
  simp [Passes, Execution.follow, outcome, state, or_imp, forall_and]

theorem passes_bind_threw (head : first.ends s = (.threw, t)) :
    (first >>= next).Passes P s ↔ first.Passes P s := by
  obtain ⟨outcome, -⟩ := Prod.mk.inj head
  simp [Passes, Execution.follow, outcome]

theorem passes_bind_blocked (head : first.ends s = (.blocked, t)) :
    (first >>= next).Passes P s ↔ first.Passes P s := by
  obtain ⟨outcome, -⟩ := Prod.mk.inj head
  simp [Passes, Execution.follow, outcome]

end

theorem Passes.of_bind {first : Proc S A} {next : A → Proc S B} {s : S} (all : (first >>= next).Passes P s) :
    first.Passes P s := by
  rcases ends : first.ends s with ⟨_ | _ | _, t⟩
  · exact ((passes_bind_returned ends).mp all).1
  · exact (passes_bind_threw ends).mp all
  · exact (passes_bind_blocked ends).mp all

theorem Passes.of_ensure {body : Proc S A} {cleanup : Proc S Unit} {s : S} (all : (body.ensure cleanup).Passes P s) :
    body.Passes P s ∧ ((body.ends s).1 ≠ .blocked → cleanup.Passes P (body.ends s).2) := by
  unfold Passes ensure ends at *
  dsimp only at *
  cases outcome : (body.run s).outcome with
  | blocked => exact ⟨by simpa [outcome] using all, fun ended => absurd rfl ended⟩
  | returned value | threw =>
    cases cleaned : (cleanup.run (body.run s).state).outcome with
    | returned value | threw | blocked =>
      simp only [outcome, cleaned, List.mem_append] at all
      exact ⟨fun t member => all t (.inl member), fun _ t member => all t (.inr member)⟩

theorem passes_recover {body : Proc S A} {value : A} {s : S} :
    (body.recover value).Passes P s ↔ body.Passes P s := by
  unfold Passes recover
  dsimp only
  cases (body.run s).outcome with
  | returned value | threw | blocked => exact Iff.rfl

theorem passes_map (first : Proc S A) (f : A → B) (s : S) :
    (do let value ← first; pure (f value)).Passes P s ↔ first.Passes P s := by
  cases outcome : (first.run s).outcome with
  | returned value => simp [Passes, Execution.follow, outcome]
  | threw => simp [Passes, Execution.follow, outcome]
  | blocked => simp [Passes, Execution.follow, outcome]

theorem passes_get_bind (next : S → Proc S B) (s : S) :
    (get >>= next).Passes P s ↔ (next s).Passes P s := by
  rw [passes_bind_returned (ends_get s)]
  simp [Passes]

end

section
variable {P : S → Prop}

theorem stays_pure (value : A) : Stays P (pure value : Proc S A) := by
  intro s start
  simpa using start

theorem stays_get : Stays P (get : Proc S S) := by
  intro s start
  simpa [Passes] using start

theorem stays_throw : Stays P (throw : Proc S A) := by
  intro s start
  simpa using start

theorem stays_modify {change : S → S} (kept : ∀ s, P s → P (change s)) : Stays P (modify change) := by
  intro s start
  simpa using kept s start

theorem Stays.passes {m : Proc S A} (stays : m.Stays P) {s : S} (start : P s) : m.Passes P s := (stays s start).1

theorem Stays.after {m : Proc S A} {s t : S} {outcome : Outcome A} (stays : m.Stays P) (start : P s)
    (ended : m.ends s = (outcome, t)) : P t := by
  have final := (stays s start).2
  rw [ended] at final
  exact final

/-- The first half keeps `P`, so only the second half counts. -/
theorem Stays.passes_bind {first : Proc S A} {next : A → Proc S B} {s t : S} {value : A} (stays : first.Stays P)
    (start : P s) (head : first.ends s = (.returned value, t)) :
    (first >>= next).Passes P s ↔ (next value).Passes P t := by
  rw [passes_bind_returned head]
  exact and_iff_right (stays.passes start)

theorem stays_bind {first : Proc S A} {next : A → Proc S B} (head : Stays P first)
    (tail : ∀ value, Stays P (next value)) : Stays P (first >>= next) := by
  intro s start
  obtain ⟨before, middle⟩ := head s start
  cases outcome : (first.run s).outcome with
  | returned value =>
    have ended : first.ends s = (.returned value, (first.run s).state) := by simp [Proc.ends, outcome]
    obtain ⟨after, final⟩ := tail value _ middle
    rw [passes_bind_returned ended, ends_bind_returned ended]
    exact ⟨⟨before, after⟩, final⟩
  | threw =>
    have ended : first.ends s = (.threw, (first.run s).state) := by simp [Proc.ends, outcome]
    rw [passes_bind_threw ended, ends_bind_threw ended]
    exact ⟨before, middle⟩
  | blocked =>
    have ended : first.ends s = (.blocked, (first.run s).state) := by simp [Proc.ends, outcome]
    rw [passes_bind_blocked ended, ends_bind_blocked ended]
    exact ⟨before, middle⟩

theorem stays_ite {c : Prop} [Decidable c] {first second : Proc S A} (yes : Stays P first)
    (no : Stays P second) : Stays P (if c then first else second) := by
  split
  · exact yes
  · exact no

end

end Proc

/-- A mutex in the state, as the number of times it is held. -/
structure Mutex (S : Type) where
  depth : S → Nat
  put : Nat → S → S
  depth_put : ∀ n s, depth (put n s) = n
  put_put : ∀ n k s, put n (put k s) = put n s
  put_depth : ∀ s, put (depth s) s = s

/-- What a mutex does when its holder locks it again: a plain one waits for ever,
a reentrant one counts. -/
inductive Relock where
  | plain
  | reentrant
  deriving DecidableEq, Repr

/-- Scoped locking: the lock is released on return and on exception alike. -/
def Mutex.guard (mutex : Mutex S) (relock : Relock) (body : Proc S A) : Proc S A where
  run s :=
    if mutex.depth s ≠ 0 ∧ relock = .plain then ⟨.blocked, s, []⟩
    else
      let held := mutex.put (mutex.depth s + 1) s
      let inner := body.run held
      match inner.outcome with
      | .blocked => ⟨.blocked, inner.state, held :: inner.passed⟩
      | outcome =>
          let released := mutex.put (mutex.depth inner.state - 1) inner.state
          ⟨outcome, released, held :: (inner.passed ++ [released])⟩

section
variable (mutex : Mutex S) {relock : Relock} {body : Proc S A} {s : S}

theorem Mutex.guard_blocked (busy : mutex.depth s ≠ 0) :
    (mutex.guard .plain body).run s = ⟨.blocked, s, []⟩ := by
  simp [Mutex.guard, busy]

theorem Mutex.guard_enters (free : mutex.depth s = 0 ∨ relock = .reentrant) :
    ¬ (mutex.depth s ≠ 0 ∧ relock = .plain) := by
  rcases free with free | rfl
  · simp [free]
  · simp

theorem Mutex.ends_guard (free : mutex.depth s = 0 ∨ relock = .reentrant) {outcome : Outcome A} {t : S}
    (ended : outcome ≠ .blocked) (inner : body.ends (mutex.put (mutex.depth s + 1) s) = (outcome, t)) :
    (mutex.guard relock body).ends s = (outcome, mutex.put (mutex.depth t - 1) t) := by
  obtain ⟨same, state⟩ := Prod.mk.inj inner
  unfold Proc.ends Mutex.guard
  simp only [if_neg (mutex.guard_enters free), same, state]

theorem Mutex.ends_guard_blocked (free : mutex.depth s = 0 ∨ relock = .reentrant) {t : S}
    (inner : body.ends (mutex.put (mutex.depth s + 1) s) = (.blocked, t)) :
    (mutex.guard relock body).ends s = (.blocked, t) := by
  obtain ⟨same, state⟩ := Prod.mk.inj inner
  unfold Proc.ends Mutex.guard
  simp only [if_neg (mutex.guard_enters free), same, state]

/-- The first step of a guarded computation that gets the lock is to take it. -/
theorem Mutex.held_mem_passed (free : mutex.depth s = 0 ∨ relock = .reentrant) :
    mutex.put (mutex.depth s + 1) s ∈ ((mutex.guard relock body).run s).passed := by
  unfold Mutex.guard
  simp only [if_neg (mutex.guard_enters free)]
  cases (body.run (mutex.put (mutex.depth s + 1) s)).outcome with
  | blocked => exact List.mem_cons_self
  | returned value | threw => exact List.mem_cons_self

/-- Locking and unlocking are steps too, which a property blind to the lock does not see. -/
theorem Mutex.passes_guard {P : S → Prop} (blind : ∀ n s, P s → P (mutex.put n s))
    (free : mutex.depth s = 0 ∨ relock = .reentrant) (start : P s)
    (inside : body.Passes P (mutex.put (mutex.depth s + 1) s))
    (final : P (body.ends (mutex.put (mutex.depth s + 1) s)).2) : (mutex.guard relock body).Passes P s := by
  have held := blind (mutex.depth s + 1) s start
  have released := blind (mutex.depth (body.ends (mutex.put (mutex.depth s + 1) s)).2 - 1) _ final
  unfold Proc.Passes Mutex.guard
  simp only [if_neg (mutex.guard_enters free)]
  cases outcome : (body.run (mutex.put (mutex.depth s + 1) s)).outcome with
  | blocked =>
    simp only [List.mem_cons, forall_eq_or_imp]
    exact ⟨held, inside⟩
  | returned value | threw =>
    simp only [List.mem_cons, List.mem_append, List.not_mem_nil, or_false, forall_eq_or_imp]
    exact ⟨held, fun t member => member.elim (inside t) fun same => same ▸ released⟩

theorem Mutex.passes_body {P : S → Prop} (free : mutex.depth s = 0 ∨ relock = .reentrant)
    (all : (mutex.guard relock body).Passes P s) : body.Passes P (mutex.put (mutex.depth s + 1) s) := by
  intro t member
  apply all t
  unfold Mutex.guard
  simp only [if_neg (mutex.guard_enters free)]
  cases (body.run (mutex.put (mutex.depth s + 1) s)).outcome with
  | blocked => exact List.mem_cons_of_mem _ member
  | returned value | threw => exact List.mem_cons_of_mem _ (List.mem_append_left _ member)


theorem Mutex.stays_guard {P : S → Prop} (blind : ∀ n s, P s → P (mutex.put n s)) (inside : body.Stays P) :
    (mutex.guard relock body).Stays P := by
  intro s start
  by_cases enters : mutex.depth s ≠ 0 ∧ relock = .plain
  · simpa [Mutex.guard, Proc.Passes, Proc.ends, enters] using start
  · have free : mutex.depth s = 0 ∨ relock = .reentrant := by
      cases relock with
      | plain => exact .inl (not_not.mp fun busy => enters ⟨busy, rfl⟩)
      | reentrant => exact .inr rfl
    obtain ⟨passed, final⟩ := inside _ (blind (mutex.depth s + 1) s start)
    refine ⟨mutex.passes_guard blind free start passed final, ?_⟩
    rcases inner : body.ends (mutex.put (mutex.depth s + 1) s) with ⟨outcome, t⟩
    rw [inner] at final
    by_cases stuck : outcome = .blocked
    · rw [mutex.ends_guard_blocked free (stuck ▸ inner)]
      exact final
    · rw [mutex.ends_guard free stuck inner]
      exact blind _ _ final

end

end Aegis.Library
