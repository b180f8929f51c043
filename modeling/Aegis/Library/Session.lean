import Aegis.Library.Execution

/-! Sessions: calls made one after the other on one state.

The client survives an exception and goes on with the next call. A call that
blocks ends the session, with the state it is stuck in.
-/

set_option autoImplicit false

namespace Aegis.Library

variable {S A Op : Type}

def session (call : Op → Proc S A) : List Op → Proc S Unit
  | [] => pure ()
  | op :: rest => {
      run s :=
        let first := (call op).run s
        match first.outcome with
        | .blocked => ⟨.blocked, first.state, first.passed⟩
        | _ =>
            let tail := (session call rest).run first.state
            ⟨tail.outcome, tail.state, first.passed ++ tail.passed⟩ }

/-- `holds op s` at every call `op` of a session, `s` being the state it starts in. -/
def Along (call : Op → Proc S A) (holds : Op → S → Prop) : List Op → S → Prop
  | [], _ => True
  | op :: rest, s =>
      holds op s ∧ (((call op).run s).outcome ≠ .blocked → Along call holds rest ((call op).run s).state)

section
variable {call : Op → Proc S A}

theorem session_cons_blocked {op : Op} {rest : List Op} {s : S}
    (stuck : ((call op).run s).outcome = .blocked) :
    (session call (op :: rest)).run s =
      ⟨.blocked, ((call op).run s).state, ((call op).run s).passed⟩ := by
  simp only [session, stuck]

theorem session_cons {op : Op} {rest : List Op} {s : S}
    (ended : ((call op).run s).outcome ≠ .blocked) :
    (session call (op :: rest)).run s =
      ⟨((session call rest).run ((call op).run s).state).outcome,
        ((session call rest).run ((call op).run s).state).state,
        ((call op).run s).passed ++ ((session call rest).run ((call op).run s).state).passed⟩ := by
  cases outcome : ((call op).run s).outcome with
  | returned value => simp only [session, outcome]
  | threw => simp only [session, outcome]
  | blocked => exact absurd outcome ended

/-- The states a session passes through are those its calls pass through. -/
theorem session_passed_iff {P : S → Prop} (ops : List Op) (s : S) :
    (session call ops).Passes P s ↔ Along call (fun op s => (call op).Passes P s) ops s := by
  unfold Proc.Passes
  induction ops generalizing s with
  | nil => simp [session, Along]
  | cons op rest ih =>
    by_cases stuck : ((call op).run s).outcome = .blocked
    · simp [session_cons_blocked stuck, Along, stuck]
    · simp only [session_cons stuck, Along, List.mem_append, ← ih]
      constructor
      · exact fun all => ⟨fun t member => all t (.inl member), fun _ t member => all t (.inr member)⟩
      · rintro ⟨before, after⟩ t (member | member)
        · exact before t member
        · exact after stuck t member

/-- Two call properties that agree wherever the invariant holds agree along a session,
provided the calls that have the second one preserve the invariant. `given` is what
the session may assume of its calls. -/
theorem along_congr (invariant : S → Prop) (given : Op → S → Prop) {first second : Op → S → Prop}
    (agree : ∀ op s, invariant s → given op s → (first op s ↔ second op s))
    (preserves : ∀ op s, invariant s → given op s → second op s →
      ((call op).run s).outcome ≠ .blocked → invariant ((call op).run s).state)
    (ops : List Op) (s : S) (initial : invariant s) (assumed : Along call given ops s) :
    Along call first ops s ↔ Along call second ops s := by
  induction ops generalizing s with
  | nil => exact Iff.rfl
  | cons op rest ih =>
    obtain ⟨here, later⟩ := assumed
    have same := agree op s initial here
    constructor
    · rintro ⟨now, after⟩
      refine ⟨same.mp now, fun ended => ?_⟩
      exact (ih _ (preserves op s initial here (same.mp now) ended) (later ended)).mp (after ended)
    · rintro ⟨now, after⟩
      refine ⟨same.mpr now, fun ended => ?_⟩
      exact (ih _ (preserves op s initial here now ended) (later ended)).mpr (after ended)

/-- An invariant of the calls that meet an assumption holds where a session of them ends. -/
theorem session_invariant (invariant : S → Prop) {given : Op → S → Prop}
    (preserves : ∀ op s, invariant s → given op s → invariant ((call op).run s).state) (ops : List Op) (s : S)
    (initial : invariant s) (assumed : Along call given ops s) : invariant ((session call ops).run s).state := by
  induction ops generalizing s with
  | nil => exact initial
  | cons op rest ih =>
    obtain ⟨here, later⟩ := assumed
    have next := preserves op s initial here
    by_cases stuck : ((call op).run s).outcome = .blocked
    · rw [session_cons_blocked stuck]
      exact next
    · rw [session_cons stuck]
      exact ih _ next (later stuck)

/-- A first call that returns is followed by the rest. -/
theorem along_cons_returned {holds : Op → S → Prop} {op : Op} {s t : S} {value : A}
    (ends : (call op).ends s = (.returned value, t)) (rest : List Op) :
    Along call holds (op :: rest) s ↔ holds op s ∧ Along call holds rest t := by
  obtain ⟨outcome, state⟩ := Prod.mk.inj ends
  simp [Along, outcome, state]

theorem session_cons_returned {op : Op} {s t : S} {value : A} (ends : (call op).ends s = (.returned value, t))
    (rest : List Op) : (session call (op :: rest)).ends s = (session call rest).ends t := by
  obtain ⟨outcome, state⟩ := Prod.mk.inj ends
  have ended : ((call op).run s).outcome ≠ .blocked := by
    rw [outcome]
    exact fun stuck => nomatch stuck
  unfold Proc.ends
  rw [session_cons ended, state]

theorem along_of_forall {holds : Op → S → Prop} (every : ∀ op s, holds op s) (ops : List Op) (s : S) :
    Along call holds ops s := by
  induction ops generalizing s with
  | nil => trivial
  | cons op rest ih => exact ⟨every op s, fun _ => ih _⟩

/-- What an invariant of the calls gives holds along every session. -/
theorem along_of_invariant (invariant : S → Prop) {holds : Op → S → Prop}
    (every : ∀ op s, invariant s → holds op s)
    (preserves : ∀ op s, invariant s → invariant ((call op).run s).state) (ops : List Op) (s : S)
    (initial : invariant s) : Along call holds ops s := by
  induction ops generalizing s with
  | nil => trivial
  | cons op rest ih => exact ⟨every op s initial, fun _ => ih _ (preserves op s initial)⟩

end

end Aegis.Library
