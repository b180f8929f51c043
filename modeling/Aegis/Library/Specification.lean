import Aegis.Library.Linearization

/-! Abstract objects.

An abstract object is given by its steps: which answers a call may get in a state, and the
state each of them leaves. When each call of a system is such a step between related states,
every run of the threads is a run of the object, with the answers that the threads were given.
-/

set_option autoImplicit false

namespace Aegis.Library

variable {T Q L S X A Op : Type}

/-- A run of the object, as a list of calls and answers. -/
inductive Steps (step : Q → Op → Outcome A → Q → Prop) : List ((T × Op) × Outcome A) → Q → Q → Prop where
  | nil (q : Q) : Steps step [] q q
  | cons {t : T} {op : Op} {answer : Outcome A} {rest : List ((T × Op) × Outcome A)} {q middle final : Q}
      (first : step q op answer middle) (others : Steps step rest middle final) :
      Steps step (((t, op), answer) :: rest) q final

/-- The calls of a log with their answers. -/
def history (call : Op → S → Outcome A × S) : List (T × Op) → S → List ((T × Op) × Outcome A)
  | [], _ => []
  | (t, op) :: rest, s => ((t, op), (call op s).1) :: history call rest (call op s).2

theorem history_calls (call : Op → S → Outcome A × S) (log : List (T × Op)) (s : S) :
    (history call log s).map Prod.fst = log := by
  induction log generalizing s with
  | nil => rfl
  | cons entry rest ih => exact congrArg _ (ih _)

theorem history_replies (call : Op → S → Outcome A × S) (log : List (T × Op)) (s : S) :
    (history call log s).map (fun entry => (entry.1.1, entry.2)) = replies call log s := by
  induction log generalizing s with
  | nil => rfl
  | cons entry rest ih => exact congrArg _ (ih _)

/-- Each call that is made in order is a step of the object. -/
def System.Simulates (sys : System L S X A Op) (step : Q → Op → Outcome A → Q → Prop) (related : Q → S → Prop) : Prop :=
  ∀ q s op, related q s → (∀ code, sys.job op = .held code → sys.ready s) →
    ∃ next, step q op (sys.call op s).1 next ∧ related next (sys.call op s).2

section
variable {sys : System L S X A Op} {step : Q → Op → Outcome A → Q → Prop} {related : Q → S → Prop}

theorem System.Simulates.log (simulates : sys.Simulates step related) (log : List (T × Op)) {s : S} {q : Q}
    (orderly : sys.Orderly log s) (start : related q s) :
    ∃ final, Steps step (history sys.call log s) q final ∧ related final (replay sys.call log s) := by
  induction log generalizing s q with
  | nil => exact ⟨q, .nil q, start⟩
  | cons entry rest ih =>
    obtain ⟨t, op⟩ := entry
    obtain ⟨here, later⟩ := orderly
    obtain ⟨middle, first, reached⟩ := simulates q s op start here
    obtain ⟨final, others, ends⟩ := ih later reached
    exact ⟨final, .cons first others, ends⟩

/-- What the threads have been answered is what the object answers in the order of the log. -/
theorem Linear.explained [DecidableEq T] {start : S} {programs : T → List Op} {c : Config T L S X A Op}
    (linear : Linear sys start programs c) (settled : c.Settled) (simulates : sys.Simulates step related) {q : Q}
    (begins : related q start) :
    ∃ order final, order.map Prod.fst = c.log ∧
      (∀ t, ownedBy t (order.map fun entry => (entry.1.1, entry.2)) = (c.thread t).answers) ∧
      Steps step order q final ∧ related final c.state := by
  obtain ⟨state, owned⟩ := linear.settled settled
  obtain ⟨final, steps, ends⟩ := simulates.log c.log linear.orderly begins
  refine ⟨history sys.call c.log start, final, history_calls _ _ _, fun t => ?_, steps, ?_⟩
  · rw [history_replies]
    exact (owned t).2
  · rw [state]
    exact ends

end

end Aegis.Library
