import Aegis.Library.Session

/-! Histories of writes.

A store is read at one place. Each step may write there, which shows in the step and in
the state it starts in; what is read after a run is then the last thing written.
-/

set_option autoImplicit false

namespace Aegis.Library

variable {S Op V : Type}

/-- The state after the steps, one after the other. -/
def runs (step : Op → S → S) : List Op → S → S
  | [], s => s
  | op :: rest, s => runs step rest (step op s)

/-- What the last of the steps that write has written. -/
def lastWrite (step : Op → S → S) (wrote : Op → S → Option V) : List Op → S → Option V
  | [], _ => none
  | op :: rest, s => (lastWrite step wrote rest (step op s)).or (wrote op s)

section
variable {step : Op → S → S}

theorem runs_append (first second : List Op) (s : S) :
    runs step (first ++ second) s = runs step second (runs step first s) := by
  induction first generalizing s with
  | nil => rfl
  | cons op rest ih => exact ih (step op s)

theorem runs_invariant (P : S → Prop) (keeps : ∀ op s, P s → P (step op s)) (ops : List Op) (s : S) (initial : P s) :
    P (runs step ops s) := by
  induction ops generalizing s with
  | nil => exact initial
  | cons op rest ih => exact ih _ (keeps op s initial)

/-- If each step leaves what it has written, or else what was there before, then so does a run. -/
theorem read_runs (read : S → Option V) {wrote : Op → S → Option V}
    (writes : ∀ op s, read (step op s) = (wrote op s).or (read s)) (ops : List Op) (s : S) :
    read (runs step ops s) = (lastWrite step wrote ops s).or (read s) := by
  induction ops generalizing s with
  | nil => rfl
  | cons op rest ih => rw [runs, ih, writes, lastWrite, Option.or_assoc]

/-- What is written last has been written by one of the steps. -/
theorem lastWrite_eq_some {wrote : Op → S → Option V} {ops : List Op} {s : S} {value : V}
    (last : lastWrite step wrote ops s = some value) : ∃ op ∈ ops, ∃ reached, wrote op reached = some value := by
  induction ops generalizing s with
  | nil => cases last
  | cons op rest ih =>
    rcases Option.or_eq_some_iff.mp last with later | ⟨-, here⟩
    · obtain ⟨found, member, written⟩ := ih later
      exact ⟨found, List.mem_cons_of_mem _ member, written⟩
    · exact ⟨op, List.mem_cons_self, s, here⟩

end

end Aegis.Library
