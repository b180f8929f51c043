import Mathlib.Init

/-! Interleavings: parties that take their steps in any order.

A step names the party that takes it. A step that its party cannot take is passed over, so
that every list of steps is a run.
-/

set_option autoImplicit false

namespace Aegis.Library

variable {S A : Type} (step : A → S → Option S)

/-- The state after a step, or the same state if the step cannot be taken. -/
def taken (a : A) (s : S) : S := (step a s).getD s

/-- `P` holds in every state of a run. -/
def Always (P : S → Prop) : List A → S → Prop
  | [], s => P s
  | a :: rest, s => P s ∧ Always P rest (taken step a s)

/-- Every step of a run meets a condition on the state in which it is taken. -/
def EachStep (ok : A → S → Prop) : List A → S → Prop
  | [], _ => True
  | a :: rest, s => ok a s ∧ EachStep ok rest (taken step a s)

instance EachStep.decidable (ok : A → S → Prop) [∀ a s, Decidable (ok a s)] :
    ∀ (as : List A) (s : S), Decidable (EachStep step ok as s)
  | [], _ => isTrue trivial
  | a :: rest, s => @instDecidableAnd _ _ _ (EachStep.decidable ok rest (taken step a s))

variable {step} {ok : A → S → Prop} {P : S → Prop}

theorem Always.last {as : List A} {s : S} (always : Always step P as s) :
    P (as.foldl (fun s a => taken step a s) s) := by
  induction as generalizing s with
  | nil => exact always
  | cons a rest ih => exact ih always.2

theorem taken_eq {a : A} {s t : S} (enabled : step a s = some t) : taken step a s = t := by
  rw [taken, enabled]
  rfl

/-- A property of the step carries over to a step that may be passed over. -/
theorem taken_keeps (inv : S → Prop) {a : A} {s : S} (initial : inv s) (keeps : ∀ t, step a s = some t → inv t) :
    inv (taken step a s) := by
  unfold taken
  cases enabled : step a s with
  | none => exact initial
  | some t => exact keeps t enabled

/-- Where a property survives a step if and only if the step meets the condition, it holds
throughout a run if and only if every step meets the condition. -/
theorem always_iff_eachStep (agree : ∀ a s, P s → (P (taken step a s) ↔ ok a s)) (as : List A) (s : S)
    (initial : P s) : Always step P as s ↔ EachStep step ok as s := by
  have here (as : List A) (s : S) (always : Always step P as s) : P s := by
    cases as with
    | nil => exact always
    | cons a rest => exact always.1
  induction as generalizing s with
  | nil => exact iff_of_true initial trivial
  | cons a rest ih =>
    constructor
    · rintro ⟨-, later⟩
      have next := here rest _ later
      exact ⟨(agree a s initial).mp next, (ih _ next).mp later⟩
    · rintro ⟨meets, later⟩
      exact ⟨initial, (ih _ ((agree a s initial).mpr meets)).mpr later⟩

theorem always_of_invariant (inv : S → Prop)
    (keeps : ∀ a s t, inv s → ok a s → step a s = some t → inv t) (gives : ∀ s, inv s → P s)
    (as : List A) (s : S) (initial : inv s) (meets : EachStep step ok as s) : Always step P as s := by
  induction as generalizing s with
  | nil => exact gives s initial
  | cons a rest ih =>
    obtain ⟨here, later⟩ := meets
    refine ⟨gives s initial, ih _ ?_ later⟩
    exact taken_keeps inv initial fun t enabled => keeps a s t initial here enabled

/-- An invariant that no step can break holds in every run. -/
theorem always_of_keeps (inv : S → Prop) (keeps : ∀ a s t, inv s → step a s = some t → inv t)
    (gives : ∀ s, inv s → P s) (as : List A) (s : S) (initial : inv s) : Always step P as s := by
  have free : EachStep step (fun _ _ => True) as s := by
    clear initial
    induction as generalizing s with
    | nil => trivial
    | cons a rest ih => exact ⟨trivial, ih _⟩
  exact always_of_invariant inv (fun a s t holds _ moves => keeps a s t holds moves) gives as s initial free

end Aegis.Library
