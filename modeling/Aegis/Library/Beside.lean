import Aegis.Library.Execution

/-! Computations next to a second state that they do not see. -/

set_option autoImplicit false

namespace Aegis.Library.Proc

variable {S T A B : Type}

/-- The computation on the first part of a pair; the second part stays as it is. -/
def beside (m : Proc S A) : Proc (S × T) A where
  run s := ⟨(m.run s.1).outcome, ((m.run s.1).state, s.2), (m.run s.1).passed.map (·, s.2)⟩

/-- A step on the second part. -/
def note (change : T → T) : Proc (S × T) Unit := modify fun s => (s.1, change s.2)

theorem ends_beside {m : Proc S A} {s t : S} {outcome : Outcome A} (ends : m.ends s = (outcome, t)) (second : T) :
    m.beside.ends (s, second) = (outcome, (t, second)) := by
  obtain ⟨same, state⟩ := Prod.mk.inj ends
  unfold beside Proc.ends
  dsimp only
  rw [same, state]

theorem passes_beside {P : S × T → Prop} {m : Proc S A} {s : S × T} :
    m.beside.Passes P s ↔ m.Passes (fun t => P (t, s.2)) s.1 := by
  simp [Passes, beside]

/-- On the first part the one computation does what the other does. -/
def Shadows (long : Proc (S × T) A) (short : Proc S A) : Prop :=
  ∀ s, (long.ends s).1 = (short.ends s.1).1 ∧ (long.ends s).2.1 = (short.ends s.1).2

theorem shadows_beside (m : Proc S A) : Shadows (m.beside : Proc (S × T) A) m := fun _ => ⟨rfl, rfl⟩

theorem shadows_pure (value : A) : Shadows (pure value : Proc (S × T) A) (pure value) := fun _ => ⟨rfl, rfl⟩

section
variable {long : Proc (S × T) A} {short : Proc S A}

theorem Shadows.bind (first : Shadows long short) {next : A → Proc (S × T) B} {next' : A → Proc S B}
    (rest : ∀ value, Shadows (next value) (next' value)) : Shadows (long >>= next) (short >>= next') := by
  intro s
  obtain ⟨outcome, state⟩ := first s
  rcases ends : long.ends s with ⟨result, t⟩
  rcases ends' : short.ends s.1 with ⟨result', t'⟩
  rw [ends, ends'] at outcome state
  subst outcome state
  cases result with
  | returned value =>
    rw [ends_bind_returned ends, ends_bind_returned ends']
    exact rest value t
  | threw =>
    rw [ends_bind_threw ends, ends_bind_threw ends']
    exact ⟨rfl, rfl⟩
  | blocked =>
    rw [ends_bind_blocked ends, ends_bind_blocked ends']
    exact ⟨rfl, rfl⟩

theorem Shadows.then_same (first : Shadows long short) {next : A → Proc (S × T) A}
    (rest : ∀ value, Shadows (next value) (pure value)) : Shadows (long >>= next) short := by
  intro s
  obtain ⟨outcome, state⟩ := first.bind rest s
  have same : (short >>= pure).ends s.1 = short.ends s.1 := by
    rcases ends : short.ends s.1 with ⟨_ | _ | _, t⟩
    · exact ends_bind_returned ends
    · exact ends_bind_threw ends
    · exact ends_bind_blocked ends
  rw [same] at outcome state
  exact ⟨outcome, state⟩

/-- A step on the second part is not seen. -/
theorem Shadows.after_note (rest : Shadows long short) (change : T → T) :
    Shadows (note change >>= fun _ => long) short :=
  fun s => rest (s.1, change s.2)

theorem Shadows.ensure (body : Shadows long short) {cleanup : Proc (S × T) Unit} {cleanup' : Proc S Unit}
    (last : Shadows cleanup cleanup') : Shadows (long.ensure cleanup) (short.ensure cleanup') := by
  intro s
  obtain ⟨outcome, state⟩ := body s
  obtain ⟨ended, final⟩ := last (long.ends s).2
  rw [state] at ended final
  unfold ends at outcome state ended final ⊢
  dsimp only at outcome state ended final
  unfold Proc.ensure
  dsimp only
  rw [← outcome]
  cases (long.run s).outcome with
  | blocked => exact ⟨outcome, state⟩
  | returned value | threw =>
    dsimp only
    rw [← ended]
    cases (cleanup.run (long.run s).state).outcome with
    | returned value | threw | blocked => exact ⟨rfl, final⟩

theorem Shadows.recover (body : Shadows long short) (value : A) :
    Shadows (long.recover value) (short.recover value) := by
  intro s
  obtain ⟨outcome, state⟩ := body s
  unfold ends at outcome state ⊢
  dsimp only at outcome state
  unfold Proc.recover
  dsimp only
  rw [← outcome]
  cases ended : (long.run s).outcome with
  | threw => exact ⟨rfl, state⟩
  | returned value | blocked => exact ⟨outcome, state⟩

end

end Aegis.Library.Proc
