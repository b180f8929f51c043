import Aegis.Library.Execution

/-! Computations as trees of actions.

Unlike a `Proc`, which is one step for everyone else, a `Code` can be stopped after each of
its actions and taken up again later. One part of the state may be changed by others in the
meantime; the computation looks at that part in marked places only.
-/

set_option autoImplicit false

namespace Aegis.Library

variable {L S X A B : Type}

/-- A part of the state that can be read and replaced on its own. -/
structure Portion (S X : Type) where
  get : S → X
  put : X → S → S
  get_put : ∀ x s, get (put x s) = x
  put_get : ∀ s, put (get s) s = s

/-- What is left of a computation. An action is made under a lock of its own or under none;
to consult is to look at the part of the state that others may change. -/
inductive Code (L S X A : Type) where
  | ret (value : A)
  | throw
  -- waits for a lock that it holds itself
  | relock
  | act (lock : Option L) (change : S → S) (next : S → Code L S X A)
  | consult (lock : L) (next : X → Code L S X A)

namespace Code

/-- The end of the computation when nobody else moves. -/
def ends (part : Portion S X) : Code L S X A → S → Outcome A × S
  | .ret value, s => (.returned value, s)
  | .throw, s => (.threw, s)
  | .relock, s => (.blocked, s)
  | .act _ change next, s => (next s).ends part (change s)
  | .consult _ next, s => (next (part.get s)).ends part s

def bind : Code L S X A → (A → Code L S X B) → Code L S X B
  | .ret value, rest => rest value
  | .throw, _ => .throw
  | .relock, _ => .relock
  | .act lock change next, rest => .act lock change fun s => (next s).bind rest
  | .consult lock next, rest => .consult lock fun x => (next x).bind rest

instance : Monad (Code L S X) where
  pure := .ret
  bind := .bind

def ofOutcome : Outcome A → Code L S X A
  | .returned value => .ret value
  | .threw => .throw
  | .blocked => .relock

/-- The lock the next action is made under. -/
def lock? : Code L S X A → Option L
  | .act lock _ _ => lock
  | .consult lock _ => some lock
  | _ => none

/-- A whole procedure as one action. -/
def call (lock : Option L) (m : Proc S A) : Code L S X A :=
  .act lock (fun s => (m.ends s).2) fun s => ofOutcome (m.ends s).1

/-- A look at the state. -/
def look : Code L S X S := .act none id .ret

/-- A look at the part that others may change. -/
def ask (lock : L) : Code L S X X := .consult lock .ret

/-- The actions do not see the shared part, which is looked at once at most, and not at all
if `may` is false. -/
def Tame (part : Portion S X) : Bool → Code L S X A → Prop
  | _, .ret _ | _, .throw | _, .relock => True
  | may, .act _ change next =>
      (∀ x s, change (part.put x s) = part.put x (change s) ∧ next (part.put x s) = next s) ∧
        ∀ s, (next s).Tame part may
  | may, .consult _ next => may = true ∧ ∀ x, (next x).Tame part false

section
variable {part : Portion S X} {code : Code L S X A}

theorem Tame.weaken {may : Bool} (tame : code.Tame part false) : code.Tame part may := by
  induction code with
  | ret | throw | relock => trivial
  | act lock change next ih => exact ⟨tame.1, fun s => ih s (tame.2 s)⟩
  | consult lock next ih => exact nomatch tame.1

theorem Tame.bind {may : Bool} {rest : A → Code L S X B} (first : code.Tame part false)
    (second : ∀ value, (rest value).Tame part may) : (code >>= rest).Tame part may := by
  change (code.bind rest).Tame part may
  induction code with
  | ret value => exact second value
  | throw | relock => trivial
  | act lock change next ih =>
    refine ⟨fun x s => ⟨(first.1 x s).1, ?_⟩, fun s => ih s (first.2 s)⟩
    simp only [(first.1 x s).2]
  | consult lock next ih => exact nomatch first.1

/-- The look at the shared part may be in the first half instead. -/
theorem Tame.bind_blind {may : Bool} {rest : A → Code L S X B} (first : code.Tame part may)
    (second : ∀ value, (rest value).Tame part false) : (code >>= rest).Tame part may := by
  change (code.bind rest).Tame part may
  induction code generalizing may with
  | ret value => exact (second value).weaken
  | throw | relock => trivial
  | act lock change next ih =>
    refine ⟨fun x s => ⟨(first.1 x s).1, ?_⟩, fun s => ih s (first.2 s)⟩
    simp only [(first.1 x s).2]
  | consult lock next ih => exact ⟨first.1, fun x => ih x (first.2 x)⟩

theorem tame_ofOutcome (outcome : Outcome A) (may : Bool) :
    (ofOutcome outcome : Code L S X A).Tame part may := by
  cases outcome with
  | returned | threw | blocked => trivial

theorem tame_ite {c : Prop} [Decidable c] {may : Bool} {first second : Code L S X A} (yes : first.Tame part may)
    (no : second.Tame part may) : (if c then first else second).Tame part may := by
  split
  · exact yes
  · exact no

theorem tame_ask (lock : L) {rest : X → Code L S X B} (after : ∀ x, (rest x).Tame part false) :
    (ask lock >>= rest).Tame part true := ⟨rfl, after⟩

theorem tame_look {may : Bool} {rest : S → Code L S X B} (blind : ∀ x s, rest (part.put x s) = rest s)
    (after : ∀ s, (rest s).Tame part may) : (look >>= rest).Tame part may :=
  ⟨fun x s => ⟨rfl, blind x s⟩, after⟩

theorem Tame.get_change {may : Bool} {lock : Option L} {change : S → S} {next : S → Code L S X A}
    (tame : (act lock change next).Tame part may) (s : S) : part.get (change s) = part.get s := by
  have same := (tame.1 (part.get s) s).1
  rw [part.put_get] at same
  rw [same, part.get_put]

theorem Tame.get_ends {may : Bool} (tame : code.Tame part may) (s : S) :
    part.get (code.ends part s).2 = part.get s := by
  induction code generalizing may s with
  | ret | throw | relock => rfl
  | act lock change next ih => exact (ih s (tame.2 s) _).trans (tame.get_change s)
  | consult lock next ih => exact ih _ (tame.2 _) s

/-- Without a look at it, the shared part goes through unseen. -/
theorem Tame.ends_put (tame : code.Tame part false) (x : X) (s : S) :
    code.ends part (part.put x s) = ((code.ends part s).1, part.put x (code.ends part s).2) := by
  induction code generalizing s with
  | ret | throw | relock => rfl
  | act lock change next ih =>
    obtain ⟨commutes, blind⟩ := tame.1 x s
    unfold ends
    rw [commutes, blind]
    exact ih s (tame.2 s) _
  | consult lock next ih => exact nomatch tame.1

end

/-- The second computation is what is left of the first after some of its actions, without
a look at the shared part. -/
inductive Made (whole : Code L S X A) (s : S) : Code L S X A → S → Prop where
  | none : Made whole s whole s
  | act {lock : Option L} {change : S → S} {next : S → Code L S X A} {t : S}
      (before : Made whole s (.act lock change next) t) : Made whole s (next t) (change t)

section
variable {part : Portion S X} {whole code : Code L S X A} {s t : S}

theorem Made.tame (made : Made whole s code t) (tame : whole.Tame part true) : code.Tame part true := by
  induction made with
  | none => exact tame
  | act before ih => exact ih.2 _

theorem Made.ends (made : Made whole s code t) (part : Portion S X) : whole.ends part s = code.ends part t := by
  induction made with
  | none => rfl
  | act before ih => exact ih

theorem Made.get (made : Made whole s code t) (tame : whole.Tame part true) : part.get t = part.get s := by
  induction made with
  | none => rfl
  | act before ih => exact ((before.tame tame).get_change _).trans ih

/-- The actions made are the same whatever the shared part is. -/
theorem Made.put (made : Made whole s code t) (tame : whole.Tame part true) (x : X) :
    Made whole (part.put x s) code (part.put x t) := by
  induction made with
  | none => exact .none
  | @act lock change next t before ih =>
    obtain ⟨commutes, blind⟩ := (before.tame tame).1 x t
    have after := Made.act ih
    rwa [commutes, blind] at after

end

/-! A code and the procedure it is when nobody else moves. -/

/-- The code and the procedure end alike from every state that has the property. -/
def Runs (part : Portion S X) (P : S → Prop) (code : Code L S X A) (m : Proc S A) : Prop :=
  ∀ s, P s → code.ends part s = m.ends s

section
variable {part : Portion S X} {P : S → Prop}

theorem ends_ofOutcome (outcome : Outcome A) (s : S) :
    (ofOutcome outcome : Code L S X A).ends part s = (outcome, s) := by
  cases outcome with
  | returned | threw | blocked => rfl

theorem runs_pure (value : A) : Runs part P (pure value : Code L S X A) (pure value) := fun _ _ => rfl

theorem runs_call (lock : Option L) (m : Proc S A) : Runs part P (call lock m) m :=
  fun _ _ => ends_ofOutcome _ _

theorem runs_ite {c : Prop} [Decidable c] {first second : Code L S X A} {m n : Proc S A} (yes : Runs part P first m)
    (no : Runs part P second n) : Runs part P (if c then first else second) (if c then m else n) := by
  split
  · exact yes
  · exact no

theorem runs_look_bind {rest : S → Code L S X A} {next : S → Proc S A}
    (after : ∀ s, P s → (rest s).ends part s = (next s).ends s) : Runs part P (look >>= rest) (Proc.get >>= next) := by
  intro s start
  rw [Proc.ends_get_bind]
  exact after s start

section
variable {code : Code L S X A} {rest : A → Code L S X B} {s t : S}

theorem ends_bind_returned {value : A} (head : code.ends part s = (.returned value, t)) :
    (code >>= rest).ends part s = (rest value).ends part t := by
  change (code.bind rest).ends part s = _
  induction code generalizing s with
  | ret value =>
    obtain ⟨same, rfl⟩ := Prod.mk.inj head
    cases same
    rfl
  | throw | relock => cases head
  | act lock change next ih => exact ih _ head
  | consult lock next ih => exact ih _ head

theorem ends_bind_threw (head : code.ends part s = (.threw, t)) : (code >>= rest).ends part s = (.threw, t) := by
  change (code.bind rest).ends part s = _
  induction code generalizing s with
  | ret | relock => cases head
  | throw => exact congrArg _ (Prod.mk.inj head).2
  | act lock change next ih => exact ih _ head
  | consult lock next ih => exact ih _ head

theorem ends_bind_blocked (head : code.ends part s = (.blocked, t)) :
    (code >>= rest).ends part s = (.blocked, t) := by
  change (code.bind rest).ends part s = _
  induction code generalizing s with
  | ret | throw => cases head
  | relock => exact congrArg _ (Prod.mk.inj head).2
  | act lock change next ih => exact ih _ head
  | consult lock next ih => exact ih _ head

end

theorem Runs.bind {code : Code L S X A} {m : Proc S A} {rest : A → Code L S X B} {next : A → Proc S B}
    (first : Runs part P code m) (keeps : ∀ s, P s → P (m.ends s).2)
    (second : ∀ value, Runs part P (rest value) (next value)) : Runs part P (code >>= rest) (m >>= next) := by
  intro s start
  have same := first s start
  have kept := keeps s start
  rcases ended : m.ends s with ⟨outcome, t⟩
  rw [ended] at same kept
  cases outcome with
  | returned value =>
    rw [ends_bind_returned same, Proc.ends_bind_returned ended]
    exact second value t kept
  | threw => rw [ends_bind_threw same, Proc.ends_bind_threw ended]
  | blocked => rw [ends_bind_blocked same, Proc.ends_bind_blocked ended]

theorem Runs.map {code : Code L S X A} {m : Proc S A} (runs : Runs part P code m) (f : A → B) :
    Runs part P (do let value ← code; pure (f value)) (do let value ← m; pure (f value)) := by
  intro s start
  have same := runs s start
  rw [Proc.ends_map]
  rcases ended : m.ends s with ⟨outcome, t⟩
  rw [ended] at same
  cases outcome with
  | returned value => exact ends_bind_returned same
  | threw => exact ends_bind_threw same
  | blocked => exact ends_bind_blocked same

end

end Code

/-- The procedure does not see a part of the state. -/
def Proc.Unaware (part : Portion S X) (m : Proc S A) : Prop :=
  ∀ x s, m.ends (part.put x s) = ((m.ends s).1, part.put x (m.ends s).2)

namespace Proc

variable {part : Portion S X}

theorem unaware_pure (value : A) : Unaware part (pure value : Proc S A) := fun _ _ => rfl

theorem unaware_throw : Unaware part (throw : Proc S A) := fun _ _ => rfl

theorem unaware_modify {change : S → S} (commutes : ∀ x s, change (part.put x s) = part.put x (change s)) :
    Unaware part (modify change) := by
  intro x s
  rw [ends_modify, ends_modify, commutes]

theorem Unaware.bind {first : Proc S A} {next : A → Proc S B} (head : Unaware part first)
    (tail : ∀ value, Unaware part (next value)) : Unaware part (first >>= next) := by
  intro x s
  have same := head x s
  rcases ended : first.ends s with ⟨outcome, t⟩
  rw [ended] at same
  cases outcome with
  | returned value =>
    rw [ends_bind_returned same, ends_bind_returned ended]
    exact tail value x t
  | threw => rw [ends_bind_threw same, ends_bind_threw ended]
  | blocked => rw [ends_bind_blocked same, ends_bind_blocked ended]

theorem unaware_get_bind {next : S → Proc S A} (blind : ∀ x s, next (part.put x s) = next s)
    (tail : ∀ s, Unaware part (next s)) : Unaware part (get >>= next) := by
  intro x s
  rw [ends_get_bind, ends_get_bind, blind]
  exact tail s x s

theorem unaware_ite {c : Prop} [Decidable c] {first second : Proc S A} (yes : Unaware part first)
    (no : Unaware part second) : Unaware part (if c then first else second) := by
  split
  · exact yes
  · exact no

/-- An action that does not see the shared part is tame. -/
theorem Unaware.tame {m : Proc S A} (unaware : Unaware part m) (lock : Option L) (may : Bool) :
    (Code.call lock m : Code L S X A).Tame part may := by
  refine ⟨fun x s => ?_, fun s => Code.tame_ofOutcome _ may⟩
  simp only [unaware x s, and_self]

end Proc

end Aegis.Library
