import Mathlib.Data.Finset.Insert
import Mathlib.Data.Finset.Erase
import Mathlib.Logic.Function.Basic

/-! Handles and their owners.

Handles are taken from a common pool. An owner has at most one; a handle that is open
belongs to one owner, or to someone else.
-/

set_option autoImplicit false

namespace Aegis.Library

variable {Owner Handle : Type}

/-- The open handles are those of others and the held ones, and no handle has two holders. -/
structure Owns (others : Finset Handle) (held : Owner → Option Handle) (opened : Finset Handle) : Prop where
  exact : ∀ handle, handle ∈ opened ↔ handle ∈ others ∨ ∃ owner, held owner = some handle
  apart : ∀ owner handle, held owner = some handle → handle ∉ others
  distinct : ∀ owner other handle, held owner = some handle → held other = some handle → owner = other

namespace Owns

variable {others opened : Finset Handle} {held : Owner → Option Handle} {owner : Owner} {handle : Handle}

theorem nothing (opened : Finset Handle) : Owns opened (fun _ : Owner => none) opened where
  exact handle := by simp
  apart owner handle impossible := by cases impossible
  distinct owner other handle impossible := by cases impossible

theorem eq_others (owns : Owns others (fun _ : Owner => none) opened) : opened = others := by
  ext handle
  simp [owns.exact handle]

theorem isOpen (owns : Owns others held opened) (holding : held owner = some handle) : handle ∈ opened :=
  (owns.exact handle).mpr (.inr ⟨owner, holding⟩)

variable [DecidableEq Owner] [DecidableEq Handle]

theorem acquire (owns : Owns others held opened) (new : held owner = none) (free : handle ∉ opened) :
    Owns others (Function.update held owner (some handle)) (insert handle opened) := by
  have unused (other : Owner) : held other ≠ some handle := fun holding => free (owns.isOpen holding)
  have cases (other : Owner) (found : Handle) (holding : Function.update held owner (some handle) other = some found) :
      other = owner ∧ found = handle ∨ other ≠ owner ∧ held other = some found := by
    by_cases same : other = owner
    · subst same
      rw [Function.update_self] at holding
      exact .inl ⟨rfl, (Option.some.inj holding).symm⟩
    · rw [Function.update_of_ne same] at holding
      exact .inr ⟨same, holding⟩
  constructor
  · intro found
    rw [Finset.mem_insert, owns.exact]
    constructor
    · rintro (rfl | other | ⟨other, holding⟩)
      · exact .inr ⟨owner, Function.update_self owner _ held⟩
      · exact .inl other
      · have different : other ≠ owner := by
          rintro rfl
          rw [new] at holding
          cases holding
        exact .inr ⟨other, (Function.update_of_ne different _ held).trans holding⟩
    · rintro (other | ⟨other, holding⟩)
      · exact .inr (.inl other)
      · rcases cases other found holding with ⟨-, rfl⟩ | ⟨-, old⟩
        · exact .inl rfl
        · exact .inr (.inr ⟨other, old⟩)
  · intro other found holding
    rcases cases other found holding with ⟨-, rfl⟩ | ⟨-, old⟩
    · exact fun member => free ((owns.exact _).mpr (.inl member))
    · exact owns.apart other found old
  · intro first second found holding holding'
    rcases cases first found holding with ⟨rfl, rfl⟩ | ⟨-, old⟩
    · rcases cases second _ holding' with ⟨rfl, -⟩ | ⟨-, old⟩
      · rfl
      · exact absurd old (unused second)
    · rcases cases second found holding' with ⟨-, rfl⟩ | ⟨-, old'⟩
      · exact absurd old (unused first)
      · exact owns.distinct first second found old old'

theorem release (owns : Owns others held opened) (holding : held owner = some handle) :
    Owns others (Function.update held owner none) (opened.erase handle) := by
  have kept (other : Owner) (found : Handle) (holding' : Function.update held owner none other = some found) :
      other ≠ owner ∧ held other = some found := by
    by_cases same : other = owner
    · subst same
      rw [Function.update_self] at holding'
      cases holding'
    · rw [Function.update_of_ne same] at holding'
      exact ⟨same, holding'⟩
  constructor
  · intro found
    rw [Finset.mem_erase, owns.exact]
    constructor
    · rintro ⟨different, other | ⟨other, holding'⟩⟩
      · exact .inl other
      · have apart : other ≠ owner := by
          rintro rfl
          exact different (Option.some.inj (holding'.symm.trans holding))
        exact .inr ⟨other, (Function.update_of_ne apart _ held).trans holding'⟩
    · rintro (other | ⟨other, holding'⟩)
      · exact ⟨fun same => owns.apart owner handle holding (same ▸ other), .inl other⟩
      · obtain ⟨different, old⟩ := kept other found holding'
        refine ⟨?_, .inr ⟨other, old⟩⟩
        rintro rfl
        exact different (owns.distinct other owner found old holding)
  · exact fun other found holding' => owns.apart other found (kept other found holding').2
  · exact fun first second found here there =>
      owns.distinct first second found (kept first found here).2 (kept second found there).2

end Owns

end Aegis.Library
