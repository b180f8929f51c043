import Mathlib.Data.Finmap

/-! Finite tables: what an insertion or a removal does to the entries and to one column. -/

set_option autoImplicit false

namespace Aegis.Library

variable {K V W : Type} [DecidableEq K] {table : Finmap fun _ : K => V} {key other : K} {value found : V}

theorem lookup_insert_cases (lookup : (table.insert key value).lookup other = some found) :
    (other = key ∧ found = value) ∨ table.lookup other = some found := by
  by_cases same : other = key
  · subst same
    rw [Finmap.lookup_insert] at lookup
    exact .inl ⟨rfl, (Option.some.inj lookup).symm⟩
  · rw [Finmap.lookup_insert_of_ne _ same] at lookup
    exact .inr lookup

theorem lookup_of_lookup_erase (lookup : (table.erase key).lookup other = some found) :
    table.lookup other = some found := by
  by_cases same : other = key
  · rw [same, Finmap.lookup_erase] at lookup
    cases lookup
  · rwa [Finmap.lookup_erase_ne same] at lookup

theorem erase_insert (new : key ∉ table) (value : V) : (table.insert key value).erase key = table := by
  apply Finmap.ext_lookup
  intro other
  by_cases same : other = key
  · rw [same, Finmap.lookup_erase, Finmap.lookup_eq_none.mpr new]
  · rw [Finmap.lookup_erase_ne same, Finmap.lookup_insert_of_ne _ same]

theorem erase_missing (missing : key ∉ table) : table.erase key = table := by
  apply Finmap.ext_lookup
  intro other
  by_cases same : other = key
  · rw [same, Finmap.lookup_erase, Finmap.lookup_eq_none.mpr missing]
  · rw [Finmap.lookup_erase_ne same]

/-- One field of the entries. -/
def column (field : V → W) (table : Finmap fun _ : K => V) (key : K) : Option W := (table.lookup key).map field

section
variable (field : V → W)

@[simp] theorem column_empty : column field (∅ : Finmap fun _ : K => V) = fun _ => none := by
  funext key
  simp [column]

theorem column_missing (missing : key ∉ table) : column field table key = none := by
  simp [column, Finmap.lookup_eq_none.mpr missing]

theorem column_known (known : table.lookup key = some value) : column field table key = some (field value) := by
  simp [column, known]

theorem column_insert (table : Finmap fun _ : K => V) (key : K) (value : V) :
    column field (table.insert key value) = Function.update (column field table) key (some (field value)) := by
  funext other
  by_cases same : other = key
  · subst same
    simp [column]
  · simp [column, same, Finmap.lookup_insert_of_ne]

theorem column_erase (table : Finmap fun _ : K => V) (key : K) :
    column field (table.erase key) = Function.update (column field table) key none := by
  funext other
  by_cases same : other = key
  · subst same
    simp [column]
  · simp [column, same, Finmap.lookup_erase_ne]

end

/-! Walking over a table: the order is not fixed, but each entry comes once. -/

structure Walk (table : Finmap fun _ : K => V) where
  entries : List (K × V)
  nodup : (entries.map Prod.fst).Nodup
  mem_iff : ∀ key value, (key, value) ∈ entries ↔ table.lookup key = some value

def Walk.ofAList (list : AList fun _ : K => V) : Walk list.toFinmap where
  entries := list.entries.map fun entry => (entry.1, entry.2)
  nodup := by
    rw [List.map_map]
    exact list.nodupKeys
  mem_iff key value := by
    rw [Finmap.lookup_toFinmap, ← Option.mem_def, AList.mem_lookup_iff, List.mem_map]
    constructor
    · rintro ⟨entry, member, equal⟩
      cases equal
      exact member
    · exact fun member => ⟨_, member, rfl⟩

theorem Walk.nonempty (table : Finmap fun _ : K => V) : Nonempty (Walk table) :=
  Finmap.induction_on table fun list => ⟨Walk.ofAList list⟩

def Walk.reorder (walk : Walk table) (entries : List (K × V)) (perm : entries.Perm walk.entries) : Walk table where
  entries := entries
  nodup := (perm.map Prod.fst).nodup_iff.mpr walk.nodup
  mem_iff key value := perm.mem_iff.trans (walk.mem_iff key value)

/-- Any entry can be the last one. -/
theorem Walk.exists_last (known : table.lookup key = some value) :
    ∃ (walk : Walk table) (front : List (K × V)), walk.entries = front ++ [(key, value)] := by
  classical
  obtain ⟨walk⟩ := Walk.nonempty table
  have perm := (List.perm_cons_erase ((walk.mem_iff key value).mpr known)).symm
  exact ⟨walk.reorder (walk.entries.erase (key, value) ++ [(key, value)]) ((List.perm_append_singleton _ _).trans perm),
    _, rfl⟩

end Aegis.Library
