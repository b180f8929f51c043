import Mathlib.Data.Finmap

/-! Tables of bounded size, as a kernel keeps them for its programs.

A hash table refuses a new key when it is full; an entry set to a neutral value still
takes its slot. An array has all its cells from the start and no others.
-/

set_option autoImplicit false

namespace Aegis.Library

variable {K V : Type} [DecidableEq K] {capacity : Nat}

structure HashTable (K V : Type) (capacity : Nat) where
  entries : Finmap fun _ : K => V
  bounded : entries.keys.card ≤ capacity

namespace HashTable

def empty : HashTable K V capacity := ⟨∅, by simp⟩

def lookup (table : HashTable K V capacity) (key : K) : Option V := table.entries.lookup key

/-- The key has a slot or can get one. -/
def Room (table : HashTable K V capacity) (key : K) : Prop :=
  key ∈ table.entries ∨ table.entries.keys.card < capacity

instance (table : HashTable K V capacity) (key : K) : Decidable (table.Room key) :=
  inferInstanceAs (Decidable (_ ∨ _))

theorem keys_insert (entries : Finmap fun _ : K => V) (key : K) (value : V) :
    (entries.insert key value).keys = insert key entries.keys := by
  ext other
  simp [Finmap.mem_keys, Finmap.mem_insert]

theorem card_insert_le {table : HashTable K V capacity} {key : K} (room : table.Room key) (value : V) :
    (table.entries.insert key value).keys.card ≤ capacity := by
  rw [keys_insert]
  rcases room with present | free
  · rw [Finset.insert_eq_of_mem (Finmap.mem_keys.mpr present)]
    exact table.bounded
  · have grown := Finset.card_insert_le key table.entries.keys
    omega

/-- Set a key; a full table without it stays as it is. -/
def put (table : HashTable K V capacity) (key : K) (value : V) : HashTable K V capacity :=
  if room : table.Room key then ⟨table.entries.insert key value, card_insert_le room value⟩ else table

/-- An update as the kernel answers it: `granted` is its own leave, memory and the like. -/
def update (table : HashTable K V capacity) (granted : Bool) (key : K) (value : V) :
    Option (HashTable K V capacity) :=
  if granted ∧ table.Room key then some (table.put key value) else none

omit [DecidableEq K] in
theorem room_empty (positive : 0 < capacity) (key : K) : (empty : HashTable K V capacity).Room key := by
  right
  simpa [empty] using positive

@[simp] theorem lookup_empty (key : K) : (empty : HashTable K V capacity).lookup key = none := rfl

theorem lookup_put (table : HashTable K V capacity) (key other : K) (value : V) :
    (table.put key value).lookup other =
      if other = key ∧ table.Room key then some value else table.lookup other := by
  unfold put
  by_cases room : table.Room key
  · rw [dif_pos room]
    by_cases same : other = key
    · subst same
      simp [lookup, room]
    · simp [lookup, same, Finmap.lookup_insert_of_ne]
  · simp [room]

theorem isSome_update {table : HashTable K V capacity} {granted : Bool} {key : K} {value : V} :
    (table.update granted key value).isSome = true ↔ granted = true ∧ table.Room key := by
  by_cases leave : granted = true ∧ table.Room key
  · simp [update, leave]
  · simp [update, leave]

/-- Setting a key never takes a slot back from another. -/
theorem keys_put (table : HashTable K V capacity) (key : K) (value : V) :
    (table.put key value).entries.keys =
      if table.Room key then insert key table.entries.keys else table.entries.keys := by
  unfold put
  split
  · exact keys_insert _ _ _
  · rfl

/-- The table after an update, accepted or not. -/
def offer (table : HashTable K V capacity) (granted : Bool) (key : K) (value : V) : HashTable K V capacity :=
  (table.update granted key value).getD table

theorem lookup_offer (table : HashTable K V capacity) (granted : Bool) (key other : K) (value : V) :
    (table.offer granted key value).lookup other =
      if other = key ∧ granted ∧ table.Room key then some value else table.lookup other := by
  unfold offer update
  by_cases leave : granted ∧ table.Room key
  · simp [leave, lookup_put]
  · simp [leave]

theorem ext_lookup {first second : HashTable K V capacity} (same : ∀ key, first.lookup key = second.lookup key) :
    first = second := by
  cases first
  cases second
  congr
  exact Finmap.ext_lookup same

theorem offer_eq_self_iff {table : HashTable K V capacity} {granted : Bool} {key : K} {value : V} :
    table.offer granted key value = table ↔ (granted = true → table.Room key → table.lookup key = some value) := by
  constructor
  · intro same leave room
    rw [← same, lookup_offer, if_pos ⟨rfl, leave, room⟩]
  · intro stored
    refine ext_lookup fun other => ?_
    rw [lookup_offer]
    split
    · rename_i accepted
      rw [accepted.1]
      exact (stored accepted.2.1 accepted.2.2).symm
    · rfl

/-- A key that has the value keeps it while other keys are set to it. -/
theorem lookup_foldl_offer {I : Type} (granted : I → Bool) (key : I → K) {value : V} {other : K} (items : List I)
    {table : HashTable K V capacity} (stored : table.lookup other = some value) :
    (items.foldl (fun table item => table.offer (granted item) (key item) value) table).lookup other = some value := by
  induction items generalizing table with
  | nil => exact stored
  | cons item rest ih =>
    refine ih ?_
    rw [lookup_offer, stored, ite_self]

/-- Setting several keys to one value changes nothing if none of the updates does alone. -/
theorem foldl_offer_eq_self_iff {I : Type} (granted : I → Bool) (key : I → K) (value : V) (items : List I)
    (table : HashTable K V capacity) :
    items.foldl (fun table item => table.offer (granted item) (key item) value) table = table ↔
      ∀ item ∈ items, table.offer (granted item) (key item) value = table := by
  induction items with
  | nil => simp
  | cons item rest ih =>
    rw [List.foldl_cons, List.forall_mem_cons]
    by_cases same : table.offer (granted item) (key item) value = table
    · rw [same, ih, and_iff_right rfl]
    · refine iff_of_false (fun back => same (offer_eq_self_iff.mpr fun leave room => ?_)) fun all => same all.1
      -- the changed key keeps its new value to the end
      have stored : (table.offer (granted item) (key item) value).lookup (key item) = some value := by
        rw [lookup_offer, if_pos ⟨rfl, leave, room⟩]
      rw [← back]
      exact lookup_foldl_offer granted key rest stored

end HashTable

structure ArrayTable (V : Type) (capacity : Nat) where
  cells : Fin capacity → V

namespace ArrayTable

def filled (value : V) : ArrayTable V capacity := ⟨fun _ => value⟩

def lookup (table : ArrayTable V capacity) (index : Nat) : Option V :=
  if bound : index < capacity then some (table.cells ⟨index, bound⟩) else none

def put (table : ArrayTable V capacity) (index : Nat) (value : V) : ArrayTable V capacity :=
  ⟨fun i => if i.val = index then value else table.cells i⟩

def update (table : ArrayTable V capacity) (granted : Bool) (index : Nat) (value : V) :
    Option (ArrayTable V capacity) :=
  if granted ∧ index < capacity then some (table.put index value) else none

theorem lookup_filled (value : V) (index : Nat) :
    (filled value : ArrayTable V capacity).lookup index = if index < capacity then some value else none := by
  unfold lookup filled
  split <;> rfl

theorem lookup_put (table : ArrayTable V capacity) (index other : Nat) (value : V) :
    (table.put index value).lookup other =
      if other = index ∧ index < capacity then some value else table.lookup other := by
  unfold lookup put
  by_cases same : other = index
  · subst same
    by_cases bound : other < capacity
    · simp [bound]
    · simp [bound]
  · simp [same]

theorem isSome_update {table : ArrayTable V capacity} {granted : Bool} {index : Nat} {value : V} :
    (table.update granted index value).isSome = true ↔ granted = true ∧ index < capacity := by
  by_cases leave : granted = true ∧ index < capacity
  · simp [update, leave]
  · simp [update, leave]

end ArrayTable

end Aegis.Library
