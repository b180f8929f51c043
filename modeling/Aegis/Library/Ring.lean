import Mathlib.Algebra.Order.Group.Nat
import Mathlib.Data.List.Basic
import Mathlib.Logic.Function.Basic

/-! A ring of records of one size, in memory that is used over and over.

Writers reserve records in order, and fill and commit each in their own time. The reader takes the
records in the order in which they were reserved and stops at one that is not committed. A record
is known by its number; its place in memory is the number times the length, around the ring.
-/

set_option autoImplicit false

namespace Aegis.Library

/-- A record is a header, `size` bytes and what they are rounded up by. -/
structure RingShape where
  capacity : Nat
  header : Nat
  size : Nat
  length : Nat
  inside : header + size ≤ length
  small : length < capacity

namespace RingShape
variable (shape : RingShape)

def address (record offset : Nat) : Nat := (record * shape.length + shape.header + offset) % shape.capacity

/-- Different bytes of one record lie apart, and so do those of two records that are both inside
one turn of the ring. -/
theorem address_ne {first second i j : Nat} (order : first < second ∨ first = second ∧ i < j)
    (near : (second + 1 - first) * shape.length ≤ shape.capacity) (left : i < shape.size) (right : j < shape.size) :
    shape.address first i ≠ shape.address second j := by
  intro same
  have inside := shape.inside
  obtain ⟨turn, rfl⟩ : ∃ turn, second = first + turn := ⟨second - first, by omega⟩
  rw [show first + turn + 1 - first = turn + 1 by omega, Nat.succ_mul] at near
  have forward : (first + turn) * shape.length = first * shape.length + turn * shape.length := Nat.add_mul _ _ _
  have most : i < turn * shape.length + j := by
    rcases order with earlier | ⟨-, less⟩
    · have one : 1 * shape.length ≤ turn * shape.length := Nat.mul_le_mul_right _ (by omega)
      omega
    · omega
  -- the distance is a multiple of the capacity, but it is less than one turn
  have divides : shape.capacity ∣ turn * shape.length + j - i := by
    have distance := Nat.sub_mod_eq_zero_of_mod_eq (show ((first + turn) * shape.length + shape.header + j) %
      shape.capacity = (first * shape.length + shape.header + i) % shape.capacity from same.symm)
    rw [forward] at distance
    rw [show turn * shape.length + j - i =
      first * shape.length + turn * shape.length + shape.header + j - (first * shape.length + shape.header + i) by omega]
    exact Nat.dvd_of_mod_eq_zero distance
  have turned := Nat.le_of_dvd (by omega) divides
  omega

/-- The bytes of a record. -/
def load (memory : Nat → UInt8) (record : Nat) : List UInt8 :=
  (List.range shape.size).map fun i => memory (shape.address record i)

/-- Write bytes into a record, from an offset on. -/
def store (memory : Nat → UInt8) (record : Nat) : (offset : Nat) → List UInt8 → Nat → UInt8
  | _, [] => memory
  | offset, b :: rest => Function.update (store memory record (offset + 1) rest) (shape.address record offset) b

variable {shape} {memory : Nat → UInt8} {record : Nat}

theorem store_other {bytes : List UInt8} {offset a : Nat}
    (apart : ∀ i, offset ≤ i → i < offset + bytes.length → shape.address record i ≠ a) :
    shape.store memory record offset bytes a = memory a := by
  induction bytes generalizing offset with
  | nil => rfl
  | cons b rest ih =>
    rw [List.length_cons] at apart
    rw [store, Function.update_of_ne (apart offset (Nat.le_refl _) (by omega)).symm]
    exact ih fun i start upto => apart i (by omega) (by omega)

theorem store_same {bytes : List UInt8} {offset i : Nat} (fits : offset + bytes.length ≤ shape.size)
    (bound : i < bytes.length) :
    shape.store memory record offset bytes (shape.address record (offset + i)) = bytes.getD i 0 := by
  have near : (record + 1 - record) * shape.length ≤ shape.capacity := by
    have small := shape.small
    rw [show record + 1 - record = 1 by omega, Nat.one_mul]
    omega
  induction bytes generalizing offset i with
  | nil => simp at bound
  | cons b rest ih =>
    rw [List.length_cons] at fits bound
    cases i with
    | zero => exact Function.update_self _ _ _
    | succ i =>
      have apart := shape.address_ne (.inr ⟨rfl, show offset < offset + (i + 1) by omega⟩) near (by omega) (by omega)
      rw [store, Function.update_of_ne apart.symm, List.getD_cons_succ, show offset + (i + 1) = offset + 1 + i by omega]
      exact ih (by omega) (by omega)

theorem load_store {bytes : List UInt8} (fills : bytes.length = shape.size) :
    shape.load (shape.store memory record 0 bytes) record = bytes := by
  apply List.ext_getElem
  · simp [load, fills]
  · intro i bound within
    have byte : shape.store memory record 0 bytes (shape.address record (0 + i)) = bytes.getD i 0 :=
      store_same (by omega) within
    rw [Nat.zero_add] at byte
    simpa [load, within] using byte

/-- Writing to one record leaves alone every other one inside the same turn. -/
theorem load_store_of_ne {other : Nat} {bytes : List UInt8} (fills : bytes.length = shape.size)
    (different : other ≠ record) (near : (max other record + 1 - min other record) * shape.length ≤ shape.capacity) :
    shape.load (shape.store memory record 0 bytes) other = shape.load memory other := by
  refine List.map_congr_left fun i member => store_other fun j _ upto => ?_
  have within : i < shape.size := List.mem_range.mp member
  rcases Nat.lt_or_gt_of_ne different with earlier | later
  · rw [Nat.max_eq_right (by omega), Nat.min_eq_left (by omega)] at near
    exact (shape.address_ne (.inl earlier) near within (by omega)).symm
  · rw [Nat.max_eq_left (by omega), Nat.min_eq_right (by omega)] at near
    exact shape.address_ne (.inl later) near (by omega) within

end RingShape

structure RecordRing (shape : RingShape) where
  memory : Nat → UInt8
  reserved : Nat := 0
  committed : Nat → Bool := fun _ => false
  consumed : Nat := 0

namespace RecordRing
variable {shape : RingShape}

def unread (ring : RecordRing shape) : Nat := ring.reserved - ring.consumed

/-- The writers never get a whole turn ahead of the reader. -/
def reserve (ring : RecordRing shape) : Option (RecordRing shape) :=
  if (ring.unread + 1) * shape.length < shape.capacity then some { ring with reserved := ring.reserved + 1 } else none

def commit (ring : RecordRing shape) (record : Nat) (bytes : List UInt8) : RecordRing shape :=
  { ring with
    memory := shape.store ring.memory record 0 bytes
    committed := Function.update ring.committed record true }

/-- The next record, if there is one and it has been committed. -/
def take (ring : RecordRing shape) : Option (List UInt8 × RecordRing shape) :=
  if ring.consumed < ring.reserved ∧ ring.committed ring.consumed = true then
    some (shape.load ring.memory ring.consumed, { ring with consumed := ring.consumed + 1 })
  else none

/-- `contents` are the records in their order, with what has been committed to them. A record stays in
memory for a turn, whether it has been read or not. -/
structure Keeps (ring : RecordRing shape) (contents : List (Option (List UInt8))) : Prop where
  length : contents.length = ring.reserved
  behind : ring.consumed ≤ ring.reserved
  room : ring.unread * shape.length < shape.capacity
  committed : ∀ k, ring.committed k = true ↔ ∃ bytes, contents[k]? = some (some bytes)
  read : ∀ k < ring.consumed, ring.committed k = true
  stored : ∀ k bytes, contents[k]? = some (some bytes) → (ring.reserved - k) * shape.length ≤ shape.capacity →
    shape.load ring.memory k = bytes

variable {ring : RecordRing shape} {contents : List (Option (List UInt8))}

theorem keeps_empty (memory : Nat → UInt8) : ({ memory } : RecordRing shape).Keeps [] where
  length := rfl
  behind := Nat.le_refl _
  room := by
    have small := shape.small
    simp only [unread]
    omega
  committed k := by simp
  read k before := by simp at before
  stored k bytes found := by simp at found

theorem reserve_eq_some {after : RecordRing shape} :
    ring.reserve = some after ↔
      (ring.unread + 1) * shape.length < shape.capacity ∧ { ring with reserved := ring.reserved + 1 } = after := by
  unfold reserve
  rw [Option.ite_none_right_eq_some, Option.some_inj]

theorem Keeps.reserve (keeps : ring.Keeps contents) {after : RecordRing shape} (reserved : ring.reserve = some after) :
    after.Keeps (contents ++ [none]) := by
  obtain ⟨room, rfl⟩ := reserve_eq_some.mp reserved
  have ahead : ring.reserved + 1 - ring.consumed = ring.unread + 1 := by
    have behind := keeps.behind
    unfold unread
    omega
  have found (k : Nat) (bytes : List UInt8) : (contents ++ [none])[k]? = some (some bytes) ↔
      contents[k]? = some (some bytes) := by
    rcases Nat.lt_trichotomy k contents.length with before | rfl | beyond
    · rw [List.getElem?_append_left before]
    · simp
    · rw [List.getElem?_eq_none (by simpa using Nat.succ_le_of_lt beyond), List.getElem?_eq_none (by omega)]
  refine ⟨by simp [keeps.length], Nat.le_succ_of_le keeps.behind, ?_, ?_, keeps.read, ?_⟩
  · change (ring.reserved + 1 - ring.consumed) * shape.length < shape.capacity
    rwa [ahead]
  · simpa only [found] using keeps.committed
  · intro k bytes listed turn
    refine keeps.stored k bytes ((found k bytes).mp listed) (Nat.le_trans ?_ turn)
    exact Nat.mul_le_mul_right _ (Nat.sub_le_sub_right (Nat.le_succ _) k)

theorem Keeps.commit (keeps : ring.Keeps contents) {record : Nat} (held : contents[record]? = some none)
    {bytes : List UInt8} (fills : bytes.length = shape.size) :
    (ring.commit record bytes).Keeps (contents.set record (some bytes)) := by
  have present : record < contents.length := (List.getElem?_eq_some_iff.mp held).1
  have busy : ring.committed record = false := by
    rw [Bool.eq_false_iff, Ne, keeps.committed, held]
    rintro ⟨bytes, ⟨⟩⟩
  have unread : ring.consumed ≤ record := by
    by_contra before
    have done := keeps.read record (by omega)
    rw [busy] at done
    cases done
  refine ⟨(List.length_set ..).trans keeps.length, keeps.behind, keeps.room, ?_, ?_, ?_⟩
  · intro k
    by_cases same : k = record
    · subst same
      simp [RecordRing.commit, present]
    · simpa [RecordRing.commit, Function.update_of_ne same, List.getElem?_set_ne (Ne.symm same)] using keeps.committed k
  · intro k before
    by_cases same : k = record
    · simp [RecordRing.commit, same]
    · simpa [RecordRing.commit, Function.update_of_ne same] using keeps.read k before
  · intro k content listed turn
    by_cases same : k = record
    · subst same
      obtain rfl : bytes = content := by simpa [present] using listed
      exact RingShape.load_store fills
    · rw [List.getElem?_set_ne (Ne.symm same)] at listed
      have there : k < ring.reserved := by
        rw [← keeps.length]
        exact (List.getElem?_eq_some_iff.mp listed).1
      have near : (max k record + 1 - min k record) * shape.length ≤ shape.capacity := by
        have room := keeps.room
        have length := keeps.length
        rcases Nat.le_total k record with less | less
        · refine Nat.le_trans (Nat.mul_le_mul_right _ ?_) turn
          change _ ≤ ring.reserved - k
          omega
        · refine Nat.le_trans (Nat.mul_le_mul_right _ ?_) (Nat.le_of_lt room)
          unfold RecordRing.unread
          omega
      exact (RingShape.load_store_of_ne fills same near).trans (keeps.stored k content listed turn)

/-- The reader gets what was committed to the next record. -/
theorem Keeps.take (keeps : ring.Keeps contents) {bytes : List UInt8} {after : RecordRing shape}
    (taken : ring.take = some (bytes, after)) :
    contents[ring.consumed]? = some (some bytes) ∧ after.Keeps contents ∧ after.consumed = ring.consumed + 1 := by
  unfold RecordRing.take at taken
  obtain ⟨⟨behind, committed⟩, same⟩ := Option.ite_none_right_eq_some.mp taken
  obtain ⟨rfl, rfl⟩ := Prod.mk.inj (Option.some.inj same)
  obtain ⟨content, listed⟩ := (keeps.committed _).mp committed
  have stored := keeps.stored _ _ listed (Nat.le_of_lt keeps.room)
  rw [stored]
  refine ⟨listed, ⟨keeps.length, behind, ?_, keeps.committed, ?_, keeps.stored⟩, rfl⟩
  · refine Nat.lt_of_le_of_lt (Nat.mul_le_mul_right _ ?_) keeps.room
    exact Nat.sub_le_sub_left (Nat.le_succ _) _
  · intro k before
    rcases Nat.lt_succ_iff_lt_or_eq.mp before with earlier | rfl
    · exact keeps.read k earlier
    · exact committed

end RecordRing

end Aegis.Library
