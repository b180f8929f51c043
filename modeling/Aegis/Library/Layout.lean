import Mathlib.Algebra.Group.Nat.Defs
import Mathlib.Data.List.Basic

/-! Memory layout of C structs under natural alignment, little-endian.

A struct is given by its members in order. Bytes between members and after the last
one are padding and may hold anything.
-/

set_option autoImplicit false

namespace Aegis.Library.Layout

inductive Member where
  | u8
  | u16
  | u32
  | u64
  | chars (count : Nat)
  deriving DecidableEq, Repr

def Member.size : Member → Nat
  | .u8 => 1
  | .u16 => 2
  | .u32 => 4
  | .u64 => 8
  | .chars count => count

def Member.align : Member → Nat
  | .chars _ => 1
  | scalar => scalar.size

theorem Member.align_pos (m : Member) : 0 < m.align := by
  cases m <;> simp [align, size]

/-- The next multiple of `align`. -/
def alignUp (offset align : Nat) : Nat := (offset + align - 1) / align * align

theorem le_alignUp (offset : Nat) {align : Nat} (positive : 0 < align) :
    offset ≤ alignUp offset align := by
  have split := Nat.div_add_mod (offset + align - 1) align
  have small := Nat.mod_lt (offset + align - 1) positive
  rw [Nat.mul_comm] at split
  unfold alignUp
  omega

def offsetsFrom : Nat → List Member → List Nat
  | _, [] => []
  | position, m :: rest =>
      alignUp position m.align :: offsetsFrom (alignUp position m.align + m.size) rest

def endFrom : Nat → List Member → Nat
  | position, [] => position
  | position, m :: rest => endFrom (alignUp position m.align + m.size) rest

def maxAlign (members : List Member) : Nat := members.foldr (fun m most => max m.align most) 1

/-- The struct's size, rounded up to its alignment. -/
def sizeof (members : List Member) : Nat := alignUp (endFrom 0 members) (maxAlign members)

def gap (padding : Nat → UInt8) (first last : Nat) : List UInt8 :=
  (List.range' first (last - first)).map padding

def placeFrom (padding : Nat → UInt8) : Nat → List Member → List (List UInt8) → List UInt8
  | position, m :: members, field :: fields =>
      gap padding position (alignUp position m.align) ++ field ++
        placeFrom padding (alignUp position m.align + m.size) members fields
  | _, _, _ => []

/-- The bytes of a struct whose members hold the given bytes. -/
def encode (members : List Member) (padding : Nat → UInt8) (fields : List (List UInt8)) : List UInt8 :=
  placeFrom padding 0 members fields ++ gap padding (endFrom 0 members) (sizeof members)

/-- The bytes read through a pointer to the struct's `i`th member. -/
def member (members : List Member) (bytes : List UInt8) (i : Nat) : List UInt8 :=
  (bytes.drop ((offsetsFrom 0 members).getD i 0)).take (members.getD i .u8).size

abbrev Fits (members : List Member) (fields : List (List UInt8)) : Prop :=
  List.Forall₂ (fun (m : Member) (field : List UInt8) => field.length = m.size) members fields

theorem length_gap (padding : Nat → UInt8) (first last : Nat) :
    (gap padding first last).length = last - first := by
  simp [gap]

-- The induction carries the bytes already placed, so that an offset counted from the
-- start of the struct can be read off the front of what is left.
theorem placed_member {members : List Member} {fields : List (List UInt8)} (fits : Fits members fields)
    (padding : Nat → UInt8) (before after : List UInt8) (position : Nat)
    (reached : before.length = position) (i : Nat) (bound : i < members.length) :
    ((before ++ placeFrom padding position members fields ++ after).drop
        ((offsetsFrom position members).getD i 0)).take (members.getD i .u8).size =
      fields.getD i [] := by
  induction fits generalizing before position i with
  | nil => simp at bound
  | @cons m field members fields size _ ih =>
    have grows : position ≤ alignUp position m.align := le_alignUp position m.align_pos
    have padded : (before ++ gap padding position (alignUp position m.align)).length =
        alignUp position m.align := by
      simp only [List.length_append, length_gap]
      omega
    cases i with
    | zero =>
      simp only [placeFrom, offsetsFrom, List.getD_cons_zero, List.append_assoc]
      rw [← List.append_assoc before, List.drop_left' padded, List.take_left' size]
    | succ i =>
      have next := ih (before ++ gap padding position (alignUp position m.align) ++ field)
        (alignUp position m.align + m.size) (by rw [List.length_append, padded, size]) i
        (by simpa using bound)
      simpa only [placeFrom, offsetsFrom, List.getD_cons_succ, List.append_assoc] using next

/-- A member read back from the struct's bytes is the one that was written. -/
theorem member_encode {members : List Member} {fields : List (List UInt8)} (fits : Fits members fields)
    (padding : Nat → UInt8) (i : Nat) (bound : i < members.length) :
    member members (encode members padding fields) i = fields.getD i [] := by
  have placed := placed_member fits padding [] (gap padding (endFrom 0 members) (sizeof members)) 0 rfl
    i bound
  simpa [member, encode] using placed

theorem length_placeFrom {members : List Member} {fields : List (List UInt8)} (fits : Fits members fields)
    (padding : Nat → UInt8) (position : Nat) :
    position + (placeFrom padding position members fields).length = endFrom position members := by
  induction fits generalizing position with
  | nil => simp [placeFrom, endFrom]
  | @cons m field members fields size _ ih =>
    have grows : position ≤ alignUp position m.align := le_alignUp position m.align_pos
    have rest := ih (alignUp position m.align + m.size)
    simp only [placeFrom, endFrom, List.length_append, length_gap, size]
    omega

theorem maxAlign_pos (members : List Member) : 0 < maxAlign members := by
  induction members with
  | nil => decide
  | cons m rest ih => exact Nat.lt_of_lt_of_le ih (Nat.le_max_right _ _)

/-- A struct occupies exactly its size. -/
theorem length_encode {members : List Member} {fields : List (List UInt8)} (fits : Fits members fields)
    (padding : Nat → UInt8) : (encode members padding fields).length = sizeof members := by
  have placed := length_placeFrom fits padding 0
  have grows : endFrom 0 members ≤ sizeof members := le_alignUp _ (maxAlign_pos members)
  simp only [encode, List.length_append, length_gap]
  omega

/-! Little-endian integers. -/

def toBytes : Nat → Nat → List UInt8
  | 0, _ => []
  | count + 1, n => UInt8.ofNat n :: toBytes count (n / 256)

def ofBytes : List UInt8 → Nat
  | [] => 0
  | byte :: rest => byte.toNat + 256 * ofBytes rest

@[simp] theorem length_toBytes (count n : Nat) : (toBytes count n).length = count := by
  induction count generalizing n with
  | zero => rfl
  | succ count ih => simp [toBytes, ih]

theorem ofBytes_toBytes (count n : Nat) : ofBytes (toBytes count n) = n % 256 ^ count := by
  induction count generalizing n with
  | zero => simp [toBytes, ofBytes, Nat.mod_one]
  | succ count ih =>
    have low : (UInt8.ofNat n).toNat = n % 256 := by simp
    rw [toBytes, ofBytes, ih, low, Nat.pow_succ, Nat.mul_comm (256 ^ count), Nat.mod_mul]

theorem ofBytes_toBytes_of_lt {count n : Nat} (small : n < 256 ^ count) :
    ofBytes (toBytes count n) = n := by
  rw [ofBytes_toBytes, Nat.mod_eq_of_lt small]

end Aegis.Library.Layout
