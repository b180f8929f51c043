import Mathlib.Data.List.Basic

/-! The inside of a JSON string: its escapes, and UTF-8. A text is the list of its bytes. -/

set_option autoImplicit false

namespace Aegis.Library

abbrev Bytes := List UInt8

/-- A character of a byte string stands for one byte. -/
def byte (c : Char) : UInt8 := UInt8.ofNat c.toNat

def bytesOf (text : String) : Bytes := text.toList.map byte

theorem bytesOf_append (first second : String) : bytesOf (first ++ second) = bytesOf first ++ bytesOf second := by
  simp [bytesOf]

def isAscii (b : UInt8) : Bool := b < 0x80

def asciiCount (text : Bytes) : Nat := text.countP isAscii

@[simp]
theorem asciiCount_nil : asciiCount [] = 0 := rfl

theorem asciiCount_cons (b : UInt8) (text : Bytes) :
    asciiCount (b :: text) = asciiCount text + asciiCount [b] := by
  simp [asciiCount, List.countP_cons]

@[simp]
theorem asciiCount_append (first second : Bytes) :
    asciiCount (first ++ second) = asciiCount first + asciiCount second :=
  List.countP_append

theorem asciiCount_single_le (b : UInt8) : asciiCount [b] ≤ 1 :=
  List.countP_le_length

/-! UTF-8. -/

def isContinuation (b : UInt8) : Bool := 0x80 ≤ b && b ≤ 0xBF

/-- How many bytes follow the first one of a character of several bytes, 0 if none begins so. -/
def tailSize (lead : UInt8) : Nat :=
  if 0xC2 ≤ lead && lead ≤ 0xDF then 1
  else if 0xE0 ≤ lead && lead ≤ 0xEF then 2
  else if 0xF0 ≤ lead && lead ≤ 0xF4 then 3
  else 0

/-- Overlong forms, surrogates and what lies beyond the last code point show in the second byte. -/
def secondFits (lead second : UInt8) : Bool :=
  if lead = 0xE0 then 0xA0 ≤ second
  else if lead = 0xED then second ≤ 0x9F
  else if lead = 0xF0 then 0x90 ≤ second
  else if lead = 0xF4 then second ≤ 0x8F
  else true

def beginsRune (lead : UInt8) (rest : Bytes) : Bool :=
  let tail := rest.take (tailSize lead)
  tailSize lead ≠ 0 && tail.length = tailSize lead && tail.all isContinuation &&
    tail.head?.all (secondFits lead)

def replacement : Bytes := [0xEF, 0xBF, 0xBD]

/-- Every byte that is part of no character becomes U+FFFD. `inside` bytes of a character already
seen to be whole are still to come. -/
def toValid : (inside : Nat) → Bytes → Bytes
  | _, [] => []
  | inside + 1, b :: rest => b :: toValid inside rest
  | 0, b :: rest =>
      if isAscii b then b :: toValid 0 rest
      else if beginsRune b rest then b :: toValid (tailSize b) rest
      else replacement ++ toValid 0 rest

theorem asciiCount_toValid (inside : Nat) (text : Bytes) : asciiCount (toValid inside text) ≤ asciiCount text := by
  induction text generalizing inside with
  | nil => simp [toValid]
  | cons b rest ih =>
    have copied : ∀ count, asciiCount (b :: toValid count rest) ≤ asciiCount (b :: rest) := by
      intro count
      rw [asciiCount_cons, asciiCount_cons b rest]
      exact Nat.add_le_add_right (ih count) _
    cases inside with
    | succ inside => exact copied inside
    | zero =>
      unfold toValid
      split
      · exact copied 0
      · split
        · exact copied (tailSize b)
        · have added : asciiCount replacement = 0 := by decide
          rw [asciiCount_append, added, asciiCount_cons]
          have shorter := ih 0
          omega

def continuation (n : Nat) : UInt8 := UInt8.ofNat (0x80 + n % 64)

def encodeRune (rune : Nat) : Bytes :=
  if rune < 0x80 then [UInt8.ofNat rune]
  else if rune < 0x800 then [UInt8.ofNat (0xC0 + rune / 64), continuation rune]
  else if rune < 0x10000 then
    [UInt8.ofNat (0xE0 + rune / 4096), continuation (rune / 64), continuation rune]
  else
    [UInt8.ofNat (0xF0 + rune / 262144), continuation (rune / 4096), continuation (rune / 64), continuation rune]

theorem isAscii_continuation (n : Nat) : isAscii (continuation n) = false := by
  have small : n % 64 < 64 := Nat.mod_lt _ (by decide)
  simp only [isAscii, continuation, decide_eq_false_iff_not, UInt8.lt_iff_toNat_lt, UInt8.toNat_ofNat']
  simp
  omega

theorem asciiCount_encodeRune (rune : Nat) : asciiCount (encodeRune rune) ≤ 1 := by
  -- only the first byte can be an ASCII character
  have first : ∀ b (others : Bytes), (∀ c ∈ others, isAscii c = false) → asciiCount (b :: others) ≤ 1 := by
    intro b others wide
    have zero : asciiCount others = 0 := List.countP_eq_zero.mpr (by simpa using wide)
    rw [asciiCount_cons, zero]
    have one := asciiCount_single_le b
    omega
  unfold encodeRune
  split_ifs <;> exact first _ _ (by simp [isAscii_continuation])

/-! The escapes. -/

def hexDigit (b : UInt8) : Option Nat :=
  if byte '0' ≤ b ∧ b ≤ byte '9' then some (b.toNat - '0'.toNat)
  else if byte 'a' ≤ b ∧ b ≤ byte 'f' then some (b.toNat - 'a'.toNat + 10)
  else if byte 'A' ≤ b ∧ b ≤ byte 'F' then some (b.toNat - 'A'.toNat + 10)
  else none

/-- The number in a `\u` escape at the start of a text. -/
def codeUnit : Bytes → Option Nat
  | 0x5C :: 0x75 :: a :: b :: c :: d :: _ => do
      return ((← hexDigit a) * 4096 + (← hexDigit b) * 256 + (← hexDigit c) * 16 + (← hexDigit d))
  | _ => none

def isSurrogate (unit : Nat) : Bool := 0xD800 ≤ unit && unit < 0xE000

/-- The code point of a surrogate pair. -/
def decodePair (high : Nat) : Option Nat → Option Nat
  | some low =>
      if 0xD800 ≤ high ∧ high < 0xDC00 ∧ 0xDC00 ≤ low ∧ low < 0xE000 then
        some ((high - 0xD800) * 1024 + (low - 0xDC00) + 0x10000)
      else none
  | none => none

/-- What a backslash and one letter stand for. -/
def escaped (letter : UInt8) : UInt8 :=
  if letter = byte 'b' then 0x08
  else if letter = byte 'f' then 0x0C
  else if letter = byte 'n' then 0x0A
  else if letter = byte 'r' then 0x0D
  else if letter = byte 't' then 0x09
  else letter

/-- `skip` bytes belong to an escape that has been dealt with. -/
def unescape : (skip : Nat) → Bytes → Bytes
  | _, [] => []
  | skip + 1, _ :: rest => unescape skip rest
  | 0, b :: rest =>
      if b = byte '\\' then
        match codeUnit (b :: rest) with
        | some unit =>
            match decodePair unit (codeUnit (rest.drop 5)) with
            | some rune => encodeRune rune ++ unescape 11 rest
            | none => encodeRune (if isSurrogate unit then 0xFFFD else unit) ++ unescape 5 rest
        | none => escaped (rest.headD 0) :: unescape 1 rest
      else b :: unescape 0 rest

theorem asciiCount_unescape (skip : Nat) (text : Bytes) : asciiCount (unescape skip text) ≤ asciiCount text := by
  induction text generalizing skip with
  | nil => simp [unescape]
  | cons b rest ih =>
    cases skip with
    | succ skip => exact Nat.le_trans (ih skip) (by simp [asciiCount_cons b rest])
    | zero =>
      -- the backslash pays for what its escape stands for
      have paid : b = byte '\\' → ∀ start count, asciiCount start ≤ 1 →
          asciiCount (start ++ unescape count rest) ≤ asciiCount (b :: rest) := by
        intro backslash start count one
        have ascii : asciiCount [b] = 1 := by rw [backslash]; decide
        have shorter := ih count
        rw [asciiCount_append, asciiCount_cons b rest]
        omega
      unfold unescape
      split
      next backslash =>
        split
        · split
          · exact paid backslash _ 11 (asciiCount_encodeRune _)
          · exact paid backslash _ 5 (asciiCount_encodeRune _)
        · exact paid backslash [_] 1 (asciiCount_single_le _)
      next =>
        rw [asciiCount_cons, asciiCount_cons b rest]
        exact Nat.add_le_add_right (ih 0) _

def unquote (raw : Bytes) : Bytes := unescape 0 (toValid 0 raw)

theorem asciiCount_unquote (raw : Bytes) : asciiCount (unquote raw) ≤ asciiCount raw :=
  Nat.le_trans (asciiCount_unescape 0 _) (asciiCount_toValid 0 raw)

example : unquote (bytesOf "a\\n\\u00e9\\ud83d\\ude00\\ud83d!") =
    bytesOf "a\n" ++ [0xC3, 0xA9, 0xF0, 0x9F, 0x98, 0x80] ++ replacement ++ bytesOf "!" := by
  decide +kernel

end Aegis.Library
