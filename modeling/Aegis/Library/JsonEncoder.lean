import Aegis.Library.JsonTemplate

/-! Strings of a JSON text, escaped.

The writer escapes quotes, backslashes, control characters, the characters that mean something
in HTML and the two line separators, and puts U+FFFD for every byte that is no part of a
character. A reader gets back the text, made valid.
-/

set_option autoImplicit false

namespace Aegis.Library

/-! A text as a sequence of characters. -/

/-- Bytes that follow the first one of a character. -/
def IsTail (lead : UInt8) (tail : Bytes) : Prop :=
  tail.length = tailSize lead ∧ tail ≠ [] ∧ tail.all isContinuation = true ∧ tail.head?.all (secondFits lead) = true

theorem beginsRune_iff {lead : UInt8} {rest : Bytes} :
    beginsRune lead rest = true ↔ IsTail lead (rest.take (tailSize lead)) := by
  unfold beginsRune IsTail
  simp only [Bool.and_eq_true, decide_eq_true_eq, and_assoc]
  constructor
  · rintro ⟨filled, long, rest⟩
    refine ⟨long, fun empty => ?_, rest⟩
    rw [empty] at long
    exact filled long.symm
  · rintro ⟨long, filled, rest⟩
    refine ⟨fun empty => filled ?_, long, rest⟩
    rw [empty]
    rfl

theorem IsTail.begins {lead : UInt8} {tail : Bytes} (fits : IsTail lead tail) (rest : Bytes) :
    beginsRune lead (tail ++ rest) = true := by
  rw [beginsRune_iff, ← fits.1, List.take_left]
  exact fits

theorem IsTail.not_ascii {lead : UInt8} {tail : Bytes} (fits : IsTail lead tail) {b : UInt8} (member : b ∈ tail) :
    isAscii b = false := by
  have high := List.all_eq_true.mp fits.2.2.1 b member
  simp only [isContinuation, Bool.and_eq_true, decide_eq_true_eq] at high
  simp only [isAscii, decide_eq_false_iff_not, UInt8.not_lt]
  exact high.1

/-- A text is empty, or it begins with an ASCII character, a longer character or a stray byte. -/
theorem text_induction {P : Bytes → Prop} (nil : P [])
    (ascii : ∀ b rest, isAscii b = true → P rest → P (b :: rest))
    (rune : ∀ lead tail rest, isAscii lead = false → IsTail lead tail → P rest → P (lead :: (tail ++ rest)))
    (stray : ∀ b rest, isAscii b = false → beginsRune b rest = false → P rest → P (b :: rest)) (text : Bytes) :
    P text := by
  induction length : text.length using Nat.strong_induction_on generalizing text with
  | _ n ih =>
    cases text with
    | nil => exact nil
    | cons b rest =>
      have shorter : rest.length < n := by
        rw [← length]
        exact Nat.lt_succ_self _
      cases small : isAscii b with
      | true => exact ascii b rest small (ih _ shorter rest rfl)
      | false =>
        cases begins : beginsRune b rest with
        | false => exact stray b rest small begins (ih _ shorter rest rfl)
        | true =>
          have later : (rest.drop (tailSize b)).length < n := by
            rw [List.length_drop]
            omega
          have whole := rune b _ _ small (beginsRune_iff.mp begins) (ih _ later (rest.drop (tailSize b)) rfl)
          rwa [List.take_append_drop] at whole

theorem toValid_inside (tail rest : Bytes) : toValid tail.length (tail ++ rest) = tail ++ toValid 0 rest := by
  induction tail with
  | nil => rfl
  | cons b tail ih => exact congrArg _ ih

section
variable {b lead : UInt8} {tail rest : Bytes}

theorem toValid_rune (high : isAscii lead = false) (fits : IsTail lead tail) :
    toValid 0 (lead :: (tail ++ rest)) = lead :: (tail ++ toValid 0 rest) := by
  rw [toValid, if_neg (by simp [high]), if_pos (fits.begins rest), ← fits.1, toValid_inside]

theorem toValid_stray (high : isAscii b = false) (stray : beginsRune b rest = false) :
    toValid 0 (b :: rest) = replacement ++ toValid 0 rest := by
  rw [toValid, if_neg (by simp [high]), if_neg (by simp [stray])]

end

theorem toValid_ascii_append {chunk : Bytes} (ascii : ∀ b ∈ chunk, isAscii b = true) (rest : Bytes) :
    toValid 0 (chunk ++ rest) = chunk ++ toValid 0 rest := by
  induction chunk with
  | nil => rfl
  | cons b chunk ih =>
    rw [List.forall_mem_cons] at ascii
    rw [List.cons_append, toValid, if_pos ascii.1, ih ascii.2, List.cons_append]

/-! The writer. -/

def hexChar (n : Nat) : UInt8 := (bytesOf "0123456789abcdef").getD n 0

/-- A `\u` escape. -/
def unitEscape (unit : Nat) : Bytes :=
  [byte '\\', byte 'u', hexChar (unit / 4096 % 16), hexChar (unit / 256 % 16), hexChar (unit / 16 % 16),
    hexChar (unit % 16)]

/-- The letter of the short escape a character has. -/
def shortEscape (b : UInt8) : Option UInt8 :=
  if b = byte '\\' ∨ b = byte '"' then some b
  else if b = 0x08 then some (byte 'b')
  else if b = 0x0C then some (byte 'f')
  else if b = 0x0A then some (byte 'n')
  else if b = 0x0D then some (byte 'r')
  else if b = 0x09 then some (byte 't')
  else none

def escapeAscii (b : UInt8) : Bytes :=
  match shortEscape b with
  | some letter => [byte '\\', letter]
  | none =>
      if b < 0x20 ∨ b = byte '<' ∨ b = byte '>' ∨ b = byte '&' then unitEscape b.toNat else [b]

/-- `skip` bytes have been written as an escape, `inside` bytes are copied. -/
def escapeText : (skip inside : Nat) → Bytes → Bytes
  | _, _, [] => []
  | skip + 1, inside, _ :: rest => escapeText skip inside rest
  | 0, inside + 1, b :: rest => b :: escapeText 0 inside rest
  | 0, 0, b :: rest =>
      if isAscii b then escapeAscii b ++ escapeText 0 0 rest
      else if beginsRune b rest then
        if b = 0xE2 ∧ rest.take 2 = [0x80, 0xA8] then unitEscape 0x2028 ++ escapeText 2 0 rest
        else if b = 0xE2 ∧ rest.take 2 = [0x80, 0xA9] then unitEscape 0x2029 ++ escapeText 2 0 rest
        else b :: escapeText 0 (tailSize b) rest
      else unitEscape 0xFFFD ++ escapeText 0 0 rest

theorem escapeText_inside (tail rest : Bytes) :
    escapeText 0 tail.length (tail ++ rest) = tail ++ escapeText 0 0 rest := by
  induction tail with
  | nil => rfl
  | cons b tail ih => exact congrArg _ ih

/-- What is written for a character of several bytes. -/
def escapeRune (lead : UInt8) (tail : Bytes) : Bytes :=
  if lead :: tail = encodeRune 0x2028 then unitEscape 0x2028
  else if lead :: tail = encodeRune 0x2029 then unitEscape 0x2029
  else lead :: tail

section
variable {b lead : UInt8} {tail rest : Bytes}

theorem escapeText_ascii (low : isAscii b = true) :
    escapeText 0 0 (b :: rest) = escapeAscii b ++ escapeText 0 0 rest := by
  rw [escapeText, if_pos low]

theorem escapeText_stray (high : isAscii b = false) (stray : beginsRune b rest = false) :
    escapeText 0 0 (b :: rest) = unitEscape 0xFFFD ++ escapeText 0 0 rest := by
  rw [escapeText, if_neg (by simp [high]), if_neg (by simp [stray])]

theorem escapeText_rune (high : isAscii lead = false) (fits : IsTail lead tail) :
    escapeText 0 0 (lead :: (tail ++ rest)) = escapeRune lead tail ++ escapeText 0 0 rest := by
  have first : encodeRune 0x2028 = [0xE2, 0x80, 0xA8] := by decide
  have second : encodeRune 0x2029 = [0xE2, 0x80, 0xA9] := by decide
  -- a character that begins with 0xE2 has two more bytes
  have two : lead = 0xE2 → (tail ++ rest).take 2 = tail := by
    rintro rfl
    have long : tail.length = 2 := fits.1
    rw [← long, List.take_left]
  rw [escapeText, if_neg (by simp [high]), if_pos (fits.begins rest)]
  unfold escapeRune
  rw [first, second]
  by_cases separator : lead = 0xE2
  · subst separator
    rw [two rfl]
    have long : tail.length = 2 := fits.1
    obtain ⟨c, d, rfl⟩ := List.length_eq_two.mp long
    by_cases line : [c, d] = [0x80, 0xA8]
    · rw [if_pos ⟨rfl, line⟩, if_pos (by rw [line])]
      rfl
    · rw [if_neg fun same => line same.2, if_neg fun same => line (List.cons.inj same).2]
      by_cases paragraph : [c, d] = [0x80, 0xA9]
      · rw [if_pos ⟨rfl, paragraph⟩, if_pos (by rw [paragraph])]
        rfl
      · rw [if_neg fun same => paragraph same.2, if_neg fun same => paragraph (List.cons.inj same).2]
        rfl
  · rw [if_neg fun same => separator same.1, if_neg fun same => separator same.1,
      if_neg fun same => separator (List.cons.inj same).1, if_neg fun same => separator (List.cons.inj same).1,
      ← fits.1, escapeText_inside]
    rfl

end

/-! What the reader makes of it. -/

theorem closing_step {phase next : Json.Phase} {c : UInt8} (inside : phase = .plain → c ≠ byte '"')
    (goes : Json.textPhase c phase = some next) (rest : Bytes) :
    Json.closing phase (c :: rest) = (Json.closing next rest).map fun found => (c :: found.1, found.2) := by
  rw [Json.closing, if_neg fun quote => inside quote.1 quote.2, goes]

/-- The bytes `raw` inside a string stand for `text`, whatever comes after them. -/
structure Stands (raw text : Bytes) : Prop where
  valid : ∀ rest, toValid 0 (raw ++ rest) = raw ++ toValid 0 rest
  means : ∀ rest, unescape 0 (raw ++ rest) = text ++ unescape 0 rest
  closing : ∀ rest, Json.closing .plain (raw ++ rest) =
    (Json.closing .plain rest).map fun found => (raw ++ found.1, found.2)
  visible : ∀ b ∈ raw, 0x20 ≤ b

namespace Stands

theorem nil : Stands [] [] where
  valid _ := rfl
  means _ := rfl
  closing rest := by simp
  visible _ member := nomatch member

theorem append {raw raw' text text' : Bytes} (first : Stands raw text) (second : Stands raw' text') :
    Stands (raw ++ raw') (text ++ text') where
  valid rest := by rw [List.append_assoc, first.valid, second.valid, List.append_assoc]
  means rest := by rw [List.append_assoc, first.means, second.means, List.append_assoc]
  closing rest := by
    rw [List.append_assoc, first.closing, second.closing, Option.map_map]
    simp [Function.comp_def]
  visible b member := by
    rcases List.mem_append.mp member with left | right
    · exact first.visible b left
    · exact second.visible b right

/-- Bytes that need no escape. -/
theorem copied {chunk : Bytes} (other : ∀ b ∈ chunk, b ≠ byte '"' ∧ b ≠ byte '\\' ∧ 0x20 ≤ b)
    (valid : ∀ rest, toValid 0 (chunk ++ rest) = chunk ++ toValid 0 rest) : Stands chunk chunk where
  valid := valid
  means rest := by
    clear valid
    induction chunk with
    | nil => rfl
    | cons b chunk ih =>
      rw [List.forall_mem_cons] at other
      rw [List.cons_append, unescape, if_neg other.1.2.1, ih other.2, List.cons_append]
  closing rest := by
    clear valid
    induction chunk with
    | nil => simp
    | cons b chunk ih =>
      rw [List.forall_mem_cons] at other
      have stays : Json.textPhase b .plain = some .plain := by
        rw [Json.textPhase, if_neg other.1.2.1, if_neg (UInt8.not_lt.mpr other.1.2.2)]
      rw [List.cons_append, closing_step (fun _ => other.1.1) stays, ih other.2]
      simp [Function.comp_def]
  visible b member := (other b member).2.2

/-- A whole character of several bytes. -/
theorem rune {lead : UInt8} {tail : Bytes} (high : isAscii lead = false) (fits : IsTail lead tail) :
    Stands (lead :: tail) (lead :: tail) := by
  refine copied (fun b member => ?_) fun rest => toValid_rune high fits
  have big : isAscii b = false := by
    rcases List.mem_cons.mp member with rfl | member
    · exact high
    · exact fits.not_ascii member
  refine ⟨?_, ?_, ?_⟩
  · rintro rfl
    cases big
  · rintro rfl
    cases big
  · simp only [isAscii, decide_eq_false_iff_not, UInt8.not_lt] at big
    exact UInt8.le_trans (by decide) big

end Stands

theorem hexDigit_hexChar {n : Nat} (small : n < 16) : hexDigit (hexChar n) = some n := by
  interval_cases n <;> decide

theorem hexChar_visible {n : Nat} (small : n < 16) : isAscii (hexChar n) = true ∧ 0x20 ≤ hexChar n := by
  interval_cases n <;> decide

/-- A `\u` escape that is no surrogate. -/
theorem stands_unit {unit : Nat} (small : unit < 0xD800 ∨ 0xE000 ≤ unit ∧ unit < 0x10000) :
    Stands (unitEscape unit) (encodeRune unit) := by
  have hex (n : Nat) := hexDigit_hexChar (Nat.mod_lt n (show 0 < 16 by decide))
  have shown (n : Nat) := hexChar_visible (Nat.mod_lt n (show 0 < 16 by decide))
  constructor
  · intro rest
    apply toValid_ascii_append
    simp [unitEscape, shown, show isAscii (byte '\\') = true ∧ isAscii (byte 'u') = true by decide]
  · intro rest
    have found : codeUnit (unitEscape unit ++ rest) = some unit := by
      change (do return ((← hexDigit (hexChar (unit / 4096 % 16))) * 4096 +
        (← hexDigit (hexChar (unit / 256 % 16))) * 256 + (← hexDigit (hexChar (unit / 16 % 16))) * 16 +
        (← hexDigit (hexChar (unit % 16))))) = some unit
      rw [hex, hex, hex, hex]
      exact congrArg some (by omega)
    have single (low : Option Nat) : decodePair unit low = none := by
      cases low with
      | none => rfl
      | some low => exact if_neg fun pair => by omega
    have whole : isSurrogate unit = false := by
      simp only [isSurrogate, Bool.and_eq_false_iff, decide_eq_false_iff_not]
      omega
    have unfolded := unescape.eq_3 (byte '\\') ((unitEscape unit).tail ++ rest)
    rw [if_pos rfl, show byte '\\' :: ((unitEscape unit).tail ++ rest) = unitEscape unit ++ rest from rfl, found] at unfolded
    dsimp only at unfolded
    rw [single, whole] at unfolded
    exact unfolded
  · intro rest
    have digit (n left : Nat) (next : Json.Phase)
        (goes : (if left ≤ 1 then Json.Phase.plain else .hex (left - 1)) = next) (rest : Bytes) :
        Json.closing (.hex left) (hexChar (n % 16) :: rest) =
          (Json.closing next rest).map fun found => (hexChar (n % 16) :: found.1, found.2) := by
      apply closing_step
      · rintro ⟨⟩
      · rw [Json.textPhase, hex, ← goes]
        exact (apply_ite some _ _ _).symm
    have backslash : Json.textPhase (byte '\\') .plain = some .escape := rfl
    have letter : Json.textPhase (byte 'u') .escape = some (.hex 4) := rfl
    simp only [unitEscape, List.cons_append, List.nil_append]
    rw [closing_step (fun _ => by decide) backslash, closing_step (by rintro ⟨⟩) letter, digit _ 4 (.hex 3) rfl,
      digit _ 3 (.hex 2) rfl, digit _ 2 (.hex 1) rfl, digit _ 1 .plain rfl]
    simp [Function.comp_def]
  · simp [unitEscape, shown, show 0x20 ≤ byte '\\' ∧ 0x20 ≤ byte 'u' by decide]

theorem shortEscape_eq_some {b letter : UInt8} (short : shortEscape b = some letter) :
    escaped letter = b ∧ letter ∈ bytesOf "bfnrt\\/\"" := by
  unfold shortEscape at short
  split at short
  · rename_i itself
    obtain rfl := Option.some.inj short
    rcases itself with rfl | rfl <;> exact ⟨rfl, by decide⟩
  · repeat' split at short
    all_goals cases short
    all_goals subst b
    all_goals exact ⟨rfl, by decide⟩

theorem stands_short {b letter : UInt8} (short : shortEscape b = some letter) :
    Stands [byte '\\', letter] [b] := by
  obtain ⟨means, listed⟩ := shortEscape_eq_some short
  have letters : ((bytesOf "bfnrt\\/\"").all fun letter => letter ≠ byte 'u' ∧ isAscii letter = true ∧ 0x20 ≤ letter) =
      true := by
    decide
  obtain ⟨other, ascii, visible⟩ := of_decide_eq_true (List.all_eq_true.mp letters letter listed)
  constructor
  · refine toValid_ascii_append ?_
    simp [ascii, show isAscii (byte '\\') = true by decide]
  · intro rest
    have unit : codeUnit (byte '\\' :: letter :: rest) = none := by
      refine Option.eq_none_iff_forall_ne_some.mpr fun unit found => ?_
      obtain ⟨a, b, c, d, tail, same, -⟩ := codeUnit_eq_some found
      exact other (List.cons.inj (List.cons.inj same).2).1
    have unfolded := unescape.eq_3 (byte '\\') (letter :: rest)
    rw [if_pos rfl, unit] at unfolded
    rw [← means]
    exact unfolded
  · intro rest
    have backslash : Json.textPhase (byte '\\') .plain = some .escape := rfl
    have back : Json.textPhase letter .escape = some .plain := by
      rw [Json.textPhase, if_neg other, if_pos listed]
    simp only [List.cons_append, List.nil_append]
    rw [closing_step (fun _ => by decide) backslash, closing_step (by rintro ⟨⟩) back]
    simp [Function.comp_def]
  · simp [visible, show 0x20 ≤ byte '\\' by decide]

theorem stands_ascii {b : UInt8} (low : isAscii b = true) : Stands (escapeAscii b) [b] := by
  unfold escapeAscii
  cases short : shortEscape b with
  | some letter => exact stands_short short
  | none =>
    dsimp only
    split
    · have small : b.toNat < 0x80 := by simpa [isAscii, UInt8.lt_iff_toNat_lt] using low
      have same : encodeRune b.toNat = [b] := by
        rw [encodeRune, if_pos small, UInt8.ofNat_toNat]
      rw [← same]
      exact stands_unit (.inl (by omega))
    · rename_i plain
      have special : ¬(b = byte '\\' ∨ b = byte '"') := by
        intro special
        rw [shortEscape, if_pos special] at short
        cases short
      simp only [not_or, UInt8.not_lt] at plain special
      refine .copied ?_ (toValid_ascii_append (by simpa using low))
      simpa using ⟨special.2, special.1, plain.1⟩

theorem stands_rune {lead : UInt8} {tail : Bytes} (high : isAscii lead = false) (fits : IsTail lead tail) :
    Stands (escapeRune lead tail) (lead :: tail) := by
  unfold escapeRune
  split
  · rename_i same
    rw [same]
    exact stands_unit (by decide)
  · split
    · rename_i same
      rw [same]
      exact stands_unit (by decide)
    · exact .rune high fits

theorem stands_text (text : Bytes) : Stands (escapeText 0 0 text) (toValid 0 text) := by
  induction text using text_induction with
  | nil => exact .nil
  | ascii b rest low ih =>
    rw [escapeText_ascii low, toValid, if_pos low]
    exact (stands_ascii low).append ih
  | rune lead tail rest high fits ih =>
    rw [escapeText_rune high fits, toValid_rune high fits]
    exact (stands_rune high fits).append ih
  | stray b rest high stray ih =>
    rw [escapeText_stray high stray, toValid_stray high stray]
    exact (stands_unit (by decide)).append ih

theorem unquote_escapeText (text : Bytes) : unquote (escapeText 0 0 text) = toValid 0 text := by
  have stands := stands_text text
  have valid := stands.valid []
  have means := stands.means []
  rw [List.append_nil] at valid means
  rw [unquote, valid, show toValid 0 [] = [] from rfl, List.append_nil, means]
  exact List.append_nil _

theorem closing_escapeText (text rest : Bytes) :
    Json.closing .plain (escapeText 0 0 text ++ byte '"' :: rest) = some (escapeText 0 0 text, rest) := by
  rw [(stands_text text).closing]
  simp [Json.closing]

end Aegis.Library
