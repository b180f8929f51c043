import Aegis.Library.Json
import Mathlib.Data.List.Nodup
import Mathlib.Data.List.Perm.Basic
import Mathlib.Tactic.IntervalCases

/-! JSON objects made by substitution into a template.

The texts that are filled in are not escaped. Such an object decodes to what was filled in
just if each text is valid UTF-8 without quotes, backslashes and control characters.
-/

set_option autoImplicit false

namespace Aegis.Library

/-! What the escapes do to the bytes of a text. -/

def isVisible (b : UInt8) : Bool := 0x20 ≤ b && b < 0x80

theorem escaped_of_not_visible {b : UInt8} (hidden : isVisible b = false) : escaped b = b := by
  have other : ∀ c : Char, isVisible (byte c) = true → b ≠ byte c := by
    rintro c visible rfl
    rw [visible] at hidden
    cases hidden
  simp only [escaped, if_neg (other 'b' rfl), if_neg (other 'f' rfl), if_neg (other 'n' rfl), if_neg (other 'r' rfl),
    if_neg (other 't' rfl)]

theorem countP_encodeRune_le (rune : Nat) : (encodeRune rune).countP isVisible ≤ 1 := by
  refine Nat.le_trans ?_ (asciiCount_encodeRune rune)
  refine List.countP_mono_left fun b _ visible => ?_
  simp only [isVisible, Bool.and_eq_true] at visible
  exact visible.2

/-- The code unit of an escape is behind four hexadecimal digits. -/
theorem codeUnit_eq_some {text : Bytes} {unit : Nat} (found : codeUnit text = some unit) :
    ∃ a b c d rest, text = 0x5C :: 0x75 :: a :: b :: c :: d :: rest ∧
      ∀ digit ∈ [a, b, c, d], (hexDigit digit).isSome = true := by
  unfold codeUnit at found
  split at found
  · rename_i a b c d rest
    refine ⟨a, b, c, d, rest, rfl, ?_⟩
    simp only [Option.pure_def, Option.bind_eq_bind, Option.bind_eq_some_iff] at found
    obtain ⟨_, first, _, second, _, third, _, fourth, -⟩ := found
    simp [first, second, third, fourth]
  · cases found

theorem ne_comma_of_hexDigit {b : UInt8} (hex : (hexDigit b).isSome = true) : b ≠ byte ',' := by
  rintro rfl
  cases hex

/-- There is no comma in an escape with a code unit. -/
theorem count_codeUnit {text : Bytes} {unit : Nat} (found : codeUnit text = some unit) :
    (text.take 6).count (byte ',') = 0 := by
  obtain ⟨a, b, c, d, rest, rfl, hex⟩ := codeUnit_eq_some found
  rw [List.count_eq_zero]
  have written : (0x5C :: 0x75 :: a :: b :: c :: d :: rest).take 6 = [0x5C, 0x75] ++ [a, b, c, d] := rfl
  rw [written, List.mem_append]
  rintro (member | member)
  · exact absurd member (by decide)
  · exact ne_comma_of_hexDigit (hex _ member) rfl

theorem countP_single_le (b : UInt8) (p : UInt8 → Bool) : [b].countP p ≤ 1 := List.countP_le_length

/-- What an escape stands for has no more visible bytes than there are behind the backslash,
and no fewer commas. -/
theorem unescape_backslash (rest : Bytes) :
    ∃ start count, unescape 0 (byte '\\' :: rest) = start ++ unescape count rest ∧
      start.countP isVisible ≤ (rest.take count).countP isVisible ∧
      (rest.take count).count (byte ',') ≤ start.count (byte ',') := by
  have unfolded := unescape.eq_3 (byte '\\') rest
  rw [if_pos rfl] at unfolded
  cases found : codeUnit (byte '\\' :: rest) with
  | none =>
    refine ⟨[escaped (rest.headD 0)], 1, ?_, ?_⟩
    · rw [unfolded, found]
      rfl
    · cases rest with
      | nil => exact ⟨by decide, by decide⟩
      | cons c rest =>
        constructor
        · cases hidden : isVisible c with
          | true =>
            have one : (List.take 1 (c :: rest)).countP isVisible = 1 := by simp [hidden]
            rw [one]
            exact countP_single_le _ _
          | false => simp [escaped_of_not_visible hidden]
        · by_cases comma : c = byte ','
          · subst comma
            exact Nat.le_refl 1
          · simp [comma]
  | some unit =>
    obtain ⟨a, b, c, d, tail, opening, -⟩ := codeUnit_eq_some found
    have behind : rest = 0x75 :: a :: b :: c :: d :: tail := (List.cons.inj opening).2
    have commas : (rest.take 5).count (byte ',') = 0 := by
      have spent := count_codeUnit found
      rwa [List.take_succ_cons, List.count_cons_of_ne (by decide)] at spent
    -- the letter of the escape is visible
    have visible : ∀ (count : Nat) (start : Bytes), start.countP isVisible ≤ 1 →
        start.countP isVisible ≤ (rest.take (count + 1)).countP isVisible := by
      intro count start one
      refine Nat.le_trans one ?_
      rw [behind, List.take_succ_cons, List.countP_cons_of_pos (by decide)]
      exact Nat.le_add_left 1 _
    cases paired : decodePair unit (codeUnit (rest.drop 5)) with
    | none =>
      refine ⟨_, 5, ?_, visible 4 _ (countP_encodeRune_le (if isSurrogate unit then 0xFFFD else unit)), ?_⟩
      · rw [unfolded, found]
        simp only [paired]
      · rw [commas]
        exact Nat.zero_le _
    | some rune =>
      refine ⟨_, 11, ?_, visible 10 _ (countP_encodeRune_le rune), ?_⟩
      · rw [unfolded, found]
        simp only [paired]
      · cases second : codeUnit (rest.drop 5) with
        | none =>
          rw [second] at paired
          cases paired
        | some low =>
          rw [show 11 = 5 + 6 from rfl, List.take_add, List.count_append, commas, count_codeUnit second]
          exact Nat.zero_le _

/-- Without the backslashes a text has fewer visible bytes. -/
theorem countP_unescape_le (skip : Nat) (text : Bytes) :
    (unescape skip text).countP isVisible ≤ (text.drop skip).countP isVisible := by
  induction text generalizing skip with
  | nil => simp [unescape]
  | cons b rest ih =>
    cases skip with
    | succ skip => exact ih skip
    | zero =>
      by_cases backslash : b = byte '\\'
      · subst backslash
        obtain ⟨start, count, unfolded, fewer, -⟩ := unescape_backslash rest
        have behind := ih count
        have split := congrArg (List.countP isVisible) (List.take_append_drop count rest)
        rw [List.countP_append] at split
        rw [unfolded, List.countP_append, List.drop_zero, List.countP_cons]
        omega
      · have copied : unescape 0 (b :: rest) = b :: unescape 0 rest := by
          rw [unescape, if_neg backslash]
        rw [copied, List.drop_zero, List.countP_cons, List.countP_cons]
        exact Nat.add_le_add_right (ih 0) _

theorem countP_unescape_lt {text : Bytes} (member : byte '\\' ∈ text) :
    (unescape 0 text).countP isVisible < text.countP isVisible := by
  induction text with
  | nil => cases member
  | cons b rest ih =>
    by_cases backslash : b = byte '\\'
    · subst backslash
      obtain ⟨start, count, unfolded, fewer, -⟩ := unescape_backslash rest
      have behind := countP_unescape_le count rest
      have split := congrArg (List.countP isVisible) (List.take_append_drop count rest)
      rw [List.countP_append] at split
      rw [unfolded, List.countP_append, List.countP_cons_of_pos (by decide)]
      omega
    · have copied : unescape 0 (b :: rest) = b :: unescape 0 rest := by
        rw [unescape, if_neg backslash]
      rw [copied, List.countP_cons, List.countP_cons]
      refine Nat.add_lt_add_right (ih ?_) _
      simpa [Ne.symm backslash] using member

theorem unescape_of_not_mem {text : Bytes} (free : byte '\\' ∉ text) : unescape 0 text = text := by
  induction text with
  | nil => rfl
  | cons b rest ih =>
    rw [List.mem_cons, not_or] at free
    rw [unescape, if_neg (Ne.symm free.1), ih free.2]

theorem count_comma_unescape (skip : Nat) (text : Bytes) :
    (text.drop skip).count (byte ',') ≤ (unescape skip text).count (byte ',') := by
  induction text generalizing skip with
  | nil => simp
  | cons b rest ih =>
    cases skip with
    | succ skip => exact ih skip
    | zero =>
      by_cases backslash : b = byte '\\'
      · subst backslash
        obtain ⟨start, count, unfolded, -, more⟩ := unescape_backslash rest
        have behind := ih count
        have split := congrArg (List.count (byte ',')) (List.take_append_drop count rest)
        rw [List.count_append] at split
        rw [unfolded, List.count_append, List.drop_zero, List.count_cons_of_ne (by decide)]
        omega
      · have copied : unescape 0 (b :: rest) = b :: unescape 0 rest := by
          rw [unescape, if_neg backslash]
        rw [copied, List.drop_zero, List.count_cons, List.count_cons]
        exact Nat.add_le_add_right (ih 0) _

/-- Making a text valid keeps its ASCII characters in their order, and adds none. -/
theorem filter_toValid (inside : Nat) (text : Bytes) : (toValid inside text).filter isAscii = text.filter isAscii := by
  induction text generalizing inside with
  | nil => simp [toValid]
  | cons b rest ih =>
    have copied : ∀ count, (b :: toValid count rest).filter isAscii = (b :: rest).filter isAscii := by
      intro count
      rw [List.filter_cons, List.filter_cons, ih]
    cases inside with
    | succ inside => exact copied inside
    | zero =>
      unfold toValid
      split
      · exact copied 0
      · rename_i other
        split
        · exact copied (tailSize b)
        · have added : replacement.filter isAscii = [] := by decide
          rw [List.filter_append, added, List.nil_append, ih, List.filter_cons_of_neg other]

theorem countP_toValid (inside : Nat) (text : Bytes) (p : UInt8 → Bool) (ascii : ∀ b, p b = true → isAscii b = true) :
    (toValid inside text).countP p = text.countP p := by
  have inner : ∀ l : Bytes, l.countP p = (l.filter isAscii).countP p := by
    intro l
    rw [List.countP_filter]
    refine List.countP_congr fun b _ => ?_
    rw [Bool.and_eq_true]
    exact (and_iff_left_of_imp (ascii b)).symm
  rw [inner, inner text, filter_toValid]

theorem isAscii_of_visible (b : UInt8) (visible : isVisible b = true) : isAscii b = true := by
  simp only [isVisible, Bool.and_eq_true] at visible
  exact visible.2

theorem mem_toValid {inside : Nat} {text : Bytes} {b : UInt8} (ascii : isAscii b = true) :
    b ∈ toValid inside text ↔ b ∈ text := by
  have filtered := congrArg (b ∈ ·) (filter_toValid inside text)
  simpa [ascii] using filtered

/-! What unquoting does. -/

section
variable (raw : Bytes)

theorem countP_unquote_le : (unquote raw).countP isVisible ≤ raw.countP isVisible := by
  rw [← countP_toValid 0 raw isVisible isAscii_of_visible]
  exact countP_unescape_le 0 _

theorem countP_unquote_lt (member : byte '\\' ∈ raw) : (unquote raw).countP isVisible < raw.countP isVisible := by
  rw [← countP_toValid 0 raw isVisible isAscii_of_visible]
  exact countP_unescape_lt ((mem_toValid (by decide)).mpr member)

theorem count_comma_unquote : raw.count (byte ',') ≤ (unquote raw).count (byte ',') := by
  have same : (toValid 0 raw).count (byte ',') = raw.count (byte ',') := by
    refine countP_toValid 0 raw _ fun b comma => ?_
    rw [eq_of_beq comma]
    decide
  rw [← same]
  exact count_comma_unescape 0 _

theorem unquote_of_not_mem (free : byte '\\' ∉ raw) : unquote raw = toValid 0 raw :=
  unescape_of_not_mem fun member => free ((mem_toValid (by decide)).mp member)

end

/-- A text that can stand between quotes as it is. -/
structure Clean (raw : Bytes) : Prop where
  plain : ∀ b ∈ raw, b ≠ byte '"' ∧ b ≠ byte '\\' ∧ 0x20 ≤ b
  valid : toValid 0 raw = raw

instance (raw : Bytes) : Decidable (Clean raw) :=
  decidable_of_iff ((raw.all fun b => b ≠ byte '"' ∧ b ≠ byte '\\' ∧ 0x20 ≤ b) = true ∧ toValid 0 raw = raw) (by
    simp only [List.all_eq_true, decide_eq_true_eq]
    exact ⟨fun ⟨plain, valid⟩ => ⟨plain, valid⟩, fun ⟨plain, valid⟩ => ⟨plain, valid⟩⟩)

theorem Clean.unquote {raw : Bytes} (clean : Clean raw) : unquote raw = raw := by
  rw [unquote_of_not_mem raw fun member => (clean.plain _ member).2.1 rfl]
  exact clean.valid

theorem toValid_ascii {text : Bytes} (ascii : ∀ b ∈ text, isAscii b = true) : toValid 0 text = text := by
  induction text with
  | nil => rfl
  | cons b rest ih =>
    rw [toValid, if_pos (ascii b (by simp)), ih fun c member => ascii c (by simp [member])]

/-- A character does not reach into an ASCII text. -/
theorem beginsRune_append {tail : Bytes} (ascii : ∀ b ∈ tail, isAscii b = true) (lead : UInt8) (rest : Bytes) :
    beginsRune lead (rest ++ tail) = true ↔ beginsRune lead rest = true := by
  rcases Nat.lt_or_ge rest.length (tailSize lead) with short | long
  · have inner : beginsRune lead rest = false := by
      have cut : ¬ (rest.take (tailSize lead)).length = tailSize lead := by
        rw [List.length_take]
        omega
      simp only [beginsRune, decide_eq_false cut, Bool.and_false, Bool.false_and]
    rw [inner]
    refine ⟨fun begins => ?_, fun impossible => by cases impossible⟩
    simp only [beginsRune, Bool.and_eq_true, decide_eq_true_eq, List.all_eq_true] at begins
    obtain ⟨⟨⟨-, whole⟩, following⟩, -⟩ := begins
    -- the first byte behind `rest` would have to be a continuation
    have member : tail.take (tailSize lead - rest.length) ≠ [] := by
      rintro nothing
      rw [List.take_append, nothing, List.append_nil, List.length_take] at whole
      omega
    obtain ⟨b, inside⟩ := List.exists_mem_of_ne_nil _ member
    have continues := following b (by
      rw [List.take_append]
      exact List.mem_append_right _ inside)
    have plain := ascii b (List.mem_of_mem_take inside)
    simp only [isContinuation, Bool.and_eq_true, decide_eq_true_eq, UInt8.le_iff_toNat_le] at continues
    simp only [isAscii, decide_eq_true_eq, UInt8.lt_iff_toNat_lt] at plain
    have least : (0x80 : UInt8).toNat = 128 := rfl
    omega
  · rw [beginsRune, beginsRune, List.take_append_of_le_length long]

theorem toValid_append {tail : Bytes} (ascii : ∀ b ∈ tail, isAscii b = true) (raw : Bytes) (inside : Nat)
    (enough : inside ≤ raw.length) : toValid inside (raw ++ tail) = toValid inside raw ++ tail := by
  induction raw generalizing inside with
  | nil =>
    obtain rfl : inside = 0 := Nat.le_zero.mp enough
    exact toValid_ascii ascii
  | cons b rest ih =>
    cases inside with
    | succ inside => exact congrArg (b :: ·) (ih inside (by simpa using enough))
    | zero =>
      rw [List.cons_append, toValid, toValid]
      by_cases plain : isAscii b = true
      · rw [if_pos plain, if_pos plain, ih 0 (Nat.zero_le _), List.cons_append]
      rw [if_neg plain, if_neg plain]
      by_cases begins : beginsRune b rest = true
      · have fits : tailSize b ≤ rest.length := by
          simp only [beginsRune, Bool.and_eq_true, decide_eq_true_eq, List.length_take] at begins
          omega
        rw [if_pos begins, if_pos ((beginsRune_append ascii b rest).mpr begins), ih _ fits, List.cons_append]
      · rw [if_neg begins, if_neg fun longer => begins ((beginsRune_append ascii b rest).mp longer),
          ih 0 (Nat.zero_le _), List.append_assoc]

theorem clean_append {tail : Bytes} (plain : ∀ b ∈ tail, b ≠ byte '"' ∧ b ≠ byte '\\' ∧ 0x20 ≤ b)
    (ascii : ∀ b ∈ tail, isAscii b = true) (raw : Bytes) : Clean (raw ++ tail) ↔ Clean raw := by
  have valid := toValid_append ascii raw 0 (Nat.zero_le _)
  constructor
  · rintro ⟨all, same⟩
    refine ⟨fun b member => all b (List.mem_append_left _ member), ?_⟩
    rw [valid] at same
    exact List.append_cancel_right same
  · rintro ⟨all, same⟩
    refine ⟨fun b member => ?_, by rw [valid, same]⟩
    rcases List.mem_append.mp member with left | right
    · exact all b left
    · exact plain b right

namespace Json

/-! Whole texts. -/

/-- The array or object that a text is, with white space behind it at most. -/
def document : Scanner → Bytes → Option Json
  | _, [] => none
  | scanner, c :: rest =>
      match step scanner c with
      | .next scanner => document scanner rest
      | .done value => if rest.all isSpace then some value else none
      | .refused => none

def parse (text : Bytes) : Option Json := document {} text

def Progress.finish (rest : Bytes) : Progress → Option Json
  | .next scanner => document scanner rest
  | .done value => if rest.all isSpace then some value else none
  | .refused => none

theorem document_cons (scanner : Scanner) (c : UInt8) (rest : Bytes) :
    document scanner (c :: rest) = (step scanner c).finish rest := by
  rw [document]
  cases step scanner c <;> rfl

/-- A string up to its closing quote, and what is behind that. -/
def closing : Phase → Bytes → Option (Bytes × Bytes)
  | _, [] => none
  | phase, c :: rest =>
      if phase = .plain ∧ c = byte '"' then some ([], rest)
      else match textPhase c phase with
        | some phase => (closing phase rest).map fun found => (c :: found.1, found.2)
        | none => none

theorem document_text (stack : List Frame) (role : Role) (raw : Bytes) (phase : Phase) (text : Bytes) :
    document ⟨stack, .text role raw phase⟩ text =
      (closing phase text).bind fun found => (endText stack role (raw ++ found.1)).finish found.2 := by
  induction text generalizing raw phase with
  | nil => rfl
  | cons c rest ih =>
    rw [document_cons, closing]
    unfold step readText
    dsimp only
    split
    · simp
    · cases textPhase c phase with
      | none => rfl
      | some next =>
        change document ⟨stack, .text role (raw ++ [c]) next⟩ rest = _
        rw [ih]
        dsimp only
        cases closing next rest with
        | none => rfl
        | some found => simp

/-! A string that was filled in. -/

theorem closing_clean {raw : Bytes} (plain : ∀ b ∈ raw, b ≠ byte '"' ∧ b ≠ byte '\\' ∧ 0x20 ≤ b) (rest : Bytes) :
    closing .plain (raw ++ byte '"' :: rest) = some (raw, rest) := by
  induction raw with
  | nil => simp [closing]
  | cons b raw ih =>
    obtain ⟨quote, backslash, control⟩ := plain b List.mem_cons_self
    have kept : textPhase b .plain = some .plain := by
      simp [textPhase, backslash, UInt8.not_lt.mpr control]
    rw [List.cons_append, closing, if_neg (by simp [quote]), kept]
    simp [ih fun b member => plain b (List.mem_cons_of_mem _ member)]

/-- The string ends inside what was filled in, right behind it, or later. -/
theorem closing_append {phase : Phase} {raw tail read rest : Bytes}
    (found : closing phase (raw ++ byte '"' :: tail) = some (read, rest)) :
    (∃ more, raw = read ++ byte '"' :: more) ∨ read = raw ∨
      ∃ more, read = raw ++ byte '"' :: more ∧ closing .plain tail = some (more, rest) := by
  induction raw generalizing phase read with
  | nil =>
    rw [List.nil_append, closing] at found
    cases phase with
    | plain =>
      obtain ⟨rfl, -⟩ : [] = read ∧ tail = rest := by simpa using found
      exact .inr (.inl rfl)
    | escape =>
      rw [if_neg (by simp), show textPhase (byte '"') .escape = some .plain from rfl, Option.map_eq_some_iff] at found
      obtain ⟨⟨more, behind⟩, closed, same⟩ := found
      obtain ⟨rfl, rfl⟩ := Prod.mk.inj same
      exact .inr (.inr ⟨more, rfl, closed⟩)
    | hex left =>
      rw [if_neg (by simp), show textPhase (byte '"') (.hex left) = none from rfl] at found
      cases found
  | cons b raw ih =>
    rw [List.cons_append, closing] at found
    split at found
    · rename_i quote
      obtain ⟨rfl, -⟩ := Prod.mk.inj (Option.some.inj found)
      exact .inl ⟨raw, by rw [quote.2]; rfl⟩
    · cases next : textPhase b phase with
      | none =>
        rw [next] at found
        cases found
      | some phase' =>
        rw [next, Option.map_eq_some_iff] at found
        obtain ⟨⟨read', behind⟩, closed, same⟩ := found
        obtain ⟨rfl, rfl⟩ := Prod.mk.inj same
        rcases ih closed with ⟨more, rfl⟩ | rfl | ⟨more, rfl, later⟩
        · exact .inl ⟨more, rfl⟩
        · exact .inr (.inl rfl)
        · exact .inr (.inr ⟨more, rfl, later⟩)

theorem plain_of_closing {raw text rest : Bytes} (free : byte '\\' ∉ raw)
    (found : closing .plain (raw ++ text) = some (raw, rest)) : ∀ b ∈ raw, b ≠ byte '"' ∧ b ≠ byte '\\' ∧ 0x20 ≤ b := by
  induction raw with
  | nil => simp
  | cons b raw ih =>
    rw [List.mem_cons, not_or] at free
    rw [List.cons_append, closing] at found
    split at found
    · cases found
    · rename_i other
      have quote : b ≠ byte '"' := fun same => other ⟨rfl, same⟩
      by_cases control : b < 0x20
      · rw [textPhase, if_neg (Ne.symm free.1), if_pos control] at found
        cases found
      · rw [textPhase, if_neg (Ne.symm free.1), if_neg control, Option.map_eq_some_iff] at found
        obtain ⟨⟨read, behind⟩, closed, same⟩ := found
        obtain ⟨shorter, rfl⟩ := Prod.mk.inj same
        obtain rfl : read = raw := (List.cons.inj shorter).2
        rintro c (_ | ⟨_, member⟩)
        · exact ⟨quote, Ne.symm free.1, UInt8.not_lt.mp control⟩
        · exact ih free.2 closed c member

/-- If what is read is what was filled in, then that was clean. A string that goes on behind
the closing quote takes a comma with it. -/
theorem clean_of_closing {raw tail read rest : Bytes}
    (found : closing .plain (raw ++ byte '"' :: tail) = some (read, rest)) (same : unquote read = raw)
    (comma : ∀ more rest, closing .plain tail = some (more, rest) → byte ',' ∈ more) : Clean raw := by
  rcases closing_append found with ⟨more, longer⟩ | rfl | ⟨more, rfl, later⟩
  · have fewer := countP_unquote_le read
    rw [same, longer, List.countP_append, List.countP_cons_of_pos (by decide)] at fewer
    omega
  · have free : byte '\\' ∉ read := by
      intro member
      have fewer := countP_unquote_lt read member
      rw [same] at fewer
      exact Nat.lt_irrefl _ fewer
    rw [unquote_of_not_mem read free] at same
    exact ⟨plain_of_closing free found, same⟩
  · have kept := count_comma_unquote (raw ++ byte '"' :: more)
    have one := List.count_pos_iff.mpr (comma more rest later)
    rw [same, List.count_append, List.count_cons_of_ne (by decide)] at kept
    omega

/-! A member of the outermost object stays in it. -/

def Frame.members : Frame → List (Bytes × Json)
  | .arr _ => []
  | .obj members => members
  | .member members _ => members

/-- The outermost frame has the entry. -/
def Holds (entry : Bytes × Json) (stack : List Frame) : Prop := ∃ frame, stack.getLast? = some frame ∧ entry ∈ frame.members

def Scanner.Keeps (entry : Bytes × Json) (scanner : Scanner) : Prop :=
  Holds entry scanner.stack ∧ ∀ value, scanner.mode ≠ .after value

def Progress.Keeps (entry : Bytes × Json) : Progress → Prop
  | .next scanner => scanner.Keeps entry
  | .done value => ∃ members, value = .obj members ∧ entry ∈ members
  | .refused => True

section
variable {entry : Bytes × Json} {stack : List Frame} {c : UInt8}

theorem Holds.push (holds : Holds entry stack) (frame : Frame) : Holds entry (frame :: stack) := by
  obtain ⟨last, found, member⟩ := holds
  refine ⟨last, ?_, member⟩
  rw [List.getLast?_cons, found]
  rfl

theorem Holds.replace {old : Frame} (holds : Holds entry (old :: stack)) (new : Frame)
    (wider : ∀ e ∈ old.members, e ∈ new.members) : Holds entry (new :: stack) := by
  obtain ⟨last, found, member⟩ := holds
  cases stack with
  | nil =>
    obtain rfl : old = last := by simpa using found
    exact ⟨new, rfl, wider _ member⟩
  | cons frame stack => exact ⟨last, by simpa using found, member⟩

/-- Under the outermost frame there is nothing. -/
theorem Holds.pop {frame : Frame} (holds : Holds entry (frame :: stack)) :
    stack = [] ∧ entry ∈ frame.members ∨ Holds entry stack := by
  obtain ⟨last, found, member⟩ := holds
  cases stack with
  | nil =>
    obtain rfl : frame = last := by simpa using found
    exact .inl ⟨rfl, member⟩
  | cons other stack => exact .inr ⟨last, by simpa using found, member⟩

theorem supply_keeps (holds : Holds entry stack) (value : Json) : (supply stack value).Keeps entry := by
  cases stack with
  | nil =>
    obtain ⟨frame, found, -⟩ := holds
    cases found
  | cons frame stack =>
    cases frame with
    | arr items => exact ⟨holds.replace _ fun e member => member, by simp⟩
    | obj members => exact trivial
    | member members key => exact ⟨holds.replace _ fun e member => List.mem_append_left _ member, by simp⟩

theorem push_keeps (holds : Holds entry stack) (frame : Frame) {mode : Mode} (inside : ∀ value, mode ≠ .after value) :
    (push stack frame mode).Keeps entry := by
  unfold Json.push
  split
  · exact ⟨holds.push frame, inside⟩
  · exact trivial

theorem close_keeps (holds : Holds entry stack) : (close stack).Keeps entry := by
  cases stack with
  | nil => exact trivial
  | cons frame stack =>
    cases frame with
    | arr items =>
      rcases holds.pop with ⟨-, member⟩ | deeper
      · cases member
      · exact supply_keeps deeper _
    | obj members =>
      rcases holds.pop with ⟨rfl, member⟩ | deeper
      · exact ⟨members, rfl, member⟩
      · exact supply_keeps deeper _
    | member members key => exact trivial

theorem beginValue_keeps (holds : Holds entry stack) : (beginValue stack c).Keeps entry := by
  have goes : ∀ mode, (∀ value, mode ≠ .after value) → (Progress.next ⟨stack, mode⟩).Keeps entry :=
    fun mode inside => ⟨holds, inside⟩
  unfold beginValue
  split_ifs
  · exact push_keeps holds _ (by simp)
  · exact push_keeps holds _ (by simp)
  all_goals first
    | exact trivial
    | exact goes _ (by simp)

theorem afterValue_keeps (holds : Holds entry stack) : (afterValue stack c).Keeps entry := by
  have goes : ∀ mode, (∀ value, mode ≠ .after value) → (Progress.next ⟨stack, mode⟩).Keeps entry :=
    fun mode inside => ⟨holds, inside⟩
  unfold afterValue
  split
  · exact goes _ (by simp)
  · split
    all_goals
      first
        | exact trivial
        | split_ifs
          · exact ⟨holds, by simp⟩
          · exact close_keeps holds
          · exact trivial

theorem endText_keeps (holds : Holds entry stack) (role : Role) (raw : Bytes) : (endText stack role raw).Keeps entry := by
  cases role with
  | value => exact supply_keeps holds _
  | key =>
    unfold endText
    dsimp only
    split
    · exact ⟨holds.replace _ fun e member => member, by simp⟩
    · exact trivial

theorem readText_keeps (holds : Holds entry stack) (role : Role) (raw : Bytes) (phase : Phase) :
    (readText stack role raw phase c).Keeps entry := by
  unfold readText
  split
  · exact endText_keeps holds role raw
  · split
    · exact ⟨holds, by simp⟩
    · exact trivial

theorem readNumber_keeps (holds : Holds entry stack) (digits : Digits) (raw : Bytes) :
    (readNumber stack digits raw c).Keeps entry := by
  have supplied := supply_keeps holds (.num raw)
  unfold readNumber
  split
  · exact ⟨holds, by simp⟩
  · exact trivial
  · split
    · rename_i next
      rw [next] at supplied
      exact afterValue_keeps supplied.1
    · rename_i value next
      rw [next] at supplied
      exact absurd rfl (supplied.2 value)
    · exact supplied

theorem readLiteral_keeps (holds : Holds entry stack) (value : Json) (left : Bytes) :
    (readLiteral stack value c left).Keeps entry := by
  cases left with
  | nil => exact trivial
  | cons expected left =>
    rw [readLiteral]
    split_ifs
    · exact supply_keeps holds value
    · exact ⟨holds, by simp⟩
    · exact trivial

end

theorem beginKey_keeps {entry : Bytes × Json} {stack : List Frame} (holds : Holds entry stack) (c : UInt8) :
    (beginKey stack c).Keeps entry := by
  unfold beginKey
  split
  · exact ⟨holds, by simp⟩
  · exact trivial

theorem step_keeps {entry : Bytes × Json} {scanner : Scanner} (keeps : scanner.Keeps entry) (c : UInt8) :
    (step scanner c).Keeps entry := by
  obtain ⟨stack, mode⟩ := scanner
  obtain ⟨holds, inside⟩ := keeps
  cases mode with
  | value =>
    simp only [step]
    split_ifs
    · exact ⟨holds, inside⟩
    · exact beginValue_keeps holds
  | valueOrEnd =>
    simp only [step]
    split_ifs
    · exact ⟨holds, inside⟩
    · exact close_keeps holds
    · exact beginValue_keeps holds
  | keyOrEnd =>
    simp only [step]
    split_ifs
    · exact ⟨holds, inside⟩
    · exact close_keeps holds
    · exact beginKey_keeps holds c
  | key =>
    simp only [step]
    split_ifs
    · exact ⟨holds, inside⟩
    · exact beginKey_keeps holds c
  | colon =>
    simp only [step]
    split_ifs
    · exact ⟨holds, inside⟩
    · exact ⟨holds, by simp⟩
    · exact trivial
  | comma => exact afterValue_keeps holds
  | text role raw phase => exact readText_keeps holds role raw phase
  | number digits raw => exact readNumber_keeps holds digits raw
  | literal left value => exact readLiteral_keeps holds value left
  | after value => exact absurd rfl (inside value)

theorem document_keeps {entry : Bytes × Json} {text : Bytes} {scanner : Scanner} (keeps : scanner.Keeps entry)
    {value : Json} (found : document scanner text = some value) : ∃ members, value = .obj members ∧ entry ∈ members := by
  induction text generalizing scanner with
  | nil => cases found
  | cons c rest ih =>
    rw [document_cons] at found
    have next := step_keeps keeps c
    cases progress : step scanner c with
    | next scanner =>
      rw [progress] at found next
      exact ih next found
    | done value' =>
      rw [progress] at found next
      obtain ⟨-, same⟩ := Option.ite_none_right_eq_some.mp found
      cases same
      exact next
    | refused =>
      rw [progress] at found
      cases found

/-! Templates. -/

/-- What is filled in for a value: a text between quotes, or a word. -/
inductive Slot where
  | text (raw : Bytes)
  | flag (value : Bool)
  | numeral (n : Nat)

namespace Slot

def render : Slot → Bytes
  | text raw => byte '"' :: (raw ++ [byte '"'])
  | flag value => bytesOf (if value then "true" else "false")
  | numeral n => bytesOf (toString n)

def value : Slot → Json
  | text raw => .str raw
  | flag value => .bool value
  | numeral n => .num (bytesOf (toString n))

/-- Only texts can go wrong. -/
def Clean : Slot → Prop
  | text raw => Library.Clean raw
  | flag _ => True
  | numeral _ => True

end Slot

abbrev Template := List (Bytes × Slot)

namespace Template

def renderMember (key : Bytes) (slot : Slot) (rest : Bytes) : Bytes :=
  byte '"' :: (key ++ byte '"' :: byte ':' :: (slot.render ++ rest))

def renderTail : Template → Bytes
  | [] => [0x7D]
  | (key, slot) :: rest => byte ',' :: renderMember key slot (renderTail rest)

def render : Template → Bytes
  | [] => [0x7B, 0x7D]
  | (key, slot) :: rest => 0x7B :: renderMember key slot (renderTail rest)

/-- The members as they were meant. -/
def members (template : Template) : List (Bytes × Json) := template.map fun member => (member.1, member.2.value)

end Template

/-- Behind a value there is a comma or the end of the object. -/
def isSeparator (c : UInt8) : Bool := c = byte ',' || c = 0x7D

section
variable {done : List (Bytes × Json)} {key : Bytes}

theorem document_flag (value : Bool) (rest : Bytes) :
    document ⟨[.member done key], .value⟩ ((Slot.flag value).render ++ rest) =
      document ⟨[.obj (done ++ [(key, .bool value)])], .comma⟩ rest := by
  cases value with
  | true => rfl
  | false => rfl

/-- A digit goes on with the number. -/
theorem document_digit {stack : List Frame} {raw : Bytes} {digit : UInt8} (isDigit : Json.isDigit digit = true)
    (rest : Bytes) : document ⟨stack, .number .whole raw⟩ (digit :: rest) =
      document ⟨stack, .number .whole (raw ++ [digit])⟩ rest := by
  rw [document_cons]
  simp [step, readNumber, numberStep, isDigit, Progress.finish]

theorem isDigit_digitChar {n : Nat} (small : n < 10) : Json.isDigit (byte n.digitChar) = true := by
  interval_cases n <;> decide

theorem bytesOf_digit {n : Nat} (small : n < 10) : bytesOf (toString n) = [byte n.digitChar] := by
  rw [Nat.toString_eq_repr, Nat.repr_of_lt small]
  simp [bytesOf]

theorem bytesOf_digits {n : Nat} (great : 10 ≤ n) :
    bytesOf (toString n) = bytesOf (toString (n / 10)) ++ [byte (n % 10).digitChar] := by
  rw [Nat.toString_eq_repr, Nat.repr_of_ge great, bytesOf_append, ← Nat.toString_eq_repr]
  simp [bytesOf]

theorem isDigit_bytes (n : Nat) : ∀ b ∈ bytesOf (toString n), isDigit b = true := by
  induction n using Nat.strong_induction_on with
  | _ n ih =>
    by_cases small : n < 10
    · rw [bytesOf_digit small]
      intro b member
      rw [List.mem_singleton.mp member]
      exact isDigit_digitChar small
    · have great : 10 ≤ n := Nat.not_lt.mp small
      rw [bytesOf_digits great]
      intro b member
      rcases List.mem_append.mp member with higher | last
      · exact ih (n / 10) (by omega) b higher
      · rw [List.mem_singleton.mp last]
        exact isDigit_digitChar (Nat.mod_lt _ (by decide))

theorem toNat_digitChar {n : Nat} (small : n < 10) : (byte n.digitChar).toNat - '0'.toNat = n := by
  interval_cases n <;> rfl

theorem foldl_digits (n : Nat) :
    (bytesOf (toString n)).foldl (fun value digit => value * 10 + (digit.toNat - '0'.toNat)) 0 = n := by
  induction n using Nat.strong_induction_on with
  | _ n ih =>
    by_cases small : n < 10
    · rw [bytesOf_digit small, List.foldl_cons, List.foldl_nil, toNat_digitChar small]
      omega
    · have great : 10 ≤ n := Nat.not_lt.mp small
      rw [bytesOf_digits great, List.foldl_append, ih (n / 10) (by omega), List.foldl_cons, List.foldl_nil,
        toNat_digitChar (Nat.mod_lt _ (by decide))]
      omega

theorem bytesOf_toString_ne_nil (n : Nat) : bytesOf (toString n) ≠ [] := by
  by_cases small : n < 10
  · rw [bytesOf_digit small]
    exact List.cons_ne_nil _ _
  · rw [bytesOf_digits (Nat.not_lt.mp small)]
    exact List.append_ne_nil_of_right_ne_nil _ (List.cons_ne_nil _ _)

/-- A number is read as it was written. -/
theorem decimal_toString (n : Nat) : decimal (bytesOf (toString n)) = some n := by
  unfold decimal
  rw [if_pos ⟨bytesOf_toString_ne_nil n, List.all_eq_true.mpr (isDigit_bytes n)⟩, foldl_digits]

/-- A numeral has no leading zeros and is read as a whole. -/
theorem document_whole {stack : List Frame} (n : Nat) (positive : 0 < n) (rest : Bytes) :
    document ⟨stack, .value⟩ (bytesOf (toString n) ++ rest) =
      document ⟨stack, .number .whole (bytesOf (toString n))⟩ rest := by
  induction n using Nat.strong_induction_on generalizing rest with
  | _ n ih =>
    by_cases small : n < 10
    · rw [bytesOf_digit small]
      interval_cases n <;> rfl
    · have great : 10 ≤ n := Nat.not_lt.mp small
      have last : n % 10 < 10 := Nat.mod_lt _ (by decide)
      rw [bytesOf_digits great, List.append_assoc,
        ih (n / 10) (Nat.div_lt_self positive (by decide)) (Nat.div_pos great (by decide))]
      exact document_digit (isDigit_digitChar last) rest

/-- The separator ends the number, and is then read once more. -/
theorem document_number {digits : Digits} (finished : digits = .zero ∨ digits = .whole) {c : UInt8}
    (separator : isSeparator c = true) (raw rest : Bytes) :
    document ⟨[.member done key], .number digits raw⟩ (c :: rest) =
      document ⟨[.obj (done ++ [(key, .num raw)])], .comma⟩ (c :: rest) := by
  have ended : numberStep c digits = .ended := by
    have comma : c = byte ',' ∨ c = 0x7D := by simpa [isSeparator] using separator
    rcases finished with rfl | rfl <;> rcases comma with rfl | rfl <;> rfl
  rw [document_cons, document_cons]
  unfold step readNumber
  dsimp only
  rw [ended]
  rfl

theorem document_numeral {c : UInt8} (separator : isSeparator c = true) (n : Nat) (rest : Bytes) :
    document ⟨[.member done key], .value⟩ ((Slot.numeral n).render ++ c :: rest) =
      document ⟨[.obj (done ++ [(key, (Slot.numeral n).value)])], .comma⟩ (c :: rest) := by
  rcases Nat.eq_zero_or_pos n with rfl | positive
  · exact document_number (.inl rfl) separator _ rest
  · rw [Slot.render, document_whole n positive]
    exact document_number (.inr rfl) separator _ rest

theorem document_quoted (raw rest : Bytes) :
    document ⟨[.member done key], .value⟩ ((Slot.text raw).render ++ rest) =
      (closing .plain (raw ++ byte '"' :: rest)).bind fun found =>
        document ⟨[.obj (done ++ [(key, .str (unquote found.1))])], .comma⟩ found.2 := by
  have opened : document ⟨[.member done key], .value⟩ ((Slot.text raw).render ++ rest) =
      document ⟨[.member done key], .text .value [] .plain⟩ (raw ++ byte '"' :: rest) := by
    rw [Slot.render, List.cons_append, List.append_assoc, document_cons]
    rfl
  rw [opened, document_text]
  rfl

/-- A key with its colon. -/
theorem document_key {mode : Mode} (opening : mode = .key ∨ mode = .keyOrEnd) (clean : Clean key) (rest : Bytes) :
    document ⟨[.obj done], mode⟩ (byte '"' :: (key ++ byte '"' :: byte ':' :: rest)) =
      document ⟨[.member done key], .value⟩ rest := by
  have opened : document ⟨[.obj done], mode⟩ (byte '"' :: (key ++ byte '"' :: byte ':' :: rest)) =
      document ⟨[.obj done], .text .key [] .plain⟩ (key ++ byte '"' :: byte ':' :: rest) := by
    rw [document_cons]
    rcases opening with rfl | rfl <;> rfl
  rw [opened, document_text, closing_clean clean.plain]
  change document ⟨[.member done (unquote key)], .colon⟩ (byte ':' :: rest) = _
  rw [clean.unquote]
  rfl

theorem renderTail_cons (template : Template) : ∃ c rest, template.renderTail = c :: rest ∧ isSeparator c = true := by
  cases template with
  | nil => exact ⟨_, _, rfl, rfl⟩
  | cons member rest => exact ⟨_, _, rfl, rfl⟩

/-- The next quote behind a value opens a key, with a comma before it. -/
theorem comma_of_closing (template : Template) (more rest : Bytes)
    (found : closing .plain template.renderTail = some (more, rest)) : byte ',' ∈ more := by
  cases template with
  | nil => cases found
  | cons member template =>
    obtain ⟨same, -⟩ := Prod.mk.inj (Option.some.inj found)
    rw [← same]
    exact List.mem_cons_self

theorem document_renderTail (clean : Clean key) (slot : Slot) (template : Template) :
    document ⟨[.obj done], .comma⟩ (Template.renderTail ((key, slot) :: template)) =
      document ⟨[.member done key], .value⟩ (slot.render ++ template.renderTail) :=
  document_key (.inl rfl) clean _

/-- Words are always read as they are meant. -/
theorem document_slot {slot : Slot} (clean : slot.Clean) (template : Template) :
    document ⟨[.member done key], .value⟩ (slot.render ++ template.renderTail) =
      document ⟨[.obj (done ++ [(key, slot.value)])], .comma⟩ template.renderTail := by
  cases slot with
  | text raw =>
    rw [document_quoted, closing_clean clean.plain]
    change document ⟨[.obj (done ++ [(key, .str (unquote raw))])], .comma⟩ _ = _
    rw [clean.unquote]
    rfl
  | flag value => exact document_flag value _
  | numeral n =>
    obtain ⟨c, rest, written, separator⟩ := renderTail_cons template
    rw [written]
    exact document_numeral separator n rest

theorem document_clean (template : Template) (keys : ∀ member ∈ template, Clean member.1)
    (clean : ∀ member ∈ template, member.2.Clean) (done : List (Bytes × Json)) :
    document ⟨[.obj done], .comma⟩ template.renderTail = some (.obj (done ++ template.members)) := by
  induction template generalizing done with
  | nil => simp [Template.members, Template.renderTail]; rfl
  | cons member template ih =>
    rw [List.forall_mem_cons] at keys clean
    obtain ⟨key, slot⟩ := member
    rw [document_renderTail keys.1, document_slot clean.1, ih keys.2 clean.2]
    simp [Template.members]

/-- If the members are read as they are meant, then the texts are clean. -/
theorem clean_of_document (template : Template) (keys : ∀ member ∈ template, Clean member.1)
    {done read : List (Bytes × Json)} (found : document ⟨[.obj done], .comma⟩ template.renderTail = some (.obj read))
    (meant : ∀ member ∈ template, ∀ value, (member.1, value) ∈ read → value = member.2.value) :
    ∀ member ∈ template, member.2.Clean := by
  induction template generalizing done with
  | nil => simp
  | cons member template ih =>
    rw [List.forall_mem_cons] at keys meant ⊢
    obtain ⟨key, slot⟩ := member
    rw [document_renderTail keys.1] at found
    have clean : slot.Clean := by
      cases slot with
      | text raw =>
        rw [document_quoted, Option.bind_eq_some_iff] at found
        obtain ⟨⟨text, rest⟩, closed, behind⟩ := found
        have entered : Scanner.Keeps (key, .str (unquote text)) ⟨[.obj (done ++ [(key, .str (unquote text))])], .comma⟩ :=
          ⟨⟨_, rfl, List.mem_append_right _ (List.mem_singleton.mpr rfl)⟩, by simp⟩
        obtain ⟨_, same, member⟩ := document_keeps entered behind
        cases same
        obtain same : unquote text = raw := by simpa [Slot.value] using meant.1 _ member
        exact clean_of_closing closed same (comma_of_closing template)
      | flag value => exact trivial
      | numeral n => exact trivial
    rw [document_slot clean] at found
    exact ⟨clean, ih keys.2 found meant.2⟩

end

theorem parse_render {template : Template} (filled : template ≠ []) (keys : ∀ member ∈ template, Clean member.1) :
    parse template.render = document ⟨[.obj []], .comma⟩ template.renderTail := by
  cases template with
  | nil => exact absurd rfl filled
  | cons member template =>
    obtain ⟨key, slot⟩ := member
    have clean := keys _ List.mem_cons_self
    rw [document_renderTail clean]
    exact document_key (.inr rfl) clean _

/-- A filled in template is an object with the members that were meant just if the texts are
clean. -/
theorem parse_render_iff {template : Template} (filled : template ≠ []) (keys : ∀ member ∈ template, Clean member.1)
    (nodup : (template.map Prod.fst).Nodup) :
    (∃ members, parse template.render = .some (.obj members) ∧ members.Perm template.members) ↔
      ∀ member ∈ template, member.2.Clean := by
  rw [parse_render filled keys]
  constructor
  · rintro ⟨read, found, same⟩
    refine clean_of_document template keys found fun member listed value inside => ?_
    have meant := same.mem_iff.mp inside
    obtain ⟨other, listed', pair⟩ := List.mem_map.mp meant
    obtain ⟨samekey, rfl⟩ := Prod.mk.inj pair
    rw [List.inj_on_of_nodup_map nodup listed' listed samekey]
  · intro clean
    exact ⟨_, document_clean template keys clean [], List.Perm.refl _⟩

end Json

end Aegis.Library
