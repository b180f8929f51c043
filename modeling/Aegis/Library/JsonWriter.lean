import Aegis.Library.JsonEncoder

/-! JSON values as they are written.

A reader gets back the value with its texts made valid, whatever is around it. Of a text that
is cut off it says that there is more to come.
-/

set_option autoImplicit false

namespace Aegis.Library

namespace Json

/-! Numbers of any form. -/

def firstDigits (c : UInt8) : Option Digits :=
  if c = byte '-' then some .sign
  else if c = byte '0' then some .zero
  else if isDigit c then some .whole
  else none

/-- How far a number has come after some more bytes of it. -/
def advance (digits : Digits) : Bytes → Option Digits
  | [] => some digits
  | c :: rest =>
      match numberStep c digits with
      | .more digits => advance digits rest
      | .ended | .refused => none

def Digits.finished : Digits → Bool
  | .zero | .whole | .fraction | .exponentDigits => true
  | .sign | .point | .exponent | .exponentSign => false

def isNumber : Bytes → Bool
  | [] => false
  | c :: rest => ((firstDigits c).bind fun digits => advance digits rest).any Digits.finished

theorem advance_append (digits : Digits) (text rest : Bytes) :
    advance digits (text ++ rest) = (advance digits text).bind fun digits => advance digits rest := by
  induction text generalizing digits with
  | nil => rfl
  | cons c text ih =>
    rw [List.cons_append, advance, advance]
    cases numberStep c digits with
    | more next => exact ih next
    | ended => rfl
    | refused => rfl

theorem document_advance {stack : List Frame} {digits last : Digits} {text : Bytes}
    (goes : advance digits text = some last) (raw rest : Bytes) :
    document ⟨stack, .number digits raw⟩ (text ++ rest) = document ⟨stack, .number last (raw ++ text)⟩ rest := by
  induction text generalizing digits raw with
  | nil =>
    cases goes
    simp
  | cons c text ih =>
    rw [advance] at goes
    cases one : numberStep c digits with
    | more next =>
      rw [one] at goes
      have stepped : step ⟨stack, .number digits raw⟩ c = .next ⟨stack, .number next (raw ++ [c])⟩ := by
        unfold step readNumber
        dsimp only
        rw [one]
      rw [List.cons_append, document_cons, stepped]
      change document ⟨stack, .number next (raw ++ [c])⟩ (text ++ rest) = _
      rw [ih goes, List.append_assoc]
      rfl
    | ended =>
      rw [one] at goes
      cases goes
    | refused =>
      rw [one] at goes
      cases goes

/-- What can stand behind a value inside an array or object. -/
def isEnd (c : UInt8) : Bool := c = byte ',' || c = byte ']' || c = 0x7D

theorem numberStep_end {digits : Digits} (finished : digits.finished = true) {c : UInt8} (ends : isEnd c = true) :
    numberStep c digits = .ended := by
  have listed : (c = byte ',' ∨ c = byte ']') ∨ c = 0x7D := by simpa [isEnd] using ends
  rcases listed with (rfl | rfl) | rfl <;> cases digits <;> first | rfl | cases finished

theorem firstDigits_eq_some {c : UInt8} {digits : Digits} (first : firstDigits c = some digits) :
    (c = byte '-' ∧ digits = .sign) ∨ (c = byte '0' ∧ digits = .zero) ∨
      (c ≠ byte '-' ∧ c ≠ byte '0' ∧ isDigit c = true ∧ digits = .whole) := by
  unfold firstDigits at first
  split at first
  · exact .inl ⟨‹_›, (Option.some.inj first).symm⟩
  · split at first
    · exact .inr (.inl ⟨‹_›, (Option.some.inj first).symm⟩)
    · split at first
      · exact .inr (.inr ⟨‹_›, ‹_›, ‹_›, (Option.some.inj first).symm⟩)
      · cases first

/-- The first byte of a number begins nothing else. -/
theorem other_of_firstDigits {c : UInt8} {digits : Digits} (first : firstDigits c = some digits) :
    isSpace c = false ∧ c ≠ 0x7B ∧ c ≠ byte '[' ∧ c ≠ byte '"' ∧ c ≠ byte ']' ∧ 0x20 ≤ c := by
  rcases firstDigits_eq_some first with ⟨rfl, -⟩ | ⟨rfl, -⟩ | ⟨-, -, digit, -⟩
  · decide
  · decide
  · simp only [isSpace, Bool.or_eq_false_iff, decide_eq_false_iff_not, and_assoc]
    have bounds := digit
    simp only [isDigit, Bool.and_eq_true, decide_eq_true_eq] at bounds
    refine ⟨?_, ?_, ?_, ?_, ?_, ?_, ?_, ?_, UInt8.le_trans (by decide) bounds.1⟩ <;> rintro rfl <;>
      exact absurd digit (by decide)

theorem step_firstDigits {stack : List Frame} {c : UInt8} {digits : Digits}
    (first : firstDigits c = some digits) : step ⟨stack, .value⟩ c = .next ⟨stack, .number digits [c]⟩ := by
  obtain ⟨space, brace, bracket, quote, -⟩ := other_of_firstDigits first
  have begins : step ⟨stack, .value⟩ c = beginValue stack c := if_neg (by simp [space])
  rw [begins, beginValue, if_neg brace, if_neg bracket, if_neg quote]
  rcases firstDigits_eq_some first with ⟨rfl, rfl⟩ | ⟨rfl, rfl⟩ | ⟨minus, zero, digit, rfl⟩
  · rfl
  · rfl
  · rw [if_neg minus, if_neg zero, if_pos digit]

/-- A number is complete at the byte behind it, which is then read once more. -/
theorem document_isNumber {stack : List Frame} (inside : stack ≠ []) {text : Bytes} (number : isNumber text = true)
    {c : UInt8} (ends : isEnd c = true) (rest : Bytes) :
    document ⟨stack, .value⟩ (text ++ c :: rest) = (supply stack (.num text)).finish (c :: rest) := by
  cases text with
  | nil => cases number
  | cons b text =>
    simp only [isNumber, Option.any_eq_true, Option.bind_eq_some_iff] at number
    obtain ⟨last, ⟨digits, first, goes⟩, finished⟩ := number
    rw [List.cons_append, document_cons, step_firstDigits first]
    change document ⟨stack, .number digits [b]⟩ (text ++ c :: rest) = _
    rw [document_advance goes, document_cons]
    unfold step readNumber
    dsimp only
    rw [numberStep_end finished ends]
    cases stack with
    | nil => exact absurd rfl inside
    | cons frame stack =>
      cases frame with
      | arr items => exact (document_cons ⟨.arr (items ++ [.num (b :: text)]) :: stack, .comma⟩ c rest).symm
      | obj members => rfl
      | member members key =>
        exact (document_cons ⟨.obj (members ++ [(key, .num (b :: text))]) :: stack, .comma⟩ c rest).symm

/-! The numeral of an integer is such a number. -/

theorem advance_digits {n : Nat} (positive : 0 < n) :
    ∃ c rest, bytesOf (toString n) = c :: rest ∧ firstDigits c = some .whole ∧
      numberStep c .sign = .more .whole ∧ advance .whole rest = some .whole := by
  induction n using Nat.strong_induction_on with
  | _ n ih =>
    by_cases small : n < 10
    · rw [bytesOf_digit small]
      refine ⟨_, [], rfl, ?_⟩
      interval_cases n <;> exact ⟨rfl, rfl, rfl⟩
    · have great : 10 ≤ n := Nat.not_lt.mp small
      have last : n % 10 < 10 := Nat.mod_lt _ (by decide)
      obtain ⟨c, rest, written, first, sign, goes⟩ :=
        ih (n / 10) (Nat.div_lt_self positive (by decide)) (Nat.div_pos great (by decide))
      refine ⟨c, rest ++ [byte (n % 10).digitChar], ?_, first, sign, ?_⟩
      · rw [bytesOf_digits great, written]
        rfl
      · rw [advance_append, goes]
        simp [advance, numberStep, isDigit_digitChar last]

theorem isNumber_int (n : Int) : isNumber (bytesOf (toString n)) = true := by
  cases n with
  | ofNat n =>
    rcases Nat.eq_zero_or_pos n with rfl | positive
    · decide
    · obtain ⟨c, rest, written, first, -, goes⟩ := advance_digits positive
      rw [show toString (Int.ofNat n) = toString n from rfl, written]
      simp [isNumber, first, goes, Digits.finished]
  | negSucc n =>
    obtain ⟨c, rest, written, -, sign, goes⟩ := advance_digits (Nat.succ_pos n)
    rw [show toString (Int.negSucc n) = "-" ++ toString (n + 1) from rfl, bytesOf_append, written]
    change ((firstDigits (byte '-')).bind fun digits => advance digits (c :: rest)).any Digits.finished = true
    rw [show firstDigits (byte '-') = some .sign from rfl, Option.bind_some, advance, sign]
    simp [goes, Digits.finished]

/-! Values. -/

mutual

def write : Json → Bytes
  | .null => bytesOf "null"
  | .bool value => bytesOf (if value then "true" else "false")
  | .num text => text
  | .str text => byte '"' :: (escapeText 0 0 text ++ [byte '"'])
  | .arr [] => [byte '[', byte ']']
  | .arr (item :: items) => byte '[' :: (write item ++ writeItems items)
  | .obj [] => [0x7B, 0x7D]
  | .obj ((key, value) :: members) =>
      0x7B :: byte '"' :: (escapeText 0 0 key ++ byte '"' :: byte ':' :: (write value ++ writeMembers members))

/-- The items that come after another one, and the bracket. -/
def writeItems : List Json → Bytes
  | [] => [byte ']']
  | item :: items => byte ',' :: (write item ++ writeItems items)

def writeMembers : List (Bytes × Json) → Bytes
  | [] => [0x7D]
  | (key, value) :: members =>
      byte ',' :: byte '"' :: (escapeText 0 0 key ++ byte '"' :: byte ':' :: (write value ++ writeMembers members))

end

mutual

/-- Every text of the value made valid. -/
def valid : Json → Json
  | .null => .null
  | .bool value => .bool value
  | .num text => .num text
  | .str text => .str (toValid 0 text)
  | .arr items => .arr (validItems items)
  | .obj members => .obj (validMembers members)

def validItems : List Json → List Json
  | [] => []
  | item :: items => valid item :: validItems items

def validMembers : List (Bytes × Json) → List (Bytes × Json)
  | [] => []
  | (key, value) :: members => (toValid 0 key, valid value) :: validMembers members

end

mutual

/-- Numbers are numbers, and there are at most `room` brackets inside one another. -/
def Sound : (room : Nat) → Json → Prop
  | _, .null | _, .bool _ | _, .str _ => True
  | _, .num text => isNumber text = true
  | 0, .arr _ | 0, .obj _ => False
  | room + 1, .arr items => SoundItems room items
  | room + 1, .obj members => SoundMembers room members

def SoundItems (room : Nat) : List Json → Prop
  | [] => True
  | item :: items => Sound room item ∧ SoundItems room items

def SoundMembers (room : Nat) : List (Bytes × Json) → Prop
  | [] => True
  | (_, value) :: members => Sound room value ∧ SoundMembers room members

end

/-! What is read. -/

theorem document_str (stack : List Frame) (text tail : Bytes) :
    document ⟨stack, .value⟩ (write (.str text) ++ tail) = (supply stack (.str (toValid 0 text))).finish tail := by
  have opened : document ⟨stack, .value⟩ (write (.str text) ++ tail) =
      document ⟨stack, .text .value [] .plain⟩ (escapeText 0 0 text ++ byte '"' :: tail) := by
    rw [write, List.cons_append, List.append_assoc, document_cons]
    rfl
  rw [opened, document_text, closing_escapeText, ← unquote_escapeText]
  rfl

/-- A key with its quotes and its colon. -/
theorem document_escaped {mode : Mode} (opening : mode = .key ∨ mode = .keyOrEnd) (done : List (Bytes × Json))
    (stack : List Frame) (key rest : Bytes) :
    document ⟨.obj done :: stack, mode⟩ (byte '"' :: (escapeText 0 0 key ++ byte '"' :: byte ':' :: rest)) =
      document ⟨.member done (toValid 0 key) :: stack, .value⟩ rest := by
  have opened : document ⟨.obj done :: stack, mode⟩ (byte '"' :: (escapeText 0 0 key ++ byte '"' :: byte ':' :: rest)) =
      document ⟨.obj done :: stack, .text .key [] .plain⟩ (escapeText 0 0 key ++ byte '"' :: byte ':' :: rest) := by
    rw [document_cons]
    rcases opening with rfl | rfl <;> rfl
  rw [opened, document_text, closing_escapeText, ← unquote_escapeText]
  rfl

theorem document_literal (stack : List Frame) (value : Json) {left : Bytes} (filled : left ≠ []) (tail : Bytes) :
    document ⟨stack, .literal left value⟩ (left ++ tail) = (supply stack value).finish tail := by
  induction left with
  | nil => exact absurd rfl filled
  | cons c left ih =>
    rw [List.cons_append, document_cons]
    unfold step readLiteral
    dsimp only
    rw [if_pos rfl]
    split
    · rename_i last
      rw [last]
      rfl
    · rename_i more
      exact ih more

theorem document_bool (stack : List Frame) (value : Bool) (tail : Bytes) :
    document ⟨stack, .value⟩ (write (.bool value) ++ tail) = (supply stack (.bool value)).finish tail := by
  cases value with
  | true => exact document_literal stack (.bool true) (show bytesOf "rue" ≠ [] by decide) tail
  | false => exact document_literal stack (.bool false) (show bytesOf "alse" ≠ [] by decide) tail

/-- A value begins neither with white space nor with a closing bracket. -/
theorem write_cons {room : Nat} {value : Json} (sound : Sound room value) :
    ∃ c rest, write value = c :: rest ∧ isSpace c = false ∧ c ≠ byte ']' := by
  cases value with
  | null => exact ⟨_, _, rfl, by decide, by decide⟩
  | bool value => cases value <;> exact ⟨_, _, rfl, by decide, by decide⟩
  | num text =>
    cases text with
    | nil => simp [Sound, isNumber] at sound
    | cons c text =>
      simp only [Sound, isNumber, Option.any_eq_true, Option.bind_eq_some_iff] at sound
      obtain ⟨_, ⟨digits, first, -⟩, -⟩ := sound
      obtain ⟨space, -, -, -, bracket, -⟩ := other_of_firstDigits first
      exact ⟨c, text, rfl, space, bracket⟩
  | str text => exact ⟨_, _, rfl, by decide, by decide⟩
  | arr items => cases items <;> exact ⟨_, _, by rw [write], by decide, by decide⟩
  | obj members => cases members <;> exact ⟨_, _, by rw [write], by decide, by decide⟩

/-- A first item may be there or not. -/
theorem document_valueOrEnd {room : Nat} {value : Json} (sound : Sound room value) (stack : List Frame) (tail : Bytes) :
    document ⟨stack, .valueOrEnd⟩ (write value ++ tail) = document ⟨stack, .value⟩ (write value ++ tail) := by
  obtain ⟨c, rest, written, space, bracket⟩ := write_cons sound
  rw [written, List.cons_append, document_cons, document_cons]
  unfold step
  dsimp only
  rw [if_neg (by simp [space]), if_neg bracket, if_neg (by simp [space])]

/-- A number shows its end only at the byte behind it. -/
def Followed (value : Json) (stack : List Frame) (tail : Bytes) : Prop :=
  ∀ text, value = .num text → stack ≠ [] ∧ ∃ c rest, tail = c :: rest ∧ isEnd c = true

theorem followed_items (value : Json) (frame : Frame) (stack : List Frame) (items : List Json) (tail : Bytes) :
    Followed value (frame :: stack) (writeItems items ++ tail) := by
  refine fun text _ => ⟨List.cons_ne_nil _ _, ?_⟩
  cases items with
  | nil => exact ⟨_, _, by rw [writeItems]; rfl, rfl⟩
  | cons item items => exact ⟨_, _, by rw [writeItems]; rfl, rfl⟩

theorem followed_members (value : Json) (frame : Frame) (stack : List Frame) (members : List (Bytes × Json))
    (tail : Bytes) : Followed value (frame :: stack) (writeMembers members ++ tail) := by
  refine fun text _ => ⟨List.cons_ne_nil _ _, ?_⟩
  cases members with
  | nil => exact ⟨_, _, by rw [writeMembers]; rfl, rfl⟩
  | cons member members => exact ⟨_, _, by rw [writeMembers]; rfl, rfl⟩

mutual

/-- A value is read as it was written, and supplied to what it is in. -/
theorem document_write (room : Nat) (value : Json) (sound : Sound room value) (stack : List Frame)
    (fits : stack.length + room ≤ maxDepth) (tail : Bytes) (followed : Followed value stack tail) :
    document ⟨stack, .value⟩ (write value ++ tail) = (supply stack (valid value)).finish tail := by
  cases value with
  | null => exact document_literal stack .null (show bytesOf "ull" ≠ [] by decide) tail
  | bool value => exact document_bool stack value tail
  | num text =>
    obtain ⟨inside, c, rest, rfl, ends⟩ := followed text rfl
    have number : isNumber text = true := by simpa [Sound] using sound
    exact document_isNumber inside number ends rest
  | str text => exact document_str stack text tail
  | arr items =>
    cases room with
    | zero => simp [Sound] at sound
    | succ room =>
      have pushed : push stack (.arr []) .valueOrEnd = .next ⟨.arr [] :: stack, .valueOrEnd⟩ := if_pos (by omega)
      have opened (rest : Bytes) : document ⟨stack, .value⟩ (byte '[' :: rest) =
          document ⟨.arr [] :: stack, .valueOrEnd⟩ rest := by
        rw [document_cons]
        exact congrArg (Progress.finish rest) pushed
      cases items with
      | nil =>
        change document ⟨stack, .value⟩ (byte '[' :: byte ']' :: tail) = _
        rw [opened, document_cons]
        rfl
      | cons item items =>
        have both : Sound room item ∧ SoundItems room items := by simpa [Sound, SoundItems] using sound
        rw [write, List.cons_append, List.append_assoc, opened, document_valueOrEnd both.1,
          document_write room item both.1 _ (by simp; omega) _ (followed_items _ _ _ _ _)]
        change document ⟨.arr [valid item] :: stack, .comma⟩ _ = _
        rw [document_writeItems room items both.2 _ _ (by omega)]
        rfl
  | obj members =>
    cases room with
    | zero => simp [Sound] at sound
    | succ room =>
      have pushed : push stack (.obj []) .keyOrEnd = .next ⟨.obj [] :: stack, .keyOrEnd⟩ := if_pos (by omega)
      have opened (rest : Bytes) : document ⟨stack, .value⟩ (0x7B :: rest) =
          document ⟨.obj [] :: stack, .keyOrEnd⟩ rest := by
        rw [document_cons]
        exact congrArg (Progress.finish rest) pushed
      cases members with
      | nil =>
        change document ⟨stack, .value⟩ (0x7B :: 0x7D :: tail) = _
        rw [opened, document_cons]
        rfl
      | cons member members =>
        obtain ⟨key, value⟩ := member
        have both : Sound room value ∧ SoundMembers room members := by simpa [Sound, SoundMembers] using sound
        have grouped : write (.obj ((key, value) :: members)) ++ tail = 0x7B :: byte '"' ::
            (escapeText 0 0 key ++ byte '"' :: byte ':' :: (write value ++ (writeMembers members ++ tail))) := by
          simp [write]
        rw [grouped, opened, document_escaped (.inr rfl),
          document_write room value both.1 _ (by simp; omega) _ (followed_members _ _ _ _ _)]
        change document ⟨.obj [(toValid 0 key, valid value)] :: stack, .comma⟩ _ = _
        rw [document_writeMembers room members both.2 _ _ (by omega)]
        rfl

theorem document_writeItems (room : Nat) (items : List Json) (sound : SoundItems room items) (done : List Json)
    (stack : List Frame) (fits : stack.length + 1 + room ≤ maxDepth) (tail : Bytes) :
    document ⟨.arr done :: stack, .comma⟩ (writeItems items ++ tail) =
      (supply stack (.arr (done ++ validItems items))).finish tail := by
  cases items with
  | nil =>
    rw [validItems, List.append_nil]
    exact document_cons ⟨.arr done :: stack, .comma⟩ (byte ']') tail
  | cons item items =>
    have both : Sound room item ∧ SoundItems room items := by simpa [SoundItems] using sound
    have comma : document ⟨.arr done :: stack, .comma⟩ (writeItems (item :: items) ++ tail) =
        document ⟨.arr done :: stack, .value⟩ (write item ++ (writeItems items ++ tail)) := by
      rw [writeItems, List.cons_append, List.append_assoc, document_cons]
      rfl
    rw [comma, document_write room item both.1 _ (by simp; omega) _ (followed_items _ _ _ _ _)]
    change document ⟨.arr (done ++ [valid item]) :: stack, .comma⟩ _ = _
    rw [document_writeItems room items both.2 _ _ fits, validItems, List.append_assoc]
    rfl

theorem document_writeMembers (room : Nat) (members : List (Bytes × Json)) (sound : SoundMembers room members)
    (done : List (Bytes × Json)) (stack : List Frame) (fits : stack.length + 1 + room ≤ maxDepth) (tail : Bytes) :
    document ⟨.obj done :: stack, .comma⟩ (writeMembers members ++ tail) =
      (supply stack (.obj (done ++ validMembers members))).finish tail := by
  cases members with
  | nil =>
    rw [validMembers, List.append_nil]
    exact document_cons ⟨.obj done :: stack, .comma⟩ 0x7D tail
  | cons member members =>
    obtain ⟨key, value⟩ := member
    have both : Sound room value ∧ SoundMembers room members := by simpa [SoundMembers] using sound
    have grouped : writeMembers ((key, value) :: members) ++ tail = byte ',' :: byte '"' ::
        (escapeText 0 0 key ++ byte '"' :: byte ':' :: (write value ++ (writeMembers members ++ tail))) := by
      simp [writeMembers]
    have comma (rest : Bytes) : document ⟨.obj done :: stack, .comma⟩ (byte ',' :: rest) =
        document ⟨.obj done :: stack, .key⟩ rest := by
      rw [document_cons]
      rfl
    rw [grouped, comma, document_escaped (.inl rfl),
      document_write room value both.1 _ (by simp; omega) _ (followed_members _ _ _ _ _)]
    change document ⟨.obj (done ++ [(toValid 0 key, valid value)]) :: stack, .comma⟩ _ = _
    rw [document_writeMembers room members both.2 _ _ fits, validMembers, List.append_assoc]
    rfl

end

theorem parse_write {room : Nat} {members : List (Bytes × Json)} (sound : SoundMembers room members)
    (fits : room < maxDepth) {space : Bytes} (blank : space.all isSpace = true) :
    parse (write (.obj members) ++ space) = some (.obj (validMembers members)) := by
  have inside : Sound (room + 1) (.obj members) := by simpa [Sound] using sound
  rw [parse, document_write (room + 1) _ inside [] (by simpa using Nat.succ_le_of_lt fits) _ nofun]
  exact if_pos blank

/-! What is written has no control characters. -/

theorem visible_of_more {c : UInt8} {digits next : Digits} (more : numberStep c digits = .more next) : 0x20 ≤ c := by
  by_contra control
  have low : c < 0x20 := UInt8.not_le.mp control
  have other {d : UInt8} (high : 0x20 ≤ d) : c ≠ d := by
    rintro rfl
    exact control high
  have digit : isDigit c = false := by
    simp only [isDigit, Bool.and_eq_false_iff, decide_eq_false_iff_not]
    exact .inl (UInt8.not_le.mpr (UInt8.lt_of_lt_of_le low (by decide)))
  have ended : afterInteger c = .ended := by
    rw [afterInteger, if_neg (other (by decide)), if_neg (not_or.mpr ⟨other (by decide), other (by decide)⟩)]
  cases digits <;> simp [numberStep, digit, ended, other (show 0x20 ≤ byte '0' by decide),
    other (show 0x20 ≤ byte 'e' by decide), other (show 0x20 ≤ byte 'E' by decide),
    other (show 0x20 ≤ byte '+' by decide), other (show 0x20 ≤ byte '-' by decide)] at more

theorem visible_of_advance {digits last : Digits} {text : Bytes} (goes : advance digits text = some last) :
    ∀ b ∈ text, 0x20 ≤ b := by
  induction text generalizing digits with
  | nil => simp
  | cons c text ih =>
    rw [advance] at goes
    cases one : numberStep c digits with
    | more next =>
      rw [one] at goes
      exact List.forall_mem_cons.mpr ⟨visible_of_more one, ih goes⟩
    | ended =>
      rw [one] at goes
      cases goes
    | refused =>
      rw [one] at goes
      cases goes

theorem visible_of_isNumber {text : Bytes} (number : isNumber text = true) : ∀ b ∈ text, 0x20 ≤ b := by
  cases text with
  | nil => cases number
  | cons c text =>
    simp only [isNumber, Option.any_eq_true, Option.bind_eq_some_iff] at number
    obtain ⟨last, ⟨digits, first, goes⟩, -⟩ := number
    exact List.forall_mem_cons.mpr ⟨(other_of_firstDigits first).2.2.2.2.2, visible_of_advance goes⟩

theorem visible_literal : (∀ b ∈ bytesOf "null", 0x20 ≤ b) ∧
    ∀ value : Bool, ∀ b ∈ bytesOf (if value then "true" else "false"), 0x20 ≤ b := by
  have words : (bytesOf "null" ++ bytesOf "true" ++ bytesOf "false").all (0x20 ≤ ·) = true := by decide
  simp only [List.all_append, Bool.and_eq_true, List.all_eq_true, decide_eq_true_eq] at words
  refine ⟨words.1.1, fun value => ?_⟩
  cases value with
  | true => exact words.1.2
  | false => exact words.2

/-- A text between quotes. -/
theorem visible_quoted (text : Bytes) {rest : Bytes} (visible : ∀ b ∈ rest, 0x20 ≤ b) :
    ∀ b ∈ byte '"' :: (escapeText 0 0 text ++ byte '"' :: rest), 0x20 ≤ b := by
  have quote : 0x20 ≤ byte '"' := by decide
  simp only [List.forall_mem_cons, List.forall_mem_append]
  exact ⟨quote, (stands_text text).visible, quote, visible⟩

mutual

theorem visible_write (room : Nat) (value : Json) (sound : Sound room value) : ∀ b ∈ write value, 0x20 ≤ b := by
  cases value with
  | null => exact visible_literal.1
  | bool value => exact visible_literal.2 value
  | num text =>
    have number : isNumber text = true := by simpa [Sound] using sound
    exact visible_of_isNumber number
  | str text => exact visible_quoted text nofun
  | arr items =>
    cases room with
    | zero => simp [Sound] at sound
    | succ room =>
      cases items with
      | nil => simp [write]; decide
      | cons item items =>
        have both : Sound room item ∧ SoundItems room items := by simpa [Sound, SoundItems] using sound
        rw [write, List.forall_mem_cons, List.forall_mem_append]
        exact ⟨by decide, visible_write room item both.1, visible_writeItems room items both.2⟩
  | obj members =>
    cases room with
    | zero => simp [Sound] at sound
    | succ room =>
      cases members with
      | nil => simp [write]
      | cons member members =>
        obtain ⟨key, value⟩ := member
        have both : Sound room value ∧ SoundMembers room members := by simpa [Sound, SoundMembers] using sound
        rw [write, List.forall_mem_cons]
        refine ⟨by decide, visible_quoted key ?_⟩
        rw [List.forall_mem_cons, List.forall_mem_append]
        exact ⟨by decide, visible_write room value both.1, visible_writeMembers room members both.2⟩

theorem visible_writeItems (room : Nat) (items : List Json) (sound : SoundItems room items) :
    ∀ b ∈ writeItems items, 0x20 ≤ b := by
  cases items with
  | nil => simp [writeItems]; decide
  | cons item items =>
    have both : Sound room item ∧ SoundItems room items := by simpa [SoundItems] using sound
    rw [writeItems, List.forall_mem_cons, List.forall_mem_append]
    exact ⟨by decide, visible_write room item both.1, visible_writeItems room items both.2⟩

theorem visible_writeMembers (room : Nat) (members : List (Bytes × Json)) (sound : SoundMembers room members) :
    ∀ b ∈ writeMembers members, 0x20 ≤ b := by
  cases members with
  | nil => simp [writeMembers]
  | cons member members =>
    obtain ⟨key, value⟩ := member
    have both : Sound room value ∧ SoundMembers room members := by simpa [SoundMembers] using sound
    rw [writeMembers, List.forall_mem_cons]
    refine ⟨by decide, visible_quoted key ?_⟩
    rw [List.forall_mem_cons, List.forall_mem_append]
    exact ⟨by decide, visible_write room value both.1, visible_writeMembers room members both.2⟩

end

/-! A text that is cut off. -/

theorem writeMembers_ends (members : List (Bytes × Json)) : ∃ front, writeMembers members = front ++ [0x7D] := by
  induction members with
  | nil => exact ⟨[], rfl⟩
  | cons member members ih =>
    obtain ⟨front, same⟩ := ih
    obtain ⟨key, value⟩ := member
    refine ⟨byte ',' :: byte '"' :: (escapeText 0 0 key ++ byte '"' :: byte ':' :: (write value ++ front)), ?_⟩
    simp [writeMembers, same]

theorem write_ends (members : List (Bytes × Json)) : ∃ front, write (.obj members) = front ++ [0x7D] := by
  cases members with
  | nil => exact ⟨[0x7B], rfl⟩
  | cons member members =>
    obtain ⟨front, same⟩ := writeMembers_ends members
    obtain ⟨key, value⟩ := member
    refine ⟨0x7B :: byte '"' :: (escapeText 0 0 key ++ byte '"' :: byte ':' :: (write value ++ front)), ?_⟩
    simp [write, same]

theorem scan_of_document {scanner : Scanner} {text : Bytes} {value : Json} (found : document scanner text = some value) :
    scan scanner text = .value value := by
  induction text generalizing scanner with
  | nil => cases found
  | cons c rest ih =>
    rw [document] at found
    rw [scan]
    cases progress : step scanner c with
    | next scanner' =>
      rw [progress] at found
      exact ih found
    | done value' =>
      rw [progress] at found
      obtain ⟨-, same⟩ := Option.ite_none_right_eq_some.mp found
      exact congrArg Scan.value (Option.some.inj same)
    | refused =>
      rw [progress] at found
      cases found

/-- Only white space can be missing at the end. -/
theorem scan_of_document_append {scanner : Scanner} {text missing : Bytes} {value : Json}
    (found : document scanner (text ++ missing) = some value) (cut : missing.all isSpace = false) :
    scan scanner text = .more := by
  induction text generalizing scanner with
  | nil => rfl
  | cons c rest ih =>
    rw [List.cons_append, document] at found
    rw [scan]
    cases progress : step scanner c with
    | next scanner' =>
      rw [progress] at found
      exact ih found
    | done value' =>
      rw [progress] at found
      obtain ⟨blank, -⟩ := Option.ite_none_right_eq_some.mp found
      rw [List.all_append, cut, Bool.and_false] at blank
      cases blank
    | refused =>
      rw [progress] at found
      cases found

/-- Of an object, and what white space is behind it, only the white space can be missing. -/
theorem read_take_write {room : Nat} {members : List (Bytes × Json)} (sound : SoundMembers room members)
    (fits : room < maxDepth) {space : Bytes} (blank : space.all isSpace = true) (count : Nat) :
    read ((write (.obj members) ++ space).take count) =
      if (write (.obj members)).length ≤ count then .value (.obj (validMembers members)) else .more := by
  split
  · rename_i whole
    have less : (space.take (count - (write (.obj members)).length)).all isSpace = true := by
      rw [List.all_eq_true] at blank ⊢
      exact fun b member => blank b (List.mem_of_mem_take member)
    rw [List.take_append, List.take_of_length_le whole]
    exact scan_of_document (parse_write sound fits less)
  · rename_i short
    have inside : count < (write (.obj members)).length := Nat.lt_of_not_le short
    rw [List.take_append_of_le_length (Nat.le_of_lt inside)]
    have found := parse_write sound fits (show ([] : Bytes).all isSpace = true from rfl)
    rw [List.append_nil, ← List.take_append_drop count (write (.obj members))] at found
    refine scan_of_document_append found ?_
    -- the bracket is among what is missing
    obtain ⟨front, same⟩ := write_ends members
    have long : count ≤ front.length := by
      rw [same, List.length_append, List.length_singleton] at inside
      omega
    rw [same, List.drop_append_of_le_length long, List.all_append]
    simp [isSpace]

end Json

end Aegis.Library
