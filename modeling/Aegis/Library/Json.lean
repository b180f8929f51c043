import Aegis.Library.JsonText

/-! JSON as it is read from a stream, one byte after another. The end of an array or object shows
at its bracket. The end of any other value at the top only shows at the byte after it. -/

set_option autoImplicit false

namespace Aegis.Library

/-- Numbers stay as they are written. -/
inductive Json where
  | null
  | bool (value : Bool)
  | num (text : Bytes)
  | str (text : Bytes)
  | arr (items : List Json)
  | obj (members : List (Bytes × Json))

namespace Json

/-- An array or object that has been opened. `member` is waiting for the value of its key. -/
inductive Frame where
  | arr (items : List Json)
  | obj (members : List (Bytes × Json))
  | member (members : List (Bytes × Json)) (key : Bytes)

inductive Role where
  | key
  | value
deriving DecidableEq

inductive Phase where
  | plain
  | escape
  | hex (left : Nat)
deriving DecidableEq

/-- How far a number has come. -/
inductive Digits where
  | sign
  | zero
  | whole
  | point
  | fraction
  | exponent
  | exponentSign
  | exponentDigits
deriving DecidableEq

inductive Mode where
  | value
  | valueOrEnd
  | keyOrEnd
  | key
  | colon
  | comma
  | text (role : Role) (raw : Bytes) (phase : Phase)
  | number (digits : Digits) (raw : Bytes)
  | literal (left : Bytes) (value : Json)
  | after (value : Json)

structure Scanner where
  stack : List Frame := []
  mode : Mode := .value

inductive Progress where
  | next (scanner : Scanner)
  | done (value : Json)
  | refused

def isSpace (c : UInt8) : Bool := c = 0x20 || c = 0x09 || c = 0x0D || c = 0x0A

def isDigit (c : UInt8) : Bool := byte '0' ≤ c && c ≤ byte '9'

/-- A number without a sign. -/
def decimal (digits : Bytes) : Option Nat :=
  if digits ≠ [] ∧ digits.all isDigit then
    some (digits.foldl (fun value digit => value * 10 + (digit.toNat - '0'.toNat)) 0)
  else none

def maxDepth : Nat := 10000

def push (stack : List Frame) (frame : Frame) (mode : Mode) : Progress :=
  if stack.length < maxDepth then .next ⟨frame :: stack, mode⟩ else .refused

/-- A value is complete. -/
def supply : List Frame → Json → Progress
  | .arr items :: stack, value => .next ⟨.arr (items ++ [value]) :: stack, .comma⟩
  | .member members key :: stack, value => .next ⟨.obj (members ++ [(key, value)]) :: stack, .comma⟩
  | .obj _ :: _, _ => .refused
  | [], .arr items => .done (.arr items)
  | [], .obj members => .done (.obj members)
  | [], value => .next ⟨[], .after value⟩

def beginValue (stack : List Frame) (c : UInt8) : Progress :=
  if c = 0x7B then push stack (.obj []) .keyOrEnd
  else if c = byte '[' then push stack (.arr []) .valueOrEnd
  else if c = byte '"' then .next ⟨stack, .text .value [] .plain⟩
  else if c = byte '-' then .next ⟨stack, .number .sign [c]⟩
  else if c = byte '0' then .next ⟨stack, .number .zero [c]⟩
  else if isDigit c then .next ⟨stack, .number .whole [c]⟩
  else if c = byte 't' then .next ⟨stack, .literal (bytesOf "rue") (.bool true)⟩
  else if c = byte 'f' then .next ⟨stack, .literal (bytesOf "alse") (.bool false)⟩
  else if c = byte 'n' then .next ⟨stack, .literal (bytesOf "ull") .null⟩
  else .refused

def close : List Frame → Progress
  | .arr items :: stack => supply stack (.arr items)
  | .obj members :: stack => supply stack (.obj members)
  | _ => .refused

def afterValue (stack : List Frame) (c : UInt8) : Progress :=
  if isSpace c then .next ⟨stack, .comma⟩
  else match stack with
    | .arr _ :: _ =>
        if c = byte ',' then .next ⟨stack, .value⟩ else if c = byte ']' then close stack else .refused
    | .obj _ :: _ =>
        if c = byte ',' then .next ⟨stack, .key⟩ else if c = 0x7D then close stack else .refused
    | _ => .refused

def beginKey (stack : List Frame) (c : UInt8) : Progress :=
  if c = byte '"' then .next ⟨stack, .text .key [] .plain⟩ else .refused

def endText (stack : List Frame) : Role → Bytes → Progress
  | .value, raw => supply stack (.str (unquote raw))
  | .key, raw =>
      match stack with
      | .obj members :: rest => .next ⟨.member members (unquote raw) :: rest, .colon⟩
      | _ => .refused

/-- The phase after one more byte of a string, `none` if it cannot stand there. -/
def textPhase (c : UInt8) : Phase → Option Phase
  | .plain => if c = byte '\\' then some .escape else if c < 0x20 then none else some .plain
  | .escape => if c = byte 'u' then some (.hex 4) else if c ∈ bytesOf "bfnrt\\/\"" then some .plain else none
  | .hex left => if (hexDigit c).isNone then none else if left ≤ 1 then some .plain else some (.hex (left - 1))

def readText (stack : List Frame) (role : Role) (raw : Bytes) (phase : Phase) (c : UInt8) : Progress :=
  if phase = .plain ∧ c = byte '"' then endText stack role raw
  else match textPhase c phase with
    | some phase => .next ⟨stack, .text role (raw ++ [c]) phase⟩
    | none => .refused

inductive NumberStep where
  | more (digits : Digits)
  | ended
  | refused

def afterInteger (c : UInt8) : NumberStep :=
  if c = byte '.' then .more .point
  else if c = byte 'e' ∨ c = byte 'E' then .more .exponent
  else .ended

def numberStep (c : UInt8) : Digits → NumberStep
  | .sign => if c = byte '0' then .more .zero else if isDigit c then .more .whole else .refused
  | .zero => afterInteger c
  | .whole => if isDigit c then .more .whole else afterInteger c
  | .point => if isDigit c then .more .fraction else .refused
  | .fraction =>
      if isDigit c then .more .fraction
      else if c = byte 'e' ∨ c = byte 'E' then .more .exponent
      else .ended
  | .exponent =>
      if c = byte '+' ∨ c = byte '-' then .more .exponentSign
      else if isDigit c then .more .exponentDigits
      else .refused
  | .exponentSign => if isDigit c then .more .exponentDigits else .refused
  | .exponentDigits => if isDigit c then .more .exponentDigits else .ended

/-- The byte that ends a number is also the first one after it. -/
def readNumber (stack : List Frame) (digits : Digits) (raw : Bytes) (c : UInt8) : Progress :=
  match numberStep c digits with
  | .more digits => .next ⟨stack, .number digits (raw ++ [c])⟩
  | .refused => .refused
  | .ended =>
      match supply stack (.num raw) with
      | .next ⟨stack, .comma⟩ => afterValue stack c
      | .next ⟨_, .after value⟩ => .done value
      | progress => progress

def readLiteral (stack : List Frame) (value : Json) (c : UInt8) : Bytes → Progress
  | [] => .refused
  | expected :: left =>
      if c = expected then
        if left = [] then supply stack value else .next ⟨stack, .literal left value⟩
      else .refused

def step (scanner : Scanner) (c : UInt8) : Progress :=
  match scanner.mode with
  | .value => if isSpace c then .next scanner else beginValue scanner.stack c
  | .valueOrEnd =>
      if isSpace c then .next scanner
      else if c = byte ']' then close scanner.stack
      else beginValue scanner.stack c
  | .keyOrEnd =>
      if isSpace c then .next scanner
      else if c = 0x7D then close scanner.stack
      else beginKey scanner.stack c
  | .key => if isSpace c then .next scanner else beginKey scanner.stack c
  | .colon =>
      if isSpace c then .next scanner
      else if c = byte ':' then .next ⟨scanner.stack, .value⟩
      else .refused
  | .comma => afterValue scanner.stack c
  | .text role raw phase => readText scanner.stack role raw phase c
  | .number digits raw => readNumber scanner.stack digits raw c
  | .literal left value => readLiteral scanner.stack value c left
  | .after value => .done value

/-- `more` if the bytes end before the value does. -/
inductive Scan where
  | value (value : Json)
  | refused
  | more

def scan : Scanner → Bytes → Scan
  | _, [] => .more
  | scanner, c :: rest =>
      match step scanner c with
      | .next scanner => scan scanner rest
      | .done value => .value value
      | .refused => .refused

/-- The first value of a stream. -/
def read (stream : Bytes) : Scan := scan {} stream

/-- What has been made of the first bytes stays so, whatever comes behind them. -/
theorem scan_append (scanner : Scanner) (first rest : Bytes) :
    scan scanner first = .more ∨ scan scanner (first ++ rest) = scan scanner first := by
  induction first generalizing scanner with
  | nil => exact .inl rfl
  | cons c first ih =>
    unfold scan
    rw [List.cons_append]
    dsimp only
    cases step scanner c with
    | next scanner => exact ih scanner
    | done value | refused => exact .inr rfl

theorem read_take (stream : Bytes) (count : Nat) :
    read (stream.take count) = .more ∨ read (stream.take count) = read stream := by
  have stays := scan_append {} (stream.take count) (stream.drop count)
  rw [List.take_append_drop] at stays
  exact stays.imp_right Eq.symm

/-! A string that is a member of an object is shorter than the text it was read from. The bytes
that count are the ASCII characters, since U+FFFD may be longer than what it replaces. -/

/-- The string was read from a text with at most `bound` ASCII characters: its two quotes are among them. -/
def Fits (bound : Nat) : Json → Prop
  | .str text => asciiCount text + 2 ≤ bound
  | _ => True

/-- Only the values directly in an object are looked at. -/
def MembersFit (bound : Nat) (members : List (Bytes × Json)) : Prop := ∀ member ∈ members, member.2.Fits bound

def Within (bound : Nat) : Json → Prop
  | .obj members => MembersFit bound members
  | _ => True

def Frame.Within (bound : Nat) : Frame → Prop
  | .arr _ => True
  | .obj members => MembersFit bound members
  | .member members _ => MembersFit bound members

/-- The opening quote of the string that is being read is not part of `raw`. -/
def Mode.Within (bound : Nat) : Mode → Prop
  | .text _ raw _ => asciiCount raw + 1 ≤ bound
  | .literal _ word => word.Fits bound ∧ word.Within bound
  | .after whole => whole.Within bound
  | _ => True

def StackWithin (bound : Nat) (stack : List Frame) : Prop := ∀ frame ∈ stack, frame.Within bound

def Scanner.Within (bound : Nat) (scanner : Scanner) : Prop :=
  StackWithin bound scanner.stack ∧ scanner.mode.Within bound

def Progress.Within (bound : Nat) : Progress → Prop
  | .next scanner => scanner.Within bound
  | .done value => value.Within bound
  | .refused => True

section
variable {bound larger : Nat} {stack : List Frame} {c : UInt8}

theorem Fits.mono (le : bound ≤ larger) {value : Json} (fits : value.Fits bound) : value.Fits larger := by
  cases value with
  | str text => exact Nat.le_trans fits le
  | _ => trivial

theorem MembersFit.mono (le : bound ≤ larger) {members : List (Bytes × Json)} (fit : MembersFit bound members) :
    MembersFit larger members :=
  fun member mem => (fit member mem).mono le

theorem Within.mono (le : bound ≤ larger) {value : Json} (within : value.Within bound) : value.Within larger := by
  cases value with
  | obj members => exact MembersFit.mono le within
  | _ => trivial

theorem StackWithin.mono (le : bound ≤ larger) (within : StackWithin bound stack) : StackWithin larger stack := by
  intro frame mem
  have before := within frame mem
  cases frame with
  | arr items => trivial
  | obj members => exact MembersFit.mono le before
  | member members key => exact MembersFit.mono le before

theorem supply_within (within : StackWithin bound stack) {value : Json} (fits : value.Fits bound)
    (inside : value.Within bound) : (supply stack value).Within bound := by
  cases stack with
  | nil =>
    cases value with
    | arr items => exact inside
    | obj members => exact inside
    | _ => exact ⟨within, inside⟩
  | cons frame stack =>
    obtain ⟨top, below⟩ := List.forall_mem_cons.mp within
    cases frame with
    | arr items => exact ⟨List.forall_mem_cons.mpr ⟨trivial, below⟩, trivial⟩
    | obj members => trivial
    | member members key =>
      refine ⟨List.forall_mem_cons.mpr ⟨?_, below⟩, trivial⟩
      intro member mem
      rcases List.mem_append.mp mem with old | new
      · exact top member old
      · rw [List.mem_singleton.mp new]
        exact fits

theorem push_within (within : StackWithin bound stack) (frame : Frame) (mode : Mode) (inside : frame.Within bound)
    (doing : mode.Within bound) : (push stack frame mode).Within bound := by
  unfold push
  split
  · exact ⟨List.forall_mem_cons.mpr ⟨inside, within⟩, doing⟩
  · trivial

theorem close_within (within : StackWithin bound stack) : (close stack).Within bound := by
  cases stack with
  | nil => trivial
  | cons frame stack =>
    obtain ⟨top, below⟩ := List.forall_mem_cons.mp within
    cases frame with
    | arr items => exact supply_within below trivial trivial
    | obj members => exact supply_within below trivial top
    | member members key => trivial

theorem afterValue_within (within : StackWithin bound stack) : (afterValue stack c).Within bound := by
  unfold afterValue
  split
  · exact ⟨within, trivial⟩
  · split
    · split_ifs
      · exact ⟨within, trivial⟩
      · exact close_within within
      · trivial
    · split_ifs
      · exact ⟨within, trivial⟩
      · exact close_within within
      · trivial
    · trivial

theorem beginValue_within (within : StackWithin bound stack) (quote : c = byte '"' → 1 ≤ bound) :
    (beginValue stack c).Within bound := by
  unfold beginValue
  by_cases text : c = byte '"'
  · subst text
    exact ⟨within, quote rfl⟩
  · have nothing : MembersFit bound [] := fun member mem => nomatch mem
    rw [if_neg text]
    split_ifs
    · exact push_within within (.obj []) .keyOrEnd nothing trivial
    · exact push_within within (.arr []) .valueOrEnd trivial trivial
    all_goals first | exact ⟨within, trivial⟩ | exact ⟨within, trivial, trivial⟩ | trivial

theorem beginKey_within (within : StackWithin bound stack) (quote : c = byte '"' → 1 ≤ bound) :
    (beginKey stack c).Within bound := by
  unfold beginKey
  split
  next text => exact ⟨within, quote text⟩
  next => trivial

theorem endText_within (within : StackWithin bound stack) {raw : Bytes} (room : asciiCount raw + 2 ≤ bound)
    (role : Role) : (endText stack role raw).Within bound := by
  have shorter := asciiCount_unquote raw
  cases role with
  | value => exact supply_within within (Nat.le_trans (Nat.add_le_add_right shorter 2) room) trivial
  | key =>
    cases stack with
    | nil => trivial
    | cons frame stack =>
      obtain ⟨top, below⟩ := List.forall_mem_cons.mp within
      cases frame with
      | obj members => exact ⟨List.forall_mem_cons.mpr ⟨top, below⟩, trivial⟩
      | _ => trivial

theorem readText_within (within : StackWithin bound stack) {raw : Bytes} (room : asciiCount raw + 1 ≤ bound)
    (role : Role) (phase : Phase) : (readText stack role raw phase c).Within (bound + asciiCount [c]) := by
  have kept := within.mono (Nat.le_add_right bound (asciiCount [c]))
  unfold readText
  split
  next ending =>
    have quote : asciiCount [c] = 1 := by rw [ending.2]; decide
    exact endText_within kept (by omega) role
  next =>
    split
    · refine ⟨kept, ?_⟩
      have longer : asciiCount (raw ++ [c]) + 1 ≤ bound + asciiCount [c] := by
        rw [asciiCount_append]
        omega
      exact longer
    · trivial

theorem readNumber_within (within : StackWithin bound stack) (digits : Digits) (raw : Bytes) :
    (readNumber stack digits raw c).Within bound := by
  have supplied : (supply stack (.num raw)).Within bound := supply_within within trivial trivial
  unfold readNumber
  split
  · exact ⟨within, trivial⟩
  · trivial
  · split
    next stack' result => exact afterValue_within (result ▸ supplied).1
    next value result => exact (result ▸ supplied).2
    next => exact supplied

theorem readLiteral_within (within : StackWithin bound stack) {value : Json} (fits : value.Fits bound)
    (inside : value.Within bound) (left : Bytes) : (readLiteral stack value c left).Within bound := by
  cases left with
  | nil => trivial
  | cons expected left =>
    simp only [readLiteral]
    split_ifs
    · exact supply_within within fits inside
    · exact ⟨within, fits, inside⟩
    · trivial

theorem step_within {scanner : Scanner} (within : scanner.Within bound) :
    (step scanner c).Within (bound + asciiCount [c]) := by
  obtain ⟨stack, mode⟩ := scanner
  obtain ⟨frames, doing⟩ := within
  have grows := Nat.le_add_right bound (asciiCount [c])
  have kept := StackWithin.mono grows frames
  have quote : c = byte '"' → 1 ≤ bound + asciiCount [c] := by
    rintro rfl
    exact Nat.le_add_left 1 bound
  cases mode with
  | value =>
    simp only [step]
    split_ifs
    · exact ⟨kept, trivial⟩
    · exact beginValue_within kept quote
  | valueOrEnd =>
    simp only [step]
    split_ifs
    · exact ⟨kept, trivial⟩
    · exact close_within kept
    · exact beginValue_within kept quote
  | keyOrEnd =>
    simp only [step]
    split_ifs
    · exact ⟨kept, trivial⟩
    · exact close_within kept
    · exact beginKey_within kept quote
  | key =>
    simp only [step]
    split_ifs
    · exact ⟨kept, trivial⟩
    · exact beginKey_within kept quote
  | colon =>
    simp only [step]
    split_ifs
    · exact ⟨kept, trivial⟩
    · exact ⟨kept, trivial⟩
    · trivial
  | comma => exact afterValue_within kept
  | text role raw phase => exact readText_within frames doing role phase
  | number digits raw => exact readNumber_within kept digits raw
  | literal left value => exact readLiteral_within kept (doing.1.mono grows) (doing.2.mono grows) left
  | after value => exact Within.mono grows doing

theorem scan_within {stream : Bytes} {scanner : Scanner} (within : scanner.Within bound) {value : Json}
    (found : scan scanner stream = .value value) : value.Within (bound + asciiCount stream) := by
  induction stream generalizing scanner bound with
  | nil => cases found
  | cons c rest ih =>
    have one := step_within (c := c) within
    have sum : bound + asciiCount [c] + asciiCount rest = bound + asciiCount (c :: rest) := by
      rw [asciiCount_cons c rest]
      omega
    unfold scan at found
    cases result : step scanner c with
    | next scanner' =>
      rw [result] at one found
      rw [← sum]
      exact ih one found
    | done last =>
      rw [result] at one found
      cases found
      exact Within.mono (sum ▸ Nat.le_add_right _ _) one
    | refused =>
      rw [result] at found
      cases found

end

theorem read_within {stream : Bytes} {value : Json} (found : read stream = .value value) :
    value.Within (asciiCount stream) := by
  have start : Scanner.Within 0 {} := ⟨(fun frame mem => nomatch mem), trivial⟩
  simpa using scan_within start found

end Json

end Aegis.Library
