import Aegis.Library.JsonTemplate
import Mathlib.Data.List.DropRight
import Mathlib.Data.List.TakeWhile

/-! HTTP requests as a server takes them off a stream.

The reader is asked again each time bytes have come in. It wants more, refuses, or has a request
and what stands behind it.
-/

set_option autoImplicit false

namespace Aegis.Library.Http

structure Request where
  method : Bytes
  target : Bytes
  fields : List (Bytes × Bytes)
  body : Bytes
  deriving DecidableEq, Repr

inductive Reading where
  | more
  | refused
  | request (request : Request) (rest : Bytes)
  deriving DecidableEq, Repr

def crlf : Bytes := [0x0D, 0x0A]

/-! The lines of the head. -/

/-- The text in front of the first line end, and what stands behind it. -/
def line : Bytes → Option (Bytes × Bytes)
  | [] => none
  | b :: rest =>
    if b = 0x0D ∧ rest.head? = some 0x0A then some ([], rest.tail)
    else (line rest).map fun found => (b :: found.1, found.2)

/-- The lines up to the empty one. Each has at least its end, so the length of the stream is fuel enough. -/
def head : Nat → Bytes → Option (List Bytes × Bytes)
  | 0, _ => none
  | fuel + 1, stream =>
    match line stream with
    | none => none
    | some ([], rest) => some ([], rest)
    | some (text, rest) => (head fuel rest).map fun found => (text :: found.1, found.2)

/-! What the lines say. -/

/-- In front of the first such byte and behind it. -/
def cut (b : UInt8) (text : Bytes) : Option (Bytes × Bytes) :=
  if b ∈ text then some (text.takeWhile (· ≠ b), (text.dropWhile (· ≠ b)).tail) else none

def isBlank (b : UInt8) : Bool := b = 0x20 || b = 0x09

def trim (text : Bytes) : Bytes := (text.dropWhile isBlank).rdropWhile isBlank

def requestLine (text : Bytes) : Option (Bytes × Bytes) := do
  let (method, rest) ← cut 0x20 text
  let (target, version) ← cut 0x20 rest
  if method = [] ∨ target = [] ∨ version ≠ bytesOf "HTTP/1.1" then none else some (method, target)

def field (text : Bytes) : Option (Bytes × Bytes) := do
  let (name, value) ← cut (byte ':') text
  if name = [] ∨ name.any isBlank then none else some (name, trim value)

def lower (b : UInt8) : UInt8 := if byte 'A' ≤ b ∧ b ≤ byte 'Z' then b + 0x20 else b

def isLength (field : Bytes × Bytes) : Bool := field.1.map lower = bytesOf "content-length"

/-- No length means no body. Two lengths are refused, be they equal or not. -/
def contentLength (fields : List (Bytes × Bytes)) : Option Nat :=
  match fields.filter isLength with
  | [] => some 0
  | [field] => Json.decimal field.2
  | _ => none

/-- A request without its body, and how long that is. -/
def heading : List Bytes → Option (Request × Nat)
  | [] => none
  | first :: rest => do
    let (method, target) ← requestLine first
    let fields ← rest.mapM field
    let size ← contentLength fields
    some ({ method := method, target := target, fields := fields, body := [] }, size)

def read (stream : Bytes) : Reading :=
  match head stream.length stream with
  | none => .more
  | some (lines, rest) =>
    match heading lines with
    | none => .refused
    | some (request, size) =>
      if size ≤ rest.length then .request { request with body := rest.take size } (rest.drop size) else .more

/-! Writing a head. -/

/-- A text that is not empty and ends at no earlier line end. -/
def IsLine (text : Bytes) : Prop := text ≠ [] ∧ 0x0D ∉ text

instance (text : Bytes) : Decidable (IsLine text) := inferInstanceAs (Decidable (_ ∧ _))

def writeHead (lines : List Bytes) : Bytes := lines.flatMap (· ++ crlf) ++ crlf

theorem writeHead_cons (text : Bytes) (lines : List Bytes) :
    writeHead (text :: lines) = text ++ (crlf ++ writeHead lines) := by
  simp [writeHead]

theorem length_crlf : crlf.length = 2 := rfl

/-! Of a stream that breaks off anywhere. -/

theorem line_take {text : Bytes} (free : 0x0D ∉ text) (rest : Bytes) (count : Nat) :
    line ((text ++ (crlf ++ rest)).take count) =
      if text.length + 2 ≤ count then some (text, rest.take (count - (text.length + 2))) else none := by
  induction text generalizing count with
  | nil =>
    rcases count with _ | _ | count
    · rfl
    · rfl
    · simp [crlf, line]
  | cons b text ih =>
    have other : b ≠ 0x0D := fun same => free (same ▸ List.mem_cons_self)
    cases count with
    | zero => rfl
    | succ count =>
      have goes := ih (fun member => free (List.mem_cons_of_mem _ member)) count
      rw [List.cons_append, List.take_succ_cons, line, if_neg fun both => other both.1, goes, List.length_cons]
      by_cases enough : text.length + 2 ≤ count
      · have larger : text.length + 1 + 2 ≤ count + 1 := by omega
        have left : count + 1 - (text.length + 1 + 2) = count - (text.length + 2) := by omega
        rw [if_pos enough, if_pos larger, left, Option.map_some]
      · have smaller : ¬ text.length + 1 + 2 ≤ count + 1 := by omega
        rw [if_neg enough, if_neg smaller, Option.map_none]

/-- All of the head has come in, or it is not read. -/
theorem head_take {lines : List Bytes} (plain : ∀ text ∈ lines, IsLine text) (rest : Bytes) (fuel count : Nat) :
    head fuel ((writeHead lines ++ rest).take count) =
      if lines.length < fuel ∧ (writeHead lines).length ≤ count then
        some (lines, rest.take (count - (writeHead lines).length))
      else none := by
  induction lines generalizing fuel count with
  | nil =>
    cases fuel with
    | zero => simp [head]
    | succ fuel =>
      have ended : line ((crlf ++ rest).take count) = if 2 ≤ count then some ([], rest.take (count - 2)) else none :=
        line_take List.not_mem_nil rest count
      have empty : writeHead [] = crlf := rfl
      rw [empty, head, ended, length_crlf]
      by_cases enough : 2 ≤ count
      · simp [enough]
      · simp [enough]
  | cons text lines ih =>
    obtain ⟨filled, free⟩ := plain text List.mem_cons_self
    cases fuel with
    | zero => simp [head]
    | succ fuel =>
      have first := line_take free (writeHead lines ++ rest) count
      have size : (writeHead (text :: lines)).length = text.length + 2 + (writeHead lines).length := by
        rw [writeHead_cons, List.length_append, List.length_append, length_crlf, Nat.add_assoc]
      rw [writeHead_cons, List.append_assoc, List.append_assoc, head, first, ← writeHead_cons, size]
      by_cases enough : text.length + 2 ≤ count
      · rw [if_pos enough]
        obtain ⟨b, tail, rfl⟩ := List.exists_cons_of_ne_nil filled
        dsimp only
        rw [ih fun other member => plain other (List.mem_cons_of_mem _ member)]
        have fits : lines.length < fuel ∧ (writeHead lines).length ≤ count - ((b :: tail).length + 2) ↔
            ((b :: tail) :: lines).length < fuel + 1 ∧
              (b :: tail).length + 2 + (writeHead lines).length ≤ count := by
          simp only [List.length_cons] at enough ⊢
          omega
        rw [apply_ite (Option.map _), Option.map_some, Option.map_none, Nat.sub_sub]
        exact if_congr fits rfl rfl
      · have short : ¬ text.length + 2 + (writeHead lines).length ≤ count := by omega
        rw [if_neg enough, if_neg fun both => short both.2]

theorem length_le_writeHead (lines : List Bytes) : lines.length < (writeHead lines).length := by
  induction lines with
  | nil => decide
  | cons text lines ih =>
    rw [writeHead_cons, List.length_append, List.length_append, length_crlf, List.length_cons]
    omega

/-- The request is there with its last byte, and not before. -/
theorem read_take {lines : List Bytes} (plain : ∀ text ∈ lines, IsLine text) {request : Request} {body : Bytes}
    (headed : heading lines = some (request, body.length)) (rest : Bytes) (count : Nat) :
    read ((writeHead lines ++ body ++ rest).take count) =
      if (writeHead lines ++ body).length ≤ count then
        .request { request with body := body } (rest.take (count - (writeHead lines ++ body).length))
      else .more := by
  unfold read
  rw [List.append_assoc, head_take plain, List.length_append]
  by_cases started : (writeHead lines).length ≤ count
  · have fuel : lines.length < ((writeHead lines ++ (body ++ rest)).take count).length := by
      have longer := length_le_writeHead lines
      rw [List.length_take, List.length_append]
      omega
    rw [if_pos ⟨fuel, started⟩]
    dsimp only
    rw [headed]
    dsimp only
    rw [List.length_take, List.length_append]
    by_cases whole : (writeHead lines).length + body.length ≤ count
    · have enough : body.length ≤ min (count - (writeHead lines).length) (body.length + rest.length) := by omega
      have left : count - (writeHead lines).length =
          body.length + (count - ((writeHead lines).length + body.length)) := by omega
      rw [if_pos enough, if_pos whole, left, List.take_length_add_append, List.take_left, List.drop_left]
    · have short : ¬ body.length ≤ min (count - (writeHead lines).length) (body.length + rest.length) := by omega
      rw [if_neg short, if_neg whole]
  · have short : ¬ (writeHead lines).length + body.length ≤ count := by omega
    rw [if_neg fun both => started both.2, if_neg short]

/-! What is read of the parts. -/

theorem cut_append {b : UInt8} {before : Bytes} (free : b ∉ before) (rest : Bytes) :
    cut b (before ++ b :: rest) = some (before, rest) := by
  have passed : ∀ other ∈ before, decide (other ≠ b) = true := by
    intro other member
    refine decide_eq_true fun same => free ?_
    rwa [← same]
  unfold cut
  rw [if_pos (List.mem_append_right _ List.mem_cons_self), List.takeWhile_append_of_pos passed,
    List.dropWhile_append_of_pos passed]
  simp

/-! Writing a request. -/

/-- A word of the first line. -/
def IsWord (text : Bytes) : Prop := text ≠ [] ∧ 0x20 ∉ text ∧ 0x0D ∉ text

instance (text : Bytes) : Decidable (IsWord text) := inferInstanceAs (Decidable (_ ∧ _ ∧ _))

def IsName (text : Bytes) : Prop := text ≠ [] ∧ text.any isBlank = false ∧ byte ':' ∉ text ∧ 0x0D ∉ text

instance (text : Bytes) : Decidable (IsName text) := inferInstanceAs (Decidable (_ ∧ _ ∧ _ ∧ _))

/-- The value is as it stands behind the colon and a space. -/
def IsValue (text : Bytes) : Prop := trim (0x20 :: text) = text ∧ 0x0D ∉ text

instance (text : Bytes) : Decidable (IsValue text) := inferInstanceAs (Decidable (_ ∧ _))

def writeField (field : Bytes × Bytes) : Bytes := field.1 ++ byte ':' :: 0x20 :: field.2

namespace Request
variable (request : Request)

def firstLine : Bytes := request.method ++ 0x20 :: (request.target ++ 0x20 :: bytesOf "HTTP/1.1")

def lines : List Bytes := request.firstLine :: request.fields.map writeField

def write : Bytes := writeHead request.lines ++ request.body

/-- It can be written down, and its fields say how long the body is. -/
structure Proper : Prop where
  method : IsWord request.method
  target : IsWord request.target
  names : ∀ field ∈ request.fields, IsName field.1
  values : ∀ field ∈ request.fields, IsValue field.2
  size : contentLength request.fields = some request.body.length

end Request

theorem requestLine_firstLine {request : Request} (method : IsWord request.method) (target : IsWord request.target) :
    requestLine request.firstLine = some (request.method, request.target) := by
  have verb := cut_append method.2.1 (request.target ++ 0x20 :: bytesOf "HTTP/1.1")
  have aim := cut_append target.2.1 (bytesOf "HTTP/1.1")
  simp [requestLine, Request.firstLine, verb, aim, method.1, target.1]

theorem field_writeField {written : Bytes × Bytes} (name : IsName written.1) (value : IsValue written.2) :
    field (writeField written) = some written := by
  have parted := cut_append name.2.2.1 (0x20 :: written.2)
  simpa [field, writeField, parted, name.1, value.1] using name.2.1

theorem mapM_field {fields : List (Bytes × Bytes)} (names : ∀ field ∈ fields, IsName field.1)
    (values : ∀ field ∈ fields, IsValue field.2) : (fields.map writeField).mapM field = some fields := by
  induction fields with
  | nil => rfl
  | cons first fields ih =>
    have here := field_writeField (names first List.mem_cons_self) (values first List.mem_cons_self)
    have others := ih (fun field member => names field (.tail _ member))
      fun field member => values field (.tail _ member)
    rw [List.map_cons, List.mapM_cons, here, others]
    rfl

theorem isLine_of_proper {request : Request} (proper : request.Proper) : ∀ text ∈ request.lines, IsLine text := by
  intro text member
  rcases List.mem_cons.mp member with rfl | other
  · have version : 0x0D ∉ bytesOf "HTTP/1.1" := by decide
    refine ⟨List.append_ne_nil_of_right_ne_nil _ (List.cons_ne_nil _ _), ?_⟩
    simp [Request.firstLine, proper.method.2.2, proper.target.2.2, version]
  · obtain ⟨field, inside, rfl⟩ := List.mem_map.mp other
    have colon : (0x0D : UInt8) ≠ byte ':' := by decide
    refine ⟨List.append_ne_nil_of_right_ne_nil _ (List.cons_ne_nil _ _), ?_⟩
    simp [writeField, (proper.names field inside).2.2.2, (proper.values field inside).2, colon]

/-- A request is taken off the stream as it was written, once its last byte is there. -/
theorem read_write {request : Request} (proper : request.Proper) (rest : Bytes) (count : Nat) :
    read ((request.write ++ rest).take count) =
      if request.write.length ≤ count then .request request (rest.take (count - request.write.length))
      else .more := by
  have headed : heading request.lines = some ({ request with body := [] }, request.body.length) := by
    unfold heading Request.lines
    simp [requestLine_firstLine proper.method proper.target, mapM_field proper.names proper.values, proper.size]
  exact read_take (isLine_of_proper proper) headed rest count

/-! A length as a value. -/

theorem trim_solid {text : Bytes} (solid : ∀ b ∈ text, isBlank b = false) : trim (0x20 :: text) = text := by
  have blank : isBlank 0x20 = true := rfl
  have front : text.dropWhile isBlank = text := by
    cases text with
    | nil => rfl
    | cons b text => exact List.dropWhile_cons_of_neg (by simp [solid b List.mem_cons_self])
  unfold trim
  rw [List.dropWhile_cons_of_pos blank, front, List.rdropWhile_eq_self_iff]
  intro filled
  simp [solid _ (List.getLast_mem filled)]

theorem isValue_toString (n : Nat) : IsValue (bytesOf (toString n)) := by
  have digits := Json.isDigit_bytes n
  constructor
  · refine trim_solid fun b member => ?_
    have digit := digits b member
    rw [Bool.eq_false_iff]
    intro blank
    have either : b = 0x20 ∨ b = 0x09 := by simpa [isBlank] using blank
    rcases either with rfl | rfl
    · exact absurd digit (by decide)
    · exact absurd digit (by decide)
  · intro member
    exact absurd (digits _ member) (by decide)

end Aegis.Library.Http
