import Aegis.Policy.Extraction

/-! Searching a text made of lines, each with one key.

A search passes over a text in which its key stands nowhere before a colon. The only colon of
a line is behind its key, so that a search cannot succeed anywhere but at the key of a line,
whatever the values are.
-/

set_option autoImplicit false

namespace Aegis.Policy
open Library Regex

structure Line where
  indent : List Char
  key : List Char
  value : List Char

def Line.text (line : Line) : List Char := line.indent ++ (line.key ++ ':' :: (line.value ++ ['\n']))

/-- A key as it may stand before a colon. -/
def PlainKey (key : List Char) : Prop := key ≠ [] ∧ ∀ c ∈ key, isSpace c = false ∧ c ≠ ':'

structure Line.Sound (line : Line) : Prop where
  indent : ∀ c ∈ line.indent, isSpace c = true
  key : PlainKey line.key
  value : ':' ∉ line.value

/-- The text before the first colon, if there is one, does not end in white space. -/
def Settled (w : List Char) : Prop :=
  ∀ u x, w = u ++ ':' :: x → ':' ∉ u → ∃ v c, u = v ++ [c] ∧ isSpace c = false

theorem isSpace_colon : isSpace ':' = false := by decide

theorem not_colon_of_spaces {spaces : List Char} (white : ∀ c ∈ spaces, isSpace c = true) : ':' ∉ spaces := by
  intro member
  have yes := white ':' member
  rw [isSpace_colon] at yes
  cases yes

/-- The first colon of a text is in one place. -/
theorem first_colon {u v x y : List Char} (same : u ++ ':' :: x = v ++ ':' :: y) (free : ':' ∉ u) (free' : ':' ∉ v) :
    u = v := by
  induction u generalizing v with
  | nil =>
    cases v with
    | nil => rfl
    | cons c v =>
      obtain ⟨rfl, -⟩ := List.cons.inj same
      exact absurd List.mem_cons_self free'
  | cons c u ih =>
    cases v with
    | nil =>
      obtain ⟨rfl, -⟩ := List.cons.inj same
      exact absurd List.mem_cons_self free
    | cons d v =>
      obtain ⟨rfl, rest⟩ := List.cons.inj same
      rw [ih rest (fun member => free (List.mem_cons_of_mem _ member)) fun member => free' (List.mem_cons_of_mem _ member)]

/-- A stretch without a colon is passed before the first colon. -/
theorem colon_behind {s rest v y : List Char} (same : s ++ rest = v ++ ':' :: y) (free : ':' ∉ s) :
    ∃ u, v = s ++ u ∧ rest = u ++ ':' :: y := by
  rcases List.append_eq_append_iff.mp same with ⟨u, rfl, rfl⟩ | ⟨u, rfl, behind⟩
  · exact ⟨u, rfl, rfl⟩
  · cases u with
    | nil => exact ⟨[], by simp, by simpa using behind.symm⟩
    | cons c u =>
      obtain ⟨rfl, -⟩ := List.cons.inj behind
      exact absurd (List.mem_append_right v List.mem_cons_self) free

theorem suffix_append_cases {s a b : List Char} (suffix : s <:+ a ++ b) :
    s <:+ b ∨ ∃ t, t <:+ a ∧ s = t ++ b := by
  obtain ⟨before, whole⟩ := suffix
  rcases List.append_eq_append_iff.mp whole with ⟨t, rfl, rfl⟩ | ⟨t, -, rfl⟩
  · exact .inr ⟨t, List.suffix_append before t, rfl⟩
  · exact .inl (List.suffix_append t s)

/-- White space behind a key is gone if the whole does not end in white space. -/
theorem no_spaces {key spaces v : List Char} {c : Char} (white : ∀ c ∈ spaces, isSpace c = true)
    (same : key ++ spaces = v ++ [c]) (solid : isSpace c = false) : spaces = [] := by
  cases spaces using List.reverseRecOn with
  | nil => rfl
  | append_singleton spaces d =>
    rw [← List.append_assoc] at same
    obtain ⟨-, last⟩ := List.append_inj' same rfl
    obtain rfl : d = c := by simpa using last
    have yes := white d (List.mem_append_right _ List.mem_cons_self)
    rw [solid] at yes
    cases yes

namespace PlainKey

variable {key : List Char}

theorem not_colon (plain : PlainKey key) : ':' ∉ key := fun member => (plain.2 ':' member).2 rfl

theorem free_of_colon (plain : PlainKey key) {spaces : List Char} (white : ∀ c ∈ spaces, isSpace c = true) :
    ':' ∉ key ++ spaces := by
  rw [List.mem_append, not_or]
  exact ⟨plain.not_colon, not_colon_of_spaces white⟩

theorem ends_solid (plain : PlainKey key) : ∃ v c, key = v ++ [c] ∧ isSpace c = false := by
  refine ⟨key.dropLast, key.getLast plain.1, (List.dropLast_append_getLast plain.1).symm, ?_⟩
  exact (plain.2 _ (List.getLast_mem plain.1)).1

end PlainKey

namespace Line.Sound

variable {line : Line}

theorem settled (sound : line.Sound) (rest : List Char) : Settled (line.text ++ rest) := by
  intro u x same free
  have whole : (line.indent ++ line.key) ++ ':' :: (line.value ++ ['\n'] ++ rest) = u ++ ':' :: x := by
    rw [← same]
    simp [Line.text]
  have absent : ':' ∉ line.indent ++ line.key := by
    rw [List.mem_append, not_or]
    exact ⟨not_colon_of_spaces sound.indent, sound.key.not_colon⟩
  obtain ⟨v, c, ends, solid⟩ := sound.key.ends_solid
  refine ⟨line.indent ++ v, c, ?_, solid⟩
  rw [← first_colon whole absent free, ends, List.append_assoc]

end Line.Sound

theorem settled_nil : Settled [] := by
  intro u x same
  exact absurd same.symm (by simp)

section
variable {line : Line} {key : String} {spaces : List Char}

/-- A key that is all there is before the colon of a line is the key of the line. -/
theorem key_before_colon (sound : line.Sound) (plain : PlainKey key.toList)
    (whole : key.toList <:+ line.key → key.toList = line.key) (white : ∀ c ∈ spaces, isSpace c = true)
    (suffix : key.toList ++ spaces <:+ line.indent ++ line.key) : key.toList = line.key ∧ spaces = [] := by
  obtain ⟨v, c, ends, solid⟩ := sound.key.ends_solid
  have empty : spaces = [] := by
    obtain ⟨before, same⟩ := suffix
    rw [ends, ← List.append_assoc, ← List.append_assoc] at same
    exact no_spaces white same solid
  subst empty
  rw [List.append_nil] at suffix
  refine ⟨whole ?_, rfl⟩
  -- otherwise the key would reach into the indentation
  rcases suffix_append_cases suffix with inside | ⟨t, part, same⟩
  · exact inside
  · cases t with
    | nil => rw [same, List.nil_append]
    | cons d t =>
      have here : d ∈ key.toList := by
        rw [same]
        exact List.mem_append_left _ List.mem_cons_self
      have space := sound.indent d (part.subset List.mem_cons_self)
      rw [(plain.2 d here).1] at space
      cases space

end

/-! Texts without a key. -/

/-- The key stands nowhere before a colon. -/
def Silent (key : String) (w : List Char) : Prop :=
  ∀ before spaces after, (∀ c ∈ spaces, isSpace c = true) → w ≠ before ++ (key.toList ++ (spaces ++ ':' :: after))

/-- White space aside, the text does not start with a colon. -/
def Clear (w : List Char) : Prop := ∀ c ∈ (w.dropWhile isSpace).head?, c ≠ ':'

theorem clear_white {spaces : List Char} (white : ∀ c ∈ spaces, isSpace c = true) (w : List Char) :
    Clear (spaces ++ w) ↔ Clear w := by
  rw [Clear, List.dropWhile_append_of_pos white, Clear]

theorem not_clear_colon {spaces : List Char} (white : ∀ c ∈ spaces, isSpace c = true) (w : List Char) :
    ¬ Clear (spaces ++ ':' :: w) := by
  rw [clear_white white]
  simp [Clear, isSpace_colon]

theorem Settled.clear {w : List Char} (settled : Settled w) : Clear w := by
  rintro _ head rfl
  obtain ⟨x, behind⟩ := List.head?_eq_some_iff.mp head
  have white : ∀ c ∈ w.takeWhile isSpace, isSpace c = true := fun c member => List.mem_takeWhile_imp member
  have whole : w = w.takeWhile isSpace ++ ':' :: x := by rw [← behind, List.takeWhile_append_dropWhile]
  obtain ⟨v, c, ends, solid⟩ := settled _ x whole (not_colon_of_spaces white)
  have space := white c (ends ▸ List.mem_append_right v List.mem_cons_self)
  rw [solid] at space
  cases space

theorem isSpace_newline : ∀ c ∈ ['\n'], isSpace c = true := List.all_eq_true.mp (by decide)

section
variable {key : String} {w tail : List Char}

theorem silent_of_absent (nowhere : ¬ key.toList <:+: w) : Silent key w := by
  rintro before spaces after - rfl
  exact nowhere ⟨before, spaces ++ ':' :: after, by simp⟩

theorem silent_of_not_colon (free : ':' ∉ w) : Silent key w := by
  rintro before spaces after - rfl
  simp at free

theorem Silent.of_suffix {s : List Char} (silent : Silent key w) (suffix : s <:+ w) : Silent key s := by
  obtain ⟨front, rfl⟩ := suffix
  rintro before spaces after white rfl
  exact silent (front ++ before) spaces after white (by simp)

/-- A solid character that is not in the key parts the places where the key can stand. -/
theorem Silent.append_cons (plain : PlainKey key.toList) {u v : List Char} {d : Char} (left : Silent key u)
    (right : Silent key v) (apart : d ∉ key.toList) (solid : isSpace d = false) (other : d ≠ ':') : Silent key (u ++ d :: v) := by
  intro before spaces after white same
  have outside : d ∉ key.toList ++ spaces := by
    rw [List.mem_append, not_or]
    refine ⟨apart, fun member => ?_⟩
    have space := white d member
    rw [solid] at space
    cases space
  rw [← List.append_assoc (key.toList)] at same
  rcases List.append_eq_append_iff.mp same with ⟨k, rfl, behind⟩ | ⟨k, rfl, behind⟩
  · -- the key starts behind the first text
    cases k with
    | nil =>
      obtain ⟨c, k, first⟩ := List.exists_cons_of_ne_nil plain.1
      rw [first] at behind
      obtain ⟨rfl, -⟩ := List.cons.inj behind
      exact apart (first ▸ List.mem_cons_self)
    | cons c k =>
      obtain ⟨-, rfl⟩ := List.cons.inj behind
      exact right k spaces after white (by simp)
  · rcases List.append_eq_append_iff.mp behind with ⟨l, rfl, rest⟩ | ⟨l, reaches, rest⟩
    · -- the colon is in the first text, or the character is the colon
      cases l with
      | nil => exact other (List.cons.inj rest).1.symm
      | cons c l =>
        obtain ⟨rfl, -⟩ := List.cons.inj rest
        exact left before spaces l white (by simp)
    · cases l with
      | nil => exact other (List.cons.inj rest).1
      | cons c l =>
        obtain ⟨rfl, -⟩ := List.cons.inj rest
        exact outside (reaches ▸ List.mem_append_right k List.mem_cons_self)

/-- A search passes over a silent text, and a match does not reach from it into what follows. -/
theorem search_silent (plain : PlainKey key.toList) (silent : Silent key w) (ends : ∀ c ∈ tail.head?, isSpace c = true)
    (clear : Clear tail) (value : Regex) : (keyed key value).search (w ++ tail) = (keyed key value).search tail := by
  apply search_skip
  intro s filled suffix
  by_contra found
  obtain ⟨m, matched⟩ := Option.ne_none_iff_exists'.mp found
  obtain ⟨split, accepts⟩ := first_sound matched
  obtain ⟨spaces, spaces', u, white, -, -, text⟩ := accepts_keyed accepts
  rw [List.all_eq_true] at white
  have before : s ++ tail = (key.toList ++ spaces) ++ ':' :: (spaces' ++ u ++ m.rest) := by
    rw [split, text]
    simp
  rcases List.append_eq_append_iff.mp before with ⟨k, front, behind⟩ | ⟨k, front, behind⟩
  · -- the colon is behind the text: only white space can be left before it
    rcases suffix_append_cases (⟨s, front.symm⟩ : k <:+ key.toList ++ spaces) with short | ⟨t, part, rfl⟩
    · exact not_clear_colon (fun c member => white c (short.subset member)) _ (behind ▸ clear)
    · cases t with
      | nil => exact not_clear_colon white _ (behind ▸ clear)
      | cons c t =>
        have space := ends c (by rw [behind]; rfl)
        rw [(plain.2 c (part.subset List.mem_cons_self)).1] at space
        cases space
  · cases k with
    | nil =>
      rw [List.nil_append] at behind
      exact @not_clear_colon [] (by simp) _ (behind ▸ clear)
    | cons c k =>
      obtain ⟨rfl, -⟩ := List.cons.inj behind
      exact silent.of_suffix suffix [] spaces k white (by simpa using front)

/-- The key of an entry is the only one before a colon, if there is none in what follows. -/
theorem key_of_entry {indent entryKey value before spaces after : List Char} (plain : PlainKey key.toList)
    (indented : ∀ c ∈ indent, isSpace c = true) (plainEntry : PlainKey entryKey)
    (whole : key.toList <:+ entryKey → key.toList = entryKey) (silent : Silent key value)
    (white : ∀ c ∈ spaces, isSpace c = true)
    (same : indent ++ (entryKey ++ ':' :: value) = before ++ (key.toList ++ (spaces ++ ':' :: after))) :
    key.toList = entryKey ∧ before = indent := by
  have free : ':' ∉ indent ++ entryKey := by
    rw [List.mem_append, not_or]
    exact ⟨not_colon_of_spaces indented, plainEntry.not_colon⟩
  have parts : (indent ++ entryKey) ++ ':' :: value = (before ++ (key.toList ++ spaces)) ++ ':' :: after := by
    rw [List.append_assoc, same]
    simp
  obtain ⟨u, front, behind⟩ := colon_behind parts free
  cases u with
  | nil =>
    rw [List.append_nil] at front
    have sound : (⟨indent, entryKey, []⟩ : Line).Sound := ⟨indented, plainEntry, by simp⟩
    obtain ⟨equal, rfl⟩ := key_before_colon sound plain whole white ⟨before, front⟩
    refine ⟨equal, ?_⟩
    rw [List.append_nil, equal] at front
    exact List.append_cancel_right front
  | cons c u =>
    obtain ⟨rfl, rfl⟩ := List.cons.inj behind
    -- the key is behind the colon of the entry
    have single := plain.free_of_colon white
    rcases suffix_append_cases (⟨before, front⟩ : key.toList ++ spaces <:+ (indent ++ entryKey) ++ ':' :: u) with
      short | ⟨t, -, long⟩
    · rcases List.suffix_cons_iff.mp short with long | ⟨z, rfl⟩
      · exact absurd (long ▸ List.mem_cons_self) single
      · exact absurd (by simp) (silent z spaces after white)
    · exact absurd (long ▸ List.mem_append_right t List.mem_cons_self) single

/-- A match does not start with white space. -/
theorem first_white {c : Char} (plain : PlainKey key.toList) (white : isSpace c = true) (value : Regex) (w : List Char) :
    (keyed key value).first (c :: w) = none := by
  by_contra found
  obtain ⟨m, matched⟩ := Option.ne_none_iff_exists'.mp found
  obtain ⟨split, accepts⟩ := first_sound matched
  obtain ⟨spaces, spaces', u, -, -, -, text⟩ := accepts_keyed accepts
  obtain ⟨d, rest, first⟩ := List.exists_cons_of_ne_nil plain.1
  rw [text, first] at split
  obtain ⟨rfl, -⟩ := List.cons.inj split
  rw [(plain.2 c (first ▸ List.mem_cons_self)).1] at white
  cases white

theorem search_indented {indent : List Char} (plain : PlainKey key.toList) (indented : ∀ c ∈ indent, isSpace c = true)
    (value : Regex) (w : List Char) : (keyed key value).search (indent ++ w) = (keyed key value).search w := by
  apply search_skip
  intro s filled suffix
  obtain ⟨c, s, rfl⟩ := List.exists_cons_of_ne_nil filled
  exact first_white plain (indented c (suffix.subset List.mem_cons_self)) value _

/-- In an entry with the key, the search succeeds at the key or goes on behind the entry. -/
theorem search_entry {indent text : List Char} (plain : PlainKey key.toList) (indented : ∀ c ∈ indent, isSpace c = true)
    (silent : Silent key text) (ends : ∀ c ∈ tail.head?, isSpace c = true) (clear : Clear tail) (value : Regex) :
    (keyed key value).search (indent ++ (key.toList ++ ':' :: text) ++ tail) =
      ((keyed key value).first (key.toList ++ ':' :: (text ++ tail))).or ((keyed key value).search tail) := by
  obtain ⟨c, k, first⟩ := List.exists_cons_of_ne_nil plain.1
  have quiet : Silent key (k ++ ':' :: text) := by
    intro before spaces after white same
    have whole : [] ++ (key.toList ++ ':' :: text) = (c :: before) ++ (key.toList ++ (spaces ++ ':' :: after)) := by
      rw [List.nil_append, List.cons_append, ← same, first]
      rfl
    obtain ⟨-, nothing⟩ := key_of_entry plain (by simp) plain (fun _ => rfl) silent white whole
    cases nothing
  have start : key.toList ++ ':' :: (text ++ tail) = c :: (k ++ ':' :: text ++ tail) := by
    rw [first]
    simp
  rw [List.append_assoc, search_indented plain indented, List.append_assoc, List.cons_append, start, search,
    search_silent plain quiet ends clear]

end

/-! A line. -/

section
variable {line : Line} {rest : List Char} {key : String} {value : Regex}

theorem Line.Sound.silent_value (sound : line.Sound) : Silent key line.value := silent_of_not_colon sound.value

/-- The line break and what follows. -/
theorem clear_newline (settled : Settled rest) : Clear ('\n' :: rest) :=
  (clear_white isSpace_newline rest).mpr settled.clear

theorem Line.text_append (line : Line) (rest : List Char) :
    line.text ++ rest = line.indent ++ (line.key ++ ':' :: line.value) ++ '\n' :: rest := by
  simp [Line.text]

/-- A line with another key is passed over. -/
theorem search_other (sound : line.Sound) (settled : Settled rest) (plain : PlainKey key.toList)
    (other : ¬ key.toList <:+ line.key) :
    (keyed key value).search (line.text ++ rest) = (keyed key value).search rest := by
  have silent : Silent key (line.indent ++ (line.key ++ ':' :: line.value)) := by
    intro before spaces after white whole
    have same := key_of_entry plain sound.indent sound.key (fun inside => absurd inside other) sound.silent_value white whole
    exact other (same.1 ▸ List.suffix_rfl)
  rw [line.text_append, search_silent plain silent (by simp [isSpace]) (clear_newline settled)]
  exact search_indented plain isSpace_newline value rest

/-- In a line with the key, the search succeeds at the key or goes on behind the line. -/
theorem search_same (sound : line.Sound) (settled : Settled rest) (plain : PlainKey key.toList)
    (same : line.key = key.toList) :
    (keyed key value).search (line.text ++ rest) =
      ((keyed key value).first (key.toList ++ ':' :: (line.value ++ '\n' :: rest))).or ((keyed key value).search rest) := by
  have newline : (keyed key value).search ('\n' :: rest) = (keyed key value).search rest :=
    search_indented plain isSpace_newline value rest
  rw [line.text_append, same, search_entry plain sound.indent sound.silent_value (by simp [isSpace])
    (clear_newline settled), newline]

end

/-! A whole text. -/

theorem search_nil (key : String) (value : Regex) : (keyed key value).search [] = none := by
  cases found : (keyed key value).first [] with
  | none => exact found
  | some m =>
    obtain ⟨empty, accepts⟩ := first_sound found
    obtain ⟨spaces, spaces', u, -, -, -, text⟩ := accepts_keyed accepts
    have blank : m.text = [] := (List.append_eq_nil_iff.mp empty.symm).1
    simp [blank] at text

def textOf (lines : List Line) : List Char := lines.flatMap Line.text

theorem settled_textOf (lines : List Line) (sound : ∀ line ∈ lines, line.Sound) : Settled (textOf lines) := by
  cases lines with
  | nil => exact settled_nil
  | cons line lines => exact (sound line List.mem_cons_self).settled (textOf lines)

section
variable {key : String} (plain : PlainKey key.toList) {value : Regex}
include plain

theorem search_others (lines : List Line) (sound : ∀ line ∈ lines, line.Sound)
    (others : ∀ line ∈ lines, ¬ key.toList <:+ line.key) {rest : List Char} (settled : Settled rest) :
    (keyed key value).search (textOf lines ++ rest) = (keyed key value).search rest := by
  induction lines with
  | nil => rfl
  | cons line lines ih =>
    obtain ⟨here, later⟩ := List.forall_mem_cons.mp sound
    obtain ⟨other, others⟩ := List.forall_mem_cons.mp others
    have next : Settled (textOf lines ++ rest) := by
      cases lines with
      | nil => exact settled
      | cons line lines =>
        rw [textOf, List.flatMap_cons, List.append_assoc]
        exact (later line List.mem_cons_self).settled _
    rw [textOf, List.flatMap_cons, List.append_assoc]
    exact (search_other here next plain other).trans (ih later others)

/-- A search for the key of one line only finds what stands there. -/
theorem search_line {before after : List Line} {line : Line} (sound : ∀ l ∈ before ++ line :: after, l.Sound)
    (same : line.key = key.toList) (others : ∀ l ∈ before ++ after, ¬ key.toList <:+ l.key) :
    (keyed key value).search (textOf (before ++ line :: after)) =
      (keyed key value).first (key.toList ++ ':' :: (line.value ++ '\n' :: textOf after)) := by
  have here : line.Sound := sound line (by simp)
  have later : ∀ l ∈ after, l.Sound := fun l member => sound l (by simp [member])
  have settled : Settled (textOf after) := settled_textOf after later
  have nothing : (keyed key value).search (textOf after) = none := by
    rw [← List.append_nil (textOf after), search_others plain after later
      (fun l member => others l (List.mem_append_right _ member)) settled_nil]
    exact search_nil key value
  have split : textOf (before ++ line :: after) = textOf before ++ (line.text ++ textOf after) := by
    simp [textOf]
  rw [split, search_others plain before (fun l member => sound l (by simp [member]))
    (fun l member => others l (List.mem_append_left _ member)) (here.settled _),
    search_same here settled plain same, nothing, Option.or_none]

end

end Aegis.Policy
