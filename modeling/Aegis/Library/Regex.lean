import Mathlib.Data.List.Infix

/-! Regular expressions in the manner of ECMAScript.

The matcher tries the ways to match in a fixed order and takes the first: a repetition
takes as much as it can, and of two alternatives the left one goes first. A search tries
the places of a text from left to right. Only single characters are repeated, and there
is one capturing group.
-/

set_option autoImplicit false

namespace Aegis.Library

inductive Regex where
  | empty
  | one (p : Char → Bool)
  | many (p : Char → Bool)
  | seq (first second : Regex)
  | alt (left right : Regex)
  | group (body : Regex)

/-- The text matched, what the group captured, and the text behind the match. -/
structure Match where
  text : List Char
  group : Option (List Char)
  rest : List Char
  deriving DecidableEq, Repr

def Match.extend (m n : Match) : Match := ⟨m.text ++ n.text, n.group.or m.group, n.rest⟩

namespace Regex

def optional (r : Regex) : Regex := .alt r .empty

def plus (p : Char → Bool) : Regex := .seq (.one p) (.many p)

def word : List Char → Regex
  | [] => .empty
  | c :: rest => .seq (.one (· = c)) (word rest)

/-- Longest first. -/
def repeats (p : Char → Bool) : List Char → List Match
  | [] => [⟨[], none, []⟩]
  | c :: w =>
      if p c then (repeats p w).map (fun m => ⟨c :: m.text, none, m.rest⟩) ++ [⟨[], none, c :: w⟩]
      else [⟨[], none, c :: w⟩]

/-- The ways to match at the start of a text, in the order in which they are tried. -/
def ways : Regex → List Char → List Match
  | .empty, w => [⟨[], none, w⟩]
  | .one _, [] => []
  | .one p, c :: w => if p c then [⟨[c], none, w⟩] else []
  | .many p, w => repeats p w
  | .seq first second, w => (ways first w).flatMap fun m => (ways second m.rest).map m.extend
  | .alt left right, w => ways left w ++ ways right w
  | .group body, w => (ways body w).map fun m => { m with group := some m.text }

/-- The match at the start of a text, if there is one. -/
def first (r : Regex) (w : List Char) : Option Match := (r.ways w).head?

/-- `regex_search`. -/
def search (r : Regex) : List Char → Option Match
  | [] => r.first []
  | c :: w => (r.first (c :: w)).or (r.search w)

/-- `sregex_iterator`, for an expression that does not match the empty text. -/
def iterate (r : Regex) (w : List Char) : List Match :=
  match r.search w with
  | none => []
  | some m => if m.rest.length < w.length then m :: r.iterate m.rest else []
termination_by w.length

/-- What an expression stands for: the texts it matches, with what the group captures. -/
def Accepts : Regex → List Char → Option (List Char) → Prop
  | .empty, t, g => t = [] ∧ g = none
  | .one p, t, g => (∃ c, p c = true ∧ t = [c]) ∧ g = none
  | .many p, t, g => (∀ c ∈ t, p c = true) ∧ g = none
  | .seq first second, t, g => ∃ u v gu gv, first.Accepts u gu ∧ second.Accepts v gv ∧ t = u ++ v ∧ g = gv.or gu
  | .alt left right, t, g => left.Accepts t g ∨ right.Accepts t g
  | .group body, t, g => (∃ g', body.Accepts t g') ∧ g = some t

/-! The matcher finds no ways but those the meaning allows. -/

theorem repeats_sound (p : Char → Bool) {w : List Char} {m : Match} (member : m ∈ repeats p w) :
    w = m.text ++ m.rest ∧ (∀ c ∈ m.text, p c = true) ∧ m.group = none := by
  induction w generalizing m with
  | nil =>
    simp only [repeats, List.mem_singleton] at member
    subst member
    simp
  | cons c w ih =>
    unfold repeats at member
    by_cases admits : p c = true
    · rw [if_pos admits, List.mem_append, List.mem_map, List.mem_singleton] at member
      rcases member with ⟨n, inner, rfl⟩ | rfl
      · obtain ⟨whole, all, -⟩ := ih inner
        simp only [List.cons_append, ← whole, true_and, and_true]
        intro d here
        rcases List.mem_cons.mp here with rfl | later
        · exact admits
        · exact all d later
      · simp
    · rw [if_neg admits, List.mem_singleton] at member
      subst member
      simp

theorem ways_sound (r : Regex) {w : List Char} {m : Match} (member : m ∈ r.ways w) :
    w = m.text ++ m.rest ∧ r.Accepts m.text m.group := by
  induction r generalizing w m with
  | empty =>
    simp only [ways, List.mem_singleton] at member
    subst member
    exact ⟨rfl, rfl, rfl⟩
  | one p =>
    cases w with
    | nil => cases member
    | cons c w =>
      by_cases admits : p c = true
      · simp only [ways, admits, if_true, List.mem_singleton] at member
        subst member
        exact ⟨rfl, ⟨c, admits, rfl⟩, rfl⟩
      · simp [ways, admits] at member
  | many p => exact repeats_sound p member
  | seq first second ihFirst ihSecond =>
    simp only [ways, List.mem_flatMap, List.mem_map] at member
    obtain ⟨m, here, n, there, rfl⟩ := member
    obtain ⟨whole, accepts⟩ := ihFirst here
    obtain ⟨whole', accepts'⟩ := ihSecond there
    refine ⟨?_, m.text, n.text, m.group, n.group, accepts, accepts', rfl, rfl⟩
    rw [whole, whole']
    simp [Match.extend]
  | alt left right ihLeft ihRight =>
    simp only [ways, List.mem_append] at member
    rcases member with here | here
    · exact ⟨(ihLeft here).1, .inl (ihLeft here).2⟩
    · exact ⟨(ihRight here).1, .inr (ihRight here).2⟩
  | group body ih =>
    simp only [ways, List.mem_map] at member
    obtain ⟨m, here, rfl⟩ := member
    obtain ⟨whole, accepts⟩ := ih here
    exact ⟨whole, ⟨m.group, accepts⟩, rfl⟩

section
variable {r : Regex} {w : List Char} {m : Match}

theorem first_sound (found : r.first w = some m) : w = m.text ++ m.rest ∧ r.Accepts m.text m.group :=
  r.ways_sound (List.mem_of_mem_head? found)

theorem search_sound (found : r.search w = some m) :
    ∃ before, w = before ++ (m.text ++ m.rest) ∧ r.Accepts m.text m.group := by
  induction w with
  | nil => exact ⟨[], first_sound found⟩
  | cons c w ih =>
    rcases Option.or_eq_some_iff.mp found with here | ⟨-, later⟩
    · exact ⟨[], first_sound here⟩
    · obtain ⟨before, whole, accepts⟩ := ih later
      exact ⟨c :: before, by rw [whole]; rfl, accepts⟩

theorem search_of_first (found : r.first w = some m) : r.search w = some m := by
  cases w with
  | nil => exact found
  | cons c w => simp [search, found]

/-- A search passes over a stretch in which nothing matches. -/
theorem search_skip {skipped : List Char} (nowhere : ∀ s, s ≠ [] → s <:+ skipped → r.first (s ++ w) = none) :
    r.search (skipped ++ w) = r.search w := by
  induction skipped with
  | nil => rfl
  | cons c skipped ih =>
    have here := nowhere (c :: skipped) (List.cons_ne_nil _ _) List.suffix_rfl
    simp only [List.cons_append] at here ⊢
    rw [search, here, Option.none_or]
    exact ih fun s filled suffix => nowhere s filled (suffix.trans (List.suffix_cons c skipped))

end

/-- A search succeeds at the first place where the expression matches. -/
theorem search_eq_some_iff {r : Regex} {w : List Char} {m : Match} :
    r.search w = some m ↔
      ∃ s, s <:+ w ∧ r.first s = some m ∧ ∀ t, t <:+ w → s.length < t.length → r.first t = none := by
  induction w with
  | nil => simp [search]
  | cons c w ih =>
    rw [search, Option.or_eq_some_iff, ih]
    constructor
    · rintro (here | ⟨nothing, s, suffix, found, earlier⟩)
      · exact ⟨c :: w, List.suffix_rfl, here, fun t inside longer => absurd inside.length_le (Nat.not_le.mpr longer)⟩
      · refine ⟨s, suffix.trans (List.suffix_cons c w), found, fun t inside longer => ?_⟩
        rcases List.suffix_cons_iff.mp inside with rfl | inside
        · exact nothing
        · exact earlier t inside longer
    · rintro ⟨s, suffix, found, earlier⟩
      rcases List.suffix_cons_iff.mp suffix with rfl | inside
      · exact .inl found
      · refine .inr ⟨earlier _ List.suffix_rfl (Nat.lt_succ_of_le inside.length_le), s, inside, found, fun t further => ?_⟩
        exact earlier t (further.trans (List.suffix_cons c w))

theorem search_eq_none_iff {r : Regex} {w : List Char} : r.search w = none ↔ ∀ s, s <:+ w → r.first s = none := by
  induction w with
  | nil => simp [search]
  | cons c w ih =>
    simp only [search, Option.or_eq_none_iff, ih, List.suffix_cons_iff, forall_eq_or_imp]

/-! Which way goes first. -/

section
variable {p : Char → Bool} {w : List Char}

theorem first_empty (w : List Char) : empty.first w = some ⟨[], none, w⟩ := rfl

theorem first_one {c : Char} (admits : p c = true) (w : List Char) : (one p).first (c :: w) = some ⟨[c], none, w⟩ := by
  simp [first, ways, admits]

theorem first_one_refused {c : Char} (refuses : p c = false) (w : List Char) : (one p).first (c :: w) = none := by
  simp [first, ways, refuses]

theorem first_many (p : Char → Bool) (w : List Char) :
    (many p).first w = some ⟨w.takeWhile p, none, w.dropWhile p⟩ := by
  show (repeats p w).head? = _
  induction w with
  | nil => rfl
  | cons c w ih =>
    by_cases admits : p c = true
    · simp [repeats, admits, ih]
    · simp [repeats, admits]

theorem first_alt (left right : Regex) (w : List Char) :
    (alt left right).first w = (left.first w).or (right.first w) := by
  simp [first, ways, List.head?_append]

theorem first_group (body : Regex) (w : List Char) :
    (group body).first w = (body.first w).map fun m => { m with group := some m.text } := by
  simp [first, ways]

theorem first_seq {a b : Regex} {m n : Match} (here : a.first w = some m) (there : b.first m.rest = some n) :
    (seq a b).first w = some (m.extend n) := by
  obtain ⟨others, ways⟩ := List.head?_eq_some_iff.mp here
  simp only [first] at there
  simp [first, Regex.ways, ways, List.head?_append, there]

/-- A repetition that meets another kind of character takes exactly what is before it. -/
theorem first_many_append {run rest : List Char} (all : ∀ c ∈ run, p c = true)
    (ends : ∀ c ∈ rest.head?, p c = false) : (many p).first (run ++ rest) = some ⟨run, none, rest⟩ := by
  rw [first_many, List.takeWhile_append_of_pos all, List.dropWhile_append_of_pos all]
  cases rest with
  | nil => simp
  | cons c rest => simp [ends c rfl]

theorem first_plus {run rest : List Char} (filled : run ≠ []) (all : ∀ c ∈ run, p c = true)
    (ends : ∀ c ∈ rest.head?, p c = false) : (plus p).first (run ++ rest) = .some ⟨run, none, rest⟩ := by
  obtain ⟨c, run, rfl⟩ := List.exists_cons_of_ne_nil filled
  have head := first_one (all c List.mem_cons_self) (run ++ rest)
  exact first_seq head (first_many_append (fun d member => all d (List.mem_cons_of_mem _ member)) ends)

theorem first_word (k w : List Char) : (word k).first (k ++ w) = some ⟨k, none, w⟩ := by
  induction k with
  | nil => rfl
  | cons c k ih =>
    have head : (one (· = c)).first (c :: (k ++ w)) = some ⟨[c], none, k ++ w⟩ := first_one (by simp) _
    exact first_seq head ih

end

theorem accepts_word {k t : List Char} {g : Option (List Char)} (accepts : (word k).Accepts t g) :
    t = k ∧ g = none := by
  induction k generalizing t g with
  | nil => exact accepts
  | cons c k ih =>
    obtain ⟨u, v, gu, gv, ⟨⟨d, same, rfl⟩, rfl⟩, rest, rfl, rfl⟩ := accepts
    obtain ⟨rfl, rfl⟩ := ih rest
    exact ⟨by simpa using same, rfl⟩

theorem accepts_plus {p : Char → Bool} {t : List Char} {g : Option (List Char)} (accepts : (plus p).Accepts t g) :
    t ≠ [] ∧ (∀ c ∈ t, p c = true) ∧ g = none := by
  obtain ⟨u, v, gu, gv, ⟨⟨c, admits, rfl⟩, rfl⟩, ⟨all, rfl⟩, rfl, rfl⟩ := accepts
  exact ⟨List.cons_ne_nil _ _, List.forall_mem_cons.mpr ⟨admits, all⟩, rfl⟩

theorem iterate_none {r : Regex} {w : List Char} (nowhere : r.search w = none) : r.iterate w = [] := by
  rw [iterate, nowhere]

theorem iterate_some {r : Regex} {w : List Char} {m : Match} (found : r.search w = some m)
    (shorter : m.rest.length < w.length) : r.iterate w = m :: r.iterate m.rest := by
  rw [iterate, found]
  simp [shorter]

end Regex

end Aegis.Library
