import Mathlib.Data.List.TakeWhile

/-! The maximal runs of one kind of letter in a text. -/

set_option autoImplicit false

namespace Aegis.Library

variable {A : Type} {p : A → Bool}

theorem forall_head_cons {c : A} (other : p c = false) (rest : List A) : ∀ d ∈ (c :: rest).head?, p d = false := by
  simpa using other

/-- A nonempty stretch of letters of the kind that cannot be made longer. -/
def MaximalRun (p : A → Bool) (run text : List A) : Prop :=
  run ≠ [] ∧ (∀ c ∈ run, p c = true) ∧ ∃ before after, text = before ++ run ++ after ∧
    (∀ c ∈ before.getLast?, p c = false) ∧ ∀ c ∈ after.head?, p c = false

def words (p : A → Bool) (text : List A) : List (List A) := (text.splitOnP fun c => !p c).filter (· ≠ [])

theorem words_nil : words p [] = [] := by
  simp [words]

theorem words_skip {c : A} (other : p c = false) (w : List A) : words p (c :: w) = words p w := by
  simp [words, List.splitOnP_cons_eq_if_modifyHead, other]

theorem words_run {run rest : List A} (filled : run ≠ []) (all : ∀ c ∈ run, p c = true)
    (ends : ∀ c ∈ rest.head?, p c = false) : words p (run ++ rest) = run :: words p rest := by
  have inside : ∀ c ∈ run, (!p c) = false := by simpa using all
  cases rest with
  | nil =>
    rw [List.append_nil, words, List.splitOnP_eq_singleton inside]
    simp [words, filled]
  | cons c rest =>
    have other : p c = false := ends c rfl
    rw [words_skip other, words, List.splitOnP_append_cons_of_forall_mem inside c (by simp [other])]
    simp [words, filled]

/-- A text is made up of single other letters and of maximal runs. -/
theorem run_induction {motive : List A → Prop} (p : A → Bool) (nil : motive [])
    (skip : ∀ c w, p c = false → motive w → motive (c :: w))
    (run : ∀ r w, r ≠ [] → (∀ c ∈ r, p c = true) → (∀ c ∈ w.head?, p c = false) → motive w → motive (r ++ w))
    (w : List A) : motive w := by
  induction size : w.length using Nat.strongRecOn generalizing w with
  | _ size' ih =>
    subst size
    cases w with
    | nil => exact nil
    | cons c w =>
      cases kind : p c with
      | false => exact skip c w kind (ih _ (by simp) w rfl)
      | true =>
        have shorter : ((c :: w).dropWhile p).length < (c :: w).length := by
          have bound := List.length_dropWhile_le p w
          simp only [List.dropWhile_cons, kind, if_true, List.length_cons]
          omega
        have whole : (c :: w).takeWhile p ++ (c :: w).dropWhile p = c :: w := List.takeWhile_append_dropWhile
        rw [← whole]
        apply run
        · simp [kind]
        · exact fun d member => List.mem_takeWhile_imp member
        · intro d head
          have stops := List.head?_dropWhile_not p (c :: w)
          rw [Option.mem_def.mp head] at stops
          simpa using stops
        · exact ih _ shorter _ rfl

theorem maximalRun_of_mem_words {r : List A} (w : List A) (member : r ∈ words p w) : MaximalRun p r w := by
  induction w using run_induction p with
  | nil =>
    rw [words_nil] at member
    cases member
  | skip c w other ih =>
    rw [words_skip other] at member
    obtain ⟨filled, all, before, after, rfl, start, ends⟩ := ih member
    refine ⟨filled, all, c :: before, after, rfl, ?_, ends⟩
    cases before with
    | nil => simpa using other
    | cons d before => simpa using start
  | run first w filled all stops ih =>
    rw [words_run filled all stops, List.mem_cons] at member
    rcases member with rfl | later
    · exact ⟨filled, all, [], w, rfl, by simp, stops⟩
    · obtain ⟨filled', all', before, after, rfl, start, ends⟩ := ih later
      refine ⟨filled', all', first ++ before, after, by simp, ?_, ends⟩
      cases before with
      | nil =>
        -- The text behind a run does not start with a letter of the kind.
        obtain ⟨c, r, rfl⟩ := List.exists_cons_of_ne_nil filled'
        have yes := all' c List.mem_cons_self
        have no := stops c rfl
        rw [yes] at no
        cases no
      | cons d before =>
        intro c last
        rw [List.getLast?_append, List.getLast?_cons, Option.some_or] at last
        exact start c (by rw [List.getLast?_cons]; exact last)

end Aegis.Library
