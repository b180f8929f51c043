import Mathlib.Data.List.Perm.Basic

/-! Lists in which the last item of a key wins.

Items without a key take no part. What is left of a list is known, up to its order, from its
items without a key and from the last item of each key.
-/

set_option autoImplicit false

namespace Aegis.Library

variable {A K : Type} [DecidableEq K] (key : A → Option K)

def keepLast : List A → List A
  | [] => []
  | item :: rest =>
    if (key item).isSome ∧ key item ∈ rest.map key then keepLast rest else item :: keepLast rest

def lastWith (wanted : K) : List A → Option A
  | [] => none
  | item :: rest => (lastWith wanted rest).or (if key item = some wanted then some item else none)

variable {key} {wanted : K} {item : A}

theorem lastWith_append (front back : List A) :
    lastWith key wanted (front ++ back) = (lastWith key wanted back).or (lastWith key wanted front) := by
  induction front with
  | nil => simp [lastWith]
  | cons item front ih => rw [List.cons_append, lastWith, ih, lastWith, Option.or_assoc]

theorem lastWith_concat (front : List A) (named : key item = some wanted) :
    lastWith key wanted (front ++ [item]) = some item := by
  simp [lastWith_append, lastWith, named]

theorem lastWith_mem {items : List A} (last : lastWith key wanted items = some item) :
    item ∈ items ∧ key item = some wanted := by
  induction items with
  | nil => cases last
  | cons head items ih =>
    rw [lastWith, Option.or_eq_some_iff] at last
    rcases last with later | ⟨-, first⟩
    · exact ⟨List.mem_cons_of_mem _ (ih later).1, (ih later).2⟩
    · split at first
      · next named =>
        cases first
        exact ⟨List.mem_cons_self, named⟩
      · cases first

theorem lastWith_eq_none {items : List A} : lastWith key wanted items = none ↔ some wanted ∉ items.map key := by
  induction items with
  | nil => simp [lastWith]
  | cons head items ih =>
    rw [lastWith, Option.or_eq_none_iff, ih, List.map_cons, List.mem_cons, not_or, and_comm]
    simp [eq_comm]

theorem lastWith_of_agree {items : List A} (member : item ∈ items) (named : key item = some wanted)
    (agree : ∀ other ∈ items, key other = some wanted → other = item) : lastWith key wanted items = some item := by
  cases last : lastWith key wanted items with
  | none => exact absurd (List.mem_map.mpr ⟨item, member, named⟩) (lastWith_eq_none.mp last)
  | some other =>
    have found := lastWith_mem last
    rw [agree other found.1 found.2]

/-! What is kept. -/

theorem mem_keepLast (items : List A) (named : key item = some wanted) :
    item ∈ keepLast key items ↔ lastWith key wanted items = some item := by
  induction items with
  | nil => simp [keepLast, lastWith]
  | cons head items ih =>
    by_cases same : key head = some wanted
    · by_cases again : some wanted ∈ items.map key
      · -- a later item of the key exists, and it decides both sides
        obtain ⟨later, last⟩ := Option.ne_none_iff_exists'.mp fun missing => lastWith_eq_none.mp missing again
        rw [keepLast, if_pos (by simp [same, again]), ih, lastWith, last, Option.some_or]
      · have missing := lastWith_eq_none.mpr again
        rw [keepLast, if_neg (by simp [same, again]), List.mem_cons, ih, lastWith, missing]
        simp [same, eq_comm]
    · have different : item ≠ head := fun equal => same (equal ▸ named)
      rw [lastWith, if_neg same, Option.or_none, ← ih, keepLast]
      split
      · rfl
      · simp [different]

theorem filter_keepLast (items : List A) :
    (keepLast key items).filter (fun item => (key item).isNone) = items.filter fun item => (key item).isNone := by
  induction items with
  | nil => rfl
  | cons head items ih =>
    rw [keepLast]
    split
    · next again => rw [ih, List.filter_cons, if_neg (by simp [Option.isSome_iff_ne_none.mp again.1])]
    · rw [List.filter_cons, List.filter_cons, ih]

theorem nodup_keepLast (items : List A) :
    ((keepLast key items).filter fun item => (key item).isSome).Nodup := by
  induction items with
  | nil => exact List.nodup_nil
  | cons head items ih =>
    rw [keepLast]
    split
    · exact ih
    · next single =>
      rw [List.filter_cons]
      split
      · next isSome =>
        rw [List.nodup_cons]
        refine ⟨fun member => single ⟨isSome, ?_⟩, ih⟩
        obtain ⟨wanted, named⟩ := Option.isSome_iff_exists.mp isSome
        have kept := (mem_keepLast items named).mp (List.mem_filter.mp member).1
        exact List.mem_map_of_mem (lastWith_mem kept).1
      · exact ih

theorem find?_keepLast (items : List A) :
    (keepLast key items).find? (fun item => key item = some wanted) = lastWith key wanted items := by
  cases last : lastWith key wanted items with
  | none =>
    rw [List.find?_eq_none]
    intro item member named
    rw [decide_eq_true_eq] at named
    rw [mem_keepLast items named, last] at member
    cases member
  | some item =>
    cases found : (keepLast key items).find? (fun item => key item = some wanted) with
    | none =>
      have named := (lastWith_mem last).2
      exact absurd (by simpa using named) (List.find?_eq_none.mp found item ((mem_keepLast items named).mpr last))
    | some other =>
      have named : key other = some wanted := by simpa using List.find?_some found
      rw [← last, (mem_keepLast items named).mp (List.mem_of_find?_eq_some found)]

theorem keepLast_perm_iff {items others : List A}
    (bare : items.filter (fun item => (key item).isNone) = others.filter fun item => (key item).isNone) :
    (keepLast key items).Perm (keepLast key others) ↔
      ∀ wanted, lastWith key wanted items = lastWith key wanted others := by
  constructor
  · intro perm wanted
    refine Option.ext fun item => ⟨fun last => ?_, fun last => ?_⟩
    · have named := (lastWith_mem last).2
      exact (mem_keepLast others named).mp (perm.mem_iff.mp ((mem_keepLast items named).mpr last))
    · have named := (lastWith_mem last).2
      exact (mem_keepLast items named).mp (perm.mem_iff.mpr ((mem_keepLast others named).mpr last))
  · intro same
    -- the items with a key are the same set without repetition, those without are the same list
    have named : ((keepLast key items).filter fun item => (key item).isSome).Perm
        ((keepLast key others).filter fun item => (key item).isSome) := by
      rw [List.perm_ext_iff_of_nodup (nodup_keepLast items) (nodup_keepLast others)]
      intro item
      rw [List.mem_filter, List.mem_filter]
      refine and_congr_left fun isSome => ?_
      obtain ⟨wanted, named⟩ := Option.isSome_iff_exists.mp isSome
      rw [mem_keepLast items named, mem_keepLast others named, same]
    have parted (kept : List A) : (kept.filter (fun item => (key item).isSome) ++
        kept.filter fun item => (key item).isNone).Perm kept := by
      simpa using List.filter_append_perm (fun item => (key item).isSome) kept
    refine (parted _).symm.trans (.trans ?_ (parted _))
    rw [filter_keepLast, filter_keepLast, bare]
    exact named.append_right _

end Aegis.Library
