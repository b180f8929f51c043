import Aegis.Library.Path

/-! A directory tree and the operations of `std::filesystem` that change it. -/

set_option autoImplicit false

namespace Aegis.Library

inductive Node where
  | directory
  | file (text : String)
  deriving DecidableEq, Repr

/-- What stands at each location, if anything does. -/
def FileTree := Location → Option Node

namespace FileTree

def empty : FileTree := fun _ => none

/-- The directories of the list that are not there yet, in the order they get made. -/
def missing (tree : FileTree) (directories : List Location) : List Location :=
  (directories.filter fun d => (tree d).isNone).eraseDups

/-- The directories `create_directories` makes: all that are missing, or those it got
to before an error. -/
def created (tree : FileTree) (directories : List Location) : Option Nat → List Location
  | none => tree.missing directories
  | some count => (tree.missing directories).take count

def withDirectories (tree : FileTree) (made : List Location) : FileTree :=
  fun l => if l ∈ made then some .directory else tree l

def write (tree : FileTree) (place : Location) (text : String) : FileTree :=
  fun l => if l = place then some (.file text) else tree l

def remove (tree : FileTree) (place : Location) : FileTree :=
  fun l => if l = place then none else tree l

def removeAll (tree : FileTree) (root : Location) : FileTree :=
  fun l => if l.Within root then none else tree l

theorem mem_missing {tree : FileTree} {directories : List Location} {l : Location} :
    l ∈ tree.missing directories ↔ l ∈ directories ∧ tree l = none := by
  simp [missing, List.mem_eraseDups]

theorem mem_of_created {tree : FileTree} {directories : List Location} {answer : Option Nat}
    {l : Location} (member : l ∈ tree.created directories answer) :
    l ∈ directories ∧ tree l = none := by
  cases answer with
  | none => exact mem_missing.mp member
  | some count => exact mem_missing.mp (List.mem_of_mem_take member)

theorem withDirectories_append (tree : FileTree) (first second : List Location) :
    (tree.withDirectories first).withDirectories second = tree.withDirectories (first ++ second) := by
  funext l
  by_cases late : l ∈ second
  · simp [withDirectories, late]
  · simp [withDirectories, late]

theorem mem_missing_of_withDirectories {tree : FileTree} {made directories : List Location} {l : Location}
    (member : l ∈ (tree.withDirectories made).missing directories) : l ∈ tree.missing directories := by
  obtain ⟨listed, absent⟩ := mem_missing.mp member
  refine mem_missing.mpr ⟨listed, ?_⟩
  by_cases here : l ∈ made
  · simp [withDirectories, here] at absent
  · simpa [withDirectories, here] using absent

/-- Some directories were made, and some trees removed after that. -/
structure Wiped (tree : FileTree) (made : List Location) (removed : Location → Prop) (final : FileTree) : Prop where
  fresh : ∀ l ∈ made, tree l = none
  gone : ∀ l, removed l → final l = none
  kept : ∀ l, ¬ removed l → final l = tree.withDirectories made l

/-- A region is as it was exactly when nothing of it stood in the removed trees and nothing
new is left of it outside them. -/
theorem Wiped.restored_iff {region removed : Location → Prop} {tree final : FileTree} {made : List Location}
    (wiped : Wiped tree made removed final) :
    (∀ l, region l → final l = tree l) ↔
      (∀ l, region l → removed l → tree l = none) ∧ (∀ l ∈ made, region l → removed l) := by
  constructor
  · intro same
    refine ⟨fun l here gone => (same l here).symm.trans (wiped.gone l gone), fun l member here => ?_⟩
    by_contra stays
    have left : final l = some .directory := by
      rw [wiped.kept l stays]
      simp [withDirectories, member]
    rw [same l here, wiped.fresh l member] at left
    cases left
  · intro clean
    obtain ⟨empty, covered⟩ := clean
    intro l here
    by_cases gone : removed l
    · rw [wiped.gone l gone, empty l here gone]
    · have new : l ∉ made := fun member => gone (covered l member here)
      rw [wiped.kept l gone]
      simp [withDirectories, new]

end FileTree

end Aegis.Library
