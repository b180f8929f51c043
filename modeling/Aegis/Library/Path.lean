import Mathlib.Data.List.Infix
import Mathlib.Data.List.TakeWhile

/-! POSIX paths and the locations they denote.

A path keeps what was written; a location is its lexical normal form, reached by
walking the components one by one. Joining a rooted right-hand side discards the
left-hand side, as `std::filesystem` has it.
-/

set_option autoImplicit false

namespace Aegis.Library

/-- A path and its components, as a system call gets them. An empty last component is a trailing
separator. -/
structure Path where
  rooted : Bool
  names : List String
  deriving DecidableEq, Repr

namespace Path

/-- What a C string keeps of a text. -/
def cString (text : String) : List Char := text.toList.takeWhile (· ≠ '\x00')

/-- Runs of separators count once; one at the end leaves an empty component. A path goes to the
system calls as a C string, so nothing behind a NUL counts. -/
def parse (text : String) : Path :=
  let chars := cString text
  let pieces := (chars.splitOn '/').map String.ofList
  let full := pieces.filter (· ≠ "")
  { rooted := chars.head? = some '/'
    names := if full ≠ [] ∧ pieces.getLast? = some "" then full ++ [""] else full }

def isEmpty (p : Path) : Bool := p.names.isEmpty

theorem mem_of_splitOnP {p : Char → Bool} {text piece : List Char} {c : Char} (member : piece ∈ text.splitOnP p)
    (inside : c ∈ piece) : c ∈ text := by
  induction text generalizing piece with
  | nil =>
    rw [List.splitOnP_nil, List.mem_singleton] at member
    rwa [member] at inside
  | cons d text ih =>
    rw [List.splitOnP_cons_eq_if_modifyHead] at member
    split at member
    · rcases List.mem_cons.mp member with rfl | later
      · cases inside
      · exact List.mem_cons_of_mem d (ih later inside)
    · cases pieces : text.splitOnP p with
      | nil => simp [pieces] at member
      | cons first rest =>
        rw [pieces] at ih member
        rcases List.mem_cons.mp member with rfl | later
        · rcases List.mem_cons.mp inside with rfl | inside
          · exact List.mem_cons_self
          · exact List.mem_cons_of_mem d (ih List.mem_cons_self inside)
        · exact List.mem_cons_of_mem d (ih (List.mem_cons_of_mem _ later) inside)

/-- No component of a path that is read has a NUL. -/
theorem nul_notMem_parse {text name : String} (member : name ∈ (parse text).names) : '\x00' ∉ name.toList := by
  intro nul
  have piece : name ∈ ((cString text).splitOn '/').map String.ofList := by
    unfold parse at member
    dsimp only at member
    split at member
    · rcases List.mem_append.mp member with full | empty
      · exact List.mem_of_mem_filter full
      · rw [List.mem_singleton.mp empty] at nul
        cases nul
    · exact List.mem_of_mem_filter member
  obtain ⟨chars, inside, rfl⟩ := List.mem_map.mp piece
  rw [String.toList_ofList] at nul
  have kept := List.mem_takeWhile_imp (mem_of_splitOnP inside nul)
  simp at kept

/-- The components without the trailing separator. -/
def trimmed (p : Path) : List String :=
  if p.names.getLast? = some "" then p.names.dropLast else p.names

def join (p q : Path) : Path :=
  if q.rooted then q
  else if q.isEmpty then { p with names := if p.isEmpty then [] else p.trimmed ++ [""] }
  else { p with names := p.trimmed ++ q.names }

/-- The last component, empty behind a trailing separator. -/
def filename (p : Path) : String := p.names.getLast?.getD ""

def parentPath (p : Path) : Path := { p with names := p.names.dropLast }

/-- The file name up to its last dot, unless that is its first character. -/
def stem (p : Path) : String :=
  let name := p.filename.toList
  if p.filename = "." ∨ p.filename = ".." then p.filename
  else if '.' ∈ name.tail then String.ofList (name.reverse.dropWhile (· ≠ '.')).tail.reverse
  else p.filename

example : parse "a/b\x00c/d" = parse "a/b" := by decide
example : (parse "policy/strict_python.yaml").filename = "strict_python.yaml" := by decide
example : (mk false ["policy", "a.b.yaml"]).stem = "a.b" := by decide
example : (mk false [".hidden"]).stem = ".hidden" := by decide

instance : HDiv Path String Path := ⟨fun p text => p.join (parse text)⟩

theorem div_eq (p : Path) (text : String) : p / text = p.join (parse text) := rfl

end Path

/-- A place in the directory tree: no `.`, no empty component, and `..` only as far as
a relative path climbs out of its own start. -/
structure Location where
  rooted : Bool
  names : List String
  deriving DecidableEq, Repr

/-- A component that names an entry of its directory. -/
def Ordinary (name : String) : Prop := name ≠ "" ∧ name ≠ "." ∧ name ≠ ".."

instance (name : String) : Decidable (Ordinary name) := inferInstanceAs (Decidable (_ ∧ _ ∧ _))

namespace Location

/-- The place itself, whatever it is called. -/
def start (rooted : Bool) : Location := ⟨rooted, []⟩

/-- The directory above. The root is its own parent. -/
def parent (l : Location) : Location :=
  match l.names.getLast? with
  | none => if l.rooted then l else ⟨false, [".."]⟩
  | some last => if last = ".." then { l with names := l.names ++ [".."] }
      else { l with names := l.names.dropLast }

def enter (l : Location) (name : String) : Location :=
  if name = ".." then l.parent
  else if Ordinary name then { l with names := l.names ++ [name] }
  else l

def walk (l : Location) (names : List String) : Location := names.foldl enter l

/-- The entries named on a walk, outermost first. -/
def entries (l : Location) : List String → List Location
  | [] => []
  | name :: rest =>
      if Ordinary name then l.enter name :: (l.enter name).entries rest
      else (l.enter name).entries rest

/-- At the given place or under it. -/
def Within (l root : Location) : Prop :=
  l.rooted = root.rooted ∧ ∃ rest, ".." ∉ rest ∧ l.names = root.names ++ rest

/-- Strictly under the given place. -/
def Below (l root : Location) : Prop :=
  l.rooted = root.rooted ∧ ∃ rest, rest ≠ [] ∧ ".." ∉ rest ∧ l.names = root.names ++ rest

theorem within_iff (l root : Location) :
    l.Within root ↔ l.rooted = root.rooted ∧ root.names <+: l.names ∧
      ".." ∉ l.names.drop root.names.length := by
  constructor
  · rintro ⟨same, rest, plain, names⟩
    refine ⟨same, ⟨rest, names.symm⟩, ?_⟩
    rw [names, List.drop_left]
    exact plain
  · rintro ⟨same, ⟨rest, names⟩, plain⟩
    rw [← names, List.drop_left] at plain
    exact ⟨same, rest, plain, names.symm⟩

theorem below_iff (l root : Location) : l.Below root ↔ l.Within root ∧ l.names ≠ root.names := by
  constructor
  · rintro ⟨same, rest, deeper, plain, names⟩
    refine ⟨⟨same, rest, plain, names⟩, fun equal => deeper ?_⟩
    rw [equal] at names
    exact List.append_right_eq_self.mp names.symm
  · rintro ⟨⟨same, rest, plain, names⟩, differ⟩
    refine ⟨same, rest, ?_, plain, names⟩
    rintro rfl
    exact differ (by simpa using names)

instance (l root : Location) : Decidable (l.Within root) :=
  decidable_of_iff _ (within_iff l root).symm

instance (l root : Location) : Decidable (l.Below root) :=
  decidable_of_iff _ (below_iff l root).symm

theorem within_refl (l : Location) : l.Within l := ⟨rfl, [], by simp, by simp⟩

theorem Below.within {l root : Location} (below : l.Below root) : l.Within root :=
  ((below_iff l root).mp below).1

theorem Within.below {l middle root : Location} (within : l.Within middle) (below : middle.Below root) :
    l.Below root := by
  obtain ⟨same, rest, plain, names⟩ := within
  obtain ⟨same', rest', deeper, plain', names'⟩ := below
  refine ⟨same.trans same', rest' ++ rest, ?_, ?_, ?_⟩
  · simp [deeper]
  · simp [plain, plain']
  · rw [names, names', List.append_assoc]

theorem enter_ordinary {l : Location} {name : String} (ordinary : Ordinary name) :
    l.enter name = ⟨l.rooted, l.names ++ [name]⟩ := by
  simp [enter, ordinary, ordinary.2.2]

@[simp] theorem enter_empty (l : Location) : l.enter "" = l := by
  simp [enter, Ordinary]

/-- Entering a named entry leads one level down and stays in every tree. -/
theorem Within.enter {l root : Location} {name : String} (within : l.Within root)
    (ordinary : Ordinary name) : (l.enter name).Below root := by
  obtain ⟨same, rest, plain, names⟩ := within
  rw [enter_ordinary ordinary]
  refine ⟨same, rest ++ [name], by simp, ?_, by simp [names]⟩
  simpa [plain] using Ne.symm ordinary.2.2

/-- Neither place is the other or under it. -/
def Apart (l m : Location) : Prop := ¬ l.Within m ∧ ¬ m.Within l

instance (l m : Location) : Decidable (l.Apart m) := inferInstanceAs (Decidable (_ ∧ _))

theorem Apart.symm {l m : Location} (apart : l.Apart m) : m.Apart l := ⟨apart.2, apart.1⟩

/-- Trees that are apart have no place in common. -/
theorem Apart.not_within {l m place : Location} (apart : l.Apart m) (inside : place.Within l) : ¬ place.Within m := by
  obtain ⟨same, rest, plain, names⟩ := inside
  rintro ⟨same', rest', plain', names'⟩
  rcases List.append_eq_append_iff.mp (names.symm.trans names') with ⟨between, deeper, below⟩ | ⟨between, deeper, below⟩
  · refine apart.2 ⟨same'.symm.trans same, between, fun up => plain ?_, deeper⟩
    rw [below]
    exact List.mem_append_left _ up
  · refine apart.1 ⟨same.symm.trans same', between, fun up => plain' ?_, deeper⟩
    rw [below]
    exact List.mem_append_left _ up

theorem Within.trans {l middle root : Location} (within : l.Within middle) (within' : middle.Within root) :
    l.Within root := by
  obtain ⟨same, rest, plain, names⟩ := within
  obtain ⟨same', rest', plain', names'⟩ := within'
  refine ⟨same.trans same', rest' ++ rest, ?_, ?_⟩
  · simp [plain, plain']
  · rw [names, names', List.append_assoc]

/-- Places in trees that are apart are apart. -/
theorem Apart.mono {l m l' m' : Location} (apart : l.Apart m) (within : l'.Within l) (within' : m'.Within m) :
    l'.Apart m' :=
  ⟨fun inside => apart.not_within within (inside.trans within'),
    fun inside => apart.symm.not_within within' (inside.trans within)⟩

/-- Two entries of one directory. -/
theorem apart_enter {l : Location} {first second : String} (ordinary : Ordinary first) (ordinary' : Ordinary second)
    (different : first ≠ second) : (l.enter first).Apart (l.enter second) := by
  rw [enter_ordinary ordinary, enter_ordinary ordinary']
  constructor
  · rintro ⟨-, rest, -, names⟩
    rw [List.append_assoc, List.append_cancel_left_eq] at names
    exact different (List.cons.inj names).1
  · rintro ⟨-, rest, -, names⟩
    rw [List.append_assoc, List.append_cancel_left_eq] at names
    exact different (List.cons.inj names).1.symm

@[simp] theorem walk_nil (l : Location) : l.walk [] = l := rfl

@[simp] theorem walk_cons (l : Location) (name : String) (rest : List String) :
    l.walk (name :: rest) = (l.enter name).walk rest := rfl

theorem walk_append (l : Location) (first second : List String) :
    l.walk (first ++ second) = (l.walk first).walk second := List.foldl_append

end Location

namespace Path

/-- Where the path leads, by its components alone. -/
def location (p : Path) : Location := (Location.start p.rooted).walk p.names

/-- The directories on the way, outermost first. -/
def directories (p : Path) : List Location := (Location.start p.rooted).entries p.names

/-- Where `text` leads when it is read in the directory `p`. -/
def destination (p : Path) (text : String) : Location :=
  if (parse text).rooted then (parse text).location else p.location.walk (parse text).names

theorem trimmed_append (p : Path) : p.trimmed = p.names ∨ p.names = p.trimmed ++ [""] := by
  unfold trimmed
  split
  · rename_i last
    exact .inr (List.dropLast_append_getLast? "" last).symm
  · exact .inl rfl

theorem walk_trimmed (p : Path) (l : Location) : l.walk p.trimmed = l.walk p.names := by
  rcases p.trimmed_append with same | same
  · rw [same]
  · rw [same, Location.walk_append]
    simp

theorem join_names {p q : Path} (relative : q.rooted = false) :
    (p.join q).rooted = p.rooted ∧ ∀ l : Location, l.walk (p.join q).names = (l.walk p.names).walk q.names := by
  unfold join
  rw [if_neg (by simp [relative])]
  by_cases empty : q.names = []
  · have unnamed : q.isEmpty = true := by simp [isEmpty, empty]
    by_cases blank : p.names = []
    · have bare : p.isEmpty = true := by simp [isEmpty, blank]
      simp [unnamed, bare, empty, blank]
    · have full : p.isEmpty = false := by simp [isEmpty, blank]
      simp [unnamed, full, empty, Location.walk_append, walk_trimmed]
  · have named : q.isEmpty = false := by simp [isEmpty, empty]
    simp [named, Location.walk_append, walk_trimmed]

/-- The joined path leads where its right-hand side leads from the left one. -/
theorem location_div (p : Path) (text : String) : (p / text).location = p.destination text := by
  rw [div_eq, destination]
  cases rooted : (parse text).rooted with
  | true => simp [join, rooted]
  | false =>
    obtain ⟨same, walks⟩ := join_names (p := p) rooted
    simp [location, same, walks]

theorem location_div_ordinary (p : Path) {name : String} (parsed : parse name = ⟨false, [name]⟩) :
    (p / name).location = p.location.enter name := by
  simp [location_div, destination, parsed]

end Path

end Aegis.Library
