import Aegis.Policy.Documents

/-! The two styles of lists.

A list of system calls can be written with one item on a row or in brackets behind its key.
The loader reads the brackets only: a file with items is read as one without the two lists.
-/

set_option autoImplicit false

namespace Aegis.Policy
open Library Regex

def Row.isFiller : Row → Bool
  | .blank _ => true
  | .comment _ _ => true
  | _ => false

def Row.isList : Row → Bool
  | .setting _ (.allowedSysCalls _) _ => true
  | .setting _ (.blockedSysCalls _) _ => true
  | _ => false

theorem Run.not_newline (run : Run isWord) : '\n' ∉ run.chars := fun member => absurd (run.all _ member) (by decide)

/-- An item of a list, with the empty rows and comments above it. -/
structure BlockItem where
  above : List Row
  indent : Nat
  name : Run isWord
  note : Option Note
  fillers : above.all Row.isFiller = true

def BlockItem.rows (item : BlockItem) : List Row :=
  item.above ++ [.item item.indent ⟨item.name.chars, item.name.not_newline⟩ item.note]

inductive ListKey where
  | allowed
  | blocked
  deriving DecidableEq

def ListKey.kind : ListKey → Kind
  | allowed => .allowed
  | blocked => .blocked

theorem ListKey.value (key : ListKey) : key.kind.value = listValue := by
  cases key with
  | allowed => rfl
  | blocked => rfl

theorem ListKey.kind_injective {key key' : ListKey} (same : key.kind = key'.kind) : key = key' := by
  cases key <;> cases key' <;> first | rfl | cases same

def ListKey.setting : ListKey → SysCalls → Setting
  | allowed, list => .allowedSysCalls list
  | blocked, list => .blockedSysCalls list

structure BlockList where
  key : ListKey
  indent : Nat
  note : Option Note
  items : List BlockItem

namespace BlockList

def names (list : BlockList) : List (Run isWord) := list.items.map BlockItem.name

/-- One item on a row. -/
def blockRows (list : BlockList) : List Row :=
  .setting list.indent (list.key.setting .block) list.note :: list.items.flatMap BlockItem.rows

/-- The names in brackets behind the key. -/
def flowRows (list : BlockList) : List Row :=
  [.setting list.indent (list.key.setting (.flow list.names)) list.note]

end BlockList

/-- A file with its two lists, in either order, and any other rows around them. -/
structure BlockDocument where
  before : List Row
  first : BlockList
  between : List Row
  second : BlockList
  after : List Row
  apart : first.key ≠ second.key
  rest : (before ++ (between ++ after)).any Row.isList = false

namespace BlockDocument

def render (document : BlockDocument) (style : BlockList → List Row) : List Row :=
  document.before ++ (style document.first ++ (document.between ++ (style document.second ++ document.after)))

/-- The list under a key. -/
def list (document : BlockDocument) (key : ListKey) : BlockList :=
  if document.first.key = key then document.first else document.second

end BlockDocument

/-! What is read in the rows of a list. -/

section
variable {kind : Kind}

theorem ListKey.reading_setting (key : ListKey) (calls : SysCalls) (indent : Nat) (note : Option Note) :
    (Row.setting indent (key.setting calls) note).reading kind = if key.kind = kind then calls.reading else none := by
  cases key with
  | allowed => rfl
  | blocked => rfl

theorem BlockItem.findSome_rows (item : BlockItem) : item.rows.findSome? (Row.reading kind) = none := by
  rw [List.findSome?_eq_none_iff]
  intro row member
  rcases List.mem_append.mp member with above | own
  · have filler := List.all_eq_true.mp item.fillers row above
    cases row with
    | setting indent entry note => cases filler
    | _ => rfl
  · rw [List.mem_singleton.mp own]
    rfl

/-- Nothing is read in a list of items. -/
theorem BlockList.findSome_blockRows (list : BlockList) : list.blockRows.findSome? (Row.reading kind) = none := by
  have items : (list.items.flatMap BlockItem.rows).findSome? (Row.reading kind) = none := by
    rw [List.findSome?_eq_none_iff]
    intro row member
    obtain ⟨item, -, inside⟩ := List.mem_flatMap.mp member
    exact List.findSome?_eq_none_iff.mp item.findSome_rows row inside
  rw [BlockList.blockRows, findSome_cons, items, ListKey.reading_setting, Option.or_none]
  split
  · rfl
  · rfl

theorem BlockList.findSome_flowRows (list : BlockList) : list.flowRows.findSome? (Row.reading kind) =
    if list.key.kind = kind then (SysCalls.flow list.names).reading else none := by
  rw [BlockList.flowRows, List.findSome?_singleton, ListKey.reading_setting]

end

theorem reading_of_not_list {row : Row} (other : row.isList = false) (key : ListKey) : row.reading key.kind = none := by
  cases row with
  | setting indent entry note =>
    refine if_neg fun same => ?_
    cases entry with
    | allowedSysCalls list => cases other
    | blockedSysCalls list => cases other
    | _ => cases key <;> cases same
  | _ => rfl

theorem findSome_of_not_list {rows : List Row} (others : ∀ row ∈ rows, row.isList = false) (key : ListKey) :
    rows.findSome? (Row.reading key.kind) = none := by
  rw [List.findSome?_eq_none_iff]
  exact fun row member => reading_of_not_list (others row member) key

theorem names_listBody (names : List (Run isWord)) (syscallNr : UInt32) :
    Names (listBody (names.map Run.string)) syscallNr ↔
      ∃ name ∈ names, resolveSyscallName name.string = some syscallNr := by
  rw [Names, words_listBody _ (forall_strings names)]
  simp

namespace BlockDocument

variable (document : BlockDocument)

theorem findSome_render (style : BlockList → List Row) (kind : Kind) :
    (document.render style).findSome? (Row.reading kind) =
      (document.before.findSome? (Row.reading kind)).or (((style document.first).findSome? (Row.reading kind)).or
        ((document.between.findSome? (Row.reading kind)).or (((style document.second).findSome? (Row.reading kind)).or
          (document.after.findSome? (Row.reading kind))))) := by
  simp only [render, List.findSome?_append]

/-- The other settings are read in both styles, and they are the same. -/
theorem findSome_flow_of_other {kind : Kind} (other : kind ≠ .allowed ∧ kind ≠ .blocked) :
    (document.render BlockList.flowRows).findSome? (Row.reading kind) =
      (document.render BlockList.blockRows).findSome? (Row.reading kind) := by
  have apart (key : ListKey) : key.kind ≠ kind := by
    cases key with
    | allowed => exact other.1.symm
    | blocked => exact other.2.symm
  simp only [findSome_render, BlockList.findSome_blockRows, BlockList.findSome_flowRows, if_neg (apart _)]

theorem findSome_parts (key : ListKey) : document.before.findSome? (Row.reading key.kind) = none ∧
    document.between.findSome? (Row.reading key.kind) = none ∧ document.after.findSome? (Row.reading key.kind) = none := by
  obtain ⟨before, between, after⟩ : (∀ row ∈ document.before, row.isList = false) ∧
      (∀ row ∈ document.between, row.isList = false) ∧ ∀ row ∈ document.after, row.isList = false := by
    simpa using document.rest
  exact ⟨findSome_of_not_list before key, findSome_of_not_list between key, findSome_of_not_list after key⟩

/-- A list of items is not read at all. -/
theorem findSome_block (key : ListKey) :
    (document.render BlockList.blockRows).findSome? (Row.reading key.kind) = none := by
  obtain ⟨before, between, after⟩ := document.findSome_parts key
  rw [findSome_render, before, between, after, BlockList.findSome_blockRows, BlockList.findSome_blockRows]
  rfl

theorem findSome_flow (key : ListKey) : (document.render BlockList.flowRows).findSome? (Row.reading key.kind) =
    (SysCalls.flow (document.list key).names).reading := by
  obtain ⟨before, between, after⟩ := document.findSome_parts key
  rw [findSome_render, before, between, after, BlockList.findSome_flowRows, BlockList.findSome_flowRows, list]
  by_cases here : document.first.key = key
  · have other : document.second.key.kind ≠ key.kind := fun same =>
      document.apart (here.trans (ListKey.kind_injective same).symm)
    rw [if_pos here, if_pos (congrArg _ here), if_neg other, Option.none_or, Option.none_or, Option.or_none,
      Option.or_none]
  · have second : document.second.key = key := by
      have apart := document.apart
      revert here apart
      cases document.first.key <;> cases document.second.key <;> cases key <;> simp
    have other : document.first.key.kind ≠ key.kind := fun same => here (ListKey.kind_injective same)
    rw [if_neg here, if_neg other, if_pos (congrArg _ second), Option.none_or, Option.none_or, Option.none_or,
      Option.or_none]

theorem mem_render {style : BlockList → List Row} {row : Row} :
    row ∈ document.render style ↔ row ∈ document.before ∨ row ∈ style document.first ∨ row ∈ document.between ∨
      row ∈ style document.second ∨ row ∈ document.after := by
  simp only [render, List.mem_append]

theorem quiet_flow (quiet : Quiet (document.render BlockList.blockRows)) :
    Quiet (document.render BlockList.flowRows) := by
  simp only [Quiet, mem_render] at quiet ⊢
  -- the row of the key has the same comment in both styles
  have own {list : BlockList} {row : Row} (member : row ∈ list.flowRows)
      (rows : ∀ row ∈ list.blockRows, ∀ kind, row.Quiet kind) (kind : Kind) : row.Quiet kind := by
    rw [List.mem_singleton.mp member]
    exact rows _ List.mem_cons_self kind
  rintro row (before | first | between | second | after)
  · exact quiet row (.inl before)
  · exact own first fun row member => quiet row (.inr (.inl member))
  · exact quiet row (.inr (.inr (.inl between)))
  · exact own second fun row member => quiet row (.inr (.inr (.inr (.inl member))))
  · exact quiet row (.inr (.inr (.inr (.inr after))))

/-! The two texts. -/

def blockText : List Char := documentText (document.render BlockList.blockRows)

def flowText : List Char := documentText (document.render BlockList.flowRows)

variable {document} (quiet : Quiet (document.render BlockList.blockRows))
include quiet

theorem extract_blockText (kind : Kind) : extract (keyed kind.key kind.value) document.blockText =
    (document.render BlockList.blockRows).findSome? (Row.reading kind) :=
  extract_documentText kind _ fun row member => quiet row member kind

theorem extract_flowText (kind : Kind) : extract (keyed kind.key kind.value) document.flowText =
    (document.render BlockList.flowRows).findSome? (Row.reading kind) :=
  extract_documentText kind _ fun row member => document.quiet_flow quiet row member kind

theorem extract_other (kind : Kind) (other : kind ≠ .allowed ∧ kind ≠ .blocked) :
    extract (keyed kind.key kind.value) document.blockText = extract (keyed kind.key kind.value) document.flowText := by
  rw [extract_flowText quiet, extract_blockText quiet, document.findSome_flow_of_other other]

theorem not_lists_blockText (key : ListKey) (syscallNr : UInt32) : ¬ Lists key.kind.key document.blockText syscallNr := by
  have extracted := extract_blockText quiet key.kind
  rw [key.value, document.findSome_block] at extracted
  rw [lists_iff_extract, extracted]
  rintro ⟨body, nothing, -⟩
  cases nothing

theorem lists_flowText_iff (key : ListKey) (syscallNr : UInt32) : Lists key.kind.key document.flowText syscallNr ↔
    ∃ name ∈ (document.list key).names, resolveSyscallName name.string = some syscallNr := by
  have extracted := extract_flowText quiet key.kind
  rw [key.value, document.findSome_flow] at extracted
  rw [lists_iff_extract, extracted]
  cases (document.list key).names with
  | nil => simp [SysCalls.reading]
  | cons name names =>
    rw [← names_listBody (name :: names)]
    simp [SysCalls.reading]

theorem tooLong_iff : TooLong document.blockText ↔ TooLong document.flowText :=
  exists_congr fun _ => and_congr_left fun _ => Settles.congr digitsForm_of (extract_other quiet .timeout (by decide))

theorem agree_iff (yamlPath : Path) : Agree yamlPath document.blockText document.flowText ↔
    ∀ key, ∀ name ∈ (document.list key).names, resolveSyscallName name.string = none := by
  constructor
  · intro agree key name member
    have lists : ∀ syscallNr, Lists key.kind.key document.blockText syscallNr ↔
        Lists key.kind.key document.flowText syscallNr := by
      cases key with
      | allowed => exact agree.allowed
      | blocked => exact agree.blocked
    rw [Option.eq_none_iff_forall_ne_some]
    intro syscallNr resolved
    exact not_lists_blockText quiet key syscallNr
      ((lists syscallNr).mpr ((lists_flowText_iff quiet key syscallNr).mpr ⟨name, member, resolved⟩))
  · intro unknown
    have lists (key : ListKey) (syscallNr : UInt32) : Lists key.kind.key document.blockText syscallNr ↔
        Lists key.kind.key document.flowText syscallNr := by
      refine iff_of_false (not_lists_blockText quiet key syscallNr) fun listed => ?_
      obtain ⟨name, member, resolved⟩ := (lists_flowText_iff quiet key syscallNr).mp listed
      rw [unknown key name member] at resolved
      cases resolved
    obtain ⟨n, here, there⟩ := Settles.shared digitsForm_of (fun digits => Nat.ofDigitChars 10 digits 0) 30
      (extract_other quiet .timeout (by decide))
    exact ⟨Settles.shared nameForm_of _ _ (extract_other quiet .name (by decide)),
      Settles.shared flagForm_of _ _ (extract_other quiet .egress (by decide)),
      Settles.shared flagForm_of _ _ (extract_other quiet .metadata (by decide)), ⟨n, n, here, there, rfl⟩,
      lists .allowed, lists .blocked⟩

end BlockDocument

/-- A file with items and the same file with brackets are loaded alike just if the first place of
each key says the same in both; where the texts are quiet, this means that no name of the two
lists is in the loader's table, unless the conversion of the timeout throws. -/
theorem styles_alike_iff (yamlPath : Path) (file : YamlFile) (document : BlockDocument) :
    (SameLoad yamlPath { file with content := document.blockText } { file with content := document.flowText } ↔
      ¬ file.Readable ∨ Alike yamlPath document.blockText document.flowText) ∧
    (Quiet (document.render BlockList.blockRows) → (Alike yamlPath document.blockText document.flowText ↔
      TooLong document.blockText ∨
        ∀ key, ∀ name ∈ (document.list key).names, resolveSyscallName name.string = none)) := by
  refine ⟨sameLoad_iff yamlPath file _ _, fun quiet => ?_⟩
  rw [Alike, ← BlockDocument.tooLong_iff quiet, BlockDocument.agree_iff quiet]
  by_cases throws : TooLong document.blockText
  · simp [throws]
  · simp [throws]

theorem allowed_ne_blocked : ListKey.allowed ≠ ListKey.blocked := by decide

/-- A file in the style of the shipped policy. -/
def itemDocument : BlockDocument where
  before := [.setting 0 (.policyName (.of "strict_python" rfl rfl)) none]
  first := ⟨.allowed, 2, none, [
    ⟨[.comment 4 (.of " Memory Management & File I/O" rfl)], 4, .of "openat" rfl rfl, none, rfl⟩]⟩
  between := [.blank 0, .comment 2 (.of " Explicitly Blocked High-Risk Syscalls" rfl)]
  second := ⟨.blocked, 2, none, [
    ⟨[], 4, .of "ptrace" rfl rfl, some ⟨11, .of " Prevent process memory injection & debugging" rfl⟩, rfl⟩]⟩
  after := []
  apart := allowed_ne_blocked
  rest := rfl

theorem ptrace_item_unread : ¬ SameLoad ⟨false, ["strict_python.yaml"]⟩ { content := itemDocument.blockText }
    { content := itemDocument.flowText } := by
  intro same
  have agree := agree_of_sameLoad same (by decide +kernel)
  have quiet : Quiet (itemDocument.render BlockList.blockRows) := quiet_of_absent (by decide +kernel)
  have unknown := (BlockDocument.agree_iff quiet _).mp agree .blocked _ List.mem_cons_self
  exact absurd unknown (by decide)

end Aegis.Policy
