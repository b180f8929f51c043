import Aegis.Policy.Readings
import Aegis.Policy.Rendering

/-! Policy files with comments.

A file is a list of rows: settings, other entries, items of lists and comments. A row is
quiet if it has none of the loader's keys before a colon, the key of its own setting apart.
In a file of quiet rows the loader finds the settings and nothing else.
-/

set_option autoImplicit false

namespace Aegis.Policy
open Library Regex

/-! Starts of rows. -/

/-- What is not white at the start of the text is neither a colon nor a bracket. -/
def Opens (w : List Char) : Prop := ∀ c ∈ (w.dropWhile isSpace).head?, c ≠ ':' ∧ c ≠ '['

theorem opens_white {spaces : List Char} (white : ∀ c ∈ spaces, isSpace c = true) (w : List Char) :
    Opens (spaces ++ w) ↔ Opens w := by
  rw [Opens, List.dropWhile_append_of_pos white, Opens]

theorem opens_cons {c : Char} (solid : isSpace c = false) (w : List Char) : Opens (c :: w) ↔ c ≠ ':' ∧ c ≠ '[' := by
  simp [Opens, solid]

theorem opens_key {key : List Char} (plain : PlainKey key) (start : key.head? ≠ some '[') (w : List Char) :
    Opens (key ++ w) := by
  obtain ⟨c, rest, rfl⟩ := List.exists_cons_of_ne_nil plain.1
  obtain ⟨solid, colon⟩ := plain.2 c List.mem_cons_self
  exact (opens_cons solid _).mpr ⟨colon, by simpa using start⟩

theorem Opens.clear {w : List Char} (opens : Opens w) : Clear w := fun c head => (opens c head).1

/-! The rows of a file. -/

/-- A text without a line break. -/
structure OneLine where
  chars : List Char
  single : '\n' ∉ chars

/-- A word of one kind of character. -/
structure Run (p : Char → Bool) where
  chars : List Char
  filled : chars ≠ []
  all : ∀ c ∈ chars, p c = true

/-- A comment behind something else on a row. -/
structure Note where
  gap : Nat
  comment : OneLine

/-- A list of system calls is on the row of its key, or in the rows below it. -/
inductive SysCalls where
  | flow (names : List (Run isWord))
  | block

/-- The entries the loader looks for. -/
inductive Setting where
  | policyName (name : Run isNameChar)
  | maxExecutionTimeSec (digits : Run Char.isDigit)
  | blockAllNetworkEgress (flag : Bool)
  | blockCloudMetadataIps (flag : Bool)
  | allowedSysCalls (list : SysCalls)
  | blockedSysCalls (list : SysCalls)

/-- A key the loader does not look for. No such key starts with a bracket. -/
structure OtherKey where
  chars : List Char
  plain : PlainKey chars
  other : ∀ key ∈ settingKeys, chars ≠ key.toList
  start : chars.head? ≠ some '['

/-! Literal texts, checked by evaluation. -/

theorem not_mem_of_all {text : List Char} {c : Char} (checked : text.all (· ≠ c) = true) : c ∉ text := by
  intro member
  have other := List.all_eq_true.mp checked c member
  simp at other

def OneLine.of (text : String) (checked : text.toList.all (· ≠ '\n') = true) : OneLine where
  chars := text.toList
  single := not_mem_of_all checked

def Run.of {p : Char → Bool} (text : String) (filled : text.toList.isEmpty = false) (all : text.toList.all p = true) :
    Run p where
  chars := text.toList
  filled := List.isEmpty_eq_false_iff.mp filled
  all := List.all_eq_true.mp all

theorem plainKey_of_all {key : List Char} (filled : key.isEmpty = false)
    (all : (key.all fun c => !isSpace c && c ≠ ':') = true) : PlainKey key :=
  ⟨List.isEmpty_eq_false_iff.mp filled, by simpa using all⟩

theorem other_of_all {key : List Char} (checked : (settingKeys.all fun setting => key ≠ setting.toList) = true) :
    ∀ setting ∈ settingKeys, key ≠ setting.toList := by
  simpa using checked

def OtherKey.of (key : String) (nonempty : key.toList.isEmpty = false)
    (all : (key.toList.all fun c => !isSpace c && c ≠ ':') = true)
    (other : (settingKeys.all fun setting => key.toList ≠ setting.toList) = true)
    (start : decide (key.toList.head? ≠ some '[') = true) : OtherKey where
  chars := key.toList
  plain := plainKey_of_all nonempty all
  other := other_of_all other
  start := of_decide_eq_true start

inductive Row where
  | blank (indent : Nat)
  | comment (indent : Nat) (text : OneLine)
  | setting (indent : Nat) (setting : Setting) (note : Option Note)
  | item (indent : Nat) (text : OneLine) (note : Option Note)
  | description (indent : Nat) (text : OneLine) (note : Option Note)
  | other (indent : Nat) (key : OtherKey) (value : OneLine) (note : Option Note)

/-! What the loader looks for. -/

inductive Kind where
  | name
  | timeout
  | egress
  | metadata
  | allowed
  | blocked
  deriving DecidableEq

namespace Kind

def key : Kind → String
  | name => "policy_name"
  | timeout => "max_execution_time_sec"
  | egress => "block_all_network_egress"
  | metadata => "block_cloud_metadata_ips"
  | allowed => "allowed_sys_calls"
  | blocked => "blocked_sys_calls"

def value : Kind → Regex
  | name => quoted isNameChar
  | timeout => .group (.plus Char.isDigit)
  | egress => flagValue
  | metadata => flagValue
  | allowed => listValue
  | blocked => listValue

def form : Kind → Form
  | name => quotedForm isNameChar
  | timeout => runForm Char.isDigit
  | egress => flagForm
  | metadata => flagForm
  | allowed => listForm
  | blocked => listForm

theorem form_of : ∀ kind : Kind, kind.form.Of kind.value
  | name => nameForm_of
  | timeout => digitsForm_of
  | egress => flagForm_of
  | metadata => flagForm_of
  | allowed => listForm_of
  | blocked => listForm_of

theorem key_mem (kind : Kind) : kind.key ∈ settingKeys := by
  cases kind <;> decide

theorem plain (kind : Kind) : PlainKey kind.key.toList :=
  plain_keys kind.key (List.mem_append_left _ kind.key_mem)

theorem start (kind : Kind) : kind.key.toList.head? ≠ some '[' := by
  cases kind <;> decide

theorem not_hash (kind : Kind) : '#' ∉ kind.key.toList := by
  cases kind <;> decide

theorem key_injective {kind kind' : Kind} (same : kind.key = kind'.key) : kind = kind' := by
  cases kind <;> cases kind' <;> first | rfl | exact absurd same (by decide)

/-- No key ends in another one. -/
theorem apart {kind kind' : Kind} (suffix : kind.key.toList <:+ kind'.key.toList) : kind = kind' :=
  key_injective (keys_apart kind.key kind.key_mem kind'.key (List.mem_append_left _ kind'.key_mem) suffix)

end Kind

/-! The text of a file. -/

def Run.string {p : Char → Bool} (run : Run p) : String := String.ofList run.chars

def blanks (n : Nat) : List Char := List.replicate n ' '

def noteText : Option Note → List Char
  | none => []
  | some note => blanks (note.gap + 1) ++ '#' :: note.comment.chars

def SysCalls.text : SysCalls → List Char
  | flow names => ' ' :: listText (names.map Run.string)
  | block => []

namespace Setting

def kind : Setting → Kind
  | policyName _ => .name
  | maxExecutionTimeSec _ => .timeout
  | blockAllNetworkEgress _ => .egress
  | blockCloudMetadataIps _ => .metadata
  | allowedSysCalls _ => .allowed
  | blockedSysCalls _ => .blocked

/-- What stands behind the colon. -/
def text : Setting → List Char
  | policyName name => ' ' :: quotedText name.chars
  | maxExecutionTimeSec digits => ' ' :: digits.chars
  | blockAllNetworkEgress flag => ' ' :: flagText flag
  | blockCloudMetadataIps flag => ' ' :: flagText flag
  | allowedSysCalls list => list.text
  | blockedSysCalls list => list.text

end Setting

def Row.text : Row → List Char
  | .blank indent => blanks indent
  | .comment indent text => blanks indent ++ '#' :: text.chars
  | .setting indent entry note => blanks indent ++ (entry.kind.key.toList ++ ':' :: (entry.text ++ noteText note))
  | .item indent text note => blanks indent ++ '-' :: ' ' :: (quotedText text.chars ++ noteText note)
  | .description indent text note =>
      blanks indent ++ ("description".toList ++ ':' :: ' ' :: (quotedText text.chars ++ noteText note))
  | .other indent key value note => blanks indent ++ (key.chars ++ ':' :: (value.chars ++ noteText note))

/-- The last row may have no line break; one that has is followed by an empty row. -/
def documentText : List Row → List Char
  | [] => []
  | [row] => row.text
  | row :: rest => row.text ++ '\n' :: documentText rest

/-! What the settings say. -/

def SysCalls.reading : SysCalls → Option (List Char)
  | flow [] => none
  | flow (name :: names) => some (listBody ((name :: names).map Run.string))
  | block => none

/-- What the loader reads behind the key, if anything: nothing for a list that is empty or not in brackets. -/
def Setting.reading : Setting → Option (List Char)
  | policyName name => some name.chars
  | maxExecutionTimeSec digits => some digits.chars
  | blockAllNetworkEgress flag => some (flagText flag)
  | blockCloudMetadataIps flag => some (flagText flag)
  | allowedSysCalls list => list.reading
  | blockedSysCalls list => list.reading

def Row.reading (kind : Kind) : Row → Option (List Char)
  | .setting _ entry _ => if entry.kind = kind then entry.reading else none
  | _ => none

/-- What the loader should not look at. -/
def Row.noise : Row → List Char
  | .setting _ _ note => noteText note
  | row => row.text

/-- The key of the kind is not before a colon, but for the key of a setting. -/
def Row.Quiet (kind : Kind) (row : Row) : Prop := Silent kind.key row.noise

def Quiet (rows : List Row) : Prop := ∀ row ∈ rows, ∀ kind, row.Quiet kind

theorem quiet_of_absent {rows : List Row}
    (nowhere : ∀ row ∈ rows, ∀ key ∈ settingKeys, ¬ key.toList <:+: row.noise) : Quiet rows :=
  fun row member kind => silent_of_absent (nowhere row member kind.key kind.key_mem)

theorem white_blanks (n : Nat) : ∀ c ∈ blanks n, isSpace c = true := by
  intro c member
  rw [List.eq_of_mem_replicate member]
  decide

theorem opens_row (row : Row) {tail : List Char} (opens : Opens tail) : Opens (row.text ++ tail) := by
  have indented (n : Nat) {body : List Char} (solid : Opens (body ++ tail)) : Opens (blanks n ++ body ++ tail) := by
    rwa [List.append_assoc, opens_white (white_blanks n)]
  cases row with
  | blank indent => exact (opens_white (white_blanks indent) tail).mpr opens
  | comment indent text => exact indented indent ((opens_cons (by decide) _).mpr (by decide))
  | setting indent entry note =>
    apply indented indent
    rw [List.append_assoc]
    exact opens_key entry.kind.plain entry.kind.start _
  | item indent text note => exact indented indent ((opens_cons (by decide) _).mpr (by decide))
  | description indent text note => exact indented indent ((opens_cons (by decide) _).mpr (by decide))
  | other indent key value note =>
    apply indented indent
    rw [List.append_assoc]
    exact opens_key key.plain key.start _

theorem opens_documentText : ∀ rows, Opens (documentText rows)
  | [] => by simp [documentText, Opens]
  | [row] => by
    have opens := @opens_row row [] (by simp [Opens])
    rwa [List.append_nil] at opens
  | row :: next :: rest => by
    apply opens_row row
    exact (opens_white isSpace_newline _).mpr (opens_documentText (next :: rest))

/-! A quiet row is read as its setting. -/

theorem Run.string_word (run : Run isWord) : run.string.toList ≠ [] ∧ ∀ c ∈ run.string.toList, isWord c = true := by
  rw [Run.string, String.toList_ofList]
  exact ⟨run.filled, run.all⟩

theorem forall_strings (names : List (Run isWord)) :
    ∀ sysName ∈ names.map Run.string, sysName.toList ≠ [] ∧ ∀ c ∈ sysName.toList, isWord c = true := by
  intro sysName member
  obtain ⟨run, -, rfl⟩ := List.mem_map.mp member
  exact run.string_word

theorem not_mem_names (names : List (Run isWord)) {c : Char} (other : isWord c = false) (apart : c ∉ ['"', ',', ' ']) :
    c ∉ listBody (names.map Run.string) :=
  not_mem_listBody (fun sysName member => (forall_strings names sysName member).2) other apart

section
variable {rest : List Char}

theorem SysCalls.reads {list : SysCalls} {g : List Char} (key : String) (reading : list.reading = some g) :
    Reads key listForm (key.toList ++ ':' :: (list.text ++ rest)) g := by
  cases list with
  | block => cases reading
  | flow names =>
    cases names with
    | nil => cases reading
    | cons name names =>
      obtain rfl := Option.some.inj reading
      have free := not_mem_names (name :: names) (c := ']') (by decide) (by decide)
      exact reads_colon_iff.mpr ⟨[' '], _, List.all_eq_true.mp (by decide), listForm_listText rest (by simp) free, rfl⟩

theorem SysCalls.not_reads {list : SysCalls} (key : String) (reading : list.reading = none) (opens : Opens rest)
    (g : List Char) : ¬ Reads key listForm (key.toList ++ ':' :: (list.text ++ rest)) g := by
  cases list with
  | block =>
    rw [reads_colon_iff]
    rintro ⟨spaces, u, white, ⟨-, -, after, rfl⟩, same⟩
    rw [SysCalls.text, List.nil_append] at same
    rw [same, opens_white white, opens_cons (by decide)] at opens
    exact opens.2 rfl
  | flow names =>
    cases names with
    | nil => exact not_reads_emptyList rest key g
    | cons name names => cases reading

theorem Setting.reads {entry : Setting} {g : List Char} (reading : entry.reading = some g)
    (ends : ∀ c ∈ rest.head?, isSpace c = true) :
    Reads entry.kind.key entry.kind.form (entry.kind.key.toList ++ ':' :: (entry.text ++ rest)) g := by
  have blank : ∀ c ∈ [' '], isSpace c = true := List.all_eq_true.mp (by decide)
  cases entry with
  | policyName name =>
    obtain rfl := Option.some.inj reading
    exact reads_colon_iff.mpr ⟨[' '], _, blank, quotedForm_quotedText rest (by decide) name.filled name.all, rfl⟩
  | maxExecutionTimeSec digits =>
    obtain rfl := Option.some.inj reading
    have stops : ∀ c ∈ rest.head?, c.isDigit = false := by
      intro c head
      rw [← Bool.not_eq_true]
      intro digit
      have solid := not_isSpace (by decide) c digit
      rw [ends c head] at solid
      cases solid
    exact reads_colon_iff.mpr ⟨[' '], _, blank, runForm_digits rest digits.filled digits.all stops, rfl⟩
  | blockAllNetworkEgress flag =>
    obtain rfl := Option.some.inj reading
    exact reads_colon_iff.mpr ⟨[' '], _, blank, flagForm_flagText rest flag, rfl⟩
  | blockCloudMetadataIps flag =>
    obtain rfl := Option.some.inj reading
    exact reads_colon_iff.mpr ⟨[' '], _, blank, flagForm_flagText rest flag, rfl⟩
  | allowedSysCalls list => exact list.reads _ reading
  | blockedSysCalls list => exact list.reads _ reading

theorem Setting.not_reads {entry : Setting} (reading : entry.reading = none) (opens : Opens rest) (g : List Char) :
    ¬ Reads entry.kind.key entry.kind.form (entry.kind.key.toList ++ ':' :: (entry.text ++ rest)) g := by
  cases entry with
  | policyName name => cases reading
  | maxExecutionTimeSec digits => cases reading
  | blockAllNetworkEgress flag => cases reading
  | blockCloudMetadataIps flag => cases reading
  | allowedSysCalls list => exact list.not_reads _ reading opens g
  | blockedSysCalls list => exact list.not_reads _ reading opens g

theorem Setting.captured (entry : Setting) (ends : ∀ c ∈ rest.head?, isSpace c = true) (opens : Opens rest) :
    ((keyed entry.kind.key entry.kind.value).first (entry.kind.key.toList ++ ':' :: (entry.text ++ rest))).map
      (fun m => m.group.getD []) = entry.reading := by
  cases reading : entry.reading with
  | none => rw [(first_none_iff entry.kind.form_of).mpr (entry.not_reads reading opens), Option.map_none]
  | some g =>
    obtain ⟨text, after, matched⟩ := first_of_reads entry.kind.form_of (entry.reads reading ends)
    rw [matched]
    rfl

end

theorem SysCalls.not_colon (list : SysCalls) : ':' ∉ list.text := by
  cases list with
  | flow names => simpa [SysCalls.text, listText] using not_mem_names names (c := ':') (by decide) (by decide)
  | block => exact List.not_mem_nil

theorem Setting.not_colon (entry : Setting) : ':' ∉ entry.text := by
  cases entry with
  | policyName name =>
    have free : ':' ∉ name.chars := fun member => absurd (name.all _ member) (by decide)
    simpa [Setting.text, mem_quotedText] using free
  | maxExecutionTimeSec digits =>
    have free : ':' ∉ digits.chars := fun member => absurd (digits.all _ member) (by decide)
    simpa [Setting.text] using free
  | blockAllNetworkEgress flag => cases flag <;> decide
  | blockCloudMetadataIps flag => cases flag <;> decide
  | allowedSysCalls list => exact list.not_colon
  | blockedSysCalls list => exact list.not_colon

/-- The value of a setting does not join with the comment behind it. -/
theorem silent_setting (kind : Kind) (entry : Setting) {note : Option Note} (silent : Silent kind.key (noteText note)) :
    Silent kind.key (entry.text ++ noteText note) := by
  cases note with
  | none =>
    rw [noteText, List.append_nil]
    exact silent_of_not_colon entry.not_colon
  | some note =>
    have front : ':' ∉ entry.text ++ blanks (note.gap + 1) := by
      rw [List.mem_append, not_or]
      exact ⟨entry.not_colon, not_colon_of_spaces (white_blanks _)⟩
    have comment : Silent kind.key note.comment.chars :=
      silent.of_suffix ((List.suffix_cons '#' _).trans (List.suffix_append (blanks (note.gap + 1)) _))
    rw [noteText, ← List.append_assoc]
    exact Silent.append_cons kind.plain (silent_of_not_colon front) comment kind.not_hash (by decide) (by decide)

section
variable {tail : List Char}

theorem ends_note (ends : ∀ c ∈ tail.head?, isSpace c = true) (note : Option Note) :
    ∀ c ∈ (noteText note ++ tail).head?, isSpace c = true := by
  cases note with
  | none => exact ends
  | some note =>
    intro c head
    obtain rfl : ' ' = c := by simpa [noteText, blanks, List.replicate_succ] using head
    decide

theorem opens_note (opens : Opens tail) (note : Option Note) : Opens (noteText note ++ tail) := by
  cases note with
  | none => exact opens
  | some note =>
    rw [noteText, List.append_assoc, opens_white (white_blanks _)]
    exact (opens_cons (by decide) _).mpr (by decide)

theorem extract_row {kind : Kind} {row : Row} (quiet : row.Quiet kind) (ends : ∀ c ∈ tail.head?, isSpace c = true)
    (opens : Opens tail) :
    extract (keyed kind.key kind.value) (row.text ++ tail) =
      (row.reading kind).or (extract (keyed kind.key kind.value) tail) := by
  have passed {w : List Char} (silent : Silent kind.key w) :
      extract (keyed kind.key kind.value) (w ++ tail) = extract (keyed kind.key kind.value) tail := by
    rw [extract, search_silent kind.plain silent ends opens.clear, extract]
  cases row with
  | setting indent entry note =>
    have silent := silent_setting kind entry quiet
    by_cases same : entry.kind = kind
    · -- the search stops at the key, or goes on behind the row when there is no value in reach
      subst same
      have captured := entry.captured (ends_note ends note) (opens_note opens note)
      rw [Row.reading, if_pos rfl, ← captured, Row.text, extract,
        search_entry entry.kind.plain (white_blanks indent) silent ends opens.clear, List.append_assoc,
        Option.map_or, extract]
    · rw [Row.reading, if_neg same, Option.none_or]
      apply passed
      intro before spaces after white whole
      have suffixed := key_of_entry kind.plain (white_blanks indent) entry.kind.plain ?_ silent white whole
      · exact same (Kind.key_injective (String.toList_inj.mp suffixed.1)).symm
      · exact fun suffix => absurd (Kind.apart suffix).symm same
  | blank indent => exact passed quiet
  | comment indent text => exact passed quiet
  | item indent text note => exact passed quiet
  | description indent text note => exact passed quiet
  | other indent key value note => exact passed quiet

end

theorem findSome_cons {A B : Type} (f : A → Option B) (a : A) (rest : List A) :
    (a :: rest).findSome? f = (f a).or (rest.findSome? f) := by
  rw [List.findSome?_cons]
  cases f a with
  | none => rfl
  | some b => rfl

theorem extract_nil (key : String) (value : Regex) : extract (keyed key value) [] = none := by
  rw [extract, search_nil, Option.map_none]

/-- In a quiet file the loader finds the first setting of the kind that can be read. -/
theorem extract_documentText (kind : Kind) : ∀ rows, (∀ row ∈ rows, row.Quiet kind) →
    extract (keyed kind.key kind.value) (documentText rows) = rows.findSome? (Row.reading kind)
  | [], _ => extract_nil kind.key kind.value
  | [row], quiet => by
    have last := @extract_row [] kind row (quiet row List.mem_cons_self) (by simp) (by simp [Opens])
    rw [List.append_nil, extract_nil, Option.or_none] at last
    rw [documentText, last, List.findSome?_singleton]
  | row :: next :: rest, quiet => by
    obtain ⟨here, later⟩ := List.forall_mem_cons.mp quiet
    have opens : Opens ('\n' :: documentText (next :: rest)) :=
      (opens_white isSpace_newline _).mpr (opens_documentText (next :: rest))
    have skipped : extract (keyed kind.key kind.value) ('\n' :: documentText (next :: rest)) =
        (next :: rest).findSome? (Row.reading kind) := by
      rw [← extract_documentText kind (next :: rest) later, extract, extract]
      exact congrArg _ (search_indented kind.plain isSpace_newline kind.value (documentText (next :: rest)))
    have whole : documentText (row :: next :: rest) = row.text ++ '\n' :: documentText (next :: rest) := rfl
    rw [whole, extract_row here (by simp [isSpace]) opens, skipped]
    exact (findSome_cons (Row.reading kind) row (next :: rest)).symm

end Aegis.Policy
