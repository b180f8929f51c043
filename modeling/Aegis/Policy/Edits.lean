import Aegis.Policy.Documents

/-! Edits of a file that leave its settings as they are.

Comments, the description and entries the loader does not look for should make no difference. An
edit is a list of steps over the rows. Whether it is harmless is decided, for each key, by the rows
that are added or changed before the first place that reads as the key with a value in both files:
each of them has to say nothing or what the other file says anyway.
-/

set_option autoImplicit false

namespace Aegis.Policy
open Library Regex

/-! The steps of an edit. -/

/-- The text of a comment may be another one. -/
inductive NoteEdited : Option Note → Option Note → Prop where
  | missing : NoteEdited none none
  | text (gap : Nat) (text text' : OneLine) : NoteEdited (some ⟨gap, text⟩) (some ⟨gap, text'⟩)

inductive RowEdited : Row → Row → Prop where
  | blank (indent : Nat) : RowEdited (.blank indent) (.blank indent)
  | comment (indent : Nat) (text text' : OneLine) : RowEdited (.comment indent text) (.comment indent text')
  | setting (indent : Nat) (entry : Setting) {note note' : Option Note} (edited : NoteEdited note note') :
      RowEdited (.setting indent entry note) (.setting indent entry note')
  | item (indent : Nat) (text : OneLine) {note note' : Option Note} (edited : NoteEdited note note') :
      RowEdited (.item indent text note) (.item indent text note')
  | description (indent : Nat) (text text' : OneLine) {note note' : Option Note} (edited : NoteEdited note note') :
      RowEdited (.description indent text note) (.description indent text' note')
  | other (indent : Nat) (key : OtherKey) (value : OneLine) {note note' : Option Note} (edited : NoteEdited note note') :
      RowEdited (.other indent key value note) (.other indent key value note')

/-- A row stays, with another comment or description if it has one; a comment is inserted; or an entry
is added, with a value on its row or a list below it. -/
inductive Step where
  | kept (row row' : Row) (edited : RowEdited row row')
  | comment (indent : Nat) (text : OneLine)
  | entry (indent : Nat) (key : OtherKey) (value : OneLine) (note : Option Note)
      (items : List (Nat × OneLine × Option Note))

namespace Step

def old : Step → List Row
  | kept row _ _ => [row]
  | comment _ _ | entry _ _ _ _ _ => []

def new : Step → List Row
  | kept _ row' _ => [row']
  | comment indent text => [.comment indent text]
  | entry indent key value note items =>
      .other indent key value note :: items.map fun i => Row.item i.1 i.2.1 i.2.2

/-- A setting of the kind that stays and can be read. -/
def settles (kind : Kind) : Step → Bool
  | kept row _ _ => (row.reading kind).isSome
  | comment _ _ | entry _ _ _ _ _ => false

/-- In neither file has a row of the step the key before a colon, but for the key of a setting. -/
def Quiet (kind : Kind) (step : Step) : Prop :=
  (∀ row ∈ step.old, row.Quiet kind) ∧ ∀ row ∈ step.new, row.Quiet kind

end Step

/-- The file before the edit, and after it. -/
def oldRows (steps : List Step) : List Row := steps.flatMap Step.old

def newRows (steps : List Step) : List Row := steps.flatMap Step.new

/-- The steps before the first setting of the kind that can be read. -/
def ahead (kind : Kind) (steps : List Step) : List Step := steps.takeWhile fun step => !step.settles kind

/-! What a row says. -/

/-- What follows a row in a file. -/
def tailText : List Row → List Char
  | [] => []
  | rows => '\n' :: documentText rows

/-- Of the places that begin in `w`, the first that reads as the key with a value has this value. -/
def Says (kind : Kind) (w tail g : List Char) : Prop :=
  ∃ s, s ≠ [] ∧ s <:+ w ∧ Reads kind.key kind.form (s ++ tail) g ∧
    ∀ t, t <:+ w → s.length < t.length → ∀ h, ¬ Reads kind.key kind.form (t ++ tail) h

/-- What the first of the rows says that says something; the rows of `rest` follow. -/
inductive Heard (kind : Kind) (rest : List Row) : List Row → Option (List Char) → Prop where
  | nothing : Heard kind rest [] none
  | here {row : Row} {rows : List Row} {g : List Char} (speaks : Says kind row.text (tailText (rows ++ rest)) g) :
      Heard kind rest (row :: rows) (some g)
  | later {row : Row} {rows : List Row} {o : Option (List Char)}
      (silent : ∀ g, ¬ Says kind row.text (tailText (rows ++ rest)) g) (heard : Heard kind rest rows o) :
      Heard kind rest (row :: rows) o

def nameSaid (yamlPath : Path) (o : Option (List Char)) : String := (o.map String.ofList).getD yamlPath.stem

def flagSaid (default : Bool) (o : Option (List Char)) : Bool :=
  (o.map fun text => decide (text = "true".toList)).getD default

def numberSaid (o : Option (List Char)) : Nat := (o.map fun digits => Nat.ofDigitChars 10 digits 0).getD 30

/-- It makes no difference to the loader which of the two is said for the key, or whether nothing is. -/
def Kind.Same (yamlPath : Path) (kind : Kind) (o o' : Option (List Char)) : Prop :=
  match kind with
  | name => nameSaid yamlPath o = nameSaid yamlPath o'
  | timeout => 2 ^ 64 ≤ numberSaid o ∧ 2 ^ 64 ≤ numberSaid o' ∨
      numberSaid o < 2 ^ 64 ∧ numberSaid o' < 2 ^ 64 ∧ numberSaid o % 2 ^ 32 = numberSaid o' % 2 ^ 32
  | egress => flagSaid false o = flagSaid false o'
  | metadata => flagSaid true o = flagSaid true o'
  | allowed | blocked => ∀ syscallNr, (∃ body ∈ o, Names body syscallNr) ↔ ∃ body ∈ o', Names body syscallNr

/-- For this kind no step matters. The first step whose rows say something in one of the files says the
same in both, or says what is said further down in the other. -/
inductive Undisturbed (yamlPath : Path) (kind : Kind) : List Step → Prop where
  | done : Undisturbed yamlPath kind []
  -- neither file says anything here
  | silent {step : Step} {rest : List Step} (old : Heard kind (oldRows rest) step.old none)
      (new : Heard kind (newRows rest) step.new none) (below : Undisturbed yamlPath kind rest) :
      Undisturbed yamlPath kind (step :: rest)
  -- both do, and nothing below is read
  | changed {step : Step} {rest : List Step} {g g' : List Char} (old : Heard kind (oldRows rest) step.old (some g))
      (new : Heard kind (newRows rest) step.new (some g')) (same : kind.Same yamlPath (some g) (some g')) :
      Undisturbed yamlPath kind (step :: rest)
  -- only the new file does: it hides what the old one says below
  | added {step : Step} {rest : List Step} {g' : List Char} {o : Option (List Char)}
      (old : Heard kind (oldRows rest) step.old none) (new : Heard kind (newRows rest) step.new (some g'))
      (below : Heard kind [] (oldRows rest) o) (same : kind.Same yamlPath o (some g')) :
      Undisturbed yamlPath kind (step :: rest)
  -- only the old file does: what the new one says below comes to light
  | removed {step : Step} {rest : List Step} {g : List Char} {o' : Option (List Char)}
      (old : Heard kind (oldRows rest) step.old (some g)) (new : Heard kind (newRows rest) step.new none)
      (below : Heard kind [] (newRows rest) o') (same : kind.Same yamlPath (some g) o') :
      Undisturbed yamlPath kind (step :: rest)

/-! What is said is what is read. -/

def Kind.extract (kind : Kind) (content : List Char) : Option (List Char) :=
  Policy.extract (keyed kind.key kind.value) content

section
variable {kind : Kind} {w tail g : List Char}

theorem extract_of_says (speaks : Says kind w tail g) : kind.extract (w ++ tail) = some g := by
  obtain ⟨s, -, suffix, reads, earlier⟩ := speaks
  obtain ⟨front, rfl⟩ := suffix
  refine (extract_iff kind.form_of).mpr ⟨s ++ tail, ⟨front, (List.append_assoc _ _ _).symm⟩, reads, ?_⟩
  intro t inside longer
  rw [List.length_append] at longer
  rcases suffix_append_cases inside with short | ⟨t, within, rfl⟩
  · have bound := short.length_le
    omega
  · rw [List.length_append] at longer
    exact earlier t within (by omega)

/-- A first place that begins in `w`. -/
theorem says_of_firstReads {s : List Char} (begins : s ≠ []) (inside : s <:+ w)
    (reads : Reads kind.key kind.form (s ++ tail) g)
    (earlier : ∀ t, t <:+ w ++ tail → (s ++ tail).length < t.length → ∀ h, ¬ Reads kind.key kind.form t h) :
    Says kind w tail g := by
  refine ⟨s, begins, inside, reads, fun t within longer => earlier (t ++ tail) ?_ ?_⟩
  · obtain ⟨front, rfl⟩ := within
    exact ⟨front, (List.append_assoc _ _ _).symm⟩
  · simpa using longer

theorem extract_of_silent (silent : ∀ g, ¬ Says kind w tail g) : kind.extract (w ++ tail) = kind.extract tail := by
  -- a place that begins in `w` would give a first one, which begins there too
  have nowhere {t h : List Char} (begins : t ≠ []) (inside : t <:+ w) : ¬ Reads kind.key kind.form (t ++ tail) h := by
    intro reads
    obtain ⟨front, whole⟩ := inside
    have suffix : t ++ tail <:+ w ++ tail := ⟨front, by rw [← List.append_assoc, whole]⟩
    obtain ⟨h', s, place, read, earlier⟩ := exists_firstReads kind.form_of suffix reads
    rcases suffix_append_cases place with short | ⟨s, within, rfl⟩
    · have bound := short.length_le
      have positive := List.length_pos_iff.mpr begins
      exact earlier (t ++ tail) suffix (by rw [List.length_append]; omega) h reads
    · by_cases empty : s = []
      · subst empty
        have positive := List.length_pos_iff.mpr begins
        exact earlier (t ++ tail) suffix (by simp; omega) h reads
      · exact silent h' (says_of_firstReads empty within read earlier)
  refine Option.ext fun g => (extract_iff kind.form_of).trans (Iff.trans ?_ (extract_iff kind.form_of).symm)
  constructor
  · rintro ⟨s, place, reads, earlier⟩
    have inside : s <:+ tail := by
      rcases suffix_append_cases place with inside | ⟨t, within, rfl⟩
      · exact inside
      · by_cases empty : t = []
        · rw [empty]
          exact List.suffix_rfl
        · exact absurd reads (nowhere empty within)
    exact ⟨s, inside, reads, fun t within => earlier t (within.trans (List.suffix_append w tail))⟩
  · rintro ⟨s, place, reads, earlier⟩
    refine ⟨s, place.trans (List.suffix_append w tail), reads, fun t within longer h => ?_⟩
    rcases suffix_append_cases within with inside | ⟨t, inside, rfl⟩
    · exact earlier t inside longer h
    · by_cases empty : t = []
      · subst empty
        exact earlier tail List.suffix_rfl longer h
      · exact nowhere empty inside

end

section
variable {kind : Kind} {rest rows : List Row}

theorem documentText_cons (row : Row) (rest : List Row) : documentText (row :: rest) = row.text ++ tailText rest := by
  cases rest with
  | nil => exact (List.append_nil _).symm
  | cons next rest => rfl

theorem extract_tailText (kind : Kind) (rest : List Row) :
    kind.extract (tailText rest) = kind.extract (documentText rest) := by
  cases rest with
  | nil => rfl
  | cons next rest =>
    unfold Kind.extract extract
    exact congrArg _ (search_indented kind.plain isSpace_newline kind.value (documentText (next :: rest)))

theorem Heard.extract {o : Option (List Char)} (heard : Heard kind rest rows o) :
    kind.extract (documentText (rows ++ rest)) = o.or (kind.extract (documentText rest)) := by
  induction heard with
  | nothing => rfl
  | here speaks =>
    rw [List.cons_append, documentText_cons, extract_of_says speaks]
    rfl
  | later silent heard ih => rw [List.cons_append, documentText_cons, extract_of_silent silent, extract_tailText, ih]

theorem exists_heard (kind : Kind) (rest rows : List Row) : ∃ o, Heard kind rest rows o := by
  induction rows with
  | nil => exact ⟨none, .nothing⟩
  | cons row rows ih =>
    by_cases speaks : ∃ g, Says kind row.text (tailText (rows ++ rest)) g
    · obtain ⟨g, speaks⟩ := speaks
      exact ⟨some g, .here speaks⟩
    · obtain ⟨o, heard⟩ := ih
      exact ⟨o, .later (not_exists.mp speaks) heard⟩

theorem Heard.whole {o : Option (List Char)} (heard : Heard kind [] rows o) : kind.extract (documentText rows) = o := by
  have all := heard.extract
  rw [List.append_nil] at all
  rw [all]
  exact (congrArg o.or (extract_nil kind.key kind.value)).trans Option.or_none

end

theorem oldRows_cons (step : Step) (rest : List Step) : oldRows (step :: rest) = step.old ++ oldRows rest :=
  List.flatMap_cons

theorem newRows_cons (step : Step) (rest : List Step) : newRows (step :: rest) = step.new ++ newRows rest :=
  List.flatMap_cons

theorem Kind.Same.refl (yamlPath : Path) (kind : Kind) (o : Option (List Char)) : kind.Same yamlPath o o := by
  cases kind with
  | name | egress | metadata => rfl
  | allowed | blocked => exact fun _ => Iff.rfl
  | timeout =>
    rcases Nat.lt_or_ge (numberSaid o) (2 ^ 64) with small | great
    · exact .inr ⟨small, small, rfl⟩
    · exact .inl ⟨great, great⟩

/-- The condition on the steps is exact for each of the keys. -/
theorem undisturbed_iff (yamlPath : Path) (kind : Kind) (steps : List Step) :
    Undisturbed yamlPath kind steps ↔
      kind.Same yamlPath (kind.extract (documentText (oldRows steps))) (kind.extract (documentText (newRows steps))) := by
  constructor
  · intro undisturbed
    induction undisturbed with
    | done => exact .refl yamlPath kind _
    | silent old new below ih =>
      rw [oldRows_cons, newRows_cons, old.extract, new.extract]
      exact ih
    | changed old new same =>
      rw [oldRows_cons, newRows_cons, old.extract, new.extract]
      exact same
    | added old new below same =>
      rw [oldRows_cons, newRows_cons, old.extract, new.extract, below.whole]
      exact same
    | removed old new below same =>
      rw [oldRows_cons, newRows_cons, old.extract, new.extract, below.whole]
      exact same
  · intro same
    -- which constructor applies is decided by what the first step's rows say in each file
    induction steps with
    | nil => exact .done
    | cons step rest ih =>
      obtain ⟨o, old⟩ := exists_heard kind (oldRows rest) step.old
      obtain ⟨o', new⟩ := exists_heard kind (newRows rest) step.new
      rw [oldRows_cons, newRows_cons, old.extract, new.extract] at same
      cases o with
      | none =>
        cases o' with
        | none => exact .silent old new (ih same)
        | some g' =>
          obtain ⟨o, below⟩ := exists_heard kind [] (oldRows rest)
          exact .added old new below (below.whole ▸ same)
      | some g =>
        cases o' with
        | none =>
          obtain ⟨o', below⟩ := exists_heard kind [] (newRows rest)
          exact .removed old new below (below.whole ▸ same)
        | some g' => exact .changed old new same

/-! What the loader makes of it. -/

section
variable (yamlPath : Path) (content content' : List Char)

theorem tooLong_iff : TooLong content ↔ 2 ^ 64 ≤ numberSaid (Kind.timeout.extract content) := by
  unfold TooLong TimeoutIs
  simp only [settles_iff digitsForm_of]
  exact exists_eq_left'

theorem shared_iff {V : Type} {key : String} {form : Form} {value : Regex} (of : form.Of value)
    (meaning : List Char → V) (default : V) :
    (∃ v, Settles key form meaning default content v ∧ Settles key form meaning default content' v) ↔
      ((extract (keyed key value) content).map meaning).getD default =
        ((extract (keyed key value) content').map meaning).getD default := by
  simp only [settles_iff of]
  constructor
  · rintro ⟨v, rfl, same⟩
    exact same.symm
  · exact fun same => ⟨_, rfl, same.symm⟩

theorem lists_iff (kind : Kind) (listed : kind = .allowed ∨ kind = .blocked) :
    (∀ syscallNr, Lists kind.key content syscallNr ↔ Lists kind.key content' syscallNr) ↔
      kind.Same yamlPath (kind.extract content) (kind.extract content') := by
  rcases listed with rfl | rfl <;> simp only [lists_iff_extract] <;> rfl

theorem agree_iff_same : Agree yamlPath content content' ↔
    (∀ kind : Kind, kind ≠ .timeout → kind.Same yamlPath (kind.extract content) (kind.extract content')) ∧
      numberSaid (Kind.timeout.extract content) % 2 ^ 32 = numberSaid (Kind.timeout.extract content') % 2 ^ 32 := by
  -- the seconds are the one field that may differ as text and agree as read
  have seconds : (∃ n n', TimeoutIs content n ∧ TimeoutIs content' n' ∧ n % 2 ^ 32 = n' % 2 ^ 32) ↔
      numberSaid (Kind.timeout.extract content) % 2 ^ 32 = numberSaid (Kind.timeout.extract content') % 2 ^ 32 := by
    unfold TimeoutIs
    simp only [settles_iff digitsForm_of]
    constructor
    · rintro ⟨n, n', rfl, rfl, same⟩
      exact same
    · exact fun same => ⟨_, _, rfl, rfl, same⟩
  constructor
  · intro agree
    refine ⟨fun kind other => ?_, seconds.mp agree.timeout⟩
    cases kind with
    | name => exact (shared_iff content content' nameForm_of _ _).mp agree.name
    | timeout => exact absurd rfl other
    | egress => exact (shared_iff content content' flagForm_of _ _).mp agree.egress
    | metadata => exact (shared_iff content content' flagForm_of _ _).mp agree.metadata
    | allowed => exact (lists_iff yamlPath content content' .allowed (.inl rfl)).mp agree.allowed
    | blocked => exact (lists_iff yamlPath content content' .blocked (.inr rfl)).mp agree.blocked
  · rintro ⟨same, number⟩
    exact {
      name := (shared_iff content content' nameForm_of _ _).mpr (same .name (by decide))
      egress := (shared_iff content content' flagForm_of _ _).mpr (same .egress (by decide))
      metadata := (shared_iff content content' flagForm_of _ _).mpr (same .metadata (by decide))
      timeout := seconds.mpr number
      allowed := (lists_iff yamlPath content content' .allowed (.inl rfl)).mpr (same .allowed (by decide))
      blocked := (lists_iff yamlPath content content' .blocked (.inr rfl)).mpr (same .blocked (by decide)) }

/-- A timeout that throws leaves nothing else to compare. -/
theorem alike_iff_same : Alike yamlPath content content' ↔
    Kind.timeout.Same yamlPath (Kind.timeout.extract content) (Kind.timeout.extract content') ∧
      (TooLong content ∨ ∀ kind : Kind, kind.Same yamlPath (kind.extract content) (kind.extract content')) := by
  unfold Alike
  rw [tooLong_iff, tooLong_iff, agree_iff_same]
  constructor
  · rintro (⟨great, great'⟩ | ⟨small, small', same, number⟩)
    · exact ⟨.inl ⟨great, great'⟩, .inl great⟩
    · have timeout : Kind.timeout.Same yamlPath (Kind.timeout.extract content) (Kind.timeout.extract content') :=
        .inr ⟨not_le.mp small, not_le.mp small', number⟩
      refine ⟨timeout, .inr fun kind => ?_⟩
      by_cases other : kind = .timeout
      · subst other
        exact timeout
      · exact same kind other
  · rintro ⟨⟨great, great'⟩ | ⟨small, small', number⟩, rest⟩
    · exact .inl ⟨great, great'⟩
    · exact .inr ⟨not_le.mpr small, not_le.mpr small',
        fun kind _ => rest.resolve_left (not_le.mpr small) kind, number⟩

end

/-! Quiet steps. -/

theorem RowEdited.reading {row row' : Row} (edited : RowEdited row row') (kind : Kind) :
    row'.reading kind = row.reading kind := by
  cases edited <;> rfl

section
variable {kind : Kind}

theorem reads_head {key : String} {form : Form} {c : Char} {w g : List Char} (plain : PlainKey key.toList)
    (space : isSpace c = true) : ¬ Reads key form (c :: w) g := by
  rintro ⟨spaces, spaces', u, -, -, -, same⟩
  obtain ⟨d, rest, begins⟩ := List.exists_cons_of_ne_nil plain.1
  rw [begins, List.cons_append] at same
  have solid := (plain.2 d (by rw [begins]; exact List.mem_cons_self)).1
  rw [← (List.cons.inj same).1, space] at solid
  cases solid

theorem ends_tailText (rest : List Row) : ∀ c ∈ (tailText rest).head?, isSpace c = true := by
  cases rest with
  | nil => simp [tailText]
  | cons row rest => simp [tailText, isSpace]

theorem opens_tailText (rest : List Row) : Opens (tailText rest) := by
  cases rest with
  | nil => simp [tailText, Opens]
  | cons row rest => exact (opens_white isSpace_newline _).mpr (opens_documentText (row :: rest))

/-- A setting that can be read is the first place of its own row, whatever comment is behind it. -/
theorem extract_setting {row : Row} {g : List Char} (reading : row.reading kind = some g) (rest : List Row) :
    kind.extract (documentText (row :: rest)) = some g := by
  cases row with
  | setting indent entry note =>
    obtain ⟨rfl, read⟩ := Option.ite_none_right_eq_some.mp reading
    have reads := entry.reads read (ends_note (ends_tailText rest) note)
    rw [documentText_cons]
    refine extract_of_says ⟨_, ?_, List.suffix_append (blanks indent) _, ?_, fun t within longer h => ?_⟩
    · exact List.append_ne_nil_of_left_ne_nil entry.kind.plain.1 _
    · rwa [List.append_assoc, List.cons_append, List.append_assoc]
    · -- an earlier place would begin with a blank
      rcases suffix_append_cases within with short | ⟨t, inside, rfl⟩
      · exact absurd short.length_le (not_le.mpr longer)
      · cases t with
        | nil => simp at longer
        | cons c t => exact reads_head entry.kind.plain (white_blanks indent c (inside.mem List.mem_cons_self))
  | blank | comment | item | description | other => cases reading

theorem extract_quiet {row : Row} (quiet : row.Quiet kind) (rest : List Row) :
    kind.extract (documentText (row :: rest)) = (row.reading kind).or (kind.extract (documentText rest)) := by
  rw [documentText_cons, ← extract_tailText kind rest]
  exact extract_row quiet (ends_tailText rest) (opens_tailText rest)

/-- Rows without a setting are passed over. -/
theorem extract_passed {rows : List Row} (quiet : ∀ row ∈ rows, row.Quiet kind)
    (unset : ∀ row ∈ rows, row.reading kind = none) (rest : List Row) :
    kind.extract (documentText (rows ++ rest)) = kind.extract (documentText rest) := by
  induction rows with
  | nil => rfl
  | cons row rows ih =>
    rw [List.forall_mem_cons] at quiet unset
    rw [List.cons_append, extract_quiet quiet.1, unset.1, Option.none_or, ih quiet.2 unset.2]

theorem Step.unset {step : Step} (other : step.settles kind = false) :
    (∀ row ∈ step.old, row.reading kind = none) ∧ ∀ row ∈ step.new, row.reading kind = none := by
  cases step with
  | kept row row' edited =>
    have nothing : row.reading kind = none := by simpa [Step.settles] using other
    exact ⟨by simpa [Step.old] using nothing, by simpa [Step.new, edited.reading kind] using nothing⟩
  | comment indent text => exact ⟨by simp [Step.old], by simp [Step.new, Row.reading]⟩
  | entry indent key value note items =>
    refine ⟨by simp [Step.old], fun row member => ?_⟩
    rcases List.mem_cons.mp member with rfl | member
    · rfl
    · obtain ⟨item, -, rfl⟩ := List.mem_map.mp member
      rfl

/-- Up to the first setting that can be read the rows are quiet, and behind it nothing counts. -/
theorem extract_ahead {steps : List Step} (quiet : ∀ step ∈ ahead kind steps, step.Quiet kind) :
    kind.extract (documentText (newRows steps)) = kind.extract (documentText (oldRows steps)) := by
  induction steps with
  | nil => rfl
  | cons step rest ih =>
    rw [oldRows_cons, newRows_cons]
    cases settled : step.settles kind with
    | true =>
      cases step with
      | kept row row' edited =>
        obtain ⟨g, reading⟩ := Option.isSome_iff_exists.mp settled
        have reading' := (edited.reading kind).trans reading
        exact (extract_setting reading' _).trans (extract_setting reading _).symm
      | comment | entry => cases settled
    | false =>
      rw [ahead, List.takeWhile_cons_of_pos (by simp [settled]), List.forall_mem_cons] at quiet
      obtain ⟨⟨old, new⟩, below⟩ := quiet
      obtain ⟨unset, unset'⟩ := step.unset settled
      rw [extract_passed old unset, extract_passed new unset', ih below]

end

/-- Loading is not changed by an edit just if, for each key, the first step whose rows say something
in one of the files says the same in both, or what is said further down in the other; with a timeout
that throws only its own key counts. So it is where the rows before the first setting of each kind
have none of the keys before a colon, whatever the rows behind it have. -/
theorem edits_inert_iff (yamlPath : Path) (file : YamlFile) (steps : List Step) :
    (SameLoad yamlPath { file with content := documentText (oldRows steps) }
        { file with content := documentText (newRows steps) } ↔
      ¬ file.Readable ∨ Undisturbed yamlPath .timeout steps ∧
        (TooLong (documentText (oldRows steps)) ∨ ∀ kind, Undisturbed yamlPath kind steps)) ∧
    ((∀ kind, ∀ step ∈ ahead kind steps, step.Quiet kind) → ∀ kind, Undisturbed yamlPath kind steps) := by
  constructor
  · rw [sameLoad_iff, alike_iff_same]
    simp only [undisturbed_iff]
  · intro quiet kind
    rw [undisturbed_iff, extract_ahead (quiet kind)]
    exact .refl yamlPath kind _

/-- The sample file. -/
def sampleRows : List Row := [
  .setting 0 (.policyName (.of "test_custom" rfl rfl)) none,
  .setting 0 (.maxExecutionTimeSec (.of "10" rfl rfl)) none,
  .other 0 (.of "network_rules" rfl rfl rfl rfl) (.of "" rfl) none,
  .setting 2 (.blockAllNetworkEgress true) none,
  .setting 2 (.blockCloudMetadataIps true) none,
  .other 0 (.of "syscall_rules" rfl rfl rfl rfl) (.of "" rfl) none,
  .other 2 (.of "default_mode" rfl rfl rfl rfl) (.of " \"strict_whitelist\"" rfl) none,
  .setting 2 (.allowedSysCalls (.flow [.of "read" rfl rfl, .of "write" rfl rfl])) none,
  .setting 2 (.blockedSysCalls (.flow [.of "execve" rfl rfl])) none,
  .blank 0]

example : documentText sampleRows = textOf sampleLines := by decide +kernel

theorem RowEdited.refl (row : Row) : RowEdited row row := by
  have note : ∀ note : Option Note, NoteEdited note note
    | none => .missing
    | some ⟨gap, text⟩ => .text gap text text
  cases row with
  | blank indent => exact .blank indent
  | comment indent text => exact .comment indent text text
  | setting indent entry n => exact .setting indent entry (note n)
  | item indent text n => exact .item indent text (note n)
  | description indent text n => exact .description indent text text (note n)
  | other indent key value n => exact .other indent key value (note n)

def untouched (rows : List Row) : List Step := rows.map fun row => .kept row row (.refl row)

/-- A comment at the top and one at the end. -/
def commented (top bottom : OneLine) : List Step := .comment 0 top :: (untouched sampleRows ++ [.comment 0 bottom])

example (top bottom : OneLine) : oldRows (commented top bottom) = sampleRows ∧
    newRows (commented top bottom) = .comment 0 top :: (sampleRows ++ [.comment 0 bottom]) := ⟨rfl, rfl⟩

/-- A comment that names none of the keys. -/
def remark : OneLine := .of " Sample policy: no egress" rfl

/-- A setting that is commented out. -/
def commentedOut : OneLine := .of " block_cloud_metadata_ips: false" rfl

/-- It is not read where it stands behind the settings. -/
theorem remark_inert : SameLoad ⟨false, ["test_custom_policy.yaml"]⟩
    { content := documentText (oldRows (commented remark commentedOut)) }
    { content := documentText (newRows (commented remark commentedOut)) } := by
  obtain ⟨condition, quiet⟩ :=
    edits_inert_iff ⟨false, ["test_custom_policy.yaml"]⟩ {} (commented remark commentedOut)
  have absent : ∀ kind : Kind, ∀ step ∈ ahead kind (commented remark commentedOut),
      (∀ row ∈ step.old, ¬ kind.key.toList <:+: row.noise) ∧ ∀ row ∈ step.new, ¬ kind.key.toList <:+: row.noise := by
    intro kind
    cases kind <;> decide +kernel
  have inert := quiet fun kind step member =>
    ⟨fun row old => silent_of_absent ((absent kind step member).1 row old),
      fun row new => silent_of_absent ((absent kind step member).2 row new)⟩
  exact condition.mpr (.inr ⟨inert .timeout, .inr inert⟩)

theorem commented_out_setting_read : ¬ SameLoad ⟨false, ["test_custom_policy.yaml"]⟩
    { content := documentText (oldRows (commented commentedOut remark)) }
    { content := documentText (newRows (commented commentedOut remark)) } := by
  intro same
  have on : flagOf blockMetaRegex (documentText (oldRows (commented commentedOut remark))) true = true := by
    decide +kernel
  have off : flagOf blockMetaRegex (documentText (newRows (commented commentedOut remark))) true = false := by
    decide +kernel
  obtain ⟨flag, before, after⟩ := (agree_of_sameLoad same (by decide +kernel)).metadata
  have first := Settles.unique flagForm_of (flagOf_settled _ true _) before
  have second := Settles.unique flagForm_of (flagOf_settled _ true _) after
  exact absurd (on.symm.trans (first.trans (second.symm.trans off))) (by decide)

end Aegis.Policy
