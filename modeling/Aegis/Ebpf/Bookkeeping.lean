import Aegis.Ebpf.Reach

/-! The loader's bookkeeping: one object, a list of links, the metadata of the programs.

Objects and links are handles that libbpf gives out; which of them are open is kept
beside what the loader knows of them. An object is given by the names of its programs.

The attach functions take a view of a name. They look the program up by the C string that begins
where the view begins, and the metadata by the text that the view covers.
-/

set_option autoImplicit false

namespace Aegis.Ebpf.Books
open Library

structure OpenObject where
  handle : Nat
  programs : List String
  deriving DecidableEq, Repr

structure BpfLink where
  handle : Nat
  program : String
  deriving DecidableEq, Repr

/-- The members of the loader, and what is open: `openObjects`, `liveLinks`; `next` is the next handle. -/
structure State where
  bpfObj : Option OpenObject := none
  bpfLinks : List BpfLink := []
  programs : String → Option EBPFProgramMetadata := fun _ => none
  isLoaded : Bool := false
  openObjects : List Nat := []
  liveLinks : List Nat := []
  next : Nat := 0

/-! libbpf. -/

def State.openFile (s : State) (names : List String) : State :=
  { s with
    bpfObj := some ⟨s.next, names⟩
    openObjects := s.next :: s.openObjects
    next := s.next + 1 }

/-- `bpf_object__close` on the loader's object. -/
def State.close (s : State) : State :=
  { s with
    bpfObj := none
    openObjects := match s.bpfObj with
      | some obj => s.openObjects.erase obj.handle
      | none => s.openObjects }

def State.destroyLinks (s : State) : State :=
  { s with
    bpfLinks := []
    liveLinks := s.bpfLinks.foldl (fun live link => live.erase link.handle) s.liveLinks }

/-! The loader. -/

/-- A `std::string_view`, and what stands behind it in memory. -/
structure View where
  text : String
  behind : String := ""
  deriving DecidableEq, Repr

/-- What `data()` is to a C function: the end of the view does not count. -/
def View.cString (view : View) : String :=
  String.ofList ((view.text.toList ++ view.behind.toList).takeWhile (· ≠ '\x00'))

def loadedMetadata (objectPath name : String) : EBPFProgramMetadata :=
  { programName := name, objectFilePath := objectPath, isLoaded := true, isAttached := false }

def State.enumerate (s : State) (objectPath : String) (names : List String) : State :=
  { s with
    programs := names.foldl (fun table name => Function.update table name (some (loadedMetadata objectPath name)))
      s.programs }

def loadBpfObject (names : List String) (objectPath : String) (env : LoadEnv) : Proc State Status :=
  match env.found with
  | .throws => Proc.throw
  | .no => pure .errEBPFProbeLoadFailed
  | .yes =>
      if env.opens then do
        Proc.modify fun s => s.openFile names
        if env.verifies then do
          Proc.modify fun s => s.enumerate objectPath names
          Proc.modify fun s => { s with isLoaded := true }
          pure .success
        else do
          Proc.modify State.close
          pure .errEBPFProbeLoadFailed
      else do
        -- the null pointer is assigned before it is looked at
        Proc.modify fun s => { s with bpfObj := none }
        pure .errEBPFProbeLoadFailed

def State.link (s : State) (progName : View) : State :=
  { s with
    bpfLinks := s.bpfLinks ++ [⟨s.next, progName.cString⟩]
    liveLinks := s.liveLinks ++ [s.next]
    next := s.next + 1
    programs := Function.update s.programs progName.text
      ((s.programs progName.text).map fun metadata => { metadata with isAttached := true }) }

/-- The part that both attach functions share; `attaches` is libbpf's answer. -/
def attach (progName : View) (attaches : Bool) : Proc State Status := do
  let s ← Proc.get
  match s.bpfObj with
  | none => pure .errEBPFProbeLoadFailed
  | some obj =>
      if s.isLoaded = false then pure .errEBPFProbeLoadFailed
      else if progName.cString ∉ obj.programs then pure .errEBPFProbeLoadFailed
      else if attaches then do
        Proc.modify fun s => s.link progName
        pure .success
      else pure .errEBPFProbeLoadFailed

def attachTracepoint (progName : View) (attaches : Bool) : Proc State Status := attach progName attaches

def attachCgroupConnect4 (progName : View) (cgroupFd : Int) (attaches : Bool) : Proc State Status :=
  if cgroupFd < 0 then pure .errEBPFProbeLoadFailed else attach progName attaches

/-- The flags of every program are cleared. -/
def detached (metadata : EBPFProgramMetadata) : EBPFProgramMetadata :=
  { metadata with isAttached := false, isLoaded := false }

def detachAll : Proc State Unit := do
  Proc.modify State.destroyLinks
  Proc.modify State.close
  Proc.modify fun s => { s with programs := fun name => (s.programs name).map detached, isLoaded := false }

inductive Op where
  | loadBpfObject (names : List String) (objectPath : String) (env : LoadEnv)
  | attachTracepoint (progName : View) (attaches : Bool)
  | attachCgroupConnect4 (progName : View) (cgroupFd : Int) (attaches : Bool)
  | detachAll

def call : Op → Proc State Status
  | .loadBpfObject names objectPath env => loadBpfObject names objectPath env
  | .attachTracepoint progName attaches => attachTracepoint progName attaches
  | .attachCgroupConnect4 progName cgroupFd attaches => attachCgroupConnect4 progName cgroupFd attaches
  | .detachAll => do
      detachAll
      pure .success

/-- What the loader says of itself is so. -/
structure Sound (s : State) : Prop where
  loaded : s.isLoaded = s.bpfObj.isSome
  objects : s.openObjects = s.bpfObj.toList.map OpenObject.handle
  attached : ∀ name metadata, s.programs name = some metadata →
    (metadata.isAttached = true ↔ ∃ link ∈ s.bpfLinks, link.handle ∈ s.liveLinks ∧ link.program = name)

/-- A load that returns an error has changed none of the loader's members. -/
structure Unchanged (before after : State) : Prop where
  bpfObj : after.bpfObj = before.bpfObj
  isLoaded : after.isLoaded = before.isLoaded
  programs : after.programs = before.programs

/-- The state after a call is sound; a failed load has changed nothing, and after `detach_all`
nothing is open. -/
def KeepsBooks (op : Op) (s : State) : Prop :=
  Sound ((call op).ends s).2 ∧
  match op with
  | .loadBpfObject .. => ∀ status, ((call op).ends s).1 = .returned status → status ≠ .success →
      Unchanged s ((call op).ends s).2
  | .detachAll => ((call op).ends s).2.openObjects = [] ∧ ((call op).ends s).2.liveLinks = []
  | _ => True

/-- An attach gets as far as a link. -/
def State.Links (s : State) (progName : View) (attaches : Bool) : Prop :=
  s.isLoaded = true ∧ (∃ obj ∈ s.bpfObj, progName.cString ∈ obj.programs) ∧ attaches = true

def State.Attached (s : State) (name : String) : Prop := ∃ metadata ∈ s.programs name, metadata.isAttached = true

/-- The view ends where the name of the program ends. Otherwise the link changes nothing that the
metadata says only if the program is attached already, and so is the one the view names, if any. -/
def State.Names (s : State) (progName : View) : Prop :=
  progName.text = progName.cString ∨
    s.Attached progName.cString ∧ (s.programs progName.text = none ∨ s.Attached progName.text)

/-- A file that is there is loaded only while the loader has no object, and a program is linked
only through a view that names it. -/
def Careful (op : Op) (s : State) : Prop :=
  match op with
  | .loadBpfObject _ _ env => env.found = .yes → s.bpfObj = none
  | .attachTracepoint progName attaches => s.Links progName attaches → s.Names progName
  | .attachCgroupConnect4 progName cgroupFd attaches => 0 ≤ cgroupFd → s.Links progName attaches → s.Names progName
  | .detachAll => True

/-- What careful calls keep. -/
structure Invariant (s : State) : Prop where
  sound : Sound s
  live : s.liveLinks = s.bpfLinks.map BpfLink.handle
  idle : s.bpfObj = none → s.bpfLinks = []
  listed : ∀ obj ∈ s.bpfObj, ∀ name ∈ obj.programs, (s.programs name).isSome = true

section
variable {s : State}

theorem foldl_update (objectPath name : String) (names : List String) (table : String → Option EBPFProgramMetadata) :
    names.foldl (fun table name => Function.update table name (some (loadedMetadata objectPath name))) table name =
      if name ∈ names then some (loadedMetadata objectPath name) else table name := by
  induction names generalizing table with
  | nil => simp
  | cons first rest ih =>
    rw [List.foldl_cons, ih]
    by_cases later : name ∈ rest
    · simp [later]
    · by_cases same : name = first
      · simp [same]
      · simp [later, same]

/-- Destroying every link of the list leaves none alive. -/
theorem foldl_erase_handles (links : List BpfLink) :
    links.foldl (fun live link => live.erase link.handle) (links.map BpfLink.handle) = [] := by
  induction links with
  | nil => rfl
  | cons link rest ih => simpa using ih

theorem Invariant.attached_iff (inv : Invariant s) {name : String} {metadata : EBPFProgramMetadata}
    (known : s.programs name = some metadata) :
    metadata.isAttached = true ↔ ∃ link ∈ s.bpfLinks, link.program = name := by
  rw [inv.sound.attached name metadata known]
  refine exists_congr fun link => and_congr_right fun member => and_iff_right ?_
  rw [inv.live]
  exact List.mem_map_of_mem member

/-- Soundness, where every link in the list is live. -/
theorem sound_of_live (loaded : s.isLoaded = s.bpfObj.isSome)
    (objects : s.openObjects = s.bpfObj.toList.map OpenObject.handle)
    (live : s.liveLinks = s.bpfLinks.map BpfLink.handle)
    (attached : ∀ name metadata, s.programs name = some metadata →
      (metadata.isAttached = true ↔ ∃ link ∈ s.bpfLinks, link.program = name)) : Sound s := by
  refine ⟨loaded, objects, fun name metadata known => (attached name metadata known).trans ?_⟩
  refine exists_congr fun link => and_congr_right fun member => (and_iff_right ?_).symm
  rw [live]
  exact List.mem_map_of_mem member

/-! Loading. -/

/-- The state a successful load ends in. -/
def State.loaded (s : State) (names : List String) (objectPath : String) : State :=
  { (s.openFile names).enumerate objectPath names with isLoaded := true }

theorem loadBpfObject_cases (names : List String) (objectPath : String) (env : LoadEnv) (s : State) :
    (env.found ≠ .yes ∧ ∃ outcome, outcome ≠ .returned .success ∧
      (loadBpfObject names objectPath env).ends s = (outcome, s)) ∨
    (env.found = .yes ∧ (loadBpfObject names objectPath env).ends s =
      (.returned .success, s.loaded names objectPath)) ∨
    (env.found = .yes ∧ ∃ next, (loadBpfObject names objectPath env).ends s =
      (.returned .errEBPFProbeLoadFailed, { s with bpfObj := none, next := next })) := by
  unfold loadBpfObject
  cases env.found with
  | throws => exact .inl ⟨by simp, .threw, by simp, rfl⟩
  | no => exact .inl ⟨by simp, .returned .errEBPFProbeLoadFailed, by simp, rfl⟩
  | yes =>
    by_cases opens : env.opens = true
    · by_cases verifies : env.verifies = true
      · exact .inr (.inl ⟨rfl, by simp [opens, verifies, State.loaded]⟩)
      · exact .inr (.inr ⟨rfl, s.next + 1, by simp [opens, verifies, State.openFile, State.close]⟩)
    · exact .inr (.inr ⟨rfl, s.next, by simp [opens]⟩)

/-- A load onto an object loses it: it stays open, or the flag stays set without it. -/
theorem load_breaks (inv : Invariant s) {obj : OpenObject} (held : s.bpfObj = some obj) {names : List String}
    {objectPath : String} {env : LoadEnv} (found : env.found = .yes) :
    ¬ Sound ((loadBpfObject names objectPath env).ends s).2 := by
  have flag : s.isLoaded = true := by rw [inv.sound.loaded, held]; rfl
  have objects : s.openObjects = [obj.handle] := by rw [inv.sound.objects, held]; rfl
  rcases loadBpfObject_cases names objectPath env s with ⟨missing, -⟩ | ⟨-, ends⟩ | ⟨-, next, ends⟩
  · exact absurd found missing
  · rw [ends]
    intro sound
    have two : s.next :: s.openObjects = [s.next] := sound.objects
    rw [objects] at two
    exact nomatch two
  · rw [ends]
    intro sound
    have unset : s.isLoaded = false := sound.loaded
    rw [flag] at unset
    exact nomatch unset

theorem programs_loaded (s : State) (names : List String) (objectPath name : String) :
    (s.loaded names objectPath).programs name =
      if name ∈ names then some (loadedMetadata objectPath name) else s.programs name :=
  foldl_update objectPath name names s.programs

theorem loaded_keeps (inv : Invariant s) (bare : s.bpfObj = none) (names : List String) (objectPath : String) :
    Invariant (s.loaded names objectPath) := by
  have links : s.bpfLinks = [] := inv.idle bare
  refine ⟨sound_of_live rfl ?_ inv.live ?_, inv.live, fun _ => links, ?_⟩
  · show s.next :: s.openObjects = [s.next]
    rw [inv.sound.objects, bare]
    rfl
  · intro name metadata known
    have absent : ¬ ∃ link ∈ s.bpfLinks, link.program = name := by simp [links]
    refine iff_of_false (fun attached => ?_) absent
    rw [programs_loaded] at known
    split at known
    · cases known
      exact nomatch attached
    · exact absent ((inv.attached_iff known).mp attached)
  · rintro obj held name member
    cases held
    rw [programs_loaded, if_pos member]
    rfl

/-- A load without an object before it. -/
theorem load_keeps (inv : Invariant s) (names : List String) (objectPath : String) (env : LoadEnv)
    (alone : env.found = .yes → s.bpfObj = none) :
    Invariant ((loadBpfObject names objectPath env).ends s).2 ∧
      ∀ status, ((loadBpfObject names objectPath env).ends s).1 = .returned status → status ≠ .success →
        Unchanged s ((loadBpfObject names objectPath env).ends s).2 := by
  rcases loadBpfObject_cases names objectPath env s with ⟨-, outcome, -, ends⟩ | ⟨found, ends⟩ | ⟨found, next, ends⟩
  · rw [ends]
    exact ⟨inv, fun _ _ _ => ⟨rfl, rfl, rfl⟩⟩
  · rw [ends]
    refine ⟨loaded_keeps inv (alone found) names objectPath, fun status same failed => ?_⟩
    cases same
    exact absurd rfl failed
  · have same : { s with bpfObj := none, next := next } = { s with next := next } := by rw [← alone found]
    rw [ends, same]
    refine ⟨⟨?_, inv.live, inv.idle, inv.listed⟩, fun _ _ _ => ⟨rfl, rfl, rfl⟩⟩
    exact ⟨inv.sound.loaded, inv.sound.objects, inv.sound.attached⟩

/-! Attaching. -/

theorem attach_links {progName : View} {attaches : Bool} (links : s.Links progName attaches) :
    (attach progName attaches).ends s = (.returned .success, s.link progName) := by
  obtain ⟨flag, ⟨obj, held, known⟩, rfl⟩ := links
  unfold attach
  rw [Proc.ends_get_bind, Option.mem_def.mp held]
  dsimp only
  rw [if_neg (by simp [flag]), if_neg (not_not.mpr known)]
  rfl

theorem attach_refused {progName : View} {attaches : Bool} (refused : ¬ s.Links progName attaches) :
    (attach progName attaches).ends s = (.returned .errEBPFProbeLoadFailed, s) := by
  unfold attach
  rw [Proc.ends_get_bind]
  cases held : s.bpfObj with
  | none => rfl
  | some obj =>
    dsimp only
    by_cases flag : s.isLoaded = false
    · rw [if_pos flag]
      rfl
    rw [if_neg flag]
    by_cases known : progName.cString ∈ obj.programs
    · rw [if_neg (not_not.mpr known)]
      cases attaches with
      | false => rfl
      | true => exact absurd ⟨Bool.eq_true_of_not_eq_false flag, ⟨obj, held, known⟩, rfl⟩ refused
    · rw [if_pos known]
      rfl

theorem programs_link_self (s : State) (progName : View) :
    (s.link progName).programs progName.text =
      (s.programs progName.text).map fun metadata => { metadata with isAttached := true } :=
  Function.update_self _ _ _

theorem programs_link_of_ne (s : State) {progName : View} {name : String} (different : name ≠ progName.text) :
    (s.link progName).programs name = s.programs name :=
  Function.update_of_ne different _ _

theorem isSome_programs_link (s : State) (progName : View) (name : String) :
    ((s.link progName).programs name).isSome = (s.programs name).isSome := by
  by_cases same : name = progName.text
  · rw [same, programs_link_self, Option.isSome_map]
  · rw [programs_link_of_ne s same]

theorem exists_link_link (s : State) (progName : View) (name : String) :
    (∃ link ∈ (s.link progName).bpfLinks, link.program = name) ↔
      (∃ link ∈ s.bpfLinks, link.program = name) ∨ progName.cString = name := by
  simp [State.link, or_and_right, exists_or]

theorem Invariant.attached_iff_link (inv : Invariant s) {name : String} (known : (s.programs name).isSome = true) :
    s.Attached name ↔ ∃ link ∈ s.bpfLinks, link.program = name := by
  obtain ⟨metadata, known⟩ := Option.isSome_iff_exists.mp known
  rw [← inv.attached_iff known]
  simp [State.Attached, known]

theorem link_live (inv : Invariant s) (progName : View) :
    (s.link progName).liveLinks = (s.link progName).bpfLinks.map BpfLink.handle := by
  simp [State.link, inv.live]

/-- The metadata is right after a link through a view that names the program. -/
theorem link_attached (inv : Invariant s) {progName : View} (listed : (s.programs progName.cString).isSome = true)
    (names : s.Names progName) {name : String} {metadata : EBPFProgramMetadata}
    (found : (s.link progName).programs name = some metadata) :
    metadata.isAttached = true ↔ ∃ link ∈ (s.link progName).bpfLinks, link.program = name := by
  rw [exists_link_link]
  by_cases covered : name = progName.text
  · subst covered
    rw [programs_link_self] at found
    obtain ⟨before, known, rfl⟩ := Option.map_eq_some_iff.mp found
    refine iff_of_true rfl ?_
    rcases names with same | ⟨-, unknown | attached⟩
    · exact .inr same.symm
    · exact absurd (unknown.symm.trans known) (by simp)
    · exact .inl ((inv.attached_iff_link (by rw [known]; rfl)).mp attached)
  · rw [programs_link_of_ne s covered] at found
    rw [inv.attached_iff found]
    refine ⟨.inl, fun linked => linked.elim id fun same => ?_⟩
    rcases names with whole | ⟨attached, -⟩
    · exact absurd (whole.trans same).symm covered
    · exact same ▸ (inv.attached_iff_link listed).mp attached

theorem link_keeps (inv : Invariant s) {obj : OpenObject} (held : s.bpfObj = some obj) {progName : View}
    (known : progName.cString ∈ obj.programs) (names : s.Names progName) : Invariant (s.link progName) := by
  have live := link_live inv progName
  refine ⟨sound_of_live inv.sound.loaded inv.sound.objects live ?_, live, fun bare => ?_, ?_⟩
  · exact fun name metadata found => link_attached inv (inv.listed obj held _ known) names found
  · exact absurd (held.symm.trans bare) (by simp)
  · intro other held' name member
    rw [isSome_programs_link]
    exact inv.listed other held' name member

/-- A view that names another program: the one linked is not marked, or one that is not is. -/
theorem link_breaks (inv : Invariant s) {obj : OpenObject} (held : s.bpfObj = some obj) {progName : View}
    (known : progName.cString ∈ obj.programs) (misnames : ¬ s.Names progName) : ¬ Sound (s.link progName) := by
  intro sound
  have live := link_live inv progName
  have attached (name : String) (metadata : EBPFProgramMetadata)
      (found : (s.link progName).programs name = some metadata) :
      metadata.isAttached = true ↔ (∃ link ∈ s.bpfLinks, link.program = name) ∨ progName.cString = name := by
    rw [← exists_link_link, sound.attached name metadata found]
    refine exists_congr fun link => and_congr_right fun member => and_iff_right ?_
    rw [live]
    exact List.mem_map_of_mem member
  have different : progName.text ≠ progName.cString := fun same => misnames (.inl same)
  have listed := inv.listed obj held _ known
  refine misnames (.inr ⟨?_, ?_⟩)
  -- the program that was linked has to be marked already, since the call marks another
  · obtain ⟨metadata, found⟩ := Option.isSome_iff_exists.mp listed
    have now := (attached _ metadata ((programs_link_of_ne s (Ne.symm different)).trans found)).mpr (.inr rfl)
    exact ⟨metadata, found, now⟩
  -- and the one that is marked has to be linked already, unless nothing has that name
  · cases found : s.programs progName.text with
    | none => exact .inl rfl
    | some metadata =>
      have now := (attached _ _ ((programs_link_self s progName).trans (congrArg _ found))).mp rfl
      have before := now.resolve_right (Ne.symm different)
      exact .inr ((inv.attached_iff_link (by rw [found]; rfl)).mpr before)

theorem attach_keeps (inv : Invariant s) {progName : View} {attaches : Bool}
    (names : s.Links progName attaches → s.Names progName) : Invariant ((attach progName attaches).ends s).2 := by
  by_cases links : s.Links progName attaches
  · rw [attach_links links]
    obtain ⟨-, ⟨obj, held, known⟩, -⟩ := id links
    exact link_keeps inv held known (names links)
  · rw [attach_refused links]
    exact inv

theorem attach_breaks (inv : Invariant s) {progName : View} {attaches : Bool} (links : s.Links progName attaches)
    (misnames : ¬ s.Names progName) : ¬ Sound ((attach progName attaches).ends s).2 := by
  rw [attach_links links]
  obtain ⟨-, ⟨obj, held, known⟩, -⟩ := links
  exact link_breaks inv held known misnames

/-! Detaching. -/

/-- The state `detach_all` ends in. -/
def State.detached (s : State) : State :=
  { s.destroyLinks.close with programs := fun name => (s.programs name).map Books.detached, isLoaded := false }

theorem detached_keeps (inv : Invariant s) :
    Invariant s.detached ∧ s.detached.openObjects = [] ∧ s.detached.liveLinks = [] := by
  have links : s.detached.liveLinks = [] := by
    show s.bpfLinks.foldl (fun live link => live.erase link.handle) s.liveLinks = []
    rw [inv.live]
    exact foldl_erase_handles s.bpfLinks
  have objects : s.detached.openObjects = [] := by
    have opened := inv.sound.objects
    unfold State.detached State.close State.destroyLinks
    dsimp only
    cases held : s.bpfObj with
    | none =>
      rw [opened, held]
      rfl
    | some obj =>
      rw [opened, held]
      simp
  refine ⟨⟨sound_of_live rfl objects links ?_, links, fun _ => rfl, fun _ absent => nomatch absent⟩, objects, links⟩
  intro name metadata known
  obtain ⟨before, -, rfl⟩ := Option.map_eq_some_iff.mp known
  exact iff_of_false (fun attached => nomatch attached) (by simp [State.detached, State.close, State.destroyLinks])

theorem connect4_keeps (inv : Invariant s) {progName : View} {cgroupFd : Int} {attaches : Bool}
    (names : 0 ≤ cgroupFd → s.Links progName attaches → s.Names progName) :
    Invariant ((attachCgroupConnect4 progName cgroupFd attaches).ends s).2 := by
  unfold attachCgroupConnect4
  by_cases negative : cgroupFd < 0
  · rw [if_pos negative]
    exact inv
  · rw [if_neg negative]
    exact attach_keeps inv (names (not_lt.mp negative))

/-- One careful call keeps the books. -/
theorem call_keeps (inv : Invariant s) (op : Op) (careful : Careful op s) :
    Invariant ((call op).ends s).2 ∧ KeepsBooks op s := by
  cases op with
  | loadBpfObject names objectPath env =>
    obtain ⟨after, unchanged⟩ := load_keeps inv names objectPath env careful
    exact ⟨after, after.sound, unchanged⟩
  | attachTracepoint progName attaches =>
    have after := attach_keeps inv careful
    exact ⟨after, after.sound, trivial⟩
  | attachCgroupConnect4 progName cgroupFd attaches =>
    have after := connect4_keeps inv careful
    exact ⟨after, after.sound, trivial⟩
  | detachAll =>
    obtain ⟨after, nothing⟩ := detached_keeps inv
    exact ⟨after, after.sound, nothing⟩

theorem keepsBooks_iff (inv : Invariant s) (op : Op) : KeepsBooks op s ↔ Careful op s := by
  by_cases careful : Careful op s
  · exact iff_of_true (call_keeps inv op careful).2 careful
  refine iff_of_false (fun keeps => ?_) careful
  cases op with
  | loadBpfObject names objectPath env =>
    obtain ⟨found, held⟩ := Classical.not_imp.mp careful
    obtain ⟨obj, held⟩ := Option.ne_none_iff_exists'.mp held
    exact load_breaks inv held found keeps.1
  | attachTracepoint progName attaches =>
    obtain ⟨links, misnames⟩ := Classical.not_imp.mp careful
    exact attach_breaks inv links misnames keeps.1
  | attachCgroupConnect4 progName cgroupFd attaches =>
    obtain ⟨valid, misnamed⟩ := Classical.not_imp.mp careful
    obtain ⟨links, misnames⟩ := Classical.not_imp.mp misnamed
    refine attach_breaks inv links misnames ?_
    have same : attachCgroupConnect4 progName cgroupFd attaches = attach progName attaches := if_neg (not_lt.mpr valid)
    rw [← same]
    exact keeps.1
  | detachAll => exact careful trivial

end

/-- A new loader. -/
theorem invariant_init : Invariant {} :=
  ⟨⟨rfl, rfl, fun _ _ absent => nomatch absent⟩, rfl, fun _ => rfl, fun _ absent => nomatch absent⟩

/-- Along every run of a new loader the books are kept, if and only if every file that is there
is loaded while the loader has no object and every program is linked through a view that names it. -/
theorem runs_keep_books_iff (ops : List Op) : Along call KeepsBooks ops {} ↔ Along call Careful ops {} := by
  refine along_congr Invariant (fun _ _ => True) ?_ ?_ ops {} invariant_init
    (along_of_forall (fun _ _ => trivial) ops _)
  · exact fun op s inv _ => keepsBooks_iff inv op
  · exact fun op s inv _ careful _ => (call_keeps inv op careful).1

/-- Two of the three objects: the first stays open, out of the loader's reach. -/
theorem second_load_leaks :
    ¬ Along call KeepsBooks
      [.loadBpfObject ["handle_sys_enter"] "sys_filter.bpf.o" {},
        .loadBpfObject ["aegis_cgroup_connect4"] "net_filter.bpf.o" {}] {} := by
  intro all
  have second : Sound _ := (all.2 (fun stuck => nomatch stuck)).1.1
  have objects : [1, 0] = [1] := second.objects
  exact absurd objects (by decide)

/-- A view of the first six bytes of the name links the program, and nothing is marked. -/
example :
    let s := ((call (.attachTracepoint { text := "handle", behind := "_sys_enter\x00" } true)).ends
      (State.loaded {} ["handle_sys_enter"] "sys_filter.bpf.o")).2
    s.bpfLinks = [⟨1, "handle_sys_enter"⟩] ∧ (s.programs "handle_sys_enter").map (·.isAttached) = some false := by
  decide +kernel

/-! The books and the loader of the map updates. -/

/-- The two say the same: as many objects are open, and the loader knows the same of them. -/
structure Tracks (s : State) (state : LoaderState) : Prop where
  held : s.bpfObj.isSome = state.loader.bpfObj.isSome
  isLoaded : s.isLoaded = state.isLoaded
  programs : ∀ name, s.programs name = state.programs.lookup name
  objects : s.openObjects.length = state.objects.length

/-- A load of one of the built objects does the same to both. -/
theorem load_tracks {s : State} {state : LoaderState} (tracks : Tracks s state) (file : ObjectFile)
    (objectPath : String) (env : LoadEnv) :
    ((loadBpfObject [file.programName] objectPath env).ends s).1 =
        ((Ebpf.loadBpfObject file objectPath env).ends state).1 ∧
      Tracks ((loadBpfObject [file.programName] objectPath env).ends s).2
        ((Ebpf.loadBpfObject file objectPath env).ends state).2 := by
  have programs (name : String) : (s.loaded [file.programName] objectPath).programs name =
      (state.install file objectPath).programs.lookup name := by
    rw [programs_loaded, LoaderState.install]
    by_cases same : name = file.programName
    · subst same
      simp [loadedMetadata]
    · simp [same, Finmap.lookup_insert_of_ne, tracks.programs]
  have abandoned : s.openObjects.length = state.abandon.objects.length := by
    rw [tracks.objects]
    simp [LoaderState.objects, LoaderState.abandon]
  have installed : (s.next :: s.openObjects).length = (state.install file objectPath).objects.length := by
    rw [List.length_cons, tracks.objects]
    simp [LoaderState.objects, LoaderState.install, Nat.add_assoc]
  unfold loadBpfObject Ebpf.loadBpfObject
  cases env.found with
  | throws => exact ⟨rfl, tracks⟩
  | no => exact ⟨rfl, tracks⟩
  | yes =>
    cases env.opens with
    | false => exact ⟨rfl, rfl, tracks.isLoaded, tracks.programs, abandoned⟩
    | true =>
      cases env.verifies with
      | false => exact ⟨rfl, rfl, tracks.isLoaded, tracks.programs, by simpa [State.openFile, State.close] using abandoned⟩
      | true => exact ⟨rfl, rfl, rfl, programs, installed⟩

end Aegis.Ebpf.Books
