import Aegis.Guest.Agent
import Aegis.Library.LastWins
import Aegis.Library.Table
import Mathlib.Data.List.TakeWhile

/-! The environment of the child: the agent's own, followed by the map of the request.

The map is walked in any order. Of the strings with the same text before the first `=` the last
one reaches the child; a string without one is no variable and is passed on as it is. A key of
the map may hold a `=` itself, and is then cut at another place than it was joined.
-/

set_option autoImplicit false

namespace Aegis.Guest
open Library

/-- `fmt.Sprintf("%s=%s", k, v)` -/
def assignment (k v : Bytes) : Bytes := k ++ byte '=' :: v

/-- `cmd.Env` after the loop over the map. -/
def cmdEnv (osEnviron : List Bytes) (entries : List (Bytes × Bytes)) : List Bytes :=
  entries.foldl (fun env entry => env ++ [assignment entry.1 entry.2]) osEnviron

def textBefore (kv : Bytes) : Bytes := kv.takeWhile (· ≠ byte '=')

def nameOf (kv : Bytes) : Option Bytes := if byte '=' ∈ kv then some (textBefore kv) else none

def valueOf (kv : Bytes) : Bytes := (kv.dropWhile (· ≠ byte '=')).tail

def dedupEnv (env : List Bytes) : List Bytes := keepLast nameOf env

/-- The strings python3 is started with. -/
def childEnv (osEnviron : List Bytes) {req : ExecutionRequest} (walk : Walk req.environment) : List Bytes :=
  dedupEnv (cmdEnv osEnviron walk.entries)

def getenv (env : List Bytes) (name : Bytes) : Option Bytes :=
  (env.find? fun kv => nameOf kv = some name).map valueOf

/-! What the child is meant to get. -/

/-- The child gets the same strings in whatever order the map is walked. -/
def Orderless (osEnviron : List Bytes) (req : ExecutionRequest) : Prop :=
  ∀ walk other : Walk req.environment, (childEnv osEnviron walk).Perm (childEnv osEnviron other)

def overridden (osEnviron : List Bytes) (req : ExecutionRequest) (name : Bytes) : Option Bytes :=
  (req.environment.lookup name).or (getenv (dedupEnv osEnviron) name)

def Overrides (osEnviron : List Bytes) (req : ExecutionRequest) : Prop :=
  ∀ walk : Walk req.environment, getenv (childEnv osEnviron walk) = overridden osEnviron req

/-! Joining and cutting. -/

def assignments (entries : List (Bytes × Bytes)) : List Bytes :=
  entries.map fun entry => assignment entry.1 entry.2

theorem cmdEnv_eq (osEnviron : List Bytes) (entries : List (Bytes × Bytes)) :
    cmdEnv osEnviron entries = osEnviron ++ assignments entries := by
  induction entries generalizing osEnviron with
  | nil => simp [cmdEnv, assignments]
  | cons entry entries ih =>
    have step : cmdEnv osEnviron (entry :: entries) =
        cmdEnv (osEnviron ++ [assignment entry.1 entry.2]) entries := rfl
    rw [step, ih, List.append_assoc, List.singleton_append]
    rfl

theorem not_mem_textBefore (kv : Bytes) : byte '=' ∉ textBefore kv := by
  intro member
  simpa using List.mem_takeWhile_imp member

theorem textBefore_eq {key : Bytes} (plain : byte '=' ∉ key) : textBefore key = key := by
  rw [textBefore, List.takeWhile_eq_self_iff]
  intro b member
  simpa using fun equal : b = byte '=' => plain (equal ▸ member)

theorem textBefore_assignment (key value : Bytes) : textBefore (assignment key value) = textBefore key := by
  induction key with
  | nil => simp [assignment, textBefore]
  | cons b key ih =>
    by_cases equals : b = byte '='
    · simp [assignment, textBefore, equals]
    · simpa [assignment, textBefore, equals] using ih

@[simp] theorem nameOf_assignment (key value : Bytes) : nameOf (assignment key value) = some (textBefore key) := by
  have joined : byte '=' ∈ assignment key value := by simp [assignment]
  rw [nameOf, if_pos joined, textBefore_assignment]

theorem valueOf_assignment {key : Bytes} (value : Bytes) (plain : byte '=' ∉ key) :
    valueOf (assignment key value) = value := by
  induction key with
  | nil => simp [assignment, valueOf]
  | cons b key ih =>
    rw [List.mem_cons, not_or] at plain
    have rest := ih plain.2
    simpa [assignment, valueOf, Ne.symm plain.1] using rest

theorem not_mem_of_nameOf {kv name : Bytes} (named : nameOf kv = some name) : byte '=' ∉ name := by
  rw [nameOf] at named
  split at named
  · cases named
    exact not_mem_textBefore kv
  · cases named

/-! What a variable is in the child. -/

theorem getenv_dedupEnv (env : List Bytes) (name : Bytes) :
    getenv (dedupEnv env) name = (lastWith nameOf name env).map valueOf := by
  rw [getenv, dedupEnv, find?_keepLast]

/-- No variable has a name with a `=`. -/
theorem getenv_eq_none {name : Bytes} (env : List Bytes) (equals : byte '=' ∈ name) : getenv env name = none := by
  rw [getenv, List.find?_eq_none.mpr, Option.map_none]
  intro kv _ named
  exact not_mem_of_nameOf (of_decide_eq_true named) equals

section
variable {osEnviron : List Bytes} {req : ExecutionRequest}

/-- The last string of a name: from the map if the map has one, otherwise the agent's own. -/
theorem lastWith_cmdEnv (walk : Walk req.environment) (name : Bytes) :
    lastWith nameOf name (cmdEnv osEnviron walk.entries) =
      (lastWith nameOf name (assignments walk.entries)).or (lastWith nameOf name osEnviron) := by
  rw [cmdEnv_eq, lastWith_append]

/-- If the strings of the map with one name are all the same, the order cannot matter to it. -/
theorem lastWith_of_lookup (walk : Walk req.environment) {key value : Bytes}
    (known : req.environment.lookup key = some value)
    (agree : ∀ other found, req.environment.lookup other = some found → textBefore other = textBefore key →
      assignment other found = assignment key value) :
    lastWith nameOf (textBefore key) (assignments walk.entries) = some (assignment key value) := by
  refine lastWith_of_agree (List.mem_map.mpr ⟨(key, value), (walk.mem_iff key value).mpr known, rfl⟩)
    (nameOf_assignment key value) fun kv member named => ?_
  obtain ⟨⟨other, found⟩, entry, rfl⟩ := List.mem_map.mp member
  rw [nameOf_assignment] at named
  exact agree other found ((walk.mem_iff other found).mp entry) (Option.some.inj named)

theorem lastWith_of_missing (walk : Walk req.environment) {name : Bytes}
    (missing : ∀ key ∈ req.environment, textBefore key ≠ name) :
    lastWith nameOf name (assignments walk.entries) = none := by
  rw [lastWith_eq_none, assignments, List.map_map]
  intro member
  obtain ⟨⟨key, value⟩, member, named⟩ := List.mem_map.mp member
  have known := (walk.mem_iff key value).mp member
  have cut := (nameOf_assignment key value).symm.trans named
  exact missing key (Finmap.mem_iff.mpr ⟨value, known⟩) (Option.some.inj cut)

/-- The strings without a `=` are the agent's own in any order. -/
theorem filter_cmdEnv (walk : Walk req.environment) :
    (cmdEnv osEnviron walk.entries).filter (fun kv => (nameOf kv).isNone) =
      osEnviron.filter fun kv => (nameOf kv).isNone := by
  have named : (assignments walk.entries).filter (fun kv => (nameOf kv).isNone) = [] := by
    rw [List.filter_eq_nil_iff]
    intro kv member
    obtain ⟨entry, -, rfl⟩ := List.mem_map.mp member
    simp
  rw [cmdEnv_eq, List.filter_append, named, List.append_nil]

/-- Keys with the same text before their first `=` make the same string. -/
def Compatible (req : ExecutionRequest) : Prop :=
  ∀ key value other found, req.environment.lookup key = some value → req.environment.lookup other = some found →
    textBefore other = textBefore key → assignment other found = assignment key value

theorem childEnv_perm_iff (walk other : Walk req.environment) :
    (childEnv osEnviron walk).Perm (childEnv osEnviron other) ↔
      ∀ name, lastWith nameOf name (cmdEnv osEnviron walk.entries) =
        lastWith nameOf name (cmdEnv osEnviron other.entries) :=
  keepLast_perm_iff ((filter_cmdEnv walk).trans (filter_cmdEnv other).symm)

theorem orderless_iff : Orderless osEnviron req ↔ Compatible req := by
  constructor
  · intro orderless key value other found known otherKnown same
    -- each of the two strings is the last one in some order
    obtain ⟨walk, front, entries⟩ := Walk.exists_last known
    obtain ⟨otherWalk, otherFront, otherEntries⟩ := Walk.exists_last otherKnown
    have last := (childEnv_perm_iff walk otherWalk).mp (orderless walk otherWalk) (textBefore key)
    rw [lastWith_cmdEnv, lastWith_cmdEnv, entries, otherEntries, assignments, assignments, List.map_append,
      List.map_append, List.map_singleton, List.map_singleton, lastWith_concat _ (nameOf_assignment key value),
      lastWith_concat _ (same ▸ nameOf_assignment other found)] at last
    exact (Option.some.inj last).symm
  · intro compatible walk other
    refine (childEnv_perm_iff walk other).mpr fun name => ?_
    rw [lastWith_cmdEnv, lastWith_cmdEnv]
    by_cases inMap : ∃ key ∈ req.environment, textBefore key = name
    · obtain ⟨key, member, rfl⟩ := inMap
      obtain ⟨value, known⟩ := Finmap.mem_iff.mp member
      have agree other found := compatible key value other found known
      rw [lastWith_of_lookup walk known agree, lastWith_of_lookup other known agree]
    · have missing : ∀ key ∈ req.environment, textBefore key ≠ name :=
        fun key member named => inMap ⟨key, member, named⟩
      rw [lastWith_of_missing walk missing, lastWith_of_missing other missing]

theorem compatible_of_plain (plain : ∀ key ∈ req.environment, byte '=' ∉ key) : Compatible req := by
  intro key value other found known otherKnown same
  rw [textBefore_eq (plain other (Finmap.mem_iff.mpr ⟨found, otherKnown⟩)),
    textBefore_eq (plain key (Finmap.mem_iff.mpr ⟨value, known⟩))] at same
  subst same
  rw [Option.some.inj (otherKnown.symm.trans known)]

theorem overrides_of_plain (plain : ∀ key ∈ req.environment, byte '=' ∉ key) : Overrides osEnviron req := by
  intro walk
  funext name
  rw [childEnv, getenv_dedupEnv, lastWith_cmdEnv, overridden, getenv_dedupEnv, Option.map_or]
  congr 1
  cases known : req.environment.lookup name with
  | none =>
    have missing : ∀ key ∈ req.environment, textBefore key ≠ name := by
      intro key member named
      rw [textBefore_eq (plain key member)] at named
      exact Finmap.lookup_eq_none.mp known (named ▸ member)
    rw [lastWith_of_missing walk missing, Option.map_none]
  | some value =>
    have named := plain name (Finmap.mem_iff.mpr ⟨value, known⟩)
    have last := lastWith_of_lookup walk known fun other found => compatible_of_plain plain name value other found known
    rw [textBefore_eq named] at last
    rw [last, Option.map_some, valueOf_assignment value named]

theorem plain_of_overrides (overrides : Overrides osEnviron req) : ∀ key ∈ req.environment, byte '=' ∉ key := by
  intro key member equals
  obtain ⟨walk⟩ := Walk.nonempty req.environment
  obtain ⟨value, known⟩ := Finmap.mem_iff.mp member
  have given := congrFun (overrides walk) key
  rw [getenv_eq_none _ equals, overridden, known, Option.some_or] at given
  cases given

end

/-- The child's variables are a function of the request, the map laid over the agent's own, exactly
if no key of the map has a `=`. The order of the walk alone is without effect exactly if keys
that are cut to the same name make the same string. -/
theorem child_environment_iff (osEnviron : List Bytes) (req : ExecutionRequest) :
    (Orderless osEnviron req ∧ Overrides osEnviron req ↔ ∀ key ∈ req.environment, byte '=' ∉ key) ∧
      (Orderless osEnviron req ↔ Compatible req) := by
  refine ⟨⟨fun function => plain_of_overrides function.2, fun plain => ?_⟩, orderless_iff⟩
  exact ⟨orderless_iff.mpr (compatible_of_plain plain), overrides_of_plain plain⟩

/-! A map whose keys A and A=B are cut to one name. -/

def ambiguous : AList fun _ : Bytes => Bytes :=
  ⟨[⟨bytesOf "A", bytesOf "1"⟩, ⟨bytesOf "A=B", bytesOf "2"⟩], by unfold List.NodupKeys; decide⟩

def ambiguousRequest : ExecutionRequest := { environment := ambiguous.toFinmap }

def forward : Walk ambiguousRequest.environment := Walk.ofAList ambiguous

def backward : Walk ambiguousRequest.environment := forward.reorder forward.entries.reverse (List.reverse_perm _)

theorem ambiguous_key_either_way :
    getenv (childEnv [] forward) (bytesOf "A") = some (bytesOf "B=2") ∧
      getenv (childEnv [] backward) (bytesOf "A") = some (bytesOf "1") ∧
      ¬Orderless [] ambiguousRequest ∧
      overridden [] ambiguousRequest (bytesOf "A=B") = some (bytesOf "2") ∧
      getenv (childEnv [] forward) (bytesOf "A=B") = none ∧
      ¬Overrides [] ambiguousRequest := by
  refine ⟨by decide, by decide, fun orderless => ?_, by decide, by decide, fun overrides => ?_⟩
  · exact absurd (orderless forward backward) (by decide)
  · exact absurd (congrFun (overrides forward) (bytesOf "A=B")) (by decide)

end Aegis.Guest
