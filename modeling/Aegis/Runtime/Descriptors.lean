import Aegis.Library.History
import Aegis.Library.Ownership
import Aegis.Runtime.Termination

/-! The cgroup manager by itself, and the descriptors it holds.

A close of a descriptor that is not open goes unnoticed in the source. To see that there is
none, the operations are given with the close they use: under the strict rule a close of
this kind is a fault.
-/

set_option autoImplicit false

namespace Aegis.Runtime
open Library

inductive CloseRule where
  | lenient
  | strict
  deriving DecidableEq, Repr

def closeUnder (rule : CloseRule) (fd : Int) : Proc Host Unit :=
  match rule with
  | .lenient => closeDescriptor fd
  | .strict => do
      let host ← Proc.get
      if 0 ≤ fd ∧ fd ∉ host.descriptors then Proc.throw else closeDescriptor fd

/-- `destroy_cgroup`; the lenient rule is the one of the source. -/
def destroyCgroupUnder (rule : CloseRule) (sandboxId : String) : Proc Host Status := do
  let host ← Proc.get
  match host.cgroups.lookup sandboxId with
  | none => pure .errInvalidSandboxID
  | some info => do
      closeUnder rule info.cgroupFd
      removeAll info.cgroupPath
      Proc.modify fun host => { host with cgroups := host.cgroups.erase sandboxId }
      pure .success

theorem destroyCgroupUnder_lenient : destroyCgroupUnder .lenient = destroyCgroup := rfl

/-- The entry stays in the table, with its descriptor marked as closed. -/
def Host.releaseCgroup (host : Host) (sandboxId : String) (info : CgroupInfo) : Host :=
  { host with cgroups := host.cgroups.insert sandboxId { info with cgroupFd := -1 } }

def destroyEach (rule : CloseRule) : List String → Proc Host Unit
  | [] => pure ()
  | id :: rest => do
      let host ← Proc.get
      match host.cgroups.lookup id with
      | none => pure ()
      | some info => do
          if 0 ≤ info.cgroupFd then do
            closeUnder rule info.cgroupFd
            Proc.modify fun host => host.releaseCgroup id info
          else pure ()
          removeAll info.cgroupPath
      destroyEach rule rest

/-- `order` is the one in which the hash table is visited. -/
def destroyAll (rule : CloseRule) (order : List String) : Proc Host Unit := do
  let host ← Proc.get
  destroyEach rule (visitOrder order host.cgroups.keys)
  Proc.modify fun host => { host with cgroups := ∅ }

inductive CgroupOp where
  | create (sandboxId : String) (limits : CgroupLimits) (env : CgroupEnv)
  | attach (sandboxId : String) (pid : Int) (answer : SysfsAnswer)
  | destroy (sandboxId : String)
  | destroyAll (order : List String)

def cgroupCall (rule : CloseRule) : CgroupOp → Proc Host Answer
  | .create sandboxId limits env => do
      let value ← createCgroup sandboxId limits env
      pure (.status value)
  | .attach sandboxId pid answer => do
      let value ← attachPid sandboxId pid answer
      pure (.status value)
  | .destroy sandboxId => do
      let value ← destroyCgroupUnder rule sandboxId
      pure (.status value)
  | .destroyAll order => do
      destroyAll rule order
      pure .done

/-- The descriptors in the table. -/
def Host.cgroupFds (host : Host) : String → Option Int := column (·.cgroupFd) host.cgroups

/-- The open descriptors are those of others and one for each entry of the table, and the
entries are as `create_cgroup` makes them. -/
structure Holds (others : Finset Int) (host : Host) : Prop where
  owns : Owns others host.cgroupFds host.descriptors
  valid : ∀ id, ∀ info ∈ host.cgroups.lookup id, 0 ≤ info.cgroupFd
  key : ∀ id, ∀ info ∈ host.cgroups.lookup id, info.sandboxId = id
  cgroupId : ∀ id, ∀ info ∈ host.cgroups.lookup id, info.cgroupId ≠ 0

namespace Holds

variable {others : Finset Int} {host after : Host}

theorem of_empty (empty : host.cgroups = ∅) : Holds host.descriptors host := by
  constructor
  · rw [Host.cgroupFds, empty, column_empty]
    exact .nothing _
  · simp [empty]
  · simp [empty]
  · simp [empty]

/-- Only the table and the descriptors matter. -/
theorem congr (holds : Holds others host) (cgroups : after.cgroups = host.cgroups)
    (descriptors : after.descriptors = host.descriptors) : Holds others after := by
  have fds : after.cgroupFds = host.cgroupFds := congrArg (column _) cgroups
  obtain ⟨owns, valid, key, cgroupId⟩ := holds
  rw [← fds, ← descriptors] at owns
  rw [← cgroups] at valid key cgroupId
  exact ⟨owns, valid, key, cgroupId⟩

theorem insert (holds : Holds others host) {sandboxId : String} (new : sandboxId ∉ host.cgroups) (info : CgroupInfo)
    (free : host.FreeDescriptor info.cgroupFd) (key : info.sandboxId = sandboxId) (cgroupId : info.cgroupId ≠ 0)
    (cgroups : after.cgroups = host.cgroups.insert sandboxId info)
    (descriptors : after.descriptors = insert info.cgroupFd host.descriptors) : Holds others after := by
  have entries (id : String) (entry : CgroupInfo) (found : entry ∈ after.cgroups.lookup id) :
      id = sandboxId ∧ entry = info ∨ entry ∈ host.cgroups.lookup id := by
    rw [cgroups] at found
    exact lookup_insert_cases found
  constructor
  · rw [Host.cgroupFds, cgroups, column_insert, descriptors]
    exact holds.owns.acquire (column_missing _ new) free.2
  · intro id entry found
    rcases entries id entry found with ⟨-, rfl⟩ | old
    · exact free.1
    · exact holds.valid id entry old
  · intro id entry found
    rcases entries id entry found with ⟨rfl, rfl⟩ | old
    · exact key
    · exact holds.key id entry old
  · intro id entry found
    rcases entries id entry found with ⟨-, rfl⟩ | old
    · exact cgroupId
    · exact holds.cgroupId id entry old

theorem erase (holds : Holds others host) {sandboxId : String} {info : CgroupInfo}
    (known : host.cgroups.lookup sandboxId = some info) (cgroups : after.cgroups = host.cgroups.erase sandboxId)
    (descriptors : after.descriptors = host.descriptors.erase info.cgroupFd) : Holds others after := by
  have old (id : String) (entry : CgroupInfo) (found : entry ∈ after.cgroups.lookup id) :
      entry ∈ host.cgroups.lookup id := by
    rw [cgroups] at found
    exact lookup_of_lookup_erase found
  constructor
  · rw [Host.cgroupFds, cgroups, column_erase, descriptors]
    exact holds.owns.release (column_known _ known)
  · exact fun id entry found => holds.valid id entry (old id entry found)
  · exact fun id entry found => holds.key id entry (old id entry found)
  · exact fun id entry found => holds.cgroupId id entry (old id entry found)

end Holds

/-! How each call ends, under either rule. -/

theorem closeUnder_ends (rule : CloseRule) {host : Host} {fd : Int} (isOpen : fd ∈ host.descriptors) :
    (closeUnder rule fd).ends host = (.returned (), host.closeDescriptor fd) := by
  cases rule with
  | lenient => rfl
  | strict => simp [closeUnder, isOpen, closeDescriptor]

theorem destroyCgroupUnder_ends (rule : CloseRule) {host : Host} {sandboxId : String}
    (opened : ∀ info ∈ host.cgroups.lookup sandboxId, info.cgroupFd ∈ host.descriptors) :
    (destroyCgroupUnder rule sandboxId).ends host = (destroyCgroup sandboxId).ends host := by
  unfold destroyCgroupUnder destroyCgroup
  simp only [Proc.ends_get_bind]
  cases found : host.cgroups.lookup sandboxId with
  | none => rfl
  | some info =>
    dsimp only
    rw [Proc.ends_bind_returned (closeUnder_ends rule (opened info found))]
    rfl

/-- One turn of the loop of `destroy_all`. -/
def Host.destroyOne (host : Host) (id : String) (info : CgroupInfo) : Host :=
  ((host.closeDescriptor info.cgroupFd).releaseCgroup id info).removeAll info.cgroupPath

theorem lookup_destroyOne {host : Host} {id other : String} (info : CgroupInfo) (different : other ≠ id) :
    (host.destroyOne id info).cgroups.lookup other = host.cgroups.lookup other :=
  Finmap.lookup_insert_of_ne _ different

theorem descriptors_destroyOne {host : Host} {id : String} {info : CgroupInfo} (valid : 0 ≤ info.cgroupFd) :
    (host.destroyOne id info).descriptors = host.descriptors.erase info.cgroupFd := by
  simp [Host.destroyOne, Host.removeAll, Host.releaseCgroup, Host.closeDescriptor, valid]

/-- The cgroups still to be visited are those that hold descriptors. -/
structure Pending (others : Finset Int) (ids : List String) (host : Host) : Prop where
  nodup : ids.Nodup
  known : ∀ id ∈ ids, ∃ info, host.cgroups.lookup id = some info ∧ 0 ≤ info.cgroupFd
  owns : Owns others (fun id => if id ∈ ids then host.cgroupFds id else none) host.descriptors

theorem Pending.destroyOne {others : Finset Int} {id : String} {rest : List String} {host : Host}
    (pending : Pending others (id :: rest) host) {info : CgroupInfo} (found : host.cgroups.lookup id = some info)
    (valid : 0 ≤ info.cgroupFd) : Pending others rest (host.destroyOne id info) := by
  obtain ⟨fresh, nodup⟩ := List.nodup_cons.mp pending.nodup
  have different {other : String} (member : other ∈ rest) : other ≠ id := by
    rintro rfl
    exact fresh member
  refine ⟨nodup, fun other member => ?_, ?_⟩
  · rw [lookup_destroyOne info (different member)]
    exact pending.known other (List.mem_cons_of_mem _ member)
  · have released := pending.owns.release ((if_pos List.mem_cons_self).trans (column_known _ found))
    rw [descriptors_destroyOne valid]
    convert released using 2
    rename_i other
    by_cases member : other ∈ rest
    · simp [Host.cgroupFds, column, member, different member, lookup_destroyOne info (different member)]
    · by_cases same : other = id
      · simp [same, fresh]
      · simp [member, same]

/-- The loop ends under either rule and closes all it is to close. -/
theorem destroyEach_ends {others : Finset Int} (ids : List String) (host : Host) (pending : Pending others ids host) :
    ∃ after, (∀ rule, (destroyEach rule ids).ends host = (.returned (), after)) ∧ after.descriptors = others := by
  induction ids generalizing host with
  | nil =>
    have owned := pending.owns
    simp only [List.not_mem_nil, if_false] at owned
    exact ⟨host, fun rule => rfl, owned.eq_others⟩
  | cons id rest ih =>
    obtain ⟨info, found, valid⟩ := pending.known id List.mem_cons_self
    have isOpen : info.cgroupFd ∈ host.descriptors :=
      pending.owns.isOpen ((if_pos List.mem_cons_self).trans (column_known _ found))
    obtain ⟨after, ends, remaining⟩ := ih _ (pending.destroyOne found valid)
    refine ⟨after, fun rule => ?_, remaining⟩
    rw [← ends rule, destroyEach, Proc.ends_get_bind, found]
    dsimp only
    rw [if_pos valid, Proc.ends_bind_returned (closeUnder_ends rule isOpen)]
    rfl

theorem destroyAll_ends {others : Finset Int} {host : Host} (holds : Holds others host) (order : List String) :
    ∃ after, (∀ rule, (destroyAll rule order).ends host = (.returned (), after)) ∧
      after.cgroups = ∅ ∧ after.descriptors = others := by
  have visited (id : String) : id ∈ visitOrder order host.cgroups.keys ↔ id ∈ host.cgroups :=
    mem_visitOrder.trans Finmap.mem_keys
  have all : (fun id => if id ∈ visitOrder order host.cgroups.keys then host.cgroupFds id else none) =
      host.cgroupFds := by
    funext id
    by_cases member : id ∈ host.cgroups
    · simp [visited, member]
    · simp [visited, member, Host.cgroupFds, column_missing]
  have pending : Pending others (visitOrder order host.cgroups.keys) host := by
    refine ⟨nodup_visitOrder order _, fun id member => ?_, ?_⟩
    · obtain ⟨info, found⟩ := Finmap.mem_iff.mp ((visited id).mp member)
      exact ⟨info, found, holds.valid id info found⟩
    · rw [all]
      exact holds.owns
  obtain ⟨after, ends, remaining⟩ := destroyEach_ends _ host pending
  refine ⟨{ after with cgroups := ∅ }, fun rule => ?_, rfl, remaining⟩
  rw [destroyAll, Proc.ends_get_bind, Proc.ends_bind_returned (ends rule)]
  rfl

theorem createCgroup_holds {others : Finset Int} {host : Host} (holds : Holds others host) (sandboxId : String)
    (limits : CgroupLimits) (env : CgroupEnv) :
    ∃ status after, (createCgroup sandboxId limits env).ends host = (.returned status, after) ∧ Holds others after := by
  by_cases new : sandboxId ∈ host.cgroups
  · exact ⟨_, host, createCgroup_known new, holds⟩
  cases mkdir : env.mkdir with
  | some count => exact ⟨_, _, createCgroup_unmade new mkdir, holds.congr rfl rfl⟩
  | none =>
    obtain ⟨work, confined, ends⟩ := @createCgroup_steps host sandboxId limits env new mkdir
    have tables : work.cgroups = host.cgroups ∧ work.descriptors = host.descriptors := by
      obtain ⟨files, touched, rfl, -⟩ := confined
      exact ⟨rfl, rfl⟩
    by_cases granted : env.Granted host sandboxId
    · rw [if_pos granted] at ends
      refine ⟨_, _, ends, ?_⟩
      apply holds.insert new ⟨sandboxId, host.rootPath / sandboxId, env.inode, env.fd, limits⟩ granted.2.2
      · rfl
      · exact granted.2.1
      · rw [← tables.1]
        rfl
      · rw [← tables.2]
        rfl
    · rw [if_neg granted] at ends
      exact ⟨_, _, ends, holds.congr tables.1 tables.2⟩

theorem attachPid_holds {others : Finset Int} {host : Host} (holds : Holds others host) (sandboxId : String)
    (pid : Int) (answer : SysfsAnswer) :
    ∃ status after, (attachPid sandboxId pid answer).ends host = (.returned status, after) ∧ Holds others after := by
  cases found : host.cgroups.lookup sandboxId with
  | none => exact ⟨.errInvalidSandboxID, host, by simp [attachPid, found], holds⟩
  | some info => exact ⟨_, _, attachPid_ends found pid answer, holds.congr rfl rfl⟩

theorem destroyCgroup_holds {others : Finset Int} {host : Host} (holds : Holds others host) (sandboxId : String) :
    ∃ status after, (destroyCgroup sandboxId).ends host = (.returned status, after) ∧ Holds others after := by
  cases found : host.cgroups.lookup sandboxId with
  | none => exact ⟨_, host, destroyCgroup_unknown found, holds⟩
  | some info =>
    refine ⟨_, _, destroyCgroup_known found, holds.erase found rfl ?_⟩
    simp [Host.dropCgroup, Host.removeAll, Host.closeDescriptor, holds.valid sandboxId info found]

/-- Each call returns under either rule, and in the same state. -/
theorem cgroupCall_holds {others : Finset Int} {host : Host} (holds : Holds others host) (op : CgroupOp) :
    ∃ answer after, (∀ rule, (cgroupCall rule op).ends host = (.returned answer, after)) ∧ Holds others after := by
  cases op with
  | create sandboxId limits env =>
    obtain ⟨status, after, ends, kept⟩ := createCgroup_holds holds sandboxId limits env
    exact ⟨.status status, after, fun rule => Proc.ends_bind_returned ends, kept⟩
  | attach sandboxId pid answer =>
    obtain ⟨status, after, ends, kept⟩ := attachPid_holds holds sandboxId pid answer
    exact ⟨.status status, after, fun rule => Proc.ends_bind_returned ends, kept⟩
  | destroy sandboxId =>
    obtain ⟨status, after, ends, kept⟩ := destroyCgroup_holds holds sandboxId
    have opened : ∀ info ∈ host.cgroups.lookup sandboxId, info.cgroupFd ∈ host.descriptors :=
      fun info found => holds.owns.isOpen (column_known _ found)
    refine ⟨.status status, after, fun rule => ?_, kept⟩
    exact Proc.ends_bind_returned ((destroyCgroupUnder_ends rule opened).trans ends)
  | destroyAll order =>
    obtain ⟨after, ends, empty, remaining⟩ := destroyAll_ends holds order
    refine ⟨.done, after, fun rule => Proc.ends_bind_returned (ends rule), ?_⟩
    rw [← remaining]
    exact .of_empty empty

/-- The host after the calls; none of them can fail to return. -/
def cgroupRuns : List CgroupOp → Host → Host := runs fun op host => ((cgroupCall .lenient op).ends host).2

/-- No call closes a descriptor that is not open, and what is open is what the table names. -/
theorem cgroup_descriptors_conserved (host : Host) (fresh : host.cgroups = ∅) (ops : List CgroupOp) :
    Holds host.descriptors (cgroupRuns ops host) ∧
    Along (cgroupCall .lenient)
      (fun op host => ∃ answer after, ∀ rule, (cgroupCall rule op).ends host = (.returned answer, after)) ops host ∧
    ∀ order, (cgroupRuns (ops ++ [.destroyAll order]) host).cgroups = ∅ ∧
      (cgroupRuns (ops ++ [.destroyAll order]) host).descriptors = host.descriptors := by
  have step (op : CgroupOp) (before : Host) (holds : Holds host.descriptors before) :
      Holds host.descriptors ((cgroupCall .lenient op).ends before).2 := by
    obtain ⟨answer, after, ends, kept⟩ := cgroupCall_holds holds op
    rw [ends]
    exact kept
  have initial : Holds host.descriptors host := .of_empty fresh
  have final := runs_invariant (Holds host.descriptors) step ops host initial
  refine ⟨final, ?_, fun order => ?_⟩
  · refine along_of_invariant (Holds host.descriptors) ?_ step ops host initial
    intro op before holds
    obtain ⟨answer, after, ends, -⟩ := cgroupCall_holds holds op
    exact ⟨answer, after, ends⟩
  · obtain ⟨after, ends, empty, remaining⟩ := destroyAll_ends final order
    have last : cgroupRuns (ops ++ [.destroyAll order]) host = after := by
      unfold cgroupRuns
      rw [runs_append]
      exact congrArg Prod.snd (Proc.ends_bind_returned (ends .lenient))
    rw [last]
    exact ⟨empty, remaining⟩

/-- A descriptor that is handed out again after its first owner is gone. -/
def reuseOps : List CgroupOp :=
  [.create "sbx-a" {} { inode := 77, fd := 3 }, .destroy "sbx-a", .create "sbx-b" {} { inode := 78, fd := 3 },
    .create "sbx-c" {} { inode := 79, fd := 4 }]

theorem reused_descriptor_released : (bareHost none none).cgroups = ∅ ∧
    (cgroupRuns (reuseOps ++ [.destroyAll ["sbx-c", "sbx-b"]]) (bareHost none none)).descriptors = ∅ :=
  ⟨rfl, ((cgroup_descriptors_conserved (bareHost none none) rfl reuseOps).2.2 ["sbx-c", "sbx-b"]).2⟩

end Aegis.Runtime
