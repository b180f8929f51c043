import Aegis.Library.JsonTemplate
import Aegis.Runtime.Creation

/-! What Firecracker is told, and which machine it runs.

The request bodies are templates into which the paths are put as they are. A restored
microVM is the one of the snapshot: the limits of the configuration are never sent.
-/

set_option autoImplicit false

namespace Aegis.Runtime
open Library Json

/-! The request bodies. A character of a path stands for one byte. -/

def bootArgs : String :=
  "console=ttyS0 reboot=k panic=1 pci=off ip=172.16.0.2::172.16.0.1:255.255.255.0::eth0:off"

def bootTemplate (config : SandboxConfig) : Template := [
  (bytesOf "kernel_image_path", .text (bytesOf config.kernelImagePath)),
  (bytesOf "boot_args", .text (bytesOf bootArgs))]

def driveTemplate (config : SandboxConfig) : Template := [
  (bytesOf "drive_id", .text (bytesOf "rootfs")),
  (bytesOf "path_on_host", .text (bytesOf config.rootfsImagePath)),
  (bytesOf "is_root_device", .flag true),
  (bytesOf "is_read_only", .flag false)]

def machineTemplate (config : SandboxConfig) : Template := [
  (bytesOf "vcpu_count", .numeral config.resourceLimits.cpuCores.toNat),
  (bytesOf "mem_size_mib", .numeral config.resourceLimits.memoryMb.toNat)]

def actionTemplate : Template := [(bytesOf "action_type", .text (bytesOf "InstanceStart"))]

def stateFile (config : SandboxConfig) : String := appendName config.snapshotDirPath "state.snap"

def memFile (config : SandboxConfig) : String := appendName config.snapshotDirPath "mem.snap"

def snapshotTemplate (config : SandboxConfig) : Template := [
  (bytesOf "snapshot_path", .text (bytesOf (stateFile config))),
  (bytesOf "mem_file_path", .text (bytesOf (memFile config))),
  (bytesOf "resume_vm", .flag true)]

/-! Each body is a filled in template. -/

theorem render_boot (config : SandboxConfig) : bytesOf (bootPayload config) = (bootTemplate config).render := by
  have before : bytesOf "\x7b\"kernel_image_path\":\"" =
      0x7B :: byte '"' :: (bytesOf "kernel_image_path" ++ [byte '"', byte ':', byte '"']) := by decide
  have after : bytesOf "\",\"boot_args\":\"console=ttyS0 reboot=k panic=1 pci=off " ++
      bytesOf "ip=172.16.0.2::172.16.0.1:255.255.255.0::eth0:off\"\x7d" =
      byte '"' :: byte ',' :: byte '"' :: (bytesOf "boot_args" ++ byte '"' :: byte ':' :: byte '"' ::
        (bytesOf bootArgs ++ [byte '"', 0x7D])) := by decide
  unfold bootPayload
  rw [bytesOf_append, bytesOf_append, bytesOf_append, before, List.append_assoc, after]
  simp only [bootTemplate, Template.render, Template.renderTail, Template.renderMember, Slot.render, List.cons_append,
    List.append_assoc, List.nil_append]

theorem render_drive (config : SandboxConfig) : bytesOf (drivePayload config) = (driveTemplate config).render := by
  have before : bytesOf "\x7b\"drive_id\":\"rootfs\",\"path_on_host\":\"" =
      0x7B :: byte '"' :: (bytesOf "drive_id" ++ byte '"' :: byte ':' :: byte '"' :: (bytesOf "rootfs" ++
        byte '"' :: byte ',' :: byte '"' :: (bytesOf "path_on_host" ++ [byte '"', byte ':', byte '"']))) := by
    decide
  have after : bytesOf "\",\"is_root_device\":true,\"is_read_only\":false\x7d" =
      byte '"' :: byte ',' :: byte '"' :: (bytesOf "is_root_device" ++ byte '"' :: byte ':' ::
        ((Slot.flag true).render ++ byte ',' :: byte '"' :: (bytesOf "is_read_only" ++ byte '"' :: byte ':' ::
          ((Slot.flag false).render ++ [0x7D])))) := by decide
  unfold drivePayload
  rw [bytesOf_append, bytesOf_append, before, after]
  simp only [driveTemplate, Template.render, Template.renderTail, Template.renderMember, Slot.render, List.cons_append,
    List.append_assoc, List.nil_append]

theorem render_machine (config : SandboxConfig) :
    bytesOf (machinePayload config) = (machineTemplate config).render := by
  have before : bytesOf "\x7b\"vcpu_count\":" =
      0x7B :: byte '"' :: (bytesOf "vcpu_count" ++ [byte '"', byte ':']) := by decide
  have between : bytesOf ",\"mem_size_mib\":" =
      byte ',' :: byte '"' :: (bytesOf "mem_size_mib" ++ [byte '"', byte ':']) := by decide
  have after : bytesOf "\x7d" = [0x7D] := by decide
  unfold machinePayload
  rw [bytesOf_append, bytesOf_append, bytesOf_append, bytesOf_append, before, between, after]
  simp only [machineTemplate, Template.render, Template.renderTail, Template.renderMember, Slot.render,
    List.cons_append, List.append_assoc, List.nil_append]

theorem render_action : bytesOf actionPayload = actionTemplate.render := by decide

theorem render_snapshot (config : SandboxConfig) :
    bytesOf (snapshotPayload config) = (snapshotTemplate config).render := by
  have before : bytesOf "\x7b\"snapshot_path\":\"" =
      0x7B :: byte '"' :: (bytesOf "snapshot_path" ++ [byte '"', byte ':', byte '"']) := by decide
  have between : bytesOf "\",\"mem_file_path\":\"" =
      byte '"' :: byte ',' :: byte '"' :: (bytesOf "mem_file_path" ++ [byte '"', byte ':', byte '"']) := by
    decide
  have after : bytesOf "\",\"resume_vm\":true\x7d" =
      byte '"' :: byte ',' :: byte '"' :: (bytesOf "resume_vm" ++ byte '"' :: byte ':' ::
        ((Slot.flag true).render ++ [0x7D])) := by decide
  unfold snapshotPayload
  rw [bytesOf_append, bytesOf_append, bytesOf_append, bytesOf_append, before, between, after]
  simp only [snapshotTemplate, stateFile, memFile, Template.render, Template.renderTail, Template.renderMember,
    Slot.render, List.cons_append, List.append_assoc, List.nil_append]

/-! What the bodies say. -/

/-- The body is an object with these members. -/
def Says (body : String) (members : List (Bytes × Json)) : Prop :=
  ∃ read, parse (bytesOf body) = some (.obj read) ∧ read.Perm members

theorem says_iff {body : String} {template : Template} (keys : List Bytes) (rendered : bytesOf body = template.render)
    (named : template.map Prod.fst = keys) (filled : keys ≠ []) (clean : ∀ key ∈ keys, Clean key) (nodup : keys.Nodup) :
    Says body template.members ↔ ∀ member ∈ template, member.2.Clean := by
  subst named
  rw [Says, rendered]
  refine parse_render_iff ?_ (fun member inside => clean _ (List.mem_map_of_mem inside)) nodup
  rintro rfl
  exact filled rfl

/-- A number as it stands in JSON. -/
def number (n : UInt32) : Json := .num (bytesOf (toString n.toNat))

/-- Every body is what it should be for this configuration. -/
def PayloadsSay (config : SandboxConfig) : Prop :=
  Says (bootPayload config) [
    (bytesOf "kernel_image_path", .str (bytesOf config.kernelImagePath)),
    (bytesOf "boot_args", .str (bytesOf bootArgs))] ∧
  Says (drivePayload config) [
    (bytesOf "drive_id", .str (bytesOf "rootfs")),
    (bytesOf "path_on_host", .str (bytesOf config.rootfsImagePath)),
    (bytesOf "is_root_device", .bool true),
    (bytesOf "is_read_only", .bool false)] ∧
  Says (machinePayload config) [
    (bytesOf "vcpu_count", number config.resourceLimits.cpuCores),
    (bytesOf "mem_size_mib", number config.resourceLimits.memoryMb)] ∧
  Says actionPayload [(bytesOf "action_type", .str (bytesOf "InstanceStart"))] ∧
  Says (snapshotPayload config) [
    (bytesOf "snapshot_path", .str (bytesOf (stateFile config))),
    (bytesOf "mem_file_path", .str (bytesOf (memFile config))),
    (bytesOf "resume_vm", .bool true)]

theorem says_boot (config : SandboxConfig) :
    Says (bootPayload config) (bootTemplate config).members ↔ Clean (bytesOf config.kernelImagePath) := by
  have args : Clean (bytesOf bootArgs) := by decide
  rw [says_iff [bytesOf "kernel_image_path", bytesOf "boot_args"] (render_boot config) rfl
    (by decide) (by decide) (by decide)]
  simp [bootTemplate, Slot.Clean, args]

theorem says_drive (config : SandboxConfig) :
    Says (drivePayload config) (driveTemplate config).members ↔ Clean (bytesOf config.rootfsImagePath) := by
  have drive : Clean (bytesOf "rootfs") := by decide
  rw [says_iff [bytesOf "drive_id", bytesOf "path_on_host", bytesOf "is_root_device", bytesOf "is_read_only"]
    (render_drive config) rfl (by decide) (by decide) (by decide)]
  simp [driveTemplate, Slot.Clean, drive]

theorem says_machine (config : SandboxConfig) : Says (machinePayload config) (machineTemplate config).members := by
  rw [says_iff [bytesOf "vcpu_count", bytesOf "mem_size_mib"] (render_machine config) rfl
    (by decide) (by decide) (by decide)]
  simp [machineTemplate, Slot.Clean]

theorem says_action : Says actionPayload actionTemplate.members := by
  have action : Clean (bytesOf "InstanceStart") := by decide
  rw [says_iff [bytesOf "action_type"] render_action rfl (by decide) (by decide) (by decide)]
  simpa [actionTemplate, Slot.Clean] using action

theorem clean_appendName (dir : String) {name : String}
    (simple : ((bytesOf "/" ++ bytesOf name).all fun b =>
      (b ≠ byte '"' ∧ b ≠ byte '\\' ∧ 0x20 ≤ b) ∧ isAscii b = true) = true) :
    Clean (bytesOf (appendName dir name)) ↔ Clean (bytesOf dir) := by
  have plain : ∀ b ∈ bytesOf "/" ++ bytesOf name, (b ≠ byte '"' ∧ b ≠ byte '\\' ∧ 0x20 ≤ b) ∧ isAscii b = true :=
    fun b member => of_decide_eq_true (List.all_eq_true.mp simple b member)
  unfold appendName
  split
  · rw [bytesOf_append]
    exact clean_append (fun b member => (plain b (List.mem_append_right _ member)).1)
      (fun b member => (plain b (List.mem_append_right _ member)).2) _
  · rw [bytesOf_append, bytesOf_append, List.append_assoc]
    exact clean_append (fun b member => (plain b member).1) (fun b member => (plain b member).2) _

theorem says_snapshot (config : SandboxConfig) :
    Says (snapshotPayload config) (snapshotTemplate config).members ↔ Clean (bytesOf config.snapshotDirPath) := by
  rw [says_iff [bytesOf "snapshot_path", bytesOf "mem_file_path", bytesOf "resume_vm"] (render_snapshot config) rfl
    (by decide) (by decide) (by decide)]
  have state : Clean (bytesOf (stateFile config)) ↔ Clean (bytesOf config.snapshotDirPath) :=
    clean_appendName _ (by decide)
  have mem : Clean (bytesOf (memFile config)) ↔ Clean (bytesOf config.snapshotDirPath) :=
    clean_appendName _ (by decide)
  simp [snapshotTemplate, Slot.Clean, state, mem]

/-- The paths are put into the bodies as they are. -/
theorem payloads_say_iff (config : SandboxConfig) :
    PayloadsSay config ↔ Clean (bytesOf config.kernelImagePath) ∧ Clean (bytesOf config.rootfsImagePath) ∧
      Clean (bytesOf config.snapshotDirPath) := by
  rw [← says_boot, ← says_drive, ← says_snapshot]
  constructor
  · rintro ⟨boot, drive, -, -, snapshot⟩
    exact ⟨boot, drive, snapshot⟩
  · rintro ⟨boot, drive, snapshot⟩
    exact ⟨boot, drive, says_machine config, says_action, snapshot⟩

/-- A root file system whose path ends the string and goes on with members of its own. -/
def quotedRootfs : SandboxConfig where
  sandboxId := "sbx-9f82a1"
  rootfsImagePath := "/srv/a.ext4\",\"is_read_only\":true,\"x\":\""

def quotedDrive : Template := [
  (bytesOf "drive_id", .text (bytesOf "rootfs")),
  (bytesOf "path_on_host", .text (bytesOf "/srv/a.ext4")),
  (bytesOf "is_read_only", .flag true),
  (bytesOf "x", .text []),
  (bytesOf "is_root_device", .flag true),
  (bytesOf "is_read_only", .flag false)]

theorem quoted_rootfs_adds_members :
    parse (bytesOf (drivePayload quotedRootfs)) = some (.obj quotedDrive.members) ∧ ¬ PayloadsSay quotedRootfs := by
  have rendered : bytesOf (drivePayload quotedRootfs) = quotedDrive.render := by decide +kernel
  have keys : ∀ key ∈ quotedDrive.map Prod.fst, Clean key := by decide
  have named : ∀ member ∈ quotedDrive, Clean member.1 := fun member inside => keys _ (List.mem_map_of_mem inside)
  have texts : ∀ text ∈ [bytesOf "rootfs", bytesOf "/srv/a.ext4", []], Clean text := by decide
  have reads : parse (bytesOf (drivePayload quotedRootfs)) = some (.obj quotedDrive.members) := by
    rw [rendered, parse_render (by simp [quotedDrive]) named]
    exact document_clean quotedDrive named (by simpa [quotedDrive, Slot.Clean] using texts) []
  refine ⟨reads, ?_⟩
  rintro ⟨-, ⟨read, parsed, same⟩, -⟩
  rw [reads] at parsed
  cases parsed
  exact absurd same.length_eq (by decide)

section
variable (host : Host) (entry : SandboxInstance) (env : BootEnv)

/-- The boot writes the requests of `bootPuts` and no others. -/
theorem boot_written (quiet : ¬ BootThrows entry.config env) :
    ((bootMicroVM entry env).ends host).2.sent =
      host.sent ++ (bootPuts entry.config env).flatMap (written entry env) := by
  by_cases restores : Restores entry.config env
  · have goes : bootMicroVM entry env = restoreFirecrackerSnapshot entry env := by
      simp [bootMicroVM, restores.1, restores.2]
    rw [goes, restore_ends, bootPuts, if_pos restores, issued_last, List.flatMap_singleton]
    rfl
  · rw [boot_configures quiet restores, bootPuts, if_neg restores]
    rw [configure_ends]
    rfl

end

/-! The machine that runs. -/

structure MachineConfig where
  vcpuCount : UInt32
  memSizeMib : UInt32
  deriving DecidableEq, Repr

/-- Firecracker, as far as it decides the size of the microVM. -/
structure Vmm where
  machineConfig : MachineConfig
  running : Option MachineConfig := none

def requested (config : SandboxConfig) : MachineConfig :=
  ⟨config.resourceLimits.cpuCores, config.resourceLimits.memoryMb⟩

/-- `InstanceStart` takes the last machine configuration, a restored microVM the one of its
snapshot. -/
def Vmm.act (config : SandboxConfig) (snapshot : MachineConfig) (vmm : Vmm) : Put → Vmm
  | .bootSource | .drives => vmm
  | .machineConfig => { vmm with machineConfig := requested config }
  | .actions => { vmm with running := some vmm.machineConfig }
  | .snapshotLoad => { vmm with running := some snapshot }

/-- The microVM after the boot, from a Firecracker started with the configuration `fresh`. -/
def bootedMachine (fresh snapshot : MachineConfig) (config : SandboxConfig) (env : BootEnv) : Option MachineConfig :=
  let accepted := (bootPuts config env).filter fun put => (env.answer put).accepted
  (accepted.foldl (Vmm.act config snapshot) { machineConfig := fresh }).running

section
variable {fresh snapshot : MachineConfig} {config : SandboxConfig} {env : BootEnv}

theorem bootedMachine_restored (restores : Restores config env) :
    bootedMachine fresh snapshot config env = if env.snapshotLoad.accepted then some snapshot else none := by
  unfold bootedMachine
  rw [bootPuts, if_pos restores]
  cases accepted : env.snapshotLoad.accepted with
  | true => simp [BootEnv.answer, accepted, Vmm.act]
  | false => simp [BootEnv.answer, accepted]

theorem bootedMachine_cold (cold : ¬ Restores config env) (configured : env.Configured) :
    bootedMachine fresh snapshot config env =
      if env.actions.accepted then some (if env.machineConfig.accepted then requested config else fresh) else none := by
  unfold bootedMachine
  rw [bootPuts, if_neg cold]
  -- the first two requests change nothing, accepted or not
  have unmoved : ∀ (vmm : Vmm) (puts : List Put),
      ((Put.bootSource :: Put.drives :: puts).filter fun put => (env.answer put).accepted).foldl
        (Vmm.act config snapshot) vmm =
      (puts.filter fun put => (env.answer put).accepted).foldl (Vmm.act config snapshot) vmm := by
    intro vmm puts
    cases first : (env.answer .bootSource).accepted with
    | true => cases second : (env.answer .drives).accepted <;> simp [first, second, Vmm.act]
    | false => cases second : (env.answer .drives).accepted <;> simp [first, second, Vmm.act]
  have all : issued env [.bootSource, .drives, .machineConfig, .actions] =
      [.bootSource, .drives, .machineConfig, .actions] := by
    rw [issued_cold, if_pos configured, issued_all ((configured_iff env).mpr configured)]
    rfl
  dsimp only
  rw [all, unmoved]
  cases sized : env.machineConfig.accepted with
  | true => cases started : env.actions.accepted <;> simp [BootEnv.answer, sized, started, Vmm.act]
  | false => cases started : env.actions.accepted <;> simp [BootEnv.answer, sized, started, Vmm.act]

end

/-- Nothing runs without one of the two starting requests. -/
theorem running_of_quiet {config : SandboxConfig} {snapshot : MachineConfig} {puts : List Put}
    (quiet : Put.actions ∉ puts ∧ Put.snapshotLoad ∉ puts) (vmm : Vmm) :
    (puts.foldl (Vmm.act config snapshot) vmm).running = vmm.running := by
  induction puts generalizing vmm with
  | nil => rfl
  | cons put rest ih =>
    simp only [List.mem_cons, not_or] at quiet
    rw [List.foldl_cons, ih ⟨quiet.1.2, quiet.2.2⟩]
    cases put with
    | bootSource => rfl
    | drives => rfl
    | machineConfig => rfl
    | actions => exact absurd rfl quiet.1.1
    | snapshotLoad => exact absurd rfl quiet.2.1

/-- There is a machine just if the process counts as started. -/
theorem bootedMachine_isSome (fresh snapshot : MachineConfig) (config : SandboxConfig) (env : BootEnv) :
    (bootedMachine fresh snapshot config env).isSome = true ↔ BootStarts config env := by
  unfold BootStarts
  by_cases restores : Restores config env
  · rw [bootedMachine_restored restores, if_pos restores]
    cases env.snapshotLoad.accepted <;> simp
  · rw [if_neg restores]
    by_cases configured : env.Configured
    · rw [bootedMachine_cold restores configured]
      cases env.actions.accepted <;> simp [configured]
    · -- the requests end before the start
      have early : Put.actions ∉ issued env [.bootSource, .drives, .machineConfig, .actions] ∧
          Put.snapshotLoad ∉ issued env [.bootSource, .drives, .machineConfig, .actions] := by
        rw [issued_cold, if_neg configured, List.append_nil]
        exact ⟨fun member => absurd (mem_of_issued member) (by decide),
          fun member => absurd (mem_of_issued member) (by decide)⟩
      have never : bootedMachine fresh snapshot config env = none := by
        unfold bootedMachine
        rw [bootPuts, if_neg restores]
        exact running_of_quiet ⟨fun member => early.1 (List.mem_of_mem_filter member),
          fun member => early.2 (List.mem_of_mem_filter member)⟩ _
      simp [never, configured]

/-- A successful creation leaves the microVM and the metadata with the limits of the
configuration. -/
def MachineDelivered (fresh snapshot : MachineConfig) (host : Host) (config : SandboxConfig) (env : CreateEnv) : Prop :=
  ∀ after, (createSandbox .plain config env).ends host = (.returned .success, after) →
    bootedMachine fresh snapshot config env.boot = some (requested config) ∧
    ∃ entry, after.sandboxes.lookup config.sandboxId = some entry ∧
      requested config = ⟨entry.metadata.vcpus, entry.metadata.memoryMb⟩

/-- The snapshot has the requested size, or the cold boot was told it. -/
def SizeRequested (fresh snapshot : MachineConfig) (config : SandboxConfig) (env : BootEnv) : Prop :=
  if Restores config env then env.snapshotLoad.accepted = true ∧ snapshot = requested config
  else env.actions.accepted = true ∧ (env.machineConfig.accepted = true ∨ fresh = requested config)

theorem bootedMachine_eq_iff {config : SandboxConfig} {env : BootEnv} (reported : BootReported config env)
    (fresh snapshot : MachineConfig) :
    bootedMachine fresh snapshot config env = some (requested config) ↔ SizeRequested fresh snapshot config env := by
  unfold BootReported at reported
  unfold SizeRequested
  by_cases restores : Restores config env
  · rw [bootedMachine_restored restores, if_pos restores]
    simp
  · rw [if_neg restores] at reported
    rw [bootedMachine_cold restores reported.1, if_neg restores]
    by_cases sized : env.machineConfig.accepted = true
    · simp [sized]
    · simp [sized]

theorem machine_delivered_iff (fresh snapshot : MachineConfig) (host : Host) (config : SandboxConfig)
    (env : CreateEnv) :
    MachineDelivered fresh snapshot host config env ↔
      (host.lockDepth = 0 → Completed host config env → SizeRequested fresh snapshot config env.boot) := by
  constructor
  · intro delivered free complete
    obtain ⟨work, -, ends⟩ := createSandbox_completes (.inl free) complete
    exact (bootedMachine_eq_iff complete.2.2 fresh snapshot).mp (delivered _ ends).1
  · intro sized after created
    have free : host.lockDepth = 0 := by
      by_contra busy
      rw [createSandbox_busy busy] at created
      cases created
    obtain ⟨complete, work, -, rfl⟩ := createSandbox_success created
    refine ⟨(bootedMachine_eq_iff complete.2.2 fresh snapshot).mpr (sized free complete), ?_⟩
    have looked : (completed host config env work).sandboxes.lookup config.sandboxId = some _ :=
      Finmap.lookup_insert _
    exact ⟨_, looked, rfl⟩

/-- The snapshot is there, with one vCPU and 512 MiB. -/
def prewarmedEnv : CreateEnv := { smoothEnv 77 with boot := { snapshotExists := .yes } }

def prewarmed : MachineConfig := ⟨1, 512⟩

/-- Four vCPUs and 4 GiB are asked for. -/
def largeConfig : SandboxConfig where
  sandboxId := "sbx-9f82a1"
  resourceLimits := { cpuCores := 4, memoryMb := 4096 }

theorem large_sandbox_small :
    ¬ MachineDelivered ⟨1, 128⟩ prewarmed (bareHost none none) largeConfig prewarmedEnv ∧
    bootedMachine ⟨1, 128⟩ prewarmed largeConfig prewarmedEnv.boot = some ⟨1, 512⟩ ∧
    ∃ after, (createSandbox .plain largeConfig prewarmedEnv).ends (bareHost none none) = (.returned .success, after) ∧
      ((after.sandboxes.lookup "sbx-9f82a1").map fun entry => (entry.metadata.vcpus, entry.metadata.memoryMb)) =
        some (4, 4096) := by
  have complete : Completed (bareHost none none) largeConfig prewarmedEnv := by decide
  have small : bootedMachine ⟨1, 128⟩ prewarmed largeConfig prewarmedEnv.boot = some ⟨1, 512⟩ := by decide
  obtain ⟨work, -, ends⟩ := createSandbox_completes (.inl rfl) complete
  refine ⟨fun delivered => ?_, small, _, ends, ?_⟩
  · have large := (delivered _ ends).1
    rw [small] at large
    exact absurd large (by decide)
  · have looked : (completed (bareHost none none) largeConfig prewarmedEnv work).sandboxes.lookup "sbx-9f82a1" =
        some _ := Finmap.lookup_insert _
    rw [looked]
    rfl

end Aegis.Runtime
