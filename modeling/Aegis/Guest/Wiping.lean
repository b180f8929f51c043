import Aegis.Guest.Service

/-! What is left of the scripts: each is removed behind its run, unless its write or its removal has
failed. -/

set_option autoImplicit false

namespace Aegis.Guest
open Library

/-- A file that a goroutine was the last to write is the script it is running, or its write or its
removal has failed. -/
def Kept (failed : Nat → Prop) (s : Agent) : Prop :=
  ∀ path i content, s.files path = some ⟨some i, content⟩ →
    (∃ nanos, (s.stage i).nanos = some nanos ∧ path = scriptPath nanos) ∨ s.stage i = .closed ∧ failed i

section
variable {failed : Nat → Prop} {s t : Agent} {i : Nat}

theorem Kept.mono {failed' : Nat → Prop} (kept : Kept failed s) (more : ∀ i, failed i → failed' i) :
    Kept failed' s :=
  fun path i content written => (kept path i content written).imp_right fun left => ⟨left.1, more i left.2⟩

/-- A goroutine that has no script yet has written no file. -/
theorem Kept.unwritten (kept : Kept failed s) (early : (s.stage i).Early) (path : String) (content : Bytes) :
    s.files path ≠ some ⟨some i, content⟩ := by
  intro written
  rcases kept path i content written with ⟨nanos, placed, -⟩ | ⟨closed, -⟩
  · rw [early.unplaced] at placed
    cases placed
  · rw [closed] at early
    exact early

/-- The goroutine goes on and may store a file on its way. -/
theorem Kept.move (kept : Kept failed s) {stage : Stage} (goes : t.stage = Function.update s.stage i stage)
    (others : ∀ path j content, j ≠ i → t.files path = some ⟨some j, content⟩ →
      s.files path = some ⟨some j, content⟩)
    (own : ∀ path content, t.files path = some ⟨some i, content⟩ →
      (∃ nanos, stage.nanos = some nanos ∧ path = scriptPath nanos) ∨ stage = .closed ∧ failed i) :
    Kept failed t := by
  intro path j content written
  by_cases here : j = i
  · subst here
    rw [goes, Function.update_self]
    exact own path content written
  · rw [goes, Function.update_of_ne here]
    exact kept path j content (others path j content here written)

/-- A goroutine without a script leaves the files as they are. -/
theorem Kept.unstored (kept : Kept failed s) (early : (s.stage i).Early) {stage : Stage}
    (goes : t.stage = Function.update s.stage i stage) (files : t.files = s.files) : Kept failed t := by
  refine kept.move goes (fun path j content _ => ?_) fun path content written => ?_
  · rw [files]
    exact id
  · rw [files] at written
    exact absurd written (kept.unwritten early path content)

theorem store_others {path : String} {file : Option Script}
    (mine : ∀ j content, file = some ⟨some j, content⟩ → j = i) (other : String) (j : Nat) (content : Bytes)
    (different : j ≠ i) (written : (s.store path file).files other = some ⟨some j, content⟩) :
    s.files other = some ⟨some j, content⟩ := by
  by_cases same : other = path
  · subst same
    rw [files_store_self] at written
    exact absurd (mine j content written) different
  · rwa [files_store_of_ne s same] at written

/-- In the beginning a goroutine has written nothing, and what it stores now is its script. -/
theorem store_own (kept : Kept failed s) (early : (s.stage i).Early) {path other : String} {file : Option Script}
    {content : Bytes} (written : (s.store path file).files other = some ⟨some i, content⟩) : other = path := by
  by_contra different
  rw [files_store_of_ne s different] at written
  exact kept.unwritten early other content written

theorem Kept.step {requests : Nat → ExecutionRequest} (kept : Kept failed s) {action : ScriptAction}
    (fresh : ∀ i, (s.stage i).Early → failed i) (unremoved : ∀ i, action = .failRemove i → failed i)
    (moves : scriptStep requests action s = some t) : Kept failed t := by
  -- a goroutine that has not written yet has no file
  have early {i : Nat} {nanos : Int} (here : s.stage i = .timed nanos) : (s.stage i).Early := by
    rw [here]
    trivial
  have own {i j : Nat} {content content' : Bytes}
      (same : some (⟨some i, content⟩ : Script) = some ⟨some j, content'⟩) : j = i := by
    cases same
    rfl
  cases scriptStep_cases moves with
  | readClock here later => exact kept.unstored (by rw [here]; trivial) rfl rfl
  | @writeScript i nanos here =>
    exact kept.move rfl (store_others fun _ _ => own)
      fun path content written => .inl ⟨nanos, rfl, store_own kept (early here) written⟩
  | failOpen here => exact kept.unstored (early here) rfl rfl
  | @failWrite i nanos cut here =>
    exact kept.move rfl (store_others fun _ _ => own) fun path content written => .inr ⟨rfl, fresh i (early here)⟩
  | @readScript i nanos here =>
    refine kept.move rfl (fun _ _ _ _ => id) fun path content written => ?_
    have before := kept path i content written
    rw [here] at before
    exact before.imp id fun closed => absurd closed.1 (by simp)
  | @removeScript i nanos placed =>
    refine kept.move rfl (store_others (by simp)) fun path content written => ?_
    by_cases same : path = scriptPath nanos
    · subst same
      exact absurd ((files_store_self s _ none).symm.trans written) (by simp)
    -- any other file of this goroutine would be at the same path
    · have before := kept path i content ((files_store_of_ne s same none).symm.trans written)
      rw [placed] at before
      rcases before with ⟨time, equal, there⟩ | ⟨closed, -⟩
      · cases equal
        exact absurd there same
      · rw [closed] at placed
        cases placed
  | failRemove placed => exact kept.move rfl (fun _ _ _ _ => id) fun _ _ _ => .inr ⟨rfl, unremoved _ rfl⟩

end

/-- The script of a goroutine that is through may be left: it was not written whole, so that there
was no run, or it could not be removed. -/
def Connection.LeavesScript (connection : Connection) : Prop :=
  connection.outcome = none ∨ connection.unremoved = true

/-- As long as it has no script, a goroutine has no outcome either. -/
structure Service.Wiping (s : Service) : Prop where
  kept : Kept (fun i => (s.connections i).LeavesScript) s.agent
  fresh : ∀ i, (s.agent.stage i).Early → (s.connections i).outcome = none

theorem Service.Wiping.step {texts osEnviron walks} {s t : Service} (wiping : s.Wiping) {action : ServiceAction}
    (moves : serviceStep texts osEnviron walks action s = some t) : t.Wiping := by
  have effect := serviceStep_effect moves
  cases named : action.file with
  | none =>
    -- an outcome is new only where there is a script
    have same {i : Nat} (unplaced : (s.agent.stage i).nanos = none) :
        (t.connections i).outcome = (s.connections i).outcome := by
      refine (effect.outcomes i).resolve_right fun placed => ?_
      rw [unplaced] at placed
      exact absurd placed.2 (by simp)
    refine ⟨fun path i content written => ?_, fun i early => ?_⟩
    · rw [effect.still named] at written ⊢
      refine (wiping.kept path i content written).imp id fun left => ⟨left.1, ?_⟩
      exact left.2.imp (same (by rw [left.1]; rfl)).trans fun before => effect.unremoved i (.inl before)
    · rw [effect.still named] at early
      exact (same early.unplaced).trans (wiping.fresh i early)
  | some file =>
    have same (i : Nat) : (t.connections i).outcome = (s.connections i).outcome :=
      (effect.outcomes i).resolve_right fun quiet => absurd (named.symm.trans quiet.1) (by simp)
    have stepped := effect.files file named
    refine ⟨?_, fun i early => ?_⟩
    · have before : Kept (fun i => (t.connections i).LeavesScript) s.agent :=
        wiping.kept.mono fun i left => left.imp (same i).trans fun left => effect.unremoved i (.inl left)
      refine before.step (fun i early => .inl ((same i).trans (wiping.fresh i early))) (fun i removes => .inr ?_) stepped
      exact effect.unremoved i (.inr (named.trans (congrArg some removes)))
    · rw [same]
      refine wiping.fresh i ?_
      have goes := scriptStep_moves stepped
      by_cases own : i = file.request
      · subst own
        exact goes.early early
      · rwa [(goes.others i own).1] at early

variable (texts : Nat → Bytes) (osEnviron : List Bytes)
variable (walks : Nat → (table : Finmap fun _ : Bytes => Bytes) → Walk table)

/-- Whatever the clock reads, no script is left behind by a goroutine whose script was run, unless its
removal has failed. -/
theorem scripts_wiped (clock : Int) (files : String → Option Script)
    (foreign : ∀ path script, files path = some script → script.writer = none) (actions : List ServiceAction) :
    Always (serviceStep texts osEnviron walks) (fun s => Kept (fun i => (s.connections i).LeavesScript) s.agent)
      actions { agent := { clock, files } } := by
  refine always_of_keeps Service.Wiping (fun _ _ _ wiping moves => wiping.step moves) (fun _ wiping => wiping.kept)
    actions _ ⟨fun path i content written => ?_, fun _ _ => rfl⟩
  exact nomatch foreign path _ written

/-- The printer's run is over, so that nothing it wrote is left. -/
theorem printer_wiped :
    Kept (fun i => (afterPrinting.connections i).LeavesScript) afterPrinting.agent ∧
      afterPrinting.agent.stage 0 = .closed ∧ (afterPrinting.connections 0).outcome.isSome = true ∧
      (afterPrinting.connections 0).unremoved = false := by
  refine ⟨?_, by decide +kernel, by decide +kernel, by decide +kernel⟩
  exact (scripts_wiped printingTexts [] (fun _ => anyWalk) 0 (fun _ => none) nofun printing).last

end Aegis.Guest
