import Aegis.Library.Linearization

/-! Who waits for whom. -/

set_option autoImplicit false

namespace Aegis.Library

variable {T L S X A Op : Type}

/-- The lock a thread has besides the mutex. -/
def Point.lock? : Point L S X A → Option L
  | .entered lock _ | .leaving lock _ | .serving lock _ | .served lock _ => some lock
  | _ => none

/-- The locks are with the threads that have them, and a lock is only taken for an action. -/
structure Locked (c : Config T L S X A Op) : Prop where
  owner : ∀ lock t, c.owner lock = some t ↔ (c.thread t).point.lock? = some lock
  entered : ∀ t lock code, (c.thread t).point = .entered lock code → code.lock? = some lock

theorem Locked.initial (s : S) (programs : T → List Op) : Locked (.start s programs : Config T L S X A Op) where
  owner lock t := by simp [Config.start, Point.lock?]
  entered t lock code point := nomatch point

section
variable [DecidableEq T] {sys : System L S X A Op} {c after : Config T L S X A Op} {t : T}

/-- A step that takes no lock and gives none back. -/
theorem Locked.same (locked : Locked c) (owner : after.owner = c.owner)
    (others : ∀ u, u ≠ t → after.thread u = c.thread u)
    (here : (after.thread t).point.lock? = (c.thread t).point.lock?)
    (entered : ∀ lock code, (after.thread t).point = .entered lock code → code.lock? = some lock) : Locked after := by
  constructor
  · intro lock u
    rw [owner, locked.owner]
    by_cases other : u = t
    · rw [other, here]
    · rw [others u other]
  · intro u lock code point
    by_cases other : u = t
    · exact entered lock code (other ▸ point)
    · rw [others u other] at point
      exact locked.entered u lock code point

variable [DecidableEq L]

theorem Locked.take (locked : Locked c) {lock : L} (free : c.owner lock = none)
    (owner : after.owner = Function.update c.owner lock (some t))
    (others : ∀ u, u ≠ t → after.thread u = c.thread u) (before : (c.thread t).point.lock? = none)
    (here : (after.thread t).point.lock? = some lock)
    (entered : ∀ own code, (after.thread t).point = .entered own code → code.lock? = some own) : Locked after := by
  constructor
  · intro l u
    rw [owner]
    by_cases same : l = lock
    · subst same
      have nobody : ¬ (c.thread u).point.lock? = some l := by
        rw [← locked.owner, free]
        exact nofun
      rw [Function.update_self, Option.some.injEq]
      by_cases other : u = t
      · simp [other, here]
      · rw [others u other]
        exact iff_of_false (Ne.symm other) nobody
    · rw [Function.update_of_ne same, locked.owner]
      by_cases other : u = t
      · rw [other, here, before]
        simp [Ne.symm same]
      · rw [others u other]
  · intro u own code point
    by_cases other : u = t
    · exact entered own code (other ▸ point)
    · rw [others u other] at point
      exact locked.entered u own code point

theorem Locked.release (locked : Locked c) {lock : L} (owner : after.owner = Function.update c.owner lock none)
    (others : ∀ u, u ≠ t → after.thread u = c.thread u) (before : (c.thread t).point.lock? = some lock)
    (here : (after.thread t).point.lock? = none) : Locked after := by
  have mine := (locked.owner lock t).mpr before
  constructor
  · intro l u
    rw [owner]
    by_cases other : u = t
    · rw [other, here]
      by_cases same : l = lock
      · simp [same]
      · rw [Function.update_of_ne same, locked.owner, before]
        simp [Ne.symm same]
    · rw [others u other, ← locked.owner]
      by_cases same : l = lock
      · rw [same, Function.update_self, mine]
        simp [Ne.symm other]
      · rw [Function.update_of_ne same]
  · intro u own code point
    by_cases other : u = t
    · rw [other] at point
      rw [point] at here
      cases here
    · rw [others u other] at point
      exact locked.entered u own code point

theorem Locked.step (locked : Locked c) (move : sys.Move t c after) : Locked after := by
  cases move with
  | enter point pending job free =>
    exact locked.same rfl (fun u other => Config.thread_goTo_other other _) (by simp [point, Point.lock?]) (by simp)
  | request point pending job free =>
    exact locked.take free rfl (fun u other => Config.thread_goTo_other other _) (by simp [point, Point.lock?])
      (by simp [Config.take, Point.lock?]) (by simp [Config.take])
  | finish point ends ended =>
    exact locked.same rfl (fun u other => Config.thread_complete_other other _ _) (by simp [point, Point.lock?]) (by simp)
  | block point =>
    exact locked.same rfl (fun u other => Config.thread_complete_other other _ _) (by simp [point, Point.lock?]) (by simp)
  | act point =>
    exact locked.same rfl (fun u other => Config.thread_goTo_other other _) (by simp [point, Point.lock?]) (by simp)
  | take point needs free =>
    refine locked.take free rfl (fun u other => Config.thread_goTo_other other _) (by simp [point, Point.lock?])
      (by simp [Config.take, Point.lock?]) fun own code here => ?_
    simp only [Config.take, Config.thread_goTo, Point.entered.injEq] at here
    obtain ⟨rfl, rfl⟩ := here
    exact needs
  | lockedAct point =>
    exact locked.same rfl (fun u other => Config.thread_goTo_other other _) (by simp [point, Point.lock?]) (by simp)
  | consult point =>
    exact locked.same rfl (fun u other => Config.thread_commit_other other _) (by simp [point, Point.lock?]) (by simp)
  | release point =>
    exact locked.release rfl (fun u other => Config.thread_goTo_other other _) (by simp [point, Point.lock?])
      (by simp [Config.release, Point.lock?])
  | serve point =>
    exact locked.same rfl (fun u other => Config.thread_commit_other other _) (by simp [point, Point.lock?]) (by simp)
  | leave point =>
    exact locked.release rfl (fun u other => Config.thread_complete_other other _ _) (by simp [point, Point.lock?])
      (by simp [Config.release, Point.lock?])

theorem System.run_locked (s : S) (programs : T → List Op) (schedule : List T) :
    Locked (sys.run schedule (.start s programs)) := by
  have keeps (schedule : List T) (c : Config T L S X A Op) (locked : Locked c) : Locked (sys.run schedule c) := by
    induction schedule generalizing c with
    | nil => exact locked
    | cons t rest ih => exact ih _ (taken_keeps Locked locked fun after steps => locked.step (step_moves steps))
  exact keeps schedule _ (.initial s programs)

/-- A thread that has a lock besides the mutex can always move. -/
theorem Locked.moves (locked : Locked c) (sys : System L S X A Op) {lock : L} (owned : c.owner lock ≠ none) :
    ∃ u, sys.step u c ≠ none := by
  obtain ⟨u, owner⟩ := Option.ne_none_iff_exists'.mp owned
  have here := (locked.owner lock u).mp owner
  refine ⟨u, ?_⟩
  unfold System.step
  cases point : (c.thread u).point with
  | idle | inside | stuck =>
    rw [point] at here
    cases here
  | leaving | serving | served => simp
  | entered own code =>
    have needs := locked.entered u own code point
    cases code with
    | ret | throw | relock => cases needs
    | act | consult => simp

/-- No thread can move. -/
def System.Stalled (sys : System L S X A Op) (c : Config T L S X A Op) : Prop := ∀ t, sys.step t c = none

theorem Locked.stalled_free (locked : Locked c) (stalled : sys.Stalled c) (lock : L) : c.owner lock = none := by
  by_contra owned
  obtain ⟨u, moves⟩ := locked.moves sys owned
  exact moves (stalled u)

theorem Locked.stalled_idle (locked : Locked c) (stalled : sys.Stalled c) (t : T) :
    (c.thread t).point = .idle ∨ (c.thread t).point = .stuck := by
  have free := locked.stalled_free stalled
  have still := stalled t
  unfold System.step at still
  cases point : (c.thread t).point with
  | idle => exact .inl rfl
  | stuck => exact .inr rfl
  | leaving | serving | served => simp [point] at still
  | entered own code =>
    have needs := locked.entered t own code point
    cases code with
    | ret | throw | relock => cases needs
    | act | consult => simp [point] at still
  | inside code =>
    rw [point] at still
    match code, still with
    | .act (some lock) change next, still => simp [free lock] at still
    | .consult lock next, still => simp [free lock] at still

/-- If no thread can move then every call is over, or one thread waits for the mutex it holds
and the others have no call to make or one that needs the mutex. -/
theorem Locked.stalled (locked : Locked c) (holds : ∀ t, c.holder = some t ↔ (c.thread t).Holds)
    (stalled : sys.Stalled c) :
    (∀ t, (c.thread t).point = .idle ∧ (c.thread t).pending = []) ∨
      ∃ t, c.holder = some t ∧ (c.thread t).point = .stuck ∧ ∀ u, u ≠ t → (c.thread u).point = .idle ∧
        ∀ op rest, (c.thread u).pending = op :: rest → ∃ code, sys.job op = .held code := by
  have free := locked.stalled_free stalled
  cases holder : c.holder with
  | none =>
    refine .inl fun t => ?_
    have idle : (c.thread t).point = .idle := by
      refine (locked.stalled_idle stalled t).resolve_right fun stuck => ?_
      exact nomatch holder.symm.trans ((holds t).mpr (.inr stuck))
    refine ⟨idle, ?_⟩
    have still := stalled t
    cases pending : (c.thread t).pending with
    | nil => rfl
    | cons op rest =>
      cases job : sys.job op with
      | held code => simp [System.step, idle, pending, job, holder] at still
      | single lock action => simp [System.step, idle, pending, job, free lock] at still
  | some t =>
    have held := (holds t).mp holder
    have stuck : (c.thread t).point = .stuck := by
      refine (locked.stalled_idle stalled t).resolve_left fun idle => ?_
      simp [Thread.Holds, idle, Point.code?] at held
    refine .inr ⟨t, rfl, stuck, fun u other => ?_⟩
    have idle : (c.thread u).point = .idle := by
      refine (locked.stalled_idle stalled u).resolve_right fun waits => other ?_
      exact Option.some.inj (((holds u).mpr (.inr waits)).symm.trans holder)
    refine ⟨idle, fun op rest pending => ?_⟩
    have still := stalled u
    cases job : sys.job op with
    | held code => exact ⟨code, rfl⟩
    | single lock action => simp [System.step, idle, pending, job, free lock] at still

end

end Aegis.Library
