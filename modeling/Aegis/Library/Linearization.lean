import Aegis.Library.Threads
import Mathlib.Data.Fintype.Basic
import Mathlib.Data.List.Basic

/-! Every interleaving is an order of whole calls. -/

set_option autoImplicit false

namespace Aegis.Library

variable {T L S X A Op : Type}

/-- The state after calls made one after the other. -/
def replay (call : Op → S → Outcome A × S) : List (T × Op) → S → S
  | [], s => s
  | (_, op) :: rest, s => replay call rest (call op s).2

/-- The answers to calls made one after the other, with the thread that made each. -/
def replies (call : Op → S → Outcome A × S) : List (T × Op) → S → List (T × Outcome A)
  | [], _ => []
  | (t, op) :: rest, s => (t, (call op s).1) :: replies call rest (call op s).2

theorem replay_append {call : Op → S → Outcome A × S} (first second : List (T × Op)) (s : S) :
    replay call (first ++ second) s = replay call second (replay call first s) := by
  induction first generalizing s with
  | nil => rfl
  | cons entry rest ih => exact ih _

theorem replies_append {call : Op → S → Outcome A × S} (first second : List (T × Op)) (s : S) :
    replies call (first ++ second) s = replies call first s ++ replies call second (replay call first s) := by
  induction first generalizing s with
  | nil => rfl
  | cons entry rest ih => exact congrArg _ (ih _)

section
variable [DecidableEq T] {B : Type}

/-- What belongs to one thread. -/
def ownedBy (t : T) (entries : List (T × B)) : List B := (entries.filter (·.1 = t)).map (·.2)

theorem ownedBy_append (t : T) (first second : List (T × B)) :
    ownedBy t (first ++ second) = ownedBy t first ++ ownedBy t second := by
  simp [ownedBy]

theorem ownedBy_map_own (t : T) (entries : List B) : ownedBy t (entries.map (Prod.mk t)) = entries := by
  induction entries with
  | nil => rfl
  | cons entry rest ih => simpa [ownedBy] using ih

theorem ownedBy_map_other {t u : T} (other : u ≠ t) (entries : List B) : ownedBy u (entries.map (Prod.mk t)) = [] := by
  simp [ownedBy, Ne.symm other]

theorem ownedBy_replies_other {call : Op → S → Outcome A × S} {t u : T} (other : u ≠ t) (ops : List Op) (s : S) :
    ownedBy u (replies call (ops.map (Prod.mk t)) s) = [] := by
  induction ops generalizing s with
  | nil => rfl
  | cons op rest ih => simpa [replies, ownedBy, Ne.symm other] using ih _

theorem length_ownedBy_replies {call : Op → S → Outcome A × S} (t : T) (log : List (T × Op)) (s : S) :
    (ownedBy t (replies call log s)).length = (ownedBy t log).length := by
  induction log generalizing s with
  | nil => rfl
  | cons entry rest ih =>
    have tail := ih (call entry.2 s).2
    unfold ownedBy at tail ⊢
    by_cases mine : entry.1 = t
    · simpa [replies, mine] using tail
    · simpa [replies, mine] using tail

/-- The last answer to a thread, with the last call it made. -/
theorem last_reply {call : Op → S → Outcome A × S} {t : T} {log : List (T × Op)} {s : S} {outcome : Outcome A}
    (last : (ownedBy t (replies call log s)).getLast? = some outcome) : ∃ before op after,
      log = before ++ (t, op) :: after ∧ ownedBy t after = [] ∧ (call op (replay call before s)).1 = outcome := by
  induction log using List.reverseRecOn with
  | nil => cases last
  | append_singleton log entry ih =>
    obtain ⟨u, op⟩ := entry
    rw [replies_append, ownedBy_append] at last
    by_cases mine : u = t
    · subst mine
      refine ⟨log, op, [], rfl, rfl, ?_⟩
      simpa [replies, ownedBy] using last
    · have other : ownedBy t (replies call [(u, op)] (replay call log s)) = [] :=
        ownedBy_replies_other (Ne.symm mine) [op] _
      rw [other, List.append_nil] at last
      obtain ⟨before, own, after, rfl, silent, same⟩ := ih last
      refine ⟨before, own, after ++ [(u, op)], by simp, ?_, same⟩
      rw [ownedBy_append, silent]
      exact ownedBy_map_other (Ne.symm mine) [op]

end

theorem Portion.get_mutex {sys : System L S X A Op} (n : Nat) (s : S) :
    sys.part.get (sys.mutex.put n s) = sys.part.get s := by
  have same := sys.apart n (sys.part.get s) s
  rw [sys.part.put_get] at same
  rw [same, sys.part.get_put]

namespace System

variable {sys : System L S X A Op}

theorem leave_put (x : X) (outcome : Outcome A) (s : S) :
    (sys.mutex.leave (outcome, sys.part.put x s)).2 = sys.part.put x (sys.mutex.leave (outcome, s)).2 := by
  cases outcome with
  | returned | threw => exact sys.apart 0 x s
  | blocked => rfl

theorem get_leave (ended : Outcome A × S) : sys.part.get (sys.mutex.leave ended).2 = sys.part.get ended.2 := by
  rcases ended with ⟨_ | _ | _, s⟩
  · exact Portion.get_mutex 0 s
  · exact Portion.get_mutex 0 s
  · rfl

theorem leave_fst (ended : Outcome A × S) : (sys.mutex.leave ended).1 = ended.1 := by
  rcases ended with ⟨_ | _ | _, s⟩ <;> rfl

theorem leave_over {outcome : Outcome A} (ended : outcome ≠ .blocked) (s : S) :
    sys.mutex.leave (outcome, s) = (outcome, sys.mutex.put 0 s) := by
  cases outcome with
  | returned | threw => rfl
  | blocked => exact absurd rfl ended

/-- A call that holds the mutex, at `code`: before it takes effect it has made some of its
actions from the state of the log; after that the log is ahead of it. -/
inductive Underway (sys : System L S X A Op) (replayed state : S) (me : Thread L S X A Op)
    (code : Code L S X A) : Prop where
  | before {op : Op} {rest : List Op} {whole : Code L S X A} (committed : me.committed = false)
      (pending : me.pending = op :: rest) (job : sys.job op = .held whole) (ready : sys.ready replayed)
      (made : Code.Made whole (sys.mutex.put 1 replayed) code state)
  | after (committed : me.committed = true) (tame : code.Tame sys.part false)
      (ahead : replayed = (sys.mutex.leave (code.ends sys.part state)).2)
      (ready : (code.ends sys.part state).1 ≠ .blocked → sys.ready replayed)

/-- What holds of one thread, given the state of the log and the present state. -/
inductive Fits (sys : System L S X A Op) (replayed state : S) (me : Thread L S X A Op) : Prop where
  | idle (point : me.point = .idle) (uncommitted : me.committed = false)
  | running {code : Code L S X A} (point : me.point.code? = some code)
      (underway : sys.Underway replayed state me code)
  | stuck (point : me.point = .stuck) (uncommitted : me.committed = false) (same : state = replayed)
      (waits : me.answers.getLast? = some .blocked)
  | serving {lock : L} {action : X → Outcome A × X} {op : Op} {rest : List Op}
      (point : me.point = .serving lock action) (uncommitted : me.committed = false)
      (pending : me.pending = op :: rest) (job : sys.job op = .single lock action)
  | served {lock : L} {outcome : Outcome A} (point : me.point = .served lock outcome) (committed : me.committed = true)

/-- The answer to a call that has taken effect and is not over. -/
def due (sys : System L S X A Op) (state : S) (me : Thread L S X A Op) : List (Outcome A) :=
  if me.committed then
    match me.point with
    | .inside code | .entered _ code | .leaving _ code => [(code.ends sys.part state).1]
    | .served _ outcome => [outcome]
    | _ => []
  else []

theorem due_uncommitted {me : Thread L S X A Op} (uncommitted : me.committed = false) (state : S) :
    sys.due state me = [] := by
  simp [due, uncommitted]

theorem due_running {me : Thread L S X A Op} {code : Code L S X A} (committed : me.committed = true)
    (point : me.point.code? = some code) (state : S) : sys.due state me = [(code.ends sys.part state).1] := by
  unfold due
  cases at_ : me.point with
  | inside | entered | leaving =>
    rw [at_] at point
    cases point
    simp [committed]
  | idle | stuck | serving | served =>
    rw [at_] at point
    cases point

theorem due_served {me : Thread L S X A Op} {lock : L} {outcome : Outcome A} (committed : me.committed = true)
    (point : me.point = .served lock outcome) (state : S) : sys.due state me = [outcome] := by
  simp [due, committed, point]

end System

/-- The calls that have not taken effect. -/
def Thread.remaining (me : Thread L S X A Op) : List Op :=
  if me.committed then me.pending.tail else me.pending

/-- Every call that holds the mutex starts from a state that is ready for it. -/
def System.Orderly (sys : System L S X A Op) : List (T × Op) → S → Prop
  | [], _ => True
  | (_, op) :: rest, s => (∀ code, sys.job op = .held code → sys.ready s) ∧ sys.Orderly rest (sys.call op s).2

theorem System.orderly_append {sys : System L S X A Op} (first second : List (T × Op)) (s : S) :
    sys.Orderly (first ++ second) s ↔ sys.Orderly first s ∧ sys.Orderly second (replay sys.call first s) := by
  induction first generalizing s with
  | nil => exact (and_iff_right trivial).symm
  | cons entry rest ih =>
    rw [List.cons_append, System.Orderly, ih, System.Orderly, and_assoc]
    rfl

/-- The configuration agrees with its log. -/
structure Linear [DecidableEq T] (sys : System L S X A Op) (start : S) (programs : T → List Op)
    (c : Config T L S X A Op) : Prop where
  fits : ∀ t, sys.Fits (replay sys.call c.log start) c.state (c.thread t)
  free : c.holder = none → c.state = replay sys.call c.log start ∧ sys.ready c.state
  holds : ∀ t, c.holder = some t ↔ (c.thread t).Holds
  orderly : sys.Orderly c.log start
  order : ∀ t, ownedBy t c.log ++ (c.thread t).remaining = programs t
  answered : ∀ t, ownedBy t (replies sys.call c.log start) = (c.thread t).answers ++ sys.due c.state (c.thread t)

section
variable {sys : System L S X A Op} {replayed state replayed' state' : S} {me : Thread L S X A Op}

theorem System.Underway.get {code : Code L S X A} (underway : sys.Underway replayed state me code) :
    sys.part.get state = sys.part.get replayed := by
  cases underway with
  | before committed pending job ready made => exact (made.get (sys.tame job)).trans (Portion.get_mutex 1 replayed)
  | after committed tame ahead ready => rw [ahead, System.get_leave, tame.get_ends]

/-- A call under way does not mind a change of the shared part alone. -/
theorem System.Underway.put {code : Code L S X A} (underway : sys.Underway replayed state me code) (x : X)
    (stays : sys.ready replayed → sys.ready (sys.part.put x replayed)) :
    sys.Underway (sys.part.put x replayed) (sys.part.put x state) me code := by
  cases underway with
  | before committed pending job ready made =>
    refine .before committed pending job (stays ready) ?_
    rw [sys.apart]
    exact made.put (sys.tame job) x
  | after committed tame ahead ready =>
    have ends := tame.ends_put x state
    refine .after committed tame ?_ fun ended => ?_
    · rw [ends, System.leave_put, ahead]
    · rw [ends] at ended
      exact stays (ready ended)

/-- Another thread has moved: the mutex is not with this one, or only the shared part changed. -/
def Undisturbed (sys : System L S X A Op) (replayed state replayed' state' : S) (me : Thread L S X A Op) : Prop :=
  ¬ me.Holds ∨ ∃ x, replayed' = sys.part.put x replayed ∧ state' = sys.part.put x state ∧
    (sys.ready replayed → sys.ready replayed')

theorem System.Fits.undisturbed (fits : sys.Fits replayed state me)
    (still : Undisturbed sys replayed state replayed' state' me) :
    sys.Fits replayed' state' me ∧ sys.due state' me = sys.due state me := by
  cases fits with
  | idle point uncommitted =>
    rw [due_uncommitted uncommitted, due_uncommitted uncommitted]
    exact ⟨.idle point uncommitted, rfl⟩
  | @running code point underway =>
    rcases still with free | ⟨x, rfl, rfl, stays⟩
    · exact absurd (.inl (by rw [point]; rfl)) free
    · refine ⟨.running point (underway.put x stays), ?_⟩
      cases underway with
      | before committed => rw [due_uncommitted committed, due_uncommitted committed]
      | after committed tame => rw [due_running committed point, due_running committed point, tame.ends_put]
  | stuck point uncommitted same waits =>
    rw [due_uncommitted uncommitted, due_uncommitted uncommitted]
    refine ⟨.stuck point uncommitted ?_ waits, rfl⟩
    rcases still with free | ⟨x, rfl, rfl, -⟩
    · exact absurd (.inr point) free
    · rw [same]
  | serving point uncommitted pending job =>
    rw [due_uncommitted uncommitted, due_uncommitted uncommitted]
    exact ⟨.serving point uncommitted pending job, rfl⟩
  | served point committed =>
    rw [due_served committed point, due_served committed point]
    exact ⟨.served point committed, rfl⟩

end

section
variable [DecidableEq T] {sys : System L S X A Op} {start : S} {programs : T → List Op}
  {c after : Config T L S X A Op}

theorem Linear.initial (ready : sys.ready start) : Linear sys start programs (.start start programs) where
  fits _ := .idle rfl rfl
  free _ := ⟨rfl, ready⟩
  holds t := by simp [Config.start, Thread.Holds, Point.code?]
  orderly := trivial
  order t := rfl
  answered t := rfl

/-- The shared part is up to date with the log at all times. -/
theorem Linear.shared (linear : Linear sys start programs c) :
    sys.part.get c.state = sys.part.get (replay sys.call c.log start) := by
  cases holder : c.holder with
  | none => rw [← (linear.free holder).1]
  | some t =>
    have held := (linear.holds t).mp holder
    cases linear.fits t with
    | idle point | serving point | served point => simp [Thread.Holds, point, Point.code?] at held
    | running point underway => exact underway.get
    | stuck point uncommitted same => rw [same]

/-- A move of one thread: what is to be shown is about that thread only, once the others are
known to be left alone. -/
theorem Linear.moved (linear : Linear sys start programs c) (t : T) (new : List Op)
    (log : after.log = c.log ++ new.map (Prod.mk t)) (others : ∀ u, u ≠ t → after.thread u = c.thread u)
    (holder : ∀ u, u ≠ t → (after.holder = some u ↔ c.holder = some u))
    (still : ∀ u, u ≠ t → Undisturbed sys (replay sys.call c.log start) c.state
      (replay sys.call after.log start) after.state (c.thread u))
    (fits : sys.Fits (replay sys.call after.log start) after.state (after.thread t))
    (free : after.holder = none → after.state = replay sys.call after.log start ∧ sys.ready after.state)
    (holds : after.holder = some t ↔ (after.thread t).Holds)
    (orderly : sys.Orderly (new.map (Prod.mk t)) (replay sys.call c.log start))
    (order : new ++ (after.thread t).remaining = (c.thread t).remaining)
    (answered : ownedBy t (replies sys.call after.log start) =
      (after.thread t).answers ++ sys.due after.state (after.thread t)) : Linear sys start programs after := by
  have kept (u : T) (other : u ≠ t) := (linear.fits u).undisturbed (still u other)
  constructor
  · intro u
    by_cases other : u = t
    · exact other ▸ fits
    · rw [others u other]
      exact (kept u other).1
  · exact free
  · intro u
    by_cases other : u = t
    · exact other ▸ holds
    · rw [holder u other, others u other]
      exact linear.holds u
  · rw [log, System.orderly_append]
    exact ⟨linear.orderly, orderly⟩
  · intro u
    by_cases other : u = t
    · subst other
      rw [log, ownedBy_append, ownedBy_map_own, List.append_assoc, order]
      exact linear.order u
    · rw [log, ownedBy_append, ownedBy_map_other other, List.append_nil, others u other]
      exact linear.order u
  · intro u
    by_cases other : u = t
    · exact other ▸ answered
    · rw [others u other, (kept u other).2, ← linear.answered u, log, replies_append, ownedBy_append,
        ownedBy_replies_other other, List.append_nil]

theorem Linear.unheld (linear : Linear sys start programs c) {t : T}
    (mine : c.holder = none ∨ c.holder = some t) {u : T} (other : u ≠ t) : ¬ (c.thread u).Holds := by
  intro held
  rw [← linear.holds u] at held
  rcases mine with free | mine
  · exact nomatch free.symm.trans held
  · exact other (Option.some.inj (held.symm.trans mine))

/-- Nothing moves in the state or the log. -/
theorem Linear.at_rest (linear : Linear sys start programs c) (me : Thread L S X A Op) :
    Undisturbed sys (replay sys.call c.log start) c.state (replay sys.call c.log start) c.state me := by
  refine .inr ⟨sys.part.get c.state, ?_, (sys.part.put_get _).symm, id⟩
  rw [linear.shared, sys.part.put_get]

theorem Linear.underway (linear : Linear sys start programs c) {t : T} {code : Code L S X A}
    (point : (c.thread t).point.code? = some code) :
    c.holder = some t ∧ sys.Underway (replay sys.call c.log start) c.state (c.thread t) code := by
  have holds : (c.thread t).Holds := .inl (by rw [point]; rfl)
  refine ⟨(linear.holds t).mpr holds, ?_⟩
  cases linear.fits t with
  | running point' underway =>
    rw [point] at point'
    exact Option.some.inj point' ▸ underway
  | idle point' | stuck point' | serving point' | served point' =>
    rw [point'] at point
    cases point

/-- When the call under way is in the log, the log is ahead of it by what is left of it. -/
theorem Linear.logged (linear : Linear sys start programs c) {t : T} {code : Code L S X A}
    (underway : sys.Underway (replay sys.call c.log start) c.state (c.thread t) code)
    (point : (c.thread t).point.code? = some code) :
    replay sys.call (c.logged t) start = (sys.mutex.leave (code.ends sys.part c.state)).2 ∧
      ((code.ends sys.part c.state).1 ≠ .blocked → sys.ready (replay sys.call (c.logged t) start)) ∧
      ownedBy t (replies sys.call (c.logged t) start) = (c.thread t).answers ++ [(code.ends sys.part c.state).1] ∧
      sys.Orderly ((c.thread t).unlogged.map (Prod.mk t)) (replay sys.call c.log start) := by
  have answered := linear.answered t
  cases underway with
  | @before op rest whole committed pending job ready made =>
    have log : c.logged t = c.log ++ [(t, op)] := by simp [Config.logged, Thread.unlogged, committed, pending]
    have whole := sys.call_held job ready
    rw [made.ends] at whole
    rw [System.due_uncommitted committed, List.append_nil] at answered
    refine ⟨?_, ?_, ?_, ?_⟩
    · rw [log, replay_append, replay, replay, whole]
    · intro ended
      rw [log, replay_append, replay, replay]
      apply sys.ready_held job ready
      rwa [whole, System.leave_fst]
    · rw [log, replies_append, ownedBy_append, answered, replies, replies, whole, System.leave_fst]
      exact congrArg _ (ownedBy_map_own t [_])
    · have fresh : (c.thread t).unlogged = [op] := by simp [Thread.unlogged, committed, pending]
      rw [fresh]
      exact ⟨fun _ _ => ready, trivial⟩
  | after committed tame ahead ready =>
    have log : c.logged t = c.log := by simp [Config.logged, Thread.unlogged, committed]
    rw [System.due_running committed point] at answered
    rw [log]
    have logged : (c.thread t).unlogged = [] := by simp [Thread.unlogged, committed]
    rw [logged]
    exact ⟨ahead, ready, answered, trivial⟩

end

theorem System.Underway.same {sys : System L S X A Op} {replayed state : S} {me : Thread L S X A Op}
    {code : Code L S X A} (underway : sys.Underway replayed state me code) (other : Thread L S X A Op)
    (committed : other.committed = me.committed)
    (pending : other.pending = me.pending) : sys.Underway replayed state other code := by
  cases underway with
  | before committed' pending' job ready made =>
    exact .before (committed.trans committed') (pending.trans pending') job ready made
  | after committed' tame ahead ready => exact .after (committed.trans committed') tame ahead ready

theorem System.Underway.act {sys : System L S X A Op} {replayed state : S} {me : Thread L S X A Op}
    {lock : Option L} {change : S → S} {next : S → Code L S X A}
    (underway : sys.Underway replayed state me (.act lock change next)) :
    sys.Underway replayed (change state) me (next state) := by
  cases underway with
  | before committed pending job ready made => exact .before committed pending job ready (.act made)
  | after committed tame ahead ready => exact .after committed (tame.2 state) ahead ready

theorem Thread.unlogged_append (me : Thread L S X A Op) : me.unlogged ++ me.pending.tail = me.remaining := by
  unfold unlogged remaining
  cases me.committed with
  | true => rfl
  | false => cases me.pending with
    | nil => rfl
    | cons op rest => rfl

section
variable [DecidableEq T] {sys : System L S X A Op} {start : S} {programs : T → List Op}
  {c after : Config T L S X A Op} {t : T}

/-- A step inside a call: the thread makes an action, or takes or gives back a lock. -/
theorem Linear.inside (linear : Linear sys start programs c) {code code' : Code L S X A}
    (point : (c.thread t).point.code? = some code) {point' : Point L S X A} (there : point'.code? = some code')
    (log : after.log = c.log) (holder : after.holder = c.holder)
    (thread : after.thread = Function.update c.thread t { c.thread t with point := point' })
    (goes : sys.Underway (replay sys.call c.log start) c.state (c.thread t) code →
      sys.Underway (replay sys.call c.log start) after.state (c.thread t) code')
    (same : code.ends sys.part c.state = code'.ends sys.part after.state) : Linear sys start programs after := by
  obtain ⟨mine, underway⟩ := linear.underway point
  have here : after.thread t = { c.thread t with point := point' } := by rw [thread, Function.update_self]
  have next := (goes underway).same (after.thread t) (by rw [here]) (by rw [here])
  have at_ : (after.thread t).point.code? = some code' := by rw [here, there]
  refine linear.moved t [] (by simp [log]) ?_ ?_ ?_ ?_ ?_ ?_ trivial ?_ ?_
  · intro u other
    rw [thread, Function.update_of_ne other]
  · intro u _
    rw [holder]
  · exact fun u other => .inl (linear.unheld (.inr mine) other)
  · rw [log]
    exact .running at_ next
  · intro free
    rw [holder, mine] at free
    cases free
  · rw [holder, mine]
    exact iff_of_true rfl (.inl (by rw [at_]; rfl))
  · rw [here]
    rfl
  · rw [log, linear.answered t]
    cases committed : (c.thread t).committed with
    | false =>
      rw [System.due_uncommitted committed, System.due_uncommitted (by rw [here]; exact committed), here]
    | true =>
      rw [System.due_running committed point, System.due_running (by rw [here]; exact committed) at_, same, here]

/-- The end of a call that holds the mutex, or its wait for the mutex. -/
theorem Linear.concluded (linear : Linear sys start programs c) {code : Code L S X A} {outcome : Outcome A}
    (point : (c.thread t).point = .inside code) (ends : ∀ s, code.ends sys.part s = (outcome, s)) :
    replay sys.call (c.logged t) start = (sys.mutex.leave (outcome, c.state)).2 ∧
      (outcome ≠ .blocked → sys.ready (replay sys.call (c.logged t) start)) ∧
      ownedBy t (replies sys.call (c.logged t) start) = (c.thread t).answers ++ [outcome] ∧
      sys.Orderly ((c.thread t).unlogged.map (Prod.mk t)) (replay sys.call c.log start) ∧ c.holder = some t := by
  have point' : (c.thread t).point.code? = some code := by rw [point]; rfl
  obtain ⟨mine, underway⟩ := linear.underway point'
  obtain ⟨state, ready, answered, orderly⟩ := linear.logged underway point'
  rw [ends] at state ready answered
  exact ⟨state, ready, answered, orderly, mine⟩

theorem Linear.idle (linear : Linear sys start programs c) (point : (c.thread t).point = .idle) :
    (c.thread t).committed = false ∧ ownedBy t (replies sys.call c.log start) = (c.thread t).answers := by
  have uncommitted : (c.thread t).committed = false := by
    cases linear.fits t with
    | idle _ uncommitted => exact uncommitted
    | running point' | stuck point' | serving point' | served point' => simp [point, Point.code?] at point'
  have answered := linear.answered t
  rw [System.due_uncommitted uncommitted, List.append_nil] at answered
  exact ⟨uncommitted, answered⟩

/-- A single action takes effect at once, in the log and in the state. -/
theorem Linear.serve (linear : Linear sys start programs c) {lock : L} {action : X → Outcome A × X}
    (point : (c.thread t).point = .serving lock action) :
    Linear sys start programs { c.commit t (.served lock (action (sys.part.get c.state)).1) with
      state := sys.part.put (action (sys.part.get c.state)).2 c.state } := by
  cases linear.fits t with
  | running point' | idle point' | stuck point' | served point' => simp [point, Point.code?] at point'
  | @serving lock action op rest point' uncommitted pending job =>
    rw [point] at point'
    cases point'
    have log : c.logged t = c.log ++ [(t, op)] := by simp [Config.logged, Thread.unlogged, uncommitted, pending]
    have call := sys.call_single (s := replay sys.call c.log start) job
    have stays := sys.ready_single (s := replay sys.call c.log start) job
    rw [← linear.shared] at call
    rw [call] at stays
    have state : replay sys.call (c.logged t) start =
        sys.part.put (action (sys.part.get c.state)).2 (replay sys.call c.log start) := by
      rw [log, replay_append, replay, replay, call]
    refine linear.moved t (c.thread t).unlogged rfl (fun u other => Config.thread_commit_other other _)
      (fun u _ => Iff.rfl) (fun u other => .inr ⟨_, state, rfl, fun ready => state ▸ stays ready⟩) ?_ ?_ ?_ ?_ ?_ ?_
    · exact .served (congrArg Thread.point (Config.thread_commit _)) (congrArg Thread.committed (Config.thread_commit _))
    -- if nobody holds the mutex the replayed state is the state, before and after
    · intro free
      obtain ⟨same, ready⟩ := linear.free free
      rw [← same] at state stays
      exact ⟨state.symm, stays ready⟩
    · have unheld := linear.holds t
      simpa [Thread.Holds, Point.code?, point, Config.commit] using unheld
    · have fresh : (c.thread t).unlogged = [op] := by simp [Thread.unlogged, uncommitted, pending]
      rw [fresh]
      exact ⟨fun code held => (nomatch job.symm.trans held), trivial⟩
    · simpa [Thread.remaining] using (c.thread t).unlogged_append
    · have answered := linear.answered t
      rw [System.due_uncommitted uncommitted, List.append_nil] at answered
      change ownedBy t (replies sys.call (c.logged t) start) = _
      rw [log, replies_append, ownedBy_append, answered, replies, replies, call]
      simp [System.due, ownedBy]

theorem Linear.leave [DecidableEq L] (linear : Linear sys start programs c) {lock : L} {outcome : Outcome A}
    (point : (c.thread t).point = .served lock outcome) :
    Linear sys start programs ((c.complete t outcome .idle).release lock) := by
  cases linear.fits t with
  | running point' | idle point' | stuck point' | serving point' => simp [point, Point.code?] at point'
  | served point' committed =>
    have log : c.logged t = c.log := by simp [Config.logged, Thread.unlogged, committed]
    refine linear.moved t (c.thread t).unlogged rfl (fun u other => Config.thread_complete_other other _ _)
      (fun u _ => Iff.rfl) ?_ ?_ ?_ ?_ ?_ ?_ ?_
    · intro u other
      change Undisturbed sys _ _ (replay sys.call (c.logged t) start) _ _
      rw [log]
      exact linear.at_rest _
    · exact .idle (by simp [Config.release]) (by simp [Config.release])
    · change c.holder = none → c.state = replay sys.call (c.logged t) start ∧ _
      rw [log]
      exact linear.free
    · have unheld := linear.holds t
      simpa [Thread.Holds, Point.code?, point, Config.complete, Config.release] using unheld
    · have logged : (c.thread t).unlogged = [] := by simp [Thread.unlogged, committed]
      rw [logged]
      trivial
    · simpa [Thread.remaining, Config.release] using (c.thread t).unlogged_append
    · have answered := linear.answered t
      rw [System.due_served committed point] at answered
      change ownedBy t (replies sys.call (c.logged t) start) = _
      rw [log, answered]
      simp [System.due, Config.release]

theorem Linear.step [DecidableEq L] (linear : Linear sys start programs c) (move : sys.Move t c after) :
    Linear sys start programs after := by
  cases move with
  | @enter op rest code point pending job free =>
    obtain ⟨state, ready⟩ := linear.free free
    obtain ⟨uncommitted, answered⟩ := linear.idle point
    refine linear.moved t [] (by simp [Config.goTo]) (fun u other => Config.thread_goTo_other other _) ?_
      (fun u other => .inl (linear.unheld (.inl free) other)) ?_ (fun nobody => nomatch nobody) ?_ trivial ?_ ?_
    · intro u other
      simp [free, Ne.symm other]
    · have here : (c.goTo t (.inside code)).thread t = { c.thread t with point := .inside code } := Config.thread_goTo _
      refine .running (by rw [here]; rfl) (.before (by rw [here]; exact uncommitted) (by rw [here]; exact pending) job ?_ ?_)
      · exact state ▸ ready
      · exact state ▸ .none
    · simp [Thread.Holds, Point.code?]
    · simp [Thread.remaining]
    · simpa [System.due_uncommitted, uncommitted, Config.goTo] using answered
  | request point pending job free =>
    obtain ⟨uncommitted, answered⟩ := linear.idle point
    refine linear.moved t [] (by simp [Config.goTo, Config.take]) (fun u other => Config.thread_goTo_other other _)
      (fun u _ => Iff.rfl) (fun u other => linear.at_rest _) ?_ linear.free ?_ trivial ?_ ?_
    · exact .serving (by simp [Config.take]) (by simpa [Config.take] using uncommitted) (by simpa [Config.take] using pending) job
    · have unheld := linear.holds t
      simpa [Thread.Holds, Point.code?, point, Config.take, Config.goTo] using unheld
    · simp [Thread.remaining, Config.take]
    · simpa [System.due_uncommitted, uncommitted, Config.goTo, Config.take] using answered
  | finish point ends ended =>
    obtain ⟨state, ready, answered, orderly, mine⟩ := linear.concluded point ends
    rw [System.leave_over ended] at state
    refine linear.moved t (c.thread t).unlogged rfl (fun u other => Config.thread_complete_other other _ _) ?_
      (fun u other => .inl (linear.unheld (.inr mine) other)) ?_ ?_ ?_ orderly ?_ ?_
    · intro u other
      simp [mine, Ne.symm other]
    · exact .idle (by simp) (by simp)
    · intro _
      refine ⟨state.symm, ?_⟩
      have done := ready ended
      rwa [state] at done
    · simp [Thread.Holds, Point.code?]
    · simpa [Thread.remaining] using (c.thread t).unlogged_append
    · simpa [System.due_uncommitted, Config.complete] using answered
  | block point =>
    obtain ⟨state, -, answered, orderly, mine⟩ := linear.concluded point (fun _ => rfl)
    refine linear.moved t (c.thread t).unlogged rfl (fun u other => Config.thread_complete_other other _ _)
      (fun u _ => Iff.rfl) (fun u other => .inl (linear.unheld (.inr mine) other)) ?_ ?_ ?_ orderly ?_ ?_
    · exact .stuck (by simp) (by simp) state.symm (by simp)
    · intro free
      exact nomatch mine.symm.trans free
    · simp [Thread.Holds, Point.code?, Config.complete, mine]
    · simpa [Thread.remaining] using (c.thread t).unlogged_append
    · simpa [System.due_uncommitted, Config.complete] using answered
  | act point => exact linear.inside (by rw [point]; rfl) rfl rfl rfl rfl System.Underway.act rfl
  | take point needs free => exact linear.inside (by rw [point]; rfl) rfl rfl rfl rfl id rfl
  | lockedAct point => exact linear.inside (by rw [point]; rfl) rfl rfl rfl rfl System.Underway.act rfl
  | @consult lock own next point =>
    have point' : (c.thread t).point.code? = some (.consult own next) := by rw [point]; rfl
    obtain ⟨mine, underway⟩ := linear.underway point'
    obtain ⟨state, ready, answered, orderly⟩ := linear.logged underway point'
    -- the call takes effect here: what it does later no other thread can influence
    have tame : (Code.consult own next).Tame sys.part true := by
      cases underway with
      | before committed pending job ready made => exact made.tame (sys.tame job)
      | after committed tame => exact nomatch tame.1
    refine linear.moved t (c.thread t).unlogged rfl (fun u other => Config.thread_commit_other other _)
      (fun u _ => Iff.rfl) (fun u other => .inl (linear.unheld (.inr mine) other)) ?_ ?_ ?_ orderly ?_ ?_
    · exact .running (by simp; rfl) (.after (by simp) (tame.2 _) state ready)
    · intro free
      exact nomatch mine.symm.trans free
    · simp [Thread.Holds, Point.code?, Config.commit, mine]
    · simpa [Thread.remaining] using (c.thread t).unlogged_append
    · simpa [System.due, Config.commit, Code.ends] using answered
  | release point => exact linear.inside (by rw [point]; rfl) rfl rfl rfl rfl id rfl
  | serve point => exact linear.serve point
  | leave point => exact linear.leave point

/-- No thread is inside a call, but for one that waits for the mutex it holds. -/
def Config.Settled (c : Config T L S X A Op) : Prop :=
  ∀ t, (c.thread t).point = .idle ∨ (c.thread t).point = .stuck

instance (point : Point L S X A) : Decidable (point = .idle ∨ point = .stuck) :=
  match point with
  | .idle => isTrue (.inl rfl)
  | .stuck => isTrue (.inr rfl)
  | .inside _ | .entered _ _ | .leaving _ _ | .serving _ _ | .served _ _ => isFalse nofun

instance [Fintype T] (c : Config T L S X A Op) : Decidable c.Settled :=
  inferInstanceAs (Decidable (∀ t, (c.thread t).point = .idle ∨ (c.thread t).point = .stuck))

theorem Linear.settled (linear : Linear sys start programs c) (settled : c.Settled) :
    c.state = replay sys.call c.log start ∧ ∀ t,
      ownedBy t c.log ++ (c.thread t).pending = programs t ∧
      ownedBy t (replies sys.call c.log start) = (c.thread t).answers := by
  constructor
  · cases holder : c.holder with
    | none => exact (linear.free holder).1
    | some t =>
      have held := (linear.holds t).mp holder
      cases linear.fits t with
      | idle point | serving point | served point => simp [Thread.Holds, point, Point.code?] at held
      | running point => rcases settled t with here | here <;> simp [here, Point.code?] at point
      | stuck point uncommitted same => exact same
  · intro t
    have uncommitted : (c.thread t).committed = false := by
      cases linear.fits t with
      | idle point uncommitted | stuck point uncommitted | serving point uncommitted => exact uncommitted
      | running point | served point => rcases settled t with here | here <;> simp [here, Point.code?] at point
    have order := linear.order t
    have answered := linear.answered t
    rw [System.due_uncommitted uncommitted, List.append_nil] at answered
    rw [Thread.remaining, uncommitted, if_neg (by simp)] at order
    exact ⟨order, answered⟩

/-- The calls of a thread in the log are those answered and at most one more, which is under way. -/
theorem Linear.served (linear : Linear sys start programs c) (t : T) :
    ∃ due : List (Outcome A), due.length ≤ 1 ∧ ((c.thread t).point = .idle → due = []) ∧
      ownedBy t c.log = (programs t).take ((c.thread t).answers.length + due.length) ∧
      ownedBy t (replies sys.call c.log start) = (c.thread t).answers ++ due := by
  have answered := linear.answered t
  have count : (ownedBy t c.log).length = (c.thread t).answers.length + (sys.due c.state (c.thread t)).length := by
    rw [← List.length_append, ← answered, length_ownedBy_replies]
  refine ⟨sys.due c.state (c.thread t), ?_, ?_, ?_, answered⟩
  · unfold System.due
    split
    · split <;> simp
    · simp
  · intro point
    unfold System.due
    simp [point]
  · rw [← count, ← linear.order t, List.take_left]

/-- The last call in the log of a thread that waits for the mutex it holds is one that blocks. -/
theorem Linear.blocked (linear : Linear sys start programs c) {t : T} (point : (c.thread t).point = .stuck) :
    ∃ before op after, c.log = before ++ (t, op) :: after ∧ ownedBy t after = [] ∧
      (sys.call op (replay sys.call before start)).1 = .blocked ∧
      ∀ code, sys.job op = .held code → sys.ready (replay sys.call before start) := by
  cases linear.fits t with
  | idle point' | running point' | serving point' | served point' => simp [point, Point.code?] at point'
  | stuck _ uncommitted same waits =>
    have answered := linear.answered t
    rw [System.due_uncommitted uncommitted, List.append_nil] at answered
    rw [← answered] at waits
    obtain ⟨before, op, after, log, last, blocks⟩ := last_reply waits
    have orderly := linear.orderly
    rw [log, System.orderly_append] at orderly
    exact ⟨before, op, after, log, last, blocks, orderly.2.1⟩

/-- Every schedule agrees with its log. -/
theorem System.run_linear [DecidableEq L] (sys : System L S X A Op) (ready : sys.ready start) (schedule : List T) :
    Linear sys start programs (sys.run schedule (.start start programs)) := by
  have keeps (schedule : List T) (c : Config T L S X A Op) (linear : Linear sys start programs c) :
      Linear sys start programs (sys.run schedule c) := by
    induction schedule generalizing c with
    | nil => exact linear
    | cons t rest ih =>
      exact ih _ (taken_keeps (Linear sys start programs) linear fun after steps => linear.step (step_moves steps))
  exact keeps schedule _ (.initial ready)

end

end Aegis.Library
