import Aegis.Ebpf.Reader

/-! No use of a ring buffer that is gone, and no race on it, in any orderly life of a reader. -/

set_option autoImplicit false

namespace Aegis.Ebpf.Reader
open Library Polling

/-- Between its lock and its unlock. -/
def InitPc.Inside : InitPc → Prop
  | .assign _ | .create _ | .unlock => True
  | _ => False

theorem InitPc.Writing.inside {pc : InitPc} (writes : pc.Writing) : pc.Inside := by
  cases pc with
  | assign callback | create callback => trivial
  | idle | lock callback | unlock => exact writes.elim

/-- The fields are written only by the `init` that holds the mutex, while nothing polls. Once the destruction has
begun, the one caller left is its own. -/
structure Invariant (s : State) : Prop where
  ordered : Ordered s.polling
  holder : ∀ caller, (s.inits caller).Inside → s.holder = some caller
  exclusive : s.holder ≠ none → s.polling.mutex = none
  quiet : ∀ caller, (s.inits caller).Writing → s.polling.running = ∅ ∧ ∀ other, s.polls other = .out
  inside : ∀ loop, s.loops loop ≠ .out → loop ∈ s.polling.running
  looped : ∀ loop ring, s.loops loop = .waits ring → s.ringBuf = some ring
  polled : ∀ caller ring, s.polls caller = .waits ring → s.ringBuf = some ring
  newest : ∀ ring, s.ringBuf = some ring → ring + 1 = s.created
  assigned : ∀ caller callback, s.inits caller = .create callback → s.userCallback = some callback
  callback : ∀ ring, s.ringBuf = some ring → (∀ caller, ¬ (s.inits caller).Writing) →
    s.userCallback = some (s.registered ring)
  opened : ∀ ring, ring ∈ s.opened ↔ ring < s.created ∧ s.released ≠ some ring
  released : ∀ ring, s.released = some ring → ring + 1 = s.created ∧ (s.destruction = .freed ∨ s.destruction = .gone)
  calls : s.destruction ≠ .alive → (∀ caller, s.inits caller = .idle) ∧ (∀ caller, s.polls caller = .out) ∧
    ∀ caller, s.polling.callers caller ≠ .idle → s.destruction = .stopping caller ∧ Stopping (s.polling.callers caller)
  flag : ∀ caller, s.destruction = .stopping caller → s.polling.callers caller ≠ .stopExchange →
    s.polling.isPolling = false
  ended : s.destruction = .freed ∨ s.destruction = .gone → s.polling.pollingThread = none ∧ s.ringBuf = none
  outside : ∀ caller, Stopping (s.polling.callers caller) → s.polling.callers caller = .idle ∨ loopOf caller = none

section
variable {s t : State}

theorem State.not_alive_of_ended (ended : s.destruction = .freed ∨ s.destruction = .gone) : s.destruction ≠ .alive := by
  rcases ended with freed | gone
  · simp [freed]
  · simp [gone]

/-- Without a caller a loop is the one of the thread object. -/
theorem Ordered.still {p : Polling.State} (ordered : Ordered p) (joined : p.pollingThread = none)
    (idle : ∀ caller, p.callers caller = .idle) : p.running = ∅ := by
  refine Finset.eq_empty_of_forall_notMem fun loop runs => ?_
  rcases ordered.invariant.loops loop runs with held | assigns
  · exact nomatch joined.symm.trans held
  · unfold Polling.State.starter at assigns
    split at assigns
    · exact nomatch (idle _).symm.trans assigns
    · exact nomatch assigns

theorem Invariant.idle (inv : Invariant s) (ended : s.destruction = .freed ∨ s.destruction = .gone) (caller : Nat) :
    s.polling.callers caller = .idle := by
  by_contra busy
  have stopping := ((inv.calls (State.not_alive_of_ended ended)).2.2 caller busy).1
  rw [stopping] at ended
  exact nomatch ended

theorem Invariant.unpolled (inv : Invariant s) (still : s.polling.running = ∅)
    (polls : ∀ caller, s.polls caller = .out) : s.Unpolled := by
  refine ⟨fun loop => ?_, polls⟩
  by_contra busy
  have runs := inv.inside loop busy
  rw [still] at runs
  exact absurd runs (Finset.notMem_empty _)

theorem Invariant.safe (inv : Invariant s) : Safe s where
  polling := inv.ordered.invariant.safe
  written caller writes := by
    obtain ⟨still, polls⟩ := inv.quiet caller writes
    exact ⟨inv.exclusive (by simp [inv.holder caller writes.inside]), inv.unpolled still polls⟩
  polled thread ring waits := by
    have current : s.ringBuf = some ring := waits.elim (inv.looped thread ring) (inv.polled thread ring)
    have unwritten (caller : Nat) : ¬ (s.inits caller).Writing := by
      intro writes
      obtain ⟨still, polls⟩ := inv.quiet caller writes
      have out := inv.unpolled still polls
      rcases waits with loop | call
      · exact nomatch (out.1 thread).symm.trans loop
      · exact nomatch (out.2 thread).symm.trans call
    have newest := inv.newest ring current
    refine ⟨(inv.opened ring).mpr ⟨by omega, fun released => ?_⟩, inv.callback ring current unwritten⟩
    exact nomatch (inv.ended (inv.released ring released).2).2.symm.trans current
  opened := inv.opened
  released ring released := (inv.released ring released).1
  ended ended := by
    have still := inv.ordered.still (inv.ended ended).1 (inv.idle ended)
    have polls := (inv.calls (State.not_alive_of_ended ended)).2.1
    exact ⟨still, (inv.ended ended).1, inv.unpolled still polls⟩

/-! The steps. -/

theorem Invariant.repolled (inv : Invariant s) {p : Polling.State} (ordered : Ordered p)
    (mutex : p.mutex ≠ none → s.holder = none)
    (running : ∀ loop ∈ s.polling.running, s.loops loop ≠ .out → loop ∈ p.running)
    (spawns : s.holder ≠ none → p.running ⊆ s.polling.running)
    (calls : s.destruction ≠ .alive → ∀ caller, p.callers caller ≠ .idle →
      s.destruction = .stopping caller ∧ Stopping (p.callers caller))
    (flag : ∀ caller, s.destruction = .stopping caller → p.callers caller ≠ .stopExchange → p.isPolling = false)
    (ended : s.destruction = .freed ∨ s.destruction = .gone → p.pollingThread = none)
    (outside : ∀ caller, Stopping (p.callers caller) → p.callers caller = .idle ∨ loopOf caller = none) :
    Invariant { s with polling := p } where
  ordered := ordered
  holder := inv.holder
  exclusive held := by
    by_contra locked
    exact held (mutex locked)
  quiet caller writes := by
    obtain ⟨still, polls⟩ := inv.quiet caller writes
    refine ⟨?_, polls⟩
    have fewer := spawns (by simp [inv.holder caller writes.inside])
    rw [still] at fewer
    exact Finset.subset_empty.mp fewer
  inside loop busy := running loop (inv.inside loop busy) busy
  looped := inv.looped
  polled := inv.polled
  newest := inv.newest
  assigned := inv.assigned
  callback := inv.callback
  opened := inv.opened
  released := inv.released
  calls dead := ⟨(inv.calls dead).1, (inv.calls dead).2.1, calls dead⟩
  flag := flag
  ended done := ⟨ended done, (inv.ended done).2⟩
  outside := outside

theorem Invariant.unheld (inv : Invariant s) (locked : s.polling.mutex ≠ none) : s.holder = none :=
  by_contra fun held => locked (inv.exclusive held)

/-- Before the destruction a caller may go on as long as the polling stays in order. -/
theorem Invariant.goto (inv : Invariant s) (alive : s.destruction = .alive) {caller : Nat} {pc : Pc}
    (ordered : Ordered (s.polling.goto caller pc)) (outside : Stopping pc → loopOf caller = none) :
    Invariant { s with polling := s.polling.goto caller pc } := by
  refine inv.repolled ordered inv.unheld (fun _ runs _ => runs) (fun _ => subset_rfl) (fun dead => absurd alive dead)
    (fun _ stopping => ?_) (fun ended => ?_) fun other place => ?_
  · exact nomatch alive.symm.trans stopping
  · exact absurd alive (State.not_alive_of_ended ended)
  · by_cases same : other = caller
    · subst same
      exact .inr (outside (by simpa [Polling.State.goto] using place))
    · simp only [Polling.State.goto, same, if_false] at place ⊢
      exact inv.outside other place

theorem Invariant.begin (inv : Invariant s) (alive : s.destruction = .alive) {caller : Nat}
    (here : s.polling.callers caller = .idle) {pc : Pc} (begins : pc = .startLock ∨ pc = .stopExchange)
    (outside : Stopping pc → loopOf caller = none) : Invariant { s with polling := s.polling.goto caller pc } :=
  inv.goto alive (ordered_begin inv.ordered here begins) outside

/-- An operation of `start_polling` or `stop_polling`. -/
theorem Invariant.advance (inv : Invariant s) {caller : Nat}
    (starts : s.polling.callers caller = .startStore → s.polling.pollingThread = none)
    (stops : s.polling.callers caller = .stopExchange → ¬ s.polling.starter.Midway)
    (unlocked : s.polling.callers caller = .startLock → s.holder = none) {p : Polling.State}
    (moves : Polling.advance caller s.polling = some p) : Invariant { s with polling := p } := by
  have effect := advance_effect inv.ordered stops moves
  have busy : s.polling.callers caller ≠ .idle := by
    intro idle
    simp [Polling.advance, idle] at moves
  refine inv.repolled (ordered_advance inv.ordered starts stops moves) (fun locked => ?_)
    (fun loop runs _ => effect.running runs) (fun held => ?_) (fun dead other busy' => ?_)
    (fun other stopping left => ?_) (fun ended => ?_) fun other place => ?_
  · exact (effect.mutex locked).elim inv.unheld unlocked
  · rw [effect.spawns (inv.exclusive held)]
  · obtain ⟨own, place⟩ := (inv.calls dead).2.2 caller busy
    by_cases same : other = caller
    · subst same
      exact ⟨own, (effect.stops place).1⟩
    · rw [effect.others other same] at busy' ⊢
      exact (inv.calls dead).2.2 other busy'
  · -- the caller that moves is the one the destruction waits for
    have dead : s.destruction ≠ .alive := by simp [stopping]
    obtain ⟨own, place⟩ := (inv.calls dead).2.2 caller busy
    cases own.symm.trans stopping
    refine (effect.stops place).2 ?_
    by_cases first : s.polling.callers caller = .stopExchange
    · exact .inl first
    · exact .inr (inv.flag caller stopping first)
  · exact absurd (inv.idle ended caller) busy
  · by_cases same : other = caller
    · subst same
      refine (effect.stays place).imp id fun before => ?_
      exact (inv.outside other before.1).resolve_left before.2
    · rw [effect.others other same] at place ⊢
      exact inv.outside other place

/-- A start that finds no ring buffer. -/
theorem Invariant.turnedAway (inv : Invariant s) {caller : Nat} (here : s.polling.callers caller = .startLoad) :
    Invariant { s with polling := s.polling.goto caller .startUnlock } := by
  have ordered : Ordered (s.polling.goto caller .startUnlock) :=
    ordered_goto inv.ordered (by simp [here, Pc.Inside]) (by simp [here, Pc.Midway]) (by simp [here, Pc.Pending]) nofun
  have alive : s.destruction = .alive := by
    by_contra dead
    have place := ((inv.calls dead).2.2 caller (by simp [here])).2
    rw [here] at place
    exact place
  exact inv.goto alive ordered False.elim

/-- A loop moves on in its poll. -/
theorem Invariant.looping (inv : Invariant s) {loop : Nat} {pc : PollPc} (runs : pc ≠ .out → loop ∈ s.polling.running)
    (current : ∀ ring, pc = .waits ring → s.ringBuf = some ring) :
    Invariant { s with loops := Function.update s.loops loop pc } := by
  refine { inv with inside := fun other busy => ?_, looped := fun other ring waits => ?_ }
  · by_cases same : other = loop
    · subst same
      exact runs (by simpa using busy)
    · exact inv.inside other (by simpa [same] using busy)
  · by_cases same : other = loop
    · subst same
      exact current ring (by simpa using waits)
    · exact inv.looped other ring (by simpa [same] using waits)

/-- A caller of `poll` moves on. -/
theorem Invariant.polling_on (inv : Invariant s) {caller : Nat} {pc : PollPc}
    (may : pc ≠ .out → s.destruction = .alive ∧ ∀ other, ¬ (s.inits other).Writing)
    (current : ∀ ring, pc = .waits ring → s.ringBuf = some ring) :
    Invariant { s with polls := Function.update s.polls caller pc } := by
  have out (leaves : pc = .out) (polls : ∀ other, s.polls other = .out) (other : Nat) :
      Function.update s.polls caller pc other = .out := by
    by_cases same : other = caller
    · subst same
      rw [Function.update_self, leaves]
    · rw [Function.update_of_ne same, polls]
  refine { inv with quiet := fun other writes => ?_, polled := fun other ring waits => ?_, calls := fun dead => ?_ }
  · obtain ⟨still, polls⟩ := inv.quiet other writes
    have leaves : pc = .out := by_contra fun stays => (may stays).2 other writes
    exact ⟨still, out leaves polls⟩
  · by_cases same : other = caller
    · subst same
      exact current ring (by simpa using waits)
    · exact inv.polled other ring (by simpa [same] using waits)
  · obtain ⟨inits, polls, callers⟩ := inv.calls dead
    have leaves : pc = .out := by_contra fun stays => dead (may stays).1
    exact ⟨inits, out leaves polls, callers⟩

/-- A loop goes round again or leaves. -/
theorem Invariant.loopHead (inv : Invariant s) {loop : Nat} (out : s.loops loop = .out) {p : Polling.State}
    (moves : Polling.step (.loopHead loop) s.polling = some p) :
    Invariant { s with
      polling := p
      loops := if s.polling.isPolling then Function.update s.loops loop .load else s.loops } := by
  have ordered := ordered_loopHead inv.ordered moves
  simp only [Polling.step, Option.ite_none_left_eq_some, Option.ite_none_right_eq_some, Option.some.injEq] at moves
  obtain ⟨-, runs, rfl⟩ := moves
  by_cases on : s.polling.isPolling = true
  · simp only [on, if_true]
    exact inv.looping (fun _ => runs) (by simp)
  · simp only [if_neg on] at ordered ⊢
    refine inv.repolled ordered inv.unheld (fun other there busy => ?_) (fun _ => Finset.erase_subset _ _)
      (fun dead => (inv.calls dead).2.2) inv.flag (fun ended => (inv.ended ended).1) inv.outside
    refine Finset.mem_erase.mpr ⟨?_, there⟩
    rintro rfl
    exact busy out

theorem Invariant.call (inv : Invariant s) {action : Polling.Action} (orderly : Orderly (.call action) s)
    (moves : s.call action = some t) : Invariant t := by
  cases action with
  | startPolling caller =>
    simp only [State.call, Option.ite_none_right_eq_some] at moves
    obtain ⟨p, stepped, rfl⟩ := Option.map_eq_some_iff.mp moves.2
    simp only [Polling.step, Option.ite_none_left_eq_some, Option.ite_none_right_eq_some, Option.some.injEq] at stepped
    obtain ⟨-, here, rfl⟩ := stepped
    exact inv.begin orderly here (.inl rfl) False.elim
  | stopPolling caller =>
    simp only [State.call, Option.ite_none_right_eq_some] at moves
    obtain ⟨p, stepped, rfl⟩ := Option.map_eq_some_iff.mp moves.2
    simp only [Polling.step, Option.ite_none_left_eq_some, Option.ite_none_right_eq_some, Option.some.injEq] at stepped
    obtain ⟨-, here, rfl⟩ := stepped
    exact inv.begin orderly.1 here (.inr rfl) fun _ => orderly.2
  | advance caller =>
    -- who joins the polling thread is not on it
    have apart : ¬ (s.polling.callers caller = .stopJoin ∧ s.polling.pollingThread ≠ none ∧
        s.polling.pollingThread = loopOf caller) := by
      rintro ⟨here, held, own⟩
      have outside := (inv.outside caller (by rw [here]; trivial)).resolve_left (by simp [here])
      exact held (own.trans outside)
    simp only [State.call, if_neg apart, Option.ite_none_left_eq_some] at moves
    obtain ⟨unlocked, goes⟩ := moves
    by_cases away : s.polling.callers caller = .startLoad ∧ s.ringBuf = none
    · rw [if_pos away, Option.some.injEq] at goes
      exact goes ▸ inv.turnedAway away.1
    · rw [if_neg away] at goes
      obtain ⟨p, stepped, rfl⟩ := Option.map_eq_some_iff.mp goes
      simp only [Polling.step, Option.ite_none_left_eq_some] at stepped
      refine inv.advance orderly.1 orderly.2 (fun here => ?_) stepped.2
      exact by_contra fun held => unlocked ⟨here, held⟩
  | loopHead loop =>
    simp only [State.call, Option.ite_none_right_eq_some] at moves
    obtain ⟨out, goes⟩ := moves
    obtain ⟨p, stepped, rfl⟩ := Option.map_eq_some_iff.mp goes
    exact inv.loopHead out stepped

/-- What a poll finds is the ring buffer of the moment. -/
theorem pollNext_cases {pc next : PollPc} (moves : s.pollNext pc = some next) :
    (next ≠ .out → pc ≠ .out) ∧ ∀ ring, next = .waits ring → s.ringBuf = some ring := by
  cases pc with
  | out => cases moves
  | waits ring =>
    cases moves
    exact ⟨nofun, nofun⟩
  | load =>
    cases current : s.ringBuf with
    | none =>
      simp only [State.pollNext, current, Option.some.injEq] at moves
      subst moves
      exact ⟨nofun, nofun⟩
    | some ring =>
      simp only [State.pollNext, current, Option.some.injEq] at moves
      subst moves
      refine ⟨nofun, fun other same => ?_⟩
      cases same
      rfl

theorem Invariant.poll (inv : Invariant s) (alive : s.destruction = .alive) (unheld : s.holder = none) (caller : Nat) :
    Invariant { s with polls := Function.update s.polls caller .load } := by
  refine inv.polling_on (fun _ => ⟨alive, fun other writes => ?_⟩) nofun
  exact nomatch unheld.symm.trans (inv.holder other writes.inside)

theorem Invariant.pollNext (inv : Invariant s) {caller : Nat} {pc : PollPc}
    (moves : s.pollNext (s.polls caller) = some pc) :
    Invariant { s with polls := Function.update s.polls caller pc } := by
  obtain ⟨stays, current⟩ := pollNext_cases moves
  refine inv.polling_on (fun busy => ⟨?_, fun other writes => ?_⟩) current
  · by_contra dead
    exact stays busy ((inv.calls dead).2.1 caller)
  · exact stays busy ((inv.quiet other writes).2 caller)

/-! Setting up. -/

theorem Invariant.alone (inv : Invariant s) {caller : Nat} (inside : (s.inits caller).Inside) :
    ∀ other, other ≠ caller → ¬ (s.inits other).Inside := by
  intro other different there
  exact different (Option.some.inj ((inv.holder other there).symm.trans (inv.holder caller inside)))

/-- There are calls of `init` only before the destruction. -/
theorem Invariant.alive (inv : Invariant s) {caller : Nat} (busy : s.inits caller ≠ .idle) :
    s.destruction = .alive := by_contra fun dead => busy ((inv.calls dead).1 caller)

theorem Invariant.unreleased (inv : Invariant s) (before : ¬ (s.destruction = .freed ∨ s.destruction = .gone)) :
    s.released = none := by
  by_contra held
  obtain ⟨ring, freed⟩ := Option.ne_none_iff_exists'.mp held
  exact before (inv.released ring freed).2

theorem Invariant.mem_opened (inv : Invariant s) (alive : s.destruction = .alive) (ring : Nat) :
    ring ∈ s.opened ↔ ring < s.created := by
  rw [inv.opened, inv.unreleased (by simp [alive])]
  simp

/-- An `init` goes on and sets what belongs to it. -/
theorem Invariant.initialising (inv : Invariant s) (alive : s.destruction = .alive) {caller : Nat} {pc : InitPc}
    (inits : t.inits = Function.update s.inits caller pc) (polling : t.polling = s.polling) (loops : t.loops = s.loops)
    (polls : t.polls = s.polls) (destruction : t.destruction = s.destruction) (released : t.released = s.released)
    (holder : pc.Inside → t.holder = some caller)
    (others : ∀ other, other ≠ caller → (s.inits other).Inside → t.holder = some other)
    (exclusive : t.holder ≠ none → s.polling.mutex = none)
    (quiet : pc.Writing → s.polling.running = ∅ ∧ ∀ other, s.polls other = .out)
    (ringBuf : t.ringBuf = s.ringBuf ∨ s.Unpolled) (newest : ∀ ring, t.ringBuf = some ring → ring + 1 = t.created)
    (assigned : ∀ callback, pc = .create callback → t.userCallback = some callback)
    (kept : ∀ other, other ≠ caller → (s.inits other).Writing → t.userCallback = s.userCallback)
    (callback : ∀ ring, t.ringBuf = some ring → ¬ pc.Writing → (∀ other, other ≠ caller → ¬ (s.inits other).Writing) →
      t.userCallback = some (t.registered ring))
    (opened : ∀ ring, ring ∈ t.opened ↔ ring < t.created) : Invariant t := by
  have unreleased := inv.unreleased (by simp [alive])
  -- one goal for each field, in their order: what is set is rewritten, the rest is as before
  constructor
  · rw [polling]
    exact inv.ordered
  · rw [inits]
    exact (Function.forall_update_iff s.inits fun other pc => pc.Inside → t.holder = some other).mpr ⟨holder, others⟩
  · rwa [polling]
  · rw [inits, polling, polls]
    exact (Function.forall_update_iff s.inits fun _ pc =>
      pc.Writing → s.polling.running = ∅ ∧ ∀ other, s.polls other = .out).mpr ⟨quiet, fun other _ => inv.quiet other⟩
  · rw [loops, polling]
    exact inv.inside
  · rw [loops]
    intro loop ring waits
    rcases ringBuf with same | out
    · rw [same]
      exact inv.looped loop ring waits
    · exact nomatch (out.1 loop).symm.trans waits
  · rw [polls]
    intro other ring waits
    rcases ringBuf with same | out
    · rw [same]
      exact inv.polled other ring waits
    · exact nomatch (out.2 other).symm.trans waits
  · exact newest
  · rw [inits]
    refine (Function.forall_update_iff s.inits fun _ pc =>
      ∀ callback, pc = .create callback → t.userCallback = some callback).mpr
        ⟨assigned, fun other apart callback here => ?_⟩
    rw [kept other apart (by rw [here]; trivial)]
    exact inv.assigned other callback here
  · rw [inits]
    intro ring current idle
    have all := (Function.forall_update_iff s.inits fun _ pc => ¬ pc.Writing).mp idle
    exact callback ring current all.1 all.2
  · intro ring
    rw [released, unreleased, opened ring]
    simp
  · intro ring freed
    exact nomatch unreleased.symm.trans (released.symm.trans freed)
  · intro dead
    exact absurd (destruction.trans alive) dead
  · intro other stopping
    exact nomatch alive.symm.trans (destruction.symm.trans stopping)
  · intro ended
    simp [destruction, alive] at ended
  · rw [polling]
    exact inv.outside

/-- While nobody writes, the callback is the one that was registered with the ring buffer. -/
theorem Invariant.settled (inv : Invariant s) {caller ring : Nat} (own : ¬ (s.inits caller).Writing)
    (current : s.ringBuf = some ring) (others : ∀ other, other ≠ caller → ¬ (s.inits other).Writing) :
    s.userCallback = some (s.registered ring) := by
  refine inv.callback ring current fun other => ?_
  by_cases same : other = caller
  · rwa [same]
  · exact others other same

theorem Invariant.init (inv : Invariant s) (alive : s.destruction = .alive) {caller : Nat}
    (here : s.inits caller = .idle) (callback : Option Nat) : Invariant (s.gotoInit caller (.lock callback)) := by
  have own : ¬ (s.inits caller).Writing := by rw [here]; exact id
  exact inv.initialising alive rfl rfl rfl rfl rfl rfl nofun (fun other _ => inv.holder other) inv.exclusive nofun
    (.inl rfl) inv.newest nofun (fun _ _ _ => rfl) (fun _ current _ others => inv.settled own current others)
    (inv.mem_opened alive)

/-- With the mutex an `init` goes to its writing or to its end, and it is the only one inside. -/
theorem Invariant.locked (inv : Invariant s) (alive : s.destruction = .alive) {caller : Nat} (unheld : s.holder = none)
    (unlocked : s.polling.mutex = none) {pc : InitPc} (next : ∀ callback, pc ≠ .create callback)
    (quiet : pc.Writing → s.polling.running = ∅ ∧ ∀ other, s.polls other = .out) :
    Invariant { s.gotoInit caller pc with holder := some caller } := by
  have empty (other : Nat) : ¬ (s.inits other).Inside := by
    intro inside
    exact nomatch unheld.symm.trans (inv.holder other inside)
  exact inv.initialising alive rfl rfl rfl rfl rfl rfl (fun _ => rfl)
    (fun other _ inside => absurd inside (empty other)) (fun _ => unlocked) quiet (.inl rfl) inv.newest
    (fun callback same => absurd same (next callback)) (fun _ _ _ => rfl)
    (fun ring current _ _ => inv.callback ring current fun other writes => empty other writes.inside)
    (inv.mem_opened alive)

theorem Invariant.assigns (inv : Invariant s) {caller callback : Nat} (here : s.inits caller = .assign callback) :
    Invariant { s.gotoInit caller (.create callback) with userCallback := some callback } := by
  have alive := inv.alive (by simp [here] : s.inits caller ≠ .idle)
  have writes : (s.inits caller).Writing := by rw [here]; trivial
  have alone := inv.alone writes.inside
  refine inv.initialising alive rfl rfl rfl rfl rfl rfl (fun _ => inv.holder caller writes.inside)
    (fun other apart inside => absurd inside (alone other apart)) inv.exclusive (fun _ => inv.quiet caller writes)
    (.inl rfl) inv.newest (fun _ same => ?_) (fun other apart there => absurd there.inside (alone other apart))
    (fun _ _ ended => absurd trivial ended) (inv.mem_opened alive)
  cases same
  rfl

/-- The ring buffer is replaced while nothing waits on the old one. -/
theorem Invariant.creates (inv : Invariant s) {caller callback : Nat} (here : s.inits caller = .create callback)
    (inits : t.inits = Function.update s.inits caller .unlock) (polling : t.polling = s.polling)
    (loops : t.loops = s.loops) (polls : t.polls = s.polls) (destruction : t.destruction = s.destruction)
    (released : t.released = s.released) (holder : t.holder = s.holder) (kept : t.userCallback = s.userCallback)
    (newest : ∀ ring, t.ringBuf = some ring → ring + 1 = t.created)
    (registered : ∀ ring, t.ringBuf = some ring → t.registered ring = callback)
    (opened : ∀ ring, ring ∈ t.opened ↔ ring < t.created) : Invariant t := by
  have writes : (s.inits caller).Writing := by rw [here]; trivial
  have alone := inv.alone writes.inside
  obtain ⟨still, out⟩ := inv.quiet caller writes
  have alive := inv.alive (by simp [here] : s.inits caller ≠ .idle)
  refine inv.initialising alive inits polling loops polls destruction released
    (fun _ => holder.trans (inv.holder caller writes.inside))
    (fun other apart inside => absurd inside (alone other apart)) (by rw [holder]; exact inv.exclusive) nofun
    (.inr (inv.unpolled still out)) newest nofun (fun _ _ _ => kept) (fun ring current _ _ => ?_) opened
  rw [kept, registered ring current]
  exact inv.assigned caller callback here

theorem Invariant.unlocks (inv : Invariant s) {caller : Nat} (here : s.inits caller = .unlock) :
    Invariant { s.gotoInit caller .idle with holder := none } := by
  have alive := inv.alive (by simp [here] : s.inits caller ≠ .idle)
  have alone := inv.alone (by rw [here]; trivial : (s.inits caller).Inside)
  have own : ¬ (s.inits caller).Writing := by rw [here]; exact id
  exact inv.initialising alive rfl rfl rfl rfl rfl rfl nofun
    (fun other apart inside => absurd inside (alone other apart)) (fun held => absurd rfl held) nofun (.inl rfl)
    inv.newest nofun (fun _ _ _ => rfl) (fun _ current _ others => inv.settled own current others)
    (inv.mem_opened alive)

theorem Invariant.initNext (inv : Invariant s) {caller : Nat} {succeeds : Bool}
    (orderly : Orderly (.initNext caller succeeds) s) (moves : s.initNext caller succeeds = some t) : Invariant t := by
  unfold State.initNext at moves
  cases here : s.inits caller with
  | idle => simp [here] at moves
  | lock callback =>
    simp only [here, Option.ite_none_right_eq_some, Option.some.injEq] at moves
    obtain ⟨⟨unheld, unlocked⟩, rfl⟩ := moves
    have alive := inv.alive (by simp [here] : s.inits caller ≠ .idle)
    cases callback with
    | some callback => exact inv.locked alive unheld unlocked (by simp) fun _ => orderly callback here
    | none => exact inv.locked alive unheld unlocked (by simp) False.elim
  | assign callback =>
    simp only [here, Option.some.injEq] at moves
    exact moves ▸ inv.assigns here
  | create callback =>
    have opened := inv.mem_opened (inv.alive (by simp [here] : s.inits caller ≠ .idle))
    cases succeeds with
    | true =>
      simp only [here, if_true, Option.some.injEq] at moves
      subst moves
      refine inv.creates here rfl rfl rfl rfl rfl rfl rfl rfl (fun ring same => ?_) (fun ring same => ?_) fun ring => ?_
      · cases same
        rfl
      · cases same
        exact Function.update_self _ _ _
      · show ring ∈ insert s.created s.opened ↔ ring < s.created + 1
        rw [Finset.mem_insert, opened]
        omega
    | false =>
      -- a failure leaves no ring buffer, also where there was one
      simp only [here, Bool.false_eq_true, if_false, Option.some.injEq] at moves
      subst moves
      exact inv.creates here rfl rfl rfl rfl rfl rfl rfl rfl nofun nofun opened
  | unlock =>
    simp only [here, Option.some.injEq] at moves
    exact moves ▸ inv.unlocks here

/-! Tearing down. -/

theorem Invariant.destroy (inv : Invariant s) {caller : Nat} (alive : s.destruction = .alive)
    (outside : loopOf caller = none) (callers : ∀ other, s.polling.callers other = .idle) (inits : ∀ other, s.inits other = .idle)
    (polls : ∀ other, s.polls other = .out) :
    Invariant { s with destruction := .stopping caller, polling := s.polling.goto caller .stopExchange } := by
  have begun := inv.begin alive (callers caller) (.inr rfl) fun _ => outside
  refine { begun with
    released := fun ring freed => ?_
    calls := fun _ => ⟨inits, polls, fun other busy => ?_⟩
    flag := fun other stopping left => ?_
    ended := nofun }
  · exact nomatch (inv.unreleased (by simp [alive])).symm.trans freed
  · by_cases own : other = caller
    · subst own
      simp [Polling.State.goto, Stopping]
    · simp [Polling.State.goto, own, callers] at busy
  · cases stopping
    simp [Polling.State.goto] at left

/-- The stop of the destructor has left no thread to be joined. -/
theorem Invariant.stopped (inv : Invariant s) {caller : Nat} (stopping : s.destruction = .stopping caller)
    (idle : s.polling.callers caller = .idle) : s.polling.pollingThread = none := by
  have dead : s.destruction ≠ .alive := by simp [stopping]
  by_contra held
  rcases inv.ordered.joined held with on | ⟨other, pending⟩
  · exact nomatch on.symm.trans (inv.flag caller stopping (by simp [idle]))
  · by_cases own : other = caller
    · subst own
      rw [idle] at pending
      exact pending
    · have busy : s.polling.callers other ≠ .idle := by
        intro there
        rw [there] at pending
        exact pending
      cases stopping.symm.trans ((inv.calls dead).2.2 other busy).1
      exact own rfl

theorem Invariant.free (inv : Invariant s) {caller : Nat} (stopping : s.destruction = .stopping caller)
    (idle : s.polling.callers caller = .idle) :
    Invariant { s with
      destruction := .freed
      ringBuf := none
      released := s.ringBuf
      opened := match s.ringBuf with
        | some ring => s.opened.erase ring
        | none => s.opened } := by
  have dead : s.destruction ≠ .alive := by simp [stopping]
  obtain ⟨inits, polls, callers⟩ := inv.calls dead
  have joined := inv.stopped stopping idle
  -- the ring may go: the thread is joined, so no loop and no call waits on it
  have everyone (other : Nat) : s.polling.callers other = .idle := by
    by_contra busy
    cases stopping.symm.trans (callers other busy).1
    exact busy idle
  have out := inv.unpolled (inv.ordered.still joined everyone) polls
  have unreleased := inv.unreleased (by simp [stopping])
  refine { inv with
    looped := fun loop ring waits => nomatch (out.1 loop).symm.trans waits
    polled := fun other ring waits => nomatch (out.2 other).symm.trans waits
    newest := nofun
    callback := nofun
    opened := fun ring => ?_
    released := fun ring freed => ⟨inv.newest ring freed, .inl rfl⟩
    calls := fun _ => ⟨inits, polls, fun other busy => absurd (everyone other) busy⟩
    flag := nofun
    ended := fun _ => ⟨joined, rfl⟩ }
  have before := inv.opened ring
  rw [unreleased] at before
  cases current : s.ringBuf with
  | none => simpa using before
  | some last =>
    simp only [Finset.mem_erase, before, ne_eq, Option.some.injEq]
    grind

theorem Invariant.drop (inv : Invariant s) (freed : s.destruction = .freed) :
    Invariant { s with
      destruction := .gone
      polling := { s.polling with terminated := s.polling.pollingThread.isSome } } := by
  have dead : s.destruction ≠ .alive := by simp [freed]
  obtain ⟨joined, unset⟩ := inv.ended (.inl freed)
  -- the destructor of a thread object that is not joinable does nothing
  have same : { s.polling with terminated := s.polling.pollingThread.isSome } = s.polling := by
    rw [joined, Option.isSome_none, ← inv.ordered.invariant.terminated]
  rw [same]
  refine { inv with
    released := fun ring released => ⟨(inv.released ring released).1, .inr rfl⟩
    calls := fun _ => ⟨(inv.calls dead).1, (inv.calls dead).2.1, fun other busy => ?_⟩
    flag := nofun
    ended := fun _ => ⟨joined, unset⟩ }
  exact absurd (inv.idle (.inl freed) other) busy

theorem step_keeps_invariant (inv : Invariant s) {action : Action} (orderly : Orderly action s)
    (moves : step action s = some t) : Invariant t := by
  simp only [step, Option.ite_none_left_eq_some] at moves
  obtain ⟨-, goes⟩ := moves
  cases action with
  | call action => exact inv.call orderly goes
  | loopNext loop =>
    simp only [Option.ite_none_right_eq_some] at goes
    obtain ⟨pc, moves, rfl⟩ := Option.map_eq_some_iff.mp goes.2
    obtain ⟨stays, current⟩ := pollNext_cases moves
    exact inv.looping (fun busy => inv.inside loop (stays busy)) current
  | init caller callback =>
    simp only [Option.ite_none_right_eq_some, Option.some.injEq] at goes
    exact goes.2 ▸ inv.init orderly goes.1.1 callback
  | initNext caller succeeds => exact inv.initNext orderly goes
  | poll caller =>
    simp only [Option.ite_none_right_eq_some, Option.some.injEq] at goes
    exact goes.2 ▸ inv.poll orderly.1 orderly.2 caller
  | pollNext caller =>
    obtain ⟨pc, moves, rfl⟩ := Option.map_eq_some_iff.mp goes
    exact inv.pollNext moves
  | destroy caller =>
    simp only [Option.ite_none_right_eq_some, Option.some.injEq] at goes
    exact goes.2 ▸ inv.destroy goes.1.1 orderly.1 orderly.2.1 orderly.2.2.1 orderly.2.2.2
  | free =>
    cases phase : s.destruction with
    | stopping caller =>
      simp only [phase, Option.ite_none_right_eq_some, Option.some.injEq] at goes
      exact goes.2 ▸ inv.free phase goes.1
    | alive | freed | gone => simp [phase] at goes
  | drop =>
    cases phase : s.destruction with
    | freed =>
      simp only [phase, Option.some.injEq] at goes
      exact goes ▸ inv.drop phase
    | alive | stopping caller | gone => simp [phase] at goes

end

theorem invariant_init : Invariant {} where
  ordered := ⟨Polling.invariant_init, by simp [Polling.State.starter, Pc.Midway], by simp⟩
  holder := nofun
  exclusive := by simp
  quiet := nofun
  inside := by simp
  looped := nofun
  polled := nofun
  newest := nofun
  assigned := nofun
  callback := nofun
  opened := by simp
  released := nofun
  calls := by simp
  flag := nofun
  ended := by simp
  outside _ _ := .inl rfl

/-- In every orderly interleaving of calls, polls and loops, up to the end of the destructor, every state is safe. -/
theorem orderly_lifetime_safe (actions : List Action) (orderly : EachStep step Orderly actions {}) :
    Always step Safe actions {} :=
  always_of_invariant Invariant (fun _ _ _ inv orderly moves => step_keeps_invariant inv orderly moves)
    (fun _ inv => inv.safe) actions {} invariant_init orderly

/-- A reader is set up and started, polled from another thread too, and destroyed while its loop runs. -/
def lifetime : List Action :=
  [.init 0 (some 7), .initNext 0 true, .initNext 0 true, .initNext 0 true, .initNext 0 true,
    .call (.startPolling 0), .call (.advance 0), .call (.advance 0), .call (.advance 0), .call (.advance 0),
    .call (.advance 0), .call (.advance 0), .call (.loopHead 0), .loopNext 0, .poll 2, .pollNext 2, .pollNext 2,
    .destroy 0, .call (.advance 0), .call (.advance 0), .loopNext 0, .call (.loopHead 0), .call (.advance 0),
    .free, .drop]

theorem lifetime_orderly : EachStep step Orderly lifetime {} := by
  unfold lifetime
  refine ⟨?_, ?_, ?_, ?_, ?_, ?_, ?_, ?_, ?_, ?_, ?_, ?_, ?_, ?_, ?_, ?_, ?_, ?_, ?_, ?_, ?_, ?_, ?_, ?_, ?_, trivial⟩
  case refine_18 =>
    -- two threads have called, and both are back
    refine ⟨rfl, fun other => ?_, fun other => ?_, fun other => ?_⟩
    · rcases other with _ | _ | _ | other <;> rfl
    · rcases other with _ | _ | _ | other <;> rfl
    · rcases other with _ | _ | _ | other <;> rfl
  all_goals first
    | trivial
    | exact ⟨by decide +kernel, fun here => absurd here (by decide +kernel)⟩
    | exact ⟨nofun, fun _ => id⟩
    | exact fun _ _ => ⟨rfl, fun _ => rfl⟩

theorem lifetime_safe :
    Always step Safe lifetime {} ∧ (lifetime.foldl (fun s a => taken step a s) {}).released = some 0 :=
  ⟨orderly_lifetime_safe lifetime lifetime_orderly, by decide +kernel⟩

/-- A stop that comes between the store of a start and its assignment finds nothing to join. -/
def overtaken : List Action :=
  [.init 0 (some 7), .initNext 0 true, .initNext 0 true, .initNext 0 true, .initNext 0 true,
    .call (.startPolling 0), .call (.advance 0), .call (.advance 0), .call (.advance 0), .call (.advance 0),
    .call (.loopHead 0), .loopNext 0, .call (.stopPolling 2), .call (.advance 2), .call (.advance 2),
    .call (.advance 0), .call (.advance 0), .destroy 0, .call (.advance 0), .free]

/-- The destructor then frees the ring buffer under the loop. -/
theorem overtaken_frees_under_loop : ¬ Always step Safe overtaken {} := by
  intro always
  have waits : (overtaken.foldl (fun s a => taken step a s) {}).loops 0 = .waits 0 := by decide +kernel
  have opened := (always.last.polled 0 0 (.inl waits)).1
  exact absurd opened (by decide +kernel)

/-- The callback of the first loop stops the polling, and joins its own thread. -/
def stoppedFromInside : List Action :=
  [.init 0 (some 7), .initNext 0 true, .initNext 0 true, .initNext 0 true, .initNext 0 true,
    .call (.startPolling 0), .call (.advance 0), .call (.advance 0), .call (.advance 0), .call (.advance 0),
    .call (.advance 0), .call (.advance 0), .call (.loopHead 0), .loopNext 0,
    .call (.stopPolling (callbackOf 0)), .call (.advance (callbackOf 0)), .call (.advance (callbackOf 0)),
    .call (.advance (callbackOf 0))]

theorem stoppedFromInside_terminates : ¬ Always step Safe stoppedFromInside {} := by
  intro always
  have ended : (stoppedFromInside.foldl (fun s a => taken step a s) {}).polling.terminated = true := by decide +kernel
  exact absurd (always.last.polling.terminated.symm.trans ended) (by simp)

end Aegis.Ebpf.Reader
