import Aegis.Guest.Agent
import Aegis.Library.Interleaving
import Mathlib.Logic.Function.Basic

/-! The script files of requests that are served at the same time.

Each request has a goroutine of its own. The name of its script file is made from a clock
reading; the clock never goes back, but two readings may be equal.
-/

set_option autoImplicit false

namespace Aegis.Guest
open Library

def scriptPath (nanos : Int) : String := "/tmp/agent_script_" ++ nanos.repr ++ ".py"

theorem toList_repr (n : Nat) : n.repr.toList = Nat.toDigits 10 n := by
  rw [Nat.repr_eq_ofList_toDigits, String.toList_ofList]

theorem natRepr_injective {m n : Nat} (same : m.repr = n.repr) : m = n := by
  have digits := congrArg String.toList same
  rw [toList_repr, toList_repr] at digits
  have values := congrArg (Nat.ofDigitChars 10 · 0) digits
  simpa using values

theorem natRepr_unsigned (m n : Nat) : m.repr ≠ "-" ++ n.repr := by
  intro same
  have sign : '-' ∈ Nat.toDigits 10 m := by
    rw [← toList_repr, same, String.toList_append]
    exact List.mem_append_left _ (by decide)
  exact absurd (Nat.isDigit_of_mem_toDigits (by decide) (by decide) sign) (by decide)

theorem intRepr_injective {first second : Int} (same : first.repr = second.repr) : first = second := by
  cases first with
  | ofNat m =>
    cases second with
    | ofNat n => rw [natRepr_injective same]
    | negSucc n => exact absurd same (natRepr_unsigned m _)
  | negSucc m =>
    cases second with
    | ofNat n => exact absurd same.symm (natRepr_unsigned n _)
    | negSucc n => rw [Nat.succ.inj (natRepr_injective ((String.append_right_inj "-").mp same))]

theorem scriptPath_injective {first second : Int} (same : scriptPath first = scriptPath second) : first = second := by
  unfold scriptPath at same
  rw [String.append_left_inj, String.append_right_inj] at same
  exact intRepr_injective same

/-- Where a request is; the step named has been done. -/
inductive Stage where
  | decoded
  | timed (nanos : Int)
  | written (nanos : Int)
  | ran (nanos : Int)
  | closed
  deriving DecidableEq, Repr

/-- A file, and the request that wrote it last, if one did. -/
structure Script where
  writer : Option Nat
  content : Bytes
  deriving DecidableEq

/-- `found` is what the python3 of a request has read: nothing yet, no file, or a script. -/
structure Agent where
  clock : Int
  files : String → Option Script
  stage : Nat → Stage := fun _ => .decoded
  found : Nat → Option (Option Bytes) := fun _ => none

def Agent.goto (s : Agent) (request : Nat) (stage : Stage) : Agent :=
  { s with stage := Function.update s.stage request stage }

def Agent.store (s : Agent) (path : String) (file : Option Script) : Agent :=
  { s with files := Function.update s.files path file }

section
variable (s : Agent)

theorem stage_goto_self (request : Nat) (stage : Stage) : (s.goto request stage).stage request = stage :=
  Function.update_self _ _ _

theorem stage_goto_of_ne {request other : Nat} (different : other ≠ request) (stage : Stage) :
    (s.goto request stage).stage other = s.stage other :=
  Function.update_of_ne different _ _

theorem files_store_self (path : String) (file : Option Script) : (s.store path file).files path = file :=
  Function.update_self _ _ _

theorem files_store_of_ne {path other : String} (different : other ≠ path) (file : Option Script) :
    (s.store path file).files other = s.files other :=
  Function.update_of_ne different _ _

end

/-- The steps of a request. A write that fails may leave the file as it was, or cut off. A
process may end without having read its script. Nobody asks whether the removal has failed. -/
inductive ScriptAction where
  | readClock (request : Nat) (now : Int)
  | writeScript (request : Nat)
  | failWrite (request : Nat) (left : Option Bytes)
  | readScript (request : Nat)
  | removeScript (request : Nat)
  | failRemove (request : Nat)

def Stage.nanos : Stage → Option Int
  | .written nanos | .ran nanos => some nanos
  | _ => none

variable (requests : Nat → ExecutionRequest)

def scriptStep (action : ScriptAction) (s : Agent) : Option Agent :=
  match action with
  | .readClock request now =>
      if s.stage request = .decoded ∧ s.clock ≤ now then some { s.goto request (.timed now) with clock := now }
      else none
  | .writeScript request =>
      match s.stage request with
      | .timed nanos =>
          some ((s.store (scriptPath nanos) (some ⟨some request, (requests request).codePayload⟩)).goto request
            (.written nanos))
      | _ => none
  | .failWrite request left =>
      match s.stage request with
      | .timed nanos =>
          match left with
          | some content => some ((s.store (scriptPath nanos) (some ⟨some request, content⟩)).goto request .closed)
          | none => some (s.goto request .closed)
      | _ => none
  | .readScript request =>
      match s.stage request with
      | .written nanos =>
          some { s.goto request (.ran nanos) with
            found := Function.update s.found request (some ((s.files (scriptPath nanos)).map Script.content)) }
      | _ => none
  | .removeScript request =>
      match (s.stage request).nanos with
      | some nanos => some ((s.store (scriptPath nanos) none).goto request .closed)
      | none => none
  | .failRemove request =>
      match (s.stage request).nanos with
      | some _ => some (s.goto request .closed)
      | none => none

/-- The steps that can be taken, each with what it finds and what it leaves. -/
inductive ScriptMove (s : Agent) : ScriptAction → Agent → Prop where
  | readClock {request : Nat} {now : Int} (here : s.stage request = .decoded) (later : s.clock ≤ now) :
      ScriptMove s (.readClock request now) { s.goto request (.timed now) with clock := now }
  | writeScript {request : Nat} {nanos : Int} (here : s.stage request = .timed nanos) :
      ScriptMove s (.writeScript request)
        ((s.store (scriptPath nanos) (some ⟨some request, (requests request).codePayload⟩)).goto request (.written nanos))
  -- a write that fails leaves no file, or a file with some content
  | failOpen {request : Nat} {nanos : Int} (here : s.stage request = .timed nanos) :
      ScriptMove s (.failWrite request none) (s.goto request .closed)
  | failWrite {request : Nat} {nanos : Int} {content : Bytes} (here : s.stage request = .timed nanos) :
      ScriptMove s (.failWrite request (some content))
        ((s.store (scriptPath nanos) (some ⟨some request, content⟩)).goto request .closed)
  | readScript {request : Nat} {nanos : Int} (here : s.stage request = .written nanos) :
      ScriptMove s (.readScript request) { s.goto request (.ran nanos) with
        found := Function.update s.found request (some ((s.files (scriptPath nanos)).map Script.content)) }
  | removeScript {request : Nat} {nanos : Int} (placed : (s.stage request).nanos = some nanos) :
      ScriptMove s (.removeScript request) ((s.store (scriptPath nanos) none).goto request .closed)
  | failRemove {request : Nat} {nanos : Int} (placed : (s.stage request).nanos = some nanos) :
      ScriptMove s (.failRemove request) (s.goto request .closed)

theorem scriptStep_cases {requests : Nat → ExecutionRequest} {action : ScriptAction} {s t : Agent}
    (moves : scriptStep requests action s = some t) : ScriptMove requests s action t := by
  cases action with
  | readClock request now =>
    simp only [scriptStep, Option.ite_none_right_eq_some, Option.some.injEq] at moves
    obtain ⟨⟨here, later⟩, rfl⟩ := moves
    exact .readClock here later
  | writeScript request =>
    cases here : s.stage request with
    | timed nanos =>
      simp only [scriptStep, here, Option.some.injEq] at moves
      exact moves ▸ .writeScript here
    | decoded | written | ran | closed => simp [scriptStep, here] at moves
  | failWrite request left =>
    cases here : s.stage request with
    | timed nanos =>
      cases left with
      | none =>
        simp only [scriptStep, here, Option.some.injEq] at moves
        exact moves ▸ .failOpen here
      | some content =>
        simp only [scriptStep, here, Option.some.injEq] at moves
        exact moves ▸ .failWrite here
    | decoded | written | ran | closed => simp [scriptStep, here] at moves
  | readScript request =>
    cases here : s.stage request with
    | written nanos =>
      simp only [scriptStep, here, Option.some.injEq] at moves
      exact moves ▸ .readScript here
    | decoded | timed | ran | closed => simp [scriptStep, here] at moves
  | removeScript request =>
    cases placed : (s.stage request).nanos with
    | some nanos =>
      simp only [scriptStep, placed, Option.some.injEq] at moves
      exact moves ▸ .removeScript placed
    | none => simp [scriptStep, placed] at moves
  | failRemove request =>
    cases placed : (s.stage request).nanos with
    | some nanos =>
      simp only [scriptStep, placed, Option.some.injEq] at moves
      exact moves ▸ .failRemove placed
    | none => simp [scriptStep, placed] at moves

/-- A script that has been written and not yet read is there as its request wrote it; a python3
that has read has read the code of its own request. -/
structure Unmixed (s : Agent) : Prop where
  own : ∀ request nanos, s.stage request = .written nanos →
    s.files (scriptPath nanos) = some ⟨some request, (requests request).codePayload⟩
  reads : ∀ request script, s.found request = some script → script = some (requests request).codePayload

/-- No other request with this clock reading is between its write and its read. -/
def Agent.Clear (s : Agent) (request : Nat) (nanos : Int) : Prop :=
  ∀ other, other ≠ request → s.stage other ≠ .written nanos

/-- What writes or removes a file finds no other request waiting to read it. -/
def Undisturbing (action : ScriptAction) (s : Agent) : Prop :=
  match action with
  | .writeScript request => ∀ nanos, s.stage request = .timed nanos → s.Clear request nanos
  | .failWrite request (some _) => ∀ nanos, s.stage request = .timed nanos → s.Clear request nanos
  | .removeScript request => ∀ nanos, (s.stage request).nanos = some nanos → s.Clear request nanos
  | _ => True

section
variable {requests} {s : Agent} {request : Nat} {nanos : Int}

/-- A step that touches one file and one request. -/
theorem Unmixed.touch (unmixed : Unmixed requests s) {file : Option Script} {stage : Stage}
    (own : ∀ time, stage = .written time →
      time = nanos ∧ file = some ⟨some request, (requests request).codePayload⟩)
    (clear : s.Clear request nanos) :
    Unmixed requests ((s.store (scriptPath nanos) file).goto request stage) where
  own other time here := by
    by_cases same : other = request
    · subst same
      rw [stage_goto_self] at here
      obtain ⟨rfl, mine⟩ := own time here
      exact (files_store_self s _ _).trans mine
    · rw [stage_goto_of_ne _ same] at here
      have apart : scriptPath time ≠ scriptPath nanos := by
        intro equal
        cases scriptPath_injective equal
        exact clear other same here
      exact (files_store_of_ne s apart _).trans (unmixed.own other time here)
  reads := unmixed.reads

/-- A request that is disturbed no longer finds its own script. -/
theorem Unmixed.clear_of_touch {file : Option Script} {stage : Stage}
    (foreign : ∀ other, other ≠ request → ∀ content, file ≠ some ⟨some other, content⟩)
    (after : Unmixed requests ((s.store (scriptPath nanos) file).goto request stage)) : s.Clear request nanos := by
  intro other different waiting
  have kept := after.own other nanos ((stage_goto_of_ne _ different stage).trans waiting)
  exact foreign other different _ ((files_store_self s _ _).symm.trans kept)

theorem unmixed_touch_iff (unmixed : Unmixed requests s) {file : Option Script} {stage : Stage}
    (own : ∀ time, stage = .written time →
      time = nanos ∧ file = some ⟨some request, (requests request).codePayload⟩)
    (foreign : ∀ other, other ≠ request → ∀ content, file ≠ some ⟨some other, content⟩) :
    Unmixed requests ((s.store (scriptPath nanos) file).goto request stage) ↔ s.Clear request nanos :=
  ⟨Unmixed.clear_of_touch foreign, unmixed.touch own⟩

/-- A step that touches no file and does not make its request wait for one. -/
theorem Unmixed.pass (unmixed : Unmixed requests s) {stage : Stage} (idle : ∀ time, stage ≠ .written time) :
    Unmixed requests (s.goto request stage) where
  own other time here := by
    by_cases same : other = request
    · subst same
      rw [stage_goto_self] at here
      exact absurd here (idle time)
    · rw [stage_goto_of_ne _ same] at here
      exact unmixed.own other time here
  reads := unmixed.reads

theorem Unmixed.read (unmixed : Unmixed requests s) (waiting : s.stage request = .written nanos) :
    Unmixed requests { s.goto request (.ran nanos) with
      found := Function.update s.found request (some ((s.files (scriptPath nanos)).map Script.content)) } where
  own := (@Unmixed.pass _ _ request unmixed (.ran nanos) fun _ same => nomatch same).own
  reads other script read := by
    by_cases same : other = request
    · subst same
      have now := (Function.update_self other _ s.found).symm.trans read
      rw [unmixed.own other nanos waiting] at now
      exact (Option.some.inj now).symm
    · exact unmixed.reads other script ((Function.update_of_ne same _ s.found).symm.trans read)

/-- Whatever would disturb another request can be done. -/
theorem undisturbing_of_stuck {action : ScriptAction} (stuck : scriptStep requests action s = none) :
    Undisturbing action s := by
  cases action with
  | readClock | readScript | failRemove => trivial
  | writeScript request =>
    intro nanos here
    simp [scriptStep, here] at stuck
  | failWrite request left =>
    cases left with
    | none => trivial
    | some content =>
      intro nanos here
      simp [scriptStep, here] at stuck
  | removeScript request =>
    intro nanos placed
    simp [scriptStep, placed] at stuck

/-- One step. -/
theorem unmixed_step_iff (unmixed : Unmixed requests s) (action : ScriptAction) :
    Unmixed requests (taken (scriptStep requests) action s) ↔ Undisturbing action s := by
  cases moves : scriptStep requests action s with
  | none => exact iff_of_true (by simpa [taken, moves] using unmixed) (undisturbing_of_stuck moves)
  | some t =>
    have own {writer other : Nat} {content content' : Bytes} (different : other ≠ writer) :
        some (⟨some writer, content⟩ : Script) ≠ some ⟨some other, content'⟩ := by
      simp [Ne.symm different]
    rw [taken_eq moves]
    cases scriptStep_cases moves with
    | @readClock request now here later =>
      have passed := @Unmixed.pass _ _ request unmixed (.timed now) (by simp)
      exact iff_of_true ⟨passed.own, passed.reads⟩ trivial
    | writeScript here =>
      refine (unmixed_touch_iff unmixed ?_ fun other different _ => own different).trans ?_
      · exact fun time same => ⟨(Stage.written.inj same).symm, rfl⟩
      · simp [Undisturbing, here]
    | failOpen here | failRemove placed => exact iff_of_true (unmixed.pass (by simp)) trivial
    | failWrite here =>
      refine (unmixed_touch_iff unmixed (by simp) fun other different _ => own different).trans ?_
      simp [Undisturbing, here]
    | readScript here => exact iff_of_true (unmixed.read here) trivial
    | removeScript placed =>
      refine (unmixed_touch_iff unmixed (by simp) (by simp)).trans ?_
      simp [Undisturbing, placed]

theorem unmixed_init (clock : Int) (files : String → Option Script) : Unmixed requests { clock, files } :=
  ⟨by simp, by simp⟩

end

/-- In every state of an interleaving the scripts are unmixed, if and only if no request writes or
removes its file while another with the same clock reading is between its write and its read. -/
theorem interleavings_unmixed_iff (clock : Int) (files : String → Option Script) (actions : List ScriptAction) :
    Always (scriptStep requests) (Unmixed requests) actions { clock, files } ↔
      EachStep (scriptStep requests) Undisturbing actions { clock, files } := by
  refine always_iff_eachStep ?_ actions _ (unmixed_init clock files)
  exact fun action s unmixed => unmixed_step_iff unmixed action

/-- Two requests, one nanosecond: the python3 of the first runs the code of the second. -/
theorem same_nanosecond_mixes :
    ¬ Always (scriptStep fun request => { codePayload := bytesOf (if request = 0 then "print(1)" else "print(2)") })
      (Unmixed fun request => { codePayload := bytesOf (if request = 0 then "print(1)" else "print(2)") })
      [.readClock 0 7, .readClock 1 7, .writeScript 0, .writeScript 1, .readScript 0]
      { clock := 0, files := fun _ => none } := by
  intro always
  have read := always.last.reads 0 (some (bytesOf "print(2)")) (by decide +kernel)
  exact absurd (Option.some.inj read) (by decide +kernel)

/-! A clock that never gives the same reading twice. -/

def Stage.reading : Stage → Option Int
  | .timed nanos | .written nanos | .ran nanos => some nanos
  | _ => none

/-- A reading is later than the ones before it. -/
def Ticks (action : ScriptAction) (s : Agent) : Prop :=
  match action with
  | .readClock _ now => s.clock < now
  | _ => True

/-- No reading is ahead of the clock, and no two requests have the same. -/
structure Timed (s : Agent) : Prop where
  past : ∀ request nanos, (s.stage request).reading = some nanos → nanos ≤ s.clock
  apart : ∀ request other nanos, (s.stage request).reading = some nanos → (s.stage other).reading = some nanos →
    request = other

section
variable {requests} {s t : Agent}

/-- A stage with no new reading. -/
theorem Timed.goto (timed : Timed s) {request : Nat} {stage : Stage} (clock : t.clock = s.clock)
    (stages : t.stage = Function.update s.stage request stage)
    (old : ∀ nanos, stage.reading = some nanos → (s.stage request).reading = some nanos) : Timed t := by
  have before (other : Nat) (nanos : Int) (read : (t.stage other).reading = some nanos) :
      (s.stage other).reading = some nanos := by
    rw [stages] at read
    by_cases same : other = request
    · subst same
      rw [Function.update_self] at read
      exact old nanos read
    · rw [Function.update_of_ne same] at read
      exact read
  constructor
  · intro other nanos read
    rw [clock]
    exact timed.past other nanos (before other nanos read)
  · exact fun first second nanos read read' => timed.apart first second nanos (before _ _ read) (before _ _ read')

theorem Timed.clear (timed : Timed s) {request : Nat} {nanos : Int}
    (read : (s.stage request).reading = some nanos) : s.Clear request nanos := by
  intro other different waiting
  exact different (timed.apart other request nanos (by rw [waiting]; rfl) read)

theorem Stage.reading_of_nanos {stage : Stage} {nanos : Int} (read : stage.nanos = some nanos) :
    stage.reading = some nanos := by
  cases stage with
  | written time | ran time => exact read
  | decoded | timed time | closed => exact nomatch read

theorem Timed.undisturbing (timed : Timed s) (action : ScriptAction) : Undisturbing action s := by
  cases action with
  | readClock request now => trivial
  | writeScript request => exact fun nanos here => timed.clear (by rw [here]; rfl)
  | failWrite request left =>
    cases left with
    | none => trivial
    | some content => exact fun nanos here => timed.clear (by rw [here]; rfl)
  | readScript request => trivial
  | removeScript request => exact fun nanos read => timed.clear (Stage.reading_of_nanos read)
  | failRemove request => trivial

theorem Timed.readClock (timed : Timed s) {request : Nat} {now : Int} (later : s.clock < now) :
    Timed { s.goto request (.timed now) with clock := now } := by
  have unread (other : Nat) : (s.stage other).reading ≠ some now := by
    intro read
    have past := timed.past other now read
    omega
  have cases (other : Nat) (nanos : Int) (read : ((s.goto request (.timed now)).stage other).reading = some nanos) :
      other = request ∧ nanos = now ∨ (s.stage other).reading = some nanos := by
    by_cases same : other = request
    · subst same
      rw [stage_goto_self] at read
      exact .inl ⟨rfl, (Option.some.inj read).symm⟩
    · rw [stage_goto_of_ne _ same] at read
      exact .inr read
  constructor
  · intro other nanos read
    show nanos ≤ now
    rcases cases other nanos read with ⟨-, rfl⟩ | old
    · exact le_refl nanos
    · have past := timed.past other nanos old
      omega
  · intro first second nanos read read'
    rcases cases first nanos read with ⟨rfl, rfl⟩ | old <;> rcases cases second nanos read' with ⟨rfl, same⟩ | old'
    · rfl
    · exact absurd old' (unread second)
    · exact absurd (same ▸ old) (unread first)
    · exact timed.apart first second nanos old old'

theorem Timed.step (timed : Timed s) {action : ScriptAction} (ticks : Ticks action s)
    (moves : scriptStep requests action s = some t) : Timed t := by
  cases scriptStep_cases moves with
  | readClock here later => exact timed.readClock ticks
  | writeScript here | readScript here => exact timed.goto rfl rfl fun time read => by rw [here]; exact read
  | failOpen _ | failWrite _ | removeScript _ | failRemove _ =>
    exact timed.goto rfl rfl fun time read => absurd read (by simp [Stage.reading])

end

/-- With a clock that always ticks between two readings, no interleaving mixes scripts. -/
theorem ticking_clock_unmixed (clock : Int) (files : String → Option Script) (actions : List ScriptAction)
    (ticks : EachStep (scriptStep requests) Ticks actions { clock, files }) :
    Always (scriptStep requests) (Unmixed requests) actions { clock, files } := by
  refine always_of_invariant (fun s => Timed s ∧ Unmixed requests s) ?_ (fun s inv => inv.2) actions _ ?_ ticks
  · rintro action s t ⟨timed, unmixed⟩ tick moves
    refine ⟨timed.step tick moves, ?_⟩
    rw [← taken_eq moves]
    exact (unmixed_step_iff unmixed action).mpr (timed.undisturbing action)
  · exact ⟨⟨by simp [Stage.reading], by simp [Stage.reading]⟩, unmixed_init clock files⟩

end Aegis.Guest
