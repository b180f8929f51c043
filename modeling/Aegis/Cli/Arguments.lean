import Aegis.Cli.Signals
import Mathlib.Data.List.TakeWhile

/-! The arguments of the command line tool.

The loop of main knows five options and passes over everything else: words it does not know,
an option without a value, and the tail of a number.
-/

set_option autoImplicit false

namespace Aegis.Cli
open Library Aegis.Runtime

/-! Numbers. -/

/-- `isspace` in the C locale. -/
def isSpace (c : Char) : Bool := c = ' ' || (9 ≤ c.toNat && c.toNat ≤ 13)

/-- `strtol` to base 10 with a 64-bit `long`, which keeps to the nearest number it has. -/
def strtol (text : List Char) : Int :=
  let magnitude := fun digits : List Char => (Nat.ofDigitChars 10 (digits.takeWhile Char.isDigit) 0 : Int)
  match text.dropWhile isSpace with
  | '-' :: digits => max (-magnitude digits) (-2 ^ 63)
  | '+' :: digits => min (magnitude digits) (2 ^ 63 - 1)
  | digits => min (magnitude digits) (2 ^ 63 - 1)

/-- `atoi` as glibc has it: the low half of what `strtol` gives. -/
def atoi (text : String) : Int := (strtol text.toList).bmod (2 ^ 32)

/-- The cast of `atoi` to `uint32_t`. -/
def readNumber (text : String) : UInt32 := UInt32.ofInt (atoi text)

/-! The loop over the arguments, and the choice of the command. -/

def parseOptions (options : Options) : List String → Options
  | [] => options
  -- no option is taken without a value
  | [_] => options
  | arg :: value :: rest =>
      if arg = "--id" then parseOptions { options with sandboxId := value } rest
      else if arg = "--policy" then parseOptions { options with policyName := value } rest
      else if arg = "--code" then parseOptions { options with codePayload := value } rest
      else if arg = "--cpus" then parseOptions { options with cpus := readNumber value } rest
      else if arg = "--mem" then parseOptions { options with memoryMb := readNumber value } rest
      else parseOptions options (value :: rest)
termination_by structural args => args

def Command.word : Command → String
  | .create => "create"
  | .exec => "exec"
  | .terminate => "terminate"
  | .status => "status"

def Command.parse (word : String) : Option Command :=
  if word = "create" then some .create
  else if word = "exec" then some .exec
  else if word = "terminate" then some .terminate
  else if word = "status" then some .status
  else none

/-- What main sets about: no command was given, or the one it was given. -/
inductive Dispatch where
  | usage
  | version
  | operation (command : Command) (options : Options)
  | unknownCommand

def dispatch : List String → Dispatch
  | _ :: command :: args =>
      if command = "version" ∨ command = "--version" ∨ command = "-v" then .version
      else match Command.parse command with
        | some known => .operation known (parseOptions {} args)
        | none => .unknownCommand
  | _ => .usage

/-- `main` from the arguments on. -/
def mainArgv (argv : List String) (env : ProcessEnv) : Proc (Host × Pointer) Report :=
  match dispatch argv with
  | .usage => pure ⟨1, none⟩
  | .version => main .version
  | .operation command options => main (.known ⟨command, options, env⟩)
  | .unknownCommand => main (.unknown env)

/-! The grammar that the usage text gives. -/

/-- A decimal numeral below `2 ^ 32`. -/
structure Numeral where
  text : String
  filled : text.toList ≠ []
  digits : ∀ c ∈ text.toList, c.isDigit = true
  small : Nat.ofDigitChars 10 text.toList 0 < 2 ^ 32

def Numeral.value (numeral : Numeral) : UInt32 := UInt32.ofNatLT _ numeral.small

inductive Setting where
  | id (value : String)
  | policy (value : String)
  | code (value : String)
  | cpus (value : Numeral)
  | mem (value : Numeral)

namespace Setting

@[simp]
def words : Setting → List String
  | id value => ["--id", value]
  | policy value => ["--policy", value]
  | code value => ["--code", value]
  | cpus value => ["--cpus", value.text]
  | mem value => ["--mem", value.text]

@[simp]
def id? : Setting → Option String
  | id value => some value
  | _ => none

@[simp]
def policy? : Setting → Option String
  | policy value => some value
  | _ => none

@[simp]
def code? : Setting → Option String
  | code value => some value
  | _ => none

@[simp]
def cpus? : Setting → Option UInt32
  | cpus value => some value.value
  | _ => none

@[simp]
def mem? : Setting → Option UInt32
  | mem value => some value.value
  | _ => none

end Setting

/-- The value of the last setting that has one. -/
def lastOr {A : Type} (default : A) (pick : Setting → Option A) (settings : List Setting) : A :=
  (settings.filterMap pick).getLast?.getD default

structure UsageLine where
  program : String
  command : Command
  settings : List Setting

def UsageLine.argv (line : UsageLine) : List String :=
  line.program :: line.command.word :: line.settings.flatMap Setting.words

def UsageLine.options (line : UsageLine) : Options where
  sandboxId := lastOr "sbx-demo" Setting.id? line.settings
  policyName := lastOr "strict_python" Setting.policy? line.settings
  codePayload := lastOr "print('Hello from Aegis Isolated MicroVM!')" Setting.code? line.settings
  cpus := lastOr 1 Setting.cpus? line.settings
  memoryMb := lastOr 512 Setting.mem? line.settings

/-! Lines of the grammar. -/

theorem isSpace_of_digit {c : Char} (digit : c.isDigit = true) : isSpace c = false := by
  have bounds : 48 ≤ c.toNat ∧ c.toNat ≤ 57 := by
    simpa [Char.isDigit, UInt32.le_iff_toNat_le] using digit
  have other : c ≠ ' ' := by
    rintro rfl
    exact absurd digit (by decide)
  simp [isSpace, other]
  omega

theorem strtol_numeral (numeral : Numeral) :
    strtol numeral.text.toList = (Nat.ofDigitChars 10 numeral.text.toList 0 : Int) := by
  obtain ⟨text, filled, digits, small⟩ := numeral
  have all : text.toList.takeWhile Char.isDigit = text.toList := List.takeWhile_eq_self_iff.mpr digits
  have start : text.toList.dropWhile isSpace = text.toList := by
    cases chars : text.toList with
    | nil => rfl
    | cons c rest =>
      have first : isSpace c = false := isSpace_of_digit (digits c (by simp [chars]))
      simp [first]
  have signless : ∀ sign rest, text.toList = sign :: rest → sign ≠ '-' ∧ sign ≠ '+' := by
    intro sign rest chars
    have digit := digits sign (by simp [chars])
    constructor
    · rintro rfl
      exact absurd digit (by decide)
    · rintro rfl
      exact absurd digit (by decide)
  unfold strtol
  dsimp only
  rw [start]
  -- a numeral has neither sign, and is far below where `strtol` stops
  split
  next rest chars => exact absurd rfl (signless _ _ chars).1
  next rest chars => exact absurd rfl (signless _ _ chars).2
  next =>
    rw [all]
    omega

theorem readNumber_eq (text : String) : readNumber text = UInt32.ofInt (strtol text.toList) := by
  have low (z : Int) : z.bmod (2 ^ 32) % 2 ^ 32 = z % 2 ^ 32 := Int.bmod_emod
  unfold readNumber atoi UInt32.ofInt
  rw [low]

theorem readNumber_numeral (numeral : Numeral) : readNumber numeral.text = numeral.value := by
  have small := numeral.small
  rw [readNumber_eq, strtol_numeral, UInt32.ofInt, ← UInt32.toNat_inj]
  simp [Numeral.value]
  omega

section
variable {A : Type} (default : A) (pick : Setting → Option A) (setting : Setting) (settings : List Setting)

theorem lastOr_cons :
    lastOr default pick (setting :: settings) = lastOr ((pick setting).getD default) pick settings := by
  unfold lastOr
  cases picked : pick setting with
  | none => simp [picked]
  | some value => simp [picked, List.getLast?_cons]

end

/-- The options with what the settings say put in. -/
def Options.set (options : Options) (settings : List Setting) : Options where
  sandboxId := lastOr options.sandboxId Setting.id? settings
  policyName := lastOr options.policyName Setting.policy? settings
  codePayload := lastOr options.codePayload Setting.code? settings
  cpus := lastOr options.cpus Setting.cpus? settings
  memoryMb := lastOr options.memoryMb Setting.mem? settings

theorem parseOptions_words (options : Options) (settings : List Setting) :
    parseOptions options (settings.flatMap Setting.words) = options.set settings := by
  induction settings generalizing options with
  | nil => rfl
  | cons setting settings ih =>
    rw [List.flatMap_cons]
    -- the value goes with its option, also if it is itself the name of one
    cases setting with
    | id value => simp [parseOptions, ih, Options.set, lastOr_cons]
    | policy value => simp [parseOptions, ih, Options.set, lastOr_cons]
    | code value => simp [parseOptions, ih, Options.set, lastOr_cons]
    | cpus value => simp [parseOptions, ih, Options.set, lastOr_cons, readNumber_numeral]
    | mem value => simp [parseOptions, ih, Options.set, lastOr_cons, readNumber_numeral]

theorem parse_word (command : Command) : Command.parse command.word = some command := by
  cases command <;> decide

theorem dispatch_usageLine (line : UsageLine) : dispatch line.argv = .operation line.command line.options := by
  have other : ¬ (line.command.word = "version" ∨ line.command.word = "--version" ∨ line.command.word = "-v") := by
    cases line.command <;> decide
  simp only [UsageLine.argv, dispatch, if_neg other, parse_word, parseOptions_words]
  rfl

/-! Other lines. -/

/-- No operation is called, and 1 is returned. -/
def Refuses (argv : List String) (env : ProcessEnv) (machine : Machine) : Prop :=
  (∀ command options, dispatch argv ≠ .operation command options) ∧
    ((mainArgv argv env).ends (machine.boot, .null)).1 = .returned ⟨1, none⟩

/-- There is no command, or one that main does not know. -/
def Unrecognised (argv : List String) : Prop :=
  ∀ word ∈ argv[1]?, word ∉ ["create", "exec", "terminate", "status", "version", "--version", "-v"]

theorem unknown_ends (env : ProcessEnv) (machine : Machine) :
    ((main (.unknown env)).ends (machine.boot, .null)).1 = .returned ⟨1, none⟩ := by
  obtain ⟨fresh, -⟩ := constructed_fresh machine env.init
  have inStep : InStep (machine.constructed env.init).descriptors (machine.constructed env.init) :=
    .of_empty fresh.sandboxes fresh.cgroups rfl
  obtain ⟨final, destroyed, -⟩ := destroySandboxManager_ends fresh.free inStep env.exit
  have plain : (Proc.recover (do
      initSandboxManager (some {}) (some .init) (.parse "/var/run/aegis") env.init
      (pure ⟨1, none⟩ : Proc Host Report).ensure (destroySandboxManager env.exit)) ⟨1, none⟩).ends machine.boot =
      (.returned ⟨1, none⟩, final) :=
    Proc.ends_recover ((Proc.ends_bind_returned (constructed_ends machine _)).trans (Proc.ends_ensure rfl destroyed))
  have outcome := (managed_shadows env (pure ⟨1, none⟩) (machine.boot, .null)).1
  exact outcome.trans (congrArg Prod.fst plain)

theorem word_of_parse {word : String} {command : Command} (parsed : Command.parse word = some command) :
    word = command.word := by
  unfold Command.parse at parsed
  split_ifs at parsed with create exec terminate status
  · cases parsed; exact create
  · cases parsed; exact exec
  · cases parsed; exact terminate
  · cases parsed; exact status

theorem dispatch_unrecognised (program : String) {word : String} (args : List String)
    (other : word ∉ ["create", "exec", "terminate", "status", "version", "--version", "-v"]) :
    dispatch (program :: word :: args) = .unknownCommand := by
  have named : ¬ (word = "version" ∨ word = "--version" ∨ word = "-v") := by
    rintro (rfl | rfl | rfl)
    · exact other (by simp)
    · exact other (by simp)
    · exact other (by simp)
  have unparsed : Command.parse word = none := by
    cases parsed : Command.parse word with
    | none => rfl
    | some command =>
      rw [word_of_parse parsed] at other
      cases command <;> exact absurd (by decide) other
  simp only [dispatch, if_neg named, unparsed]

theorem refuses_of_unrecognised {argv : List String} (unrecognised : Unrecognised argv) (env : ProcessEnv)
    (machine : Machine) : Refuses argv env machine := by
  match argv, unrecognised with
  | [], _ => exact ⟨fun _ _ same => (by cases same), rfl⟩
  | [_], _ => exact ⟨fun _ _ same => (by cases same), rfl⟩
  | program :: word :: args, unrecognised =>
    -- the manager is constructed and destroyed, but not called
    have goes := dispatch_unrecognised program args (unrecognised word rfl)
    refine ⟨fun command options same => ?_, ?_⟩
    · rw [goes] at same
      cases same
    · unfold mainArgv
      rw [goes]
      exact unknown_ends env machine

/-- Every other command line is refused only if its command is not one of main's own. -/
theorem unrecognised_of_refuses {argv : List String} {env : ProcessEnv} {machine : Machine}
    (refuses : Refuses argv env machine) : Unrecognised argv := by
  intro word second
  match argv, second with
  | program :: _ :: args, rfl =>
    obtain ⟨idle, failed⟩ := refuses
    have succeeds (isVersion : dispatch (program :: word :: args) = .version) : False := by
      unfold mainArgv at failed
      rw [isVersion] at failed
      cases failed
    intro member
    simp only [List.mem_cons, List.not_mem_nil, or_false] at member
    rcases member with rfl | rfl | rfl | rfl | rfl | rfl | rfl
    · exact idle .create (parseOptions {} args) rfl
    · exact idle .exec (parseOptions {} args) rfl
    · exact idle .terminate (parseOptions {} args) rfl
    · exact idle .status (parseOptions {} args) rfl
    · exact succeeds rfl
    · exact succeeds rfl
    · exact succeeds rfl

/-- A line of the grammar reaches its operation with its settings, every other line is refused. -/
def AcceptsUsage (argv : List String) (env : ProcessEnv) (machine : Machine) : Prop :=
  (∀ line : UsageLine, argv = line.argv → dispatch argv = .operation line.command line.options) ∧
    ((∀ line : UsageLine, argv ≠ line.argv) → Refuses argv env machine)

theorem accepts_usage_iff (argv : List String) (env : ProcessEnv) (machine : Machine) :
    AcceptsUsage argv env machine ↔ (∃ line : UsageLine, argv = line.argv) ∨ Unrecognised argv := by
  constructor
  · rintro ⟨-, others⟩
    by_cases usage : ∃ line : UsageLine, argv = line.argv
    · exact .inl usage
    · exact .inr (unrecognised_of_refuses (others fun line same => usage ⟨line, same⟩))
  · intro fits
    refine ⟨fun line same => same ▸ dispatch_usageLine line, fun unlisted => ?_⟩
    rcases fits with ⟨line, same⟩ | unrecognised
    · exact absurd same (unlisted line)
    · exact refuses_of_unrecognised unrecognised env machine

/-- A negative limit becomes the greatest one, and an id that is left out the default one. -/
theorem stray_arguments_accepted :
    (¬ AcceptsUsage ["aegis-cli", "create", "--mem", "-1"] { create := smoothEnv 77 } ⟨.empty, []⟩ ∧
      dispatch ["aegis-cli", "create", "--mem", "-1"] = .operation .create { memoryMb := 4294967295 }) ∧
    ¬ AcceptsUsage ["aegis-cli", "terminate", "--id"] { create := smoothEnv 77 } ⟨.empty, []⟩ ∧
      dispatch ["aegis-cli", "terminate", "--id"] = .operation .terminate { sandboxId := "sbx-demo" } := by
  have negative : dispatch ["aegis-cli", "create", "--mem", "-1"] = .operation .create { memoryMb := 4294967295 } := rfl
  have missing : dispatch ["aegis-cli", "terminate", "--id"] = .operation .terminate { sandboxId := "sbx-demo" } := rfl
  refine ⟨⟨fun accepts => ?_, negative⟩, fun accepts => ?_, missing⟩
  · refine (accepts.2 fun line same => ?_).1 _ _ negative
    obtain ⟨-, -, args⟩ : _ ∧ _ ∧ ["--mem", "-1"] = line.settings.flatMap Setting.words := by
      simpa [UsageLine.argv] using same
    match line.settings, args with
    | setting :: _, args =>
      cases setting with
      | mem numeral =>
        obtain ⟨text, -⟩ : "-1" = numeral.text ∧ _ := by simpa using args
        have digit := numeral.digits '-' (by simp [← text])
        exact absurd digit (by decide)
      | id value => simp at args
      | policy value => simp at args
      | code value => simp at args
      | cpus numeral => simp at args
  · refine (accepts.2 fun line same => ?_).1 _ _ missing
    obtain ⟨-, -, args⟩ : _ ∧ _ ∧ ["--id"] = line.settings.flatMap Setting.words := by
      simpa [UsageLine.argv] using same
    match line.settings, args with
    | setting :: _, args => cases setting <;> simp at args

end Aegis.Cli
