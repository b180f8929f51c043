import Aegis.Policy.Extraction

/-! Which part of a text the loader goes by.

For each of its keys the loader goes by the first place of the text that reads as the key,
a colon and a value of the right form, be it an entry of the document, a comment or the end
of a longer key. This is said here of the text alone, without the searches.
-/

set_option autoImplicit false

namespace Aegis.Policy
open Library Regex

/-! The forms of values. A form relates a text that starts with a value to what is read. -/

abbrev Form := List Char → List Char → Prop

/-- A maximal run of characters of one kind. -/
def runForm (p : Char → Bool) : Form := fun u g =>
  g ≠ [] ∧ (∀ c ∈ g, p c = true) ∧ ∃ rest, u = g ++ rest ∧ ∀ c ∈ rest.head?, p c = false

def quotedForm (p : Char → Bool) : Form := fun u g => runForm p (unquoted u) g

def flagForm : Form := fun u g => (g = "true".toList ∨ g = "false".toList) ∧ ∃ rest, u = g ++ rest

def listForm : Form := fun u g => g ≠ [] ∧ ']' ∉ g ∧ ∃ rest, u = '[' :: (g ++ ']' :: rest)

/-- The text starts with the key, a colon and a value that is read as `g`. -/
def Reads (key : String) (form : Form) (s g : List Char) : Prop :=
  ∃ spaces spaces' u, (∀ c ∈ spaces, isSpace c = true) ∧ (∀ c ∈ spaces', isSpace c = true) ∧ form u g ∧
    s = key.toList ++ (spaces ++ ':' :: (spaces' ++ u))

/-- The first place of the text with the key, a colon and a value. -/
def FirstReads (key : String) (form : Form) (content g : List Char) : Prop :=
  ∃ s, s <:+ content ∧ Reads key form s g ∧ ∀ t, t <:+ content → s.length < t.length → ∀ h, ¬ Reads key form t h

/-- Behind the colon there is white space, and then the value. -/
theorem reads_colon_iff {key : String} {form : Form} {w g : List Char} :
    Reads key form (key.toList ++ ':' :: w) g ↔
      ∃ spaces u, (∀ c ∈ spaces, isSpace c = true) ∧ form u g ∧ w = spaces ++ u := by
  constructor
  · rintro ⟨spaces, spaces', u, white, white', valued, same⟩
    have behind := List.append_cancel_left same
    cases spaces with
    | nil => exact ⟨spaces', u, white', valued, (List.cons.inj behind).2⟩
    | cons c spaces =>
      obtain ⟨rfl, -⟩ := List.cons.inj behind
      exact absurd (white ':' List.mem_cons_self) (by decide)
  · rintro ⟨spaces, u, white, valued, rfl⟩
    exact ⟨[], spaces, u, by simp, white, valued, rfl⟩

/-- The form of the values that an expression matches. -/
structure Form.Of (form : Form) (value : Regex) : Prop where
  solid {u g : List Char} : form u g → ∀ c ∈ u.head?, isSpace c = false
  found {u g : List Char} : form u g → ∃ text rest, value.first u = some ⟨text, some g, rest⟩
  reads {u : List Char} {g : Option (List Char)} : value.Accepts u g → ∀ rest, ∃ h, form (u ++ rest) h

/-! The searches find these places. -/

section
variable {key : String} {form : Form} {value : Regex} (of : form.Of value)
include of

theorem first_of_reads {s g : List Char} (reads : Reads key form s g) :
    ∃ text rest, (keyed key value).first s = some ⟨text, some g, rest⟩ := by
  obtain ⟨spaces, spaces', u, white, white', valued, rfl⟩ := reads
  obtain ⟨text, rest, found⟩ := of.found valued
  obtain ⟨whole, matched⟩ := @first_keyed_spaces key value _ _ _ _ white white' (of.solid valued) found
  exact ⟨whole, rest, matched⟩

/-- Where the expression matches, there is a value, and what it captures is what is read. -/
theorem reads_of_first {s : List Char} {m : Match} (matched : (keyed key value).first s = some m) :
    Reads key form s (m.group.getD []) := by
  obtain ⟨whole, accepts⟩ := first_sound matched
  obtain ⟨spaces, spaces', u, white, white', valued, text⟩ := accepts_keyed accepts
  -- the text matched need not be the whole value, but the place has one reading only
  obtain ⟨h, formed⟩ := of.reads valued m.rest
  have reads : Reads key form s h := by
    refine ⟨spaces, spaces', u ++ m.rest, List.all_eq_true.mp white, List.all_eq_true.mp white', formed, ?_⟩
    rw [whole, text]
    simp
  obtain ⟨text', rest, found⟩ := first_of_reads of reads
  rw [matched] at found
  cases found
  exact reads

theorem first_none_iff {s : List Char} : (keyed key value).first s = none ↔ ∀ g, ¬ Reads key form s g := by
  constructor
  · intro nothing g reads
    obtain ⟨text, rest, found⟩ := first_of_reads of reads
    rw [nothing] at found
    cases found
  · intro nothing
    cases matched : (keyed key value).first s with
    | none => rfl
    | some m => exact absurd (reads_of_first of matched) (nothing _)

theorem extract_iff {content g : List Char} :
    extract (keyed key value) content = some g ↔ FirstReads key form content g := by
  unfold extract
  rw [Option.map_eq_some_iff]
  constructor
  · rintro ⟨m, searched, rfl⟩
    obtain ⟨s, suffix, matched, earlier⟩ := search_eq_some_iff.mp searched
    exact ⟨s, suffix, reads_of_first of matched, fun t inside longer => (first_none_iff of).mp (earlier t inside longer)⟩
  · rintro ⟨s, suffix, reads, earlier⟩
    obtain ⟨text, rest, matched⟩ := first_of_reads of reads
    refine ⟨_, search_eq_some_iff.mpr ⟨s, suffix, matched, fun t inside longer => ?_⟩, rfl⟩
    exact (first_none_iff of).mpr (earlier t inside longer)

theorem extract_none_iff {content : List Char} :
    extract (keyed key value) content = none ↔ ∀ g, ¬ FirstReads key form content g := by
  rw [Option.eq_none_iff_forall_ne_some]
  exact forall_congr' fun g => not_congr (extract_iff of)

end

/-- A text in which the key has a value somewhere has a first such place. -/
theorem exists_firstReads {key : String} {form : Form} {value : Regex} (of : form.Of value) {content s g : List Char}
    (suffix : s <:+ content) (reads : Reads key form s g) : ∃ h, FirstReads key form content h := by
  by_contra nowhere
  have nothing := (extract_none_iff of).mpr (not_exists.mp nowhere)
  have missed := search_eq_none_iff.mp (Option.map_eq_none_iff.mp nothing) s suffix
  exact (first_none_iff of).mp missed g reads

/-! The form of each expression. -/

/-- A text that starts with a character of a kind starts with a maximal run of them. -/
theorem runForm_of_head {p : Char → Bool} {g : List Char} (filled : g ≠ []) (all : ∀ c ∈ g, p c = true) (rest : List Char) :
    ∃ h, runForm p (g ++ rest) h := by
  refine ⟨(g ++ rest).takeWhile p, ?_, fun c member => List.mem_takeWhile_imp member, (g ++ rest).dropWhile p, ?_, ?_⟩
  · rw [List.takeWhile_append_of_pos all]
    exact List.append_ne_nil_of_left_ne_nil filled _
  · exact List.takeWhile_append_dropWhile.symm
  · intro c head
    have stops := List.head?_dropWhile_not p (g ++ rest)
    rw [Option.mem_def.mp head] at stops
    simpa using stops

theorem head_of_runForm {p : Char → Bool} {u g : List Char} (formed : runForm p u g) : ∀ c ∈ u.head?, p c = true := by
  obtain ⟨filled, all, rest, rfl, -⟩ := formed
  intro c head
  rw [List.head?_append_of_ne_nil _ filled] at head
  exact all c (List.mem_of_mem_head? head)

theorem first_of_runForm {p : Char → Bool} {u g : List Char} (formed : runForm p u g) :
    ∃ text rest, (group (plus p)).first u = some ⟨text, some g, rest⟩ := by
  obtain ⟨filled, all, rest, rfl, ends⟩ := formed
  rw [first_group, first_plus filled all ends]
  exact ⟨_, _, rfl⟩

theorem runForm_of {p : Char → Bool} (solid : ∀ c, p c = true → isSpace c = false) :
    (runForm p).Of (group (plus p)) where
  solid formed c head := solid c (head_of_runForm formed c head)
  found := first_of_runForm
  reads := by
    rintro u g ⟨⟨g', accepts⟩, rfl⟩ rest
    obtain ⟨filled, all, -⟩ := accepts_plus accepts
    exact runForm_of_head filled all rest

theorem quotedForm_of {p : Char → Bool} (plain : p '"' = false) (solid : ∀ c, p c = true → isSpace c = false) :
    (quotedForm p).Of (quoted p) where
  solid := by
    intro u g formed c head
    by_cases quote : u.head? = some '"'
    · rw [quote] at head
      cases head
      decide
    · refine solid c (head_of_runForm formed c ?_)
      rwa [unquoted, if_neg quote]
  found := by
    rintro u g ⟨filled, all, rest, opening, ends⟩
    obtain ⟨text, found⟩ := first_quoted opening filled all ends
    exact ⟨text, _, found⟩
  reads := by
    intro u g accepts rest
    obtain ⟨before, run, after, rfl, quote, filled, all⟩ := accepts_quoted accepts
    have opening : unquoted (before ++ (run ++ after) ++ rest) = run ++ (after ++ rest) := by
      rcases quote with rfl | rfl
      · rw [List.nil_append, List.append_assoc]
        exact unquoted_of_run plain filled all _
      · simp [unquoted]
    obtain ⟨h, formed⟩ := runForm_of_head filled all (after ++ rest)
    exact ⟨h, by rwa [quotedForm, opening]⟩

theorem flagForm_of : flagForm.Of flagValue where
  solid := by
    rintro u g ⟨rfl | rfl, rest, rfl⟩
    · exact forall_head_cons (by decide) _
    · exact forall_head_cons (by decide) _
  found := by
    rintro u g ⟨isFlag, rest, rfl⟩
    unfold flagValue
    rw [first_group, first_alt]
    rcases isFlag with rfl | rfl
    · rw [first_word]
      exact ⟨_, _, rfl⟩
    · exact ⟨_, _, rfl⟩
  reads := by
    intro u g accepts rest
    exact ⟨u, (accepts_flagValue accepts).1, rest, rfl⟩

theorem listForm_of : listForm.Of listValue where
  solid := by
    rintro u g ⟨-, -, rest, rfl⟩
    exact forall_head_cons (by decide) _
  found := by
    rintro u g ⟨filled, free, rest, rfl⟩
    have left : (one (· = '[')).first ('[' :: (g ++ ']' :: rest)) = .some ⟨['['], none, g ++ ']' :: rest⟩ :=
      first_one (by simp) _
    have body : (group (plus (· ≠ ']'))).first (g ++ ']' :: rest) = .some ⟨g, .some g, ']' :: rest⟩ := by
      have inside : ∀ c ∈ g, decide (c ≠ ']') = true := by
        intro c member
        refine decide_eq_true fun same => free ?_
        rwa [← same]
      rw [first_group, first_plus filled inside (by simp)]
      rfl
    have right : (one (· = ']')).first (']' :: rest) = .some ⟨[']'], none, rest⟩ := first_one (by simp) _
    exact ⟨_, _, first_seq left (first_seq body right)⟩
  reads := by
    intro u g accepts rest
    obtain ⟨body, rfl, -, filled, free⟩ := accepts_listValue accepts
    exact ⟨body, filled, free, rest, by simp⟩

/-- A kind of character is apart from white space if none of the six spaces is of the kind. -/
theorem not_isSpace {p : Char → Bool} (solid : ([' ', '\t', '\n', '\x0b', '\x0c', '\r'].all fun c => !p c) = true) :
    ∀ c, p c = true → isSpace c = false := by
  intro c kind
  rw [← Bool.not_eq_true]
  intro space
  have other := List.all_eq_true.mp solid c (List.contains_iff_mem.mp space)
  rw [kind] at other
  cases other

theorem nameForm_of : (quotedForm isNameChar).Of (quoted isNameChar) :=
  quotedForm_of (by decide) (not_isSpace (by decide))

theorem digitsForm_of : (runForm Char.isDigit).Of (group (plus Char.isDigit)) :=
  runForm_of (not_isSpace (by decide))

/-! What a text settles. -/

theorem firstReads_iff {key : String} {form : Form} {value : Regex} (of : form.Of value) {content g : List Char}
    (extracted : extract (keyed key value) content = some g) (h : List Char) : FirstReads key form content h ↔ h = g := by
  rw [← extract_iff of, extracted, Option.some.injEq, eq_comm]

/-- The value that the text gives to a key: that of the first place, or the default. -/
def Settles {V : Type} (key : String) (form : Form) (meaning : List Char → V) (default : V) (content : List Char) (v : V) :
    Prop :=
  (∃ g, FirstReads key form content g ∧ meaning g = v) ∨ (∀ g, ¬ FirstReads key form content g) ∧ default = v

theorem settles_iff {V : Type} {key : String} {form : Form} {value : Regex} (of : form.Of value)
    (meaning : List Char → V) (default : V) (content : List Char) (v : V) :
    Settles key form meaning default content v ↔
      ((extract (keyed key value) content).map meaning).getD default = v := by
  unfold Settles
  cases extracted : extract (keyed key value) content with
  | none =>
    have nothing := (extract_none_iff of).mp extracted
    simp [nothing]
  | some g => simp [firstReads_iff of extracted]

theorem Settles.unique {V : Type} {key : String} {form : Form} {value : Regex} (of : form.Of value)
    {meaning : List Char → V} {default : V} {content : List Char} {v v' : V}
    (settles : Settles key form meaning default content v) (settles' : Settles key form meaning default content v') :
    v = v' :=
  ((settles_iff of _ _ _ _).mp settles).symm.trans ((settles_iff of _ _ _ _).mp settles')

theorem Settles.congr {V : Type} {key : String} {form : Form} {value : Regex} (of : form.Of value)
    {meaning : List Char → V} {default : V} {content content' : List Char}
    (same : extract (keyed key value) content = extract (keyed key value) content') {v : V} :
    Settles key form meaning default content v ↔ Settles key form meaning default content' v := by
  rw [settles_iff of, settles_iff of, same]

theorem Settles.exists {V : Type} {key : String} {form : Form} {value : Regex} (of : form.Of value)
    (meaning : List Char → V) (default : V) (content : List Char) : ∃ v, Settles key form meaning default content v :=
  ⟨_, (settles_iff of _ _ _ _).mpr rfl⟩

theorem Settles.shared {V : Type} {key : String} {form : Form} {value : Regex} (of : form.Of value)
    (meaning : List Char → V) (default : V) {content content' : List Char}
    (same : extract (keyed key value) content = extract (keyed key value) content') :
    ∃ v, Settles key form meaning default content v ∧ Settles key form meaning default content' v := by
  obtain ⟨v, settled⟩ := Settles.exists of meaning default content
  exact ⟨v, settled, (Settles.congr of same).mp settled⟩

/-- The names in the brackets that are in the loader's table, as numbers. -/
def Names (body : List Char) (syscallNr : UInt32) : Prop :=
  ∃ run ∈ words isWord body, resolveSyscallName (String.ofList run) = some syscallNr

def NameIs (yamlPath : Path) : List Char → String → Prop :=
  Settles "policy_name" (quotedForm isNameChar) String.ofList yamlPath.stem

def FlagIs (key : String) (default : Bool) : List Char → Bool → Prop :=
  Settles key flagForm (fun text => decide (text = "true".toList)) default

/-- The number may be too great for the conversion. -/
def TimeoutIs : List Char → Nat → Prop :=
  Settles "max_execution_time_sec" (runForm Char.isDigit) (fun digits => Nat.ofDigitChars 10 digits 0) 30

def Lists (key : String) (content : List Char) (syscallNr : UInt32) : Prop :=
  ∃ body, FirstReads key listForm content body ∧ Names body syscallNr

/-- The conversion of the timeout throws. -/
def TooLong (content : List Char) : Prop := ∃ n, TimeoutIs content n ∧ 2 ^ 64 ≤ n

theorem mem_syscallsOf_iff (key : String) (content : List Char) (syscallNr : UInt32) :
    syscallNr ∈ syscallsOf (keyed key listValue) content ↔ Lists key content syscallNr := by
  unfold syscallsOf Lists
  cases extracted : extract (keyed key listValue) content with
  | none =>
    have nothing := (extract_none_iff listForm_of).mp extracted
    simp [nothing]
  | some body => simp [firstReads_iff listForm_of extracted, mem_insertResolved, tokens_eq_words, Names]

theorem lists_iff_extract (key : String) (content : List Char) (syscallNr : UInt32) :
    Lists key content syscallNr ↔
      ∃ body, extract (keyed key listValue) content = some body ∧ Names body syscallNr := by
  simp only [Lists, extract_iff listForm_of]

/-- The policy is what the text settles. -/
structure Reading (yamlPath : Path) (content : List Char) (policy : SecurityPolicy) : Prop where
  name : NameIs yamlPath content policy.policyName
  egress : FlagIs "block_all_network_egress" false content policy.networkRule.blockAllEgress
  metadata : FlagIs "block_cloud_metadata_ips" true content policy.networkRule.blockCloudMetadata
  timeout : ∃ n < 2 ^ 64, TimeoutIs content n ∧ policy.maxExecutionTimeSec = UInt32.ofNat n
  allowed : ∀ syscallNr, syscallNr ∈ policy.syscallRule.allowedSyscalls ↔ Lists "allowed_sys_calls" content syscallNr
  blocked : ∀ syscallNr, syscallNr ∈ policy.syscallRule.blockedSyscalls ↔ Lists "blocked_sys_calls" content syscallNr
  fixed : policy.networkRule.blockedCidrs = [] ∧ policy.networkRule.blockedIpsNetworkOrder = [] ∧
    policy.syscallRule.defaultAllow = false

theorem timeoutOf_eq {content : List Char} {n : Nat} (settled : TimeoutIs content n) :
    timeoutOf content 30 = if n < 2 ^ 64 then some (UInt32.ofNat n) else none := by
  have value := (settles_iff digitsForm_of _ _ _ _).mp settled
  subst value
  unfold timeoutOf timeoutRegex
  cases extract (keyed "max_execution_time_sec" (group (plus Char.isDigit))) content with
  | none => rfl
  | some digits =>
    simp only [stoul, Option.map_some, Option.getD_some]
    split
    · rfl
    · rfl

theorem flagOf_settled (key : String) (default : Bool) (content : List Char) :
    FlagIs key default content (flagOf (keyed key flagValue) content default) := by
  unfold FlagIs flagOf
  rw [settles_iff flagForm_of]
  cases extract (keyed key flagValue) content with
  | none => rfl
  | some text => rfl

theorem nameOf_settled (yamlPath : Path) (content : List Char) : NameIs yamlPath content (nameOf yamlPath content) := by
  unfold NameIs nameOf
  rw [settles_iff nameForm_of, nameRegex]
  cases extract (keyed "policy_name" (quoted isNameChar)) content with
  | none => rfl
  | some name => rfl

theorem exists_timeoutIs (content : List Char) : ∃ n, TimeoutIs content n :=
  Settles.exists digitsForm_of _ _ content

theorem yamlPolicy_reading {yamlPath : Path} {content : List Char} {policy : SecurityPolicy}
    (parsed : yamlPolicy yamlPath content = some policy) : Reading yamlPath content policy := by
  obtain ⟨seconds, converted, rfl⟩ := Option.map_eq_some_iff.mp parsed
  obtain ⟨n, settled⟩ := exists_timeoutIs content
  have timed := (timeoutOf_eq settled).symm.trans converted
  obtain ⟨small, rfl⟩ : n < 2 ^ 64 ∧ UInt32.ofNat n = seconds := by simpa using timed
  exact ⟨nameOf_settled yamlPath content, flagOf_settled _ _ content, flagOf_settled _ _ content, ⟨n, small, settled, rfl⟩,
    mem_syscallsOf_iff _ content, mem_syscallsOf_iff _ content, rfl, rfl, rfl⟩

theorem yamlPolicy_none_iff (yamlPath : Path) (content : List Char) :
    yamlPolicy yamlPath content = none ↔ TooLong content := by
  obtain ⟨n, settled⟩ := exists_timeoutIs content
  have only : TooLong content ↔ 2 ^ 64 ≤ n := by
    refine ⟨fun ⟨m, same, great⟩ => ?_, fun great => ⟨n, settled, great⟩⟩
    rwa [Settles.unique digitsForm_of settled same]
  rw [only, yamlPolicy, Option.map_eq_none_iff, timeoutOf_eq settled]
  simp

/-! Two texts. -/

/-- Equality of policies; the sets have no order. -/
structure SecurityPolicy.Same (policy other : SecurityPolicy) : Prop where
  name : policy.policyName = other.policyName
  network : policy.networkRule = other.networkRule
  timeout : policy.maxExecutionTimeSec = other.maxExecutionTimeSec
  allowed : ∀ syscallNr, syscallNr ∈ policy.syscallRule.allowedSyscalls ↔ syscallNr ∈ other.syscallRule.allowedSyscalls
  blocked : ∀ syscallNr, syscallNr ∈ policy.syscallRule.blockedSyscalls ↔ syscallNr ∈ other.syscallRule.blockedSyscalls
  default : policy.syscallRule.defaultAllow = other.syscallRule.defaultAllow

/-- The two texts settle the same values. -/
structure Agree (yamlPath : Path) (content content' : List Char) : Prop where
  name : ∃ name, NameIs yamlPath content name ∧ NameIs yamlPath content' name
  egress : ∃ flag, FlagIs "block_all_network_egress" false content flag ∧
    FlagIs "block_all_network_egress" false content' flag
  metadata : ∃ flag, FlagIs "block_cloud_metadata_ips" true content flag ∧
    FlagIs "block_cloud_metadata_ips" true content' flag
  timeout : ∃ n n', TimeoutIs content n ∧ TimeoutIs content' n' ∧ n % 2 ^ 32 = n' % 2 ^ 32
  allowed : ∀ syscallNr, Lists "allowed_sys_calls" content syscallNr ↔ Lists "allowed_sys_calls" content' syscallNr
  blocked : ∀ syscallNr, Lists "blocked_sys_calls" content syscallNr ↔ Lists "blocked_sys_calls" content' syscallNr

attribute [ext] NetworkPolicyRule

theorem ofNat_eq_iff (n n' : Nat) : UInt32.ofNat n = UInt32.ofNat n' ↔ n % 2 ^ 32 = n' % 2 ^ 32 := by
  rw [← UInt32.toNat_inj, UInt32.toNat_ofNat', UInt32.toNat_ofNat']

theorem same_iff_agree {yamlPath : Path} {content content' : List Char} {policy policy' : SecurityPolicy}
    (reading : Reading yamlPath content policy) (reading' : Reading yamlPath content' policy') :
    policy.Same policy' ↔ Agree yamlPath content content' := by
  obtain ⟨n, -, timeout, seconds⟩ := reading.timeout
  obtain ⟨n', -, timeout', seconds'⟩ := reading'.timeout
  constructor
  · intro same
    refine ⟨⟨_, reading.name, same.name ▸ reading'.name⟩, ⟨_, reading.egress, same.network ▸ reading'.egress⟩,
      ⟨_, reading.metadata, same.network ▸ reading'.metadata⟩, ⟨n, n', timeout, timeout', ?_⟩, fun syscallNr => ?_,
      fun syscallNr => ?_⟩
    · rw [← ofNat_eq_iff, ← seconds, ← seconds', same.timeout]
    · rw [← reading.allowed, ← reading'.allowed, same.allowed]
    · rw [← reading.blocked, ← reading'.blocked, same.blocked]
  · intro agree
    obtain ⟨name, here, there⟩ := agree.name
    obtain ⟨flag, egress, egress'⟩ := agree.egress
    obtain ⟨flag', metadata, metadata'⟩ := agree.metadata
    obtain ⟨m, m', number, number', congruent⟩ := agree.timeout
    obtain ⟨cidrs, ips, default⟩ := reading.fixed
    obtain ⟨cidrs', ips', default'⟩ := reading'.fixed
    refine ⟨?_, ?_, ?_, fun syscallNr => ?_, fun syscallNr => ?_, default.trans default'.symm⟩
    · exact (Settles.unique nameForm_of reading.name here).trans (Settles.unique nameForm_of there reading'.name)
    · have all :=
        (Settles.unique flagForm_of reading.egress egress).trans (Settles.unique flagForm_of egress' reading'.egress)
      have endpoint :=
        (Settles.unique flagForm_of reading.metadata metadata).trans (Settles.unique flagForm_of metadata' reading'.metadata)
      exact NetworkPolicyRule.ext all endpoint (cidrs.trans cidrs'.symm) (ips.trans ips'.symm)
    · rw [seconds, seconds', ofNat_eq_iff, Settles.unique digitsForm_of timeout number,
        Settles.unique digitsForm_of timeout' number', congruent]
    · rw [reading.allowed, reading'.allowed, agree.allowed]
    · rw [reading.blocked, reading'.blocked, agree.blocked]

/-- On every engine the two loads have the same outcome and leave the same policies. -/
def SameLoad (yamlPath : Path) (file file' : YamlFile) : Prop :=
  ∀ engine : PolicyEngine,
    ((loadFromYaml yamlPath file).ends engine).1 = ((loadFromYaml yamlPath file').ends engine).1 ∧
    ∀ policyName, Option.Rel SecurityPolicy.Same (((loadFromYaml yamlPath file).ends engine).2.getPolicy policyName)
      (((loadFromYaml yamlPath file').ends engine).2.getPolicy policyName)

/-- The conversion throws for both texts, or for neither and they settle the same values. -/
def Alike (yamlPath : Path) (content content' : List Char) : Prop :=
  TooLong content ∧ TooLong content' ∨ ¬ TooLong content ∧ ¬ TooLong content' ∧ Agree yamlPath content content'

theorem SecurityPolicy.same_refl (policy : SecurityPolicy) : policy.Same policy :=
  ⟨rfl, rfl, rfl, fun _ => Iff.rfl, fun _ => Iff.rfl, rfl⟩

theorem rel_same_refl : ∀ policy : Option SecurityPolicy, Option.Rel SecurityPolicy.Same policy policy
  | none => .none
  | some policy => .some policy.same_refl

/-- Whether the loader gets to see the text. -/
def YamlFile.Readable (file : YamlFile) : Prop := file.found = .yes ∧ file.opens = true

theorem loadFromYaml_ends (yamlPath : Path) {file : YamlFile} (readable : file.Readable) (engine : PolicyEngine) :
    (loadFromYaml yamlPath file).ends engine =
      match yamlPolicy yamlPath file.content with
      | none => (.threw, engine)
      | some policy => (.returned .success, engine.put policy) := by
  unfold loadFromYaml
  rw [readable.1, readable.2]
  cases yamlPolicy yamlPath file.content with
  | none => rfl
  | some policy => rfl

theorem loadFromYaml_unread {yamlPath : Path} {file : YamlFile} {engine : PolicyEngine}
    (unreadable : ¬ file.Readable) :
    (loadFromYaml yamlPath file).ends engine =
      (if file.found = .throws then .threw else .returned .errPolicyViolation, engine) := by
  unfold loadFromYaml
  cases found : file.found with
  | throws => rfl
  | no => rfl
  | yes =>
    have closed : file.opens = false := by
      rw [← Bool.not_eq_true]
      exact fun opens => unreadable ⟨found, opens⟩
    rw [closed]
    rfl

/-- A file that cannot be read changes nothing, and its text makes no difference. -/
theorem loadFromYaml_unreadable (yamlPath : Path) {file : YamlFile} (unreadable : ¬ file.Readable) :
    ∃ outcome, outcome ≠ .returned .success ∧ ∀ content engine,
      (loadFromYaml yamlPath { file with content }).ends engine = (outcome, engine) := by
  refine ⟨if file.found = .throws then .threw else .returned .errPolicyViolation, ?_, fun content engine => ?_⟩
  · split
    · simp
    · simp
  · have still : ¬ { file with content : YamlFile }.Readable := unreadable
    exact loadFromYaml_unread still

/-- Stored over the same policies, two policies are seen to be the same or not. -/
theorem put_same_iff (policy policy' : SecurityPolicy) :
    (∀ (engine : PolicyEngine) policyName, Option.Rel SecurityPolicy.Same ((engine.put policy).getPolicy policyName)
      ((engine.put policy').getPolicy policyName)) ↔ policy.Same policy' := by
  constructor
  · intro seen
    -- an empty engine shows what was stored
    have here := seen {} policy.policyName
    rw [getPolicy_put_self, getPolicy_put] at here
    have empty : ({} : PolicyEngine).getPolicy policy.policyName = none := rfl
    rw [empty, Option.or_none] at here
    by_cases named : policy'.policyName = policy.policyName
    · rw [Option.filter_some, if_pos (by simpa using named)] at here
      cases here with
      | some same => exact same
    · rw [Option.filter_some, if_neg (by simpa using named)] at here
      cases here
  · intro same engine policyName
    rw [getPolicy_put, getPolicy_put, Option.filter_some, Option.filter_some, same.name]
    split
    · exact .some same
    · exact rel_same_refl _

theorem sameLoad_iff (yamlPath : Path) (file : YamlFile) (content content' : List Char) :
    SameLoad yamlPath { file with content } { file with content := content' } ↔
      ¬ file.Readable ∨ Alike yamlPath content content' := by
  by_cases readable : file.Readable
  · have here (text : List Char) := @loadFromYaml_ends yamlPath { file with content := text } readable
    have inhabited : Nonempty PolicyEngine := ⟨{}⟩
    unfold SameLoad Alike
    simp only [here, ← yamlPolicy_none_iff yamlPath, readable, not_true, false_or]
    cases parsed : yamlPolicy yamlPath content with
    | none =>
      cases parsed' : yamlPolicy yamlPath content' with
      | none => simp [rel_same_refl]
      | some policy' => simp
    | some policy =>
      cases parsed' : yamlPolicy yamlPath content' with
      | none => simp
      | some policy' => simp [put_same_iff, same_iff_agree (yamlPolicy_reading parsed) (yamlPolicy_reading parsed')]
  · obtain ⟨outcome, -, ended⟩ := loadFromYaml_unreadable yamlPath readable
    refine iff_of_true (fun engine => ?_) (.inl readable)
    rw [ended content, ended content']
    exact ⟨rfl, fun policyName => rel_same_refl _⟩

/-- Where the timeout can be converted, texts that load the same settle the same values. -/
theorem agree_of_sameLoad {yamlPath : Path} {content content' : List Char}
    (same : SameLoad yamlPath { content } { content := content' }) (converts : (timeoutOf content 30).isSome = true) :
    Agree yamlPath content content' := by
  rcases (sameLoad_iff yamlPath {} content content').mp same with unreadable | ⟨throws, -⟩ | ⟨-, -, agree⟩
  · exact absurd ⟨rfl, rfl⟩ unreadable
  · have nothing := (yamlPolicy_none_iff yamlPath content).mpr throws
    rw [yamlPolicy, Option.map_eq_none_iff] at nothing
    rw [nothing] at converts
    cases converts
  · exact agree

/-! The list of blocked system calls. -/

/-- After a success every name is resolved and its number is among the blocked ones of the stored
policy; a name that is not in the table makes the load fail, and nothing is stored. -/
def KeepsBlocked (engine : PolicyEngine) (yamlPath : Path) (file : YamlFile) (runs : List (List Char)) : Prop :=
  (((loadFromYaml yamlPath file).ends engine).1 = .returned .success →
    ∃ policy, yamlPolicy yamlPath file.content = some policy ∧
      ((loadFromYaml yamlPath file).ends engine).2 = engine.put policy ∧
      ∀ run ∈ runs, ∃ syscallNr, resolveSyscallName (String.ofList run) = some syscallNr ∧
        syscallNr ∈ policy.syscallRule.blockedSyscalls) ∧
  ((∃ run ∈ runs, resolveSyscallName (String.ofList run) = none) →
    ((loadFromYaml yamlPath file).ends engine).1 ≠ .returned .success ∧
      ((loadFromYaml yamlPath file).ends engine).2 = engine)

section
variable {engine : PolicyEngine} {yamlPath : Path} {file : YamlFile} {runs : List (List Char)}

theorem keepsBlocked_of_failed {outcome : Outcome Status} (unsuccessful : outcome ≠ .returned .success)
    (ended : (loadFromYaml yamlPath file).ends engine = (outcome, engine)) : KeepsBlocked engine yamlPath file runs := by
  unfold KeepsBlocked
  rw [ended]
  exact ⟨fun success => absurd success unsuccessful, fun _ => ⟨unsuccessful, rfl⟩⟩

theorem keepsBlocked_of_stored {policy : SecurityPolicy} (readable : file.Readable)
    (parsed : yamlPolicy yamlPath file.content = some policy) :
    KeepsBlocked engine yamlPath file runs ↔ ∀ run ∈ runs, ∃ syscallNr,
      resolveSyscallName (String.ofList run) = some syscallNr ∧ Lists "blocked_sys_calls" file.content syscallNr := by
  unfold KeepsBlocked
  simp only [loadFromYaml_ends yamlPath readable, parsed, Option.some.injEq, exists_eq_left', true_and, forall_const,
    ne_eq, not_true, false_and, imp_false, (yamlPolicy_reading parsed).blocked]
  refine and_iff_left_of_imp fun kept ⟨run, member, unknown⟩ => ?_
  obtain ⟨syscallNr, resolved, -⟩ := kept run member
  rw [unknown] at resolved
  cases resolved

end

/-- A list that is not empty, anywhere behind the key, makes the text read as some list. -/
theorem firstReads_of_entry {key : String} {content body : List Char} (entry : Entry content key ('[' :: (body ++ [']'])))
    (flow : ']' ∉ body) (filled : body ≠ []) : ∃ first, FirstReads key listForm content first := by
  obtain ⟨before, spaces, spaces', after, white, white', rfl⟩ := entry
  apply exists_firstReads listForm_of (List.suffix_append before _)
  refine ⟨spaces, spaces', '[' :: (body ++ ']' :: after), List.all_eq_true.mp white, List.all_eq_true.mp white', ?_, ?_⟩
  · exact ⟨filled, flow, after, rfl⟩
  · simp

/-- The names of a flow list are all kept just if the load fails on other grounds, or they are
all in the table and the first list the text has behind the key names them too. -/
theorem blocked_kept_iff (engine : PolicyEngine) (yamlPath : Path) (file : YamlFile) (body : List Char)
    (entry : Entry file.content "blocked_sys_calls" ('[' :: (body ++ [']']))) (flow : ']' ∉ body) :
    KeepsBlocked engine yamlPath file (words isWord body) ↔ ¬ file.Readable ∨ TooLong file.content ∨
      (∀ run ∈ words isWord body, resolveSyscallName (String.ofList run) ≠ none) ∧
        ∀ first, FirstReads "blocked_sys_calls" listForm file.content first →
          ∀ syscallNr, Names body syscallNr → Names first syscallNr := by
  by_cases readable : file.Readable
  · rw [← yamlPolicy_none_iff yamlPath]
    cases parsed : yamlPolicy yamlPath file.content with
    | none =>
      have ended := @loadFromYaml_ends yamlPath file readable engine
      rw [parsed] at ended
      exact iff_of_true (keepsBlocked_of_failed (by simp) ended) (.inr (.inl rfl))
    | some policy =>
      rw [keepsBlocked_of_stored readable parsed]
      simp only [readable, not_true, reduceCtorEq, false_or]
      constructor
      · intro kept
        refine ⟨fun run member unknown => ?_, fun first reads syscallNr ⟨run, member, resolved⟩ => ?_⟩
        · obtain ⟨syscallNr, resolved, -⟩ := kept run member
          rw [unknown] at resolved
          cases resolved
        · obtain ⟨syscallNr', resolved', other, reads', named⟩ := kept run member
          obtain rfl : syscallNr = syscallNr' := Option.some.inj (resolved.symm.trans resolved')
          have same : first = other :=
            Option.some.inj (((extract_iff listForm_of).mpr reads).symm.trans ((extract_iff listForm_of).mpr reads'))
          rwa [same]
      · rintro ⟨known, covered⟩ run member
        -- a list with a name in it is not empty, so that the search finds this list or an earlier one
        have filled : body ≠ [] := by
          rintro rfl
          rw [words_nil] at member
          cases member
        obtain ⟨first, reads⟩ := firstReads_of_entry entry flow filled
        obtain ⟨syscallNr, resolved⟩ := Option.ne_none_iff_exists'.mp (known run member)
        exact ⟨syscallNr, resolved, first, reads, covered first reads syscallNr ⟨run, member, resolved⟩⟩
  · obtain ⟨outcome, unsuccessful, ended⟩ := loadFromYaml_unreadable yamlPath readable
    exact iff_of_true (keepsBlocked_of_failed unsuccessful (ended file.content engine)) (.inl readable)

def knownList : List Char := "\"ptrace\", reboot".toList

def knownFile : YamlFile where
  content := "policy_name: kept\nblocked_sys_calls: [".toList ++ (knownList ++ "]\n".toList)

theorem known_names_kept : KeepsBlocked .init ⟨false, ["kept.yaml"]⟩ knownFile (words isWord knownList) := by
  have entry : Entry knownFile.content "blocked_sys_calls" ('[' :: (knownList ++ [']'])) :=
    ⟨"policy_name: kept\n".toList, [], [' '], ['\n'], rfl, rfl, by decide⟩
  have extracted : extract (keyed "blocked_sys_calls" listValue) knownFile.content = some knownList := by decide +kernel
  have resolved : (words isWord knownList).all (fun run => (resolveSyscallName (String.ofList run)).isSome) = true := by
    decide +kernel
  refine (blocked_kept_iff _ _ knownFile knownList entry (by decide)).mpr (.inr (.inr ⟨fun run member unknown => ?_, ?_⟩))
  · have yes := List.all_eq_true.mp resolved run member
    rw [unknown] at yes
    cases yes
  · intro first reads
    obtain rfl := (firstReads_iff listForm_of extracted first).mp reads
    exact fun syscallNr named => named

/-- A list as in the sample file, with a name that is not in the table. -/
def droppedFile : YamlFile where
  content := "policy_name: dropped\nblocked_sys_calls: [\"ptrace\", \"kexec_load\"]\n".toList

theorem kexec_load_dropped :
    Entry droppedFile.content "blocked_sys_calls" "[\"ptrace\", \"kexec_load\"]".toList ∧
      ¬ KeepsBlocked .init ⟨false, ["dropped.yaml"]⟩ droppedFile (words isWord "\"ptrace\", \"kexec_load\"".toList) := by
  refine ⟨⟨"policy_name: dropped\n".toList, [], [' '], ['\n'], rfl, rfl, by decide⟩, fun kept => ?_⟩
  have unknown : "kexec_load".toList ∈ words isWord "\"ptrace\", \"kexec_load\"".toList ∧
      resolveSyscallName (String.ofList "kexec_load".toList) = none := by decide +kernel
  obtain ⟨unsuccessful, -⟩ := kept.2 ⟨_, unknown.1, unknown.2⟩
  exact unsuccessful rfl

/-! The timeout. -/

/-- The load stores the number as it is under the policy's name, or it returns a failure and
stores nothing. -/
def KeepsTimeout (engine : PolicyEngine) (yamlPath : Path) (file : YamlFile) (v : Nat) : Prop :=
  (∃ after policyName policy, (loadFromYaml yamlPath file).ends engine = (.returned .success, after) ∧
    NameIs yamlPath file.content policyName ∧ after.getPolicy policyName = some policy ∧
    policy.maxExecutionTimeSec.toNat = v) ∨
  ∃ status, status ≠ .success ∧ (loadFromYaml yamlPath file).ends engine = (.returned status, engine)

section
variable {engine : PolicyEngine} {yamlPath : Path} {file : YamlFile}

theorem keepsTimeout_of_readable (readable : file.Readable) {n : Nat} (settled : TimeoutIs file.content n) (v : Nat) :
    KeepsTimeout engine yamlPath file v ↔ n < 2 ^ 64 ∧ n % 2 ^ 32 = v := by
  have ended := loadFromYaml_ends yamlPath readable engine
  unfold KeepsTimeout
  cases parsed : yamlPolicy yamlPath file.content with
  | none =>
    obtain ⟨m, same, great⟩ := (yamlPolicy_none_iff yamlPath _).mp parsed
    obtain rfl : n = m := Settles.unique digitsForm_of settled same
    rw [parsed] at ended
    refine iff_of_false ?_ fun kept => Nat.not_lt.mpr great kept.1
    simp [ended]
  | some policy =>
    have reading := yamlPolicy_reading parsed
    obtain ⟨m, small, same, seconds⟩ := reading.timeout
    obtain rfl : n = m := Settles.unique digitsForm_of settled same
    have stored : policy.maxExecutionTimeSec.toNat = n % 2 ^ 32 := by rw [seconds, UInt32.toNat_ofNat']
    rw [parsed] at ended
    rw [ended, ← stored]
    constructor
    · rintro (⟨after, policyName, policy', returned, named, found, rfl⟩ | ⟨status, failed, returned⟩)
      · obtain ⟨-, rfl⟩ := Prod.mk.inj returned
        obtain rfl := Settles.unique nameForm_of reading.name named
        rw [getPolicy_put_self] at found
        obtain rfl := Option.some.inj found
        exact ⟨small, rfl⟩
      · obtain ⟨same, -⟩ := Prod.mk.inj returned
        cases same
        exact absurd rfl failed
    · rintro ⟨-, rfl⟩
      exact .inl ⟨_, policy.policyName, policy, rfl, reading.name, getPolicy_put_self engine policy, rfl⟩

theorem keepsTimeout_of_unreadable (unreadable : ¬ file.Readable) (v : Nat) :
    KeepsTimeout engine yamlPath file v ↔ file.found ≠ .throws := by
  unfold KeepsTimeout
  rw [loadFromYaml_unread unreadable]
  by_cases throws : file.found = .throws
  · simp [throws]
  · simp [throws]

end

/-- The number behind the key is kept just if looking for the file does not throw and, where
the file can be read, the first number the text has behind the key is below 2^64 and the same
modulo 2^32. Where the entry is the first, its number has to be below 2^32. -/
theorem timeout_kept_iff (engine : PolicyEngine) (yamlPath : Path) (file : YamlFile) (s digits : List Char)
    (inside : s <:+ file.content) (entry : Reads "max_execution_time_sec" (runForm Char.isDigit) s digits) :
    (KeepsTimeout engine yamlPath file (Nat.ofDigitChars 10 digits 0) ↔
      file.found ≠ .throws ∧ (file.Readable →
        ∃ first, FirstReads "max_execution_time_sec" (runForm Char.isDigit) file.content first ∧
          Nat.ofDigitChars 10 first 0 < 2 ^ 64 ∧
          Nat.ofDigitChars 10 first 0 % 2 ^ 32 = Nat.ofDigitChars 10 digits 0)) ∧
    (FirstReads "max_execution_time_sec" (runForm Char.isDigit) file.content digits →
      (KeepsTimeout engine yamlPath file (Nat.ofDigitChars 10 digits 0) ↔
        file.found ≠ .throws ∧ (file.Readable → Nat.ofDigitChars 10 digits 0 < 2 ^ 32))) := by
  by_cases readable : file.Readable
  · have found : file.found ≠ .throws := by simp [readable.1]
    obtain ⟨first, reads⟩ := exists_firstReads digitsForm_of inside entry
    have only := firstReads_iff digitsForm_of ((extract_iff digitsForm_of).mpr reads)
    rw [keepsTimeout_of_readable readable (.inl ⟨first, reads, rfl⟩)]
    refine ⟨?_, fun here => ?_⟩
    · simp [found, readable, only]
    · obtain rfl := (only digits).mp here
      simp only [ne_eq, found, not_false_eq_true, readable, forall_const, true_and]
      omega
  · rw [keepsTimeout_of_unreadable readable]
    simp [readable]

def secondsFile : YamlFile where
  content := "policy_name: timed\nmax_execution_time_sec: 0045\n".toList

theorem seconds_kept : KeepsTimeout .init ⟨false, ["timed.yaml"]⟩ secondsFile 45 := by
  have reads : Reads "max_execution_time_sec" (runForm Char.isDigit) "max_execution_time_sec: 0045\n".toList
      "0045".toList := by
    have digits : ∀ c ∈ "0045".toList, c.isDigit = true := List.all_eq_true.mp (by decide)
    exact ⟨[], [' '], "0045\n".toList, by simp, by simp [isSpace], ⟨by decide, digits, ['\n'], rfl, by simp⟩, rfl⟩
  have first : extract (keyed "max_execution_time_sec" (.group (.plus Char.isDigit))) secondsFile.content =
      some "0045".toList := by decide +kernel
  have inside : "max_execution_time_sec: 0045\n".toList <:+ secondsFile.content :=
    ⟨"policy_name: timed\n".toList, by decide⟩
  have kept := (timeout_kept_iff .init ⟨false, ["timed.yaml"]⟩ secondsFile _ _ inside reads).2
    ((extract_iff digitsForm_of).mp first)
  exact kept.mpr ⟨by decide, fun _ => by decide⟩

/-- One more than the greatest number of 32 bits, and one more than the greatest of 64. -/
def wrappedFile : YamlFile where
  content := "policy_name: wrapped\nmax_execution_time_sec: 4294967296\n".toList

def hugeFile : YamlFile where
  content := "policy_name: huge\nmax_execution_time_sec: 18446744073709551616\n".toList

theorem great_timeouts_altered :
    (((loadFromYaml ⟨false, ["wrapped.yaml"]⟩ wrappedFile).ends .init).1 = .returned .success ∧
      (((loadFromYaml ⟨false, ["wrapped.yaml"]⟩ wrappedFile).ends .init).2.getPolicy "wrapped").map
        (·.maxExecutionTimeSec) = some 0) ∧
    ((loadFromYaml ⟨false, ["huge.yaml"]⟩ hugeFile).ends .init).1 = .threw ∧
    ¬ KeepsTimeout .init ⟨false, ["wrapped.yaml"]⟩ wrappedFile 4294967296 ∧
    ¬ KeepsTimeout .init ⟨false, ["huge.yaml"]⟩ hugeFile 18446744073709551616 := by
  have wrapped : TimeoutIs wrappedFile.content 4294967296 := by
    refine (settles_iff digitsForm_of _ _ _ _).mpr ?_
    decide +kernel
  have huge : TimeoutIs hugeFile.content 18446744073709551616 := by
    refine (settles_iff digitsForm_of _ _ _ _).mpr ?_
    decide +kernel
  refine ⟨by decide +kernel, by decide +kernel, fun kept => ?_, fun kept => ?_⟩
  · exact absurd ((keepsTimeout_of_readable ⟨rfl, rfl⟩ wrapped _).mp kept).2 (by decide)
  · exact absurd ((keepsTimeout_of_readable ⟨rfl, rfl⟩ huge _).mp kept).1 (by decide)

end Aegis.Policy
