import Aegis.Policy.Store

/-! What the loader's searches can find in an arbitrary text. -/

set_option autoImplicit false

namespace Aegis.Policy
open Library Regex

/-! A key and its value. -/

/-- The text has the key, a colon and the value somewhere, with white space around the colon. -/
def Entry (content : List Char) (key : String) (value : List Char) : Prop :=
  ∃ before spaces spaces' after, spaces.all isSpace = true ∧ spaces'.all isSpace = true ∧
    content = before ++ (key.toList ++ (spaces ++ ':' :: (spaces' ++ (value ++ after))))

theorem accepts_keyed {key : String} {value : Regex} {t : List Char} {g : Option (List Char)}
    (accepts : (keyed key value).Accepts t g) :
    ∃ spaces spaces' u, spaces.all isSpace = true ∧ spaces'.all isSpace = true ∧ value.Accepts u g ∧
      t = key.toList ++ (spaces ++ ':' :: (spaces' ++ u)) := by
  obtain ⟨word, t₁, g₀, g₁, isKey, ⟨spaces, t₂, g₂, g₃, ⟨white, rfl⟩, ⟨colon, t₃, g₄, g₅,
    ⟨⟨c, isColon, rfl⟩, rfl⟩, ⟨spaces', u, g₆, g₇, ⟨white', rfl⟩, valued, rfl, rfl⟩, rfl, rfl⟩, rfl, rfl⟩, rfl, rfl⟩ := accepts
  obtain ⟨rfl, rfl⟩ := accepts_word isKey
  obtain rfl : c = ':' := by simpa using isColon
  refine ⟨spaces, spaces', u, List.all_eq_true.mpr white, List.all_eq_true.mpr white', ?_, rfl⟩
  simpa using valued

/-- A key and a value, with any white space around the colon. -/
theorem first_keyed_spaces {key : String} {value : Regex} {spaces spaces' u : List Char} {m : Match}
    (white : ∀ c ∈ spaces, isSpace c = true) (white' : ∀ c ∈ spaces', isSpace c = true)
    (solid : ∀ c ∈ u.head?, isSpace c = false) (found : value.first u = some m) :
    ∃ text, (keyed key value).first (key.toList ++ (spaces ++ ':' :: (spaces' ++ u))) = some ⟨text, m.group, m.rest⟩ := by
  have before : (many isSpace).first (spaces ++ ':' :: (spaces' ++ u)) = some ⟨spaces, none, ':' :: (spaces' ++ u)⟩ :=
    first_many_append white (by simp [isSpace])
  have colon : (one (· = ':')).first (':' :: (spaces' ++ u)) = some ⟨[':'], none, spaces' ++ u⟩ := first_one (by simp) _
  have behind : (many isSpace).first (spaces' ++ u) = some ⟨spaces', none, u⟩ := first_many_append white' solid
  have whole := first_seq (first_word key.toList _) (first_seq before (first_seq colon (first_seq behind found)))
  simp only [Match.extend, Option.or_none] at whole
  exact ⟨_, whole⟩

/-- What is extracted for a key is the value of an entry. -/
theorem extract_keyed {key : String} {value : Regex} {content found : List Char}
    (extracted : extract (keyed key value) content = some found) :
    ∃ u g, Entry content key u ∧ value.Accepts u g ∧ found = g.getD [] := by
  obtain ⟨m, search, rfl⟩ := Option.map_eq_some_iff.mp extracted
  obtain ⟨before, rfl, accepts⟩ := search_sound search
  obtain ⟨spaces, spaces', u, white, white', valued, whole⟩ := accepts_keyed accepts
  refine ⟨u, m.group, ⟨before, spaces, spaces', m.rest, white, white', ?_⟩, valued, rfl⟩
  simp [whole]

theorem accepts_listValue {u : List Char} {g : Option (List Char)} (accepts : listValue.Accepts u g) :
    ∃ body, u = '[' :: (body ++ [']']) ∧ g = some body ∧ body ≠ [] ∧ ']' ∉ body := by
  obtain ⟨left, t, g₀, g₁, ⟨⟨c, isLeft, rfl⟩, rfl⟩, ⟨body, right, g₂, g₃, ⟨⟨g₄, inside⟩, rfl⟩, ⟨⟨d, isRight, rfl⟩, rfl⟩,
    rfl, rfl⟩, rfl, rfl⟩ := accepts
  obtain ⟨filled, all, -⟩ := accepts_plus inside
  obtain rfl : c = '[' := by simpa using isLeft
  obtain rfl : d = ']' := by simpa using isRight
  exact ⟨body, rfl, rfl, filled, fun member => absurd (all _ member) (by decide)⟩

theorem accepts_flagValue {u : List Char} {g : Option (List Char)} (accepts : flagValue.Accepts u g) :
    (u = "true".toList ∨ u = "false".toList) ∧ g = some u := by
  obtain ⟨⟨g', isTrue | isFalse⟩, rfl⟩ := accepts
  · exact ⟨.inl (accepts_word isTrue).1, rfl⟩
  · exact ⟨.inr (accepts_word isFalse).1, rfl⟩

/-! Tokens: a word, with or without quotes. -/

def unquoted (w : List Char) : List Char := if w.head? = some '"' then w.tail else w

theorem first_quote (w : List Char) : ∃ text, (optional (one (· = '"'))).first w = some ⟨text, none, unquoted w⟩ := by
  unfold Regex.optional
  rw [first_alt, first_empty]
  cases w with
  | nil => exact ⟨[], rfl⟩
  | cons c w =>
    by_cases quote : c = '"'
    · subst quote
      exact ⟨['"'], by rw [first_one (by simp)]; rfl⟩
    · exact ⟨[], by rw [first_one_refused (by simp [quote])]; simp [unquoted, quote]⟩

section
variable {p : Char → Bool}

theorem unquoted_of_run (plain : p '"' = false) {run : List Char} (filled : run ≠ []) (all : ∀ c ∈ run, p c = true)
    (rest : List Char) :
    unquoted (run ++ rest) = run ++ rest := by
  obtain ⟨c, run, rfl⟩ := List.exists_cons_of_ne_nil filled
  have word := all c List.mem_cons_self
  have other : c ≠ '"' := by
    rintro rfl
    rw [plain] at word
    cases word
  simp [unquoted, other]

/-- A word is captured whole, be it quoted or not. -/
theorem first_quoted {w run rest : List Char} (opening : unquoted w = run ++ rest) (filled : run ≠ [])
    (all : ∀ c ∈ run, p c = true) (ends : ∀ c ∈ rest.head?, p c = false) :
    ∃ text, (quoted p).first w = .some ⟨text, .some run, unquoted rest⟩ := by
  obtain ⟨before, quote⟩ := first_quote w
  obtain ⟨behind, quote'⟩ := first_quote rest
  have word : (group (plus p)).first (run ++ rest) = .some ⟨run, .some run, rest⟩ := by
    rw [first_group, first_plus filled all ends]
    rfl
  rw [opening] at quote
  exact ⟨_, first_seq quote (first_seq word quote')⟩

theorem accepts_quoted {t : List Char} {g : Option (List Char)} (accepts : (quoted p).Accepts t g) :
    ∃ before run after, t = before ++ (run ++ after) ∧ (before = [] ∨ before = ['"']) ∧ run ≠ [] ∧
      ∀ c ∈ run, p c = true := by
  obtain ⟨before, t', g₀, g₁, quote, ⟨run, after, g₂, g₃, ⟨⟨g₄, word⟩, -⟩, -, rfl, -⟩, rfl, -⟩ := accepts
  obtain ⟨filled, all, -⟩ := accepts_plus word
  refine ⟨before, run, after, rfl, ?_, filled, all⟩
  rcases quote with ⟨⟨c, isQuote, rfl⟩, -⟩ | ⟨rfl, -⟩
  · obtain rfl : c = '"' := by simpa using isQuote
    exact .inr rfl
  · exact .inl rfl

/-- A match starts with a word, or with a quote before a word. -/
theorem first_quoted_none {c : Char} {w : List Char} (other : p c = false)
    (apart : c ≠ '"' ∨ ∀ d ∈ w.head?, p d = false) : (quoted p).first (c :: w) = none := by
  cases found : (quoted p).first (c :: w) with
  | none => rfl
  | some m =>
    exfalso
    obtain ⟨whole, accepts⟩ := first_sound found
    obtain ⟨before, run, after, text, quote, filled, all⟩ := accepts_quoted accepts
    obtain ⟨d, run, rfl⟩ := List.exists_cons_of_ne_nil filled
    have word := all d List.mem_cons_self
    rw [text] at whole
    rcases quote with rfl | rfl
    · obtain ⟨rfl, -⟩ := List.cons.inj whole
      rw [word] at other
      cases other
    · obtain ⟨rfl, rfl⟩ := List.cons.inj whole
      rcases apart with different | different
      · exact different rfl
      · have no := different d rfl
        rw [word] at no
        cases no

theorem length_unquoted (w : List Char) : (unquoted w).length ≤ w.length := by
  unfold unquoted
  split
  · simp
  · exact Nat.le_refl _

/-- The captures of all matches. -/
def captures (r : Regex) (w : List Char) : List (List Char) := (r.iterate w).map fun m => m.group.getD []

theorem captures_of_first {r : Regex} {w text capture rest : List Char} (found : r.first w = .some ⟨text, .some capture, rest⟩)
    (shorter : rest.length < w.length) : captures r w = capture :: captures r rest := by
  rw [captures, iterate_some (search_of_first found) shorter]
  rfl

theorem captures_run (plain : p '"' = false) {run rest : List Char} (filled : run ≠ []) (all : ∀ c ∈ run, p c = true)
    (ends : ∀ c ∈ rest.head?, p c = false) :
    captures (quoted p) (run ++ rest) = run :: captures (quoted p) (unquoted rest) := by
  obtain ⟨text, found⟩ := first_quoted (unquoted_of_run plain filled all rest) filled all ends
  have positive := List.length_pos_of_ne_nil filled
  have bound := length_unquoted rest
  apply captures_of_first found
  rw [List.length_append]
  omega

/-- A character outside of words makes no difference. -/
theorem captures_skip (plain : p '"' = false) {c : Char} (other : p c = false) (w : List Char) :
    captures (quoted p) (c :: w) = captures (quoted p) w := by
  by_cases apart : c ≠ '"' ∨ ∀ d ∈ w.head?, p d = false
  · -- nothing starts here
    have nowhere := first_quoted_none other apart
    have same : (quoted p).search (c :: w) = (quoted p).search w := by simp [search, nowhere]
    cases found : (quoted p).search w with
    | none =>
      rw [captures, iterate_none (same.trans found), captures, iterate_none found]
    | some m =>
      obtain ⟨before, whole, accepts⟩ := search_sound found
      obtain ⟨quote, run, quote', text, -, filled, -⟩ := accepts_quoted accepts
      have positive := List.length_pos_of_ne_nil filled
      have shorter : m.rest.length < w.length := by
        rw [whole, text]
        simp only [List.length_append]
        omega
      have shorter' : m.rest.length < (c :: w).length := Nat.lt_succ_of_lt shorter
      rw [captures, iterate_some (same.trans found) shorter', captures, iterate_some found shorter]
  · -- the quote belongs to the word behind it
    simp only [not_or, not_not, not_forall, Bool.not_eq_false] at apart
    obtain ⟨rfl, d, head, word⟩ := apart
    have whole : w.takeWhile p ++ w.dropWhile p = w := List.takeWhile_append_dropWhile
    have filled : w.takeWhile p ≠ [] := by
      cases w with
      | nil => cases head
      | cons e w =>
        obtain rfl : e = d := by simpa using head
        simp [word]
    have all : ∀ e ∈ w.takeWhile p, p e = true := fun e member => List.mem_takeWhile_imp member
    have ends : ∀ e ∈ (w.dropWhile p).head?, p e = false := by
      intro e member
      have stops := List.head?_dropWhile_not p w
      rw [Option.mem_def.mp member] at stops
      simpa using stops
    have opening : unquoted ('"' :: w) = w.takeWhile p ++ w.dropWhile p := whole.symm
    obtain ⟨text, found⟩ := first_quoted opening filled all ends
    have bound := length_unquoted (w.dropWhile p)
    have bound' := List.length_dropWhile_le p w
    rw [captures_of_first found (by rw [List.length_cons]; omega), ← captures_run plain filled all ends, whole]

theorem captures_quoted (plain : p '"' = false) (w : List Char) : captures (quoted p) w = words p w := by
  induction w using run_induction p with
  | nil => rw [words_nil, captures, iterate_none rfl, List.map_nil]
  | skip c w other ih => rw [captures_skip plain other, words_skip other, ih]
  | run run rest some all ends ih =>
    rw [captures_run plain some all ends, words_run some all ends, ← ih]
    unfold unquoted
    split
    · rename_i quote
      obtain ⟨rest, rfl⟩ := List.head?_eq_some_iff.mp quote
      rw [List.tail_cons, captures_skip plain plain]
    · rfl

end

/-- The tokens of a list are its words. -/
theorem tokens_eq_words (list : List Char) : tokens list = (words isWord list).map String.ofList := by
  rw [← captures_quoted (by decide), captures, List.map_map]
  rfl

/-- A number that is read for a key is named in a list behind the key. -/
theorem mem_syscallsOf {key : String} {content : List Char} {syscallNr : UInt32}
    (member : syscallNr ∈ syscallsOf (keyed key listValue) content) :
    ∃ body, Entry content key ('[' :: (body ++ [']'])) ∧
      ∃ run, MaximalRun isWord run body ∧ resolveSyscallName (String.ofList run) = some syscallNr := by
  unfold syscallsOf at member
  cases extracted : extract (keyed key listValue) content with
  | none => simp [extracted] at member
  | some list =>
    rw [extracted] at member
    obtain ⟨u, g, entry, accepts, rfl⟩ := extract_keyed extracted
    obtain ⟨body, rfl, rfl, -⟩ := accepts_listValue accepts
    simp only [Option.getD_some, mem_insertResolved, List.not_mem_nil, false_or, tokens_eq_words, List.mem_map] at member
    obtain ⟨sysName, ⟨run, word, rfl⟩, resolved⟩ := member
    exact ⟨body, entry, run, maximalRun_of_mem_words body word, resolved⟩

/-- A flag that is on by default is off only where the text says so. -/
theorem flagOf_false {key : String} {content : List Char}
    (off : flagOf (keyed key flagValue) content true = false) : Entry content key "false".toList := by
  unfold flagOf at off
  cases extracted : extract (keyed key flagValue) content with
  | none => simp [extracted] at off
  | some value =>
    rw [extracted] at off
    obtain ⟨u, g, entry, accepts, rfl⟩ := extract_keyed extracted
    obtain ⟨rfl | rfl, rfl⟩ := accepts_flagValue accepts
    · simp at off
    · exact entry

theorem loadFromYaml_success {yamlPath : Path} {file : YamlFile} {engine after : PolicyEngine}
    (loaded : (loadFromYaml yamlPath file).ends engine = (.returned .success, after)) :
    ∃ policy, yamlPolicy yamlPath file.content = some policy ∧ after = engine.put policy := by
  have result := loadFromYaml_result yamlPath file engine
  rw [loaded] at result
  cases result with
  | stored record =>
    have parsed : (if file.found = .yes ∧ file.opens then yamlPolicy yamlPath file.content else none) = some _ := record
    split at parsed
    · exact ⟨_, parsed, rfl⟩
    · cases parsed
  | failed unsuccessful => exact absurd rfl unsuccessful

/-- The parts of a loaded policy that depend on the text. -/
theorem yamlPolicy_rules {yamlPath : Path} {content : List Char} {policy : SecurityPolicy}
    (parsed : yamlPolicy yamlPath content = some policy) :
    policy.syscallRule = ⟨syscallsOf allowedRegex content, syscallsOf blockedRegex content, false⟩ ∧
      policy.networkRule = ⟨flagOf blockNetRegex content false, flagOf blockMetaRegex content true, [], []⟩ := by
  obtain ⟨seconds, -, rfl⟩ := Option.map_eq_some_iff.mp parsed
  exact ⟨rfl, rfl⟩

theorem getPolicy_put_self (engine : PolicyEngine) (policy : SecurityPolicy) :
    (engine.put policy).getPolicy policy.policyName = some policy := by
  simp [getPolicy_put, Option.filter]

/-- Whatever the file holds, a loaded policy permits a system call only if the text lists its
name as allowed, and the metadata endpoint only if the text switches its protection off. -/
theorem yaml_fail_closed (engine after : PolicyEngine) (yamlPath : Path) (file : YamlFile)
    (loaded : (loadFromYaml yamlPath file).ends engine = (.returned .success, after)) :
    ∃ policy, yamlPolicy yamlPath file.content = some policy ∧ after.getPolicy policy.policyName = some policy ∧
      (∀ syscallNr, after.evalSyscall policy.policyName syscallNr = true →
        (∃ body, Entry file.content "allowed_sys_calls" ('[' :: (body ++ [']'])) ∧
          ∃ run, MaximalRun isWord run body ∧ resolveSyscallName (String.ofList run) = some syscallNr) ∧
        syscallNr ∉ policy.syscallRule.blockedSyscalls) ∧
      (after.evalNetworkEgress policy.policyName metadataIp = true →
        Entry file.content "block_cloud_metadata_ips" "false".toList) := by
  obtain ⟨policy, parsed, rfl⟩ := loadFromYaml_success loaded
  obtain ⟨syscalls, network⟩ := yamlPolicy_rules parsed
  have registered := getPolicy_put_self engine policy
  refine ⟨policy, parsed, registered, fun syscallNr permitted => ?_, fun permitted => ?_⟩
  · obtain ⟨found, same, unblocked, allowed⟩ := (PolicyEngine.evalSyscall_iff _ _ _).mp permitted
    obtain rfl : policy = found := Option.some.inj (registered.symm.trans same)
    refine ⟨?_, unblocked⟩
    rw [syscalls] at allowed
    rcases allowed with member | default
    · exact mem_syscallsOf member
    · cases default
  · obtain ⟨found, same, -, unprotected, -⟩ := (PolicyEngine.evalNetworkEgress_iff _ _ _).mp permitted
    obtain rfl : policy = found := Option.some.inj (registered.symm.trans same)
    rw [network] at unprotected
    have off : flagOf blockMetaRegex file.content true = false := by simpa using unprotected
    exact flagOf_false off

/-- A file that ends in the middle of an entry. -/
def truncatedFile : YamlFile where
  content := "policy_name: cut\nallowed_sys_calls: [read, \"write\"]\nblocked_sys_calls: [pt".toList

theorem truncated_file_fails_closed : ∃ after policy,
    (loadFromYaml ⟨false, ["cut.yaml"]⟩ truncatedFile).ends {} = (.returned .success, after) ∧
    after.getPolicy policy.policyName = some policy ∧
    (after.evalNetworkEgress policy.policyName metadataIp = true →
      Entry truncatedFile.content "block_cloud_metadata_ips" "false".toList) := by
  have loaded : (loadFromYaml ⟨false, ["cut.yaml"]⟩ truncatedFile).ends {} =
      (.returned .success, ((loadFromYaml ⟨false, ["cut.yaml"]⟩ truncatedFile).ends {}).2) := rfl
  obtain ⟨policy, -, registered, -, endpoint⟩ := yaml_fail_closed _ _ _ _ loaded
  exact ⟨_, policy, loaded, registered, endpoint⟩

end Aegis.Policy
