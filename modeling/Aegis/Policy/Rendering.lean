import Mathlib.Data.List.Nodup
import Aegis.Policy.Lines
import Aegis.Policy.Readings

/-! Policies written out as a file, and read back.

A file has one line for each setting of the policy and may have the headings of the
sample file, in any order and with any indentation.
-/

set_option autoImplicit false

namespace Aegis.Policy
open Library Regex

/-- What a file says. The names of the system calls are in the table of the loader. -/
structure FlowPolicy where
  name : List Char
  blockAllEgress : Bool
  blockCloudMetadata : Bool
  maxExecutionTimeSec : UInt32
  allowed : List String
  blocked : List String
  name_ne : name ≠ []
  name_chars : ∀ c ∈ name, isNameChar c = true
  allowed_known : ∀ sysName ∈ allowed, sysName ∈ syscallNameMap.map Prod.fst
  blocked_known : ∀ sysName ∈ blocked, sysName ∈ syscallNameMap.map Prod.fst

/-! The texts behind the keys. -/

def quotedText (name : List Char) : List Char := '"' :: (name ++ ['"'])

def flagText (flag : Bool) : List Char := if flag then "true".toList else "false".toList

/-- What stands between the brackets. -/
def listBody : List String → List Char
  | [] => []
  | [name] => quotedText name.toList
  | name :: rest => quotedText name.toList ++ ',' :: ' ' :: listBody rest

def listText (names : List String) : List Char := '[' :: (listBody names ++ [']'])

def FlowPolicy.entries (source : FlowPolicy) : List (String × List Char) := [
  ("policy_name", ' ' :: quotedText source.name),
  ("max_execution_time_sec", ' ' :: Nat.toDigits 10 source.maxExecutionTimeSec.toNat),
  ("block_all_network_egress", ' ' :: flagText source.blockAllEgress),
  ("block_cloud_metadata_ips", ' ' :: flagText source.blockCloudMetadata),
  ("allowed_sys_calls", ' ' :: listText source.allowed),
  ("blocked_sys_calls", ' ' :: listText source.blocked)]

def headings : List (String × List Char) := [
  ("network_rules", []), ("syscall_rules", []), ("default_mode", ' ' :: quotedText "strict_whitelist".toList)]

/-- The lines of a file for the policy. -/
structure Renders (source : FlowPolicy) (lines : List Line) : Prop where
  indented : ∀ line ∈ lines, ∀ c ∈ line.indent, isSpace c = true
  arranged : ∃ extra, extra.Sublist headings ∧
    (lines.map fun line => (line.key, line.value)).Perm ((source.entries ++ extra).map fun e => (e.1.toList, e.2))

/-! The keys and the values are what a search needs. -/

def settingKeys : List String := [
  "policy_name", "max_execution_time_sec", "block_all_network_egress", "block_cloud_metadata_ips",
  "allowed_sys_calls", "blocked_sys_calls"]

def allKeys : List String := settingKeys ++ ["network_rules", "syscall_rules", "default_mode"]

theorem plain_keys : ∀ key ∈ allKeys, PlainKey key.toList := by
  have checked : allKeys.all (fun key => key.toList ≠ [] && key.toList.all fun c => !isSpace c && c ≠ ':') = true := by
    decide +kernel
  intro key member
  simpa [PlainKey] using List.all_eq_true.mp checked key member

/-- No key is the end of another one. -/
theorem keys_apart : ∀ key ∈ settingKeys, ∀ other ∈ allKeys, key.toList <:+ other.toList → key = other := by
  decide +kernel

theorem nodup_allKeys : allKeys.Nodup := by decide

theorem resolved_word : ∀ sysName ∈ syscallNameMap.map Prod.fst,
    sysName.toList ≠ [] ∧ ∀ c ∈ sysName.toList, isWord c = true := by
  have checked : (syscallNameMap.map Prod.fst).all (fun name => name.toList ≠ [] && name.toList.all isWord) = true := by
    decide +kernel
  intro sysName member
  simpa using List.all_eq_true.mp checked sysName member

theorem mem_quotedText {c : Char} {name : List Char} : c ∈ quotedText name ↔ c = '"' ∨ c ∈ name := by
  simp only [quotedText, List.mem_cons, List.mem_append, List.not_mem_nil, or_false]
  tauto

theorem mem_listBody {c : Char} {names : List String} (member : c ∈ listBody names) :
    c ∈ ['"', ',', ' '] ∨ ∃ sysName ∈ names, c ∈ sysName.toList := by
  induction names using listBody.induct with
  | case1 => cases member
  | case2 name =>
    rcases mem_quotedText.mp member with rfl | here
    · exact .inl (by simp)
    · exact .inr ⟨name, by simp, here⟩
  | case3 name rest _ ih =>
    rw [listBody, List.mem_append, List.mem_cons, List.mem_cons] at member
    rcases member with here | rfl | rfl | later
    · rcases mem_quotedText.mp here with rfl | here
      · exact .inl (by simp)
      · exact .inr ⟨name, by simp, here⟩
    · exact .inl (by simp)
    · exact .inl (by simp)
    · rcases ih later with punctuation | ⟨sysName, listed, here⟩
      · exact .inl punctuation
      · exact .inr ⟨sysName, List.mem_cons_of_mem _ listed, here⟩
    · assumption

/-- A character that is neither punctuation nor part of a word is not in a list. -/
theorem not_mem_listBody {names : List String} (word : ∀ sysName ∈ names, ∀ c ∈ sysName.toList, isWord c = true)
    {c : Char} (other : isWord c = false) (apart : c ∉ ['"', ',', ' ']) : c ∉ listBody names := by
  intro member
  rcases mem_listBody member with punctuation | ⟨sysName, listed, here⟩
  · exact apart punctuation
  · have inside := word sysName listed c here
    rw [other] at inside
    cases inside

theorem FlowPolicy.not_colon (source : FlowPolicy) : ∀ entry ∈ source.entries ++ headings, ':' ∉ entry.2 := by
  have name : ':' ∉ source.name := fun member => absurd (source.name_chars _ member) (by decide)
  have digits : ':' ∉ Nat.toDigits 10 source.maxExecutionTimeSec.toNat := fun member =>
    absurd (Nat.isDigit_of_mem_toDigits (by decide) (by decide) member) (by decide)
  have flag (b : Bool) : ':' ∉ flagText b := by cases b <;> decide
  have list {names : List String} (known : ∀ sysName ∈ names, sysName ∈ syscallNameMap.map Prod.fst) : ':' ∉ listBody names :=
    not_mem_listBody (fun sysName listed => (resolved_word sysName (known sysName listed)).2) (by decide) (by decide)
  have heading : ∀ entry ∈ headings, ':' ∉ entry.2 := by decide
  intro entry member
  rcases List.mem_append.mp member with setting | here
  · simp only [FlowPolicy.entries, List.mem_cons, List.not_mem_nil, or_false] at setting
    rcases setting with rfl | rfl | rfl | rfl | rfl | rfl
    · simpa [mem_quotedText] using name
    · simpa using digits
    · simpa using flag _
    · simpa using flag _
    · simpa [listText] using list source.allowed_known
    · simpa [listText] using list source.blocked_known
  · exact heading entry here

namespace Renders

variable {source : FlowPolicy} {lines : List Line}

theorem mem_entry (renders : Renders source lines) {line : Line} (member : line ∈ lines) :
    ∃ entry ∈ source.entries ++ headings, line.key = entry.1.toList ∧ line.value = entry.2 := by
  obtain ⟨extra, part, arranged⟩ := renders.arranged
  have listed : (line.key, line.value) ∈ lines.map fun line => (line.key, line.value) := List.mem_map_of_mem member
  obtain ⟨entry, found, same⟩ := List.mem_map.mp (arranged.mem_iff.mp listed)
  obtain ⟨key, value⟩ := Prod.mk.inj same
  refine ⟨entry, ?_, key.symm, value.symm⟩
  exact ((List.Sublist.refl _).append part).subset found

theorem key_mem (renders : Renders source lines) {line : Line} (member : line ∈ lines) :
    ∃ key ∈ allKeys, line.key = key.toList := by
  obtain ⟨entry, found, key, -⟩ := renders.mem_entry member
  exact ⟨entry.1, List.mem_map_of_mem (f := Prod.fst) found, key⟩

theorem sound (renders : Renders source lines) : ∀ line ∈ lines, line.Sound := by
  intro line member
  obtain ⟨entry, found, key, value⟩ := renders.mem_entry member
  refine ⟨renders.indented line member, ?_, ?_⟩
  · rw [key]
    exact plain_keys entry.1 (List.mem_map_of_mem (f := Prod.fst) found)
  · rw [value]
    exact source.not_colon entry found

theorem nodup_keys (renders : Renders source lines) : (lines.map Line.key).Nodup := by
  obtain ⟨extra, part, arranged⟩ := renders.arranged
  have keys : ((source.entries ++ extra).map Prod.fst).Nodup := by
    have part : ((source.entries ++ extra).map Prod.fst).Sublist allKeys :=
      ((List.Sublist.refl _).append part).map Prod.fst
    exact part.nodup nodup_allKeys
  have same := arranged.map Prod.fst
  simp only [List.map_map, Function.comp_def] at same
  refine (same.nodup_iff).mpr ?_
  rw [← Function.comp_def, ← List.map_map]
  exact keys.map fun first second equal => String.toList_inj.mp equal

/-- Each setting has its line, and no other line can be taken for it. -/
theorem line_of (renders : Renders source lines) {key : String} {value : List Char}
    (entry : (key, value) ∈ source.entries) :
    ∃ before line after, lines = before ++ line :: after ∧ line.key = key.toList ∧ line.value = value ∧
      ∀ other ∈ before ++ after, ¬ key.toList <:+ other.key := by
  obtain ⟨extra, -, arranged⟩ := renders.arranged
  have listed : (key.toList, value) ∈ (source.entries ++ extra).map fun e => (e.1.toList, e.2) :=
    List.mem_map_of_mem (f := fun e : String × List Char => (e.1.toList, e.2)) (List.mem_append_left _ entry)
  obtain ⟨line, member, same⟩ := List.mem_map.mp (arranged.mem_iff.mpr listed)
  obtain ⟨sameKey, sameValue⟩ := Prod.mk.inj same
  obtain ⟨before, after, rfl⟩ := List.append_of_mem member
  refine ⟨before, line, after, rfl, sameKey, sameValue, fun other here suffix => ?_⟩
  have nodup := renders.nodup_keys
  rw [List.map_append, List.map_cons, List.nodup_middle, List.nodup_cons, ← List.map_append] at nodup
  have inside : other ∈ before ++ line :: after := by
    rcases List.mem_append.mp here with member | member
    · exact List.mem_append_left _ member
    · exact List.mem_append_right _ (List.mem_cons_of_mem _ member)
  obtain ⟨otherKey, known, keyed⟩ := renders.key_mem inside
  have setting : key ∈ settingKeys := List.mem_map_of_mem (f := Prod.fst) entry
  rw [keyed] at suffix
  have equal := keys_apart key setting otherKey known suffix
  apply nodup.1
  rw [sameKey, equal, ← keyed]
  exact List.mem_map_of_mem here

/-- The search for a setting ends in its line. -/
theorem search_setting (renders : Renders source lines) {key : String} {text : List Char}
    (entry : (key, text) ∈ source.entries) (value : Regex) :
    ∃ after, (keyed key value).search (textOf lines) =
      (keyed key value).first (key.toList ++ ':' :: (text ++ '\n' :: after)) := by
  obtain ⟨before, line, after, rfl, sameKey, rfl, others⟩ := renders.line_of entry
  have plain : PlainKey key.toList :=
    plain_keys key (List.mem_append_left _ (List.mem_map_of_mem (f := Prod.fst) entry))
  exact ⟨textOf after, search_line plain renders.sound sameKey others⟩

theorem extract_setting (renders : Renders source lines) {key : String} {form : Form} {value : Regex}
    (of : form.Of value) {u g : List Char} (entry : (key, ' ' :: u) ∈ source.entries)
    (formed : ∀ after, form (u ++ '\n' :: after) g) : extract (keyed key value) (textOf lines) = some g := by
  obtain ⟨after, searched⟩ := renders.search_setting entry value
  have reads : Reads key form (key.toList ++ ':' :: (' ' :: u ++ '\n' :: after)) g :=
    reads_colon_iff.mpr ⟨[' '], _, List.all_eq_true.mp (by decide), formed after, rfl⟩
  obtain ⟨text, rest, matched⟩ := first_of_reads of reads
  rw [extract, searched, matched]
  rfl

end Renders

/-! The values, one kind after the other. -/

section
variable (after : List Char)

theorem quotedForm_quotedText {p : Char → Bool} (plain : p '"' = false) {name : List Char} (filled : name ≠ [])
    (all : ∀ c ∈ name, p c = true) : quotedForm p (quotedText name ++ after) name := by
  have opening : unquoted (quotedText name ++ after) = name ++ '"' :: after := by
    simp [quotedText, unquoted]
  rw [quotedForm, opening]
  exact ⟨filled, all, '"' :: after, rfl, forall_head_cons plain after⟩

theorem runForm_digits {digits : List Char} (filled : digits ≠ []) (all : ∀ c ∈ digits, c.isDigit = true)
    (ends : ∀ c ∈ after.head?, c.isDigit = false) : runForm Char.isDigit (digits ++ after) digits :=
  ⟨filled, all, after, rfl, ends⟩

theorem flagForm_flagText (flag : Bool) : flagForm (flagText flag ++ after) (flagText flag) := by
  refine ⟨?_, after, rfl⟩
  cases flag with
  | true => exact .inl rfl
  | false => exact .inr rfl

theorem listBody_ne {names : List String} (filled : names ≠ []) : listBody names ≠ [] := by
  cases names using listBody.fun_cases with
  | case1 => exact absurd rfl filled
  | case2 name => simp [listBody, quotedText]
  | case3 name rest _ => simp [listBody, quotedText]

theorem listForm_listText {names : List String} (filled : names ≠ []) (free : ']' ∉ listBody names) :
    listForm (listText names ++ after) (listBody names) :=
  ⟨listBody_ne filled, free, after, by simp [listText]⟩

/-- An empty list does not read as a list. -/
theorem not_reads_emptyList (key : String) (g : List Char) :
    ¬ Reads key listForm (key.toList ++ ':' :: (' ' :: listText [] ++ after)) g := by
  rw [reads_colon_iff]
  rintro ⟨spaces, u, white, ⟨filled, free, rest, rfl⟩, same⟩
  -- one character after the other: the blank, the bracket, and nothing for the body
  cases spaces with
  | nil => exact absurd (List.cons.inj same).1 (by decide)
  | cons c spaces =>
    obtain ⟨rfl, behindBlank⟩ := List.cons.inj same
    cases spaces with
    | cons c spaces =>
      obtain ⟨rfl, -⟩ := List.cons.inj behindBlank
      exact absurd (white '[' (by simp)) (by decide)
    | nil =>
      obtain ⟨-, behindBracket⟩ := List.cons.inj behindBlank
      obtain ⟨d, body, rfl⟩ := List.exists_cons_of_ne_nil filled
      obtain ⟨rfl, -⟩ := List.cons.inj behindBracket
      exact free List.mem_cons_self

end

/-- The words of a list are the names in it. -/
theorem words_listBody (names : List String)
    (word : ∀ sysName ∈ names, sysName.toList ≠ [] ∧ ∀ c ∈ sysName.toList, isWord c = true) :
    words isWord (listBody names) = names.map String.toList := by
  have named (name : String) (listed : name ∈ names) (rest : List Char) :
      words isWord (quotedText name.toList ++ rest) = name.toList :: words isWord rest := by
    obtain ⟨filled, all⟩ := word name listed
    have text : quotedText name.toList ++ rest = '"' :: (name.toList ++ '"' :: rest) := by simp [quotedText]
    rw [text, words_skip (by decide), words_run filled all (forall_head_cons (by decide) rest), words_skip (by decide)]
  induction names using listBody.induct with
  | case1 => exact words_nil
  | case2 name =>
    have single := named name (by simp) []
    rwa [List.append_nil, words_nil] at single
  | case3 name rest _ ih =>
    have later := ih (fun n member => word n (List.mem_cons_of_mem _ member))
      fun n member => named n (List.mem_cons_of_mem _ member)
    rw [listBody, named name (by simp), words_skip (by decide), words_skip (by decide), later, List.map_cons]
    assumption

/-! What is read back. -/

theorem stoul_toDigits {n : Nat} (small : n < 2 ^ 64) : stoul (Nat.toDigits 10 n) = some n := by
  rw [stoul, Nat.ofDigitChars_ten_toDigits]
  exact if_pos small

namespace Renders

variable {source : FlowPolicy} {lines : List Line}

theorem nameOf (renders : Renders source lines) (yamlPath : Path) :
    Policy.nameOf yamlPath (textOf lines) = String.ofList source.name := by
  have extracted : extract nameRegex (textOf lines) = some source.name :=
    renders.extract_setting nameForm_of (by simp [FlowPolicy.entries]) fun after =>
      quotedForm_quotedText _ (by decide) source.name_ne source.name_chars
  rw [Policy.nameOf, extracted]

theorem timeoutOf (renders : Renders source lines) (default : UInt32) :
    Policy.timeoutOf (textOf lines) default = some source.maxExecutionTimeSec := by
  have extracted : extract timeoutRegex (textOf lines) =
      some (Nat.toDigits 10 source.maxExecutionTimeSec.toNat) :=
    renders.extract_setting digitsForm_of (by simp [FlowPolicy.entries]) fun after =>
      runForm_digits _ Nat.toDigits_ne_nil (fun c => Nat.isDigit_of_mem_toDigits (by decide) (by decide))
        (forall_head_cons (by decide) after)
  have small : source.maxExecutionTimeSec.toNat < 2 ^ 64 :=
    Nat.lt_trans source.maxExecutionTimeSec.toNat_lt (by decide)
  rw [Policy.timeoutOf, extracted]
  simp [stoul_toDigits small]

theorem flagOf (renders : Renders source lines) {key : String} {flag : Bool}
    (entry : (key, ' ' :: flagText flag) ∈ source.entries) (default : Bool) :
    Policy.flagOf (keyed key flagValue) (textOf lines) default = flag := by
  have extracted : extract (keyed key flagValue) (textOf lines) = some (flagText flag) :=
    renders.extract_setting flagForm_of entry fun after => flagForm_flagText _ flag
  rw [Policy.flagOf, extracted]
  cases flag with
  | true => rfl
  | false => rfl

theorem mem_syscallsOf (renders : Renders source lines) {key : String} {names : List String}
    (entry : (key, ' ' :: listText names) ∈ source.entries)
    (known : ∀ sysName ∈ names, sysName ∈ syscallNameMap.map Prod.fst) (syscallNr : UInt32) :
    syscallNr ∈ syscallsOf (keyed key listValue) (textOf lines) ↔
      ∃ sysName ∈ names, resolveSyscallName sysName = some syscallNr := by
  by_cases empty : names = []
  · subst empty
    obtain ⟨after, searched⟩ := renders.search_setting entry listValue
    have extracted : extract (keyed key listValue) (textOf lines) = none := by
      rw [extract, searched, (first_none_iff listForm_of).mpr (not_reads_emptyList _ key), Option.map_none]
    simp [syscallsOf, extracted]
  · have word := fun sysName listed => resolved_word sysName (known sysName listed)
    have free : ']' ∉ listBody names := not_mem_listBody (fun n member => (word n member).2) (by decide) (by decide)
    have extracted : extract (keyed key listValue) (textOf lines) = some (listBody names) :=
      renders.extract_setting listForm_of entry fun after => listForm_listText _ empty free
    have read : tokens (listBody names) = names := by
      rw [tokens_eq_words, words_listBody names word, List.map_map]
      exact List.map_id'' (fun name => String.ofList_toList) names
    rw [syscallsOf, extracted, mem_insertResolved, read]
    simp

/-- The policy that is read, with the two lists as the loader has them. -/
def policy (source : FlowPolicy) (lines : List Line) : SecurityPolicy where
  policyName := String.ofList source.name
  maxExecutionTimeSec := source.maxExecutionTimeSec
  networkRule := ⟨source.blockAllEgress, source.blockCloudMetadata, [], []⟩
  syscallRule := ⟨syscallsOf allowedRegex (textOf lines), syscallsOf blockedRegex (textOf lines), false⟩

theorem yamlPolicy (renders : Renders source lines) (yamlPath : Path) :
    Policy.yamlPolicy yamlPath (textOf lines) = some (policy source lines) := by
  have egress : Policy.flagOf blockNetRegex (textOf lines) false = source.blockAllEgress :=
    renders.flagOf (by simp [FlowPolicy.entries]) false
  have metadata : Policy.flagOf blockMetaRegex (textOf lines) true = source.blockCloudMetadata :=
    renders.flagOf (by simp [FlowPolicy.entries]) true
  simp only [Policy.yamlPolicy, renders.timeoutOf, renders.nameOf, egress, metadata, Option.map_some, policy]

end Renders

/-- A policy that is written out and loaded is the policy again. -/
theorem load_undoes_render (engine : PolicyEngine) (yamlPath : Path) (source : FlowPolicy) (lines : List Line)
    (renders : Renders source lines) :
    ∃ after policy, (loadFromYaml yamlPath { content := textOf lines }).ends engine = (.returned .success, after) ∧
      after.getPolicy (String.ofList source.name) = some policy ∧
      policy.policyName = String.ofList source.name ∧
      policy.maxExecutionTimeSec = source.maxExecutionTimeSec ∧
      policy.networkRule = ⟨source.blockAllEgress, source.blockCloudMetadata, [], []⟩ ∧
      (∀ syscallNr, syscallNr ∈ policy.syscallRule.allowedSyscalls ↔
        ∃ sysName ∈ source.allowed, resolveSyscallName sysName = some syscallNr) ∧
      (∀ syscallNr, syscallNr ∈ policy.syscallRule.blockedSyscalls ↔
        ∃ sysName ∈ source.blocked, resolveSyscallName sysName = some syscallNr) ∧
      policy.syscallRule.defaultAllow = false := by
  refine ⟨engine.put (Renders.policy source lines), Renders.policy source lines, ?_,
    getPolicy_put_self engine (Renders.policy source lines), rfl, rfl, rfl, ?_, ?_, rfl⟩
  · simp only [loadFromYaml, if_true, renders.yamlPolicy]
    rfl
  · exact renders.mem_syscallsOf (by simp [FlowPolicy.entries]) source.allowed_known
  · exact renders.mem_syscallsOf (by simp [FlowPolicy.entries]) source.blocked_known

/-- The policy and the file of the sample. -/
def samplePolicy : FlowPolicy where
  name := "test_custom".toList
  blockAllEgress := true
  blockCloudMetadata := true
  maxExecutionTimeSec := 10
  allowed := ["read", "write"]
  blocked := ["execve"]
  name_ne := by decide
  name_chars := List.all_eq_true.mp (by decide)
  allowed_known := by decide
  blocked_known := by decide

def sampleLines : List Line := [
  ⟨[], "policy_name".toList, " \"test_custom\"".toList⟩,
  ⟨[], "max_execution_time_sec".toList, " 10".toList⟩,
  ⟨[], "network_rules".toList, []⟩,
  ⟨"  ".toList, "block_all_network_egress".toList, " true".toList⟩,
  ⟨"  ".toList, "block_cloud_metadata_ips".toList, " true".toList⟩,
  ⟨[], "syscall_rules".toList, []⟩,
  ⟨"  ".toList, "default_mode".toList, " \"strict_whitelist\"".toList⟩,
  ⟨"  ".toList, "allowed_sys_calls".toList, " [\"read\", \"write\"]".toList⟩,
  ⟨"  ".toList, "blocked_sys_calls".toList, " [\"execve\"]".toList⟩]

theorem sample_loads : Renders samplePolicy sampleLines ∧
    ∃ after policy, (loadFromYaml ⟨false, ["test_custom_policy.yaml"]⟩ { content := textOf sampleLines }).ends .init =
        (.returned .success, after) ∧
      after.getPolicy "test_custom" = some policy ∧ policy.networkRule = ⟨true, true, [], []⟩ := by
  have indented : sampleLines.all (fun line => line.indent.all isSpace) = true := by decide
  have renders : Renders samplePolicy sampleLines :=
    ⟨by simpa using indented, headings, List.Sublist.refl headings, by decide +kernel⟩
  obtain ⟨after, policy, loaded, registered, -, -, network, -⟩ :=
    load_undoes_render .init ⟨false, ["test_custom_policy.yaml"]⟩ samplePolicy sampleLines renders
  exact ⟨renders, after, policy, loaded, registered, network⟩

end Aegis.Policy
