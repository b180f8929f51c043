import Aegis.Policy.Readings

/-! Blocked address ranges.

A range is given as an address and the number of its leading bits. The policy file has a
list of them and the policy record has a field for them; neither the loader nor the
evaluator looks at either.
-/

set_option autoImplicit false

namespace Aegis.Policy
open Library

/-! Addresses and ranges. -/

/-- An IPv4 address as a number, the first byte on top. -/
def quad (a b c d : UInt8) : Nat := a.toNat * 2 ^ 24 + b.toNat * 2 ^ 16 + c.toNat * 2 ^ 8 + d.toNat

structure Cidr where
  a : UInt8
  b : UInt8
  c : UInt8
  d : UInt8
  len : Nat
  short : len ≤ 32

/-- The first `len` bits of the address are those of the range. -/
def Cidr.Covers (cidr : Cidr) (a b c d : UInt8) : Prop :=
  quad a b c d / 2 ^ (32 - cidr.len) = quad cidr.a cidr.b cidr.c cidr.d / 2 ^ (32 - cidr.len)

instance (cidr : Cidr) (a b c d : UInt8) : Decidable (cidr.Covers a b c d) := inferInstanceAs (Decidable (_ = _))

def Cidr.text (cidr : Cidr) : String :=
  toString cidr.a.toNat ++ "." ++ toString cidr.b.toNat ++ "." ++ toString cidr.c.toNat ++ "." ++
    toString cidr.d.toNat ++ "/" ++ toString cidr.len

/-- 169.254.169.254/32. -/
def Cidr.endpoint : Cidr := ⟨169, 254, 169, 254, 32, le_rfl⟩

theorem quad_injective {a b c d a' b' c' d' : UInt8} (same : quad a b c d = quad a' b' c' d') :
    a = a' ∧ b = b' ∧ c = c' ∧ d = d' := by
  unfold quad at same
  have bounds := And.intro (And.intro b.toNat_lt b'.toNat_lt)
    (And.intro (And.intro c.toNat_lt c'.toNat_lt) (And.intro d.toNat_lt d'.toNat_lt))
  simp only [← UInt8.toNat_inj]
  omega

/-- An or with a number that has higher bits only is a sum. -/
theorem or_shifted {low i : Nat} (fits : low < 2 ^ i) (high : Nat) : low ||| high * 2 ^ i = high * 2 ^ i + low := by
  rw [Nat.or_comm, Nat.mul_comm, Nat.two_pow_add_eq_or_of_lt fits]

theorem byte_shifted (byte : UInt8) {n : Nat} (fits : n ≤ 24) : byte.toNat <<< n % 2 ^ 32 = byte.toNat * 2 ^ n := by
  rw [Nat.shiftLeft_eq]
  refine Nat.mod_eq_of_lt ?_
  calc byte.toNat * 2 ^ n < 2 ^ 8 * 2 ^ n := Nat.mul_lt_mul_of_pos_right byte.toNat_lt (Nat.two_pow_pos n)
    _ ≤ 2 ^ 8 * 2 ^ 24 := Nat.mul_le_mul_left _ (Nat.pow_le_pow_right (by decide) fits)

/-- In network order the first byte is the lowest. -/
theorem toNat_inetAddr (a b c d : UInt8) : (inetAddr a b c d).toNat = quad d c b a := by
  have first := a.toNat_lt
  have second := b.toNat_lt
  have third := c.toNat_lt
  obtain ⟨low, middle⟩ : b.toNat * 2 ^ 8 + a.toNat < 2 ^ 16 ∧
      c.toNat * 2 ^ 16 + (b.toNat * 2 ^ 8 + a.toNat) < 2 ^ 24 := by omega
  unfold inetAddr
  simp only [UInt32.toNat_or, UInt32.toNat_shiftLeft, UInt8.toNat_toUInt32]
  rw [show (8 : UInt32).toNat % 32 = 8 from rfl, show (16 : UInt32).toNat % 32 = 16 from rfl,
    show (24 : UInt32).toNat % 32 = 24 from rfl, byte_shifted b (by decide), byte_shifted c (by decide),
    byte_shifted d (by decide), or_shifted first b.toNat, or_shifted low c.toNat,
    or_shifted middle d.toNat]
  simp only [quad, Nat.add_assoc]

theorem inetAddr_injective {a b c d a' b' c' d' : UInt8} (same : inetAddr a b c d = inetAddr a' b' c' d') :
    a = a' ∧ b = b' ∧ c = c' ∧ d = d' := by
  have number := congrArg UInt32.toNat same
  rw [toNat_inetAddr, toNat_inetAddr] at number
  obtain ⟨fourth, third, second, first⟩ := quad_injective number
  exact ⟨first, second, third, fourth⟩

namespace Cidr

variable (cidr : Cidr)

theorem covers_self : cidr.Covers cidr.a cidr.b cidr.c cidr.d := rfl

/-- A range of less than 32 bits has the address that differs in the last bit too. -/
theorem covers_neighbour (wide : cidr.len < 32) : cidr.Covers cidr.a cidr.b cidr.c (cidr.d ^^^ 1) := by
  have halves : quad cidr.a cidr.b cidr.c (cidr.d ^^^ 1) / 2 = quad cidr.a cidr.b cidr.c cidr.d / 2 := by
    have byte : (cidr.d ^^^ 1).toNat / 2 = cidr.d.toNat / 2 := by
      rw [UInt8.toNat_xor, Nat.xor_div_two]
      exact Nat.xor_zero _
    unfold quad
    omega
  have power : 2 ^ (32 - cidr.len) = 2 * 2 ^ (31 - cidr.len) := by
    rw [← Nat.pow_succ', Nat.succ_sub (Nat.le_of_lt_succ wide)]
  rw [Covers, power, ← Nat.div_div_eq_div_mul, ← Nat.div_div_eq_div_mul, halves]

/-- A range with one address only. -/
theorem eq_endpoint_iff : (∀ a b c d, cidr.Covers a b c d → inetAddr a b c d = metadataIp) ↔ cidr = endpoint := by
  constructor
  · intro only
    obtain ⟨first, second, third, fourth⟩ := inetAddr_injective (only _ _ _ _ cidr.covers_self)
    have full : cidr.len = 32 := by
      by_contra short
      have wide : cidr.len < 32 := Nat.lt_of_le_of_ne cidr.short short
      obtain ⟨-, -, -, other⟩ := inetAddr_injective (only _ _ _ _ (cidr.covers_neighbour wide))
      rw [fourth] at other
      exact absurd other (by decide)
    obtain ⟨a, b, c, d, len, short⟩ := cidr
    subst first second third fourth full
    rfl
  · rintro rfl a b c d covers
    have same : quad a b c d = quad 169 254 169 254 := by simpa [Covers, endpoint] using covers
    obtain ⟨rfl, rfl, rfl, rfl⟩ := quad_injective same
    rfl

end Cidr

/-! The list in a policy file. -/

/-- Blanks only, or a comment behind them. -/
def Remark (line : List Char) : Prop := ∀ c ∈ (line.dropWhile isSpace).head?, c = '#'

/-- What may stand behind a value: nothing, or a gap and perhaps a comment. -/
def Trails (rest : List Char) : Prop := rest = [] ∨ rest.head? = some ' ' ∧ Remark rest

def HeadLine (key : String) (indent line : List Char) : Prop :=
  (∀ c ∈ indent, c = ' ') ∧ ∃ rest, Trails rest ∧ line = indent ++ (key.toList ++ ':' :: rest)

/-- An item of a list, in quotes or plain. -/
def ItemLine (text line : List Char) : Prop :=
  ∃ indent gap quote rest, (∀ c ∈ indent, c = ' ') ∧ (gap ≠ [] ∧ ∀ c ∈ gap, c = ' ') ∧
    quote ∈ [[], ['"'], ['\'']] ∧ Trails rest ∧
    line = indent ++ '-' :: (gap ++ (quote ++ (text ++ (quote ++ rest))))

/-- The range is an item of the list `blocked_cidrs` among the entries of `network_rules`. -/
def ListsCidr (content : List Char) (cidr : Cidr) : Prop :=
  ∃ before rules inner indent heading between line after,
    content.splitOn '\n' = before ++ rules :: (inner ++ heading :: (between ++ line :: after)) ∧
    HeadLine "network_rules" [] rules ∧ (∀ l ∈ inner, Remark l ∨ l.head? = some ' ') ∧
    indent ≠ [] ∧ HeadLine "blocked_cidrs" indent heading ∧
    (∀ l ∈ between, Remark l ∨ ∃ text, ItemLine text l) ∧ ItemLine cidr.text.toList line

/-! What becomes of the ranges. -/

/-- No connection to an address of a listed range is let through. -/
def Honoured (engine : PolicyEngine) (policyName : String) (listed : Cidr → Prop) : Prop :=
  ∀ cidr, listed cidr → ∀ a b c d, cidr.Covers a b c d →
    engine.evalNetworkEgress policyName (inetAddr a b c d) = false

def FileHonours (engine : PolicyEngine) (yamlPath : Path) (file : YamlFile) : Prop :=
  ∀ after policyName, (loadFromYaml yamlPath file).ends engine = (.returned .success, after) →
    NameIs yamlPath file.content policyName → Honoured after policyName (ListsCidr file.content)

def RecordHonours (engine : PolicyEngine) (policy : SecurityPolicy) : Prop :=
  Honoured (engine.registerPolicy policy).2 policy.policyName (·.text ∈ policy.networkRule.blockedCidrs)

/-- The evaluator goes by the two flags and the single addresses. -/
theorem honoured_put_iff (engine : PolicyEngine) (policy : SecurityPolicy) (listed : Cidr → Prop) :
    Honoured (engine.put policy) policy.policyName listed ↔
      policy.networkRule.blockAllEgress = true ∨ ∀ cidr, listed cidr → ∀ a b c d, cidr.Covers a b c d →
        policy.networkRule.blockCloudMetadata = true ∧ inetAddr a b c d = metadataIp ∨
          inetAddr a b c d ∈ policy.networkRule.blockedIpsNetworkOrder := by
  unfold Honoured
  simp only [PolicyEngine.evalNetworkEgress_false_iff (getPolicy_put_self engine policy)]
  by_cases all : policy.networkRule.blockAllEgress = true
  · simp [all]
  · simp [all]

/-- With no single addresses only the range of the endpoint is honoured. -/
theorem endpoint_only {listed : Cidr → Prop} {flag : Bool} :
    (∀ cidr, listed cidr → ∀ a b c d, cidr.Covers a b c d → flag = true ∧ inetAddr a b c d = metadataIp) ↔
      ∀ cidr, listed cidr → flag = true ∧ cidr = .endpoint := by
  refine forall₂_congr fun cidr _ => ?_
  rw [← cidr.eq_endpoint_iff]
  constructor
  · intro covered
    exact ⟨(covered _ _ _ _ cidr.covers_self).1, fun a b c d covers => (covered a b c d covers).2⟩
  · rintro ⟨blocks, only⟩ a b c d covers
    exact ⟨blocks, only a b c d covers⟩

theorem flagIs_iff {key : String} {default : Bool} {content : List Char} {flag : Bool}
    (settled : FlagIs key default content flag) : FlagIs key default content true ↔ flag = true := by
  constructor
  · exact fun yes => Settles.unique flagForm_of settled yes
  · rintro rfl
    exact settled

theorem fileHonours_of_stored (engine : PolicyEngine) {yamlPath : Path} {file : YamlFile} {policy : SecurityPolicy}
    (readable : file.Readable) (parsed : yamlPolicy yamlPath file.content = some policy) :
    FileHonours engine yamlPath file ↔ FlagIs "block_all_network_egress" false file.content true ∨
      ∀ cidr, ListsCidr file.content cidr →
        FlagIs "block_cloud_metadata_ips" true file.content true ∧ cidr = .endpoint := by
  have reading := yamlPolicy_reading parsed
  have ended := loadFromYaml_ends yamlPath readable engine
  rw [parsed] at ended
  have stored : FileHonours engine yamlPath file ↔
      Honoured (engine.put policy) policy.policyName (ListsCidr file.content) := by
    unfold FileHonours
    rw [ended]
    constructor
    · exact fun honours => honours _ _ rfl reading.name
    · rintro honours after policyName returned named
      obtain ⟨-, rfl⟩ := Prod.mk.inj returned
      rwa [← Settles.unique nameForm_of reading.name named]
  rw [stored, honoured_put_iff, reading.fixed.2.1, flagIs_iff reading.egress, flagIs_iff reading.metadata]
  simp only [List.not_mem_nil, or_false, endpoint_only]

/-- The ranges of a file are honoured just if the load does not succeed, all connections are
blocked anyway, or there is no range but that of the metadata endpoint and this is blocked
anyway. The ranges of a record are honoured just if their addresses are blocked anyway. -/
theorem cidrs_honoured_iff (engine : PolicyEngine) (yamlPath : Path) (file : YamlFile) (policy : SecurityPolicy) :
    (FileHonours engine yamlPath file ↔ ¬ file.Readable ∨ TooLong file.content ∨
      FlagIs "block_all_network_egress" false file.content true ∨
      ∀ cidr, ListsCidr file.content cidr →
        FlagIs "block_cloud_metadata_ips" true file.content true ∧ cidr = .endpoint) ∧
    (RecordHonours engine policy ↔ policy.networkRule.blockAllEgress = true ∨
      ∀ cidr : Cidr, cidr.text ∈ policy.networkRule.blockedCidrs → ∀ a b c d, cidr.Covers a b c d →
        policy.networkRule.blockCloudMetadata = true ∧ inetAddr a b c d = metadataIp ∨
          inetAddr a b c d ∈ policy.networkRule.blockedIpsNetworkOrder) := by
  refine ⟨?_, honoured_put_iff engine policy _⟩
  by_cases readable : file.Readable
  · rw [← yamlPolicy_none_iff yamlPath]
    cases parsed : yamlPolicy yamlPath file.content with
    | none =>
      have ended := loadFromYaml_ends yamlPath readable engine
      rw [parsed] at ended
      refine iff_of_true (fun after policyName returned => ?_) (.inr (.inl rfl))
      rw [ended] at returned
      cases returned
    | some policy' => simp [readable, fileHonours_of_stored engine readable parsed]
  · refine iff_of_true (fun after policyName returned => ?_) (.inl readable)
    obtain ⟨outcome, unsuccessful, ended⟩ := loadFromYaml_unreadable yamlPath readable
    rw [ended file.content engine] at returned
    exact absurd (Prod.mk.inj returned).1 unsuccessful

/-- A list as in policy/strict_python.yaml. -/
def privateFile : YamlFile where
  content := ("policy_name: \"private\"\nnetwork_rules:\n  block_cloud_metadata_ips: true # on\n\n  blocked_cidrs:\n" ++
    "    - \"10.0.0.0/8\"          # RFC 1918 Private Subnet\n").toList

def privateRange : Cidr := ⟨10, 0, 0, 0, 8, by decide⟩

def privatePolicy : SecurityPolicy where
  policyName := "private"
  networkRule := { blockedCidrs := ["10.0.0.0/8"] }

theorem private_range_listed : ListsCidr privateFile.content privateRange := by
  refine ⟨["policy_name: \"private\"".toList], "network_rules:".toList,
    ["  block_cloud_metadata_ips: true # on".toList, []], [' ', ' '], "  blocked_cidrs:".toList, [],
    "    - \"10.0.0.0/8\"          # RFC 1918 Private Subnet".toList, [[]], by decide +kernel, ?_, ?_, by decide, ?_,
    by simp, ?_⟩
  · exact ⟨by simp, [], .inl rfl, rfl⟩
  · intro l member
    simp only [List.mem_cons, List.not_mem_nil, or_false] at member
    rcases member with rfl | rfl
    · exact .inr rfl
    · exact .inl (by simp [Remark])
  · exact ⟨by simp, [], .inl rfl, rfl⟩
  · refine ⟨[' ', ' ', ' ', ' '], [' '], ['"'], "          # RFC 1918 Private Subnet".toList, by simp, by simp,
      by decide, .inr ⟨rfl, ?_⟩, by decide +kernel⟩
    have behind : ("          # RFC 1918 Private Subnet".toList.dropWhile isSpace).head? = some '#' := by decide
    intro c first
    rw [behind] at first
    exact (Option.some.inj first).symm

theorem private_range_open : privateRange.Covers 10 1 2 3 ∧
    (∃ after, (loadFromYaml ⟨false, ["private.yaml"]⟩ privateFile).ends .init = (.returned .success, after) ∧
      after.evalNetworkEgress "private" (inetAddr 10 1 2 3) = true) ∧
    ¬ FileHonours .init ⟨false, ["private.yaml"]⟩ privateFile ∧
    (PolicyEngine.init.registerPolicy privatePolicy).2.evalNetworkEgress "private" (inetAddr 10 1 2 3) = true ∧
    ¬ RecordHonours .init privatePolicy := by
  have covered : privateRange.Covers 10 1 2 3 := by decide +kernel
  -- one evaluation for the status and the engine
  have evaluated : ((loadFromYaml ⟨false, ["private.yaml"]⟩ privateFile).ends .init).1 = .returned .success ∧
      ((loadFromYaml ⟨false, ["private.yaml"]⟩ privateFile).ends .init).2.evalNetworkEgress "private"
        (inetAddr 10 1 2 3) = true := by decide +kernel
  obtain ⟨after, ended, passes⟩ : ∃ after,
      (loadFromYaml ⟨false, ["private.yaml"]⟩ privateFile).ends .init = (.returned .success, after) ∧
      after.evalNetworkEgress "private" (inetAddr 10 1 2 3) = true :=
    ⟨((loadFromYaml ⟨false, ["private.yaml"]⟩ privateFile).ends .init).2, by rw [← evaluated.1], evaluated.2⟩
  have passes' : (PolicyEngine.init.registerPolicy privatePolicy).2.evalNetworkEgress "private"
      (inetAddr 10 1 2 3) = true := by decide +kernel
  have named : NameIs ⟨false, ["private.yaml"]⟩ privateFile.content "private" :=
    (settles_iff nameForm_of _ _ _ _).mpr (by decide +kernel)
  refine ⟨covered, ⟨after, ended, passes⟩, fun honours => ?_, passes', fun honours => ?_⟩
  · have stopped := honours after _ ended named privateRange private_range_listed 10 1 2 3 covered
    rw [passes] at stopped
    cases stopped
  · have stopped := honours privateRange (by decide +kernel) 10 1 2 3 covered
    change PolicyEngine.evalNetworkEgress (PolicyEngine.init.registerPolicy privatePolicy).2 "private" _ = _ at stopped
    rw [passes'] at stopped
    cases stopped

end Aegis.Policy
