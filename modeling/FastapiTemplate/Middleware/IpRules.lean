import FastapiTemplate.Middleware.TenantIPAccess

/-!
# What an address rule means

A rule names an address, or the addresses that agree with one on the first bits. `ip_network` refuses an address with
bits behind the prefix, the matcher takes every refusal for a rule that does not match, and the schema lets every short
text through: so a rule means what it says exactly if it has no such bits (`matches_iff_means_iff`), and is without
effect otherwise (`never_matches`).
-/

namespace FastapiTemplate.Middleware

open Python

/-- `IPRuleCreate`; the description is left out. -/
structure IPRuleCreate where
  tenantId : ℤ
  ipOrCidr : { text : String // text.length ≤ 45 }
  action : Action
  priority : ℤ := 0

/-- The row that is made of it. -/
def IPRuleCreate.row (ruleIn : IPRuleCreate) : TenantIPRule where
  tenantId := ruleIn.tenantId
  ipOrCidr := ruleIn.ipOrCidr
  action := ruleIn.action
  priority := ruleIn.priority

/-! ### The meaning of a rule -/

/-- The number of bits of an address. -/
def width : IPAddress → ℕ
  | .v4 _ => 32
  | .v6 _ _ => 128

/-- The text is an address, or an address and the length of a prefix. -/
inductive Reads (text : String) : IPAddress → Option ℕ → Prop
  | address {a : IPAddress} (h : ipAddress text = some a) : Reads text a none
  | network {a : IPAddress} {address bits : String} {n : ℕ} (htext : text = address ++ String.singleton '/' ++ bits)
      (ha : ipAddress address = some a) (hbits : prefixLength (width a) bits = some n) : Reads text a (some n)

/-- The two addresses are of one family, and agree on the first `n` bits. -/
def AgreeOn (n : ℕ) : IPAddress → IPAddress → Prop
  | .v4 a, .v4 b => ∀ i < n, b.getMsbD i = a.getMsbD i
  | .v6 a _, .v6 b _ => ∀ i < n, b.getMsbD i = a.getMsbD i
  | _, _ => False

/-- What a rule says of a client. -/
def Means (a : IPAddress) (n : Option ℕ) (client : IPAddress) : Prop :=
  match n with
  | none => client = a
  | some n => AgreeOn n a client

/-- No bit of the address is set behind the first `n`. -/
def HostBitsUnset (n : ℕ) : IPAddress → Prop
  | .v4 a => ∀ i, n ≤ i → a.getMsbD i = false
  | .v6 a _ => ∀ i, n ≤ i → a.getMsbD i = false

section Masks

variable {w n : ℕ} {a b : BitVec w}

lemma getMsbD_netmask (n i : ℕ) : (netmask w n).getMsbD i = (decide (i < w) && decide (i < n)) := by
  unfold netmask
  rw [BitVec.getMsbD_xor, BitVec.getMsbD_allOnes, BitVec.getMsbD_ushiftRight, BitVec.getMsbD_allOnes]
  by_cases hi : i < w
  · by_cases hn : i < n
    · simp [hi, hn]
    · have hsub : i - n < w := by omega
      simp [hi, hn, hsub]
  · simp [hi]

/-- An address is left as it is by the mask if it has no bits behind the prefix. -/
lemma and_netmask_eq_self_iff : a &&& netmask w n = a ↔ ∀ i, n ≤ i → a.getMsbD i = false := by
  constructor
  · intro h i hi
    rw [← h, BitVec.getMsbD_and, getMsbD_netmask, decide_eq_false (not_lt.2 hi), Bool.and_false, Bool.and_false]
  · intro h
    refine BitVec.eq_of_getMsbD_eq fun i hi => ?_
    rw [BitVec.getMsbD_and, getMsbD_netmask, decide_eq_true hi, Bool.true_and]
    by_cases hn : i < n
    · rw [decide_eq_true hn, Bool.and_true]
    · rw [h i (not_lt.1 hn), Bool.false_and]

/-- What is in a network. -/
lemma and_netmask_eq_iff (h : ∀ i, n ≤ i → a.getMsbD i = false) :
    b &&& netmask w n = a ↔ ∀ i < n, b.getMsbD i = a.getMsbD i := by
  constructor
  · intro hand i hi
    rw [← hand, BitVec.getMsbD_and, getMsbD_netmask, decide_eq_true hi, Bool.and_true]
    by_cases hw : i < w
    · rw [decide_eq_true hw, Bool.and_true]
    · rw [BitVec.getMsbD_of_ge b i (not_lt.1 hw), Bool.false_and]
  · intro hagree
    refine BitVec.eq_of_getMsbD_eq fun i hi => ?_
    rw [BitVec.getMsbD_and, getMsbD_netmask, decide_eq_true hi, Bool.true_and]
    by_cases hn : i < n
    · rw [decide_eq_true hn, Bool.and_true, hagree i hn]
    · rw [decide_eq_false hn, Bool.and_false, h i (not_lt.1 hn)]

end Masks

/-! ### Reading a rule -/

section Reading

variable {text address bits : String} {a client : IPAddress} {n : ℕ}

lemma notMem_of_ipAddress (h : ipAddress text = some a) : '/' ∉ text.toList := by
  unfold ipAddress at h
  split at h
  · cases h
  · rename_i hslash
    simpa [List.contains_iff_mem] using hslash

lemma notMem_of_prefixLength {w : ℕ} (h : prefixLength w bits = some n) : '/' ∉ bits.toList := by
  unfold prefixLength decimal? at h
  obtain ⟨length, hlength, -⟩ := Option.bind_eq_some_iff.1 h
  split at hlength
  · rename_i hdigits
    intro hmem
    have hslash := List.all_eq_true.1 (Bool.and_eq_true_iff.1 hdigits).2 '/' hmem
    exact absurd hslash (by decide)
  · cases hlength

lemma split_network (ha : ipAddress address = some a) (hbits : prefixLength (width a) bits = some n) :
    split '/' (address ++ String.singleton '/' ++ bits) = [address, bits] := by
  rw [split_append (notMem_of_ipAddress ha), split_of_notMem (notMem_of_prefixLength hbits)]

lemma ipNetwork_v4 {ip : BitVec 32} (ha : ipAddress address = some (.v4 ip)) (hbits : prefixLength 32 bits = some n) :
    ipNetwork (address ++ String.singleton '/' ++ bits) =
      if ip &&& netmask 32 n = ip then some (.v4 ip (netmask 32 n)) else none := by
  have hsplit := split_network ha hbits
  have hip : parseIPv4 address = some ip := by
    unfold ipAddress at ha
    split at ha
    · cases ha
    split at ha
    · rename_i hip
      cases ha
      exact hip
    · obtain ⟨_, -, h⟩ := Option.map_eq_some_iff.1 ha
      cases h
  have hmask : netmask4 (some bits) = some (netmask 32 n) := by
    unfold netmask4
    simp [hbits]
  unfold ipNetwork
  rw [hsplit]
  dsimp only [Option.bind_eq_bind, Option.bind_some]
  rw [hip, hmask]

lemma ipNetwork_v6 {ip : BitVec 128} {scopeId : Option String} (ha : ipAddress address = some (.v6 ip scopeId))
    (hbits : prefixLength 128 bits = some n) :
    ipNetwork (address ++ String.singleton '/' ++ bits) =
      if ip &&& netmask 128 n = ip then some (.v6 ip (netmask 128 n)) else none := by
  have hsplit := split_network ha hbits
  obtain ⟨hnone, hip⟩ : parseIPv4 address = none ∧ parseIPv6 address = some (ip, scopeId) := by
    unfold ipAddress at ha
    split at ha
    · cases ha
    split at ha
    · cases ha
    · rename_i hnone
      obtain ⟨_, hip, h⟩ := Option.map_eq_some_iff.1 ha
      cases h
      exact ⟨hnone, hip⟩
  have hmask : netmask6 (some bits) = some (netmask 128 n) := by
    unfold netmask6
    simp [hbits]
  unfold ipNetwork
  rw [hsplit]
  dsimp only [Option.bind_eq_bind, Option.bind_some]
  rw [hnone, hip, hmask]
  rfl

/-- **Which clients are in the network** of an address and a prefix: those that agree with the address on the prefix, if
the address has no bits behind it. -/
theorem contains_ipNetwork_iff (ha : ipAddress address = some a) (hbits : prefixLength (width a) bits = some n) :
    (∃ network, ipNetwork (address ++ String.singleton '/' ++ bits) = some network ∧ network.contains client = true) ↔
      HostBitsUnset n a ∧ AgreeOn n a client := by
  cases a with
  | v4 ip =>
    rw [ipNetwork_v4 ha hbits, show HostBitsUnset n (.v4 ip) ↔ ip &&& netmask 32 n = ip from
      and_netmask_eq_self_iff.symm]
    by_cases hhost : ip &&& netmask 32 n = ip
    · have hunset := and_netmask_eq_self_iff.1 hhost
      rw [if_pos hhost, and_iff_right hhost]
      cases client with
      | v4 ip' => simp [IPNetwork.contains, AgreeOn, and_netmask_eq_iff hunset]
      | v6 ip' scopeId => simp [IPNetwork.contains, AgreeOn]
    · rw [if_neg hhost]
      simp [hhost]
  | v6 ip scopeId =>
    rw [ipNetwork_v6 ha hbits, show HostBitsUnset n (.v6 ip scopeId) ↔ ip &&& netmask 128 n = ip from
      and_netmask_eq_self_iff.symm]
    by_cases hhost : ip &&& netmask 128 n = ip
    · have hunset := and_netmask_eq_self_iff.1 hhost
      rw [if_pos hhost, and_iff_right hhost]
      cases client with
      | v4 ip' => simp [IPNetwork.contains, AgreeOn]
      | v6 ip' scopeId' => simp [IPNetwork.contains, AgreeOn, and_netmask_eq_iff hunset]
    · rw [if_neg hhost]
      simp [hhost]

end Reading

/-! ### The matcher -/

section Matching

variable {rule : TenantIPRule} {clientIp : String} {a client : IPAddress} {n : Option ℕ}

/-- **When a rule matches**: it means the client, and no bit is set behind its prefix. -/
theorem ipMatchesRule_iff (hrule : Reads rule.ipOrCidr a n) (hclient : ipAddress clientIp = some client) :
    ipMatchesRule clientIp rule = true ↔ (∀ m, n = some m → HostBitsUnset m a) ∧ Means a n client := by
  unfold ipMatchesRule
  rw [hclient]
  cases hrule with
  | address h =>
    have hslash : rule.ipOrCidr.toList.contains '/' = false := by
      simpa [List.contains_iff_mem] using notMem_of_ipAddress h
    rw [hslash, h]
    simp [Means]
  | @network address bits m htext ha hbits =>
    have hslash : rule.ipOrCidr.toList.contains '/' = true := by
      rw [htext]
      simp
    have hcontains : (∃ network, ipNetwork (address ++ String.singleton '/' ++ bits) = some network ∧
        network.contains client = true) ↔ HostBitsUnset m a ∧ AgreeOn m a client := contains_ipNetwork_iff ha hbits
    rw [← htext] at hcontains
    rw [if_pos hslash, show (∀ m', some m = some m' → HostBitsUnset m' a) ↔ HostBitsUnset m a by simp]
    refine Iff.trans ?_ hcontains
    cases ipNetwork rule.ipOrCidr with
    | none => simp
    | some network => simp

/-- A rule with a bit set behind its prefix matches nobody. -/
theorem never_matches {m : ℕ} (hrule : Reads rule.ipOrCidr a (some m)) (hset : ¬HostBitsUnset m a)
    (hclient : ipAddress clientIp = some client) : ipMatchesRule clientIp rule = false := by
  rw [← Bool.not_eq_true, ipMatchesRule_iff hrule hclient]
  exact fun h => hset (h.1 m rfl)

lemma agreeOn_self (m : ℕ) (a : IPAddress) : AgreeOn m a a := by
  cases a with
  | v4 ip => exact fun _ _ => rfl
  | v6 ip scopeId => exact fun _ _ => rfl

/-- The text of the address that a rule names. -/
lemma exists_client (hrule : Reads rule.ipOrCidr a n) : ∃ clientIp, ipAddress clientIp = some a := by
  cases hrule with
  | address h => exact ⟨_, h⟩
  | network _ ha _ => exact ⟨_, ha⟩

end Matching

/-- **When an accepted rule means what it says**, for every client: it has no prefix, or no bit set behind it. -/
theorem matches_iff_means_iff (ruleIn : IPRuleCreate) (a : IPAddress) (n : Option ℕ)
    (hrule : Reads ruleIn.ipOrCidr a n) :
    (∀ clientIp client, ipAddress clientIp = some client →
      (ipMatchesRule clientIp ruleIn.row = true ↔ Means a n client)) ↔
      ∀ m, n = some m → HostBitsUnset m a := by
  have hrow : Reads ruleIn.row.ipOrCidr a n := hrule
  constructor
  · intro h m hm
    obtain ⟨clientIp, hclient⟩ := exists_client hrow
    have hmeans : Means a n a := by
      rw [hm]
      exact agreeOn_self m a
    exact ((ipMatchesRule_iff hrow hclient).1 ((h clientIp a hclient).2 hmeans)).1 m hm
  · intro h clientIp client hclient
    rw [ipMatchesRule_iff hrow hclient]
    exact and_iff_right h

namespace Sample

/-- A deny rule for the network of a host, written with the address of the host. -/
def hostRule : IPRuleCreate where
  tenantId := 1
  ipOrCidr := ⟨"10.0.0.1/8", by decide⟩
  action := .deny

lemma hostRule_reads : Reads hostRule.ipOrCidr (.v4 0x0a000001#32) (some 8) :=
  @Reads.network _ _ "10.0.0.1" "8" 8 (by decide) (by decide +kernel) (by decide)

end Sample

open Sample in
/-- The rule denies nobody, not even the host. -/
theorem host_not_denied :
    Reads hostRule.ipOrCidr (.v4 0x0a000001#32) (some 8) ∧ ipAddress "10.0.0.1" = some (.v4 0x0a000001#32) ∧
      Means (.v4 0x0a000001#32) (some 8) (.v4 0x0a000001#32) ∧ ipMatchesRule "10.0.0.1" hostRule.row = false :=
  ⟨hostRule_reads, by decide +kernel, fun _ _ => rfl, by decide +kernel⟩

open Sample in
/-- The condition for that rule: its last bit is set. -/
theorem matches_iff_means_iff_host :
    (∀ clientIp client, ipAddress clientIp = some client →
      (ipMatchesRule clientIp hostRule.row = true ↔ Means (.v4 0x0a000001#32) (some 8) client)) ↔
      ∀ m, some 8 = some m → HostBitsUnset m (.v4 0x0a000001#32) :=
  matches_iff_means_iff hostRule _ _ hostRule_reads

end FastapiTemplate.Middleware
