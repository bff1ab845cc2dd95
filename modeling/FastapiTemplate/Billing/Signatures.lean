import FastapiTemplate.Billing.Webhook

/-!
# Stripe's signature scheme

A header of Stripe's is a list of items `key=value` with one timestamp `t` and a signature `v1` for each secret in
force; it is good if one of them is. `verify_signature_header` puts the items into a dictionary, where the last `v1`
stands for all, and signs the number that the timestamp is read as. `verify_iff_accepts_iff` says for which headers
that makes no difference, and `verify_returns_iff` for which requests there is an answer at all.
-/

namespace FastapiTemplate.Billing

open Core Database Python Effects Script

variable {S : Schema}

/-! ### The items of a header -/

/-- The items `key=value`, without the blanks around keys and values. -/
def headerItems (header : String) : List (String × String) :=
  (split ',' header).filterMap fun item => (cut '=' item).map fun kv => (strip kv.1, strip kv.2)

/-- The values of the items with one key. -/
def valuesOf (key header : String) : List String :=
  ((headerItems header).filter fun kv => kv.1 == key).map Prod.snd

/-- Every item of the header has the form `key=value`, and there is one `t`. -/
structure Timestamped (header t : String) : Prop where
  items : ∀ item ∈ split ',' header, (cut '=' item).isSome = true
  timestamp : valuesOf "t" header = [t]

section Items

variable {key header : String} {limit : Option ℕ}

lemma headerParts_eq :
    headerParts header = (headerItems header).foldl (fun parts kv => Value.setItem kv.1 kv.2 parts) [] := by
  unfold headerParts headerItems
  generalize split ',' header = items
  generalize ([] : List (String × String)) = parts
  induction items generalizing parts with
  | nil => rfl
  | cons item items ih =>
    rw [List.foldl_cons, List.filterMap_cons]
    cases cut '=' item with
    | none => exact ih parts
    | some kv => exact ih _

/-- **What the dictionary keeps of the items.** -/
lemma lookup_headerParts : (headerParts header).lookup key = (valuesOf key header).getLast? := by
  rw [headerParts_eq, Value.lookup_foldl_setItem]
  exact Option.or_none

/-- **What a header is read as**: the last `t`, as a number, and the last `v1`. -/
lemma signatureFields_eq_some {timestamp : ℤ} {signature : String} :
    signatureFields (some header) limit = some (timestamp, signature) ↔
      ∃ t, (valuesOf "t" header).getLast? = some t ∧ (valuesOf "v1" header).getLast? = some signature ∧
        signature ≠ "" ∧ readInt limit t = .ok timestamp := by
  have hempty : valuesOf "t" "" = [] := by decide
  unfold signatureFields
  rw [Option.bind_eq_bind, Option.bind_some, lookup_headerParts, lookup_headerParts]
  constructor
  · intro h
    obtain ⟨t, ht, h⟩ := Option.bind_eq_some_iff.1 h
    obtain ⟨v, hv, h⟩ := Option.bind_eq_some_iff.1 h
    split at h
    · cases h
    · rename_i hne
      split at h
      · rename_i ts hread
        cases h
        exact ⟨t, ht, hv, fun e => hne (.inr (.inr e)), hread⟩
      · cases h
  · rintro ⟨t, ht, hv, hne, hread⟩
    have hheader : header ≠ "" := by
      rintro rfl
      rw [hempty] at ht
      cases ht
    have htext : t ≠ "" := by
      rintro rfl
      rw [readInt_empty] at hread
      cases hread
    rw [ht, hv]
    simp [hheader, htext, hne, hread]

end Items

/-! ### The scheme -/

/-- The signature over a timestamp, as it is written, and a body. -/
def digestOf (mac : Hmac) (secret text t : String) : String :=
  mac.hexdigest secret.toUTF8 (t ++ "." ++ text).toUTF8

/-- The header is good: its timestamp is near, and one of its signatures is the secret's. -/
def SchemeAccepts (mac : Hmac) (secret text header : String) (tolerance : ℤ) (now : Datetime) : Prop :=
  ∃ t timestamp, valuesOf "t" header = [t] ∧ readInt none t = .ok timestamp ∧
    |now.tdiv second - timestamp| ≤ tolerance ∧ digestOf mac secret text t ∈ valuesOf "v1" header

/-- While the timestamp is near: if it is written as `str` writes it and an item has its signature, then the last
`v1` has it; and if it is written in another way, an item has the signature of what is written exactly when the
number can be read and the last `v1` has the signature of the number. -/
def LastSigns (mac : Hmac) (limit : Option ℕ) (secret text header t : String) (tolerance : ℤ) (now : Datetime) :
    Prop :=
  ∀ timestamp, readInt none t = .ok timestamp → |now.tdiv second - timestamp| ≤ tolerance →
    (printInt limit timestamp = .ok t → digestOf mac secret text t ∈ valuesOf "v1" header →
      (valuesOf "v1" header).getLast? = some (digestOf mac secret text t)) ∧
    (printInt limit timestamp ≠ .ok t → (digestOf mac secret text t ∈ valuesOf "v1" header ↔
      readInt limit t = .ok timestamp ∧
        (valuesOf "v1" header).getLast? = some (digestOf mac secret text (toString timestamp))))

section Scheme

variable {mac : Hmac} {limit : Option ℕ} {secret text header t : String} {tolerance : ℤ} {now : Datetime}

/-- What the verifier accepts: the last `v1` is the signature over the number. -/
lemma signed_iff (hone : valuesOf "t" header = [t]) :
    Signed mac text.toUTF8 secret (some header) tolerance now limit ↔
      ∃ timestamp, readInt limit t = .ok timestamp ∧ |now.tdiv second - timestamp| ≤ tolerance ∧
        (valuesOf "v1" header).getLast? = some (digestOf mac secret text (toString timestamp)) := by
  have hlast : (valuesOf "t" header).getLast? = some t := by rw [hone]; rfl
  constructor
  · rintro ⟨timestamp, signature, hfields, hsign, hnear⟩
    obtain ⟨t', ht', hv, -, hread⟩ := signatureFields_eq_some.1 hfields
    obtain ⟨-, text', htext, hdigest⟩ := exists_of_signPayload hsign
    obtain rfl : text = text' := Except.ok.inj ((decode_toUTF8 text).symm.trans htext)
    obtain rfl : t = t' := Option.some.inj (hlast.symm.trans ht')
    exact ⟨timestamp, hread, hnear, hv.trans (congrArg some hdigest.symm)⟩
  · rintro ⟨timestamp, hread, hnear, hv⟩
    have hne : digestOf mac secret text (toString timestamp) ≠ "" := hexdigest_ne_empty mac _ _
    refine ⟨timestamp, _, signatureFields_eq_some.2 ⟨t, hlast, hv, hne, hread⟩, ?_, hnear⟩
    exact (signPayload_eq_ok_of (printInt_of_readInt hread)).2 ⟨text, decode_toUTF8 text, rfl⟩

/-- Whether the verifier and the scheme agree on a near timestamp. -/
lemma agree_iff {timestamp : ℤ} (hread : readInt none t = .ok timestamp) :
    ((readInt limit t = .ok timestamp ∧
        (valuesOf "v1" header).getLast? = some (digestOf mac secret text (toString timestamp))) ↔
      digestOf mac secret text t ∈ valuesOf "v1" header) ↔
    (printInt limit timestamp = .ok t → digestOf mac secret text t ∈ valuesOf "v1" header →
      (valuesOf "v1" header).getLast? = some (digestOf mac secret text t)) ∧
    (printInt limit timestamp ≠ .ok t → (digestOf mac secret text t ∈ valuesOf "v1" header ↔
      readInt limit t = .ok timestamp ∧
        (valuesOf "v1" header).getLast? = some (digestOf mac secret text (toString timestamp)))) := by
  by_cases hprint : printInt limit timestamp = .ok t
  · -- the spelling is the plain one, so both sign the same text
    obtain rfl : toString timestamp = t := (printInt_eq_ok.1 hprint).2
    have hlimit := readInt_of_printInt hprint
    constructor
    · intro h
      exact ⟨fun _ hmem => (h.2 hmem).2, fun hne => absurd hprint hne⟩
    · rintro ⟨hplain, -⟩
      exact ⟨fun h => List.mem_of_getLast? h.2, fun hmem => ⟨hlimit, hplain hprint hmem⟩⟩
  · constructor
    · intro h
      exact ⟨fun hplain => absurd hplain hprint, fun _ => h.symm⟩
    · rintro ⟨-, hother⟩
      exact (hother hprint).symm

/-- What is built verifies. -/
lemma exists_built {timestamp : ℤ} (hdigits : WithinDigits limit (toString timestamp))
    (hnear : |now.tdiv second - timestamp| ≤ tolerance) :
    ∃ built, buildSignatureHeader mac text.toUTF8 secret timestamp limit = .ok built ∧
      Signed mac text.toUTF8 secret (some built) tolerance now limit := by
  have hprint : printInt limit timestamp = .ok (toString timestamp) := printInt_eq_ok.2 ⟨hdigits, rfl⟩
  have hsign : signPayload mac text.toUTF8 secret timestamp limit =
      .ok (digestOf mac secret text (toString timestamp)) :=
    (signPayload_eq_ok_of hprint).2 ⟨text, decode_toUTF8 text, rfl⟩
  have hbuild : buildSignatureHeader mac text.toUTF8 secret timestamp limit = .ok _ :=
    bind_eq_ok.2 ⟨_, hprint, bind_eq_ok.2 ⟨_, hsign, rfl⟩⟩
  exact ⟨_, hbuild, signed_build hbuild hnear⟩

end Scheme

/-- **When the verifier is the scheme**: exactly when the last `v1` speaks for all of them and for the timestamp as
it is written. What `build_signature_header` builds is always accepted. -/
theorem verify_iff_accepts_iff (mac : Hmac) (limit : Option ℕ) (secret text header t : String) (tolerance : ℤ)
    (s : Session) (w : World S) (hheader : Timestamped header t) :
    ((((verifySignatureHeader mac text.toUTF8 secret (some header) tolerance limit).exec serve s w).result = .ok true ↔
        SchemeAccepts mac secret text header tolerance (w.env.clock w.clockReads)) ↔
      LastSigns mac limit secret text header t tolerance (w.env.clock w.clockReads)) ∧
    ∀ timestamp, WithinDigits limit (toString timestamp) →
      |(w.env.clock w.clockReads).tdiv second - timestamp| ≤ tolerance →
      ∃ built, buildSignatureHeader mac text.toUTF8 secret timestamp limit = .ok built ∧
        ((verifySignatureHeader mac text.toUTF8 secret (some built) tolerance limit).exec serve s w).result =
          .ok true := by
  refine ⟨?_, fun timestamp hdigits hnear => ?_⟩
  · rw [verifySignatureHeader_iff, signed_iff hheader.timestamp]
    have haccepts : ∀ {now : Datetime} {timestamp : ℤ}, readInt none t = .ok timestamp →
        |now.tdiv second - timestamp| ≤ tolerance →
        (SchemeAccepts mac secret text header tolerance now ↔
          digestOf mac secret text t ∈ valuesOf "v1" header) := by
      intro now timestamp hread hnear
      constructor
      · rintro ⟨t', -, hone, -, -, hmem⟩
        obtain rfl : t = t' := by simpa [hheader.timestamp] using hone
        exact hmem
      · exact fun hmem => ⟨t, timestamp, hheader.timestamp, hread, hnear, hmem⟩
    constructor
    · intro h timestamp hread hnear
      refine (agree_iff hread).1 (Iff.trans ?_ (h.trans (haccepts hread hnear)))
      constructor
      · exact fun ⟨hlimit, hlast⟩ => ⟨timestamp, hlimit, hnear, hlast⟩
      · rintro ⟨timestamp', hlimit, -, hlast⟩
        obtain rfl : timestamp = timestamp' :=
          Except.ok.inj (hread.symm.trans (readInt_none_of hlimit))
        exact ⟨hlimit, hlast⟩
    · intro h
      constructor
      · rintro ⟨timestamp, hlimit, hnear, hlast⟩
        have hread := readInt_none_of hlimit
        exact (haccepts hread hnear).2 (((agree_iff hread).2 (h timestamp hread hnear)).1 ⟨hlimit, hlast⟩)
      · rintro ⟨t', timestamp, hone, hread, hnear, hmem⟩
        obtain rfl : t = t' := by simpa [hheader.timestamp] using hone
        obtain ⟨hlimit, hlast⟩ := ((agree_iff hread).2 (h timestamp hread hnear)).2 hmem
        exact ⟨timestamp, hlimit, hnear, hlast⟩
  · obtain ⟨built, hbuild, hsigned⟩ := exists_built hdigits hnear
    exact ⟨built, hbuild, verifySignatureHeader_iff.2 hsigned⟩

namespace Sample

/-- The header of the body `[]` while the secret is being rolled: the signatures of the new and of the old secret. -/
def rolledHeader : String :=
  "t=1000,v1=e565973ceab29bf5e182952c7f7200c986e2c27c85ec7285a197c3713c0045b2," ++
    "v1=d90d33f65f8a0448b9732efe482ada55986a6bcf530be5fb955421b19a8b1e0c"

/-- The items of that header, and that nothing else is in it. -/
lemma rolledHeader_items :
    (∀ item ∈ split ',' rolledHeader, (cut '=' item).isSome = true) ∧
    headerItems rolledHeader =
      [("t", "1000"), ("v1", "e565973ceab29bf5e182952c7f7200c986e2c27c85ec7285a197c3713c0045b2"),
        ("v1", "d90d33f65f8a0448b9732efe482ada55986a6bcf530be5fb955421b19a8b1e0c")] := by decide +kernel

lemma valuesOf_rolledHeader :
    valuesOf "v1" rolledHeader =
      ["e565973ceab29bf5e182952c7f7200c986e2c27c85ec7285a197c3713c0045b2",
        "d90d33f65f8a0448b9732efe482ada55986a6bcf530be5fb955421b19a8b1e0c"] := by
  unfold valuesOf
  rw [rolledHeader_items.2]
  rfl

lemma rolledHeader_timestamped : Timestamped rolledHeader "1000" where
  items := rolledHeader_items.1
  timestamp := by
    unfold valuesOf
    rw [rolledHeader_items.2]
    rfl

lemma digestOf_list :
    digestOf listMac "whsec_test" "[]" "1000" =
      "e565973ceab29bf5e182952c7f7200c986e2c27c85ec7285a197c3713c0045b2" := by decide +kernel

lemma rolledHeader_accepted :
    SchemeAccepts listMac "whsec_test" "[]" rolledHeader webhookToleranceSeconds (1000 * second) := by
  refine ⟨"1000", 1000, rolledHeader_timestamped.timestamp, by decide +kernel, by decide, ?_⟩
  rw [digestOf_list, valuesOf_rolledHeader]
  exact List.mem_cons_self

end Sample

open Sample in
/-- The header of a secret that is being rolled is good, and refused. -/
theorem rolled_refused :
    Timestamped rolledHeader "1000" ∧
      SchemeAccepts listMac "whsec_test" "[]" rolledHeader webhookToleranceSeconds
        (atThousand.env.clock atThousand.clockReads) ∧
      ((verifySignatureHeader listMac "[]".toUTF8 "whsec_test" (some rolledHeader)
        webhookToleranceSeconds (some 4300)).exec serve {} atThousand).result ≠ .ok true := by
  refine ⟨rolledHeader_timestamped, rolledHeader_accepted, ?_⟩
  rw [ne_eq, verifySignatureHeader_iff, signed_iff rolledHeader_timestamped.timestamp]
  rintro ⟨timestamp, hread, -, hlast⟩
  have hthousand : readInt (some 4300) "1000" = .ok 1000 := by decide +kernel
  obtain rfl : 1000 = timestamp := Except.ok.inj (hthousand.symm.trans hread)
  rw [show toString (1000 : ℤ) = "1000" from rfl, digestOf_list, valuesOf_rolledHeader] at hlast
  exact absurd hlast (by decide +kernel)

open Sample in
/-- The condition at that header. -/
theorem verify_iff_accepts_iff_rolled :
    Timestamped rolledHeader "1000" ∧
    ((((verifySignatureHeader listMac "[]".toUTF8 "whsec_test" (some rolledHeader) webhookToleranceSeconds
        (some 4300)).exec serve {} atThousand).result = .ok true ↔
      SchemeAccepts listMac "whsec_test" "[]" rolledHeader webhookToleranceSeconds
        (atThousand.env.clock atThousand.clockReads)) ↔
      LastSigns listMac (some 4300) "whsec_test" "[]" rolledHeader "1000" webhookToleranceSeconds
        (atThousand.env.clock atThousand.clockReads)) :=
  ⟨rolledHeader_timestamped, (verify_iff_accepts_iff listMac (some 4300) "whsec_test" "[]" rolledHeader "1000"
    webhookToleranceSeconds {} atThousand rolledHeader_timestamped).1⟩

/-! ### Whether there is an answer -/

/-- What the comparison needs: while there are a timestamp that can be read and is near and a signature, the body is
UTF-8 and the signature is ASCII. -/
def Comparable (limit : Option ℕ) (body : ByteArray) (header : String) (tolerance : ℤ) (now : Datetime) : Prop :=
  ∀ t signature timestamp, (valuesOf "t" header).getLast? = some t →
    (valuesOf "v1" header).getLast? = some signature → signature ≠ "" → readInt limit t = .ok timestamp →
    |now.tdiv second - timestamp| ≤ tolerance → (∃ text, decode body = .ok text) ∧ isAscii signature = true

section Answers

variable {mac : Hmac} {limit : Option ℕ} {body : ByteArray} {secret : String} {header : Option String}
  {tolerance : ℤ} {now : Datetime}

/-- The check of a near timestamp answers if the body is UTF-8 and the signature is ASCII. -/
lemma checkSignature_returns_iff {timestamp : ℤ} {signature : String}
    (hprint : printInt limit timestamp = .ok (toString timestamp)) :
    (∃ b, checkSignature mac body secret tolerance (timestamp, signature) now limit = .ok b) ↔
      (|now.tdiv second - timestamp| ≤ tolerance → (∃ text, decode body = .ok text) ∧ isAscii signature = true) := by
  unfold checkSignature
  by_cases hfar : tolerance < |now.tdiv second - timestamp|
  · rw [if_pos hfar]
    exact iff_of_true ⟨false, rfl⟩ fun hnear => absurd hnear (not_le.2 hfar)
  · rw [if_neg hfar]
    have hnear := not_lt.1 hfar
    constructor
    · rintro ⟨b, h⟩ -
      obtain ⟨expected, hsign, hcompare⟩ := bind_eq_ok.1 h
      obtain ⟨text, htext, -⟩ := (signPayload_eq_ok_of hprint).1 hsign
      refine ⟨⟨text, htext⟩, ?_⟩
      unfold compareDigest at hcompare
      split at hcompare
      · rename_i hascii
        exact (Bool.and_eq_true_iff.1 hascii).2
      · cases hcompare
    · intro h
      obtain ⟨⟨text, htext⟩, hascii⟩ := h hnear
      refine ⟨mac.hexdigest secret.toUTF8 (toString timestamp ++ "." ++ text).toUTF8 == signature,
        bind_eq_ok.2 ⟨_, (signPayload_eq_ok_of hprint).2 ⟨text, htext, rfl⟩, ?_⟩⟩
      unfold compareDigest
      rw [isAscii_hexdigest, hascii]
      rfl

lemma result_verify {s : Session} {w : World S} :
    ((verifySignatureHeader mac body secret header tolerance limit).exec serve s w).result =
      match signatureFields header limit with
      | none => .ok false
      | some fields =>
        liftBuiltin (checkSignature mac body secret tolerance fields (w.env.clock w.clockReads) limit) := by
  unfold verifySignatureHeader
  cases signatureFields header limit with
  | none => rfl
  | some fields =>
    simp only [exec_bind, datetimeNow, exec_perform, Outcome.next_ok, exec_ofExcept, serve]

end Answers

/-- **When there is an answer**: exactly when what is compared can be compared. -/
theorem verify_returns_iff (mac : Hmac) (limit : Option ℕ) (body : ByteArray) (secret : String)
    (header : Option String) (tolerance : ℤ) (s : Session) (w : World S) :
    (∃ b, ((verifySignatureHeader mac body secret header tolerance limit).exec serve s w).result = .ok b) ↔
      ∀ text ∈ header, Comparable limit body text tolerance (w.env.clock w.clockReads) := by
  rw [result_verify]
  cases header with
  | none => exact iff_of_true ⟨false, rfl⟩ nofun
  | some header =>
    rw [show (∀ text ∈ some header, Comparable limit body text tolerance (w.env.clock w.clockReads)) ↔
      Comparable limit body header tolerance (w.env.clock w.clockReads) by simp]
    cases hfields : signatureFields (some header) limit with
    | none =>
      refine iff_of_true ⟨false, rfl⟩ fun t signature timestamp ht hv hne hread _ => ?_
      have hsome := signatureFields_eq_some.2 ⟨t, ht, hv, hne, hread⟩
      rw [hfields] at hsome
      cases hsome
    | some fields =>
      obtain ⟨timestamp, signature⟩ := fields
      obtain ⟨t, ht, hv, hne, hread⟩ := signatureFields_eq_some.1 hfields
      simp only [liftBuiltin_eq_ok]
      rw [checkSignature_returns_iff (printInt_of_readInt hread)]
      constructor
      · intro h t' signature' timestamp' ht' hv' _ hread' hnear
        obtain rfl : t = t' := Option.some.inj (ht.symm.trans ht')
        obtain rfl : signature = signature' := Option.some.inj (hv.symm.trans hv')
        obtain rfl : timestamp = timestamp' := Except.ok.inj (hread.symm.trans hread')
        exact h hnear
      · exact fun h hnear => h t signature timestamp ht hv hne hread hnear

open Sample in
/-- Two bytes of a stranger end the request with an error: a body that is no UTF-8, a signature that is no ASCII. -/
theorem verify_raises :
    ((verifySignatureHeader listMac ⟨#[0xff]⟩ "whsec_test" (some "t=1000,v1=0") webhookToleranceSeconds
      (some 4300)).exec serve {} atThousand).result = .error (.builtin .valueError) ∧
    ((verifySignatureHeader listMac "[]".toUTF8 "whsec_test" (some "t=1000,v1=é") webhookToleranceSeconds
      (some 4300)).exec serve {} atThousand).result = .error (.builtin .typeError) := by
  constructor
  · rw [result_verify]
    decide +kernel
  · rw [result_verify]
    decide +kernel

end FastapiTemplate.Billing
