import FastapiTemplate.Core.Runtime
import FastapiTemplate.Python.Numerals

/-!
# Signed payloads

`core.signing`: the header `t=<timestamp>,v1=<signature>`, whose signature is an HMAC-SHA256 over the
timestamp and the body. HMAC itself is a parameter; of its digests only the alphabet and the length are
known. `limit` is the number of digits to which the interpreter reads and prints numbers.
-/

namespace FastapiTemplate.Core

open Effects Database Python Script

variable {S : Schema}

/-- The characters of a hexadecimal digest. -/
def hexDigits : List Char := "0123456789abcdef".toList

/-- `hmac.new(key, message, hashlib.sha256).hexdigest()` -/
structure Hmac where
  hexdigest : (key message : ByteArray) → String
  hex : ∀ key message, ∀ c ∈ (hexdigest key message).toList, c ∈ hexDigits
  length : ∀ key message, (hexdigest key message).length = 64

/-! ### Signing -/

def signPayload (mac : Hmac) (body : ByteArray) (secret : String) (timestamp : ℤ) (limit : Option ℕ := none) :
    Except BuiltinError String := do
  let digits ← printInt limit timestamp
  let text ← decode body
  return mac.hexdigest secret.toUTF8 (digits ++ "." ++ text).toUTF8

def buildSignatureHeader (mac : Hmac) (body : ByteArray) (secret : String) (timestamp : ℤ)
    (limit : Option ℕ := none) : Except BuiltinError String := do
  let digits ← printInt limit timestamp
  let signature ← signPayload mac body secret timestamp limit
  return "t=" ++ digits ++ ",v1=" ++ signature

/-! ### Verifying -/

/-- The loop over the items of the header; a later item overwrites an earlier one. -/
def headerParts (header : String) : List (String × String) :=
  (split ',' header).foldl (fun parts item =>
    match cut '=' item with
    | some (key, value) => Value.setItem (strip key) (strip value) parts
    | none => parts) []

/-- The timestamp and the signature of a header, if it has both. -/
def signatureFields (header : Option String) (limit : Option ℕ := none) : Option (ℤ × String) := do
  let header ← header
  let timestamp ← (headerParts header).lookup "t"
  let signature ← (headerParts header).lookup "v1"
  if header = "" ∨ timestamp = "" ∨ signature = "" then none
  else match readInt limit timestamp with
    | .ok timestamp => some (timestamp, signature)
    | .error _ => none

/-- The comparisons, the clock showing `now`. -/
def checkSignature (mac : Hmac) (body : ByteArray) (secret : String) (tolerance : ℤ)
    (fields : ℤ × String) (now : Datetime) (limit : Option ℕ := none) : Except BuiltinError Bool :=
  if tolerance < |now.tdiv second - fields.1| then .ok false
  else do
    let expected ← signPayload mac body secret fields.1 limit
    compareDigest expected fields.2

def verifySignatureHeader (mac : Hmac) (body : ByteArray) (secret : String) (header : Option String)
    (toleranceSeconds : ℤ) (limit : Option ℕ := none) : Py S Bool := do
  match signatureFields header limit with
  | none => return false
  | some fields =>
    let now ← datetimeNow
    ofExcept (liftBuiltin (checkSignature mac body secret toleranceSeconds fields now limit))

/-- The header carries a signature made with the secret over the body and a timestamp that is within
the tolerance at `now`. -/
def Signed (mac : Hmac) (body : ByteArray) (secret : String) (header : Option String) (tolerance : ℤ)
    (now : Datetime) (limit : Option ℕ := none) : Prop :=
  ∃ timestamp signature, signatureFields header limit = some (timestamp, signature) ∧
    signPayload mac body secret timestamp limit = .ok signature ∧ |now.tdiv second - timestamp| ≤ tolerance

/-- A text of hexadecimal digits only. -/
lemma mem_hexDigits_of_all {text : String} (h : text.toList.all hexDigits.contains = true) :
    ∀ c ∈ text.toList, c ∈ hexDigits := fun c hc => List.contains_iff_mem.1 (List.all_eq_true.1 h c hc)

section Lemmas

variable {mac : Hmac} {body : ByteArray} {secret signature : String} {tolerance timestamp : ℤ}
  {now : Datetime} {header : Option String} {limit : Option ℕ}

lemma isAscii_hexdigest (mac : Hmac) (key message : ByteArray) :
    isAscii (mac.hexdigest key message) = true := by
  have hall : isAscii "0123456789abcdef" = true := by decide
  exact List.all_eq_true.2 fun c hc => List.all_eq_true.1 hall c (mac.hex key message c hc)

lemma hexdigest_ne_empty (mac : Hmac) (key message : ByteArray) : mac.hexdigest key message ≠ "" := by
  intro h
  have := mac.length key message
  rw [h] at this
  exact absurd this (by decide)

lemma signPayload_eq_ok_of (hprint : printInt limit timestamp = .ok (toString timestamp)) :
    signPayload mac body secret timestamp limit = .ok signature ↔
      ∃ text, decode body = .ok text ∧
        mac.hexdigest secret.toUTF8 (toString timestamp ++ "." ++ text).toUTF8 = signature := by
  have hbind : signPayload mac body secret timestamp limit = (decode body >>= fun text =>
      .ok (mac.hexdigest secret.toUTF8 (toString timestamp ++ "." ++ text).toUTF8)) := by
    unfold signPayload
    rw [hprint]
    rfl
  rw [hbind, bind_eq_ok]
  exact exists_congr fun text => and_congr Iff.rfl ⟨Except.ok.inj, congrArg Except.ok⟩

lemma signPayload_eq_ok :
    signPayload mac body secret timestamp = .ok signature ↔
      ∃ text, decode body = .ok text ∧
        mac.hexdigest secret.toUTF8 (toString timestamp ++ "." ++ text).toUTF8 = signature :=
  signPayload_eq_ok_of (printInt_none timestamp)

/-- A signature is a digest. -/
lemma exists_of_signPayload (h : signPayload mac body secret timestamp limit = .ok signature) :
    printInt limit timestamp = .ok (toString timestamp) ∧ ∃ text, decode body = .ok text ∧
      mac.hexdigest secret.toUTF8 (toString timestamp ++ "." ++ text).toUTF8 = signature := by
  obtain ⟨digits, hdigits, -⟩ := bind_eq_ok.1 h
  have hprint : printInt limit timestamp = .ok (toString timestamp) :=
    hdigits.trans (congrArg Except.ok (printInt_eq_ok.1 hdigits).2.symm)
  exact ⟨hprint, (signPayload_eq_ok_of hprint).1 h⟩

/-- **What the check accepts.** -/
theorem checkSignature_eq_true {fields : ℤ × String} :
    checkSignature mac body secret tolerance fields now limit = .ok true ↔
      signPayload mac body secret fields.1 limit = .ok fields.2 ∧ |now.tdiv second - fields.1| ≤ tolerance := by
  unfold checkSignature
  by_cases ht : tolerance < |now.tdiv second - fields.1|
  · rw [if_pos ht]
    exact ⟨fun h => by simp at h, fun h => absurd h.2 (not_le.2 ht)⟩
  · rw [if_neg ht, and_iff_left (not_lt.1 ht)]
    cases hs : signPayload mac body secret fields.1 limit with
    | error e => exact ⟨nofun, nofun⟩
    | ok expected =>
      obtain ⟨-, text, -, hexp⟩ := exists_of_signPayload hs
      have hascii : isAscii expected = true := hexp ▸ isAscii_hexdigest mac _ _
      exact (compareDigest_eq_true hascii).trans ⟨fun h => by rw [h], Except.ok.inj⟩

/-- **A verified header is signed**, and nothing else verifies. -/
theorem verifySignatureHeader_iff {s : Session} {w : World S} :
    ((verifySignatureHeader mac body secret header tolerance limit).exec serve s w).result = .ok true ↔
      Signed mac body secret header tolerance (w.env.clock w.clockReads) limit := by
  unfold verifySignatureHeader Signed
  cases hf : signatureFields header limit with
  | none => simp
  | some fields =>
    obtain ⟨ts, sig⟩ := fields
    simp only [exec_bind, datetimeNow, exec_perform, Outcome.next_ok, exec_ofExcept, liftBuiltin_eq_ok,
      checkSignature_eq_true, serve, Option.some.injEq, Prod.mk.injEq]
    constructor
    · intro h
      exact ⟨ts, sig, ⟨rfl, rfl⟩, h⟩
    · rintro ⟨_, _, ⟨rfl, rfl⟩, h⟩
      exact h

/-! ### The header that is built is read back -/

lemma notMem_hexDigits {c : Char} (hc : c ∉ hexDigits) (mac : Hmac) (key message : ByteArray) :
    c ∉ (mac.hexdigest key message).toList := fun h => hc (mac.hex key message c h)

lemma isWhitespace_of_isDigit {c : Char} (h : c.isDigit = true) : isWhitespace c = false := by
  simp only [Char.isDigit, Bool.and_eq_true, decide_eq_true_eq] at h
  have h1 : 48 ≤ c.toNat := h.1
  have h2 : c.toNat ≤ 57 := h.2
  exact isWhitespace_of_visible (by omega) (by omega)

lemma strip_toString (n : ℤ) : strip (toString n) = toString n := by
  refine strip_eq_self fun c hc => ?_
  rcases isDigit_of_mem_toString hc with h | rfl
  · exact isWhitespace_of_isDigit h
  · decide

lemma strip_hexdigest (mac : Hmac) (key message : ByteArray) :
    strip (mac.hexdigest key message) = mac.hexdigest key message := by
  have hall : hexDigits.any isWhitespace = false := by decide
  exact strip_eq_self fun c hc => by simpa using List.any_eq_false.1 hall c (mac.hex key message c hc)

lemma headerParts_build (mac : Hmac) (key message : ByteArray) (timestamp : ℤ) :
    headerParts ("t=" ++ toString timestamp ++ ",v1=" ++ mac.hexdigest key message) =
      [("t", toString timestamp), ("v1", mac.hexdigest key message)] := by
  have hheader : "t=" ++ toString timestamp ++ ",v1=" ++ mac.hexdigest key message =
      "t=" ++ toString timestamp ++ String.singleton ',' ++ ("v1=" ++ mac.hexdigest key message) := by
    rw [← String.append_assoc]
    simp [String.ext_iff]
  have hfirst : ',' ∉ ("t=" ++ toString timestamp).toList := by
    rw [String.toList_append, List.mem_append, not_or]
    exact ⟨by decide, notMem_toString (by decide) (by decide)⟩
  have hsecond : ',' ∉ ("v1=" ++ mac.hexdigest key message).toList := by
    rw [String.toList_append, List.mem_append, not_or]
    exact ⟨by decide, notMem_hexDigits (by decide) mac key message⟩
  have ht : cut '=' ("t=" ++ toString timestamp) = some ("t", toString timestamp) :=
    cut_append (a := "t") (by decide)
  have hv : cut '=' ("v1=" ++ mac.hexdigest key message) = some ("v1", mac.hexdigest key message) :=
    cut_append (a := "v1") (by decide)
  have hkeys : strip "t" = "t" ∧ strip "v1" = "v1" := by decide
  unfold headerParts
  rw [hheader, split_append hfirst, split_of_notMem hsecond]
  simp only [List.foldl_cons, List.foldl_nil, ht, hv, strip_toString, strip_hexdigest, hkeys]
  rfl

lemma signatureFields_build (mac : Hmac) (key message : ByteArray)
    (hprint : printInt limit timestamp = .ok (toString timestamp)) :
    signatureFields (some ("t=" ++ toString timestamp ++ ",v1=" ++ mac.hexdigest key message)) limit =
      some (timestamp, mac.hexdigest key message) := by
  have hread := readInt_of_printInt hprint
  have htime : toString timestamp ≠ "" := by
    intro h
    rw [h, readInt_empty] at hread
    cases hread
  have hheader : "t=" ++ toString timestamp ++ ",v1=" ++ mac.hexdigest key message ≠ "" := by simp
  have hdigest := hexdigest_ne_empty mac key message
  have hparts := headerParts_build mac key message timestamp
  unfold signatureFields
  simp only [Option.bind_eq_bind, Option.bind_some, hparts]
  show (if _ ∨ toString timestamp = "" ∨ mac.hexdigest key message = "" then none else
    match readInt limit (toString timestamp) with
    | .ok timestamp => some (timestamp, mac.hexdigest key message)
    | .error _ => none) = _
  rw [if_neg (not_or.2 ⟨hheader, not_or.2 ⟨htime, hdigest⟩⟩), hread]

/-- **Round trip.** The header that is built verifies while its timestamp is within the tolerance. -/
theorem signed_build {t : ℤ} (hbuild : buildSignatureHeader mac body secret t limit = .ok signature)
    (ht : |now.tdiv second - t| ≤ tolerance) : Signed mac body secret (some signature) tolerance now limit := by
  unfold buildSignatureHeader at hbuild
  obtain ⟨digits, hdigits, hbuild⟩ := bind_eq_ok.1 hbuild
  obtain ⟨digest, hs, hheader⟩ := bind_eq_ok.1 hbuild
  obtain ⟨hprint, text, -, rfl⟩ := exists_of_signPayload hs
  refine ⟨t, _, ?_, hs, ht⟩
  rw [← Except.ok.inj hheader, ← (printInt_eq_ok.1 hdigits).2]
  exact signatureFields_build mac _ _ hprint

end Lemmas

end FastapiTemplate.Core
