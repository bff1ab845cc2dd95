import FastapiTemplate.Python.Value

/-!
# Base64

`base64.urlsafe_b64encode` and `urlsafe_b64decode`. The decoder is that of `binascii`: it skips the characters that are
not in the alphabet, stops at the padding that completes a group of four, and raises a `binascii.Error`, a
`ValueError`, if it ends within a group.
-/

namespace FastapiTemplate.Python

/-! ### The alphabet -/

def base64Alphabet : List Char := "ABCDEFGHIJKLMNOPQRSTUVWXYZabcdefghijklmnopqrstuvwxyz0123456789+/".toList

/-- The character of a number below 64. -/
def base64Digit (n : ℕ) : Char := base64Alphabet.getD n '='

/-- The number of a character of the alphabet. -/
def sextet (c : Char) : Option ℕ := base64Alphabet.findIdx? (· == c)

/-- `+/` to `-_` -/
def toUrlsafe (c : Char) : Char := if c = '+' then '-' else if c = '/' then '_' else c

/-- `-_` to `+/` -/
def fromUrlsafe (c : Char) : Char := if c = '-' then '+' else if c = '_' then '/' else c

/-! ### Encoder and decoder -/

def b64encode : List UInt8 → List Char
  | [] => []
  | [a] => [base64Digit (a.toNat / 4), base64Digit (a.toNat % 4 * 16), '=', '=']
  | [a, b] =>
    [base64Digit (a.toNat / 4), base64Digit (a.toNat % 4 * 16 + b.toNat / 16), base64Digit (b.toNat % 16 * 4), '=']
  | a :: b :: c :: rest =>
    base64Digit (a.toNat / 4) :: base64Digit (a.toNat % 4 * 16 + b.toNat / 16) ::
      base64Digit (b.toNat % 16 * 4 + c.toNat / 64) :: base64Digit (c.toNat % 64) :: b64encode rest

/-- `binascii.a2b_base64`: `quad` characters of a group were read, `left` are the bits left over from them, and `pads`
is the padding so far. -/
def a2bBase64 (quad left pads : ℕ) : List Char → Except BuiltinError (List UInt8)
  | [] => if quad = 0 then .ok [] else .error .valueError
  | c :: cs =>
    if c = '=' then
      if 2 ≤ quad then
        if 4 ≤ quad + (pads + 1) then .ok [] else a2bBase64 quad left (pads + 1) cs
      else a2bBase64 quad left pads cs
    else
      match sextet c with
      | none => a2bBase64 quad left pads cs
      | some n =>
        match quad with
        | 0 => a2bBase64 1 n 0 cs
        | 1 => (UInt8.ofNat (left * 4 + n / 16) :: ·) <$> a2bBase64 2 (n % 16) 0 cs
        | 2 => (UInt8.ofNat (left * 16 + n / 4) :: ·) <$> a2bBase64 3 (n % 4) 0 cs
        | _ => (UInt8.ofNat (left * 64 + n) :: ·) <$> a2bBase64 0 0 0 cs

def urlsafeB64encode (bytes : List UInt8) : String := String.ofList ((b64encode bytes).map toUrlsafe)

def urlsafeB64decode (s : String) : Except BuiltinError (List UInt8) := a2bBase64 0 0 0 (s.toList.map fromUrlsafe)

/-! ### The round trip -/

section Digits

variable {n : ℕ} {left pads : ℕ} {cs : List Char}

lemma sextet_base64Digit (h : n < 64) : sextet (base64Digit n) = some n := by
  have hall : ∀ k : Fin 64, sextet (base64Digit k) = some k.val := by decide +kernel
  exact hall ⟨n, h⟩

lemma base64Digit_ne_pad (h : n < 64) : base64Digit n ≠ '=' := by
  have hall : ∀ k : Fin 64, base64Digit k ≠ '=' := by decide +kernel
  exact hall ⟨n, h⟩

lemma fromUrlsafe_base64Digit (h : n < 64) : fromUrlsafe (toUrlsafe (base64Digit n)) = base64Digit n := by
  have hall : ∀ k : Fin 64, fromUrlsafe (toUrlsafe (base64Digit k)) = base64Digit k := by decide +kernel
  exact hall ⟨n, h⟩

lemma a2bBase64_first (h : n < 64) : a2bBase64 0 left pads (base64Digit n :: cs) = a2bBase64 1 n 0 cs := by
  conv_lhs => unfold a2bBase64
  rw [if_neg (base64Digit_ne_pad h), sextet_base64Digit h]
  rfl

lemma a2bBase64_second (h : n < 64) : a2bBase64 1 left pads (base64Digit n :: cs) =
    (UInt8.ofNat (left * 4 + n / 16) :: ·) <$> a2bBase64 2 (n % 16) 0 cs := by
  conv_lhs => unfold a2bBase64
  rw [if_neg (base64Digit_ne_pad h), sextet_base64Digit h]
  rfl

lemma a2bBase64_third (h : n < 64) : a2bBase64 2 left pads (base64Digit n :: cs) =
    (UInt8.ofNat (left * 16 + n / 4) :: ·) <$> a2bBase64 3 (n % 4) 0 cs := by
  conv_lhs => unfold a2bBase64
  rw [if_neg (base64Digit_ne_pad h), sextet_base64Digit h]
  rfl

lemma a2bBase64_fourth (h : n < 64) : a2bBase64 3 left pads (base64Digit n :: cs) =
    (UInt8.ofNat (left * 64 + n) :: ·) <$> a2bBase64 0 0 0 cs := by
  conv_lhs => unfold a2bBase64
  rw [if_neg (base64Digit_ne_pad h), sextet_base64Digit h]
  rfl

end Digits

/-- A number that is put together again. -/
lemma ofNat_eq {a : UInt8} {n : ℕ} (h : n = a.toNat) : UInt8.ofNat n = a := by rw [h, UInt8.ofNat_toNat]

theorem a2bBase64_b64encode (bytes : List UInt8) : a2bBase64 0 0 0 (b64encode bytes) = .ok bytes := by
  induction bytes using b64encode.induct with
  | case1 => rfl
  | case2 a =>
    have ha : a.toNat < 256 := a.toNat_lt
    unfold b64encode
    rw [a2bBase64_first (by omega), a2bBase64_second (by omega), ofNat_eq (a := a) (by omega)]
    rfl
  | case3 a b =>
    have ha : a.toNat < 256 := a.toNat_lt
    have hb : b.toNat < 256 := b.toNat_lt
    unfold b64encode
    rw [a2bBase64_first (by omega), a2bBase64_second (by omega), a2bBase64_third (by omega),
      ofNat_eq (a := a) (by omega), ofNat_eq (a := b) (by omega)]
    rfl
  | case4 a b c rest ih =>
    have ha : a.toNat < 256 := a.toNat_lt
    have hb : b.toNat < 256 := b.toNat_lt
    have hc : c.toNat < 256 := c.toNat_lt
    unfold b64encode
    rw [a2bBase64_first (by omega), a2bBase64_second (by omega), a2bBase64_third (by omega),
      a2bBase64_fourth (by omega), ofNat_eq (a := a) (by omega), ofNat_eq (a := b) (by omega),
      ofNat_eq (a := c) (by omega), ih]
    rfl

lemma fromUrlsafe_toUrlsafe_b64encode (bytes : List UInt8) :
    ((b64encode bytes).map toUrlsafe).map fromUrlsafe = b64encode bytes := by
  induction bytes using b64encode.induct with
  | case1 => rfl
  | case2 a =>
    have ha : a.toNat < 256 := a.toNat_lt
    unfold b64encode
    simp only [List.map_cons, List.map_nil]
    rw [fromUrlsafe_base64Digit (by omega), fromUrlsafe_base64Digit (by omega)]
    rfl
  | case3 a b =>
    have ha : a.toNat < 256 := a.toNat_lt
    have hb : b.toNat < 256 := b.toNat_lt
    unfold b64encode
    simp only [List.map_cons, List.map_nil]
    rw [fromUrlsafe_base64Digit (by omega), fromUrlsafe_base64Digit (by omega), fromUrlsafe_base64Digit (by omega)]
    rfl
  | case4 a b c rest ih =>
    have ha : a.toNat < 256 := a.toNat_lt
    have hb : b.toNat < 256 := b.toNat_lt
    have hc : c.toNat < 256 := c.toNat_lt
    unfold b64encode
    simp only [List.map_cons]
    rw [fromUrlsafe_base64Digit (by omega), fromUrlsafe_base64Digit (by omega), fromUrlsafe_base64Digit (by omega),
      fromUrlsafe_base64Digit (by omega), ih]

/-- **What was encoded is decoded.** -/
theorem urlsafeB64decode_urlsafeB64encode (bytes : List UInt8) :
    urlsafeB64decode (urlsafeB64encode bytes) = .ok bytes := by
  unfold urlsafeB64decode urlsafeB64encode
  rw [String.toList_ofList, fromUrlsafe_toUrlsafe_b64encode, a2bBase64_b64encode]

example : urlsafeB64encode "25".toUTF8.toList = "MjU=" := by decide +kernel

end FastapiTemplate.Python
