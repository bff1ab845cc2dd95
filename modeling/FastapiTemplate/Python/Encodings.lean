import FastapiTemplate.Python.Unquote

/-!
# The encodings of JSON

`json.loads` takes bytes for UTF-8, UTF-16 or UTF-32 by their first four, and decodes them with the error handler
`surrogatepass`. A text has no lone surrogates here: U+FFFD stands for them.
-/

namespace FastapiTemplate.Python

/-! ### Code points -/

def isHighSurrogate (n : ℕ) : Bool := 0xd800 ≤ n && n ≤ 0xdbff

def isLowSurrogate (n : ℕ) : Bool := 0xdc00 ≤ n && n ≤ 0xdfff

/-- The character of a code point, or of a lone surrogate. -/
def codePoint (n : ℕ) : Char := if isHighSurrogate n || isLowSurrogate n then replacementCharacter else Char.ofNat n

/-- Two surrogates that belong together are one character. -/
def joinSurrogates : List ℕ → List Char
  | high :: low :: rest =>
    if isHighSurrogate high && isLowSurrogate low then
      Char.ofNat (0x10000 + (high - 0xd800) * 1024 + (low - 0xdc00)) :: joinSurrogates rest
    else codePoint high :: joinSurrogates (low :: rest)
  | [n] => [codePoint n]
  | [] => []

/-! ### Decoders -/

/-- What the first byte of a longer character promises; surrogates are characters too. -/
def leadBytePass (b : ℕ) : Option Incomplete :=
  (leadByte b).map fun p => if b = 0xed then { p with high := 0xbf } else p

/-- `b.decode("utf-8", "surrogatepass")` -/
def decodeUtf8 : Option Incomplete → List ℕ → Option (List Char)
  | none, [] => some []
  | some _, [] => none
  | none, b :: rest =>
    if b < 0x80 then (Char.ofNat b :: ·) <$> decodeUtf8 none rest
    else match leadBytePass b with
      | some p => decodeUtf8 (some p) rest
      | none => none
  | some p, b :: rest =>
    if p.low ≤ b ∧ b ≤ p.high then
      if p.owed ≤ 1 then (codePoint (p.bits * 64 + (b - 0x80)) :: ·) <$> decodeUtf8 none rest
      else decodeUtf8 (some { owed := p.owed - 1, bits := p.bits * 64 + (b - 0x80) }) rest
    else none

/-- The numbers of two bytes; `number` has the one with the lower address first. -/
def units16 (number : ℕ → ℕ → ℕ) : List ℕ → Option (List ℕ)
  | [] => some []
  | a :: b :: rest => (number a b :: ·) <$> units16 number rest
  | [_] => none

/-- The numbers of four bytes, which are code points. -/
def units32 (number : ℕ → ℕ → ℕ → ℕ → ℕ) : List ℕ → Option (List ℕ)
  | [] => some []
  | a :: b :: c :: d :: rest =>
    if number a b c d ≤ 0x10ffff then (number a b c d :: ·) <$> units32 number rest else none
  | _ => none

inductive Encoding where
  | utf8 | utf16be | utf16le | utf32be | utf32le

def Encoding.decode : Encoding → List ℕ → Option (List Char)
  | utf8, bytes => decodeUtf8 none bytes
  | utf16be, bytes => joinSurrogates <$> units16 (fun a b => a * 256 + b) bytes
  | utf16le, bytes => joinSurrogates <$> units16 (fun a b => b * 256 + a) bytes
  | utf32be, bytes => List.map codePoint <$> units32 (fun a b c d => ((a * 256 + b) * 256 + c) * 256 + d) bytes
  | utf32le, bytes => List.map codePoint <$> units32 (fun a b c d => ((d * 256 + c) * 256 + b) * 256 + a) bytes

/-- `json.detect_encoding(b)`, and the length of the byte order mark. -/
def detectEncoding (bytes : List ℕ) : Encoding × ℕ :=
  if [0, 0, 0xfe, 0xff].isPrefixOf bytes then (.utf32be, 4)
  else if [0xff, 0xfe, 0, 0].isPrefixOf bytes then (.utf32le, 4)
  else if [0xfe, 0xff].isPrefixOf bytes then (.utf16be, 2)
  else if [0xff, 0xfe].isPrefixOf bytes then (.utf16le, 2)
  else if [0xef, 0xbb, 0xbf].isPrefixOf bytes then (.utf8, 3)
  else match bytes with
    | a :: b :: c :: d :: _ =>
      if a = 0 then (if b ≠ 0 then .utf16be else .utf32be, 0)
      else if b = 0 then (if c ≠ 0 ∨ d ≠ 0 then .utf16le else .utf32le, 0)
      else (.utf8, 0)
    | [a, b] => if a = 0 then (.utf16be, 0) else if b = 0 then (.utf16le, 0) else (.utf8, 0)
    | _ => (.utf8, 0)

/-- `b.decode(detect_encoding(b), "surrogatepass")` -/
def decodeJsonBytes (bytes : List ℕ) : Option (List Char) :=
  (detectEncoding bytes).1.decode (bytes.drop (detectEncoding bytes).2)

/-! ### ASCII -/

section Ascii

variable {cs : List Char}

lemma decodeUtf8_ascii (h : ∀ c ∈ cs, c.toNat < 0x80) : decodeUtf8 none (cs.map Char.toNat) = some cs := by
  induction cs with
  | nil => rfl
  | cons c cs ih =>
    rw [List.map_cons, decodeUtf8, if_pos (h c List.mem_cons_self), ih fun d hd => h d (List.mem_cons_of_mem c hd),
      Char.ofNat_toNat]
    rfl

/-- **ASCII is read as it is**, if it has no character of number 0. -/
theorem decodeJsonBytes_ascii (h : ∀ c ∈ cs, 0 < c.toNat ∧ c.toNat < 0x80) :
    decodeJsonBytes (cs.map Char.toNat) = some cs := by
  have hdetect : detectEncoding (cs.map Char.toNat) = (.utf8, 0) := by
    have hmark : ∀ {first : ℕ} {mark : List ℕ}, first = 0 ∨ 0x80 ≤ first →
        ¬(first :: mark).isPrefixOf (cs.map Char.toNat) = true := by
      intro first mark hfirst hprefix
      obtain ⟨rest, hrest⟩ := List.isPrefixOf_iff_prefix.1 hprefix
      obtain ⟨c, hc, heq⟩ := List.mem_map.1 (hrest ▸ List.mem_cons_self : first ∈ cs.map Char.toNat)
      have hrange := h c hc
      omega
    unfold detectEncoding
    rw [if_neg (hmark (by decide)), if_neg (hmark (by decide)), if_neg (hmark (by decide)), if_neg (hmark (by decide)),
      if_neg (hmark (by decide))]
    -- neither of the first two bytes is zero
    match cs with
    | [] => rfl
    | [_] => rfl
    | [a, b] =>
      have ha := (h a (by simp)).1.ne'
      have hb := (h b (by simp)).1.ne'
      show (if a.toNat = 0 then _ else if b.toNat = 0 then _ else _) = _
      rw [if_neg ha, if_neg hb]
    | [_, _, _] => rfl
    | a :: b :: _ :: _ :: _ =>
      have ha := (h a (by simp)).1.ne'
      have hb := (h b (by simp)).1.ne'
      show (if a.toNat = 0 then _ else if b.toNat = 0 then _ else _) = _
      rw [if_neg ha, if_neg hb]
  unfold decodeJsonBytes
  rw [hdetect]
  exact decodeUtf8_ascii fun c hc => (h c hc).2

/-- The bytes of an ASCII text. -/
lemma map_toNat_toUTF8 {s : String} (h : ∀ c ∈ s.toList, c.toNat < 0x80) :
    s.toUTF8.data.toList.map UInt8.toNat = s.toList.map Char.toNat := by
  have hlist : ∀ cs : List Char, (∀ c ∈ cs, c.toNat < 0x80) →
      cs.utf8Encode.data.toList.map UInt8.toNat = cs.map Char.toNat := by
    intro cs hcs
    induction cs with
    | nil => simp
    | cons c cs ih =>
      have hc := hcs c List.mem_cons_self
      have hsize : c.utf8Size = 1 := by
        refine if_pos ?_
        rw [UInt32.le_iff_toNat_le]
        exact Nat.le_of_lt_succ hc
      have hbyte : c.toUInt8.toNat = c.toNat := by
        have hmod : c.toUInt8.toNat = c.toNat % 256 := UInt32.toNat_toUInt8 c.val
        omega
      rw [List.utf8Encode_cons, List.utf8Encode_singleton, String.utf8EncodeChar_eq_singleton hsize]
      simp [ih fun d hd => hcs d (List.mem_cons_of_mem c hd), hbyte]
  have hs := hlist s.toList h
  rwa [← String.toByteArray_ofList, String.ofList_toList] at hs

end Ascii

end FastapiTemplate.Python
