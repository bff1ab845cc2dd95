import FastapiTemplate.Python.Base64
import FastapiTemplate.Python.Text
import Mathlib.Data.List.DropRight

/-!
# Base32

`base64.b32encode` and `b32decode`: five bytes are eight characters, and the last group is padded. The decoder drops the
padding, reads the characters and raises a `binascii.Error`, a `ValueError`, if one is not in the alphabet or if the
padding is not one that the encoder writes.
-/

namespace FastapiTemplate.Python

/-! ### The alphabet -/

def base32Alphabet : List Char := "ABCDEFGHIJKLMNOPQRSTUVWXYZ234567".toList

/-- The character of a number below 32. -/
def base32Digit (n : ℕ) : Char := base32Alphabet.getD n '='

/-- The number of a character of the alphabet. -/
def quintet (c : Char) : Option ℕ := base32Alphabet.findIdx? (· == c)

/-! ### Encoder and decoder -/

/-- The bits of the bytes in groups of five, the last group filled up with zeros. -/
def quintets : List UInt8 → List ℕ
  | [] => []
  | [a] => [a.toNat / 8, a.toNat % 8 * 4]
  | [a, b] => [a.toNat / 8, a.toNat % 8 * 4 + b.toNat / 64, b.toNat / 2 % 32, b.toNat % 2 * 16]
  | [a, b, c] =>
    [a.toNat / 8, a.toNat % 8 * 4 + b.toNat / 64, b.toNat / 2 % 32, b.toNat % 2 * 16 + c.toNat / 16, c.toNat % 16 * 2]
  | [a, b, c, d] =>
    [a.toNat / 8, a.toNat % 8 * 4 + b.toNat / 64, b.toNat / 2 % 32, b.toNat % 2 * 16 + c.toNat / 16,
      c.toNat % 16 * 2 + d.toNat / 128, d.toNat / 4 % 32, d.toNat % 4 * 8]
  | a :: b :: c :: d :: e :: rest =>
    a.toNat / 8 :: (a.toNat % 8 * 4 + b.toNat / 64) :: b.toNat / 2 % 32 :: (b.toNat % 2 * 16 + c.toNat / 16) ::
      (c.toNat % 16 * 2 + d.toNat / 128) :: d.toNat / 4 % 32 :: (d.toNat % 4 * 8 + e.toNat / 32) :: e.toNat % 32 ::
      quintets rest

/-- The bytes of the bits; what is left over from the last byte is dropped. -/
def ofQuintets : List ℕ → List UInt8
  | p :: q :: r :: s :: t :: u :: v :: w :: rest =>
    .ofNat (p * 8 + q / 4) :: .ofNat (q % 4 * 64 + r * 2 + s / 16) :: .ofNat (s % 16 * 16 + t / 2) ::
      .ofNat (t % 2 * 128 + u * 4 + v / 8) :: .ofNat (v % 8 * 32 + w) :: ofQuintets rest
  | p :: q :: r :: s :: t :: u :: v :: _ =>
    [.ofNat (p * 8 + q / 4), .ofNat (q % 4 * 64 + r * 2 + s / 16), .ofNat (s % 16 * 16 + t / 2),
      .ofNat (t % 2 * 128 + u * 4 + v / 8)]
  | p :: q :: r :: s :: t :: _ =>
    [.ofNat (p * 8 + q / 4), .ofNat (q % 4 * 64 + r * 2 + s / 16), .ofNat (s % 16 * 16 + t / 2)]
  | p :: q :: r :: s :: _ => [.ofNat (p * 8 + q / 4), .ofNat (q % 4 * 64 + r * 2 + s / 16)]
  | p :: q :: _ => [.ofNat (p * 8 + q / 4)]
  | _ => []

/-- The padding behind that many characters. -/
def paddingFor (length : ℕ) : List Char := List.replicate ((8 - length % 8) % 8) '='

def b32encode (bytes : List UInt8) : List Char :=
  (quintets bytes).map base32Digit ++ paddingFor (quintets bytes).length

/-- With `casefold`, small letters are read as capitals. -/
def b32decode (casefold : Bool) (s : String) : Except BuiltinError (List UInt8) :=
  let cs := if casefold then s.toList.map Char.toUpper else s.toList
  let digits := cs.rdropWhile (· == '=')
  if cs.length % 8 ≠ 0 then .error .valueError
  else
    match digits.mapM quintet with
    | none => .error .valueError
    | some qs => if cs.length - digits.length ∈ [0, 1, 3, 4, 6] then .ok (ofQuintets qs) else .error .valueError

/-- The text is what the encoder writes for some bytes. -/
def IsBase32 (s : String) : Prop := ∃ bytes, s.toList = b32encode bytes

/-! ### The alphabet and its numbers -/

section Digits

variable {n : ℕ} {c : Char}

lemma quintet_base32Digit (h : n < 32) : quintet (base32Digit n) = some n := by
  have hall : ∀ k : Fin 32, quintet (base32Digit k) = some k.val := by decide +kernel
  exact hall ⟨n, h⟩

lemma base32Digit_ne_pad (h : n < 32) : base32Digit n ≠ '=' := by
  have hall : ∀ k : Fin 32, base32Digit k ≠ '=' := by decide +kernel
  exact hall ⟨n, h⟩

lemma toUpper_base32Digit (h : n < 32) : (base32Digit n).toUpper = base32Digit n := by
  have hall : ∀ k : Fin 32, (base32Digit k).toUpper = base32Digit k := by decide +kernel
  exact hall ⟨n, h⟩

lemma exists_base32Digit (h : c ∈ base32Alphabet) : ∃ n < 32, base32Digit n = c := by
  have hall : (base32Alphabet.all fun c => (List.range 32).any fun n => base32Digit n == c) = true := by decide +kernel
  obtain ⟨n, hn, hdigit⟩ := List.any_eq_true.1 (List.all_eq_true.1 hall c h)
  exact ⟨n, List.mem_range.1 hn, beq_iff_eq.1 hdigit⟩

lemma quintet_eq_none (h : c ∉ base32Alphabet) : quintet c = none := by
  refine List.findIdx?_eq_none_iff.2 fun d hd => ?_
  simp only [beq_eq_false_iff_ne]
  intro e
  exact h (e ▸ hd)

end Digits

/-! ### The groups -/

lemma quintets_lt (bytes : List UInt8) : ∀ q ∈ quintets bytes, q < 32 := by
  induction bytes using quintets.induct with
  | case1 => simp [quintets]
  | case2 a =>
    have ha : a.toNat < 256 := a.toNat_lt
    simp only [quintets, List.forall_mem_cons]
    exact ⟨by omega, by omega, by simp⟩
  | case3 a b =>
    have ha : a.toNat < 256 := a.toNat_lt
    have hb : b.toNat < 256 := b.toNat_lt
    simp only [quintets, List.forall_mem_cons]
    exact ⟨by omega, by omega, by omega, by omega, by simp⟩
  | case4 a b c =>
    have ha : a.toNat < 256 := a.toNat_lt
    have hb : b.toNat < 256 := b.toNat_lt
    have hc : c.toNat < 256 := c.toNat_lt
    simp only [quintets, List.forall_mem_cons]
    exact ⟨by omega, by omega, by omega, by omega, by omega, by simp⟩
  | case5 a b c d =>
    have ha : a.toNat < 256 := a.toNat_lt
    have hb : b.toNat < 256 := b.toNat_lt
    have hc : c.toNat < 256 := c.toNat_lt
    have hd : d.toNat < 256 := d.toNat_lt
    simp only [quintets, List.forall_mem_cons]
    exact ⟨by omega, by omega, by omega, by omega, by omega, by omega, by omega, by simp⟩
  | case6 a b c d e rest ih =>
    have ha : a.toNat < 256 := a.toNat_lt
    have hb : b.toNat < 256 := b.toNat_lt
    have hc : c.toNat < 256 := c.toNat_lt
    have hd : d.toNat < 256 := d.toNat_lt
    have he : e.toNat < 256 := e.toNat_lt
    simp only [quintets, List.forall_mem_cons]
    exact ⟨by omega, by omega, by omega, by omega, by omega, by omega, by omega, by omega, ih⟩

/-- How many characters there are in the last group. -/
lemma length_quintets (bytes : List UInt8) : (quintets bytes).length % 8 ∈ [0, 2, 4, 5, 7] := by
  induction bytes using quintets.induct with
  | case1 | case2 | case3 | case4 | case5 => simp [quintets]
  | case6 a b c d e rest ih =>
    simp only [quintets, List.length_cons]
    rwa [show (quintets rest).length + 1 + 1 + 1 + 1 + 1 + 1 + 1 + 1 = (quintets rest).length + 8 by omega,
      Nat.add_mod_right]

lemma ofQuintets_quintets (bytes : List UInt8) : ofQuintets (quintets bytes) = bytes := by
  induction bytes using quintets.induct with
  | case1 => rfl
  | case2 a =>
    have ha : a.toNat < 256 := a.toNat_lt
    simp only [quintets, ofQuintets]
    rw [ofNat_eq (a := a) (by omega)]
  | case3 a b =>
    have ha : a.toNat < 256 := a.toNat_lt
    have hb : b.toNat < 256 := b.toNat_lt
    simp only [quintets, ofQuintets]
    rw [ofNat_eq (a := a) (by omega), ofNat_eq (a := b) (by omega)]
  | case4 a b c =>
    have ha : a.toNat < 256 := a.toNat_lt
    have hb : b.toNat < 256 := b.toNat_lt
    have hc : c.toNat < 256 := c.toNat_lt
    simp only [quintets, ofQuintets]
    rw [ofNat_eq (a := a) (by omega), ofNat_eq (a := b) (by omega), ofNat_eq (a := c) (by omega)]
  | case5 a b c d =>
    have ha : a.toNat < 256 := a.toNat_lt
    have hb : b.toNat < 256 := b.toNat_lt
    have hc : c.toNat < 256 := c.toNat_lt
    have hd : d.toNat < 256 := d.toNat_lt
    simp only [quintets, ofQuintets]
    rw [ofNat_eq (a := a) (by omega), ofNat_eq (a := b) (by omega), ofNat_eq (a := c) (by omega),
      ofNat_eq (a := d) (by omega)]
  | case6 a b c d e rest ih =>
    have ha : a.toNat < 256 := a.toNat_lt
    have hb : b.toNat < 256 := b.toNat_lt
    have hc : c.toNat < 256 := c.toNat_lt
    have hd : d.toNat < 256 := d.toNat_lt
    have he : e.toNat < 256 := e.toNat_lt
    simp only [quintets, ofQuintets]
    rw [ofNat_eq (a := a) (by omega), ofNat_eq (a := b) (by omega), ofNat_eq (a := c) (by omega),
      ofNat_eq (a := d) (by omega), ofNat_eq (a := e) (by omega), ih]

/-- Whole groups are those of their bytes. -/
lemma quintets_ofQuintets : ∀ {qs : List ℕ}, (∀ q ∈ qs, q < 32) → qs.length % 8 = 0 → quintets (ofQuintets qs) = qs
  | [], _, _ => rfl
  | p :: q :: r :: s :: t :: u :: v :: w :: rest, hlt, hlength => by
    simp only [List.forall_mem_cons] at hlt
    obtain ⟨hp, hq, hr, hs, ht, hu, hv, hw, hrest⟩ := hlt
    have hlength' : rest.length % 8 = 0 := by
      simp only [List.length_cons] at hlength
      omega
    simp only [ofQuintets, quintets, UInt8.toNat_ofNat', quintets_ofQuintets hrest hlength', List.cons.injEq, and_true]
    exact ⟨by omega, by omega, by omega, by omega, by omega, by omega, by omega, by omega⟩
  | [_], _, h | [_, _], _, h | [_, _, _], _, h | [_, _, _, _], _, h | [_, _, _, _, _], _, h | [_, _, _, _, _, _], _, h
  | [_, _, _, _, _, _, _], _, h => by simp at h

/-! ### Reading -/

section Reading

variable {casefold : Bool} {s : String} {bytes : List UInt8} {cs : List Char} {qs : List ℕ}

lemma mapM_quintet (h : ∀ q ∈ qs, q < 32) : (qs.map base32Digit).mapM quintet = some qs := by
  induction qs with
  | nil => rfl
  | cons q qs ih =>
    rw [List.map_cons, List.mapM_cons, quintet_base32Digit (h q List.mem_cons_self),
      ih fun r hr => h r (List.mem_cons_of_mem q hr)]
    rfl

/-- The padding is dropped, and nothing else. -/
lemma rdropWhile_pad (h : '=' ∉ cs) (n : ℕ) : (cs ++ List.replicate n '=').rdropWhile (· == '=') = cs := by
  induction n with
  | zero =>
    rw [List.replicate_zero, List.append_nil, List.rdropWhile_eq_self_iff]
    intro hne hlast
    rw [beq_iff_eq] at hlast
    exact h (hlast ▸ List.getLast_mem hne)
  | succ n ih => rw [List.replicate_succ', ← List.append_assoc, List.rdropWhile_concat_pos _ _ _ (by decide), ih]

lemma pad_notMem (h : ∀ q ∈ qs, q < 32) : '=' ∉ qs.map base32Digit := by
  intro hmem
  obtain ⟨q, hq, hpad⟩ := List.mem_map.1 hmem
  exact base32Digit_ne_pad (h q hq) hpad

/-- **What was encoded is decoded.** -/
theorem b32decode_of_eq (h : s.toList = b32encode bytes) : b32decode casefold s = .ok bytes := by
  have hlt := quintets_lt bytes
  have hlast := length_quintets bytes
  have hupper : (if casefold then s.toList.map Char.toUpper else s.toList) = b32encode bytes := by
    cases casefold with
    | false => exact h
    | true =>
      rw [if_pos rfl, h, b32encode, List.map_append, paddingFor, List.map_replicate, List.map_map]
      congr 1
      exact List.map_congr_left fun q hq => toUpper_base32Digit (hlt q hq)
  have hlength : (b32encode bytes).length = (quintets bytes).length + (8 - (quintets bytes).length % 8) % 8 := by
    simp [b32encode, paddingFor]
  have hdigits : (b32encode bytes).rdropWhile (· == '=') = (quintets bytes).map base32Digit :=
    rdropWhile_pad (pad_notMem hlt) _
  have hpad : (b32encode bytes).length - ((quintets bytes).map base32Digit).length ∈ [0, 1, 3, 4, 6] := by
    rw [hlength, List.length_map, Nat.add_sub_cancel_left]
    simp only [List.mem_cons, List.not_mem_nil, or_false] at hlast ⊢
    omega
  unfold b32decode
  rw [hupper]
  dsimp only
  rw [hdigits, mapM_quintet hlt, if_neg (by omega)]
  dsimp only
  rw [if_pos hpad, ofQuintets_quintets]

lemma mapM_eq_none {c : Char} (hmem : c ∈ cs) (hforeign : c ∉ base32Alphabet) : cs.mapM quintet = none := by
  induction cs with
  | nil => exact absurd hmem List.not_mem_nil
  | cons d cs ih =>
    rw [List.mapM_cons]
    rcases List.mem_cons.1 hmem with rfl | hmem
    · rw [quintet_eq_none hforeign]
      rfl
    · rw [ih hmem]
      cases quintet d <;> rfl

/-- **A character that is not in the alphabet is refused.** -/
theorem b32decode_of_foreign {c : Char} (hmem : c ∈ s.toList.map Char.toUpper) (hpad : c ≠ '=')
    (hforeign : c ∉ base32Alphabet) : b32decode true s = .error .valueError := by
  have hdigit : c ∈ (s.toList.map Char.toUpper).rdropWhile (· == '=') := by
    rw [← List.rdropWhile_append_rtakeWhile (p := (· == '=')) (l := s.toList.map Char.toUpper)] at hmem
    rcases List.mem_append.1 hmem with h | h
    · exact h
    · have hc := List.mem_rtakeWhile_imp h
      exact absurd (beq_iff_eq.1 hc) hpad
  unfold b32decode
  rw [if_pos rfl]
  dsimp only
  rw [mapM_eq_none hdigit hforeign]
  split <;> rfl

lemma exists_quintets (h : ∀ c ∈ cs, c ∈ base32Alphabet) :
    ∃ qs : List ℕ, (∀ q ∈ qs, q < 32) ∧ qs.map base32Digit = cs := by
  induction cs with
  | nil => exact ⟨[], by simp, rfl⟩
  | cons c cs ih =>
    obtain ⟨q, hq, hc⟩ := exists_base32Digit (h c List.mem_cons_self)
    obtain ⟨qs, hqs, hcs⟩ := ih fun d hd => h d (List.mem_cons_of_mem c hd)
    exact ⟨q :: qs, List.forall_mem_cons.2 ⟨hq, hqs⟩, by rw [List.map_cons, hc, hcs]⟩

/-- Whole groups of characters of the alphabet encode some bytes. -/
theorem isBase32_of_forall (h : ∀ c ∈ s.toList, c ∈ base32Alphabet) (hlength : s.length % 8 = 0) : IsBase32 s := by
  obtain ⟨qs, hlt, hqs⟩ := exists_quintets h
  have hgroups : qs.length % 8 = 0 := by
    rw [← hlength, ← String.length_toList, ← hqs, List.length_map]
  refine ⟨ofQuintets qs, ?_⟩
  rw [b32encode, quintets_ofQuintets hlt hgroups, hqs, paddingFor, hgroups]
  exact (List.append_nil _).symm

end Reading

example : b32encode "25".toUTF8.toList = "GI2Q====".toList := by decide +kernel

end FastapiTemplate.Python
