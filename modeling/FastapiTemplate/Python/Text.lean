import FastapiTemplate.Python.Value
import Mathlib.Data.List.TakeWhile

/-!
# Text

`str.strip`, `str.split` on one character, `bytes.decode`, and the round trip through `int` of what
`str` prints for an integer.
-/

namespace FastapiTemplate.Python

/-- `c.isspace()` -/
def isWhitespace (c : Char) : Bool :=
  let n := c.toNat
  (9 ≤ n && n ≤ 13) || (28 ≤ n && n ≤ 32) || n == 0x85 || n == 0xa0 || n == 0x1680 ||
    (0x2000 ≤ n && n ≤ 0x200a) || n == 0x2028 || n == 0x2029 || n == 0x202f || n == 0x205f || n == 0x3000

/-- The visible characters of ASCII are no blanks. -/
lemma isWhitespace_of_visible {c : Char} (hlow : 33 ≤ c.toNat) (hhigh : c.toNat ≤ 126) : isWhitespace c = false := by
  unfold isWhitespace
  simp only [Bool.or_eq_false_iff, Bool.and_eq_false_iff, decide_eq_false_iff_not, beq_eq_false_iff_ne]
  omega

lemma toNat_of_isAlphanum {c : Char} (h : c.isAlphanum = true) : 48 ≤ c.toNat ∧ c.toNat ≤ 122 := by
  have hranges : ((decide ('A'.val ≤ c.val ∧ c.val ≤ 'Z'.val) ||
      decide ('a'.val ≤ c.val) && decide (c.val ≤ 'z'.val)) ||
      decide ('0'.val ≤ c.val) && decide (c.val ≤ '9'.val)) = true := h
  simp only [Bool.or_eq_true, Bool.and_eq_true, decide_eq_true_eq] at hranges
  rcases hranges with (⟨hlow, hhigh⟩ | ⟨hlow, hhigh⟩) | ⟨hlow, hhigh⟩
  · exact ⟨le_trans (by decide) hlow, le_trans hhigh (by decide)⟩
  · exact ⟨le_trans (by decide) hlow, le_trans hhigh (by decide)⟩
  · exact ⟨le_trans (by decide) hlow, le_trans hhigh (by decide)⟩

/-- Drops the characters `p` from both ends. -/
def trim (p : Char → Bool) (cs : List Char) : List Char := ((cs.dropWhile p).reverse.dropWhile p).reverse

/-- `s.strip()` -/
def strip (s : String) : String := String.ofList (trim isWhitespace s.toList)

/-- `s.split(sep)` -/
def split (sep : Char) (s : String) : List String := (s.toList.splitOn sep).map String.ofList

/-- The two parts of `s.split(sep, 1)`, if there are two. -/
def cut (sep : Char) (s : String) : Option (String × String) :=
  match s.toList.dropWhile (· != sep) with
  | [] => none
  | _ :: rest => some (String.ofList (s.toList.takeWhile (· != sep)), String.ofList rest)

/-- `s.isascii()` -/
def isAscii (s : String) : Bool := s.toList.all fun c => c.toNat < 128

/-- `hmac.compare_digest` of two strings. -/
def compareDigest (a b : String) : Except BuiltinError Bool :=
  if isAscii a && isAscii b then .ok (a == b) else .error .typeError

/-- `b.decode()`; a `UnicodeDecodeError` is a `ValueError`. -/
def decode (b : ByteArray) : Except BuiltinError String :=
  match String.fromUTF8? b with
  | some s => .ok s
  | none => .error .valueError

@[simp] lemma decode_toUTF8 (s : String) : decode s.toUTF8 = .ok s := by
  unfold decode
  have hs : String.fromUTF8? s.toUTF8 = some s := dif_pos s.isValidUTF8
  rw [hs]

/-- An ASCII text is compared as a string. -/
lemma compareDigest_eq_true {a b : String} (ha : isAscii a = true) :
    compareDigest a b = .ok true ↔ a = b := by
  unfold compareDigest
  by_cases hb : isAscii b = true
  · simp [ha, hb]
  · simp only [ha, hb, Bool.and_false, Bool.false_eq_true, if_false]
    exact ⟨nofun, fun h => absurd (h ▸ ha) hb⟩

/-! ### Cutting and joining -/

section Cut

variable {sep : Char} {a b : String}

lemma dropWhile_append {p : Char → Bool} {xs cs : List Char} (hxs : ∀ c ∈ xs, p c = true)
    (hhead : ∀ c ∈ cs.head?, p c = false) : (xs ++ cs).dropWhile p = cs := by
  rw [List.dropWhile_append_of_pos hxs]
  cases cs with
  | nil => rfl
  | cons c cs => exact List.dropWhile_cons_of_neg (by simp [hhead c rfl])

/-- What stands between characters `p` is left, if it neither begins nor ends with one. -/
lemma trim_append {p : Char → Bool} {xs cs ys : List Char} (hxs : ∀ c ∈ xs, p c = true) (hys : ∀ c ∈ ys, p c = true)
    (hhead : ∀ c ∈ cs.head?, p c = false) (hlast : ∀ c ∈ cs.getLast?, p c = false) : trim p (xs ++ cs ++ ys) = cs := by
  have hlast' : ∀ c ∈ cs.reverse.head?, p c = false := by rwa [List.head?_reverse]
  have hys' : ∀ c ∈ ys.reverse, p c = true := fun c hc => hys c (List.mem_reverse.1 hc)
  unfold trim
  cases cs with
  | nil =>
    have hall : ∀ c ∈ xs ++ [] ++ ys, p c = true := by
      intro c hc
      rw [List.append_nil] at hc
      rcases List.mem_append.1 hc with h | h
      · exact hxs c h
      · exact hys c h
    rw [List.dropWhile_eq_nil_iff.2 hall]
    rfl
  | cons c cs =>
    rw [List.append_assoc, dropWhile_append hxs (by simpa using hhead c rfl), List.reverse_append,
      dropWhile_append hys' hlast', List.reverse_reverse]

lemma trim_eq_self {p : Char → Bool} {cs : List Char} (h : ∀ c ∈ cs, p c = false) : trim p cs = cs := by
  have htrim : trim p ([] ++ cs ++ []) = cs :=
    trim_append (by simp) (by simp) (fun c hc => h c (List.mem_of_mem_head? hc)) fun c hc =>
      h c (List.mem_of_getLast? hc)
  simpa using htrim

/-- What is left of a text that is trimmed, and what is cut off. -/
lemma exists_trim (p : Char → Bool) (cs : List Char) : ∃ front back, cs = front ++ trim p cs ++ back ∧
    (∀ c ∈ front, p c = true) ∧ ∀ c ∈ back, p c = true := by
  set rest := cs.dropWhile p with hrest
  refine ⟨cs.takeWhile p, (rest.reverse.takeWhile p).reverse, ?_, fun c hc => List.mem_takeWhile_imp hc, fun c hc =>
    List.mem_takeWhile_imp (List.mem_reverse.1 hc)⟩
  have hback : trim p cs ++ (rest.reverse.takeWhile p).reverse = rest := by
    unfold trim
    rw [← hrest, ← List.reverse_append, List.takeWhile_append_dropWhile, List.reverse_reverse]
  rw [List.append_assoc, hback, hrest, List.takeWhile_append_dropWhile]

lemma strip_eq_self (h : ∀ c ∈ a.toList, isWhitespace c = false) : strip a = a := by
  unfold strip
  rw [trim_eq_self h, String.ofList_toList]

/-- The first separator is where the text is cut. -/
lemma cut_append (h : sep ∉ a.toList) : cut sep (a ++ String.singleton sep ++ b) = some (a, b) := by
  have hall : ∀ c ∈ a.toList, (c != sep) = true := fun c hc => bne_iff_ne.2 fun e => h (e ▸ hc)
  have hdrop : (a ++ String.singleton sep ++ b).toList.dropWhile (· != sep) = sep :: b.toList := by
    rw [String.toList_append, String.toList_append, List.append_assoc, List.dropWhile_append_of_pos hall]
    simp
  have htake : (a ++ String.singleton sep ++ b).toList.takeWhile (· != sep) = a.toList := by
    rw [String.toList_append, String.toList_append, List.append_assoc, List.takeWhile_append_of_pos hall]
    simp
  unfold cut
  rw [hdrop, htake]
  simp

lemma split_append (h : sep ∉ a.toList) :
    split sep (a ++ String.singleton sep ++ b) = a :: split sep b := by
  have hlist : (a ++ String.singleton sep ++ b).toList = a.toList ++ sep :: b.toList := by simp
  unfold split
  rw [hlist, List.splitOn_append_cons_self_of_not_mem h]
  simp

lemma split_of_notMem (h : sep ∉ a.toList) : split sep a = [a] := by
  unfold split
  rw [List.splitOn_eq_singleton h]
  simp

/-- Texts that are joined by commas are read back. -/
lemma split_intercalate {parts : List String} (h : ∀ s ∈ parts, ',' ∉ s.toList) (hne : parts ≠ []) :
    split ',' (",".intercalate parts) = parts := by
  induction parts with
  | nil => exact absurd rfl hne
  | cons s rest ih =>
    have hs := h s List.mem_cons_self
    cases rest with
    | nil => rw [String.intercalate_singleton, split_of_notMem hs]
    | cons t rest =>
      rw [String.intercalate_cons_cons]
      exact (split_append hs).trans
        (congrArg _ (ih (fun u hu => h u (List.mem_cons_of_mem _ hu)) (List.cons_ne_nil _ _)))

lemma notMem_of_mem_splitOn {sep : Char} {cs part : List Char} (h : part ∈ cs.splitOn sep) : sep ∉ part := by
  induction hn : cs.length using Nat.strong_induction_on generalizing cs with
  | _ n ih =>
    by_cases hsep : sep ∈ cs
    · obtain ⟨first, rest, rfl, hfirst⟩ := List.eq_append_cons_of_mem hsep
      rw [List.splitOn_append_cons_self_of_not_mem hfirst] at h
      rcases List.mem_cons.1 h with rfl | h
      · exact hfirst
      · exact ih rest.length (by rw [← hn]; simp; omega) h rfl
    · rw [List.splitOn_eq_singleton hsep, List.mem_singleton] at h
      exact h ▸ hsep

end Cut

/-! ### Digests -/

/-- The digits in base 16. -/
def hexAlphabet : List Char := "0123456789abcdef".toList

/-- The text is made of digits in base 16. -/
def isHex (s : String) : Bool := s.toList.all fun c => hexAlphabet.contains c

/-- What `hexdigest` gives for SHA-256. -/
def IsHexdigest (s : String) : Prop := s.length = 64 ∧ isHex s = true

instance (s : String) : Decidable (IsHexdigest s) := inferInstanceAs (Decidable (_ ∧ _))

/-- What is so of the sixteen digits. -/
lemma of_isHex {s : String} {p : Char → Bool} (h : isHex s = true) (hp : hexAlphabet.all p = true) :
    ∀ c ∈ s.toList, p c = true := by
  intro c hc
  have hdigit : hexAlphabet.contains c = true := List.all_eq_true.1 h c hc
  exact List.all_eq_true.1 hp c (List.contains_iff_mem.1 hdigit)

namespace IsHexdigest

variable {s : String}

lemma ne_empty (h : IsHexdigest s) : s ≠ "" := by
  rintro rfl
  exact absurd h.1 (by decide)

lemma isAscii (h : IsHexdigest s) : isAscii s = true := by
  have hdigits : (hexAlphabet.all fun c => decide (c.toNat < 128)) = true := by decide
  exact List.all_eq_true.2 (of_isHex h.2 hdigits)

lemma strip_eq (h : IsHexdigest s) : strip s = s := by
  have hdigits : (hexAlphabet.all fun c => !isWhitespace c) = true := by decide
  exact strip_eq_self fun c hc => by simpa using of_isHex h.2 hdigits c hc

lemma notMem (h : IsHexdigest s) : ',' ∉ s.toList := by
  have hdigits : (hexAlphabet.all fun c => c != ',') = true := by decide
  intro hc
  simpa using of_isHex h.2 hdigits _ hc

end IsHexdigest

/-! ### The decimal digits of a number -/

lemma readDigits_of_isDigit {ds : List Char} (h : ∀ c ∈ ds, c.isDigit = true) (acc : ℕ) :
    readDigits acc true ds = some (Nat.ofDigitChars 10 ds acc) := by
  induction ds generalizing acc with
  | nil => rfl
  | cons d ds ih =>
    unfold readDigits
    rw [if_pos (h d List.mem_cons_self), ih fun c hc => h c (List.mem_cons_of_mem _ hc),
      Nat.ofDigitChars_cons]

/-- The digits that are printed are read back. -/
lemma readDigits_toDigits (n : ℕ) : readDigits 0 false (Nat.toDigits 10 n) = some n := by
  have hdigit : ∀ c ∈ Nat.toDigits 10 n, c.isDigit = true := fun c hc =>
    Nat.isDigit_of_mem_toDigits (by decide) (by decide) hc
  have hread : readDigits 0 false (Nat.toDigits 10 n) = some (Nat.ofDigitChars 10 (Nat.toDigits 10 n) 0) := by
    cases hd : Nat.toDigits 10 n with
    | nil => exact absurd hd Nat.toDigits_ne_nil
    | cons d ds =>
      rw [hd] at hdigit
      unfold readDigits
      rw [if_pos (hdigit d List.mem_cons_self),
        readDigits_of_isDigit fun c hc => hdigit c (List.mem_cons_of_mem _ hc), Nat.ofDigitChars_cons]
  rw [hread, Nat.ofDigitChars_ten_toDigits]

/-- The text of an integer: its digits, after a sign if it is negative. -/
lemma toList_toString_int (n : ℤ) :
    (toString n).toList = if n < 0 then '-' :: Nat.toDigits 10 n.natAbs else Nat.toDigits 10 n.natAbs := by
  cases n with
  | ofNat m =>
    have h : ¬(Int.ofNat m < 0) := by simp
    rw [if_neg h]
    exact Nat.toList_repr
  | negSucc m =>
    rw [if_pos (Int.negSucc_lt_zero m)]
    show ("-" ++ (m + 1).repr).toList = _
    rw [String.toList_append, Nat.toList_repr]
    rfl

/-- What `str` prints for an integer is made of these characters. -/
lemma isDigit_of_mem_toString {n : ℤ} {c : Char} (hc : c ∈ (toString n).toList) :
    c.isDigit = true ∨ c = '-' := by
  rw [toList_toString_int] at hc
  have hdigit : c ∈ Nat.toDigits 10 n.natAbs → c.isDigit = true :=
    Nat.isDigit_of_mem_toDigits (by decide) (by decide)
  split at hc
  · rcases List.mem_cons.1 hc with rfl | hc
    · exact .inr rfl
    · exact .inl (hdigit hc)
  · exact .inl (hdigit hc)

lemma notMem_toString {n : ℤ} {c : Char} (hdigit : c.isDigit = false) (hminus : c ≠ '-') :
    c ∉ (toString n).toList := fun hc =>
  (isDigit_of_mem_toString hc).elim (fun h => by simp [hdigit] at h) hminus

section Sign

variable {s : String} {ds : List Char} {n : ℕ}

lemma pyInt_of_minus (hs : trim isSpace s.toList = '-' :: ds) (hread : readDigits 0 false ds = some n) :
    pyInt s = .ok (-n) := by
  unfold trim at hs
  unfold pyInt
  simp [hs, hread]

lemma pyInt_of_digits (hs : trim isSpace s.toList = ds) (hdigit : ∀ c ∈ ds, c.isDigit = true)
    (hread : readDigits 0 false ds = some n) : pyInt s = .ok n := by
  have hminus : ∀ rest, ds ≠ '-' :: rest := fun rest h =>
    absurd (hdigit '-' (h ▸ List.mem_cons_self)) (by decide)
  have hplus : ∀ rest, ds ≠ '+' :: rest := fun rest h =>
    absurd (hdigit '+' (h ▸ List.mem_cons_self)) (by decide)
  unfold trim at hs
  unfold pyInt
  simp [hs, hread]

end Sign

lemma isSpace_of_isDigit {c : Char} (h : c.isDigit = true) : isSpace c = false := by
  have hlow : '0'.toNat ≤ c.toNat := by
    simp only [Char.isDigit, Bool.and_eq_true, decide_eq_true_eq] at h
    exact h.1
  have hne : ∀ d : Char, d.toNat < '0'.toNat → (c == d) = false := by
    intro d hd
    refine beq_eq_false_iff_ne.2 ?_
    rintro rfl
    omega
  unfold isSpace
  simp only [Bool.or_eq_false_iff]
  exact ⟨⟨⟨⟨⟨hne _ (by decide), hne _ (by decide)⟩, hne _ (by decide)⟩, hne _ (by decide)⟩,
    hne _ (by decide)⟩, hne _ (by decide)⟩

/-- **`int(str(n))` is `n`.** -/
theorem pyInt_toString (n : ℤ) : pyInt (toString n) = .ok n := by
  have hplain : ∀ c ∈ (toString n).toList, isSpace c = false := by
    intro c hc
    rcases isDigit_of_mem_toString hc with h | rfl
    · exact isSpace_of_isDigit h
    · decide
  have htrim : trim isSpace (toString n).toList = (toString n).toList := trim_eq_self hplain
  have hlist := toList_toString_int n
  by_cases hn : n < 0
  · rw [if_pos hn] at hlist
    rw [pyInt_of_minus (htrim.trans hlist) (readDigits_toDigits n.natAbs)]
    congr 1
    omega
  · rw [if_neg hn] at hlist
    have hdigit : ∀ c ∈ Nat.toDigits 10 n.natAbs, c.isDigit = true := fun c hc =>
      Nat.isDigit_of_mem_toDigits (by decide) (by decide) hc
    rw [pyInt_of_digits (htrim.trans hlist) hdigit (readDigits_toDigits n.natAbs)]
    congr 1
    omega

end FastapiTemplate.Python
