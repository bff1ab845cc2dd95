import FastapiTemplate.Python.Text

/-!
# Numerals

`int` and `str` of whole numbers as the interpreter has them: `int` reads the decimal digits of every script, and
neither goes beyond the interpreter's number of digits, which is 4300 unless it is set otherwise. `none` is the
setting without an end.
-/

namespace FastapiTemplate.Python

/-- The zeros of the decimal scripts other than ASCII; the other nine digits follow each. -/
def decimalZeros : List ℕ :=
  [0x660, 0x6f0, 0x7c0, 0x966, 0x9e6, 0xa66, 0xae6, 0xb66, 0xbe6, 0xc66, 0xce6, 0xd66, 0xde6, 0xe50, 0xed0, 0xf20,
    0x1040, 0x1090, 0x17e0, 0x1810, 0x1946, 0x19d0, 0x1a80, 0x1a90, 0x1b50, 0x1bb0, 0x1c40, 0x1c50, 0xa620, 0xa8d0,
    0xa900, 0xa9d0, 0xa9f0, 0xaa50, 0xabf0, 0xff10, 0x104a0, 0x10d30, 0x11066, 0x110f0, 0x11136, 0x111d0, 0x112f0,
    0x11450, 0x114d0, 0x11650, 0x116c0, 0x11730, 0x118e0, 0x11950, 0x11c50, 0x11d50, 0x11da0, 0x11f50, 0x16a60,
    0x16ac0, 0x16b50, 0x1d7ce, 0x1d7d8, 0x1d7e2, 0x1d7ec, 0x1d7f6, 0x1e140, 0x1e2f0, 0x1e4f0, 0x1e950, 0x1fbf0]

/-- The ASCII character that `int` takes a character for. -/
def asciiDecimal (c : Char) : Char :=
  if c.toNat < 128 then c
  else if isWhitespace c then ' '
  else match decimalZeros.find? fun first => decide (first ≤ c.toNat ∧ c.toNat < first + 10) with
    | some first => Char.ofNat ('0'.toNat + (c.toNat - first))
    | none => '?'

/-- The text has no more digits than the interpreter goes to. -/
def WithinDigits (limit : Option ℕ) (s : String) : Prop :=
  limit.all (fun most => decide ((s.toList.countP Char.isDigit) ≤ most)) = true

instance (limit : Option ℕ) (s : String) : Decidable (WithinDigits limit s) := inferInstanceAs (Decidable (_ = _))

/-- `int(s)` -/
def readInt (limit : Option ℕ) (s : String) : Except BuiltinError ℤ :=
  let text := String.ofList (s.toList.map asciiDecimal)
  if WithinDigits limit text then pyInt text else .error .valueError

/-- `str(n)` -/
def printInt (limit : Option ℕ) (n : ℤ) : Except BuiltinError String :=
  if WithinDigits limit (toString n) then .ok (toString n) else .error .valueError

section Lemmas

variable {limit : Option ℕ} {s t : String} {n : ℤ}

lemma withinDigits_iff : WithinDigits limit s ↔ ∀ most ∈ limit, s.toList.countP Char.isDigit ≤ most := by
  unfold WithinDigits
  cases limit <;> simp

lemma printInt_eq_ok : printInt limit n = .ok s ↔ WithinDigits limit (toString n) ∧ toString n = s := by
  unfold printInt
  by_cases h : WithinDigits limit (toString n)
  · rw [if_pos h, and_iff_right h]
    exact ⟨Except.ok.inj, congrArg Except.ok⟩
  · rw [if_neg h]
    exact ⟨nofun, fun hw => absurd hw.1 h⟩

lemma readInt_empty : readInt limit "" = .error .valueError := by
  have hempty : String.ofList ("".toList.map asciiDecimal) = "" := rfl
  unfold readInt
  rw [hempty]
  exact ite_self _

/-- A limit only takes away. -/
lemma readInt_none_of (h : readInt limit s = .ok n) : readInt none s = .ok n := by
  unfold readInt at h ⊢
  dsimp only at h ⊢
  split at h
  · exact (if_pos rfl).trans h
  · cases h

lemma printInt_none (n : ℤ) : printInt none n = .ok (toString n) := rfl

lemma asciiDecimal_of_lt {c : Char} (h : c.toNat < 128) : asciiDecimal c = c := if_pos h

lemma toNat_lt_of_mem_toString {c : Char} (hc : c ∈ (toString n).toList) : c.toNat < 128 := by
  rcases isDigit_of_mem_toString hc with h | rfl
  · simp only [Char.isDigit, Bool.and_eq_true, decide_eq_true_eq] at h
    have hc : c.toNat ≤ 57 := h.2
    omega
  · decide

/-- `int` reads what `str` prints. -/
theorem readInt_of_printInt (h : printInt limit n = .ok s) : readInt limit s = .ok n := by
  obtain ⟨hlimit, rfl⟩ := printInt_eq_ok.1 h
  have hself : (toString n).toList.map asciiDecimal = (toString n).toList :=
    (List.map_congr_left fun c hc => asciiDecimal_of_lt (toNat_lt_of_mem_toString hc)).trans (List.map_id' _)
  unfold readInt
  rw [hself, String.ofList_toList]
  dsimp only
  rw [if_pos hlimit, pyInt_toString]

/-! ### How many digits are printed -/

/-- A number is below the power of its number of digits. -/
lemma readDigits_lt {acc k : ℕ} {afterDigit : Bool} {cs : List Char} (h : readDigits acc afterDigit cs = some k) :
    k < (acc + 1) * 10 ^ cs.countP Char.isDigit := by
  induction cs generalizing acc afterDigit with
  | nil =>
    unfold readDigits at h
    split at h
    · cases h
      simp
    · cases h
  | cons c cs ih =>
    unfold readDigits at h
    split at h
    · rename_i hc
      have hdigit : c.toNat - '0'.toNat ≤ 9 := by
        simp only [Char.isDigit, Bool.and_eq_true, decide_eq_true_eq] at hc
        have hle : c.toNat ≤ 57 := hc.2
        have hzero : '0'.toNat = 48 := rfl
        omega
      have hstep := ih h
      rw [List.countP_cons_of_pos hc, pow_succ', ← mul_assoc]
      exact lt_of_lt_of_le hstep (Nat.mul_le_mul_right _ (by omega))
    · rename_i hc
      split at h
      · rw [List.countP_cons_of_neg hc]
        exact ih h
      · cases h

lemma countP_pos_of_readDigits {acc k : ℕ} {cs : List Char} (h : readDigits acc false cs = some k) :
    0 < cs.countP Char.isDigit := by
  cases cs with
  | nil => cases h
  | cons c cs =>
    unfold readDigits at h
    split at h
    · rename_i hc
      rw [List.countP_cons_of_pos hc]
      omega
    · simp at h

/-- The digits of the number that is read stand in the text. -/
lemma exists_readDigits_of_pyInt (h : pyInt s = .ok n) :
    ∃ ds, ds.Sublist s.toList ∧ readDigits 0 false ds = some n.natAbs := by
  have htrim : (trim isSpace s.toList).Sublist s.toList := by
    unfold trim
    have hinner := (List.dropWhile_sublist isSpace (l := (s.toList.dropWhile isSpace).reverse)).reverse
    rw [List.reverse_reverse] at hinner
    exact hinner.trans (List.dropWhile_sublist _)
  unfold pyInt at h
  rw [show ((s.toList.dropWhile isSpace).reverse.dropWhile isSpace).reverse = trim isSpace s.toList from rfl] at h
  dsimp only at h
  have habs : ∀ m : ℕ, (-(m : ℤ)).natAbs = m ∧ (Int.ofNat m).natAbs = m := fun m => ⟨by simp, rfl⟩
  split at h
  · rename_i k hk
    cases h
    split at hk
    · rename_i ds hds
      obtain ⟨m, hm, hn⟩ : ∃ m : ℕ, readDigits 0 false ds = some m ∧ -(m : ℤ) = n :=
        by simpa [Option.bind_eq_some_iff] using hk
      exact ⟨ds, (List.sublist_cons_self _ _).trans (hds ▸ htrim), by rw [hm, ← hn, (habs m).1]⟩
    · rename_i ds hds
      obtain ⟨m, hm, hn⟩ := Option.map_eq_some_iff.1 hk
      exact ⟨ds, (List.sublist_cons_self _ _).trans (hds ▸ htrim), by rw [hm, ← hn, (habs m).2]⟩
    · obtain ⟨m, hm, hn⟩ := Option.map_eq_some_iff.1 hk
      exact ⟨_, htrim, by rw [hm, ← hn, (habs m).2]⟩
  · cases h

lemma countP_toString (n : ℤ) :
    (toString n).toList.countP Char.isDigit = (Nat.toDigits 10 n.natAbs).length := by
  have hall : (Nat.toDigits 10 n.natAbs).countP Char.isDigit = (Nat.toDigits 10 n.natAbs).length :=
    List.countP_eq_length.2 fun c hc => Nat.isDigit_of_mem_toDigits (by decide) (by decide) hc
  rw [toList_toString_int]
  split
  · rw [List.countP_cons_of_neg (by decide), hall]
  · exact hall

/-- **What is read can be printed.** -/
theorem printInt_of_readInt (h : readInt limit s = .ok n) : printInt limit n = .ok (toString n) := by
  unfold readInt at h
  dsimp only at h
  split at h
  · rename_i hlimit
    obtain ⟨ds, hsub, hread⟩ := exists_readDigits_of_pyInt h
    refine printInt_eq_ok.2 ⟨withinDigits_iff.2 fun most hmost => ?_, rfl⟩
    have hcount : ds.countP Char.isDigit ≤ most :=
      (List.Sublist.countP_le hsub).trans (withinDigits_iff.1 hlimit most hmost)
    have hlt : n.natAbs < 10 ^ ds.countP Char.isDigit := by
      have hbound := readDigits_lt hread
      omega
    rw [countP_toString]
    exact ((Nat.length_toDigits_le_iff (by decide) (countP_pos_of_readDigits hread)).2 hlt).trans hcount
  · cases h

/-! ### Which texts are read -/

/-- Digits, with single underscores between them. -/
inductive DigitGroups : List Char → Prop where
  | single {c : Char} (hc : c.isDigit = true) : DigitGroups [c]
  | digit {c : Char} {cs : List Char} (hc : c.isDigit = true) (h : DigitGroups cs) : DigitGroups (c :: cs)
  | underscore {c : Char} {cs : List Char} (hc : c.isDigit = true) (h : DigitGroups cs) : DigitGroups (c :: '_' :: cs)

/-- What `int` reads: white space, a sign or none, few enough digits, and white space. -/
def IsIntLiteral (limit : Option ℕ) (s : String) : Prop :=
  ∃ front sign digits back, s.toList.map asciiDecimal = front ++ (sign ++ digits) ++ back ∧
    (∀ c ∈ front, isSpace c = true) ∧ (∀ c ∈ back, isSpace c = true) ∧
    (sign = [] ∨ sign = ['+'] ∨ sign = ['-']) ∧ DigitGroups digits ∧ ∀ most ∈ limit, digits.countP Char.isDigit ≤ most

lemma DigitGroups.exists_readDigits {cs : List Char} (h : DigitGroups cs) (acc : ℕ) (afterDigit : Bool) :
    ∃ k, readDigits acc afterDigit cs = some k := by
  have hunder : ('_' : Char).isDigit = false := rfl
  induction h generalizing acc afterDigit with
  | single hc =>
    rw [readDigits, if_pos hc]
    exact ⟨_, rfl⟩
  | digit hc _ ih =>
    rw [readDigits, if_pos hc]
    exact ih _ true
  | underscore hc _ ih =>
    rw [readDigits, if_pos hc, readDigits, hunder]
    exact ih _ false

lemma digitGroups_of_readDigits {cs : List Char} {acc k : ℕ} {afterDigit : Bool}
    (h : readDigits acc afterDigit cs = some k) : DigitGroups cs ∨
      afterDigit = true ∧ (cs = [] ∨ ∃ ds, cs = '_' :: ds ∧ DigitGroups ds) := by
  induction cs generalizing acc afterDigit with
  | nil =>
    cases afterDigit with
    | false => cases h
    | true => exact .inr ⟨rfl, .inl rfl⟩
  | cons c cs ih =>
    unfold readDigits at h
    split at h
    · rename_i hc
      rcases ih h with hgroups | ⟨-, rfl | ⟨ds, rfl, hgroups⟩⟩
      · exact .inl (.digit hc hgroups)
      · exact .inl (.single hc)
      · exact .inl (.underscore hc hgroups)
    · split at h
      · rename_i hunder
        rw [Bool.and_eq_true, beq_iff_eq] at hunder
        obtain ⟨rfl, rfl⟩ := hunder
        rcases ih h with hgroups | ⟨hafter, -⟩
        · exact .inr ⟨rfl, .inr ⟨cs, rfl, hgroups⟩⟩
        · cases hafter
      · cases h

lemma digitGroups_iff {cs : List Char} : DigitGroups cs ↔ ∃ k, readDigits 0 false cs = some k := by
  constructor
  · exact fun h => h.exists_readDigits 0 false
  · rintro ⟨k, h⟩
    rcases digitGroups_of_readDigits h with hgroups | ⟨hafter, -⟩
    · exact hgroups
    · cases hafter

lemma DigitGroups.mem {cs : List Char} (h : DigitGroups cs) : ∀ c ∈ cs, c.isDigit = true ∨ c = '_' := by
  induction h with
  | single hc => exact fun d hd => .inl (List.mem_singleton.1 hd ▸ hc)
  | digit hc _ ih => exact List.forall_mem_cons.2 ⟨.inl hc, ih⟩
  | underscore hc _ ih => exact List.forall_mem_cons.2 ⟨.inl hc, List.forall_mem_cons.2 ⟨.inr rfl, ih⟩⟩

lemma DigitGroups.exists_head {cs : List Char} (h : DigitGroups cs) : ∃ c ds, cs = c :: ds ∧ c.isDigit = true := by
  cases h with
  | single hc => exact ⟨_, _, rfl, hc⟩
  | digit hc _ => exact ⟨_, _, rfl, hc⟩
  | underscore hc _ => exact ⟨_, _, rfl, hc⟩

/-- **Which texts `int` reads**, without a limit and in ASCII. -/
lemma exists_pyInt_iff : (∃ n, pyInt s = .ok n) ↔ ∃ sign digits, trim isSpace s.toList = sign ++ digits ∧
    (sign = [] ∨ sign = ['+'] ∨ sign = ['-']) ∧ DigitGroups digits := by
  unfold pyInt
  rw [show ((s.toList.dropWhile isSpace).reverse.dropWhile isSpace).reverse = trim isSpace s.toList from rfl]
  dsimp only
  constructor
  · rintro ⟨n, h⟩
    split at h
    · rename_i k hk
      split at hk
      · rename_i ds hds
        obtain ⟨m, hm, -⟩ : ∃ m : ℕ, readDigits 0 false ds = some m ∧ -(m : ℤ) = k := by
          simpa [Option.bind_eq_some_iff] using hk
        exact ⟨['-'], ds, hds, .inr (.inr rfl), digitGroups_iff.2 ⟨m, hm⟩⟩
      · rename_i ds hds
        obtain ⟨m, hm, -⟩ := Option.map_eq_some_iff.1 hk
        exact ⟨['+'], ds, hds, .inr (.inl rfl), digitGroups_iff.2 ⟨m, hm⟩⟩
      · obtain ⟨m, hm, -⟩ := Option.map_eq_some_iff.1 hk
        exact ⟨[], _, rfl, .inl rfl, digitGroups_iff.2 ⟨m, hm⟩⟩
    · cases h
  · rintro ⟨sign, digits, htrim, hsign, hgroups⟩
    obtain ⟨m, hm⟩ := digitGroups_iff.1 hgroups
    rw [htrim]
    rcases hsign with rfl | rfl | rfl
    · obtain ⟨c, ds, rfl, hc⟩ := hgroups.exists_head
      rw [List.nil_append]
      split
      · exact ⟨_, rfl⟩
      · rename_i hnone
        split at hnone
        · rename_i heq
          rw [(List.cons.inj heq).1] at hc
          exact absurd hc (by decide)
        · rename_i heq
          rw [(List.cons.inj heq).1] at hc
          exact absurd hc (by decide)
        · rw [hm] at hnone
          cases hnone
    · simp [hm]
    · simp [hm]

/-- White space and signs are no digits. -/
lemma countP_literal {front sign digits back : List Char} (hfront : ∀ c ∈ front, isSpace c = true)
    (hback : ∀ c ∈ back, isSpace c = true) (hsign : sign = [] ∨ sign = ['+'] ∨ sign = ['-']) :
    (front ++ (sign ++ digits) ++ back).countP Char.isDigit = digits.countP Char.isDigit := by
  have hspaces : ∀ cs : List Char, (∀ c ∈ cs, isSpace c = true) → cs.countP Char.isDigit = 0 := fun cs hcs =>
    List.countP_eq_zero.2 fun c hc hdigit => Bool.false_ne_true ((isSpace_of_isDigit hdigit).symm.trans (hcs c hc))
  have hnone : sign.countP Char.isDigit = 0 := by
    rcases hsign with rfl | rfl | rfl <;> rfl
  rw [List.countP_append, List.countP_append, List.countP_append, hspaces front hfront, hspaces back hback, hnone]
  omega

/-- **Which texts `int` reads.** -/
theorem exists_readInt_iff (limit : Option ℕ) (s : String) : (∃ n, readInt limit s = .ok n) ↔ IsIntLiteral limit s := by
  set text := s.toList.map asciiDecimal with htext
  unfold readInt IsIntLiteral
  rw [← htext]
  dsimp only
  constructor
  · rintro ⟨n, h⟩
    split at h
    · rename_i hlimit
      obtain ⟨sign, digits, htrim, hsign, hgroups⟩ := exists_pyInt_iff.1 ⟨n, h⟩
      rw [String.toList_ofList] at htrim
      obtain ⟨front, back, hsplit, hfront, hback⟩ := exists_trim isSpace text
      rw [htrim] at hsplit
      refine ⟨front, sign, digits, back, hsplit, hfront, hback, hsign, hgroups, fun most hmost => ?_⟩
      have hdigits := withinDigits_iff.1 hlimit most hmost
      rwa [String.toList_ofList, hsplit, countP_literal hfront hback hsign] at hdigits
    · cases h
  · rintro ⟨front, sign, digits, back, hsplit, hfront, hback, hsign, hgroups, hlimit⟩
    have hwithin : WithinDigits limit (String.ofList text) := by
      refine withinDigits_iff.2 fun most hmost => ?_
      rw [String.toList_ofList, hsplit, countP_literal hfront hback hsign]
      exact hlimit most hmost
    have hplain : ∀ c ∈ sign ++ digits, isSpace c = false := by
      intro c hc
      rcases List.mem_append.1 hc with hc | hc
      · rcases hsign with rfl | rfl | rfl
        · cases hc
        · rw [List.mem_singleton.1 hc]
          rfl
        · rw [List.mem_singleton.1 hc]
          rfl
      · rcases hgroups.mem c hc with hdigit | rfl
        · exact isSpace_of_isDigit hdigit
        · rfl
    have htrim : trim isSpace (String.ofList text).toList = sign ++ digits := by
      rw [String.toList_ofList, hsplit]
      exact trim_append hfront hback (fun c hc => hplain c (List.mem_of_mem_head? hc)) fun c hc =>
        hplain c (List.mem_of_getLast? hc)
    rw [if_pos hwithin]
    exact exists_pyInt_iff.2 ⟨sign, digits, htrim, hsign, hgroups⟩

end Lemmas

end FastapiTemplate.Python
