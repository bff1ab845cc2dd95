import FastapiTemplate.Python.IpAddress

/-!
# `urllib.parse.unquote`

The escapes of a text are bytes, and so is its ASCII; a run of bytes is decoded as UTF-8, and what is no UTF-8 in it is
replaced. `unquote_eq_self_iff` says which texts stay as they are: those without an escape.
-/

namespace FastapiTemplate.Python

/-! ### UTF-8 with replacements -/

/-- U+FFFD -/
def replacementCharacter : Char := Char.ofNat 0xfffd

/-- A character that is not complete: the bytes that are owed, the bounds of the next one, and the bits so far. -/
structure Incomplete where
  owed : ℕ
  low : ℕ := 0x80
  high : ℕ := 0xbf
  bits : ℕ

/-- What the first byte of a longer character promises. -/
def leadByte (b : ℕ) : Option Incomplete :=
  if 0xc2 ≤ b ∧ b ≤ 0xdf then some { owed := 1, bits := b - 0xc0 }
  else if b = 0xe0 then some { owed := 2, low := 0xa0, bits := 0 }
  else if b = 0xed then some { owed := 2, high := 0x9f, bits := 0xd }
  else if 0xe1 ≤ b ∧ b ≤ 0xef then some { owed := 2, bits := b - 0xe0 }
  else if b = 0xf0 then some { owed := 3, low := 0x90, bits := 0 }
  else if b = 0xf4 then some { owed := 3, high := 0x8f, bits := 4 }
  else if 0xf1 ≤ b ∧ b ≤ 0xf3 then some { owed := 3, bits := b - 0xf0 }
  else none

/-- A byte between two characters. -/
def firstByte (b : ℕ) : List Char × Option Incomplete :=
  if b < 0x80 then ([Char.ofNat b], none)
  else match leadByte b with
    | some p => ([], some p)
    | none => ([replacementCharacter], none)

/-- A byte, or a character that is not ASCII and ends a run of bytes. -/
inductive Piece where
  | byte (b : ℕ)
  | char (c : Char)

/-- `decode("utf-8", "replace")` of the runs of bytes. -/
def decodePieces : Option Incomplete → List Piece → List Char
  | none, [] => []
  | some _, [] => [replacementCharacter]
  | none, .char c :: rest => c :: decodePieces none rest
  | some _, .char c :: rest => replacementCharacter :: c :: decodePieces none rest
  | none, .byte b :: rest => (firstByte b).1 ++ decodePieces (firstByte b).2 rest
  | some p, .byte b :: rest =>
    if p.low ≤ b ∧ b ≤ p.high then
      if p.owed ≤ 1 then Char.ofNat (p.bits * 64 + (b - 0x80)) :: decodePieces none rest
      else decodePieces (some { owed := p.owed - 1, bits := p.bits * 64 + (b - 0x80) }) rest
    else replacementCharacter :: ((firstByte b).1 ++ decodePieces (firstByte b).2 rest)

/-! ### Escapes -/

/-- The byte of two hexadecimal digits. -/
def hexByte (a b : Char) : Option ℕ := do
  let high ← hexValue a
  let low ← hexValue b
  return 16 * high + low

def Piece.of (c : Char) : Piece := if c.toNat < 0x80 then .byte c.toNat else .char c

def pieces : List Char → List Piece
  | c :: a :: b :: rest =>
    match if c = '%' then hexByte a b else none with
    | some byte => .byte byte :: pieces rest
    | none => .of c :: pieces (a :: b :: rest)
  | c :: rest => .of c :: pieces rest
  | [] => []

/-- A percent sign with two hexadecimal digits is in it. -/
def hasEscape : List Char → Bool
  | c :: a :: b :: rest => (if c = '%' then hexByte a b else none).isSome || hasEscape (a :: b :: rest)
  | _ => false

/-- `unquote(string)` -/
def unquote (s : String) : String := String.ofList (decodePieces none (pieces s.toList))

example : unquote "p%40ss%e2%82%ac%ff%zz" = "p@ss€\ufffd%zz" := by decide +kernel

/-! ### What stays as it is -/

section Lemmas

variable {p : Option Incomplete} {ps : List Piece} {cs : List Char} {s : String}

lemma length_firstByte (b : ℕ) : (firstByte b).1.length + (if (firstByte b).2.isSome then 1 else 0) = 1 := by
  unfold firstByte
  split
  · rfl
  · split <;> rfl

/-- A byte gives one character at most. -/
lemma length_decodePieces (p : Option Incomplete) (ps : List Piece) :
    (decodePieces p ps).length ≤ ps.length + if p.isSome then 1 else 0 := by
  induction ps generalizing p with
  | nil => cases p <;> simp [decodePieces]
  | cons piece ps ih =>
    have hfirst : ∀ b, ((firstByte b).1 ++ decodePieces (firstByte b).2 ps).length ≤ ps.length + 1 := by
      intro b
      have hb := length_firstByte b
      have hrest := ih (firstByte b).2
      rw [List.length_append]
      omega
    have hnone := ih none
    simp only [Option.isSome_none, Bool.false_eq_true, if_false] at hnone
    cases piece with
    | char c => cases p <;> simp [decodePieces] <;> omega
    | byte b =>
      cases p with
      | none => simpa [decodePieces] using hfirst b
      | some p =>
        unfold decodePieces
        simp only [Option.isSome_some, if_true, List.length_cons]
        split
        · split
          · rw [List.length_cons]
            omega
          · have hsome := ih (some { owed := p.owed - 1, bits := p.bits * 64 + (b - 0x80) })
            simp only [Option.isSome_some, if_true] at hsome
            omega
        · have hb := hfirst b
          rw [List.length_cons]
          omega

/-- Something is decoded if there is something. -/
lemma decodePieces_ne_nil (h : p.isSome = true ∨ ps ≠ []) : decodePieces p ps ≠ [] := by
  induction ps generalizing p with
  | nil =>
    cases p with
    | none => simp at h
    | some p => simp [decodePieces]
  | cons piece ps ih =>
    have hfirst : ∀ b, (firstByte b).1 ++ decodePieces (firstByte b).2 ps ≠ [] := by
      intro b hnil
      obtain ⟨hnil, hrest⟩ := List.append_eq_nil_iff.1 hnil
      have hb := length_firstByte b
      rw [hnil, List.length_nil, Nat.zero_add] at hb
      split at hb
      · rename_i hsome
        exact ih (.inl hsome) hrest
      · cases hb
    cases piece with
    | char c => cases p <;> simp [decodePieces]
    | byte b =>
      cases p with
      | none => exact hfirst b
      | some p =>
        unfold decodePieces
        split
        · split
          · simp
          · exact ih (.inl rfl)
        · simp

/-- Without escapes every character is a piece. -/
lemma pieces_of_not_hasEscape (h : hasEscape cs = false) : pieces cs = cs.map Piece.of := by
  fun_induction hasEscape cs with
  | case1 c a b rest ih =>
    rw [Bool.or_eq_false_iff] at h
    have hnone : (if c = '%' then hexByte a b else none) = none := by simpa using h.1
    unfold pieces
    rw [hnone]
    dsimp only
    rw [ih h.2]
    rfl
  | case2 cs hshort =>
    match cs with
    | [] => rfl
    | [_] => rfl
    | [_, _] => rfl
    | a :: b :: c :: rest => exact absurd rfl (hshort a b c rest)

lemma length_pieces (cs : List Char) : (pieces cs).length ≤ cs.length := by
  fun_induction pieces cs with
  | case1 c a b rest byte hbyte ih => simp only [List.length_cons]; omega
  | case2 c a b rest hbyte ih => simpa using ih
  | case3 c rest hshort ih => simpa using ih
  | case4 => exact le_rfl

/-- An escape gives one piece for three characters. -/
lemma length_pieces_lt (h : hasEscape cs = true) : (pieces cs).length < cs.length := by
  fun_induction hasEscape cs with
  | case1 c a b rest ih =>
    unfold pieces
    split
    · have hrest := length_pieces rest
      simp only [List.length_cons]
      omega
    · rename_i hnone
      rw [hnone] at h
      have hlater := ih (by simpa using h)
      simpa using hlater
  | case2 cs hshort => cases h

lemma decodePieces_map_of (cs : List Char) : decodePieces none (cs.map Piece.of) = cs := by
  induction cs with
  | nil => rfl
  | cons c cs ih =>
    by_cases hascii : c.toNat < 0x80
    · have hof : Piece.of c = .byte c.toNat := if_pos hascii
      have hfirst : firstByte c.toNat = ([c], none) := by
        unfold firstByte
        rw [if_pos hascii, Char.ofNat_toNat]
      rw [List.map_cons, hof, decodePieces, hfirst, ih]
      rfl
    · have hof : Piece.of c = .char c := if_neg hascii
      rw [List.map_cons, hof, decodePieces, ih]

lemma length_unquote (s : String) : (unquote s).toList.length ≤ s.toList.length := by
  have hdecode := length_decodePieces none (pieces s.toList)
  have hpieces := length_pieces s.toList
  unfold unquote
  rw [String.toList_ofList]
  simp only [Option.isSome_none, Bool.false_eq_true, if_false] at hdecode
  omega

/-- **What stays as it is**: a text without escapes. -/
theorem unquote_eq_self_iff : unquote s = s ↔ hasEscape s.toList = false := by
  constructor
  · intro h
    by_contra hescape
    have hpieces := length_pieces_lt (Bool.eq_true_of_not_eq_false hescape)
    have hdecode := length_decodePieces none (pieces s.toList)
    have hlength : (unquote s).toList.length = s.toList.length := by rw [h]
    unfold unquote at hlength
    rw [String.toList_ofList] at hlength
    simp only [Option.isSome_none, Bool.false_eq_true, if_false] at hdecode
    omega
  · intro h
    unfold unquote
    rw [pieces_of_not_hasEscape h, decodePieces_map_of, String.ofList_toList]

lemma unquote_ne_empty (h : s ≠ "") : unquote s ≠ "" := by
  have hne : pieces s.toList ≠ [] := by
    intro hnil
    obtain ⟨c, cs, hcs⟩ := List.exists_cons_of_ne_nil fun e => h (String.toList_eq_nil_iff.1 e)
    rw [hcs] at hnil
    unfold pieces at hnil
    split at hnil
    · split at hnil <;> cases hnil
    · cases hnil
    · rename_i hcons
      cases hcons
  intro hempty
  have hnil : (unquote s).toList = [] := String.toList_eq_nil_iff.2 hempty
  unfold unquote at hnil
  rw [String.toList_ofList] at hnil
  exact decodePieces_ne_nil (.inr hne) hnil

end Lemmas

end FastapiTemplate.Python
