import FastapiTemplate.Python.Encodings
import FastapiTemplate.Python.Numerals
import Mathlib.Data.Int.Log

/-!
# `json.loads` of bytes

The scanner of the standard library. `json.loads` reads more than JSON: `NaN`, `Infinity`, `-Infinity`, and floats that
are too large. `intOf_jsonLoads_iff` says which bytes are those of a number for `int`: those of a boolean, of an integer
of few enough digits, of a float below the largest one, or of a string that `int` reads.

The representation of a float that is read is left open, and so is the number of containers in one another that are too
many for the interpreter.
-/

namespace FastapiTemplate.Python

/-- The white space of JSON. -/
def isJsonSpace (c : Char) : Bool := c == ' ' || c == '\t' || c == '\n' || c == '\r'

def skipSpace (cs : List Char) : List Char := cs.dropWhile isJsonSpace

/-! ### Strings -/

/-- The escapes of one letter. -/
def shortEscapes : List (Char × Char) :=
  [('"', '"'), ('\\', '\\'), ('/', '/'), ('b', '\x08'), ('f', '\x0c'), ('n', '\n'), ('r', '\r'), ('t', '\t')]

/-- The number of four hexadecimal digits. -/
def hexQuad (a b c d : Char) : Option ℕ := do
  let high ← hexByte a b
  let low ← hexByte c d
  return high * 256 + low

/-- `scanstring` behind the opening quote: the code points up to the closing one, and the rest. -/
def scanString : List Char → Option (List ℕ × List Char)
  | [] => none
  | '"' :: cs => some ([], cs)
  | '\\' :: 'u' :: a :: b :: c :: d :: cs => do
    let n ← hexQuad a b c d
    let (codes, rest) ← scanString cs
    return (n :: codes, rest)
  | '\\' :: e :: cs => do
    let c ← shortEscapes.lookup e
    let (codes, rest) ← scanString cs
    return (c.toNat :: codes, rest)
  | c :: cs =>
    if c = '\\' || c.toNat < 32 then none
    else do
      let (codes, rest) ← scanString cs
      return (c.toNat :: codes, rest)

/-! ### Numbers -/

/-- A number as it is written. -/
structure Numeral where
  negative : Bool
  digits : List Char
  fraction : Option (List Char)
  /-- The letter, the sign and the digits. -/
  exponent : Option (Char × Option Char × List Char)

/-- The digits in front. -/
def scanDigits (cs : List Char) : List Char × List Char := (cs.takeWhile Char.isDigit, cs.dropWhile Char.isDigit)

/-- `(0|[1-9]\d*)` -/
def scanInteger : List Char → Option (List Char × List Char)
  | '0' :: cs => some (['0'], cs)
  | c :: cs => if c.isDigit then some (scanDigits (c :: cs)) else none
  | [] => none

/-- `(\.\d+)?` -/
def scanFraction (cs : List Char) : Option (List Char) × List Char :=
  match cs with
  | '.' :: rest => if (scanDigits rest).1 = [] then (none, cs) else (some (scanDigits rest).1, (scanDigits rest).2)
  | _ => (none, cs)

/-- `[-+]?` -/
def scanSign : List Char → Option Char × List Char
  | c :: cs => if c = '+' || c = '-' then (some c, cs) else (none, c :: cs)
  | [] => (none, [])

/-- `([eE][-+]?\d+)?` -/
def scanExponent (cs : List Char) : Option (Char × Option Char × List Char) × List Char :=
  match cs with
  | c :: rest =>
    if c = 'e' || c = 'E' then
      let (sign, rest) := scanSign rest
      if (scanDigits rest).1 = [] then (none, cs) else (some (c, sign, (scanDigits rest).1), (scanDigits rest).2)
    else (none, cs)
  | [] => (none, cs)

/-- `_match_number` -/
def scanNumeral (cs : List Char) : Option (Numeral × List Char) := do
  let negative := cs.head? = some '-'
  let (digits, rest) ← scanInteger (if negative then cs.tail else cs)
  let (fraction, rest) := scanFraction rest
  let (exponent, rest) := scanExponent rest
  return ({ negative := negative, digits := digits, fraction := fraction, exponent := exponent }, rest)

namespace Numeral

def IsInteger (n : Numeral) : Prop := n.fraction = none ∧ n.exponent = none

instance (n : Numeral) : Decidable n.IsInteger := inferInstanceAs (Decidable (_ ∧ _))

/-- The power of ten of the exponent. -/
def power (n : Numeral) : ℤ :=
  match n.exponent with
  | some (_, sign, digits) =>
    if sign = some '-' then -(Nat.ofDigitChars 10 digits 0 : ℤ) else Nat.ofDigitChars 10 digits 0
  | none => 0

def value (n : Numeral) : ℚ :=
  (if n.negative then -1 else 1) * Nat.ofDigitChars 10 (n.digits ++ n.fraction.getD []) 0 *
    10 ^ (n.power - (n.fraction.getD []).length)

end Numeral

/-- From here on a number is rounded to no float. -/
def floatBound : ℚ := 2 ^ 1024 - 2 ^ 970

/-- The float nearest to a number: its last place is one of 53, and not below that of the smallest float. -/
def roundDouble (q : ℚ) : ℚ :=
  let place : ℤ := max (-1074) (Int.log 2 |q| - 52)
  roundHalfEven (q / 2 ^ place) * 2 ^ place

/-- `float(numstr)` -/
def toFloat (repr : String) (q : ℚ) : PyFloat :=
  if floatBound ≤ q then .posInf else if q ≤ -floatBound then .negInf else .finite (roundDouble q) repr

variable (limit : Option ℕ) (floatRepr : Numeral → String)

/-- `parse_int(numstr)` or `parse_float(numstr)` -/
def Numeral.parse (n : Numeral) : Except BuiltinError Value :=
  if n.IsInteger then
    if limit.all (fun most => n.digits.length ≤ most) then
      .ok (.int (if n.negative then -(Nat.ofDigitChars 10 n.digits 0 : ℤ) else Nat.ofDigitChars 10 n.digits 0))
    else .error .valueError
  else .ok (.float (toFloat (floatRepr n) n.value))

/-! ### Values -/

/-- The words, with what they stand for. -/
def jsonWords : List (List Char × Value) :=
  [("null".toList, .none), ("true".toList, .bool true), ("false".toList, .bool false),
    ("NaN".toList, .float .nan), ("Infinity".toList, .float .posInf), ("-Infinity".toList, .float .negInf)]

/-- A word, a string or a number. -/
def scanScalar (cs : List Char) : Except BuiltinError (Value × List Char) :=
  match jsonWords.find? fun word => word.1.isPrefixOf cs with
  | some (word, v) => .ok (v, cs.drop word.length)
  | none =>
    if cs.head? = some '"' then
      match scanString cs.tail with
      | some (codes, rest) => .ok (.str (String.ofList (joinSurrogates codes)), rest)
      | none => .error .valueError
    else
      match scanNumeral cs with
      | some (n, rest) => do
        let v ← n.parse limit floatRepr
        return (v, rest)
      | none => .error .valueError

/-- The elements of an array, the first of which is there; every element takes a character of the fuel. -/
def scanElements (scan : List Char → Except BuiltinError (Value × List Char)) :
    ℕ → List Char → Except BuiltinError (List Value × List Char)
  | 0, _ => .error .valueError
  | fuel + 1, cs => do
    let (v, rest) ← scan cs
    match skipSpace rest with
    | ']' :: rest => return ([v], rest)
    | ',' :: rest =>
      let (vs, rest) ← scanElements scan fuel (skipSpace rest)
      return (v :: vs, rest)
    | _ => throw .valueError

/-- The members of an object, likewise. -/
def scanMembers (scan : List Char → Except BuiltinError (Value × List Char)) :
    ℕ → List Char → Except BuiltinError (List (String × Value) × List Char)
  | 0, _ => .error .valueError
  | fuel + 1, cs => do
    let some (codes, rest) := if cs.head? = some '"' then scanString cs.tail else none
      | throw .valueError
    let ':' :: rest := skipSpace rest
      | throw .valueError
    let (v, rest) ← scan (skipSpace rest)
    let field := (String.ofList (joinSurrogates codes), v)
    match skipSpace rest with
    | '}' :: rest => return ([field], rest)
    | ',' :: rest =>
      let (fields, rest) ← scanMembers scan fuel (skipSpace rest)
      return (field :: fields, rest)
    | _ => throw .valueError

/-- `scan_once`; `depth` is the number of containers that may still be opened. -/
def scanOnce : ℕ → List Char → Except BuiltinError (Value × List Char)
  | 0, cs => if cs.head? = some '[' || cs.head? = some '{' then .error .recursionError else scanScalar limit floatRepr cs
  | depth + 1, cs =>
    if cs.head? = some '[' then
      match skipSpace cs.tail with
      | ']' :: rest => .ok (.list [], rest)
      | start => do
        let (vs, rest) ← scanElements (scanOnce depth) start.length start
        return (.list vs, rest)
    else if cs.head? = some '{' then
      match skipSpace cs.tail with
      | '}' :: rest => .ok (.dict [], rest)
      | start => do
        let (fields, rest) ← scanMembers (scanOnce depth) start.length start
        return (.dict (fields.foldl (fun kvs field => Value.setItem field.1 field.2 kvs) []), rest)
    else scanScalar limit floatRepr cs

/-- `json.loads(b)` -/
def jsonLoads (depth : ℕ) (bytes : List UInt8) : Except BuiltinError Value :=
  match decodeJsonBytes (bytes.map UInt8.toNat) with
  | none => .error .valueError
  | some text => do
    let (v, rest) ← scanOnce limit floatRepr depth (skipSpace text)
    if skipSpace rest = [] then return v else throw .valueError

/-- `int(v)` -/
def intOf : Value → Except BuiltinError ℤ
  | .str s => readInt limit s
  | v => v.toInt

/-! ### The texts of strings -/

/-- What stands between the quotes of a string, and its code points. -/
inductive StringBody : List Char → List ℕ → Prop where
  | nil : StringBody [] []
  | plain {c : Char} {cs : List Char} {codes : List ℕ} (hquote : c ≠ '"') (hback : c ≠ '\\') (hcontrol : 32 ≤ c.toNat)
      (h : StringBody cs codes) : StringBody (c :: cs) (c.toNat :: codes)
  | short {e c : Char} {cs : List Char} {codes : List ℕ} (he : shortEscapes.lookup e = some c)
      (h : StringBody cs codes) : StringBody ('\\' :: e :: cs) (c.toNat :: codes)
  | quad {a b c d : Char} {n : ℕ} {cs : List Char} {codes : List ℕ} (hn : hexQuad a b c d = some n)
      (h : StringBody cs codes) : StringBody ('\\' :: 'u' :: a :: b :: c :: d :: cs) (n :: codes)

section Strings

variable {cs rest body : List Char} {codes : List ℕ}

lemma scanString_plain {c : Char} (hquote : c ≠ '"') (hback : c ≠ '\\') (hcontrol : 32 ≤ c.toNat)
    (h : scanString cs = some (codes, rest)) : scanString (c :: cs) = some (c.toNat :: codes, rest) := by
  have hlow : ¬c.toNat < 32 := by omega
  unfold scanString
  split
  · rename_i heq
    cases heq
  · rename_i heq
    exact absurd (List.head_eq_of_cons_eq heq) hquote
  · rename_i heq
    exact absurd (List.head_eq_of_cons_eq heq) hback
  · rename_i heq
    exact absurd (List.head_eq_of_cons_eq heq) hback
  · rename_i heq
    cases heq
    rw [h]
    simp [hback, hlow]

/-- **A string is scanned.** -/
lemma scanString_of_body (h : StringBody body codes) : scanString (body ++ '"' :: rest) = some (codes, rest) := by
  induction h with
  | nil => rw [List.nil_append, scanString]
  | plain hquote hback hcontrol _ ih => exact scanString_plain hquote hback hcontrol ih
  | @short e c cs codes he _ ih =>
    have hu : e ≠ 'u' := by
      rintro rfl
      cases he
    rw [List.cons_append, List.cons_append, scanString, he, ih]
    · rfl
    · intro _ _ _ _ _ heq
      exact absurd heq hu
  | quad hn _ ih =>
    simp only [List.cons_append]
    rw [scanString, hn, ih]
    rfl

/-- And what is scanned is a string. -/
lemma exists_body (h : scanString cs = some (codes, rest)) : ∃ body, cs = body ++ '"' :: rest ∧ StringBody body codes := by
  fun_induction scanString cs generalizing codes with
  | case1 => cases h
  | case2 cs =>
    cases h
    exact ⟨[], rfl, .nil⟩
  | case3 a b c d cs ih =>
    obtain ⟨n, hn, h⟩ := Option.bind_eq_some_iff.1 h
    obtain ⟨⟨later, rest'⟩, hlater, h⟩ := Option.bind_eq_some_iff.1 h
    cases h
    obtain ⟨body, rfl, hbody⟩ := ih hlater
    exact ⟨_, rfl, .quad hn hbody⟩
  | case4 e cs hu ih =>
    obtain ⟨c, hc, h⟩ := Option.bind_eq_some_iff.1 h
    obtain ⟨⟨later, rest'⟩, hlater, h⟩ := Option.bind_eq_some_iff.1 h
    cases h
    obtain ⟨body, rfl, hbody⟩ := ih hlater
    exact ⟨_, rfl, .short hc hbody⟩
  | case5 c cs _ _ _ hbad => cases h
  | case6 c cs hquote hquad hshort hgood ih =>
    obtain ⟨⟨later, rest'⟩, hlater, h⟩ := Option.bind_eq_some_iff.1 h
    cases h
    obtain ⟨body, rfl, hbody⟩ := ih hlater
    simp only [Bool.or_eq_true, decide_eq_true_eq, not_or, not_lt] at hgood
    exact ⟨_, rfl, .plain hquote hgood.1 hgood.2 hbody⟩

end Strings

/-! ### The texts of numbers -/

namespace Numeral

def text (n : Numeral) : List Char :=
  (if n.negative then ['-'] else []) ++ (n.digits ++ ((n.fraction.elim [] ('.' :: ·)) ++
    n.exponent.elim [] fun e => e.1 :: (e.2.1.toList ++ e.2.2)))

/-- Digits, of which there are some. -/
def IsDigits (ds : List Char) : Prop := ds ≠ [] ∧ ∀ c ∈ ds, c.isDigit = true

/-- The number is written as the grammar of JSON says. -/
structure Wellformed (n : Numeral) : Prop where
  digits : n.digits = ['0'] ∨ IsDigits n.digits ∧ n.digits.head? ≠ some '0'
  fraction : ∀ ds ∈ n.fraction, IsDigits ds
  exponent : ∀ e ∈ n.exponent, (e.1 = 'e' ∨ e.1 = 'E') ∧ (∀ sign ∈ e.2.1, sign = '+' ∨ sign = '-') ∧ IsDigits e.2.2

end Numeral

section Numbers

variable {cs rest ds : List Char} {n : Numeral} {c : Char}

/-- A number ends where no digit follows. -/
def NoDigit (cs : List Char) : Prop := ∀ c ∈ cs.head?, c.isDigit = false

lemma scanDigits_append (hds : ∀ c ∈ ds, c.isDigit = true) (hrest : NoDigit rest) :
    scanDigits (ds ++ rest) = (ds, rest) := by
  have hstop : rest.takeWhile Char.isDigit = [] ∧ rest.dropWhile Char.isDigit = rest := by
    cases rest with
    | nil => exact ⟨rfl, rfl⟩
    | cons c rest =>
      have hc : ¬c.isDigit = true := by
        rw [hrest c rfl]
        decide
      exact ⟨List.takeWhile_cons_of_neg hc, List.dropWhile_cons_of_neg hc⟩
  unfold scanDigits
  rw [List.takeWhile_append_of_pos hds, List.dropWhile_append_of_pos hds, hstop.1, hstop.2, List.append_nil]

lemma scanDigits_spec (cs : List Char) : cs = (scanDigits cs).1 ++ (scanDigits cs).2 ∧
    (∀ c ∈ (scanDigits cs).1, c.isDigit = true) ∧ NoDigit (scanDigits cs).2 := by
  refine ⟨(List.takeWhile_append_dropWhile ..).symm, fun c hc => List.mem_takeWhile_imp hc, fun c hc => ?_⟩
  have hnot := List.head?_dropWhile_not Char.isDigit cs
  change (cs.dropWhile Char.isDigit).head? = some c at hc
  rw [hc] at hnot
  exact hnot

lemma scanInteger_append (h : ds = ['0'] ∨ Numeral.IsDigits ds ∧ ds.head? ≠ some '0') (hrest : NoDigit rest) :
    scanInteger (ds ++ rest) = some (ds, rest) := by
  rcases h with rfl | ⟨⟨hne, hall⟩, hhead⟩
  · rfl
  · obtain ⟨c, cs, rfl⟩ := List.exists_cons_of_ne_nil hne
    have hzero : c ≠ '0' := fun heq => hhead (by rw [heq]; rfl)
    have hscan := scanDigits_append hall hrest
    rw [List.cons_append] at hscan ⊢
    unfold scanInteger
    split
    · rename_i heq
      exact absurd (List.head_eq_of_cons_eq heq) hzero
    · rename_i heq
      cases heq
      rw [if_pos (hall c List.mem_cons_self), hscan]
    · rename_i heq
      cases heq

lemma scanInteger_eq_some (h : scanInteger cs = some (ds, rest)) :
    cs = ds ++ rest ∧ (ds = ['0'] ∨ Numeral.IsDigits ds ∧ ds.head? ≠ some '0') := by
  unfold scanInteger at h
  split at h
  · cases h
    exact ⟨rfl, .inl rfl⟩
  · rename_i c cs hzero
    split at h
    · rename_i hc
      obtain ⟨hsplit, hall, -⟩ := scanDigits_spec (c :: cs)
      have hfirst : (scanDigits (c :: cs)).1 = c :: (scanDigits cs).1 := List.takeWhile_cons_of_pos hc
      rw [Option.some.inj h] at hsplit hall hfirst
      dsimp only at hfirst
      refine ⟨hsplit, .inr ⟨⟨?_, hall⟩, ?_⟩⟩
      · rw [hfirst]
        exact List.cons_ne_nil _ _
      · rw [hfirst]
        intro hhead
        exact hzero (Option.some.inj hhead)
    · cases h
  · cases h

lemma scanFraction_spec (cs : List Char) : cs = (scanFraction cs).1.elim [] ('.' :: ·) ++ (scanFraction cs).2 ∧
    ∀ ds ∈ (scanFraction cs).1, Numeral.IsDigits ds := by
  unfold scanFraction
  split
  · rename_i rest
    split
    · exact ⟨rfl, nofun⟩
    · rename_i hne
      obtain ⟨hsplit, hall, -⟩ := scanDigits_spec rest
      refine ⟨congrArg ('.' :: ·) hsplit, ?_⟩
      rintro ds hds
      obtain rfl := Option.some.inj hds
      exact ⟨hne, hall⟩
  · exact ⟨rfl, nofun⟩

lemma scanFraction_append {fraction : Option (List Char)} (h : ∀ ds ∈ fraction, Numeral.IsDigits ds)
    (hdigit : NoDigit rest) (hpoint : rest.head? ≠ some '.') :
    scanFraction (fraction.elim [] ('.' :: ·) ++ rest) = (fraction, rest) := by
  cases fraction with
  | none =>
    rw [Option.elim_none, List.nil_append]
    unfold scanFraction
    split
    · exact absurd rfl hpoint
    · rfl
  | some ds =>
    obtain ⟨hne, hall⟩ := h ds rfl
    have hscan : scanFraction ('.' :: (ds ++ rest)) = (some (scanDigits (ds ++ rest)).1, (scanDigits (ds ++ rest)).2) :=
      if_neg (by rwa [scanDigits_append hall hdigit])
    rw [Option.elim_some, List.cons_append, hscan, scanDigits_append hall hdigit]

lemma scanSign_append {sign : Option Char} (h : ∀ s ∈ sign, s = '+' ∨ s = '-') (hds : Numeral.IsDigits ds) :
    scanSign (sign.toList ++ (ds ++ rest)) = (sign, ds ++ rest) := by
  cases sign with
  | none =>
    obtain ⟨hne, hall⟩ := hds
    obtain ⟨c, cs, rfl⟩ := List.exists_cons_of_ne_nil hne
    have hc : ¬((c = '+' || c = '-') = true) := by
      intro hsign
      have hdigit := hall c List.mem_cons_self
      rw [Bool.or_eq_true, decide_eq_true_eq, decide_eq_true_eq] at hsign
      rcases hsign with rfl | rfl <;> cases hdigit
    exact if_neg hc
  | some s =>
    have hs : (s = '+' || s = '-') = true := by simpa using h s rfl
    exact if_pos hs

lemma scanSign_spec (cs : List Char) : cs = (scanSign cs).1.toList ++ (scanSign cs).2 ∧
    ∀ s ∈ (scanSign cs).1, s = '+' ∨ s = '-' := by
  unfold scanSign
  split
  · split
    · rename_i hs
      refine ⟨rfl, ?_⟩
      rintro s hs'
      obtain rfl := Option.some.inj hs'
      simpa using hs
    · exact ⟨rfl, nofun⟩
  · exact ⟨rfl, nofun⟩

lemma scanExponent_spec (cs : List Char) :
    cs = ((scanExponent cs).1.elim [] fun e => e.1 :: (e.2.1.toList ++ e.2.2)) ++ (scanExponent cs).2 ∧
      ∀ e ∈ (scanExponent cs).1,
        (e.1 = 'e' ∨ e.1 = 'E') ∧ (∀ sign ∈ e.2.1, sign = '+' ∨ sign = '-') ∧ Numeral.IsDigits e.2.2 := by
  unfold scanExponent
  split
  · rename_i c rest
    split
    · rename_i hletter
      obtain ⟨hsign, hsigns⟩ := scanSign_spec rest
      obtain ⟨hsplit, hall, -⟩ := scanDigits_spec (scanSign rest).2
      dsimp only
      split
      · exact ⟨rfl, nofun⟩
      · rename_i hne
        constructor
        · rw [Option.elim_some, List.cons_append, List.append_assoc, ← hsplit, ← hsign]
        · rintro e he
          obtain rfl := Option.some.inj he
          exact ⟨by simpa using hletter, hsigns, hne, hall⟩
    · exact ⟨rfl, nofun⟩
  · exact ⟨rfl, nofun⟩

lemma scanExponent_append {exponent : Option (Char × Option Char × List Char)}
    (h : ∀ e ∈ exponent, (e.1 = 'e' ∨ e.1 = 'E') ∧ (∀ sign ∈ e.2.1, sign = '+' ∨ sign = '-') ∧ Numeral.IsDigits e.2.2)
    (hdigit : NoDigit rest) (hletter : rest.head? ≠ some 'e' ∧ rest.head? ≠ some 'E') :
    scanExponent ((exponent.elim [] fun e => e.1 :: (e.2.1.toList ++ e.2.2)) ++ rest) = (exponent, rest) := by
  cases exponent with
  | none =>
    rw [Option.elim_none, List.nil_append]
    unfold scanExponent
    split
    · rename_i c rest
      rw [if_neg]
      intro hc
      simp only [Bool.or_eq_true, decide_eq_true_eq] at hc
      rcases hc with rfl | rfl
      · exact hletter.1 rfl
      · exact hletter.2 rfl
    · rfl
  | some e =>
    obtain ⟨c, sign, ds⟩ := e
    obtain ⟨hc, hsign, hds⟩ := h _ rfl
    have hc' : (c = 'e' || c = 'E') = true := by simpa using hc
    have hscan : scanExponent (c :: (sign.toList ++ (ds ++ rest))) =
        if (scanDigits (scanSign (sign.toList ++ (ds ++ rest))).2).1 = [] then (none, c :: (sign.toList ++ (ds ++ rest)))
        else (some (c, (scanSign (sign.toList ++ (ds ++ rest))).1, (scanDigits (scanSign (sign.toList ++ (ds ++ rest))).2).1),
          (scanDigits (scanSign (sign.toList ++ (ds ++ rest))).2).2) := if_pos hc'
    rw [Option.elim_some, List.cons_append, List.append_assoc, hscan, scanSign_append hsign hds]
    dsimp only
    rw [scanDigits_append hds.2 hdigit, if_neg hds.1]

/-- **A number is scanned**, if what follows does not go on with it. -/
theorem scanNumeral_text (h : n.Wellformed) (hrest : ∀ c ∈ rest.head?, c.isDigit = false ∧ c ≠ '.' ∧ c ≠ 'e' ∧ c ≠ 'E') :
    scanNumeral (n.text ++ rest) = some (n, rest) := by
  obtain ⟨negative, digits, fraction, exponent⟩ := n
  obtain ⟨hdigits, hfraction, hexponent⟩ := h
  dsimp only at hdigits hfraction hexponent
  obtain ⟨exponentText, hexponentText⟩ : ∃ cs, cs =
      (exponent.elim [] fun e => e.1 :: (e.2.1.toList ++ e.2.2)) ++ rest := ⟨_, rfl⟩
  obtain ⟨fractionText, hfractionText⟩ : ∃ cs, cs = fraction.elim [] ('.' :: ·) ++ exponentText := ⟨_, rfl⟩
  -- the parts end where the next one begins
  have hexponentHead : ∀ c ∈ exponentText.head?, c.isDigit = false ∧ c ≠ '.' := by
    intro c hc
    rw [hexponentText] at hc
    cases exponent with
    | none => exact ⟨(hrest c hc).1, (hrest c hc).2.1⟩
    | some e =>
      obtain rfl : e.1 = c := Option.some.inj hc
      rcases (hexponent e rfl).1 with he | he <;> rw [he] <;> decide
  have hfractionHead : NoDigit fractionText := by
    intro c hc
    rw [hfractionText] at hc
    cases fraction with
    | none => exact (hexponentHead c hc).1
    | some ds =>
      obtain rfl : '.' = c := Option.some.inj hc
      rfl
  have hinteger : scanInteger (digits ++ fractionText) = some (digits, fractionText) :=
    scanInteger_append hdigits hfractionHead
  have hscanFraction : scanFraction fractionText = (fraction, exponentText) := by
    rw [hfractionText]
    exact scanFraction_append hfraction (fun c hc => (hexponentHead c hc).1) fun hpoint => (hexponentHead '.' hpoint).2 rfl
  have hscanExponent : scanExponent exponentText = (exponent, rest) := by
    rw [hexponentText]
    exact scanExponent_append hexponent (fun c hc => (hrest c hc).1)
      ⟨fun he => (hrest 'e' he).2.2.1 rfl, fun he => (hrest 'E' he).2.2.2 rfl⟩
  have htext : Numeral.text { negative := negative, digits := digits, fraction := fraction, exponent := exponent } ++ rest =
      (if negative then ['-'] else []) ++ (digits ++ fractionText) := by
    rw [hfractionText, hexponentText]
    unfold Numeral.text
    simp only [List.append_assoc]
  have hsign : (digits ++ fractionText).head? ≠ some '-' := by
    rcases hdigits with rfl | ⟨⟨hne, hall⟩, -⟩
    · exact nofun
    · obtain ⟨c, cs, rfl⟩ := List.exists_cons_of_ne_nil hne
      intro hhead
      obtain rfl : c = '-' := Option.some.inj hhead
      cases hall '-' List.mem_cons_self
  obtain ⟨signed, hsigned⟩ : ∃ cs, cs = (if negative then ['-'] else []) ++ (digits ++ fractionText) := ⟨_, rfl⟩
  have hcut : decide (signed.head? = some '-') = negative ∧
      (if signed.head? = some '-' then signed.tail else signed) = digits ++ fractionText := by
    rw [hsigned]
    cases negative with
    | true => exact ⟨rfl, rfl⟩
    | false => exact ⟨decide_eq_false hsign, if_neg hsign⟩
  unfold scanNumeral
  dsimp only
  rw [htext, ← hsigned, hcut.1, hcut.2, hinteger]
  dsimp only [bind, Option.bind]
  rw [hscanFraction]
  dsimp only
  rw [hscanExponent]
  rfl

/-- And what is scanned is a number. -/
theorem scanNumeral_eq_some (h : scanNumeral cs = some (n, rest)) : cs = n.text ++ rest ∧ n.Wellformed := by
  unfold scanNumeral at h
  obtain ⟨⟨digits, afterDigits⟩, hinteger, h⟩ := Option.bind_eq_some_iff.1 h
  dsimp only at h
  cases h
  obtain ⟨hsplit, hdigits⟩ := scanInteger_eq_some hinteger
  obtain ⟨hfractionText, hfraction⟩ := scanFraction_spec afterDigits
  obtain ⟨hexponentText, hexponent⟩ := scanExponent_spec (scanFraction afterDigits).2
  refine ⟨?_, hdigits, hfraction, hexponent⟩
  have hbody : (if cs.head? = some '-' then cs.tail else cs) = digits ++
      ((scanFraction afterDigits).1.elim [] ('.' :: ·) ++
        (((scanExponent (scanFraction afterDigits).2).1.elim [] fun e => e.1 :: (e.2.1.toList ++ e.2.2)) ++
          (scanExponent (scanFraction afterDigits).2).2)) := by
    rw [← hexponentText, ← hfractionText]
    simpa using hsplit
  unfold Numeral.text
  dsimp only
  rw [List.append_assoc, List.append_assoc, List.append_assoc, ← hbody]
  by_cases hneg : cs.head? = some '-'
  · obtain ⟨later, rfl⟩ := List.head?_eq_some_iff.1 hneg
    simp
  · simp [hneg]

end Numbers

/-! ### The texts of integers for `int` -/

/-- A text of which `int(json.loads(text))` makes an integer, but for the white space. -/
inductive IsIntText (limit : Option ℕ) : List Char → Prop where
  | bool (b : Bool) : IsIntText limit (if b then "true".toList else "false".toList)
  | integer (n : Numeral) (h : n.Wellformed) (hinteger : n.IsInteger) (hlimit : ∀ most ∈ limit, n.digits.length ≤ most) :
    IsIntText limit n.text
  | float (n : Numeral) (h : n.Wellformed) (hfloat : ¬n.IsInteger) (hbound : |n.value| < floatBound) :
    IsIntText limit n.text
  | string {body : List Char} {codes : List ℕ} (h : StringBody body codes)
      (hint : IsIntLiteral limit (String.ofList (joinSurrogates codes))) : IsIntText limit ('"' :: (body ++ ['"']))

section Scalars

variable {limit : Option ℕ} {floatRepr : Numeral → String} {cs rest core : List Char} {n : Numeral} {v : Value} {k : ℤ}

lemma exists_toInt_toFloat (repr : String) (q : ℚ) : (∃ k, (Value.float (toFloat repr q)).toInt = .ok k) ↔ |q| < floatBound := by
  unfold toFloat
  rw [abs_lt]
  split
  · rename_i hbig
    exact iff_of_false nofun fun h => absurd h.2 (not_lt.2 hbig)
  · split
    · rename_i hsmall
      exact iff_of_false nofun fun h => absurd h.1 (not_lt.2 hsmall)
    · rename_i hbig hsmall
      exact iff_of_true ⟨_, rfl⟩ ⟨not_le.1 hsmall, not_le.1 hbig⟩

/-- **Which numbers are made integers.** -/
lemma Numeral.exists_parse (floatRepr : Numeral → String) (n : Numeral) :
    (∃ v k, n.parse limit floatRepr = .ok v ∧ intOf limit v = .ok k) ↔
      (n.IsInteger ∧ ∀ most ∈ limit, n.digits.length ≤ most) ∨ (¬n.IsInteger ∧ |n.value| < floatBound) := by
  unfold Numeral.parse
  by_cases hinteger : n.IsInteger
  · have hlimit : (limit.all fun most => n.digits.length ≤ most) = true ↔ ∀ most ∈ limit, n.digits.length ≤ most := by
      cases limit <;> simp
    rw [if_pos hinteger, ← hlimit]
    by_cases hall : (limit.all fun most => n.digits.length ≤ most) = true
    · rw [if_pos hall]
      exact iff_of_true ⟨_, _, rfl, rfl⟩ (.inl ⟨hinteger, hall⟩)
    · rw [if_neg hall]
      refine iff_of_false ?_ ?_
      · rintro ⟨v, k, hv, -⟩
        cases hv
      · rintro (⟨-, h⟩ | ⟨h, -⟩)
        · exact hall h
        · exact h hinteger
  · rw [if_neg hinteger, ← exists_toInt_toFloat (floatRepr n)]
    constructor
    · rintro ⟨v, k, hv, hk⟩
      obtain rfl := Except.ok.inj hv
      exact .inr ⟨hinteger, k, hk⟩
    · rintro (⟨h, -⟩ | ⟨-, k, hk⟩)
      · exact absurd h hinteger
      · exact ⟨_, k, rfl, hk⟩

/-- No word begins with a digit, or with a sign and a digit. -/
lemma find?_words {c : Char} (hc : c.isDigit = true) (sign : Bool) :
    (jsonWords.find? fun word => word.1.isPrefixOf ((if sign then ['-'] else []) ++ c :: cs)) = none := by
  have hwords : (jsonWords.all fun word => word.1.head?.any (fun a => !a.isDigit) && word.1.tail.head?.any fun a => !a.isDigit) =
      true := by decide
  refine List.find?_eq_none.2 fun word hword hprefix => ?_
  have hheads := List.all_eq_true.1 hwords word hword
  obtain ⟨letters, v⟩ := word
  obtain ⟨later, hlater⟩ := List.isPrefixOf_iff_prefix.1 hprefix
  dsimp only at hheads hlater
  match letters with
  | [] => cases hheads
  | [a] => simp at hheads
  | a :: b :: letters =>
    simp only [List.head?_cons, List.tail_cons, Option.any_some, Bool.and_eq_true, Bool.not_eq_true'] at hheads
    cases sign with
    | false =>
      obtain rfl : a = c := List.head_eq_of_cons_eq hlater
      rw [hc] at hheads
      cases hheads.1
    | true =>
      obtain rfl : b = c := List.head_eq_of_cons_eq (List.tail_eq_of_cons_eq hlater)
      rw [hc] at hheads
      cases hheads.2

lemma Numeral.Wellformed.exists_digit (h : n.Wellformed) :
    ∃ c later, n.text = (if n.negative then ['-'] else []) ++ c :: later ∧ c.isDigit = true := by
  have hne : ∃ c later, n.digits = c :: later ∧ c.isDigit = true := by
    rcases h.digits with hzero | ⟨⟨hne, hall⟩, -⟩
    · exact ⟨'0', [], hzero, rfl⟩
    · obtain ⟨c, later, hdigits⟩ := List.exists_cons_of_ne_nil hne
      exact ⟨c, later, hdigits, hall c (by rw [hdigits]; exact List.mem_cons_self)⟩
  obtain ⟨c, later, hdigits, hc⟩ := hne
  refine ⟨c, later ++ ((n.fraction.elim [] ('.' :: ·)) ++ n.exponent.elim [] fun e => e.1 :: (e.2.1.toList ++ e.2.2)), ?_,
    hc⟩
  unfold Numeral.text
  rw [hdigits]
  rfl

lemma scanScalar_text (h : n.Wellformed) (hrest : ∀ c ∈ rest.head?, isJsonSpace c = true) :
    scanScalar limit floatRepr (n.text ++ rest) = (n.parse limit floatRepr).map fun v => (v, rest) := by
  obtain ⟨c, later, htext, hc⟩ := h.exists_digit
  have hwords : (jsonWords.find? fun word => word.1.isPrefixOf (n.text ++ rest)) = none := by
    rw [htext, List.append_assoc]
    exact find?_words hc n.negative
  have hquote : (n.text ++ rest).head? ≠ some '"' := by
    rw [htext]
    cases n.negative with
    | true => exact nofun
    | false =>
      intro hhead
      obtain rfl : c = '"' := Option.some.inj hhead
      cases hc
  have hends : ∀ c ∈ rest.head?, c.isDigit = false ∧ c ≠ '.' ∧ c ≠ 'e' ∧ c ≠ 'E' := by
    intro c hc
    have hspace := hrest c hc
    unfold isJsonSpace at hspace
    simp only [Bool.or_eq_true, beq_iff_eq] at hspace
    rcases hspace with ((rfl | rfl) | rfl) | rfl <;> decide
  unfold scanScalar
  rw [hwords]
  dsimp only
  rw [if_neg hquote, scanNumeral_text h hends]
  show (n.parse limit floatRepr >>= fun v => pure (v, rest)) = _
  cases n.parse limit floatRepr <;> rfl

/-- **Such a text is scanned.** -/
lemma IsIntText.scan (h : IsIntText limit core) (hrest : ∀ c ∈ rest.head?, isJsonSpace c = true) :
    ∃ v k, scanScalar limit floatRepr (core ++ rest) = .ok (v, rest) ∧ intOf limit v = .ok k := by
  cases h with
  | bool b =>
    cases b with
    | true => exact ⟨.bool true, 1, rfl, rfl⟩
    | false => exact ⟨.bool false, 0, rfl, rfl⟩
  | integer n h hinteger hlimit =>
    obtain ⟨v, k, hv, hk⟩ := (n.exists_parse floatRepr).2 (.inl ⟨hinteger, hlimit⟩)
    refine ⟨v, k, ?_, hk⟩
    rw [scanScalar_text h hrest, hv]
    rfl
  | float n h hfloat hbound =>
    obtain ⟨v, k, hv, hk⟩ := (n.exists_parse floatRepr).2 (.inr ⟨hfloat, hbound⟩)
    refine ⟨v, k, ?_, hk⟩
    rw [scanScalar_text h hrest, hv]
    rfl
  | @string body codes h hint =>
    obtain ⟨k, hk⟩ := (exists_readInt_iff limit _).2 hint
    refine ⟨.str (String.ofList (joinSurrogates codes)), k, ?_, hk⟩
    have hscan : scanString (body ++ '"' :: rest) = some (codes, rest) := scanString_of_body h
    have htext : '"' :: (body ++ ['"']) ++ rest = '"' :: (body ++ '"' :: rest) := by simp
    rw [htext]
    show (match scanString (body ++ '"' :: rest) with
      | some (codes, rest) => Except.ok (Value.str (String.ofList (joinSurrogates codes)), rest)
      | none => .error BuiltinError.valueError) = _
    rw [hscan]

/-- And it is all that is made an integer. -/
lemma exists_isIntText (hscan : scanScalar limit floatRepr cs = .ok (v, rest)) (hk : intOf limit v = .ok k) :
    ∃ core, cs = core ++ rest ∧ IsIntText limit core := by
  unfold scanScalar at hscan
  split at hscan
  · rename_i word v' hfind
    cases hscan
    have hprefix := List.find?_some hfind
    obtain ⟨later, hlater⟩ := List.isPrefixOf_iff_prefix.1 hprefix
    have hmem := List.mem_of_find?_eq_some hfind
    refine ⟨word, ?_, ?_⟩
    · rw [← hlater, List.drop_left]
    · simp only [jsonWords, List.mem_cons, Prod.mk.injEq, List.not_mem_nil, or_false] at hmem
      rcases hmem with ⟨-, rfl⟩ | ⟨rfl, -⟩ | ⟨rfl, -⟩ | ⟨-, rfl⟩ | ⟨-, rfl⟩ | ⟨-, rfl⟩
      · cases hk
      · exact .bool true
      · exact .bool false
      · cases hk
      · cases hk
      · cases hk
  · split at hscan
    · rename_i hquote
      obtain ⟨later, rfl⟩ := List.head?_eq_some_iff.1 hquote
      split at hscan
      · rename_i codes rest' hstring
        cases hscan
        obtain ⟨body, hbody, h⟩ := exists_body hstring
        rw [List.tail_cons] at hbody
        refine ⟨'"' :: (body ++ ['"']), by simp [hbody], .string h ((exists_readInt_iff limit _).1 ⟨k, hk⟩)⟩
      · cases hscan
    · split at hscan
      · rename_i n rest' hnumeral
        obtain ⟨v', hv, hscan⟩ := bind_eq_ok.1 hscan
        cases hscan
        obtain ⟨hsplit, h⟩ := scanNumeral_eq_some hnumeral
        refine ⟨n.text, hsplit, ?_⟩
        rcases (n.exists_parse floatRepr).1 ⟨v, k, hv, hk⟩ with ⟨hinteger, hlimit⟩ | ⟨hfloat, hbound⟩
        · exact .integer n h hinteger hlimit
        · exact .float n h hfloat hbound
      · cases hscan

end Scalars

/-- The bytes encode such a text, with white space around it. -/
def IsIntJson (limit : Option ℕ) (bytes : List UInt8) : Prop :=
  ∃ text, decodeJsonBytes (bytes.map UInt8.toNat) = some text ∧ ∃ front core back, text = front ++ (core ++ back) ∧
    (∀ c ∈ front, isJsonSpace c = true) ∧ (∀ c ∈ back, isJsonSpace c = true) ∧ IsIntText limit core

section Loads

variable {limit : Option ℕ} {floatRepr : Numeral → String} {depth : ℕ} {cs rest core : List Char} {v : Value}
  {bytes : List UInt8}

/-- A container is no number for `int`. -/
lemma scanOnce_cases (h : scanOnce limit floatRepr depth cs = .ok (v, rest)) :
    (∀ k, intOf limit v ≠ .ok k) ∨ scanScalar limit floatRepr cs = .ok (v, rest) := by
  cases depth with
  | zero =>
    unfold scanOnce at h
    split at h
    · cases h
    · exact .inr h
  | succ depth =>
    unfold scanOnce at h
    split at h
    · split at h
      · cases h
        exact .inl nofun
      · obtain ⟨⟨vs, rest'⟩, -, h⟩ := bind_eq_ok.1 h
        cases h
        exact .inl nofun
    · split at h
      · split at h
        · cases h
          exact .inl nofun
        · obtain ⟨⟨fields, rest'⟩, -, h⟩ := bind_eq_ok.1 h
          cases h
          exact .inl nofun
      · exact .inr h

lemma scanOnce_scalar (hlist : cs.head? ≠ some '[') (hdict : cs.head? ≠ some '{') :
    scanOnce limit floatRepr depth cs = scanScalar limit floatRepr cs := by
  cases depth with
  | zero =>
    unfold scanOnce
    rw [if_neg]
    simp [hlist, hdict]
  | succ depth =>
    unfold scanOnce
    rw [if_neg hlist, if_neg hdict]

/-- How such a text begins. -/
lemma IsIntText.exists_head (h : IsIntText limit core) :
    ∃ c later, core = c :: later ∧ isJsonSpace c = false ∧ c ≠ '[' ∧ c ≠ '{' := by
  have hnumeral : ∀ n : Numeral, n.Wellformed →
      ∃ c later, n.text = c :: later ∧ isJsonSpace c = false ∧ c ≠ '[' ∧ c ≠ '{' := by
    intro n hn
    obtain ⟨c, later, htext, hc⟩ := hn.exists_digit
    rw [htext]
    cases n.negative with
    | true => exact ⟨'-', c :: later, rfl, by decide⟩
    | false =>
      have hne : ∀ d : Char, d.isDigit = false → c ≠ d := by
        rintro d hd rfl
        rw [hc] at hd
        cases hd
      refine ⟨c, later, rfl, ?_, hne _ (by decide), hne _ (by decide)⟩
      unfold isJsonSpace
      simp only [Bool.or_eq_false_iff, beq_eq_false_iff_ne]
      exact ⟨⟨⟨hne _ (by decide), hne _ (by decide)⟩, hne _ (by decide)⟩, hne _ (by decide)⟩
  cases h with
  | bool b =>
    cases b with
    | true => exact ⟨'t', _, rfl, by decide⟩
    | false => exact ⟨'f', _, rfl, by decide⟩
  | integer n h => exact hnumeral n h
  | float n h => exact hnumeral n h
  | string => exact ⟨'"', _, rfl, by decide⟩

/-- **Which bytes are those of an integer.** -/
theorem intOf_jsonLoads_iff (limit : Option ℕ) (floatRepr : Numeral → String) (depth : ℕ) (bytes : List UInt8) :
    (∃ v k, jsonLoads limit floatRepr depth bytes = .ok v ∧ intOf limit v = .ok k) ↔ IsIntJson limit bytes := by
  unfold jsonLoads IsIntJson
  cases decodeJsonBytes (bytes.map UInt8.toNat) with
  | none => exact iff_of_false (by rintro ⟨v, k, h, -⟩; cases h) (by rintro ⟨text, h, -⟩; cases h)
  | some text =>
    dsimp only
    constructor
    · rintro ⟨v, k, hload, hk⟩
      obtain ⟨⟨v', rest⟩, hscan, hload⟩ := bind_eq_ok.1 hload
      dsimp only at hload
      split at hload
      · rename_i hend
        obtain rfl := Except.ok.inj hload
        rcases scanOnce_cases hscan with hnone | hscalar
        · exact absurd hk (hnone k)
        · obtain ⟨core, hcore, h⟩ := exists_isIntText hscalar hk
          refine ⟨text, rfl, text.takeWhile isJsonSpace, core, rest, ?_, fun c hc => List.mem_takeWhile_imp hc, ?_, h⟩
          · rw [← hcore]
            exact (List.takeWhile_append_dropWhile ..).symm
          · exact List.dropWhile_eq_nil_iff.1 hend
      · cases hload
    · rintro ⟨text', htext, front, core, back, hsplit, hfront, hback, h⟩
      obtain rfl := Option.some.inj htext
      obtain ⟨c, later, hcore, hspace, hlist, hdict⟩ := h.exists_head
      obtain ⟨v, k, hscan, hk⟩ : ∃ v k, scanScalar limit floatRepr (core ++ back) = .ok (v, back) ∧
          intOf limit v = .ok k := h.scan fun c hc => hback c (List.mem_of_mem_head? hc)
      have hskip : skipSpace text = core ++ back := by
        rw [hsplit, hcore]
        refine dropWhile_append hfront ?_
        rintro d hd
        obtain rfl := Option.some.inj hd
        exact hspace
      have honce : scanOnce limit floatRepr depth (skipSpace text) = .ok (v, back) := by
        rw [hskip, scanOnce_scalar, hscan]
        · rw [hcore]
          intro hhead
          exact hlist (Option.some.inj hhead)
        · rw [hcore]
          intro hhead
          exact hdict (Option.some.inj hhead)
      refine ⟨v, k, bind_eq_ok.2 ⟨_, honce, if_pos ?_⟩, hk⟩
      exact List.dropWhile_eq_nil_iff.2 hback

end Loads

/-! ### Integers -/

section Integers

variable {limit : Option ℕ} {floatRepr : Numeral → String} {depth : ℕ}

/-- An integer as it is printed. -/
def Numeral.ofInt (n : ℤ) : Numeral where
  negative := decide (n < 0)
  digits := Nat.toDigits 10 n.natAbs
  fraction := none
  exponent := none

lemma head?_toDigits {n : ℕ} (h : 0 < n) : (Nat.toDigits 10 n).head? ≠ some '0' := by
  induction n using Nat.strong_induction_on with
  | _ n ih =>
    rw [Nat.toDigits_eq_if (by decide)]
    split
    · simp [h.ne']
    · rw [List.head?_append_of_ne_nil _ Nat.toDigits_ne_nil]
      exact ih (n / 10) (by omega) (by omega)

lemma Numeral.wellformed_ofInt (n : ℤ) : (Numeral.ofInt n).Wellformed where
  digits := by
    rcases Nat.eq_zero_or_pos n.natAbs with hzero | hpos
    · refine .inl ?_
      unfold ofInt
      rw [hzero]
      rfl
    · exact .inr ⟨⟨Nat.toDigits_ne_nil, fun c hc => Nat.isDigit_of_mem_toDigits (by decide) (by decide) hc⟩,
        head?_toDigits hpos⟩
  fraction := nofun
  exponent := nofun

lemma Numeral.text_ofInt (n : ℤ) : (Numeral.ofInt n).text = (toString n).toList := by
  rw [toList_toString_int]
  unfold Numeral.text ofInt
  by_cases hneg : n < 0
  · simp [hneg]
  · simp [hneg]

lemma Numeral.parse_ofInt (limit : Option ℕ) (floatRepr : Numeral → String) (n : ℤ) :
    (Numeral.ofInt n).parse limit floatRepr =
      if limit.all (fun most => (Nat.toDigits 10 n.natAbs).length ≤ most) then .ok (.int n) else .error .valueError := by
  have hvalue : (if decide (n < 0) then -(Nat.ofDigitChars 10 (Nat.toDigits 10 n.natAbs) 0 : ℤ)
      else Nat.ofDigitChars 10 (Nat.toDigits 10 n.natAbs) 0) = n := by
    rw [Nat.ofDigitChars_ten_toDigits]
    by_cases hneg : n < 0
    · rw [if_pos (decide_eq_true hneg)]
      omega
    · rw [decide_eq_false hneg, if_neg Bool.false_ne_true]
      omega
  unfold Numeral.parse Numeral.ofInt
  dsimp only
  rw [if_pos ⟨rfl, rfl⟩, hvalue]

/-- The characters of an integer. -/
lemma plain_of_mem_toString {n : ℤ} {c : Char} (hc : c ∈ (toString n).toList) :
    0 < c.toNat ∧ c.toNat < 0x80 ∧ isJsonSpace c = false := by
  rcases isDigit_of_mem_toString hc with hdigit | rfl
  · have halnum : c.isAlphanum = true := by
      unfold Char.isAlphanum
      rw [hdigit, Bool.or_true]
    have hrange := toNat_of_isAlphanum halnum
    refine ⟨by omega, by omega, ?_⟩
    by_contra hspace
    unfold isJsonSpace at hspace
    simp only [Bool.not_eq_false, Bool.or_eq_true, beq_iff_eq] at hspace
    rcases hspace with ((rfl | rfl) | rfl) | rfl <;> cases hdigit
  · decide

/-- **What is printed for an integer is read**, if it has few enough digits. -/
theorem jsonLoads_toString (limit : Option ℕ) (floatRepr : Numeral → String) (depth : ℕ) (n : ℤ) :
    jsonLoads limit floatRepr depth (toString n).toUTF8.data.toList =
      if limit.all (fun most => (Nat.toDigits 10 n.natAbs).length ≤ most) then .ok (.int n) else .error .valueError := by
  have hbytes : (toString n).toUTF8.data.toList.map UInt8.toNat = (toString n).toList.map Char.toNat :=
    map_toNat_toUTF8 fun c hc => (plain_of_mem_toString hc).2.1
  have hdecode : decodeJsonBytes ((toString n).toList.map Char.toNat) = some (toString n).toList :=
    decodeJsonBytes_ascii fun c hc => ⟨(plain_of_mem_toString hc).1, (plain_of_mem_toString hc).2.1⟩
  have hskip : skipSpace (toString n).toList = (toString n).toList :=
    @dropWhile_append _ [] _ (fun _ hc => absurd hc List.not_mem_nil) fun c hc =>
      (plain_of_mem_toString (List.mem_of_mem_head? hc)).2.2
  have hhead : ∀ d : Char, d.isDigit = false → d ≠ '-' → (toString n).toList.head? ≠ some d := fun d hdigit hminus h =>
    notMem_toString hdigit hminus (List.mem_of_mem_head? h)
  have hscan : scanScalar limit floatRepr (toString n).toList =
      ((Numeral.ofInt n).parse limit floatRepr).map fun v => (v, []) := by
    have hnone : ∀ c ∈ ([] : List Char).head?, isJsonSpace c = true := fun c hc => absurd hc (Option.not_mem_none c)
    rw [← Numeral.text_ofInt, ← scanScalar_text (Numeral.wellformed_ofInt n) hnone, List.append_nil]
  unfold jsonLoads
  rw [hbytes, hdecode]
  dsimp only
  rw [hskip, scanOnce_scalar (hhead '[' rfl (by decide)) (hhead '{' rfl (by decide)), hscan, Numeral.parse_ofInt]
  by_cases hfits : limit.all fun most => (Nat.toDigits 10 n.natAbs).length ≤ most
  · rw [if_pos hfits]
    rfl
  · rw [if_neg hfits]
    rfl

end Integers

end FastapiTemplate.Python
