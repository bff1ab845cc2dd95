import Mathlib.Data.List.Nodup
import Mathlib.Data.Rat.Floor
import Mathlib.Algebra.Order.Ring.Rat

/-!
# Python values

The values `json.loads` builds, with the built-ins the application calls on them: truth value, `str`,
`int`, `dict.get`, `{**d, k: v}` and the comparison of a number with zero.

A finite float is the rational it denotes, together with the text `repr` prints for it. `int` reads
ASCII digits only.
-/

namespace FastapiTemplate.Python

/-- Exceptions of the built-ins. -/
inductive BuiltinError where
  | attributeError
  | typeError
  | valueError
  | overflowError
  | recursionError
  deriving DecidableEq, Repr

/-- A sequence of two steps returns if both do. -/
lemma bind_eq_ok {ε α β : Type} {x : Except ε α} {f : α → Except ε β} {b : β} :
    x >>= f = .ok b ↔ ∃ a, x = .ok a ∧ f a = .ok b := by
  cases x with
  | error e => exact ⟨nofun, fun ⟨_, h, _⟩ => nomatch h⟩
  | ok a => exact ⟨fun h => ⟨a, rfl, h⟩, fun ⟨_, h, hf⟩ => Except.ok.inj h ▸ hf⟩

/-- A float. -/
inductive PyFloat where
  | nan
  | posInf
  | negInf
  | finite (q : ℚ) (repr : String)
  deriving DecidableEq

/-- A value of `json.loads`; the keys of an object are strings. -/
inductive Value where
  | none
  | bool (b : Bool)
  | int (n : ℤ)
  | float (x : PyFloat)
  | str (s : String)
  | list (xs : List Value)
  | dict (kvs : List (String × Value))

/-- `round` to an integer: half to even. -/
def roundHalfEven (q : ℚ) : ℤ :=
  if q - ⌊q⌋ < 1 / 2 then ⌊q⌋
  else if 1 / 2 < q - ⌊q⌋ then ⌊q⌋ + 1
  else if ⌊q⌋ % 2 = 0 then ⌊q⌋ else ⌊q⌋ + 1

/-! ### `int` of a string -/

/-- The characters `int` strips. -/
def isSpace (c : Char) : Bool :=
  c == ' ' || c == '\t' || c == '\n' || c == '\r' || c == '\x0b' || c == '\x0c'

/-- Reads decimal digits; single underscores may stand between two of them. -/
def readDigits (acc : ℕ) (afterDigit : Bool) : List Char → Option ℕ
  | [] => if afterDigit then some acc else .none
  | c :: cs =>
    if c.isDigit then readDigits (10 * acc + (c.toNat - '0'.toNat)) true cs
    else if c == '_' && afterDigit then readDigits acc false cs
    else .none

/-- `int(s)`. -/
def pyInt (s : String) : Except BuiltinError ℤ :=
  let cs := ((s.toList.dropWhile isSpace).reverse.dropWhile isSpace).reverse
  let digits := match cs with
    | '-' :: ds => (readDigits 0 false ds).map fun n => -(n : ℤ)
    | '+' :: ds => (readDigits 0 false ds).map Int.ofNat
    | ds => (readDigits 0 false ds).map Int.ofNat
  match digits with
  | some n => .ok n
  | .none => .error .valueError

namespace PyFloat

/-- `repr(x)`. -/
def str : PyFloat → String
  | nan => "nan"
  | posInf => "inf"
  | negInf => "-inf"
  | finite _ r => r

end PyFloat

/-- One character of `repr(s)`; `q` is the quote it stands in. -/
def reprChar (q : Char) (c : Char) : String :=
  if c == '\\' then "\\\\"
  else if c == q then "\\" ++ String.singleton q
  else if c == '\n' then "\\n"
  else if c == '\r' then "\\r"
  else if c == '\t' then "\\t"
  else String.singleton c

/-- The quote characters. -/
def single : Char := Char.ofNat 39
def double : Char := Char.ofNat 34

/-- `repr(s)`: in single quotes, unless the text has one and no double quote. -/
def quoted (s : String) : String :=
  let q := if s.toList.contains single && !s.toList.contains double then double else single
  String.singleton q ++ String.join (s.toList.map (reprChar q)) ++ String.singleton q

namespace Value

/-- `bool(v)`. -/
def truthy : Value → Bool
  | none => false
  | bool b => b
  | int n => n != 0
  | float (.finite q _) => q != 0
  | float _ => true
  | str s => s != ""
  | list xs => !xs.isEmpty
  | dict kvs => !kvs.isEmpty

/-- `a or b`. -/
def or (a b : Value) : Value := if a.truthy then a else b

mutual
/-- `repr(v)`. -/
def repr : Value → String
  | none => "None"
  | bool b => if b then "True" else "False"
  | int n => toString n
  | float x => x.str
  | str s => quoted s
  | list xs => "[" ++ ", ".intercalate (reprList xs) ++ "]"
  | dict kvs => "\x7b" ++ ", ".intercalate (reprDict kvs) ++ "\x7d"
def reprList : List Value → List String
  | [] => []
  | x :: xs => x.repr :: reprList xs
def reprDict : List (String × Value) → List String
  | [] => []
  | (k, v) :: kvs => (quoted k ++ ": " ++ v.repr) :: reprDict kvs
end

mutual
/-- There is no `nan` and no infinity in it. -/
def isFinite : Value → Bool
  | float (.finite _ _) => true
  | float _ => false
  | list xs => isFiniteList xs
  | dict kvs => isFiniteDict kvs
  | _ => true
def isFiniteList : List Value → Bool
  | [] => true
  | x :: xs => x.isFinite && isFiniteList xs
def isFiniteDict : List (String × Value) → Bool
  | [] => true
  | (_, v) :: kvs => v.isFinite && isFiniteDict kvs
end

/-- `str(v)`. -/
def toStr : Value → String
  | str s => s
  | v => v.repr

/-- `v.get(k, default)`; anything but a `dict` has no such attribute. -/
def get (v : Value) (k : String) (default : Value := none) : Except BuiltinError Value :=
  match v with
  | dict kvs => .ok ((kvs.lookup k).getD default)
  | _ => .error .attributeError

/-- The items of a dict with one key set. -/
def setItem {β : Type} (k : String) (x : β) : List (String × β) → List (String × β)
  | [] => [(k, x)]
  | (k', y) :: kvs => if k' == k then (k, x) :: kvs else (k', y) :: setItem k x kvs

/-- A dict display that unpacks `v` and then sets `k`; only a mapping can be unpacked. -/
def withItem (v : Value) (k : String) (x : Value) : Except BuiltinError Value :=
  match v with
  | dict kvs => .ok (dict (setItem k x kvs))
  | _ => .error .typeError

/-- `isinstance(v, dict)`. -/
def isDict : Value → Bool
  | dict _ => true
  | _ => false

/-- `int(v)`; a finite float is cut off toward zero. -/
def toInt : Value → Except BuiltinError ℤ
  | bool b => .ok (if b then 1 else 0)
  | int n => .ok n
  | float .nan => .error .valueError
  | float (.finite q _) => .ok (q.num.tdiv q.den)
  | float _ => .error .overflowError
  | str s => pyInt s
  | _ => .error .typeError

/-- A positive number. -/
inductive Positive where
  | finite (q : ℚ)
  | infinite

/-- `isinstance(v, int | float) and v > 0`, with the number; a `bool` is an `int`. -/
def positive? : Value → Option Positive
  | bool true => some (.finite 1)
  | int n => if 0 < n then some (.finite n) else .none
  | float (.finite q _) => if 0 < q then some (.finite q) else .none
  | float .posInf => some .infinite
  | _ => .none

/-- Setting a key that is there changes no key, and a new key comes last. -/
lemma keys_setItem {β : Type} (k : String) (x : β) (kvs : List (String × β)) :
    (setItem k x kvs).map Prod.fst =
      if k ∈ kvs.map Prod.fst then kvs.map Prod.fst else kvs.map Prod.fst ++ [k] := by
  induction kvs with
  | nil => rfl
  | cons p kvs ih =>
    obtain ⟨k', y⟩ := p
    unfold setItem
    by_cases hk : k' = k
    · subst hk
      simp
    · have hk' : k ≠ k' := fun h => hk h.symm
      simp only [beq_iff_eq, hk, if_false, List.map_cons, List.mem_cons, hk', false_or, ih]
      split <;> simp

/-- A dict has a key once. -/
theorem nodup_setItem {β : Type} (k : String) (x : β) {kvs : List (String × β)}
    (h : (kvs.map Prod.fst).Nodup) : ((setItem k x kvs).map Prod.fst).Nodup := by
  rw [keys_setItem]
  split
  · exact h
  · rename_i hk
    exact List.nodup_append.2 ⟨h, List.nodup_singleton k, fun a ha b hb => by
      rw [List.mem_singleton.1 hb]
      rintro rfl
      exact hk ha⟩

/-! ### Dictionaries that are filled key by key -/

section Lookup

variable {β : Type} {key key' : String} {x : β} {kvs : List (String × β)}

lemma lookup_cons_eq {k : String} : ((k, x) :: kvs).lookup key = if key = k then some x else kvs.lookup key := by
  rw [List.lookup_cons]
  by_cases h : key = k
  · rw [if_pos h, beq_iff_eq.2 h]
  · rw [if_neg h, beq_eq_false_iff_ne.2 h]

lemma lookup_setItem : (setItem key x kvs).lookup key' = if key' = key then some x else kvs.lookup key' := by
  induction kvs with
  | nil => exact lookup_cons_eq
  | cons p kvs ih =>
    obtain ⟨k, y⟩ := p
    unfold setItem
    by_cases hk : k = key
    · rw [if_pos (beq_iff_eq.2 hk), lookup_cons_eq, lookup_cons_eq, hk]
      split <;> rfl
    · rw [if_neg (mt beq_iff_eq.1 hk), lookup_cons_eq, lookup_cons_eq, ih]
      by_cases h : key' = k
      · rw [if_pos h, if_pos h, if_neg fun e => hk (h.symm.trans e)]
      · rw [if_neg h, if_neg h]

/-- A dictionary that is filled item by item keeps the last value of a key. -/
lemma lookup_foldl_setItem (items parts : List (String × β)) :
    (items.foldl (fun parts kv => setItem kv.1 kv.2 parts) parts).lookup key =
      (((items.filter fun kv => kv.1 == key).map Prod.snd).getLast?).or (parts.lookup key) := by
  induction items generalizing parts with
  | nil => rfl
  | cons kv items ih =>
    rw [List.foldl_cons, ih, lookup_setItem]
    by_cases h : kv.1 = key
    · rw [if_pos h.symm, List.filter_cons_of_pos (by simpa using h), List.map_cons, List.getLast?_cons]
      cases ((items.filter fun kv => kv.1 == key).map Prod.snd).getLast? <;> rfl
    · rw [if_neg fun e => h e.symm, List.filter_cons_of_neg (by simpa using h)]

/-- A dictionary that is filled item by item has each key once. -/
lemma nodup_foldl_setItem (items : List (String × β)) {parts : List (String × β)} (h : (parts.map Prod.fst).Nodup) :
    ((items.foldl (fun parts kv => setItem kv.1 kv.2 parts) parts).map Prod.fst).Nodup := by
  induction items generalizing parts with
  | nil => exact h
  | cons kv items ih => exact ih (nodup_setItem kv.1 kv.2 h)

/-- A key that is not in the front part is set behind it. -/
lemma setItem_append (h : key ∉ kvs.map Prod.fst) (rest : List (String × β)) :
    setItem key x (kvs ++ rest) = kvs ++ setItem key x rest := by
  induction kvs with
  | nil => rfl
  | cons p kvs ih =>
    obtain ⟨k, y⟩ := p
    rw [List.map_cons, List.mem_cons, not_or] at h
    rw [List.cons_append, setItem, if_neg (by simpa using fun e => h.1 e.symm), ih h.2, List.cons_append]

/-- What stands under a key that is there at most once. -/
lemma filter_of_nodup (h : (kvs.map Prod.fst).Nodup) :
    (kvs.filter fun kv => kv.1 == key).map Prod.snd = (kvs.lookup key).toList := by
  induction kvs with
  | nil => rfl
  | cons p kvs ih =>
    obtain ⟨k, y⟩ := p
    rw [List.map_cons, List.nodup_cons] at h
    rw [lookup_cons_eq]
    by_cases hk : key = k
    · have hnone : kvs.filter (fun kv => kv.1 == key) = [] := by
        refine List.filter_eq_nil_iff.2 fun kv hkv => ?_
        have hmem : kv.1 ∈ kvs.map Prod.fst := List.mem_map_of_mem hkv
        rw [beq_iff_eq, hk]
        intro heq
        exact h.1 (heq ▸ hmem)
      rw [if_pos hk, List.filter_cons_of_pos (by simpa using hk.symm), hnone]
      rfl
    · rw [if_neg hk, List.filter_cons_of_neg (by simpa using fun e => hk e.symm), ih h.2]

end Lookup

end Value

end FastapiTemplate.Python
