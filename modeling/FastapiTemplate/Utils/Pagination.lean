import FastapiTemplate.Python.Base64
import FastapiTemplate.Python.Text
import FastapiTemplate.Store.Paging
import FastapiTemplate.Store.Table

/-!
# Cursors

The cursor that a client is given is a number, printed by `json.dumps` and encoded in base64. `json.loads` reads the
texts of integers here, and `other` stands for what it does with everything else.
-/

namespace FastapiTemplate.Utils

open Python Store

/-! ### Numbers as JSON -/

/-- The most digits that Python prints or reads. -/
def maxStrDigits : ℕ := 4300

/-- The integer has no more digits. -/
def Printable (n : ℤ) : Prop := (Nat.toDigits 10 n.natAbs).length ≤ maxStrDigits

instance (n : ℤ) : Decidable (Printable n) := inferInstanceAs (Decidable (_ ≤ _))

/-- `json.dumps` of an integer. -/
def dumps (n : ℤ) : Except BuiltinError String :=
  if Printable n then .ok (toString n) else .error .valueError

/-- `json.loads` -/
def loads (other : List UInt8 → Except BuiltinError Value) (bytes : List UInt8) : Except BuiltinError Value :=
  match decode ⟨bytes.toArray⟩ with
  | .error _ => other bytes
  | .ok text =>
    match pyInt text with
    | .error _ => other bytes
    | .ok n =>
      if toString n = text then if Printable n then .ok (.int n) else .error .valueError
      else other bytes

/-! ### The codec -/

def encodeCursor (value : ℤ) : Except BuiltinError String := do
  let text ← dumps value
  return urlsafeB64encode text.toUTF8.data.toList

variable (other : List UInt8 → Except BuiltinError Value)

def decodeCursor (cursor : String) : Except BuiltinError ℤ := do
  let bytes ← urlsafeB64decode cursor
  let value ← loads other bytes
  value.toInt

/-- `decode_cursor(cursor) if cursor else None` -/
def cursorId (cursor : Option String) : Except BuiltinError (Option ℤ) :=
  match cursor with
  | none => .ok none
  | some cursor => if cursor = "" then .ok none else some <$> decodeCursor other cursor

variable {n : ℤ}

lemma loads_toString (h : Printable n) : loads other (toString n).toUTF8.data.toList = .ok (.int n) := by
  unfold loads
  have hbytes : (⟨(toString n).toUTF8.data.toList.toArray⟩ : ByteArray) = (toString n).toUTF8 := by simp
  rw [hbytes, decode_toUTF8]
  dsimp only
  rw [pyInt_toString]
  dsimp only
  rw [if_pos rfl, if_pos h]

/-- **A cursor is read back.** -/
theorem decodeCursor_encodeCursor (h : Printable n) :
    ∃ cursor, encodeCursor n = .ok cursor ∧ cursor ≠ "" ∧ decodeCursor other cursor = .ok n := by
  refine ⟨urlsafeB64encode (toString n).toUTF8.data.toList, ?_, ?_, ?_⟩
  · unfold encodeCursor dumps
    rw [if_pos h]
    rfl
  · intro hempty
    have hbytes : (toString n).toUTF8.data.toList = [] := by
      have hdecoded := urlsafeB64decode_urlsafeB64encode (toString n).toUTF8.data.toList
      rw [hempty] at hdecoded
      exact (Except.ok.inj hdecoded).symm
    have hread := loads_toString (fun _ => .error .valueError) h
    rw [hbytes] at hread
    cases hread
  · unfold decodeCursor
    rw [urlsafeB64decode_urlsafeB64encode]
    show loads other _ >>= Value.toInt = _
    rw [loads_toString other h]
    rfl

lemma cursorId_of_encodeCursor {cursor : String} (h : encodeCursor n = .ok cursor) :
    cursorId other (some cursor) = .ok (some n) := by
  have hprintable : Printable n := by
    by_contra hlong
    unfold encodeCursor dumps at h
    rw [if_neg hlong] at h
    cases h
  obtain ⟨cursor', hencode, hne, hdecode⟩ := decodeCursor_encodeCursor other hprintable
  obtain rfl := Except.ok.inj (hencode.symm.trans h)
  unfold cursorId
  dsimp only
  rw [if_neg hne, hdecode]
  rfl

/-! ### Pages -/

structure CursorParams where
  cursor : Option String := none
  size : ℕ := 50
  size_pos : 1 ≤ size := by decide
  size_le : size ≤ 100 := by decide

structure CursorPage (α : Type) where
  items : List α
  nextCursor : Option String
  hasMore : Bool
  size : ℕ

/-- What a client goes on with: it follows `next_cursor` until `has_more` is `False`. -/
def CursorPage.toPage {α : Type} (page : CursorPage α) : Page α String where
  items := page.items
  next := if page.hasMore then page.nextCursor else none

/-- `encode_cursor(page_items[-1].id) if has_more and page_items else None` -/
def cursorAfter {α : Type} [Keyed α] (hasMore : Bool) (pageItems : List α) : Except BuiltinError (Option String) :=
  match pageItems.getLast? with
  | none => .ok none
  | some last => if hasMore then some <$> encodeCursor (Keyed.key last) else .ok none

def CursorPage.create {α : Type} [Keyed α] (items : List α) (params : CursorParams) : Except BuiltinError (CursorPage α) := do
  let hasMore := decide (params.size < items.length)
  let pageItems := items.take params.size
  let nextCursor ← cursorAfter hasMore pageItems
  return { items := pageItems, nextCursor := nextCursor, hasMore := hasMore, size := pageItems.length }

end FastapiTemplate.Utils
