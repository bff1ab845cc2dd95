import Mathlib.Data.List.Pairwise
import Mathlib.Data.List.Nodup
import Mathlib.Order.Basic
import Mathlib.Data.Int.Order.Basic

/-!
# Tables with an automatic primary key

A table is a list of rows whose keys increase, with a sequence value above all of them. The two
facts are fields, so a table with a repeated key cannot be written down, and a lookup by key is the
same as membership (`get?_eq_some`).

`column` is the way an object-relational mapper writes one column back: only if the program changed
it since the row was loaded.
-/

namespace FastapiTemplate.Store

/-- Rows with a primary key. -/
class Keyed (α : Type) where
  key : α → ℤ
  withKey : ℤ → α → α
  key_withKey : ∀ k a, key (withKey k a) = k

attribute [simp] Keyed.key_withKey

open Keyed

/-- A table: its rows in the order of their keys, and the next value of the key's sequence. -/
structure Table (α : Type) [Keyed α] where
  rows : List α
  next : ℤ
  sorted : rows.Pairwise fun a b => key a < key b
  below : ∀ r ∈ rows, key r < next

namespace Table

variable {α β : Type} [Keyed α]

/-- The empty table. -/
def empty : Table α where
  rows := []
  next := 1
  sorted := .nil
  below := by simp

/-- The row with a given key. -/
def get? (t : Table α) (k : ℤ) : Option α := t.rows.find? fun r => decide (key r = k)

/-- Replaces a row if its key is that of `r`. -/
def overwrite (r x : α) : α := if key x = key r then r else x

@[simp] lemma key_overwrite (r x : α) : key (overwrite r x) = key x := by
  unfold overwrite
  split <;> simp_all

lemma overwrite_of_ne {r x : α} (h : key x ≠ key r) : overwrite r x = x := by simp [overwrite, h]

/-- `UPDATE`: replaces the row with the key of `r`. -/
def put (t : Table α) (r : α) : Table α where
  rows := t.rows.map (overwrite r)
  next := t.next
  sorted := by
    rw [List.pairwise_map]
    exact t.sorted.imp fun h => by simpa using h
  below := by
    intro x hx
    obtain ⟨y, hy, rfl⟩ := List.mem_map.1 hx
    simpa using t.below y hy

/-- `INSERT`: the row takes the next key of the sequence. -/
def insert (t : Table α) (r : α) : Table α where
  rows := t.rows ++ [withKey t.next r]
  next := t.next + 1
  sorted := by
    rw [List.pairwise_append]
    refine ⟨t.sorted, List.pairwise_singleton _ _, ?_⟩
    intro a ha b hb
    rw [List.mem_singleton.1 hb, key_withKey]
    exact t.below a ha
  below := by
    intro x hx
    rcases List.mem_append.1 hx with hx | hx
    · have := t.below x hx; omega
    · rw [List.mem_singleton.1 hx, key_withKey]; omega

/-- `DELETE`: keeps the rows for which `p` holds. -/
def keep (t : Table α) (p : α → Bool) : Table α where
  rows := t.rows.filter p
  next := t.next
  sorted := t.sorted.filter p
  below := fun r hr => t.below r (List.mem_filter.1 hr).1

lemma nodup_keys (t : Table α) : (t.rows.map key).Nodup := by
  rw [List.Nodup, List.pairwise_map]
  exact t.sorted.imp fun h => ne_of_lt h

lemma key_injOn (t : Table α) {a b : α} (ha : a ∈ t.rows) (hb : b ∈ t.rows) (h : key a = key b) :
    a = b := List.inj_on_of_nodup_map t.nodup_keys ha hb h

/-- A filter that no other row passes finds one row. -/
lemma filter_eq_singleton {t : Table α} {r : α} {p : α → Bool} (hr : r ∈ t.rows) (hp : p r = true)
    (honly : ∀ x ∈ t.rows, p x = true → key x = key r) : t.rows.filter p = [r] := by
  have hall : ∀ x ∈ t.rows.filter p, x = r := by
    intro x hx
    obtain ⟨hmem, hpass⟩ := List.mem_filter.1 hx
    exact t.key_injOn hmem hr (honly x hmem hpass)
  have hnodup : (t.rows.filter p).Nodup := (t.nodup_keys.of_map _).filter _
  have hpos : 0 < (t.rows.filter p).length := List.length_pos_of_mem (List.mem_filter.2 ⟨hr, hp⟩)
  have hsame := List.eq_replicate_of_mem hall
  rw [hsame, List.nodup_replicate] at hnodup
  rw [hsame, show (t.rows.filter p).length = 1 by omega]
  rfl

/-- **A lookup by key finds exactly the rows of the table.** -/
theorem get?_eq_some {t : Table α} {k : ℤ} {r : α} : t.get? k = some r ↔ r ∈ t.rows ∧ key r = k := by
  constructor
  · intro h
    exact ⟨List.mem_of_find?_eq_some h, by simpa using List.find?_some h⟩
  · rintro ⟨hr, rfl⟩
    rcases hf : t.get? (key r) with _ | x
    · have := List.find?_eq_none.1 hf r hr
      simp at this
    · have hx : key x = key r := by simpa using List.find?_some hf
      rw [t.key_injOn (List.mem_of_find?_eq_some hf) hr hx]

lemma get?_key {t : Table α} {r : α} (h : r ∈ t.rows) : t.get? (key r) = some r :=
  get?_eq_some.2 ⟨h, rfl⟩

theorem mem_insert {t : Table α} {r x : α} :
    x ∈ (t.insert r).rows ↔ x ∈ t.rows ∨ x = withKey t.next r := by
  simp [insert]

/-- Rewrites every row, keys kept. -/
def revise (t : Table α) (f : α → α) (hf : ∀ r, key (f r) = key r) : Table α where
  rows := t.rows.map f
  next := t.next
  sorted := by
    rw [List.pairwise_map]
    exact t.sorted.imp fun h => by simpa [hf] using h
  below := by
    intro x hx
    obtain ⟨y, hy, rfl⟩ := List.mem_map.1 hx
    simpa [hf] using t.below y hy

@[ext] lemma ext {t u : Table α} (hr : t.rows = u.rows) (hn : t.next = u.next) : t = u := by
  cases t
  cases u
  simp_all

/-- An `UPDATE` rewrites the one row with its key. -/
theorem put_eq_revise {t : Table α} {f : α → α} {hf : ∀ r, key (f r) = key r} {x : α}
    (hx : x ∈ t.rows) (hother : ∀ r, key r ≠ key x → f r = r) : t.put (f x) = t.revise f hf := by
  refine ext ?_ rfl
  refine List.map_congr_left fun r hr => ?_
  by_cases hk : key r = key x
  · rw [t.key_injOn hr hx hk]
    simp [overwrite, hf]
  · rw [hother r hk, overwrite_of_ne (by rwa [hf])]

/-- A lookup after all rows were rewritten, keys kept. -/
theorem get?_of_rows {t u : Table α} {f : α → α} (hf : ∀ r, key (f r) = key r)
    (hu : u.rows = t.rows.map f) (k : ℤ) : u.get? k = (t.get? k).map f := by
  unfold get?
  rw [hu, List.find?_map]
  congr 2
  funext r
  simp [hf]

theorem get?_revise {t : Table α} {f : α → α} (hf : ∀ r, key (f r) = key r) (k : ℤ) :
    (t.revise f hf).get? k = (t.get? k).map f := get?_of_rows hf rfl k

/-- An `UPDATE`, and then all rows rewritten. -/
theorem revise_put {t : Table α} {f : α → α} (hf : ∀ r, key (f r) = key r) (x : α) :
    (t.put x).revise f hf = (t.revise f hf).put (f x) := by
  refine ext ?_ rfl
  show (t.rows.map (overwrite x)).map f = (t.rows.map f).map (overwrite (f x))
  rw [List.map_map, List.map_map]
  refine List.map_congr_left fun y _ => ?_
  simp only [Function.comp_apply, overwrite, hf]
  split <;> rfl

/-- An `UPDATE` of which the rewritten rows show nothing. -/
theorem revise_put_of_eq {t : Table α} {f : α → α} (hf : ∀ r, key (f r) = key r) {x r : α}
    (hx : t.get? (key x) = some r) (hsame : f x = f r) : (t.put x).revise f hf = t.revise f hf := by
  obtain ⟨hr, hkey⟩ := get?_eq_some.1 hx
  refine ext ?_ rfl
  show (t.rows.map (overwrite x)).map f = t.rows.map f
  rw [List.map_map]
  refine List.map_congr_left fun y hy => ?_
  by_cases hk : key y = key x
  · rw [Function.comp_apply, overwrite, if_pos hk, hsame, t.key_injOn hr hy (hkey.trans hk.symm)]
  · rw [Function.comp_apply, overwrite_of_ne hk]

/-- An `INSERT` into tables that are the same once their rows are rewritten. -/
theorem revise_insert_congr {t u : Table α} {f : α → α} {hf : ∀ r, key (f r) = key r}
    (h : t.revise f hf = u.revise f hf) (x : α) : (t.insert x).revise f hf = (u.insert x).revise f hf := by
  have hrows : (t.revise f hf).rows = (u.revise f hf).rows := congrArg rows h
  have hnext : (t.revise f hf).next = (u.revise f hf).next := congrArg next h
  dsimp only [revise] at hrows hnext
  refine ext ?_ ?_
  · show (t.rows ++ [withKey t.next x]).map f = (u.rows ++ [withKey u.next x]).map f
    rw [List.map_append, List.map_append, hrows, hnext]
  · show t.next + 1 = u.next + 1
    rw [hnext]

/-- A lookup after an `INSERT`, of a row that was there. -/
theorem get?_insert_of_some {t : Table α} {r x : α} {k : ℤ} (h : t.get? k = some x) :
    (t.insert r).get? k = some x := by
  obtain ⟨hx, hk⟩ := get?_eq_some.1 h
  exact get?_eq_some.2 ⟨mem_insert.2 (.inl hx), hk⟩

/-- The rows after an `UPDATE`. -/
theorem mem_put {t : Table α} {r x : α} (hx : x ∈ (t.put r).rows) : x = r ∨ x ∈ t.rows ∧ key x ≠ key r := by
  obtain ⟨y, hy, rfl⟩ := List.mem_map.1 hx
  unfold overwrite
  split
  · exact .inl rfl
  · rename_i hne
    exact .inr ⟨hy, hne⟩

/-- A lookup after an `UPDATE`, of another row. -/
theorem get?_put_of_ne {t : Table α} {r : α} {k : ℤ} (hk : k ≠ key r) : (t.put r).get? k = t.get? k := by
  rw [get?_of_rows (key_overwrite r) rfl]
  cases hx : t.get? k with
  | none => rfl
  | some x =>
    obtain ⟨-, rfl⟩ := get?_eq_some.1 hx
    rw [Option.map_some, overwrite_of_ne hk]

/-- A lookup after an `UPDATE`, of the row itself. -/
theorem get?_put_self {t : Table α} {r x : α} (hx : t.get? (key r) = some x) : (t.put r).get? (key r) = some r := by
  rw [get?_of_rows (key_overwrite r) rfl, hx, Option.map_some, overwrite, if_pos (get?_eq_some.1 hx).2]

end Table

/-! ### Writing a column back -/

/-- The stored value of a column after a write-back: the program's value if it changed the column
since it loaded the row, else what is stored by now. -/
def column [DecidableEq β] (loaded cur stored : β) : β := if cur = loaded then stored else cur

variable {β : Type} [DecidableEq β]

/-- Nobody else changed the column: the program's value is stored. -/
@[simp] lemma column_loaded (loaded cur : β) : column loaded cur loaded = cur := by
  unfold column
  split <;> simp_all

/-- The program left the column alone: the stored value stays. -/
@[simp] lemma column_cur (loaded stored : β) : column loaded loaded stored = stored := by
  simp [column]

end FastapiTemplate.Store
