import FastapiTemplate.Python.Time
import FastapiTemplate.Store.Table

/-!
# Rows that are deleted by a mark

`CRUDBase` over a table whose rows have the column `deleted_at`. A lookup leaves the marked rows out unless it is
asked for them, `delete` sets the mark, `restore` clears it and `purge` removes rows that were marked long ago; each
commits by itself. The engine may show a request a part of the table only: the rows for which `sees` holds.
-/

namespace FastapiTemplate.Store

/-- Rows with the column `deleted_at`. -/
class SoftDeletes (α : Type) extends Keyed α where
  deletedAt : α → Option ℤ
  withDeletedAt : Option ℤ → α → α
  key_withDeletedAt : ∀ d a, key (withDeletedAt d a) = key a
  deletedAt_withDeletedAt : ∀ d a, deletedAt (withDeletedAt d a) = d

attribute [simp] SoftDeletes.key_withDeletedAt SoftDeletes.deletedAt_withDeletedAt

open Keyed SoftDeletes

namespace CRUDBase

variable {α : Type} [SoftDeletes α] (sees : α → Bool) (id : ℤ) (t : Table α)

def get (includeDeleted : Bool := false) : Option α :=
  (t.get? id).filter fun r => sees r && (includeDeleted || (deletedAt r).isNone)

def delete (now : ℤ) : Option α × Table α :=
  match get sees id t with
  | none => (none, t)
  | some obj => (some (withDeletedAt (some now) obj), t.put (withDeletedAt (some now) obj))

def restore : Option α × Table α :=
  match get sees id t true with
  | none => (none, t)
  | some obj =>
    if (deletedAt obj).isNone then (none, t) else (some (withDeletedAt none obj), t.put (withDeletedAt none obj))

/-- It counts from the start of the day. -/
def purge (olderThanDays now : ℤ) : ℕ × Table α :=
  let cutoff := now / Python.days 1 * Python.days 1 - Python.days olderThanDays
  let old : α → Bool := fun r => sees r && (deletedAt r).any fun d => d < cutoff
  ((t.rows.filter old).length, t.keep fun r => !old r)

variable {sees id t}

theorem get_eq_some {includeDeleted : Bool} {r : α} :
    get sees id t includeDeleted = some r ↔
      r ∈ t.rows ∧ key r = id ∧ sees r = true ∧ (includeDeleted = true ∨ deletedAt r = none) := by
  unfold get
  rw [Option.filter_eq_some_iff, Table.get?_eq_some]
  simp [and_assoc]

/-- **What `delete` does**: nothing, or it marks the row. -/
theorem delete_cases (now : ℤ) :
    delete sees id t now = (none, t) ∨ ∃ r ∈ t.rows, key r = id ∧ sees r = true ∧ deletedAt r = none ∧
      delete sees id t now = (some (withDeletedAt (some now) r), t.put (withDeletedAt (some now) r)) := by
  unfold delete
  cases hget : get sees id t with
  | none => exact .inl rfl
  | some r =>
    obtain ⟨hr, hid, hsees, hdeleted⟩ := get_eq_some.1 hget
    exact .inr ⟨r, hr, hid, hsees, hdeleted.resolve_left (by decide), rfl⟩

/-- There is a marked row with this id, which the request sees. -/
def Restorable (sees : α → Bool) (id : ℤ) (t : Table α) (r : α) : Prop :=
  r ∈ t.rows ∧ key r = id ∧ sees r = true ∧ deletedAt r ≠ none

/-- **What `restore` does**: nothing, or it clears the mark of the row. -/
theorem restore_cases :
    (restore sees id t = (none, t) ∧ ∀ r, ¬Restorable sees id t r) ∨
      ∃ r, Restorable sees id t r ∧ restore sees id t = (some (withDeletedAt none r), t.put (withDeletedAt none r)) := by
  unfold restore
  cases hget : get sees id t true with
  | none =>
    refine .inl ⟨rfl, fun r ⟨hr, hid, hsees, _⟩ => ?_⟩
    cases hget.symm.trans (get_eq_some.2 ⟨hr, hid, hsees, .inl rfl⟩)
  | some r =>
    obtain ⟨hr, hid, hsees, -⟩ := get_eq_some.1 hget
    dsimp only
    by_cases hdeleted : deletedAt r = none
    · rw [if_pos (Option.isNone_iff_eq_none.2 hdeleted)]
      refine .inl ⟨rfl, fun r' ⟨hr', hid', _, hdeleted'⟩ => ?_⟩
      rw [t.key_injOn hr' hr (hid'.trans hid.symm)] at hdeleted'
      exact hdeleted' hdeleted
    · rw [if_neg (by simpa using hdeleted)]
      exact .inr ⟨r, ⟨hr, hid, hsees, hdeleted⟩, rfl⟩

end CRUDBase

end FastapiTemplate.Store
