import FastapiTemplate.Store.Crud
import FastapiTemplate.Store.Paging

/-!
# Keyset pagination

`CRUDBase.get_multi_cursor` shows the rows of a table in the order of their keys. It fetches one row more than it shows,
and gives the key of this row as the cursor, while the next request starts after the cursor: the row is on neither page
(`keyset_complete_iff`).
-/

namespace FastapiTemplate.Store

open Keyed

namespace CRUDBase

variable {α : Type} [Keyed α] (deletedAt : Option (α → Option ℤ)) (sees : α → Bool) (limit : ℕ) (includeDeleted : Bool)
  (t : Table α)

/-- The rows to be listed; `deletedAt` is the column, if the model has it. -/
def listed : List α :=
  t.rows.filter fun r => sees r && (includeDeleted || deletedAt.all fun deletedAt => (deletedAt r).isNone)

def getMultiCursor (cursor : Option ℤ) : List α × Option ℤ :=
  let rows := ((listed deletedAt sees includeDeleted t).filter fun r => cursor.all fun cursor => cursor < key r).take
    (limit + 1)
  let nextCursor := if limit < rows.length then rows.getLast?.map key else none
  (rows.take limit, nextCursor)

/-- The pages of a table that nobody changes. -/
def cursorPages (_ : ℕ) (cursor : Option ℤ) : Option (Page α ℤ) :=
  let (items, nextCursor) := getMultiCursor deletedAt sees limit includeDeleted t cursor
  some { items := items, next := nextCursor }

/-- The chain of pages shows every row once, in the order of their keys. -/
def Complete : Prop :=
  ∃ fuel, follow (cursorPages deletedAt sees limit includeDeleted t) fuel 0 none =
    some (listed deletedAt sees includeDeleted t)

variable {deletedAt sees limit includeDeleted t} {cursor : Option ℤ} {i : ℕ}

lemma sorted_listed : (listed deletedAt sees includeDeleted t).Pairwise fun a b => key a < key b :=
  t.sorted.filter _

/-- **What a page is.** Either it shows all the rows that are left, or the cursor is the key of one that is left and not
shown. -/
theorem cursorPages_cases (deletedAt : Option (α → Option ℤ)) (sees : α → Bool) (limit : ℕ) (includeDeleted : Bool)
    (t : Table α) (i : ℕ) (cursor : Option ℤ) :
    ∃ page, cursorPages deletedAt sees limit includeDeleted t i cursor = some page ∧ (∀ r ∈ page.items, ∀ c, cursor = some c → c < key r) ∧
      ∀ next, page.next = some next → ∃ r ∈ listed deletedAt sees includeDeleted t, key r = next ∧
        ∀ c, cursor = some c → c < key r := by
  set rest := (listed deletedAt sees includeDeleted t).filter fun r => cursor.all fun cursor => cursor < key r with hrest
  have hafter : ∀ r ∈ rest, r ∈ listed deletedAt sees includeDeleted t ∧ ∀ c, cursor = some c → c < key r := by
    intro r hr
    obtain ⟨hlisted, hcursor⟩ := List.mem_filter.1 hr
    refine ⟨hlisted, ?_⟩
    rintro c rfl
    simpa using hcursor
  refine ⟨_, rfl, fun r hr => (hafter r ?_).2, fun next hnext => ?_⟩
  · exact List.mem_of_mem_take (List.mem_of_mem_take hr)
  · dsimp only [getMultiCursor] at hnext
    rw [← hrest] at hnext
    split at hnext
    · obtain ⟨r, hr, rfl⟩ := Option.map_eq_some_iff.1 hnext
      have hmem : r ∈ rest := List.mem_of_mem_take (List.mem_of_getLast? hr)
      exact ⟨r, (hafter r hmem).1, rfl, (hafter r hmem).2⟩
    · cases hnext

/-- Nothing is shown again. -/
lemma after_of_follow {fuel : ℕ} {visited : List α} {c : ℤ}
    (h : follow (cursorPages deletedAt sees limit includeDeleted t) fuel i (some c) = some visited) :
    ∀ r ∈ visited, c < key r := by
  have hall : ∀ r ∈ visited, ∀ c', some c = some c' → c' < key r := by
    refine follow_all (P := fun _ cursor r => ∀ c', cursor = some c' → c' < key r) ?_ ?_ h
    · intro i cursor page hpage
      obtain ⟨page', hpage', hitems, -⟩ := cursorPages_cases deletedAt sees limit includeDeleted t i cursor
      obtain rfl := Option.some.inj (hpage'.symm.trans hpage)
      exact hitems
    · intro i cursor page next hpage hnext r hr c' hc'
      obtain ⟨page', hpage', -, hcursor⟩ := cursorPages_cases deletedAt sees limit includeDeleted t i cursor
      obtain rfl := Option.some.inj (hpage'.symm.trans hpage)
      obtain ⟨x, -, hkey, hx⟩ := hcursor next hnext
      have hlater : next < key r := hr next rfl
      have hbetween : c' < key x := hx c' hc'
      omega
  exact fun r hr => hall r hr c rfl

/-- **The chain of pages ends.** -/
theorem cursorPages_ends (deletedAt : Option (α → Option ℤ)) (sees : α → Bool) (limit : ℕ) (includeDeleted : Bool)
    (t : Table α) : ∃ fuel visited,
      follow (cursorPages deletedAt sees limit includeDeleted t) fuel 0 none = some visited := by
  let left (cursor : Option ℤ) : List α :=
    (listed deletedAt sees includeDeleted t).filter fun r => cursor.all fun cursor => cursor < key r
  refine ⟨(left none).length + 1, ?_⟩
  refine follow_ends (I := fun _ _ => True) (fun _ cursor => (left cursor).length) (fun i cursor _ => ?_) trivial
    (Nat.lt_succ_self _)
  obtain ⟨page, hpage, -, hcursor⟩ := cursorPages_cases deletedAt sees limit includeDeleted t i cursor
  refine ⟨page, hpage, fun next hnext => ⟨trivial, ?_⟩⟩
  obtain ⟨x, hx, rfl, hafter⟩ := hcursor next hnext
  -- the row of the cursor was left, and is not left any more
  have hsub : List.Sublist (left (some (key x))) (left cursor) := by
    refine List.monotone_filter_right _ fun r hr => ?_
    have hlater : key x < key r := by simpa using hr
    cases cursor with
    | none => rfl
    | some c => simpa using (hafter c rfl).trans hlater
  have hmem : x ∈ left cursor := by
    refine List.mem_filter.2 ⟨hx, ?_⟩
    cases cursor with
    | none => rfl
    | some c => simpa using hafter c rfl
  have hgone : x ∉ left (some (key x)) := fun h => by simpa using (List.mem_filter.1 h).2
  refine lt_of_le_of_ne hsub.length_le fun heq => hgone ?_
  rw [hsub.eq_of_length heq]
  exact hmem

variable (deletedAt sees limit includeDeleted t) in
lemma cursorPages_first : cursorPages deletedAt sees limit includeDeleted t 0 none =
    some ⟨((listed deletedAt sees includeDeleted t).take (limit + 1)).take limit,
      if limit < ((listed deletedAt sees includeDeleted t).take (limit + 1)).length then
        ((listed deletedAt sees includeDeleted t).take (limit + 1)).getLast?.map key
      else none⟩ := by
  have hall : ((listed deletedAt sees includeDeleted t).filter fun r =>
      (none : Option ℤ).all fun cursor => decide (cursor < key r)) = listed deletedAt sees includeDeleted t :=
    List.filter_eq_self.2 fun _ _ => rfl
  unfold cursorPages getMultiCursor
  rw [hall]

lemma notMem_take_of_sorted {rows : List α} (hsorted : rows.Pairwise fun a b => key a < key b) {n : ℕ}
    (hn : n < rows.length) : rows[n] ∉ rows.take n := by
  intro hmem
  obtain ⟨j, hj, heq⟩ := List.getElem_of_mem hmem
  rw [List.length_take] at hj
  rw [List.getElem_take] at heq
  have hless := List.pairwise_iff_getElem.1 hsorted j n (by omega) hn (by omega)
  rw [heq] at hless
  exact lt_irrefl _ hless

/-- **The row that the first page looks ahead to is never shown**: it gives the cursor, and the next page begins behind
it. -/
theorem notMem_of_follow (hmore : limit < (listed deletedAt sees includeDeleted t).length) {fuel : ℕ} {visited : List α}
    (h : follow (cursorPages deletedAt sees limit includeDeleted t) fuel 0 none = some visited) :
    (listed deletedAt sees includeDeleted t)[limit] ∉ visited := by
  set rows := listed deletedAt sees includeDeleted t with hrows
  have hlast : (rows.take (limit + 1)).getLast? = some rows[limit] := by
    rw [List.getLast?_eq_getElem?, List.getElem?_take]
    simp [Nat.min_eq_left (Nat.succ_le_of_lt hmore)]
  have hlong : limit < (rows.take (limit + 1)).length := by
    rw [List.length_take]
    omega
  have hfirst := cursorPages_first deletedAt sees limit includeDeleted t
  rw [← hrows, if_pos hlong, hlast, List.take_take, Nat.min_eq_left (Nat.le_succ limit)] at hfirst
  cases fuel with
  | zero => cases h
  | succ fuel =>
    obtain ⟨page, hpage, hpages⟩ := follow_cases h
    obtain rfl := Option.some.inj (hfirst.symm.trans hpage)
    rcases hpages with ⟨hnext, -⟩ | ⟨next, rest, hnext, hrest, rfl⟩
    · cases hnext
    · obtain rfl : key rows[limit] = next := Option.some.inj hnext
      intro hmem
      rcases List.mem_append.1 hmem with hshown | hlater
      · exact notMem_take_of_sorted sorted_listed hmore hshown
      · exact lt_irrefl _ (after_of_follow hrest _ hlater)

/-- **When keyset pagination is complete**: the chain of pages always ends, and shows every row once, in the order of
their keys, if and only if there are no more rows than fit on one page. -/
theorem keyset_complete_iff (deletedAt : Option (α → Option ℤ)) (sees : α → Bool) (limit : ℕ) (includeDeleted : Bool)
    (t : Table α) :
    (∃ fuel visited, follow (cursorPages deletedAt sees limit includeDeleted t) fuel 0 none = some visited) ∧
      (Complete deletedAt sees limit includeDeleted t ↔ (listed deletedAt sees includeDeleted t).length ≤ limit) := by
  refine ⟨cursorPages_ends deletedAt sees limit includeDeleted t, ?_, ?_⟩
  · rintro ⟨fuel, hfollow⟩
    by_contra hmore
    exact notMem_of_follow (not_le.1 hmore) hfollow (List.getElem_mem _)
  · intro hfits
    have hfirst := cursorPages_first deletedAt sees limit includeDeleted t
    have hall := List.take_of_length_le (hfits.trans (Nat.le_succ limit))
    rw [hall, List.take_of_length_le hfits, if_neg (by omega)] at hfirst
    exact ⟨1, follow_last hfirst rfl⟩

namespace Sample

/-- A row of a model without `deleted_at`. -/
structure Row where
  id : ℤ
  deriving DecidableEq

instance : Keyed Row where
  key := Row.id
  withKey k _ := ⟨k⟩
  key_withKey _ _ := rfl

def rows : Table Row := (Table.empty.insert ⟨0⟩).insert ⟨0⟩

end Sample

open Sample in
/-- Of two rows the second one is not shown if a page has room for one. -/
theorem keyset_skips : ¬Complete none (fun _ => true) 1 false rows ∧
    follow (cursorPages none (fun _ => true) 1 false rows) 2 0 none = some [⟨1⟩] := by
  have hfollow : follow (cursorPages none (fun _ => true) 1 false rows) 2 0 none = some [⟨1⟩] := by decide
  refine ⟨?_, hfollow⟩
  rintro ⟨fuel, hcomplete⟩
  exact absurd (follow_unique hcomplete hfollow) (by decide)

end CRUDBase

end FastapiTemplate.Store
