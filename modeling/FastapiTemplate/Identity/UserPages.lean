import FastapiTemplate.Identity.Models
import FastapiTemplate.Store.Cursor
import FastapiTemplate.Utils.Pagination

/-!
# Listing users

`list_users` and `list_trashed_users` hand the rows that `get_multi_cursor` shows to `CursorPage.create`. The one has cut
off the row that the other one looks for to see whether there is more, so that every listing ends with its first page;
and the list of the deleted users has all users in it. Both are for callers who may read users.
-/

namespace FastapiTemplate.Identity

open Python Store Utils Keyed

variable (other : List UInt8 → Except BuiltinError Value) (sees : User → Bool) (includeDeleted : Bool)
  (params : CursorParams) (t : Table User)

/-! ### The endpoints -/

/-- What both endpoints do; the engine shows the users for which `sees` holds. -/
def userPage : Except BuiltinError (CursorPage User) := do
  let cursorId ← cursorId other params.cursor
  let (users, _) := CRUDBase.getMultiCursor (some User.deletedAt) sees params.size includeDeleted t cursorId
  CursorPage.create users params

def listUsers : Except BuiltinError (CursorPage User) := userPage other sees false params t

def listTrashedUsers : Except BuiltinError (CursorPage User) := userPage other sees true params t

/-! ### A listing -/

/-- The pages that a client gets, of a table that nobody changes. -/
def userPages (endpoint : CursorParams → Except BuiltinError (CursorPage User)) (_ : ℕ) (cursor : Option String) :
    Option (Page User String) :=
  match endpoint { params with cursor := cursor } with
  | .ok page => some page.toPage
  | .error _ => none

/-- A client that follows the cursors visits each of these users once, and nobody else. -/
def Visits (endpoint : CursorParams → Except BuiltinError (CursorPage User)) (users : List User) : Prop :=
  ∃ fuel visited, follow (userPages params endpoint) fuel 0 none = some visited ∧ visited.Perm users

/-- The users who are not deleted, those who are, and all of them. -/
def liveUsers : List User := t.rows.filter fun u => sees u && u.deletedAt.isNone
def trashedUsers : List User := t.rows.filter fun u => sees u && u.deletedAt.isSome
def allUsers : List User := t.rows.filter sees

variable {other sees includeDeleted params t}

/-- **The first page** is the last one. -/
theorem userPage_first (other : List UInt8 → Except BuiltinError Value) (sees : User → Bool) (includeDeleted : Bool)
    (t : Table User) {params : CursorParams} (hcursor : params.cursor = none) :
    ∃ page, userPage other sees includeDeleted params t = .ok page ∧ page.hasMore = false ∧
      page.items = (CRUDBase.listed (some User.deletedAt) sees includeDeleted t).take params.size := by
  have hall : (CRUDBase.listed (some User.deletedAt) sees includeDeleted t).filter
      (fun r => (none : Option ℤ).all fun cursor => decide (cursor < key r)) =
      CRUDBase.listed (some User.deletedAt) sees includeDeleted t := List.filter_eq_self.2 fun _ _ => rfl
  unfold userPage CursorPage.create CRUDBase.getMultiCursor
  rw [hcursor]
  dsimp only [cursorId, bind, Except.bind]
  rw [hall, List.take_take, Nat.min_eq_left (Nat.le_succ _)]
  set users := (CRUDBase.listed (some User.deletedAt) sees includeDeleted t).take params.size with husers
  have hshort : ¬params.size < users.length := by
    rw [husers, List.length_take]
    omega
  have hsame : users.take params.size = users := List.take_of_length_le (not_lt.1 hshort)
  rw [decide_eq_false hshort, hsame]
  unfold cursorAfter
  cases users.getLast? with
  | none => exact ⟨_, rfl, rfl, rfl⟩
  | some last => exact ⟨_, rfl, rfl, rfl⟩

/-- What is visited is what is on the first page. -/
lemma visits_iff (other : List UInt8 → Except BuiltinError Value) (sees : User → Bool) (includeDeleted : Bool)
    (params : CursorParams) (t : Table User) (users : List User) :
    Visits params (fun params => userPage other sees includeDeleted params t) users ↔
      ((CRUDBase.listed (some User.deletedAt) sees includeDeleted t).take params.size).Perm users := by
  have hcursor : { params with cursor := none }.cursor = none := rfl
  obtain ⟨page, hpage, hmore, hitems⟩ := userPage_first other sees includeDeleted t hcursor
  have hfetch : userPages params (fun params => userPage other sees includeDeleted params t) 0 none = some page.toPage := by
    unfold userPages
    dsimp only
    rw [hpage]
  have hlast : page.toPage.next = none := by
    unfold CursorPage.toPage
    rw [hmore]
    rfl
  have hfollow : follow (userPages params (fun params => userPage other sees includeDeleted params t)) 1 0 none =
      some page.items := follow_last hfetch hlast
  rw [hitems] at hfollow
  constructor
  · rintro ⟨fuel, visited, hvisited, hperm⟩
    rwa [← follow_unique hvisited hfollow]
  · exact fun hperm => ⟨1, _, hfollow, hperm⟩

/-- The first rows are all of them. -/
lemma take_perm_self {α : Type} {l : List α} {n : ℕ} : (l.take n).Perm l ↔ l.length ≤ n := by
  constructor
  · intro h
    have hlength := h.length_eq
    rw [List.length_take] at hlength
    omega
  · intro h
    rw [List.take_of_length_le h]

/-- The first rows are those that satisfy `p`. -/
lemma take_perm_filter {α : Type} {l : List α} {n : ℕ} {p : α → Bool} (hnodup : l.Nodup) :
    (l.take n).Perm (l.filter p) ↔ (∀ a ∈ l.take n, p a = true) ∧ ∀ a ∈ l.drop n, p a = false := by
  constructor
  · intro h
    refine ⟨fun a ha => (List.mem_filter.1 (h.mem_iff.1 ha)).2, fun a ha => ?_⟩
    by_contra hp
    have hfirst : a ∈ l.take n :=
      h.mem_iff.2 (List.mem_filter.2 ⟨List.mem_of_mem_drop ha, by simpa using hp⟩)
    exact List.disjoint_take_drop hnodup le_rfl hfirst ha
  · rintro ⟨htake, hdrop⟩
    have hfilter : l.filter p = l.take n := by
      conv_lhs => rw [← List.take_append_drop n l]
      rw [List.filter_append, List.filter_eq_self.2 htake, List.filter_eq_nil_iff.2 fun a ha => by simp [hdrop a ha],
        List.append_nil]
    rw [hfilter]

/-- **When the listings are complete**: the list of the users visits every user who is not deleted once if and only if
they fit on one page, and that of the deleted users visits each of them once, and nobody else, if and only if all users
on the first page are deleted and no user after them is. -/
theorem user_listing_complete_iff (other : List UInt8 → Except BuiltinError Value) (sees : User → Bool)
    (params : CursorParams) (t : Table User) :
    (Visits params (fun params => listUsers other sees params t) (liveUsers sees t) ↔
        (liveUsers sees t).length ≤ params.size) ∧
      (Visits params (fun params => listTrashedUsers other sees params t) (trashedUsers sees t) ↔
        (∀ u ∈ (allUsers sees t).take params.size, u.deletedAt.isSome = true) ∧
          ∀ u ∈ (allUsers sees t).drop params.size, u.deletedAt.isSome = false) := by
  have hlive : CRUDBase.listed (some User.deletedAt) sees false t = liveUsers sees t := rfl
  have hall : CRUDBase.listed (some User.deletedAt) sees true t = allUsers sees t := by
    unfold CRUDBase.listed allUsers
    simp
  have htrashed : trashedUsers sees t = (allUsers sees t).filter fun u => u.deletedAt.isSome := by
    unfold trashedUsers allUsers
    rw [List.filter_filter]
    refine List.filter_congr fun u _ => ?_
    rw [Bool.and_comm]
  have hnodup : (allUsers sees t).Nodup := by
    have hrows : t.rows.Nodup := t.sorted.imp fun h heq => by simp [heq] at h
    exact hrows.filter _
  constructor
  · unfold listUsers
    rw [visits_iff, hlive]
    exact take_perm_self
  · unfold listTrashedUsers
    rw [visits_iff, hall, htrashed]
    exact take_perm_filter hnodup

namespace Sample

/-- Two users, none of them deleted. -/
def twoUsers : Table User :=
  (Table.empty.insert { email := "ann@example.com", username := "ann", hashedPassword := "" }).insert
    { email := "bob@example.com", username := "bob", hashedPassword := "" }

def onePerPage : CursorParams where
  size := 1

end Sample

open Sample in
/-- With one user on a page, bob is never listed, and ann is listed among the deleted users. -/
theorem user_listing_incomplete :
    ¬Visits onePerPage (fun params => listUsers (fun _ => .error .valueError) (fun _ => true) params twoUsers)
        (liveUsers (fun _ => true) twoUsers) ∧
      ¬Visits onePerPage (fun params => listTrashedUsers (fun _ => .error .valueError) (fun _ => true) params twoUsers)
        (trashedUsers (fun _ => true) twoUsers) := by
  constructor
  · rintro ⟨fuel, visited, hvisited, hperm⟩
    have hfollow : follow (userPages onePerPage fun params =>
        listUsers (fun _ => .error .valueError) (fun _ => true) params twoUsers) 1 0 none =
          some (twoUsers.rows.take 1) := by decide +kernel
    rw [follow_unique hvisited hfollow] at hperm
    exact absurd hperm.length_eq (by decide)
  · rintro ⟨fuel, visited, hvisited, hperm⟩
    have hfollow : follow (userPages onePerPage fun params =>
        listTrashedUsers (fun _ => .error .valueError) (fun _ => true) params twoUsers) 1 0 none =
          some (twoUsers.rows.take 1) := by decide +kernel
    rw [follow_unique hvisited hfollow] at hperm
    exact absurd hperm.length_eq (by decide)

end FastapiTemplate.Identity
