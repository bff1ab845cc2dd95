import FastapiTemplate.Store.Crud
import FastapiTemplate.Store.Offsets

/-!
# The list of CMS posts

`list_posts` answers with a page and a total. The page is of the posts that are not deleted and, if `published_only` is
set, are published; the total counts the posts that are not deleted, published or not. `paged_iff` says when this is the
total of what is listed, so that a client that goes through the pages below it finds each post once and no page empty.
-/

namespace FastapiTemplate.Cms

open Python Store

/-! ### Posts -/

/-- A row of `cms_posts`. -/
structure Post where
  id : ℤ := 0
  tenantId : Option ℤ
  title : String
  slug : String
  isPublished : Bool := false
  createdAt : Datetime
  deletedAt : Option Datetime := none
  deriving DecidableEq

instance : SoftDeletes Post where
  key := Post.id
  withKey k p := { p with id := k }
  key_withKey _ _ := rfl
  deletedAt := Post.deletedAt
  withDeletedAt d p := { p with deletedAt := d }
  key_withDeletedAt _ _ := rfl
  deletedAt_withDeletedAt _ _ := rfl

/-- The row is one of the tenant's, if a tenant is given. -/
def Post.ofTenant (tenantId : Option ℤ) (p : Post) : Bool :=
  match tenantId with
  | none => true
  | some t => p.tenantId == some t

section Code

/- The tenant of the request, which the engine adds to both queries. -/
variable (currentTenant : Option ℤ)

/-- What the query of `get_multi_with_relations` selects, without its page. -/
def selected (publishedOnly : Bool) (t : Table Post) (tenantId : Option ℤ := none) : List Post :=
  t.rows.filter fun p =>
    p.ofTenant currentTenant && (p.deletedAt.isNone && p.ofTenant tenantId && (!publishedOnly || p.isPublished))

def CRUDPost.getMultiWithRelations (plan : Plan Post) (skip limit : ℕ) (publishedOnly : Bool) (t : Table Post)
    (tenantId : Option ℤ := none) : List Post :=
  slice skip limit (orderedBy Post.createdAt plan (selected currentTenant publishedOnly t tenantId))

def CRUDPost.count (t : Table Post) (tenantId : Option ℤ := none) : ℕ :=
  (t.rows.filter fun p => p.ofTenant currentTenant && (p.deletedAt.isNone && p.ofTenant tenantId)).length

structure PostListResponse where
  items : List Post
  total : ℕ

def listPosts (plan : Plan Post) (skip limit : ℕ) (publishedOnly : Bool) (t : Table Post) : PostListResponse where
  items := CRUDPost.getMultiWithRelations currentTenant plan skip limit publishedOnly t
  total := CRUDPost.count currentTenant t

end Code

/-! ### What a client goes by -/

/-- **The total is that of the list**: it is the number of posts that are selected, whichever page is asked for, and the
pages that begin below it show each of them once, if they were created at different times, and are not empty. Each
request may be answered by another plan. -/
structure Paged (plans : ℕ → ℕ → Plan Post) (currentTenant : Option ℤ) (publishedOnly : Bool) (t : Table Post) :
    Prop where
  total : ∀ skip limit, (listPosts currentTenant (plans skip limit) skip limit publishedOnly t).total =
    (selected currentTenant publishedOnly t).length
  once : ((selected currentTenant publishedOnly t).map Post.createdAt).Nodup → ∀ start limit, 1 ≤ limit → limit ≤ 100 →
    ((offsets limit (listPosts currentTenant (plans start limit) start limit publishedOnly t).total).flatMap fun skip =>
      (listPosts currentTenant (plans skip limit) skip limit publishedOnly t).items).Perm
        (selected currentTenant publishedOnly t)
  shown : ∀ skip limit, 1 ≤ limit → limit ≤ 100 →
    skip < (listPosts currentTenant (plans skip limit) skip limit publishedOnly t).total →
    (listPosts currentTenant (plans skip limit) skip limit publishedOnly t).items ≠ []

/-- Only published posts are asked for, or there are no others. -/
def AllPublished (currentTenant : Option ℤ) (publishedOnly : Bool) (t : Table Post) : Prop :=
  publishedOnly = true → ∀ p ∈ t.rows, p.ofTenant currentTenant = true → p.deletedAt = none → p.isPublished = true

/-! ### When it is -/

section Lemmas

variable {plans : ℕ → ℕ → Plan Post} {currentTenant : Option ℤ} {publishedOnly : Bool} {t : Table Post}

/-- The filters of the two queries differ in one thing. -/
lemma selected_eq_filter : selected currentTenant publishedOnly t =
    (selected currentTenant false t).filter fun p => !publishedOnly || p.isPublished := by
  unfold selected
  rw [List.filter_filter]
  refine List.filter_congr fun p _ => ?_
  cases publishedOnly <;> simp [Bool.and_comm, Bool.and_left_comm]

lemma count_eq : CRUDPost.count currentTenant t = (selected currentTenant false t).length := by
  unfold CRUDPost.count selected
  simp

lemma mem_selected {p : Post} : p ∈ selected currentTenant false t ↔
    p ∈ t.rows ∧ p.ofTenant currentTenant = true ∧ p.deletedAt = none := by
  simp [selected, Post.ofTenant]

/-- **When the counts agree.** -/
lemma count_eq_length_iff : CRUDPost.count currentTenant t = (selected currentTenant publishedOnly t).length ↔
    AllPublished currentTenant publishedOnly t := by
  rw [count_eq, @selected_eq_filter currentTenant publishedOnly t, eq_comm, List.length_filter_eq_length_iff]
  unfold AllPublished
  cases publishedOnly with
  | false => simp
  | true =>
    constructor
    · intro h _ p hp htenant hdeleted
      simpa using h p (mem_selected.2 ⟨hp, htenant, hdeleted⟩)
    · intro h p hp
      obtain ⟨hrow, htenant, hdeleted⟩ := mem_selected.1 hp
      simpa using h rfl p hrow htenant hdeleted

/-- With different times of creation, every request cuts its page out of one list. -/
lemma items_eq (hdistinct : ((selected currentTenant publishedOnly t).map Post.createdAt).Nodup) (plan : Plan Post)
    (skip limit : ℕ) :
    (listPosts currentTenant (plans skip limit) skip limit publishedOnly t).items =
      slice skip limit (orderedBy Post.createdAt plan (selected currentTenant publishedOnly t)) := by
  show slice skip limit (orderedBy Post.createdAt (plans skip limit) (selected currentTenant publishedOnly t)) = _
  rw [orderedBy_eq hdistinct]

end Lemmas

/-- **When the total is that of the list**: exactly if the published posts are not asked for, or all posts are
published. -/
theorem paged_iff (plans : ℕ → ℕ → Plan Post) (currentTenant : Option ℤ) (publishedOnly : Bool) (t : Table Post) :
    Paged plans currentTenant publishedOnly t ↔ AllPublished currentTenant publishedOnly t := by
  constructor
  · intro h
    exact count_eq_length_iff.1 (h.total 0 20)
  · intro h
    have htotal : CRUDPost.count currentTenant t = (selected currentTenant publishedOnly t).length :=
      count_eq_length_iff.2 h
    refine ⟨fun skip limit => htotal, fun hdistinct start limit hlimit _ => ?_, fun skip limit hlimit _ hskip => ?_⟩
    · have hwalk : ((offsets limit (CRUDPost.count currentTenant t)).flatMap fun skip =>
          (listPosts currentTenant (plans skip limit) skip limit publishedOnly t).items) =
            orderedBy Post.createdAt (plans start limit) (selected currentTenant publishedOnly t) := by
        simp only [items_eq hdistinct (plans start limit)]
        exact flatMap_offsets hlimit (by rw [orderedBy_perm.length_eq, htotal])
      show ((offsets limit (CRUDPost.count currentTenant t)).flatMap _).Perm _
      rw [hwalk]
      exact orderedBy_perm
    · refine slice_ne_nil hlimit ?_
      rw [orderedBy_perm.length_eq, ← htotal]
      exact hskip

namespace Sample

/-- A draft, and nothing else. -/
def drafts : Table Post :=
  Table.empty.insert { tenantId := none, title := "Hello", slug := "hello", createdAt := 0 }

/-- Rows are found in the order of their keys. -/
def byKey (_ _ : ℕ) : Plan Post := ⟨id, fun rows => List.Perm.refl rows⟩

end Sample

open Sample in
/-- The draft is counted where the published posts are listed, and the first page below the total is empty. -/
theorem draft_counted :
    (listPosts none (byKey 0 20) 0 20 true drafts).total = 1 ∧
      (listPosts none (byKey 0 20) 0 20 true drafts).items = [] ∧ ¬Paged byKey none true drafts := by
  have hnone : selected none true drafts = [] := by decide
  refine ⟨rfl, ?_, fun h => ?_⟩
  · show slice 0 20 (orderedBy Post.createdAt (byKey 0 20) (selected none true drafts)) = []
    rw [hnone, orderedBy_perm.eq_nil]
    rfl
  · exact absurd (h.total 0 20) (by decide)

end FastapiTemplate.Cms
