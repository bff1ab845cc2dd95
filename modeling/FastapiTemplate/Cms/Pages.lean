import FastapiTemplate.Effects.Calls
import FastapiTemplate.Identity.ApiKeys
import Mathlib.Data.Finset.Card

/-!
# The slugs of CMS pages

Two things decide whether a slug is taken. The endpoints look for a page that is not deleted, among the pages that the
engine shows to the request; the unique index compares the new row with every row of its tenant, deleted or not.
`slugs_iff` says for which sequences of requests the two agree, so that a page can be created or renamed exactly if the
endpoint finds no page with its slug, and is refused with 409 otherwise.

The answer of a request is what the endpoint returns or raises.
-/

namespace FastapiTemplate.Cms

open Effects Python Store
open Identity (Exn scalarOneOrNone required)

/-! ### Pages -/

/-- A row of `cms_pages`. -/
structure Page where
  id : ℤ := 0
  tenantId : Option ℤ
  title : String
  slug : String
  isPublished : Bool := false
  authorId : Option ℤ
  deletedAt : Option Datetime := none
  deriving DecidableEq

instance : SoftDeletes Page where
  key := Page.id
  withKey k p := { p with id := k }
  key_withKey _ _ := rfl
  deletedAt := Page.deletedAt
  withDeletedAt d p := { p with deletedAt := d }
  key_withDeletedAt _ _ := rfl
  deletedAt_withDeletedAt _ _ := rfl

/-- The row is one of the tenant's, if a tenant is given. -/
def Page.ofTenant (tenantId : Option ℤ) (p : Page) : Bool :=
  match tenantId with
  | none => true
  | some t => p.tenantId == some t

/-- The rows have the same entry in `ix_cms_pages_tenant_slug`; PostgreSQL takes two nulls for different. -/
def Page.collides (p q : Page) : Bool := p.tenantId.isSome && p.tenantId == q.tenantId && p.slug == q.slug

/-- The table with its unique index. -/
structure Pages where
  table : Table Page := Table.empty
  unique : ∀ p ∈ table.rows, ∀ q ∈ table.rows, p.collides q = true → p.id = q.id := by decide

section Index

variable {p q : Page} {t : Pages} {tenant : Option ℤ}

lemma ofTenant_eq_true : p.ofTenant tenant = true ↔ ∀ c, tenant = some c → p.tenantId = some c := by
  unfold Page.ofTenant
  cases tenant <;> simp

lemma collides_eq_true : p.collides q = true ↔ p.tenantId ≠ none ∧ p.tenantId = q.tenantId ∧ p.slug = q.slug := by
  simp [Page.collides, Option.isSome_iff_ne_none, and_assoc]

lemma collides_symm (h : p.collides q = true) : q.collides p = true := by
  obtain ⟨hne, htenant, hslug⟩ := collides_eq_true.1 h
  exact collides_eq_true.2 ⟨htenant ▸ hne, htenant.symm, hslug.symm⟩

/-- A row that collides with no other may be written over the row with its key. -/
def Pages.put (t : Pages) (p : Page) (h : ∀ q ∈ t.table.rows, q.id ≠ p.id → p.collides q = false) : Pages where
  table := t.table.put p
  unique := by
    intro x hx y hy hxy
    rcases Table.mem_put hx with rfl | ⟨hx', hxp⟩ <;> rcases Table.mem_put hy with rfl | ⟨hy', hyp⟩
    · rfl
    · exact absurd hxy (by simp [h y hy' hyp])
    · exact absurd (collides_symm hxy) (by simp [h x hx' hxp])
    · exact t.unique x hx' y hy' hxy

/-- A row that collides with none may be added. -/
def Pages.insert (t : Pages) (p : Page) (h : ∀ q ∈ t.table.rows, p.collides q = false) : Pages where
  table := t.table.insert p
  unique := by
    intro x hx y hy hxy
    rcases Table.mem_insert.1 hx with hx' | rfl <;> rcases Table.mem_insert.1 hy with hy' | rfl
    · exact t.unique x hx' y hy' hxy
    · exact absurd (collides_symm hxy) (Bool.eq_false_iff.1 (h x hx'))
    · exact absurd hxy (Bool.eq_false_iff.1 (h y hy'))
    · rfl

/-- A mark changes no entry of the index. -/
lemma unique_delete (t : Pages) (sees : Page → Bool) (id : ℤ) (now : Datetime) :
    ∀ p ∈ (CRUDBase.delete sees id t.table now).2.rows, ∀ q ∈ (CRUDBase.delete sees id t.table now).2.rows,
      p.collides q = true → p.id = q.id := by
  rcases @CRUDBase.delete_cases _ _ sees id t.table now with h | ⟨r, hr, -, -, -, h⟩
  · rw [h]
    exact t.unique
  · rw [h]
    refine (t.put _ fun q hq hne => ?_).unique
    refine Bool.eq_false_iff.2 fun hcollides => hne ?_
    exact (t.unique r hr q hq hcollides).symm

end Index

/-! ### The functions -/

/-- `Field(..., min_length=1, max_length=255, pattern=r"^[a-z0-9-]+$")` -/
def isSlug (s : String) : Bool :=
  1 ≤ s.length && s.length ≤ 255 && s.toList.all fun ch => ('a' ≤ ch && ch ≤ 'z') || ('0' ≤ ch && ch ≤ '9') || ch == '-'

abbrev Slug : Type := { s : String // isSlug s = true }

structure PageCreate where
  title : String
  slug : Slug
  isPublished : Bool := false
  categoryIds : List ℤ := []
  tagIds : List ℤ := []

/-- The fields of a request that are set; a field may be set to null. -/
structure PageUpdate where
  title : Option (Option String) := none
  slug : Option (Option Slug) := none
  isPublished : Option (Option Bool) := none
  categoryIds : Option (List ℤ) := none
  tagIds : Option (List ℤ) := none

/-- The user who makes a request, and the tenant context it runs in. `get_current_user` reads the user in this context,
and finds only one of the tenant's. -/
structure Caller where
  id : ℤ
  tenantId : Option ℤ
  currentTenant : Option ℤ := none
  own : ∀ c, currentTenant = some c → tenantId = some c := by simp

section Code

/- Whether categories or tags can be assigned to the stored page with this id: SQLAlchemy first loads the ones it had,
which a session may not be able to do. -/
variable (assigns : ℤ → List ℤ → Bool) (currentTenant : Option ℤ)

/-- The rows that `get_by_slug` finds; the engine adds the tenant of the request. -/
def CRUDPage.found (slug : String) (t : Pages) (tenantId : Option ℤ := none) : List Page :=
  t.table.rows.filter fun p =>
    p.ofTenant currentTenant && (p.slug == slug && p.deletedAt.isNone && p.ofTenant tenantId)

def CRUDPage.getBySlug (slug : String) (t : Pages) (tenantId : Option ℤ := none) : Except Exn (Option Page) :=
  scalarOneOrNone (CRUDPage.found currentTenant slug t tenantId)

/-- `db_obj.categories = ...` and `db_obj.tags = ...` for the lists of ids that are given. -/
def relate (id : ℤ) (categoryIds tagIds : Option (List ℤ)) : Except Exn Unit :=
  if categoryIds.all (assigns id) && tagIds.all (assigns id) then .ok () else .error .invalidRequest

/-- `ids` if there are any. -/
def given (ids : List ℤ) : Option (List ℤ) := if ids.isEmpty then none else some ids

def CRUDPage.createWithRelations (objIn : PageCreate) (tenantId authorId : Option ℤ) (t : Pages) :
    Except Exn (Page × Pages) :=
  let dbObj : Page :=
    { id := t.table.next, tenantId := tenantId, title := objIn.title, slug := objIn.slug,
      isPublished := objIn.isPublished, authorId := authorId }
  if h : ∀ q ∈ t.table.rows, dbObj.collides q = false then do
    relate assigns dbObj.id (given objIn.categoryIds) (given objIn.tagIds)
    return (dbObj, t.insert dbObj h)
  else .error .integrityError

def CRUDPage.updateWithRelations (dbObj : Page) (objIn : PageUpdate) (t : Pages) : Except Exn (Page × Pages) := do
  relate assigns dbObj.id objIn.categoryIds objIn.tagIds
  let title ← required objIn.title dbObj.title
  let slug ← required (objIn.slug.map fun s => s.map Subtype.val) dbObj.slug
  let isPublished ← required objIn.isPublished dbObj.isPublished
  let dbObj := { dbObj with title := title, slug := slug, isPublished := isPublished }
  if h : ∀ q ∈ t.table.rows, q.id ≠ dbObj.id → dbObj.collides q = false then return (dbObj, t.put dbObj h)
  else .error .integrityError

/-- `CRUDBase.delete` -/
def CRUDPage.delete (id : ℤ) (now : Datetime) (t : Pages) : Pages where
  table := (CRUDBase.delete (fun p => p.ofTenant currentTenant) id t.table now).2
  unique := unique_delete t _ id now

def slugExists : Exn := .http 409 "Page with this slug already exists"
def pageNotFound : Exn := .http 404 "Page not found"

def createPage (caller : Caller) (pageIn : PageCreate) (t : Pages) : Except Exn (Page × Pages) := do
  let existing ← CRUDPage.getBySlug caller.currentTenant pageIn.slug t
  if existing.isSome then .error slugExists
  else CRUDPage.createWithRelations assigns pageIn caller.tenantId (some caller.id) t

/-- `page_in.slug`, if it is set and is not the slug that the page has. -/
def PageUpdate.renamesTo (pageIn : PageUpdate) (slug : String) : Option Slug :=
  pageIn.slug.join.filter fun s => s.val != slug

def updatePage (caller : Caller) (slug : String) (pageIn : PageUpdate) (t : Pages) : Except Exn (Page × Pages) := do
  match ← CRUDPage.getBySlug caller.currentTenant slug t with
  | none => .error pageNotFound
  | some page =>
    match pageIn.renamesTo slug with
    | none => CRUDPage.updateWithRelations assigns page pageIn t
    | some slug =>
      let existing ← CRUDPage.getBySlug caller.currentTenant slug t
      if existing.isSome then .error slugExists
      else CRUDPage.updateWithRelations assigns page pageIn t

def deletePage (caller : Caller) (slug : String) (now : Datetime) (t : Pages) : Except Exn Pages := do
  match ← CRUDPage.getBySlug caller.currentTenant slug t with
  | none => .error pageNotFound
  | some page => return CRUDPage.delete caller.currentTenant page.id now t

end Code

/-! ### Sequences of requests -/

inductive Request where
  | create (caller : Caller) (pageIn : PageCreate)
  | update (caller : Caller) (slug : String) (pageIn : PageUpdate)
  | delete (caller : Caller) (slug : String) (now : Datetime)

variable (assigns : ℤ → List ℤ → Bool)

/-- What the request leaves, or the exception it ends with. -/
def Request.run (t : Pages) : Request → Except Exn Pages
  | .create caller pageIn => (createPage assigns caller pageIn t).map Prod.snd
  | .update caller slug pageIn => (updatePage assigns caller slug pageIn t).map Prod.snd
  | .delete caller slug now => deletePage caller slug now t

/-- The pages after the request; a session that raises is rolled back. -/
def step (r : Request) (t : Pages) : Pages :=
  match r.run assigns t with
  | .ok t' => t'
  | .error _ => t

/-- The exception a request ends with, if it does. -/
def Request.raised (t : Pages) (r : Request) : Option Exn :=
  match r.run assigns t with
  | .ok _ => none
  | .error e => some e

/-! ### What is to be answered -/

/-- The check of a slug meets at most one page, and the request succeeds if it meets none; else it is refused. -/
def Checked (t : Pages) (r : Request) (caller : Caller) (slug : String) : Prop :=
  (CRUDPage.found caller.currentTenant slug t).length ≤ 1 ∧
    r.raised assigns t = if CRUDPage.found caller.currentTenant slug t = [] then none else some slugExists

/-- A page is created or renamed if the check finds no page with the slug, and a page that is not found is answered with
404; no lookup meets two pages. -/
def Request.Right (t : Pages) : Request → Prop
  | .create caller pageIn => Checked assigns t (.create caller pageIn) caller pageIn.slug
  | .update caller slug pageIn =>
    (CRUDPage.found caller.currentTenant slug t).length ≤ 1 ∧
      if CRUDPage.found caller.currentTenant slug t = [] then
        (Request.update caller slug pageIn).raised assigns t = some pageNotFound
      else
        match pageIn.renamesTo slug with
        | none => (Request.update caller slug pageIn).raised assigns t = none
        | some new => Checked assigns t (.update caller slug pageIn) caller new
  | .delete caller slug now =>
    (CRUDPage.found caller.currentTenant slug t).length ≤ 1 ∧
      (Request.delete caller slug now).raised assigns t =
        if CRUDPage.found caller.currentTenant slug t = [] then some pageNotFound else none

/-- Without a tenant context, no two tenants have a page with this slug that is not deleted. -/
def Alone (t : Pages) (caller : Caller) (slug : String) : Prop :=
  caller.currentTenant = none → ∀ p ∈ t.table.rows, ∀ q ∈ t.table.rows,
    p.slug = slug → q.slug = slug → p.deletedAt = none → q.deletedAt = none → p = q

/-- The tenant has no page with this slug, deleted or out of sight. -/
def Free (t : Pages) (tenantId : Option ℤ) (slug : String) : Prop :=
  tenantId ≠ none → ∀ q ∈ t.table.rows, q.slug = slug → q.tenantId ≠ tenantId

/-- Nothing is set to null that must not be, and the categories and tags can be assigned. -/
def PageUpdate.Settable (pageIn : PageUpdate) (id : ℤ) : Prop :=
  relate assigns id pageIn.categoryIds pageIn.tagIds = .ok () ∧
    pageIn.title ≠ some none ∧ pageIn.slug ≠ some none ∧ pageIn.isPublished ≠ some none

/-- No two tenants have the slug that a request without a tenant context looks up; where a slug is to be written that
the request does not find, the tenant of the page has no other page with it, and the rest of the request can be
written. -/
def Request.Clear (t : Pages) : Request → Prop
  | .create caller pageIn => Alone t caller pageIn.slug ∧
    (CRUDPage.found caller.currentTenant pageIn.slug t = [] → Free t caller.tenantId pageIn.slug ∧
      relate assigns t.table.next (given pageIn.categoryIds) (given pageIn.tagIds) = .ok ())
  | .update caller slug pageIn => Alone t caller slug ∧
    ∀ page, CRUDPage.found caller.currentTenant slug t = [page] →
      match pageIn.renamesTo slug with
      | none => pageIn.Settable assigns page.id
      | some new => Alone t caller new ∧ (CRUDPage.found caller.currentTenant new t = [] →
        Free t page.tenantId new ∧ pageIn.Settable assigns page.id)
  | .delete caller slug _ => Alone t caller slug

/-! ### Lookups -/

variable {assigns} {t : Pages} {caller : Caller} {slug : String} {tenant : Option ℤ} {p q : Page}

lemma mem_found : p ∈ CRUDPage.found tenant slug t ↔
    p ∈ t.table.rows ∧ p.ofTenant tenant = true ∧ p.slug = slug ∧ p.deletedAt = none := by
  simp [CRUDPage.found, Page.ofTenant]

lemma nodup_found : (CRUDPage.found tenant slug t).Nodup := (t.table.nodup_keys.of_map _).filter _

lemma getBySlug_of_nil (h : CRUDPage.found tenant slug t = []) : CRUDPage.getBySlug tenant slug t = .ok none := by
  unfold CRUDPage.getBySlug
  rw [h]
  rfl

lemma getBySlug_of_singleton (h : CRUDPage.found tenant slug t = [p]) :
    CRUDPage.getBySlug tenant slug t = .ok (some p) := by
  unfold CRUDPage.getBySlug
  rw [h]
  rfl

variable (t tenant slug) in
/-- The lookup finds nothing, one page, or it raises. -/
lemma found_cases : CRUDPage.found tenant slug t = [] ∨ (∃ p, CRUDPage.found tenant slug t = [p]) ∨
    ¬(CRUDPage.found tenant slug t).length ≤ 1 := by
  match CRUDPage.found tenant slug t with
  | [] => exact .inl rfl
  | [p] => exact .inr (.inl ⟨p, rfl⟩)
  | _ :: _ :: _ => exact .inr (.inr (by simp))

lemma length_found_le_one : (CRUDPage.found tenant slug t).length ≤ 1 ↔
    ∀ p ∈ CRUDPage.found tenant slug t, ∀ q ∈ CRUDPage.found tenant slug t, p = q := by
  rw [← List.toFinset_card_of_nodup nodup_found, Finset.card_le_one]
  simp

/-- Within a tenant, the index leaves at most one page with the slug. -/
lemma alone_iff : Alone t caller slug ↔ (CRUDPage.found caller.currentTenant slug t).length ≤ 1 := by
  rw [length_found_le_one]
  unfold Alone
  constructor
  · intro h p hp q hq
    obtain ⟨hprow, hptenant, hpslug, hpdeleted⟩ := mem_found.1 hp
    obtain ⟨hqrow, hqtenant, hqslug, hqdeleted⟩ := mem_found.1 hq
    cases hctx : caller.currentTenant with
    | none => exact h hctx p hprow q hqrow hpslug hqslug hpdeleted hqdeleted
    | some c =>
      have hpc := ofTenant_eq_true.1 hptenant c hctx
      have hqc := ofTenant_eq_true.1 hqtenant c hctx
      have hcollides : p.collides q = true :=
        collides_eq_true.2 ⟨by simp [hpc], hpc.trans hqc.symm, hpslug.trans hqslug.symm⟩
      exact t.table.key_injOn hprow hqrow (t.unique p hprow q hqrow hcollides)
  · intro h hctx p hprow q hqrow hp hq hp' hq'
    have hsees : ∀ x : Page, x.ofTenant caller.currentTenant = true := fun x => by simp [hctx, Page.ofTenant]
    exact h p (mem_found.2 ⟨hprow, hsees p, hp, hp'⟩) q (mem_found.2 ⟨hqrow, hsees q, hq, hq'⟩)

/-! ### The writes -/

lemma raised_eq_none {r : Request} : r.raised assigns t = none ↔ ∃ t', r.run assigns t = .ok t' := by
  unfold Request.raised
  cases r.run assigns t <;> simp

lemma raised_eq_some {r : Request} {e : Exn} : r.raised assigns t = some e ↔ r.run assigns t = .error e := by
  unfold Request.raised
  cases r.run assigns t <;> simp

/-- A new page collides with no row exactly if its tenant has no page with the slug. -/
lemma free_iff : (∀ q ∈ t.table.rows, p.collides q = false) ↔ Free t p.tenantId p.slug := by
  unfold Free
  simp only [← Bool.not_eq_true, collides_eq_true]
  constructor
  · intro h hne q hq hslug htenant
    exact h q hq ⟨hne, htenant.symm, hslug.symm⟩
  · rintro h q hq ⟨hne, htenant, hslug⟩
    exact h hne q hq hslug.symm htenant.symm

/-- **A page is created** if its tenant has no page with the slug, and its categories and tags can be assigned. -/
lemma createWithRelations_ok (objIn : PageCreate) (authorId : Option ℤ) :
    (∃ x, CRUDPage.createWithRelations assigns objIn tenant authorId t = .ok x) ↔ Free t tenant objIn.slug ∧
      relate assigns t.table.next (given objIn.categoryIds) (given objIn.tagIds) = .ok () := by
  unfold CRUDPage.createWithRelations
  dsimp only
  split
  · rename_i h
    have hfree : Free t tenant objIn.slug := free_iff.1 h
    cases relate assigns t.table.next (given objIn.categoryIds) (given objIn.tagIds) with
    | ok _ => exact iff_of_true ⟨_, rfl⟩ ⟨hfree, rfl⟩
    | error e => exact iff_of_false (fun ⟨x, hx⟩ => nomatch hx) fun h => nomatch h.2
  · rename_i h
    exact iff_of_false (fun ⟨x, hx⟩ => nomatch hx) fun hfree => h (free_iff.2 hfree.1)

lemma required_eq_ok {α : Type} {set : Option (Option α)} {old a : α} :
    required set old = .ok a ↔ set ≠ some none ∧ set.join.getD old = a := by
  rcases set with _ | _ | b <;> simp [required]

/-- The slug that an update writes. -/
def PageUpdate.slugFor (pageIn : PageUpdate) (old : String) : String := (pageIn.slug.join.map Subtype.val).getD old

lemma required_slug {pageIn : PageUpdate} {old new : String} :
    required (pageIn.slug.map fun s => s.map Subtype.val) old = .ok new ↔
      pageIn.slug ≠ some none ∧ pageIn.slugFor old = new := by
  unfold PageUpdate.slugFor
  rw [required_eq_ok]
  rcases pageIn.slug with _ | _ | s <;> simp

/-- No other page of the tenant has the slug. -/
def FreeFor (t : Pages) (p : Page) (slug : String) : Prop :=
  ∀ q ∈ t.table.rows, q.id ≠ p.id → q.slug = slug → p.tenantId ≠ none → q.tenantId ≠ p.tenantId

lemma freeFor_iff : (∀ q ∈ t.table.rows, q.id ≠ p.id → p.collides q = false) ↔ FreeFor t p p.slug := by
  unfold FreeFor
  simp only [← Bool.not_eq_true, collides_eq_true]
  constructor
  · intro h q hq hid hslug hne htenant
    exact h q hq hid ⟨hne, htenant.symm, hslug.symm⟩
  · rintro h q hq hid ⟨hne, htenant, hslug⟩
    exact h q hq hid hslug.symm hne htenant.symm

/-- **A page is updated** if the request can be written, and no other page of the tenant has the slug it is given. -/
lemma updateWithRelations_ok {pageIn : PageUpdate} :
    (∃ x, CRUDPage.updateWithRelations assigns p pageIn t = .ok x) ↔
      pageIn.Settable assigns p.id ∧ FreeFor t p (pageIn.slugFor p.slug) := by
  unfold CRUDPage.updateWithRelations
  constructor
  · rintro ⟨x, hx⟩
    obtain ⟨_, hrelate, hx⟩ := bind_eq_ok.1 hx
    obtain ⟨title, htitle, hx⟩ := bind_eq_ok.1 hx
    obtain ⟨slug, hslug, hx⟩ := bind_eq_ok.1 hx
    obtain ⟨isPublished, hpublished, hx⟩ := bind_eq_ok.1 hx
    obtain ⟨hset, rfl⟩ := required_slug.1 hslug
    refine ⟨⟨hrelate, (required_eq_ok.1 htitle).1, hset, (required_eq_ok.1 hpublished).1⟩, ?_⟩
    dsimp only at hx
    split at hx
    · rename_i hfree
      let written : Page := { p with title := title, slug := pageIn.slugFor p.slug, isPublished := isPublished }
      exact freeFor_iff (p := written) |>.1 hfree
    · cases hx
  · rintro ⟨⟨hrelate, htitle, hslug, hpublished⟩, hfree⟩
    let written : Page :=
      { p with
        title := pageIn.title.join.getD p.title
        slug := pageIn.slugFor p.slug
        isPublished := pageIn.isPublished.join.getD p.isPublished }
    have hfree := (freeFor_iff (p := written)).2 hfree
    refine ⟨(written, t.put written hfree), ?_⟩
    rw [hrelate, required_eq_ok.2 ⟨htitle, rfl⟩, required_slug.2 ⟨hslug, rfl⟩, required_eq_ok.2 ⟨hpublished, rfl⟩]
    exact dif_pos hfree

/-- Nothing collides with a page that keeps its slug. -/
lemma freeFor_self (hp : p ∈ t.table.rows) : FreeFor t p p.slug := by
  intro q hq hid hslug hne htenant
  exact hid (t.unique p hp q hq (collides_eq_true.2 ⟨hne, htenant.symm, hslug.symm⟩)).symm

/-- The page itself is not in the way of a new slug. -/
lemma freeFor_of_ne (hslug : p.slug ≠ slug) (hp : p ∈ t.table.rows) : FreeFor t p slug ↔ Free t p.tenantId slug := by
  constructor
  · intro h hne q hq hq' htenant
    refine h q hq (fun hid => hslug ?_) hq' hne htenant
    rw [← t.table.key_injOn hq hp hid, hq']
  · intro h q hq _ hq' hne
    exact h hne q hq hq'

/-! ### The three requests -/

lemma create_of_nil {pageIn : PageCreate} (h : CRUDPage.found caller.currentTenant pageIn.slug t = []) :
    createPage assigns caller pageIn t =
      CRUDPage.createWithRelations assigns pageIn caller.tenantId (some caller.id) t := by
  unfold createPage
  rw [getBySlug_of_nil h]
  rfl

theorem create_right_iff {pageIn : PageCreate} :
    (Request.create caller pageIn).Right assigns t ↔ (Request.create caller pageIn).Clear assigns t := by
  unfold Request.Right Request.Clear Checked
  dsimp only
  rw [alone_iff]
  refine and_congr_right fun hone => ?_
  rcases found_cases t pageIn.slug caller.currentTenant with h | ⟨p, h⟩ | h
  · rw [if_pos h, raised_eq_none, forall_prop_of_true h, ← createWithRelations_ok pageIn (some caller.id)]
    show (∃ t', (createPage assigns caller pageIn t).map Prod.snd = .ok t') ↔ _
    rw [create_of_nil h]
    cases CRUDPage.createWithRelations assigns pageIn caller.tenantId (some caller.id) t <;> simp [Except.map]
  · rw [if_neg (by simp [h]), raised_eq_some]
    refine iff_of_true ?_ (by simp [h])
    show (createPage assigns caller pageIn t).map Prod.snd = .error slugExists
    unfold createPage
    rw [getBySlug_of_singleton h]
    rfl
  · exact absurd hone h

section Update

variable {pageIn : PageUpdate} {new : Slug}

lemma update_of_keeps (h : CRUDPage.found caller.currentTenant slug t = [p]) (hkeeps : pageIn.renamesTo slug = none) :
    updatePage assigns caller slug pageIn t = CRUDPage.updateWithRelations assigns p pageIn t := by
  unfold updatePage
  rw [getBySlug_of_singleton h, hkeeps]
  rfl

variable (assigns) in
lemma update_of_renames (h : CRUDPage.found caller.currentTenant slug t = [p])
    (hrenames : pageIn.renamesTo slug = some new) :
    updatePage assigns caller slug pageIn t =
      (CRUDPage.getBySlug caller.currentTenant new t >>= fun existing =>
        if existing.isSome then .error slugExists else CRUDPage.updateWithRelations assigns p pageIn t) := by
  unfold updatePage
  rw [getBySlug_of_singleton h, hrenames]
  rfl

/-- The update raises nothing if `update_with_relations` does not. -/
lemma raised_update (h : updatePage assigns caller slug pageIn t = CRUDPage.updateWithRelations assigns p pageIn t) :
    (Request.update caller slug pageIn).raised assigns t = none ↔
      pageIn.Settable assigns p.id ∧ FreeFor t p (pageIn.slugFor p.slug) := by
  rw [raised_eq_none, ← updateWithRelations_ok, ← h]
  show (∃ t', (updatePage assigns caller slug pageIn t).map Prod.snd = .ok t') ↔ _
  cases updatePage assigns caller slug pageIn t <;> simp [Except.map]

lemma slugFor_of_keeps (h : pageIn.renamesTo slug = none) : pageIn.slugFor slug = slug := by
  unfold PageUpdate.renamesTo at h
  unfold PageUpdate.slugFor
  cases hset : pageIn.slug.join with
  | none => rfl
  | some s => simpa [hset] using h

lemma slugFor_of_renames (h : pageIn.renamesTo slug = some new) : slug ≠ new.val ∧ pageIn.slugFor slug = new.val := by
  obtain ⟨hset, hne⟩ := Option.filter_eq_some_iff.1 h
  unfold PageUpdate.slugFor
  rw [hset]
  exact ⟨fun heq => by simp [heq] at hne, rfl⟩

theorem update_right_iff :
    (Request.update caller slug pageIn).Right assigns t ↔ (Request.update caller slug pageIn).Clear assigns t := by
  unfold Request.Right Request.Clear Checked
  dsimp only
  rw [alone_iff]
  refine and_congr_right fun hone => ?_
  rcases found_cases t slug caller.currentTenant with h | ⟨p, h⟩ | h
  · rw [if_pos h, raised_eq_some]
    refine iff_of_true ?_ (by simp [h])
    show (updatePage assigns caller slug pageIn t).map Prod.snd = .error pageNotFound
    unfold updatePage
    rw [getBySlug_of_nil h]
    rfl
  · obtain ⟨hp, -, rfl, -⟩ := mem_found.1 (h ▸ List.mem_singleton_self p)
    have honly : ∀ {P : Page → Prop}, (∀ page, CRUDPage.found caller.currentTenant p.slug t = [page] → P page) ↔ P p := by
      simp [h]
    rw [if_neg (by simp [h]), honly]
    cases hrenames : pageIn.renamesTo p.slug with
    | none =>
      dsimp only
      rw [raised_update (update_of_keeps h hrenames), slugFor_of_keeps hrenames]
      exact and_iff_left (freeFor_self hp)
    | some new =>
      obtain ⟨hne, hslug⟩ := slugFor_of_renames hrenames
      dsimp only
      rw [alone_iff]
      refine and_congr_right fun hone' => ?_
      rcases found_cases t new caller.currentTenant with hnew | ⟨q, hnew⟩ | hnew
      · have hupdate := update_of_renames assigns h hrenames
        rw [getBySlug_of_nil hnew] at hupdate
        rw [if_pos hnew, forall_prop_of_true hnew, raised_update hupdate, hslug, freeFor_of_ne hne hp]
        exact and_comm
      · rw [if_neg (by simp [hnew]), raised_eq_some]
        refine iff_of_true ?_ (by simp [hnew])
        show (updatePage assigns caller p.slug pageIn t).map Prod.snd = .error slugExists
        rw [update_of_renames assigns h hrenames, getBySlug_of_singleton hnew]
        rfl
      · exact absurd hone' hnew
  · exact absurd hone h

end Update

theorem delete_right_iff {now : Datetime} :
    (Request.delete caller slug now).Right assigns t ↔ (Request.delete caller slug now).Clear assigns t := by
  unfold Request.Right Request.Clear
  dsimp only
  rw [alone_iff]
  refine and_iff_left_of_imp fun hone => ?_
  rcases found_cases t slug caller.currentTenant with h | ⟨p, h⟩ | h
  · rw [if_pos h, raised_eq_some]
    show deletePage caller slug now t = _
    unfold deletePage
    rw [getBySlug_of_nil h]
    rfl
  · rw [if_neg (by simp [h]), raised_eq_none]
    refine ⟨CRUDPage.delete caller.currentTenant p.id now t, ?_⟩
    show deletePage caller slug now t = _
    unfold deletePage
    rw [getBySlug_of_singleton h]
    rfl
  · exact absurd hone h

/-- **Slugs.** In a sequence of requests, pages are created and renamed exactly if the check finds no page with their
slug, and else refused, as long as each request is clear: what the check overlooks, deleted pages and pages of the
writer's tenant that the request is not shown, does not hold the slug, and what it sees is one page. -/
theorem slugs_iff (assigns : ℤ → List ℤ → Bool) (t : Pages) (requests : List Request) :
    Each (step assigns) (fun t r => r.Right assigns t) t requests ↔
      Each (step assigns) (fun t r => r.Clear assigns t) t requests := by
  refine each_congr fun t r => ?_
  cases r with
  | create caller pageIn => exact create_right_iff
  | update caller slug pageIn => exact update_right_iff
  | delete caller slug now => exact delete_right_iff

namespace Sample

/-- A user of tenant 1, without a tenant context. -/
def writer : Caller := { id := 1, tenantId := some 1 }

def about : PageCreate := { title := "About", slug := ⟨"about", by decide⟩ }

end Sample

open Sample in
/-- A page is created, deleted, and created again. -/
theorem not_slugs : ¬Each (step fun _ _ => true) (fun t r => r.Right (fun _ _ => true) t) {}
    [.create writer about, .delete writer "about" 1, .create writer about] := by
  rintro ⟨-, -, ⟨-, hcreated⟩, -⟩
  exact absurd hcreated (by decide)

end FastapiTemplate.Cms
