import FastapiTemplate.Store.Sql

/-!
# The tenant filter

`apply_tenant_filter` of `core.database`, and the listener `_add_tenant_filter`, which does the same with the tenant of
the request. `label` is the name that SQLAlchemy gives to a column of a table within a join; a table of its own has its
columns under their names.

The loop over the FROM list of a `SELECT` ends with the first element that has a column called `tenant_id`, and the
columns of a join have other names. So a FROM list is filtered exactly if it has at most one table with a `tenant_id`,
and that one is no part of a join (`tenant_filter_iff`).
-/

namespace FastapiTemplate.Core

open Store Sql

inductive ClauseElement where
  | select (s : Select)
  | insert (i : Insert)
  | update (u : Update)
  | delete (d : Delete)
  | other

section Code

variable (label : Table → String → String)

/-- The columns of a FROM clause: the key, the place of the table, and the name. -/
def columnsOf : FromClause → List (String × ℕ × String)
  | .table t => t.columns.map fun c => (c, 0, c)
  | .join left right _ _ _ => (left.tables ++ right.tables).zipIdx.flatMap fun (t, place) =>
    t.columns.map fun c => (label t c, place, c)

/-- `table.columns.get("tenant_id")` -/
def tenantId? (f : FromClause) : Option (ℕ × String) :=
  ((columnsOf label f).find? fun c => c.1 == "tenant_id").map Prod.snd

/-- The column that the loop over a FROM list stops at, if the first table of the list has this place. -/
def tenantColumn : List FromClause → ℕ → Option (ℕ × String)
  | [], _ => none
  | f :: rest, place =>
    match tenantId? label f with
    | some (i, column) => some (place + i, column)
    | none => tenantColumn rest (place + f.tables.length)

def filterSelect (tenantId : ℤ) (s : Select) : Select :=
  match tenantColumn label s.froms 0 with
  | some (place, column) => s.addWhere (columnIs place column tenantId)
  | none => s

def filterInsert (tenantId : ℤ) (i : Insert) : Insert :=
  if "tenant_id" ∈ i.table.columns ∧ "tenant_id" ∉ i.values.map Prod.fst then
    { i with values := i.values ++ [("tenant_id", .int tenantId)] }
  else i

def filterUpdate (tenantId : ℤ) (u : Update) : Update :=
  if "tenant_id" ∈ u.table.columns then u.addWhere fun row => row "tenant_id" == .int tenantId else u

def filterDelete (tenantId : ℤ) (d : Delete) : Delete :=
  if "tenant_id" ∈ d.table.columns then d.addWhere fun row => row "tenant_id" == .int tenantId else d

def applyTenantFilter (tenantId : Option ℤ) (clauseelement : ClauseElement) : ClauseElement :=
  match tenantId with
  | none => clauseelement
  | some tenantId =>
    match clauseelement with
    | .select s => .select (filterSelect label tenantId s)
    | .insert i => .insert (filterInsert tenantId i)
    | .update u => .update (filterUpdate tenantId u)
    | .delete d => .delete (filterDelete tenantId d)
    | .other => .other

/-- The listener has the same body, for `get_current_tenant()`. -/
def addTenantFilter (currentTenant : Option ℤ) (clauseelement : ClauseElement) : ClauseElement :=
  applyTenantFilter label currentTenant clauseelement

end Code

/-! ### What is to be returned -/

/-- Every row of a table with a `tenant_id` is one of the tenant's. -/
def OfTenant (tenantId : ℤ) (tables : List Table) (combination : Combination) : Prop :=
  ∀ (place : ℕ) (table : Table) (row : Row), tables[place]? = some table → "tenant_id" ∈ table.columns →
    combination[place]? = some (some row) → row "tenant_id" = .int tenantId

/-- A table with a `tenant_id` is in it. -/
def Scoped (f : FromClause) : Prop := ∃ table ∈ f.tables, "tenant_id" ∈ table.columns

variable (label : Table → String → String)

/-- There is at most one table with a `tenant_id`: it is no part of a join, and stands behind no join that has something
else under this name. -/
def Confined (froms : List FromClause) : Prop :=
  (∀ f ∈ froms, ¬Scoped f) ∨ ∃ before table after, froms = before ++ .table table :: after ∧
    (∀ f ∈ before ++ after, ¬Scoped f) ∧ ∀ f ∈ before, tenantId? label f = none

/-- The loop stops at the `tenant_id` of each table that has one. -/
def Found (froms : List FromClause) (start : ℕ) : Prop :=
  ∀ (place : ℕ) (table : Table), (tablesOf froms)[place]? = some table → "tenant_id" ∈ table.columns →
    tenantColumn label froms start = some (start + place, "tenant_id")

variable {label} {froms rest : List FromClause} {f : FromClause} {t : Table} {tenantId : ℤ}

/-! ### Columns -/

lemma mem_columnsOf {column : ℕ × String} (h : tenantId? label f = some column) :
    ("tenant_id", column) ∈ columnsOf label f := by
  obtain ⟨x, hx, rfl⟩ := Option.map_eq_some_iff.1 h
  have hfound := List.find?_some hx
  have hkey : x.1 = "tenant_id" := by simpa using hfound
  rw [← hkey]
  exact List.mem_of_find?_eq_some hx

lemma notMem_columnsOf (h : tenantId? label f = none) (column : ℕ × String) : ("tenant_id", column) ∉ columnsOf label f := by
  intro hmem
  have hnone := List.find?_eq_none.1 (Option.map_eq_none_iff.1 h) _ hmem
  exact hnone (beq_self_eq_true _)

lemma mem_columnsOf_table {i : ℕ} {column : String} :
    ("tenant_id", i, column) ∈ columnsOf label (.table t) ↔ i = 0 ∧ column = "tenant_id" ∧ "tenant_id" ∈ t.columns := by
  unfold columnsOf
  rw [List.mem_map]
  constructor
  · rintro ⟨c, hc, heq⟩
    obtain ⟨rfl, rfl, rfl⟩ : c = "tenant_id" ∧ 0 = i ∧ c = column := by simpa using heq
    exact ⟨rfl, rfl, hc⟩
  · rintro ⟨rfl, rfl, hc⟩
    exact ⟨_, hc, rfl⟩

lemma exists_of_mem_columnsOf {i : ℕ} {column : String} (h : ("tenant_id", i, column) ∈ columnsOf label f) :
    i < f.tables.length := by
  cases f with
  | table t =>
    rw [(mem_columnsOf_table.1 h).1]
    exact Nat.one_pos
  | join left right on isouter full =>
    obtain ⟨x, hx, hmem⟩ := List.mem_flatMap.1 h
    obtain ⟨c, -, heq⟩ := List.mem_map.1 hmem
    obtain ⟨-, rfl, -⟩ : label x.1 c = "tenant_id" ∧ x.2 = i ∧ c = column := by simpa using heq
    simpa [FromClause.tables] using List.snd_lt_of_mem_zipIdx hx

/-- In a join, the `tenant_id` of a table has another name. -/
lemma column_ne_of_join (hlabel : ∀ t, label t "tenant_id" ≠ "tenant_id") {left right : FromClause}
    {on : Combination → Bool} {isouter full : Bool} {i : ℕ} {column : String}
    (h : tenantId? label (.join left right on isouter full) = some (i, column)) : column ≠ "tenant_id" := by
  rintro rfl
  obtain ⟨x, -, hmem⟩ := List.mem_flatMap.1 (mem_columnsOf h)
  obtain ⟨c, -, heq⟩ := List.mem_map.1 hmem
  obtain ⟨hkey, -, rfl⟩ : label x.1 c = "tenant_id" ∧ x.2 = i ∧ c = "tenant_id" := by simpa using heq
  exact hlabel x.1 hkey

lemma scoped_table : Scoped (.table t) ↔ "tenant_id" ∈ t.columns := by
  simp [Scoped, FromClause.tables]

lemma tenantColumn_of_some {start i : ℕ} {column : String} (h : tenantId? label f = some (i, column)) :
    tenantColumn label (f :: rest) start = some (start + i, column) := by
  unfold tenantColumn
  rw [h]

lemma tenantColumn_of_none {start : ℕ} (h : tenantId? label f = none) :
    tenantColumn label (f :: rest) start = tenantColumn label rest (start + f.tables.length) := by
  conv_lhs => unfold tenantColumn
  rw [h]

/-- The loop stops at one of the tables. -/
lemma tenantColumn_bounds {start place : ℕ} {column : String} (h : tenantColumn label froms start = some (place, column)) :
    start ≤ place ∧ place < start + (tablesOf froms).length := by
  induction froms generalizing start with
  | nil => cases h
  | cons f rest ih =>
    have hlength : (tablesOf (f :: rest)).length = f.tables.length + (tablesOf rest).length := by simp [tablesOf]
    cases hid : tenantId? label f with
    | none =>
      rw [tenantColumn_of_none hid] at h
      have hbounds := ih h
      omega
    | some x =>
      rw [tenantColumn_of_some (i := x.1) hid] at h
      have hlt := exists_of_mem_columnsOf (i := x.1) (mem_columnsOf hid)
      obtain ⟨rfl, -⟩ : start + x.1 = place ∧ x.2 = column := by simpa using h
      omega

/-! ### What is found -/

lemma found_of_unscoped {start : ℕ} (h : ∀ f ∈ froms, ¬Scoped f) : Found label froms start := by
  intro place table hget hcolumn
  obtain ⟨f, hf, hmem⟩ := List.mem_flatMap.1 (List.mem_of_getElem? hget)
  exact absurd ⟨table, hmem, hcolumn⟩ (h f hf)

/-- The loop passes over what has no `tenant_id`. -/
lemma found_cons_of_none {start : ℕ} (hid : tenantId? label f = none) :
    Found label (f :: rest) start ↔ ¬Scoped f ∧ Found label rest (start + f.tables.length) := by
  have hlength : tablesOf (f :: rest) = f.tables ++ tablesOf rest := rfl
  unfold Found
  rw [tenantColumn_of_none hid, hlength]
  constructor
  · intro h
    refine ⟨?_, fun place table hget hcolumn => ?_⟩
    · rintro ⟨table, hmem, hcolumn⟩
      obtain ⟨place, hlt, rfl⟩ := List.getElem_of_mem hmem
      have hfound := h place _ (by rw [List.getElem?_append_left hlt, List.getElem?_eq_getElem hlt]) hcolumn
      have hbounds := (tenantColumn_bounds hfound).1
      omega
    · have hfound := h (f.tables.length + place) table
        (by rw [List.getElem?_append_right (Nat.le_add_right _ _), Nat.add_sub_cancel_left, hget]) hcolumn
      rw [hfound, Nat.add_assoc]
  · rintro ⟨hnone, h⟩ place table hget hcolumn
    by_cases hlt : place < f.tables.length
    · rw [List.getElem?_append_left hlt] at hget
      exact absurd ⟨table, List.mem_of_getElem? hget, hcolumn⟩ hnone
    · rw [List.getElem?_append_right (Nat.le_of_not_lt hlt)] at hget
      rw [h _ table hget hcolumn]
      simp only [Option.some.injEq, Prod.mk.injEq, and_true]
      omega

lemma confined_cons_of_none (hid : tenantId? label f = none) :
    Confined label (f :: rest) ↔ ¬Scoped f ∧ Confined label rest := by
  constructor
  · rintro (hnone | ⟨before, table, after, heq, hunscoped, hbefore⟩)
    · exact ⟨hnone f List.mem_cons_self, .inl fun g hg => hnone g (List.mem_cons_of_mem _ hg)⟩
    · cases before with
      | nil =>
        obtain ⟨rfl, rfl⟩ := List.cons.inj heq
        refine ⟨fun hscoped => ?_, .inl hunscoped⟩
        exact notMem_columnsOf hid (0, "tenant_id") (mem_columnsOf_table.2 ⟨rfl, rfl, scoped_table.1 hscoped⟩)
      | cons g before =>
        obtain ⟨rfl, rfl⟩ := List.cons.inj heq
        refine ⟨hunscoped _ List.mem_cons_self, .inr ⟨before, table, after, rfl, fun g hg => ?_, fun g hg => ?_⟩⟩
        · exact hunscoped g (List.mem_cons_of_mem _ hg)
        · exact hbefore g (List.mem_cons_of_mem _ hg)
  · rintro ⟨hf, hnone | ⟨before, table, after, rfl, hunscoped, hbefore⟩⟩
    · exact .inl (List.forall_mem_cons.2 ⟨hf, hnone⟩)
    · refine .inr ⟨f :: before, table, after, rfl, ?_, List.forall_mem_cons.2 ⟨hid, hbefore⟩⟩
      exact List.forall_mem_cons.2 ⟨hf, hunscoped⟩

/-- If the first element is not passed over, no other one may have a `tenant_id`. -/
lemma found_cons_of_some {start i : ℕ} {column : String} (hid : tenantId? label f = some (i, column)) :
    Found label (f :: rest) start ↔ ∀ (place : ℕ) (table : Table), (f.tables ++ tablesOf rest)[place]? = some table →
      "tenant_id" ∈ table.columns → place = i ∧ column = "tenant_id" := by
  unfold Found
  rw [tenantColumn_of_some hid]
  refine forall_congr' fun place => forall_congr' fun table => imp_congr Iff.rfl (imp_congr Iff.rfl ?_)
  simp only [Option.some.injEq, Prod.mk.injEq]
  exact and_congr (by omega) Iff.rfl

/-- A table is filtered, and nothing behind it. -/
lemma found_cons_table {start : ℕ} (hid : tenantId? label (.table t) = some (0, "tenant_id")) :
    Found label (.table t :: rest) start ↔ ∀ g ∈ rest, ¬Scoped g := by
  rw [found_cons_of_some hid]
  constructor
  · rintro h g hg ⟨table, hmem, htable⟩
    obtain ⟨place, hlt, heq⟩ := List.getElem_of_mem (List.mem_flatMap.2 ⟨g, hg, hmem⟩)
    have hget : ((FromClause.table t).tables ++ tablesOf rest)[1 + place]? = some table := by
      rw [List.getElem?_append_right (by simp [FromClause.tables])]
      simp [FromClause.tables, ← heq, tablesOf]
    have hplace := (h (1 + place) table hget htable).1
    omega
  · intro h place table hget htable
    cases place with
    | zero => exact ⟨rfl, rfl⟩
    | succ place =>
      obtain ⟨g, hg, hmem⟩ := List.mem_flatMap.1 (List.mem_of_getElem? (i := place) hget)
      exact absurd ⟨table, hmem, htable⟩ (h g hg)

/-- Of a join, no `tenant_id` is filtered. -/
lemma found_cons_join (hlabel : ∀ t, label t "tenant_id" ≠ "tenant_id") {left right : FromClause}
    {on : Combination → Bool} {isouter full : Bool} {start : ℕ} {x : ℕ × String}
    (hid : tenantId? label (.join left right on isouter full) = some x) :
    Found label (.join left right on isouter full :: rest) start ↔
      ∀ g ∈ .join left right on isouter full :: rest, ¬Scoped g := by
  refine ⟨?_, found_of_unscoped⟩
  rintro h g hg ⟨table, hmem, hcolumn⟩
  rw [found_cons_of_some (i := x.1) hid] at h
  obtain ⟨place, hlt, heq⟩ := List.getElem_of_mem (List.mem_flatMap.2 ⟨g, hg, hmem⟩)
  have hname := (h place table (by rw [← heq]; exact List.getElem?_eq_getElem hlt) hcolumn).2
  exact column_ne_of_join hlabel (i := x.1) hid hname

/-- If the first element is not passed over, it is the table with the `tenant_id`, or there is none. -/
lemma confined_cons_of_some {x : ℕ × String} (hid : tenantId? label f = some x) :
    Confined label (f :: rest) ↔ (∀ g ∈ f :: rest, ¬Scoped g) ∨ ∃ t, f = .table t ∧ ∀ g ∈ rest, ¬Scoped g := by
  refine or_congr Iff.rfl ⟨?_, ?_⟩
  · rintro ⟨before, table, after, heq, hunscoped, hbefore⟩
    cases before with
    | nil =>
      obtain ⟨rfl, rfl⟩ := List.cons.inj heq
      exact ⟨table, rfl, hunscoped⟩
    | cons g before =>
      obtain ⟨rfl, rfl⟩ := List.cons.inj heq
      have hpassed := hbefore _ List.mem_cons_self
      rw [hid] at hpassed
      cases hpassed
  · rintro ⟨t, rfl, hunscoped⟩
    exact ⟨[], t, rest, rfl, hunscoped, fun g hg => nomatch hg⟩

theorem found_iff (hlabel : ∀ t, label t "tenant_id" ≠ "tenant_id") {start : ℕ} :
    Found label froms start ↔ Confined label froms := by
  induction froms generalizing start with
  | nil => exact ⟨fun _ => .inl fun f hf => (nomatch hf), fun _ place table hget => (nomatch hget)⟩
  | cons f rest ih =>
    cases hid : tenantId? label f with
    | none => rw [found_cons_of_none hid, confined_cons_of_none hid, ih]
    | some x =>
      rw [confined_cons_of_some hid]
      cases f with
      | table t =>
        obtain ⟨hplace, hname, _⟩ := mem_columnsOf_table.1 (mem_columnsOf hid)
        obtain rfl : x = (0, "tenant_id") := Prod.ext hplace hname
        rw [found_cons_table hid]
        refine ⟨fun h => .inr ⟨t, rfl, h⟩, ?_⟩
        rintro (hnone | ⟨_, _, h⟩)
        · exact fun g hg => hnone g (List.mem_cons_of_mem _ hg)
        · exact h
      | join left right on isouter full =>
        rw [found_cons_join hlabel hid]
        refine ⟨.inl, ?_⟩
        rintro (hnone | ⟨_, heq, _⟩)
        · exact hnone
        · cases heq

/-! ### What is returned -/

@[simp] lemma tablesOf_crossed (froms : List FromClause) : tablesOf (froms.map FromClause.crossed) = tablesOf froms := by
  simp [tablesOf, List.flatMap_map]

@[simp] lemma crossed_crossed (f : FromClause) : f.crossed.crossed = f.crossed := by
  induction f with
  | table t => rfl
  | join left right on isouter full ihl ihr => simp [FromClause.crossed, ihl, ihr]

@[simp] lemma tenantId_crossed (f : FromClause) : tenantId? label f.crossed = tenantId? label f := by
  cases f with
  | table t => rfl
  | join left right on isouter full => simp [tenantId?, columnsOf, FromClause.crossed]

@[simp] lemma tenantColumn_crossed (froms : List FromClause) (start : ℕ) :
    tenantColumn label (froms.map FromClause.crossed) start = tenantColumn label froms start := by
  induction froms generalizing start with
  | nil => rfl
  | cons f rest ih => simp [tenantColumn, ih]

/-- What is found does not depend on how the tables are joined. -/
lemma found_congr {froms' : List FromClause} (h : froms'.map FromClause.crossed = froms.map FromClause.crossed) :
    tablesOf froms' = tablesOf froms ∧ ∀ start, tenantColumn label froms' start = tenantColumn label froms start := by
  refine ⟨?_, fun start => ?_⟩
  · rw [← tablesOf_crossed froms', h, tablesOf_crossed]
  · rw [← tenantColumn_crossed froms', h, tenantColumn_crossed]

lemma row_of_columnIs {place : ℕ} {column : String} {n : ℤ} {combination : Combination} {row : Row}
    (h : columnIs place column n combination = true) (hrow : combination[place]? = some (some row)) : row column = .int n := by
  unfold columnIs at h
  rw [hrow] at h
  exact beq_iff_eq.1 h

/-- A row of the tenant, and one that is his but for the `tenant_id`. -/
def ownRow (tenantId : ℤ) : Row := fun _ => .int tenantId

def foreignRow (tenantId : ℤ) : Row := fun column => if column = "tenant_id" then .int (tenantId + 1) else .int tenantId

/-- The foreign row in one place, and the other one everywhere else. -/
def intrusion (tenantId : ℤ) (count place : ℕ) : List Row :=
  (List.range count).map fun i => if i = place then foreignRow tenantId else ownRow tenantId

lemma getElem_intrusion {count place i : ℕ} (h : i < count) : ((intrusion tenantId count place).map some)[i]? =
    some (some (if i = place then foreignRow tenantId else ownRow tenantId)) := by
  simp [intrusion, h]

/-- The tables that have such rows. -/
def mixedRows (tenantId : ℤ) : Rows := fun _ => [ownRow tenantId, foreignRow tenantId]

/-- The filter lets the foreign row pass, if the loop does not stop at its `tenant_id`. -/
lemma intrusion_returned (label : Table → String → String) (tenantId : ℤ) (froms : List FromClause) {place : ℕ}
    (hplace : tenantColumn label froms 0 ≠ some (place, "tenant_id")) :
    (intrusion tenantId (tablesOf froms).length place).map some ∈
      (filterSelect label tenantId { froms := froms.map FromClause.crossed }).rows (mixedRows tenantId) := by
  have hshown : (intrusion tenantId (tablesOf froms).length place).map some ∈
      rowsOf (mixedRows tenantId) (froms.map FromClause.crossed) := by
    refine crossed_rowsOf (by simp [intrusion]) fun row hrow _ => ?_
    obtain ⟨i, -, rfl⟩ := List.mem_map.1 hrow
    split <;> simp [mixedRows]
  have hreturned : (intrusion tenantId (tablesOf froms).length place).map some ∈
      Select.rows (mixedRows tenantId) { froms := froms.map FromClause.crossed } := List.mem_filter.2 ⟨hshown, rfl⟩
  unfold filterSelect
  rw [tenantColumn_crossed]
  cases hstop : tenantColumn label froms 0 with
  | none => exact hreturned
  | some x =>
    have hbounds : x.1 < 0 + (tablesOf froms).length := (tenantColumn_bounds hstop).2
    rw [Nat.zero_add] at hbounds
    have hpass : columnIs x.1 x.2 tenantId ((intrusion tenantId (tablesOf froms).length place).map some) = true := by
      unfold columnIs
      rw [getElem_intrusion hbounds]
      by_cases hx : x.1 = place
      · have hcolumn : x.2 ≠ "tenant_id" := by
          intro hcolumn
          exact hplace (hstop.trans (congrArg some (Prod.ext hx hcolumn)))
        simp [hx, foreignRow, hcolumn]
      · simp [hx, ownRow]
    exact Select.mem_rows_addWhere.2 ⟨hreturned, hpass⟩

/-- Every statement with these tables, however they are joined, returns what is the tenant's. -/
def SelectsOwn (filter : Option ℤ → ClauseElement → ClauseElement) (tenantId : ℤ) (froms : List FromClause) : Prop :=
  ∀ s : Select, s.froms.map FromClause.crossed = froms.map FromClause.crossed →
    ∀ s', filter (some tenantId) (.select s) = .select s' → ∀ db, ∀ c ∈ s'.rows db, OfTenant tenantId (tablesOf froms) c

theorem selectsOwn_iff : SelectsOwn (applyTenantFilter label) tenantId froms ↔ Found label froms 0 := by
  constructor
  · intro h place table hget hcolumn
    rw [Nat.zero_add]
    by_contra hne
    have hsame : (froms.map FromClause.crossed).map FromClause.crossed = froms.map FromClause.crossed := by
      simp [Function.comp_def]
    have hlt := (List.getElem?_eq_some_iff.1 hget).1
    have hreturned := intrusion_returned label tenantId froms hne
    have hown := h { froms := froms.map FromClause.crossed } hsame _ rfl _ _ hreturned place table _ hget hcolumn
      (getElem_intrusion hlt)
    rw [if_pos rfl] at hown
    simp only [foreignRow, if_true, SqlValue.int.injEq] at hown
    omega
  · intro h s hsame s' hs' db c hc place table row hget hcolumn hrow
    have hfound : ∀ start, tenantColumn label s.froms start = tenantColumn label froms start := (found_congr hsame).2
    obtain rfl : filterSelect label tenantId s = s' := by simpa [applyTenantFilter] using hs'
    have hstop := (hfound 0).trans (h place table hget hcolumn)
    rw [Nat.zero_add] at hstop
    unfold filterSelect at hc
    rw [hstop] at hc
    exact row_of_columnIs (Select.mem_rows_addWhere.1 hc).2 hrow

/-- The rows that a filtered `UPDATE` changes. -/
lemma updatesOwn {u u' : Update} (hcolumn : "tenant_id" ∈ u.table.columns)
    (h : applyTenantFilter label (some tenantId) (.update u) = .update u') {db : Rows} {row : Row}
    (hrow : row ∈ u'.touched db) : row "tenant_id" = .int tenantId := by
  obtain rfl : filterUpdate tenantId u = u' := by simpa [applyTenantFilter] using h
  unfold filterUpdate at hrow
  rw [if_pos hcolumn] at hrow
  exact beq_iff_eq.1 (Update.mem_touched_addWhere.1 hrow).2

/-- The rows that a filtered `DELETE` removes. -/
lemma deletesOwn {d d' : Delete} (hcolumn : "tenant_id" ∈ d.table.columns)
    (h : applyTenantFilter label (some tenantId) (.delete d) = .delete d') {db : Rows} {row : Row}
    (hrow : row ∈ d'.touched db) : row "tenant_id" = .int tenantId := by
  obtain rfl : filterDelete tenantId d = d' := by simpa [applyTenantFilter] using h
  unfold filterDelete at hrow
  rw [if_pos hcolumn] at hrow
  exact beq_iff_eq.1 (Delete.mem_touched_addWhere.1 hrow).2

/-- What `filter` makes of a statement returns and touches rows of the tenant only. -/
structure TenantRows (filter : Option ℤ → ClauseElement → ClauseElement) (tenantId : ℤ) (froms : List FromClause) :
    Prop where
  selects : SelectsOwn filter tenantId froms
  updates : ∀ u u' : Update, "tenant_id" ∈ u.table.columns → filter (some tenantId) (.update u) = .update u' →
    ∀ db, ∀ row ∈ u'.touched db, row "tenant_id" = .int tenantId
  deletes : ∀ d d' : Delete, "tenant_id" ∈ d.table.columns → filter (some tenantId) (.delete d) = .delete d' →
    ∀ db, ∀ row ∈ d'.touched db, row "tenant_id" = .int tenantId

/-- **Only rows of the tenant, exactly if** the FROM list has at most one table with a `tenant_id` outside of joins, and
none within; for the listener and for its copy. -/
theorem tenant_filter_iff (hlabel : ∀ t, label t "tenant_id" ≠ "tenant_id") :
    (TenantRows (addTenantFilter label) tenantId froms ↔ Confined label froms) ∧
      (TenantRows (applyTenantFilter label) tenantId froms ↔ Confined label froms) := by
  have key : TenantRows (applyTenantFilter label) tenantId froms ↔ Confined label froms := by
    have hselects : SelectsOwn (applyTenantFilter label) tenantId froms ↔ Confined label froms :=
      selectsOwn_iff.trans (found_iff hlabel)
    rw [← hselects]
    constructor
    · exact fun h => h.selects
    · intro h
      exact ⟨h, fun u u' hcolumn hu db row hrow => updatesOwn hcolumn hu hrow,
        fun d d' hcolumn hd db row hrow => deletesOwn hcolumn hd hrow⟩
  exact ⟨key, key⟩

namespace Sample

def tableQualified (t : Table) (column : String) : String := t.name ++ "_" ++ column

lemma tableQualified_ne (t : Table) : tableQualified t "tenant_id" ≠ "tenant_id" := by
  intro h
  have hlength := congrArg String.length h
  simp only [tableQualified, String.length_append] at hlength
  have hunderscore : "_".length = 1 := rfl
  omega

def webhooks : Table := { name := "webhooks", source := "webhooks", columns := ["id", "tenant_id", "url"] }

def deliveries : Table :=
  { name := "webhook_deliveries", source := "webhook_deliveries", columns := ["id", "tenant_id", "webhook_id"] }

/-- The FROM list of `get_delivery_with_webhook`, and of the same statement without `.join`. -/
def joined : List FromClause := [.join (.table deliveries) (.table webhooks) (fun _ => true) false false]

def listed : List FromClause := [.table deliveries, .table webhooks]

end Sample

open Sample in
theorem tenant_filter_deliveries : TenantRows (addTenantFilter tableQualified) 7 [.table deliveries] ↔
    Confined tableQualified [.table deliveries] :=
  (tenant_filter_iff tableQualified_ne).1

open Sample in
/-- Of two tables the second one is not filtered, and in a join neither is. -/
theorem not_tenantRows : ¬TenantRows (addTenantFilter tableQualified) 7 listed ∧
    ¬TenantRows (addTenantFilter tableQualified) 7 joined := by
  constructor
  · intro h
    have hreturned := intrusion_returned tableQualified 7 listed (show _ ≠ some (1, _) by decide)
    have hown := h.selects { froms := listed } rfl _ rfl _ _ hreturned 1 webhooks _ rfl (by decide) rfl
    exact absurd hown (by decide)
  · intro h
    have hreturned := intrusion_returned tableQualified 7 joined (show _ ≠ some (0, _) by decide)
    have hown := h.selects { froms := joined } rfl _ rfl _ _ hreturned 0 deliveries _ rfl (by decide) rfl
    exact absurd hown (by decide)

end FastapiTemplate.Core
