import Mathlib.Data.Int.Notation
import Mathlib.Data.List.Basic

/-!
# Statements over tables

The FROM list of a `SELECT` is made of tables and of joins. What a statement returns is a combination of rows, one for
each table of its FROM list in the order in which they stand there; an outer join has no row where it found none.

`crossed_rows` is the rule for what a FROM list can show: if no `ON` excludes anything, every choice of rows.
-/

namespace FastapiTemplate.Store.Sql

inductive SqlValue where
  | null
  | int (n : ℤ)
  | text (s : String)
  deriving DecidableEq, Repr

/-- The values of the columns. -/
abbrev Row := String → SqlValue

/-- A table, or an alias of one; `source` is the table that has the rows. -/
structure Table where
  name : String
  source : String
  columns : List String

/-- The rows of the tables. -/
abbrev Rows := String → List Row

/-- The rows that stand together, in the order of the tables. -/
abbrev Combination := List (Option Row)

inductive FromClause where
  | table (t : Table)
  | join (left right : FromClause) (on : Combination → Bool) (isouter full : Bool)

namespace FromClause

def tables : FromClause → List Table
  | table t => [t]
  | join left right _ _ _ => left.tables ++ right.tables

/-- No row of any of the tables. -/
def nulls (f : FromClause) : Combination := List.replicate f.tables.length none

def rows (db : Rows) : FromClause → List Combination
  | table t => (db t.source).map fun row => [some row]
  | join left right on isouter full =>
    let lefts := left.rows db
    let rights := right.rows db
    (lefts.flatMap fun a => (rights.filter fun b => on (a ++ b)).map (a ++ ·)) ++
      (if isouter || full then (lefts.filter fun a => !rights.any fun b => on (a ++ b)).map (· ++ right.nulls) else []) ++
      if full then (rights.filter fun b => !lefts.any fun a => on (a ++ b)).map (left.nulls ++ ·) else []

/-- The same tables, joined with no condition. -/
def crossed : FromClause → FromClause
  | table t => table t
  | join left right _ isouter full => join left.crossed right.crossed (fun _ => true) isouter full

@[simp] lemma tables_crossed (f : FromClause) : f.crossed.tables = f.tables := by
  induction f with
  | table t => rfl
  | join left right on isouter full ihl ihr => simp [crossed, tables, ihl, ihr]

end FromClause

/-- The tables of a FROM list. -/
def tablesOf (froms : List FromClause) : List Table := froms.flatMap FromClause.tables

def rowsOf (db : Rows) : List FromClause → List Combination
  | [] => [[]]
  | f :: rest => (f.rows db).flatMap fun a => (rowsOf db rest).map (a ++ ·)

structure Select where
  froms : List FromClause
  criteria : List (Combination → Bool) := []

structure Insert where
  table : Table
  values : List (String × SqlValue)

structure Update where
  table : Table
  criteria : List (Row → Bool) := []

structure Delete where
  table : Table
  criteria : List (Row → Bool) := []

/-- The combinations that a `SELECT` returns, before it computes anything from them. -/
def Select.rows (db : Rows) (s : Select) : List Combination := (rowsOf db s.froms).filter fun c => s.criteria.all (· c)

/-- The rows that an `UPDATE` changes. -/
def Update.touched (db : Rows) (u : Update) : List Row := (db u.table.source).filter fun r => u.criteria.all (· r)

/-- The rows that a `DELETE` removes. -/
def Delete.touched (db : Rows) (d : Delete) : List Row := (db d.table.source).filter fun r => d.criteria.all (· r)

/-- `.where(criterion)` -/
def Select.addWhere (criterion : Combination → Bool) (s : Select) : Select := { s with criteria := s.criteria ++ [criterion] }

def Update.addWhere (criterion : Row → Bool) (u : Update) : Update := { u with criteria := u.criteria ++ [criterion] }

def Delete.addWhere (criterion : Row → Bool) (d : Delete) : Delete := { d with criteria := d.criteria ++ [criterion] }

@[simp] lemma Select.mem_rows_addWhere {db : Rows} {s : Select} {criterion : Combination → Bool} {c : Combination} :
    c ∈ (s.addWhere criterion).rows db ↔ c ∈ s.rows db ∧ criterion c = true := by
  simp [Select.rows, Select.addWhere, and_assoc]

@[simp] lemma Update.mem_touched_addWhere {db : Rows} {u : Update} {criterion : Row → Bool} {row : Row} :
    row ∈ (u.addWhere criterion).touched db ↔ row ∈ u.touched db ∧ criterion row = true := by
  simp [Update.touched, Update.addWhere, and_assoc]

@[simp] lemma Delete.mem_touched_addWhere {db : Rows} {d : Delete} {criterion : Row → Bool} {row : Row} :
    row ∈ (d.addWhere criterion).touched db ↔ row ∈ d.touched db ∧ criterion row = true := by
  simp [Delete.touched, Delete.addWhere, and_assoc]

/-- `column = n`, for the table in this place; nothing is equal to `NULL`. -/
def columnIs (place : ℕ) (column : String) (n : ℤ) (combination : Combination) : Bool :=
  match combination[place]? with
  | some (some row) => row column == .int n
  | _ => false

/-- Joined with no condition, a FROM clause shows every choice of rows. -/
lemma crossed_rows {db : Rows} {f : FromClause} {choice : List Row} (hlength : choice.length = f.tables.length)
    (hrows : ∀ row ∈ choice, ∀ source, row ∈ db source) : choice.map some ∈ f.crossed.rows db := by
  induction f generalizing choice with
  | table t =>
    obtain ⟨row, rfl⟩ := List.length_eq_one_iff.1 hlength
    exact List.mem_map.2 ⟨row, hrows row (List.mem_singleton_self row) t.source, rfl⟩
  | join left right on isouter full ihl ihr =>
    rw [FromClause.tables, List.length_append] at hlength
    have hleft : (choice.take left.tables.length).map some ∈ left.crossed.rows db := ihl (by simp; omega)
      fun row hrow => hrows row (List.mem_of_mem_take hrow)
    have hright : (choice.drop left.tables.length).map some ∈ right.crossed.rows db := ihr (by simp; omega)
      fun row hrow => hrows row (List.mem_of_mem_drop hrow)
    have hsplit : choice.map some = (choice.take left.tables.length).map some ++
        (choice.drop left.tables.length).map some := by
      rw [← List.map_append, List.take_append_drop]
    refine List.mem_append_left _ (List.mem_append_left _ (List.mem_flatMap.2 ⟨_, hleft, ?_⟩))
    exact List.mem_map.2 ⟨_, List.mem_filter.2 ⟨hright, rfl⟩, hsplit.symm⟩

lemma crossed_rowsOf {db : Rows} {froms : List FromClause} {choice : List Row}
    (hlength : choice.length = (tablesOf froms).length) (hrows : ∀ row ∈ choice, ∀ source, row ∈ db source) :
    choice.map some ∈ rowsOf db (froms.map FromClause.crossed) := by
  induction froms generalizing choice with
  | nil =>
    obtain rfl := List.length_eq_zero_iff.1 hlength
    exact List.mem_singleton_self _
  | cons f rest ih =>
    rw [tablesOf, List.flatMap_cons, List.length_append] at hlength
    have hfirst : (choice.take f.tables.length).map some ∈ f.crossed.rows db := crossed_rows (by simp; omega)
      fun row hrow => hrows row (List.mem_of_mem_take hrow)
    have hrest : (choice.drop f.tables.length).map some ∈ rowsOf db (rest.map FromClause.crossed) :=
      ih (by rw [List.length_drop]; unfold tablesOf; omega) fun row hrow => hrows row (List.mem_of_mem_drop hrow)
    have hsplit : choice.map some = (choice.take f.tables.length).map some ++ (choice.drop f.tables.length).map some := by
      rw [← List.map_append, List.take_append_drop]
    exact List.mem_flatMap.2 ⟨_, hfirst, List.mem_map.2 ⟨_, hrest, hsplit.symm⟩⟩

end FastapiTemplate.Store.Sql
