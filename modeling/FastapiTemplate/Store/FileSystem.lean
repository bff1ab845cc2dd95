import Mathlib.Data.List.Basic
import Mathlib.Logic.Function.Basic

/-!
# File systems

A tree of directories and files, without links. A path is followed as the operating system does it: each component is
looked up in a directory, and `..` is the directory above. So a path that leads anywhere leads to where it points when
`..` is read as cutting off the component before it (`eq_of_walk`).
-/

namespace FastapiTemplate.Store

/-- The names from the root on. -/
abbrev Location := List String

inductive Node (α : Type) where
  | directory
  | file (content : α)

/-- Everything is in a directory. -/
structure FileSystem (α : Type) where
  node : Location → Option (Node α)
  root : node [] = some .directory
  parent : ∀ location name, node (location ++ [name]) ≠ none → node location = some .directory

namespace FileSystem

variable {α : Type}

def isDirectory (fs : FileSystem α) (location : Location) : Bool :=
  match fs.node location with
  | some .directory => true
  | _ => false

/-- The content of a regular file. -/
def content (fs : FileSystem α) (location : Location) : Option α :=
  match fs.node location with
  | some (.file content) => some content
  | _ => none

/-- Where a component leads. -/
def enter (location : Location) (part : String) : Location :=
  if part = ".." then location.dropLast else location ++ [part]

/-- Follows the components from a location on. -/
def walk (fs : FileSystem α) (location : Location) : List String → Option Location
  | [] => some location
  | part :: rest => if fs.isDirectory location then fs.walk (enter location part) rest else none

/-- Nothing but the root. -/
def empty : FileSystem α where
  node location := if location = [] then some .directory else none
  root := rfl
  parent location name h := by simp at h

/-- A directory has this place, and it is none itself. -/
def Writable (fs : FileSystem α) (location : Location) : Prop :=
  location ≠ [] ∧ fs.isDirectory location.dropLast = true ∧ fs.isDirectory location = false

instance (fs : FileSystem α) (location : Location) : Decidable (fs.Writable location) :=
  inferInstanceAs (Decidable (_ ∧ _))

lemma isDirectory_iff {fs : FileSystem α} {location : Location} :
    fs.isDirectory location = true ↔ fs.node location = some .directory := by
  unfold isDirectory
  cases hnode : fs.node location with
  | none => simp
  | some node => cases node <;> simp

lemma content_eq_some {fs : FileSystem α} {location : Location} {data : α} :
    fs.content location = some data ↔ fs.node location = some (.file data) := by
  unfold content
  cases hnode : fs.node location with
  | none => simp
  | some node => cases node <;> simp

lemma not_isDirectory_of_content {fs : FileSystem α} {location : Location} {data : α}
    (h : fs.content location = some data) : fs.isDirectory location = false := by
  rw [← Bool.not_eq_true, isDirectory_iff, content_eq_some.1 h]
  nofun

/-- What is at a place that is no directory is replaced. -/
def put (fs : FileSystem α) (location : Location) (node : Option (Node α)) (h : fs.Writable location) :
    FileSystem α where
  node := Function.update fs.node location node
  root := by rw [Function.update_of_ne h.1.symm, fs.root]
  parent above name hsome := by
    have hdirectory : fs.node above = some .directory := by
      by_cases hhere : above ++ [name] = location
      · have hlast : (above ++ [name]).dropLast = above := List.dropLast_concat
        rw [← isDirectory_iff, ← hlast, hhere]
        exact h.2.1
      · rw [Function.update_of_ne hhere] at hsome
        exact fs.parent above name hsome
    rw [Function.update_of_ne, hdirectory]
    rintro rfl
    exact absurd (isDirectory_iff.2 hdirectory) (by simp [h.2.2])

/-- Makes a directory. -/
def mkdir (fs : FileSystem α) (location : Location) : FileSystem α :=
  if h : fs.Writable location then fs.put location (some .directory) h else fs

/-- Writes a file, a new one or over the old one. -/
def write (fs : FileSystem α) (location : Location) (data : α) : FileSystem α :=
  if h : fs.Writable location then fs.put location (some (.file data)) h else fs

/-- Removes a file. -/
def unlink (fs : FileSystem α) (location : Location) : FileSystem α :=
  if h : fs.Writable location then fs.put location none h else fs

/-! ### Where a path leads -/

variable {fs : FileSystem α} {location : Location}

/-- **A path that can be followed leads to where it points.** -/
theorem eq_of_walk {start : Location} {parts : List String} (h : fs.walk start parts = some location) :
    location = parts.foldl enter start := by
  induction parts generalizing start with
  | nil => exact (Option.some.inj h).symm
  | cons part rest ih =>
    unfold walk at h
    split at h
    · exact ih h
    · cases h

lemma walk_append {start : Location} {parts rest : List String} :
    fs.walk start (parts ++ rest) = (fs.walk start parts).bind fun location => fs.walk location rest := by
  induction parts generalizing start with
  | nil => rfl
  | cons part parts ih =>
    simp only [List.cons_append, walk]
    split
    · exact ih
    · rfl

/-- A name in a directory leads to its place there. -/
lemma walk_singleton (h : fs.isDirectory location = true) {name : String} (hname : name ≠ "..") :
    fs.walk location [name] = some (location ++ [name]) := by
  simp [walk, h, enter, hname]

/-- Above a directory there are directories. -/
lemma isDirectory_dropLast (h : fs.isDirectory location = true) : fs.isDirectory location.dropLast = true := by
  rcases List.eq_nil_or_concat location with rfl | ⟨above, name, rfl⟩
  · exact h
  · rw [List.concat_eq_append] at h ⊢
    rw [List.dropLast_concat, isDirectory_iff]
    exact fs.parent above name (by rw [isDirectory_iff.1 h]; simp)

lemma walk_dots (h : fs.isDirectory location = true) : fs.walk location [".."] = some location.dropLast := by
  simp [walk, h, enter]

/-- A path is followed through directories only. -/
lemma walk_congr {other : FileSystem α} (h : ∀ location, other.isDirectory location = fs.isDirectory location)
    (start : Location) (parts : List String) : other.walk start parts = fs.walk start parts := by
  induction parts generalizing start with
  | nil => rfl
  | cons part rest ih => simp only [walk, h, ih]

/-! ### What changes leave alone -/

lemma node_write (data : α) (other : Location) :
    (fs.write location data).node other
      = if other = location ∧ fs.Writable location then some (.file data) else fs.node other := by
  unfold write
  by_cases hwritable : fs.Writable location <;> simp [hwritable, put, Function.update_apply]

lemma node_unlink (other : Location) :
    (fs.unlink location).node other = if other = location ∧ fs.Writable location then none else fs.node other := by
  unfold unlink
  by_cases hwritable : fs.Writable location <;> simp [hwritable, put, Function.update_apply]

@[simp] lemma isDirectory_write (data : α) (other : Location) :
    (fs.write location data).isDirectory other = fs.isDirectory other := by
  by_cases hhere : other = location ∧ fs.Writable location
  · rw [hhere.1, hhere.2.2.2, ← Bool.not_eq_true, isDirectory_iff, node_write]
    simp [hhere.2]
  · rw [Bool.eq_iff_iff, isDirectory_iff, isDirectory_iff, node_write, if_neg hhere]

@[simp] lemma isDirectory_unlink (other : Location) :
    (fs.unlink location).isDirectory other = fs.isDirectory other := by
  by_cases hhere : other = location ∧ fs.Writable location
  · rw [hhere.1, hhere.2.2.2, ← Bool.not_eq_true, isDirectory_iff, node_unlink]
    simp [hhere.2]
  · rw [Bool.eq_iff_iff, isDirectory_iff, isDirectory_iff, node_unlink, if_neg hhere]

lemma content_write (h : fs.Writable location) (data : α) (other : Location) :
    (fs.write location data).content other = if other = location then some data else fs.content other := by
  unfold content
  rw [node_write]
  by_cases hhere : other = location <;> simp [hhere, h]

lemma content_unlink (h : fs.Writable location) (other : Location) :
    (fs.unlink location).content other = if other = location then none else fs.content other := by
  unfold content
  rw [node_unlink]
  by_cases hhere : other = location <;> simp [hhere, h]

/-- There is a place in a directory under every name that no directory has. -/
lemma writable_append (h : fs.isDirectory location = true) {name : String}
    (hname : fs.isDirectory (location ++ [name]) = false) : fs.Writable (location ++ [name]) :=
  ⟨by simp, by rwa [List.dropLast_concat], hname⟩

end FileSystem

end FastapiTemplate.Store
