import FastapiTemplate.Python.Text

/-!
# Paths

The pure paths of `pathlib`: a text is cut at the slashes, empty components and `.` are dropped, `..` is kept.
-/

namespace FastapiTemplate.Python

structure Path where
  absolute : Bool
  parts : List String
  deriving DecidableEq, Repr

namespace Path

/-- `Path(s)` -/
def parse (s : String) : Path where
  absolute := s.toList.head? == some '/'
  parts := (split '/' s).filter fun part => part != "" && part != "."

/-- `p / s`: an absolute right side replaces the left one. -/
def join (p : Path) (s : String) : Path :=
  if (parse s).absolute then parse s else { p with parts := p.parts ++ (parse s).parts }

/-- `p.name` -/
def name (p : Path) : String := p.parts.getLast?.getD ""

/-- `p.relative_to(base)`, a `ValueError` if `p` is not below `base`. -/
def relativeTo (p base : Path) : Option Path :=
  if p.absolute = base.absolute ∧ base.parts <+: p.parts then
    some { absolute := false, parts := p.parts.drop base.parts.length }
  else none

/-- `str(p)` -/
def str (p : Path) : String :=
  if p.absolute then "/" ++ "/".intercalate p.parts
  else if p.parts = [] then "." else "/".intercalate p.parts

/-- A name is one component, and no dots. -/
structure Plain (name : String) : Prop where
  slash : '/' ∉ name.toList
  null : '\x00' ∉ name.toList
  nonempty : name ≠ ""
  dot : name ≠ "."
  dots : name ≠ ".."

@[simp] lemma parse_empty : parse "" = { absolute := false, parts := [] } := by decide

lemma not_absolute_of_notMem {name : String} (h : '/' ∉ name.toList) : (parse name).absolute = false := by
  unfold parse
  cases hchars : name.toList with
  | nil => rfl
  | cons first rest =>
    rw [hchars, List.mem_cons, not_or] at h
    simp [Ne.symm h.1]

lemma parts_of_notMem {name : String} (h : '/' ∉ name.toList) (hempty : name ≠ "") (hdot : name ≠ ".") :
    (parse name).parts = [name] := by
  simp [parse, split_of_notMem h, hempty, hdot]

/-- A name behind a path is one more component. -/
lemma join_of_notMem (p : Path) {name : String} (h : '/' ∉ name.toList) (hempty : name ≠ "") (hdot : name ≠ ".") :
    p.join name = { p with parts := p.parts ++ [name] } := by
  simp [join, not_absolute_of_notMem h, parts_of_notMem h hempty hdot]

@[simp] lemma join_empty (p : Path) : p.join "" = p := by simp [join]

lemma relativeTo_join (p : Path) {name : String} (h : '/' ∉ name.toList) (hempty : name ≠ "") (hdot : name ≠ ".") :
    (p.join name).relativeTo p = some { absolute := false, parts := [name] } := by
  simp [join_of_notMem p h hempty hdot, relativeTo]

@[simp] lemma str_singleton (name : String) : str { absolute := false, parts := [name] } = name := by
  simp [str]

lemma notMem_of_mem_parts {s part : String} (h : part ∈ (parse s).parts) :
    '/' ∉ part.toList ∧ part ≠ "" ∧ part ≠ "." := by
  obtain ⟨hmem, hkept⟩ := List.mem_filter.1 h
  obtain ⟨chars, hchars, rfl⟩ := List.mem_map.1 hmem
  rw [Bool.and_eq_true, bne_iff_ne, bne_iff_ne] at hkept
  exact ⟨by rw [String.toList_ofList]; exact notMem_of_mem_splitOn hchars, hkept⟩

/-- A name is empty, or one component of the path. -/
lemma name_cases (s : String) :
    (parse s).name = "" ∨ '/' ∉ (parse s).name.toList ∧ (parse s).name ≠ "" ∧ (parse s).name ≠ "." := by
  unfold name
  cases hlast : (parse s).parts.getLast? with
  | none => exact .inl rfl
  | some part => exact .inr (notMem_of_mem_parts (List.mem_of_getLast? hlast))

end Path

end FastapiTemplate.Python
