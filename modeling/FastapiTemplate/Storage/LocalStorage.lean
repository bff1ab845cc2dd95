import FastapiTemplate.Python.Text

/-!
# The local storage

`LocalStorage` of `storage.local`, which keeps all files in one directory: of the name that it is given it uses the last
component only. What goes wrong with a write is up to the file system: it is refused, or ends after some bytes.

`Saving` is a computation that writes files and may fail; what was written before stays.
-/

namespace FastapiTemplate.Storage

open Python

abbrev Bytes := List UInt8

/-- The files of the directory. -/
abbrev Disk := String → Option Bytes

/-- What is written under which name, in order. -/
abbrev Writes := List (String × Bytes)

/-- What is written last under a name. -/
def lastWritten (writes : Writes) (name : String) : Option Bytes := writes.reverse.lookup name

def Disk.write (disk : Disk) (writes : Writes) : Disk := fun name => (lastWritten writes name).or (disk name)

/-- `delete`: a file that is not there is ignored. -/
def Disk.delete (disk : Disk) (path : String) : Disk := fun name => if name = path then none else disk name

/-! ### Saving -/

structure Saving (α : Type) where
  result : Option α
  writes : Writes

namespace Saving

variable {α β : Type}

def pure (a : α) : Saving α := { result := some a, writes := [] }

/-- An exception. -/
def fail : Saving α := { result := none, writes := [] }

def bind (x : Saving α) (f : α → Saving β) : Saving β :=
  match x.result with
  | none => { result := none, writes := x.writes }
  | some a => { result := (f a).result, writes := x.writes ++ (f a).writes }

instance : Monad Saving where
  pure := pure
  bind := bind

@[simp] lemma result_pure (a : α) : (Pure.pure a : Saving α).result = some a := rfl

@[simp] lemma writes_pure (a : α) : (Pure.pure a : Saving α).writes = [] := rfl

/-- A sequence returns if both parts do. -/
lemma result_bind (x : Saving α) (f : α → Saving β) : (x >>= f).result = x.result.bind fun a => (f a).result := by
  show (bind x f).result = _
  unfold bind
  cases x.result with
  | none => rfl
  | some a => rfl

end Saving

/-! ### What is written last -/

lemma lastWritten_append (writes more : Writes) (name : String) :
    lastWritten (writes ++ more) name = (lastWritten more name).or (lastWritten writes name) := by
  unfold lastWritten
  rw [List.reverse_append, List.lookup_append]

/-- In a sequence, the second part writes last. -/
lemma lastWritten_bind {α β : Type} (x : Saving α) (f : α → Saving β) (name : String) :
    lastWritten (x >>= f).writes name
      = (x.result.bind fun a => lastWritten (f a).writes name).or (lastWritten x.writes name) := by
  show lastWritten (Saving.bind x f).writes name = _
  unfold Saving.bind
  cases x.result with
  | none => simp
  | some a => simp [lastWritten_append]

lemma lastWritten_bind_pure {α β : Type} (x : Saving α) (f : α → β) (name : String) :
    lastWritten (x >>= fun a => pure (f a)).writes name = lastWritten x.writes name := by
  rw [lastWritten_bind]
  cases x.result <;> simp [lastWritten]

@[simp] lemma lastWritten_nil (name : String) : lastWritten [] name = none := rfl

@[simp] lemma Disk.write_nil (disk : Disk) : disk.write [] = disk := by
  funext name
  simp [Disk.write]

lemma lastWritten_singleton {w : String × Bytes} {name : String} {bytes : Bytes} :
    lastWritten [w] name = some bytes ↔ w.1 = name ∧ w.2 = bytes := by
  obtain ⟨written, data⟩ := w
  by_cases hname : name = written <;> simp [lastWritten, List.lookup_cons, hname, beq_false_of_ne, eq_comm]

/-! ### Names -/

/-- `Path(path).name` -/
def pathName (path : String) : String :=
  (((split '/' path).filter fun part => part != "" && part != ".").getLast?).getD ""

/-- The name in the directory; the directory itself and the one above it are no files. -/
def safeName (path : String) : Option String :=
  if pathName path = "" || pathName path = ".." then none else some (pathName path)

lemma eq_pathName {path name : String} (h : safeName path = some name) : name = pathName path := by
  unfold safeName at h
  split at h
  · cases h
  · exact (Option.some.inj h).symm

/-- What goes wrong with a write. -/
inductive WriteFault where
  | refused
  | cut (length : ℕ)

/-- The bytes that are in the file after the write. -/
def stored (data : Bytes) : Option WriteFault → Option Bytes
  | none => some data
  | some .refused => none
  | some (.cut length) => some (data.take length)

def uploadBytes (fault : Option WriteFault) (data : Bytes) (filename : String) : Saving String :=
  match safeName filename with
  | none => .fail
  | some name =>
    match fault with
    | none => { result := some name, writes := [(name, data)] }
    | some .refused => .fail
    | some (.cut length) => { result := none, writes := [(name, data.take length)] }

lemma uploadBytes_eq_some {fault : Option WriteFault} {data : Bytes} {filename path : String} :
    (uploadBytes fault data filename).result = some path ↔ safeName filename = some path ∧ fault = none := by
  unfold uploadBytes
  rcases safeName filename with _ | name <;> rcases fault with _ | _ | length <;> simp [Saving.fail]

lemma lastWritten_uploadBytes {fault : Option WriteFault} {data bytes : Bytes} {filename name : String} :
    lastWritten (uploadBytes fault data filename).writes name = some bytes
      ↔ safeName filename = some name ∧ stored data fault = some bytes := by
  unfold uploadBytes stored
  rcases safeName filename with _ | name <;> rcases fault with _ | _ | length <;>
    simp [Saving.fail, lastWritten_singleton]

/-- A name is one component of a path. -/
lemma notMem_pathName (path : String) : '/' ∉ (pathName path).toList := by
  unfold pathName
  cases hlast : ((split '/' path).filter fun part => part != "" && part != ".").getLast? with
  | none => simp
  | some part =>
    have hpart := List.mem_of_mem_filter (List.mem_of_getLast? hlast)
    obtain ⟨cs, hcs, rfl⟩ := List.mem_map.1 hpart
    rw [Option.getD_some, String.toList_ofList]
    exact notMem_of_mem_splitOn hcs

/-- A component behind a directory is the name. -/
lemma pathName_of_notMem {directory name : String} (hdirectory : '/' ∉ directory.toList) (hname : '/' ∉ name.toList)
    (hempty : name ≠ "") (hdot : name ≠ ".") : pathName (directory ++ String.singleton '/' ++ name) = name := by
  unfold pathName
  rw [split_append hdirectory, split_of_notMem hname, List.filter_cons]
  split <;> simp [hempty, hdot]

end FastapiTemplate.Storage
