import FastapiTemplate.Python.Path
import FastapiTemplate.Storage.Files
import FastapiTemplate.Store.FileSystem

/-!
# The directory of the local storage

`LocalStorage` on the file system of the machine, with the paths as `pathlib` joins them and the operating system
follows them, and what is opened or removed in the end. What is written is always a file of the directory itself, and a
deletion only gets paths that an upload has returned. A download takes the path as the client gives it: it stays in the
directory exactly if the path does (`confined_iff`).
-/

namespace FastapiTemplate.Storage

open Python Store Effects

/-- Where the operating system finds a path; a null character is refused. -/
def resolve (fs : FileSystem Bytes) (cwd : Location) (path : Path) : Option Location :=
  if path.parts.any fun part => part.toList.contains '\x00' then none
  else fs.walk (if path.absolute then [] else cwd) path.parts

lemma resolve_congr {fs other : FileSystem Bytes} (h : ∀ location, other.isDirectory location = fs.isDirectory location)
    (cwd : Location) (path : Path) : resolve other cwd path = resolve fs cwd path := by
  unfold resolve
  rw [FileSystem.walk_congr h]

/-- The storage, with the directory that `__init__` has made. -/
structure LocalStorage where
  fs : FileSystem Bytes
  cwd : Location
  storagePath : Path
  root : Location
  resolves : resolve fs cwd storagePath = some root
  directory : fs.isDirectory root = true

/-- What the operating system is asked for. -/
inductive Access where
  | read (location : Location)
  | write (location : Location)
  | unlink (location : Location)
  deriving DecidableEq

/-- A computation on the storage that may raise; what was done before stays. -/
structure Outcome (α : Type) where
  result : Option α
  storage : LocalStorage
  accesses : List Access

def Acting (α : Type) := LocalStorage → Outcome α

namespace Acting

variable {α β : Type}

def pure (a : α) : Acting α := fun storage => { result := some a, storage := storage, accesses := [] }

/-- An exception. -/
def fail : Acting α := fun storage => { result := none, storage := storage, accesses := [] }

def bind (x : Acting α) (f : α → Acting β) : Acting β := fun storage =>
  match (x storage).result with
  | none => { result := none, storage := (x storage).storage, accesses := (x storage).accesses }
  | some a =>
    let after := f a (x storage).storage
    { after with accesses := (x storage).accesses ++ after.accesses }

instance : Monad Acting where
  pure := pure
  bind := bind

end Acting

namespace LocalStorage

def locate (storage : LocalStorage) (path : Path) : Option Location := resolve storage.fs storage.cwd path

/-- `path.is_file()`, and which one. -/
def file (storage : LocalStorage) (path : Path) : Option (Location × Bytes) :=
  (storage.locate path).bind fun location => (storage.fs.content location).map fun data => (location, data)

/-- The file that `open(path, "wb")` opens; a directory is refused. -/
def target (storage : LocalStorage) (path : Path) : Option Location :=
  (storage.locate path).filter fun location => !storage.fs.isDirectory location

def write (storage : LocalStorage) (location : Location) (data : Bytes) : LocalStorage where
  fs := storage.fs.write location data
  cwd := storage.cwd
  storagePath := storage.storagePath
  root := storage.root
  resolves := by rw [resolve_congr (FileSystem.isDirectory_write data), storage.resolves]
  directory := by rw [FileSystem.isDirectory_write, storage.directory]

def unlink (storage : LocalStorage) (location : Location) : LocalStorage where
  fs := storage.fs.unlink location
  cwd := storage.cwd
  storagePath := storage.storagePath
  root := storage.root
  resolves := by rw [resolve_congr FileSystem.isDirectory_unlink, storage.resolves]
  directory := by rw [FileSystem.isDirectory_unlink, storage.directory]

/-! ### The storage's operations -/

def uploadBytes (fault : Option WriteFault) (data : Bytes) (filename : String) : Acting String := fun storage =>
  let safeName := (Path.parse filename).name
  let filePath := storage.storagePath.join safeName
  match storage.target filePath with
  | none => { result := none, storage := storage, accesses := [] }
  | some location =>
    match fault with
    | none =>
      { result := (filePath.relativeTo storage.storagePath).map Path.str
        storage := storage.write location data
        accesses := [.write location] }
    | some .refused => { result := none, storage := storage, accesses := [] }
    | some (.cut length) =>
      { result := none, storage := storage.write location (data.take length), accesses := [.write location] }

/-- `upload`, of a file that is read chunk by chunk, up to an empty one. -/
def upload (fault : Option WriteFault) (chunks : List Bytes) (filename : String) : Acting String :=
  uploadBytes fault (chunks.takeWhile fun chunk => !chunk.isEmpty).flatten filename

/-- `download`; `fails` if the file cannot be opened. -/
def download (fails : Bool) (path : String) : Acting Bytes := fun storage =>
  match storage.file (storage.storagePath.join path) with
  | none => { result := none, storage := storage, accesses := [] }
  | some (location, content) =>
    if fails then { result := none, storage := storage, accesses := [] }
    else { result := some content, storage := storage, accesses := [.read location] }

/-- `delete`; `fails` if the file cannot be removed. -/
def delete (fails : Bool) (path : String) : Acting Unit := fun storage =>
  match storage.file (storage.storagePath.join path) with
  | none => { result := some (), storage := storage, accesses := [] }
  | some (location, _) =>
    if fails then { result := none, storage := storage, accesses := [] }
    else { result := some (), storage := storage.unlink location, accesses := [.unlink location] }

/-! ### The endpoints -/

variable (settings : Settings)

/-- The loop of `_generate_thumbnails`. -/
def saveThumbnails (fault : String → Option WriteFault) (storagePath : String) :
    List (String × Bytes) → ThumbnailPaths → Acting ThumbnailPaths
  | [], paths => return paths
  | (size, thumb) :: rest, paths => do
    let thumbFilename := "thumbnails" ++ String.singleton '/' ++ thumbnailName settings (stemOf storagePath) size
    let thumbPath ← uploadBytes (fault size) thumb thumbFilename
    saveThumbnails fault storagePath rest (paths.set thumbPath size)

def generateThumbnails (fault : String → Option WriteFault) (content : Bytes) (mimeType storagePath : String) :
    Acting ThumbnailPaths :=
  if isImageMime mimeType && !settings.thumbnailSizes.isEmpty then
    match generateAllThumbnails settings content with
    | none => Acting.fail
    | some thumbs => saveThumbnails settings fault storagePath thumbs {}
  else return {}

/-- `upload_file`, up to the row that it adds. -/
def uploadFile (u : Upload) : Acting File :=
  match u.accepted with
  | none => Acting.fail
  | some filename => do
    let path ← uploadBytes u.fault u.content filename
    let thumbnailPaths ← generateThumbnails settings u.thumbnailFault u.content u.mimeType path
    return {
      id := 0
      filename := ((split '/' path).getLast?).getD ""
      originalFilename := filename
      mimeType := u.mimeType
      sizeBytes := u.content.length
      storagePath := path
      checksumSha256 := settings.sha256 u.content
      uploaderId := u.uploaderId
      thumbnailPaths := thumbnailPaths }

/-- `_stream_file_upload` -/
def streamFileUpload (u : Upload) : Acting String :=
  match u.streamed with
  | none => Acting.fail
  | some filename => uploadBytes u.fault u.content filename

/-- What `delete_file` removes, one path after another. -/
def deleteAll (fails : String → Bool) : List String → Acting Unit
  | [] => return ()
  | path :: rest => do
    delete (fails path) path
    deleteAll fails rest

end LocalStorage

namespace Confinement

structure State where
  storage : LocalStorage
  files : Table File

inductive Request where
  | upload (u : Upload)
  | streamUpload (u : Upload)
  | delete (id : ℤ) (fails : String → Bool)
  | download (filename : String) (fails : Bool)

variable (settings : Settings)

/-- `delete_file`, up to the row. -/
def deleteFile (s : State) (id : ℤ) (fails : String → Bool) : Acting Unit :=
  match s.files.get? id with
  | none => Acting.fail
  | some file => LocalStorage.deleteAll fails (file.storagePath :: file.thumbnails)

/-- What a request asks of the operating system. -/
def State.accesses (s : State) : Request → List Access
  | .upload u => (LocalStorage.uploadFile settings u s.storage).accesses
  | .streamUpload u => (LocalStorage.streamFileUpload u s.storage).accesses
  | .delete id fails => (deleteFile s id fails s.storage).accesses
  | .download filename fails => (LocalStorage.download fails filename s.storage).accesses

def Request.step (request : Request) (s : State) : State :=
  match request with
  | .upload u =>
    { storage := (LocalStorage.uploadFile settings u s.storage).storage
      files := match (LocalStorage.uploadFile settings u s.storage).result with
        | none => s.files
        | some file => createFromUpload u.commitFails file s.files }
  | .streamUpload u => { s with storage := (LocalStorage.streamFileUpload u s.storage).storage }
  | .delete id fails =>
    { storage := (deleteFile s id fails s.storage).storage
      files := match (deleteFile s id fails s.storage).result with
        | none => s.files
        | some _ => s.files.keep fun other => other.id != id }
  | .download filename fails => { s with storage := (LocalStorage.download fails filename s.storage).storage }

/-- No files have been uploaded yet; the directory may hold others. -/
def fresh (storage : LocalStorage) : State := { storage := storage, files := Table.empty }

end Confinement

/-! ### Where a path leads -/

/-- Where a client's path points, from the directory on. -/
def pointed (root : Location) (path : String) : Location :=
  (Path.parse path).parts.foldl FileSystem.enter (if (Path.parse path).absolute then [] else root)

/-- The place is in the directory, or below one there. -/
def Below (root location : Location) : Prop := ∃ name rest, location = root ++ name :: rest

/-- Only files in the directory are read or removed, and only files directly in it are written. -/
def Access.Confined (root : Location) : Access → Prop
  | .read location | .unlink location => Below root location
  | .write location => ∃ name, location = root ++ [name]

namespace LocalStorage

variable {storage : LocalStorage} {location : Location}

lemma resolve_eq_some {fs : FileSystem Bytes} {cwd : Location} {path : Path} :
    resolve fs cwd path = some location ↔ (∀ part ∈ path.parts, '\x00' ∉ part.toList) ∧
      fs.walk (if path.absolute then [] else cwd) path.parts = some location := by
  unfold resolve
  split <;> simp_all

/-- The components of a joined path are followed from the directory on. -/
lemma locate_join {path : String} : storage.locate (storage.storagePath.join path) = some location ↔
    (∀ part ∈ (Path.parse path).parts, '\x00' ∉ part.toList) ∧
      storage.fs.walk (if (Path.parse path).absolute then [] else storage.root) (Path.parse path).parts
        = some location := by
  obtain ⟨hnull, hroot⟩ := resolve_eq_some.1 storage.resolves
  unfold locate Path.join
  rw [resolve_eq_some]
  by_cases habsolute : (Path.parse path).absolute = true
  · simp [habsolute]
  · simp only [habsolute, Bool.false_eq_true, if_false, FileSystem.walk_append, hroot, Option.bind_some,
      List.forall_mem_append, and_congr_left_iff]
    exact fun _ => and_iff_right hnull

/-- **A path that the operating system finds is found where it points.** -/
theorem eq_pointed {path : String} (h : storage.locate (storage.storagePath.join path) = some location) :
    location = pointed storage.root path := FileSystem.eq_of_walk (locate_join.1 h).2

lemma pointed_of_plain {name : String} (h : Path.Plain name) (root : Location) : pointed root name = root ++ [name] := by
  simp [pointed, Path.parts_of_notMem h.slash h.nonempty h.dot, Path.not_absolute_of_notMem h.slash, FileSystem.enter,
    h.dots]

/-- What is opened for an upload is a file of the directory itself. -/
lemma target_join {filename : String}
    (h : storage.target (storage.storagePath.join (Path.parse filename).name) = some location) :
    Path.Plain (Path.parse filename).name ∧ location = storage.root ++ [(Path.parse filename).name] := by
  obtain ⟨hlocate, hfile⟩ := Option.filter_eq_some_iff.1 h
  rw [Bool.not_eq_true'] at hfile
  obtain ⟨hnull, hwalk⟩ := locate_join.1 hlocate
  rcases Path.name_cases filename with hempty | ⟨hslash, hnonempty, hdot⟩
  · rw [hempty, Path.parse_empty] at hwalk
    have hroot : storage.root = location := Option.some.inj hwalk
    rw [← hroot, storage.directory] at hfile
    cases hfile
  · rw [Path.parts_of_notMem hslash hnonempty hdot] at hnull hwalk
    rw [Path.not_absolute_of_notMem hslash] at hwalk
    by_cases hdots : (Path.parse filename).name = ".."
    · -- The directory above is no file.
      rw [hdots, if_neg (by simp), FileSystem.walk_dots storage.directory] at hwalk
      obtain rfl := Option.some.inj hwalk
      exact absurd (FileSystem.isDirectory_dropLast storage.directory) (by simp [hfile])
    · have hplain : Path.Plain (Path.parse filename).name :=
        ⟨hslash, hnull _ (List.mem_singleton_self _), hnonempty, hdot, hdots⟩
      exact ⟨hplain, (eq_pointed hlocate).trans (pointed_of_plain hplain _)⟩

end LocalStorage

namespace Acting

variable {α β : Type}

/-- The directory stays where it is, all accesses are confined to it, and what is returned satisfies `Q`. -/
structure Ensures (x : Acting α) (Q : α → Prop) : Prop where
  root : ∀ storage, (x storage).storage.root = storage.root
  confined : ∀ storage, ∀ access ∈ (x storage).accesses, access.Confined storage.root
  result : ∀ storage a, (x storage).result = some a → Q a

lemma ensures_pure {a : α} {Q : α → Prop} (h : Q a) : Ensures (Pure.pure a : Acting α) Q where
  root _ := rfl
  confined _ _ hmem := by cases hmem
  result _ _ hresult := Option.some.inj hresult ▸ h

lemma ensures_fail {Q : α → Prop} : Ensures (Acting.fail : Acting α) Q where
  root _ := rfl
  confined _ _ hmem := by cases hmem
  result _ _ hresult := by cases hresult

/-- A sequence ensures what its second part does, of what the first one returns. -/
lemma Ensures.bind {x : Acting α} {f : α → Acting β} {P : α → Prop} {Q : β → Prop} (hx : x.Ensures P)
    (hf : ∀ a, P a → (f a).Ensures Q) : Ensures (x >>= f) Q := by
  have hnone : ∀ {storage}, (x storage).result = none →
      (x >>= f) storage = { result := none, storage := (x storage).storage, accesses := (x storage).accesses } := by
    intro storage hresult
    show Acting.bind x f storage = _
    unfold Acting.bind
    rw [hresult]
  have hsome : ∀ {storage a}, (x storage).result = some a →
      (x >>= f) storage = { f a (x storage).storage with
        accesses := (x storage).accesses ++ (f a (x storage).storage).accesses } := by
    intro storage a hresult
    show Acting.bind x f storage = _
    unfold Acting.bind
    rw [hresult]
  constructor <;> intro storage <;> cases hresult : (x storage).result
  case root.none => rw [hnone hresult, hx.root]
  case root.some a => rw [hsome hresult, (hf a (hx.result storage a hresult)).root, hx.root]
  case confined.none =>
    rw [hnone hresult]
    exact hx.confined storage
  case confined.some a =>
    rw [hsome hresult]
    intro access hmem
    rcases List.mem_append.1 hmem with hmem | hmem
    · exact hx.confined storage access hmem
    · rw [← hx.root storage]
      exact (hf a (hx.result storage a hresult)).confined _ access hmem
  case result.none =>
    rw [hnone hresult]
    nofun
  case result.some a =>
    rw [hsome hresult]
    exact (hf a (hx.result storage a hresult)).result _

end Acting

namespace LocalStorage

variable {storage : LocalStorage}

/-- **An upload writes a file of the directory itself**, and returns its name. -/
theorem ensures_uploadBytes (fault : Option WriteFault) (data : Bytes) (filename : String) :
    (uploadBytes fault data filename).Ensures Path.Plain := by
  constructor <;> intro storage <;> unfold uploadBytes <;>
    cases htarget : storage.target (storage.storagePath.join (Path.parse filename).name) with
    | none => simp [htarget]
    | some location =>
      obtain ⟨hplain, hlocation⟩ := target_join htarget
      have hname := Path.relativeTo_join storage.storagePath hplain.slash hplain.nonempty hplain.dot
      rcases fault with _ | _ | length <;> simp [htarget, write, Access.Confined, hlocation, hname, hplain]

lemma file_eq_some {path : Path} {found : Location × Bytes} (h : storage.file path = some found) :
    storage.locate path = some found.1 ∧ storage.fs.content found.1 = some found.2 := by
  obtain ⟨location, hlocate, hcontent⟩ := Option.bind_eq_some_iff.1 h
  obtain ⟨data, hdata, rfl⟩ := Option.map_eq_some_iff.1 hcontent
  exact ⟨hlocate, hdata⟩

/-- A plain name is only removed from the directory. -/
lemma ensures_delete (fails : Bool) {path : String} (h : Path.Plain path) :
    (delete fails path).Ensures fun _ => True := by
  constructor <;> intro storage <;> unfold delete <;>
    cases hfile : storage.file (storage.storagePath.join path) with
    | none => simp
    | some found =>
      have hlocation := (eq_pointed (file_eq_some hfile).1).trans (pointed_of_plain h _)
      cases fails <;> simp [unlink, Access.Confined, Below, hlocation]

lemma ensures_deleteAll (fails : String → Bool) {paths : List String} (h : ∀ path ∈ paths, Path.Plain path) :
    (deleteAll fails paths).Ensures fun _ => True := by
  induction paths with
  | nil => exact Acting.ensures_pure trivial
  | cons path rest ih =>
    rw [List.forall_mem_cons] at h
    exact (ensures_delete (fails path) h.1).bind fun _ _ => ih h.2

/-- **A download reads a file of the directory exactly if it reads none, or the path points there.** -/
theorem confined_download (fails : Bool) (path : String) :
    (∀ access ∈ (download fails path storage).accesses, access.Confined storage.root)
      ↔ (fails = false → (storage.file (storage.storagePath.join path)).isSome = true →
          Below storage.root (pointed storage.root path)) := by
  unfold download
  cases hfile : storage.file (storage.storagePath.join path) with
  | none => simp
  | some found =>
    rw [← eq_pointed (file_eq_some hfile).1]
    cases fails <;> simp [Access.Confined]

/-! ### The files of the directory -/

/-- The files that are directly in the directory. -/
def disk (storage : LocalStorage) : Disk := fun name => storage.fs.content (storage.root ++ [name])

lemma disk_write {name : String} (h : storage.fs.isDirectory (storage.root ++ [name]) = false) (data : Bytes) :
    (storage.write (storage.root ++ [name]) data).disk = storage.disk.write [(name, data)] := by
  funext other
  show (storage.fs.write _ data).content (storage.root ++ [other]) = _
  rw [FileSystem.content_write (FileSystem.writable_append storage.directory h)]
  by_cases hname : other = name <;> simp [hname, disk, Disk.write, lastWritten, List.lookup_cons, beq_false_of_ne]

/-- A write goes wrong where the operating system finds no file to open. -/
def refusal (storage : LocalStorage) (fault : Option WriteFault) (filename : String) : Option WriteFault :=
  if (storage.target (storage.storagePath.join (Path.parse filename).name)).isNone then some .refused else fault

lemma uploadBytes_refused (data : Bytes) (filename : String) :
    Storage.uploadBytes (some .refused) data filename = .fail := by
  unfold Storage.uploadBytes
  cases safeName filename <;> rfl

lemma safeName_of_plain {filename : String} (h : Path.Plain (Path.parse filename).name) :
    safeName filename = some (Path.parse filename).name := by
  have hname : pathName filename = (Path.parse filename).name := rfl
  unfold safeName
  rw [hname]
  simp [h.nonempty, h.dots]

/-- **To the directory, an upload does what it does where there are no other ones.** -/
theorem uploadBytes_refines (storage : LocalStorage) (fault : Option WriteFault) (data : Bytes) (filename : String) :
    (uploadBytes fault data filename storage).result
        = (Storage.uploadBytes (storage.refusal fault filename) data filename).result ∧
      (uploadBytes fault data filename storage).storage.disk
        = storage.disk.write (Storage.uploadBytes (storage.refusal fault filename) data filename).writes := by
  rcases htarget : storage.target (storage.storagePath.join (Path.parse filename).name) with _ | location
  · have hrefusal : storage.refusal fault filename = some .refused := by simp [refusal, htarget]
    unfold uploadBytes
    rw [hrefusal, uploadBytes_refused]
    dsimp only
    rw [htarget]
    exact ⟨rfl, rfl⟩
  · have hrefusal : storage.refusal fault filename = fault := by simp [refusal, htarget]
    obtain ⟨hplain, rfl⟩ := target_join htarget
    have hname := Path.relativeTo_join storage.storagePath hplain.slash hplain.nonempty hplain.dot
    have hfile := (Option.filter_eq_some_iff.1 htarget).2
    rw [Bool.not_eq_true'] at hfile
    unfold uploadBytes Storage.uploadBytes
    rw [hrefusal, safeName_of_plain hplain]
    dsimp only
    rw [htarget]
    rcases fault with _ | _ | length
    · exact ⟨by simp [hname], disk_write hfile data⟩
    · exact ⟨rfl, rfl⟩
    · exact ⟨rfl, disk_write hfile (data.take length)⟩

/-- **A deletion of a plain name removes that file of the directory**, if nothing fails. -/
theorem delete_refines (storage : LocalStorage) {path : String} (h : Path.Plain path) :
    (delete false path storage).storage.disk = storage.disk.delete path := by
  have hlocate : storage.locate (storage.storagePath.join path) = some (storage.root ++ [path]) := by
    rw [locate_join, Path.parts_of_notMem h.slash h.nonempty h.dot, Path.not_absolute_of_notMem h.slash]
    exact ⟨by simpa using h.null, FileSystem.walk_singleton storage.directory h.dots⟩
  unfold delete file
  rw [hlocate, Option.bind_some]
  funext name
  cases hcontent : storage.fs.content (storage.root ++ [path]) with
  | none =>
    show storage.disk name = if name = path then none else storage.disk name
    by_cases hname : name = path
    · rw [if_pos hname, hname]
      exact hcontent
    · rw [if_neg hname]
  | some data =>
    show (storage.fs.unlink _).content (storage.root ++ [name]) = if name = path then none else _
    have hfile := FileSystem.not_isDirectory_of_content hcontent
    rw [FileSystem.content_unlink (FileSystem.writable_append storage.directory hfile)]
    by_cases hname : name = path <;> simp [hname, disk]

/-! ### What the uploads store -/

variable (settings : Settings)

/-- All paths of thumbnails are plain names. -/
def PlainPaths (paths : ThumbnailPaths) : Prop :=
  ∀ path, some path ∈ [paths.small, paths.medium, paths.large] → Path.Plain path

lemma PlainPaths.set {paths : ThumbnailPaths} (h : PlainPaths paths) {path : String} (hpath : Path.Plain path)
    (size : String) : PlainPaths (paths.set path size) := by
  unfold PlainPaths ThumbnailPaths.set at *
  intro other
  split
  · rintro hother
    grind
  · grind

lemma ensures_saveThumbnails (fault : String → Option WriteFault) (storagePath : String)
    (thumbs : List (String × Bytes)) {paths : ThumbnailPaths} (h : PlainPaths paths) :
    (saveThumbnails settings fault storagePath thumbs paths).Ensures PlainPaths := by
  induction thumbs generalizing paths with
  | nil => exact Acting.ensures_pure h
  | cons head rest ih => exact (ensures_uploadBytes _ _ _).bind fun path hpath => ih (h.set hpath head.1)

lemma ensures_generateThumbnails (fault : String → Option WriteFault) (content : Bytes) (mimeType storagePath : String) :
    (generateThumbnails settings fault content mimeType storagePath).Ensures PlainPaths := by
  have hnone : PlainPaths {} := by
    intro path hpath
    simp at hpath
  unfold generateThumbnails
  split
  · split
    · exact Acting.ensures_fail
    · exact ensures_saveThumbnails settings fault storagePath _ hnone
  · exact Acting.ensures_pure hnone

/-- The paths of a row are plain names. -/
def PlainFile (file : File) : Prop := ∀ path ∈ file.storagePath :: file.thumbnails, Path.Plain path

lemma plainFile {file : File} (hpath : Path.Plain file.storagePath) (hpaths : PlainPaths file.thumbnailPaths) :
    PlainFile file := by
  intro path hmem
  rcases List.mem_cons.1 hmem with rfl | hmem
  · exact hpath
  · obtain ⟨stored, hstored, hpath⟩ := List.mem_filterMap.1 hmem
    obtain ⟨rfl, _⟩ := Option.filter_eq_some_iff.1 hpath
    exact hpaths path hstored

lemma ensures_uploadFile (u : Upload) : (uploadFile settings u).Ensures PlainFile := by
  unfold uploadFile
  split
  · exact Acting.ensures_fail
  · refine (ensures_uploadBytes _ _ _).bind fun path hpath => ?_
    refine (ensures_generateThumbnails settings _ _ _ _).bind fun paths hpaths => ?_
    exact Acting.ensures_pure (plainFile hpath hpaths)

lemma ensures_streamFileUpload (u : Upload) : (streamFileUpload u).Ensures Path.Plain := by
  unfold streamFileUpload
  split
  · exact Acting.ensures_fail
  · exact ensures_uploadBytes _ _ _

end LocalStorage

namespace Confinement

open LocalStorage

variable (settings : Settings)

/-- All accesses of a request are confined to the directory. -/
def State.Confined (s : State) (request : Request) : Prop :=
  ∀ access ∈ s.accesses settings request, access.Confined s.storage.root

/-- A download that finds a file is of a path that points into the directory. -/
def State.Harmless (s : State) : Request → Prop
  | .download filename fails => fails = false →
      (s.storage.file (s.storage.storagePath.join filename)).isSome = true →
        Below s.storage.root (pointed s.storage.root filename)
  | _ => True

def State.Plain (s : State) : Prop := ∀ file ∈ s.files.rows, PlainFile file

variable {settings}

lemma State.Plain.ensures_deleteFile {s : State} (h : s.Plain) (id : ℤ) (fails : String → Bool) :
    (deleteFile s id fails).Ensures fun _ => True := by
  unfold deleteFile
  split
  · exact Acting.ensures_fail
  · rename_i file hfile
    exact ensures_deleteAll fails (h file (Table.get?_eq_some.1 hfile).1)

lemma State.Plain.createFromUpload {files : Table File} (h : ∀ file ∈ files.rows, PlainFile file)
    (commitFails : Bool) {new : File} (hnew : PlainFile new) :
    ∀ file ∈ (Storage.createFromUpload commitFails new files).rows, PlainFile file := by
  intro file hfile
  rcases mem_createFromUpload hfile with hfile | rfl
  · exact h file hfile
  · exact hnew

lemma State.Plain.step {s : State} (h : s.Plain) (request : Request) : (request.step settings s).Plain := by
  cases request with
  | upload u =>
    show ∀ file ∈ (Request.step settings (.upload u) s).files.rows, PlainFile file
    unfold Request.step
    dsimp only
    cases hresult : (LocalStorage.uploadFile settings u s.storage).result with
    | none => exact h
    | some new => exact Plain.createFromUpload h u.commitFails ((ensures_uploadFile settings u).result _ _ hresult)
  | streamUpload u => exact h
  | delete id fails =>
    show ∀ file ∈ (Request.step settings (.delete id fails) s).files.rows, PlainFile file
    unfold Request.step
    dsimp only
    cases (deleteFile s id fails s.storage).result with
    | none => exact h
    | some _ => exact fun file hfile => h file (List.mem_filter.1 hfile).1
  | download filename fails => exact h

/-- **A request is confined to the directory exactly if it is no download of a file elsewhere.** -/
theorem confined_step_iff {s : State} (h : s.Plain) (request : Request) :
    s.Confined settings request ↔ s.Harmless request := by
  cases request with
  | upload u => exact iff_of_true ((ensures_uploadFile settings u).confined s.storage) trivial
  | streamUpload u => exact iff_of_true ((ensures_streamFileUpload u).confined s.storage) trivial
  | delete id fails => exact iff_of_true ((h.ensures_deleteFile id fails).confined s.storage) trivial
  | download filename fails => exact confined_download fails filename

/-- **The storage keeps to its directory, exactly as long as the paths that are downloaded point into it.** The
operation that no endpoint uses keeps to it too. -/
theorem confined_iff (settings : Settings) (storage : LocalStorage) (requests : List Request) :
    (Each (Request.step settings) (State.Confined settings) (fresh storage) requests
      ↔ Each (Request.step settings) State.Harmless (fresh storage) requests) ∧
    ∀ (other : LocalStorage) (fault : Option WriteFault) (chunks : List Bytes) (filename : String),
      ∀ access ∈ (upload fault chunks filename other).accesses, access.Confined other.root := by
  refine ⟨?_, fun other fault chunks filename => (ensures_uploadBytes _ _ _).confined other⟩
  refine each_congr_of_inv (I := State.Plain) (fun s request h _ => h.step request) ?_ (by nofun)
  exact fun s request h => confined_step_iff h request

namespace Sample

/-- The directory of the deployment, and a file of the system. -/
def machine : FileSystem Bytes :=
  (((FileSystem.empty.mkdir ["data"]).mkdir ["data", "uploads"]).mkdir ["etc"]).write ["etc", "passwd"] [114]

def deployed : LocalStorage where
  fs := machine
  cwd := []
  storagePath := Path.parse "/data/uploads"
  root := ["data", "uploads"]
  resolves := by decide +kernel
  directory := by decide +kernel

end Sample

open Confinement.Sample Storage.Sample in
/-- A client downloads the path /etc/passwd, or one that goes up to it: the file is read. -/
theorem not_confined :
    ¬Each (Request.step defaultSettings) (State.Confined defaultSettings) (fresh deployed)
        [.download "/etc/passwd" false] ∧
      ¬Each (Request.step defaultSettings) (State.Confined defaultSettings) (fresh deployed)
        [.download "../../etc/passwd" false] := by
  have hoff : ¬Below ["data", "uploads"] ["etc", "passwd"] := by
    rintro ⟨name, rest, h⟩
    exact absurd (List.cons.inj h).1 (by decide)
  have hread : ∀ path, Access.read ["etc", "passwd"] ∈ (LocalStorage.download false path deployed).accesses →
      ¬Each (Request.step defaultSettings) (State.Confined defaultSettings) (fresh deployed) [.download path false] :=
    fun path haccess h => hoff (h.1 _ haccess)
  exact ⟨hread "/etc/passwd" (by decide +kernel), hread "../../etc/passwd" (by decide +kernel)⟩

end Confinement

end FastapiTemplate.Storage
