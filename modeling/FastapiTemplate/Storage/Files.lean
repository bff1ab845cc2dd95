import FastapiTemplate.Effects.Calls
import FastapiTemplate.Storage.LocalStorage
import FastapiTemplate.Store.Table

/-!
# Uploaded files

The endpoints of `api.endpoints.files` that write: an upload saves the bytes under the name that the client gave, then
the thumbnails, and commits a row last; a streaming upload saves bytes and no row; a deletion removes what the paths of
the row name, and then the row. All names are in one directory, whoever uses them.

So the rows tell the truth about the bytes in every run, exactly if no request writes other bytes under the name of a
live file, and no deleted file has a thumbnail under the name of another one (`stays_iff`).
-/

namespace FastapiTemplate.Storage

open Python Store Effects

/-- `THUMBNAIL_FORMAT`, in lower case. -/
inductive ThumbnailFormat where
  | jpeg
  | webp
  deriving DecidableEq, Repr

def ThumbnailFormat.name : ThumbnailFormat → String
  | jpeg => "jpeg"
  | webp => "webp"

/-- The settings, the imaging library, which refuses what is no image, and `hashlib.sha256(content).hexdigest()`. The
names of the sizes are keys of a dictionary, and plain. -/
structure Settings where
  thumbnailSizes : List (String × ℕ × ℕ)
  distinct : (thumbnailSizes.map Prod.fst).Nodup
  plain : ∀ size ∈ thumbnailSizes.map Prod.fst, '/' ∉ size.toList
  thumbnailFormat : ThumbnailFormat
  generateThumbnail : Bytes → ℕ × ℕ → Option Bytes
  sha256 : Bytes → String

/-- The thumbnails' paths, of those sizes that a row has a column for. -/
structure ThumbnailPaths where
  small : Option String := none
  medium : Option String := none
  large : Option String := none
  deriving DecidableEq

def ThumbnailPaths.set (paths : ThumbnailPaths) (path : String) (size : String) : ThumbnailPaths :=
  if size = "small" then { paths with small := some path }
  else if size = "medium" then { paths with medium := some path }
  else if size = "large" then { paths with large := some path }
  else paths

structure File where
  id : ℤ
  filename : String
  originalFilename : String
  mimeType : String
  sizeBytes : ℕ
  storagePath : String
  checksumSha256 : String
  uploaderId : ℤ
  thumbnailPaths : ThumbnailPaths
  deriving DecidableEq

instance : Keyed File where
  key := File.id
  withKey id file := { file with id := id }
  key_withKey _ _ := rfl

/-- An upload, and what goes wrong with it. -/
structure Upload where
  filename : Option String
  content : Bytes
  contentType : Option String
  uploaderId : ℤ
  readFails : Bool := false
  fault : Option WriteFault := none
  thumbnailFault : String → Option WriteFault := fun _ => none
  commitFails : Bool := false

structure State where
  disk : Disk
  files : Table File

inductive Request where
  | upload (u : Upload)
  | streamUpload (u : Upload)
  | delete (id : ℤ)

/-! ### The endpoints -/

variable (settings : Settings)

/-- `is_image_mime` -/
def isImageMime (mimeType : String) : Bool := mimeType.startsWith "image/"

/-- `generate_all_thumbnails` -/
def generateAllThumbnails (content : Bytes) : Option (List (String × Bytes)) :=
  settings.thumbnailSizes.mapM fun size => (settings.generateThumbnail content size.2).map fun thumb => (size.1, thumb)

/-- `storage_path.rsplit("/", 1)[-1].rsplit(".", 1)[0]` -/
def stemOf (storagePath : String) : String :=
  let name := ((split '/' storagePath).getLast?).getD ""
  if '.' ∈ name.toList then String.ofList ((name.toList.reverse.dropWhile fun c => c != '.').drop 1).reverse else name

/-- The name of a thumbnail, within its directory. -/
def thumbnailName (stem : String) (size : String) : String :=
  stem ++ ("_" ++ size ++ "." ++ settings.thumbnailFormat.name)

/-- The loop of `_generate_thumbnails`. -/
def saveThumbnails (fault : String → Option WriteFault) (storagePath : String) :
    List (String × Bytes) → ThumbnailPaths → Saving ThumbnailPaths
  | [], paths => return paths
  | (size, thumb) :: rest, paths => do
    let thumbFilename := "thumbnails" ++ String.singleton '/' ++ thumbnailName settings (stemOf storagePath) size
    let thumbPath ← uploadBytes (fault size) thumb thumbFilename
    saveThumbnails fault storagePath rest (paths.set thumbPath size)

def generateThumbnails (fault : String → Option WriteFault) (content : Bytes) (mimeType storagePath : String) :
    Saving ThumbnailPaths :=
  if isImageMime mimeType && !settings.thumbnailSizes.isEmpty then
    match generateAllThumbnails settings content with
    | none => .fail
    | some thumbs => saveThumbnails settings fault storagePath thumbs {}
  else return {}

def maxFileSizeMb : ℕ := 50

/-- `file.filename`, if it is one. -/
def Upload.name (u : Upload) : Option String := u.filename.filter fun name => name != ""

/-- `file.content_type or "application/octet-stream"` -/
def Upload.mimeType (u : Upload) : String :=
  (u.contentType.filter fun type => type != "").getD "application/octet-stream"

/-- The client's filename, of an upload that is read and within the limit. -/
def Upload.accepted (u : Upload) : Option String :=
  u.name.filter fun _ => !u.readFails && decide (u.content.length ≤ maxFileSizeMb * 1024 * 1024)

/-- `upload_file`, up to the row that it adds. -/
def uploadFile (u : Upload) : Saving File :=
  match u.accepted with
  | none => .fail
  | some filename => do
    let path ← uploadBytes u.fault u.content filename
    let thumbnailPaths ← generateThumbnails settings u.thumbnailFault u.content u.mimeType path
    return {
      id := 0
      filename := ((split '/' path).getLast?).getD ""
      originalFilename := filename
      mimeType := u.mimeType
      sizeBytes := u.content.length
      storagePath := path
      checksumSha256 := settings.sha256 u.content
      uploaderId := u.uploaderId
      thumbnailPaths := thumbnailPaths }

/-- `file.filename or "unnamed"`, of a file that is read. -/
def Upload.streamed (u : Upload) : Option String := if u.readFails then none else some (u.name.getD "unnamed")

/-- `_stream_file_upload` -/
def streamFileUpload (u : Upload) : Saving String :=
  match u.streamed with
  | none => .fail
  | some filename => uploadBytes u.fault u.content filename

/-- The paths of thumbnails that a row has. -/
def File.thumbnails (file : File) : List String :=
  [file.thumbnailPaths.small, file.thumbnailPaths.medium, file.thumbnailPaths.large].filterMap fun path =>
    path.filter fun path => path != ""

/-- The texts are not longer than the columns. -/
def File.fits (file : File) : Bool :=
  decide (file.filename.length ≤ 255) && decide (file.originalFilename.length ≤ 255) &&
    decide (file.mimeType.length ≤ 127) && decide (file.storagePath.length ≤ 512) &&
    file.thumbnails.all fun path => decide (path.length ≤ 512)

/-- `create_from_upload`: the storage path is unique. -/
def createFromUpload (commitFails : Bool) (file : File) (files : Table File) : Table File :=
  if commitFails || !file.fits || files.rows.any fun other => other.storagePath = file.storagePath then files
  else files.insert file

/-- `delete_file` -/
def deleteFile (id : ℤ) (s : State) : State :=
  match s.files.get? id with
  | none => s
  | some file =>
    { disk := file.thumbnails.foldl Disk.delete (s.disk.delete file.storagePath)
      files := s.files.keep fun other => other.id != id }

def Request.step (request : Request) (s : State) : State :=
  match request with
  | upload u =>
    { disk := s.disk.write (uploadFile settings u).writes
      files := match (uploadFile settings u).result with
        | none => s.files
        | some file => createFromUpload u.commitFails file s.files }
  | streamUpload u => { s with disk := s.disk.write (streamFileUpload u).writes }
  | delete id => deleteFile id s

/-- No files have been uploaded yet; the directory may hold others. -/
def fresh (disk : Disk) : State := { disk := disk, files := Table.empty }

/-! ### The names of thumbnails -/

variable {settings}

lemma dropWhile_reverse_append {sep : Char} {cs : List Char} (h : sep ∈ cs) :
    ∃ tail, cs = ((cs.reverse.dropWhile fun c => c != sep).drop 1).reverse ++ sep :: tail := by
  obtain ⟨behind, before, hcs, hbehind⟩ := List.eq_append_cons_of_mem (List.mem_reverse.2 h)
  have hdrop : (cs.reverse.dropWhile fun c => c != sep) = sep :: before := by
    rw [hcs, List.dropWhile_append_of_pos]
    · simp
    · intro c hc
      exact bne_iff_ne.2 fun heq => hbehind (heq ▸ hc)
  refine ⟨behind.reverse, ?_⟩
  rw [hdrop, List.drop_one, List.tail_cons, ← List.reverse_reverse cs, hcs]
  simp

lemma stemOf_of_notMem {name : String} (hname : '/' ∉ name.toList) :
    stemOf name
      = if '.' ∈ name.toList then String.ofList ((name.toList.reverse.dropWhile fun c => c != '.').drop 1).reverse
        else name := by
  unfold stemOf
  rw [split_of_notMem hname]
  rfl

/-- A name is its stem, and what follows the last dot. -/
lemma stemOf_append {name : String} (hname : '/' ∉ name.toList) :
    ∃ rest, name.toList = (stemOf name).toList ++ rest ∧ (rest = [] ∨ rest.head? = some '.') := by
  rw [stemOf_of_notMem hname]
  by_cases hdot : '.' ∈ name.toList
  · obtain ⟨tail, htail⟩ := dropWhile_reverse_append hdot
    rw [if_pos hdot]
    exact ⟨'.' :: tail, by rwa [String.toList_ofList], .inr rfl⟩
  · rw [if_neg hdot]
    exact ⟨[], by simp, .inl rfl⟩

/-- No thumbnail has the name of its file. -/
lemma thumbnailName_ne {name : String} (hname : '/' ∉ name.toList) (size : String) :
    thumbnailName settings (stemOf name) size ≠ name := by
  intro heq
  obtain ⟨rest, hrest, hhead⟩ := stemOf_append hname
  have hlist := congrArg String.toList heq
  rw [hrest, thumbnailName, String.toList_append] at hlist
  have htail := List.append_cancel_left hlist
  simp only [String.toList_append] at htail
  rcases hhead with rfl | hdot
  · cases htail
  · rw [← htail] at hdot
    cases hdot

lemma thumbnailName_inj {stem size other : String} :
    thumbnailName settings stem size = thumbnailName settings stem other ↔ size = other := by
  refine ⟨fun heq => ?_, fun heq => heq ▸ rfl⟩
  have hlist := congrArg String.toList heq
  simp only [thumbnailName, String.toList_append, List.append_assoc] at hlist
  have htail := List.append_cancel_left (List.append_cancel_left hlist)
  exact String.toList_inj.1 (List.append_cancel_right htail)

variable (settings) in
/-- A thumbnail's name is used as it is. -/
lemma safeName_thumbnail {name size : String} (hname : '/' ∉ name.toList) (hsize : '/' ∉ size.toList) :
    safeName ("thumbnails" ++ String.singleton '/' ++ thumbnailName settings (stemOf name) size)
      = some (thumbnailName settings (stemOf name) size) := by
  have hunder : '_' ∈ (thumbnailName settings (stemOf name) size).toList := by simp [thumbnailName]
  have hne : ∀ other : String, '_' ∉ other.toList → thumbnailName settings (stemOf name) size ≠ other := by
    intro other hother heq
    exact hother (heq ▸ hunder)
  have hstem : '/' ∉ (stemOf name).toList := by
    obtain ⟨rest, hrest, _⟩ := stemOf_append hname
    rw [hrest] at hname
    exact fun hmem => hname (List.mem_append_left _ hmem)
  have hslash : '/' ∉ (thumbnailName settings (stemOf name) size).toList := by
    cases hformat : settings.thumbnailFormat <;>
      simp [thumbnailName, hformat, ThumbnailFormat.name, hstem, hsize]
  have hpath : pathName ("thumbnails" ++ String.singleton '/' ++ thumbnailName settings (stemOf name) size)
      = thumbnailName settings (stemOf name) size :=
    pathName_of_notMem (by simp) hslash (hne _ (by simp)) (hne _ (by simp))
  rw [safeName, hpath, if_neg]
  simp [hne]

/-! ### What an upload writes -/

lemma append_singleton_prefix_cons {α : Type} {done rest : List α} {x y : α} :
    done ++ [x] <+: y :: rest ↔ done = [] ∧ x = y ∨ ∃ more, done = y :: more ∧ more ++ [x] <+: rest := by
  cases done with
  | nil => simp [List.cons_prefix_cons]
  | cons z more =>
    rw [List.cons_append, List.cons_prefix_cons]
    constructor
    · rintro ⟨rfl, hupto⟩
      exact .inr ⟨more, rfl, hupto⟩
    · rintro (⟨hnil, _⟩ | ⟨_, hcons, hupto⟩)
      · cases hnil
      · cases hcons
        exact ⟨rfl, hupto⟩

/-- A thumbnail is written if all before it are saved. -/
lemma lastWritten_saveThumbnails {fault : String → Option WriteFault} {path name : String} {bytes : Bytes}
    (hpath : '/' ∉ path.toList) {thumbs : List (String × Bytes)} {paths : ThumbnailPaths}
    (hplain : ∀ size ∈ thumbs.map Prod.fst, '/' ∉ size.toList) (hnodup : (thumbs.map Prod.fst).Nodup) :
    lastWritten (saveThumbnails settings fault path thumbs paths).writes name = some bytes
      ↔ ∃ done size thumb, done ++ [(size, thumb)] <+: thumbs ∧ (∀ saved ∈ done, fault saved.1 = none) ∧
          name = thumbnailName settings (stemOf path) size ∧ stored thumb (fault size) = some bytes := by
  induction thumbs generalizing paths bytes with
  | nil =>
    constructor
    · intro h
      cases h
    · rintro ⟨done, size, thumb, hupto, _⟩
      simp at hupto
  | cons head rest ih =>
    obtain ⟨size, thumb⟩ := head
    rw [List.map_cons, List.nodup_cons] at hnodup
    rw [List.map_cons, List.forall_mem_cons] at hplain
    rw [saveThumbnails, lastWritten_bind, Option.or_eq_some_iff]
    simp only [append_singleton_prefix_cons]
    have hsafe := safeName_thumbnail settings hpath hplain.1
    constructor
    · rintro (hrest | ⟨_, hhead⟩)
      · obtain ⟨saved, hsaved, hwritten⟩ := Option.bind_eq_some_iff.1 hrest
        obtain ⟨done, other, data, hupto, hdone, hname, hstored⟩ := (ih hplain.2 hnodup.2).1 hwritten
        refine ⟨(size, thumb) :: done, other, data, .inr ⟨done, rfl, hupto⟩, ?_, hname, hstored⟩
        exact List.forall_mem_cons.2 ⟨(uploadBytes_eq_some.1 hsaved).2, hdone⟩
      · obtain ⟨hname, hstored⟩ := lastWritten_uploadBytes.1 hhead
        exact ⟨[], size, thumb, .inl ⟨rfl, rfl⟩, by simp, Option.some.inj (hname.symm.trans hsafe), hstored⟩
    · rintro ⟨done, other, data, ⟨rfl, heq⟩ | ⟨more, rfl, hupto⟩, hdone, hname, hstored⟩
      · obtain ⟨rfl, rfl⟩ := Prod.mk.inj heq
        refine .inr ⟨?_, lastWritten_uploadBytes.2 ⟨hsafe.trans (congrArg some hname.symm), hstored⟩⟩
        -- The rest has other sizes.
        refine Option.eq_none_iff_forall_ne_some.2 fun later hlater => hnodup.1 ?_
        obtain ⟨_, _, hwritten⟩ := Option.bind_eq_some_iff.1 hlater
        obtain ⟨_, _, _, hupto, _, hsame, _⟩ := (ih hplain.2 hnodup.2).1 hwritten
        have hmem := List.mem_map_of_mem (f := Prod.fst) (hupto.subset (List.mem_append_right _ (.head _)))
        rwa [thumbnailName_inj.1 (hname.symm.trans hsame)]
      · rw [List.forall_mem_cons] at hdone
        refine .inl (Option.bind_eq_some_iff.2 ⟨_, uploadBytes_eq_some.2 ⟨hsafe, hdone.1⟩, ?_⟩)
        exact (ih hplain.2 hnodup.2).2 ⟨more, other, data, hupto, hdone.2, hname, hstored⟩

variable (settings) in
/-- An upload comes to a thumbnail: the file and all thumbnails before are saved. -/
def Upload.ComesTo (u : Upload) (size : String) (thumb : Bytes) : Prop :=
  u.fault = none ∧ isImageMime u.mimeType = true ∧
    ∃ thumbs done, generateAllThumbnails settings u.content = some thumbs ∧ done ++ [(size, thumb)] <+: thumbs ∧
      ∀ saved ∈ done, u.thumbnailFault saved.1 = none

lemma sizes_generateAllThumbnails {content : Bytes} {thumbs : List (String × Bytes)}
    (h : generateAllThumbnails settings content = some thumbs) :
    thumbs.map Prod.fst = settings.thumbnailSizes.map Prod.fst := by
  unfold generateAllThumbnails at h
  generalize settings.thumbnailSizes = sizes at h ⊢
  induction sizes generalizing thumbs with
  | nil =>
    obtain rfl := Option.some.inj h
    rfl
  | cons size sizes ih =>
    rw [List.mapM_cons] at h
    obtain ⟨thumb, hthumb, h⟩ := Option.bind_eq_some_iff.1 h
    obtain ⟨rest, hrest, h⟩ := Option.bind_eq_some_iff.1 h
    obtain ⟨bytes, _, rfl⟩ := Option.map_eq_some_iff.1 hthumb
    obtain rfl := Option.some.inj h
    rw [List.map_cons, List.map_cons, ih hrest]

lemma lastWritten_generateThumbnails {u : Upload} {path name : String} {bytes : Bytes} (hpath : '/' ∉ path.toList)
    (hfault : u.fault = none) :
    lastWritten (generateThumbnails settings u.thumbnailFault u.content u.mimeType path).writes name = some bytes
      ↔ ∃ size thumb, u.ComesTo settings size thumb ∧ name = thumbnailName settings (stemOf path) size ∧
          stored thumb (u.thumbnailFault size) = some bytes := by
  unfold generateThumbnails
  by_cases himage : (isImageMime u.mimeType && !settings.thumbnailSizes.isEmpty) = true
  · rw [if_pos himage]
    have hmime := (Bool.and_eq_true _ _ ▸ himage).1
    cases hthumbs : generateAllThumbnails settings u.content with
    | none =>
      constructor
      · intro h
        cases h
      · rintro ⟨size, thumb, ⟨_, _, thumbs, done, hsome, _⟩, _⟩
        rw [hthumbs] at hsome
        cases hsome
    | some thumbs =>
      have hsizes := sizes_generateAllThumbnails hthumbs
      rw [lastWritten_saveThumbnails hpath (hsizes ▸ settings.plain) (hsizes ▸ settings.distinct)]
      constructor
      · rintro ⟨done, size, thumb, hupto, hdone, hname, hstored⟩
        exact ⟨size, thumb, ⟨hfault, hmime, thumbs, done, hthumbs, hupto, hdone⟩, hname, hstored⟩
      · rintro ⟨size, thumb, ⟨_, _, others, done, hsome, hupto, hdone⟩, hname, hstored⟩
        obtain rfl := Option.some.inj (hthumbs.symm.trans hsome)
        exact ⟨done, size, thumb, hupto, hdone, hname, hstored⟩
  · rw [if_neg himage]
    constructor
    · intro h
      cases h
    · rintro ⟨size, thumb, ⟨_, hmime, thumbs, done, hsome, hupto, _⟩, _⟩
      -- There is a size that it comes to.
      have hmem := List.mem_map_of_mem (f := Prod.fst) (hupto.subset (List.mem_append_right _ (.head _)))
      rw [sizes_generateAllThumbnails hsome] at hmem
      refine absurd ?_ himage
      rw [hmime, Bool.true_and, Bool.not_eq_true', List.isEmpty_eq_false_iff]
      rintro hnil
      rw [hnil] at hmem
      cases hmem

lemma notMem_safeName {path name : String} (h : safeName path = some name) : '/' ∉ name.toList :=
  eq_pathName h ▸ notMem_pathName path

/-- **An upload writes its file, and the thumbnails that it comes to.** -/
theorem lastWritten_uploadFile {u : Upload} {name : String} {bytes : Bytes} :
    lastWritten (uploadFile settings u).writes name = some bytes
      ↔ ∃ own, u.accepted.bind safeName = some own ∧
          (name = own ∧ stored u.content u.fault = some bytes ∨
            ∃ size thumb, u.ComesTo settings size thumb ∧ name = thumbnailName settings (stemOf own) size ∧
              stored thumb (u.thumbnailFault size) = some bytes) := by
  unfold uploadFile
  cases u.accepted with
  | none =>
    constructor
    · intro h
      cases h
    · rintro ⟨own, hnone, _⟩
      cases hnone
  | some filename =>
    rw [lastWritten_bind, Option.or_eq_some_iff]
    simp only [lastWritten_bind_pure, Option.bind_some]
    constructor
    · rintro (hthumb | ⟨_, hown⟩)
      · obtain ⟨own, hown, hwritten⟩ := Option.bind_eq_some_iff.1 hthumb
        obtain ⟨hsafe, hfault⟩ := uploadBytes_eq_some.1 hown
        exact ⟨own, hsafe, .inr ((lastWritten_generateThumbnails (notMem_safeName hsafe) hfault).1 hwritten)⟩
      · obtain ⟨hsafe, hstored⟩ := lastWritten_uploadBytes.1 hown
        exact ⟨name, hsafe, .inl ⟨rfl, hstored⟩⟩
    · rintro ⟨own, hsafe, ⟨rfl, hstored⟩ | ⟨size, thumb, hcomes, hname, hstored⟩⟩
      · refine .inr ⟨Option.eq_none_iff_forall_ne_some.2 fun later hlater => ?_, ?_⟩
        swap
        · exact lastWritten_uploadBytes.2 ⟨hsafe, hstored⟩
        -- No thumbnail is written over the file.
        obtain ⟨path, hpath, hwritten⟩ := Option.bind_eq_some_iff.1 hlater
        obtain ⟨hsame, hfault⟩ := uploadBytes_eq_some.1 hpath
        obtain rfl := Option.some.inj (hsame.symm.trans hsafe)
        obtain ⟨size, _, _, hname, _⟩ := (lastWritten_generateThumbnails (notMem_safeName hsafe) hfault).1 hwritten
        exact thumbnailName_ne (notMem_safeName hsafe) size hname.symm
      · refine .inl (Option.bind_eq_some_iff.2 ⟨own, uploadBytes_eq_some.2 ⟨hsafe, hcomes.1⟩, ?_⟩)
        exact (lastWritten_generateThumbnails (notMem_safeName hsafe) hcomes.1).2 ⟨size, thumb, hcomes, hname, hstored⟩

/-- The row that is added is of the bytes written. -/
lemma uploadFile_eq_some {u : Upload} {file : File} (h : (uploadFile settings u).result = some file) :
    u.accepted.bind safeName = some file.storagePath ∧ u.fault = none ∧
      file.checksumSha256 = settings.sha256 u.content := by
  unfold uploadFile at h
  cases haccepted : u.accepted with
  | none =>
    rw [haccepted] at h
    cases h
  | some filename =>
    rw [haccepted] at h
    simp only [Saving.result_bind] at h
    obtain ⟨own, hown, h⟩ := Option.bind_eq_some_iff.1 h
    obtain ⟨paths, _, h⟩ := Option.bind_eq_some_iff.1 h
    obtain ⟨hsafe, hfault⟩ := uploadBytes_eq_some.1 hown
    obtain rfl := Option.some.inj h
    exact ⟨hsafe, hfault, rfl⟩

/-! ### What a deletion removes -/

lemma foldl_delete (disk : Disk) (paths : List String) (name : String) :
    paths.foldl Disk.delete disk name = if name ∈ paths then none else disk name := by
  induction paths generalizing disk with
  | nil => simp
  | cons path paths ih =>
    rw [List.foldl_cons, ih]
    by_cases hmem : name ∈ paths <;> by_cases hpath : name = path <;> simp [hmem, hpath, Disk.delete]

lemma deleteFile_of_some {s : State} {id : ℤ} {file : File} (h : s.files.get? id = some file) (name : String) :
    (deleteFile id s).disk name
      = if name = file.storagePath ∨ name ∈ file.thumbnails then none else s.disk name := by
  unfold deleteFile
  rw [h]
  dsimp only
  rw [foldl_delete]
  by_cases hmem : name ∈ file.thumbnails <;> by_cases hpath : name = file.storagePath <;>
    simp [hmem, hpath, Disk.delete]

lemma mem_deleteFile {s : State} {id : ℤ} {file : File} (h : s.files.get? id = some file) {other : File} :
    other ∈ (deleteFile id s).files.rows ↔ other ∈ s.files.rows ∧ other.id ≠ id := by
  unfold deleteFile
  rw [h]
  simp [Table.keep]

lemma mem_createFromUpload {commitFails : Bool} {file other : File} {files : Table File}
    (h : other ∈ (createFromUpload commitFails file files).rows) :
    other ∈ files.rows ∨ other = { file with id := files.next } := by
  unfold createFromUpload at h
  split at h
  · exact .inl h
  · exact Table.mem_insert.1 h

lemma mem_createFromUpload_of_mem {commitFails : Bool} {file other : File} {files : Table File}
    (h : other ∈ files.rows) : other ∈ (createFromUpload commitFails file files).rows := by
  unfold createFromUpload
  split
  · exact h
  · exact Table.mem_insert.2 (.inl h)

/-! ### The rows and the bytes -/

/-- No two files have one storage path. -/
def PathsDiffer (files : Table File) : Prop := files.rows.Pairwise fun a b => a.storagePath ≠ b.storagePath

lemma PathsDiffer.ne {files : Table File} (h : PathsDiffer files) {a b : File} (ha : a ∈ files.rows)
    (hb : b ∈ files.rows) (hne : a ≠ b) : a.storagePath ≠ b.storagePath := by
  have : Std.Symm fun a b : File => a.storagePath ≠ b.storagePath := ⟨fun _ _ hpath => hpath.symm⟩
  exact List.Pairwise.forall h ha hb hne

lemma PathsDiffer.createFromUpload {files : Table File} (h : PathsDiffer files) (commitFails : Bool) (file : File) :
    PathsDiffer (createFromUpload commitFails file files) := by
  unfold Storage.createFromUpload
  split
  · exact h
  · rename_i hnew
    refine List.pairwise_append.2 ⟨h, List.pairwise_singleton _ _, fun other hother new hmem => ?_⟩
    rw [List.mem_singleton.1 hmem]
    intro hpath
    simp only [Bool.or_eq_true, List.any_eq_true, decide_eq_true_eq] at hnew
    exact hnew (.inr ⟨other, hother, hpath⟩)

variable (settings)

lemma PathsDiffer.step {s : State} (h : PathsDiffer s.files) (request : Request) :
    PathsDiffer (request.step settings s).files := by
  cases request with
  | upload u =>
    show PathsDiffer (Request.step settings (.upload u) s).files
    unfold Request.step
    dsimp only
    cases (uploadFile settings u).result with
    | none => exact h
    | some file => exact h.createFromUpload u.commitFails file
  | streamUpload u => exact h
  | delete id =>
    show PathsDiffer (deleteFile id s).files
    unfold deleteFile
    cases s.files.get? id with
    | none => exact h
    | some file => exact h.filter _

/-- The bytes under the file's path have its checksum. -/
def File.Intact (file : File) (disk : Disk) : Prop :=
  ∃ bytes, disk file.storagePath = some bytes ∧ settings.sha256 bytes = file.checksumSha256

def State.Intact (s : State) : Prop := ∀ file ∈ s.files.rows, file.Intact settings s.disk

/-- What an upload leaves under the file's path, if anything, has the file's checksum. -/
structure Upload.Spares (u : Upload) (name : String) (file : File) : Prop where
  own : file.storagePath = name → ∀ bytes, stored u.content u.fault = some bytes →
    settings.sha256 bytes = file.checksumSha256
  thumbnail : ∀ size thumb, u.ComesTo settings size thumb →
    file.storagePath = thumbnailName settings (stemOf name) size →
      ∀ bytes, stored thumb (u.thumbnailFault size) = some bytes → settings.sha256 bytes = file.checksumSha256

/-- A request leaves the bytes of the files alone. -/
def State.Spared (s : State) : Request → Prop
  | .upload u => ∀ name, u.accepted.bind safeName = some name → ∀ file ∈ s.files.rows, u.Spares settings name file
  | .streamUpload u => ∀ name, u.streamed.bind safeName = some name → ∀ file ∈ s.files.rows, file.storagePath = name →
      ∀ bytes, stored u.content u.fault = some bytes → settings.sha256 bytes = file.checksumSha256
  | .delete id => ∀ file, s.files.get? id = some file → ∀ other ∈ s.files.rows, other.id ≠ id →
      other.storagePath ∉ file.thumbnails

/-- After the request all files are intact; a deletion leaves the bytes of the others as they were. -/
structure State.Stays (s : State) (request : Request) : Prop where
  intact : (request.step settings s).Intact settings
  apart : ∀ id, request = .delete id → ∀ file ∈ s.files.rows, file.id ≠ id →
    (request.step settings s).disk file.storagePath = s.disk file.storagePath

variable {settings}

/-- A write keeps a file intact if what it leaves has the file's checksum. -/
lemma File.intact_write_iff {file : File} {disk : Disk} (h : file.Intact settings disk) (writes : Writes) :
    file.Intact settings (disk.write writes)
      ↔ ∀ bytes, lastWritten writes file.storagePath = some bytes → settings.sha256 bytes = file.checksumSha256 := by
  unfold File.Intact Disk.write
  cases hlast : lastWritten writes file.storagePath with
  | none =>
    rw [Option.none_or]
    exact iff_of_true h (by simp)
  | some bytes => simp

lemma Upload.spares_iff {u : Upload} {file : File} :
    (∀ name, u.accepted.bind safeName = some name → u.Spares settings name file)
      ↔ ∀ bytes, lastWritten (uploadFile settings u).writes file.storagePath = some bytes →
          settings.sha256 bytes = file.checksumSha256 := by
  constructor
  · intro hspares bytes hlast
    obtain ⟨name, hname, ⟨hpath, hstored⟩ | ⟨size, thumb, hcomes, hpath, hstored⟩⟩ := lastWritten_uploadFile.1 hlast
    · exact (hspares name hname).own hpath bytes hstored
    · exact (hspares name hname).thumbnail size thumb hcomes hpath bytes hstored
  · intro hlast name hname
    constructor
    · intro hpath bytes hstored
      exact hlast bytes (lastWritten_uploadFile.2 ⟨name, hname, .inl ⟨hpath, hstored⟩⟩)
    · intro size thumb hcomes hpath bytes hstored
      exact hlast bytes (lastWritten_uploadFile.2 ⟨name, hname, .inr ⟨size, thumb, hcomes, hpath, hstored⟩⟩)

lemma intact_upload_iff {s : State} (h : s.Intact settings) (u : Upload) :
    (Request.step settings (.upload u) s).Intact settings ↔ s.Spared settings (.upload u) := by
  have hrows : s.Spared settings (.upload u) ↔
      ∀ file ∈ s.files.rows, file.Intact settings (s.disk.write (uploadFile settings u).writes) := by
    have hswap : s.Spared settings (.upload u) ↔ ∀ file ∈ s.files.rows, ∀ name,
        u.accepted.bind safeName = some name → u.Spares settings name file :=
      ⟨fun hspared file hfile name hname => hspared name hname file hfile,
        fun hspared name hname file hfile => hspared file hfile name hname⟩
    refine hswap.trans (forall₂_congr fun file hfile => ?_)
    rw [Upload.spares_iff, File.intact_write_iff (h file hfile)]
  rw [hrows]
  unfold State.Intact Request.step
  dsimp only
  cases hresult : (uploadFile settings u).result with
  | none => rfl
  | some new =>
    refine ⟨fun hintact file hfile => hintact file (mem_createFromUpload_of_mem hfile), fun hintact file hfile => ?_⟩
    rcases mem_createFromUpload hfile with hold | rfl
    · exact hintact file hold
    · obtain ⟨hname, hfault, hchecksum⟩ := uploadFile_eq_some hresult
      have hlast : lastWritten (uploadFile settings u).writes new.storagePath = some u.content :=
        lastWritten_uploadFile.2 ⟨_, hname, .inl ⟨rfl, congrArg (stored u.content) hfault⟩⟩
      exact ⟨u.content, by simp [Disk.write, hlast], hchecksum.symm⟩

lemma intact_streamUpload_iff {s : State} (h : s.Intact settings) (u : Upload) :
    (Request.step settings (.streamUpload u) s).Intact settings ↔ s.Spared settings (.streamUpload u) := by
  have hwrites : ∀ {name bytes}, lastWritten (streamFileUpload u).writes name = some bytes
      ↔ u.streamed.bind safeName = some name ∧ stored u.content u.fault = some bytes := by
    intro name bytes
    unfold streamFileUpload
    cases u.streamed with
    | none => simp [Saving.fail]
    | some filename => exact lastWritten_uploadBytes
  have hintact : (Request.step settings (.streamUpload u) s).Intact settings ↔
      ∀ file ∈ s.files.rows, file.Intact settings (s.disk.write (streamFileUpload u).writes) := Iff.rfl
  rw [hintact]
  constructor
  · rintro hfiles name hname file hfile rfl bytes hstored
    exact (File.intact_write_iff (h file hfile) _).1 (hfiles file hfile) bytes (hwrites.2 ⟨hname, hstored⟩)
  · intro hspared file hfile
    refine (File.intact_write_iff (h file hfile) _).2 fun bytes hlast => ?_
    obtain ⟨hname, hstored⟩ := hwrites.1 hlast
    exact hspared _ hname file hfile rfl bytes hstored

/-- A deletion leaves another file's bytes as they were, unless one of its thumbnails is stored there. -/
lemma disk_deleteFile {s : State} (hpaths : PathsDiffer s.files) {id : ℤ} {file other : File}
    (hfile : s.files.get? id = some file) (hother : other ∈ s.files.rows) (hne : other.id ≠ id) :
    (deleteFile id s).disk other.storagePath
      = if other.storagePath ∈ file.thumbnails then none else s.disk other.storagePath := by
  obtain ⟨hmem, hid⟩ := Table.get?_eq_some.1 hfile
  have hpath := hpaths.ne hother hmem fun heq => hne (heq ▸ hid)
  simp [deleteFile_of_some hfile, hpath]

lemma intact_delete_iff {s : State} (hpaths : PathsDiffer s.files) (h : s.Intact settings) (id : ℤ) :
    (Request.step settings (.delete id) s).Intact settings ↔ s.Spared settings (.delete id) := by
  show (deleteFile id s).Intact settings ↔ _
  cases hfile : s.files.get? id with
  | none =>
    have hsame : deleteFile id s = s := by
      unfold deleteFile
      rw [hfile]
    rw [hsame]
    refine iff_of_true h fun file hsome => ?_
    rw [hfile] at hsome
    cases hsome
  | some file =>
    constructor
    · intro hintact file' hsome other hother hne hthumbnail
      obtain rfl := Option.some.inj (hfile.symm.trans hsome)
      obtain ⟨bytes, hbytes, _⟩ := hintact other ((mem_deleteFile hfile).2 ⟨hother, hne⟩)
      rw [disk_deleteFile hpaths hfile hother hne, if_pos hthumbnail] at hbytes
      cases hbytes
    · intro hspared other hmem
      obtain ⟨hother, hne⟩ := (mem_deleteFile hfile).1 hmem
      unfold File.Intact
      rw [disk_deleteFile hpaths hfile hother hne, if_neg (hspared file hfile other hother hne)]
      exact h other hother

/-- Of intact files, a request leaves all intact exactly if it spares them. -/
theorem stays_step_iff {s : State} (hpaths : PathsDiffer s.files) (h : s.Intact settings) (request : Request) :
    s.Stays settings request ↔ s.Spared settings request := by
  have hintact : (request.step settings s).Intact settings ↔ s.Spared settings request := by
    cases request with
    | upload u => exact intact_upload_iff h u
    | streamUpload u => exact intact_streamUpload_iff h u
    | delete id => exact intact_delete_iff hpaths h id
  refine ⟨fun hstays => hintact.1 hstays.intact, fun hspared => ⟨hintact.2 hspared, ?_⟩⟩
  rintro id rfl other hother hne
  show (deleteFile id s).disk other.storagePath = _
  cases hfile : s.files.get? id with
  | none =>
    unfold deleteFile
    rw [hfile]
  | some file => rw [disk_deleteFile hpaths hfile hother hne, if_neg (hspared file hfile other hother hne)]

/-- **What is stored stays what was uploaded, exactly as long as the requests spare the files that there are.** -/
theorem stays_iff (settings : Settings) (disk : Disk) (requests : List Request) :
    Each (Request.step settings) (State.Stays settings) (fresh disk) requests
      ↔ Each (Request.step settings) (State.Spared settings) (fresh disk) requests := by
  have hfresh : PathsDiffer (fresh disk).files ∧ (fresh disk).Intact settings := by
    refine ⟨List.Pairwise.nil, fun file hfile => ?_⟩
    cases hfile
  refine each_congr_of_inv (I := fun s => PathsDiffer s.files ∧ s.Intact settings) ?_ ?_ hfresh
  · intro s request h hspared
    exact ⟨h.1.step settings request, ((stays_step_iff h.1 h.2 request).2 hspared).intact⟩
  · intro s request h
    exact stays_step_iff h.1 h.2 request

namespace Sample

/-- The digests of the bytes 1 and 2. -/
def sha256 (bytes : Bytes) : String :=
  if bytes = [1] then "4bf5122f344554c53bde2ebb8cd2b7e3d1600ad631c385a5d7cce23c7785459a"
  else if bytes = [2] then "dbc1b4c900ffe48d575b5da5c638040125f65db0fe3e24494b76ea986457d986"
  else ""

/-- The default settings; nothing that is uploaded is an image. -/
def defaultSettings : Settings where
  thumbnailSizes := [("small", 64, 64), ("medium", 256, 256), ("large", 512, 512)]
  distinct := by decide
  plain := by decide
  thumbnailFormat := .webp
  generateThumbnail _ _ := none
  sha256 := sha256

/-- A user uploads one byte under the name a.txt. -/
def note (uploaderId : ℤ) (byte : UInt8) : Request :=
  .upload { filename := some "a.txt", content := [byte], contentType := some "text/plain", uploaderId := uploaderId }

def row : File where
  id := 1
  filename := "a.txt"
  originalFilename := "a.txt"
  mimeType := "text/plain"
  sizeBytes := 1
  storagePath := "a.txt"
  checksumSha256 := sha256 [1]
  uploaderId := 1
  thumbnailPaths := {}

end Sample

open Sample in
/-- User 2 uploads other bytes under the name of user 1's file: no row is added, but the bytes are the new ones. -/
theorem not_stays :
    ¬Each (Request.step defaultSettings) (State.Stays defaultSettings) (fresh fun _ => none) [note 1 1, note 2 2] := by
  intro h
  let s := (note 2 2).step defaultSettings ((note 1 1).step defaultSettings (fresh fun _ => none))
  have hrow : row ∈ s.files.rows := by decide +kernel
  have hdisk : s.disk row.storagePath = some [2] := by decide +kernel
  obtain ⟨bytes, hbytes, hchecksum⟩ := h.2.1.intact row hrow
  obtain rfl := Option.some.inj (hbytes.symm.trans hdisk)
  exact absurd hchecksum (by decide)

end FastapiTemplate.Storage
