import FastapiTemplate.Identity.Exec
import FastapiTemplate.Python.Csv

/-!
# The import of users from a file

`import_users_csv` leaves out the rows whose e-mail address the query before it has found, and writes all others in one
commit. It does not compare the rows of the file with each other, the query sees the users of one tenant only, and the
user names are not looked at: a single row that PostgreSQL refuses, and no row is written. `union_iff` says for which
files and tables the import adds exactly the users that it should.
-/

namespace FastapiTemplate.Identity

open Python Store

/-! ### Rows -/

/-- A row of `users`, with the full name. -/
structure Person extends User where
  fullName : Option String := none
  deriving DecidableEq

instance : Keyed Person where
  key r := r.id
  withKey k r := { r with id := k }
  key_withKey _ _ := rfl

/-- An entry of `raw_rows`. -/
structure RawRow where
  email : Option String
  username : Option String
  password : Option String
  fullName : Option String

/-- A `User` that was built and not yet written. -/
structure NewUser where
  email : Option String
  username : Option String
  hashedPassword : String
  fullName : Option String

inductive ImportExn where
  | builtin (e : BuiltinError)
  | csv (e : CsvError)
  | keyError (key : String)
  /-- The query has more arguments than the driver takes. -/
  | interface
  /-- An `IntegrityError` or a `DataError` of the commit. -/
  | database
  deriving DecidableEq

variable (lib : Libraries) (tenant : Option ℤ) (salts : ℕ → String) (maxArguments : ℕ)

/-! ### The code -/

/-- `r[key]` -/
def column? (key : String) (r : DictRow) : Except ImportExn (Option String) :=
  match r.get? key with
  | none => .error (.keyError key)
  | some value => .ok value

/-- The entry for a row of the file. -/
def rawRow (r : DictRow) : Except ImportExn RawRow := do
  let email ← column? "email" r
  let username ← column? "username" r
  let password ← column? "password" r
  return { email := email, username := username, password := password, fullName := (r.get? "full_name").join }

/-- `raw_rows` -/
def rawRows (content : ByteArray) : Except ImportExn (List RawRow) :=
  match decode content with
  | .error e => .error (.builtin e)
  | .ok text =>
    match dictReader text with
    | .error e => .error (.csv e)
    | .ok rows => rows.mapM rawRow

/-- `existing_emails`; the engine adds the tenant of the request. -/
def existingEmails (t : Table Person) (rows : List RawRow) : List String :=
  (t.rows.filter fun u => visible tenant u.toUser && (rows.map RawRow.email).contains (some u.email)).map (·.email)

/-- `get_password_hash`; a password that is missing has no `encode`. -/
def getPasswordHash (password : Option String) (salt : String) : Except ImportExn String :=
  match password with
  | none => .error (.builtin .attributeError)
  | some password => .ok (lib.hashpw (password.toUTF8.extract 0 72) salt)

def prepare (existing : List String) (salt : String) (row : RawRow) : Except ImportExn (Option NewUser) :=
  if row.email ∈ existing.map some then .ok none
  else do
    let hashed ← getPasswordHash lib row.password salt
    return some { email := row.email, username := row.username, hashedPassword := hashed, fullName := row.fullName }

/-- `orm_objs`: the rows are prepared in order, each with a salt of its own. -/
def ormObjs (existing : List String) : List RawRow → ℕ → Except ImportExn (List NewUser)
  | [], _ => .ok []
  | row :: rows, i => do
    let obj ← prepare lib existing (salts i) row
    let objs ← ormObjs existing rows (i + 1)
    return obj.toList ++ objs

/-- PostgreSQL takes the text for a column of this width. -/
def fits (width : ℕ) (text : String) : Bool := text.length ≤ width && !text.toList.contains (Char.ofNat 0)

/-- `INSERT` into `users`, whose e-mail addresses and names are unique and not null. -/
def insertPerson (obj : NewUser) (t : Table Person) : Option (Table Person) :=
  match obj.email, obj.username with
  | some email, some username =>
    if fits 255 email && fits 50 username && fits 255 obj.hashedPassword && obj.fullName.all (fits 100) &&
        t.rows.all (fun u => u.email != email && u.username != username) then
      some (t.insert
        { tenantId := tenant, email := email, username := username, hashedPassword := obj.hashedPassword,
          fullName := obj.fullName })
    else none
  | _, _ => none

/-- `db.commit()` of all new users, in one transaction. -/
def commitAll : List NewUser → Table Person → Option (Table Person)
  | [], t => some t
  | obj :: objs, t =>
    match insertPerson tenant obj t with
    | none => none
    | some t' => commitAll objs t'

/-- The part of `import_users_csv` behind `raw_rows`; the users are read back after the commit. -/
def importRows (rows : List RawRow) (t : Table Person) : Except ImportExn (List Person) × Table Person :=
  if rows = [] then (.ok [], t)
  else if maxArguments < rows.length + tenant.toList.length then (.error .interface, t)
  else
    match ormObjs lib salts (existingEmails tenant t rows) rows 0 with
    | .error e => (.error e, t)
    | .ok objs =>
      match commitAll tenant objs t with
      | none => (.error .database, t)
      | some t' => (.ok (t'.rows.drop t.rows.length), t')

def importUsersCsv (content : ByteArray) (t : Table Person) : Except ImportExn (List Person) × Table Person :=
  match rawRows content with
  | .error e => (.error e, t)
  | .ok rows => importRows lib tenant salts maxArguments rows t

/-! ### What the import should do -/

/-- The rows whose e-mail address has not been seen, neither before the file nor earlier in it. -/
def fresh (seen : List String) : List RawRow → List RawRow
  | [] => []
  | row :: rows =>
    match row.email with
    | none => fresh seen rows
    | some email => if email ∈ seen then fresh seen rows else row :: fresh (email :: seen) rows

/-- The user is the one of the row. -/
structure IsUserOf (row : RawRow) (u : Person) : Prop where
  email : row.email = some u.email
  username : row.username = some u.username
  fullName : row.fullName = u.fullName
  password : ∃ password salt, row.password = some password ∧
    u.hashedPassword = lib.hashpw (password.toUTF8.extract 0 72) salt

/-- **The import is a union**: it succeeds, and adds one user for each fresh row to the table, in order. -/
structure SetUnion (content : ByteArray) (t : Table Person) (rows : List RawRow) : Prop where
  succeeds : ∃ users, (importUsersCsv lib tenant salts maxArguments content t).1 = .ok users
  adds : ∃ new, (importUsersCsv lib tenant salts maxArguments content t).2.rows = t.rows ++ new ∧
    List.Forall₂ (IsUserOf lib) (fresh (t.rows.map (·.email)) rows) new

/-! ### When it does -/

/-- The rows that are not left out. -/
def remaining (t : Table Person) (rows : List RawRow) : List RawRow :=
  rows.filter fun row => row.email ∉ (existingEmails tenant t rows).map some

/-- The row has all that is required, and PostgreSQL takes it. -/
def RawRow.Storable (row : RawRow) : Prop :=
  row.email.any (fits 255) = true ∧ row.username.any (fits 50) = true ∧ row.password.isSome = true ∧
    row.fullName.all (fits 100) = true

/-- Two rows are for different users. -/
def RawRow.Apart (row row' : RawRow) : Prop := row.email ≠ row'.email ∧ row.username ≠ row'.username

/-- No user of the table has the address or the name, of any tenant. -/
def RawRow.Unused (t : Table Person) (row : RawRow) : Prop :=
  ∀ u ∈ t.rows, row.email ≠ some u.email ∧ row.username ≠ some u.username

/-- The query has not too many arguments; the rows that are not left out can be stored, are for different users, and
take no address and no name that is used. -/
structure Importable (t : Table Person) (rows : List RawRow) : Prop where
  arguments : rows = [] ∨ rows.length + tenant.toList.length ≤ maxArguments
  storable : ∀ row ∈ remaining tenant t rows, row.Storable
  apart : (remaining tenant t rows).Pairwise RawRow.Apart
  unused : ∀ row ∈ remaining tenant t rows, row.Unused t

/-! ### Fresh rows -/

section Fresh

variable {seen : List String} {rows : List RawRow} {email : String}

/-- **One fresh row for each new address**: the addresses of the file that were not seen, each once. -/
theorem count_fresh : ((fresh seen rows).map RawRow.email).count (some email) =
    if some email ∈ rows.map RawRow.email ∧ email ∉ seen then 1 else 0 := by
  induction rows generalizing seen with
  | nil => rfl
  | cons row rows ih =>
    unfold fresh
    split
    · rename_i hnone
      rw [ih]
      simp [hnone]
    · rename_i email' hsome
      split
      · rename_i hseen
        rw [ih]
        by_cases he : email = email'
        · rw [he, if_neg fun h => h.2 hseen, if_neg fun h => h.2 hseen]
        · simp [hsome, he]
      · rename_i hseen
        rw [List.map_cons, List.count_cons, ih, hsome]
        by_cases he : email = email'
        · simp [he, hsome, hseen]
        · have hne : (some email' == some email) = false := by simp [Ne.symm he]
          simp [he, hne, hsome]

/-- The rows that remain are the fresh ones, if they are for different users and take no address that was seen. -/
lemma fresh_eq_filter {p : RawRow → Bool} (hnew : ∀ row ∈ rows.filter p, ∃ email, row.email = some email ∧ email ∉ seen)
    (hapart : (rows.filter p).Pairwise RawRow.Apart)
    (hold : ∀ row ∈ rows, p row = false → ∃ email ∈ seen, row.email = some email) :
    fresh seen rows = rows.filter p := by
  induction rows generalizing seen with
  | nil => rfl
  | cons row rows ih =>
    have hold' := List.forall_mem_cons.1 hold
    unfold fresh
    cases hp : p row with
    | true =>
      rw [List.filter_cons_of_pos hp] at hnew hapart ⊢
      obtain ⟨⟨email, hemail, hunseen⟩, hrows⟩ := List.forall_mem_cons.1 hnew
      obtain ⟨hothers, hapart⟩ := List.pairwise_cons.1 hapart
      rw [hemail]
      dsimp only
      rw [if_neg hunseen, ih (fun row' h => ?_) hapart fun row' h hnot => ?_]
      · obtain ⟨email', hemail', hunseen'⟩ := hrows row' h
        refine ⟨email', hemail', fun hmem => ?_⟩
        rcases List.mem_cons.1 hmem with rfl | hmem
        · exact (hothers row' h).1 (by rw [hemail, hemail'])
        · exact hunseen' hmem
      · obtain ⟨email', hseen, hemail'⟩ := hold'.2 row' h hnot
        exact ⟨email', List.mem_cons_of_mem email hseen, hemail'⟩
    | false =>
      have hneg : ¬p row = true := by simp [hp]
      rw [List.filter_cons_of_neg hneg] at hnew hapart ⊢
      obtain ⟨email, hseen, hemail⟩ := hold'.1 hp
      rw [hemail]
      dsimp only
      rw [if_pos hseen, ih hnew hapart hold'.2]

end Fresh

/-! ### Preparing the rows -/

section Preparing

variable {lib tenant salts} {existing : List String} {rows : List RawRow} {objs : List NewUser} {i : ℕ} {row : RawRow}
  {obj : NewUser}

/-- The object is built from the row. -/
structure IsObjOf (lib : Libraries) (row : RawRow) (obj : NewUser) : Prop where
  email : obj.email = row.email
  username : obj.username = row.username
  fullName : obj.fullName = row.fullName
  password : ∃ password salt, row.password = some password ∧
    obj.hashedPassword = lib.hashpw (password.toUTF8.extract 0 72) salt

/-- **What is prepared**: an object for each row that is not left out; all of them have a password. -/
lemma ormObjs_eq_ok (h : ormObjs lib salts existing rows i = .ok objs) :
    List.Forall₂ (IsObjOf lib) (rows.filter fun row => row.email ∉ existing.map some) objs := by
  induction rows generalizing i objs with
  | nil =>
    cases h
    exact .nil
  | cons row rows ih =>
    obtain ⟨obj, hobj, h⟩ := bind_eq_ok.1 h
    obtain ⟨objs, hobjs, h⟩ := bind_eq_ok.1 h
    cases h
    unfold prepare at hobj
    split at hobj
    · rename_i hleft
      cases hobj
      rw [List.filter_cons_of_neg (by simpa using hleft)]
      exact ih hobjs
    · rename_i hnew
      obtain ⟨hashed, hhashed, hobj⟩ := bind_eq_ok.1 hobj
      cases hobj
      rw [List.filter_cons_of_pos (by simpa using hnew)]
      refine .cons ⟨rfl, rfl, rfl, ?_⟩ (ih hobjs)
      unfold getPasswordHash at hhashed
      split at hhashed
      · cases hhashed
      · rename_i password hpassword
        cases hhashed
        exact ⟨password, salts i, hpassword, rfl⟩

/-- The rows can be prepared if those that are not left out have a password. -/
lemma exists_ormObjs (h : ∀ row ∈ rows.filter fun row => row.email ∉ existing.map some, row.password.isSome = true) :
    ∃ objs, ormObjs lib salts existing rows i = .ok objs := by
  induction rows generalizing i with
  | nil => exact ⟨[], rfl⟩
  | cons row rows ih =>
    by_cases hleft : row.email ∈ existing.map some
    · rw [List.filter_cons_of_neg (by simpa using hleft)] at h
      obtain ⟨objs, hobjs⟩ := ih h
      refine ⟨objs, bind_eq_ok.2 ⟨none, if_pos hleft, bind_eq_ok.2 ⟨objs, hobjs, rfl⟩⟩⟩
    · rw [List.filter_cons_of_pos (by simpa using hleft)] at h
      obtain ⟨hpassword, hrows⟩ := List.forall_mem_cons.1 h
      obtain ⟨password, hpassword⟩ := Option.isSome_iff_exists.1 hpassword
      obtain ⟨objs, hobjs⟩ := ih hrows
      have hhashed : getPasswordHash lib row.password (salts i) =
          .ok (lib.hashpw (password.toUTF8.extract 0 72) (salts i)) := by
        unfold getPasswordHash
        rw [hpassword]
      have hobj : ∃ obj, prepare lib existing (salts i) row = .ok (some obj) := by
        unfold prepare
        rw [if_neg hleft, hhashed]
        exact ⟨_, rfl⟩
      obtain ⟨obj, hobj⟩ := hobj
      exact ⟨_, bind_eq_ok.2 ⟨some obj, hobj, bind_eq_ok.2 ⟨objs, hobjs, rfl⟩⟩⟩

end Preparing

/-! ### The commit -/

section Commit

variable {lib tenant} {row : RawRow} {rows : List RawRow} {obj : NewUser} {objs : List NewUser} {t t' : Table Person}

/-- **What one row that is written says**: it can be stored, its address and name were not used, and there is one user
more, the one of the row. -/
lemma insertPerson_eq_some (hobj : IsObjOf lib row obj) (h : insertPerson tenant obj t = some t') :
    row.Storable ∧ row.Unused t ∧ ∃ u, t'.rows = t.rows ++ [u] ∧ IsUserOf lib row u := by
  unfold insertPerson at h
  split at h
  · rename_i email username hemail husername
    split at h
    · rename_i hfits
      cases h
      simp only [Bool.and_eq_true, List.all_eq_true, bne_iff_ne] at hfits
      obtain ⟨⟨⟨⟨hfits, hfits'⟩, -⟩, hfull⟩, hunused⟩ := hfits
      obtain ⟨password, salt, hpassword, hhashed⟩ := hobj.password
      rw [hobj.email] at hemail
      rw [hobj.username] at husername
      rw [hobj.fullName] at hfull
      refine ⟨⟨by rw [hemail]; exact hfits, by rw [husername]; exact hfits', by rw [hpassword]; rfl, hfull⟩,
        fun u hu => ⟨?_, ?_⟩, _, rfl, hemail, husername, hobj.fullName.symm, password, salt, hpassword, hhashed⟩
      · rw [hemail]
        exact fun e => (hunused u hu).1 (Option.some.inj e).symm
      · rw [husername]
        exact fun e => (hunused u hu).2 (Option.some.inj e).symm
    · cases h
  · cases h

/-- A row that can be stored is written if its address and name are not used. -/
lemma exists_insertPerson (hbcrypt : ∀ password salt, fits 255 (lib.hashpw password salt) = true)
    (hobj : IsObjOf lib row obj) (hstorable : row.Storable) (hunused : row.Unused t) : ∃ t', insertPerson tenant obj t = some t' := by
  obtain ⟨hemail, husername, -, hfull⟩ := hstorable
  rw [← hobj.email] at hemail
  rw [← hobj.username] at husername
  rw [← hobj.fullName] at hfull
  obtain ⟨email, he, hemail⟩ := (Option.any_eq_true _ _).1 hemail
  obtain ⟨username, hn, husername⟩ := (Option.any_eq_true _ _).1 husername
  obtain ⟨password, salt, -, hhashed⟩ := hobj.password
  have hall : t.rows.all (fun u => u.email != email && u.username != username) = true := by
    refine List.all_eq_true.2 fun u hu => ?_
    have hne := hunused u hu
    rw [← hobj.email, ← hobj.username, he, hn] at hne
    rw [Bool.and_eq_true, bne_iff_ne, bne_iff_ne]
    exact ⟨fun e => hne.1 (by rw [e]), fun e => hne.2 (by rw [e])⟩
  unfold insertPerson
  rw [he, hn]
  dsimp only
  rw [hemail, husername, hhashed, hbcrypt, hfull, hall]
  exact ⟨_, rfl⟩

/-- A user that was written uses its address and name. -/
lemma unused_append {u : Person} {row' : RawRow} (h : t'.rows = t.rows ++ [u]) (hu : IsUserOf lib row u) :
    row'.Unused t' ↔ row'.Unused t ∧ row.Apart row' := by
  unfold RawRow.Unused RawRow.Apart
  rw [h, hu.email, hu.username, List.forall_mem_append, List.forall_mem_singleton]
  exact and_congr_right fun _ => and_congr ne_comm ne_comm

/-- **What a commit says**: every row can be stored, and is for another user than the rows before it and the table. -/
lemma commitAll_eq_some (hobjs : List.Forall₂ (IsObjOf lib) rows objs) (h : commitAll tenant objs t = some t') :
    (∀ row ∈ rows, row.Storable) ∧ rows.Pairwise RawRow.Apart ∧ (∀ row ∈ rows, row.Unused t) ∧
      ∃ new, t'.rows = t.rows ++ new ∧ List.Forall₂ (IsUserOf lib) rows new := by
  induction hobjs generalizing t with
  | nil =>
    cases h
    exact ⟨nofun, .nil, nofun, [], (List.append_nil _).symm, .nil⟩
  | @cons row obj rows objs hobj hobjs ih =>
    unfold commitAll at h
    split at h
    · cases h
    · rename_i t₁ hinsert
      obtain ⟨hstorable, hunused, u, hrows, hu⟩ := insertPerson_eq_some hobj hinsert
      obtain ⟨hstorables, hapart, hunuseds, new, hnew, husers⟩ := ih h
      refine ⟨List.forall_mem_cons.2 ⟨hstorable, hstorables⟩, List.pairwise_cons.2 ⟨fun row' h' => ?_, hapart⟩,
        List.forall_mem_cons.2 ⟨hunused, fun row' h' => ?_⟩, u :: new, ?_, .cons hu husers⟩
      · exact ((unused_append hrows hu).1 (hunuseds row' h')).2
      · exact ((unused_append hrows hu).1 (hunuseds row' h')).1
      · rw [hnew, hrows, List.append_assoc, List.singleton_append]

/-- The rows are committed if they can be stored and are for different users. -/
lemma exists_commitAll (hbcrypt : ∀ password salt, fits 255 (lib.hashpw password salt) = true)
    (hobjs : List.Forall₂ (IsObjOf lib) rows objs) (hstorable : ∀ row ∈ rows, row.Storable)
    (hapart : rows.Pairwise RawRow.Apart) (hunused : ∀ row ∈ rows, row.Unused t) :
    ∃ t', commitAll tenant objs t = some t' := by
  induction hobjs generalizing t with
  | nil => exact ⟨t, rfl⟩
  | @cons row obj rows objs hobj hobjs ih =>
    obtain ⟨hstorable, hstorables⟩ := List.forall_mem_cons.1 hstorable
    obtain ⟨hunused, hunuseds⟩ := List.forall_mem_cons.1 hunused
    obtain ⟨hfirst, hapart⟩ := List.pairwise_cons.1 hapart
    obtain ⟨t₁, hinsert⟩ : ∃ t₁, insertPerson tenant obj t = some t₁ :=
      exists_insertPerson hbcrypt hobj hstorable hunused
    obtain ⟨-, -, u, hrows, hu⟩ := insertPerson_eq_some hobj hinsert
    obtain ⟨t', hcommit⟩ := ih hstorables hapart fun row' h =>
      (unused_append hrows hu).2 ⟨hunuseds row' h, hfirst row' h⟩
    refine ⟨t', ?_⟩
    unfold commitAll
    rw [hinsert]
    exact hcommit

end Commit

/-! ### The import -/

section Import

variable {lib tenant salts maxArguments} {content : ByteArray} {t : Table Person} {rows : List RawRow}

/-- The rows that are left out have the address of a user. -/
lemma exists_of_left (row : RawRow) (h : decide (row.email ∉ (existingEmails tenant t rows).map some) = false) :
    ∃ email ∈ t.rows.map (·.email), row.email = some email := by
  obtain ⟨email, hemail, hrow⟩ := List.mem_map.1 (not_not.1 (of_decide_eq_false h))
  obtain ⟨u, hu, rfl⟩ := List.mem_map.1 hemail
  exact ⟨u.email, List.mem_map_of_mem (List.mem_filter.1 hu).1, hrow.symm⟩

/-- What remains is fresh, if it can be imported. -/
lemma fresh_eq_remaining (h : Importable tenant maxArguments t rows) :
    fresh (t.rows.map (·.email)) rows = remaining tenant t rows := by
  refine fresh_eq_filter (fun row hrow => ?_) h.apart fun row _ hleft => exists_of_left row hleft
  obtain ⟨email, hemail, -⟩ := (Option.any_eq_true _ _).1 (h.storable row hrow).1
  refine ⟨email, hemail, fun hmem => ?_⟩
  obtain ⟨u, hu, he⟩ := List.mem_map.1 hmem
  exact (h.unused row hrow u hu).1 (by rw [hemail, ← he])

lemma importUsersCsv_of_rows (hrows : rawRows content = .ok rows) :
    importUsersCsv lib tenant salts maxArguments content t = importRows lib tenant salts maxArguments rows t := by
  unfold importUsersCsv
  rw [hrows]

/-- An import that succeeds had rows that can be imported, and added their users. -/
lemma importable_of_succeeds (hrows : rawRows content = .ok rows) {users : List Person}
    (h : (importUsersCsv lib tenant salts maxArguments content t).1 = .ok users) :
    Importable tenant maxArguments t rows ∧ ∃ new,
      (importUsersCsv lib tenant salts maxArguments content t).2.rows = t.rows ++ new ∧
        List.Forall₂ (IsUserOf lib) (remaining tenant t rows) new := by
  rw [importUsersCsv_of_rows hrows] at h ⊢
  unfold importRows at h ⊢
  by_cases hempty : rows = []
  · rw [if_pos hempty, hempty]
    exact ⟨⟨.inl rfl, nofun, .nil, nofun⟩, [], (List.append_nil _).symm, .nil⟩
  rw [if_neg hempty] at h ⊢
  by_cases harguments : maxArguments < rows.length + tenant.toList.length
  · rw [if_pos harguments] at h
    cases h
  rw [if_neg harguments] at h ⊢
  cases hobjs : ormObjs lib salts (existingEmails tenant t rows) rows 0 with
  | error e =>
    rw [hobjs] at h
    cases h
  | ok objs =>
    rw [hobjs] at h
    dsimp only at h ⊢
    cases hcommit : commitAll tenant objs t with
    | none =>
      rw [hcommit] at h
      cases h
    | some t' =>
      obtain ⟨hstorable, hapart, hunused, hnew⟩ := commitAll_eq_some (ormObjs_eq_ok hobjs) hcommit
      exact ⟨⟨.inr (not_lt.1 harguments), hstorable, hapart, hunused⟩, hnew⟩

/-- Rows that can be imported are. -/
lemma succeeds_of_importable (hbcrypt : ∀ password salt, fits 255 (lib.hashpw password salt) = true)
    (hrows : rawRows content = .ok rows) (h : Importable tenant maxArguments t rows) :
    ∃ users, (importUsersCsv lib tenant salts maxArguments content t).1 = .ok users := by
  rw [importUsersCsv_of_rows hrows]
  unfold importRows
  by_cases hempty : rows = []
  · rw [if_pos hempty]
    exact ⟨[], rfl⟩
  have harguments : ¬maxArguments < rows.length + tenant.toList.length :=
    not_lt.2 (h.arguments.resolve_left hempty)
  obtain ⟨objs, hobjs⟩ : ∃ objs, ormObjs lib salts (existingEmails tenant t rows) rows 0 = .ok objs :=
    exists_ormObjs fun row hrow => (h.storable row hrow).2.2.1
  obtain ⟨t', hcommit⟩ : ∃ t', commitAll tenant objs t = some t' :=
    exists_commitAll hbcrypt (ormObjs_eq_ok hobjs) h.storable h.apart h.unused
  rw [if_neg hempty, if_neg harguments, hobjs]
  dsimp only
  rw [hcommit]
  exact ⟨_, rfl⟩

/-- **An import that fails changes nothing.** -/
theorem table_of_error {e : ImportExn} (h : (importUsersCsv lib tenant salts maxArguments content t).1 = .error e) :
    (importUsersCsv lib tenant salts maxArguments content t).2 = t := by
  revert h
  unfold importUsersCsv importRows
  split
  · exact fun _ => rfl
  split
  · exact nofun
  split
  · exact fun _ => rfl
  split
  · exact fun _ => rfl
  split
  · exact fun _ => rfl
  · exact nofun

end Import

/-! ### The files -/

section Files

variable {fieldnames : List String} {r : DictRow}

lemma isSome_get? {key : String} (h : key ∈ r.map Prod.fst) : (r.get? key).isSome = true := by
  unfold DictRow.get?
  rw [Option.isSome_iff_ne_none, ne_eq, List.lookup_eq_none_iff]
  obtain ⟨pair, hpair, rfl⟩ := List.mem_map.1 h
  exact fun hnone => absurd (hnone pair (List.mem_reverse.2 hpair)) (by simp)

lemma names_dictRow (record : List String) : (dictRow fieldnames record).map Prod.fst = fieldnames := by
  unfold dictRow
  rw [List.map_fst_zip]
  simp only [List.length_append, List.length_map, List.length_replicate]
  omega

lemma rawRows_of_readCsv {text : String} {records : List (List String)}
    (hcsv : readCsv text = .ok (fieldnames :: records)) :
    rawRows text.toUTF8 = ((records.filter (· ≠ [])).map (dictRow fieldnames)).mapM rawRow := by
  unfold rawRows dictReader
  rw [decode_toUTF8]
  dsimp only
  rw [hcsv]
  rfl

/-- Every file with the columns that can be read gives rows. -/
theorem exists_rawRows {text : String} {records : List (List String)}
    (hcsv : readCsv text = .ok (fieldnames :: records))
    (hcolumns : ∀ column ∈ ["email", "username", "password"], column ∈ fieldnames) :
    ∃ rows, rawRows text.toUTF8 = .ok rows := by
  have hrow : ∀ record, ∃ row, rawRow (dictRow fieldnames record) = .ok row := by
    intro record
    have hcolumn : ∀ key ∈ ["email", "username", "password"], ∃ value,
        column? key (dictRow fieldnames record) = .ok value := by
      intro key hkey
      have hsome := isSome_get? (r := dictRow fieldnames record) (by rw [names_dictRow]; exact hcolumns key hkey)
      obtain ⟨value, hvalue⟩ := Option.isSome_iff_exists.1 hsome
      exact ⟨value, by unfold column?; rw [hvalue]⟩
    obtain ⟨email, hemail⟩ := hcolumn "email" (by simp)
    obtain ⟨username, husername⟩ := hcolumn "username" (by simp)
    obtain ⟨password, hpassword⟩ := hcolumn "password" (by simp)
    unfold rawRow
    rw [hemail, husername, hpassword]
    exact ⟨_, rfl⟩
  have hrows : ∀ records : List (List String), ∃ rows, (records.map (dictRow fieldnames)).mapM rawRow = .ok rows := by
    intro records
    induction records with
    | nil => exact ⟨[], rfl⟩
    | cons record records ih =>
      obtain ⟨row, hrow⟩ := hrow record
      obtain ⟨rows, hrows⟩ := ih
      exact ⟨row :: rows, by rw [List.map_cons, List.mapM_cons, hrow, hrows]; rfl⟩
  obtain ⟨rows, hrows⟩ := hrows (records.filter (· ≠ []))
  exact ⟨rows, (rawRows_of_readCsv hcsv).trans hrows⟩

end Files

/-- A row of a file that has all columns. -/
structure FileRow where
  email : String
  username : String
  password : String
  fullName : String

def FileRow.fields (row : FileRow) : List String := [row.email, row.username, row.password, row.fullName]

def FileRow.raw (row : FileRow) : RawRow where
  email := some row.email
  username := some row.username
  password := some row.password
  fullName := some row.fullName

/-- The names of its columns. -/
def allColumns : List String := ["email", "username", "password", "full_name"]

def csvFile (rows : List FileRow) : String := writeCsv (allColumns :: rows.map FileRow.fields)

/-- **Every list of rows is that of a file.** -/
theorem rawRows_csvFile {rows : List FileRow} (hlimit : ∀ row ∈ rows, ∀ field ∈ row.fields, field.length ≤ fieldLimit) :
    rawRows (csvFile rows).toUTF8 = .ok (rows.map FileRow.raw) := by
  have hread : readCsv (csvFile rows) = .ok (allColumns :: rows.map FileRow.fields) := by
    refine readCsv_writeCsv (List.forall_mem_cons.2 ⟨by decide, fun record hrecord => ?_⟩)
    obtain ⟨row, hrow, rfl⟩ := List.mem_map.1 hrecord
    exact hlimit row hrow
  have hnonempty : ∀ record ∈ rows.map FileRow.fields, decide (record ≠ []) = true := by
    intro record hrecord
    obtain ⟨row, -, rfl⟩ := List.mem_map.1 hrecord
    exact decide_eq_true (List.cons_ne_nil _ _)
  have hrow : ∀ row : FileRow, rawRow (dictRow allColumns row.fields) = .ok row.raw := fun _ => rfl
  rw [rawRows_of_readCsv hread, List.filter_eq_self.2 hnonempty]
  clear hlimit hread hnonempty
  induction rows with
  | nil => rfl
  | cons row rows ih =>
    rw [List.map_cons, List.map_cons, List.mapM_cons, hrow, ih]
    rfl

/-- **When the import is a union**, for every file with the columns and every table. -/
theorem union_iff {lib : Libraries} (hbcrypt : ∀ password salt, fits 255 (lib.hashpw password salt) = true)
    (tenant : Option ℤ) (salts : ℕ → String) (maxArguments : ℕ) (content : ByteArray) (t : Table Person)
    (rows : List RawRow) (hrows : rawRows content = .ok rows) :
    SetUnion lib tenant salts maxArguments content t rows ↔ Importable tenant maxArguments t rows := by
  constructor
  · intro h
    obtain ⟨users, husers⟩ := h.succeeds
    exact (importable_of_succeeds hrows husers).1
  · intro h
    obtain ⟨users, husers⟩ := succeeds_of_importable hbcrypt hrows h
    refine ⟨⟨users, husers⟩, ?_⟩
    rw [fresh_eq_remaining h]
    exact (importable_of_succeeds hrows husers).2

namespace Sample

/-- The hash that bcrypt computes for one password and one salt. -/
def bcryptHash (password : ByteArray) (salt : String) : String :=
  if password.data = "Pass1234!".toUTF8.data ∧ salt = "$2b$12$abcdefghijklmnopqrstuu" then
    "$2b$12$abcdefghijklmnopqrstuu27/bbXho9x53qgHZ9yLtELyVofOY92m"
  else "$2b$12$"

/-- The salts that are drawn. -/
def drawnSalts (_ : ℕ) : String := "$2b$12$abcdefghijklmnopqrstuu"

def bcryptLibraries : Libraries := { libraries with hashpw := bcryptHash }

lemma fits_bcryptHash (password : ByteArray) (salt : String) :
    fits 255 (bcryptLibraries.hashpw password salt) = true := by
  show fits 255 (bcryptHash password salt) = true
  unfold bcryptHash
  split <;> decide +kernel

def dupRow (username fullName : String) : FileRow where
  email := "dup@example.com"
  username := username
  password := "Pass1234!"
  fullName := fullName

/-- The file has one address twice. -/
def dupRows : List FileRow := [dupRow "dupuser" "Dup User", dupRow "dupuser2" "Dup User 2"]

end Sample

open Sample in
/-- An address that is twice in the file: nobody is imported into the empty table. -/
theorem twice_not_imported :
    rawRows (csvFile dupRows).toUTF8 = .ok (dupRows.map FileRow.raw) ∧
      (fresh [] (dupRows.map FileRow.raw)).length = 1 ∧
      importUsersCsv bcryptLibraries none drawnSalts 32767 (csvFile dupRows).toUTF8 Table.empty =
        (.error .database, Table.empty) := by
  have hrows : rawRows (csvFile dupRows).toUTF8 = .ok (dupRows.map FileRow.raw) := rawRows_csvFile (by decide +kernel)
  have hresult : (importUsersCsv bcryptLibraries none drawnSalts 32767 (csvFile dupRows).toUTF8 Table.empty).1 =
      .error .database := by
    rw [importUsersCsv_of_rows hrows]
    decide +kernel
  exact ⟨hrows, rfl, Prod.ext hresult (table_of_error hresult)⟩

open Sample in
/-- The condition for a file with one row and the empty table. -/
theorem union_iff_dupRow :
    SetUnion bcryptLibraries none drawnSalts 32767
        (csvFile [dupRow "dupuser" "Dup User"]).toUTF8 Table.empty [(dupRow "dupuser" "Dup User").raw] ↔
      Importable none 32767 Table.empty [(dupRow "dupuser" "Dup User").raw] :=
  union_iff fits_bcryptHash _ _ _ _ _ _ (rawRows_csvFile (by decide +kernel))

end FastapiTemplate.Identity
