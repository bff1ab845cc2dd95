import FastapiTemplate.Python.Timestamps
import FastapiTemplate.Store.ObjectStore
import FastapiTemplate.Tasks.DatabaseUrl
import Mathlib.Data.String.Basic

/-!
# Backups

`backup_database` writes an object whose key has the name of the database and the time, `cleanup_old_backups` reads the
times of the keys of its database and deletes the old ones, and `restore_backup` takes the last one. `backups_correct`
says that the three agree: about the time of a backup, and about whose it is.
-/

namespace FastapiTemplate.Tasks

open Python Store

structure BackupSettings where
  databaseUrl : String
  s3Bucket : String
  backupS3Prefix : String
  backupRetentionDays : ℤ
  retention_pos : 1 ≤ backupRetentionDays

inductive BackupError where
  | builtin (e : BuiltinError)
  | runtimeError (message : String)

/-! ### Keys -/

/-- `s.rstrip("/")` -/
def rstripSlash (s : String) : List Char := (s.toList.reverse.dropWhile (· == '/')).reverse

/-- The keys of the backups of a database begin so. -/
def listingPrefix (s3Prefix dbName : String) : List Char := rstripSlash s3Prefix ++ '/' :: (dbName.toList ++ ['/'])

def backupKey (s3Prefix dbName : String) (ts : Datetime) : String :=
  String.ofList (rstripSlash s3Prefix) ++ "/" ++ dbName ++ "/" ++ strftime ts ++ ".dump.gz"

/-- The text begins with a character of every class, and ends there or at the line break behind. -/
def matchesAtEnd : List (Char → Bool) → List Char → Bool
  | [], rest => rest == [] || rest == ['\n']
  | p :: pattern, c :: cs => p c && matchesAtEnd pattern cs
  | _ :: _, [] => false

/-- `re.search` of classes of characters with `$` behind them. -/
def searchAtEnd (pattern : List (Char → Bool)) : List Char → Option (List Char)
  | [] => if matchesAtEnd pattern [] then some [] else none
  | c :: cs =>
    if matchesAtEnd pattern (c :: cs) then some ((c :: cs).take pattern.length) else searchAtEnd pattern cs

/-- `\d{4}-\d{2}-\d{2}T\d{2}-\d{2}-\d{2}` -/
def stampClasses : List (Char → Bool) :=
  [isDecimal, isDecimal, isDecimal, isDecimal, (· == '-'), isDecimal, isDecimal, (· == '-'), isDecimal, isDecimal,
    (· == 'T'), isDecimal, isDecimal, (· == '-'), isDecimal, isDecimal, (· == '-'), isDecimal, isDecimal]

def extractKeyTimestamp (key : String) : Option Datetime := do
  let found ← searchAtEnd (stampClasses ++ ".dump.gz".toList.map fun c => (· == c)) key.toList
  (strptime (found.take stampClasses.length)).toOption

/-! ### The tasks -/

/-- `backup_database` at a time, where `pg_dump` ends with a code and a message. -/
def backupDatabase (nfkc : String → String) (settings : BackupSettings) (now : Datetime) (returncode : ℤ)
    (stderr : String) (bucket : Bucket String) : Except BackupError (Bucket String × String) := do
  let comps ← (parseSyncUrl nfkc settings.databaseUrl).mapError .builtin
  let key := backupKey settings.backupS3Prefix comps.dbname now
  if returncode = 0 then return (bucket.put key, key)
  else throw (.runtimeError ("pg_dump failed with code " ++ toString returncode ++ ": " ++ stderr))

/-- `timedelta(days=n)` -/
def timedeltaDays (n : ℤ) : Except BuiltinError Timedelta :=
  if -999999999 ≤ n ∧ n ≤ 999999999 then .ok (days n) else .error .overflowError

/-- `d - delta`, where the difference may leave the range of `datetime`. -/
def subChecked (d : Datetime) (delta : Timedelta) : Except BuiltinError Datetime :=
  if datetimeMin ≤ d - delta then .ok (d - delta) else .error .overflowError

/-- What is done with a key that is listed: its object is deleted if it is old. -/
def deleteOld (cutoff : Datetime) (s : Bucket String × List String) (key : String) : Bucket String × List String :=
  match extractKeyTimestamp key with
  | some ts => if ts < cutoff then (s.1.erase key, s.2 ++ [key]) else s
  | none => s

/-- `cleanup_old_backups` at a time: what is left in the bucket, and the deleted keys. -/
def cleanupOldBackups (nfkc : String → String) (settings : BackupSettings) (now : Datetime) (sizes : List ℕ)
    (bucket : Bucket String) : Except BackupError (Bucket String × List String) := do
  let comps ← (parseSyncUrl nfkc settings.databaseUrl).mapError .builtin
  let retention ← (timedeltaDays settings.backupRetentionDays).mapError .builtin
  let cutoff ← (subChecked now retention).mapError .builtin
  return paginate Prod.fst
    (fun key => (listingPrefix settings.backupS3Prefix comps.dbname).isPrefixOf key.toList)
    (deleteOld cutoff) sizes none (bucket, [])

/-- What is done with a key that is listed for a restore: it is noted if it has a time. -/
def note (candidates : List (String × Datetime)) (key : String) : List (String × Datetime) :=
  match extractKeyTimestamp key with
  | some ts => candidates ++ [(key, ts)]
  | none => candidates

/-- The key of the object that `restore_backup` downloads. -/
def restoreBackup (nfkc : String → String) (settings : BackupSettings) (sizes : List ℕ) (bucket : Bucket String)
    (key : Option String) : Except BackupError String := do
  let comps ← (parseSyncUrl nfkc settings.databaseUrl).mapError .builtin
  match key with
  | some key => return key
  | none =>
    let start := listingPrefix settings.backupS3Prefix comps.dbname
    let candidates := paginate (fun _ => bucket) (fun key => start.isPrefixOf key.toList) note sizes none []
    match candidates.mergeSort fun a b => decide (b.2 ≤ a.2) with
    | [] => throw (.runtimeError ("No backups found under s3://" ++ settings.s3Bucket ++ "/" ++ String.ofList start))
    | (key, _) :: _ => return key

/-! ### Backups of several databases -/

/-- A time, of a year with four digits. -/
abbrev BackupTime : Type := { t : Datetime // 1000 ≤ (civil (t / days 1)).1 ∧ (civil (t / days 1)).1 ≤ 9999 }

/-- A time that the clock can show. -/
abbrev ClockTime : Type := { t : Datetime // datetimeMin ≤ t ∧ t ≤ datetimeMax }

/-- The time in whole seconds. -/
def BackupTime.truncated (t : BackupTime) : Datetime := t.val / second * second

/-- The application with its database, whose name has no slash. All of them write below one prefix. -/
structure Deployment (nfkc : String → String) (s3Prefix : String) where
  settings : BackupSettings
  components : Components
  parsed : parseSyncUrl nfkc settings.databaseUrl = .ok components
  notMem_dbname : '/' ∉ components.dbname.toList
  s3Prefix_eq : settings.backupS3Prefix = s3Prefix

/-- A run of `backup_database` that was successful. -/
structure Backup (nfkc : String → String) (s3Prefix : String) where
  deployment : Deployment nfkc s3Prefix
  time : BackupTime

variable {nfkc : String → String} {s3Prefix : String}

def Backup.dbname (b : Backup nfkc s3Prefix) : String := b.deployment.components.dbname

def Backup.key (b : Backup nfkc s3Prefix) : String := backupKey s3Prefix b.dbname b.time.val

/-- The bucket after a backup. -/
def Backup.run (bucket : Bucket String) (b : Backup nfkc s3Prefix) : Bucket String :=
  match backupDatabase nfkc b.deployment.settings b.time.val 0 "" bucket with
  | .ok (bucket, _) => bucket
  | .error _ => bucket

/-- The bucket after all of them. -/
def written (backups : List (Backup nfkc s3Prefix)) : Bucket String := backups.foldl Backup.run .empty

/-- A backup that `cleanup_old_backups` of a deployment has to delete. -/
def Expired (own : Deployment nfkc s3Prefix) (now : Datetime) (b : Backup nfkc s3Prefix) : Prop :=
  b.dbname = own.components.dbname ∧ b.time.truncated < now - days own.settings.backupRetentionDays

/-- The bucket after `cleanup_old_backups`, also if it fails. -/
def afterCleanup (own : Deployment nfkc s3Prefix) (now : Datetime) (sizes : List ℕ) (bucket : Bucket String) :
    Bucket String :=
  match cleanupOldBackups nfkc own.settings now sizes bucket with
  | .ok (bucket, _) => bucket
  | .error _ => bucket

/-- What is left are the objects of the backups that have not expired. -/
structure CleansUp (own : Deployment nfkc s3Prefix) (now : Datetime) (backups : List (Backup nfkc s3Prefix))
    (left : Bucket String) : Prop where
  left_iff : ∀ b ∈ backups, b.key ∈ left.keys ↔ ¬Expired own now b
  written : ∀ key ∈ left.keys, ∃ b ∈ backups, b.key = key

/-- The object is one of the last backup of the database, and one is only missing if there is none. -/
def Restores (own : Deployment nfkc s3Prefix) (backups : List (Backup nfkc s3Prefix)) :
    Except BackupError String → Prop
  | .ok key => ∃ b ∈ backups, b.key = key ∧ b.dbname = own.components.dbname ∧
      ∀ other ∈ backups, other.dbname = own.components.dbname → other.time.truncated ≤ b.time.truncated
  | .error _ => ∀ b ∈ backups, b.dbname ≠ own.components.dbname

/-! ### What is in a key -/

section Keys

variable {pattern : List (Char → Bool)} {cs : List Char}

/-- What matches has the length of the pattern, or a line break at the end. -/
lemma length_of_matchesAtEnd (h : matchesAtEnd pattern cs = true) :
    cs.length = pattern.length ∨ cs.getLast? = some '\n' := by
  fun_induction matchesAtEnd pattern cs with
  | case1 rest =>
    rcases Bool.or_eq_true _ _ ▸ h with hnil | hbreak
    · rw [beq_iff_eq.1 hnil]
      exact .inl rfl
    · rw [beq_iff_eq.1 hbreak]
      exact .inr rfl
  | case2 p pattern c cs ih =>
    rw [Bool.and_eq_true] at h
    rcases ih h.2 with hlength | hlast
    · exact .inl (by rw [List.length_cons, List.length_cons, hlength])
    · refine .inr ?_
      rw [List.getLast?_cons, hlast]
      rfl
  | case3 p pattern => cases h

/-- What is found at the end of a text. -/
lemma searchAtEnd_append {a b : List Char} (hb : matchesAtEnd pattern b = true) (hlength : b.length = pattern.length)
    (hlast : b.getLast? ≠ some '\n') (hne : b ≠ []) : searchAtEnd pattern (a ++ b) = some b := by
  induction a with
  | nil =>
    obtain ⟨c, cs, rfl⟩ := List.exists_cons_of_ne_nil hne
    rw [List.nil_append, searchAtEnd, if_pos hb, ← hlength, List.take_length]
  | cons c a ih =>
    have hnot : ¬matchesAtEnd pattern (c :: (a ++ b)) = true := by
      intro hmatch
      rcases length_of_matchesAtEnd hmatch with hlong | hbreak
      · rw [List.length_cons, List.length_append] at hlong
        omega
      · rw [← List.cons_append, List.getLast?_append_of_ne_nil _ hne] at hbreak
        exact hlast hbreak
    rw [List.cons_append, searchAtEnd, if_neg hnot, ih]

lemma matchesAtEnd_cons {p : Char → Bool} {c : Char} (hc : p c = true) :
    matchesAtEnd (p :: pattern) (c :: cs) = matchesAtEnd pattern cs := by
  rw [matchesAtEnd, hc, Bool.true_and]

lemma matchesAtEnd_twoDigits {n : ℕ} (hn : n < 100) :
    matchesAtEnd (isDecimal :: isDecimal :: pattern) (twoDigits n ++ cs) = matchesAtEnd pattern cs := by
  unfold twoDigits
  rw [List.cons_append, matchesAtEnd_cons (digitChar_spec (by omega)).1, List.cons_append,
    matchesAtEnd_cons (digitChar_spec (by omega)).1, List.nil_append]

lemma toList_backupKey (s3Prefix dbName : String) (t : Datetime) : (backupKey s3Prefix dbName t).toList =
    rstripSlash s3Prefix ++ '/' :: (dbName.toList ++ '/' :: ((strftime t).toList ++ ".dump.gz".toList)) := by
  have hslash : "/".toList = ['/'] := rfl
  unfold backupKey
  rw [String.toList_append, String.toList_append, String.toList_append, String.toList_append, String.toList_append,
    String.toList_ofList, hslash]
  simp only [List.append_assoc, List.cons_append, List.nil_append]

/-- **The time of a backup is read from its key**, in whole seconds. -/
theorem extract_backupKey (s3Prefix dbName : String) (t : BackupTime) :
    extractKeyTimestamp (backupKey s3Prefix dbName t.val) = some t.truncated := by
  obtain ⟨y, m, d, h, mi, s, htext, hbounds, hread, hdate⟩ := exists_stamp t.property
  have hkey : (backupKey s3Prefix dbName t.val).toList =
      (rstripSlash s3Prefix ++ '/' :: (dbName.toList ++ ['/'])) ++ (stamp y m d h mi s ++ ".dump.gz".toList) := by
    rw [toList_backupKey, htext]
    simp only [List.append_assoc, List.cons_append, List.nil_append]
  have hmatch : matchesAtEnd (stampClasses ++ ".dump.gz".toList.map fun c => (· == c))
      (stamp y m d h mi s ++ ".dump.gz".toList) = true := by
    unfold stamp stampClasses
    simp only [List.append_assoc, List.cons_append, List.nil_append]
    rw [matchesAtEnd_twoDigits (by omega), matchesAtEnd_twoDigits (by omega), matchesAtEnd_cons rfl,
      matchesAtEnd_twoDigits (by omega), matchesAtEnd_cons rfl, matchesAtEnd_twoDigits (by omega), matchesAtEnd_cons rfl,
      matchesAtEnd_twoDigits (by omega), matchesAtEnd_cons rfl, matchesAtEnd_twoDigits (by omega), matchesAtEnd_cons rfl,
      matchesAtEnd_twoDigits (by omega)]
    decide
  have hfound := searchAtEnd_append (a := rstripSlash s3Prefix ++ '/' :: (dbName.toList ++ ['/'])) hmatch rfl
    (by rw [List.getLast?_append_of_ne_nil _ (by decide)]; decide) (by simp)
  have htime := strptime_strftime t.property
  rw [htext] at htime
  unfold extractKeyTimestamp
  rw [hkey, hfound]
  show (strptime (stamp y m d h mi s)).toOption = _
  rw [htime]
  rfl

example : backupKey "backups/" "app" 1787616000000001 = "backups/app/2026-08-25T00-00-00.dump.gz" ∧
    extractKeyTimestamp "backups/app/2026-02-29T00-00-00.dump.gz" = none := by decide +kernel

/-- **The keys of one database are listed**, and of no other one, even if its name begins with the same letters. -/
lemma isPrefixOf_backupKey {own dbName : String} (hown : '/' ∉ own.toList) (hdb : '/' ∉ dbName.toList) (t : Datetime) :
    (listingPrefix s3Prefix own).isPrefixOf (backupKey s3Prefix dbName t).toList = true ↔ dbName = own := by
  rw [List.isPrefixOf_iff_prefix, toList_backupKey]
  unfold listingPrefix
  rw [List.prefix_append_right_inj, List.cons_prefix_cons, and_iff_right rfl]
  constructor
  · rintro ⟨rest, hrest⟩
    rw [List.append_assoc, List.singleton_append] at hrest
    -- both names end at the first slash
    have hcut := congrArg (fun cs => (partition '/' cs).1) hrest
    rw [partition_append hown, partition_append hdb] at hcut
    exact String.toList_injective hcut.symm
  · rintro rfl
    exact ⟨(strftime t).toList ++ ".dump.gz".toList, by rw [List.append_assoc, List.singleton_append]⟩

variable {own : Deployment nfkc s3Prefix} {b b' : Backup nfkc s3Prefix} {backups : List (Backup nfkc s3Prefix)}

lemma Backup.extract_key (b : Backup nfkc s3Prefix) : extractKeyTimestamp b.key = some b.time.truncated :=
  extract_backupKey s3Prefix b.dbname b.time

lemma Backup.isPrefixOf_key (own : Deployment nfkc s3Prefix) (b : Backup nfkc s3Prefix) :
    (listingPrefix own.settings.backupS3Prefix own.components.dbname).isPrefixOf b.key.toList = true ↔
      b.dbname = own.components.dbname := by
  rw [own.s3Prefix_eq]
  exact isPrefixOf_backupKey own.notMem_dbname b.deployment.notMem_dbname b.time.val

lemma Backup.run_eq (bucket : Bucket String) (b : Backup nfkc s3Prefix) : b.run bucket = bucket.put b.key := by
  have hback : backupDatabase nfkc b.deployment.settings b.time.val 0 "" bucket = .ok (bucket.put b.key, b.key) := by
    unfold backupDatabase
    rw [b.deployment.parsed, b.deployment.s3Prefix_eq]
    rfl
  unfold Backup.run
  rw [hback]

/-- **What the backups write.** -/
lemma mem_written {key : String} : key ∈ (written backups).keys ↔ ∃ b ∈ backups, b.key = key := by
  have hrun : ∀ bucket : Bucket String, key ∈ (backups.foldl Backup.run bucket).keys ↔
      key ∈ bucket.keys ∨ ∃ b ∈ backups, b.key = key := by
    induction backups with
    | nil => simp
    | cons b backups ih =>
      intro bucket
      rw [List.foldl_cons, ih, Backup.run_eq, Bucket.mem_put]
      simp only [List.mem_cons, exists_eq_or_imp]
      constructor
      · rintro ((hkey | hold) | hlater)
        · exact .inr (.inl hkey.symm)
        · exact .inl hold
        · exact .inr (.inr hlater)
      · rintro (hold | hkey | hlater)
        · exact .inl (.inr hold)
        · exact .inl (.inl hkey.symm)
        · exact .inr hlater
  unfold written
  rw [hrun]
  simp [Bucket.empty]

end Keys

/-! ### What is deleted and what is restored -/

section Results

variable {own : Deployment nfkc s3Prefix} {backups : List (Backup nfkc s3Prefix)} {cutoff now : Datetime}
  {wanted : String → Bool} {bucket : Bucket String} {sizes : List ℕ} {key : String} {keys : List String}

/-- The key has a time, and it is before the cutoff. -/
def IsOld (cutoff : Datetime) (key : String) : Prop := ∃ ts ∈ extractKeyTimestamp key, ts < cutoff

/-- One key: it is deleted if it is old. -/
lemma mem_deleteOld (s : Bucket String × List String) (k : String) :
    key ∈ (deleteOld cutoff s k).1.keys ↔ key ∈ s.1.keys ∧ ¬(key = k ∧ IsOld cutoff k) := by
  unfold deleteOld IsOld
  cases extractKeyTimestamp k with
  | none => simp
  | some ts =>
    dsimp only
    split
    · rename_i hold
      simp [Bucket.erase, hold]
    · rename_i hnew
      simp [hnew]

/-- All of them. -/
lemma mem_foldl_deleteOld (s : Bucket String × List String) :
    key ∈ (keys.foldl (deleteOld cutoff) s).1.keys ↔ key ∈ s.1.keys ∧ ¬(key ∈ keys ∧ IsOld cutoff key) := by
  induction keys generalizing s with
  | nil => simp
  | cons k keys ih =>
    rw [List.foldl_cons, ih, mem_deleteOld, and_assoc, List.mem_cons, ← not_or]
    refine and_congr_right fun _ => not_congr ?_
    constructor
    · rintro (⟨rfl, hold⟩ | ⟨hmem, hold⟩)
      · exact ⟨.inl rfl, hold⟩
      · exact ⟨.inr hmem, hold⟩
    · rintro ⟨rfl | hmem, hold⟩
      · exact .inl ⟨rfl, hold⟩
      · exact .inr ⟨hmem, hold⟩

/-- **What is left after the pages**: what is not listed, and what is not old. -/
lemma mem_paginate_deleteOld :
    key ∈ (paginate Prod.fst wanted (deleteOld cutoff) sizes none (bucket, [])).1.keys ↔
      key ∈ bucket.keys ∧ ¬(wanted key = true ∧ IsOld cutoff key) := by
  have hvisit : ∀ (s : Bucket String × List String) (k : String),
      (deleteOld cutoff s k).1.behind wanted (some k) = s.1.behind wanted (some k) := by
    intro s k
    unfold deleteOld
    cases extractKeyTimestamp k with
    | none => rfl
    | some ts =>
      dsimp only
      split
      · exact Bucket.behind_erase
      · rfl
  rw [paginate_eq hvisit, mem_foldl_deleteOld]
  refine and_congr_right fun hkey => not_congr (and_congr_left fun _ => ?_)
  unfold Bucket.behind
  simp [hkey]

/-- A backup is later than the first date. -/
lemma BackupTime.le_truncated (t : BackupTime) : datetimeMin ≤ t.truncated := by
  obtain ⟨⟨y, m, d⟩, hcivil⟩ : ∃ date, civil (t.val / days 1) = date := ⟨_, rfl⟩
  obtain ⟨hm, hd, hday⟩ := civil_spec hcivil
  have hyear : 1000 ≤ y := by
    have hyear := t.property.1
    rwa [hcivil] at hyear
  have hlow : -719162 ≤ dayOf y m d := by
    unfold dayOf
    dsimp only
    split <;> omega
  obtain ⟨n, hn⟩ : ∃ n : ℤ, n = t.val := ⟨_, rfl⟩
  have hday' : dayOf y m d = n / 86400000000 := hn ▸ hday
  have hbound : (-62135596800000000 : ℤ) ≤ n / 1000000 * 1000000 := by omega
  rw [hn] at hbound
  exact hbound

/-- The cutoff is a date, and the listing is worked through. -/
lemma afterCleanup_of_cutoff {own : Deployment nfkc s3Prefix} {now : Datetime}
    (hdays : own.settings.backupRetentionDays ≤ 999999999)
    (hmin : datetimeMin ≤ now - days own.settings.backupRetentionDays) (sizes : List ℕ) (bucket : Bucket String) :
    afterCleanup own now sizes bucket = (paginate Prod.fst
      (fun key => (listingPrefix own.settings.backupS3Prefix own.components.dbname).isPrefixOf key.toList)
      (deleteOld (now - days own.settings.backupRetentionDays)) sizes none (bucket, [])).1 := by
  have hpos := own.settings.retention_pos
  have hdelta : timedeltaDays own.settings.backupRetentionDays = .ok (days own.settings.backupRetentionDays) :=
    if_pos (by omega)
  have hcutoff : subChecked now (days own.settings.backupRetentionDays) =
      .ok (now - days own.settings.backupRetentionDays) := if_pos hmin
  unfold afterCleanup cleanupOldBackups
  rw [own.parsed, hdelta]
  dsimp only [Except.mapError, bind, Except.bind]
  rw [hcutoff]
  rfl

/-- The cutoff is before the first date, and nothing is deleted. -/
lemma afterCleanup_of_overflow {own : Deployment nfkc s3Prefix} {now : Datetime}
    (hrange : ¬(own.settings.backupRetentionDays ≤ 999999999 ∧
      datetimeMin ≤ now - days own.settings.backupRetentionDays)) (sizes : List ℕ) (bucket : Bucket String) :
    afterCleanup own now sizes bucket = bucket := by
  have hpos := own.settings.retention_pos
  unfold afterCleanup cleanupOldBackups
  rw [own.parsed]
  dsimp only [Except.mapError, bind, Except.bind]
  by_cases hdays : own.settings.backupRetentionDays ≤ 999999999
  · have hdelta : timedeltaDays own.settings.backupRetentionDays = .ok (days own.settings.backupRetentionDays) :=
      if_pos (by omega)
    have hcutoff : subChecked now (days own.settings.backupRetentionDays) = .error .overflowError :=
      if_neg fun hmin => hrange ⟨hdays, hmin⟩
    rw [hdelta]
    dsimp only
    rw [hcutoff]
  · have hdelta : timedeltaDays own.settings.backupRetentionDays = .error .overflowError := if_neg fun h => hdays h.2
    rw [hdelta]

/-- No backup is from before the first date. -/
lemma not_expired_of_overflow {own : Deployment nfkc s3Prefix} {now : ClockTime}
    (hrange : ¬(own.settings.backupRetentionDays ≤ 999999999 ∧
      datetimeMin ≤ now.val - days own.settings.backupRetentionDays)) (b : Backup nfkc s3Prefix) :
    ¬Expired own now.val b := by
  rintro ⟨-, hold⟩
  have hfirst := b.time.le_truncated
  have hlast := now.property.2
  refine hrange ⟨?_, hfirst.trans hold.le⟩
  by_contra hlong
  unfold datetimeMin at hfirst
  unfold datetimeMax at hlast
  unfold days second at hold
  linarith

/-- **What `cleanup_old_backups` leaves.** -/
theorem cleansUp (own : Deployment nfkc s3Prefix) (now : ClockTime) (backups : List (Backup nfkc s3Prefix))
    (sizes : List ℕ) : CleansUp own now.val backups (afterCleanup own now.val sizes (written backups)) := by
  by_cases hrange : own.settings.backupRetentionDays ≤ 999999999 ∧
      datetimeMin ≤ now.val - days own.settings.backupRetentionDays
  · rw [afterCleanup_of_cutoff hrange.1 hrange.2]
    constructor
    · intro b hb
      have hwritten : b.key ∈ (written backups).keys := mem_written.2 ⟨b, hb, rfl⟩
      have hold : IsOld (now.val - days own.settings.backupRetentionDays) b.key ↔
          b.time.truncated < now.val - days own.settings.backupRetentionDays := by
        unfold IsOld
        rw [b.extract_key]
        simp
      rw [mem_paginate_deleteOld, and_iff_right hwritten, b.isPrefixOf_key own, hold]
      rfl
    · intro key hkey
      exact mem_written.1 (mem_paginate_deleteOld.1 hkey).1
  · rw [afterCleanup_of_overflow hrange]
    exact ⟨fun b hb => iff_of_true (mem_written.2 ⟨b, hb, rfl⟩) (not_expired_of_overflow hrange b), fun key hkey =>
      mem_written.1 hkey⟩

lemma foldl_note (candidates : List (String × Datetime)) : keys.foldl note candidates =
    candidates ++ keys.filterMap fun key => (extractKeyTimestamp key).map fun ts => (key, ts) := by
  induction keys generalizing candidates with
  | nil => simp
  | cons key keys ih =>
    rw [List.foldl_cons, ih]
    unfold note
    cases h : extractKeyTimestamp key <;> simp [h]

/-- The candidates are the backups of the database. -/
lemma mem_candidates {candidate : String × Datetime} :
    candidate ∈ paginate (fun _ => written backups)
        (fun key => (listingPrefix own.settings.backupS3Prefix own.components.dbname).isPrefixOf key.toList) note sizes
        none [] ↔
      ∃ b ∈ backups, b.dbname = own.components.dbname ∧ (b.key, b.time.truncated) = candidate := by
  rw [paginate_const, foldl_note, List.nil_append, List.mem_filterMap]
  unfold Bucket.behind
  simp only [List.mem_filter, mem_written, Option.all_none, Bool.and_true, Option.map_eq_some_iff]
  constructor
  · rintro ⟨-, ⟨⟨b, hb, rfl⟩, hlisted⟩, ts, hts, rfl⟩
    rw [b.extract_key] at hts
    exact ⟨b, hb, (b.isPrefixOf_key own).1 hlisted, by rw [Option.some.inj hts]⟩
  · rintro ⟨b, hb, hown, rfl⟩
    exact ⟨b.key, ⟨⟨b, hb, rfl⟩, (b.isPrefixOf_key own).2 hown⟩, b.time.truncated, b.extract_key, rfl⟩

/-- **What `restore_backup` takes.** -/
theorem restores (own : Deployment nfkc s3Prefix) (backups : List (Backup nfkc s3Prefix)) (sizes : List ℕ) :
    Restores own backups (restoreBackup nfkc own.settings sizes (written backups) none) := by
  obtain ⟨candidates, hcandidates⟩ : ∃ candidates, candidates = paginate (fun _ => written backups)
      (fun key => (listingPrefix own.settings.backupS3Prefix own.components.dbname).isPrefixOf key.toList) note sizes
      none [] := ⟨_, rfl⟩
  have hmem : ∀ {candidate}, candidate ∈ candidates.mergeSort (fun a b => decide (b.2 ≤ a.2)) ↔
      ∃ b ∈ backups, b.dbname = own.components.dbname ∧ (b.key, b.time.truncated) = candidate := by
    intro candidate
    rw [List.mem_mergeSort, hcandidates]
    exact mem_candidates
  have hsorted : (candidates.mergeSort fun a b => decide (b.2 ≤ a.2)).Pairwise fun a b => b.2 ≤ a.2 := by
    have htrans : ∀ a b c : String × Datetime, decide (b.2 ≤ a.2) = true → decide (c.2 ≤ b.2) = true →
        decide (c.2 ≤ a.2) = true := by
      intro a b c hab hbc
      exact decide_eq_true ((of_decide_eq_true hbc).trans (of_decide_eq_true hab))
    have htotal : ∀ a b : String × Datetime, (decide (b.2 ≤ a.2) || decide (a.2 ≤ b.2)) = true := by
      intro a b
      simpa using le_total b.2 a.2
    exact (List.pairwise_mergeSort htrans htotal _).imp of_decide_eq_true
  unfold restoreBackup
  rw [own.parsed]
  dsimp only [Except.mapError, bind, Except.bind]
  rw [← hcandidates]
  cases hlist : candidates.mergeSort fun a b => decide (b.2 ≤ a.2) with
  | nil =>
    intro b hb hown
    have hcandidate := hmem.2 ⟨b, hb, hown, rfl⟩
    rw [hlist] at hcandidate
    cases hcandidate
  | cons first rest =>
    rw [hlist] at hsorted
    obtain ⟨b, hb, hown, rfl⟩ := hmem.1 (hlist ▸ List.mem_cons_self)
    refine ⟨b, hb, rfl, hown, fun other hother hown' => ?_⟩
    have hcandidate := hmem.2 ⟨other, hother, hown', rfl⟩
    rw [hlist] at hcandidate
    rcases List.mem_cons.1 hcandidate with heq | hlater
    · exact (congrArg Prod.snd heq).le
    · exact (List.pairwise_cons.1 hsorted).1 _ hlater

/-- **Backups are found again, kept for the retention time, and restored the last first.** -/
theorem backups_correct (nfkc : String → String) (s3Prefix : String) :
    (∀ (dbName : String) (t : BackupTime), extractKeyTimestamp (backupKey s3Prefix dbName t.val) = some t.truncated) ∧
      ∀ (own : Deployment nfkc s3Prefix) (backups : List (Backup nfkc s3Prefix)) (sizes : List ℕ),
        (∀ now : ClockTime, CleansUp own now.val backups (afterCleanup own now.val sizes (written backups))) ∧
        Restores own backups (restoreBackup nfkc own.settings sizes (written backups) none) :=
  ⟨extract_backupKey s3Prefix, fun own backups sizes =>
    ⟨fun now => cleansUp own now backups sizes, restores own backups sizes⟩⟩

end Results

end FastapiTemplate.Tasks
