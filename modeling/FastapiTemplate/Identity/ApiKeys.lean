import FastapiTemplate.Effects.Calls
import FastapiTemplate.Identity.Exec
import FastapiTemplate.Store.Crud
import Mathlib.Data.Set.Function

/-!
# API keys

A key is looked up by its first ten characters among the active records, and only then compared with the hash of
the one that is found. `verify_exact_iff` says for which sequences of calls every key can be stored and
`verify` gives back exactly the record that a key was issued with, as long as it is usable.

`issued` only records with which raw key a record was created.
-/

namespace FastapiTemplate.Identity

open Effects Python Store

/-! ### Records -/

/-- A row of `api_keys`. -/
structure ApiKey where
  id : ℤ := 0
  userId : ℤ
  name : String
  keyPrefix : String
  hashedKey : String
  scopes : Option (List String) := none
  isActive : Bool := true
  lastUsedAt : Option Datetime := none
  expiresAt : Option Datetime := none
  deletedAt : Option Datetime := none
  deriving DecidableEq

instance : SoftDeletes ApiKey where
  key := ApiKey.id
  withKey k r := { r with id := k }
  key_withKey _ _ := rfl
  deletedAt := ApiKey.deletedAt
  withDeletedAt d r := { r with deletedAt := d }
  key_withDeletedAt _ _ := rfl
  deletedAt_withDeletedAt _ _ := rfl

/-- The widths of the columns `key_prefix` and `hashed_key`. -/
def keyPrefixWidth : ℕ := 8
def hashedKeyWidth : ℕ := 64

structure ApiKeyCreate where
  name : String
  scopes : Option (List String) := none
  expiresAt : Option Datetime := none

/-- The fields of a request that are set; a field may be set to null. -/
structure ApiKeyUpdate where
  name : Option (Option String) := none
  scopes : Option (Option (List String)) := none
  isActive : Option (Option Bool) := none

/-- What `secrets.token_hex(n)` gives. -/
abbrev TokenHex (n : ℕ) : Type := { s : String // s.length = 2 * n ∧ isHex s = true }

/-- The records, the clock and the random generator. -/
structure ApiKeys where
  now : Datetime
  table : Table ApiKey := Table.empty
  tokens : ℕ → (n : ℕ) → TokenHex n
  drawn : ℕ := 0
  issued : ℤ → Option String := fun _ => none

/-! ### The functions -/

/-- `settings.API_KEY_LENGTH_BYTES` -/
structure ApiKeySettings where
  apiKeyLengthBytes : ℤ := 32

variable (keyCfg : ApiKeySettings) (lib : Libraries)

/-- `raw_key[:10]` -/
def prefixOf (rawKey : String) : String := String.ofList (rawKey.toList.take 10)

def generateApiKey (w : ApiKeys) : Except BuiltinError (String × String × String) × ApiKeys :=
  if keyCfg.apiKeyLengthBytes < 0 then (.error .valueError, w)
  else
    let rawKey := "ak_" ++ (w.tokens w.drawn keyCfg.apiKeyLengthBytes.toNat).val
    (.ok (rawKey, lib.sha256 rawKey, prefixOf rawKey), { w with drawn := w.drawn + 1 })

def verifyApiKey (rawKey hashedKey : String) : Except BuiltinError Bool :=
  compareDigest (lib.sha256 rawKey) hashedKey

/-- What `create_with_raw_key` may raise; PostgreSQL takes no text that is longer than its column. -/
inductive CreateExn where
  | builtin (e : BuiltinError)
  | dataError
  deriving DecidableEq

/-- `obj_in.scopes or None` -/
def scopesOrNone : Option (List String) → Option (List String)
  | some [] => none
  | scopes => scopes

def CRUDApiKey.createWithRawKey (userId : ℤ) (objIn : ApiKeyCreate) (w : ApiKeys) :
    Except CreateExn (ApiKey × String) × ApiKeys :=
  match generateApiKey keyCfg lib w with
  | (.error e, w) => (.error (.builtin e), w)
  | (.ok (rawKey, hashedKey, keyPrefix), w) =>
    if keyPrefixWidth < keyPrefix.length ∨ hashedKeyWidth < hashedKey.length then (.error .dataError, w)
    else
      let dbObj : ApiKey :=
        { userId := userId, name := objIn.name, keyPrefix := keyPrefix, hashedKey := hashedKey,
          scopes := scopesOrNone objIn.scopes, expiresAt := objIn.expiresAt }
      (.ok ({ dbObj with id := w.table.next }, rawKey),
        { w with
          table := w.table.insert dbObj
          issued := Function.update w.issued w.table.next (some rawKey) })

/-- `get_by_prefix`; it asks for active records, deleted or not. -/
def CRUDApiKey.getByPrefix (keyPrefix : String) (w : ApiKeys) : Except Exn (Option ApiKey) :=
  scalarOneOrNone (w.table.rows.filter fun r => r.keyPrefix == keyPrefix && r.isActive)

/-- `api_key.expires_at and api_key.expires_at < now` -/
def ApiKey.expired (r : ApiKey) (now : Datetime) : Bool := r.expiresAt.any fun t => t < now

def CRUDApiKey.verify (rawKey : String) (w : ApiKeys) : Except Exn (Option ApiKey) × ApiKeys :=
  match CRUDApiKey.getByPrefix (prefixOf rawKey) w with
  | .error e => (.error e, w)
  | .ok none => (.ok none, w)
  | .ok (some apiKey) =>
    match verifyApiKey lib rawKey apiKey.hashedKey with
    | .error e => (.error (.builtin e), w)
    | .ok false => (.ok none, w)
    | .ok true =>
      if !apiKey.isActive then (.ok none, w)
      else if apiKey.expired w.now then (.ok none, w)
      else
        (.ok (some { apiKey with lastUsedAt := some w.now }),
          { w with table := w.table.put { apiKey with lastUsedAt := some w.now } })

/-- A column that cannot be null. -/
def required {α : Type} (set : Option (Option α)) (old : α) : Except Exn α :=
  match set with
  | none => .ok old
  | some none => .error .integrityError
  | some (some a) => .ok a

/-- `update` of the record with this id, as an endpoint loads it. -/
def CRUDApiKey.update (id : ℤ) (objIn : ApiKeyUpdate) (w : ApiKeys) : Except Exn (Option ApiKey) × ApiKeys :=
  match CRUDBase.get (fun _ => true) id w.table with
  | none => (.ok none, w)
  | some dbObj =>
    match required objIn.name dbObj.name, required objIn.isActive dbObj.isActive with
    | .ok name, .ok isActive =>
      let dbObj := { dbObj with name := name, isActive := isActive, scopes := objIn.scopes.getD dbObj.scopes }
      (.ok (some dbObj), { w with table := w.table.put dbObj })
    | .error e, _ => (.error e, w)
    | _, .error e => (.error e, w)

def CRUDApiKey.delete (id : ℤ) (w : ApiKeys) : Option ApiKey × ApiKeys :=
  let (dbObj, table) := CRUDBase.delete (fun _ => true) id w.table w.now
  (dbObj, { w with table := table })

def CRUDApiKey.restore (id : ℤ) (w : ApiKeys) : Option ApiKey × ApiKeys :=
  let (dbObj, table) := CRUDBase.restore (fun _ => true) id w.table
  (dbObj, { w with table := table })

/-! ### Sequences of calls -/

/-- A call, or time going by. -/
inductive ApiKeyCall where
  | create (userId : ℤ) (objIn : ApiKeyCreate)
  | update (id : ℤ) (objIn : ApiKeyUpdate)
  | delete (id : ℤ)
  | restore (id : ℤ)
  | verify (rawKey : String)
  | wait (time : ℕ)

/-- The world after a call. -/
def ApiKeyCall.step : ApiKeyCall → ApiKeys → ApiKeys
  | .create userId objIn, w => (CRUDApiKey.createWithRawKey keyCfg lib userId objIn w).2
  | .update id objIn, w => (CRUDApiKey.update id objIn w).2
  | .delete id, w => (CRUDApiKey.delete id w).2
  | .restore id, w => (CRUDApiKey.restore id w).2
  | .verify rawKey, w => (CRUDApiKey.verify lib rawKey w).2
  | .wait time, w => { w with now := w.now + time }

/-- The record was created with the raw key. -/
def ApiKeys.IsFor (w : ApiKeys) (rawKey : String) (r : ApiKey) : Prop :=
  r ∈ w.table.rows ∧ w.issued r.id = some rawKey

/-- The record is active, not deleted and not expired. -/
def ApiKey.Usable (r : ApiKey) (now : Datetime) : Prop :=
  r.isActive = true ∧ r.deletedAt = none ∧ r.expired now = false

/-- A key that is created is stored, and `verify` returns the usable record that the key was issued with, if there
is one; it does not raise. -/
def Exact (w : ApiKeys) : ApiKeyCall → Prop
  | .create userId objIn => ∃ created, (CRUDApiKey.createWithRawKey keyCfg lib userId objIn w).1 = .ok created
  | .verify rawKey => ∃ found, (CRUDApiKey.verify lib rawKey w).1 = .ok found ∧
      ∀ id, found.map ApiKey.id = some id ↔ ∃ r, w.IsFor rawKey r ∧ r.Usable w.now ∧ r.id = id
  | _ => True

/-! ### When the calls are exact -/

/-- The prefix of a generated key is as wide as its column. -/
def ApiKeySettings.Fits : Prop :=
  0 ≤ keyCfg.apiKeyLengthBytes ∧ min 10 (3 + 2 * keyCfg.apiKeyLengthBytes.toNat) ≤ keyPrefixWidth

/-- The records that `get_by_prefix` finds for a key. -/
def ApiKeys.matching (w : ApiKeys) (rawKey : String) : List ApiKey :=
  w.table.rows.filter fun r => r.keyPrefix == prefixOf rawKey && r.isActive

/-- A key that is created fits its column; for a key that is presented there is at most one active record with its
prefix, and the record it was issued with is not an active one that was deleted before it expired. -/
def Unambiguous (w : ApiKeys) : ApiKeyCall → Prop
  | .create _ _ => keyCfg.Fits
  | .verify rawKey => (w.matching rawKey).length ≤ 1 ∧
      ∀ r ∈ w.table.rows, w.issued r.id = some rawKey → r.isActive = true → r.deletedAt ≠ none →
        r.expired w.now = true
  | _ => True

/-- Every record was issued with one of the keys, and only these are drawn. -/
structure ApiKeys.Issued (keyCfg : ApiKeySettings) (lib : Libraries) (keys : Set String) (w : ApiKeys) : Prop where
  records : ∀ r ∈ w.table.rows, ∃ rawKey ∈ keys, w.issued r.id = some rawKey ∧ r.keyPrefix = prefixOf rawKey ∧
    r.hashedKey = lib.sha256 rawKey
  draws : ∀ k, "ak_" ++ (w.tokens k keyCfg.apiKeyLengthBytes.toNat).val ∈ keys

variable {keyCfg lib} {keys : Set String} {w : ApiKeys} {rawKey : String} {r : ApiKey}

lemma mem_matching : r ∈ w.matching rawKey ↔
    r ∈ w.table.rows ∧ r.keyPrefix = prefixOf rawKey ∧ r.isActive = true := by
  unfold ApiKeys.matching
  rw [List.mem_filter, Bool.and_eq_true, beq_iff_eq]

/-- The active record of a key is among those that are found. -/
lemma ApiKeys.Issued.mem_matching (h : w.Issued keyCfg lib keys) (hr : w.IsFor rawKey r) (hactive : r.isActive = true) :
    r ∈ w.matching rawKey := by
  obtain ⟨rawKey', -, hissued, hpre, -⟩ := h.records r hr.1
  obtain rfl := Option.some.inj (hr.2.symm.trans hissued)
  exact Identity.mem_matching.2 ⟨hr.1, hpre, hactive⟩

/-- The hash is compared. -/
lemma verifyApiKey_eq (hlib : ∀ text, IsHexdigest (lib.sha256 text)) (rawKey rawKey' : String) :
    verifyApiKey lib rawKey (lib.sha256 rawKey') = .ok (lib.sha256 rawKey == lib.sha256 rawKey') := by
  unfold verifyApiKey compareDigest
  rw [(hlib rawKey).isAscii, (hlib rawKey').isAscii]
  rfl

lemma verify_of_nil (h : w.matching rawKey = []) : CRUDApiKey.verify lib rawKey w = (.ok none, w) := by
  have hfound : CRUDApiKey.getByPrefix (prefixOf rawKey) w = .ok none := congrArg scalarOneOrNone h
  unfold CRUDApiKey.verify
  rw [hfound]

lemma verify_of_cons_cons {a b : ApiKey} {rest : List ApiKey} (h : w.matching rawKey = a :: b :: rest) :
    CRUDApiKey.verify lib rawKey w = (.error .multipleResultsFound, w) := by
  have hfound : CRUDApiKey.getByPrefix (prefixOf rawKey) w = .error .multipleResultsFound := congrArg scalarOneOrNone h
  unfold CRUDApiKey.verify
  rw [hfound]

/-- The one record that is found is compared with the key. -/
lemma verify_of_singleton (hlib : ∀ text, IsHexdigest (lib.sha256 text)) {a : ApiKey} {rawKey' : String}
    (h : w.matching rawKey = [a]) (hhash : a.hashedKey = lib.sha256 rawKey') :
    CRUDApiKey.verify lib rawKey w =
      if lib.sha256 rawKey = lib.sha256 rawKey' ∧ a.expired w.now = false then
        (.ok (some { a with lastUsedAt := some w.now }),
          { w with table := w.table.put { a with lastUsedAt := some w.now } })
      else (.ok none, w) := by
  have hfound : CRUDApiKey.getByPrefix (prefixOf rawKey) w = .ok (some a) := congrArg scalarOneOrNone h
  have hactive : a.isActive = true := (mem_matching.1 (h ▸ List.mem_singleton_self a)).2.2
  unfold CRUDApiKey.verify
  rw [hfound]
  dsimp only
  rw [hhash, verifyApiKey_eq hlib, hactive]
  by_cases hsame : lib.sha256 rawKey = lib.sha256 rawKey'
  · rw [hsame, beq_self_eq_true]
    cases a.expired w.now <;> simp
  · rw [beq_eq_false_iff_ne.2 hsame]
    simp [hsame]

/-- To give nothing back is right if there is no usable record. -/
lemma exact_verify_of_none (h : (CRUDApiKey.verify lib rawKey w).1 = .ok none) :
    Exact keyCfg lib w (.verify rawKey) ↔ ∀ r, w.IsFor rawKey r → ¬r.Usable w.now := by
  unfold Exact
  dsimp only
  rw [h]
  constructor
  · rintro ⟨found, hfound, hexact⟩ r hr husable
    obtain rfl := Except.ok.inj hfound
    cases (hexact r.id).2 ⟨r, hr, husable, rfl⟩
  · intro hnone
    refine ⟨none, rfl, fun id => iff_of_false (fun h => nomatch h) ?_⟩
    rintro ⟨r, hr, husable, -⟩
    exact hnone r hr husable

/-- To give back the key's only active record is right if it is usable. -/
lemma exact_verify_of_some {found : ApiKey} (a : ApiKey) (h : (CRUDApiKey.verify lib rawKey w).1 = .ok (some found))
    (hid : found.id = a.id) (ha : w.IsFor rawKey a) (honly : ∀ r, w.IsFor rawKey r → r.isActive = true → r = a) :
    Exact keyCfg lib w (.verify rawKey) ↔ a.Usable w.now := by
  unfold Exact
  dsimp only
  rw [h]
  constructor
  · rintro ⟨found', hfound, hexact⟩
    obtain rfl := Except.ok.inj hfound
    obtain ⟨r, hr, husable, -⟩ := (hexact found.id).1 rfl
    exact honly r hr husable.1 ▸ husable
  · intro husable
    refine ⟨some found, rfl, fun id => ⟨fun heq => ⟨a, ha, husable, hid.symm.trans (Option.some.inj heq)⟩, ?_⟩⟩
    rintro ⟨r, hr, husable', rfl⟩
    rw [honly r hr husable'.1]
    exact congrArg some hid

/-- **What `verify` gives back**, if it finds one record. -/
lemma exact_verify_singleton (hlib : ∀ text, IsHexdigest (lib.sha256 text)) (hinj : Set.InjOn lib.sha256 keys)
    (hw : w.Issued keyCfg lib keys) (hkey : rawKey ∈ keys) {a : ApiKey} (hmatching : w.matching rawKey = [a]) :
    Exact keyCfg lib w (.verify rawKey) ↔ ∀ r ∈ w.table.rows, w.issued r.id = some rawKey → r.isActive = true →
      r.deletedAt ≠ none → r.expired w.now = true := by
  obtain ⟨hrow, -, hactive⟩ := mem_matching.1 (hmatching ▸ List.mem_singleton_self a)
  obtain ⟨rawKey', hkey', hissued, -, hhash⟩ := hw.records a hrow
  have honly : ∀ r, w.IsFor rawKey r → r.isActive = true → r = a := by
    intro r hr hr'
    have hfound := hw.mem_matching hr hr'
    rw [hmatching] at hfound
    exact List.mem_singleton.1 hfound
  have hverify := verify_of_singleton hlib hmatching hhash
  by_cases hsame : rawKey = rawKey'
  · subst hsame
    have hfor : w.IsFor rawKey a := ⟨hrow, hissued⟩
    cases hexpired : a.expired w.now with
    | true =>
      rw [if_neg (by simp [hexpired])] at hverify
      rw [exact_verify_of_none (congrArg Prod.fst hverify)]
      refine iff_of_true (fun r hr husable => ?_) fun r hr hr' hactive' _ => honly r ⟨hr, hr'⟩ hactive' ▸ hexpired
      obtain rfl := honly r hr husable.1
      exact Bool.false_ne_true (husable.2.2.symm.trans hexpired)
    | false =>
      rw [if_pos ⟨rfl, hexpired⟩] at hverify
      rw [exact_verify_of_some a (congrArg Prod.fst hverify) rfl hfor honly]
      constructor
      · intro husable r hr hr' hactive' hdeleted
        obtain rfl := honly r ⟨hr, hr'⟩ hactive'
        exact absurd husable.2.1 hdeleted
      · intro hfine
        refine ⟨hactive, ?_, hexpired⟩
        by_contra hdeleted
        exact Bool.false_ne_true (hexpired.symm.trans (hfine a hrow hissued hactive hdeleted))
  · -- the record was issued with another key
    have hother : ∀ r, w.IsFor rawKey r → r.isActive = true → False := by
      intro r hr hr'
      obtain rfl := honly r hr hr'
      exact hsame (Option.some.inj (hr.2.symm.trans hissued))
    rw [if_neg fun h => hsame (hinj hkey hkey' h.1)] at hverify
    rw [exact_verify_of_none (congrArg Prod.fst hverify)]
    exact iff_of_true (fun r hr husable => hother r hr husable.1) fun r hr hr' hactive' =>
      (hother r ⟨hr, hr'⟩ hactive').elim

/-- **What `verify` gives back.** -/
theorem exact_verify_iff (hlib : ∀ text, IsHexdigest (lib.sha256 text)) (hinj : Set.InjOn lib.sha256 keys)
    (hw : w.Issued keyCfg lib keys) (hkey : rawKey ∈ keys) :
    Exact keyCfg lib w (.verify rawKey) ↔ Unambiguous keyCfg w (.verify rawKey) := by
  unfold Unambiguous
  dsimp only
  rcases hmatching : w.matching rawKey with _ | ⟨a, _ | ⟨b, rest⟩⟩
  · -- no active record has the prefix
    have hnone : ∀ r, w.IsFor rawKey r → r.isActive = true → False := by
      intro r hr hactive
      have hmem := hw.mem_matching hr hactive
      rw [hmatching] at hmem
      cases hmem
    rw [exact_verify_of_none (congrArg Prod.fst (verify_of_nil hmatching))]
    exact iff_of_true (fun r hr husable => hnone r hr husable.1)
      ⟨by simp, fun r hr hr' hactive => (hnone r ⟨hr, hr'⟩ hactive).elim⟩
  · rw [exact_verify_singleton hlib hinj hw hkey hmatching]
    exact (and_iff_right (by simp)).symm
  · refine iff_of_false ?_ ?_
    · rintro ⟨_, h, -⟩
      rw [verify_of_cons_cons hmatching] at h
      cases h
    · rintro ⟨h, -⟩
      simp at h

/-- **When a new key can be stored.** -/
theorem exact_create_iff (hlib : ∀ text, IsHexdigest (lib.sha256 text)) (userId : ℤ) (objIn : ApiKeyCreate) :
    Exact keyCfg lib w (.create userId objIn) ↔ keyCfg.Fits := by
  show (∃ created, (CRUDApiKey.createWithRawKey keyCfg lib userId objIn w).1 = .ok created) ↔ _
  unfold CRUDApiKey.createWithRawKey generateApiKey ApiKeySettings.Fits
  by_cases hneg : keyCfg.apiKeyLengthBytes < 0
  · rw [if_pos hneg]
    exact iff_of_false (fun ⟨_, h⟩ => nomatch h) fun h => absurd h.1 (not_le.2 hneg)
  · rw [if_neg hneg, and_iff_right (not_lt.1 hneg)]
    dsimp only
    generalize hn : keyCfg.apiKeyLengthBytes.toNat = n
    have htoken := (w.tokens w.drawn n).2.1
    have hlength : (prefixOf ("ak_" ++ (w.tokens w.drawn n).val)).length = min 10 (3 + 2 * n) := by
      have hak : "ak_".length = 3 := by decide
      unfold prefixOf
      rw [String.length_ofList, List.length_take, String.length_toList, String.length_append, htoken, hak]
    have hhash : ¬hashedKeyWidth < (lib.sha256 ("ak_" ++ (w.tokens w.drawn n).val)).length := by
      rw [(hlib _).1]
      exact lt_irrefl _
    rw [hlength]
    by_cases hfits : keyPrefixWidth < min 10 (3 + 2 * n)
    · rw [if_pos (.inl hfits)]
      exact iff_of_false (fun ⟨_, h⟩ => nomatch h) (not_le.2 hfits)
    · rw [if_neg (not_or.2 ⟨hfits, hhash⟩)]
      exact iff_of_true ⟨_, rfl⟩ (not_lt.1 hfits)

/-! ### Every sequence of calls -/

/-- A record keeps the key that it was issued with. -/
lemma ApiKeys.Issued.put (hw : w.Issued keyCfg lib keys) {r r' : ApiKey} (hr : r ∈ w.table.rows) (hid : r'.id = r.id)
    (hpre : r'.keyPrefix = r.keyPrefix) (hhash : r'.hashedKey = r.hashedKey) :
    ApiKeys.Issued keyCfg lib keys { w with table := w.table.put r' } := by
  refine ⟨fun x hx => ?_, hw.draws⟩
  rcases Table.mem_put hx with rfl | ⟨hx, -⟩
  · obtain ⟨rawKey, hkey, hissued, hpre', hhash'⟩ := hw.records r hr
    exact ⟨rawKey, hkey, hid ▸ hissued, hpre.trans hpre', hhash.trans hhash'⟩
  · exact hw.records x hx

lemma issued_create (hw : w.Issued keyCfg lib keys) (userId : ℤ) (objIn : ApiKeyCreate) :
    (CRUDApiKey.createWithRawKey keyCfg lib userId objIn w).2.Issued keyCfg lib keys := by
  unfold CRUDApiKey.createWithRawKey generateApiKey
  split
  · rename_i hgenerated
    split at hgenerated <;> cases hgenerated
    exact hw
  · rename_i hgenerated
    split at hgenerated <;> cases hgenerated
    split
    · exact ⟨hw.records, hw.draws⟩
    · refine ⟨fun x hx => ?_, hw.draws⟩
      rcases Table.mem_insert.1 hx with hx | rfl
      · obtain ⟨rawKey, hkey, hissued, hrest⟩ := hw.records x hx
        have hne : x.id ≠ w.table.next := ne_of_lt (w.table.below x hx)
        exact ⟨rawKey, hkey, (Function.update_of_ne hne ..).trans hissued, hrest⟩
      · exact ⟨_, hw.draws _, Function.update_self .., rfl, rfl⟩

lemma issued_verify (hlib : ∀ text, IsHexdigest (lib.sha256 text)) (hw : w.Issued keyCfg lib keys) (rawKey : String) :
    (CRUDApiKey.verify lib rawKey w).2.Issued keyCfg lib keys := by
  rcases hmatching : w.matching rawKey with _ | ⟨a, _ | ⟨b, rest⟩⟩
  · rw [verify_of_nil hmatching]
    exact hw
  · have hrow : a ∈ w.table.rows := (mem_matching.1 (hmatching ▸ List.mem_singleton_self a)).1
    obtain ⟨rawKey', -, -, -, hhash⟩ := hw.records a hrow
    rw [verify_of_singleton hlib hmatching hhash]
    split
    · exact hw.put hrow rfl rfl rfl
    · exact hw
  · rw [verify_of_cons_cons hmatching]
    exact hw

lemma issued_update (hw : w.Issued keyCfg lib keys) (id : ℤ) (objIn : ApiKeyUpdate) :
    (CRUDApiKey.update id objIn w).2.Issued keyCfg lib keys := by
  unfold CRUDApiKey.update
  cases hget : CRUDBase.get (fun _ => true) id w.table with
  | none => exact hw
  | some dbObj =>
    have hrow := (CRUDBase.get_eq_some.1 hget).1
    dsimp only
    split
    · exact hw.put hrow rfl rfl rfl
    · exact hw
    · exact hw

/-- **Every call keeps the records with their keys.** -/
theorem issued_step (hlib : ∀ text, IsHexdigest (lib.sha256 text)) (c : ApiKeyCall) (hw : w.Issued keyCfg lib keys) :
    (c.step keyCfg lib w).Issued keyCfg lib keys := by
  cases c with
  | create userId objIn => exact issued_create hw userId objIn
  | update id objIn => exact issued_update hw id objIn
  | delete id =>
    show ApiKeys.Issued keyCfg lib keys { w with table := (CRUDBase.delete (fun _ => true) id w.table w.now).2 }
    rcases CRUDBase.delete_cases (t := w.table) w.now with h | ⟨r, hr, -, -, -, h⟩ <;> rw [h]
    · exact hw
    · exact hw.put hr rfl rfl rfl
  | restore id =>
    show ApiKeys.Issued keyCfg lib keys { w with table := (CRUDBase.restore (fun _ => true) id w.table).2 }
    rcases CRUDBase.restore_cases (t := w.table) with ⟨h, -⟩ | ⟨r, ⟨hr, -⟩, h⟩ <;> rw [h]
    · exact hw
    · exact hw.put hr rfl rfl rfl
  | verify rawKey => exact issued_verify hlib hw rawKey
  | wait time => exact ⟨hw.records, hw.draws⟩

/-- The keys that are presented are among these. -/
def ApiKeyCall.Within (keys : Set String) : ApiKeyCall → Prop
  | .verify rawKey => rawKey ∈ keys
  | _ => True

/-- **When verification is exact**: in a sequence of calls every key that is created is stored, and `verify` gives
back exactly the usable record of a key without raising, if and only if every call is unambiguous. -/
theorem verify_exact_iff (keyCfg : ApiKeySettings) (lib : Libraries)
    (hlib : ∀ text, IsHexdigest (lib.sha256 text)) (keys : Set String) (hinj : Set.InjOn lib.sha256 keys)
    (w : ApiKeys) (hw : w.Issued keyCfg lib keys) (calls : List ApiKeyCall) (hcalls : ∀ c ∈ calls, c.Within keys) :
    Each (ApiKeyCall.step keyCfg lib) (Exact keyCfg lib) w calls ↔
      Each (ApiKeyCall.step keyCfg lib) (Unambiguous keyCfg) w calls := by
  induction calls generalizing w with
  | nil => rfl
  | cons c calls ih =>
    refine and_congr ?_ (ih _ (issued_step hlib c hw) fun c hc => hcalls c (List.mem_cons_of_mem _ hc))
    have hwithin := hcalls c List.mem_cons_self
    cases c with
    | create userId objIn => exact exact_create_iff hlib userId objIn
    | verify rawKey => exact exact_verify_iff hlib hinj hw hwithin
    | _ => rfl

namespace Sample

/-- The digests of four keys, and of the empty text for everything else. -/
def keyDigest (text : String) : String :=
  if text = "ak_0a1b" then "30e640b328aadefa39c21b8b3d3ec3b404a09c203d00e79bdb77cb152baeb316"
  else if text = "ak_2c3d" then "77b5e2c26a0b463c2300c9e9b8bcdb458ef72974be16f3638fc57d07ce6a1912"
  else if text = "ak_00000000" then "b1026e90130c2c04a6f0cfd8bfda6dd12f71351af6535f4306b6144ef00dcc0d"
  else if text = "ak_00000001" then "e1c24a730f84de98ceb117fdbc6cfb586d613cd44b8031d0601fbef4fa374b06"
  else "e3b0c44298fc1c149afbf4c8996fb92427ae41e4649b934ca495991b7852b855"

def keyDigests : Libraries := { libraries with sha256 := keyDigest }

lemma hexdigest_keyDigest (text : String) : IsHexdigest (keyDigest text) := by
  unfold keyDigest
  repeat' split
  all_goals decide +kernel

/-- Keys of two bytes: their prefixes fit. -/
def shortKeys : ApiKeySettings where
  apiKeyLengthBytes := 2

/-- First `0a1b`, then always `2c3d`, if two bytes are asked for. -/
def keyTokens : ℕ → (n : ℕ) → TokenHex n
  | 0, 2 => ⟨"0a1b", by decide⟩
  | _, 2 => ⟨"2c3d", by decide⟩
  | _, n => ⟨String.ofList (List.replicate (2 * n) '0'), by simp, by
      refine List.all_eq_true.2 fun c hc => ?_
      rw [String.toList_ofList] at hc
      rw [List.eq_of_mem_replicate hc]
      decide⟩

/-- No keys yet. -/
def noKeys : ApiKeys where
  now := 1000 * second
  tokens := keyTokens

/-- Two records whose keys share their first ten characters. -/
def twins : ApiKeys where
  now := 1000 * second
  table := Table.empty
    |>.insert { userId := 1, name := "ci", keyPrefix := "ak_0000000", hashedKey := keyDigest "ak_00000000" }
    |>.insert { userId := 2, name := "cd", keyPrefix := "ak_0000000", hashedKey := keyDigest "ak_00000001" }
  tokens := keyTokens
  issued := fun id => if id = 1 then some "ak_00000000" else if id = 2 then some "ak_00000001" else none

/-- A key is deleted and presented. -/
def deletedAndPresented : List ApiKeyCall := [.create 1 ⟨"ci", none, none⟩, .delete 1, .verify "ak_0a1b"]

/-- Two users have a key each; the one is deactivated and deleted, and both are presented. -/
def twoKeys : List ApiKeyCall :=
  [.create 1 ⟨"ci", none, none⟩, .create 2 ⟨"cd", none, none⟩, .update 1 { isActive := some (some false) },
    .delete 1, .verify "ak_0a1b", .verify "ak_2c3d"]

end Sample

open Sample in
/-- With the default settings no key can be stored; a deleted key is still accepted; of two keys that share their
first ten characters neither is. -/
theorem verify_inexact :
    ¬Each (ApiKeyCall.step {} keyDigests) (Exact {} keyDigests) noKeys [.create 1 ⟨"ci", none, none⟩] ∧
      ¬Each (ApiKeyCall.step shortKeys keyDigests) (Exact shortKeys keyDigests) noKeys deletedAndPresented ∧
      ¬Each (ApiKeyCall.step shortKeys keyDigests) (Exact shortKeys keyDigests) twins [.verify "ak_00000000"] := by
  refine ⟨?_, ?_, ?_⟩
  · rintro ⟨⟨created, hcreated⟩, -⟩
    have hfails : (CRUDApiKey.createWithRawKey {} keyDigests 1 ⟨"ci", none, none⟩ noKeys).1.isOk = false := by decide +kernel
    rw [hcreated] at hfails
    cases hfails
  · rintro ⟨-, -, ⟨found, hfound, hexact⟩, -⟩
    have hgot : (CRUDApiKey.verify keyDigests "ak_0a1b" (after (ApiKeyCall.step shortKeys keyDigests) noKeys
        (deletedAndPresented.take 2))).1.toOption.map (Option.map ApiKey.id) = some (some 1) := by decide +kernel
    have hdeleted : ∀ r ∈ (after (ApiKeyCall.step shortKeys keyDigests) noKeys
        (deletedAndPresented.take 2)).table.rows, r.deletedAt ≠ none := by decide +kernel
    have hresult : (CRUDApiKey.verify keyDigests "ak_0a1b" (after (ApiKeyCall.step shortKeys keyDigests) noKeys
        (deletedAndPresented.take 2))).1 = .ok found := hfound
    rw [hresult] at hgot
    obtain ⟨r, ⟨hr, -⟩, husable, -⟩ := (hexact 1).1 (Option.some.inj hgot)
    exact hdeleted r hr husable.2.1
  · rintro ⟨⟨found, hfound, -⟩, -⟩
    have hfails : (CRUDApiKey.verify keyDigests "ak_00000000" twins).1.isOk = false := by decide +kernel
    rw [hfound] at hfails
    cases hfails

open Sample in
/-- Two keys, one of them deactivated and deleted. -/
theorem verify_exact_twoKeys :
    Each (ApiKeyCall.step shortKeys keyDigests) (Exact shortKeys keyDigests) noKeys twoKeys := by
  refine (verify_exact_iff shortKeys keyDigests hexdigest_keyDigest {"ak_0a1b", "ak_2c3d"} ?_ noKeys
    ⟨fun _ h => (nomatch h), fun k => ?_⟩ twoKeys fun c hc => ?_).2 ?_
  · rintro x (rfl | rfl) y (rfl | rfl) h
    · rfl
    · exact absurd h (by decide)
    · exact absurd h (by decide)
    · rfl
  · cases k with
    | zero => exact .inl (by decide)
    | succ k => exact .inr rfl
  · simp only [twoKeys, List.mem_cons, List.not_mem_nil, or_false] at hc
    rcases hc with rfl | rfl | rfl | rfl | rfl | rfl
    · trivial
    · trivial
    · trivial
    · trivial
    · exact .inl rfl
    · exact .inr rfl
  · have hfits : shortKeys.Fits := ⟨by decide, by decide⟩
    exact ⟨hfits, hfits, trivial, trivial, ⟨by decide +kernel, by decide +kernel⟩,
      ⟨by decide +kernel, by decide +kernel⟩, trivial⟩

end FastapiTemplate.Identity
