import FastapiTemplate.Middleware.Compression
import FastapiTemplate.Python.Numerals

/-!
# What compression leaves of a response

`CompressionMiddleware` hands a response on or builds another one. The other one has the fields of a dictionary: of the
fields with one name only the first is left, and as the names in the dictionary are in small letters, the length that
is set under `Content-Length` comes after the length that was there. `transparent_iff` says for which responses
nothing is lost nevertheless.
-/

namespace FastapiTemplate.Middleware

open Python

abbrev Bytes : Type := List UInt8

/-! ### Responses -/

abbrev Headers : Type := List (String × String)

structure HttpResponse where
  statusCode : ℕ
  headers : Headers
  chunks : List Bytes

/-- The body that is sent, and the one that `_get_body` reads. -/
def HttpResponse.body (r : HttpResponse) : Bytes := r.chunks.flatten

/-- The name of a field, as the server interface has it. -/
def isFieldName (name : String) : Bool := name.toList.all fun c => isTchar c && !c.isUpper

/-- What the application answers. -/
abbrev AsgiResponse : Type := { r : HttpResponse // ∀ field ∈ r.headers, isFieldName field.1 = true }

/-- The values of the fields with one name. -/
def valuesOf (name : String) (headers : Headers) : List String := (headers.filter fun field => field.1 == name).map Prod.snd

/-! ### Codings -/

/-- The compressors, by their level, and what a client makes of a body that comes with some values of
`Content-Encoding`. What `gzip` makes begins with two bytes that begin no stream of `deflate`, which is the format of
`zlib`. -/
structure Codecs where
  brotli : ℕ → Bytes → Bytes
  gzip : ℕ → Bytes → Bytes
  decode : List String → Bytes → Option Bytes
  decode_nil : ∀ b, decode [] b = some b
  decode_brotli : ∀ level b, decode ["br"] (brotli level b) = some b
  decode_gzip : ∀ level b, decode ["gzip"] (gzip level b) = some b
  gzip_magic : ∀ level b, ∃ rest, gzip level b = 0x1f :: 0x8b :: rest
  deflate_check : ∀ cmf flg rest b, decode ["deflate"] (cmf :: flg :: rest) = some b →
    (cmf.toNat * 256 + flg.toNat) % 31 = 0

/-! ### The middleware -/

structure CompressionMiddleware where
  enabled : Bool := true
  minimumSize : ℤ := 1024
  compresslevel : ℕ := 6

/-- `response.headers.get(key)` -/
def getHeader (key : String) (headers : Headers) : Option String := headers.lookup key.toLower

/-- `dict(response.headers)` -/
def dictOf (headers : Headers) : Headers :=
  (headers.map fun field => (field.1, (getHeader field.1 headers).getD "")).foldl
    (fun fields field => Value.setItem field.1 field.2 fields) []

/-- `Response(content=..., status_code=..., headers=...)` -/
def newResponse (content : Bytes) (statusCode : ℕ) (headers : Headers) : HttpResponse where
  statusCode := statusCode
  headers := headers.map fun field => (field.1.toLower, field.2)
  chunks := [content]

/-- `NON_COMPRESSIBLE_TYPES` -/
def nonCompressibleTypes : List String :=
  ["image/", "video/", "audio/", "application/zip", "application/gzip", "application/x-bzip2", "application/x-tar",
    "application/xz", "application/x-7z-compressed", "application/vnd.rar"]

def isCompressible (contentType : String) : Bool :=
  let contentType := strip ((split ';' contentType).headD "")
  !nonCompressibleTypes.any fun type => type.toList.isPrefixOf contentType.toList

def skipCompression (response : HttpResponse) : Bool :=
  let contentType := (getHeader "content-type" response.headers).getD ""
  decide (300 ≤ response.statusCode) || (getHeader "content-encoding" response.headers).isSome || contentType == "" ||
    !isCompressible contentType

namespace CompressionMiddleware

variable (m : CompressionMiddleware) (codecs : Codecs) (limit : Option ℕ) (acceptEncoding : Option String)
  (algorithm : String) (response : HttpResponse)

def shouldCompress : Option String :=
  if m.enabled then parseAcceptEncoding (acceptEncoding.getD "") else none

def compress (body : Bytes) : Bytes :=
  if algorithm = "br" then codecs.brotli m.compresslevel body
  else if algorithm = "gzip" ∨ algorithm = "deflate" then codecs.gzip m.compresslevel body
  else body

/-- `content_length is not None and int(content_length) < self.minimum_size` -/
def declaredShort : Except BuiltinError Bool :=
  match getHeader "content-length" response.headers with
  | none => .ok false
  | some contentLength => (fun n => decide (n < m.minimumSize)) <$> readInt limit contentLength

/-- The response that is built of the body. -/
def rebuilt : HttpResponse :=
  let body := response.body
  let headers := Value.setItem "Content-Length" (toString body.length) (dictOf response.headers)
  if (body.length : ℤ) < m.minimumSize then newResponse body response.statusCode headers
  else
    let compressed := m.compress codecs algorithm body
    let headers := Value.setItem "Content-Encoding" algorithm headers
    let headers := Value.setItem "Vary" "Accept-Encoding" headers
    let headers := Value.setItem "Content-Length" (toString compressed.length) headers
    newResponse compressed response.statusCode headers

def dispatch : Except BuiltinError HttpResponse :=
  match m.shouldCompress acceptEncoding with
  | none => .ok response
  | some algorithm =>
    if skipCompression response then .ok response
    else do
      if ← m.declaredShort limit response then return response
      else return m.rebuilt codecs algorithm response

end CompressionMiddleware

/-! ### What is to be left -/

/-- The text is a number of bytes. -/
def Denotes (value : String) (n : ℕ) : Prop :=
  value ≠ "" ∧ value.toList.all Char.isDigit = true ∧ Nat.ofDigitChars 10 value.toList 0 = n

/-- There is one `Content-Length`, and it is that of the body. -/
def Measured (r : HttpResponse) : Prop :=
  ∃ value, valuesOf "content-length" r.headers = [value] ∧ Denotes value r.body.length

/-- **Nothing is lost**: the body is decoded to what the body of the application is decoded to, it is measured, and the
other fields are there with the same values; `Vary` may have got one more. -/
structure Transparent (codecs : Codecs) (inner out : HttpResponse) : Prop where
  status : out.statusCode = inner.statusCode
  content : codecs.decode (valuesOf "content-encoding" out.headers) out.body =
    codecs.decode (valuesOf "content-encoding" inner.headers) inner.body
  measured : Measured out
  kept : ∀ name ∈ inner.headers.map Prod.fst, name ≠ "content-length" → name ≠ "vary" →
    (valuesOf name out.headers).Perm (valuesOf name inner.headers)
  vary : (valuesOf "vary" out.headers).Perm (valuesOf "vary" inner.headers) ∨
    (valuesOf "vary" out.headers).Perm ("Accept-Encoding" :: valuesOf "vary" inner.headers)

/-- The response is handed on as it is. -/
def HandedOn (m : CompressionMiddleware) (limit : Option ℕ) (acceptEncoding : Option String) (r : HttpResponse) : Prop :=
  m.shouldCompress acceptEncoding = none ∨ skipCompression r = true ∨ m.declaredShort limit r = .ok true

/-- What a response must be for another one to be built of it: there is no length, no field is repeated, and if it is
long enough to be compressed, `deflate` is not asked for. If it is compressed, a second `Vary` is made up for if it is
`Accept-Encoding`. -/
structure Rebuildable (m : CompressionMiddleware) (algorithm : String) (r : HttpResponse) : Prop where
  unmeasured : valuesOf "content-length" r.headers = []
  single : ∀ name ∈ r.headers.map Prod.fst, name ≠ "vary" → (valuesOf name r.headers).length ≤ 1
  vary : (valuesOf "vary" r.headers).length ≤ 1 ∨
    m.minimumSize ≤ r.body.length ∧ ∃ first, valuesOf "vary" r.headers = [first, "Accept-Encoding"]
  coding : (r.body.length : ℤ) < m.minimumSize ∨ algorithm ≠ "deflate"

/-! ### Fields -/

section Fields

variable {name value : String} {headers rest : Headers}

lemma valuesOf_append : valuesOf name (headers ++ rest) = valuesOf name headers ++ valuesOf name rest := by
  simp [valuesOf]

lemma valuesOf_cons : valuesOf name ((name, value) :: headers) = value :: valuesOf name headers := by simp [valuesOf]

lemma valuesOf_cons_of_ne {other : String} (h : other ≠ name) :
    valuesOf name ((other, value) :: headers) = valuesOf name headers := by simp [valuesOf, h]

lemma valuesOf_eq_nil : valuesOf name headers = [] ↔ name ∉ headers.map Prod.fst := by
  unfold valuesOf
  rw [List.map_eq_nil_iff, List.filter_eq_nil_iff, List.mem_map]
  constructor
  · rintro h ⟨field, hfield, rfl⟩
    exact h field hfield (beq_self_eq_true _)
  · intro h field hfield hname
    exact h ⟨field, hfield, beq_iff_eq.1 hname⟩

lemma lookup_eq_head? : headers.lookup name = (valuesOf name headers).head? := by
  induction headers with
  | nil => rfl
  | cons field headers ih =>
    obtain ⟨other, value⟩ := field
    rw [Value.lookup_cons_eq]
    by_cases h : name = other
    · rw [if_pos h, h, valuesOf_cons, List.head?_cons]
    · rw [if_neg h, ih, valuesOf_cons_of_ne fun e => h e.symm]

lemma toLower_of_isUpper {c : Char} (h : c.isUpper = false) : c.toLower = c := by
  unfold Char.toLower
  rw [dif_neg]
  intro hupper
  have htrue : c.isUpper = true := decide_eq_true hupper
  rw [htrue] at h
  cases h

/-- The names of fields are in small letters. -/
lemma toLower_of_isFieldName (h : isFieldName name = true) : name.toLower = name := by
  refine String.toList_injective ?_
  have hlist : name.toLower.toList = name.toList.map Char.toLower := String.toList_map
  rw [hlist]
  refine (List.map_congr_left fun c hc => ?_).trans (List.map_id' _)
  have hc := List.all_eq_true.1 h c hc
  rw [Bool.and_eq_true, Bool.not_eq_true'] at hc
  exact toLower_of_isUpper hc.2

lemma denotes_toString (n : ℕ) : Denotes (toString n) n := by
  have hlist : (toString n).toList = Nat.toDigits 10 n := Nat.toList_repr
  refine ⟨fun hempty => ?_, ?_, ?_⟩
  · rw [hempty] at hlist
    exact Nat.toDigits_ne_nil hlist.symm
  · rw [hlist]
    exact List.all_eq_true.2 fun c hc => Nat.isDigit_of_mem_toDigits (by decide) (by decide) hc
  · rw [hlist, Nat.ofDigitChars_ten_toDigits]

end Fields

/-! ### The dictionary -/

section Dictionary

variable {name : String} {headers : Headers}

/-- **Of the fields with one name the first is left.** -/
lemma valuesOf_dictOf (hnames : ∀ field ∈ headers, isFieldName field.1 = true) :
    valuesOf name (dictOf headers) = (valuesOf name headers).take 1 := by
  have hlookup : (dictOf headers).lookup name = (valuesOf name headers).head? := by
    unfold dictOf
    rw [Value.lookup_foldl_setItem, List.filter_map, List.map_map, List.getLast?_map]
    show ((headers.filter fun field => field.1 == name).getLast?.map _).or _ = _
    cases hlast : (headers.filter fun field => field.1 == name).getLast? with
    | none =>
      have hnil : valuesOf name headers = [] := by
        unfold valuesOf
        rw [List.getLast?_eq_none_iff.1 hlast]
        rfl
      rw [hnil]
      rfl
    | some last =>
      obtain ⟨hmem, hname⟩ := List.mem_filter.1 (List.mem_of_getLast? hlast)
      have hget : getHeader last.1 headers = (valuesOf name headers).head? := by
        unfold getHeader
        rw [toLower_of_isFieldName (hnames last hmem), beq_iff_eq.1 hname, lookup_eq_head?]
      have hne : valuesOf name headers ≠ [] := fun hnil =>
        valuesOf_eq_nil.1 hnil (beq_iff_eq.1 hname ▸ List.mem_map_of_mem hmem)
      obtain ⟨first, rest, hvalues⟩ := List.exists_cons_of_ne_nil hne
      rw [Option.map_some, Option.some_or, Function.comp_apply, hget, hvalues]
      rfl
  have hkeys : ((dictOf headers).map Prod.fst).Nodup := Value.nodup_foldl_setItem _ (by simp)
  show ((dictOf headers).filter fun field => field.1 == name).map Prod.snd = _
  rw [Value.filter_of_nodup hkeys, hlookup]
  cases valuesOf name headers <;> rfl

lemma mem_of_mem_dictOf (hnames : ∀ field ∈ headers, isFieldName field.1 = true)
    (h : name ∈ (dictOf headers).map Prod.fst) : name ∈ headers.map Prod.fst := by
  by_contra hnone
  refine valuesOf_eq_nil.1 ?_ h
  rw [valuesOf_dictOf hnames, valuesOf_eq_nil.2 hnone]
  rfl

lemma isFieldName_of_mem_dictOf (hnames : ∀ field ∈ headers, isFieldName field.1 = true)
    (h : name ∈ (dictOf headers).map Prod.fst) : isFieldName name = true := by
  obtain ⟨field, hfield, rfl⟩ := List.mem_map.1 (mem_of_mem_dictOf hnames h)
  exact hnames field hfield

/-- A name with a capital is none of its keys. -/
lemma notMem_dictOf (hnames : ∀ field ∈ headers, isFieldName field.1 = true) (hname : isFieldName name = false) :
    name ∉ (dictOf headers).map Prod.fst := by
  intro h
  rw [isFieldName_of_mem_dictOf hnames h] at hname
  cases hname

lemma map_toLower_dictOf (hnames : ∀ field ∈ headers, isFieldName field.1 = true) :
    (dictOf headers).map (fun field => (field.1.toLower, field.2)) = dictOf headers := by
  refine (List.map_congr_left fun field hfield => ?_).trans (List.map_id' _)
  rw [toLower_of_isFieldName (isFieldName_of_mem_dictOf hnames (List.mem_map_of_mem hfield))]

end Dictionary

/-! ### The response that is built -/

/-- The fields of the dictionary, and those that are set. -/
def withFields (r : HttpResponse) (content : Bytes) (coding gained : List String) : HttpResponse where
  statusCode := r.statusCode
  headers := dictOf r.headers ++ (("content-length", toString content.length) ::
    (coding.map (Prod.mk "content-encoding") ++ gained.map (Prod.mk "vary")))
  chunks := [content]

section Rebuilt

variable {m : CompressionMiddleware} {codecs : Codecs} {algorithm : String} {r : HttpResponse}
  {content : Bytes} {coding gained : List String}

lemma rebuilt_short (hnames : ∀ field ∈ r.headers, isFieldName field.1 = true)
    (hshort : (r.body.length : ℤ) < m.minimumSize) : m.rebuilt codecs algorithm r = withFields r r.body [] [] := by
  have hlength : Value.setItem "Content-Length" (toString r.body.length) (dictOf r.headers) =
      dictOf r.headers ++ [("Content-Length", toString r.body.length)] := by
    conv_lhs => rw [← List.append_nil (dictOf r.headers)]
    exact Value.setItem_append (notMem_dictOf hnames (by decide)) []
  have hlower : "Content-Length".toLower = "content-length" := by decide +kernel
  unfold CompressionMiddleware.rebuilt newResponse withFields
  dsimp only
  rw [if_pos hshort, hlength, List.map_append, map_toLower_dictOf hnames, List.map_singleton, hlower]
  rfl

lemma rebuilt_long (hnames : ∀ field ∈ r.headers, isFieldName field.1 = true)
    (hlong : ¬(r.body.length : ℤ) < m.minimumSize) : m.rebuilt codecs algorithm r =
      withFields r (m.compress codecs algorithm r.body) [algorithm] ["Accept-Encoding"] := by
  have hset : ∀ key value rest, isFieldName key = false →
      Value.setItem key value (dictOf r.headers ++ rest) = dictOf r.headers ++ Value.setItem key value rest :=
    fun key value rest hkey => Value.setItem_append (notMem_dictOf hnames hkey) rest
  have hlower : "Content-Length".toLower = "content-length" ∧ "Content-Encoding".toLower = "content-encoding" ∧
      "Vary".toLower = "vary" := by decide +kernel
  unfold CompressionMiddleware.rebuilt newResponse withFields
  dsimp only
  rw [if_neg hlong, ← List.append_nil (dictOf r.headers), hset _ _ _ (by decide), hset _ _ _ (by decide),
    hset _ _ _ (by decide), hset _ _ _ (by decide), List.map_append, map_toLower_dictOf hnames, List.append_nil]
  congr 1
  congr 1
  simp [Value.setItem, hlower]

lemma valuesOf_withFields {name : String} (hnames : ∀ field ∈ r.headers, isFieldName field.1 = true)
    (hlength : name ≠ "content-length") : valuesOf name (withFields r content coding gained).headers =
      (valuesOf name r.headers).take 1 ++ ((if name = "content-encoding" then coding else []) ++
        if name = "vary" then gained else []) := by
  have hmap : ∀ (key : String) (xs : List String), valuesOf name (xs.map (Prod.mk key)) = if name = key then xs else [] := by
    intro key xs
    by_cases h : name = key
    · rw [if_pos h]
      simp [valuesOf, List.filter_map, Function.comp_def, h]
    · rw [if_neg h, valuesOf_eq_nil]
      simp [h]
  unfold withFields
  rw [valuesOf_append, valuesOf_dictOf hnames, valuesOf_cons_of_ne fun e => hlength e.symm, valuesOf_append, hmap, hmap]

lemma valuesOf_length_withFields (hnames : ∀ field ∈ r.headers, isFieldName field.1 = true) :
    valuesOf "content-length" (withFields r content coding gained).headers =
      (valuesOf "content-length" r.headers).take 1 ++ [toString content.length] := by
  have hnone : valuesOf "content-length"
      (coding.map (Prod.mk "content-encoding") ++ gained.map (Prod.mk "vary")) = [] := valuesOf_eq_nil.2 (by simp)
  unfold withFields
  rw [valuesOf_append, valuesOf_dictOf hnames, valuesOf_cons, hnone]

/-- The length that is set is the only one if there was none. -/
lemma measured_withFields_iff (hnames : ∀ field ∈ r.headers, isFieldName field.1 = true) :
    Measured (withFields r content coding gained) ↔ valuesOf "content-length" r.headers = [] := by
  unfold Measured
  rw [valuesOf_length_withFields hnames]
  constructor
  · rintro ⟨value, hvalues, -⟩
    have hlength := congrArg List.length hvalues
    rw [List.length_append, List.length_take, List.length_singleton, List.length_singleton] at hlength
    exact List.eq_nil_of_length_eq_zero (by omega)
  · intro hnone
    refine ⟨toString content.length, by rw [hnone]; rfl, ?_⟩
    have hbody : (withFields r content coding gained).body = content := by simp [HttpResponse.body, withFields]
    rw [hbody]
    exact denotes_toString content.length

lemma take_one_perm_iff {α : Type} {l : List α} : (l.take 1).Perm l ↔ l.length ≤ 1 := by
  constructor
  · intro h
    have hlength := h.length_eq
    rw [List.length_take] at hlength
    omega
  · intro h
    rw [List.take_of_length_le h]

/-- **What a response loses**, of which another one is built that has no `Content-Encoding` before. -/
lemma transparent_withFields_iff (hnames : ∀ field ∈ r.headers, isFieldName field.1 = true)
    (hcoding : valuesOf "content-encoding" r.headers = []) :
    Transparent codecs r (withFields r content coding gained) ↔
      codecs.decode coding content = some r.body ∧ valuesOf "content-length" r.headers = [] ∧
      (∀ name ∈ r.headers.map Prod.fst, name ≠ "vary" → (valuesOf name r.headers).length ≤ 1) ∧
      (((valuesOf "vary" r.headers).take 1 ++ gained).Perm (valuesOf "vary" r.headers) ∨
        ((valuesOf "vary" r.headers).take 1 ++ gained).Perm ("Accept-Encoding" :: valuesOf "vary" r.headers)) := by
  have hbody : (withFields r content coding gained).body = content := by simp [HttpResponse.body, withFields]
  have hvary : valuesOf "vary" (withFields r content coding gained).headers =
      (valuesOf "vary" r.headers).take 1 ++ gained := by
    rw [valuesOf_withFields hnames (by decide), if_neg (by decide), if_pos rfl, List.nil_append]
  have hcontent : valuesOf "content-encoding" (withFields r content coding gained).headers = coding := by
    rw [valuesOf_withFields hnames (by decide), if_pos rfl, if_neg (by decide), hcoding, List.append_nil]
    rfl
  have hother : ∀ name ∈ r.headers.map Prod.fst, name ≠ "content-length" → name ≠ "vary" →
      valuesOf name (withFields r content coding gained).headers = (valuesOf name r.headers).take 1 := by
    intro name hmem hlength hname
    have hne : name ≠ "content-encoding" := by
      rintro rfl
      exact valuesOf_eq_nil.1 hcoding hmem
    rw [valuesOf_withFields hnames hlength, if_neg hne, if_neg hname, List.append_nil, List.append_nil]
  constructor
  · intro h
    have hnone := (measured_withFields_iff hnames).1 h.measured
    refine ⟨?_, hnone, fun name hmem hname => ?_, ?_⟩
    · have hdecode := h.content
      rwa [hcontent, hbody, hcoding, codecs.decode_nil] at hdecode
    · by_cases hlength : name = "content-length"
      · rw [hlength, hnone]
        exact Nat.zero_le 1
      · have hkept := h.kept name hmem hlength hname
        rwa [hother name hmem hlength hname, take_one_perm_iff] at hkept
    · have hkept := h.vary
      rwa [hvary] at hkept
  · rintro ⟨hdecode, hnone, hsingle, hkept⟩
    refine ⟨rfl, ?_, (measured_withFields_iff hnames).2 hnone, fun name hmem hlength hname => ?_, ?_⟩
    · rw [hcontent, hbody, hcoding, codecs.decode_nil, hdecode]
    · rw [hother name hmem hlength hname, take_one_perm_iff]
      exact hsingle name hmem hname
    · rwa [hvary]

end Rebuilt

/-! ### When nothing is lost -/

section Result

variable {m : CompressionMiddleware} {codecs : Codecs} {limit : Option ℕ} {acceptEncoding : Option String}
  {algorithm : String} {r : HttpResponse}

/-- What becomes of the fields `Vary`, if nothing is added. -/
lemma vary_short_iff {vary : List String} :
    (vary.take 1 ++ []).Perm vary ∨ (vary.take 1 ++ []).Perm ("Accept-Encoding" :: vary) ↔ vary.length ≤ 1 := by
  rw [List.append_nil, take_one_perm_iff]
  refine or_iff_left_of_imp fun h => ?_
  have hlength := h.length_eq
  rw [List.length_take, List.length_cons] at hlength
  omega

/-- And if `Accept-Encoding` is. -/
lemma vary_long_iff {vary : List String} :
    (vary.take 1 ++ ["Accept-Encoding"]).Perm vary ∨
        (vary.take 1 ++ ["Accept-Encoding"]).Perm ("Accept-Encoding" :: vary) ↔
      vary.length ≤ 1 ∨ ∃ first, vary = [first, "Accept-Encoding"] := by
  match vary with
  | [] => simp
  | [first] => exact iff_of_true (.inr List.perm_append_comm) (.inl le_rfl)
  | [first, second] =>
    have hsecond : (∃ x, [first, second] = [x, "Accept-Encoding"]) ↔ "Accept-Encoding" = second := by
      simp [eq_comm]
    have hlong : ¬[first, "Accept-Encoding"].Perm ["Accept-Encoding", first, second] :=
      fun h => absurd h.length_eq (by simp)
    rw [hsecond]
    simp [hlong]
  | first :: second :: third :: rest =>
    constructor
    · rintro (h | h)
      · exact absurd h.length_eq (by simp)
      · exact absurd h.length_eq (by simp)
    · rintro (h | ⟨x, h⟩)
      · simp at h
      · simp at h

lemma mem_preference (h : m.shouldCompress acceptEncoding = some algorithm) : algorithm ∈ preference := by
  unfold CompressionMiddleware.shouldCompress at h
  split at h
  · rw [parseAcceptEncoding_eq] at h
    split at h
    · cases h
    · exact List.mem_of_find?_eq_some h
  · cases h

/-- **What is compressed can be decoded** unless it is called `deflate`. -/
lemma decode_compress_iff (halgorithm : algorithm ∈ preference) (body : Bytes) :
    codecs.decode [algorithm] (m.compress codecs algorithm body) = some body ↔ algorithm ≠ "deflate" := by
  have hcases : algorithm = "br" ∨ algorithm = "gzip" ∨ algorithm = "deflate" := by simpa [preference] using halgorithm
  unfold CompressionMiddleware.compress
  rcases hcases with rfl | rfl | rfl
  · exact iff_of_true (codecs.decode_brotli _ _) (by decide)
  · exact iff_of_true (codecs.decode_gzip _ _) (by decide)
  · rw [if_neg (by decide), if_pos (.inr rfl)]
    refine iff_of_false (fun h => ?_) (by simp)
    obtain ⟨rest, hmagic⟩ := codecs.gzip_magic m.compresslevel body
    rw [hmagic] at h
    exact absurd (codecs.deflate_check _ _ _ _ h) (by decide)

/-- **When another response loses nothing.** -/
lemma transparent_rebuilt_iff (hnames : ∀ field ∈ r.headers, isFieldName field.1 = true)
    (hskip : skipCompression r = false) (halgorithm : algorithm ∈ preference) :
    Transparent codecs r (m.rebuilt codecs algorithm r) ↔ Rebuildable m algorithm r := by
  have hcoding : valuesOf "content-encoding" r.headers = [] := by
    have hnone : (getHeader "content-encoding" r.headers).isSome = false := by
      unfold skipCompression at hskip
      simp only [Bool.or_eq_false_iff] at hskip
      exact hskip.1.1.2
    have hlower : "content-encoding".toLower = "content-encoding" := toLower_of_isFieldName (by decide)
    unfold getHeader at hnone
    rw [hlower, lookup_eq_head?] at hnone
    cases hvalues : valuesOf "content-encoding" r.headers with
    | nil => rfl
    | cons value rest =>
      rw [hvalues] at hnone
      cases hnone
  by_cases hshort : (r.body.length : ℤ) < m.minimumSize
  · rw [rebuilt_short hnames hshort, transparent_withFields_iff hnames hcoding, vary_short_iff]
    constructor
    · rintro ⟨-, hnone, hsingle, hvary⟩
      exact ⟨hnone, hsingle, .inl hvary, .inl hshort⟩
    · rintro ⟨hnone, hsingle, hvary, -⟩
      exact ⟨codecs.decode_nil _, hnone, hsingle, hvary.resolve_right fun h => absurd h.1 (not_le.2 hshort)⟩
  · rw [rebuilt_long hnames hshort, transparent_withFields_iff hnames hcoding, vary_long_iff,
      decode_compress_iff halgorithm]
    constructor
    · rintro ⟨hdecode, hnone, hsingle, hvary⟩
      exact ⟨hnone, hsingle, hvary.imp_right fun h => ⟨not_lt.1 hshort, h⟩, .inr hdecode⟩
    · rintro ⟨hnone, hsingle, hvary, hdecode⟩
      exact ⟨hdecode.resolve_left hshort, hnone, hsingle, hvary.imp_right And.right⟩

/-- A length that cannot be read is a length. -/
lemma valuesOf_length_ne_nil {e : BuiltinError} (h : m.declaredShort limit r = .error e) :
    valuesOf "content-length" r.headers ≠ [] := by
  have hlower : "content-length".toLower = "content-length" := toLower_of_isFieldName (by decide)
  intro hnil
  unfold CompressionMiddleware.declaredShort getHeader at h
  rw [hlower, lookup_eq_head?, hnil] at h
  cases h

/-- What is handed on loses nothing, and is right if it was. -/
lemma transparent_self_iff : Transparent codecs r r ↔ Measured r :=
  ⟨Transparent.measured, fun h => ⟨rfl, rfl, h, fun _ _ _ _ => List.Perm.refl _, .inl (List.Perm.refl _)⟩⟩

end Result

/-- **When nothing is lost**, whatever is asked for: a response that is handed on must have its length, and one that is
not must have none, and no field twice, and may not be sent as `deflate`. -/
theorem transparent_iff (m : CompressionMiddleware) (codecs : Codecs) (limit : Option ℕ) (acceptEncoding : Option String)
    (inner : AsgiResponse) :
    (∃ out, m.dispatch codecs limit acceptEncoding inner.val = .ok out ∧ Transparent codecs inner.val out) ↔
      (HandedOn m limit acceptEncoding inner.val → Measured inner.val) ∧
      (¬HandedOn m limit acceptEncoding inner.val →
        ∀ algorithm ∈ m.shouldCompress acceptEncoding, Rebuildable m algorithm inner.val) := by
  obtain ⟨r, hnames⟩ := inner
  dsimp only
  have hpassed : ∀ {P : Prop}, m.dispatch codecs limit acceptEncoding r = .ok r → HandedOn m limit acceptEncoding r →
      ((∃ out, m.dispatch codecs limit acceptEncoding r = .ok out ∧ Transparent codecs r out) ↔
        (HandedOn m limit acceptEncoding r → Measured r) ∧ (¬HandedOn m limit acceptEncoding r → P)) := by
    intro P hdispatch hon
    rw [and_iff_left fun h => absurd hon h, forall_prop_of_true hon, ← @transparent_self_iff codecs r, hdispatch]
    constructor
    · rintro ⟨out, hout, h⟩
      exact Except.ok.inj hout ▸ h
    · exact fun h => ⟨r, rfl, h⟩
  cases halgorithm : m.shouldCompress acceptEncoding with
  | none =>
    rw [← halgorithm]
    refine hpassed ?_ (.inl halgorithm)
    unfold CompressionMiddleware.dispatch
    rw [halgorithm]
  | some algorithm =>
    rw [← halgorithm]
    cases hskip : skipCompression r with
    | true =>
      refine hpassed ?_ (.inr (.inl hskip))
      unfold CompressionMiddleware.dispatch
      rw [halgorithm]
      exact if_pos hskip
    | false =>
      have hdispatch : m.dispatch codecs limit acceptEncoding r = (do
          if ← m.declaredShort limit r then return r else return m.rebuilt codecs algorithm r) := by
        unfold CompressionMiddleware.dispatch
        rw [halgorithm]
        exact if_neg (by rw [hskip]; exact Bool.false_ne_true)
      have hbuilt : m.declaredShort limit r ≠ .ok true → ¬HandedOn m limit acceptEncoding r := by
        rintro hlong (h | h | h)
        · cases halgorithm.symm.trans h
        · cases hskip.symm.trans h
        · exact hlong h
      cases hshort : m.declaredShort limit r with
      | error e =>
        rw [hshort] at hdispatch hbuilt
        refine iff_of_false ?_ ?_
        · rintro ⟨out, hout, -⟩
          cases hdispatch.symm.trans hout
        · rintro ⟨-, h⟩
          exact valuesOf_length_ne_nil hshort (h (hbuilt nofun) algorithm halgorithm).unmeasured
      | ok short =>
        rw [hshort] at hdispatch hbuilt
        cases short with
        | true => exact hpassed hdispatch (.inr (.inr hshort))
        | false =>
          have hnot := hbuilt nofun
          rw [and_iff_right fun h => absurd h hnot, forall_prop_of_true hnot, hdispatch, halgorithm]
          constructor
          · rintro ⟨out, hout, h⟩ algorithm' halgorithm'
            obtain rfl := Except.ok.inj hout
            obtain rfl := Option.some.inj halgorithm'
            exact (transparent_rebuilt_iff hnames hskip (mem_preference halgorithm)).1 h
          · intro h
            exact ⟨_, rfl, (transparent_rebuilt_iff hnames hskip (mem_preference halgorithm)).2 (h algorithm rfl)⟩

namespace Sample

/-- A page of 2000 letters. -/
def letters : Bytes := List.replicate 2000 97

/-- What `gzip` makes of it, at the level 6 and without a time. -/
def lettersGzip : Bytes :=
  [31, 139, 8, 0, 0, 0, 0, 0, 0, 3, 75, 76, 28, 5, 163, 96, 20, 140, 130, 81, 48, 10, 70, 193, 80, 7, 0, 57, 62, 19,
    168, 208, 7, 0, 0]

/-- Other bodies than that page are only framed. -/
def frames : Codecs where
  brotli _ b := 0x0b :: b
  gzip _ b := if b = letters then lettersGzip else 0x1f :: 0x8b :: 0xff :: b
  decode encodings b :=
    match encodings, b with
    | [], b => some b
    | ["br"], _ :: b => some b
    | ["gzip"], 0x1f :: 0x8b :: 0xff :: b => some b
    | ["gzip"], b => if b = lettersGzip then some letters else none
    | _, _ => none
  decode_nil _ := rfl
  decode_brotli _ _ := rfl
  decode_gzip level b := by
    by_cases h : b = letters
    · rw [if_pos h, h]
      rfl
    · rw [if_neg h]
      rfl
  gzip_magic level b := by
    split
    · exact ⟨_, rfl⟩
    · exact ⟨_, rfl⟩
  deflate_check cmf flg rest b h := by cases h

/-- A page as `Response` has it, with its length. -/
def page : AsgiResponse :=
  ⟨{ statusCode := 200, headers := [("content-length", "2000"), ("content-type", "text/plain; charset=utf-8")],
     chunks := [letters] }, by decide⟩

end Sample

open Sample in
/-- A page with its length gets another one. -/
theorem two_lengths :
    ∃ out, CompressionMiddleware.dispatch {} frames (some 4300) (some "gzip") page.val = .ok out ∧
      valuesOf "content-length" out.headers = ["2000", "35"] ∧ ¬Transparent frames page.val out := by
  have hchosen : CompressionMiddleware.shouldCompress {} (some "gzip") = some "gzip" := by decide +kernel
  have hskip : skipCompression page.val = false := by decide +kernel
  have hdeclared : CompressionMiddleware.declaredShort {} (some 4300) page.val = .ok false := by decide +kernel
  have hlong : ¬(page.val.body.length : ℤ) < ({} : CompressionMiddleware).minimumSize := by decide +kernel
  have hvalues : valuesOf "content-length" (CompressionMiddleware.rebuilt {} frames "gzip" page.val).headers =
      ["2000", "35"] := by
    rw [rebuilt_long page.property hlong, valuesOf_length_withFields page.property]
    decide +kernel
  refine ⟨CompressionMiddleware.rebuilt {} frames "gzip" page.val, ?_, hvalues, fun h => ?_⟩
  · unfold CompressionMiddleware.dispatch
    rw [hchosen]
    dsimp only
    rw [if_neg (by rw [hskip]; exact Bool.false_ne_true), hdeclared]
    rfl
  · obtain ⟨value, hvalue, -⟩ := h.measured
    rw [hvalues] at hvalue
    cases hvalue

end FastapiTemplate.Middleware
