import FastapiTemplate.Python.Text

/-!
# Which encoding a response is compressed with

`_parse_accept_encoding` cuts the header at commas and semicolons and compares what is left. It never reads a weight,
and what it compares is the name of a coding only if the name is in small letters and no blank stands before the
semicolon. `negotiates_iff` says for which headers of the grammar the choice is right nevertheless.
-/

namespace FastapiTemplate.Middleware

open Python

/-! ### The choice -/

/-- The encodings that can be chosen, the preferred one first. -/
def preference : List String := ["br", "gzip", "deflate"]

/-- `encodings` -/
def encodings (acceptEncoding : String) : List String :=
  (split ',' acceptEncoding).map fun e => (split ';' (strip e)).headD ""

def parseAcceptEncoding (acceptEncoding : String) : Option String :=
  if (encodings acceptEncoding).contains "identity" then none
  else if (encodings acceptEncoding).contains "br" then some "br"
  else if (encodings acceptEncoding).contains "gzip" then some "gzip"
  else if (encodings acceptEncoding).contains "deflate" then some "deflate"
  else none

/-! ### The header -/

/-- Optional blanks. -/
abbrev Blanks : Type := { cs : List Char // ∀ c ∈ cs, c = ' ' ∨ c = '\t' }

/-- The characters of a token. -/
def isTchar (c : Char) : Bool := c.isAlphanum || "!#$%&'*+-.^_|~".toList.contains c || c == Char.ofNat 96

/-- The name of a coding, or `*`. -/
abbrev Token : Type := { s : String // s ≠ "" ∧ s.toList.all isTchar = true }

/-- A weight, with at most three decimals. -/
inductive Qvalue where
  | zero (decimals : Option { ds : List (Fin 10) // ds.length ≤ 3 })
  | one (zeros : Option (Fin 4))

def Qvalue.text : Qvalue → List Char
  | .zero none => ['0']
  | .zero (some ds) => '0' :: '.' :: ds.val.map fun d : Fin 10 => Nat.digitChar d.val
  | .one none => ['1']
  | .one (some zeros) => '1' :: '.' :: List.replicate zeros '0'

/-- The weight in thousandths. -/
def Qvalue.thousandths : Qvalue → ℕ
  | .zero none => 0
  | .zero (some ds) => (List.zipWith (fun (d : Fin 10) (unit : ℕ) => d.val * unit) ds.val [100, 10, 1]).sum
  | .one _ => 1000

example : (Qvalue.zero (some ⟨[0, 2, 5], by simp⟩)).thousandths = 25 := rfl

/-- `; q=0.5`, with the blanks around the semicolon. -/
structure Weight where
  before : Blanks
  after : Blanks
  capital : Bool := false
  qvalue : Qvalue

def Weight.text (w : Weight) : List Char :=
  w.before.val ++ ';' :: (w.after.val ++ (if w.capital then 'Q' else 'q') :: '=' :: w.qvalue.text)

/-- What stands between two commas: a coding, perhaps with a weight, or nothing. -/
structure Element where
  before : Blanks
  coding : Option (Token × Option Weight)
  after : Blanks

/-- The coding with its weight. -/
def codingText : Option (Token × Option Weight) → List Char
  | none => []
  | some (name, none) => name.val.toList
  | some (name, some w) => name.val.toList ++ w.text

def Element.text (e : Element) : String := String.ofList (e.before.val ++ codingText e.coding ++ e.after.val)

/-- The text of a header. -/
def headerText (header : List Element) : String := ",".intercalate (header.map Element.text)

/-! ### What the header asks for -/

/-- The header lists the coding with this weight; letter case does not matter. -/
def Lists (header : List Element) (coding : String) (thousandths : ℕ) : Prop :=
  ∃ e ∈ header, ∃ name weight, e.coding = some (name, weight) ∧ name.val.toLower = coding ∧
    weight.elim 1000 (fun w => w.qvalue.thousandths) = thousandths

/-- The encoding is acceptable to the client. -/
def Acceptable (header : List Element) (encoding : String) : Prop :=
  (∃ q > 0, Lists header encoding q) ∨ ((∃ q > 0, Lists header "*" q) ∧ ¬Lists header encoding 0)

/-- **The choice is right**: what is chosen is acceptable, and something is chosen if one of the encodings is wanted and
`identity` is not listed. -/
structure Negotiates (header : List Element) : Prop where
  acceptable : ∀ encoding, parseAcceptEncoding (headerText header) = some encoding → Acceptable header encoding
  chosen : (∃ encoding ∈ preference, ∃ q > 0, Lists header encoding q) → (¬∃ q, Lists header "identity" q) →
    ∃ encoding, parseAcceptEncoding (headerText header) = some encoding

/-! ### When the choice is right -/

/-- The header has the name as it stands here, with no blank before the semicolon. -/
def Spells (header : List Element) (coding : String) : Prop :=
  ∃ e ∈ header, ∃ name weight, e.coding = some (name, weight) ∧ name.val = coding ∧
    ∀ w, weight = some w → w.before.val = []

/-- The first of the encodings, in the order of preference, that the header spells so. -/
def Prefers (header : List Element) (encoding : String) : Prop :=
  Spells header encoding ∧
    ∃ earlier later, preference = earlier ++ encoding :: later ∧ ∀ other ∈ earlier, ¬Spells header other

/-- Unless `identity` is spelled so, the first encoding that is has a positive weight somewhere; and if one has a
positive weight, and `identity` is not listed, then one is spelled so. -/
structure Plain (header : List Element) : Prop where
  positive : ¬Spells header "identity" → ∀ encoding, Prefers header encoding → ∃ q > 0, Lists header encoding q
  spelled : (∃ encoding ∈ preference, ∃ q > 0, Lists header encoding q) → (¬∃ q, Lists header "identity" q) →
    ∃ encoding ∈ preference, Spells header encoding

/-! ### Reading the header -/

section Reading

variable {header : List Element} {c : Char}

lemma toNat_of_isTchar (h : isTchar c = true) : 33 ≤ c.toNat ∧ c.toNat ≤ 126 := by
  unfold isTchar at h
  rcases Bool.or_eq_true_iff.1 h with h | hbacktick
  · rcases Bool.or_eq_true_iff.1 h with halnum | hother
    · have hrange := toNat_of_isAlphanum halnum
      omega
    · have hall : ("!#$%&'*+-.^_|~".toList.all fun d => decide (33 ≤ d.toNat) && decide (d.toNat ≤ 126)) = true := by
        decide
      simpa using List.all_eq_true.1 hall c (List.contains_iff_mem.1 hother)
  · rw [beq_iff_eq.1 hbacktick]
    decide

lemma isTchar_of_mem {name : Token} (h : c ∈ name.val.toList) : isTchar c = true :=
  List.all_eq_true.1 name.property.2 c h

/-- A character of a token is no separator and no blank. -/
lemma ne_of_mem {name : Token} {d : Char} (h : c ∈ name.val.toList) (hd : isTchar d = false) : c ≠ d := by
  rintro rfl
  rw [isTchar_of_mem h] at hd
  cases hd

lemma isWhitespace_of_isTchar (h : isTchar c = true) : isWhitespace c = false :=
  isWhitespace_of_visible (toNat_of_isTchar h).1 (toNat_of_isTchar h).2

/-- The digits and the point of a weight are characters of tokens too. -/
lemma isTchar_of_mem_qvalue {q : Qvalue} (h : c ∈ q.text) : isTchar c = true := by
  have hdigit : ∀ d : Fin 10, isTchar (Nat.digitChar d) = true := by decide
  cases q with
  | zero decimals =>
    cases decimals with
    | none =>
      rw [List.mem_singleton.1 h]
      decide
    | some ds =>
      simp only [Qvalue.text, List.mem_cons, List.mem_map] at h
      rcases h with rfl | rfl | ⟨d, -, rfl⟩
      · decide
      · decide
      · exact hdigit d
  | one zeros =>
    cases zeros with
    | none =>
      rw [List.mem_singleton.1 h]
      decide
    | some n =>
      simp only [Qvalue.text, List.mem_cons, List.mem_replicate] at h
      rcases h with rfl | rfl | ⟨-, rfl⟩
      · decide
      · decide
      · decide

lemma qvalue_ne_nil (q : Qvalue) : q.text ≠ [] := by
  rcases q with (_ | ds) | (_ | n) <;> exact List.cons_ne_nil _ _

/-- What `encodings` makes of an element: the name, with the blanks before the semicolon. -/
def spelling : Option (Token × Option Weight) → String
  | none => ""
  | some (name, none) => name.val
  | some (name, some w) => name.val ++ String.ofList w.before.val

lemma isWhitespace_of_blank (h : c = ' ' ∨ c = '\t') : isWhitespace c = true := by
  rcases h with rfl | rfl <;> decide

lemma isWhitespace_head (coding : Option (Token × Option Weight)) :
    ∀ c ∈ (codingText coding).head?, isWhitespace c = false := by
  intro c hc
  have htoken : ∀ {name : Token} {cs : List Char}, c ∈ (name.val.toList ++ cs).head? → isWhitespace c = false := by
    intro name cs h
    obtain ⟨d, ds, hname⟩ : ∃ d ds, name.val.toList = d :: ds :=
      List.exists_cons_of_ne_nil fun e => name.property.1 (String.toList_eq_nil_iff.1 e)
    rw [hname, List.cons_append, List.head?_cons] at h
    cases h
    exact isWhitespace_of_isTchar (isTchar_of_mem (by rw [hname]; exact List.mem_cons_self))
  cases coding with
  | none => cases hc
  | some coding =>
    obtain ⟨name, _ | w⟩ := coding
    · have hname : c ∈ (name.val.toList ++ []).head? := by simpa [codingText] using hc
      exact htoken hname
    · exact htoken hc

lemma isWhitespace_last (coding : Option (Token × Option Weight)) :
    ∀ c ∈ (codingText coding).getLast?, isWhitespace c = false := by
  intro c hc
  cases coding with
  | none => cases hc
  | some coding =>
    obtain ⟨name, _ | w⟩ := coding
    · exact isWhitespace_of_isTchar (isTchar_of_mem (List.mem_of_getLast? hc))
    · have htext : codingText (some (name, some w)) = (name.val.toList ++ (w.before.val ++ ';' :: (w.after.val ++
          [if w.capital then 'Q' else 'q', '=']))) ++ w.qvalue.text := by
        simp [codingText, Weight.text]
      rw [htext, List.getLast?_append_of_ne_nil _ (qvalue_ne_nil _)] at hc
      exact isWhitespace_of_isTchar (isTchar_of_mem_qvalue (List.mem_of_getLast? hc))

lemma strip_text (e : Element) : strip e.text = String.ofList (codingText e.coding) := by
  unfold strip Element.text
  rw [String.toList_ofList, trim_append (fun c hc => isWhitespace_of_blank (e.before.property c hc))
    (fun c hc => isWhitespace_of_blank (e.after.property c hc)) (isWhitespace_head _) (isWhitespace_last _)]

lemma headD_split (coding : Option (Token × Option Weight)) :
    (split ';' (String.ofList (codingText coding))).headD "" = spelling coding := by
  cases coding with
  | none => rfl
  | some coding =>
    obtain ⟨name, _ | w⟩ := coding
    · have hname : ';' ∉ name.val.toList := fun h => absurd rfl (ne_of_mem h (by decide))
      rw [codingText, String.ofList_toList, split_of_notMem hname]
      rfl
    · have hname : ';' ∉ (name.val ++ String.ofList w.before.val).toList := by
        rw [String.toList_append, String.toList_ofList, List.mem_append]
        rintro (h | h)
        · exact absurd rfl (ne_of_mem h (by decide))
        · exact absurd (w.before.property _ h) (by decide)
      have htext : String.ofList (codingText (some (name, some w))) = (name.val ++ String.ofList w.before.val) ++
          String.singleton ';' ++
          String.ofList (w.after.val ++ (if w.capital then 'Q' else 'q') :: '=' :: w.qvalue.text) := by
        refine String.toList_injective ?_
        simp [codingText, Weight.text]
      rw [htext, split_append hname]
      rfl

lemma comma_notMem (e : Element) : ',' ∉ e.text.toList := by
  have hblanks : ∀ b : Blanks, ',' ∉ b.val := fun b h => absurd (b.property _ h) (by decide)
  have hname : ∀ name : Token, ',' ∉ name.val.toList := fun name h => absurd rfl (ne_of_mem h (by decide))
  have hqvalue : ∀ q : Qvalue, ',' ∉ q.text := fun q h => absurd (isTchar_of_mem_qvalue h) (by decide)
  have hq : ∀ w : Weight, ',' ≠ if w.capital then 'Q' else 'q' := fun w => by split <;> decide
  rcases e with ⟨before, _ | ⟨name, _ | w⟩, after⟩
  · simp [Element.text, codingText, hblanks]
  · simp [Element.text, codingText, hblanks, hname]
  · simp [Element.text, codingText, Weight.text, hblanks, hname, hqvalue, hq]

/-- **What the header is read as**: the spellings of its elements. -/
lemma encodings_headerText (hne : header ≠ []) :
    encodings (headerText header) = header.map fun e => spelling e.coding := by
  have hcommas : ∀ part ∈ header.map Element.text, ',' ∉ part.toList := by
    intro part hpart
    obtain ⟨e, -, rfl⟩ := List.mem_map.1 hpart
    exact comma_notMem e
  unfold encodings headerText
  rw [split_intercalate hcommas fun h => hne (List.map_eq_nil_iff.1 h), List.map_map]
  refine List.map_congr_left fun e _ => ?_
  rw [Function.comp_apply, strip_text, headD_split]

/-- A name without blanks is found if the header spells it. -/
lemma contains_encodings {coding : String} (hne : coding ≠ "") (hblank : coding.toList.all isTchar = true) :
    (encodings (headerText header)).contains coding = true ↔ Spells header coding := by
  rw [List.contains_iff_mem]
  by_cases hempty : header = []
  · have hnil : encodings (headerText []) = [""] := by decide +kernel
    rw [hempty, hnil]
    refine iff_of_false (fun h => hne ?_) ?_
    · exact List.mem_singleton.1 h
    · rintro ⟨e, he, -⟩
      cases he
  rw [encodings_headerText hempty, List.mem_map]
  constructor
  · rintro ⟨e, he, hspelling⟩
    rcases hcoding : e.coding with _ | ⟨name, _ | w⟩
    · rw [hcoding] at hspelling
      exact absurd hspelling.symm hne
    · rw [hcoding] at hspelling
      exact ⟨e, he, name, none, hcoding, hspelling, nofun⟩
    · rw [hcoding] at hspelling
      have hnone : w.before.val = [] := by
        refine List.eq_nil_iff_forall_not_mem.2 fun c hc => ?_
        have hmem : c ∈ coding.toList := by
          rw [← hspelling]
          simp [spelling, hc]
        have htchar := isWhitespace_of_isTchar (List.all_eq_true.1 hblank c hmem)
        rw [isWhitespace_of_blank (w.before.property c hc)] at htchar
        cases htchar
      refine ⟨e, he, name, some w, hcoding, ?_, fun w' hw => ?_⟩
      · rw [← hspelling, spelling, hnone]
        simp
      · cases hw
        exact hnone
  · rintro ⟨e, he, name, weight, hcoding, hname, hblanks⟩
    refine ⟨e, he, ?_⟩
    rw [hcoding]
    cases weight with
    | none => exact hname
    | some w =>
      rw [spelling, hblanks w rfl, hname]
      simp

lemma contains_of_mem_preference {encoding : String} (h : encoding ∈ preference) :
    (encodings (headerText header)).contains encoding = true ↔ Spells header encoding := by
  have hall : ∀ encoding ∈ preference, encoding ≠ "" ∧ encoding.toList.all isTchar = true := by decide
  exact contains_encodings (hall encoding h).1 (hall encoding h).2

/-- The tests of the code are a search. -/
lemma parseAcceptEncoding_eq (acceptEncoding : String) :
    parseAcceptEncoding acceptEncoding =
      if (encodings acceptEncoding).contains "identity" then none
      else preference.find? fun encoding => (encodings acceptEncoding).contains encoding := by
  unfold parseAcceptEncoding preference
  simp only [List.find?_cons, List.find?_nil]
  cases (encodings acceptEncoding).contains "br" <;> cases (encodings acceptEncoding).contains "gzip" <;>
    cases (encodings acceptEncoding).contains "deflate" <;> rfl

/-- **What is chosen**: nothing if `identity` is spelled, and otherwise the first of the encodings that is. -/
theorem parseAcceptEncoding_eq_some {encoding : String} :
    parseAcceptEncoding (headerText header) = some encoding ↔ ¬Spells header "identity" ∧ Prefers header encoding := by
  have hidentity : (encodings (headerText header)).contains "identity" = true ↔ Spells header "identity" :=
    contains_encodings (by decide) (by decide)
  rw [parseAcceptEncoding_eq, ← hidentity]
  split
  · rename_i h
    exact iff_of_false nofun fun hchosen => hchosen.1 h
  · rename_i h
    rw [List.find?_eq_some_iff_append]
    constructor
    · rintro ⟨hspells, earlier, later, hsplit, hearlier⟩
      have hmem : ∀ other ∈ earlier ++ encoding :: later, other ∈ preference := fun other hother => hsplit ▸ hother
      refine ⟨h, (contains_of_mem_preference (hmem encoding (by simp))).1 hspells, earlier, later, hsplit, ?_⟩
      intro other hother hspells
      have hfalse := hearlier other hother
      rw [(contains_of_mem_preference (hmem other (by simp [hother]))).2 hspells] at hfalse
      cases hfalse
    · rintro ⟨-, hspells, earlier, later, hsplit, hearlier⟩
      have hmem : ∀ other ∈ earlier ++ encoding :: later, other ∈ preference := fun other hother => hsplit ▸ hother
      refine ⟨(contains_of_mem_preference (hmem encoding (by simp))).2 hspells, earlier, later, hsplit, ?_⟩
      intro other hother
      rw [Bool.not_eq_true', ← Bool.not_eq_true, contains_of_mem_preference (hmem other (by simp [hother]))]
      exact hearlier other hother

lemma Prefers.mem {encoding : String} (h : Prefers header encoding) : encoding ∈ preference := by
  obtain ⟨-, earlier, later, hsplit, -⟩ := h
  rw [hsplit]
  simp

/-- If one of the encodings is spelled, there is a first one. -/
lemma exists_prefers (h : ∃ encoding ∈ preference, Spells header encoding) : ∃ encoding, Prefers header encoding := by
  classical
  obtain ⟨encoding, hmem, hspells⟩ := h
  have hsome : (preference.find? fun encoding => decide (Spells header encoding)).isSome = true :=
    List.find?_isSome.2 ⟨encoding, hmem, decide_eq_true hspells⟩
  obtain ⟨first, hfirst⟩ := Option.isSome_iff_exists.1 hsome
  obtain ⟨hspells, earlier, later, hsplit, hearlier⟩ := List.find?_eq_some_iff_append.1 hfirst
  exact ⟨first, of_decide_eq_true hspells, earlier, later, hsplit, by simpa using hearlier⟩

/-- A coding that is spelled is listed. -/
lemma Spells.lists {encoding : String} (h : Spells header encoding) (hmem : encoding ∈ preference) :
    ∃ q, Lists header encoding q := by
  have hlower : ∀ encoding ∈ preference, encoding.toLower = encoding := by decide +kernel
  obtain ⟨e, he, name, weight, hcoding, hname, -⟩ := h
  exact ⟨_, e, he, name, weight, hcoding, by rw [hname, hlower encoding hmem], rfl⟩

/-- `identity` that is spelled is listed. -/
lemma lists_identity (h : Spells header "identity") : ∃ q, Lists header "identity" q := by
  obtain ⟨e, he, name, weight, hcoding, hname, -⟩ := h
  exact ⟨_, e, he, name, weight, hcoding, by rw [hname]; decide +kernel, rfl⟩

end Reading

/-- **When the choice is right**, for every header of the grammar. -/
theorem negotiates_iff (header : List Element) : Negotiates header ↔ Plain header := by
  constructor
  · intro h
    refine ⟨fun hidentity encoding hprefers => ?_, fun hwanted hidentity => ?_⟩
    · obtain hpositive | ⟨-, hzero⟩ := h.acceptable encoding (parseAcceptEncoding_eq_some.2 ⟨hidentity, hprefers⟩)
      · exact hpositive
      · obtain ⟨q, hq⟩ := hprefers.1.lists hprefers.mem
        refine ⟨q, Nat.pos_of_ne_zero ?_, hq⟩
        rintro rfl
        exact hzero hq
    · obtain ⟨encoding, hencoding⟩ := h.chosen hwanted hidentity
      obtain ⟨-, hprefers⟩ := parseAcceptEncoding_eq_some.1 hencoding
      exact ⟨encoding, hprefers.mem, hprefers.1⟩
  · intro h
    refine ⟨fun encoding hencoding => ?_, fun hwanted hidentity => ?_⟩
    · obtain ⟨hidentity, hprefers⟩ := parseAcceptEncoding_eq_some.1 hencoding
      exact Or.inl (h.positive hidentity encoding hprefers)
    · obtain ⟨encoding, hprefers⟩ := exists_prefers (h.spelled hwanted hidentity)
      exact ⟨encoding, parseAcceptEncoding_eq_some.2 ⟨fun hspells => hidentity (lists_identity hspells), hprefers⟩⟩

namespace Sample

def noBlanks : Blanks := ⟨[], by simp⟩

/-- `br;q=0`: everything but Brotli. -/
def notBrotli : List Element :=
  [{ before := noBlanks, after := noBlanks,
     coding := some (⟨"br", by decide⟩, some { before := noBlanks, after := noBlanks, qvalue := .zero none }) }]

/-- `gzip ;q=1`, with a blank before the semicolon. -/
def spacedGzip : List Element :=
  [{ before := noBlanks, after := noBlanks,
     coding := some (⟨"gzip", by decide⟩,
       some { before := ⟨[' '], by simp⟩, after := noBlanks, qvalue := .one none }) }]

example : parseAcceptEncoding (headerText spacedGzip) = none := by decide +kernel

end Sample

open Sample in
/-- Brotli is chosen although it is refused. -/
theorem refused_is_chosen :
    headerText notBrotli = "br;q=0" ∧ parseAcceptEncoding "br;q=0" = some "br" ∧ ¬Acceptable notBrotli "br" := by
  have htext : headerText notBrotli = "br;q=0" := by decide +kernel
  have hzero : ∀ {coding q}, Lists notBrotli coding q → q = 0 := by
    rintro coding q ⟨e, he, name, weight, hcoding, -, hq⟩
    rw [List.mem_singleton.1 he] at hcoding
    cases hcoding
    exact hq.symm
  refine ⟨htext, by decide +kernel, ?_⟩
  rintro (⟨q, hpos, hlists⟩ | ⟨⟨q, hpos, hlists⟩, -⟩)
  · exact absurd (hzero hlists) (by omega)
  · exact absurd (hzero hlists) (by omega)

end FastapiTemplate.Middleware
