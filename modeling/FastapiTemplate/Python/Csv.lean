import FastapiTemplate.Python.Text

/-!
# Comma-separated values

`csv.reader` over the lines of an `io.StringIO`, in the dialect `excel`, and `csv.DictReader`. The reader is an
automaton over the characters, with an end-of-line mark behind each line; it gives a record when it is back at the start
after such a mark. What is written with every field in quotes is read back (`readCsv_writeCsv`).
-/

namespace FastapiTemplate.Python

/-! ### The automaton -/

inductive CsvState where
  | startRecord
  | startField
  | inField
  | inQuotedField
  | quoteInQuotedField
  | eatCrnl
  deriving DecidableEq

inductive CsvError where
  /-- `field larger than field limit` -/
  | fieldLimit
  /-- `new-line character seen in unquoted field` -/
  | newLine
  deriving DecidableEq

/-- `csv.field_size_limit()` -/
def fieldLimit : ℕ := 131072

/-- A reader: the field it is in, and the fields of the record so far. -/
structure CsvReader where
  state : CsvState := .startRecord
  field : List Char := []
  fields : List String := []

namespace CsvReader

variable (r : CsvReader)

def saveField (state : CsvState) : CsvReader where
  state := state
  fields := r.fields ++ [String.ofList r.field]

def addChar (c : Char) (state : CsvState) : Except CsvError CsvReader :=
  if fieldLimit ≤ r.field.length then .error .fieldLimit
  else .ok { r with field := r.field ++ [c], state := state }

/-- A field or a record ends with `c`, or `c` is given to `otherwise`; `none` is the end of a line. -/
def endField (c : Option Char) (otherwise : Char → Except CsvError CsvReader) : Except CsvError CsvReader :=
  match c with
  | none => .ok (r.saveField .startRecord)
  | some '\n' => .ok (r.saveField .eatCrnl)
  | some '\r' => .ok (r.saveField .eatCrnl)
  | some ',' => .ok (r.saveField .startField)
  | some c => otherwise c

def startField (c : Option Char) : Except CsvError CsvReader :=
  r.endField c fun c => if c = '"' then .ok { r with state := .inQuotedField } else r.addChar c .inField

/-- `parse_process_char` -/
def processChar (c : Option Char) : Except CsvError CsvReader :=
  match r.state with
  | .startRecord =>
    match c with
    | none => .ok r
    | some '\n' => .ok { r with state := .eatCrnl }
    | some '\r' => .ok { r with state := .eatCrnl }
    | some c => r.startField (some c)
  | .startField => r.startField c
  | .inField => r.endField c fun c => r.addChar c .inField
  | .inQuotedField =>
    match c with
    | none => .ok r
    | some '"' => .ok { r with state := .quoteInQuotedField }
    | some c => r.addChar c .inQuotedField
  | .quoteInQuotedField =>
    r.endField c fun c => if c = '"' then r.addChar c .inQuotedField else r.addChar c .inField
  | .eatCrnl =>
    match c with
    | none => .ok { r with state := .startRecord }
    | some '\n' => .ok r
    | some '\r' => .ok r
    | some _ => .error .newLine

end CsvReader

/-- The characters, with the end of the line behind every newline. -/
def marks (cs : List Char) : List (Option Char) := cs.flatMap fun c => if c = '\n' then [some c, none] else [some c]

/-- The characters and the ends of the lines. -/
def lineEvents (text : String) : List (Option Char) :=
  marks text.toList ++
    match text.toList.getLast? with
    | none | some '\n' => []
    | some _ => [none]

/-- The records, one for each time the reader is at its start again at the end of a line; a quoted field may be open at
the end of the text. -/
def readRecords (r : CsvReader) : List (Option Char) → Except CsvError (List (List String))
  | [] => .ok (if r.state = .inQuotedField then [(r.saveField .startRecord).fields] else [])
  | c :: cs => do
    let r ← r.processChar c
    if c = none ∧ r.state = .startRecord then
      let records ← readRecords {} cs
      return r.fields :: records
    else readRecords r cs

/-- `list(csv.reader(io.StringIO(text)))` -/
def readCsv (text : String) : Except CsvError (List (List String)) := readRecords {} (lineEvents text)

/-! ### Rows by the names of their columns -/

/-- A row of `csv.DictReader`: the columns that are missing are `None`. -/
abbrev DictRow : Type := List (String × Option String)

/-- `d[key]`, where the last of two equal names counts. -/
def DictRow.get? (d : DictRow) (key : String) : Option (Option String) := d.reverse.lookup key

/-- What `DictReader` makes of a record; what is behind the last column is left out. -/
def dictRow (fieldnames record : List String) : DictRow :=
  fieldnames.zip (record.map some ++ List.replicate (fieldnames.length - record.length) none)

/-- `list(csv.DictReader(io.StringIO(text)))`; empty records are skipped. -/
def dictReader (text : String) : Except CsvError (List DictRow) := do
  match ← readCsv text with
  | [] => return []
  | fieldnames :: records => return (records.filter (· ≠ [])).map (dictRow fieldnames)

/-! ### Writing -/

/-- A quote within a field is written twice. -/
def escapeField (cs : List Char) : List Char := cs.flatMap fun c => if c = '"' then ['"', '"'] else [c]

def writeFields : List String → List Char
  | [] => []
  | [field] => '"' :: (escapeField field.toList ++ ['"'])
  | field :: rest => '"' :: (escapeField field.toList ++ '"' :: ',' :: writeFields rest)

/-- `csv.writer` with `quoting=csv.QUOTE_ALL`. -/
def writeCsv (records : List (List String)) : String :=
  String.ofList (records.flatMap fun record => writeFields record ++ ['\r', '\n'])

/-! ### The round trip -/

section RoundTrip

variable {r r' : CsvReader} {c : Char} {cs : List Char} {rest : List (Option Char)}

lemma marks_append (cs ds : List Char) : marks (cs ++ ds) = marks cs ++ marks ds := List.flatMap_append

lemma marks_cons_of_ne (h : c ≠ '\n') : marks (c :: cs) = some c :: marks cs := by simp [marks, h]

lemma marks_newline : marks ('\n' :: cs) = some '\n' :: none :: marks cs := rfl

lemma readRecords_of_ok (h : r.processChar (some c) = .ok r') :
    readRecords r (some c :: rest) = readRecords r' rest := by
  conv_lhs => unfold readRecords
  rw [h]
  have hmark : ¬(some c = none ∧ r'.state = .startRecord) := fun hmark => by cases hmark.1
  dsimp only [bind, Except.bind]
  rw [if_neg hmark]

/-- A line ends within a field. -/
lemma readRecords_mark (h : r.processChar none = .ok r') (hstate : r'.state ≠ .startRecord) :
    readRecords r (none :: rest) = readRecords r' rest := by
  conv_lhs => unfold readRecords
  rw [h]
  exact if_neg (by simp [hstate])

/-- A record ends with its line. -/
lemma readRecords_end (h : r.processChar none = .ok r') (hstate : r'.state = .startRecord) :
    readRecords r (none :: rest) = (r'.fields :: ·) <$> readRecords {} rest := by
  conv_lhs => unfold readRecords
  rw [h]
  exact if_pos ⟨rfl, hstate⟩

lemma addChar_eq (h : r.field.length < fieldLimit) (state : CsvState) :
    r.addChar c state = .ok { r with field := r.field ++ [c], state := state } := if_neg (not_le.2 h)

lemma processChar_open (h : r.state = .startRecord ∨ r.state = .startField) :
    r.processChar (some '"') = .ok { r with state := .inQuotedField } := by
  unfold CsvReader.processChar
  rcases h with h | h <;> rw [h] <;> rfl

lemma processChar_quoted (h : r.state = .inQuotedField) (hlength : r.field.length < fieldLimit) (hc : c ≠ '"') :
    r.processChar (some c) = .ok { r with field := r.field ++ [c] } := by
  unfold CsvReader.processChar
  rw [h]
  dsimp only
  split
  · rename_i heq
    cases heq
  · rename_i heq
    exact absurd (Option.some.inj heq) hc
  · rename_i heq
    cases heq
    rw [addChar_eq hlength, ← h]

lemma processChar_quote (h : r.state = .inQuotedField) :
    r.processChar (some '"') = .ok { r with state := .quoteInQuotedField } := by
  unfold CsvReader.processChar
  rw [h]
  rfl

lemma processChar_mark (h : r.state = .inQuotedField) : r.processChar none = .ok r := by
  unfold CsvReader.processChar
  rw [h]

lemma processChar_quoteQuote (h : r.state = .quoteInQuotedField) (hlength : r.field.length < fieldLimit) :
    r.processChar (some '"') = .ok { r with field := r.field ++ ['"'], state := .inQuotedField } := by
  unfold CsvReader.processChar
  rw [h]
  exact addChar_eq hlength _

/-- Behind the closing quote the field ends. -/
lemma processChar_closed {state : CsvState} (h : r.state = .quoteInQuotedField)
    (hc : (c, state) = (',', .startField) ∨ (c, state) = ('\r', .eatCrnl)) :
    r.processChar (some c) = .ok (r.saveField state) := by
  unfold CsvReader.processChar
  rcases hc with hc | hc
  · cases hc
    rw [h]
    rfl
  · cases hc
    rw [h]
    rfl

/-- Within quotes every character is kept. -/
lemma readRecords_escapeField (hstate : r.state = .inQuotedField) (hlimit : r.field.length + cs.length ≤ fieldLimit) :
    readRecords r (marks (escapeField cs) ++ rest) = readRecords { r with field := r.field ++ cs } rest := by
  induction cs generalizing r with
  | nil =>
    rw [List.append_nil]
    rfl
  | cons c cs ih =>
    rw [List.length_cons] at hlimit
    have hlength : r.field.length < fieldLimit := by omega
    have hkept : ∀ events, readRecords r (marks (escapeField [c]) ++ events) =
        readRecords { r with field := r.field ++ [c] } events := by
      intro events
      obtain ⟨state, field, fields⟩ := r
      cases hstate
      by_cases hquote : c = '"'
      · rw [hquote]
        exact (readRecords_of_ok (processChar_quote rfl)).trans (readRecords_of_ok (processChar_quoteQuote rfl hlength))
      · have hescape : escapeField [c] = [c] := by simp [escapeField, hquote]
        have hchar := processChar_quoted rfl hlength hquote
        rw [hescape]
        by_cases hnewline : c = '\n'
        · rw [hnewline] at hchar ⊢
          exact (readRecords_of_ok hchar).trans (readRecords_mark (processChar_mark rfl) nofun)
        · rw [marks_cons_of_ne hnewline]
          exact readRecords_of_ok hchar
    have hsplit : escapeField (c :: cs) = escapeField [c] ++ escapeField cs := by simp [escapeField]
    rw [hsplit, marks_append, List.append_assoc, hkept, ih (r := { r with field := r.field ++ [c] }) hstate ?_]
    · simp
    · rw [List.length_append, List.length_singleton]
      omega

/-- A field in quotes, from its beginning to its closing quote. -/
lemma readRecords_field {field : String} (hstate : r.state = .startRecord ∨ r.state = .startField)
    (hempty : r.field = []) (hlimit : field.length ≤ fieldLimit) :
    readRecords r (marks ('"' :: (escapeField field.toList ++ '"' :: cs)) ++ rest) =
      readRecords { r with state := .quoteInQuotedField, field := field.toList } (marks cs ++ rest) := by
  have hlength : ([] : List Char).length + field.toList.length ≤ fieldLimit := by
    rw [String.length_toList]
    simpa using hlimit
  rw [marks_cons_of_ne (by decide), marks_append, marks_cons_of_ne (by decide), List.cons_append, List.append_assoc,
    readRecords_of_ok (processChar_open hstate), hempty, readRecords_escapeField rfl hlength]
  exact readRecords_of_ok (processChar_quote rfl)

/-- **A record that was written is read**, and the reader is back at its start. -/
lemma readRecords_writeFields {record : List String} (hstate : r.state = .startRecord ∨ r.state = .startField)
    (hempty : r.field = []) (hne : record ≠ []) (hlimit : ∀ field ∈ record, field.length ≤ fieldLimit) :
    readRecords r (marks (writeFields record ++ ['\r', '\n']) ++ rest) =
      ((r.fields ++ record) :: ·) <$> readRecords {} rest := by
  induction record generalizing r with
  | nil => exact absurd rfl hne
  | cons field record ih =>
    have hfield := hlimit field List.mem_cons_self
    cases record with
    | nil =>
      have htext : writeFields [field] ++ ['\r', '\n'] = '"' :: (escapeField field.toList ++ '"' :: ['\r', '\n']) := by
        simp [writeFields]
      rw [htext, readRecords_field hstate hempty hfield, marks_cons_of_ne (by decide), marks_newline, List.cons_append,
        readRecords_of_ok (processChar_closed rfl (.inr rfl)), List.cons_append, List.cons_append,
        readRecords_of_ok rfl, readRecords_end rfl rfl]
      simp [CsvReader.saveField, marks]
    | cons field' record =>
      have htext : writeFields (field :: field' :: record) ++ ['\r', '\n'] =
          '"' :: (escapeField field.toList ++ '"' :: ',' :: (writeFields (field' :: record) ++ ['\r', '\n'])) := by
        simp [writeFields]
      rw [htext, readRecords_field hstate hempty hfield, marks_cons_of_ne (by decide), List.cons_append,
        readRecords_of_ok (processChar_closed rfl (.inl rfl)),
        ih (r := CsvReader.saveField _ _) (.inr rfl) rfl (List.cons_ne_nil _ _) fun f hf =>
          hlimit f (List.mem_cons_of_mem field hf)]
      simp [CsvReader.saveField]

/-- An empty record is an empty line. -/
lemma readRecords_emptyLine : readRecords {} (marks ['\r', '\n'] ++ rest) = ([] :: ·) <$> readRecords {} rest := by
  rw [marks_cons_of_ne (by decide), marks_newline, List.cons_append, List.cons_append, List.cons_append,
    readRecords_of_ok rfl, readRecords_of_ok rfl, readRecords_end rfl rfl]
  rfl

/-- **What was written is read back.** -/
theorem readCsv_writeCsv {records : List (List String)}
    (hlimit : ∀ record ∈ records, ∀ field ∈ record, field.length ≤ fieldLimit) :
    readCsv (writeCsv records) = .ok records := by
  have hread : ∀ records : List (List String), (∀ record ∈ records, ∀ field ∈ record, field.length ≤ fieldLimit) →
      readRecords {} (marks (records.flatMap fun record => writeFields record ++ ['\r', '\n'])) = .ok records := by
    intro records
    induction records with
    | nil => exact fun _ => rfl
    | cons record records ih =>
      intro hlimit
      obtain ⟨hrecord, hrecords⟩ := List.forall_mem_cons.1 hlimit
      rw [List.flatMap_cons, marks_append]
      by_cases hempty : record = []
      · rw [hempty]
        exact readRecords_emptyLine.trans (by rw [ih hrecords]; rfl)
      · rw [readRecords_writeFields (.inl rfl) rfl hempty hrecord, ih hrecords]
        rfl
  have hevents : lineEvents (writeCsv records) =
      marks (records.flatMap fun record => writeFields record ++ ['\r', '\n']) := by
    unfold lineEvents writeCsv
    rw [String.toList_ofList]
    rcases List.eq_nil_or_concat records with rfl | ⟨earlier, last, rfl⟩
    · rfl
    · simp
  unfold readCsv
  rw [hevents, hread records hlimit]

end RoundTrip

end FastapiTemplate.Python
