import Rigor.Uploads
import Rigor.CompanyCsv
import Rigor.QueueEvents
import Rigor.Results

/-!
# A large corpus

`import_large_question_corpus.py` reads a corpus file row by row, checks every
row, and sorts out those whose id or fingerprint an earlier row has. The counters
that it reports account for every row of the file (`validateSource_accounts`).
-/

namespace Rigor.LargeCorpus

open Py Knowledge

/-- What leaves a function of the importer. -/
inductive CorpusFailure where
  /-- `LargeCorpusError(message)` -/
  | corpus (message : Str)
  | unicode
  | load (e : LoadError)
  /-- `int` of a text -/
  | value
  | database
  deriving DecidableEq

/-- An open `ParquetFile`: its rows, until a batch cannot be read. -/
structure ParquetFile (F : Type) where
  names : List Str
  numRows : Int
  records : List (Json F)
  stop : Option CorpusFailure

/-- The digest of bytes, `pyarrow`, the lines that a reader is handed of a file that
is no UTF-8 before its decoder raises, and whether an index of the database has room
for these texts. -/
structure Environment (F : Type) extends CsvRuntime F where
  sha256Bytes : ByteText → Str
  parquet : ByteText → Except CorpusFailure (ParquetFile F)
  textBefore : ByteText → Str
  indexable : List (Option Str) → Bool

/-- A path, and the bytes of the file that is there. -/
structure CorpusFile where
  path : Str
  content : ByteText

def CorpusFile.name (f : CorpusFile) : Str := Uploads.pathName f.path

variable {F : Type}

def CorpusFile.suffix (env : Environment F) (f : CorpusFile) : Str :=
  env.casefold (Uploads.pathSuffix f.path)

def requiredColumns : List Str :=
  ["question_id", "subject", "platform", "topic", "subtopic", "difficulty", "level",
    "question_type", "seniority", "industry", "business_context", "question_statement",
    "input_output_or_schema", "requirements", "constraints", "expected_approach", "solution",
    "explanation", "time_complexity", "space_complexity", "common_mistakes", "options",
    "correct_answer", "why_other_options_incorrect", "tradeoffs", "best_practices", "tags",
    "content_fingerprint"]

/-- `", ".join(…)`. -/
def commaList (names : List Str) : Str := [44, 32].intercalate names

/-! ## Lines and rows -/

/-- `newline=None`: a `\r`, with the `\n` behind it, ends a line as `\n` does. -/
def universalNewlines : Str → Str
  | [] => []
  | c :: t =>
      if c = 13 then if t.head? = some 10 then universalNewlines t else 10 :: universalNewlines t
      else c :: universalNewlines t

/-- The white space of `bytes.strip`. -/
def isByteSpace (b : Nat) : Bool := b = 32 ∨ (9 ≤ b ∧ b ≤ 13)

def jsonlSuffixes : List Str := [".jsonl", ".ndjson"]

/-- The rows that a reader yields, with their numbers, until it raises. -/
structure RowStream (F : Type) where
  rows : List (Nat × Members F)
  stop : Option CorpusFailure

def RowStream.cons (row : Nat × Members F) (s : RowStream F) : RowStream F :=
  { s with rows := row :: s.rows }

/-- `f"{path}:{row_number}: {what}"`. -/
def rowError (path : Str) (number : Nat) (what : Str) : CorpusFailure :=
  .corpus (path ++ [58] ++ natText number ++ [58, 32] ++ what)

section Reading

variable [Runtime F]

/-- The loop of `iter_jsonl`; `undecoded` is raised behind the last line. -/
def jsonlRows (path : Str) (undecoded : Option CorpusFailure) : List (Str × Nat) → RowStream F
  | [] => ⟨[], undecoded⟩
  | (line, number) :: lines =>
      if isBlank line then jsonlRows path undecoded lines
      else
        match loads line with
        | .ok (.obj row) => (jsonlRows path undecoded lines).cons (number, row)
        | .ok _ => ⟨[], some (rowError path number "expected a JSON object")⟩
        | .error .decode => ⟨[], some (rowError path number "invalid JSON")⟩
        | .error e => ⟨[], some (.load e)⟩

def iterJsonl (env : Environment F) (f : CorpusFile) : RowStream F :=
  let (text, undecoded) := match Uploads.decodeStrict f.content with
    | some text => (text, none)
    | none => (env.textBefore f.content, some .unicode)
  jsonlRows f.path undecoded ((Uploads.stringLines (universalNewlines text)).zipIdx 1)

/-- The loop of `iter_parquet`. -/
def parquetRows (path : Str) (stop : Option CorpusFailure) : List (Json F × Nat) → RowStream F
  | [] => ⟨[], stop⟩
  | (.obj row, number) :: records => (parquetRows path stop records).cons (number, row)
  | (_, number) :: _ => ⟨[], some (rowError path number "expected an object")⟩

def iterParquet (env : Environment F) (f : CorpusFile) : RowStream F :=
  match env.parquet f.content with
  | .error e => ⟨[], some e⟩
  | .ok file =>
      let missing := (requiredColumns.filter (· ∉ file.names)).insertionSort (· ≤ ·)
      if missing = [] then parquetRows f.path file.stop (file.records.zipIdx 1)
      else ⟨[], some (.corpus (("Parquet schema is missing: " : Str) ++ commaList missing))⟩

def iterRows (env : Environment F) (f : CorpusFile) : RowStream F :=
  if f.suffix env ∈ jsonlSuffixes then iterJsonl env f
  else if f.suffix env = ".parquet" then iterParquet env f
  else ⟨[], some (.corpus (("Unsupported corpus format: " : Str)
    ++ if f.suffix env = [] then ("<none>" : Str) else f.suffix env))⟩

def physicalRowCount (env : Environment F) (f : CorpusFile) : Except CorpusFailure Int :=
  if f.suffix env = ".parquet" then (env.parquet f.content).map ParquetFile.numRows
  else if f.suffix env ∈ jsonlSuffixes then
    .ok ((Uploads.stringLines f.content).countP fun line => line.any fun b => !isByteSpace b)
  else .error (.corpus (("Unsupported corpus format: " : Str) ++ Uploads.pathSuffix f.path))

/-! ## The physical source -/

/-- `str(value or "")`. -/
def strOr (value : Json F) : Str := if value.truthy then value.pyStr else []

def manifestFileEntry (manifest : Members F) (filename : Str) : Option (Members F) :=
  match Json.get "files" manifest with
  | .arr files => files.findSome? fun
      | .obj entry => if strOr (Json.get "file" entry) = filename then some entry else none
      | _ => none
  | _ => none

/-- What is known of a file once it is verified. -/
structure PhysicalSource where
  sha256 : Str
  physicalRows : Int
  expectedRows : Option Int
  deriving DecidableEq

/-- The checks against the entry of the manifest. -/
def checkEntry (f : CorpusFile) (sha256 : Str) (physicalRows : Int) (casefold : Str → Str)
    (entry : Members F) : Except CorpusFailure PhysicalSource :=
  let expectedSha := casefold (strOr (Json.get "sha256" entry))
  if expectedSha ≠ [] ∧ expectedSha ≠ sha256 then
    .error (.corpus (("SHA mismatch for " : Str) ++ f.name ++ ": expected " ++ expectedSha
      ++ ", got " ++ sha256))
  else
    match (Json.lookup "rows" entry).getD (Json.get "footer_rows_verified" entry) with
    | .null => .ok ⟨sha256, physicalRows, none⟩
    | rowsValue =>
        match pyInt (Runtime.maxStrDigits F) rowsValue.pyStr with
        | none => .error .value
        | some expectedRows =>
            if expectedRows ≠ physicalRows then
              .error (.corpus (("row-count mismatch for " : Str) ++ f.name ++ ": expected "
                ++ intText expectedRows ++ ", got " ++ intText physicalRows))
            else .ok ⟨sha256, physicalRows, some expectedRows⟩

/-- `verify_physical_source`, of a file that is there. -/
def verifyPhysicalSource (env : Environment F) (manifest : Option (Members F)) (f : CorpusFile) :
    Except CorpusFailure PhysicalSource := do
  let sha256 := env.sha256Bytes f.content
  let physicalRows ← physicalRowCount env f
  match manifest with
  | none => .ok ⟨sha256, physicalRows, none⟩
  | some manifest =>
      match manifestFileEntry manifest f.name with
      | none => .error (.corpus (("Manifest does not contain physical file " : Str) ++ f.name))
      | some entry => checkEntry f sha256 physicalRows env.casefold entry

/-! ## One row -/

def requiredText (row : Members F) (field : Str) : Except CorpusFailure Str :=
  let normalized := match Json.get field row with
    | .null => []
    | value => strip value.pyStr
  if normalized = [] then .error (.corpus (field ++ " is required")) else .ok normalized

def optionalText (row : Members F) (field : Str) : Option Str :=
  match Json.get field row with
  | .null => none
  | value => some (strip value.pyStr) |>.filter (· ≠ [])

/-- `SHA256_RE.fullmatch`. -/
def isSha256 (s : Str) : Bool := s.length = 64 && s.all isHexDigit

def textFields : List Str :=
  ["question_id", "subject", "topic", "question_statement", "solution"]

/-- `required_text(row, "content_fingerprint").casefold()`. -/
def fingerprintOf (env : Environment F) (row : Members F) : Except CorpusFailure Str :=
  (requiredText row "content_fingerprint").map env.casefold

def validateRow (env : Environment F) (row : Members F) : Except CorpusFailure Unit := do
  let missing := requiredColumns.filter fun field => (Json.lookup field row).isNone
  if missing ≠ [] then
    .error (.corpus (("missing required columns: " : Str) ++ commaList missing))
  textFields.forM fun field => (requiredText row field).map fun _ => ()
  let fingerprint ← fingerprintOf env row
  if !isSha256 fingerprint then
    .error (.corpus "content_fingerprint must be a lowercase SHA-256 hex digest")

/-- The id and the fingerprint of a row that passes its checks. -/
def checkRow (env : Environment F) (row : Members F) : Except CorpusFailure (Str × Str) := do
  validateRow env row
  let questionId ← requiredText row "question_id"
  let fingerprint ← fingerprintOf env row
  .ok (questionId, fingerprint)

/-- The text that `concept_identity` hashes. Its keys are in their order already. -/
def conceptText (env : Environment F) (row : Members F) : Str :=
  let fields : List Str :=
    ["expected_approach", "platform", "question_type", "subject", "subtopic", "topic"]
  (Json.obj (fields.map fun field =>
    (field, Json.str (env.casefold (strip (strOr (Json.get field row)))))) : Json F).encode

def conceptIdentity (env : Environment F) (row : Members F) : Except CorpusFailure Str :=
  let text := conceptText env row
  if isEncodable text then .ok (env.sha256 text) else .error .unicode

inductive Classification where
  | canonicalCandidate | legitimateVariant | referenceOnly | rejectedQuarantined
  deriving DecidableEq

def canonicalClassification (disposition : SourceDisposition) (conceptIsNew : Bool) :
    Classification :=
  match disposition with
  | .rejectedProprietary => .rejectedQuarantined
  | .externalReferenceOnly => .referenceOnly
  | _ => if conceptIsNew then .canonicalCandidate else .legitimateVariant

/-! ## The stream of rows -/

/-- The counters; those that stay `0` are left out. -/
structure Counters where
  physicalSourceRows : Int
  parsed : Nat := 0
  validated : Nat := 0
  rejected : Nat := 0
  duplicateIds : Nat := 0
  duplicateFingerprints : Nat := 0
  canonical : Nat := 0
  variants : Nat := 0
  reviewRequired : Nat := 0
  referenceOnly : Nat := 0
  deriving DecidableEq

structure PreparedRow (F : Type) where
  rowNumber : Nat
  row : Members F
  classification : Classification

/-- The tables of the tracker, the counters, and the rows that failed. -/
structure StreamState where
  ids : List Str := []
  fingerprints : List Str := []
  concepts : List Str := []
  counters : Counters
  failures : List (Nat × Str) := []

def initialState (physicalRows : Int) : StreamState :=
  { counters := { physicalSourceRows := physicalRows } }

def Counters.rejectDuplicateId (c : Counters) : Counters :=
  { c with duplicateIds := c.duplicateIds + 1, rejected := c.rejected + 1 }

def Counters.rejectDuplicateFingerprint (c : Counters) : Counters :=
  { c with duplicateFingerprints := c.duplicateFingerprints + 1, rejected := c.rejected + 1 }

def Counters.accept (c : Counters) (disposition : SourceDisposition)
    (classification : Classification) : Counters :=
  let c := { c with
    validated := c.validated + 1
    reviewRequired := c.reviewRequired
      + if disposition = SourceDisposition.rightsReviewRequired then 1 else 0 }
  match classification with
  | .canonicalCandidate => { c with canonical := c.canonical + 1 }
  | .legitimateVariant => { c with variants := c.variants + 1 }
  | .referenceOnly => { c with referenceOnly := c.referenceOnly + 1 }
  | .rejectedQuarantined => { c with rejected := c.rejected + 1 }

/-- `except LargeCorpusError`: the first hundred are kept. -/
def StreamState.reject (s : StreamState) (number : Nat) (message : Str) : StreamState :=
  { s with
    counters := { s.counters with rejected := s.counters.rejected + 1 }
    failures := if s.failures.length < 100 then s.failures ++ [(number, message)]
      else s.failures }

/-- `counters["parsed"] += 1`. -/
def StreamState.parse (s : StreamState) : StreamState :=
  { s with counters := { s.counters with parsed := s.counters.parsed + 1 } }

def StreamState.accept (s : StreamState) (disposition : SourceDisposition)
    (questionId fingerprint concept : Str) : StreamState :=
  { s with
    ids := questionId :: s.ids
    fingerprints := fingerprint :: s.fingerprints
    concepts := if concept ∈ s.concepts then s.concepts else concept :: s.concepts
    counters := s.counters.accept disposition
      (canonicalClassification disposition (decide (concept ∉ s.concepts))) }

/-- What the body of the loop makes of a row: it may be yielded, and what is no
`LargeCorpusError` leaves the loop. -/
def prepareRow (env : Environment F) (disposition : SourceDisposition) (s : StreamState)
    (number : Nat) (row : Members F) :
    Except CorpusFailure (StreamState × Option (PreparedRow F)) :=
  let s := s.parse
  match checkRow env row with
  | .error (.corpus message) => .ok (s.reject number message, none)
  | .error e => .error e
  | .ok (questionId, fingerprint) =>
      if !isEncodable questionId then .error .unicode
      else if questionId ∈ s.ids then
        .ok ({ s with counters := s.counters.rejectDuplicateId }, none)
      else if fingerprint ∈ s.fingerprints then
        .ok ({ s with
          ids := questionId :: s.ids
          counters := s.counters.rejectDuplicateFingerprint }, none)
      else
        match conceptIdentity env row with
        | .error e => .error e
        | .ok concept =>
            .ok (s.accept disposition questionId fingerprint concept,
              some ⟨number, row, canonicalClassification disposition
                (decide (concept ∉ s.concepts))⟩)

/-- A row that the generator yields, with what the counters and the failures are
at that time. -/
structure Yield (F : Type) where
  prepared : PreparedRow F
  counters : Counters
  failures : List (Nat × Str)

/-- What a generator yields, and how it ends. -/
structure Prepared (F : Type) where
  yields : List (Yield F)
  finished : Except CorpusFailure StreamState

def prepareRows (env : Environment F) (disposition : SourceDisposition)
    (stop : Option CorpusFailure) : StreamState → List (Nat × Members F) → Prepared F
  | s, [] => ⟨[], match stop with | none => .ok s | some e => .error e⟩
  | s, (number, row) :: rows =>
      match prepareRow env disposition s number row with
      | .error e => ⟨[], .error e⟩
      | .ok (s, none) => prepareRows env disposition stop s rows
      | .ok (s, some prepared) =>
          let rest := prepareRows env disposition stop s rows
          { rest with yields := ⟨prepared, s.counters, s.failures⟩ :: rest.yields }

def prepareStream (env : Environment F) (disposition : SourceDisposition) (f : CorpusFile)
    (physicalRows : Int) : Prepared F :=
  let stream := iterRows env f
  prepareRows env disposition stream.stop (initialState physicalRows) stream.rows

/-- `validate_source`, on a file that is there: the counters and failures it reports. -/
def validateSource (env : Environment F) (manifest : Option (Members F))
    (disposition : SourceDisposition) (f : CorpusFile) :
    Except CorpusFailure (PhysicalSource × Counters × List (Nat × Str)) := do
  let source ← verifyPhysicalSource env manifest f
  let s ← (prepareStream env disposition f source.physicalRows).finished
  if s.counters.parsed ≠ source.physicalRows then
    .error (.corpus (("streamed " : Str) ++ natText s.counters.parsed
      ++ " rows but physical metadata reports " ++ intText source.physicalRows))
  else .ok (source, s.counters, s.failures)

end Reading

/-! ## What the counters say -/

section Accounts

variable [Runtime F] {env : Environment F} {disposition : SourceDisposition}

def rowId (env : Environment F) (row : Members F) : Option Str :=
  (checkRow env row).toOption.map Prod.fst

def rowFingerprint (env : Environment F) (row : Members F) : Option Str :=
  (checkRow env row).toOption.map Prod.snd

def rowConcept (env : Environment F) (row : Members F) : Str := env.sha256 (conceptText env row)

/-- The entry that a row leaves among the failures. -/
def failureOf (env : Environment F) (row : Nat × Members F) : Option (Nat × Str) :=
  match checkRow env row.2 with
  | .error (.corpus message) => some (row.1, message)
  | _ => none

/-- A turn of the loop, by what becomes of the row. -/
inductive Turn (env : Environment F) (disposition : SourceDisposition) (s : StreamState)
    (number : Nat) (row : Members F) : StreamState → Option (PreparedRow F) → Prop
  | invalid (message : Str) (h : checkRow env row = .error (.corpus message)) :
      Turn env disposition s number row (s.parse.reject number message) none
  | duplicateId (questionId fingerprint : Str)
      (h : checkRow env row = .ok (questionId, fingerprint)) (hid : questionId ∈ s.ids) :
      Turn env disposition s number row
        { s.parse with counters := s.parse.counters.rejectDuplicateId } none
  | duplicateFingerprint (questionId fingerprint : Str)
      (h : checkRow env row = .ok (questionId, fingerprint)) (hid : questionId ∉ s.ids)
      (hfingerprint : fingerprint ∈ s.fingerprints) :
      Turn env disposition s number row
        { s.parse with
          ids := questionId :: s.ids
          counters := s.parse.counters.rejectDuplicateFingerprint } none
  | accepted (questionId fingerprint : Str)
      (h : checkRow env row = .ok (questionId, fingerprint)) (hid : questionId ∉ s.ids)
      (hfingerprint : fingerprint ∉ s.fingerprints) :
      Turn env disposition s number row
        (s.parse.accept disposition questionId fingerprint (rowConcept env row))
        (some ⟨number, row, canonicalClassification disposition
          (decide (rowConcept env row ∉ s.concepts))⟩)

theorem prepareRow_turn {s s' : StreamState} {number : Nat} {row : Members F}
    {prepared : Option (PreparedRow F)}
    (h : prepareRow env disposition s number row = .ok (s', prepared)) :
    Turn env disposition s number row s' prepared := by
  unfold prepareRow at h
  cases hchecked : checkRow env row with
  | error e =>
      rw [hchecked] at h
      cases e with
      | corpus message =>
          obtain ⟨rfl, rfl⟩ := Prod.mk.inj (Except.ok.inj h)
          exact .invalid message hchecked
      | unicode => cases h
      | load e => cases h
      | value => cases h
      | database => cases h
  | ok checked =>
      obtain ⟨questionId, fingerprint⟩ := checked
      rw [hchecked] at h
      dsimp only at h
      by_cases hencodable : isEncodable questionId = true
      · rw [hencodable, if_neg (by decide)] at h
        by_cases hid : questionId ∈ s.parse.ids
        · rw [if_pos hid] at h
          obtain ⟨rfl, rfl⟩ := Prod.mk.inj (Except.ok.inj h)
          exact .duplicateId questionId fingerprint hchecked hid
        · rw [if_neg hid] at h
          by_cases hfingerprint : fingerprint ∈ s.parse.fingerprints
          · rw [if_pos hfingerprint] at h
            obtain ⟨rfl, rfl⟩ := Prod.mk.inj (Except.ok.inj h)
            exact .duplicateFingerprint questionId fingerprint hchecked hid hfingerprint
          · rw [if_neg hfingerprint] at h
            unfold conceptIdentity at h
            by_cases htext : isEncodable (conceptText env row) = true
            · rw [if_pos htext] at h
              obtain ⟨rfl, rfl⟩ := Prod.mk.inj (Except.ok.inj h)
              exact .accepted questionId fingerprint hchecked hid hfingerprint
            · rw [if_neg htext] at h
              cases h
      · rw [Bool.not_eq_true] at hencodable
        rw [hencodable] at h
        cases h

/-- A row is a candidate or a variant. -/
def KeepsFamilies (disposition : SourceDisposition) : Prop :=
  disposition = .hostableLicensed ∨ disposition = .rightsReviewRequired

/-- What the tracker knows of the rows that were read. -/
structure Tracks (env : Environment F) (disposition : SourceDisposition)
    (rows : List (Nat × Members F)) (yielded : List (PreparedRow F)) (s : StreamState) :
    Prop where
  ids : ∀ x, x ∈ s.ids ↔ ∃ r ∈ rows, rowId env r.2 = some x
  fingerprints : ∀ x, x ∈ s.fingerprints ↔ ∃ y ∈ yielded, rowFingerprint env y.row = some x
  concepts : ∀ x, x ∈ s.concepts ↔ ∃ y ∈ yielded, rowConcept env y.row = x
  distinct : s.concepts.Nodup
  canonical : KeepsFamilies disposition → s.counters.canonical = s.concepts.length

/-- A row that passes its checks is yielded, or has the id or the fingerprint of a
row before it. -/
def Explained (env : Environment F) (rows : List (Nat × Members F))
    (yielded : List (PreparedRow F)) : Prop :=
  ∀ before r after, rows = before ++ r :: after → (rowId env r.2).isSome →
    (∃ y ∈ yielded, (y.rowNumber, y.row) = r)
      ∨ (∃ r' ∈ before, rowId env r'.2 = rowId env r.2)
      ∨ ∃ r' ∈ before, rowFingerprint env r'.2 = rowFingerprint env r.2

/-- The counters account for every row. -/
structure Accounts (env : Environment F) (rows : List (Nat × Members F))
    (yielded : List (PreparedRow F)) (c : Counters) (failures : List (Nat × Str)) : Prop where
  parsed : c.parsed = rows.length
  validated : c.validated = yielded.length
  split : c.parsed = c.validated + c.duplicateIds
    + c.duplicateFingerprints + (rows.filterMap (failureOf env)).length
  sorted : c.parsed = c.canonical + c.variants
    + c.referenceOnly + c.rejected
  failures : failures = (rows.filterMap (failureOf env)).take 100
  fromRows : (yielded.map fun y => (y.rowNumber, y.row)).Sublist rows
  ids : (yielded.map fun y => rowId env y.row).Nodup
  passed : ∀ y ∈ yielded, (rowId env y.row).isSome
  fingerprints : (yielded.map fun y => rowFingerprint env y.row).Nodup
  explained : Explained env rows yielded

theorem rowId_of_checked {row : Members F} {checked : Str × Str}
    (h : checkRow env row = .ok checked) : rowId env row = some checked.1 := by
  rw [rowId, h]
  rfl

theorem rowFingerprint_of_checked {row : Members F} {checked : Str × Str}
    (h : checkRow env row = .ok checked) : rowFingerprint env row = some checked.2 := by
  rw [rowFingerprint, h]
  rfl

theorem failureOf_checked {row : Nat × Members F} {checked : Str × Str}
    (h : checkRow env row.2 = .ok checked) : failureOf env row = none := by
  rw [failureOf, h]

theorem rowId_isSome {row : Members F} :
    (rowId env row).isSome ↔ ∃ checked, checkRow env row = .ok checked := by
  rw [rowId]
  cases checkRow env row with
  | error e =>
      refine iff_of_false Bool.false_ne_true ?_
      rintro ⟨checked, h⟩
      cases h
  | ok checked => exact iff_of_true rfl ⟨checked, rfl⟩

variable {rows : List (Nat × Members F)} {yielded : List (PreparedRow F)} {s s' : StreamState}
  {number : Nat} {row : Members F} {prepared : Option (PreparedRow F)}

theorem initial_tracks (physicalRows : Int) :
    Tracks env disposition [] ([] : List (PreparedRow F)) (initialState physicalRows) where
  ids x := iff_of_false List.not_mem_nil (by simp)
  fingerprints x := iff_of_false List.not_mem_nil (by simp)
  concepts x := iff_of_false List.not_mem_nil (by simp)
  distinct := List.nodup_nil
  canonical _ := rfl

theorem exists_snoc {α : Type} {P : α → Prop} {xs : List α} {x : α} :
    (∃ r ∈ xs ++ [x], P r) ↔ P x ∨ ∃ r ∈ xs, P r := by
  simp only [List.mem_append, List.mem_singleton]
  constructor
  · rintro ⟨r, hr | rfl, hp⟩
    · exact .inr ⟨r, hr, hp⟩
    · exact .inl hp
  · rintro (hp | ⟨r, hr, hp⟩)
    · exact ⟨x, .inr rfl, hp⟩
    · exact ⟨r, .inl hr, hp⟩

/-- A candidate for every concept that is new. -/
theorem accept_canonical (hkeeps : KeepsFamilies disposition)
    (questionId fingerprint concept : Str) :
    (s.accept disposition questionId fingerprint concept).counters.canonical
        + s.concepts.length
      = s.counters.canonical
        + (s.accept disposition questionId fingerprint concept).concepts.length := by
  by_cases hknown : concept ∈ s.concepts
  · rcases hkeeps with rfl | rfl <;>
      simp [StreamState.accept, Counters.accept, canonicalClassification, hknown]
  · rcases hkeeps with rfl | rfl <;>
      simp [StreamState.accept, Counters.accept, canonicalClassification, hknown] <;> omega

theorem Tracks.turn (ht : Tracks env disposition rows yielded s)
    (h : Turn env disposition s number row s' prepared) :
    Tracks env disposition (rows ++ [(number, row)]) (yielded ++ prepared.toList) s' := by
  cases h with
  | invalid message hchecked =>
      have hid : rowId env row = none := by
        rw [rowId, hchecked]
        rfl
      refine ⟨fun x => ?_, ?_, ?_, ht.distinct, ht.canonical⟩
      · rw [exists_snoc, hid, or_iff_right (Option.some_ne_none x).symm]
        exact ht.ids x
      · rw [Option.toList_none, List.append_nil]
        exact ht.fingerprints
      · rw [Option.toList_none, List.append_nil]
        exact ht.concepts
  | duplicateId questionId fingerprint hchecked hid =>
      refine ⟨fun x => ?_, ?_, ?_, ht.distinct, ht.canonical⟩
      · rw [exists_snoc, rowId_of_checked hchecked]
        refine (ht.ids x).trans ⟨.inr, fun hx => hx.elim (fun heq => ?_) id⟩
        exact Option.some.inj heq ▸ (ht.ids questionId).mp hid
      · rw [Option.toList_none, List.append_nil]
        exact ht.fingerprints
      · rw [Option.toList_none, List.append_nil]
        exact ht.concepts
  | duplicateFingerprint questionId fingerprint hchecked hid hfingerprint =>
      refine ⟨fun x => ?_, ?_, ?_, ht.distinct, ht.canonical⟩
      · rw [exists_snoc, rowId_of_checked hchecked, Option.some_inj, ← ht.ids x]
        exact List.mem_cons.trans (or_congr_left eq_comm)
      · rw [Option.toList_none, List.append_nil]
        exact ht.fingerprints
      · rw [Option.toList_none, List.append_nil]
        exact ht.concepts
  | accepted questionId fingerprint hchecked hid hfingerprint =>
      refine ⟨fun x => ?_, fun x => ?_, fun x => ?_, ?_, fun hkeeps => ?_⟩
      · rw [exists_snoc, rowId_of_checked hchecked, Option.some_inj, ← ht.ids x]
        exact List.mem_cons.trans (or_congr_left eq_comm)
      · rw [Option.toList_some, exists_snoc, rowFingerprint_of_checked hchecked, Option.some_inj,
          ← ht.fingerprints x]
        exact List.mem_cons.trans (or_congr_left eq_comm)
      · rw [Option.toList_some, exists_snoc, ← ht.concepts x]
        show x ∈ (if rowConcept env row ∈ s.concepts then s.concepts
          else rowConcept env row :: s.concepts) ↔ _
        split_ifs with hknown
        · exact ⟨.inr, fun hx => hx.elim (fun heq => heq ▸ hknown) id⟩
        · exact List.mem_cons.trans (or_congr_left eq_comm)
      · show (if rowConcept env row ∈ s.concepts then s.concepts
          else rowConcept env row :: s.concepts).Nodup
        split_ifs with hknown
        · exact ht.distinct
        · exact List.nodup_cons.mpr ⟨hknown, ht.distinct⟩
      · have hcount := accept_canonical (s := s.parse) hkeeps questionId fingerprint
          (rowConcept env row)
        have hbefore : s.parse.counters.canonical = s.parse.concepts.length := ht.canonical hkeeps
        omega

theorem Explained.snoc {more : List (PreparedRow F)} {r : Nat × Members F}
    (he : Explained env rows yielded)
    (hr : (rowId env r.2).isSome → (∃ y ∈ more, (y.rowNumber, y.row) = r)
      ∨ (∃ r' ∈ rows, rowId env r'.2 = rowId env r.2)
      ∨ ∃ r' ∈ rows, rowFingerprint env r'.2 = rowFingerprint env r.2) :
    Explained env (rows ++ [r]) (yielded ++ more) := by
  intro before r' after heq hpassed
  rcases List.eq_nil_or_concat after with rfl | ⟨init, last, rfl⟩
  · obtain ⟨rfl, hlast⟩ := List.append_inj' heq rfl
    obtain rfl : r = r' := (List.cons.inj hlast).1
    refine (hr hpassed).imp_left ?_
    rintro ⟨y, hy, hsame⟩
    exact ⟨y, List.mem_append_right _ hy, hsame⟩
  · rw [List.concat_eq_append, ← List.cons_append, ← List.append_assoc] at heq
    obtain ⟨hrows, -⟩ := List.append_inj' heq rfl
    refine (he before r' init hrows hpassed).imp_left ?_
    rintro ⟨y, hy, hsame⟩
    exact ⟨y, List.mem_append_left _ hy, hsame⟩

theorem initial_accounts (physicalRows : Int) :
    Accounts env [] ([] : List (PreparedRow F))
      (initialState physicalRows).counters (initialState physicalRows).failures where
  parsed := rfl
  validated := rfl
  split := rfl
  sorted := rfl
  failures := rfl
  fromRows := List.Sublist.slnil
  ids := List.nodup_nil
  passed y hy := absurd hy List.not_mem_nil
  fingerprints := List.nodup_nil
  explained before r after heq _ := by simp at heq

theorem take_snoc {α : Type} (n : Nat) (xs : List α) (x : α) :
    (xs ++ [x]).take n = if (xs.take n).length < n then xs.take n ++ [x] else xs.take n := by
  rw [List.length_take, List.take_append]
  by_cases h : xs.length < n
  · rw [if_pos (by omega), List.take_of_length_le (l := [x]) (by simp; omega)]
  · rw [if_neg (by omega), show n - xs.length = 0 by omega, List.take_zero, List.append_nil]

theorem Counters.accept_counts (disposition : SourceDisposition) (c : Counters)
    (classification : Classification) :
    (c.accept disposition classification).parsed = c.parsed
      ∧ (c.accept disposition classification).validated = c.validated + 1
      ∧ (c.accept disposition classification).duplicateIds = c.duplicateIds
      ∧ (c.accept disposition classification).duplicateFingerprints = c.duplicateFingerprints
      ∧ (c.accept disposition classification).canonical
          + (c.accept disposition classification).variants
          + (c.accept disposition classification).referenceOnly
          + (c.accept disposition classification).rejected
        = c.canonical + c.variants + c.referenceOnly + c.rejected + 1 := by
  cases classification <;> refine ⟨rfl, rfl, rfl, rfl, ?_⟩ <;> simp only [Counters.accept] <;> omega

/-- A row that is not yielded. -/
theorem Accounts.refuse (ha : Accounts env rows yielded s.counters s.failures)
    (hparsed : s'.counters.parsed = s.counters.parsed + 1)
    (hvalidated : s'.counters.validated = s.counters.validated)
    (hsplit : s'.counters.duplicateIds + s'.counters.duplicateFingerprints
        + ((rows ++ [(number, row)]).filterMap (failureOf env)).length
      = s.counters.duplicateIds + s.counters.duplicateFingerprints
        + (rows.filterMap (failureOf env)).length + 1)
    (hsorted : s'.counters.canonical + s'.counters.variants + s'.counters.referenceOnly
        + s'.counters.rejected
      = s.counters.canonical + s.counters.variants + s.counters.referenceOnly
        + s.counters.rejected + 1)
    (hfailures : s'.failures
      = ((rows ++ [(number, row)]).filterMap (failureOf env)).take 100)
    (hexplained : (rowId env row).isSome →
      (∃ r' ∈ rows, rowId env r'.2 = rowId env row)
        ∨ ∃ r' ∈ rows, rowFingerprint env r'.2 = rowFingerprint env row) :
    Accounts env (rows ++ [(number, row)]) yielded s'.counters s'.failures where
  parsed := by rw [hparsed, ha.parsed, List.length_append, List.length_singleton]
  validated := by rw [hvalidated, ha.validated]
  split := by
    rw [hparsed, hvalidated, ha.split]
    omega
  sorted := by
    rw [hparsed, ha.sorted]
    omega
  failures := hfailures
  fromRows := ha.fromRows.trans (List.sublist_append_left _ _)
  ids := ha.ids
  passed := ha.passed
  fingerprints := ha.fingerprints
  explained := by
    have hrow : Explained env (rows ++ [(number, row)]) (yielded ++ []) :=
      ha.explained.snoc fun h => .inr (hexplained h)
    rwa [List.append_nil] at hrow

theorem filterMap_snoc {checked : Str × Str} (h : checkRow env row = .ok checked) :
    (rows ++ [(number, row)]).filterMap (failureOf env) = rows.filterMap (failureOf env) := by
  rw [List.filterMap_append, List.filterMap_cons_none (failureOf_checked h),
    List.filterMap_nil, List.append_nil]

theorem Accounts.turn (ha : Accounts env rows yielded s.counters s.failures)
    (ht : Tracks env disposition rows yielded s)
    (h : Turn env disposition s number row s' prepared) :
    Accounts env (rows ++ [(number, row)]) (yielded ++ prepared.toList) s'.counters
      s'.failures := by
  cases h with
  | invalid message hchecked =>
      have hentry : failureOf env (number, row) = some (number, message) := by
        rw [failureOf, hchecked]
      have hfailed : (rows ++ [(number, row)]).filterMap (failureOf env)
          = rows.filterMap (failureOf env) ++ [(number, message)] := by
        rw [List.filterMap_append, List.filterMap_cons_some hentry, List.filterMap_nil]
      rw [Option.toList_none, List.append_nil]
      refine ha.refuse rfl rfl ?_ rfl ?_ fun hpassed => ?_
      · rw [hfailed, List.length_append, List.length_singleton]
        rfl
      · rw [hfailed, take_snoc, ← ha.failures]
        rfl
      · obtain ⟨checked, hok⟩ := rowId_isSome.mp hpassed
        rw [hchecked] at hok
        cases hok
  | duplicateId questionId fingerprint hchecked hid =>
      rw [Option.toList_none, List.append_nil]
      refine ha.refuse rfl rfl ?_ rfl ?_ fun _ => .inl ?_
      · rw [filterMap_snoc hchecked]
        show s.counters.duplicateIds + 1 + s.counters.duplicateFingerprints + _ = _
        omega
      · rw [filterMap_snoc hchecked]
        exact ha.failures
      · rw [rowId_of_checked hchecked]
        exact (ht.ids questionId).mp hid
  | duplicateFingerprint questionId fingerprint hchecked hid hfingerprint =>
      rw [Option.toList_none, List.append_nil]
      refine ha.refuse rfl rfl ?_ rfl ?_ fun _ => .inr ?_
      · rw [filterMap_snoc hchecked]
        show s.counters.duplicateIds + (s.counters.duplicateFingerprints + 1) + _ = _
        omega
      · rw [filterMap_snoc hchecked]
        exact ha.failures
      · rw [rowFingerprint_of_checked hchecked]
        obtain ⟨y, hy, hsame⟩ := (ht.fingerprints fingerprint).mp hfingerprint
        exact ⟨_, ha.fromRows.subset (List.mem_map_of_mem hy), hsame⟩
  | accepted questionId fingerprint hchecked hid hfingerprint =>
      obtain ⟨hparsed, hvalidated, hids, hfingerprints, hsorted⟩ :=
        Counters.accept_counts disposition s.parse.counters
          (canonicalClassification disposition (decide (rowConcept env row ∉ s.parse.concepts)))
      have hlast := List.Sublist.refl [(number, row)]
      rw [Option.toList_some]
      refine ⟨?_, ?_, ?_, ?_, ?_, ?_, ?_, ?_, ?_, ?_⟩
      · exact hparsed.trans ((congrArg (· + 1) ha.parsed).trans (by simp))
      · exact hvalidated.trans ((congrArg (· + 1) ha.validated).trans (by simp))
      · rw [filterMap_snoc hchecked]
        show (s.parse.counters.accept _ _).parsed = (s.parse.counters.accept _ _).validated
          + (s.parse.counters.accept _ _).duplicateIds
          + (s.parse.counters.accept _ _).duplicateFingerprints + _
        rw [hparsed, hvalidated, hids, hfingerprints]
        have := ha.split
        show s.counters.parsed + 1 = s.counters.validated + 1 + s.counters.duplicateIds
          + s.counters.duplicateFingerprints + _
        omega
      · refine hparsed.trans (Eq.trans ?_ hsorted.symm)
        exact congrArg (· + 1) ha.sorted
      · rw [filterMap_snoc hchecked]
        exact ha.failures
      · rw [List.map_append]
        exact ha.fromRows.append hlast
      · rw [List.map_append]
        refine List.nodup_append.mpr ⟨ha.ids, List.nodup_singleton _, ?_⟩
        rintro _ hold _ hnew rfl
        obtain ⟨y, hy, hsame⟩ := List.mem_map.mp hold
        rw [List.map_singleton, List.mem_singleton, rowId_of_checked hchecked] at hnew
        refine hid ((ht.ids questionId).mpr ⟨_, ha.fromRows.subset (List.mem_map_of_mem hy), ?_⟩)
        exact hsame.trans hnew
      · intro y hy
        rcases List.mem_append.mp hy with hold | hnew
        · exact ha.passed y hold
        · obtain rfl := List.mem_singleton.mp hnew
          exact rowId_isSome.mpr ⟨_, hchecked⟩
      · rw [List.map_append]
        refine List.nodup_append.mpr ⟨ha.fingerprints, List.nodup_singleton _, ?_⟩
        rintro _ hold _ hnew rfl
        obtain ⟨y, hy, hsame⟩ := List.mem_map.mp hold
        rw [List.map_singleton, List.mem_singleton, rowFingerprint_of_checked hchecked] at hnew
        exact hfingerprint ((ht.fingerprints fingerprint).mpr ⟨y, hy, hsame.trans hnew⟩)
      · exact ha.explained.snoc fun _ => .inl ⟨_, List.mem_singleton_self _, rfl⟩

theorem prepareRows_cons (stop : Option CorpusFailure) (rows : List (Nat × Members F)) :
    prepareRows env disposition stop s ((number, row) :: rows)
      = match prepareRow env disposition s number row with
        | .error e => ⟨[], .error e⟩
        | .ok (s, none) => prepareRows env disposition stop s rows
        | .ok (s, some prepared) =>
            let rest := prepareRows env disposition stop s rows
            { rest with yields := ⟨prepared, s.counters, s.failures⟩ :: rest.yields } := rfl

/-- A stream that ends has accounted for its rows. -/
theorem prepareRows_accounts {stop : Option CorpusFailure} {more : List (Nat × Members F)}
    (ha : Accounts env rows yielded s.counters s.failures)
    (ht : Tracks env disposition rows yielded s)
    (h : (prepareRows env disposition stop s more).finished = .ok s') :
    Accounts env (rows ++ more)
        (yielded ++ (prepareRows env disposition stop s more).yields.map Yield.prepared)
        s'.counters s'.failures
      ∧ Tracks env disposition (rows ++ more)
        (yielded ++ (prepareRows env disposition stop s more).yields.map Yield.prepared) s' := by
  induction more generalizing rows yielded s with
  | nil =>
      cases stop with
      | some e => cases h
      | none =>
          obtain rfl : s = s' := Except.ok.inj h
          have hempty : yielded ++ (prepareRows env disposition none s []).yields.map Yield.prepared
              = yielded := List.append_nil yielded
          rw [hempty, List.append_nil]
          exact ⟨ha, ht⟩
  | cons r more ih =>
      obtain ⟨number, row⟩ := r
      rw [prepareRows_cons] at h ⊢
      cases hrow : prepareRow env disposition s number row with
      | error e =>
          rw [hrow] at h
          cases h
      | ok result =>
          obtain ⟨s₁, prepared⟩ := result
          have hturn := prepareRow_turn hrow
          rw [hrow] at h
          have hnext (hfinished : (prepareRows env disposition stop s₁ more).finished = .ok s') :=
            ih (ha.turn ht hturn) (ht.turn hturn) hfinished
          rw [List.append_assoc, List.append_assoc] at hnext
          cases prepared with
          | none => exact hnext h
          | some prepared => exact hnext h

/-- **The counters account for the file.** -/
theorem validateSource_accounts {manifest : Option (Members F)} {f : CorpusFile}
    {source : PhysicalSource} {c : Counters} {failures : List (Nat × Str)}
    (h : validateSource env manifest disposition f = .ok (source, c, failures)) :
    c.parsed = source.physicalRows
      ∧ Accounts env (iterRows env f).rows
          ((prepareStream env disposition f source.physicalRows).yields.map Yield.prepared)
          c failures
      ∧ (KeepsFamilies disposition → c.canonical
        = ((prepareStream env disposition f source.physicalRows).yields.map
          fun y => rowConcept env y.prepared.row).toFinset.card) := by
  unfold validateSource at h
  cases hverified : verifyPhysicalSource env manifest f with
  | error e =>
      rw [hverified] at h
      cases h
  | ok verified =>
      rw [hverified] at h
      change (prepareStream env disposition f verified.physicalRows).finished >>= _ = _ at h
      cases hfinished : (prepareStream env disposition f verified.physicalRows).finished with
      | error e =>
          rw [hfinished] at h
          cases h
      | ok s =>
          rw [hfinished] at h
          change (if _ then _ else _) = _ at h
          by_cases hparsed : (s.counters.parsed : Int) ≠ verified.physicalRows
          · rw [if_pos hparsed] at h
            cases h
          · rw [if_neg hparsed] at h
            obtain ⟨rfl, hrest⟩ := Prod.mk.inj (Except.ok.inj h)
            obtain ⟨rfl, rfl⟩ := Prod.mk.inj hrest
            obtain ⟨ha, ht⟩ := prepareRows_accounts (initial_accounts _) (initial_tracks _)
              hfinished
            refine ⟨not_not.mp hparsed, ha, fun hkeeps => ?_⟩
            rw [ht.canonical hkeeps, ← List.toFinset_card_of_nodup ht.distinct]
            refine congrArg Finset.card (Finset.ext fun x => ?_)
            rw [List.mem_toFinset, List.mem_toFinset, ht.concepts x, List.mem_map]
            constructor
            · rintro ⟨y, hy, hx⟩
              obtain ⟨z, hz, rfl⟩ := List.mem_map.mp hy
              exact ⟨z, hz, hx⟩
            · rintro ⟨z, hz, hx⟩
              exact ⟨z.prepared, List.mem_map_of_mem hz, hx⟩

end Accounts

/-! ## What a verified source says -/

section Verified

variable [Runtime F] {env : Environment F} {f : CorpusFile} {source : PhysicalSource}

theorem checkEntry_ok {sha256 : Str} {physicalRows : Int} {casefold : Str → Str}
    {entry : Members F} (h : checkEntry f sha256 physicalRows casefold entry = .ok source) :
    source.sha256 = sha256 ∧ source.physicalRows = physicalRows := by
  unfold checkEntry at h
  dsimp only at h
  split at h
  · cases h
  · split at h
    · obtain rfl := Except.ok.inj h
      exact ⟨rfl, rfl⟩
    · split at h
      · cases h
      · split at h
        · cases h
        · obtain rfl := Except.ok.inj h
          exact ⟨rfl, rfl⟩

theorem verifyPhysicalSource_ok {manifest : Option (Members F)}
    (h : verifyPhysicalSource env manifest f = .ok source) :
    source.sha256 = env.sha256Bytes f.content
      ∧ physicalRowCount env f = .ok source.physicalRows := by
  obtain ⟨rows, hrows, h⟩ := bind_eq_ok h
  rw [hrows]
  cases manifest with
  | none =>
      obtain rfl := Except.ok.inj h
      exact ⟨rfl, rfl⟩
  | some manifest =>
      dsimp only at h
      split at h
      · cases h
      · obtain ⟨hsha, hphysical⟩ := checkEntry_ok h
        exact ⟨hsha, congrArg _ hphysical.symm⟩

end Verified

/-! ## Row numbers -/

section Numbers

variable [Runtime F] {env : Environment F} {disposition : SourceDisposition}

theorem jsonlRows_numbers (path : Str) (undecoded : Option CorpusFailure) :
    ∀ lines : List (Str × Nat), ((jsonlRows path undecoded lines : RowStream F).rows.map
      Prod.fst).Sublist (lines.map Prod.snd) := by
  intro lines
  induction lines with
  | nil => exact List.Sublist.slnil
  | cons line lines ih =>
      obtain ⟨text, number⟩ := line
      rw [jsonlRows]
      by_cases hblank : isBlank text = true
      · rw [if_pos hblank]
        exact ih.cons number
      · rw [if_neg hblank]
        cases hload : (loads text : Except LoadError (Json F)) with
        | error e => cases e <;> exact List.nil_sublist _
        | ok value =>
            cases value with
            | obj row => exact ih.cons_cons number
            | _ => exact List.nil_sublist _

omit [Runtime F] in
theorem parquetRows_numbers (path : Str) (stop : Option CorpusFailure) :
    ∀ records : List (Json F × Nat), ((parquetRows path stop records).rows.map
      Prod.fst).Sublist (records.map Prod.snd) := by
  intro records
  induction records with
  | nil => exact List.Sublist.slnil
  | cons record records ih =>
      obtain ⟨value, number⟩ := record
      cases value with
      | obj row => exact ih.cons_cons number
      | _ => exact List.nil_sublist _

/-- The numbers of the rows increase from `1` on. -/
theorem iterRows_numbers (env : Environment F) (f : CorpusFile) :
    ∃ n, ((iterRows env f).rows.map Prod.fst).Sublist (List.range' 1 n) := by
  rw [iterRows]
  by_cases hjsonl : f.suffix env ∈ jsonlSuffixes
  · rw [if_pos hjsonl]
    have h := jsonlRows_numbers (F := F) f.path
    unfold iterJsonl
    exact ⟨_, (h _ _).trans (by rw [List.zipIdx_map_snd])⟩
  · rw [if_neg hjsonl]
    by_cases hparquet : f.suffix env = ".parquet"
    · rw [if_pos hparquet, iterParquet]
      cases env.parquet f.content with
      | error e => exact ⟨0, List.nil_sublist _⟩
      | ok file =>
          dsimp only
          split_ifs
          · exact ⟨_, (parquetRows_numbers _ _ _).trans (by rw [List.zipIdx_map_snd])⟩
          · exact ⟨0, List.nil_sublist _⟩
    · rw [if_neg hparquet]
      exact ⟨0, List.nil_sublist _⟩

theorem Turn.number {s s' : StreamState} {number : Nat} {row : Members F} {p : PreparedRow F}
    (h : Turn env disposition s number row s' (some p)) : p.rowNumber = number := by
  cases h
  rfl

theorem prepareRows_numbers (stop : Option CorpusFailure) (s : StreamState) :
    ∀ rows : List (Nat × Members F),
      ((prepareRows env disposition stop s rows).yields.map fun y => y.prepared.rowNumber).Sublist
        (rows.map Prod.fst) := by
  intro rows
  induction rows generalizing s with
  | nil => exact List.Sublist.slnil
  | cons r rows ih =>
      obtain ⟨number, row⟩ := r
      rw [prepareRows_cons]
      cases hrow : prepareRow env disposition s number row with
      | error e => exact List.nil_sublist _
      | ok result =>
          obtain ⟨s₁, prepared⟩ := result
          cases prepared with
          | none => exact (ih s₁).cons number
          | some p =>
              show (p.rowNumber :: _).Sublist (number :: _)
              rw [(prepareRow_turn hrow).number]
              exact (ih s₁).cons_cons number

theorem yields_sorted (f : CorpusFile) (physicalRows : Int) :
    (prepareStream env disposition f physicalRows).yields.Pairwise
      fun x y => x.prepared.rowNumber < y.prepared.rowNumber := by
  obtain ⟨n, hn⟩ := iterRows_numbers env f
  exact List.pairwise_map.mp
    (List.Pairwise.sublist ((prepareRows_numbers _ _ _).trans hn) List.pairwise_lt_range')

theorem yields_pos (f : CorpusFile) (physicalRows : Int) :
    ∀ y ∈ (prepareStream env disposition f physicalRows).yields, 0 < y.prepared.rowNumber := by
  intro y hy
  obtain ⟨n, hn⟩ := iterRows_numbers env f
  have hmem := ((prepareRows_numbers _ _ _).trans hn).subset (List.mem_map_of_mem hy)
  exact (List.mem_range'_1.mp hmem).1

end Numbers

/-! ## A file of five rows -/

def sampleRow (questionId fingerprint : Str) : Members NanoFloat :=
  requiredColumns.map fun field =>
    (field, .str (if field = "question_id" then questionId
      else if field = "content_fingerprint" then fingerprint else "x"))

/-- A row, one with its id, one with its fingerprint, one without an id, and a
variant. -/
def sampleRows : List (Json NanoFloat) :=
  [.obj (sampleRow "1" (List.replicate 64 97)), .obj (sampleRow "1" (List.replicate 64 98)),
    .obj (sampleRow "2" (List.replicate 64 97)), .obj (sampleRow "" (List.replicate 64 98)),
    .obj (sampleRow "3" (List.replicate 64 98))]

def sampleContent : ByteText := sampleRows.flatMap fun row => row.encode ++ [10]

def sampleDigest : Str := "7be8cb42c2e561a0a0bdfbbdf8f34ee56baf40452a4d0b013925d7703a9dbd48"

/-- The digests of the file, of the one concept of its rows, and of their one
solution. -/
def sampleSha256 (text : Str) : Str :=
  let fields : List Str :=
    ["expected_approach", "platform", "question_type", "subject", "subtopic", "topic"]
  let concept := (Json.obj (fields.map fun field => (field, .str "x")) : Json NanoFloat).encode
  if text = sampleContent then sampleDigest
  else if text = concept then "0a078b9c6d28ccb864549022e84ff5febbbf6fec52c7bf68412f076666c1db8b"
  else if text = "x" then "2d711642b726b04401627ca9fbac32f5c8530fb1903cc4db02258717921a4881"
  else []

def sampleEnvironment : Environment NanoFloat where
  toCsvRuntime := { plainRuntime with sha256 := sampleSha256 }
  sha256Bytes := sampleSha256
  parquet _ := .error .value
  textBefore _ := []
  indexable _ := true

def sampleFile : CorpusFile := ⟨"corpus.jsonl", sampleContent⟩

def sampleCounters : Counters where
  physicalSourceRows := 5
  parsed := 5
  validated := 2
  rejected := 3
  duplicateIds := 1
  duplicateFingerprints := 1
  canonical := 1
  variants := 1

theorem validateSource_accounts_sample :
    Accounts sampleEnvironment (iterRows sampleEnvironment sampleFile).rows
      ((prepareStream sampleEnvironment .hostableLicensed sampleFile 5).yields.map Yield.prepared)
      sampleCounters [(4, "question_id is required")] :=
  have h : validateSource sampleEnvironment none .hostableLicensed sampleFile
      = .ok (⟨sampleDigest, 5, none⟩, sampleCounters, [(4, "question_id is required")]) := by
    decide +kernel
  (validateSource_accounts h).2.1

end Rigor.LargeCorpus
