import Rigor.FirstFailure
import Rigor.Ingestion
import Rigor.PyBytes
import Rigor.PyCsv
import Rigor.PyJsonLines

/-!
# Uploads

`SafeUploadParser` reads four formats, and has an `IngestionError` for each
upload that it does not take. Some errors of the libraries escape it: the limits
of `json.loads` in every format, a row of a CSV file with more cells than the
header or a line break that `csv` does not take, a member of an archive that
cannot be read, and a file of a package that is not the text of its encoding. An
upload is decided exactly where none of them is reached (`decided_iff`).
-/

namespace Rigor.Uploads

open Py

variable {F : Type}

/-- An error of `zipfile`. -/
inductive ZipError where
  | badZip  -- `BadZipFile`
  | other
  deriving DecidableEq

/-- What is not an `IngestionError`. -/
inductive Escape where
  | unicodeDecode
  | load (e : LoadError)
  | csv (e : CsvError)
  | attribute  -- `list` has no `strip`
  | zip (e : ZipError)
  deriving DecidableEq

inductive UploadFailure where
  | ingestion (statusCode : Nat) (message : Str)
  | escape (e : Escape)
  deriving DecidableEq

/-- A record of the parser, with its `source_path`. -/
structure ParsedRecord (F : Type) where
  sourcePath : Str
  record : SourceRecord (Dict F)

structure ZipEntry where
  filename : Str
  flagBits : Nat
  externalAttr : Nat
  fileSize : Nat
  compressSize : Nat
  deriving DecidableEq

/-- `zipfile`: the entries of an archive, and the bytes of a member. -/
structure ZipLibrary where
  infolist : ByteText → Except ZipError (List ZipEntry)
  read : ByteText → ZipEntry → Except ZipError ByteText

/-! ## Paths -/

/-- The parts of a `PurePosixPath` without its root. -/
def pathParts (path : Str) : List Str :=
  (path.splitOnP (· = 47)).filter fun part => part ≠ [] ∧ part ≠ [46]

def pathName (path : Str) : Str := (pathParts path).getLast?.getD []

/-- `PurePosixPath.suffix`. -/
def pathSuffix (path : Str) : Str :=
  let name := pathName path
  let suffix := (name.reverse.takeWhile (· ≠ 46)).reverse
  let front := (name.reverse.dropWhile (· ≠ 46)).drop 1
  if suffix = [] ∨ front = [] then [] else 46 :: suffix

def joinPath (parts : List Str) : Str := [47].intercalate parts

/-- `str(PurePosixPath(path).parent)`. -/
def pathParent (path : Str) : Str :=
  let parts := (pathParts path).dropLast
  let root : Str := if path.head? = some 47 then [47] else []
  if parts = [] ∧ root = [] then [46] else root ++ joinPath parts

def maxUploadBytes : Nat := 25 * 1024 * 1024

def maxUncompressedBytes : Nat := 50 * 1024 * 1024

def maxZipEntries : Nat := 2000

def maxCompressionRatio : Nat := 100

def allowedSuffixes : List Str :=
  [".json", ".jsonl", ".csv", ".sql", ".py", ".md", ".txt", ".png", ".jpg", ".jpeg", ".webp"]

def allowedPythonFiles : List Str :=
  ["starter.py", "reference_solution.py", "test_reference.py", "tests/test_public.py",
    "tests/test_hidden.py"]

/-! ## JSON -/

section Parsing

variable [Runtime F]

/-- What `json.loads` raises, where only the named errors are caught. -/
def loadFailure (refused : UploadFailure) : LoadError → UploadFailure
  | .decode => refused
  | .intDigits => .escape (.load .intDigits)
  | .recursion => .escape (.load .recursion)

def objects (values : List (Json F)) : Option (List (Dict F)) :=
  values.mapM fun
    | .obj members => some members
    | _ => none

/-- `f"{filename}#{index}"`. -/
def recordPath (filename : Str) (index : Nat) : Str := filename ++ [35] ++ natText index

def jsonRecords (filename : Str) (content : ByteText) :
    Except UploadFailure (List (ParsedRecord F)) :=
  match loadsBytes content with
  | .error .unicodeDecode => .error (.ingestion 422 "JSON upload is malformed")
  | .error (.load e) => .error (loadFailure (.ingestion 422 "JSON upload is malformed") e)
  | .ok parsed =>
      let values := match parsed with
        | .arr values => values
        | value => [value]
      match objects values with
      | none => .error (.ingestion 422 "JSON records must be objects")
      | some payloads =>
          .ok ((payloads.zipIdx 1).map fun x =>
            ⟨recordPath filename x.2, ⟨x.1, .complete⟩⟩)

/-! ## JSONL -/

/-- A line of a JSONL upload; a blank one has no record. -/
def jsonlLine (filename : Str) (line : Str × Nat) :
    Except UploadFailure (Option (ParsedRecord F)) :=
  if isBlank line.1 then .ok none
  else
    match loads line.1 with
    | .error e => .error (loadFailure
        (.ingestion 422 (("Malformed JSONL record on line " : Str) ++ natText line.2)) e)
    | .ok (.obj members) =>
        .ok (some ⟨recordPath filename line.2, ⟨members, .complete⟩⟩)
    | .ok _ => .error
        (.ingestion 422 (("JSONL line " : Str) ++ natText line.2 ++ " must be an object"))

/-- `content.decode("utf-8")`, which takes no surrogates. -/
def decodeStrict (content : ByteText) : Option Str := (decodeUtf8 content).filter isEncodable

def jsonlRecords (filename : Str) (content : ByteText) :
    Except UploadFailure (List (ParsedRecord F)) :=
  match decodeStrict content with
  | none => .error (.ingestion 422 "JSONL upload must be UTF-8")
  | some text => (((splitlines text).zipIdx 1).mapM (jsonlLine filename)).map List.reduceOption

/-! ## CSV -/

def requiredColumns : List Str :=
  ["id", "title", "slug", "primary_track", "difficulty", "role_level", "author", "license",
    "provenance"]

/-- The lines of `io.StringIO(text)`, each with its end. -/
def stringLines : Str → List Str
  | [] => []
  | c :: t =>
      if c = 10 then [c] :: stringLines t
      else
        match stringLines t with
        | [] => [[c]]
        | l :: ls => (c :: l) :: ls

/-- The payload of a row: the stripped cells, those that are missing empty, and
three of them as lists. -/
def rowPayload (header cells : List Str) : Dict F :=
  let cell := (header.drop cells.length).foldl (fun row key => Json.insert key (.str []) row)
    (Json.ofPairs ((header.zip cells).map fun x => (x.1, Json.str (strip x.2))))
  ([("secondary_skills" : Str), "company_style_tags", "learning_objectives"]).foldl
    (fun payload field =>
      let text := match Json.lookup field payload with
        | some (.str text) => text
        | _ => []
      let values := ((text.splitOnP (· = 59)).filter fun value => !isBlank value).map strip
      Json.insert field (.arr (values.map Json.str)) payload) cell

/-- A row under the header. -/
def csvRow (filename : Str) (header : List Str) (row : List Str × Nat) :
    Except UploadFailure (ParsedRecord F) :=
  if header.length < row.1.length then .error (.escape .attribute)
  else .ok ⟨recordPath filename row.2, ⟨rowPayload header row.1, .metadataDraft⟩⟩

/-- The rows behind the header, until the reader stops. -/
def csvRows (filename : Str) (header : List Str) (records : List (List Str))
    (stop : Option CsvError) : Except UploadFailure (List (ParsedRecord F)) := do
  let rows ← ((records.filter (· ≠ [])).zipIdx 2).mapM (csvRow filename header)
  match stop with
  | some e => .error (.escape (.csv e))
  | none => .ok rows

def missingColumns (header : List Str) : List Str :=
  (requiredColumns.filter (· ∉ header)).insertionSort (· ≤ ·)

/-- `utf-8-sig`. -/
def decodeUtf8Sig (content : ByteText) : Option Str :=
  decodeStrict (if [0xEF, 0xBB, 0xBF].isPrefixOf content then content.drop 3 else content)

def csvRecordsOf (filename : Str) (records : List (List Str)) (stop : Option CsvError) :
    Except UploadFailure (List (ParsedRecord F)) :=
  let refused (header : List Str) : UploadFailure := .ingestion 422
    (("CSV is missing columns: " : Str) ++ [44, 32].intercalate (missingColumns header))
  match records, stop with
  | [], some e => .error (.escape (.csv e))
  | [], none => .error (refused [])
  | header :: records, stop =>
      if missingColumns header ≠ [] then .error (refused header)
      else csvRows filename header records stop

def csvRecords (filename : Str) (content : ByteText) :
    Except UploadFailure (List (ParsedRecord F)) :=
  match decodeUtf8Sig content with
  | none => .error (.ingestion 422 "CSV upload must be UTF-8")
  | some text =>
      let (records, stop) := Py.csvRecords 131072 .start (stringLines text)
      csvRecordsOf filename records stop

/-! ## ZIP -/

/-- What the loop does with an entry before it reads it. -/
inductive EntryCheck where
  | refused (statusCode : Nat) (message : Str)
  | directory
  | file
  deriving DecidableEq

def isDirectory (entry : ZipEntry) : Bool := entry.filename.getLast? = some 47

/-- The checks of an entry behind files of `total` bytes; `casefold` is
`str.casefold`. -/
def checkEntry (casefold : Str → Str) (total : Nat) (entry : ZipEntry) : EntryCheck :=
  let parts := pathParts entry.filename
  let suffix := casefold (pathSuffix entry.filename)
  let name := pathName entry.filename
  let relative :=
    if (Str.ofString ".py").isSuffixOf name then joinPath (parts.drop (parts.length - 2)) else name
  if entry.filename.head? = some 47 ∨ ("..": Str) ∈ parts ∨ 92 ∈ entry.filename then
    .refused 422 "ZIP contains an unsafe path"
  else if entry.flagBits % 2 = 1 then .refused 422 "Encrypted ZIP entries are unsupported"
  else if entry.externalAttr / 65536 / 4096 % 16 = 10 then
    .refused 422 "ZIP symbolic links are unsupported"
  else if isDirectory entry then .directory
  else if suffix ∉ allowedSuffixes then
    .refused 415 (("Unsupported ZIP file type: " : Str)
      ++ if suffix = [] then Str.ofString "none" else suffix)
  else if suffix = ".py" ∧ relative ∉ allowedPythonFiles then
    .refused 415 (("Unexpected executable Python file: " : Str) ++ entry.filename)
  else if maxUncompressedBytes < total + entry.fileSize then
    .refused 413 "ZIP expands beyond the 50 MiB limit"
  else if maxCompressionRatio * max entry.compressSize 1 < entry.fileSize then
    .refused 422 "ZIP entry has an excessive compression ratio"
  else .file

/-- The files by name, the later of two under one. -/
def setFile (files : List (Str × ByteText)) (name : Str) (bytes : ByteText) :
    List (Str × ByteText) :=
  files.filter (fun file => file.1 ≠ name) ++ [(name, bytes)]

/-- The name of an entry without the slashes at its end. -/
def entryName (entry : ZipEntry) : Str :=
  (entry.filename.reverse.dropWhile (· = 47)).reverse

/-- An entry on top of the bytes and files that are read. -/
def readEntry (casefold : Str → Str) (lib : ZipLibrary) (content : ByteText)
    (state : Nat × List (Str × ByteText)) (entry : ZipEntry) :
    Except UploadFailure (Nat × List (Str × ByteText)) :=
  match checkEntry casefold state.1 entry with
  | .refused statusCode message => .error (.ingestion statusCode message)
  | .directory => .ok state
  | .file =>
      match lib.read content entry with
      | .error e => .error (.escape (.zip e))
      | .ok bytes => .ok (state.1 + entry.fileSize, setFile state.2 (entryName entry) bytes)

def packagePath (directory name : Str) : Str :=
  if directory = [46] then name else directory ++ [47] ++ name

/-- `required` of `_assemble_package`. -/
def requiredFile (files : List (Str × ByteText)) (directory name : Str) :
    Except UploadFailure ByteText :=
  match files.lookup (packagePath directory name) with
  | some bytes => .ok bytes
  | none => .error (.ingestion 422
      (("Package " : Str) ++ directory ++ " is missing " ++ name))

/-- A JSON file of a package. -/
def sidecar (files : List (Str × ByteText)) (directory name : Str) :
    Except UploadFailure (Json F) := do
  let bytes ← requiredFile files directory name
  match loadsBytes bytes with
  | .ok value => .ok value
  | .error .unicodeDecode => .error (.escape .unicodeDecode)
  | .error (.load e) => .error (loadFailure
      (.ingestion 422 (("Package " : Str) ++ directory ++ " contains malformed JSON")) e)

def sidecarNames : List Str := ["question.json", "solution.json", "rubric.json", "metadata.json"]

/-- The other files of a package, by the type of its question. -/
def companions (payload : Dict F) : List Str :=
  match Json.lookup "question_type" payload with
  | some (.str type) =>
      if type = "python_coding" then
        ["starter.py", "reference_solution.py", "tests/test_public.py", "tests/test_hidden.py"]
      else if type = "sql_coding" then ["schema.sql", "seed.sql", "reference_solution.sql"]
      else []
  | _ => []

/-- `{**question, **metadata, **solution, "rubric": rubric}`. -/
def packagePayload (directory : Str) : List (Json F) → Except UploadFailure (Dict F)
  | [.obj question, .obj solution, .obj rubric, .obj metadata] =>
      .ok (Json.ofPairs (question ++ metadata ++ solution 
        ++ [(Str.ofString "rubric", Json.obj rubric)]))
  | _ => .error (.ingestion 422
      (("Package " : Str) ++ directory ++ " sidecars must contain JSON objects"))

def assemblePackage (directory : Str) (files : List (Str × ByteText)) :
    Except UploadFailure (Dict F) := do
  let values ← sidecarNames.mapM (sidecar files directory)
  let payload ← packagePayload directory values
  let _ ← (companions payload).mapM (requiredFile files directory)
  .ok payload

/-- `str(payload.get(key, ""))`. -/
def payloadText (key : Str) (payload : Dict F) : Str :=
  match Json.lookup key payload with
  | none => []
  | some value => value.pyStr

structure ZipRecords (F : Type) where
  records : List (ParsedRecord F)
  seenIds : List Str
  seenSlugs : List Str

/-- A package on top of those that are assembled. -/
def addPackage (files : List (Str × ByteText)) (state : ZipRecords F) (questionPath : Str) :
    Except UploadFailure (ZipRecords F) := do
  let payload ← assemblePackage (pathParent questionPath) files
  let id := payloadText "id" payload
  let slug := payloadText "slug" payload
  if id ∈ state.seenIds then .error (.ingestion 422 (("Duplicate ID in ZIP: " : Str) ++ id))
  else if slug ∈ state.seenSlugs then
    .error (.ingestion 422 (("Duplicate slug in ZIP: " : Str) ++ slug))
  else .ok ⟨state.records ++ [⟨questionPath, ⟨payload, .complete⟩⟩], id :: state.seenIds,
    slug :: state.seenSlugs⟩

def questionPaths (files : List (Str × ByteText)) : List Str :=
  ((files.map Prod.fst).filter fun path => pathName path = "question.json").insertionSort (· ≤ ·)

def zipRecords (casefold : Str → Str) (lib : ZipLibrary) (content : ByteText) :
    Except UploadFailure (List (ParsedRecord F)) :=
  match lib.infolist content with
  | .error .badZip => .error (.ingestion 422 "ZIP upload is malformed")
  | .error .other => .error (.escape (.zip .other))
  | .ok entries =>
      if maxZipEntries < entries.length then .error (.ingestion 413 "ZIP contains too many entries")
      else do
        let (_, files) ← entries.foldlM (readEntry casefold lib content) (0, [])
        if questionPaths files = [] then
          .error (.ingestion 422 "ZIP contains no structured question packages")
        else
          let state ← (questionPaths files).foldlM (addPackage files) ⟨[], [], []⟩
          .ok state.records

/-- `SafeUploadParser.parse`. -/
def parse (casefold : Str → Str) (lib : ZipLibrary) (filename : Str) (content : ByteText) :
    Except UploadFailure (Str × List (ParsedRecord F)) :=
  if filename = [] ∨ 500 < filename.length then
    .error (.ingestion 422 "A safe source filename is required")
  else if maxUploadBytes < content.length then
    .error (.ingestion 413 "Upload exceeds the 25 MiB limit")
  else
    let suffix := casefold (pathSuffix filename)
    if suffix = ".json" then (jsonRecords filename content).map ((Str.ofString "json"), ·)
    else if suffix = ".jsonl" then (jsonlRecords filename content).map ((Str.ofString "jsonl"), ·)
    else if suffix = ".csv" then (csvRecords filename content).map ((Str.ofString "csv"), ·)
    else if suffix = ".zip" then (zipRecords casefold lib content).map ((Str.ofString "zip"), ·)
    else .error (.ingestion 415 "Supported uploads are .json, .jsonl, .csv, and .zip")

/-! ## Escapes -/

/-- An error that is not an `IngestionError`. -/
def Escaping {α : Type} (r : Except UploadFailure α) : Prop := ∃ e, r = .error (.escape e)

variable (F) in
/-- An integer of too many digits, or too deep a nesting. -/
def BeyondLimits (content : ByteText) : Prop :=
  loadsBytes (F := F) content = .error (.load .intDigits)
    ∨ loadsBytes (F := F) content = .error (.load .recursion)

variable (F) in
/-- The first line that is not blank nor an object is beyond the limits. -/
def JsonlEscapes (content : ByteText) : Prop :=
  ∃ text front line back, decodeStrict content = some text
    ∧ splitlines text = front ++ line :: back
    ∧ (∀ l ∈ front, isBlank l = true ∨ ∃ members : Dict F, loads l = .ok (.obj members))
    ∧ isBlank line = false
    ∧ (loads (F := F) line = .error .intDigits ∨ loads (F := F) line = .error .recursion)

/-- The reader stops before the header, or behind a header with the required
columns it stops or yields a row with too many cells. -/
def CsvEscapes (content : ByteText) : Prop :=
  ∃ text records stop, decodeUtf8Sig content = some text
    ∧ Py.csvRecords 131072 .start (stringLines text) = (records, stop)
    ∧ (records = [] ∧ stop ≠ none
      ∨ ∃ header rows, records = header :: rows ∧ requiredColumns ⊆ header
        ∧ (stop ≠ none ∨ ∃ row ∈ rows, header.length < row.length))

variable (F) in
/-- The first JSON file of the package that is missing or not read is one that
has no text in its encoding or is beyond the limits. -/
def PackageEscapes (files : List (Str × ByteText)) (directory : Str) : Prop :=
  ∃ front name back, sidecarNames = front ++ name :: back
    ∧ (∀ n ∈ front, ∃ bytes, ∃ value : Json F,
      files.lookup (packagePath directory n) = some bytes ∧ loadsBytes bytes = .ok value)
    ∧ ∃ bytes, files.lookup (packagePath directory name) = some bytes
      ∧ (loadsBytes (F := F) bytes = .error .unicodeDecode ∨ BeyondLimits F bytes)

variable (F) in
/-- The archive cannot be opened for another reason than that it is no archive,
or behind entries that are read is one that is not, or behind packages that are
assembled is one that escapes. -/
def ZipEscapes (casefold : Str → Str) (lib : ZipLibrary) (content : ByteText) : Prop :=
  lib.infolist content = .error .other
    ∨ ∃ entries, lib.infolist content = .ok entries ∧ entries.length ≤ maxZipEntries
      ∧ ((∃ front entry back state, entries = front ++ entry :: back
          ∧ front.foldlM (readEntry casefold lib content) (0, []) = .ok state
          ∧ checkEntry casefold state.1 entry = .file ∧ ∃ e, lib.read content entry = .error e)
        ∨ ∃ state, entries.foldlM (readEntry casefold lib content) (0, []) = .ok state
          ∧ ∃ front path back, ∃ zip : ZipRecords F,
            questionPaths state.2 = front ++ path :: back
            ∧ front.foldlM (addPackage state.2) ⟨[], [], []⟩ = .ok zip
            ∧ PackageEscapes F state.2 (pathParent path))

variable (F) in
/-- An upload of the sizes that are taken reaches an error that is not caught. -/
def UploadEscapes (casefold : Str → Str) (lib : ZipLibrary) (filename : Str) (content : ByteText) :
    Prop :=
  filename ≠ [] ∧ filename.length ≤ 500 ∧ content.length ≤ maxUploadBytes
    ∧ (casefold (pathSuffix filename) = ".json" ∧ BeyondLimits F content
      ∨ casefold (pathSuffix filename) = ".jsonl" ∧ JsonlEscapes F content
      ∨ casefold (pathSuffix filename) = ".csv" ∧ CsvEscapes content
      ∨ casefold (pathSuffix filename) = ".zip" ∧ ZipEscapes F casefold lib content)

variable (F) in
/-- Records are returned or an `IngestionError` is raised. -/
def Decided (casefold : Str → Str) (lib : ZipLibrary) (filename : Str) (content : ByteText) :
    Prop :=
  ¬Escaping (parse (F := F) casefold lib filename content)

theorem escaping_map {α β : Type} {r : Except UploadFailure α} {f : α → β} :
    Escaping (r.map f) ↔ Escaping r := by
  cases r with
  | error e =>
      constructor
      · rintro ⟨e', h⟩
        cases h
        exact ⟨e', rfl⟩
      · rintro ⟨e', h⟩
        cases h
        exact ⟨e', rfl⟩
  | ok a => exact iff_of_false nofun nofun

theorem not_escaping_ok {α : Type} {a : α} : ¬Escaping (.ok a : Except UploadFailure α) := nofun

theorem not_escaping_ingestion {α : Type} {statusCode : Nat} {message : Str} :
    ¬Escaping (.error (.ingestion statusCode message) : Except UploadFailure α) := nofun

theorem escaping_escape {α : Type} {e : Escape} :
    Escaping (.error (.escape e) : Except UploadFailure α) := ⟨e, rfl⟩

theorem escaping_loadFailure {α : Type} {statusCode : Nat} {message : Str} {e : LoadError} :
    Escaping (.error (loadFailure (.ingestion statusCode message) e) : Except UploadFailure α)
      ↔ e = .intDigits ∨ e = .recursion := by
  cases e with
  | decode => exact iff_of_false not_escaping_ingestion (by simp)
  | intDigits => exact iff_of_true escaping_escape (.inl rfl)
  | recursion => exact iff_of_true escaping_escape (.inr rfl)

theorem escaping_mapM {α β : Type} {f : α → Except UploadFailure β} {xs : List α} :
    Escaping (xs.mapM f) ↔ ∃ front x back, xs = front ++ x :: back
      ∧ (∀ y ∈ front, ∃ b, f y = .ok b) ∧ Escaping (f x) := by
  constructor
  · rintro ⟨e, h⟩
    obtain ⟨front, x, back, hxs, hfront, hx⟩ := FirstFailure.mapM_error.mp h
    exact ⟨front, x, back, hxs, hfront, e, hx⟩
  · rintro ⟨front, x, back, hxs, hfront, e, hx⟩
    exact ⟨e, FirstFailure.mapM_error.mpr ⟨front, x, back, hxs, hfront, hx⟩⟩

theorem escaping_foldlM {α σ : Type} {f : σ → α → Except UploadFailure σ} {xs : List α} {s : σ} :
    Escaping (xs.foldlM f s) ↔ ∃ front x back s', xs = front ++ x :: back
      ∧ front.foldlM f s = .ok s' ∧ Escaping (f s' x) := by
  constructor
  · rintro ⟨e, h⟩
    obtain ⟨front, x, back, s', hxs, hfront, hx⟩ := FirstFailure.foldlM_error.mp h
    exact ⟨front, x, back, s', hxs, hfront, e, hx⟩
  · rintro ⟨front, x, back, s', hxs, hfront, e, hx⟩
    exact ⟨e, FirstFailure.foldlM_error.mpr ⟨front, x, back, s', hxs, hfront, hx⟩⟩

theorem escaping_bind {α β : Type} {r : Except UploadFailure α} {f : α → Except UploadFailure β} :
    Escaping (r >>= f) ↔ Escaping r ∨ ∃ a, r = .ok a ∧ Escaping (f a) := by
  cases r with
  | error e => simp [Escaping, bind, Except.bind]
  | ok a =>
      constructor
      · exact fun h => .inr ⟨a, rfl, h⟩
      · rintro (⟨e, h⟩ | ⟨a', h, hf⟩)
        · cases h
        · cases h
          exact hf

theorem escaping_json {filename : Str} {content : ByteText} :
    Escaping (jsonRecords (F := F) filename content) ↔ BeyondLimits F content := by
  unfold jsonRecords BeyondLimits
  cases hload : loadsBytes (F := F) content with
  | error e =>
      cases e with
      | unicodeDecode => exact iff_of_false not_escaping_ingestion (by simp)
      | load e =>
          refine Iff.trans escaping_loadFailure ?_
          simp
  | ok parsed =>
      refine iff_of_false ?_ (by simp)
      dsimp only
      cases parsed <;> dsimp only <;> split <;> nofun

/-- The first of numbered elements that fails. -/
theorem escaping_zipIdx {α β : Type} {f : α × Nat → Except UploadFailure β} {p q : α → Prop}
    (hgood : ∀ x n, (∃ b, f (x, n) = .ok b) ↔ p x) (hbad : ∀ x n, Escaping (f (x, n)) ↔ q x)
    {xs : List α} {k : Nat} : Escaping ((xs.zipIdx k).mapM f)
      ↔ ∃ front x back, xs = front ++ x :: back ∧ (∀ y ∈ front, p y) ∧ q x := by
  rw [escaping_mapM]
  constructor
  · rintro ⟨front, ⟨x, n⟩, back, hxs, hfront, hx⟩
    refine ⟨front.map Prod.fst, x, back.map Prod.fst, ?_, ?_, (hbad x n).mp hx⟩
    · have := congrArg (List.map Prod.fst) hxs
      simpa using this
    · intro y hy
      obtain ⟨⟨y', m⟩, hmem, rfl⟩ := List.mem_map.mp hy
      exact (hgood y' m).mp (hfront _ hmem)
  · rintro ⟨front, x, back, rfl, hfront, hx⟩
    refine ⟨front.zipIdx k, (x, front.length + k), back.zipIdx (front.length + k + 1), ?_, ?_,
      (hbad x _).mpr hx⟩
    · simp [List.zipIdx_append, List.zipIdx_cons, Nat.add_comm]
    · rintro ⟨y, m⟩ hy
      exact (hgood y m).mpr (hfront y (List.fst_mem_of_mem_zipIdx hy))

theorem jsonlLine_ok {filename line : Str} {n : Nat} :
    (∃ r, jsonlLine (F := F) filename (line, n) = .ok r)
      ↔ isBlank line = true ∨ ∃ members : Dict F, loads line = .ok (.obj members) := by
  unfold jsonlLine
  dsimp only
  split_ifs with hblank
  · exact iff_of_true ⟨_, rfl⟩ (.inl hblank)
  · cases hload : loads (F := F) line with
    | error e => simp [hblank]
    | ok value => cases value <;> simp [hblank]

theorem escaping_jsonlLine {filename line : Str} {n : Nat} :
    Escaping (jsonlLine (F := F) filename (line, n)) ↔ isBlank line = false
      ∧ (loads (F := F) line = .error .intDigits ∨ loads (F := F) line = .error .recursion) := by
  unfold jsonlLine
  dsimp only
  split_ifs with hblank
  · exact iff_of_false not_escaping_ok (by simp [hblank])
  · cases hload : loads (F := F) line with
    | error e =>
        refine Iff.trans escaping_loadFailure ?_
        simp [hblank]
    | ok value =>
        refine iff_of_false ?_ (by simp)
        cases value <;> nofun

theorem escaping_jsonl {filename : Str} {content : ByteText} :
    Escaping (jsonlRecords (F := F) filename content) ↔ JsonlEscapes F content := by
  unfold jsonlRecords JsonlEscapes
  cases htext : decodeStrict content with
  | none => exact iff_of_false not_escaping_ingestion (by simp)
  | some text =>
      refine Iff.trans escaping_map ?_
      refine Iff.trans (escaping_zipIdx (fun _ _ => jsonlLine_ok) fun _ _ => escaping_jsonlLine) ?_
      simp

omit [Runtime F] in
theorem escaping_csvRows {filename : Str} {header : List Str} {records : List (List Str)}
    {stop : Option CsvError} : Escaping (csvRows (F := F) filename header records stop)
      ↔ stop ≠ none ∨ ∃ row ∈ records, header.length < row.length := by
  unfold csvRows
  have hrows : Escaping (((records.filter (· ≠ [])).zipIdx 2).mapM
      (csvRow (F := F) filename header)) ↔ ∃ row ∈ records, header.length < row.length := by
    refine Iff.trans (escaping_zipIdx
      (p := fun row => decide (header.length < row.length) = false)
      (q := fun row => decide (header.length < row.length) = true) ?_ ?_) ?_
    · intro row n
      unfold csvRow
      split_ifs with h <;> simp [h]
    · intro row n
      unfold csvRow
      split_ifs with h
      · exact iff_of_true escaping_escape (by simpa using h)
      · exact iff_of_false not_escaping_ok (by simpa using h)
    · refine Iff.trans FirstFailure.exists_first_iff ?_
      constructor
      · rintro ⟨row, hrow, h⟩
        exact ⟨row, (List.mem_filter.mp hrow).1, by simpa using h⟩
      · rintro ⟨row, hrow, h⟩
        refine ⟨row, List.mem_filter.mpr ⟨hrow, ?_⟩, by simpa using h⟩
        have : row ≠ [] := List.ne_nil_of_length_pos (by omega)
        simpa using this
  rw [escaping_bind, hrows]
  constructor
  · rintro (h | ⟨rows, -, h⟩)
    · exact .inr h
    · cases stop with
      | none => exact absurd h not_escaping_ok
      | some e => exact .inl nofun
  · rintro (h | h)
    · cases hrun : ((records.filter (· ≠ [])).zipIdx 2).mapM (csvRow (F := F) filename header) with
      | error e =>
          -- a row raises nothing that is caught
          obtain ⟨_, row, _, -, -, hrow⟩ := FirstFailure.mapM_error.mp hrun
          unfold csvRow at hrow
          split_ifs at hrow
          cases hrow
          rw [hrun] at hrows
          exact .inl (hrows.mp escaping_escape)
      | ok rows =>
          refine .inr ⟨rows, rfl, ?_⟩
          cases stop with
          | none => exact absurd rfl h
          | some e => exact escaping_escape
    · exact .inl h

theorem missingColumns_eq_nil {header : List Str} :
    missingColumns header = [] ↔ requiredColumns ⊆ header := by
  unfold missingColumns
  rw [← List.length_eq_zero_iff, List.length_insertionSort, List.length_eq_zero_iff,
    List.filter_eq_nil_iff]
  simp [List.subset_def]

omit [Runtime F] in
theorem escaping_csv {filename : Str} {content : ByteText} :
    Escaping (csvRecords (F := F) filename content) ↔ CsvEscapes content := by
  unfold csvRecords CsvEscapes
  cases htext : decodeUtf8Sig content with
  | none => exact iff_of_false not_escaping_ingestion (by simp)
  | some text =>
      cases hread : Py.csvRecords 131072 .start (stringLines text) with
      | mk records stop =>
          have hall : (∃ text' records' stop', some text = some text'
              ∧ Py.csvRecords 131072 .start (stringLines text') = (records', stop')
              ∧ (records' = [] ∧ stop' ≠ none
                ∨ ∃ header rows, records' = header :: rows ∧ requiredColumns ⊆ header
                  ∧ (stop' ≠ none ∨ ∃ row ∈ rows, header.length < row.length)))
              ↔ (records = [] ∧ stop ≠ none
                ∨ ∃ header rows, records = header :: rows ∧ requiredColumns ⊆ header
                  ∧ (stop ≠ none ∨ ∃ row ∈ rows, header.length < row.length)) := by
            constructor
            · rintro ⟨text', records', stop', h, hread', hcase⟩
              cases h
              rw [hread] at hread'
              cases hread'
              exact hcase
            · exact fun hcase => ⟨text, records, stop, rfl, hread, hcase⟩
          rw [hall]
          dsimp only
          rw [hread]
          dsimp only
          unfold csvRecordsOf
          cases records with
          | nil =>
              cases stop with
              | none => exact iff_of_false not_escaping_ingestion (by simp)
              | some e => exact iff_of_true escaping_escape (.inl ⟨rfl, nofun⟩)
          | cons header rows =>
              dsimp only
              split_ifs with hmissing
              · refine iff_of_false not_escaping_ingestion ?_
                rintro (⟨h, -⟩ | ⟨header', rows', h, hsubset, -⟩)
                · cases h
                · cases h
                  exact hmissing (missingColumns_eq_nil.mpr hsubset)
              · rw [escaping_csvRows]
                constructor
                · intro h
                  exact .inr ⟨header, rows, rfl,
                    missingColumns_eq_nil.mp (not_not.mp hmissing), h⟩
                · rintro (⟨h, -⟩ | ⟨header', rows', h, -, hcase⟩)
                  · cases h
                  · cases h
                    exact hcase

theorem sidecar_ok {files : List (Str × ByteText)} {directory name : Str} :
    (∃ v, sidecar (F := F) files directory name = .ok v) ↔ ∃ bytes, ∃ value : Json F,
      files.lookup (packagePath directory name) = some bytes ∧ loadsBytes bytes = .ok value := by
  unfold sidecar requiredFile
  cases hfile : files.lookup (packagePath directory name) with
  | none => simp [bind, Except.bind]
  | some bytes =>
      cases hload : loadsBytes (F := F) bytes with
      | error e => cases e <;> simp [bind, Except.bind, hload]
      | ok value => simp [bind, Except.bind, hload]

theorem escaping_sidecar {files : List (Str × ByteText)} {directory name : Str} :
    Escaping (sidecar (F := F) files directory name) ↔ ∃ bytes,
      files.lookup (packagePath directory name) = some bytes
        ∧ (loadsBytes (F := F) bytes = .error .unicodeDecode ∨ BeyondLimits F bytes) := by
  unfold sidecar requiredFile BeyondLimits
  cases hfile : files.lookup (packagePath directory name) with
  | none => exact iff_of_false nofun (by simp)
  | some bytes =>
      simp only [Option.some.injEq, exists_eq_left']
      cases hload : loadsBytes (F := F) bytes with
      | error e =>
          cases e with
          | unicodeDecode =>
              refine iff_of_true ⟨.unicodeDecode, ?_⟩ (.inl rfl)
              simp [bind, Except.bind, hload]
          | load e =>
              have hrun : (do
                  let bytes ← (Except.ok bytes : Except UploadFailure ByteText)
                  match loadsBytes (F := F) bytes with
                  | .ok value => .ok value
                  | .error .unicodeDecode => .error (.escape .unicodeDecode)
                  | .error (.load e) => .error (loadFailure (.ingestion 422
                      (("Package " : Str) ++ directory ++ " contains malformed JSON")) e))
                  = .error (loadFailure (.ingestion 422
                      (("Package " : Str) ++ directory ++ " contains malformed JSON")) e) := by
                simp [bind, Except.bind, hload]
              rw [hrun, escaping_loadFailure]
              simp
      | ok value =>
          refine iff_of_false ?_ (by simp)
          rintro ⟨e, h⟩
          simp [bind, Except.bind, hload] at h

theorem not_escaping_requiredFile {files : List (Str × ByteText)} {directory name : Str} :
    ¬Escaping (requiredFile files directory name) := by
  unfold requiredFile
  split <;> nofun

theorem escaping_assemblePackage {files : List (Str × ByteText)} {directory : Str} :
    Escaping (assemblePackage (F := F) directory files) ↔ PackageEscapes F files directory := by
  unfold assemblePackage PackageEscapes
  rw [escaping_bind, escaping_mapM]
  simp only [sidecar_ok, escaping_sidecar]
  refine or_iff_left ?_
  rintro ⟨values, -, h⟩
  rw [escaping_bind] at h
  rcases h with h | ⟨payload, -, h⟩
  · unfold packagePayload at h
    split at h <;> exact absurd h nofun
  · rw [escaping_bind, escaping_mapM] at h
    rcases h with ⟨_, name, _, -, -, h⟩ | ⟨_, -, h⟩
    · exact not_escaping_requiredFile h
    · exact not_escaping_ok h

theorem escaping_addPackage {files : List (Str × ByteText)} {state : ZipRecords F} {path : Str} :
    Escaping (addPackage files state path) ↔ PackageEscapes F files (pathParent path) := by
  unfold addPackage
  rw [escaping_bind, escaping_assemblePackage]
  refine or_iff_left ?_
  rintro ⟨payload, -, h⟩
  dsimp only at h
  split_ifs at h <;> exact absurd h nofun

theorem escaping_readEntry {casefold : Str → Str} {lib : ZipLibrary} {content : ByteText}
    {state : Nat × List (Str × ByteText)} {entry : ZipEntry} :
    Escaping (readEntry casefold lib content state entry)
      ↔ checkEntry casefold state.1 entry = .file ∧ ∃ e, lib.read content entry = .error e := by
  unfold readEntry
  cases checkEntry casefold state.1 entry with
  | refused statusCode message => exact iff_of_false not_escaping_ingestion (by simp)
  | directory => exact iff_of_false not_escaping_ok (by simp)
  | file =>
      cases hread : lib.read content entry with
      | error e => exact iff_of_true escaping_escape ⟨rfl, e, rfl⟩
      | ok bytes => exact iff_of_false not_escaping_ok (by simp)

theorem escaping_zip {casefold : Str → Str} {lib : ZipLibrary} {content : ByteText} :
    Escaping (zipRecords (F := F) casefold lib content) ↔ ZipEscapes F casefold lib content := by
  unfold zipRecords ZipEscapes
  cases hlist : lib.infolist content with
  | error e =>
      cases e with
      | badZip => exact iff_of_false not_escaping_ingestion (by simp)
      | other => exact iff_of_true escaping_escape (.inl rfl)
  | ok entries =>
      simp only [reduceCtorEq, false_or, Except.ok.injEq, exists_eq_left']
      split_ifs with hmany
      · exact iff_of_false not_escaping_ingestion fun h => absurd h.1 (by omega)
      · rw [escaping_bind, escaping_foldlM]
        simp only [escaping_readEntry]
        refine Iff.trans (or_congr_right ?_) (Iff.symm (and_iff_right (by omega)))
        refine exists_congr fun state => and_congr_right fun _ => ?_
        split_ifs with hnone
        · refine iff_of_false not_escaping_ingestion ?_
          rintro ⟨front, path, back, zip, h, -⟩
          rw [hnone] at h
          exact absurd h.symm (by simp)
        · rw [escaping_bind, escaping_foldlM]
          simp only [escaping_addPackage]
          refine or_iff_left ?_
          rintro ⟨zip, -, h⟩
          exact not_escaping_ok h

/-- Records are returned or an `IngestionError` is raised exactly where the
upload reaches no error that is not caught. -/
theorem parse_decided_iff (casefold : Str → Str) (lib : ZipLibrary) (filename : Str)
    (content : ByteText) :
    Decided F casefold lib filename content ↔ ¬UploadEscapes F casefold lib filename content := by
  refine not_congr ?_
  unfold parse UploadEscapes
  split_ifs with hname hsize
  · refine iff_of_false not_escaping_ingestion ?_
    rintro ⟨hne, hle, -⟩
    exact hname.elim hne (by omega)
  · refine iff_of_false not_escaping_ingestion ?_
    rintro ⟨-, -, hle, -⟩
    omega
  · rw [not_or, not_lt] at hname
    dsimp only
    have hsizes : filename ≠ [] ∧ filename.length ≤ 500 ∧ content.length ≤ maxUploadBytes :=
      ⟨hname.1, hname.2, by omega⟩
    simp only [hsizes.1, hsizes.2.1, hsizes.2.2, ne_eq, not_false_eq_true, true_and]
    generalize casefold (pathSuffix filename) = suffix
    split_ifs with h h h h
    · subst h
      rw [escaping_map, escaping_json]
      simp +decide
    · subst h
      rw [escaping_map, escaping_jsonl]
      simp +decide
    · subst h
      rw [escaping_map, escaping_csv]
      simp +decide
    · subst h
      rw [escaping_map, escaping_zip]
      simp +decide
    · refine iff_of_false not_escaping_ingestion ?_
      rintro (⟨h', -⟩ | ⟨h', -⟩ | ⟨h', -⟩ | ⟨h', -⟩) <;> contradiction

end Parsing

end Rigor.Uploads
