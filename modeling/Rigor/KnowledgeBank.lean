import Rigor.ExecutionDomain
import Rigor.PyCompare
import Rigor.Tables

/-!
# The knowledge bank

`KnowledgeBankImporter`, `publish_problem` and what candidates are served.
A stored text carries the record it was read from, which no row of the bank
does: the importer merges texts of several records into one row.
-/

namespace Rigor.Knowledge

open Py

variable {F : Type}

/-! ## Records -/

inductive SourceDisposition where
  | hostableLicensed | externalReferenceOnly | rightsReviewRequired | rejectedProprietary
  deriving DecidableEq

def SourceDisposition.value : SourceDisposition → Str
  | .hostableLicensed => "hostable_licensed"
  | .externalReferenceOnly => "external_reference_only"
  | .rightsReviewRequired => "rights_review_required"
  | .rejectedProprietary => "rejected_proprietary"

/-- A JSON object. -/
abbrev Members (F : Type) := List (Str × Json F)

inductive KnowledgeFailure where
  /-- `KnowledgeImportError(message)` -/
  | knowledge (message : Str)
  /-- what the database or `str` raises -/
  | database (e : Failure)

/-- A text with the record it was read from. -/
structure SourcedText where
  text : Str
  sourceName : Str
  disposition : SourceDisposition
  deriving DecidableEq

structure FileRecord where
  sourceName : Str
  relativePath : Str
  sha256 : Str

structure ProblemRecord where
  canonicalKey : Str
  title : Str
  slug : Str
  sourceName : Str
  sourcePath : Str
  sourceHash : Str
  disposition : SourceDisposition
  description : Option Str
  externalId : Option Str
  difficulty : Option Str
  sourceUrl : Option Str

structure SolutionRecord where
  canonicalKey : Str
  sourceName : Str
  sourcePath : Str
  sourceHash : Str
  language : Str
  disposition : SourceDisposition
  explanation : Option Str
  sourceCode : Str

structure ArticleRecord where
  sourceName : Str
  sourcePath : Str
  sourceHash : Str
  disposition : SourceDisposition
  slug : Str
  title : Str
  body : Str

/-- A record of the payload; `stub` is the problem that an observation of a
company adds when the payload has none of its key. -/
inductive KnowledgeRecord where
  | file (r : FileRecord)
  | problem (r : ProblemRecord)
  | solution (r : SolutionRecord)
  | company (key : Str) (stub : Except KnowledgeFailure ProblemRecord) (file : FileRecord)
  | systemDesign (r : ArticleRecord)
  | resource (r : FileRecord) (disposition : SourceDisposition)

/-- The lists of a payload, in the order of the import. -/
inductive RecordLabel where
  | files | problems | solutions | companies | systemDesign | resources
  deriving DecidableEq

def RecordLabel.value : RecordLabel → Str
  | .files => "files"
  | .problems => "problems"
  | .solutions => "solutions"
  | .companies => "companies"
  | .systemDesign => "system_design"
  | .resources => "resources"

/-- What the importer takes from outside: `str`, `str.casefold`, `slugify`,
the hash of a payload, and the rows that the columns and constraints of the
tables accept. -/
structure Corpus (F : Type) where
  str : Json F → Str
  casefold : Str → Str
  slugify : Str → Str
  corpusHash : Members F → Str
  accepts : KnowledgeRecord → Bool

/-! ## Reading a record -/

/-- `_required_string`. -/
def requiredString (record : Members F) (name : Str) : Except KnowledgeFailure Str :=
  match Json.get name record with
  | .str value =>
      if isBlank value then .error (.knowledge (name ++ (" is required" : Str)))
      else .ok (strip value)
  | _ => .error (.knowledge (name ++ (" is required" : Str)))

/-- `_optional_string`. -/
def optionalString (record : Members F) (name : Str) : Except KnowledgeFailure (Option Str) :=
  match Json.get name record with
  | .null => .ok none
  | .str value => .ok (if isBlank value then none else some (strip value))
  | _ => .error (.knowledge (name ++ (" must be a string" : Str)))

/-- `SourceDisposition(str(value))`: no other value has the `str` of a disposition. -/
def parseDisposition : Json F → Option SourceDisposition
  | .str value =>
      [SourceDisposition.hostableLicensed, .externalReferenceOnly, .rightsReviewRequired,
        .rejectedProprietary].find? fun d => d.value = value
  | _ => none

/-- `_disposition(record.get("disposition", default))`. -/
def readDisposition (default : SourceDisposition) (record : Members F) :
    Except KnowledgeFailure SourceDisposition :=
  match Json.lookup "disposition" record with
  | none => .ok default
  | some value =>
      match parseDisposition value with
      | some d => .ok d
      | none => .error (.knowledge "Unsupported source disposition")

def readFile (record : Members F) : Except KnowledgeFailure FileRecord := do
  let sourceName ← requiredString record "source_name"
  let relativePath ← requiredString record "relative_path"
  let sha256 ← requiredString record "sha256"
  .ok ⟨sourceName, relativePath, sha256⟩

/-- The file of a record that is no file itself. -/
def readSource (record : Members F) : Except KnowledgeFailure FileRecord := do
  let sourceName ← requiredString record "source_name"
  let sourcePath ← requiredString record "source_path"
  let sourceHash ← requiredString record "source_hash"
  .ok ⟨sourceName, sourcePath, sourceHash⟩

def readProblem (default : SourceDisposition) (record : Members F) :
    Except KnowledgeFailure ProblemRecord := do
  let canonicalKey ← requiredString record "canonical_key"
  let title ← requiredString record "title"
  let slug ← requiredString record "slug"
  let source ← readSource record
  let disposition ← readDisposition default record
  let description ← optionalString record "description"
  let externalId ← optionalString record "external_id"
  let difficulty ← optionalString record "difficulty"
  let sourceUrl ← optionalString record "source_url"
  .ok ⟨canonicalKey, title, slug, source.sourceName, source.relativePath, source.sha256,
    disposition, description, externalId, difficulty, sourceUrl⟩

def readSolution (c : Corpus F) (default : SourceDisposition) (record : Members F) :
    Except KnowledgeFailure SolutionRecord := do
  let canonicalKey ← requiredString record "canonical_key"
  let source ← readSource record
  let language ← requiredString record "language"
  let disposition ← readDisposition default record
  let explanation ← optionalString record "explanation"
  let sourceCode ← requiredString record "source_code"
  .ok ⟨canonicalKey, source.sourceName, source.relativePath, source.sha256, c.casefold language,
    disposition, explanation, sourceCode⟩

/-- The record that `_upsert_company_observation` makes of an observation. -/
def companyStub (c : Corpus F) (canonicalKey title : Str) (record : Members F) : Members F :=
  [("canonical_key", .str canonicalKey), ("external_id", Json.get "external_id" record),
    ("title", .str title), ("slug", .str (c.slugify title)), ("description", .null),
    ("difficulty", Json.get "difficulty" record), ("source_url", Json.get "problem_url" record),
    ("source_name", Json.get "source_name" record), ("source_path", Json.get "source_path" record),
    ("source_hash", Json.get "source_hash" record),
    ("disposition", .str SourceDisposition.externalReferenceOnly.value)]

def readCompany (c : Corpus F) (record : Members F) : Except KnowledgeFailure KnowledgeRecord := do
  let canonicalKey ← requiredString record "canonical_key"
  let stub := do
    let title ← requiredString record "title"
    readProblem .externalReferenceOnly (companyStub c canonicalKey title record)
  let source ← readSource record
  let _ ← requiredString record "company"
  .ok (.company canonicalKey stub source)

def readArticle (default : SourceDisposition) (record : Members F) :
    Except KnowledgeFailure ArticleRecord := do
  let source ← readSource record
  let disposition ← readDisposition default record
  let slug ← requiredString record "slug"
  let title ← requiredString record "title"
  let body ← requiredString record "body"
  .ok ⟨source.sourceName, source.relativePath, source.sha256, disposition, slug, title, body⟩

def readResource (default : SourceDisposition) (record : Members F) :
    Except KnowledgeFailure KnowledgeRecord := do
  let source ← readSource record
  let disposition ← readDisposition default record
  let _ ← requiredString record "slug"
  let _ ← requiredString record "title"
  let _ ← requiredString record "category"
  let _ ← optionalString record "language"
  let _ ← requiredString record "body"
  .ok (.resource source disposition)

/-- What an `_upsert_…` reads of its record. -/
def readRecord (c : Corpus F) (default : SourceDisposition) (label : RecordLabel)
    (record : Members F) : Except KnowledgeFailure KnowledgeRecord :=
  match label with
  | .files => (readFile record).map .file
  | .problems => (readProblem default record).map .problem
  | .solutions => (readSolution c default record).map .solution
  | .companies => readCompany c record
  | .systemDesign => (readArticle default record).map .systemDesign
  | .resources => readResource default record

/-! ## The bank -/

inductive PublicationStatus where
  | draft | metadataOnly | blocked | published
  deriving DecidableEq

inductive KnowledgeReview where
  | awaitingTechnicalReview | rightsMetadataOnly | rejectedForRightsRisk | rightsReviewRequired
  | approved
  deriving DecidableEq

/-- `_publication_state`. -/
def publicationState : SourceDisposition → PublicationStatus × KnowledgeReview
  | .hostableLicensed => (.draft, .awaitingTechnicalReview)
  | .externalReferenceOnly => (.metadataOnly, .rightsMetadataOnly)
  | .rejectedProprietary => (.blocked, .rejectedForRightsRisk)
  | .rightsReviewRequired => (.draft, .rightsReviewRequired)

structure KnowledgeSource where
  sourceName : Str
  disposition : SourceDisposition
  deriving DecidableEq

/-- A row of `knowledge_source_files`, by its unique key. -/
structure SourceFile where
  sourceName : Str
  relativePath : Str
  sha256 : Str
  deriving DecidableEq

/-- A row of `knowledge_problems`; its key stands for its identifier. -/
structure Problem where
  canonicalKey : Str
  externalId : Option Str
  title : Str
  slug : Str
  summary : Option SourcedText
  description : Option SourcedText
  difficulty : Option Str
  sourceUrl : Option Str
  publicationStatus : PublicationStatus
  reviewStatus : KnowledgeReview
  primaryLanguage : Option Str
  deletedAt : Option Int
  deriving DecidableEq

structure ProblemSource where
  canonicalKey : Str
  file : SourceFile
  disposition : SourceDisposition
  deriving DecidableEq

/-- A row of `knowledge_solutions`, of the one approach that a problem has. -/
structure Solution where
  canonicalKey : Str
  language : Str
  sourceHash : Str
  file : SourceFile
  sourceCode : SourcedText
  explanation : Option SourcedText
  isExecutable : Bool
  reviewStatus : KnowledgeReview
  deriving DecidableEq

structure Article where
  slug : Str
  title : Str
  file : SourceFile
  body : SourcedText
  sourceHash : Str
  publicationStatus : PublicationStatus
  reviewStatus : KnowledgeReview
  deriving DecidableEq

/-- The tables, and the source and hash of every completed import. -/
structure KnowledgeBank where
  sources : List KnowledgeSource
  files : List SourceFile
  problems : List Problem
  problemSources : List ProblemSource
  solutions : List Solution
  articles : List Article
  completed : List (Str × Str)
  deriving DecidableEq

def KnowledgeBank.empty : KnowledgeBank := ⟨[], [], [], [], [], [], []⟩

abbrev SolutionKey := Str × Str × Str

def Solution.key (s : Solution) : SolutionKey := (s.canonicalKey, s.language, s.sourceHash)

namespace KnowledgeBank

def disposition (sourceName : Str) (bank : KnowledgeBank) : Option SourceDisposition :=
  (Tables.find KnowledgeSource.sourceName sourceName bank.sources).map KnowledgeSource.disposition

def problem (canonicalKey : Str) (bank : KnowledgeBank) : Option Problem :=
  Tables.find Problem.canonicalKey canonicalKey bank.problems

def solution (key : SolutionKey) (bank : KnowledgeBank) : Option Solution :=
  Tables.find Solution.key key bank.solutions

def article (slug : Str) (bank : KnowledgeBank) : Option Article :=
  Tables.find Article.slug slug bank.articles

def updateProblem (canonicalKey : Str) (f : Problem → Problem) (bank : KnowledgeBank) :
    KnowledgeBank :=
  { bank with problems := Tables.update Problem.canonicalKey canonicalKey f bank.problems }

end KnowledgeBank

/-! ## The importer -/

/-- An importer with its connection: the sources it has upserted, and the
keys of `_problem_ids`. -/
structure Importer where
  bank : KnowledgeBank
  sourceIds : List Str
  problemIds : List Str

/-- `_ensure_source`: a source is upserted once. -/
def Importer.ensureSource (sourceName : Str) (d : SourceDisposition) (i : Importer) : Importer :=
  if sourceName ∈ i.sourceIds then i
  else
    let sources :=
      if sourceName ∈ i.bank.sources.map KnowledgeSource.sourceName then
        Tables.update KnowledgeSource.sourceName sourceName
          (fun s => { s with disposition := d }) i.bank.sources
      else i.bank.sources ++ [⟨sourceName, d⟩]
    { i with
      bank := { i.bank with sources := sources }
      sourceIds := sourceName :: i.sourceIds }

/-- `_ensure_file`. -/
def Importer.ensureFile (file : SourceFile) (d : SourceDisposition) (i : Importer) : Importer :=
  let i := i.ensureSource file.sourceName d
  { i with bank := { i.bank with
    files := if file ∈ i.bank.files then i.bank.files else i.bank.files ++ [file] } }

def ProblemRecord.file (r : ProblemRecord) : SourceFile := ⟨r.sourceName, r.sourcePath, r.sourceHash⟩

def ProblemRecord.sourced (r : ProblemRecord) (text : Str) : SourcedText :=
  ⟨text, r.sourceName, r.disposition⟩

/-- The row that is inserted, with `left(:description, 500)` as its summary. -/
def ProblemRecord.row (r : ProblemRecord) : Problem where
  canonicalKey := r.canonicalKey
  externalId := r.externalId
  title := r.title
  slug := r.slug
  summary := r.description.map fun text => r.sourced (text.take 500)
  description := r.description.map r.sourced
  difficulty := r.difficulty
  sourceUrl := r.sourceUrl
  publicationStatus := (publicationState r.disposition).1
  reviewStatus := (publicationState r.disposition).2
  primaryLanguage := none
  deletedAt := none

/-- `length(COALESCE(description, ''))`. -/
def descriptionLength (description : Option SourcedText) : Nat :=
  (description.elim [] SourcedText.text).length

/-- The longer description of the two, the stored one on a draw. -/
def ProblemRecord.describe (r : ProblemRecord) (stored : Option SourcedText) :
    Option SourcedText :=
  if descriptionLength (r.description.map r.sourced) > descriptionLength stored then
    r.description.map r.sourced
  else stored

/-- `ON CONFLICT (canonical_key) DO UPDATE`. -/
def ProblemRecord.merge (r : ProblemRecord) (row : Problem) : Problem :=
  { row with
    title := r.title
    externalId := row.externalId <|> r.externalId
    description := r.describe row.description
    difficulty := row.difficulty <|> r.difficulty
    sourceUrl := row.sourceUrl <|> r.sourceUrl }

def KnowledgeBank.addProblemSource (source : ProblemSource) (bank : KnowledgeBank) :
    KnowledgeBank :=
  { bank with problemSources :=
      if ∃ s ∈ bank.problemSources, (s.canonicalKey, s.file) = (source.canonicalKey, source.file) then
        bank.problemSources.map fun s =>
          if (s.canonicalKey, s.file) = (source.canonicalKey, source.file) then
            { s with disposition := source.disposition }
          else s
      else bank.problemSources ++ [source] }

/-- `INSERT INTO knowledge_problems … ON CONFLICT (canonical_key) DO UPDATE`. -/
def KnowledgeBank.writeProblem (r : ProblemRecord) (bank : KnowledgeBank) :
    Except KnowledgeFailure KnowledgeBank :=
  match bank.problem r.canonicalKey with
  | some _ => .ok (bank.updateProblem r.canonicalKey r.merge)
  | none =>
      if r.slug ∈ bank.problems.map Problem.slug then
        .error (.database (.integrity "knowledge_problems_slug_key"))
      else .ok { bank with problems := bank.problems ++ [r.row] }

/-- `_upsert_problem`. -/
def Importer.upsertProblem (c : Corpus F) (r : ProblemRecord) (i : Importer) :
    Except KnowledgeFailure Importer :=
  if c.accepts (.problem r) = false then .error (.database (.value "DataError"))
  else do
    let bank ← i.bank.writeProblem r
    let i := { i with bank := bank, problemIds := r.canonicalKey :: i.problemIds }
    let i := i.ensureFile r.file r.disposition
    .ok { i with bank := i.bank.addProblemSource ⟨r.canonicalKey, r.file, r.disposition⟩ }

/-- `_problem_id`. -/
def Importer.problemId (canonicalKey : Str) (i : Importer) : Except KnowledgeFailure Importer :=
  if canonicalKey ∈ i.problemIds then .ok i
  else
    match i.bank.problem canonicalKey with
    | none =>
        .error (.knowledge (("Solution references unknown problem " : Str) ++ canonicalKey))
    | some _ => .ok { i with problemIds := canonicalKey :: i.problemIds }

def SolutionRecord.file (r : SolutionRecord) : SourceFile :=
  ⟨r.sourceName, r.sourcePath, r.sourceHash⟩

def SolutionRecord.key (r : SolutionRecord) : SolutionKey :=
  (r.canonicalKey, r.language, r.sourceHash)

def SolutionRecord.sourced (r : SolutionRecord) (text : Str) : SourcedText :=
  ⟨text, r.sourceName, r.disposition⟩

def SolutionRecord.executable (r : SolutionRecord) : Bool :=
  r.language ∈ (["python", "javascript", "sql"] : List Str)
    ∧ r.disposition = .hostableLicensed

def SolutionRecord.row (r : SolutionRecord) : Solution where
  canonicalKey := r.canonicalKey
  language := r.language
  sourceHash := r.sourceHash
  file := r.file
  sourceCode := r.sourced r.sourceCode
  explanation := r.explanation.map r.sourced
  isExecutable := r.executable
  reviewStatus := (publicationState r.disposition).2

/-- `ON CONFLICT (approach_id, language, source_hash) DO UPDATE`: the file
stays the one of the first record. -/
def SolutionRecord.merge (r : SolutionRecord) (row : Solution) : Solution :=
  { row with
    sourceCode := r.sourced r.sourceCode
    explanation := r.explanation.map r.sourced <|> row.explanation
    isExecutable := r.executable
    reviewStatus := (publicationState r.disposition).2 }

/-- `COALESCE(primary_language, :language)`. -/
def Problem.speak (language : Str) (p : Problem) : Problem :=
  { p with primaryLanguage := p.primaryLanguage <|> some language }

/-- `_upsert_solution`. -/
def Importer.upsertSolution (c : Corpus F) (r : SolutionRecord) (i : Importer) :
    Except KnowledgeFailure Importer := do
  let i ← i.problemId r.canonicalKey
  if c.accepts (.solution r) = false then .error (.database (.value "DataError"))
  else
    let i := i.ensureFile r.file r.disposition
    let solutions := match i.bank.solution r.key with
      | some _ => Tables.update Solution.key r.key r.merge i.bank.solutions
      | none => i.bank.solutions ++ [r.row]
    let bank := { i.bank with solutions := solutions }
    .ok { i with bank := bank.updateProblem r.canonicalKey (Problem.speak r.language) }

def ArticleRecord.file (r : ArticleRecord) : SourceFile := ⟨r.sourceName, r.sourcePath, r.sourceHash⟩

def ArticleRecord.sourced (r : ArticleRecord) : SourcedText := ⟨r.body, r.sourceName, r.disposition⟩

def ArticleRecord.row (r : ArticleRecord) : Article where
  slug := r.slug
  title := r.title
  file := r.file
  body := r.sourced
  sourceHash := r.sourceHash
  publicationStatus := (publicationState r.disposition).1
  reviewStatus := (publicationState r.disposition).2

/-- `ON CONFLICT (slug) DO UPDATE`. -/
def ArticleRecord.merge (r : ArticleRecord) (row : Article) : Article :=
  { row with
    title := r.title
    body := r.sourced
    sourceHash := r.sourceHash
    reviewStatus := (publicationState r.disposition).2 }

/-- `_upsert_system_design`. -/
def Importer.upsertSystemDesign (c : Corpus F) (r : ArticleRecord) (i : Importer) :
    Except KnowledgeFailure Importer :=
  if c.accepts (.systemDesign r) = false then .error (.database (.value "DataError"))
  else
    let i := i.ensureFile r.file r.disposition
    let articles := match i.bank.article r.slug with
      | some _ => Tables.update Article.slug r.slug r.merge i.bank.articles
      | none => i.bank.articles ++ [r.row]
    .ok { i with bank := { i.bank with articles := articles } }

/-- A record whose own row is not modelled. -/
def Importer.upsertFile (c : Corpus F) (record : KnowledgeRecord) (file : FileRecord)
    (d : SourceDisposition) (i : Importer) : Except KnowledgeFailure Importer :=
  if c.accepts record = false then .error (.database (.value "DataError"))
  else .ok (i.ensureFile ⟨file.sourceName, file.relativePath, file.sha256⟩ d)

/-- The problem of an observation whose key the payload has not named. -/
def Importer.companyProblem (c : Corpus F) (key : Str)
    (stub : Except KnowledgeFailure ProblemRecord) (i : Importer) :
    Except KnowledgeFailure Importer :=
  if key ∈ i.problemIds then .ok i else stub >>= fun r => i.upsertProblem c r

/-- `_upsert_company_observation`. -/
def Importer.upsertCompany (c : Corpus F) (key : Str) (stub : Except KnowledgeFailure ProblemRecord)
    (file : FileRecord) (default : SourceDisposition) (i : Importer) :
    Except KnowledgeFailure Importer := do
  let i ← i.companyProblem c key stub
  i.upsertFile c (.company key stub file) file default

/-- The `_upsert_…` of a record. -/
def Importer.upsert (c : Corpus F) (default : SourceDisposition) (record : KnowledgeRecord)
    (i : Importer) : Except KnowledgeFailure Importer :=
  match record with
  | .file r => i.upsertFile c record r default
  | .problem r => i.upsertProblem c r
  | .solution r => i.upsertSolution c r
  | .company key stub file => i.upsertCompany c key stub file default
  | .systemDesign r => i.upsertSystemDesign c r
  | .resource r d => i.upsertFile c record r d

/-- The records of a payload with their lists. -/
abbrev Entries (F : Type) := List (RecordLabel × Members F)

def importEntries (c : Corpus F) (default : SourceDisposition) :
    Entries F → Importer → Except KnowledgeFailure Importer
  | [], i => .ok i
  | (label, members) :: rest, i => do
      let record ← readRecord c default label members
      let i ← i.upsert c default record
      importEntries c default rest i

/-- `_objects`. -/
def objects (label : RecordLabel) : Json F → Except KnowledgeFailure (Entries F)
  | .null => .ok []
  | .arr items => items.mapM fun
      | .obj members => .ok (label, members)
      | _ => .error (.knowledge (label.value ++ (" must hold objects" : Str)))
  | _ => .error (.knowledge (label.value ++ (" must be a list" : Str)))

def payloadEntries (payload : Members F) : Except KnowledgeFailure (Entries F) := do
  let entries ← [RecordLabel.files, .problems, .solutions, .companies, .systemDesign,
    .resources].mapM fun label => objects label (Json.get label.value payload)
  .ok entries.flatten

/-- The names of the sources, sorted. -/
def sourceNames [Runtime F] (c : Corpus F) (payload : Members F) (entries : Entries F) : List Str :=
  let names := entries.filterMap fun entry =>
    match Json.get "source_name" entry.2 with
    | .str name => if isBlank name then none else some name
    | _ => none
  let fallback := Json.get "source_name" payload
  if names = [] then [if fallback.truthy then c.str fallback else "uploaded-corpus"]
  else names.dedup.insertionSort fun a b => a ≤ b

/-- `import_payload`. -/
def Importer.importPayload [Runtime F] (c : Corpus F) (default : SourceDisposition)
    (payload : Members F) (i : Importer) : Except KnowledgeFailure Importer := do
  let entries ← payloadEntries payload
  let i := (sourceNames c payload entries).foldl (fun i name => i.ensureSource name default) i
  importEntries c default entries i

inductive ImportReport where
  | alreadyImported | validated | completed
  deriving DecidableEq

/-- The name of the source that an import is recorded under. -/
def payloadSource [Runtime F] (c : Corpus F) (payload : Members F) : Str :=
  let name := Json.get "source_name" payload
  if name.truthy then c.str name else "merged-upload-corpus"

/-- `import_knowledge_payload`: the bank behind it, and its report. -/
def importKnowledgePayload [Runtime F] (c : Corpus F) (payload : Members F) (dryRun : Bool)
    (bank : KnowledgeBank) : KnowledgeBank × Except KnowledgeFailure ImportReport :=
  match readDisposition .rightsReviewRequired payload with
  | .error e => (bank, .error e)
  | .ok default =>
      let run := (payloadSource c payload, c.corpusHash payload)
      if run ∈ bank.completed ∧ dryRun = false then (bank, .ok .alreadyImported)
      else
        match (Importer.mk bank [] []).ensureSource run.1 default |>.importPayload c default payload
        with
        | .error e => (bank, .error e)
        | .ok i =>
            if dryRun then (bank, .ok .validated)
            else ({ i.bank with completed := run :: i.bank.completed }, .ok .completed)

/-! ## Publication -/

/-- Whether a problem has any source that may be hosted. -/
def KnowledgeBank.Hostable (canonicalKey : Str) (bank : KnowledgeBank) : Prop :=
  ∃ s ∈ bank.problemSources, s.canonicalKey = canonicalKey
    ∧ bank.disposition s.file.sourceName = some .hostableLicensed

instance (canonicalKey : Str) (bank : KnowledgeBank) : Decidable (bank.Hostable canonicalKey) :=
  inferInstanceAs (Decidable (∃ _ ∈ _, _))

def Problem.publish (p : Problem) : Problem :=
  { p with publicationStatus := .published, reviewStatus := .approved }

/-- The solutions that a publication approves. -/
def KnowledgeBank.Approves (canonicalKey : Str) (s : Solution) (bank : KnowledgeBank) : Prop :=
  s.canonicalKey = canonicalKey ∧ bank.disposition s.file.sourceName = some .hostableLicensed

instance (canonicalKey : Str) (s : Solution) (bank : KnowledgeBank) :
    Decidable (bank.Approves canonicalKey s) := inferInstanceAs (Decidable (_ ∧ _))

/-- `publish_problem`. -/
def publishProblem (canonicalKey : Str) (bank : KnowledgeBank) : Except Failure KnowledgeBank :=
  if ¬bank.Hostable canonicalKey then
    .error (.http 409 "Problem has no hostable licensed source and cannot be published.")
  else
    match (bank.problem canonicalKey).filter fun p => p.deletedAt.isNone with
    | none => .error (.http 404 "Knowledge-bank problem not found")
    | some _ =>
        .ok { bank.updateProblem canonicalKey Problem.publish with
          solutions := bank.solutions.map fun s =>
            if bank.Approves canonicalKey s then { s with reviewStatus := .approved } else s }

/-! ## What candidates are served -/

def PublicationStatus.Visible (status : PublicationStatus) : Prop :=
  status = .published ∨ status = .metadataOnly

instance (status : PublicationStatus) : Decidable status.Visible :=
  inferInstanceAs (Decidable (_ ∨ _))

/-- `get_problem`. -/
def getProblem (slug : Str) (bank : KnowledgeBank) : Except Failure Problem :=
  match (Tables.find Problem.slug slug bank.problems).filter fun p =>
      p.deletedAt.isNone ∧ p.publicationStatus.Visible with
  | none => .error (.http 404 "Knowledge-bank problem not found")
  | some p => .ok p

/-- `problem_solutions`. -/
def problemSolutions (c : Corpus F) (slug : Str) (language : Option Str) (bank : KnowledgeBank) :
    List Solution :=
  bank.solutions.filter fun s =>
    (∃ p ∈ bank.problems, p.canonicalKey = s.canonicalKey ∧ p.slug = slug
      ∧ p.publicationStatus = .published)
    ∧ s.reviewStatus = .approved ∧ ∀ wanted ∈ language.filter (· ≠ []), s.language = c.casefold wanted

/-- `get_system_design`. -/
def getSystemDesign (slug : Str) (bank : KnowledgeBank) : Except Failure Article :=
  match (bank.article slug).filter fun a => a.publicationStatus = .published with
  | none => .error (.http 404 "System-design article not found")
  | some a => .ok a

end Rigor.Knowledge
