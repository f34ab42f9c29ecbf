import Rigor.LargeCorpus
import Rigor.PgValues
import Rigor.Resumption
import Rigor.TrustedCompare
import Rigor.Upserts

/-!
# The rows of a large corpus

`import_row` writes what it makes of a prepared row into seven tables. All of its
statements are upserts, so the end of a stream that was imported can be imported
once more, and changes nothing (`importAll_replay`). A problem is named by its
`canonical_key`, and a topic by its slug.
-/

namespace Rigor.LargeCorpus

open Py Knowledge Tables

variable {F : Type}

/-! ## The tables -/

structure BatchKey where
  corpusName : Str
  corpusVersion : Str
  batchId : Str
  deriving DecidableEq

/-- The unique key of `knowledge_source_files`. -/
structure SourceFileKey where
  sourceName : Str
  relativePath : Str
  sha256 : Str
  deriving DecidableEq

/-- A row of `knowledge_problems`. -/
structure ProblemRow (F : Type) where
  canonicalKey : Str
  externalId : Str
  title : Str
  slug : Str
  summary : Option Str
  description : Option Str
  inputFormat : Option Str
  constraints : List Str
  difficulty : Option Str
  publicationStatus : PublicationStatus
  reviewStatus : KnowledgeReview
  primaryLanguage : Str
  sourceMetadata : Json F

structure ProblemSourceRow where
  problem : Str
  sourceFile : SourceFileKey
  sourceHash : Str
  sourcePath : Str
  disposition : SourceDisposition

/-- A row of `knowledge_problem_serving_metadata`. -/
structure ServingRow (F : Type) where
  problem : Str
  batch : BatchKey
  sourceQuestionId : Str
  sourceRowNumber : Nat
  corpusVersion : Str
  contentFingerprint : Str
  classification : Classification
  platform : Option Str
  subtopic : Option Str
  seniority : Option Str
  industry : Option Str
  businessContext : Option Str
  originalMetadata : Json F

structure TopicRow where
  slug : Str
  name : Str
  category : Str

structure ProblemTopicRow where
  problem : Str
  topic : Str
  source : Str

structure ApproachRow where
  problem : Str
  slug : Str
  name : Str
  explanation : Option Str
  timeComplexity : Option Str
  spaceComplexity : Option Str

/-- A row of `knowledge_solutions`; the approach is named by its problem and its
slug. -/
structure SolutionRow where
  approach : Str × Str
  language : Str
  sourceHash : Str
  sourceFile : SourceFileKey
  sourceCode : Str
  explanation : Option Str
  isExecutable : Bool
  reviewStatus : KnowledgeReview

def problemUpsert : Upsert (ProblemRow F) Str where
  key := ProblemRow.canonicalKey
  merge new stored := { stored with
    title := new.title
    description := new.description
    inputFormat := new.inputFormat
    constraints := new.constraints
    difficulty := new.difficulty
    primaryLanguage := new.primaryLanguage
    sourceMetadata := new.sourceMetadata }
  key_merge _ _ := rfl
  merge_self _ := rfl
  merge_merge _ _ _ := rfl

def problemSourceUpsert : Upsert ProblemSourceRow (Str × SourceFileKey) where
  key r := (r.problem, r.sourceFile)
  merge new stored := { stored with
    sourceHash := new.sourceHash
    sourcePath := new.sourcePath
    disposition := new.disposition }
  key_merge _ _ := rfl
  merge_self _ := rfl
  merge_merge _ _ _ := rfl

def servingUpsert : Upsert (ServingRow F) Str where
  key := ServingRow.problem
  merge new stored := { stored with
    batch := new.batch
    sourceRowNumber := new.sourceRowNumber
    contentFingerprint := new.contentFingerprint
    classification := new.classification
    platform := new.platform
    subtopic := new.subtopic
    seniority := new.seniority
    industry := new.industry
    businessContext := new.businessContext
    originalMetadata := new.originalMetadata }
  key_merge _ _ := rfl
  merge_self _ := rfl
  merge_merge _ _ _ := rfl

def topicUpsert : Upsert TopicRow Str where
  key := TopicRow.slug
  merge new stored := { stored with name := new.name }
  key_merge _ _ := rfl
  merge_self _ := rfl
  merge_merge _ _ _ := rfl

/-- `ON CONFLICT … DO NOTHING`. -/
def problemTopicUpsert : Upsert ProblemTopicRow (Str × Str) where
  key r := (r.problem, r.topic)
  merge _ stored := stored
  key_merge _ _ := rfl
  merge_self _ := rfl
  merge_merge _ _ _ := rfl

def approachUpsert : Upsert ApproachRow (Str × Str) where
  key r := (r.problem, r.slug)
  merge new stored := { stored with
    explanation := new.explanation
    timeComplexity := new.timeComplexity
    spaceComplexity := new.spaceComplexity }
  key_merge _ _ := rfl
  merge_self _ := rfl
  merge_merge _ _ _ := rfl

/-- The new row is never executable, which is what the stored one becomes. -/
def solutionUpsert : Upsert SolutionRow ((Str × Str) × Str × Str) where
  key r := (r.approach, r.language, r.sourceHash)
  merge new stored := { stored with
    sourceCode := new.sourceCode
    explanation := new.explanation
    isExecutable := new.isExecutable
    reviewStatus := new.reviewStatus }
  key_merge _ _ := rfl
  merge_self _ := rfl
  merge_merge _ _ _ := rfl

/-- What an import is about: the tables behind its batch and its source. -/
structure Content (F : Type) where
  problems : List (ProblemRow F)
  problemSources : List ProblemSourceRow
  serving : List (ServingRow F)
  topics : List TopicRow
  problemTopics : List ProblemTopicRow
  approaches : List ApproachRow
  solutions : List SolutionRow

/-! ## Rows to write -/

/-- The arguments that `import_row` gets for every row. -/
structure RowContext where
  batch : BatchKey
  sourceFile : SourceFileKey
  sourceFilename : Str
  sourceSha256 : Str
  corpusVersion : Str
  disposition : SourceDisposition

/-- The rows that `import_row` writes. -/
structure RowWrites (F : Type) where
  problem : ProblemRow F
  problemSource : ProblemSourceRow
  serving : ServingRow F
  topics : List TopicRow
  body : Option (ApproachRow × SolutionRow)

def RowWrites.problemTopics (w : RowWrites F) : List ProblemTopicRow :=
  w.topics.map fun t => ⟨w.problem.canonicalKey, t.slug, "large-corpus"⟩

def RowWrites.approaches (w : RowWrites F) : List ApproachRow := w.body.toList.map Prod.fst

def RowWrites.solutions (w : RowWrites F) : List SolutionRow := w.body.toList.map Prod.snd

/-! ## Writing rows -/

def Content.put (c : Content F) (w : RowWrites F) : Content F where
  problems := problemUpsert.put w.problem c.problems
  problemSources := problemSourceUpsert.put w.problemSource c.problemSources
  serving := servingUpsert.put w.serving c.serving
  topics := topicUpsert.puts w.topics c.topics
  problemTopics := problemTopicUpsert.puts w.problemTopics c.problemTopics
  approaches := approachUpsert.puts w.approaches c.approaches
  solutions := solutionUpsert.puts w.solutions c.solutions

/-- The unique keys that no upsert is on. -/
def Content.Unique (c : Content F) : Prop :=
  (c.problems.map ProblemRow.slug).Nodup
    ∧ (c.serving.map fun r => (r.corpusVersion, r.sourceQuestionId)).Nodup
    ∧ (c.serving.map fun r => (r.corpusVersion, r.contentFingerprint)).Nodup

instance (c : Content F) : Decidable c.Unique := by
  unfold Content.Unique
  infer_instance

def Content.puts (c : Content F) (ws : List (RowWrites F)) : Content F := ws.foldl Content.put c

theorem puts_tables (c : Content F) (ws : List (RowWrites F)) : c.puts ws =
    ⟨problemUpsert.puts (ws.map RowWrites.problem) c.problems,
      problemSourceUpsert.puts (ws.map RowWrites.problemSource) c.problemSources,
      servingUpsert.puts (ws.map RowWrites.serving) c.serving,
      topicUpsert.puts (ws.flatMap RowWrites.topics) c.topics,
      problemTopicUpsert.puts (ws.flatMap RowWrites.problemTopics) c.problemTopics,
      approachUpsert.puts (ws.flatMap RowWrites.approaches) c.approaches,
      solutionUpsert.puts (ws.flatMap RowWrites.solutions) c.solutions⟩ := by
  induction ws generalizing c with
  | nil => rfl
  | cons w ws ih =>
      refine (ih (c.put w)).trans ?_
      simp only [List.flatMap_cons, Upsert.puts_append]
      rfl

/-- The end of the writes, once more. -/
theorem puts_replay (c : Content F) (before after : List (RowWrites F)) :
    (c.puts (before ++ after)).puts after = c.puts (before ++ after) := by
  rw [puts_tables (c.puts _), puts_tables c]
  simp only [List.map_append, List.flatMap_append, Upsert.puts_append, Upsert.puts_replay]

/-! ## What a row becomes -/

def safeReferenceFields : List Str :=
  ["question_id", "subject", "platform", "topic", "subtopic", "difficulty", "level",
    "question_type", "seniority", "industry", "tags", "content_fingerprint"]

section Rows

variable [FloatArith F]

/-- `[str(item).strip() for item in value if str(item).strip()]`. -/
def stringItems (values : List (Json F)) : List Str :=
  (values.map fun item => strip item.pyStr).filter (· ≠ [])

def stringList : Json F → Except CorpusFailure (List Str)
  | .null => .ok []
  | .arr values => .ok (stringItems values)
  | .str value =>
      let stripped := strip value
      let parts := ((stripped.splitOnP (· = 124)).map strip).filter (· ≠ [])
      if stripped.head? = some 91 then
        match (loads stripped : Except LoadError (Json F)) with
        | .ok (.arr values) => .ok (stringItems values)
        | .ok _ | .error .decode => .ok parts
        | .error e => .error (.load e)
      else .ok parts
  | value => .ok [strip value.pyStr]

def normalizedDifficulty (env : Environment F) (value : Json F) : Option Str :=
  let aliases : List (Str × Str) := [
    ("easy", "easy"),
    ("medium", "medium"),
    ("hard", "hard"),
    ("expert", "hard"),
    ("foundational", "easy"),
    ("intermediate", "medium"),
    ("advanced", "hard")]
  aliases.lookup (env.casefold (strip (strOr value)))

def sourceLanguage (env : Environment F) (row : Members F) : Str :=
  let subject := env.casefold (strOr (Json.get "subject" row))
  let questionType := env.casefold (strOr (Json.get "question_type" row))
  if contains "sql" subject ∨ contains "sql" questionType then "sql"
  else if contains "python" subject ∨ contains "pyspark" subject
    ∨ contains "python" questionType then "python"
  else "text"

def problemTitle (row : Members F) (disposition : SourceDisposition) :
    Except CorpusFailure Str :=
  if disposition = SourceDisposition.externalReferenceOnly then do
    let topic ← requiredText row "topic"
    let questionId ← requiredText row "question_id"
    .ok ((topic ++ [58, 32] ++ questionId).take 500)
  else do
    let statement ← requiredText row "question_statement"
    let firstLine := strip ((splitlines statement).headD [])
    if firstLine ≠ [] then .ok (firstLine.take 500)
    else (requiredText row "question_id").map (List.take 500)

/-- The topics of a row, each slug once. -/
def topicPairs (env : Environment F) (row : Members F) :
    Except CorpusFailure (List (Str × Str)) := do
  let topic ← requiredText row "topic"
  let subtopic := strip (strOr (Json.get "subtopic" row))
  .ok ((topic, "topic") ::
    if slugify env.toCsvRuntime subtopic = slugify env.toCsvRuntime topic then []
    else [(subtopic, "subtopic")])

/-- The approach and the solution of a problem whose body may be stored. -/
def rowBody (env : Environment F) (ctx : RowContext) (canonicalKey : Str) (row : Members F) :
    Except CorpusFailure (ApproachRow × SolutionRow) := do
  let slug : Str := "large-corpus-solution"
  let solution ← requiredText row "solution"
  if !isEncodable solution then .error .unicode
  .ok (
    ⟨canonicalKey, slug, "Large-corpus supplied solution", optionalText row "explanation",
      optionalText row "time_complexity", optionalText row "space_complexity"⟩,
    ⟨(canonicalKey, slug), sourceLanguage env row, env.sha256 solution, ctx.sourceFile, solution,
      optionalText row "explanation", false, (publicationState ctx.disposition).2⟩)

def canonicalKeyOf (corpusVersion questionId : Str) : Str :=
  "large:" ++ corpusVersion ++ ":" ++ questionId

/-- `value if may_store_body else otherwise`. -/
def whenStored {α : Type} (mayStoreBody : Bool) (otherwise : α) (value : Except CorpusFailure α) :
    Except CorpusFailure α :=
  if mayStoreBody then value else .ok otherwise

/-- The rows of `import_row`. -/
def rowWrites (env : Environment F) (ctx : RowContext) (prepared : PreparedRow F) :
    Except CorpusFailure (RowWrites F) := do
  let row := prepared.row
  let mayStoreBody : Bool := ctx.disposition ≠ SourceDisposition.externalReferenceOnly
  let questionId ← requiredText row "question_id"
  let fingerprint ← fingerprintOf env row
  let canonicalKey := canonicalKeyOf ctx.corpusVersion questionId
  let slug := (("large-" : Str) ++ slugify env.toCsvRuntime ctx.corpusVersion ++ "-"
    ++ slugify env.toCsvRuntime questionId).take 500
  let description ← whenStored mayStoreBody none
    ((requiredText row "question_statement").map some)
  let constraints ← whenStored mayStoreBody [] (stringList (Json.get "constraints" row))
  let title ← problemTitle row ctx.disposition
  let topics ← topicPairs env row
  let body ← whenStored mayStoreBody none ((rowBody env ctx canonicalKey row).map some)
  let fields := (if mayStoreBody then requiredColumns else safeReferenceFields).filter
    (· ≠ ("solution" : Str))
  .ok {
    problem := {
      canonicalKey
      externalId := questionId
      title
      slug
      summary := some ((description.getD title).take 500)
      description
      inputFormat := if mayStoreBody then optionalText row "input_output_or_schema" else none
      constraints
      difficulty := normalizedDifficulty env (Json.get "difficulty" row)
      publicationStatus := (publicationState ctx.disposition).1
      reviewStatus := (publicationState ctx.disposition).2
      primaryLanguage := sourceLanguage env row
      sourceMetadata := .obj [
        ("source_kind", .str "large_corpus"),
        ("corpus_version", .str ctx.corpusVersion),
        ("source_file", .str ctx.sourceFilename),
        ("source_row", .int prepared.rowNumber),
        ("source_sha256", .str ctx.sourceSha256),
        ("content_fingerprint", .str fingerprint)] }
    problemSource := ⟨canonicalKey, ctx.sourceFile, ctx.sourceSha256, ctx.sourceFilename,
      ctx.disposition⟩
    serving := {
      problem := canonicalKey
      batch := ctx.batch
      sourceQuestionId := questionId
      sourceRowNumber := prepared.rowNumber
      corpusVersion := ctx.corpusVersion
      contentFingerprint := fingerprint
      classification := prepared.classification
      platform := optionalText row "platform"
      subtopic := optionalText row "subtopic"
      seniority := optionalText row "seniority"
      industry := optionalText row "industry"
      businessContext := if mayStoreBody then optionalText row "business_context" else none
      originalMetadata := .obj (fields.map fun field => (field, Json.get field row)) }
    topics := topics.map fun t => ⟨slugify env.toCsvRuntime t.1, t.1.take 200, t.2⟩
    body }

/-! ## What the tables take -/

/-- `CAST(… AS jsonb)` of a `canonical_json`. -/
def jsonFits (value : Json F) : Bool := isEncodable (canonicalJson value) && Pg.jsonOk value

def varcharFits (limit : Nat) (s : Str) : Bool := s.length ≤ limit && Pg.textOk s

def ProblemRow.fits (env : Environment F) (r : ProblemRow F) : Bool :=
  varcharFits 500 r.canonicalKey && varcharFits 120 r.externalId && varcharFits 500 r.title
    && varcharFits 500 r.slug && r.description.all Pg.textOk && r.inputFormat.all Pg.textOk
    && Pg.jsonOk (.arr (r.constraints.map Json.str) : Json F) && jsonFits r.sourceMetadata
    && env.indexable [some r.title, r.description]

def ProblemSourceRow.fits (r : ProblemSourceRow) : Bool :=
  varcharFits 64 r.sourceHash && Pg.textOk r.sourcePath

def ServingRow.fits (env : Environment F) (r : ServingRow F) : Bool :=
  Pg.textOk r.sourceQuestionId && Pg.textOk r.corpusVersion
    && ([r.platform, r.subtopic, r.seniority, r.industry, r.businessContext]).all
      (fun t => t.all Pg.textOk)
    && jsonFits r.originalMetadata
    && env.indexable [r.platform, r.seniority, r.industry, r.subtopic]

def TopicRow.fits (r : TopicRow) : Bool := varcharFits 160 r.slug && varcharFits 200 r.name

def ApproachRow.fits (r : ApproachRow) : Bool :=
  r.explanation.all Pg.textOk && r.timeComplexity.all (varcharFits 200)
    && r.spaceComplexity.all (varcharFits 200)

def SolutionRow.fits (r : SolutionRow) : Bool :=
  Pg.textOk r.sourceCode && r.explanation.all Pg.textOk && varcharFits 64 r.sourceHash

def RowWrites.fits (env : Environment F) (w : RowWrites F) : Bool :=
  w.problem.fits env && w.problemSource.fits && w.serving.fits env
    && w.topics.all TopicRow.fits && w.approaches.all ApproachRow.fits
    && w.solutions.all SolutionRow.fits

/-! ## Importing -/

/-- `import_row`; `none` if it raises or the database refuses a statement. -/
def importRow (env : Environment F) (ctx : RowContext) (prepared : PreparedRow F)
    (c : Content F) : Option (Content F) :=
  if prepared.classification = .rejectedQuarantined then some c
  else (rowWrites env ctx prepared).toOption.bind fun w =>
    if w.fits env = true ∧ (c.put w).Unique then some (c.put w) else none

def importAll (env : Environment F) (ctx : RowContext) :
    List (PreparedRow F) → Content F → Option (Content F) :=
  Resumption.runAll (importRow env ctx)

/-! ## Importing twice -/

variable {env : Environment F} {ctx : RowContext} {prepared : PreparedRow F}
  {rows : List (PreparedRow F)} {c c' g : Content F} {w : RowWrites F} {ws : List (RowWrites F)}

/-- The writes of rows that are to be imported. -/
def Writes (env : Environment F) (ctx : RowContext) (prepared : PreparedRow F) (w : RowWrites F) :
    Prop :=
  prepared.classification ≠ .rejectedQuarantined ∧ rowWrites env ctx prepared = .ok w
    ∧ w.fits env = true

theorem importRow_writes (hclass : prepared.classification ≠ .rejectedQuarantined)
    (h : importRow env ctx prepared c = some c') :
    ∃ w, Writes env ctx prepared w ∧ c' = c.put w ∧ c'.Unique := by
  rw [importRow, if_neg hclass] at h
  cases hwrites : rowWrites env ctx prepared with
  | error e =>
      rw [hwrites] at h
      cases h
  | ok w =>
      rw [hwrites] at h
      change (if w.fits env = true ∧ (c.put w).Unique then some (c.put w) else none) = some c' at h
      by_cases hok : w.fits env = true ∧ (c.put w).Unique
      · rw [if_pos hok] at h
        obtain rfl := Option.some.inj h
        exact ⟨w, ⟨hclass, hwrites, hok.1⟩, rfl, hok.2⟩
      · rw [if_neg hok] at h
        cases h

theorem Writes.importRow (h : Writes env ctx prepared w) (hunique : (c.put w).Unique) :
    importRow env ctx prepared c = some (c.put w) := by
  rw [LargeCorpus.importRow, if_neg h.1, h.2.1]
  exact if_pos ⟨h.2.2, hunique⟩

theorem importAll_writes (hclass : ∀ p ∈ rows, p.classification ≠ .rejectedQuarantined)
    (h : importAll env ctx rows c = some c') :
    ∃ ws, List.Forall₂ (Writes env ctx) rows ws ∧ c' = c.puts ws ∧ (rows ≠ [] → c'.Unique) := by
  induction rows generalizing c with
  | nil => exact ⟨[], .nil, (Option.some.inj h).symm, fun hne => absurd rfl hne⟩
  | cons p rows ih =>
      obtain ⟨hp, hrows⟩ := List.forall_mem_cons.mp hclass
      obtain ⟨c₁, hrow, hrest⟩ := Option.bind_eq_some_iff.mp h
      obtain ⟨w, hw, rfl, hunique⟩ := importRow_writes hp hrow
      obtain ⟨ws, hws, hc', hlast⟩ := ih hrows hrest
      refine ⟨w :: ws, .cons hw hws, hc', fun _ => ?_⟩
      cases rows with
      | nil =>
          cases hws
          exact hc' ▸ hunique
      | cons q rows => exact hlast (List.cons_ne_nil q rows)

/-- Rows whose problem and serving metadata are settled change neither. -/
theorem importAll_settled (hws : List.Forall₂ (Writes env ctx) rows ws)
    (hproblems : ∀ w ∈ ws, problemUpsert.Settled w.problem g.problems)
    (hserving : ∀ w ∈ ws, servingUpsert.Settled w.serving g.serving) (hunique : g.Unique)
    (hsame : c.problems = g.problems ∧ c.serving = g.serving) :
    importAll env ctx rows c = some (c.puts ws) := by
  induction hws generalizing c with
  | nil => rfl
  | @cons p w rows ws hw hws ih =>
      obtain ⟨hproblem, hproblems⟩ := List.forall_mem_cons.mp hproblems
      obtain ⟨hmetadata, hserving⟩ := List.forall_mem_cons.mp hserving
      have hnext : (c.put w).problems = g.problems ∧ (c.put w).serving = g.serving := by
        constructor
        · show problemUpsert.put w.problem c.problems = g.problems
          rw [hsame.1, hproblem.put]
        · show servingUpsert.put w.serving c.serving = g.serving
          rw [hsame.2, hmetadata.put]
      have hok : (c.put w).Unique := by
        unfold Content.Unique at hunique ⊢
        rw [hnext.1, hnext.2]
        exact hunique
      show (importRow env ctx p c).bind (importAll env ctx rows) = _
      rw [hw.importRow hok]
      exact ih hproblems hserving hnext

theorem requiredText_of_rowId {row : Members F} {questionId : Str}
    (h : rowId env row = some questionId) : requiredText row "question_id" = .ok questionId := by
  rw [rowId] at h
  cases hchecked : checkRow env row with
  | error e =>
      rw [hchecked] at h
      cases h
  | ok checked =>
      rw [hchecked] at h
      obtain rfl : checked.1 = questionId := Option.some.inj h
      obtain ⟨_, -, h⟩ := bind_eq_ok hchecked
      obtain ⟨_, hquestion, h⟩ := bind_eq_ok h
      obtain ⟨_, -, h⟩ := bind_eq_ok h
      obtain rfl := Except.ok.inj h
      exact hquestion

theorem rowWrites_keys {questionId : Str}
    (hid : requiredText prepared.row "question_id" = .ok questionId)
    (h : rowWrites env ctx prepared = .ok w) :
    w.problem.canonicalKey = canonicalKeyOf ctx.corpusVersion questionId
      ∧ w.serving.problem = canonicalKeyOf ctx.corpusVersion questionId := by
  obtain ⟨_, hquestion, h⟩ := bind_eq_ok h
  obtain ⟨_, -, h⟩ := bind_eq_ok h
  obtain ⟨_, -, h⟩ := bind_eq_ok h
  obtain ⟨_, -, h⟩ := bind_eq_ok h
  obtain ⟨_, -, h⟩ := bind_eq_ok h
  obtain ⟨_, -, h⟩ := bind_eq_ok h
  obtain ⟨_, -, h⟩ := bind_eq_ok h
  obtain rfl := Except.ok.inj (hid.symm.trans hquestion)
  obtain rfl := Except.ok.inj h
  exact ⟨rfl, rfl⟩

/-- The key of the problem of a row. -/
def rowKey (env : Environment F) (ctx : RowContext) (p : PreparedRow F) : Str :=
  canonicalKeyOf ctx.corpusVersion ((rowId env p.row).getD [])

theorem writes_keys (hpassed : ∀ p ∈ rows, (rowId env p.row).isSome)
    (hws : List.Forall₂ (Writes env ctx) rows ws) :
    (ws.map fun w => w.problem.canonicalKey) = rows.map (rowKey env ctx)
      ∧ (ws.map fun w => w.serving.problem) = rows.map (rowKey env ctx) := by
  induction hws with
  | nil => exact ⟨rfl, rfl⟩
  | @cons p w rows ws hw hws ih =>
      obtain ⟨hp, hrows⟩ := List.forall_mem_cons.mp hpassed
      obtain ⟨questionId, hid⟩ := Option.isSome_iff_exists.mp hp
      obtain ⟨hproblem, hserving⟩ := rowWrites_keys (requiredText_of_rowId hid) hw.2.1
      have hkey : rowKey env ctx p = canonicalKeyOf ctx.corpusVersion questionId := by
        rw [rowKey, hid]
        rfl
      simp only [List.map_cons, hproblem, hserving, hkey]
      exact ⟨congrArg _ (ih hrows).1, congrArg _ (ih hrows).2⟩

theorem nodup_rowKeys (hpassed : ∀ p ∈ rows, (rowId env p.row).isSome)
    (hids : (rows.map fun p => rowId env p.row).Nodup) : (rows.map (rowKey env ctx)).Nodup := by
  have hmap : rows.map (rowKey env ctx) = (rows.map fun p => rowId env p.row).map
      fun questionId => canonicalKeyOf ctx.corpusVersion (questionId.getD []) := by
    rw [List.map_map]
    rfl
  rw [hmap]
  refine hids.map_on fun x hx y hy hsame => ?_
  obtain ⟨p, hp, rfl⟩ := List.mem_map.mp hx
  obtain ⟨q, hq, rfl⟩ := List.mem_map.mp hy
  obtain ⟨i, hi⟩ := Option.isSome_iff_exists.mp (hpassed p hp)
  obtain ⟨j, hj⟩ := Option.isSome_iff_exists.mp (hpassed q hq)
  rw [hi, hj] at hsame ⊢
  exact congrArg some (List.append_cancel_left hsame)

/-- **The end of an import can be imported again**: the statements that its rows
are refused by were passed before, and the rows they write are there already. -/
theorem importAll_replay (hclass : ∀ p ∈ rows, p.classification ≠ .rejectedQuarantined)
    (hpassed : ∀ p ∈ rows, (rowId env p.row).isSome)
    (hids : (rows.map fun p => rowId env p.row).Nodup)
    (h : importAll env ctx rows c = some g) :
    Resumption.Replays (importRow env ctx) rows g := by
  rintro rest ⟨front, rfl⟩
  obtain ⟨ws, hws, rfl, hunique⟩ := importAll_writes hclass h
  obtain ⟨hproblems, hserving⟩ := writes_keys hpassed hws
  have hkeys : ((front ++ rest).map (rowKey env ctx)).Nodup := nodup_rowKeys hpassed hids
  obtain ⟨before, after, hbefore, hafter, rfl⟩ :
      ∃ before after, List.Forall₂ (Writes env ctx) front before
        ∧ List.Forall₂ (Writes env ctx) rest after ∧ ws = before ++ after :=
    ⟨_, _, (List.forall₂_take_append _ _ _ hws.flip).flip,
      (List.forall₂_drop_append _ _ _ hws.flip).flip,
      (List.take_append_drop front.length ws).symm⟩
  by_cases hempty : rest = []
  · subst hempty
    rfl
  · have hsettled : ∀ w ∈ before ++ after,
        problemUpsert.Settled w.problem (c.puts (before ++ after)).problems := by
      have hnodup : (((before ++ after).map RowWrites.problem).map problemUpsert.key).Nodup := by
        rw [List.map_map]
        exact (hproblems.symm ▸ hkeys :)
      intro w hw
      rw [puts_tables]
      exact Upsert.settled_puts hnodup _ (List.mem_map_of_mem hw)
    have hmetadata : ∀ w ∈ before ++ after,
        servingUpsert.Settled w.serving (c.puts (before ++ after)).serving := by
      have hnodup : (((before ++ after).map RowWrites.serving).map servingUpsert.key).Nodup := by
        rw [List.map_map]
        exact (hserving.symm ▸ hkeys :)
      intro w hw
      rw [puts_tables]
      exact Upsert.settled_puts hnodup _ (List.mem_map_of_mem hw)
    refine (importAll_settled hafter (fun w hw => hsettled w (List.mem_append_right _ hw))
      (fun w hw => hmetadata w (List.mem_append_right _ hw))
      (hunique (List.append_ne_nil_of_right_ne_nil _ hempty)) ⟨rfl, rfl⟩).trans ?_
    exact congrArg some (puts_replay c before after)

end Rows

end Rigor.LargeCorpus
