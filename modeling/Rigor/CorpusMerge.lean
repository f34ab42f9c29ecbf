import Rigor.CorpusBundles
import Rigor.KnowledgeRights

/-!
# Merging corpora

`merge_bundles` keeps one whole observation of a problem, the first of those
with the longest description. The importer combines the observations that it
meets: the first external identifier, difficulty and link that are given, the
longest description, every topic and every file. Importing the merged bundle
and importing the bundles in turn agree on the problems when the observation
that is kept says all that the others say (`merged_import_agrees`).
-/

namespace Rigor.Knowledge

open Py

variable {F : Type}

/-! ## The importer, with its topics -/

/-- The topics of a record that have a slug. -/
def topicSlugs (c : Corpus F) (record : Members F) : List Str :=
  match Json.get "topics" record with
  | .arr topics => (topics.map fun topic => c.slugify (c.str topic)).filter (· ≠ [])
  | _ => []

/-- `INSERT INTO knowledge_problem_topics … ON CONFLICT DO NOTHING`, for each. -/
def addTopics (canonicalKey : Str) (slugs : List Str) (topics : List (Str × Str)) :
    List (Str × Str) :=
  slugs.foldl (fun topics slug =>
    if (canonicalKey, slug) ∈ topics then topics else topics ++ [(canonicalKey, slug)]) topics

/-- The key of the problem that a record upserts. -/
def KnowledgeRecord.problemKey (i : Importer) : KnowledgeRecord → Option Str
  | .problem r => some r.canonicalKey
  | .company key _ _ => if key ∈ i.problemIds then none else some key
  | _ => none

/-- An importer with the rows of `knowledge_problem_topics`. -/
structure TopicImporter where
  importer : Importer
  topics : List (Str × Str)

def TopicImporter.importEntries (c : Corpus F) (default : SourceDisposition) :
    Entries F → TopicImporter → Except KnowledgeFailure TopicImporter
  | [], x => .ok x
  | (label, members) :: rest, x => do
      let record ← readRecord c default label members
      let i ← x.importer.upsert c default record
      let topics := match record.problemKey x.importer with
        | some canonicalKey => addTopics canonicalKey (topicSlugs c members) x.topics
        | none => x.topics
      importEntries c default rest ⟨i, topics⟩

/-- The bank with its topics. -/
structure TopicBank where
  bank : KnowledgeBank
  topics : List (Str × Str)

def TopicBank.empty : TopicBank := ⟨.empty, []⟩

/-- `import_payload`. -/
def TopicImporter.importPayload [Runtime F] (c : Corpus F) (default : SourceDisposition)
    (payload : Members F) (x : TopicImporter) : Except KnowledgeFailure TopicImporter := do
  let entries ← payloadEntries payload
  let i := (sourceNames c payload entries).foldl (fun i name => i.ensureSource name default)
    x.importer
  TopicImporter.importEntries c default entries ⟨i, x.topics⟩

/-- What an import is recorded under. -/
def importRun [Runtime F] (c : Corpus F) (payload : Members F) : Str × Str :=
  (payloadSource c payload, c.corpusHash payload)

/-- `import_knowledge_payload`, without `dry_run`. -/
def importKnowledge [Runtime F] (c : Corpus F) (payload : Members F) (x : TopicBank) :
    Except KnowledgeFailure TopicBank := do
  let default ← readDisposition .rightsReviewRequired payload
  if importRun c payload ∈ x.bank.completed then .ok x
  else do
    let i := (Importer.mk x.bank [] []).ensureSource (importRun c payload).1 default
    let y ← TopicImporter.importPayload c default payload ⟨i, x.topics⟩
    .ok ⟨{ y.importer.bank with completed := importRun c payload :: y.importer.bank.completed },
      y.topics⟩

def importBundles [Runtime F] (c : Corpus F) (bundles : List (IngestionBundle F)) (x : TopicBank) :
    Except KnowledgeFailure TopicBank :=
  bundles.foldlM (fun x b => importKnowledge c b.toDict x) x

/-! The bank without the topics is the one of the importer. -/

theorem importEntries_importer (c : Corpus F) (default : SourceDisposition) (entries : Entries F)
    (x : TopicImporter) : (x.importEntries c default entries).map TopicImporter.importer
      = importEntries c default entries x.importer := by
  induction entries generalizing x with
  | nil => rfl
  | cons entry entries ih =>
      obtain ⟨label, members⟩ := entry
      simp only [TopicImporter.importEntries, importEntries, bind, Except.bind]
      cases readRecord c default label members with
      | error e => rfl
      | ok record =>
          dsimp only
          cases x.importer.upsert c default record with
          | error e => rfl
          | ok i => exact ih _

theorem importKnowledge_bank [Runtime F] {c : Corpus F} {payload : Members F} {x y : TopicBank}
    (h : importKnowledge c payload x = .ok y) :
    ∃ report, importKnowledgePayload c payload false x.bank = (y.bank, .ok report) := by
  unfold importKnowledge at h
  obtain ⟨default, hdefault, h⟩ := bind_eq_ok h
  unfold importKnowledgePayload
  rw [hdefault]
  dsimp only
  split_ifs at h with hrun
  · cases h
    exact ⟨.alreadyImported, if_pos ⟨hrun, rfl⟩⟩
  · obtain ⟨z, hz, h⟩ := bind_eq_ok h
    cases h
    refine ⟨.completed, (if_neg fun h => hrun h.1).trans ?_⟩
    have hbank : ((Importer.mk x.bank [] []).ensureSource (importRun c payload).1 default).importPayload
        c default payload = .ok z.importer := by
      unfold TopicImporter.importPayload at hz
      unfold Importer.importPayload
      cases hentries : payloadEntries payload with
      | error e =>
          rw [hentries] at hz
          cases hz
      | ok entries =>
          rw [hentries] at hz
          refine (importEntries_importer c default entries ⟨_, x.topics⟩).symm.trans ?_
          exact congrArg (Except.map TopicImporter.importer) hz
    have hbank' : ((Importer.mk x.bank [] []).ensureSource (payloadSource c payload)
        default).importPayload c default payload = .ok z.importer := hbank
    rw [hbank']
    rfl

/-! ## What the bank says of a problem -/

/-- The columns of a row that are compared. -/
structure ProblemFacts where
  externalId : Option Str
  description : Option Str
  difficulty : Option Str
  sourceUrl : Option Str

/-- The row of a key, the disposition of each of its source rows, and its topics. -/
structure Facts where
  row : Option ProblemFacts
  source : SourceFile → Option SourceDisposition
  topic : Str → Prop

def Problem.facts (p : Problem) : ProblemFacts :=
  ⟨p.externalId, p.description.map SourcedText.text, p.difficulty, p.sourceUrl⟩

def ProblemSource.key (s : ProblemSource) : Str × SourceFile := (s.canonicalKey, s.file)

def TopicBank.facts (canonicalKey : Str) (x : TopicBank) : Facts where
  row := (x.bank.problem canonicalKey).map Problem.facts
  source file := (Tables.find ProblemSource.key (canonicalKey, file) x.bank.problemSources).map
    ProblemSource.disposition
  topic slug := (canonicalKey, slug) ∈ x.topics

/-- A problem as it is upserted, with its topics. -/
structure Written where
  record : ProblemRecord
  topics : List Str

/-- The longer text, the stored one on a draw. -/
def longer (stored text : Option Str) : Option Str :=
  if (text.getD []).length > (stored.getD []).length then text else stored

def ProblemRecord.facts (r : ProblemRecord) : ProblemFacts :=
  ⟨r.externalId, r.description, r.difficulty, r.sourceUrl⟩

/-- The columns of two observations in turn. -/
def ProblemFacts.join (stored new : ProblemFacts) : ProblemFacts :=
  ⟨stored.externalId <|> new.externalId, longer stored.description new.description,
    stored.difficulty <|> new.difficulty, stored.sourceUrl <|> new.sourceUrl⟩

def Facts.write (f : Facts) (w : Written) : Facts where
  row := some (f.row.elim w.record.facts fun row => row.join w.record.facts)
  source := Function.update f.source w.record.file (some w.record.disposition)
  topic slug := f.topic slug ∨ slug ∈ w.topics

theorem mem_addTopics (canonicalKey : Str) (slugs : List Str) (topics : List (Str × Str))
    (row : Str × Str) :
    row ∈ addTopics canonicalKey slugs topics
      ↔ row ∈ topics ∨ (row.1 = canonicalKey ∧ row.2 ∈ slugs) := by
  obtain ⟨key, slug⟩ := row
  unfold addTopics
  induction slugs generalizing topics with
  | nil => simp
  | cons first rest ih =>
      rw [List.foldl_cons, ih]
      split_ifs with hmem
      · constructor
        · rintro (h | ⟨rfl, h⟩)
          · exact .inl h
          · exact .inr ⟨rfl, List.mem_cons_of_mem _ h⟩
        · rintro (h | ⟨rfl, h⟩)
          · exact .inl h
          · rcases List.mem_cons.mp h with rfl | h
            · exact .inl hmem
            · exact .inr ⟨rfl, h⟩
      · rw [List.mem_append, List.mem_singleton, Prod.mk.injEq, List.mem_cons]
        tauto

section Upserts

variable {c : Corpus F} {i i' : Importer} {default d : SourceDisposition} {r : ProblemRecord}
  {topics : List (Str × Str)} {members : Members F} {record : KnowledgeRecord} {k : Str}

/-- The rows that the facts are read from. -/
theorem facts_congr {bank bank' : KnowledgeBank}
    (hproblem : (bank'.problem k).map Problem.facts = (bank.problem k).map Problem.facts)
    (hsources : bank'.problemSources = bank.problemSources) :
    TopicBank.facts k ⟨bank', topics⟩ = TopicBank.facts k ⟨bank, topics⟩ := by
  unfold TopicBank.facts
  rw [hproblem, hsources]

theorem ensureFile_facts (file : SourceFile) (d : SourceDisposition) (i : Importer) :
    TopicBank.facts k ⟨(i.ensureFile file d).bank, topics⟩ = TopicBank.facts k ⟨i.bank, topics⟩ := by
  obtain ⟨sources, files, hrows, -⟩ := ensureFile_rows file d i
  rw [hrows]
  rfl

theorem ensureFile_ids (file : SourceFile) (d : SourceDisposition) (i : Importer) :
    (i.ensureFile file d).problemIds = i.problemIds := by
  obtain ⟨-, -, -, hids, -⟩ := ensureFile_rows file d i
  exact hids

theorem ensureFile_completed (file : SourceFile) (d : SourceDisposition) (i : Importer) :
    (i.ensureFile file d).bank.completed = i.bank.completed := by
  obtain ⟨sources, files, hrows, -⟩ := ensureFile_rows file d i
  rw [hrows]

theorem describe_text (r : ProblemRecord) (stored : Option SourcedText) :
    (r.describe stored).map SourcedText.text
      = longer (stored.map SourcedText.text) r.description := by
  have hnew : (r.description.map r.sourced).map SourcedText.text = r.description := by
    cases r.description <;> rfl
  have hlength : ∀ text : Option SourcedText,
      descriptionLength text = ((text.map SourcedText.text).getD []).length := by
    intro text
    cases text <;> rfl
  unfold ProblemRecord.describe longer
  rw [hlength, hlength, hnew]
  split_ifs
  · exact hnew
  · rfl

theorem writeProblem_facts {bank bank' : KnowledgeBank} (h : bank.writeProblem r = .ok bank') :
    (∀ key, (bank'.problem key).map Problem.facts
      = if key = r.canonicalKey then
          some (((bank.problem key).map Problem.facts).elim r.facts fun row => row.join r.facts)
        else (bank.problem key).map Problem.facts)
      ∧ bank'.problemSources = bank.problemSources := by
  unfold KnowledgeBank.writeProblem at h
  split at h
  · rename_i row hrow
    cases h
    refine ⟨fun key => ?_, rfl⟩
    have hfind : (bank.updateProblem r.canonicalKey r.merge).problem key
        = (bank.problem key).map fun p => if p.canonicalKey = r.canonicalKey then r.merge p else p :=
      Tables.find_update fun _ => rfl
    rw [hfind]
    by_cases hkey : key = r.canonicalKey
    · subst hkey
      rw [hrow, if_pos rfl, Option.map_some, if_pos (Tables.key_of_find hrow)]
      simp only [Option.map_some, Option.elim_some]
      unfold Problem.facts ProblemFacts.join ProblemRecord.merge ProblemRecord.facts
      rw [describe_text]
    · rw [if_neg hkey]
      cases hother : bank.problem key with
      | none => rfl
      | some p =>
          rw [Option.map_some, if_neg]
          rw [Tables.key_of_find hother]
          exact hkey
  · rename_i hnone
    split_ifs at h
    cases h
    refine ⟨fun key => ?_, rfl⟩
    have hfind : KnowledgeBank.problem key { bank with problems := bank.problems ++ [r.row] }
        = (bank.problem key).or (if r.canonicalKey = key then some r.row else none) := by
      unfold KnowledgeBank.problem Tables.find
      rw [List.find?_append, List.find?_singleton]
      refine congrArg _ ?_
      split_ifs with h₁ h₂ h₂
      · rfl
      · exact absurd (of_decide_eq_true h₁) h₂
      · exact absurd (decide_eq_true h₂) h₁
      · rfl
    rw [hfind]
    by_cases hkey : key = r.canonicalKey
    · subst hkey
      rw [hnone, if_pos rfl, if_pos rfl, Option.none_or]
      refine congrArg some ?_
      unfold Problem.facts ProblemRecord.row ProblemRecord.facts
      dsimp only
      congr 1
      cases r.description <;> rfl
    · rw [if_neg hkey, if_neg (Ne.symm hkey), Option.or_none]

theorem addProblemSource_source (s : ProblemSource) (bank : KnowledgeBank) (key : Str × SourceFile) :
    (Tables.find ProblemSource.key key (bank.addProblemSource s).problemSources).map
        ProblemSource.disposition
      = if key = s.key then some s.disposition
        else (Tables.find ProblemSource.key key bank.problemSources).map ProblemSource.disposition := by
  have hfind : ∀ key, Tables.find ProblemSource.key key
        (Tables.update ProblemSource.key s.key (fun s' => { s' with disposition := s.disposition })
          bank.problemSources)
      = (Tables.find ProblemSource.key key bank.problemSources).map fun s' =>
        if s'.key = s.key then { s' with disposition := s.disposition } else s' :=
    fun _ => Tables.find_update fun _ => rfl
  unfold KnowledgeBank.addProblemSource
  dsimp only
  split_ifs with hstored hkey hkey
  · subst hkey
    have hself := hfind s.key
    obtain ⟨s', hs', hkey'⟩ := hstored
    obtain ⟨found, hfound⟩ := Tables.find_isSome_of_mem ProblemSource.key hs'
    have hkey' : s'.key = s.key := hkey'
    rw [hkey'] at hfound
    rw [hfound, Option.map_some, if_pos (Tables.key_of_find hfound)] at hself
    exact congrArg (Option.map ProblemSource.disposition) hself
  · refine (congrArg (Option.map ProblemSource.disposition) (hfind key)).trans ?_
    cases hother : Tables.find ProblemSource.key key bank.problemSources with
    | none => rfl
    | some found =>
        rw [Option.map_some, if_neg]
        rw [Tables.key_of_find hother]
        exact hkey
  · subst hkey
    have hnone : bank.problemSources.find? (fun s' => decide (s'.key = s.key)) = none :=
      List.find?_eq_none.mpr fun s' hs' heq => hstored ⟨s', hs', of_decide_eq_true heq⟩
    unfold Tables.find
    rw [List.find?_append, hnone, List.find?_singleton, if_pos (decide_eq_true rfl)]
    rfl
  · unfold Tables.find
    rw [List.find?_append, List.find?_singleton, if_neg, Option.or_none]
    simpa using Ne.symm hkey

theorem upsertProblem_ids (h : i.upsertProblem c r = .ok i') :
    i'.problemIds = r.canonicalKey :: i.problemIds := by
  unfold Importer.upsertProblem at h
  split at h
  · cases h
  obtain ⟨bank, -, h⟩ := bind_eq_ok h
  cases h
  exact ensureFile_ids r.file r.disposition ⟨bank, i.sourceIds, r.canonicalKey :: i.problemIds⟩

theorem upsertProblem_completed (h : i.upsertProblem c r = .ok i') :
    i'.bank.completed = i.bank.completed := by
  unfold Importer.upsertProblem at h
  split at h
  · cases h
  obtain ⟨bank, hwrite, h⟩ := bind_eq_ok h
  cases h
  have hbank : bank.completed = i.bank.completed := by
    unfold KnowledgeBank.writeProblem at hwrite
    split at hwrite
    · cases hwrite
      rfl
    · split_ifs at hwrite
      cases hwrite
      rfl
  exact (ensureFile_completed r.file r.disposition
    ⟨bank, i.sourceIds, r.canonicalKey :: i.problemIds⟩).trans hbank

/-- One upsert of a problem is one more observation of its key. -/
theorem upsertProblem_facts (h : i.upsertProblem c r = .ok i') (slugs : List Str) :
    TopicBank.facts k ⟨i'.bank, addTopics r.canonicalKey slugs topics⟩
      = if r.canonicalKey = k then (TopicBank.facts k ⟨i.bank, topics⟩).write ⟨r, slugs⟩
        else TopicBank.facts k ⟨i.bank, topics⟩ := by
  unfold Importer.upsertProblem at h
  split at h
  · cases h
  obtain ⟨bank, hwrite, h⟩ := bind_eq_ok h
  cases h
  obtain ⟨hrows, hsources⟩ := writeProblem_facts hwrite
  obtain ⟨sources, files, hensure, -⟩ := ensureFile_rows r.file r.disposition
    ⟨bank, i.sourceIds, r.canonicalKey :: i.problemIds⟩
  dsimp only
  rw [hensure]
  have hrow : ((KnowledgeBank.addProblemSource ⟨r.canonicalKey, r.file, r.disposition⟩
        { bank with sources := sources, files := files }).problem k).map Problem.facts
      = (bank.problem k).map Problem.facts := rfl
  have hsource : ∀ file, (Tables.find ProblemSource.key (k, file)
        (KnowledgeBank.addProblemSource ⟨r.canonicalKey, r.file, r.disposition⟩
          { bank with sources := sources, files := files }).problemSources).map
          ProblemSource.disposition
      = if k = r.canonicalKey ∧ file = r.file then some r.disposition
        else (Tables.find ProblemSource.key (k, file) i.bank.problemSources).map
          ProblemSource.disposition := fun file => by
    rw [addProblemSource_source]
    dsimp only
    rw [hsources]
    exact if_congr Prod.mk_inj rfl rfl
  have htopic : ∀ slug, ((k, slug) ∈ addTopics r.canonicalKey slugs topics)
      = ((k, slug) ∈ topics ∨ (k = r.canonicalKey ∧ slug ∈ slugs)) := fun slug =>
    propext (mem_addTopics _ _ _ _)
  unfold TopicBank.facts
  dsimp only
  rw [hrow, hrows]
  simp only [hsource, htopic]
  split_ifs with hk hk' hk'
  · subst hk
    unfold Facts.write
    simp only [true_and]
    congr 1
    funext file
    by_cases hfile : file = r.file
    · subst hfile
      rw [if_pos rfl, Function.update_self]
    · rw [if_neg hfile, Function.update_of_ne hfile]
  · exact absurd hk.symm hk'
  · exact absurd hk'.symm hk
  · simp only [hk, false_and, if_false, or_false]

end Upserts

/-! ## Reading what is serialized -/

/-- `_optional_string` of a text. -/
def stripped (text : Str) : Option Str := if isBlank text then none else some (strip text)

section Reading

variable {record : Members F} {name value : Str} {text : Option Str} {read : Option Str}
  {default d : SourceDisposition}

theorem requiredString_eq {read : Str} (hget : Json.get name record = .str value)
    (h : requiredString record name = .ok read) : read = strip value := by
  unfold requiredString at h
  rw [hget] at h
  dsimp only at h
  split_ifs at h
  cases h
  rfl

theorem optionalString_eq (hget : Json.get name record = optionalJson text)
    (h : optionalString record name = .ok read) : read = text.bind stripped := by
  unfold optionalString at h
  rw [hget] at h
  cases text with
  | none =>
      cases h
      rfl
  | some s =>
      cases h
      rfl

theorem readDisposition_value (hlookup : Json.lookup "disposition" record = some (.str d.value)) :
    readDisposition default record = .ok d := by
  unfold readDisposition
  rw [hlookup]
  cases d <;> rfl

theorem readSource_eq {sourceName sourcePath sourceHash : Str} {file : FileRecord}
    (hname : Json.get "source_name" record = .str sourceName)
    (hpath : Json.get "source_path" record = .str sourcePath)
    (hhash : Json.get "source_hash" record = .str sourceHash)
    (h : readSource record = .ok file) :
    file = ⟨strip sourceName, strip sourcePath, strip sourceHash⟩ := by
  unfold readSource at h
  obtain ⟨name', hname', h⟩ := bind_eq_ok h
  obtain ⟨path', hpath', h⟩ := bind_eq_ok h
  obtain ⟨hash', hhash', h⟩ := bind_eq_ok h
  cases h
  rw [requiredString_eq hname hname', requiredString_eq hpath hpath', requiredString_eq hhash hhash']

/-- The record of a problem with the given texts. -/
theorem readProblem_eq {key title slug sourceName sourcePath sourceHash : Str}
    (description : Option Str) {externalId difficulty sourceUrl : Option Str} {r : ProblemRecord}
    (hkey : Json.get "canonical_key" record = .str key)
    (htitle : Json.get "title" record = .str title) (hslug : Json.get "slug" record = .str slug)
    (hname : Json.get "source_name" record = .str sourceName)
    (hpath : Json.get "source_path" record = .str sourcePath)
    (hhash : Json.get "source_hash" record = .str sourceHash)
    (hdisposition : Json.lookup "disposition" record = some (.str d.value))
    (hdescription : Json.get "description" record = optionalJson description)
    (hexternal : Json.get "external_id" record = optionalJson externalId)
    (hdifficulty : Json.get "difficulty" record = optionalJson difficulty)
    (hurl : Json.get "source_url" record = optionalJson sourceUrl)
    (h : readProblem default record = .ok r) :
    r = ⟨strip key, strip title, strip slug, strip sourceName, strip sourcePath, strip sourceHash, d,
      description.bind stripped, externalId.bind stripped, difficulty.bind stripped,
      sourceUrl.bind stripped⟩ := by
  unfold readProblem at h
  obtain ⟨key', hkey', h⟩ := bind_eq_ok h
  obtain ⟨title', htitle', h⟩ := bind_eq_ok h
  obtain ⟨slug', hslug', h⟩ := bind_eq_ok h
  obtain ⟨source, hsource, h⟩ := bind_eq_ok h
  rw [readDisposition_value hdisposition] at h
  obtain ⟨d', hd', h⟩ := bind_eq_ok h
  obtain ⟨description', hdescription', h⟩ := bind_eq_ok h
  obtain ⟨externalId', hexternal', h⟩ := bind_eq_ok h
  obtain ⟨difficulty', hdifficulty', h⟩ := bind_eq_ok h
  obtain ⟨sourceUrl', hurl', h⟩ := bind_eq_ok h
  cases hd'
  cases h
  rw [requiredString_eq hkey hkey', requiredString_eq htitle htitle', requiredString_eq hslug hslug',
    readSource_eq hname hpath hhash hsource, optionalString_eq hdescription hdescription',
    optionalString_eq hexternal hexternal', optionalString_eq hdifficulty hdifficulty',
    optionalString_eq hurl hurl']

end Reading

/-! ## What an observation writes -/

def slugsOf (c : Corpus F) (topics : List Str) : List Str :=
  (topics.map fun topic => c.slugify (c.str (.str topic))).filter (· ≠ [])

def ProblemObservation.record (o : ProblemObservation) : ProblemRecord :=
  ⟨o.key.text, strip o.title, strip o.slug, strip o.sourceName, strip o.sourcePath,
    strip o.sourceHash, o.disposition, o.description.bind stripped, o.externalId.bind stripped,
    o.difficulty.bind stripped, o.sourceUrl.bind stripped⟩

def ProblemObservation.written (c : Corpus F) (o : ProblemObservation) : Written :=
  ⟨o.record, slugsOf c o.topics⟩

/-- The problem that the importer makes of an observation of a company. -/
def CompanyObservation.record (c : Corpus F) (o : CompanyObservation F) : ProblemRecord :=
  ⟨o.key.text, strip (strip o.title), strip (c.slugify (strip o.title)), strip o.sourceName,
    strip o.sourcePath, strip o.sourceHash, .externalReferenceOnly, none,
    o.externalId.bind stripped, o.difficulty.bind stripped, o.problemUrl.bind stripped⟩

def CompanyObservation.written (c : Corpus F) (o : CompanyObservation F) : Written :=
  ⟨o.record c, slugsOf c o.topics⟩

theorem topicSlugs_eq {c : Corpus F} {record : Members F} {topics : List Str}
    (h : Json.get "topics" record = textsJson topics) : topicSlugs c record = slugsOf c topics := by
  unfold topicSlugs
  rw [h]
  unfold textsJson slugsOf
  dsimp only
  rw [List.map_map]
  rfl

theorem ProblemObservation.read {o : ProblemObservation} {default : SourceDisposition}
    {r : ProblemRecord} (h : readProblem default (o.serialize : Members F) = .ok r) :
    r = o.record := by
  have hread := readProblem_eq (d := o.disposition) o.description rfl rfl rfl rfl rfl rfl rfl rfl rfl rfl rfl h
  rw [o.key.stripped] at hread
  exact hread

theorem CompanyObservation.read {c : Corpus F} {o : CompanyObservation F} {record : KnowledgeRecord}
    (h : readCompany c o.serialize = .ok record) :
    ∃ stub file, record = .company o.key.text stub file
      ∧ ∀ r, stub = .ok r → r = o.record c := by
  unfold readCompany at h
  obtain ⟨key, hkey, h⟩ := bind_eq_ok h
  obtain ⟨source, -, h⟩ := bind_eq_ok h
  obtain ⟨company, -, h⟩ := bind_eq_ok h
  cases h
  have hkey : key = o.key.text := (requiredString_eq rfl hkey).trans o.key.stripped
  subst hkey
  refine ⟨_, _, rfl, fun r hr => ?_⟩
  obtain ⟨title, htitle, hr⟩ := bind_eq_ok hr
  cases requiredString_eq rfl htitle
  have hread := readProblem_eq (d := .externalReferenceOnly) none rfl rfl rfl rfl
    rfl rfl rfl rfl rfl rfl rfl hr
  rw [o.key.stripped] at hread
  exact hread

/-! ## An import, by its observations -/

section Imports

variable {c : Corpus F} {default : SourceDisposition} {x y z : TopicImporter} {k : Str}

def TopicImporter.facts (k : Str) (x : TopicImporter) : Facts :=
  TopicBank.facts k ⟨x.importer.bank, x.topics⟩

/-- The import writes `written` and has met the `keys`. -/
structure Imported (written : Str → List Written) (keys : List Str) (x y : TopicImporter) : Prop where
  facts : ∀ k, y.facts k = (written k).foldl Facts.write (x.facts k)
  ids : ∀ k, k ∈ y.importer.problemIds ↔ k ∈ x.importer.problemIds ∨ k ∈ keys
  completed : y.importer.bank.completed = x.importer.bank.completed

theorem Imported.refl (x : TopicImporter) : Imported (fun _ => []) [] x x :=
  ⟨fun _ => rfl, fun _ => (or_iff_left List.not_mem_nil).symm, rfl⟩

theorem Imported.trans {written written' : Str → List Written} {keys keys' : List Str}
    (h : Imported written keys x y) (h' : Imported written' keys' y z) :
    Imported (fun k => written k ++ written' k) (keys ++ keys') x z where
  facts k := by rw [h'.facts, h.facts, List.foldl_append]
  ids k := by rw [h'.ids, h.ids, List.mem_append, or_assoc]
  completed := h'.completed.trans h.completed

theorem importEntries_append (entries rest : Entries F) :
    x.importEntries c default (entries ++ rest)
      = x.importEntries c default entries >>= fun y => y.importEntries c default rest := by
  induction entries generalizing x with
  | nil => rfl
  | cons entry entries ih =>
      obtain ⟨label, members⟩ := entry
      simp only [List.cons_append, TopicImporter.importEntries, bind, Except.bind]
      cases readRecord c default label members with
      | error e => rfl
      | ok record =>
          dsimp only
          cases x.importer.upsert c default record with
          | error e => rfl
          | ok i => exact ih

/-- An entry is read and upserted. -/
theorem importEntry_ok {label : RecordLabel} {members : Members F}
    (h : x.importEntries c default [(label, members)] = .ok y) :
    ∃ record, readRecord c default label members = .ok record
      ∧ x.importer.upsert c default record = .ok y.importer
      ∧ y.topics = match record.problemKey x.importer with
        | some canonicalKey => addTopics canonicalKey (topicSlugs c members) x.topics
        | none => x.topics := by
  unfold TopicImporter.importEntries at h
  obtain ⟨record, hread, h⟩ := bind_eq_ok h
  obtain ⟨i, hupsert, h⟩ := bind_eq_ok h
  cases h
  exact ⟨record, hread, hupsert, rfl⟩

/-- A list whose items are imported alike. -/
theorem Imported.list {α : Type} {label : RecordLabel} {serialize : α → Members F}
    {written : α → Str → List Written} {keys : α → List Str}
    (hitem : ∀ o x y, x.importEntries c default [(label, serialize o)] = .ok y →
      Imported (written o) (keys o) x y) {items : List α}
    (h : x.importEntries c default (items.map fun o => (label, serialize o)) = .ok y) :
    Imported (fun k => items.flatMap fun o => written o k) (items.flatMap keys) x y := by
  induction items generalizing x with
  | nil =>
      cases h
      exact .refl _
  | cons o items ih =>
      rw [List.map_cons, ← List.singleton_append, importEntries_append] at h
      obtain ⟨z, hfirst, h⟩ := bind_eq_ok h
      exact (hitem o x z hfirst).trans (ih h)

/-- The importer goes on with the same problems and topics. -/
theorem Imported.quiet (hfacts : ∀ k topics, TopicBank.facts k ⟨y.importer.bank, topics⟩
      = TopicBank.facts k ⟨x.importer.bank, topics⟩)
    (hids : y.importer.problemIds = x.importer.problemIds)
    (hcompleted : y.importer.bank.completed = x.importer.bank.completed)
    (htopics : y.topics = x.topics) : Imported (fun _ => []) [] x y where
  completed := hcompleted
  facts k := by
    unfold TopicImporter.facts
    rw [htopics]
    exact hfacts k x.topics
  ids k := by
    rw [hids]
    exact (or_iff_left List.not_mem_nil).symm

theorem upsertFile_facts {i i' : Importer} {record : KnowledgeRecord} {file : FileRecord}
    {d : SourceDisposition} (h : i.upsertFile c record file d = .ok i') :
    (∀ k topics, TopicBank.facts k ⟨i'.bank, topics⟩ = TopicBank.facts k ⟨i.bank, topics⟩)
      ∧ i'.problemIds = i.problemIds ∧ i'.bank.completed = i.bank.completed := by
  unfold Importer.upsertFile at h
  split_ifs at h
  cases h
  exact ⟨fun _ _ => ensureFile_facts _ _ _, ensureFile_ids _ _ _, ensureFile_completed _ _ _⟩

theorem SourceFileRecord.imported (o : SourceFileRecord)
    (h : x.importEntries c default [(.files, o.serialize)] = .ok y) :
    Imported (fun _ => []) [] x y := by
  obtain ⟨record, hread, hupsert, htopics⟩ := importEntry_ok h
  obtain ⟨file, -, rfl⟩ := map_eq_ok hread
  obtain ⟨hfacts, hids, hcompleted⟩ := upsertFile_facts hupsert
  exact .quiet hfacts hids hcompleted htopics

theorem SystemDesignObservation.imported (o : SystemDesignObservation)
    (h : x.importEntries c default [(.systemDesign, o.serialize)] = .ok y) :
    Imported (fun _ => []) [] x y := by
  obtain ⟨record, hread, hupsert, htopics⟩ := importEntry_ok h
  obtain ⟨r, -, rfl⟩ := map_eq_ok hread
  have hupsert : x.importer.upsertSystemDesign c r = .ok y.importer := hupsert
  unfold Importer.upsertSystemDesign at hupsert
  split_ifs at hupsert
  injection hupsert with himporter
  refine .quiet (fun k topics => ?_) ?_ ?_ htopics
  · rw [← himporter]
    exact ensureFile_facts r.file r.disposition x.importer
  · rw [← himporter]
    exact ensureFile_ids r.file r.disposition x.importer
  · rw [← himporter]
    exact ensureFile_completed r.file r.disposition x.importer

theorem LearningResourceObservation.imported (o : LearningResourceObservation)
    (h : x.importEntries c default [(.resources, o.serialize)] = .ok y) :
    Imported (fun _ => []) [] x y := by
  obtain ⟨record, hread, hupsert, htopics⟩ := importEntry_ok h
  have hread : readResource default (o.serialize : Members F) = .ok record := hread
  unfold readResource at hread
  obtain ⟨source, -, hread⟩ := bind_eq_ok hread
  obtain ⟨d, -, hread⟩ := bind_eq_ok hread
  obtain ⟨-, -, hread⟩ := bind_eq_ok hread
  obtain ⟨-, -, hread⟩ := bind_eq_ok hread
  obtain ⟨-, -, hread⟩ := bind_eq_ok hread
  obtain ⟨-, -, hread⟩ := bind_eq_ok hread
  obtain ⟨-, -, hread⟩ := bind_eq_ok hread
  cases hread
  obtain ⟨hfacts, hids, hcompleted⟩ := upsertFile_facts hupsert
  exact .quiet hfacts hids hcompleted htopics

theorem ProblemObservation.imported (o : ProblemObservation)
    (h : x.importEntries c default [(.problems, o.serialize)] = .ok y) :
    Imported (fun k => if o.key.text = k then [o.written c] else []) [o.key.text] x y := by
  obtain ⟨record, hread, hupsert, htopics⟩ := importEntry_ok h
  obtain ⟨r, hproblem, rfl⟩ := map_eq_ok hread
  cases ProblemObservation.read hproblem
  have htopics : y.topics = addTopics o.key.text (slugsOf c o.topics) x.topics :=
    htopics.trans (congrArg (addTopics _ · _) (topicSlugs_eq rfl))
  refine ⟨fun k => ?_, fun k => ?_, upsertProblem_completed (r := o.record) hupsert⟩
  · unfold TopicImporter.facts
    rw [htopics]
    refine (upsertProblem_facts (r := o.record) hupsert (slugsOf c o.topics)).trans ?_
    have hkey : o.record.canonicalKey = o.key.text := rfl
    rw [hkey]
    split_ifs <;> rfl
  · have hids : y.importer.problemIds = o.key.text :: x.importer.problemIds :=
      upsertProblem_ids (r := o.record) hupsert
    rw [hids, List.mem_cons, List.mem_singleton, or_comm]

theorem SolutionObservation.imported (o : SolutionObservation)
    (h : x.importEntries c default [(.solutions, o.serialize)] = .ok y) :
    Imported (fun _ => []) [o.key.text] x y := by
  obtain ⟨record, hread, hupsert, htopics⟩ := importEntry_ok h
  obtain ⟨r, hsolution, rfl⟩ := map_eq_ok hread
  have hkey : r.canonicalKey = o.key.text := by
    unfold readSolution at hsolution
    obtain ⟨key, hkey, hsolution⟩ := bind_eq_ok hsolution
    obtain ⟨source, -, hsolution⟩ := bind_eq_ok hsolution
    obtain ⟨language, -, hsolution⟩ := bind_eq_ok hsolution
    obtain ⟨d, -, hsolution⟩ := bind_eq_ok hsolution
    obtain ⟨explanation, -, hsolution⟩ := bind_eq_ok hsolution
    obtain ⟨sourceCode, -, hsolution⟩ := bind_eq_ok hsolution
    cases hsolution
    exact (requiredString_eq rfl hkey).trans o.key.stripped
  have hupsert : x.importer.upsertSolution c r = .ok y.importer := hupsert
  unfold Importer.upsertSolution at hupsert
  obtain ⟨known, hknown, hupsert⟩ := bind_eq_ok hupsert
  have hknown : known.bank = x.importer.bank
      ∧ ∀ k, k ∈ known.problemIds ↔ k ∈ x.importer.problemIds ∨ k = o.key.text := by
    unfold Importer.problemId at hknown
    rw [hkey] at hknown
    split_ifs at hknown with hmem
    · cases hknown
      exact ⟨rfl, fun k => (or_iff_left_of_imp fun heq => heq ▸ hmem).symm⟩
    · split at hknown
      · cases hknown
      · cases hknown
        exact ⟨rfl, fun k => List.mem_cons.trans or_comm⟩
  split_ifs at hupsert
  injection hupsert with himporter
  refine ⟨fun k => ?_, fun k => ?_, ?_⟩
  · have htopics : y.topics = x.topics := htopics
    have hfile : TopicBank.facts k ⟨(known.ensureFile r.file r.disposition).bank, x.topics⟩
        = TopicBank.facts k ⟨known.bank, x.topics⟩ := ensureFile_facts ..
    unfold TopicImporter.facts
    rw [htopics, ← himporter, ← hknown.1]
    refine Eq.trans ?_ hfile
    refine facts_congr ?_ rfl
    exact Tables.map_find_update (f := Problem.speak r.language) (g := Problem.facts)
      (fun _ => rfl) fun _ => rfl
  · rw [← himporter, List.mem_singleton, ← hknown.2]
    dsimp only
    rw [ensureFile_ids]
  · rw [← himporter, ← hknown.1]
    exact ensureFile_completed r.file r.disposition known

/-- An observation of a company writes a problem when its key was not met. -/
theorem CompanyObservation.imported (o : CompanyObservation F)
    (h : x.importEntries c default [(.companies, o.serialize)] = .ok y) :
    Imported (fun k => if o.key.text ∉ x.importer.problemIds ∧ o.key.text = k then [o.written c]
      else []) [o.key.text] x y := by
  obtain ⟨record, hread, hupsert, htopics⟩ := importEntry_ok h
  obtain ⟨stub, file, rfl, hstub⟩ := CompanyObservation.read hread
  have hupsert : x.importer.upsertCompany c o.key.text stub file default = .ok y.importer := hupsert
  unfold Importer.upsertCompany at hupsert
  obtain ⟨known, hknown, hupsert⟩ := bind_eq_ok hupsert
  obtain ⟨hfile, hids, hcompleted⟩ := upsertFile_facts hupsert
  unfold Importer.companyProblem at hknown
  unfold KnowledgeRecord.problemKey at htopics
  dsimp only at htopics
  split_ifs at hknown htopics with hmem
  · cases hknown
    refine ⟨fun k => ?_, fun k => ?_, hcompleted⟩
    · rw [if_neg fun h => h.1 hmem]
      unfold TopicImporter.facts
      rw [htopics]
      exact hfile k _
    · rw [hids, List.mem_singleton]
      exact (or_iff_left_of_imp fun heq => heq ▸ hmem).symm
  · obtain ⟨r, hr, hproblem⟩ := bind_eq_ok hknown
    cases hstub r hr
    have htopics : y.topics = addTopics o.key.text (slugsOf c o.topics) x.topics :=
      htopics.trans (congrArg (addTopics _ · _) (topicSlugs_eq rfl))
    have hkey : (o.record c).canonicalKey = o.key.text := rfl
    refine ⟨fun k => ?_, fun k => ?_, hcompleted.trans (upsertProblem_completed hproblem)⟩
    · unfold TopicImporter.facts
      rw [htopics, hfile]
      refine (upsertProblem_facts hproblem (slugsOf c o.topics)).trans ?_
      rw [hkey]
      by_cases hk : o.key.text = k
      · rw [if_pos hk, if_pos ⟨hmem, hk⟩]
        rfl
      · rw [if_neg hk, if_neg fun h => hk h.2]
        rfl
    · rw [hids, upsertProblem_ids hproblem, hkey, List.mem_cons, List.mem_singleton, or_comm]

theorem companies_imported {items : List (CompanyObservation F)}
    (h : x.importEntries c default (items.map fun o => (.companies, o.serialize)) = .ok y) :
    Imported (fun k => if k ∈ x.importer.problemIds then []
      else ((items.find? fun o => o.key.text = k).map (CompanyObservation.written c)).toList)
      (items.map fun o => o.key.text) x y := by
  induction items generalizing x with
  | nil =>
      cases h
      refine ⟨fun k => ?_, fun k => (or_iff_left List.not_mem_nil).symm, rfl⟩
      split_ifs <;> rfl
  | cons o items ih =>
      rw [List.map_cons, ← List.singleton_append, importEntries_append] at h
      obtain ⟨z, hfirst, h⟩ := bind_eq_ok h
      have hfirst := o.imported hfirst
      have hwhole := hfirst.trans (ih h)
      refine ⟨fun k => ?_, hwhole.ids, hwhole.completed⟩
      rw [hwhole.facts]
      refine congrArg (List.foldl Facts.write _) ?_
      simp only [hfirst.ids k, List.mem_singleton]
      by_cases hmet : k ∈ x.importer.problemIds
      · have hnot : ¬(o.key.text ∉ x.importer.problemIds ∧ o.key.text = k) := by
          rintro ⟨hnot, rfl⟩
          exact hnot hmet
        rw [if_neg hnot, if_pos (.inl hmet), if_pos hmet]
        rfl
      · by_cases hkey : o.key.text = k
        · rw [if_pos ⟨hkey.symm ▸ hmet, hkey⟩, if_pos (.inr hkey.symm), if_neg hmet,
            List.find?_cons_of_pos (by simpa using hkey)]
          rfl
        · rw [if_neg fun h => hkey h.2, if_neg (not_or_intro hmet fun h => hkey h.symm), if_neg hmet,
            List.find?_cons_of_neg (by simpa using hkey)]
          rfl

theorem mapM_ok {ε α β : Type} {f : α → Except ε β} {g : α → β} {xs : List α}
    (h : ∀ x ∈ xs, f x = .ok (g x)) : xs.mapM f = .ok (xs.map g) := by
  induction xs with
  | nil => rfl
  | cons x xs ih =>
      rw [List.mapM_cons, h x (List.mem_cons_self ..), ih fun y hy => h y (List.mem_cons_of_mem _ hy)]
      rfl

/-- The entries of a bundle, in the order of the import. -/
def IngestionBundle.entries (b : IngestionBundle F) : Entries F :=
  ([RecordLabel.files, .problems, .solutions, .companies, .systemDesign, .resources].map fun label =>
    (b.records label).map fun members => (label, members)).flatten

theorem payloadEntries_toDict (b : IngestionBundle F) :
    payloadEntries b.toDict = .ok b.entries := by
  have hobjects : ∀ label ∈ [RecordLabel.files, .problems, .solutions, .companies, .systemDesign,
      .resources], objects label (Json.get label.value b.toDict)
        = .ok ((b.records label).map fun members => (label, members)) := by
    intro label _
    have hget : Json.get label.value b.toDict = .arr ((b.records label).map .obj) := by
      cases label <;> rfl
    rw [hget]
    unfold objects
    have hmap : (b.records label).mapM (fun members =>
          (.ok (label, members) : Except KnowledgeFailure (RecordLabel × Members F)))
        = .ok ((b.records label).map fun members => (label, members)) := mapM_ok fun _ _ => rfl
    dsimp only
    rw [← hmap, List.mapM_map]
    rfl
  unfold payloadEntries
  rw [mapM_ok hobjects]
  rfl

/-- The problems that a bundle writes under a key, in order. -/
def IngestionBundle.written (c : Corpus F) (k : Str) (b : IngestionBundle F) : List Written :=
  ((b.problems.filter fun o => o.key.text = k).map (ProblemObservation.written c))
    ++ if k ∈ b.problems.map (fun o => o.key.text) ∨ k ∈ b.solutions.map (fun o => o.key.text) then []
      else ((b.companies.find? fun o => o.key.text = k).map (CompanyObservation.written c)).toList

theorem bundle_imported {b : IngestionBundle F} (hids : x.importer.problemIds = [])
    (h : x.importEntries c default b.entries = .ok y) :
    (∀ k, y.facts k = (b.written c k).foldl Facts.write (x.facts k))
      ∧ y.importer.bank.completed = x.importer.bank.completed := by
  unfold IngestionBundle.entries at h
  simp only [List.map_cons, List.map_nil, List.flatten_cons, List.flatten_nil, List.append_nil,
    IngestionBundle.records, List.map_map] at h
  rw [importEntries_append] at h
  obtain ⟨x₁, hfiles, h⟩ := bind_eq_ok h
  rw [importEntries_append] at h
  obtain ⟨x₂, hproblems, h⟩ := bind_eq_ok h
  rw [importEntries_append] at h
  obtain ⟨x₃, hsolutions, h⟩ := bind_eq_ok h
  rw [importEntries_append] at h
  obtain ⟨x₄, hcompanies, h⟩ := bind_eq_ok h
  rw [importEntries_append] at h
  obtain ⟨x₅, hsystemDesign, hresources⟩ := bind_eq_ok h
  have hfiles := Imported.list (fun o x y => SourceFileRecord.imported o) hfiles
  have hproblems := Imported.list (fun o x y => ProblemObservation.imported o) hproblems
  have hsolutions := Imported.list (fun o x y => SolutionObservation.imported o) hsolutions
  have hcompanies := companies_imported hcompanies
  have hsystemDesign := Imported.list (fun o x y => SystemDesignObservation.imported o) hsystemDesign
  have hresources := Imported.list (fun o x y => LearningResourceObservation.imported o) hresources
  have hnone : ∀ {α : Type} (items : List α),
      (items.flatMap fun _ => ([] : List Written)) = [] := fun items => by simp
  have hnoKeys : ∀ {α : Type} (items : List α),
      (items.flatMap fun _ => ([] : List Str)) = [] := fun items => by simp
  have hkeys : ∀ k, k ∈ x₃.importer.problemIds ↔ k ∈ b.problems.map (fun o => o.key.text)
      ∨ k ∈ b.solutions.map (fun o => o.key.text) := fun k => by
    rw [hsolutions.ids, hproblems.ids, hfiles.ids, hids, hnoKeys]
    simp [eq_comm]
  refine ⟨fun k => ?_, hresources.completed.trans (hsystemDesign.completed.trans
    (hcompanies.completed.trans (hsolutions.completed.trans
      (hproblems.completed.trans hfiles.completed))))⟩
  rw [hresources.facts, hsystemDesign.facts, hcompanies.facts, hsolutions.facts, hproblems.facts,
    hfiles.facts]
  simp only [hnone, List.foldl_nil, hkeys]
  unfold IngestionBundle.written
  rw [List.foldl_append]
  congr 2
  induction b.problems with
  | nil => rfl
  | cons o os ih =>
      rw [List.flatMap_cons, ih]
      by_cases hkey : o.key.text = k
      · rw [if_pos hkey, List.filter_cons_of_pos (by simpa using hkey)]
        rfl
      · rw [if_neg hkey, List.filter_cons_of_neg (by simpa using hkey)]
        rfl

/-- The importer goes on with the same rows but for its sources. -/
structure SameRows (i i' : Importer) : Prop where
  facts : ∀ k topics, TopicBank.facts k ⟨i'.bank, topics⟩ = TopicBank.facts k ⟨i.bank, topics⟩
  ids : i'.problemIds = i.problemIds
  completed : i'.bank.completed = i.bank.completed

theorem SameRows.ensureSource (name : Str) (d : SourceDisposition) (i : Importer) :
    SameRows i (i.ensureSource name d) := by
  refine ⟨fun k topics => ?_, ?_, ?_⟩
  · rw [ensureSource_rows]
    rfl
  · unfold Importer.ensureSource
    split_ifs <;> rfl
  · rw [ensureSource_rows]

theorem SameRows.ensureSources (names : List Str) (d : SourceDisposition) (i : Importer) :
    SameRows i (names.foldl (fun i name => i.ensureSource name d) i) := by
  induction names generalizing i with
  | nil => exact ⟨fun _ _ => rfl, rfl, rfl⟩
  | cons name names ih =>
      have hfirst := SameRows.ensureSource name d i
      have hrest := ih (i.ensureSource name d)
      exact ⟨fun k topics => (hrest.facts k topics).trans (hfirst.facts k topics),
        hrest.ids.trans hfirst.ids, hrest.completed.trans hfirst.completed⟩

/-- An import that was recorded before is skipped; any other combines what the
bank says with what the bundle writes, and is recorded. -/
theorem importKnowledge_facts [Runtime F] {b : IngestionBundle F} {x y : TopicBank}
    (h : importKnowledge c b.toDict x = .ok y) :
    (importRun c b.toDict ∈ x.bank.completed ∧ y = x)
      ∨ (importRun c b.toDict ∉ x.bank.completed
        ∧ y.bank.completed = importRun c b.toDict :: x.bank.completed
        ∧ ∀ k, y.facts k = (b.written c k).foldl Facts.write (x.facts k)) := by
  unfold importKnowledge at h
  obtain ⟨default, -, h⟩ := bind_eq_ok h
  split_ifs at h with hrun
  · cases h
    exact .inl ⟨hrun, rfl⟩
  obtain ⟨z, hz, h⟩ := bind_eq_ok h
  cases h
  unfold TopicImporter.importPayload at hz
  rw [payloadEntries_toDict] at hz
  obtain ⟨entries, hentries, hz⟩ := bind_eq_ok hz
  cases hentries
  have hfirst := SameRows.ensureSource (importRun c b.toDict).1 default ⟨x.bank, [], []⟩
  have hrest := SameRows.ensureSources (sourceNames c b.toDict b.entries) default
    ((Importer.mk x.bank [] []).ensureSource (importRun c b.toDict).1 default)
  obtain ⟨hfacts, hcompleted⟩ := bundle_imported (by exact hrest.ids.trans hfirst.ids) hz
  refine .inr ⟨hrun, ?_, fun k => (hfacts k).trans ?_⟩
  · exact congrArg _ (hcompleted.trans (hrest.completed.trans hfirst.completed))
  · exact congrArg (List.foldl Facts.write · _)
      ((hrest.facts k x.topics).trans (hfirst.facts k x.topics))

/-- The bundles whose import is not skipped. -/
def imported [Runtime F] (c : Corpus F) (completed : List (Str × Str))
    (bundles : List (IngestionBundle F)) : List (IngestionBundle F) :=
  keepFirst (fun b => importRun c b.toDict) completed bundles

theorem importBundles_facts [Runtime F] {bundles : List (IngestionBundle F)} {x y : TopicBank}
    (h : importBundles c bundles x = .ok y) (k : Str) :
    y.facts k = ((imported c x.bank.completed bundles).flatMap
      (IngestionBundle.written c k)).foldl Facts.write (x.facts k) := by
  unfold importBundles at h
  induction bundles generalizing x with
  | nil =>
      cases h
      rfl
  | cons b bundles ih =>
      rw [List.foldlM_cons] at h
      obtain ⟨z, hz, h⟩ := bind_eq_ok h
      have hrest := ih h
      unfold imported at hrest ⊢
      rw [keepFirst]
      rcases importKnowledge_facts hz with ⟨hrun, rfl⟩ | ⟨hrun, hcompleted, hfacts⟩
      · rw [if_pos hrun]
        exact hrest
      · rw [if_neg hrun, List.flatMap_cons, List.foldl_append, ← hfacts, ← hcompleted]
        exact hrest

end Imports

/-! ## What the merged bundle writes -/

/-- The observation that the merged bundle writes under a key: the first of
the longest of the problem or, where there is none and no solution either, the
first of a company. -/
def kept (c : Corpus F) (bundles : List (IngestionBundle F)) (k : Str) : Option Written :=
  match keptProblem ((bundles.flatMap IngestionBundle.problems).filter fun o => o.key.text = k) with
  | some o => some (o.written c)
  | none =>
      if k ∈ (bundles.flatMap IngestionBundle.solutions).map (fun o => o.key.text) then none
      else ((bundles.flatMap IngestionBundle.companies).find? fun o => o.key.text = k).map
        (CompanyObservation.written c)

theorem merge_written (bundles : List (IngestionBundle F)) (k : Str) :
    (mergeBundles bundles).written c k = (kept c bundles k).toList := by
  have hcompanies : (mergeBundles bundles).companies.find? (fun o => o.key.text = k)
      = (bundles.flatMap IngestionBundle.companies).find? fun o => o.key.text = k := by
    refine find?_keepFirst (fun x y hxy => ?_) [] (fun x hx => nomatch hx) _
    have htext : x.key.text = y.key.text := congrArg Prod.fst hxy
    rw [htext]
  have hproblems : k ∈ (mergeBundles bundles).problems.map (fun o => o.key.text)
      ↔ (keptProblem ((bundles.flatMap IngestionBundle.problems).filter
        fun o => o.key.text = k)).isSome = true := by
    rw [mem_merge_problems, keptProblem_isSome, Ne, List.filter_eq_nil_iff]
    simp only [List.mem_map, List.mem_flatMap, decide_eq_true_eq]
    grind
  unfold IngestionBundle.written kept
  rw [merge_problems_filter, hcompanies]
  simp only [hproblems, merge_solutions_keys]
  cases keptProblem ((bundles.flatMap IngestionBundle.problems).filter fun o => o.key.text = k) with
  | some o => rfl
  | none =>
      dsimp only [Option.toList_none, List.map_nil, List.nil_append, Option.isSome_none]
      by_cases hsolution : k ∈ (bundles.flatMap IngestionBundle.solutions).map fun o => o.key.text
      · rw [if_pos (.inr hsolution), if_pos hsolution]
        rfl
      · rw [if_neg (not_or_intro Bool.false_ne_true hsolution), if_neg hsolution]
        rfl

/-! ## What all observations say together -/

/-- The longest of the texts, the first of them on a draw. -/
def longestOf : List (Option Str) → Option Str
  | [] => none
  | text :: texts => texts.foldl longer text

/-- The observation says all that the others say: it has the first value that
one of them gives in each column, the longest description and every topic, and
it is of the one file that they all come from. -/
structure Covers (w : Written) (written : List Written) : Prop where
  given : written ≠ []
  externalId : w.record.externalId = written.findSome? fun u => u.record.externalId
  description : w.record.description = longestOf (written.map fun u => u.record.description)
  difficulty : w.record.difficulty = written.findSome? fun u => u.record.difficulty
  sourceUrl : w.record.sourceUrl = written.findSome? fun u => u.record.sourceUrl
  topics : ∀ slug, slug ∈ w.topics ↔ ∃ u ∈ written, slug ∈ u.topics
  file : ∀ u ∈ written, u.record.file = w.record.file
  disposition : written.getLast?.map (fun u => u.record.disposition) = some w.record.disposition

theorem Covers.single (w : Written) : Covers w [w] := by
  have hself : ∀ g : Written → Option Str, g w = [w].findSome? g := by
    intro g
    rw [List.findSome?_cons, List.findSome?_nil]
    cases g w <;> rfl
  exact ⟨List.cons_ne_nil _ _, hself fun u => u.record.externalId, rfl,
    hself fun u => u.record.difficulty, hself fun u => u.record.sourceUrl, fun slug => by simp,
    fun u hu => by rw [List.mem_singleton.mp hu], rfl⟩

/-- Nothing is known. -/
def Facts.none : Facts := ⟨Option.none, fun _ => Option.none, fun _ => False⟩

section Together

variable {f : Facts} {written : List Written}

theorem write_row (f : Facts) (row : ProblemFacts) (hrow : f.row = some row) (written : List Written) :
    (written.foldl Facts.write f).row
      = some (written.foldl (fun row u => row.join u.record.facts) row) := by
  induction written generalizing f row with
  | nil => exact hrow
  | cons u written ih =>
      refine ih _ _ ?_
      unfold Facts.write
      rw [hrow]
      rfl

theorem findSome_cons (g : Written → Option Str) (u : Written) (written : List Written) :
    (u :: written).findSome? g = (g u <|> written.findSome? g) := by
  rw [List.findSome?_cons]
  cases g u <;> rfl

theorem join_fields (row : ProblemFacts) (written : List Written) :
    written.foldl (fun row u => row.join u.record.facts) row
      = ⟨row.externalId <|> written.findSome? fun u => u.record.externalId,
        written.foldl (fun text u => longer text u.record.description) row.description,
        row.difficulty <|> written.findSome? fun u => u.record.difficulty,
        row.sourceUrl <|> written.findSome? fun u => u.record.sourceUrl⟩ := by
  induction written generalizing row with
  | nil => simp
  | cons u written ih =>
      rw [List.foldl_cons, ih]
      unfold ProblemFacts.join ProblemRecord.facts
      have hassoc : ∀ a b d : Option Str, ((a <|> b) <|> d) = (a <|> (b <|> d)) := by
        intro a b d
        cases a <;> rfl
      simp only [findSome_cons, hassoc, List.foldl_cons]

/-- The columns of a key that was met before any other. -/
theorem write_none_row (u : Written) (written : List Written) :
    ((u :: written).foldl Facts.write .none).row
      = some ⟨(u :: written).findSome? fun u => u.record.externalId,
        longestOf ((u :: written).map fun u => u.record.description),
        (u :: written).findSome? fun u => u.record.difficulty,
        (u :: written).findSome? fun u => u.record.sourceUrl⟩ := by
  rw [List.foldl_cons, write_row _ u.record.facts rfl, join_fields]
  unfold longestOf ProblemRecord.facts
  rw [findSome_cons, findSome_cons, findSome_cons, List.map_cons]
  dsimp only
  rw [List.foldl_map]

theorem write_topic (f : Facts) (written : List Written) (slug : Str) :
    (written.foldl Facts.write f).topic slug ↔ f.topic slug ∨ ∃ u ∈ written, slug ∈ u.topics := by
  induction written generalizing f with
  | nil => simp
  | cons u written ih =>
      rw [List.foldl_cons, ih]
      unfold Facts.write
      dsimp only
      simp only [or_assoc, List.mem_cons, exists_eq_or_imp]

/-- The files of what was written have a source row. -/
theorem write_source_isSome (f : Facts) (written : List Written) (file : SourceFile) :
    ((written.foldl Facts.write f).source file).isSome = true
      ↔ (f.source file).isSome = true ∨ ∃ u ∈ written, u.record.file = file := by
  induction written generalizing f with
  | nil => simp
  | cons u written ih =>
      rw [List.foldl_cons, ih]
      simp only [List.mem_cons, exists_eq_or_imp]
      unfold Facts.write
      dsimp only
      by_cases hfile : u.record.file = file
      · subst hfile
        rw [Function.update_self]
        simp
      · rw [Function.update_of_ne (Ne.symm hfile)]
        simp [hfile]

theorem write_source_last {file : SourceFile} (f : Facts) (written : List Written)
    (hfile : ∀ u ∈ written, u.record.file = file) :
    (written.foldl Facts.write f).source file
      = (written.getLast?.map fun u => u.record.disposition).or (f.source file) := by
  induction written using List.reverseRecOn with
  | nil => rfl
  | append_singleton written u ih =>
      rw [List.foldl_append, List.foldl_cons, List.foldl_nil, List.getLast?_concat]
      have hu : u.record.file = file := hfile u (List.mem_append_right _ (List.mem_singleton_self _))
      subst hu
      exact Function.update_self ..

theorem write_source_other {file : SourceFile} (f : Facts) (written : List Written)
    (hfile : ∀ u ∈ written, u.record.file ≠ file) :
    (written.foldl Facts.write f).source file = f.source file := by
  induction written generalizing f with
  | nil => rfl
  | cons u written ih =>
      rw [List.foldl_cons, ih _ fun u' hu' => hfile u' (List.mem_cons_of_mem _ hu')]
      exact Function.update_of_ne (Ne.symm (hfile u (List.mem_cons_self ..))) ..

/-- One observation says what all say together when it covers them. -/
theorem covers_iff (w : Written) (written : List Written) :
    Facts.none.write w = written.foldl Facts.write .none ↔ Covers w written := by
  constructor
  · intro h
    have hrow := congrArg Facts.row h
    have hsource : ∀ file, _ := fun file => congrFun (congrArg Facts.source h) file
    have htopic : ∀ slug, _ := fun slug => congrFun (congrArg Facts.topic h) slug
    cases written with
    | nil => cases hrow
    | cons u written =>
        rw [write_none_row] at hrow
        have hfields : w.record.facts = _ := Option.some.inj hrow
        have hfile : ∀ u' ∈ u :: written, u'.record.file = w.record.file := by
          intro u' hu'
          by_contra hne
          have hsome := (write_source_isSome .none (u :: written) u'.record.file).mpr
            (.inr ⟨u', hu', rfl⟩)
          rw [← hsource u'.record.file] at hsome
          have hnone : (Facts.none.write w).source u'.record.file = Option.none :=
            Function.update_of_ne hne ..
          rw [hnone] at hsome
          cases hsome
        have hlast := hsource w.record.file
        rw [write_source_last .none _ hfile] at hlast
        have hself : (Facts.none.write w).source w.record.file = some w.record.disposition :=
          Function.update_self ..
        refine ⟨List.cons_ne_nil _ _, congrArg ProblemFacts.externalId hfields,
          congrArg ProblemFacts.description hfields, congrArg ProblemFacts.difficulty hfields,
          congrArg ProblemFacts.sourceUrl hfields, fun slug => ?_, hfile, ?_⟩
        · have hiff := write_topic .none (u :: written) slug
          rw [← htopic slug] at hiff
          have hw : (Facts.none.write w).topic slug ↔ False ∨ slug ∈ w.topics := Iff.rfl
          rw [hw, false_or] at hiff
          exact hiff.trans (or_iff_right fun h => h)
        · rw [hself] at hlast
          exact (Option.or_none.symm.trans hlast.symm)
  · intro h
    obtain ⟨u, written, rfl⟩ := List.exists_cons_of_ne_nil h.given
    have hrow : (Facts.none.write w).row = ((u :: written).foldl Facts.write .none).row := by
      rw [write_none_row, ← h.externalId, ← h.description, ← h.difficulty, ← h.sourceUrl]
      rfl
    have hsource : (Facts.none.write w).source = ((u :: written).foldl Facts.write .none).source := by
      funext file
      by_cases hfile : file = w.record.file
      · subst hfile
        rw [write_source_last .none _ h.file, h.disposition]
        exact Function.update_self ..
      · rw [write_source_other .none _ fun u' hu' => (h.file u' hu').trans_ne (Ne.symm hfile)]
        exact Function.update_of_ne hfile ..
    have htopic : (Facts.none.write w).topic = ((u :: written).foldl Facts.write .none).topic := by
      funext slug
      refine propext (Iff.trans ?_ (write_topic .none (u :: written) slug).symm)
      exact or_congr_right (h.topics slug)
    cases hw : Facts.none.write w
    cases hall : (u :: written).foldl Facts.write .none
    rw [hw, hall] at hrow hsource htopic
    cases hrow
    cases hsource
    cases htopic
    rfl

end Together

/-! ## The two imports -/

/-- What is kept of a key covers what the bundles write under it. -/
def Kept.Covering [Runtime F] (c : Corpus F) (bundles : List (IngestionBundle F)) (k : Str) :
    Prop :=
  match kept c bundles k with
  | some w => Covers w ((imported c [] bundles).flatMap (IngestionBundle.written c k))
  | none => (imported c [] bundles).flatMap (IngestionBundle.written c k) = []

/-- **Importing the merged bundle says of every problem what importing the
bundles in turn says** when, and only when, the observation that is kept of
each key covers all that are written under it; the keys of a merge do not
depend on the order of the bundles. -/
theorem merged_import_agrees [Runtime F] (c : Corpus F) (bundles : List (IngestionBundle F))
    {merged inTurn : TopicBank}
    (hmerged : importKnowledge c (mergeBundles bundles).toDict .empty = .ok merged)
    (hinTurn : importBundles c bundles .empty = .ok inTurn) :
    ((∀ k, merged.facts k = inTurn.facts k)
        ∧ ∀ bundles', bundles.Perm bundles' →
          SameKeys (mergeBundles bundles) (mergeBundles bundles'))
      ↔ ∀ k, Kept.Covering c bundles k := by
  rw [and_iff_left fun bundles' h => merge_keys_perm h]
  refine forall_congr' fun k => ?_
  have hempty : TopicBank.facts k .empty = Facts.none := by
    unfold TopicBank.facts Facts.none TopicBank.empty
    congr 1
    funext slug
    exact propext (iff_false_intro List.not_mem_nil)
  have hfirst : merged.facts k = ((mergeBundles bundles).written c k).foldl Facts.write
      (TopicBank.facts k .empty) := by
    rcases importKnowledge_facts hmerged with ⟨hrun, -⟩ | ⟨-, -, hfacts⟩
    · cases hrun
    · exact hfacts k
  have hturn : inTurn.facts k = ((imported c [] bundles).flatMap
      (IngestionBundle.written c k)).foldl Facts.write (TopicBank.facts k .empty) :=
    importBundles_facts hinTurn k
  rw [hfirst, hturn, merge_written, hempty]
  unfold Kept.Covering
  cases kept c bundles k with
  | some w => exact covers_iff w _
  | none =>
      constructor
      · intro h
        by_contra hne
        obtain ⟨u, written, hwritten⟩ := List.exists_cons_of_ne_nil hne
        rw [hwritten] at h
        have hrow := congrArg Facts.row h
        rw [write_none_row] at hrow
        cases hrow
      · intro h
        rw [h]
        rfl

/-! ## Two bundles with one problem -/

def sampleKey : CanonicalKey := ⟨"leetcode:1", rfl⟩

/-- An observation of a problem in a source. -/
def observed (description : Str) (difficulty : Option Str) (sourceName : Str) :
    ProblemObservation where
  key := sampleKey
  externalId := some "1"
  title := "Two Sum"
  slug := "two-sum"
  description := some description
  difficulty := difficulty
  sourceUrl := none
  topics := ["array"]
  sourceName := sourceName
  sourcePath := "two-sum/README.md"
  sourceHash := "a1"
  disposition := .rightsReviewRequired

def bundleOf (problem : ProblemObservation) : IngestionBundle FloatConst :=
  ⟨problem.sourceName, .rightsReviewRequired, [], [problem], [], [], [], [], []⟩

/-- The longer description has no difficulty, the shorter one has. -/
def bothBundles : List (IngestionBundle FloatConst) :=
  [bundleOf (observed "Add two numbers." none "first"),
    bundleOf (observed "Add." (some "easy") "second")]

/-- The merge forgets the difficulty that the other source gives. -/
theorem difficulty_forgotten : ∃ merged inTurn,
    importKnowledge plainCorpus (mergeBundles bothBundles).toDict .empty = .ok merged
      ∧ importBundles plainCorpus bothBundles .empty = .ok inTurn
      ∧ (merged.bank.problem "leetcode:1").map Problem.difficulty = some none
      ∧ (inTurn.bank.problem "leetcode:1").map Problem.difficulty = some (some ("easy" : Str))
      ∧ ¬∀ k, merged.facts k = inTurn.facts k := by
  refine ⟨_, _, rfl, rfl, rfl, rfl, fun h => ?_⟩
  have hrow := congrArg (fun f => f.row.map ProblemFacts.difficulty) (h "leetcode:1")
  cases hrow

def soleBundle : IngestionBundle FloatConst := bundleOf (observed "Add." (some "easy") "second")

/-- One bundle, whose merge covers it. -/
theorem merged_import_agrees_single : ∃ merged inTurn,
    importKnowledge plainCorpus (mergeBundles [soleBundle]).toDict .empty = .ok merged
      ∧ importBundles plainCorpus [soleBundle] .empty = .ok inTurn
      ∧ ∀ k, merged.facts k = inTurn.facts k := by
  have himports : ∃ merged inTurn,
      importKnowledge plainCorpus (mergeBundles [soleBundle]).toDict .empty = .ok merged
        ∧ importBundles plainCorpus [soleBundle] .empty = .ok inTurn := ⟨_, _, rfl, rfl⟩
  obtain ⟨merged, inTurn, hmerged, hinTurn⟩ := himports
  refine ⟨merged, inTurn, hmerged, hinTurn,
    ((merged_import_agrees plainCorpus _ hmerged hinTurn).mpr fun k => ?_).1⟩
  have himported : imported plainCorpus [] [soleBundle] = [soleBundle] := rfl
  unfold Kept.Covering
  rw [himported, List.flatMap_singleton]
  by_cases hkey : ("leetcode:1" : Str) = k
  · subst hkey
    exact Covers.single _
  · have hfilter : soleBundle.problems.filter (fun o => o.key.text = k) = [] := by
      refine List.filter_cons_of_neg fun h => hkey ?_
      exact of_decide_eq_true h
    have hkept : kept plainCorpus [soleBundle] k = none := by
      unfold kept
      rw [List.flatMap_singleton, hfilter]
      rfl
    have hwritten : soleBundle.written plainCorpus k = [] := by
      unfold IngestionBundle.written
      rw [hfilter]
      exact ite_self []
    rw [hkept]
    exact hwritten

end Rigor.Knowledge
