import Rigor.LargeCorpusRows

/-!
# Interrupted imports

`process_source` opens a batch, imports the rows of the file in chunks, each with
its checkpoint in one transaction, and completes the batch. It may die or fail at
any transaction, and is then called again with the same arguments, on the same
file or on another that took its place. Whatever happened before, a call that
completes leaves what one call alone would have left (`interrupted_import`).
-/

namespace Rigor.LargeCorpus

open Py Knowledge Tables

variable {F : Type}

/-! ## The store -/

inductive BatchStatus where
  | pending | running | blocked | failed | completed
  deriving DecidableEq

/-- A row of `knowledge_corpus_import_batches`; `none` are the counters `{}`. -/
structure BatchRow where
  key : BatchKey
  sourceFilename : Str
  sourceSha256 : Str
  manifestSha256 : Option Str
  expectedRows : Option Int
  physicalRows : Option Int
  checkpointRow : Nat
  status : BatchStatus
  counters : Option Counters
  failureSummary : List (Nat × Str)

/-- A row of `knowledge_sources`. -/
structure SourceRow where
  sourceName : Str
  originalFilename : Option Str
  archiveSha256 : Option Str
  disposition : SourceDisposition
  corpusVersion : Option Str

structure SourceFileRow where
  key : SourceFileKey
  byteCount : Nat
  suffix : Str
  classification : Str
  parseStatus : Str

structure Store (F : Type) where
  batches : List BatchRow
  sources : List SourceRow
  sourceFiles : List SourceFileRow
  content : Content F

def sourceUpsert : Upsert SourceRow Str where
  key := SourceRow.sourceName
  merge new stored := { stored with
    originalFilename := new.originalFilename
    archiveSha256 := new.archiveSha256
    disposition := new.disposition
    corpusVersion := new.corpusVersion }
  key_merge _ _ := rfl
  merge_self _ := rfl
  merge_merge _ _ _ := rfl

def sourceFileUpsert : Upsert SourceFileRow SourceFileKey where
  key := SourceFileRow.key
  merge new stored := { stored with byteCount := new.byteCount, parseStatus := new.parseStatus }
  key_merge _ _ := rfl
  merge_self _ := rfl
  merge_merge _ _ _ := rfl

/-! ## A call -/

/-- What every call of an import is given. -/
structure Job where
  path : Str
  corpusName : Str
  corpusVersion : Str
  batchId : Str
  disposition : SourceDisposition

def Job.key (job : Job) : BatchKey := ⟨job.corpusName, job.corpusVersion, job.batchId⟩

def Job.file (job : Job) (content : ByteText) : CorpusFile := ⟨job.path, content⟩

def Job.filename (job : Job) : Str := Uploads.pathName job.path

/-- `f"{corpus_name}:{corpus_version}:{source_path.name}"`. -/
def Job.sourceName (job : Job) : Str :=
  job.corpusName ++ [58] ++ job.corpusVersion ++ [58] ++ job.filename

/-- What differs between the calls: the bytes at the path, the manifest with its
digest, the size of a chunk, and which transactions the process lives to commit. -/
structure Attempt (F : Type) where
  content : ByteText
  manifest : Option (Members F × Str)
  chunkSize : Nat
  survives : Nat → Bool

/-- How a part of a call ends: the process dies, an exception leaves it, or it gets
to its end. -/
inductive Ending (α : Type) where
  | died
  | failed
  | reached (a : α)

def Job.context (env : Environment F) (job : Job) (content : ByteText) : RowContext where
  batch := job.key
  sourceFile := ⟨job.sourceName, job.filename, env.sha256Bytes content⟩
  sourceFilename := job.filename
  sourceSha256 := env.sha256Bytes content
  corpusVersion := job.corpusVersion
  disposition := job.disposition

section Opening

variable (env : Environment F) (job : Job)

/-! ## The first transaction -/

/-- The columns that the trigger keeps as they are. -/
structure BatchIdentity where
  sourceFilename : Str
  sourceSha256 : Str
  manifestSha256 : Option Str
  expectedRows : Option Int
  physicalRows : Option Int
  deriving DecidableEq

def BatchRow.identity (b : BatchRow) : BatchIdentity :=
  ⟨b.sourceFilename, b.sourceSha256, b.manifestSha256, b.expectedRows, b.physicalRows⟩

def newBatch (a : Attempt F) (source : PhysicalSource) : BatchRow where
  key := job.key
  sourceFilename := job.filename
  sourceSha256 := source.sha256
  manifestSha256 := a.manifest.map Prod.snd
  expectedRows := source.expectedRows
  physicalRows := some source.physicalRows
  checkpointRow := 0
  status := .running
  counters := none
  failureSummary := []

/-- `status=CASE WHEN … 'completed' THEN 'completed' ELSE 'running' END`. -/
def BatchRow.reopen (b : BatchRow) : BatchRow :=
  { b with status := if b.status = .completed then .completed else .running }

/-- The texts and counts that the columns of a batch take. -/
def BatchRow.fits (b : BatchRow) : Bool :=
  Pg.textOk b.key.corpusName && Pg.textOk b.key.corpusVersion && Pg.textOk b.key.batchId
    && Pg.textOk b.sourceFilename && b.expectedRows.all (0 ≤ ·) && b.physicalRows.all (0 ≤ ·)

/-- `ensure_batch`: the batches, and the row that is returned. -/
def ensureBatch (a : Attempt F) (source : PhysicalSource) (batches : List BatchRow) :
    Option (List BatchRow × BatchRow) :=
  let new := newBatch job a source
  if new.fits = false then none
  else
    match find BatchRow.key job.key batches with
    | none => some (batches ++ [new], new)
    | some b =>
        if b.identity = new.identity then
          some (update BatchRow.key job.key BatchRow.reopen batches, b.reopen)
        else none

def Job.source (content : ByteText) : SourceRow where
  sourceName := job.sourceName
  originalFilename := some job.filename
  archiveSha256 := some (env.sha256Bytes content)
  disposition := job.disposition
  corpusVersion := some job.corpusVersion

def Job.sourceFile (content : ByteText) : SourceFileRow where
  key := (job.context env content).sourceFile
  byteCount := content.length
  suffix := (job.file content).suffix env
  classification := "large_corpus"
  parseStatus := "available"

/-- The columns of the two rows, and the unique archive. -/
def Job.sourceFits (content : ByteText) (sources : List SourceRow) : Bool :=
  varcharFits 300 job.sourceName && varcharFits 500 job.filename
    && decide ((sourceUpsert.put (job.source env content) sources).filterMap
      SourceRow.archiveSha256).Nodup

/-- The transaction that a call begins with. -/
def openImport (a : Attempt F) (source : PhysicalSource) (s : Store F) :
    Option (Store F × BatchRow) :=
  (ensureBatch job a source s.batches).bind fun opened =>
    if job.sourceFits env a.content s.sources = true then
      some ({ s with
        batches := opened.1
        sources := sourceUpsert.put (job.source env a.content) s.sources
        sourceFiles := sourceFileUpsert.put (job.sourceFile env a.content) s.sourceFiles },
        opened.2)
    else none

variable {env job} {s : Store F} {b : BatchRow} {a : Attempt F} {source : PhysicalSource}

theorem ensureBatch_new {batches : List BatchRow} {opened : List BatchRow × BatchRow}
    (hfresh : find BatchRow.key job.key batches = none)
    (h : ensureBatch job a source batches = some opened) :
    opened = (batches ++ [newBatch job a source], newBatch job a source) := by
  unfold ensureBatch at h
  dsimp only at h
  rw [hfresh] at h
  split_ifs at h
  exact (Option.some.inj h).symm

theorem ensureBatch_old {batches : List BatchRow} {opened : List BatchRow × BatchRow}
    (hfound : find BatchRow.key job.key batches = some b)
    (h : ensureBatch job a source batches = some opened) :
    b.identity = (newBatch job a source).identity
      ∧ opened = (update BatchRow.key job.key BatchRow.reopen batches, b.reopen) := by
  unfold ensureBatch at h
  dsimp only at h
  rw [hfound] at h
  dsimp only at h
  split_ifs at h with hfits hidentity
  exact ⟨hidentity, (Option.some.inj h).symm⟩

theorem openImport_opened {opened : Store F × BatchRow}
    (h : openImport env job a source s = some opened) :
    ∃ batches b, ensureBatch job a source s.batches = some (batches, b)
      ∧ job.sourceFits env a.content s.sources = true
      ∧ opened = ({ s with
          batches
          sources := sourceUpsert.put (job.source env a.content) s.sources
          sourceFiles := sourceFileUpsert.put (job.sourceFile env a.content) s.sourceFiles },
        b) := by
  obtain ⟨⟨batches, b⟩, hbatch, h⟩ := Option.bind_eq_some_iff.mp h
  split_ifs at h with hfits
  exact ⟨batches, b, hbatch, hfits, (Option.some.inj h).symm⟩

theorem find_append_new {batches : List BatchRow} {new : BatchRow} {key : BatchKey}
    (hfresh : find BatchRow.key key batches = none) (hkey : new.key = key) :
    find BatchRow.key key (batches ++ [new]) = some new := by
  rw [find] at hfresh ⊢
  rw [List.find?_append, hfresh]
  simp [hkey]

theorem reopen_completed (h : b.reopen.status = .completed) : b.status = .completed := by
  by_contra hne
  rw [BatchRow.reopen, if_neg hne] at h
  cases h

theorem ensureBatch_fits {batches : List BatchRow} {opened : List BatchRow × BatchRow}
    (h : ensureBatch job a source batches = some opened) :
    (newBatch job a source).fits = true := by
  unfold ensureBatch at h
  dsimp only at h
  split_ifs at h with hfits
  exact Bool.of_not_eq_false hfits

/-- A batch that could be opened at the start, and one that can be opened again. -/
theorem openImport_isSome (hfits : (newBatch job a source).fits = true)
    (hsource : job.sourceFits env a.content s.sources = true)
    (hidentity : ∀ b, find BatchRow.key job.key s.batches = some b →
      b.identity = (newBatch job a source).identity) :
    ∃ s' b, openImport env job a source s = some (s', b) := by
  have hbatch : ∃ opened, ensureBatch job a source s.batches = some opened := by
    unfold ensureBatch
    dsimp only
    rw [hfits, if_neg (by decide)]
    cases hfound : find BatchRow.key job.key s.batches with
    | none => exact ⟨_, rfl⟩
    | some b => exact ⟨_, if_pos (hidentity b hfound)⟩
  obtain ⟨opened, hopened⟩ := hbatch
  unfold openImport
  rw [hopened, Option.bind_some, if_pos hsource]
  exact ⟨_, _, rfl⟩

end Opening

/-- The rows of a stream that are imported. -/
def importable (ys : List (Yield F)) : List (PreparedRow F) :=
  (ys.map Yield.prepared).filter fun p => p.classification ≠ .rejectedQuarantined

theorem importable_append (xs ys : List (Yield F)) :
    importable (xs ++ ys) = importable xs ++ importable ys := by
  rw [importable, List.map_append, List.filter_append]
  rfl

theorem mem_importable {ys : List (Yield F)} {p : PreparedRow F} (h : p ∈ importable ys) :
    (∃ y ∈ ys, y.prepared = p) ∧ p.classification ≠ .rejectedQuarantined := by
  obtain ⟨hmem, hclass⟩ := List.mem_filter.mp h
  exact ⟨List.mem_map.mp hmem, of_decide_eq_true hclass⟩

/-! ## The chunks -/

section Rows

/-- The rows of the generator that `process_source` keeps. -/
def keepRow (checkpoint : Nat) (pending : List (PreparedRow F)) (p : PreparedRow F) :
    List (PreparedRow F) :=
  if checkpoint < p.rowNumber ∧ p.classification ≠ .rejectedQuarantined then pending ++ [p]
  else pending

variable {checkpoint : Nat} {pending : List (PreparedRow F)}

theorem keepRow_append (y : Yield F) (ys : List (Yield F)) (pending : List (PreparedRow F)) :
    pending ++ Resumption.after PreparedRow.rowNumber checkpoint (importable (y :: ys))
      = keepRow checkpoint pending y.prepared
        ++ Resumption.after PreparedRow.rowNumber checkpoint (importable ys) := by
  have hcons : importable (y :: ys) = importable [y] ++ importable ys := importable_append [y] ys
  have hone : Resumption.after PreparedRow.rowNumber checkpoint (importable [y])
      = keepRow checkpoint [] y.prepared := by
    unfold Resumption.after importable keepRow
    by_cases hclass : y.prepared.classification = .rejectedQuarantined
    · simp [hclass]
    · by_cases hnumber : checkpoint < y.prepared.rowNumber <;> simp [hclass, hnumber]
  have hkeep : keepRow checkpoint pending y.prepared
      = pending ++ keepRow checkpoint [] y.prepared := by
    unfold keepRow
    split_ifs
    · rfl
    · exact (List.append_nil pending).symm
  rw [hcons, Resumption.after, List.filter_append, ← Resumption.after, hone, hkeep,
    List.append_assoc]
  rfl

theorem keepRow_fresh {p : PreparedRow F} (h : ∀ q ∈ pending, checkpoint < q.rowNumber) :
    ∀ q ∈ keepRow checkpoint pending p, checkpoint < q.rowNumber := by
  unfold keepRow
  split_ifs with hkeep
  · exact List.forall_mem_append.mpr ⟨h, List.forall_mem_singleton.mpr hkeep.1⟩
  · exact h

end Rows

section Calls

variable [FloatArith F] (env : Environment F) (job : Job)

structure Flush (F : Type) where
  rows : List (PreparedRow F)
  checkpointRow : Nat
  final : Bool
  counters : Counters
  failures : List (Nat × Str)

/-- `update_batch`; the trigger keeps a checkpoint from going back. -/
def BatchRow.advance (f : Flush F) (b : BatchRow) : BatchRow :=
  { b with
    checkpointRow := max b.checkpointRow f.checkpointRow
    status := if f.final then .completed else .running
    counters := some f.counters
    failureSummary := f.failures.drop (f.failures.length - 100) }

/-- `flush`, as transaction number `k` of the call. -/
def flush (a : Attempt F) (checkpoint k : Nat) (f : Flush F) (s : Store F) :
    Store F × Ending Unit :=
  if a.survives k = false then (s, .died)
  else
    match importAll env (job.context env a.content)
        (Resumption.after PreparedRow.rowNumber checkpoint f.rows) s.content with
    | none => (s, .failed)
    | some content =>
        ({ s with
          batches := update BatchRow.key job.key (BatchRow.advance f) s.batches
          content }, .reached ())

/-- The variables of the loop. -/
structure LoopState (F : Type) where
  pending : List (PreparedRow F)
  rowsSinceCheckpoint : Nat
  transactions : Nat

/-- The loop of `process_source` over what the generator yields. -/
def importChunks (a : Attempt F) (checkpoint : Nat) :
    List (Yield F) → LoopState F → Store F → Store F × Ending (LoopState F)
  | [], l, s => (s, .reached l)
  | y :: ys, l, s =>
      let pending := keepRow checkpoint l.pending y.prepared
      if a.chunkSize ≤ l.rowsSinceCheckpoint + 1 then
        match flush env job a checkpoint l.transactions
            ⟨pending, y.prepared.rowNumber, false, y.counters, y.failures⟩ s with
        | (s, .reached ()) => importChunks a checkpoint ys ⟨[], 0, l.transactions + 1⟩ s
        | (s, .died) => (s, .died)
        | (s, .failed) => (s, .failed)
      else importChunks a checkpoint ys ⟨pending, l.rowsSinceCheckpoint + 1, l.transactions⟩ s

/-- The counters that a call answers with. -/
inductive Answer where
  | alreadyImported (counters : Option Counters)
  | completed (counters : Counters) (failures : List (Nat × Str))

def Answer.counters : Answer → Option Counters
  | .alreadyImported counters => counters
  | .completed counters _ => some counters

/-- What follows the loop. -/
def finishImport (a : Attempt F) (checkpoint : Nat) (source : PhysicalSource)
    (finished : Except CorpusFailure StreamState) (l : LoopState F) (s : Store F) :
    Store F × Ending Answer :=
  match finished with
  | .error _ => (s, .failed)
  | .ok state =>
      if state.counters.parsed ≠ source.physicalRows then (s, .failed)
      else
        match flush env job a checkpoint l.transactions
            ⟨l.pending, source.physicalRows.toNat, true, state.counters, state.failures⟩ s with
        | (s, .reached ()) => (s, .reached (.completed state.counters state.failures))
        | (s, .died) => (s, .died)
        | (s, .failed) => (s, .failed)

/-- The generator of a call. -/
def Job.prepared (content : ByteText) (physicalRows : Int) : Prepared F :=
  prepareStream env job.disposition (job.file content) physicalRows

/-- `process_source`. -/
def processSource (a : Attempt F) (s : Store F) : Store F × Ending Answer :=
  match verifyPhysicalSource env (a.manifest.map Prod.fst) (job.file a.content) with
  | .error _ => (s, .failed)
  | .ok source =>
      if a.survives 0 = false then (s, .died)
      else
        match openImport env job a source s with
        | none => (s, .failed)
        | some (s, b) =>
            if b.status = .completed ∧ (b.checkpointRow : Int) = source.physicalRows then
              (s, .reached (.alreadyImported b.counters))
            else
              let prepared := job.prepared env a.content source.physicalRows
              match importChunks env job a b.checkpointRow prepared.yields ⟨[], 0, 1⟩ s with
              | (s, .reached l) =>
                  finishImport env job a b.checkpointRow source prepared.finished l s
              | (s, .died) => (s, .died)
              | (s, .failed) => (s, .failed)

/-- Calls one after the other, each on what the one before has left. -/
def processAll (attempts : List (Attempt F)) (s : Store F) : Store F :=
  attempts.foldl (fun s a => (processSource env job a s).1) s

/-! ## What an import owes -/

def Job.physicalRows (content : ByteText) : Int :=
  (physicalRowCount env (job.file content)).toOption.getD 0

def Job.stream (content : ByteText) : Prepared F :=
  job.prepared env content (job.physicalRows env content)

def Job.rows (content : ByteText) : List (PreparedRow F) :=
  importable (job.stream env content).yields

/-- What all rows of the file make of a content. -/
def Job.goal (content : ByteText) (c : Content F) : Option (Content F) :=
  importAll env (job.context env content) (job.rows env content) c

/-- The stream has ended, and read the rows that the file has. -/
def Job.Streams (content : ByteText) (state : StreamState) : Prop :=
  (job.stream env content).finished = .ok state
    ∧ state.counters.parsed = job.physicalRows env content

/-- The batch of a file, on the way from `s₀`: the rows behind its checkpoint are
what is left to import, and it is completed if nothing is. -/
structure Owed (s₀ : Store F) (content : ByteText) (b : BatchRow) (s : Store F) : Prop where
  found : find BatchRow.key job.key s.batches = some b
  sha : b.sourceSha256 = env.sha256Bytes content
  physical : b.physicalRows = some (job.physicalRows env content)
  fits : job.sourceFits env content s₀.sources = true
  sources : s.sources = sourceUpsert.put (job.source env content) s₀.sources
  owes : importAll env (job.context env content)
    (Resumption.after PreparedRow.rowNumber b.checkpointRow (job.rows env content)) s.content
      = job.goal env content s₀.content
  completed : b.status = .completed → job.goal env content s₀.content = some s.content
    ∧ ∃ state, job.Streams env content state ∧ b.counters = some state.counters

variable {env job} {s₀ s s' : Store F} {content : ByteText} {b : BatchRow} {a : Attempt F}
  {source : PhysicalSource}

theorem rows_sorted : (job.rows env content).Pairwise fun x y => x.rowNumber < y.rowNumber :=
  have h : ((job.stream env content).yields.map Yield.prepared).Pairwise
      fun x y => x.rowNumber < y.rowNumber := List.pairwise_map.mpr (yields_sorted _ _)
  h.sublist List.filter_sublist

theorem rows_pos : ∀ p ∈ job.rows env content, 0 < p.rowNumber := by
  intro p hp
  obtain ⟨⟨y, hy, rfl⟩, -⟩ := mem_importable hp
  exact yields_pos _ _ y hy

/-- A stream that has ended can be imported again. -/
theorem replays_of_streams {state : StreamState} {c g : Content F}
    (hstreams : job.Streams env content state) (h : job.goal env content c = some g) :
    Resumption.Replays (importRow env (job.context env content)) (job.rows env content) g := by
  obtain ⟨ha, -⟩ := prepareRows_accounts (initial_accounts _) (initial_tracks _) hstreams.1
  refine importAll_replay (fun p hp => (mem_importable hp).2) (fun p hp => ?_) ?_ h
  · exact ha.passed p (List.mem_of_mem_filter hp)
  · exact ha.ids.sublist (List.filter_sublist.map _)

/-! ### The first transaction -/

theorem verified (h : verifyPhysicalSource env (a.manifest.map Prod.fst) (job.file a.content)
    = .ok source) :
    source.sha256 = env.sha256Bytes a.content
      ∧ source.physicalRows = job.physicalRows env a.content := by
  obtain ⟨hsha, hrows⟩ := verifyPhysicalSource_ok h
  refine ⟨hsha, ?_⟩
  rw [Job.physicalRows, hrows]
  rfl

/-- A call that opens the batch finds it as it was left, and owes what is left. -/
theorem openImport_owed (hfresh : find BatchRow.key job.key s₀.batches = none)
    (hverified : verifyPhysicalSource env (a.manifest.map Prod.fst) (job.file a.content)
      = .ok source)
    (hs : s = s₀ ∨ ∃ b, Owed env job s₀ a.content b s)
    (h : openImport env job a source s = some (s', b)) :
    Owed env job s₀ a.content b s' := by
  obtain ⟨hsha, hrows⟩ := verified hverified
  obtain ⟨batches, opened, hbatch, hfits, heq⟩ := openImport_opened h
  obtain ⟨rfl, rfl⟩ := Prod.mk.inj heq
  rcases hs with rfl | ⟨b₀, hb⟩
  · obtain ⟨rfl, rfl⟩ := Prod.mk.inj (ensureBatch_new hfresh hbatch)
    refine ⟨find_append_new hfresh rfl, hsha, congrArg some hrows, hfits, rfl, ?_, fun h => ?_⟩
    · show importAll _ _ (Resumption.after _ 0 (job.rows env a.content)) s.content = _
      rw [Resumption.after_eq_self rows_pos]
      rfl
    · cases h
  · obtain ⟨hidentity, hopened⟩ := ensureBatch_old hb.found hbatch
    obtain ⟨rfl, rfl⟩ := Prod.mk.inj hopened
    refine ⟨?_, hb.sha, hb.physical, hb.fits, ?_, hb.owes, fun h => ?_⟩
    · show find BatchRow.key job.key (update BatchRow.key job.key BatchRow.reopen s.batches) = _
      rw [find_update (f := BatchRow.reopen) fun _ => rfl, hb.found]
      exact congrArg some (if_pos (key_of_find hb.found))
    · show sourceUpsert.put _ s.sources = _
      rw [hb.sources]
      exact (Upsert.settled_put _ _).put
    · exact hb.completed (reopen_completed h)

/-! ### The chunks -/

variable {checkpoint k : Nat} {f : Flush F} {pending : List (PreparedRow F)}
  {rest : List (PreparedRow F)} {ys : List (Yield F)} {l l' : LoopState F}

theorem flush_reached
    (h : flush env job a checkpoint k f s = (s', .reached ())) :
    ∃ c, importAll env (job.context env a.content)
          (Resumption.after PreparedRow.rowNumber checkpoint f.rows) s.content = some c
      ∧ s' = { s with
        batches := update BatchRow.key job.key (BatchRow.advance f) s.batches
        content := c } := by
  rw [flush] at h
  by_cases hdied : a.survives k = false
  · rw [if_pos hdied] at h
    cases h
  · rw [if_neg hdied] at h
    cases himport : importAll env (job.context env a.content)
        (Resumption.after PreparedRow.rowNumber checkpoint f.rows) s.content with
    | none =>
        rw [himport] at h
        cases h
    | some c =>
        rw [himport] at h
        exact ⟨c, rfl, (Prod.mk.inj h).1.symm⟩

/-- A transaction that is not committed leaves the store. -/
theorem flush_store {ending : Ending Unit} (h : flush env job a checkpoint k f s = (s', ending))
    (hending : ending ≠ .reached ()) : s' = s := by
  rw [flush] at h
  by_cases hdied : a.survives k = false
  · rw [if_pos hdied] at h
    exact (Prod.mk.inj h).1.symm
  · rw [if_neg hdied] at h
    cases himport : importAll env (job.context env a.content)
        (Resumption.after PreparedRow.rowNumber checkpoint f.rows) s.content with
    | none =>
        rw [himport] at h
        exact (Prod.mk.inj h).1.symm
    | some c =>
        rw [himport] at h
        exact absurd (Prod.mk.inj h).2.symm hending

/-- What a committed chunk leaves of the batch. -/
theorem Owed.flushed (ho : Owed env job s₀ content b s) {c : Content F}
    (howes : importAll env (job.context env content)
      (Resumption.after PreparedRow.rowNumber (max b.checkpointRow f.checkpointRow)
        (job.rows env content)) c = job.goal env content s₀.content)
    (hcompleted : f.final = true → job.goal env content s₀.content = some c
      ∧ ∃ state, job.Streams env content state ∧ f.counters = state.counters) :
    Owed env job s₀ content (b.advance f)
      { s with
        batches := update BatchRow.key job.key (BatchRow.advance f) s.batches
        content := c } where
  found := by
    show find BatchRow.key job.key (update BatchRow.key job.key (BatchRow.advance f) s.batches) = _
    rw [find_update (f := BatchRow.advance f) fun _ => rfl, ho.found]
    exact congrArg some (if_pos (key_of_find ho.found))
  sha := ho.sha
  physical := ho.physical
  fits := ho.fits
  sources := ho.sources
  owes := howes
  completed hstatus := by
    have hfinal : f.final = true := by
      by_contra hne
      rw [BatchRow.advance, if_neg hne] at hstatus
      cases hstatus
    obtain ⟨hgoal, state, hstreams, hcounters⟩ := hcompleted hfinal
    exact ⟨hgoal, state, hstreams, congrArg some hcounters⟩

/-- Where the loop stands: the yields `front` are behind it, and what is pending and
what is still to come is what is left to import. -/
structure Chasing (env : Environment F) (job : Job) (s₀ : Store F) (content : ByteText)
    (checkpoint : Nat) (b : BatchRow) (front ys : List (Yield F))
    (pending : List (PreparedRow F)) (s : Store F) : Prop where
  owed : Owed env job s₀ content b s
  all : (job.stream env content).yields = front ++ ys
  loaded : checkpoint ≤ b.checkpointRow
  behind : ∀ y ∈ ys, b.checkpointRow ≤ max checkpoint y.prepared.rowNumber
  fresh : ∀ p ∈ pending, checkpoint < p.rowNumber
  left : importAll env (job.context env content)
    (pending ++ Resumption.after PreparedRow.rowNumber checkpoint (importable ys)) s.content
      = job.goal env content s₀.content

theorem Chasing.keep {y : Yield F} {front : List (Yield F)}
    (h : Chasing env job s₀ content checkpoint b front (y :: ys) pending s) :
    Chasing env job s₀ content checkpoint b (front ++ [y]) ys
      (keepRow checkpoint pending y.prepared) s where
  owed := h.owed
  all := h.all.trans (List.append_assoc front [y] ys).symm
  loaded := h.loaded
  behind z hz := h.behind z (List.mem_cons_of_mem y hz)
  fresh := keepRow_fresh h.fresh
  left := keepRow_append y ys pending ▸ h.left

/-- The rows behind the checkpoint of a chunk are those still to come. -/
theorem after_chunk {y : Yield F} {front : List (Yield F)}
    (hall : (job.stream env content).yields = front ++ [y] ++ ys) :
    Resumption.after PreparedRow.rowNumber (max checkpoint y.prepared.rowNumber)
        (job.rows env content)
      = Resumption.after PreparedRow.rowNumber checkpoint (importable ys) := by
  have hsorted : (front ++ [y] ++ ys).Pairwise
      fun x z => x.prepared.rowNumber < z.prepared.rowNumber := hall ▸ yields_sorted _ _
  obtain ⟨hfront, -, hbefore⟩ := List.pairwise_append.mp hsorted
  obtain ⟨-, -, hlast⟩ := List.pairwise_append.mp hfront
  have hrows : job.rows env content = importable (front ++ [y]) ++ importable ys := by
    rw [Job.rows, hall, importable_append]
  rw [hrows]
  refine Resumption.after_append (fun p hp => ?_) fun p hp => ?_
  · obtain ⟨⟨z, hz, rfl⟩, -⟩ := mem_importable hp
    rcases List.mem_append.mp hz with hz | hz
    · exact (hlast z hz y (List.mem_singleton_self y)).le
    · rw [List.mem_singleton.mp hz]
  · obtain ⟨⟨z, hz, rfl⟩, -⟩ := mem_importable hp
    exact hbefore y (List.mem_append_right _ (List.mem_singleton_self y)) z hz

theorem Chasing.flushed {y : Yield F} {front : List (Yield F)} {c : Content F}
    (h : Chasing env job s₀ content checkpoint b (front ++ [y]) ys pending s)
    (hf : f.checkpointRow = y.prepared.rowNumber ∧ f.final = false)
    (hbehind : b.checkpointRow ≤ max checkpoint y.prepared.rowNumber)
    (hc : importAll env (job.context env content) pending s.content = some c) :
    Chasing env job s₀ content checkpoint (b.advance f) (front ++ [y]) ys []
      { s with
        batches := update BatchRow.key job.key (BatchRow.advance f) s.batches
        content := c } := by
  have hcheckpoint : max b.checkpointRow f.checkpointRow
      = max checkpoint y.prepared.rowNumber := by
    have := h.loaded
    rw [hf.1]
    omega
  have hleft : importAll env (job.context env content)
      (Resumption.after PreparedRow.rowNumber checkpoint (importable ys)) c
        = job.goal env content s₀.content :=
    (Resumption.runAll_of_append hc).trans h.left
  have hsorted : (front ++ [y] ++ ys).Pairwise
      fun x z => x.prepared.rowNumber < z.prepared.rowNumber := h.all ▸ yields_sorted _ _
  refine ⟨h.owed.flushed ?_ fun hfinal => ?_, h.all, ?_, fun z hz => ?_, ?_, hleft⟩
  · rw [hcheckpoint, after_chunk h.all]
    exact hleft
  · rw [hf.2] at hfinal
    cases hfinal
  · exact h.loaded.trans (le_max_left _ _)
  · have hlt := (List.pairwise_append.mp hsorted).2.2 y
      (List.mem_append_right _ (List.mem_singleton_self y)) z hz
    show max b.checkpointRow f.checkpointRow ≤ _
    omega
  · exact List.forall_mem_nil _

/-- The loop leaves the batch with what is left to import, wherever it ends. -/
theorem importChunks_owed {front : List (Yield F)} {ending : Ending (LoopState F)}
    (h : Chasing env job s₀ a.content checkpoint b front ys l.pending s)
    (hrun : importChunks env job a checkpoint ys l s = (s', ending)) :
    ∃ b', Owed env job s₀ a.content b' s'
      ∧ ∀ l', ending = .reached l' → ∃ front',
        Chasing env job s₀ a.content checkpoint b' front' [] l'.pending s' := by
  induction ys generalizing front l s b with
  | nil =>
      obtain ⟨rfl, rfl⟩ := Prod.mk.inj hrun
      refine ⟨b, h.owed, fun l' hl => ?_⟩
      cases hl
      exact ⟨front, h⟩
  | cons y ys ih =>
      have hkeep := h.keep
      rw [importChunks] at hrun
      by_cases hfull : a.chunkSize ≤ l.rowsSinceCheckpoint + 1
      · rw [if_pos hfull] at hrun
        cases hflush : flush env job a checkpoint l.transactions
          ⟨keepRow checkpoint l.pending y.prepared, y.prepared.rowNumber, false, y.counters,
            y.failures⟩ s with
        | mk s₁ e =>
            rw [hflush] at hrun
            cases e with
            | died =>
                obtain ⟨rfl, rfl⟩ := Prod.mk.inj hrun
                rw [flush_store hflush (by simp)]
                exact ⟨b, h.owed, fun l' hl => by cases hl⟩
            | failed =>
                obtain ⟨rfl, rfl⟩ := Prod.mk.inj hrun
                rw [flush_store hflush (by simp)]
                exact ⟨b, h.owed, fun l' hl => by cases hl⟩
            | reached u =>
                obtain ⟨c, hc, rfl⟩ := flush_reached hflush
                rw [Resumption.after_eq_self hkeep.fresh] at hc
                exact ih (l := ⟨[], 0, l.transactions + 1⟩) (hkeep.flushed ⟨rfl, rfl⟩
                  (h.behind y List.mem_cons_self) hc) hrun
      · rw [if_neg hfull] at hrun
        exact ih (l := ⟨_, l.rowsSinceCheckpoint + 1, l.transactions⟩) hkeep hrun

/-! ### A call -/

/-- A call that answers has imported all rows, and answers with their counters. -/
structure Answered (env : Environment F) (job : Job) (s₀ : Store F) (content : ByteText)
    (answer : Answer) (s : Store F) : Prop where
  imported : job.goal env content s₀.content = some s.content
  counters : ∃ state, job.Streams env content state ∧ answer.counters = some state.counters

theorem finishImport_owed {front : List (Yield F)} {ending : Ending Answer}
    (hrows : source.physicalRows = job.physicalRows env a.content)
    (h : Chasing env job s₀ a.content checkpoint b front [] l.pending s)
    (hrun : finishImport env job a checkpoint source (job.stream env a.content).finished l s
      = (s', ending)) :
    ∃ b', Owed env job s₀ a.content b' s'
      ∧ ∀ answer, ending = .reached answer → Answered env job s₀ a.content answer s' := by
  have hkept : s' = s → (∀ answer, ending ≠ .reached answer) →
      ∃ b', Owed env job s₀ a.content b' s'
        ∧ ∀ answer, ending = .reached answer → Answered env job s₀ a.content answer s' := by
    rintro rfl hending
    exact ⟨b, h.owed, fun answer hanswer => absurd hanswer (hending answer)⟩
  unfold finishImport at hrun
  cases hfinished : (job.stream env a.content).finished with
  | error e =>
      rw [hfinished] at hrun
      obtain ⟨rfl, rfl⟩ := Prod.mk.inj hrun
      exact hkept rfl fun answer hanswer => by cases hanswer
  | ok state =>
      rw [hfinished] at hrun
      dsimp only at hrun
      by_cases hparsed : (state.counters.parsed : Int) ≠ source.physicalRows
      · rw [if_pos hparsed] at hrun
        obtain ⟨rfl, rfl⟩ := Prod.mk.inj hrun
        exact hkept rfl fun answer hanswer => by cases hanswer
      · rw [if_neg hparsed] at hrun
        have hstreams : job.Streams env a.content state :=
          ⟨hfinished, (not_not.mp hparsed).trans hrows⟩
        cases hflush : flush env job a checkpoint l.transactions
          ⟨l.pending, source.physicalRows.toNat, true, state.counters, state.failures⟩ s with
        | mk s₁ e =>
            rw [hflush] at hrun
            cases e with
            | died =>
                obtain ⟨rfl, rfl⟩ := Prod.mk.inj hrun
                exact hkept (flush_store hflush (by simp)) fun answer hanswer => by cases hanswer
            | failed =>
                obtain ⟨rfl, rfl⟩ := Prod.mk.inj hrun
                exact hkept (flush_store hflush (by simp)) fun answer hanswer => by cases hanswer
            | reached u =>
                obtain ⟨rfl, rfl⟩ := Prod.mk.inj hrun
                obtain ⟨c, hc, rfl⟩ := flush_reached hflush
                rw [Resumption.after_eq_self h.fresh] at hc
                have hgoal : job.goal env a.content s₀.content = some c :=
                  h.left.symm.trans ((List.append_nil l.pending).symm ▸ hc)
                refine ⟨_, h.owed.flushed ?_ fun _ => ⟨hgoal, state, hstreams, rfl⟩,
                  fun answer hanswer => ?_⟩
                · rw [hgoal]
                  exact replays_of_streams hstreams hgoal _ (Resumption.after_suffix rows_sorted)
                · cases hanswer
                  exact ⟨hgoal, state, hstreams, rfl⟩

/-- What a call leaves, and what its answer says. -/
theorem processSource_owed {ending : Ending Answer}
    (hfresh : find BatchRow.key job.key s₀.batches = none)
    (hs : s = s₀ ∨ ∃ b, Owed env job s₀ a.content b s)
    (hrun : processSource env job a s = (s', ending)) :
    (s' = s ∨ ∃ b, Owed env job s₀ a.content b s')
      ∧ ∀ answer, ending = .reached answer → Answered env job s₀ a.content answer s' := by
  have hkept : s' = s → (∀ answer, ending ≠ .reached answer) →
      (s' = s ∨ ∃ b, Owed env job s₀ a.content b s')
        ∧ ∀ answer, ending = .reached answer → Answered env job s₀ a.content answer s' :=
    fun heq hending => ⟨.inl heq, fun answer hanswer => absurd hanswer (hending answer)⟩
  unfold processSource at hrun
  cases hverified : verifyPhysicalSource env (a.manifest.map Prod.fst) (job.file a.content) with
  | error e =>
      rw [hverified] at hrun
      obtain ⟨rfl, rfl⟩ := Prod.mk.inj hrun
      exact hkept rfl fun answer hanswer => by cases hanswer
  | ok source =>
      rw [hverified] at hrun
      dsimp only at hrun
      by_cases hdied : a.survives 0 = false
      · rw [if_pos hdied] at hrun
        obtain ⟨rfl, rfl⟩ := Prod.mk.inj hrun
        exact hkept rfl fun answer hanswer => by cases hanswer
      · rw [if_neg hdied] at hrun
        cases hopen : openImport env job a source s with
        | none =>
            rw [hopen] at hrun
            obtain ⟨rfl, rfl⟩ := Prod.mk.inj hrun
            exact hkept rfl fun answer hanswer => by cases hanswer
        | some opened =>
            obtain ⟨s₁, b⟩ := opened
            rw [hopen] at hrun
            dsimp only at hrun
            have ho : Owed env job s₀ a.content b s₁ := openImport_owed hfresh hverified hs hopen
            have hrows := (verified hverified).2
            by_cases hdone : b.status = .completed ∧ (b.checkpointRow : Int) = source.physicalRows
            · rw [if_pos hdone] at hrun
              obtain ⟨rfl, rfl⟩ := Prod.mk.inj hrun
              refine ⟨.inr ⟨b, ho⟩, fun answer hanswer => ?_⟩
              cases hanswer
              obtain ⟨hgoal, state, hstreams, hcounters⟩ := ho.completed hdone.1
              exact ⟨hgoal, state, hstreams, hcounters⟩
            · rw [if_neg hdone] at hrun
              have hchasing : Chasing env job s₀ a.content b.checkpointRow b []
                  (job.stream env a.content).yields [] s₁ :=
                ⟨ho, rfl, le_rfl, fun y _ => le_max_left _ _, List.forall_mem_nil _, ho.owes⟩
              rw [show job.prepared env a.content source.physicalRows = job.stream env a.content by
                rw [hrows]; rfl] at hrun
              cases hchunks : importChunks env job a b.checkpointRow
                (job.stream env a.content).yields ⟨[], 0, 1⟩ s₁ with
              | mk s₂ e =>
                  obtain ⟨b', ho', hreached⟩ := importChunks_owed hchasing hchunks
                  rw [hchunks] at hrun
                  cases e with
                  | died =>
                      obtain ⟨rfl, rfl⟩ := Prod.mk.inj hrun
                      exact ⟨.inr ⟨b', ho'⟩, fun answer hanswer => by cases hanswer⟩
                  | failed =>
                      obtain ⟨rfl, rfl⟩ := Prod.mk.inj hrun
                      exact ⟨.inr ⟨b', ho'⟩, fun answer hanswer => by cases hanswer⟩
                  | reached l =>
                      obtain ⟨front, hend⟩ := hreached l rfl
                      obtain ⟨b'', ho'', hanswers⟩ := finishImport_owed hrows hend hrun
                      exact ⟨.inr ⟨b'', ho''⟩, hanswers⟩

/-- The trigger refuses a file with another digest than the batch has. -/
theorem processSource_refused (ho : Owed env job s₀ content b s)
    (hsha : env.sha256Bytes a.content ≠ env.sha256Bytes content) :
    ∃ ending, processSource env job a s = (s, ending) ∧ ∀ answer, ending ≠ .reached answer := by
  unfold processSource
  cases hverified : verifyPhysicalSource env (a.manifest.map Prod.fst) (job.file a.content) with
  | error e => exact ⟨.failed, rfl, fun answer h => by cases h⟩
  | ok source =>
      dsimp only
      split_ifs
      · exact ⟨.died, rfl, fun answer h => by cases h⟩
      · cases hopen : openImport env job a source s with
        | none => exact ⟨.failed, rfl, fun answer h => by cases h⟩
        | some opened =>
            obtain ⟨batches, b', hbatch, -, -⟩ := openImport_opened hopen
            have hidentity := (ensureBatch_old ho.found hbatch).1
            have hsame : b.sourceSha256 = source.sha256 :=
              congrArg BatchIdentity.sourceSha256 hidentity
            exact absurd ((verified hverified).1.symm.trans (hsame.symm.trans ho.sha)) hsha

/-- Files of one digest are one file. -/
def Distinguishes (env : Environment F) (attempts : List (Attempt F)) : Prop :=
  ∀ a ∈ attempts, ∀ a' ∈ attempts,
    env.sha256Bytes a.content = env.sha256Bytes a'.content → a.content = a'.content

variable {attempts : List (Attempt F)}

/-- One more call, whatever was called before. -/
theorem call_owed (hfresh : find BatchRow.key job.key s₀.batches = none)
    (hsha : Distinguishes env (attempts ++ [a]))
    (hs : s = s₀ ∨ ∃ a' ∈ attempts, ∃ b, Owed env job s₀ a'.content b s) {ending : Ending Answer}
    (hrun : processSource env job a s = (s', ending)) :
    (s' = s ∨ ∃ b, Owed env job s₀ a.content b s')
      ∧ ∀ answer, ending = .reached answer → Answered env job s₀ a.content answer s' := by
  rcases hs with rfl | ⟨a', ha', b, ho⟩
  · exact processSource_owed hfresh (.inl rfl) hrun
  · by_cases hsame : env.sha256Bytes a.content = env.sha256Bytes a'.content
    · rw [← hsha a (List.mem_append_right _ (List.mem_singleton_self a)) a'
        (List.mem_append_left _ ha') hsame] at ho
      exact processSource_owed hfresh (.inr ⟨b, ho⟩) hrun
    · obtain ⟨ending', heq, hending⟩ := processSource_refused ho hsame
      obtain ⟨rfl, rfl⟩ := Prod.mk.inj (heq.symm.trans hrun)
      exact ⟨.inl rfl, fun answer hanswer => absurd hanswer (hending answer)⟩

theorem processAll_owed (hfresh : find BatchRow.key job.key s₀.batches = none)
    (hsha : Distinguishes env attempts) :
    processAll env job attempts s₀ = s₀
      ∨ ∃ a ∈ attempts, ∃ b, Owed env job s₀ a.content b (processAll env job attempts s₀) := by
  induction attempts using List.reverseRecOn with
  | nil => exact .inl rfl
  | append_singleton attempts a ih =>
      have hbefore := ih fun a₁ h₁ a₂ h₂ =>
        hsha a₁ (List.mem_append_left _ h₁) a₂ (List.mem_append_left _ h₂)
      have hlast : processAll env job (attempts ++ [a]) s₀
          = (processSource env job a (processAll env job attempts s₀)).1 := by
        rw [processAll, List.foldl_append]
        rfl
      obtain ⟨hleft, -⟩ := call_owed hfresh hsha hbefore
        (Prod.eta (processSource env job a (processAll env job attempts s₀))).symm
      rw [hlast]
      rcases hleft with heq | ⟨b, ho⟩
      · rw [heq]
        refine hbefore.imp_right ?_
        rintro ⟨a', ha', hb⟩
        exact ⟨a', List.mem_append_left _ ha', hb⟩
      · exact .inr ⟨a, List.mem_append_right _ (List.mem_singleton_self a), b, ho⟩

/-! ### A call that is not interrupted -/

/-- The process lives to the end of the call. -/
def Attempt.whole (a : Attempt F) : Attempt F := { a with survives := fun _ => true }

theorem flush_whole {c : Content F} (hsurvives : a.survives k = true)
    (h : importAll env (job.context env a.content)
      (Resumption.after PreparedRow.rowNumber checkpoint f.rows) s.content = some c) :
    ∃ s', flush env job a checkpoint k f s = (s', .reached ()) := by
  rw [flush, hsurvives, if_neg (by decide), h]
  exact ⟨_, rfl⟩

theorem importChunks_whole {front : List (Yield F)} {g : Content F}
    (hsurvives : ∀ k, a.survives k = true)
    (hgoal : job.goal env a.content s₀.content = some g)
    (h : Chasing env job s₀ a.content checkpoint b front ys l.pending s) :
    ∃ s' l', importChunks env job a checkpoint ys l s = (s', .reached l') := by
  induction ys generalizing front l s b with
  | nil => exact ⟨s, l, rfl⟩
  | cons y ys ih =>
      have hkeep := h.keep
      rw [importChunks]
      by_cases hfull : a.chunkSize ≤ l.rowsSinceCheckpoint + 1
      · rw [if_pos hfull]
        have hleft := hkeep.left.trans hgoal
        rw [importAll, Resumption.runAll_append] at hleft
        obtain ⟨c, hc, -⟩ := Option.bind_eq_some_iff.mp hleft
        have hfresh := Resumption.after_eq_self hkeep.fresh
        obtain ⟨s₁, hflush⟩ : ∃ s₁, flush env job a checkpoint l.transactions
            ⟨keepRow checkpoint l.pending y.prepared, y.prepared.rowNumber, false, y.counters,
              y.failures⟩ s = (s₁, .reached ()) :=
          flush_whole (hsurvives l.transactions) (hfresh.symm ▸ hc)
        obtain ⟨c', hc', rfl⟩ := flush_reached hflush
        rw [hfresh] at hc'
        rw [hflush]
        exact ih (l := ⟨[], 0, l.transactions + 1⟩) (hkeep.flushed ⟨rfl, rfl⟩
          (h.behind y List.mem_cons_self) hc')
      · rw [if_neg hfull]
        exact ih (l := ⟨_, l.rowsSinceCheckpoint + 1, l.transactions⟩) hkeep

theorem finishImport_whole {front : List (Yield F)} {g : Content F} {state : StreamState}
    (hsurvives : ∀ k, a.survives k = true)
    (hrows : source.physicalRows = job.physicalRows env a.content)
    (hgoal : job.goal env a.content s₀.content = some g)
    (hstreams : job.Streams env a.content state)
    (h : Chasing env job s₀ a.content checkpoint b front [] l.pending s) :
    ∃ s' answer, finishImport env job a checkpoint source (job.stream env a.content).finished l s
      = (s', .reached answer) := by
  have hparsed : ¬(state.counters.parsed : Int) ≠ source.physicalRows :=
    not_not.mpr (hstreams.2.trans hrows.symm)
  have hleft := h.left.trans hgoal
  rw [Resumption.after, importable, List.map_nil, List.filter_nil, List.filter_nil,
    List.append_nil, ← Resumption.after_eq_self h.fresh] at hleft
  obtain ⟨s₁, hflush⟩ : ∃ s₁, flush env job a checkpoint l.transactions
      ⟨l.pending, source.physicalRows.toNat, true, state.counters, state.failures⟩ s
        = (s₁, .reached ()) :=
    flush_whole (hsurvives l.transactions) hleft
  unfold finishImport
  rw [hstreams.1]
  dsimp only
  rw [if_neg hparsed, hflush]
  exact ⟨s₁, _, rfl⟩

/-- A call that lives to its end answers, once it has opened its batch and its rows
can be imported. -/
theorem processSource_whole {g : Content F} {state : StreamState}
    (hsurvives : ∀ k, a.survives k = true)
    (hverified : verifyPhysicalSource env (a.manifest.map Prod.fst) (job.file a.content)
      = .ok source)
    (hopen : openImport env job a source s = some (s', b))
    (ho : Owed env job s₀ a.content b s')
    (hgoal : job.goal env a.content s₀.content = some g)
    (hstreams : job.Streams env a.content state) :
    ∃ s'' answer, processSource env job a s = (s'', .reached answer) := by
  have hrows := (verified hverified).2
  have hprepared : job.prepared env a.content source.physicalRows = job.stream env a.content := by
    rw [hrows]
    rfl
  have hchasing : Chasing env job s₀ a.content b.checkpointRow b []
      (job.stream env a.content).yields [] s' :=
    ⟨ho, rfl, le_rfl, fun y _ => le_max_left _ _, List.forall_mem_nil _, ho.owes⟩
  obtain ⟨s₂, l, hchunks⟩ := importChunks_whole (l := ⟨[], 0, 1⟩) hsurvives hgoal hchasing
  obtain ⟨b', -, hreached⟩ := importChunks_owed (l := ⟨[], 0, 1⟩) hchasing hchunks
  obtain ⟨front, hend⟩ := hreached l rfl
  obtain ⟨s₃, answer, hfinish⟩ := finishImport_whole hsurvives hrows hgoal hstreams hend
  unfold processSource
  rw [hverified]
  dsimp only
  rw [hsurvives 0, if_neg (by decide), hopen]
  dsimp only
  by_cases hdone : b.status = .completed ∧ (b.checkpointRow : Int) = source.physicalRows
  · rw [if_pos hdone]
    exact ⟨s', _, rfl⟩
  · rw [if_neg hdone, hprepared, hchunks]
    exact ⟨s₃, answer, hfinish⟩

/-- The batch, if there is one, was opened for this file and this manifest. -/
def OpenedFor (env : Environment F) (job : Job) (a : Attempt F) (s : Store F) : Prop :=
  ∀ b, find BatchRow.key job.key s.batches = some b → ∀ source,
    verifyPhysicalSource env (a.manifest.map Prod.fst) (job.file a.content) = .ok source →
      b.identity = (newBatch job a source).identity

/-- The call answers. -/
def Answers (env : Environment F) (job : Job) (a : Attempt F) (s : Store F) : Prop :=
  ∃ s' answer, processSource env job a s = (s', .reached answer)

def Ending.isReached {α : Type} : Ending α → Bool
  | .reached _ => true
  | _ => false

theorem answers_of_isReached (h : (processSource env job a s).2.isReached = true) :
    Answers env job a s := by
  cases hrun : processSource env job a s with
  | mk s' ending =>
      rw [hrun] at h
      cases ending with
      | died => cases h
      | failed => cases h
      | reached answer => exact ⟨s', answer, hrun⟩

/-- What a call that answers has found. -/
theorem processSource_reached {answer : Answer}
    (h : processSource env job a s = (s', .reached answer)) :
    ∃ source s₁ b, verifyPhysicalSource env (a.manifest.map Prod.fst) (job.file a.content)
        = .ok source
      ∧ openImport env job a source s = some (s₁, b) := by
  unfold processSource at h
  cases hverified : verifyPhysicalSource env (a.manifest.map Prod.fst) (job.file a.content) with
  | error e =>
      rw [hverified] at h
      cases h
  | ok source =>
      rw [hverified] at h
      dsimp only at h
      by_cases hdied : a.survives 0 = false
      · rw [if_pos hdied] at h
        cases h
      · rw [if_neg hdied] at h
        cases hopen : openImport env job a source s with
        | none =>
            rw [hopen] at h
            cases h
        | some opened => exact ⟨source, opened.1, opened.2, rfl, hopen⟩

/-- A call that answers was made on the file that the batch was opened for. -/
theorem same_file {answer : Answer} (hsha : Distinguishes env (attempts ++ [a]))
    (hs : s = s₀ ∨ ∃ a' ∈ attempts, ∃ b, Owed env job s₀ a'.content b s)
    (h : processSource env job a s = (s', .reached answer)) :
    s = s₀ ∨ ∃ b, Owed env job s₀ a.content b s := by
  refine hs.imp_right ?_
  rintro ⟨a', ha', b, ho⟩
  by_cases hsame : env.sha256Bytes a.content = env.sha256Bytes a'.content
  · rw [hsha a (List.mem_append_right _ (List.mem_singleton_self a)) a'
      (List.mem_append_left _ ha') hsame]
    exact ⟨b, ho⟩
  · obtain ⟨ending, heq, hending⟩ := processSource_refused ho hsame
    exact absurd (Prod.mk.inj (heq.symm.trans h)).2 (hending answer)

/-- What the source of a batch was checked for at the start, it is checked for again. -/
theorem Owed.sourceFits (ho : Owed env job s₀ content b s) :
    job.sourceFits env content s.sources = true := by
  have hput : sourceUpsert.put (job.source env content) s.sources = s.sources := by
    rw [ho.sources]
    exact (Upsert.settled_put _ _).put
  have hfits := ho.fits
  rw [Job.sourceFits] at hfits ⊢
  rw [hput, ho.sources]
  exact hfits

theorem Answered.counters_eq {content : ByteText} {answer answer' : Answer}
    (h : Answered env job s₀ content answer s) (h' : Answered env job s₀ content answer' s') :
    s.content = s'.content ∧ answer.counters = answer'.counters := by
  obtain ⟨state, hstreams, hcounters⟩ := h.counters
  obtain ⟨state', hstreams', hcounters'⟩ := h'.counters
  obtain rfl := Except.ok.inj (hstreams.1.symm.trans hstreams'.1)
  exact ⟨Option.some.inj (h.imported.symm.trans h'.imported), hcounters.trans hcounters'.symm⟩

/-- **An interrupted import is resumed**: whatever calls were made before, on whatever
files, and wherever they died or failed, a call that answers leaves the content, and
reports the counters, of one whole call on the store from the start. And if such a
call would answer, a whole call on what is left does, unless the batch was opened
for another file or manifest. -/
theorem interrupted_import (hfresh : find BatchRow.key job.key s₀.batches = none)
    (hsha : Distinguishes env (attempts ++ [a])) :
    (∀ s' answer, processSource env job a (processAll env job attempts s₀)
        = (s', .reached answer) →
      ∃ s'' answer', processSource env job a.whole s₀ = (s'', .reached answer')
        ∧ s'.content = s''.content ∧ answer.counters = answer'.counters)
      ∧ (OpenedFor env job a (processAll env job attempts s₀) → Answers env job a.whole s₀ →
        Answers env job a.whole (processAll env job attempts s₀)) := by
  have hs := processAll_owed hfresh fun a₁ h₁ a₂ h₂ =>
    hsha a₁ (List.mem_append_left _ h₁) a₂ (List.mem_append_left _ h₂)
  generalize processAll env job attempts s₀ = s at hs
  constructor
  · intro s' answer hrun
    have hsame := same_file hsha hs hrun
    have hanswered := (processSource_owed hfresh hsame hrun).2 answer rfl
    obtain ⟨source, s₁, b, hverified, hopen⟩ := processSource_reached hrun
    have ho := openImport_owed hfresh hverified hsame hopen
    obtain ⟨batches, b₁, hbatch, -, -⟩ := openImport_opened hopen
    obtain ⟨s₂, b₂, hopen₀⟩ := openImport_isSome (s := s₀) (ensureBatch_fits hbatch) ho.fits
      fun b hb => by rw [hfresh] at hb; cases hb
    obtain ⟨state, hstreams, -⟩ := hanswered.counters
    obtain ⟨s'', answer', hwhole⟩ := processSource_whole (a := a.whole) (s := s₀) (fun _ => rfl)
      hverified hopen₀ (openImport_owed hfresh hverified (.inl rfl) hopen₀) hanswered.imported
      hstreams
    have hanswered' := (processSource_owed hfresh (.inl rfl) hwhole).2 answer' rfl
    exact ⟨s'', answer', hwhole, hanswered.counters_eq hanswered'⟩
  · rintro hopened ⟨s', answer, hwhole⟩
    have hanswered := (processSource_owed hfresh (.inl rfl) hwhole).2 answer rfl
    obtain ⟨state, hstreams, -⟩ := hanswered.counters
    obtain ⟨source, s₁, b₁, hverified, hopen₀⟩ := processSource_reached hwhole
    obtain ⟨batches, b₂, hbatch, -, -⟩ := openImport_opened hopen₀
    rcases hs with rfl | ⟨a', ha', b, ho⟩
    · exact ⟨s', answer, hwhole⟩
    · have hidentity := hopened b ho.found source hverified
      have hdigest : b.sourceSha256 = source.sha256 :=
        congrArg BatchIdentity.sourceSha256 hidentity
      have hcontent : a.content = a'.content :=
        hsha a (List.mem_append_right _ (List.mem_singleton_self a)) a'
          (List.mem_append_left _ ha')
          ((verified (a := a) hverified).1.symm.trans (hdigest.symm.trans ho.sha))
      rw [← hcontent] at ho
      obtain ⟨s₂, b₃, hopen⟩ := openImport_isSome (a := a) (s := s) (ensureBatch_fits hbatch)
        ho.sourceFits fun b hb => hopened b hb source hverified
      exact processSource_whole (a := a.whole) (fun _ => rfl) hverified hopen
        (openImport_owed (a := a) hfresh hverified (.inr ⟨b, ho⟩) hopen) hanswered.imported hstreams

end Calls

/-! ## An import that dies once -/

def sampleJob : Job := ⟨"corpus.jsonl", "bank", "1", "corpus", .hostableLicensed⟩

/-- A call that dies before transaction number `n`. -/
def sampleAttempt (n : Nat) : Attempt NanoFloat := ⟨sampleContent, none, 1, fun k => k < n⟩

def emptyStore : Store NanoFloat := ⟨[], [], [], ⟨[], [], [], [], [], [], []⟩⟩

/-- The batch and the first row are committed. -/
def interruptedStore : Store NanoFloat :=
  processAll sampleEnvironment sampleJob [sampleAttempt 2] emptyStore

theorem interruptedStore_opened :
    OpenedFor sampleEnvironment sampleJob (sampleAttempt 0) interruptedStore := by
  intro b hb source hverified
  have hbatch : (find BatchRow.key sampleJob.key interruptedStore.batches).map BatchRow.identity
      = some ⟨"corpus.jsonl", sampleDigest, none, none, some 5⟩ := by decide +kernel
  have hsource : verifyPhysicalSource sampleEnvironment none sampleFile
      = .ok ⟨sampleDigest, 5, none⟩ := by decide +kernel
  rw [hb] at hbatch
  obtain rfl := Except.ok.inj (hsource.symm.trans hverified)
  exact Option.some.inj hbatch

theorem interrupted_import_sample :
    Answers sampleEnvironment sampleJob (sampleAttempt 0).whole interruptedStore := by
  have hcontent : ∀ a ∈ [sampleAttempt 2] ++ [sampleAttempt 0], a.content = sampleContent := by
    simp [sampleAttempt]
  have hsha : Distinguishes sampleEnvironment ([sampleAttempt 2] ++ [sampleAttempt 0]) :=
    fun a₁ h₁ a₂ h₂ _ => (hcontent a₁ h₁).trans (hcontent a₂ h₂).symm
  exact (interrupted_import rfl hsha).2 interruptedStore_opened
    (answers_of_isReached (by decide +kernel))

end Rigor.LargeCorpus
