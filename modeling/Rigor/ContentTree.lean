import Rigor.ImportRollback

/-!
# The content tree

`load_package`, `validate_all` and `ContentSynchronizer.run`: the packages of
a content tree are read, checked and synchronized. A package is reported by
the identifier of its question and looked up by the name of its directory.
-/

namespace Rigor

open Py

variable {C : Type}

abbrev Bytes := List UInt8

/-- The files next to a `question.json`. -/
structure Sidecars (β : Type) where
  solution : β
  rubric : β
  metadata : β
  publicTests : β
  hiddenTests : β

/-- A directory with a `question.json`; `referenceTest` is what `pytest` says
of its `test_reference.py`, when there is one. -/
structure PackageDirectory where
  path : Str
  name : Str
  question : Bytes
  sidecars : Sidecars (Option Bytes)
  referenceTest : Option Bool

/-- The directories in the order of `discover_package_directories`, and the
identifiers of the manifest. -/
structure ContentTree where
  directories : List PackageDirectory
  manifestIds : List Str
  distinct : (directories.map PackageDirectory.path).Nodup

/-- A question and its solution, with what the checks of the tree read. -/
structure ParsedPackage (C : Type) where
  id : Str
  slug : Str
  version : Str
  title : Str
  primaryTrack : Str
  secondarySkills : List Str
  relatedQuestionIds : List Str
  authorId : Str
  /-- The tests with their visibility, of a question that has any. -/
  tests : Option (List (Str × Bool))
  provenanceHash : Str
  solutionHash : Str
  solutionQuestionId : Str
  solutionVersion : Str
  body : C

/-- What `load_package` raises: an error that `validate_all` catches, or another. -/
inductive LoadFailure where
  | invalid (message : Str)
  | raised

/-- What is taken from outside: `json.loads` and pydantic on the files of a
package, the hash of a file, and `str.casefold`. -/
structure Loader (C : Type) where
  parse : Bytes → Sidecars Bytes → Except LoadFailure (ParsedPackage C)
  sha256 : Bytes → Str
  casefold : Str → Str

/-! ## Loading -/

structure LoadedPackage (C : Type) where
  directory : PackageDirectory
  parsed : ParsedPackage C
  contentHash : Str

def LoadedPackage.package (p : LoadedPackage C) : LoadedContentPackage C where
  id := p.parsed.id
  slug := p.parsed.slug
  version := p.parsed.version
  primaryTrack := p.parsed.primaryTrack
  secondarySkills := p.parsed.secondarySkills
  contentHash := p.contentHash
  authorId := p.parsed.authorId
  body := p.parsed.body

def Sidecars.missing (s : Sidecars (Option Bytes)) : List Str :=
  ([("solution", s.solution), ("rubric", s.rubric), ("metadata", s.metadata),
    ("public_tests", s.publicTests), ("hidden_tests", s.hiddenTests)] :
    List (Str × Option Bytes)).filterMap fun file => if file.2.isNone then some file.1 else none

def Sidecars.present (s : Sidecars (Option Bytes)) : Option (Sidecars Bytes) := do
  some ⟨← s.solution, ← s.rubric, ← s.metadata, ← s.publicTests, ← s.hiddenTests⟩

/-- `load_package`. -/
def loadPackage (l : Loader C) (d : PackageDirectory) : Except LoadFailure (LoadedPackage C) :=
  match d.sidecars.present with
  | none =>
      .error (.invalid (("missing sidecars: " : Str)
        ++ List.intercalate (", " : Str) d.sidecars.missing))
  | some sidecars =>
      match l.parse d.question sidecars with
      | .error e => .error e
      | .ok parsed =>
          let digest := l.sha256 d.question
          let expected := ("sha256:" : Str) ++ digest
          if parsed.provenanceHash ≠ expected then
            .error (.invalid "provenance content hash does not match question.json")
          else if parsed.solutionHash ≠ expected then
            .error (.invalid "solution source hash does not match question.json")
          else if parsed.solutionQuestionId ≠ parsed.id ∨ parsed.solutionVersion ≠ parsed.version then
            .error (.invalid "solution identity or version does not match the question")
          else .ok ⟨d, parsed, digest⟩

/-! ## Checks -/

/-- `sorted(set(ids) - known)`. -/
def absent (ids known : List Str) : List Str :=
  (ids.dedup.filter fun id => id ∉ known).insertionSort fun a b => a ≤ b

def listed (message : Str) (ids : List Str) : List Str :=
  if ids = [] then [] else [message ++ List.intercalate (", " : Str) ids]

def testFindings (tests : List (Str × Bool)) : List Str :=
  let ids : List Str := if (tests.map Prod.fst).Nodup then [] else ["test IDs must be unique"]
  let visibility : List Str :=
    if tests.any (fun t => t.2) = false ∨ tests.all (fun t => t.2) = true then
      ["at least one public and one hidden test are required"]
    else []
  ids ++ visibility

def referenceTestFindings (p : LoadedPackage C) : List Str :=
  match p.directory.referenceTest with
  | some true => []
  | some false => ["reference tests failed"]
  | none =>
      if p.parsed.primaryTrack ∈ (["python-engineering", "sql-analytics"] : List Str) then
        ["executable track is missing a reference test harness"]
      else []

/-- `validate_package`. -/
def validatePackage (manifestIds authoredIds : List Str) (p : LoadedPackage C) : List Str :=
  let identity : List Str :=
    if p.parsed.id ∉ manifestIds then ["question ID is absent from the approved manifest"] else []
  identity ++ listed "unknown related IDs: " (absent p.parsed.relatedQuestionIds manifestIds)
  ++ listed "related packages are not authored: " (absent p.parsed.relatedQuestionIds authoredIds)
  ++ p.parsed.tests.elim [] testFindings
  ++ referenceTestFindings p

/-- The packages that load, behind the results of those that do not. -/
def loadAll (l : Loader C) : List PackageDirectory →
    Except LoadFailure (List PackageSyncResult × List (LoadedPackage C))
  | [] => .ok ([], [])
  | d :: rest =>
      match loadPackage l d with
      | .error .raised => .error .raised
      | .error (.invalid message) => do
          let (failed, loaded) ← loadAll l rest
          .ok (⟨d.name, "unknown", .invalid, none, [message]⟩ :: failed, loaded)
      | .ok p => do
          let (failed, loaded) ← loadAll l rest
          .ok (failed, p :: loaded)

/-- Another question of the tree has the title. -/
def DuplicateTitle (l : Loader C) (loaded : List (LoadedPackage C)) (p : LoadedPackage C) : Prop :=
  1 < loaded.countP fun other => l.casefold other.parsed.title = l.casefold p.parsed.title

instance (l : Loader C) (loaded : List (LoadedPackage C)) (p : LoadedPackage C) :
    Decidable (DuplicateTitle l loaded p) := inferInstanceAs (Decidable (_ < _))

def packageFindings (l : Loader C) (tree : ContentTree) (loaded : List (LoadedPackage C))
    (p : LoadedPackage C) : List Str :=
  let duplicate : List Str :=
    if ∃ q ∈ loaded, q.parsed.id = p.parsed.id ∧ DuplicateTitle l loaded q then
      ["authored package title is an exact duplicate"]
    else []
  validatePackage tree.manifestIds (tree.directories.map PackageDirectory.name) p ++ duplicate

def validationResult (p : LoadedPackage C) (findings : List Str) : PackageSyncResult :=
  p.package.result (if findings = [] then .valid else .invalid) findings

/-- The directories that are selected; none means all. -/
def ContentTree.selected (tree : ContentTree) (selectedIds : List Str) : List PackageDirectory :=
  tree.directories.filter fun d => selectedIds = [] ∨ d.name ∈ selectedIds

/-- `validate_all`, with the packages that have loaded. -/
def validateAll (l : Loader C) (tree : ContentTree) (selectedIds : List Str) :
    Except LoadFailure (List PackageSyncResult × List (LoadedPackage C)) := do
  let (failed, loaded) ← loadAll l (tree.selected selectedIds)
  let results := failed ++ loaded.map fun p => validationResult p (packageFindings l tree loaded p)
  .ok (results.insertionSort fun a b => a.questionId ≤ b.questionId, loaded)

/-! ## A run -/

/-- `package_by_id`: the packages by the names of their directories. -/
def packageById (l : Loader C) (validIds : List Str) :
    List PackageDirectory → Except LoadFailure (List (Str × LoadedPackage C))
  | [] => .ok []
  | d :: rest =>
      if d.name ∈ validIds then do
        let p ← loadPackage l d
        let later ← packageById l validIds rest
        .ok (later ++ [(d.name, p)])
      else packageById l validIds rest

/-- An element of the comprehension of `run`. -/
inductive SyncItem (C : Type) where
  | report (r : PackageSyncResult)
  | package (p : LoadedPackage C)
  | missing (questionId : Str)

def syncItem (byId : List (Str × LoadedPackage C)) (r : PackageSyncResult) : SyncItem C :=
  if r.status = .valid then
    match byId.lookup r.questionId with
    | some p => .package p
    | none => .missing r.questionId
  else .report r

inductive SyncFailure where
  | load (e : LoadFailure)
  | key (questionId : Str)
  | database (e : Failure)

/-- The packages are synchronized one after the other, each in a transaction. -/
def syncItems (sourceRevision : Str) (ids : Nat → CatalogueIds) :
    Nat → List (SyncItem C) → Catalogue C → Catalogue C × Except SyncFailure (List PackageSyncResult)
  | _, [], db => (db, .ok [])
  | _, .missing questionId :: _, db => (db, .error (.key questionId))
  | n, .report r :: rest, db =>
      let (db, results) := syncItems sourceRevision ids (n + 1) rest db
      (db, results.map (r :: ·))
  | n, .package p :: rest, db =>
      match synchronizePackage sourceRevision p.package (ids n) db with
      | .error e => (db, .error (.database e))
      | .ok (db, r) =>
          let (db, results) := syncItems sourceRevision ids (n + 1) rest db
          (db, results.map (r :: ·))

/-- What `run` goes through, once the packages are loaded. -/
def syncPlan (l : Loader C) (tree : ContentTree) (selectedIds : List Str) :
    Except LoadFailure (List (SyncItem C)) := do
  let (validation, _) ← validateAll l tree selectedIds
  let validIds := (validation.filter fun r => r.status = .valid).map PackageSyncResult.questionId
  let byId ← packageById l validIds tree.directories
  .ok (validation.map (syncItem byId))

/-- `ContentSynchronizer.run` in the mode `sync`. -/
def runSync (l : Loader C) (tree : ContentTree) (selectedIds : List Str) (sourceRevision : Str)
    (ids : Nat → CatalogueIds) (db : Catalogue C) :
    Catalogue C × Except SyncFailure (List PackageSyncResult) :=
  match syncPlan l tree selectedIds with
  | .error e => (db, .error (.load e))
  | .ok items => syncItems sourceRevision ids 0 items db

end Rigor
