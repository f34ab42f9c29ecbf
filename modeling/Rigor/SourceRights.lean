import Rigor.ExecutionClaims
import Rigor.Runs
import Rigor.Tables
import Rigor.UrlParse
import Mathlib.Data.List.Dedup
import Mathlib.Data.List.Sort

/-!
# Rights of sources

`SourceRegistryRepository`: `register`, `review` and `sync`. The row of the
source is locked by a review and by a sync, so each call is one step. What a
review checks leaves out two pairs of settings, and a sync lets the last
listing of a URL decide (`source_rights_govern`).
-/

namespace Rigor

open Py Runs

variable {F : Type}

/-! ## Tables -/

inductive CoverageLevel where
  | blocked | discoveryOnly | deeplinkOnly | metadataOnly | abstractSignalOnly | userPrivateImport
  | openLicenseFullContent | partnerLicensedFullContent | enterpriseOwnedFullContent
  | platformOriginalFullContent
  deriving DecidableEq

inductive SourceRightsStatus where
  | unreviewed | blocked | metadataPermitted | openLicenseVerified | partnerLicenseVerified
  | enterpriseOwnedVerified | platformOriginal
  deriving DecidableEq

inductive ConnectorStatus where
  | unreviewed | approved | paused | disabled | failing
  deriving DecidableEq

def fullContentLevels : List CoverageLevel :=
  [.openLicenseFullContent, .partnerLicensedFullContent, .enterpriseOwnedFullContent]

def fullContentRights : List SourceRightsStatus :=
  [.openLicenseVerified, .partnerLicenseVerified, .enterpriseOwnedVerified]

def collectableLevels : List CoverageLevel :=
  [.deeplinkOnly, .metadataOnly, .userPrivateImport, .openLicenseFullContent,
    .partnerLicensedFullContent, .enterpriseOwnedFullContent, .platformOriginalFullContent]

/-- A row of `source_registry`. -/
structure Source (F : Type) where
  id : Uuid
  sourceName : Str
  canonicalDomain : Str
  sourceCategory : Str
  discoveryMethod : Str
  accessMethod : Str
  rightsStatus : SourceRightsStatus
  coverageLevel : CoverageLevel
  collectionMode : Str
  connectorStatus : ConnectorStatus
  estimatedContentVolume : Option Nat
  actualIndexedVolume : Nat
  lastReviewedAt : Option Time
  reviewedBy : Option Uuid
  lastSuccessfulSync : Option Time
  nextScheduledSync : Option Time
  failureCount : Nat
  priority : Nat
  connectorType : Option Str
  connectorConfiguration : Dict F
  pauseReason : Option Str
  updatedAt : Time

inductive SourceAvailability where
  | available | unavailable | deleted | unknown
  deriving DecidableEq

/-- A row of `external_question_references`. -/
structure SourceReference (F : Type) where
  id : Uuid
  sourceId : Uuid
  sourceExternalId : Option Str
  canonicalUrl : Str
  title : Option Str
  abstract : Option Str
  difficulty : Option Str
  topicMetadata : List Str
  sourceMetadata : Dict F
  availability : SourceAvailability
  accessTier : Str
  technologyFreshness : Str
  lastSeenAt : Time
  lastVerifiedAt : Time
  lastContentChangeAt : Time

/-- A row of `source_sync_runs`. -/
structure SyncRun (F : Type) where
  id : Uuid
  sourceId : Uuid
  mode : Str
  cursorBefore : Option (Dict F)
  cursorAfter : Option (Dict F)
  discoveredCount : Nat
  createdCount : Nat
  updatedCount : Nat
  deletedCount : Nat
  completedAt : Time

structure SourceDb (F : Type) where
  sources : List (Source F)
  references : List (SourceReference F)
  /-- `external_reference_competencies`: reference and competency -/
  competencies : List (Uuid × Uuid)
  runs : List (SyncRun F)

namespace SourceDb

def source (sourceId : Uuid) (db : SourceDb F) : Option (Source F) :=
  Tables.find Source.id sourceId db.sources

def updateSource (sourceId : Uuid) (f : Source F → Source F) (db : SourceDb F) : SourceDb F :=
  { db with sources := Tables.update Source.id sourceId f db.sources }

/-- The references of a source with a URL. -/
def referencesAt (sourceId : Uuid) (url : Str) (db : SourceDb F) : List (SourceReference F) :=
  db.references.filter fun r => r.sourceId = sourceId ∧ r.canonicalUrl = url

end SourceDb

/-- What the calls take from outside: the Unicode tables, the competencies
with their ids, and `IS DISTINCT FROM` of two `jsonb` values. -/
structure SourceEnvironment (F : Type) where
  text : UrlText
  competencyId : Str → Option Uuid
  distinct : Dict F → Dict F → Bool

/-! ## `register` -/

structure SourceRegistryInput where
  sourceName : Str
  canonicalDomain : Str
  sourceCategory : Str
  discoveryMethod : Str
  accessMethod : Str
  estimatedContentVolume : Option Nat
  priority : Nat

def isDomainCharacter (c : Nat) : Bool := (97 ≤ c ∧ c ≤ 122) ∨ isAsciiDigit c ∨ c ∈ [45, 46]

def normalizeDomain (t : UrlText) (value : Str) : Except Failure Str :=
  let candidate := t.casefold (strip value)
  match urlparse t
    (if Str.ofString "://" <:+: candidate then candidate else Str.ofString "https://" ++ candidate) with
  | none => .error (.value "Invalid URL")
  | some parsed =>
      let domain := ((parsed.hostname.getD []).reverse.dropWhile fun c => c = 46).reverse
      if domain = [] ∨ parsed.hasCredentials ∨ !domain.all isDomainCharacter then
        .error (.http 422 "canonical_domain must be a valid DNS hostname")
      else .ok domain

def registerSource (env : SourceEnvironment F) (input : SourceRegistryInput) (newId : Uuid)
    (clock : Clock) (db : SourceDb F) : Except Failure (SourceDb F) :=
  match normalizeDomain env.text input.canonicalDomain with
  | .error e => .error e
  | .ok domain =>
      if db.sources.any fun s => s.id = newId then .error (.integrity "source_registry_pkey")
      else if db.sources.any fun s => s.canonicalDomain = domain then
        .error (.http 409 "Source domain is already registered")
      else
        .ok { db with
          sources := db.sources ++ [
            { id := newId
              sourceName := input.sourceName
              canonicalDomain := domain
              sourceCategory := input.sourceCategory
              discoveryMethod := input.discoveryMethod
              accessMethod := input.accessMethod
              rightsStatus := .unreviewed
              coverageLevel := .discoveryOnly
              collectionMode := "manual"
              connectorStatus := .unreviewed
              estimatedContentVolume := input.estimatedContentVolume
              actualIndexedVolume := 0
              lastReviewedAt := none
              reviewedBy := none
              lastSuccessfulSync := none
              nextScheduledSync := none
              failureCount := 0
              priority := input.priority
              connectorType := none
              connectorConfiguration := []
              pauseReason := none
              updatedAt := clock.database }] }

/-! ## `review` -/

structure SourceReviewInput (F : Type) where
  rightsStatus : SourceRightsStatus
  coverageLevel : CoverageLevel
  collectionMode : Str
  connectorStatus : ConnectorStatus
  connectorType : Option Str
  connectorConfiguration : Dict F
  nextScheduledSync : Option Time
  reviewNotes : Str

/-- The checks of a review. -/
def reviewRefusal (review : SourceReviewInput F) : Option Failure :=
  if review.coverageLevel ∈ fullContentLevels ∧ review.rightsStatus ∉ fullContentRights then
    some (.http 422 "Full-content coverage requires verified compatible rights")
  else if review.coverageLevel = .blocked ∧ review.rightsStatus ≠ .blocked then
    some (.http 422 "BLOCKED coverage requires blocked rights status")
  else if review.connectorStatus = .approved
      ∧ review.coverageLevel ∈ [.blocked, .discoveryOnly, .abstractSignalOnly] then
    some (.http 422 "This coverage level cannot approve an automated connector")
  else none

/-- The columns that a review sets. -/
def Source.reviewed (review : SourceReviewInput F) (actorId : Uuid) (clock : Clock) (s : Source F) :
    Source F :=
  { s with
    rightsStatus := review.rightsStatus
    coverageLevel := review.coverageLevel
    collectionMode := review.collectionMode
    connectorStatus := review.connectorStatus
    connectorType := review.connectorType
    connectorConfiguration := review.connectorConfiguration
    nextScheduledSync := review.nextScheduledSync
    lastReviewedAt := some clock.database
    reviewedBy := some actorId
    pauseReason := some review.reviewNotes
    updatedAt := clock.database }

def reviewSource (sourceId : Uuid) (review : SourceReviewInput F) (actorId : Uuid) (clock : Clock)
    (db : SourceDb F) : Except Failure (SourceDb F) :=
  match reviewRefusal review with
  | some refusal => .error refusal
  | none =>
      if (db.source sourceId).isNone then .error (.http 404 "Source not found")
      else .ok (db.updateSource sourceId (Source.reviewed review actorId clock))

/-! ## `sync` -/

structure ExternalReferenceInput (F : Type) where
  sourceExternalId : Option Str
  canonicalUrl : Str
  title : Option Str
  abstract : Option Str
  difficulty : Option Str
  topicMetadata : List Str
  patterns : List Str
  competencySlugs : List Str
  sourceMetadata : Dict F
  sourceAvailability : SourceAvailability
  accessTier : Str
  technologyFreshness : Str

structure SourceSyncInput (F : Type) where
  syncMode : Str
  cursorBefore : Option (Dict F)
  cursorAfter : Option (Dict F)
  references : List (ExternalReferenceInput F)
  completeSnapshot : Bool

/-- An abstract that is there and not empty. -/
def holdsAbstract (abstract : Option Str) : Bool := abstract.any fun text => text ≠ []

/-- The host is the domain or a subdomain of it. -/
def hostWithin (hostname domain : Str) : Bool :=
  hostname = domain ∨ (46 :: domain).isSuffixOf hostname

/-- `_validate_reference`. -/
def validateReference (t : UrlText) (url sourceDomain : Str) (coverage : CoverageLevel)
    (abstract : Option Str) : Option Failure :=
  match urlparse t url with
  | none => some (.value "Invalid URL")
  | some parsed =>
      let hostname := t.casefold (parsed.hostname.getD [])
      if parsed.scheme ≠ "https" ∨ hostname = [] ∨ !hostWithin hostname sourceDomain then
        some (.http 422 "Reference URL must be HTTPS on the reviewed source domain")
      else if parsed.hasCredentials ∨ parsed.fragment ≠ [] then
        some (.http 422 "Reference URL contains unsupported credentials or fragment")
      else if coverage = .deeplinkOnly ∧ holdsAbstract abstract then
        some (.http 422 "DEEPLINK_ONLY sources cannot store content abstracts")
      else none

def ExternalReferenceInput.metadata (reference : ExternalReferenceInput F) : Dict F :=
  Json.insert "competency_slugs" (.arr (reference.competencySlugs.map .str))
    (Json.insert "patterns" (.arr (reference.patterns.map .str)) reference.sourceMetadata)

/-- The columns of a reference that the payload gives. -/
def ExternalReferenceInput.row (reference : ExternalReferenceInput F) (newId sourceId : Uuid)
    (clock : Clock) : SourceReference F where
  id := newId
  sourceId := sourceId
  sourceExternalId := reference.sourceExternalId
  canonicalUrl := reference.canonicalUrl
  title := reference.title
  abstract := reference.abstract
  difficulty := reference.difficulty
  topicMetadata := reference.topicMetadata
  sourceMetadata := reference.metadata
  availability := reference.sourceAvailability
  accessTier := reference.accessTier
  technologyFreshness := reference.technologyFreshness
  lastSeenAt := clock.database
  lastVerifiedAt := clock.database
  lastContentChangeAt := clock.database

/-- `ON CONFLICT (source_id, canonical_url) DO UPDATE`. -/
def SourceReference.over (env : SourceEnvironment F) (new old : SourceReference F) :
    SourceReference F :=
  { new with
    id := old.id
    lastContentChangeAt :=
      if new.title ≠ old.title ∨ env.distinct old.sourceMetadata new.sourceMetadata then
        new.lastContentChangeAt
      else old.lastContentChangeAt }

/-- The upsert of a reference, its id, and whether it was inserted. -/
def SourceDb.upsertReference (env : SourceEnvironment F) (new : SourceReference F)
    (db : SourceDb F) : SourceDb F × Uuid × Bool :=
  match (db.referencesAt new.sourceId new.canonicalUrl).head? with
  | none => ({ db with references := db.references ++ [new] }, new.id, true)
  | some old =>
      ({ db with
          references := db.references.map fun r =>
            if r.sourceId = new.sourceId ∧ r.canonicalUrl = new.canonicalUrl then new.over env r
            else r }, old.id, false)

/-- The competencies of a reference, anew. -/
def SourceDb.mapCompetencies (referenceId : Uuid) (competencyIds : List Uuid) (db : SourceDb F) :
    SourceDb F :=
  { db with
    competencies := db.competencies.filter (fun m => m.1 ≠ referenceId)
      ++ competencyIds.map fun competencyId => (referenceId, competencyId) }

/-- One turn of the loop over the references, with the counts of created and
updated rows. -/
def syncReference (env : SourceEnvironment F) (s : Source F) (clock : Clock)
    (reference : ExternalReferenceInput F) (newId : Uuid) (db : SourceDb F) (counts : Nat × Nat) :
    Except Failure (SourceDb F × (Nat × Nat)) :=
  match validateReference env.text reference.canonicalUrl s.canonicalDomain s.coverageLevel
    reference.abstract with
  | some refusal => .error refusal
  | none =>
      let unknown := reference.competencySlugs.filter fun slug => (env.competencyId slug).isNone
      if unknown ≠ [] then
        .error (.http 422 (Str.ofString "Unknown competency mappings: "
          ++ (Str.ofString ", ").intercalate (unknown.dedup.insertionSort fun a b => ¬b < a)))
      else
        let (db, referenceId, inserted) := db.upsertReference env (reference.row newId s.id clock)
        .ok (db.mapCompetencies referenceId
            (reference.competencySlugs.eraseDups.filterMap env.competencyId),
          if inserted then (counts.1 + 1, counts.2) else (counts.1, counts.2 + 1))

def syncReferences (env : SourceEnvironment F) (s : Source F) (clock : Clock) (newIds : Nat → Uuid) :
    List (ExternalReferenceInput F) → Nat → SourceDb F → Nat × Nat →
      Except Failure (SourceDb F × (Nat × Nat))
  | [], _, db, counts => .ok (db, counts)
  | reference :: rest, i, db, counts =>
      match syncReference env s clock reference (newIds i) db counts with
      | .error e => .error e
      | .ok (db, counts) => syncReferences env s clock newIds rest (i + 1) db counts

/-- What a complete snapshot does not list. -/
def Unlisted (sourceId : Uuid) (seenUrls : List Str) (r : SourceReference F) : Prop :=
  r.sourceId = sourceId
    ∧ r.canonicalUrl ∉ (if seenUrls = [] then [Str.ofString ""] else seenUrls)
    ∧ r.availability = .available

instance (sourceId : Uuid) (seenUrls : List Str) (r : SourceReference F) :
    Decidable (Unlisted sourceId seenUrls r) :=
  inferInstanceAs (Decidable (_ ∧ _ ∧ _))

def SourceDb.withdraw (sourceId : Uuid) (seenUrls : List Str) (clock : Clock) (db : SourceDb F) :
    SourceDb F :=
  { db with
    references := db.references.map fun r =>
      if Unlisted sourceId seenUrls r then
        { r with availability := .unavailable, lastVerifiedAt := clock.database }
      else r }

/-- The columns that a sync sets. -/
def Source.synchronized (indexed : Nat) (clock : Clock) (s : Source F) : Source F :=
  { s with
    actualIndexedVolume := indexed
    lastSuccessfulSync := some clock.app
    failureCount := 0
    updatedAt := clock.database }

def syncSource (env : SourceEnvironment F) (sourceId : Uuid) (payload : SourceSyncInput F)
    (syncId : Uuid) (newIds : Nat → Uuid) (clock : Clock) (db : SourceDb F) :
    Except Failure (SourceDb F) :=
  match db.source sourceId with
  | none => .error (.http 404 "Source not found")
  | some s =>
      if s.connectorStatus ≠ .approved then
        .error (.http 409 "Only a reviewed and approved connector can synchronize")
      else if s.coverageLevel ∉ collectableLevels then
        .error (.http 409 "Source coverage does not permit reference collection")
      else
        match syncReferences env s clock newIds payload.references 0 db (0, 0) with
        | .error e => .error e
        | .ok (synced, created, updated) =>
            let seenUrls := payload.references.map ExternalReferenceInput.canonicalUrl
            let left := if payload.completeSnapshot then synced.withdraw sourceId seenUrls clock
              else synced
            let unavailable := if payload.completeSnapshot then
              synced.references.countP fun r => Unlisted sourceId seenUrls r else 0
            let indexed := left.references.countP fun r => r.sourceId = sourceId
            let run : SyncRun F := ⟨syncId, sourceId, payload.syncMode, payload.cursorBefore,
              payload.cursorAfter, payload.references.length, created, updated, unavailable,
              clock.app⟩
            .ok ({ left with runs := left.runs ++ [run] }.updateSource sourceId
              (Source.synchronized indexed clock))

/-! ## The system -/

inductive SourceAction (F : Type) where
  | register (input : SourceRegistryInput) (newId : Uuid) (clock : Clock)
  | review (sourceId : Uuid) (review : SourceReviewInput F) (actorId : Uuid) (clock : Clock)
  | sync (sourceId : Uuid) (payload : SourceSyncInput F) (syncId : Uuid) (newIds : Nat → Uuid)
      (clock : Clock)

def SourceDb.call (env : SourceEnvironment F) (db : SourceDb F) :
    SourceAction F → Except Failure (SourceDb F)
  | .register input newId clock => registerSource env input newId clock db
  | .review sourceId review actorId clock => reviewSource sourceId review actorId clock db
  | .sync sourceId payload syncId newIds clock => syncSource env sourceId payload syncId newIds clock db

/-- A call that answers; one that raises leaves the tables. -/
def SourceStep (env : SourceEnvironment F) (db : SourceDb F) (a : SourceAction F)
    (db' : SourceDb F) : Prop :=
  db.call env a = .ok db'

/-! ## Invariants -/

/-- The URL is HTTPS, on the domain or a subdomain of it. -/
def HostedBy (t : UrlText) (domain url : Str) : Prop :=
  ∃ parsed, urlparse t url = some parsed ∧ parsed.scheme = "https"
    ∧ hostWithin (t.casefold (parsed.hostname.getD [])) domain = true

/-- A connector is approved for what may be collected. -/
def Source.ApprovedRightly (s : Source F) : Prop :=
  s.connectorStatus = .approved → s.coverageLevel ∈ collectableLevels ∧ s.rightsStatus ≠ .blocked

/-- A reference is on the domain of its source, and has no abstract where only
links are kept. -/
def SourceReference.Permitted (t : UrlText) (db : SourceDb F) (r : SourceReference F) : Prop :=
  ∃ s, db.source r.sourceId = some s ∧ HostedBy t s.canonicalDomain r.canonicalUrl
    ∧ (s.coverageLevel = .deeplinkOnly → holdsAbstract r.abstract = false)

structure SourceDb.Rightful (t : UrlText) (db : SourceDb F) : Prop where
  approved : ∀ sourceId s, db.source sourceId = some s → s.ApprovedRightly
  permitted : ∀ r ∈ db.references, r.Permitted t db

/-- The last listing of a URL. -/
def lastListing (url : Str) (references : List (ExternalReferenceInput F)) :
    Option (ExternalReferenceInput F) :=
  Tables.find ExternalReferenceInput.canonicalUrl url references.reverse

/-- Where a URL is listed as available, it is so in its last listing. -/
def AvailableAtLast (references : List (ExternalReferenceInput F)) : Prop :=
  ∀ reference ∈ references, reference.sourceAvailability = .available →
    ∀ last, lastListing reference.canonicalUrl references = some last →
      last.sourceAvailability = .available

/-- A review that its checks let pass approves no blocked rights, and makes no
source a links-only one that has abstracts; a complete snapshot ends each URL
that it lists as available so. -/
def KeepsRights (x : Taken (SourceDb F) (SourceAction F)) : Prop :=
  match x.label with
  | .register .. => True
  | .review sourceId review _ _ => reviewRefusal review = none →
      (review.connectorStatus = .approved → review.rightsStatus ≠ .blocked)
        ∧ (review.coverageLevel = .deeplinkOnly → ∀ r ∈ x.source.references, r.sourceId = sourceId →
          holdsAbstract r.abstract = false)
  | .sync _ payload _ _ _ => payload.completeSnapshot = true → AvailableAtLast payload.references

section Calls

variable {env : SourceEnvironment F} {db db' : SourceDb F} {clock : Clock}

theorem lastListing_cons (url : Str) (reference : ExternalReferenceInput F)
    (rest : List (ExternalReferenceInput F)) :
    lastListing url (reference :: rest)
      = (lastListing url rest).or (if reference.canonicalUrl = url then some reference else none) := by
  unfold lastListing Tables.find
  rw [List.reverse_cons, List.find?_append, List.find?_cons, List.find?_nil]
  by_cases hurl : reference.canonicalUrl = url
  · rw [if_pos hurl, decide_eq_true hurl]
  · rw [if_neg hurl, decide_eq_false hurl]

theorem lastListing_mem {url : Str} {references : List (ExternalReferenceInput F)}
    {last : ExternalReferenceInput F} (h : lastListing url references = some last) :
    last ∈ references ∧ last.canonicalUrl = url :=
  ⟨List.mem_reverse.mp (Tables.mem_of_find h), Tables.key_of_find h⟩

theorem lastListing_isSome {reference : ExternalReferenceInput F}
    {references : List (ExternalReferenceInput F)} (h : reference ∈ references) :
    ∃ last, lastListing reference.canonicalUrl references = some last :=
  Tables.find_isSome_of_mem _ (List.mem_reverse.mpr h)

/-- An upsert leaves the rows with other keys, and all rows with its key have
its abstract and availability. -/
structure Upserted (new : SourceReference F) (db db' : SourceDb F) : Prop where
  sources : db'.sources = db.sources
  others : ∀ r, ¬(r.sourceId = new.sourceId ∧ r.canonicalUrl = new.canonicalUrl) →
    (r ∈ db'.references ↔ r ∈ db.references)
  written : ∀ r ∈ db'.references, r.sourceId = new.sourceId → r.canonicalUrl = new.canonicalUrl →
    r.abstract = new.abstract ∧ r.availability = new.availability
  present : ∃ r ∈ db'.references, r.sourceId = new.sourceId ∧ r.canonicalUrl = new.canonicalUrl

theorem upsertReference_spec (env : SourceEnvironment F) (new : SourceReference F)
    (db : SourceDb F) : Upserted new db (db.upsertReference env new).1 := by
  unfold SourceDb.upsertReference
  cases hold : (db.referencesAt new.sourceId new.canonicalUrl).head? with
  | none =>
      have hnone : ∀ r ∈ db.references,
          ¬(r.sourceId = new.sourceId ∧ r.canonicalUrl = new.canonicalUrl) := fun r hr hkey => by
        have hmem : r ∈ db.referencesAt new.sourceId new.canonicalUrl :=
          List.mem_filter.mpr ⟨hr, decide_eq_true hkey⟩
        rw [List.head?_eq_none_iff.mp hold] at hmem
        cases hmem
      refine ⟨rfl, fun r hkey => ?_, fun r hr hid hurl => ?_, new,
        List.mem_append_right _ (List.mem_singleton_self new), rfl, rfl⟩
      · rw [List.mem_append, List.mem_singleton]
        refine or_iff_left fun heq => hkey ?_
        rw [heq]
        exact ⟨rfl, rfl⟩
      · rcases List.mem_append.mp hr with hr | hr
        · exact absurd ⟨hid, hurl⟩ (hnone r hr)
        · rw [List.mem_singleton.mp hr]
          exact ⟨rfl, rfl⟩
  | some old =>
      have hmem := List.mem_of_mem_head? hold
      obtain ⟨hold', hkey⟩ := List.mem_filter.mp hmem
      have hkey' := of_decide_eq_true hkey
      refine ⟨rfl, fun r hr => ⟨fun h => ?_, fun h => ?_⟩, fun r hr hid hurl => ?_, new.over env old,
        ?_, rfl, rfl⟩
      · obtain ⟨r₀, hr₀, heq⟩ := List.mem_map.mp h
        by_cases hr₀key : r₀.sourceId = new.sourceId ∧ r₀.canonicalUrl = new.canonicalUrl
        · rw [if_pos hr₀key] at heq
          exact absurd (heq ▸ ⟨rfl, rfl⟩) hr
        · rw [if_neg hr₀key] at heq
          exact heq ▸ hr₀
      · exact List.mem_map.mpr ⟨r, h, if_neg hr⟩
      · obtain ⟨r₀, hr₀, heq⟩ := List.mem_map.mp hr
        by_cases hr₀key : r₀.sourceId = new.sourceId ∧ r₀.canonicalUrl = new.canonicalUrl
        · rw [if_pos hr₀key] at heq
          rw [← heq]
          exact ⟨rfl, rfl⟩
        · rw [if_neg hr₀key] at heq
          exact absurd ⟨hid, hurl⟩ (heq ▸ hr₀key)
      · exact List.mem_map.mpr ⟨old, hold', if_pos hkey'⟩

/-- What the loop over the references leaves. -/
structure SyncedSource (t : UrlText) (s : Source F) (references : List (ExternalReferenceInput F))
    (db db' : SourceDb F) : Prop where
  sources : db'.sources = db.sources
  others : ∀ r, ¬(r.sourceId = s.id ∧ r.canonicalUrl ∈ references.map ExternalReferenceInput.canonicalUrl) →
    (r ∈ db'.references ↔ r ∈ db.references)
  valid : ∀ r ∈ db'.references, r ∈ db.references ∨ (r.sourceId = s.id
    ∧ validateReference t r.canonicalUrl s.canonicalDomain s.coverageLevel r.abstract = none)
  listed : ∀ url last, lastListing url references = some last →
    (∃ r ∈ db'.references, r.sourceId = s.id ∧ r.canonicalUrl = url)
      ∧ ∀ r ∈ db'.references, r.sourceId = s.id → r.canonicalUrl = url →
        r.availability = last.sourceAvailability

theorem syncReference_ok {s : Source F} {reference : ExternalReferenceInput F} {newId : Uuid}
    {counts counts' : Nat × Nat}
    (h : syncReference env s clock reference newId db counts = .ok (db', counts')) :
    validateReference env.text reference.canonicalUrl s.canonicalDomain s.coverageLevel
        reference.abstract = none
      ∧ Upserted (reference.row newId s.id clock) db db' := by
  unfold syncReference at h
  split at h
  · cases h
  · rename_i hvalid
    dsimp only at h
    split_ifs at h with hunknown
    all_goals
      cases h
      obtain ⟨hsources, hothers, hwritten, hpresent⟩ :=
        upsertReference_spec env (reference.row newId s.id clock) db
      exact ⟨hvalid, hsources, hothers, hwritten, hpresent⟩

theorem syncReferences_ok {s : Source F} {newIds : Nat → Uuid}
    {references : List (ExternalReferenceInput F)} {i : Nat} {counts counts' : Nat × Nat}
    (h : syncReferences env s clock newIds references i db counts = .ok (db', counts')) :
    SyncedSource env.text s references db db' := by
  induction references generalizing i db counts with
  | nil =>
      cases h
      exact ⟨rfl, fun _ _ => Iff.rfl, fun r hr => .inl hr, fun url last hlast => nomatch hlast⟩
  | cons reference rest ih =>
      unfold syncReferences at h
      split at h
      · cases h
      · rename_i db₁ counts₁ hfirst
        obtain ⟨hvalid, hupserted⟩ := syncReference_ok hfirst
        have hrest := ih h
        refine ⟨hrest.sources.trans hupserted.sources, fun r hr => ?_, fun r hr => ?_,
          fun url last hlast => ?_⟩
        · rw [List.map_cons, List.mem_cons] at hr
          refine (hrest.others r fun hin => hr ⟨hin.1, .inr hin.2⟩).trans
            (hupserted.others r fun hkey => hr ⟨hkey.1, .inl hkey.2⟩)
        · rcases hrest.valid r hr with hold | hnew
          · by_cases hkey : r.sourceId = s.id ∧ r.canonicalUrl = reference.canonicalUrl
            · refine .inr ⟨hkey.1, ?_⟩
              rw [hkey.2, (hupserted.written r hold hkey.1 hkey.2).1]
              exact hvalid
            · exact .inl ((hupserted.others r hkey).mp hold)
          · exact .inr hnew
        · rw [lastListing_cons] at hlast
          cases hlater : lastListing url rest with
          | some later =>
              rw [hlater] at hlast
              cases hlast
              exact hrest.listed url last hlater
          | none =>
              rw [hlater, Option.none_or] at hlast
              split_ifs at hlast with hurl
              cases hlast
              have hunlisted : url ∉ rest.map ExternalReferenceInput.canonicalUrl := fun hin => by
                obtain ⟨other, hother, rfl⟩ := List.mem_map.mp hin
                obtain ⟨later, hlater'⟩ := lastListing_isSome hother
                cases hlater.symm.trans hlater'
              have hsame : ∀ r : SourceReference F, r.canonicalUrl = url →
                  (r ∈ db'.references ↔ r ∈ db₁.references) := fun r hr =>
                hrest.others r fun hin => hunlisted (hr ▸ hin.2)
              obtain ⟨r, hr, hid, hrurl⟩ := hupserted.present
              refine ⟨⟨r, (hsame r (hrurl.trans hurl)).mpr hr, hid, hrurl.trans hurl⟩,
                fun r hr hid hrurl => ?_⟩
              exact (hupserted.written r ((hsame r hrurl).mp hr) hid (hrurl.trans hurl.symm)).2

theorem validateReference_none {t : UrlText} {url domain : Str} {coverage : CoverageLevel}
    {abstract : Option Str} (h : validateReference t url domain coverage abstract = none) :
    HostedBy t domain url ∧ (coverage = .deeplinkOnly → holdsAbstract abstract = false) := by
  unfold validateReference at h
  split at h
  · cases h
  · rename_i parsed hparsed
    dsimp only at h
    split_ifs at h with hhost hcredentials habstract
    refine ⟨⟨parsed, hparsed, ?_, ?_⟩, fun hcoverage => ?_⟩
    · exact not_not.mp fun hscheme => hhost (.inl hscheme)
    · by_contra hwithin
      exact hhost (.inr (.inr (by simpa using hwithin)))
    · by_contra hholds
      exact habstract ⟨hcoverage, by simpa using hholds⟩

/-- A source keeps its place, its domain and its coverage. -/
theorem SourceReference.Permitted.later {t : UrlText} {r r' : SourceReference F}
    (h : r.Permitted t db) (hid : r'.sourceId = r.sourceId) (hurl : r'.canonicalUrl = r.canonicalUrl)
    (habstract : r'.abstract = r.abstract)
    (hsource : ∀ s, db.source r.sourceId = some s → ∃ s', db'.source r.sourceId = some s'
      ∧ s'.canonicalDomain = s.canonicalDomain
      ∧ (s'.coverageLevel = .deeplinkOnly → s.coverageLevel = .deeplinkOnly
        ∨ holdsAbstract r.abstract = false)) : r'.Permitted t db' := by
  obtain ⟨s, hs, hhosted, hlinks⟩ := h
  obtain ⟨s', hs', hdomain, hcoverage⟩ := hsource s hs
  refine ⟨s', hid ▸ hs', ?_, fun hdeep => ?_⟩
  · rw [hdomain, hurl]
    exact hhosted
  · rw [habstract]
    exact (hcoverage hdeep).elim hlinks fun habsent => habsent

theorem source_append (new : Source F) {sourceId : Uuid} {s : Source F}
    (h : db.source sourceId = some s) :
    ({ db with sources := db.sources ++ [new] } : SourceDb F).source sourceId = some s := by
  unfold SourceDb.source Tables.find at h ⊢
  rw [List.find?_append, h]
  rfl

theorem register_rightful {input : SourceRegistryInput} {newId : Uuid}
    (h : registerSource env input newId clock db = .ok db') (hdb : db.Rightful env.text) :
    db'.Rightful env.text := by
  unfold registerSource at h
  split at h
  · cases h
  · rename_i domain hdomain
    split_ifs at h with hid hregistered
    cases h
    refine ⟨fun sourceId s hs => ?_, fun r hr => ?_⟩
    · unfold SourceDb.source Tables.find at hs
      rw [List.find?_append] at hs
      cases hold : db.sources.find? fun s => s.id = sourceId with
      | some s' =>
          rw [hold] at hs
          cases hs
          exact hdb.approved sourceId s hold
      | none =>
          rw [hold, Option.none_or] at hs
          have hnew := List.mem_singleton.mp (List.mem_of_find?_eq_some hs)
          rw [hnew]
          exact fun happroved => nomatch happroved
    · exact (hdb.permitted r hr).later rfl rfl rfl fun s hs =>
        ⟨s, source_append _ hs, rfl, .inl⟩

theorem source_updateSource {f : Source F → Source F} (hf : ∀ s, (f s).id = s.id)
    (sourceId sourceId' : Uuid) :
    (db.updateSource sourceId f).source sourceId'
      = (db.source sourceId').map fun s => if s.id = sourceId then f s else s :=
  Tables.find_update hf

/-- A review that passes its checks approves what may be collected only. -/
theorem reviewRefusal_none {review : SourceReviewInput F} (h : reviewRefusal review = none)
    (happroved : review.connectorStatus = .approved) : review.coverageLevel ∈ collectableLevels := by
  unfold reviewRefusal at h
  split_ifs at h with hfull hblocked hconnector
  have hlevel : review.coverageLevel ∉ [.blocked, .discoveryOnly, .abstractSignalOnly] :=
    fun hin => hconnector ⟨happroved, hin⟩
  revert hlevel
  cases review.coverageLevel <;> decide

theorem review_rightful {sourceId actorId : Uuid} {review : SourceReviewInput F}
    (h : reviewSource sourceId review actorId clock db = .ok db') (hdb : db.Rightful env.text)
    (happroves : review.connectorStatus = .approved → review.rightsStatus ≠ .blocked)
    (hlinks : review.coverageLevel = .deeplinkOnly → ∀ r ∈ db.references, r.sourceId = sourceId →
      holdsAbstract r.abstract = false) : db'.Rightful env.text := by
  unfold reviewSource at h
  split at h
  · cases h
  · rename_i hrefusal
    split_ifs at h with hmissing
    cases h
    have hfind : ∀ id, (db.updateSource sourceId (Source.reviewed review actorId clock)).source id
        = (db.source id).map fun s =>
          if s.id = sourceId then Source.reviewed review actorId clock s else s :=
      source_updateSource (f := Source.reviewed review actorId clock) (fun _ => rfl) sourceId
    refine ⟨fun id s hs => ?_, fun r hr => ?_⟩
    · rw [hfind] at hs
      obtain ⟨s₀, hs₀, rfl⟩ := Option.map_eq_some_iff.mp hs
      split_ifs
      · exact fun happroved => ⟨reviewRefusal_none hrefusal happroved, happroves happroved⟩
      · exact hdb.approved id s₀ hs₀
    · refine (hdb.permitted r hr).later rfl rfl rfl fun s hs =>
        ⟨if s.id = sourceId then s.reviewed review actorId clock else s, ?_, ?_, ?_⟩
      · rw [hfind, hs]
        rfl
      · split_ifs <;> rfl
      · have hkey : s.id = r.sourceId := Tables.key_of_find hs
        split_ifs with hid
        · exact fun hdeep => .inr (hlinks hdeep r hr (hkey.symm.trans hid))
        · exact .inl

/-- What a sync that answers has done. -/
theorem sync_ok {sourceId syncId : Uuid} {payload : SourceSyncInput F} {newIds : Nat → Uuid}
    (h : syncSource env sourceId payload syncId newIds clock db = .ok db') :
    ∃ s synced, db.source sourceId = some s ∧ SyncedSource env.text s payload.references db synced
      ∧ db'.references = (if payload.completeSnapshot then
          synced.withdraw sourceId (payload.references.map ExternalReferenceInput.canonicalUrl) clock
        else synced).references
      ∧ ∃ f : Source F → Source F, (∀ id, db'.source id = (db.source id).map f)
        ∧ ∀ s, (f s).canonicalDomain = s.canonicalDomain ∧ (f s).coverageLevel = s.coverageLevel
          ∧ (f s).connectorStatus = s.connectorStatus ∧ (f s).rightsStatus = s.rightsStatus := by
  unfold syncSource at h
  split at h
  · cases h
  · rename_i s hs
    by_cases hconnector : s.connectorStatus ≠ .approved
    · rw [if_pos hconnector] at h
      cases h
    by_cases hcoverage : s.coverageLevel ∉ collectableLevels
    · rw [if_neg hconnector, if_pos hcoverage] at h
      cases h
    rw [if_neg hconnector, if_neg hcoverage] at h
    split at h
    · cases h
    · rename_i synced created updated hloop
      cases h
      have hsynced := syncReferences_ok hloop
      have hleft : (if payload.completeSnapshot then
          synced.withdraw sourceId (payload.references.map ExternalReferenceInput.canonicalUrl) clock
          else synced).sources = db.sources := by
        split_ifs
        · exact hsynced.sources
        · exact hsynced.sources
      refine ⟨s, synced, hs, hsynced, rfl, fun s => if s.id = sourceId then
        s.synchronized ((if payload.completeSnapshot then
          synced.withdraw sourceId (payload.references.map ExternalReferenceInput.canonicalUrl) clock
          else synced).references.countP fun r => r.sourceId = sourceId) clock else s,
        fun id => ?_, fun s => ?_⟩
      · rw [source_updateSource (by exact fun _ => rfl)]
        unfold SourceDb.source
        dsimp only
        rw [hleft]
      · dsimp only
        split_ifs <;> exact ⟨rfl, rfl, rfl, rfl⟩

/-- A row after a sync comes from one of the loop, with the same key and
abstract. -/
theorem mem_withdraw {sourceId : Uuid} {seenUrls : List Str} {r : SourceReference F}
    (h : r ∈ (db.withdraw sourceId seenUrls clock).references) :
    ∃ r₀ ∈ db.references, r.sourceId = r₀.sourceId ∧ r.canonicalUrl = r₀.canonicalUrl
      ∧ r.abstract = r₀.abstract
      ∧ (r.availability = .available → r = r₀ ∧ ¬Unlisted sourceId seenUrls r₀) := by
  obtain ⟨r₀, hr₀, heq⟩ := List.mem_map.mp h
  by_cases hunlisted : Unlisted sourceId seenUrls r₀
  · rw [if_pos hunlisted] at heq
    refine ⟨r₀, hr₀, ?_, ?_, ?_, fun havailable => ?_⟩
    · rw [← heq]
    · rw [← heq]
    · rw [← heq]
    · rw [← heq] at havailable
      cases havailable
  · rw [if_neg hunlisted] at heq
    rw [← heq]
    exact ⟨r₀, hr₀, rfl, rfl, rfl, fun _ => ⟨rfl, hunlisted⟩⟩

theorem sync_rightful {sourceId syncId : Uuid} {payload : SourceSyncInput F} {newIds : Nat → Uuid}
    (h : syncSource env sourceId payload syncId newIds clock db = .ok db')
    (hdb : db.Rightful env.text) : db'.Rightful env.text := by
  obtain ⟨s, synced, hs, hsynced, hreferences, f, hsources, hf⟩ := sync_ok h
  refine ⟨fun id s' hs' => ?_, fun r hr => ?_⟩
  · rw [hsources] at hs'
    obtain ⟨s₀, hs₀, rfl⟩ := Option.map_eq_some_iff.mp hs'
    obtain ⟨-, hcoverage, hconnector, hrights⟩ := hf s₀
    intro happroved
    rw [hcoverage, hrights]
    exact hdb.approved id s₀ hs₀ (hconnector.symm.trans happroved)
  · have hsame : ∃ r₀ ∈ synced.references, r.sourceId = r₀.sourceId
        ∧ r.canonicalUrl = r₀.canonicalUrl ∧ r.abstract = r₀.abstract := by
      rw [hreferences] at hr
      split_ifs at hr
      · obtain ⟨r₀, hr₀, hid, hurl, habstract, -⟩ := mem_withdraw hr
        exact ⟨r₀, hr₀, hid, hurl, habstract⟩
      · exact ⟨r, hr, rfl, rfl, rfl⟩
    obtain ⟨r₀, hr₀, hid, hurl, habstract⟩ := hsame
    have hbefore : r₀.Permitted env.text db := by
      rcases hsynced.valid r₀ hr₀ with hold | ⟨hsource, hvalid⟩
      · exact hdb.permitted r₀ hold
      · have hkey : s.id = sourceId := Tables.key_of_find hs
        obtain ⟨hhosted, hlinks⟩ := validateReference_none hvalid
        exact ⟨s, by rw [hsource, hkey]; exact hs, hhosted, hlinks⟩
    refine hbefore.later hid hurl habstract fun s₀ hs₀ => ?_
    obtain ⟨hdomain, hcoverage, -, -⟩ := hf s₀
    refine ⟨f s₀, ?_, hdomain, fun hdeep => .inl (hcoverage.symm.trans hdeep)⟩
    rw [hsources, hs₀]
    rfl

/-- After a complete snapshot the available references of the source are the
ones listed as available. -/
theorem snapshot_exact {sourceId syncId : Uuid} {payload : SourceSyncInput F} {newIds : Nat → Uuid}
    (h : syncSource env sourceId payload syncId newIds clock db = .ok db')
    (hdb : db.Rightful env.text) (hcomplete : payload.completeSnapshot = true)
    (hlast : AvailableAtLast payload.references) (url : Str) :
    (∃ r ∈ db'.references, r.sourceId = sourceId ∧ r.canonicalUrl = url
        ∧ r.availability = .available)
      ↔ ∃ reference ∈ payload.references, reference.canonicalUrl = url
        ∧ reference.sourceAvailability = .available := by
  have hrightful := sync_rightful h hdb
  obtain ⟨s, synced, hs, hsynced, hreferences, -⟩ := sync_ok h
  have hkey : s.id = sourceId := Tables.key_of_find hs
  rw [if_pos hcomplete] at hreferences
  constructor
  · rintro ⟨r, hr, hid, rfl, havailable⟩
    obtain ⟨s', hs', ⟨parsed, hparsed, hscheme, -⟩, -⟩ := hrightful.permitted r hr
    rw [hreferences] at hr
    obtain ⟨r₀, hr₀, -, -, -, hkept⟩ := mem_withdraw hr
    obtain ⟨rfl, hlisted⟩ := hkept havailable
    have hseen : r.canonicalUrl ∈ payload.references.map ExternalReferenceInput.canonicalUrl := by
      by_contra hunseen
      refine hlisted ⟨hid, ?_, havailable⟩
      split_ifs with hnone
      · -- no stored URL is empty
        intro hempty
        rw [List.mem_singleton.mp hempty] at hparsed
        have hblank : parsed.scheme = [] := by
          unfold urlparse at hparsed
          dsimp only at hparsed
          split_ifs at hparsed <;> cases hparsed <;> rfl
        rw [hblank] at hscheme
        revert hscheme
        decide
      · exact hunseen
    obtain ⟨reference, hreference, hurl⟩ := List.mem_map.mp hseen
    obtain ⟨last, hlast'⟩ := lastListing_isSome hreference
    obtain ⟨hlastmem, hlasturl⟩ := lastListing_mem hlast'
    have hmarked := (hsynced.listed _ last hlast').2 r hr₀ (hid.trans hkey.symm) hurl.symm
    exact ⟨last, hlastmem, hlasturl.trans hurl, hmarked.symm.trans havailable⟩
  · rintro ⟨reference, hreference, rfl, havailable⟩
    obtain ⟨last, hlast'⟩ := lastListing_isSome hreference
    have hends := hlast reference hreference havailable last hlast'
    obtain ⟨⟨r, hr, hid, hurl⟩, hmarked⟩ := hsynced.listed _ last hlast'
    have hstays : ¬Unlisted sourceId
        (payload.references.map ExternalReferenceInput.canonicalUrl) r := by
      rintro ⟨-, hunseen, -⟩
      have hseen : r.canonicalUrl ∈ payload.references.map ExternalReferenceInput.canonicalUrl :=
        hurl ▸ List.mem_map_of_mem hreference
      rw [if_neg (List.ne_nil_of_mem hseen)] at hunseen
      exact hunseen hseen
    refine ⟨r, ?_, hid.trans hkey, hurl, (hmarked r hr hid hurl).trans hends⟩
    rw [hreferences]
    exact List.mem_map.mpr ⟨r, hr, if_neg hstays⟩

end Calls

/-! ## Runs -/

/-- Every call keeps it that approves no blocked rights and makes no source
with abstracts a links-only one. -/
theorem SourceDb.Rightful.step {env : SourceEnvironment F}
    {x : Taken (SourceDb F) (SourceAction F)} (h : x.source.Rightful env.text)
    (hkeeps : KeepsRights x) (hstep : SourceStep env x.source x.label x.target) :
    x.target.Rightful env.text := by
  obtain ⟨db, a, db'⟩ := x
  cases a with
  | register input newId clock => exact register_rightful hstep h
  | sync sourceId payload syncId newIds clock => exact sync_rightful hstep h
  | review sourceId review actorId clock =>
      have hpasses : reviewRefusal review = none := by
        cases hrefusal : reviewRefusal review with
        | none => rfl
        | some refusal =>
            unfold SourceStep SourceDb.call reviewSource at hstep
            dsimp only at hstep
            rw [hrefusal] at hstep
            cases hstep
      obtain ⟨happroves, hlinks⟩ := hkeeps hpasses
      exact review_rightful hstep h happroves hlinks

/-- **Source rights.** In every run from an empty registry in which no review
that passes its checks approves blocked rights or makes a source with abstracts
a links-only one, and every complete snapshot lists a URL that it lists as
available so at last: approved connectors have a coverage that may be collected
and rights that are not blocked; every reference is on the domain of its
source, and has no abstract where only links are kept; and after a complete
snapshot the available references are the ones listed as available. -/
theorem source_rights_govern (env : SourceEnvironment F) {s t : SourceDb F}
    {trace : List (Taken (SourceDb F) (SourceAction F))} (hrun : Run (SourceStep env) s trace t)
    (hsources : s.sources = []) (hreferences : s.references = [])
    (hkeeps : ∀ x ∈ trace, KeepsRights x) :
    (∀ sourceId source, t.source sourceId = some source → source.connectorStatus = .approved →
        source.coverageLevel ∈ collectableLevels ∧ source.rightsStatus ≠ .blocked)
      ∧ (∀ r ∈ t.references, ∃ source, t.source r.sourceId = some source
        ∧ HostedBy env.text source.canonicalDomain r.canonicalUrl
        ∧ (source.coverageLevel = .deeplinkOnly → holdsAbstract r.abstract = false))
      ∧ ∀ x ∈ trace, ∀ sourceId payload syncId newIds clock,
        x.label = .sync sourceId payload syncId newIds clock → payload.completeSnapshot = true →
        ∀ url, (∃ r ∈ x.target.references, r.sourceId = sourceId ∧ r.canonicalUrl = url
            ∧ r.availability = .available)
          ↔ ∃ reference ∈ payload.references, reference.canonicalUrl = url
            ∧ reference.sourceAvailability = .available := by
  have hinit : s.Rightful env.text := by
    refine ⟨fun sourceId source hsource => ?_, fun r hr => ?_⟩
    · unfold SourceDb.source at hsource
      rw [hsources] at hsource
      cases hsource
    · rw [hreferences] at hr
      cases hr
  have hlast : t.Rightful env.text :=
    hrun.invariant_of (C := KeepsRights) (I := SourceDb.Rightful env.text)
      (fun x hx hkeeps hstep => hx.step hkeeps hstep) hinit hkeeps
  refine ⟨hlast.approved, hlast.permitted, ?_⟩
  refine hrun.forall_taken_of (C := KeepsRights) (I := SourceDb.Rightful env.text)
    (fun x hx hkeeps hstep => hx.step hkeeps hstep) ?_ hinit hkeeps
  rintro ⟨db, a, db'⟩ hx hkeeps hstep sourceId payload syncId newIds clock rfl hcomplete url
  exact snapshot_exact hstep hx hcomplete (hkeeps hcomplete) url

/-! A source that becomes a links-only one, with blocked rights. -/

def plainSources : SourceEnvironment Unit := ⟨⟨asciiLower, asciiLower, fun _ => true⟩, fun _ => none,
  fun _ _ => true⟩

def registering : SourceAction Unit :=
  .register ⟨"Example", "example.org", "blog", "manual", "manual_review", none, 50⟩ "source-1" ⟨1, 1⟩

def reviewing (coverage : CoverageLevel) (rights : SourceRightsStatus) : SourceAction Unit :=
  .review "source-1" ⟨rights, coverage, "api", .approved, none, [], none, "Reviewed by hand."⟩ "ada"
    ⟨2, 2⟩

def listing : ExternalReferenceInput Unit :=
  ⟨none, "https://www.example.org/two-sum", none, some (Str.ofString "Add up two numbers."), none, [],
    [], [], [], .available, "public", "stable"⟩

def snapshotting : SourceAction Unit :=
  .sync "source-1" ⟨"verification", none, none, [listing], true⟩ "sync-1" (fun _ => "reference-1")
    ⟨3, 3⟩

/-- A source that is reviewed and synchronized. -/
theorem source_rights_govern_once : ∃ t trace,
    Run (SourceStep plainSources) ⟨[], [], [], []⟩ trace t
      ∧ (∃ r ∈ t.references, r.availability = .available)
      ∧ ∀ r ∈ t.references, ∃ source, t.source r.sourceId = some source
        ∧ HostedBy plainSources.text source.canonicalDomain r.canonicalUrl := by
  have hrun : ∃ t trace, Run (SourceStep plainSources) ⟨[], [], [], []⟩ trace t
      ∧ (∃ r ∈ t.references, r.availability = .available) ∧ ∀ x ∈ trace, KeepsRights x := by
    refine ⟨_, _, .cons (a := registering) rfl
      (.cons (a := reviewing .metadataOnly .metadataPermitted) rfl
        (.cons (a := snapshotting) rfl (.nil _))), ⟨_, List.mem_cons_self .., rfl⟩, fun x hx => ?_⟩
    simp only [List.mem_cons, List.not_mem_nil, or_false] at hx
    rcases hx with rfl | rfl | rfl
    · trivial
    · exact fun _ => ⟨fun _ => by decide, fun h => nomatch h⟩
    · intro _ reference hreference havailable last hlast
      obtain ⟨hmem, -⟩ := lastListing_mem hlast
      rw [List.mem_singleton.mp hmem]
      rfl
  obtain ⟨t, trace, hrun, havailable, hkeeps⟩ := hrun
  obtain ⟨-, hpermitted, -⟩ := source_rights_govern plainSources hrun rfl rfl hkeeps
  refine ⟨t, trace, hrun, havailable, fun r hr => ?_⟩
  obtain ⟨source, hsource, hhosted, -⟩ := hpermitted r hr
  exact ⟨source, hsource, hhosted⟩

/-- The reviews that pass: the connector is approved with blocked rights, and
the links-only source keeps an abstract. -/
theorem rights_not_kept : ∃ t trace, Run (SourceStep plainSources) ⟨[], [], [], []⟩ trace t
    ∧ ∃ source, t.source "source-1" = some source ∧ source.connectorStatus = .approved
      ∧ source.rightsStatus = .blocked ∧ source.coverageLevel = .deeplinkOnly
      ∧ ∃ r ∈ t.references, r.sourceId = source.id ∧ holdsAbstract r.abstract = true :=
  ⟨_, _, .cons (a := registering) rfl
    (.cons (a := reviewing .metadataOnly .metadataPermitted) rfl
      (.cons (a := snapshotting) rfl
        (.cons (a := reviewing .deeplinkOnly .blocked) rfl (.nil _)))), _, rfl, rfl, rfl, rfl, _,
    List.mem_cons_self .., rfl, rfl⟩

end Rigor
