import Rigor.KnowledgeBank
import Rigor.RunnerRecord

/-!
# Bundles of a corpus

What the parser of a repository returns, how it is serialized for the
importer, and `merge_bundles`: of a problem it keeps one whole observation, the
first of those with the longest description, and of every other item the first
with its key.
-/

namespace Rigor.Knowledge

open Py

variable {F : Type}

/-! ## Bundles -/

structure SourceFileRecord where
  sourceName : Str
  relativePath : Str
  sha256 : Str
  byteCount : Int
  suffix : Str
  classification : Str
  parseStatus : Str
  error : Option Str

/-- `canonical_problem_key` returns a text without white space around it. -/
structure CanonicalKey where
  text : Str
  stripped : strip text = text

structure ProblemObservation where
  key : CanonicalKey
  externalId : Option Str
  title : Str
  slug : Str
  description : Option Str
  difficulty : Option Str
  sourceUrl : Option Str
  topics : List Str
  sourceName : Str
  sourcePath : Str
  sourceHash : Str
  disposition : SourceDisposition

structure SolutionObservation where
  key : CanonicalKey
  language : Str
  sourceCode : Str
  explanation : Option Str
  timeComplexity : Option Str
  spaceComplexity : Option Str
  sourceName : Str
  sourcePath : Str
  sourceHash : Str
  disposition : SourceDisposition

structure CompanyObservation (F : Type) where
  key : CanonicalKey
  externalId : Option Str
  title : Str
  problemUrl : Option Str
  company : Str
  observationWindow : Option Str
  difficulty : Option Str
  acceptanceRate : Option F
  frequency : Option F
  topics : List Str
  sourceName : Str
  sourcePath : Str
  sourceHash : Str

structure SystemDesignObservation where
  slug : Str
  title : Str
  body : Str
  headings : List Str
  imagePaths : List Str
  sourceName : Str
  sourcePath : Str
  sourceHash : Str
  disposition : SourceDisposition

structure LearningResourceObservation where
  slug : Str
  title : Str
  category : Str
  language : Option Str
  body : Str
  sourceName : Str
  sourcePath : Str
  sourceHash : Str
  disposition : SourceDisposition

structure IngestionBundle (F : Type) where
  sourceName : Str
  disposition : SourceDisposition
  files : List SourceFileRecord
  problems : List ProblemObservation
  solutions : List SolutionObservation
  companies : List (CompanyObservation F)
  systemDesign : List SystemDesignObservation
  resources : List LearningResourceObservation
  warnings : List Str

/-! ## `serialize_dataclass` and `to_dict` -/

def textsJson (texts : List Str) : Json F := .arr (texts.map .str)

def floatJson : Option F → Json F
  | none => .null
  | some x => .float x

def SourceFileRecord.serialize (r : SourceFileRecord) : Members F :=
  [("source_name", .str r.sourceName), ("relative_path", .str r.relativePath),
    ("sha256", .str r.sha256), ("byte_count", .int r.byteCount), ("suffix", .str r.suffix),
    ("classification", .str r.classification), ("parse_status", .str r.parseStatus),
    ("error", optionalJson r.error)]

def ProblemObservation.serialize (o : ProblemObservation) : Members F :=
  [("canonical_key", .str o.key.text), ("external_id", optionalJson o.externalId),
    ("title", .str o.title), ("slug", .str o.slug), ("description", optionalJson o.description),
    ("difficulty", optionalJson o.difficulty), ("source_url", optionalJson o.sourceUrl),
    ("topics", textsJson o.topics), ("source_name", .str o.sourceName),
    ("source_path", .str o.sourcePath), ("source_hash", .str o.sourceHash),
    ("disposition", .str o.disposition.value)]

def SolutionObservation.serialize (o : SolutionObservation) : Members F :=
  [("canonical_key", .str o.key.text), ("language", .str o.language),
    ("source_code", .str o.sourceCode), ("explanation", optionalJson o.explanation),
    ("time_complexity", optionalJson o.timeComplexity),
    ("space_complexity", optionalJson o.spaceComplexity), ("source_name", .str o.sourceName),
    ("source_path", .str o.sourcePath), ("source_hash", .str o.sourceHash),
    ("disposition", .str o.disposition.value)]

def CompanyObservation.serialize (o : CompanyObservation F) : Members F :=
  [("canonical_key", .str o.key.text), ("external_id", optionalJson o.externalId),
    ("title", .str o.title), ("problem_url", optionalJson o.problemUrl),
    ("company", .str o.company), ("observation_window", optionalJson o.observationWindow),
    ("difficulty", optionalJson o.difficulty), ("acceptance_rate", floatJson o.acceptanceRate),
    ("frequency", floatJson o.frequency), ("topics", textsJson o.topics),
    ("source_name", .str o.sourceName), ("source_path", .str o.sourcePath),
    ("source_hash", .str o.sourceHash)]

def SystemDesignObservation.serialize (o : SystemDesignObservation) : Members F :=
  [("slug", .str o.slug), ("title", .str o.title), ("body", .str o.body),
    ("headings", textsJson o.headings), ("image_paths", textsJson o.imagePaths),
    ("source_name", .str o.sourceName), ("source_path", .str o.sourcePath),
    ("source_hash", .str o.sourceHash), ("disposition", .str o.disposition.value)]

def LearningResourceObservation.serialize (o : LearningResourceObservation) : Members F :=
  [("slug", .str o.slug), ("title", .str o.title), ("category", .str o.category),
    ("language", optionalJson o.language), ("body", .str o.body),
    ("source_name", .str o.sourceName), ("source_path", .str o.sourcePath),
    ("source_hash", .str o.sourceHash), ("disposition", .str o.disposition.value)]

namespace IngestionBundle

/-- The records of a bundle with their lists. -/
def records (b : IngestionBundle F) : RecordLabel → List (Members F)
  | .files => b.files.map SourceFileRecord.serialize
  | .problems => b.problems.map ProblemObservation.serialize
  | .solutions => b.solutions.map SolutionObservation.serialize
  | .companies => b.companies.map CompanyObservation.serialize
  | .systemDesign => b.systemDesign.map SystemDesignObservation.serialize
  | .resources => b.resources.map LearningResourceObservation.serialize

def counts (b : IngestionBundle F) : Members F :=
  [("files", .int b.files.length), ("problems", .int b.problems.length),
    ("solutions", .int b.solutions.length), ("company_observations", .int b.companies.length),
    ("system_design_articles", .int b.systemDesign.length),
    ("learning_resources", .int b.resources.length), ("warnings", .int b.warnings.length)]

def toDict (b : IngestionBundle F) : Members F :=
  let list (label : RecordLabel) : Json F := .arr ((b.records label).map .obj)
  [("source_name", .str b.sourceName), ("disposition", .str b.disposition.value),
    ("counts", .obj b.counts), ("files", list .files), ("problems", list .problems),
    ("solutions", list .solutions), ("companies", list .companies),
    ("system_design", list .systemDesign), ("resources", list .resources),
    ("warnings", textsJson b.warnings)]

end IngestionBundle

/-! ## `merge_bundles` -/

/-- The observation that stays of two with one key. -/
def ProblemObservation.longest (existing problem : ProblemObservation) : ProblemObservation :=
  if (problem.description.getD []).length > (existing.description.getD []).length then problem
  else existing

/-- `problem_map`, in the order of its first keys. -/
def keepProblem (problemMap : List ProblemObservation) (problem : ProblemObservation) :
    List ProblemObservation :=
  if ∃ existing ∈ problemMap, existing.key.text = problem.key.text then
    problemMap.map fun existing =>
      if existing.key.text = problem.key.text then existing.longest problem else existing
  else problemMap ++ [problem]

/-- The first item of each key. -/
def keepFirst {α κ : Type} [DecidableEq κ] (key : α → κ) : List κ → List α → List α
  | _, [] => []
  | seen, x :: xs =>
      if key x ∈ seen then keepFirst key seen xs else x :: keepFirst key (key x :: seen) xs

def SolutionObservation.mergeKey (o : SolutionObservation) : Str × Str × Str :=
  (o.key.text, o.language, o.sourceHash)

def CompanyObservation.mergeKey (o : CompanyObservation F) : Str × Str × Option Str × Str :=
  (o.key.text, o.company, o.observationWindow, o.sourceHash)

def SystemDesignObservation.mergeKey (o : SystemDesignObservation) : Str × Str :=
  (o.slug, o.sourceHash)

def LearningResourceObservation.mergeKey (o : LearningResourceObservation) : Str × Str :=
  (o.slug, o.sourceHash)

def mergeBundles (bundles : List (IngestionBundle F)) : IngestionBundle F where
  sourceName := "merged-upload-corpus"
  disposition := .rightsReviewRequired
  files := bundles.flatMap IngestionBundle.files
  problems := ((bundles.flatMap IngestionBundle.problems).foldl keepProblem []).insertionSort
    fun p q => p.key.text ≤ q.key.text
  solutions := keepFirst SolutionObservation.mergeKey [] (bundles.flatMap IngestionBundle.solutions)
  companies := keepFirst CompanyObservation.mergeKey [] (bundles.flatMap IngestionBundle.companies)
  systemDesign := keepFirst SystemDesignObservation.mergeKey []
    (bundles.flatMap IngestionBundle.systemDesign)
  resources := keepFirst LearningResourceObservation.mergeKey []
    (bundles.flatMap IngestionBundle.resources)
  warnings := bundles.flatMap IngestionBundle.warnings

/-! ## What a merge keeps -/

section Merge

variable {k : Str}

theorem longest_key (existing problem : ProblemObservation)
    (h : existing.key.text = problem.key.text) :
    (existing.longest problem).key.text = existing.key.text := by
  unfold ProblemObservation.longest
  split_ifs
  · exact h.symm
  · rfl

/-- The first of the longest observations. -/
def keptProblem (observations : List ProblemObservation) : Option ProblemObservation :=
  observations.foldl (fun kept o => some (kept.elim o fun existing => existing.longest o)) none

/-- A replacement keeps the key. -/
theorem filter_replaced (problemMap : List ProblemObservation) (problem : ProblemObservation) :
    (problemMap.map fun existing =>
        if existing.key.text = problem.key.text then existing.longest problem else existing).filter
        (fun o => o.key.text = k)
      = (problemMap.filter fun o => o.key.text = k).map fun existing =>
        if existing.key.text = problem.key.text then existing.longest problem else existing := by
  rw [List.filter_map]
  congr 2
  funext o
  refine decide_eq_decide.mpr ?_
  dsimp only
  split_ifs with ho
  · rw [longest_key o problem ho]
  · rfl

/-- At most one observation of a key is kept. -/
theorem keepProblem_filter {problemMap : List ProblemObservation} {kept : Option ProblemObservation}
    (h : problemMap.filter (fun o => o.key.text = k) = kept.toList) (problem : ProblemObservation) :
    (keepProblem problemMap problem).filter (fun o => o.key.text = k)
      = (if problem.key.text = k then
          some (kept.elim problem fun existing => existing.longest problem) else kept).toList := by
  unfold keepProblem
  split_ifs with hstored hkey hkey
  · rw [filter_replaced, h]
    cases kept with
    | none =>
        obtain ⟨existing, hmem, hsame⟩ := hstored
        have hmem' : existing ∈ problemMap.filter (fun o => o.key.text = k) :=
          List.mem_filter.mpr ⟨hmem, decide_eq_true (hsame.trans hkey)⟩
        rw [h] at hmem'
        cases hmem'
    | some existing =>
        have hexisting : existing ∈ problemMap.filter (fun o => o.key.text = k) := by
          rw [h]
          exact List.mem_singleton_self _
        have hsame := of_decide_eq_true (List.mem_filter.mp hexisting).2
        exact congrArg ([·]) (if_pos (hsame.trans hkey.symm))
  · rw [filter_replaced, ← h]
    refine (List.map_congr_left fun o ho => ?_).trans (List.map_id _)
    have ho' := of_decide_eq_true (List.mem_filter.mp ho).2
    exact if_neg fun hsame => hkey (hsame.symm.trans ho')
  · rw [List.filter_append, h, List.filter_cons_of_pos (by simpa using hkey), List.filter_nil]
    cases kept with
    | none => rfl
    | some existing =>
        have hexisting : existing ∈ problemMap.filter (fun o => o.key.text = k) := by
          rw [h]
          exact List.mem_singleton_self _
        obtain ⟨hmem, hsame⟩ := List.mem_filter.mp hexisting
        exact absurd ⟨existing, hmem, (of_decide_eq_true hsame).trans hkey.symm⟩ hstored
  · rw [List.filter_append, h, List.filter_cons_of_neg (by simpa using hkey), List.filter_nil,
      List.append_nil]

theorem foldl_keepProblem_filter {problemMap : List ProblemObservation}
    {kept : Option ProblemObservation}
    (h : problemMap.filter (fun o => o.key.text = k) = kept.toList)
    (observations : List ProblemObservation) :
    (observations.foldl keepProblem problemMap).filter (fun o => o.key.text = k)
      = ((observations.filter fun o => o.key.text = k).foldl
          (fun kept o => some (kept.elim o fun existing => existing.longest o)) kept).toList := by
  induction observations generalizing problemMap kept with
  | nil => exact h
  | cons o observations ih =>
      rw [List.foldl_cons, ih (keepProblem_filter h o)]
      by_cases hkey : o.key.text = k
      · rw [if_pos hkey, List.filter_cons_of_pos (by simpa using hkey), List.foldl_cons]
      · rw [if_neg hkey, List.filter_cons_of_neg (by simpa using hkey)]

theorem merge_problems_filter (bundles : List (IngestionBundle F)) (k : Str) :
    (mergeBundles bundles).problems.filter (fun o => o.key.text = k)
      = (keptProblem ((bundles.flatMap IngestionBundle.problems).filter
          fun o => o.key.text = k)).toList := by
  have hmap := @foldl_keepProblem_filter k [] none rfl (bundles.flatMap IngestionBundle.problems)
  have hperm := (List.perm_insertionSort (fun p q : ProblemObservation => p.key.text ≤ q.key.text)
    ((bundles.flatMap IngestionBundle.problems).foldl keepProblem [])).filter
      fun o => decide (o.key.text = k)
  rw [hmap] at hperm
  unfold keptProblem
  generalize ((bundles.flatMap IngestionBundle.problems).filter fun o => decide (o.key.text = k)).foldl
    (fun kept o => some (kept.elim o fun existing => existing.longest o)) none = kept at hperm ⊢
  cases kept with
  | none => exact hperm.eq_nil
  | some existing => exact List.perm_singleton.mp hperm

theorem keptProblem_isSome {observations : List ProblemObservation} :
    (keptProblem observations).isSome = true ↔ observations ≠ [] := by
  unfold keptProblem
  cases observations with
  | nil => simp
  | cons o observations =>
      have hsome : ∀ (os : List ProblemObservation) (kept : ProblemObservation),
          ((os.foldl (fun kept o => some (kept.elim o fun existing => existing.longest o))
            (some kept)).isSome = true) := by
        intro os
        induction os with
        | nil => exact fun _ => rfl
        | cons o os ih => exact fun kept => ih _
      exact iff_of_true (hsome observations o) (List.cons_ne_nil _ _)

theorem mem_merge_problems (bundles : List (IngestionBundle F)) (k : Str) :
    k ∈ (mergeBundles bundles).problems.map (fun o => o.key.text)
      ↔ ∃ b ∈ bundles, k ∈ b.problems.map fun o => o.key.text := by
  have hfilter : ∀ observations : List ProblemObservation,
      k ∈ observations.map (fun o => o.key.text)
        ↔ observations.filter (fun o => o.key.text = k) ≠ [] := by
    intro observations
    rw [Ne, List.filter_eq_nil_iff]
    simp
  rw [hfilter, merge_problems_filter]
  have hkept : ∀ kept : Option ProblemObservation, kept.toList ≠ [] ↔ kept.isSome = true := by
    intro kept
    cases kept <;> simp
  rw [hkept, keptProblem_isSome, ← hfilter]
  simp only [List.mem_map, List.mem_flatMap]
  constructor
  · rintro ⟨o, ⟨b, hb, ho⟩, rfl⟩
    exact ⟨b, hb, o, ho, rfl⟩
  · rintro ⟨b, hb, o, ho, rfl⟩
    exact ⟨o, ⟨b, hb, ho⟩, rfl⟩

section KeepFirst

variable {α κ : Type} [DecidableEq κ] {key : α → κ}

theorem mem_keepFirst (key : α → κ) (seen : List κ) (xs : List α) (s : κ) :
    s ∈ (keepFirst key seen xs).map key ↔ s ∈ xs.map key ∧ s ∉ seen := by
  induction xs generalizing seen with
  | nil => simp [keepFirst]
  | cons x xs ih =>
      unfold keepFirst
      split_ifs with hseen
      · rw [ih, List.map_cons, List.mem_cons]
        constructor
        · exact fun h => ⟨.inr h.1, h.2⟩
        · rintro ⟨rfl | h, hs⟩
          · exact absurd hseen hs
          · exact ⟨h, hs⟩
      · rw [List.map_cons, List.mem_cons, ih, List.map_cons, List.mem_cons, List.mem_cons]
        constructor
        · rintro (rfl | ⟨h, hs⟩)
          · exact ⟨.inl rfl, hseen⟩
          · exact ⟨.inr h, fun hmem => hs (.inr hmem)⟩
        · rintro ⟨h, hs⟩
          by_cases hx : s = key x
          · exact .inl hx
          · exact .inr ⟨h.resolve_left hx, not_or_intro hx hs⟩

/-- What the key decides is found where it was. -/
theorem find?_keepFirst {q : α → Bool} (hq : ∀ x y, key x = key y → q x = q y) (seen : List κ)
    (hseen : ∀ x, key x ∈ seen → q x = false) (xs : List α) :
    (keepFirst key seen xs).find? q = xs.find? q := by
  induction xs generalizing seen with
  | nil => rfl
  | cons x xs ih =>
      unfold keepFirst
      split_ifs with hmem
      · rw [ih seen hseen, List.find?_cons_of_neg (by rw [hseen x hmem]; exact Bool.false_ne_true)]
      · by_cases hx : q x = true
        · rw [List.find?_cons_of_pos hx, List.find?_cons_of_pos hx]
        · rw [List.find?_cons_of_neg hx, List.find?_cons_of_neg hx]
          refine ih _ fun y hy => ?_
          rcases List.mem_cons.mp hy with hy | hy
          · rw [hq y x hy]
            exact Bool.eq_false_of_not_eq_true hx
          · exact hseen y hy

end KeepFirst

theorem merge_solutions_keys (bundles : List (IngestionBundle F)) (k : Str) :
    k ∈ (mergeBundles bundles).solutions.map (fun o => o.key.text)
      ↔ k ∈ (bundles.flatMap IngestionBundle.solutions).map fun o => o.key.text := by
  have hfst : ∀ solutions : List SolutionObservation,
      solutions.map (fun o => o.key.text) = (solutions.map SolutionObservation.mergeKey).map Prod.fst := by
    intro solutions
    rw [List.map_map]
    rfl
  have hmem := mem_keepFirst SolutionObservation.mergeKey []
    (bundles.flatMap IngestionBundle.solutions)
  rw [hfst, hfst]
  simp only [List.mem_map (f := Prod.fst)]
  exact exists_congr fun s => and_congr_left fun _ => (hmem s).trans (and_iff_left List.not_mem_nil)

/-! ## The order of the bundles -/

/-- The items of two bundles have the same keys. -/
structure SameKeys (b b' : IngestionBundle F) : Prop where
  problems : ∀ k, k ∈ b.problems.map (fun o => o.key.text) ↔ k ∈ b'.problems.map fun o => o.key.text
  solutions : ∀ k, k ∈ b.solutions.map SolutionObservation.mergeKey
    ↔ k ∈ b'.solutions.map SolutionObservation.mergeKey
  companies : ∀ k, k ∈ b.companies.map CompanyObservation.mergeKey
    ↔ k ∈ b'.companies.map CompanyObservation.mergeKey
  systemDesign : ∀ k, k ∈ b.systemDesign.map SystemDesignObservation.mergeKey
    ↔ k ∈ b'.systemDesign.map SystemDesignObservation.mergeKey
  resources : ∀ k, k ∈ b.resources.map LearningResourceObservation.mergeKey
    ↔ k ∈ b'.resources.map LearningResourceObservation.mergeKey

theorem keepFirst_perm {α κ : Type} [DecidableEq κ] (key : α → κ)
    (items : IngestionBundle F → List α) {bundles bundles' : List (IngestionBundle F)}
    (h : bundles.Perm bundles') (k : κ) :
    k ∈ (keepFirst key [] (bundles.flatMap items)).map key
      ↔ k ∈ (keepFirst key [] (bundles'.flatMap items)).map key := by
  rw [mem_keepFirst, mem_keepFirst]
  have hperm := (h.flatMap_right items).map key
  rw [hperm.mem_iff]

/-- The keys of a merge do not depend on the order of the bundles. -/
theorem merge_keys_perm {bundles bundles' : List (IngestionBundle F)} (h : bundles.Perm bundles') :
    SameKeys (mergeBundles bundles) (mergeBundles bundles') where
  problems k := by
    rw [mem_merge_problems, mem_merge_problems]
    simp only [h.mem_iff]
  solutions := keepFirst_perm _ _ h
  companies := keepFirst_perm _ _ h
  systemDesign := keepFirst_perm _ _ h
  resources := keepFirst_perm _ _ h

end Merge

end Rigor.Knowledge
