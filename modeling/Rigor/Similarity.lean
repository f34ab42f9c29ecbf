import Mathlib.Algebra.Order.Round
import Mathlib.Tactic.Linarith
import Rigor.Cosine
import Rigor.Ingestion
import Rigor.SqlKeyOrder

/-!
# Similarity of imported questions

`_similarity` (`ingestion.py`): the scores of a question against the newest
stored versions. The lexical cosine of two texts without a token is `0`, the
reference solution is compared with the dump of a whole solution record, and
only the newest rows are read; so the same question imported again is blocked
only under a condition on its texts and on the age of its version
(`duplicate_blocked_iff`).
-/

namespace Rigor

open Py
open Cosine

variable {F : Type}

/-! ## Tokens -/

/-- `[a-z0-9_]` -/
def isTokenChar (c : Nat) : Bool := isDigit c || (97 ≤ c && c ≤ 122) || c == 95

/-- The maximal runs of token characters; `run` is the one being read. -/
def tokenRuns (run : Str) : Str → List Str
  | [] => if run = [] then [] else [run]
  | c :: s =>
      if isTokenChar c then tokenRuns (run ++ [c]) s
      else (if run = [] then [] else [run]) ++ tokenRuns [] s

/-- What `_similarity` takes from the standard library: the full case folding
of one code point and `SequenceMatcher(None, a, b).ratio()`. -/
structure TextLibrary where
  fold : Nat → Str
  fold_ascii : ∀ c < 128, fold c = [if 65 ≤ c ∧ c ≤ 90 then c + 32 else c]
  ratio : Str → Str → ℝ
  ratio_self : ∀ s, ratio s s = 1
  ratio_mem : ∀ s t, ratio s t ∈ Set.Icc (0 : ℝ) 1

def TextLibrary.casefold (lib : TextLibrary) (s : Str) : Str := s.flatMap lib.fold

/-- The keys of `_tokens`, each as often as it is counted. -/
def tokens (lib : TextLibrary) (value : Str) : List Str := tokenRuns [] (lib.casefold value)

/-- `_cosine`. -/
noncomputable def lexicalCosine (lib : TextLibrary) (left right : Str) : ℝ :=
  cosine (tokens lib left) (tokens lib right)

/-! ## `json.dumps(value)` -/

/-- `\uXXXX` -/
def unicodeEscape (c : Nat) : Str := 92 :: 117 :: hexText 4 c

/-- One code point inside a string literal of ASCII characters. -/
def escapeAscii (c : Nat) : Str :=
  if c = 34 then [92, 34]
  else if c = 92 then [92, 92]
  else if c = 10 then [92, 110]
  else if c = 13 then [92, 114]
  else if c = 9 then [92, 116]
  else if c = 12 then [92, 102]
  else if c = 8 then [92, 98]
  else if 32 ≤ c ∧ c ≤ 126 then [c]
  else if c < 65536 then unicodeEscape c
  else unicodeEscape (55296 + (c - 65536) / 1024) ++ unicodeEscape (56320 + (c - 65536) % 1024)

def dumpsString (s : Str) : Str := 34 :: (s.flatMap escapeAscii ++ [34])

section Dumps

variable [Runtime F]

mutual

/-- `json.dumps(value)` with the default separators. -/
def dumps : Json F → Str
  | .null => "null"
  | .bool true => "true"
  | .bool false => "false"
  | .int n => intText n
  | .float x => Runtime.floatText x
  | .str s => dumpsString s
  | .arr xs => 91 :: (dumpsElements xs ++ [93])
  | .obj kvs => 123 :: (dumpsMembers kvs ++ [125])

def dumpsElements : List (Json F) → Str
  | [] => []
  | [x] => dumps x
  | x :: y :: xs => dumps x ++ 44 :: 32 :: dumpsElements (y :: xs)

def dumpsMembers : List (Str × Json F) → Str
  | [] => []
  | [(k, v)] => dumpsString k ++ 58 :: 32 :: dumps v
  | (k, v) :: kv :: kvs =>
      dumpsString k ++ 58 :: 32 :: (dumps v ++ 44 :: 32 :: dumpsMembers (kv :: kvs))

end

end Dumps

/-! ## Questions and stored versions -/

/-- The fields of an incoming question that `_similarity` reads, with its
`model_dump(mode="json")`. -/
structure IncomingQuestion (F : Type) where
  title : Str
  publicProblemStatement : Str
  /-- `reference_solution.content` -/
  solutionContent : Str
  normalizedHash : Str
  dump : Dict F
  dump_distinct : (Json.obj dump).DistinctKeys
  questionType : Str
  questionType_ok : Json.get "question_type" dump = .str questionType
  primaryTrack : Str
  primaryTrack_ok : Json.get "primary_track" dump = .str primaryTrack
  specification : Dict F
  specification_ok : Json.get "type_specification" dump = .obj specification

/-- A row of `question_versions`; its `type_specification`, where it has one,
is an object. -/
structure StoredVersion (F : Type) where
  id : Uuid
  createdAt : Time
  title : Str
  problemStatement : Str
  /-- `row["structured_content"] or {}` -/
  structuredContent : Dict F
  specification : Dict F
  specification_ok : (Json.lookup "type_specification" structuredContent).getD (.obj [])
    = .obj specification
  contentHash : Str

/-- The version an import of the question makes; `jsonb` does not keep the
order of keys. -/
structure ImportedFrom (q : IncomingQuestion F) (row : StoredVersion F) : Prop where
  title : row.title = q.title
  problemStatement : row.problemStatement = q.publicProblemStatement
  content : Reordered (.obj q.dump) (.obj row.structuredContent)
  contentHash : row.contentHash = q.normalizedHash

/-- The stored versions as `ORDER BY created_at DESC` returns them. -/
structure VersionCatalogue (F : Type) where
  rows : List (StoredVersion F)
  newest : rows.Pairwise fun a b => b.createdAt ≤ a.createdAt

/-! ## `_similarity` -/

/-- `dimensions`. -/
structure SimilarityDimensions where
  exactHash : ℝ
  title : ℝ
  problemStatement : ℝ
  embedding : ℝ
  structural : ℝ
  starterCode : ℝ
  solutionCode : ℝ
  testCases : ℝ
  schema : ℝ

/-- `float(condition)`. -/
def indicator (condition : Bool) : ℝ := if condition then 1 else 0

/-- `round(x)` to an integer, half to even. -/
noncomputable def roundToEven (x : ℝ) : ℤ :=
  if Int.fract x = 1 / 2 ∧ Even ⌊x⌋ then ⌊x⌋ else round x

/-- `round(x, 4)`. -/
noncomputable def round4 (x : ℝ) : ℝ := roundToEven (x * 10000) / 10000

section Similarity

variable [Runtime F]

def specField (key : Str) (default : Json F) (spec : Dict F) : Json F :=
  (Json.lookup key spec).getD default

noncomputable def dimensions (lib : TextLibrary) (q : IncomingQuestion F) (row : StoredVersion F) :
    SimilarityDimensions :=
  let structural := indicator
    (Json.pyEq (Json.get "question_type" row.structuredContent) (Json.get "question_type" q.dump)
      && Json.pyEq (Json.get "primary_track" row.structuredContent)
        (Json.get "primary_track" q.dump))
  { exactHash := indicator (decide (row.contentHash = q.normalizedHash))
    title := lib.ratio (lib.casefold q.title) (lib.casefold row.title)
    problemStatement := lib.ratio (lib.casefold q.publicProblemStatement)
      (lib.casefold row.problemStatement)
    embedding := lexicalCosine lib q.publicProblemStatement row.problemStatement
    structural := structural
    starterCode := lexicalCosine lib (dumps (specField "starter_code" (.str []) q.specification))
      (dumps (specField "starter_code" (.str []) row.specification))
    solutionCode := lexicalCosine lib q.solutionContent
      (dumps (specField "reference_solution" (.obj []) row.structuredContent))
    testCases := lexicalCosine lib (dumps (specField "tests" (.arr []) q.specification).sortKeys)
      (dumps (specField "tests" (.arr []) row.specification).sortKeys)
    schema := structural }

end Similarity

/-- The weighted sum before it is rounded. -/
noncomputable def SimilarityDimensions.weighted (d : SimilarityDimensions) : ℝ :=
  d.exactHash * 0.20 + d.title * 0.10 + d.problemStatement * 0.20 + d.embedding * 0.20
    + d.structural * 0.05 + d.starterCode * 0.05 + d.solutionCode * 0.10 + d.testCases * 0.05
    + d.structural * 0.05

noncomputable def SimilarityDimensions.score (d : SimilarityDimensions) : ℝ := round4 d.weighted

/-- The best score so far, with its dimensions and its version. -/
structure BestMatch where
  score : ℝ
  dimensions : Option SimilarityDimensions
  versionId : Option Uuid

open Classical in
/-- One row of the loop. -/
noncomputable def BestMatch.step (best : BestMatch) (id : Uuid) (d : SimilarityDimensions) :
    BestMatch :=
  if d.score > best.score then ⟨d.score, some d, some id⟩ else best

def similarityLimit : Nat := 5000

section Similarity

variable [Runtime F]

/-- `_similarity`. -/
noncomputable def similarity (lib : TextLibrary) (q : IncomingQuestion F)
    (catalogue : VersionCatalogue F) : BestMatch :=
  (catalogue.rows.take similarityLimit).foldl
    (fun best row => best.step row.id (dimensions lib q row)) ⟨0, none, none⟩

end Similarity

open Classical in
/-- `similarity_action`. -/
noncomputable def similarityAction (score : ℝ) : SimilarityAction :=
  if score ≥ 0.95 then .publicationBlock
  else if score ≥ 0.85 then .mandatoryOriginalityReview
  else if score ≥ 0.70 then .reviewerWarning
  else .normalProcessing

/-! ## Tokens of dumped values -/

section TokenLemmas

variable {lib : TextLibrary}

/-- An ASCII character that folding keeps and no token holds. -/
structure Separator (c : Nat) : Prop where
  ascii : c < 128
  lower : ¬(65 ≤ c ∧ c ≤ 90)
  apart : isTokenChar c = false

theorem tokenRuns_append {c : Nat} (hc : isTokenChar c = false) (t : Str) : ∀ s run : Str,
    tokenRuns run (s ++ c :: t) = tokenRuns run s ++ tokenRuns [] t
  | [], run => by
      rw [List.nil_append, tokenRuns.eq_def run (c :: t), tokenRuns.eq_def run []]
      dsimp only
      rw [hc, if_neg Bool.false_ne_true]
  | d :: s, run => by
      rw [List.cons_append, tokenRuns, tokenRuns]
      cases isTokenChar d with
      | true => rw [if_pos rfl, if_pos rfl, tokenRuns_append hc t s]
      | false =>
          rw [if_neg Bool.false_ne_true, if_neg Bool.false_ne_true, tokenRuns_append hc t s,
            List.append_assoc]

theorem tokens_append {c : Nat} (hc : Separator c) (s t : Str) :
    tokens lib (s ++ c :: t) = tokens lib s ++ tokens lib t := by
  have hfold : lib.fold c = [c] := by rw [lib.fold_ascii c hc.ascii, if_neg hc.lower]
  rw [tokens, TextLibrary.casefold, List.flatMap_append, List.flatMap_cons, hfold,
    List.singleton_append, tokenRuns_append hc.apart]
  rfl

theorem tokens_cons {c : Nat} (hc : Separator c) (t : Str) :
    tokens lib (c :: t) = tokens lib t :=
  tokens_append hc [] t

theorem tokens_concat {c : Nat} (hc : Separator c) (s : Str) :
    tokens lib (s ++ [c]) = tokens lib s := by
  rw [tokens_append hc]
  exact List.append_nil _

theorem separator_comma : Separator 44 := ⟨by decide, by decide, by decide⟩
theorem separator_colon : Separator 58 := ⟨by decide, by decide, by decide⟩
theorem separator_space : Separator 32 := ⟨by decide, by decide, by decide⟩

variable [Runtime F]

theorem tokens_dumpsElements : ∀ xs : List (Json F),
    tokens lib (dumpsElements xs) = xs.flatMap fun x => tokens lib (dumps x) := by
  intro xs
  induction xs with
  | nil => rfl
  | cons x rest ih =>
      cases rest with
      | nil => rw [dumpsElements, List.flatMap_singleton]
      | cons y xs =>
          rw [dumpsElements, tokens_append separator_comma, tokens_cons separator_space, ih]
          rfl

theorem tokens_dumpsMembers : ∀ kvs : Dict F, tokens lib (dumpsMembers kvs)
    = kvs.flatMap fun kv => tokens lib (dumpsString kv.1) ++ tokens lib (dumps kv.2)
  | [] => rfl
  | [(k, v)] => by
      rw [dumpsMembers, tokens_append separator_colon, tokens_cons separator_space,
        List.flatMap_singleton]
  | (k, v) :: kv :: kvs => by
      rw [dumpsMembers, tokens_append separator_colon, tokens_cons separator_space,
        tokens_append separator_comma, tokens_cons separator_space,
        tokens_dumpsMembers (kv :: kvs), ← List.append_assoc]
      rfl

theorem tokens_dumps_arr (xs : List (Json F)) :
    tokens lib (dumps (.arr xs)) = xs.flatMap fun x => tokens lib (dumps x) := by
  have hopen : Separator 91 := ⟨by decide, by decide, by decide⟩
  have hclose : Separator 93 := ⟨by decide, by decide, by decide⟩
  rw [dumps, tokens_cons hopen, tokens_concat hclose, tokens_dumpsElements]

theorem tokens_dumps_obj (kvs : Dict F) : tokens lib (dumps (.obj kvs))
    = kvs.flatMap fun kv => tokens lib (dumpsString kv.1) ++ tokens lib (dumps kv.2) := by
  have hopen : Separator 123 := ⟨by decide, by decide, by decide⟩
  have hclose : Separator 125 := ⟨by decide, by decide, by decide⟩
  rw [dumps, tokens_cons hopen, tokens_concat hclose, tokens_dumpsMembers]

/-- The tokens of a dump do not see the order of keys. -/
theorem tokens_sortKeys (v : Json F) :
    (tokens lib (dumps v.sortKeys)).Perm (tokens lib (dumps v)) := by
  induction v using Json.memberInduction with
  | null | bool | int | float | str => exact .refl _
  | arr xs ih =>
      rw [Json.sortKeys, Json.sortKeysElements_eq, tokens_dumps_arr, tokens_dumps_arr,
        List.flatMap_map]
      exact List.Perm.flatMap_left _ ih
  | obj kvs ih =>
      obtain ⟨sorted, hsort, hperm⟩ := Json.sortKeys_obj kvs
      rw [hsort, tokens_dumps_obj, tokens_dumps_obj]
      refine (hperm.flatMap_right _).trans ?_
      rw [List.flatMap_map]
      exact List.Perm.flatMap_left _ fun kv hkv => (ih kv.1 kv.2 hkv).append_left _

theorem tokens_reordered {v v' : Json F} (h : Reordered v v') :
    (tokens lib (dumps v')).Perm (tokens lib (dumps v)) := by
  have hsorted : (tokens lib (dumps v'.sortKeys)).Perm (tokens lib (dumps v')) :=
    tokens_sortKeys v'
  rw [h] at hsorted
  exact hsorted.symm.trans (tokens_sortKeys v)

end TokenLemmas

/-! ## Rounding -/

theorem even_le_roundToEven {n : ℤ} (hn : Even n) (x : ℝ) :
    n ≤ roundToEven x ↔ (n : ℝ) - 1 / 2 ≤ x := by
  unfold roundToEven
  split_ifs with h
  · obtain ⟨hfract, heven⟩ := h
    have hx : x = ⌊x⌋ + 1 / 2 := by rw [← hfract, Int.floor_add_fract]
    have hle : n ≤ ⌊x⌋ ↔ n ≤ ⌊x⌋ + 1 := by
      obtain ⟨a, rfl⟩ := hn
      obtain ⟨b, hb⟩ := heven
      omega
    rw [hle, ← Int.cast_le (R := ℝ), Int.cast_add, Int.cast_one]
    constructor <;> intro h <;> linarith
  · rw [round_eq, Int.le_floor]
    constructor <;> intro h <;> linarith

theorem roundToEven_le {n : ℤ} {x : ℝ} (h : x ≤ n) : roundToEven x ≤ n := by
  unfold roundToEven
  split_ifs with hx
  · exact Int.cast_le.mp ((Int.floor_le x).trans h)
  · rw [round_eq, Int.floor_le_iff]
    linarith

theorem round4_mem {x : ℝ} (h : x ∈ Set.Icc (0 : ℝ) 1) : round4 x ∈ Set.Icc (0 : ℝ) 1 := by
  have hzero : (0 : ℤ) ≤ roundToEven (x * 10000) := by
    rw [even_le_roundToEven Even.zero, Int.cast_zero]
    linarith [h.1]
  have hone : roundToEven (x * 10000) ≤ 10000 := by
    refine roundToEven_le ?_
    push_cast
    linarith [h.2]
  have hzero' : (0 : ℝ) ≤ roundToEven (x * 10000) := by exact_mod_cast hzero
  have hone' : (roundToEven (x * 10000) : ℝ) ≤ 10000 := by exact_mod_cast hone
  unfold round4
  constructor
  · positivity
  · linarith

theorem blocks_round4 (x : ℝ) : 0.95 ≤ round4 x ↔ 0.94995 ≤ x := by
  have h := even_le_roundToEven (n := 9500) ⟨4750, rfl⟩ (x * 10000)
  rw [← Int.cast_le (R := ℝ)] at h
  push_cast at h
  unfold round4
  constructor
  · intro hround
    linarith [h.mp (by linarith)]
  · intro hx
    linarith [h.mpr (by linarith)]

/-! ## Dimensions -/

/-- Every dimension is a ratio. -/
structure SimilarityDimensions.InUnit (d : SimilarityDimensions) : Prop where
  exactHash : d.exactHash ∈ Set.Icc (0 : ℝ) 1
  title : d.title ∈ Set.Icc (0 : ℝ) 1
  problemStatement : d.problemStatement ∈ Set.Icc (0 : ℝ) 1
  embedding : d.embedding ∈ Set.Icc (0 : ℝ) 1
  structural : d.structural ∈ Set.Icc (0 : ℝ) 1
  starterCode : d.starterCode ∈ Set.Icc (0 : ℝ) 1
  solutionCode : d.solutionCode ∈ Set.Icc (0 : ℝ) 1
  testCases : d.testCases ∈ Set.Icc (0 : ℝ) 1
  schema : d.schema ∈ Set.Icc (0 : ℝ) 1

theorem indicator_mem (b : Bool) : indicator b ∈ Set.Icc (0 : ℝ) 1 := by
  cases b <;> simp [indicator]

theorem SimilarityDimensions.InUnit.weighted {d : SimilarityDimensions} (h : d.InUnit) :
    d.weighted ∈ Set.Icc (0 : ℝ) 1 := by
  obtain ⟨h1, h2, h3, h4, h5, h6, h7, h8, -⟩ := h
  simp only [Set.mem_Icc] at *
  unfold SimilarityDimensions.weighted
  constructor <;> linarith

theorem specField_reordered {kvs kvs' : Dict F} (hkvs : (Json.obj kvs).DistinctKeys)
    (h : Reordered (.obj kvs) (.obj kvs')) (key : Str) (default : Json F) :
    Reordered (specField key default kvs) (specField key default kvs') := by
  obtain ⟨_, hobj, hperm⟩ := Json.sortKeys_eq_obj h
  cases hobj
  have hlookup := Json.lookup_sortKeys hkvs.1 hperm key
  unfold specField
  cases hk : Json.lookup key kvs with
  | none =>
      rw [hk, Option.map_none, Option.map_eq_none_iff] at hlookup
      rw [hlookup]
      rfl
  | some v =>
      rw [hk, Option.map_some, Option.map_eq_some_iff] at hlookup
      obtain ⟨v', hk', hv⟩ := hlookup
      rw [hk']
      exact hv

theorem specification_distinct (q : IncomingQuestion F) :
    (Json.obj q.specification).DistinctKeys :=
  q.specification_ok ▸ Json.distinctKeys_get q.dump_distinct.2

theorem specification_reordered {q : IncomingQuestion F} {row : StoredVersion F} (h : ImportedFrom q row) :
    Reordered (.obj q.specification) (.obj row.specification) := by
  have hfield := specField_reordered q.dump_distinct h.content "type_specification" (.obj [])
  have hown : specField "type_specification" (.obj []) q.dump = .obj q.specification := by
    rw [specField, Json.lookup_of_get q.specification_ok nofun]
    rfl
  rwa [hown, specField, row.specification_ok] at hfield

section Dimensions

variable [Runtime F] (lib : TextLibrary) (q : IncomingQuestion F)

theorem dimensions_inUnit (row : StoredVersion F) : (dimensions lib q row).InUnit where
  exactHash := indicator_mem _
  title := lib.ratio_mem _ _
  problemStatement := lib.ratio_mem _ _
  embedding := cosine_mem _ _
  structural := indicator_mem _
  starterCode := cosine_mem _ _
  solutionCode := cosine_mem _ _
  testCases := cosine_mem _ _
  schema := indicator_mem _

/-- Without the same hash a version scores at most `0.80`. -/
theorem not_blocks_of_hash {row : StoredVersion F} (h : row.contentHash ≠ q.normalizedHash) :
    (dimensions lib q row).score < 0.95 := by
  obtain ⟨-, h2, h3, h4, h5, h6, h7, h8, -⟩ := dimensions_inUnit lib q row
  have hexact : (dimensions lib q row).exactHash = 0 := by
    simp [dimensions, indicator, h]
  simp only [Set.mem_Icc] at *
  rw [← not_le, SimilarityDimensions.score, blocks_round4, not_le,
    SimilarityDimensions.weighted, hexact]
  linarith

/-! ### An imported version -/

variable {q}

/-- `1` where there is a token and `0` where there is none. -/
noncomputable def hasTokens (text : Str) : ℝ := if tokens lib text = [] then 0 else 1

theorem lexicalCosine_self (text : Str) : lexicalCosine lib text text = hasTokens lib text := by
  unfold lexicalCosine hasTokens
  split_ifs with h
  · rw [h, cosine_nil]
  · exact cosine_self h

/-- What the starter code, the tests and the solution add to the score of a
question compared with itself. -/
noncomputable def codeOverlap (q : IncomingQuestion F) : ℝ :=
  hasTokens lib (dumps (specField "starter_code" (.str []) q.specification)) * 0.05
    + lexicalCosine lib q.solutionContent
      (dumps (specField "reference_solution" (.obj []) q.dump)) * 0.10
    + hasTokens lib (dumps (specField "tests" (.arr []) q.specification).sortKeys) * 0.05

theorem lexicalCosine_reordered (text : Str) {v v' : Json F} (h : Reordered v v') :
    lexicalCosine lib text (dumps v') = lexicalCosine lib text (dumps v) :=
  cosine_perm _ (tokens_reordered h)

theorem weighted_imported {row : StoredVersion F} (h : ImportedFrom q row) :
    (dimensions lib q row).weighted
      = 0.60 + hasTokens lib q.publicProblemStatement * 0.20 + codeOverlap lib q := by
  have hspec := specification_reordered h
  have hspecDistinct := specification_distinct q
  have hexact : (dimensions lib q row).exactHash = 1 := by
    simp [dimensions, indicator, h.contentHash]
  have htitle : (dimensions lib q row).title = 1 := by
    simp only [dimensions, h.title, lib.ratio_self]
  have hproblem : (dimensions lib q row).problemStatement = 1 := by
    simp only [dimensions, h.problemStatement, lib.ratio_self]
  have hembedding : (dimensions lib q row).embedding = hasTokens lib q.publicProblemStatement := by
    simp only [dimensions, h.problemStatement, lexicalCosine_self]
  have hsame : ∀ {key text : Str}, Json.get key q.dump = .str text →
      Json.pyEq (Json.get key row.structuredContent) (Json.get key q.dump) = true := by
    intro key text hkey
    obtain ⟨_, hobj, -, hget⟩ := h.content.members q.dump_distinct
    cases hobj
    have hre := hget key
    rw [hkey] at hre ⊢
    have hstr : Json.get key row.structuredContent = .str text := by
      cases hv : Json.get key row.structuredContent <;> rw [hv] at hre <;>
        simp_all [Reordered, Json.sortKeys]
    rw [hstr]
    exact Json.pyEq_str.mpr rfl
  have hstructural : (dimensions lib q row).structural = 1 := by
    simp only [dimensions, hsame q.questionType_ok, hsame q.primaryTrack_ok, Bool.and_true,
      indicator, if_true]
  have hstarter : (dimensions lib q row).starterCode
      = hasTokens lib (dumps (specField "starter_code" (.str []) q.specification)) := by
    rw [← lexicalCosine_self]
    exact lexicalCosine_reordered lib _ (specField_reordered hspecDistinct hspec _ _)
  have hsolution : (dimensions lib q row).solutionCode = lexicalCosine lib q.solutionContent
      (dumps (specField "reference_solution" (.obj []) q.dump)) :=
    lexicalCosine_reordered lib _ (specField_reordered q.dump_distinct h.content _ _)
  have htests : (dimensions lib q row).testCases
      = hasTokens lib (dumps (specField "tests" (.arr []) q.specification).sortKeys) := by
    have hre : _ = _ := specField_reordered hspecDistinct hspec "tests" (.arr [])
    simp only [dimensions, hre, lexicalCosine_self]
  rw [SimilarityDimensions.weighted, hexact, htitle, hproblem, hembedding, hstructural, hstarter,
    hsolution, htests, codeOverlap]
  ring

theorem codeOverlap_le (q : IncomingQuestion F) : codeOverlap lib q ≤ 0.20 := by
  have hunit : ∀ text, hasTokens lib text ≤ 1 := by
    intro text
    unfold hasTokens
    split_ifs <;> norm_num
  have hcosine := cosine_le_one (tokens lib q.solutionContent)
    (tokens lib (dumps (specField "reference_solution" (.obj []) q.dump)))
  have hstarter := hunit (dumps (specField "starter_code" (.str []) q.specification))
  have htests := hunit (dumps (specField "tests" (.arr []) q.specification).sortKeys)
  unfold codeOverlap lexicalCosine
  linarith

theorem blocks_imported {row : StoredVersion F} (h : ImportedFrom q row) :
    0.95 ≤ (dimensions lib q row).score
      ↔ tokens lib q.publicProblemStatement ≠ [] ∧ 0.14995 ≤ codeOverlap lib q := by
  rw [SimilarityDimensions.score, blocks_round4, weighted_imported lib h]
  have hle := codeOverlap_le lib q
  by_cases htokens : tokens lib q.publicProblemStatement = []
  · have hzero : hasTokens lib q.publicProblemStatement = 0 := if_pos htokens
    rw [hzero]
    refine iff_of_false ?_ fun h => h.1 htokens
    linarith
  · have hone : hasTokens lib q.publicProblemStatement = 1 := if_neg htokens
    rw [hone, and_iff_right htokens]
    constructor <;> intro h <;> linarith

end Dimensions

/-! ## The best match -/

theorem step_score_le (best : BestMatch) (id : Uuid) (d : SimilarityDimensions) :
    best.score ≤ (best.step id d).score ∧ d.score ≤ (best.step id d).score := by
  unfold BestMatch.step
  split_ifs with h
  · exact ⟨h.le, le_refl _⟩
  · exact ⟨le_refl _, not_lt.mp h⟩

section Best

variable [Runtime F] (lib : TextLibrary) (q : IncomingQuestion F)

/-- The loop from a best match. -/
noncomputable def bestMatch (best : BestMatch) (rows : List (StoredVersion F)) : BestMatch :=
  rows.foldl (fun best row => best.step row.id (dimensions lib q row)) best

/-- The loop does not lower the best score and reaches every score it sees. -/
theorem bestMatch_ge (rows : List (StoredVersion F)) : ∀ best : BestMatch,
    best.score ≤ (bestMatch lib q best rows).score
      ∧ ∀ row ∈ rows, (dimensions lib q row).score ≤ (bestMatch lib q best rows).score := by
  induction rows with
  | nil => exact fun best => ⟨le_refl _, nofun⟩
  | cons row rows ih =>
      intro best
      obtain ⟨hstart, hrows⟩ := ih (best.step row.id (dimensions lib q row))
      obtain ⟨hbest, hrow⟩ := step_score_le best row.id (dimensions lib q row)
      exact ⟨hbest.trans hstart, List.forall_mem_cons.mpr ⟨hrow.trans hstart, hrows⟩⟩

/-- The best score is the first one or the score of a row. -/
theorem bestMatch_score (rows : List (StoredVersion F)) : ∀ best : BestMatch,
    (bestMatch lib q best rows).score = best.score
      ∨ ∃ row ∈ rows, (bestMatch lib q best rows).score = (dimensions lib q row).score := by
  induction rows with
  | nil => exact fun best => .inl rfl
  | cons row rows ih =>
      intro best
      have hcons : bestMatch lib q best (row :: rows)
          = bestMatch lib q (best.step row.id (dimensions lib q row)) rows := rfl
      rw [hcons]
      rcases ih (best.step row.id (dimensions lib q row)) with h | ⟨row', hrow', h⟩
      · rw [h]
        unfold BestMatch.step
        split_ifs
        · exact .inr ⟨row, List.mem_cons_self .., rfl⟩
        · exact .inl rfl
      · exact .inr ⟨row', List.mem_cons_of_mem _ hrow', h⟩

/-- A duplicate is blocked if and only if one of the newest rows scores `0.95`. -/
theorem blocked_iff_score (catalogue : VersionCatalogue F) :
    0.95 ≤ (similarity lib q catalogue).score
      ↔ ∃ row ∈ catalogue.rows.take similarityLimit, 0.95 ≤ (dimensions lib q row).score := by
  have hge := bestMatch_ge lib q (catalogue.rows.take similarityLimit) ⟨0, none, none⟩
  constructor
  · intro h
    rcases bestMatch_score lib q (catalogue.rows.take similarityLimit) ⟨0, none, none⟩
      with hscore | ⟨row, hrow, hscore⟩
    · change 0.95 ≤ (bestMatch lib q _ _).score at h
      rw [hscore] at h
      norm_num at h
    · exact ⟨row, hrow, hscore ▸ h⟩
  · rintro ⟨row, hrow, h⟩
    exact h.trans (hge.2 row hrow)

theorem similarity_mem (catalogue : VersionCatalogue F) :
    (similarity lib q catalogue).score ∈ Set.Icc (0 : ℝ) 1 := by
  rcases bestMatch_score lib q (catalogue.rows.take similarityLimit) ⟨0, none, none⟩
    with hscore | ⟨row, _, hscore⟩
  · change (bestMatch lib q _ _).score ∈ _
    rw [hscore]
    exact ⟨le_refl _, zero_le_one⟩
  · change (bestMatch lib q _ _).score ∈ _
    rw [hscore]
    exact round4_mem (dimensions_inUnit lib q row).weighted

theorem similarityAction_block (score : ℝ) :
    similarityAction score = .publicationBlock ↔ 0.95 ≤ score := by
  unfold similarityAction
  split_ifs with h
  · exact iff_of_true rfl h
  all_goals exact iff_of_false nofun h

/-- The question was imported before. -/
def ImportedBefore (catalogue : VersionCatalogue F) : Prop :=
  ∃ row ∈ catalogue.rows, ImportedFrom q row

/-- A stored duplicate is among the newest rows, and the texts of the question
have the tokens that lift a duplicate over the threshold. -/
def Blockable (catalogue : VersionCatalogue F) : Prop :=
  ImportedBefore q catalogue →
    (∃ row ∈ catalogue.rows.take similarityLimit, ImportedFrom q row)
      ∧ tokens lib q.publicProblemStatement ≠ [] ∧ 0.14995 ≤ codeOverlap lib q

/-- A duplicate scores at least `0.95` and is blocked. -/
def DuplicateBlocked (catalogue : VersionCatalogue F) : Prop :=
  ImportedBefore q catalogue → 0.95 ≤ (similarity lib q catalogue).score
    ∧ similarityAction (similarity lib q catalogue).score = .publicationBlock

theorem duplicateBlocked_iff_blockable (catalogue : VersionCatalogue F)
    (hashes : ∀ row ∈ catalogue.rows, row.contentHash = q.normalizedHash → ImportedFrom q row) :
    DuplicateBlocked lib q catalogue ↔ Blockable lib q catalogue := by
  unfold DuplicateBlocked Blockable
  refine forall_congr' fun _ => ?_
  rw [similarityAction_block, and_self, blocked_iff_score]
  constructor
  · rintro ⟨row, hrow, hscore⟩
    have himported : ImportedFrom q row := by
      by_contra hnot
      have hhash := mt (hashes row (List.mem_of_mem_take hrow)) hnot
      exact (not_blocks_of_hash lib q hhash).not_ge hscore
    exact ⟨⟨row, hrow, himported⟩, (blocks_imported lib himported).mp hscore⟩
  · rintro ⟨⟨row, hrow, himported⟩, htexts⟩
    exact ⟨row, hrow, (blocks_imported lib himported).mpr htexts⟩

/-- A duplicate is blocked, and all dimensions and the score are ratios, if
and only if the question is blockable. -/
theorem duplicate_blocked_iff (catalogue : VersionCatalogue F)
    (hashes : ∀ row ∈ catalogue.rows, row.contentHash = q.normalizedHash → ImportedFrom q row) :
    (DuplicateBlocked lib q catalogue
        ∧ (∀ row ∈ catalogue.rows, (dimensions lib q row).InUnit)
        ∧ (similarity lib q catalogue).score ∈ Set.Icc (0 : ℝ) 1)
      ↔ Blockable lib q catalogue := by
  rw [duplicateBlocked_iff_blockable lib q catalogue hashes]
  exact and_iff_left ⟨fun row _ => dimensions_inUnit lib q row, similarity_mem lib q catalogue⟩

end Best

/-! ## A statement without a token -/

open Classical in
/-- Lower-case ASCII, other characters as they are. -/
noncomputable def asciiLibrary : TextLibrary where
  fold c := [if 65 ≤ c ∧ c ≤ 90 then c + 32 else c]
  fold_ascii _ _ := rfl
  ratio s t := if s = t then 1 else 0
  ratio_self s := if_pos rfl
  ratio_mem s t := by
    split_ifs <;> simp

/-- A question whose statement is `é`. -/
def accentQuestion : IncomingQuestion FloatConst where
  title := "accent"
  publicProblemStatement := [233]
  solutionContent := []
  normalizedHash := "hash"
  dump := [("question_type", .str "architecture"), ("primary_track", .str "data"),
    ("type_specification", .obj [])]
  dump_distinct := ⟨by decide, trivial, trivial, ⟨List.nodup_nil, trivial⟩, trivial⟩
  questionType := "architecture"
  questionType_ok := rfl
  primaryTrack := "data"
  primaryTrack_ok := rfl
  specification := []
  specification_ok := rfl

def accentVersion : StoredVersion FloatConst where
  id := "version"
  createdAt := 0
  title := "accent"
  problemStatement := [233]
  structuredContent := accentQuestion.dump
  specification := []
  specification_ok := rfl
  contentHash := "hash"

def accentCatalogue : VersionCatalogue FloatConst where
  rows := [accentVersion]
  newest := List.pairwise_singleton _ _

theorem accent_imported : ImportedFrom accentQuestion accentVersion := ⟨rfl, rfl, rfl, rfl⟩

theorem accent_hashes : ∀ row ∈ accentCatalogue.rows,
    row.contentHash = accentQuestion.normalizedHash → ImportedFrom accentQuestion row := by
  intro row hrow _
  rw [List.mem_singleton.mp hrow]
  exact accent_imported

theorem duplicate_blocked_iff_accent :
    (DuplicateBlocked asciiLibrary accentQuestion accentCatalogue
        ∧ (∀ row ∈ accentCatalogue.rows, (dimensions asciiLibrary accentQuestion row).InUnit)
        ∧ (similarity asciiLibrary accentQuestion accentCatalogue).score ∈ Set.Icc (0 : ℝ) 1)
      ↔ Blockable asciiLibrary accentQuestion accentCatalogue :=
  duplicate_blocked_iff asciiLibrary accentQuestion accentCatalogue accent_hashes

/-- The question `é`, imported again, is not blocked. -/
theorem accent_not_blocked : ¬∀ (lib : TextLibrary) (q : IncomingQuestion FloatConst)
    (catalogue : VersionCatalogue FloatConst), DuplicateBlocked lib q catalogue := by
  intro h
  have hblockable := (duplicateBlocked_iff_blockable asciiLibrary accentQuestion accentCatalogue
    accent_hashes).mp (h _ _ _)
  obtain ⟨-, htokens, -⟩ := hblockable ⟨accentVersion, List.mem_singleton_self _, accent_imported⟩
  exact htokens rfl

end Rigor
