import Mathlib.Data.Prod.Lex
import Mathlib.Data.Rat.Defs
import Mathlib.Algebra.Order.Ring.Rat
import Rigor.Paging
import Rigor.PyText

/-!
# The paged catalogues

The three catalogue listings: a condition on the rows, an `ORDER BY`, and
`LIMIT :limit OFFSET :offset`. Every sort ends in the title, which two rows
can share, so rows tied under the whole `ORDER BY` come in any order, for each
query another one. A client that asks for page after page then has every row
exactly once only where no such tie lies across a page boundary, and, of the
two routes that refuse page 10001, only within 10000 pages.
-/

namespace Rigor

open Py

/-- `Page`, `KnowledgePage` and `CatalogPage`. -/
structure Page (α : Type) where
  items : List α
  page : Nat
  pageSize : Nat
  total : Nat
  hasNext : Bool
deriving DecidableEq

section Respond

variable {α : Type}

/-- `LIMIT :limit OFFSET :offset` of the selected rows in the order the query
returned them, and the count of them all. -/
def respond (page pageSize : Nat) (arranged : List α) : Page α where
  items := (arranged.drop ((page - 1) * pageSize)).take pageSize
  page := page
  pageSize := pageSize
  total := arranged.length
  hasNext := page * pageSize < arranged.length

/-- The answers a query for one page can have. -/
def Responses {κ : Type} [LinearOrder κ] (key : α → κ) (selected : List α) (page pageSize : Nat)
    (answer : Page α) : Prop :=
  ∃ arranged, Paging.Arranges key selected arranged ∧ answer = respond page pageSize arranged

/-- Asking for page 1, 2, ... up to the first page whose `has_next` is false. -/
def Collected (fetch : Nat → Page α → Prop) (items : List α) : Prop :=
  Paging.Crawl Page.items Page.hasNext fetch 1 items

/-- The pages can be collected, and however the database orders the ties, they
hold every selected row exactly once. -/
def Partitions (fetch : Nat → Page α → Prop) (selected : List α) : Prop :=
  (∃ items, Collected fetch items) ∧ ∀ items, Collected fetch items → items.Perm selected

/-- No class of rows that the `ORDER BY` leaves tied lies across a page boundary. -/
def NoTieAcross {κ : Type} [LinearOrder κ] (key : α → κ) (selected : List α) (pageSize : Nat) :
    Prop :=
  ∀ n, ¬Paging.Straddles key selected (n * pageSize)

theorem answers_responses {κ : Type} [LinearOrder κ] (key : α → κ) (selected : List α)
    (pageSize : Nat) (allowed : Nat → Prop) :
    Paging.Answers key selected pageSize Page.items Page.hasNext allowed
      fun page answer => allowed page ∧ Responses key selected page pageSize answer := by
  constructor
  · rintro page answer ⟨hallowed, arranged, harranged, rfl⟩
    refine ⟨hallowed, ?_, arranged, harranged, rfl⟩
    rw [respond, harranged.perm.length_eq]
  · intro page hallowed arranged harranged
    exact ⟨respond page pageSize arranged, ⟨hallowed, arranged, harranged, rfl⟩, rfl⟩

theorem partitions_iff {κ : Type} [LinearOrder κ] (key : α → κ) {selected : List α}
    (hselected : selected.Nodup) {pageSize : Nat} (hsize : 0 < pageSize) :
    Partitions (Responses key selected · pageSize) selected
      ↔ NoTieAcross key selected pageSize := by
  have hanswers := answers_responses key selected pageSize fun _ => True
  simp only [true_and] at hanswers
  refine (Paging.crawl_perm_iff hselected hsize hanswers).trans ?_
  exact and_iff_right fun _ _ => trivial

/-- With a bound on the page number. -/
theorem partitions_bounded_iff {κ : Type} [LinearOrder κ] (key : α → κ) {selected : List α}
    (hselected : selected.Nodup) {pageSize : Nat} (hsize : 0 < pageSize) (bound : Nat) :
    Partitions (fun page answer => page ≤ bound + 1 ∧ Responses key selected page pageSize answer)
        selected
      ↔ selected.length ≤ (bound + 1) * pageSize ∧ NoTieAcross key selected pageSize := by
  refine (Paging.crawl_perm_iff hselected hsize
    (answers_responses key selected pageSize (· ≤ bound + 1))).trans (and_congr_left fun _ => ?_)
  constructor
  · intro h
    by_contra hmore
    have := h (bound + 1) fun i _ hi =>
      (Nat.mul_le_mul_right pageSize hi).trans_lt (Nat.not_le.mp hmore)
    omega
  · intro h n hn
    by_contra hmore
    have := hn (bound + 1) (Nat.succ_pos _) (by omega)
    omega

end Respond

/-- A filter is given where it is neither `None` nor empty. -/
def isGiven (parameter : Option Str) : Bool :=
  parameter.any fun value => !value.isEmpty

section Catalogues

/- The titles under the collation of the database, and the instants. -/
variable {Title : Type} [LinearOrder Title]

/-! ## Published questions -/

/-- What `ORDER BY` reads of a published version, and the slug of its
question, which is unique. -/
structure CatalogRow (Title : Type) where
  slug : Str
  title : Title
  difficulty : Str
  durationMinutes : Int
  createdAt : Int
deriving DecidableEq

inductive CatalogSort where
  | relevance
  | title
  | difficulty
  | duration
  | newest
deriving DecidableEq

def catalogDifficultyClass (difficulty : Str) : Nat :=
  if difficulty = Str.ofString "foundational" then 1
  else if difficulty = Str.ofString "intermediate" then 2
  else if difficulty = Str.ofString "advanced" then 3
  else if difficulty = Str.ofString "staff" then 4
  else 5

/-- The `ORDER BY` of a sort, a `DESC` as the opposite number. `rank` is the
`ts_rank` of the row's search document. -/
def catalogOrder (rank : CatalogRow Title → Rat) (query : Option Str) :
    CatalogSort → CatalogRow Title → Rat ×ₗ Title
  | .relevance, row => toLex (if isGiven query then -rank row else 0, row.title)
  | .title, row => toLex (0, row.title)
  | .difficulty, row => toLex ((catalogDifficultyClass row.difficulty : Rat), row.title)
  | .duration, row => toLex ((row.durationMinutes : Rat), row.title)
  | .newest, row => toLex (-(row.createdAt : Rat), row.title)

/-- `PublishedCatalogRepository.list`: the filters are any condition on the rows. -/
def PublishedCatalogRepository.list (rank : CatalogRow Title → Rat)
    (condition : CatalogRow Title → Bool) (questions : List (CatalogRow Title))
    (query : Option Str) (sort : CatalogSort) (pageSize page : Nat)
    (answer : Page (CatalogRow Title)) : Prop :=
  Responses (catalogOrder rank query sort) (questions.filter condition) page pageSize answer

/-! ## Knowledge problems -/

/-- What `ORDER BY` reads of a problem, and its slug, which is unique.
`maxFrequency` is the largest frequency of its company observations. -/
structure ProblemRow (Title : Type) where
  slug : Str
  title : Title
  difficulty : Option Str
  popularity : Option Rat
  maxFrequency : Option Rat
  createdAt : Int
deriving DecidableEq

inductive ProblemSort where
  | relevance
  | title
  | difficulty
  | frequency
  | newest
deriving DecidableEq

def problemDifficultyClass (difficulty : Option Str) : Nat :=
  if difficulty = some (Str.ofString "easy") then 1
  else if difficulty = some (Str.ofString "medium") then 2
  else if difficulty = some (Str.ofString "hard") then 3
  else 4

def problemOrder (rank : ProblemRow Title → Rat) (query : Option Str) :
    ProblemSort → ProblemRow Title → Rat ×ₗ Title
  | .relevance, row =>
      toLex (if isGiven query then -rank row else -row.popularity.getD 0, row.title)
  | .title, row => toLex (0, row.title)
  | .difficulty, row => toLex ((problemDifficultyClass row.difficulty : Rat), row.title)
  | .frequency, row => toLex (-row.maxFrequency.getD 0, row.title)
  | .newest, row => toLex (-(row.createdAt : Rat), row.title)

/-- `Query(ge=1, le=10_000)` of both routes; a page beyond is refused. -/
def maxPage : Nat := 10000

def listProblems (rank : ProblemRow Title → Rat) (condition : ProblemRow Title → Bool)
    (problems : List (ProblemRow Title)) (query : Option Str) (sort : ProblemSort)
    (pageSize page : Nat) (answer : Page (ProblemRow Title)) : Prop :=
  page ≤ maxPage
    ∧ Responses (problemOrder rank query sort) (problems.filter condition) page pageSize answer

/-- The same query under other conditions (topics and companies in the search,
the availability). -/
def listCatalogProblems (rank : ProblemRow Title → Rat) (condition : ProblemRow Title → Bool)
    (problems : List (ProblemRow Title)) (query : Option Str) (sort : ProblemSort)
    (pageSize page : Nat) (answer : Page (ProblemRow Title)) : Prop :=
  page ≤ maxPage
    ∧ Responses (problemOrder rank query sort) (problems.filter condition) page pageSize answer

/-! ## What the pages hold together -/

theorem problems_partition_iff (rank : ProblemRow Title → Rat)
    (condition : ProblemRow Title → Bool) {problems : List (ProblemRow Title)}
    (hproblems : (problems.map (·.slug)).Nodup) (query : Option Str) (sort : ProblemSort)
    {pageSize : Nat} (hsize : 0 < pageSize) :
    Partitions (listProblems rank condition problems query sort pageSize)
        (problems.filter condition)
      ↔ (problems.filter condition).length ≤ maxPage * pageSize
        ∧ NoTieAcross (problemOrder rank query sort) (problems.filter condition) pageSize :=
  partitions_bounded_iff _ ((List.Nodup.of_map _ hproblems).filter _) hsize 9999

/-- For each of the three listings, the pages hold every row that satisfies the
filters exactly once exactly where no class of rows tied under the `ORDER BY`
lies across a page boundary and the routes allow every page. -/
theorem pages_partition_iff {questions : List (CatalogRow Title)}
    (hquestions : (questions.map (·.slug)).Nodup) {problems : List (ProblemRow Title)}
    (hproblems : (problems.map (·.slug)).Nodup) {pageSize : Nat} (hsize : 0 < pageSize) :
    (∀ rank condition query sort,
      Partitions (PublishedCatalogRepository.list rank condition questions query sort pageSize)
          (questions.filter condition)
        ↔ NoTieAcross (catalogOrder rank query sort) (questions.filter condition) pageSize)
      ∧ (∀ rank condition query sort,
        Partitions (listProblems rank condition problems query sort pageSize)
            (problems.filter condition)
          ↔ (problems.filter condition).length ≤ maxPage * pageSize
            ∧ NoTieAcross (problemOrder rank query sort) (problems.filter condition) pageSize)
      ∧ ∀ rank condition query sort,
        Partitions (listCatalogProblems rank condition problems query sort pageSize)
            (problems.filter condition)
          ↔ (problems.filter condition).length ≤ maxPage * pageSize
            ∧ NoTieAcross (problemOrder rank query sort) (problems.filter condition) pageSize := by
  refine ⟨fun rank condition query sort => ?_, fun rank condition query sort => ?_,
    fun rank condition query sort => ?_⟩
  · exact partitions_iff _ ((List.Nodup.of_map _ hquestions).filter _) hsize
  · exact problems_partition_iff rank condition hproblems query sort hsize
  · exact problems_partition_iff rank condition hproblems query sort hsize

end Catalogues

/-! ## Two questions of one title -/

/-- Two published questions that both have the title `0`. -/
def homonyms : List (CatalogRow Nat) :=
  [⟨Str.ofString "two-sum", 0, Str.ofString "staff", 45, 7⟩,
    ⟨Str.ofString "two-sum-again", 0, Str.ofString "staff", 45, 7⟩]

theorem homonyms_tied :
    ¬NoTieAcross (catalogOrder (fun _ => 0) none .title) (homonyms.filter fun _ => true) 1 := by
  intro h
  refine h 1 ⟨⟨Str.ofString "two-sum", 0, Str.ofString "staff", 45, 7⟩, by simp [homonyms], ?_, ?_⟩
  · simp [Paging.below, homonyms, catalogOrder]
  · simp [Paging.upTo, homonyms, catalogOrder]

theorem pages_partition_homonyms :
    Partitions (listProblems (fun _ : ProblemRow Nat => 0) (fun _ => true) [] none .title 1) []
      ↔ ([] : List (ProblemRow Nat)).length ≤ maxPage * 1
        ∧ NoTieAcross (problemOrder (fun _ => 0) none .title) ([] : List (ProblemRow Nat)) 1 :=
  (pages_partition_iff (by decide : (homonyms.map (·.slug)).Nodup)
    (by decide : (([] : List (ProblemRow Nat)).map (·.slug)).Nodup)
    Nat.one_pos).2.1 _ _ _ _

/-- One page can hold the first question and the next page the same one again. -/
theorem homonyms_lost :
    ¬Partitions (PublishedCatalogRepository.list (fun _ => 0) (fun _ => true) homonyms none
      .title 1) (homonyms.filter fun _ => true) :=
  (partitions_iff _ (by decide) Nat.one_pos).not.mpr homonyms_tied

end Rigor
