import Mathlib.Data.List.Forall2
import Rigor.CorpusBundles
import Rigor.PyBytes
import Rigor.PyCompare
import Rigor.PyCsv
import Rigor.PyJsonRoundTrip
import Rigor.Similarity

/-!
# Company tables

`parse_company_csvs` reads the rows of each CSV file under a root and makes an
observation of each row with a title. A row is read where it has no more cells
than the header, and `int` accepts an id of digits; `float` also reads numbers
that are not finite. The observations are those of the titled rows exactly where
every titled row is so (`companies_observed_iff`).
-/

namespace Rigor.Knowledge

open Py

/-- What the parser takes from the interpreter: `str.casefold`, `str.capitalize`,
`float` of a text and the digest of a text. -/
structure CsvRuntime (F : Type) where
  casefold : Str → Str
  capitalize : Str → Str
  readFloat : Str → Option F
  sha256 : Str → Str
  /-- folding makes no white space -/
  casefold_visible : ∀ s, (∀ c ∈ s, isSpace c = false) → ∀ c ∈ casefold s, isSpace c = false

/-! ## Texts -/

def isSlugChar (c : Nat) : Bool := (97 ≤ c ∧ c ≤ 122) ∨ (48 ≤ c ∧ c ≤ 57)

/-- `SPACE.sub(" ", s)`. -/
def collapseSpace : Str → Str
  | [] => []
  | c :: t =>
      if isSpace c = false then c :: collapseSpace t
      else if t.head?.any isSpace then collapseSpace t
      else 32 :: collapseSpace t

/-- The length of the rest of a tag, behind `<`. -/
def tagEnd (t : Str) : Option Nat :=
  let body := t.takeWhile (· ≠ 62)
  if body = [] ∨ body.length = t.length then none else some (body.length + 1)

/-- `HTML_TAG.sub(" ", s)`, with the characters of a tag still to be skipped. -/
def removeTags : Nat → Str → Str
  | _, [] => []
  | n + 1, _ :: t => removeTags n t
  | 0, c :: t =>
      if c = 60 then
        match tagEnd t with
        | some n => 32 :: removeTags n t
        | none => c :: removeTags 0 t
      else c :: removeTags 0 t

def stripChars (chars s : Str) : Str :=
  ((s.dropWhile (· ∈ chars)).reverse.dropWhile (· ∈ chars)).reverse

def normalizeTitle (value : Str) : Str :=
  stripChars " -#\t\r\n" (collapseSpace (removeTags 0 value))

/-- `value.replace("_", " ").replace("-", " ")`, with single spaces. -/
def spaced (value : Str) : Str :=
  strip (collapseSpace (value.map fun c => if c = 95 ∨ c = 45 then 32 else c))

/-- The character of a literal of `LEETCODE_SLUG`, which ignores case. -/
def sameLetter (p c : Nat) : Bool :=
  c = p ∨ (97 ≤ p ∧ p ≤ 122 ∧ c + 32 = p) ∨ (p = 115 ∧ c = 0x17F)

/-- `[a-z0-9-]` where case is ignored. -/
def isSlugLetter (c : Nat) : Bool :=
  isSlugChar c ∨ (65 ≤ c ∧ c ≤ 90) ∨ c ∈ ([45, 0x130, 0x131, 0x17F, 0x212A] : List Nat)

def behindPath : Str → Str → Option Str
  | [], t => some t
  | _ :: _, [] => none
  | p :: ps, c :: t => if sameLetter p c then behindPath ps t else none

/-- The slug of `LEETCODE_SLUG.search(url)`. -/
def leetcodeSlug : Str → Option Str
  | [] => none
  | c :: t =>
      match behindPath "leetcode.com/problems/" (c :: t) with
      | some rest =>
          let slug := rest.takeWhile isSlugLetter
          if slug = [] then leetcodeSlug t else some slug
      | none => leetcodeSlug t

/-- The digits of `str.isdigit` that are not decimal. -/
def digitRanges : List (Nat × Nat) :=
  [(0xB2, 0xB3), (0xB9, 0xB9), (0x1369, 0x1371), (0x19DA, 0x19DA), (0x2070, 0x2070),
    (0x2074, 0x2079), (0x2080, 0x2089), (0x2460, 0x2468), (0x2474, 0x247C), (0x2488, 0x2490),
    (0x24EA, 0x24EA), (0x24F5, 0x24FD), (0x24FF, 0x24FF), (0x2776, 0x277E), (0x2780, 0x2788),
    (0x278A, 0x2792), (0x10A40, 0x10A43), (0x10E60, 0x10E68), (0x11052, 0x1105A),
    (0x1F100, 0x1F10A)]

/-- `str.isdigit`. -/
def isDigitText (s : Str) : Bool :=
  !s.isEmpty && s.all fun c =>
    (decimalDigit c).isSome || digitRanges.any fun r => r.1 ≤ c && c ≤ r.2

section Rows

variable {F : Type}

def slugify (env : CsvRuntime F) (value : Str) : Str :=
  let parts := ((env.casefold value).splitOnP fun c => !isSlugChar c).filter (· ≠ [])
  if parts = [] then "untitled" else [45].intercalate parts

def normalizeTopic (env : CsvRuntime F) (value : Str) : Str :=
  let aliases : List (Str × Str) := [
    ("two pointer", "two-pointers"),
    ("two pointers", "two-pointers"),
    ("sliding window", "sliding-window"),
    ("dynamic programming", "dynamic-programming"),
    ("breadth first search", "breadth-first-search"),
    ("depth first search", "depth-first-search"),
    ("binary search", "binary-search"),
    ("linked list", "linked-list"),
    ("hash table", "hashing")]
  let normalized := env.casefold (spaced value)
  (aliases.lookup normalized).getD (slugify env normalized)

def normalizeDifficulty (env : CsvRuntime F) (value : Option Str) : Option Str :=
  let aliases : List (Str × Str) := [
    ("easy", "easy"),
    ("medium", "medium"),
    ("hard", "hard"),
    ("beginner", "easy"),
    ("intermediate", "medium"),
    ("advanced", "hard")]
  (value.filter (· ≠ [])).bind fun value => aliases.lookup (env.casefold (strip value))

def normalizeCompany (env : CsvRuntime F) (value : Str) : Str :=
  let aliases : List (Str × Str) := [
    ("amazon web services", "Amazon"),
    ("aws", "Amazon"),
    ("facebook", "Meta"),
    ("google llc", "Google"),
    ("microsoft corporation", "Microsoft"),
    ("bookingcom", "Booking.com"),
    ("jpmorgan", "JPMorgan Chase"),
    ("jp morgan", "JPMorgan Chase")]
  let compact := env.casefold (spaced value)
  (aliases.lookup compact).getD
    ([32].intercalate (((compact.splitOnP isSpace).filter (· ≠ [])).map env.capitalize))

def parseNumber (env : CsvRuntime F) (value : Option Str) : Option F :=
  value.bind fun value =>
    let candidate := (strip value).filter fun c => c ≠ 37 ∧ c ≠ 44
    if candidate = [] then none else env.readFloat candidate

/-! ## Paths -/

/-- A file `*.csv` under the root, with its text as it is decoded or the
`OSError` of opening it. -/
structure CsvFile where
  path : List Str
  text : Except Str Str

def posix (path : List Str) : Str := [47].intercalate path

/-- `PurePath.stem`. -/
def stem (name : Str) : Str :=
  let suffix := (name.reverse.takeWhile (· ≠ 46)).reverse
  let front := ((name.reverse.dropWhile (· ≠ 46)).drop 1).reverse
  if suffix = [] ∨ front = [] then name else front

def removeNumber (stem : Str) : Str :=
  ([("1. " : Str), "2. ", "3. ", "4. ", "5. "]).foldl
    (fun s number => if number.isPrefixOf s then s.drop number.length else s) stem

/-- The match of a company and a window in a stem. -/
def windowMatch (stem : Str) : Option (Str × Str) :=
  let body := if stem.getLast? = some 10 then stem.dropLast else stem
  ([("6months" : Str), "1year", "2year", "alltime"]).findSome? fun window =>
    let company := body.take (body.length - (window.length + 1))
    if (95 :: window).isSuffixOf body ∧ company ≠ [] ∧ 10 ∉ company then some (company, window)
    else none

/-- `_company_and_window`. -/
def companyAndWindow (env : CsvRuntime F) (path : List Str) : Str × Option Str :=
  match path.reverse with
  | name :: parent :: _ =>
      (normalizeCompany env parent, some (slugify env (removeNumber (stem name))))
  | name :: [] =>
      match windowMatch (stem name) with
      | some (company, window) => (normalizeCompany env company, some window)
      | none => (normalizeCompany env (stem name), none)
  | [] => (normalizeCompany env [], none)

/-! ## Rows -/

/-- A row of `csv.DictReader`; `extra` is `row[None]`, where it is not empty. -/
structure CsvRow (F : Type) where
  members : Dict F
  extra : List Str

/-- The row under a header: the cells that are missing are `None`. -/
def dictRow (header cells : List Str) : CsvRow F where
  members := (header.drop cells.length).foldl (fun row key => Json.insert key .null row)
    (Json.ofPairs ((header.zip cells).map fun cell => (cell.1, Json.str cell.2)))
  extra := cells.drop header.length

/-- The rows of `csv.DictReader`, which passes over blank ones, with the numbers
from 2 on. -/
def dictRows : List (List Str) → List (CsvRow F × Nat)
  | [] => []
  | header :: records => ((records.filter (· ≠ [])).map (dictRow header)).zipIdx 2

/-- `_row_value`. -/
def rowValue (env : CsvRuntime F) (row : CsvRow F) (names : List Str) : Option Str :=
  let normalized := Json.ofPairs (row.members.map fun cell => (slugify env cell.1, cell.2))
  names.findSome? fun name =>
    match Json.lookup (slugify env name) normalized with
    | some (.str value) => if isBlank value then none else some (strip value)
    | _ => none

theorem rowValue_ne {env : CsvRuntime F} {row : CsvRow F} {names : List Str}
    {value : Str} (h : rowValue env row names = some value) : value ≠ [] := by
  obtain ⟨name, -, hvalue⟩ := List.exists_of_findSome?_eq_some h
  split at hvalue
  · split_ifs at hvalue with hblank
    cases hvalue
    simpa [isBlank] using hblank
  · cases hvalue

def rowTitle (env : CsvRuntime F) (row : CsvRow F) : Option Str :=
  rowValue env row ["title", "problem"]

def rowId (env : CsvRuntime F) (row : CsvRow F) : Option Str :=
  rowValue env row ["id", "problem id", "question id"]

def rowUrl (env : CsvRuntime F) (row : CsvRow F) : Option Str :=
  rowValue env row ["url", "link", "leetcode question link"]

def acceptance (env : CsvRuntime F) (row : CsvRow F) : Option F :=
  parseNumber env (rowValue env row ["acceptance", "acceptance rate", "acceptance %"])

def rowFrequency (env : CsvRuntime F) (row : CsvRow F) : Option F :=
  parseNumber env (rowValue env row ["frequency", "frequency %"])

/-- The topics without repetition, sorted. -/
def rowTopics (env : CsvRuntime F) (row : CsvRow F) : List Str :=
  let text := (rowValue env row ["topics", "topic", "tags"]).getD []
  let values := ((text.splitOnP (· = 44)).filter fun value => !isBlank value).map
    (normalizeTopic env)
  values.dedup.insertionSort (· ≤ ·)

/-- What escapes the parser. -/
inductive CsvFailure where
  | intDigits  -- `ValueError` of `int`
  | keyOrder   -- `TypeError` of sorting `None` among the keys
  deriving DecidableEq

theorem strip_visible {s : Str} (h : ∀ c ∈ s, isSpace c = false) : strip s = s := by
  have hdrop : ∀ t : Str, (∀ c ∈ t, isSpace c = false) → t.dropWhile isSpace = t := by
    intro t ht
    cases t with
    | nil => rfl
    | cons c t => exact List.dropWhile_cons_of_neg (by simp [ht c (by simp)])
  unfold strip
  rw [hdrop s h, hdrop s.reverse (by simpa using h), List.reverse_reverse]

theorem intText_visible (n : Int) : ∀ c ∈ intText n, isSpace c = false := by
  have hdigit : ∀ {c : Nat}, isDigit c = true → isSpace c = false := by
    intro c hc
    simp only [isDigit, Bool.and_eq_true, decide_eq_true_eq] at hc
    simp [isSpace]
    omega
  intro c hc
  cases n with
  | ofNat n => exact hdigit (natText_digits n c hc)
  | negSucc n =>
      rcases List.mem_cons.mp hc with rfl | hc
      · decide
      · exact hdigit (natText_digits _ c hc)

/-- A part of a split text has no separator. -/
theorem splitOnP_parts {p : Nat → Bool} : ∀ {s part : Str}, part ∈ s.splitOnP p →
    ∀ c ∈ part, p c = false
  | [], part, h, c, hc => by
      obtain rfl : part = [] := by simpa using h
      cases hc
  | x :: s, part, h, c, hc => by
      rw [List.splitOnP_cons_eq_if_modifyHead] at h
      split_ifs at h with hx
      · rcases List.mem_cons.mp h with rfl | hrest
        · cases hc
        · exact splitOnP_parts hrest c hc
      · cases hparts : s.splitOnP p with
        | nil =>
            rw [hparts] at h
            simp at h
        | cons first rest =>
            have hfirst : first ∈ s.splitOnP p := hparts ▸ List.mem_cons_self ..
            rw [hparts] at h
            rcases List.mem_cons.mp h with rfl | hrest
            · rcases List.mem_cons.mp hc with rfl | hc
              · simpa using hx
              · exact splitOnP_parts hfirst c hc
            · have hmem : part ∈ s.splitOnP p := hparts ▸ List.mem_cons_of_mem _ hrest
              exact splitOnP_parts hmem c hc

theorem mem_intercalate {sep : Str} {c : Nat} : ∀ {parts : List Str}, c ∈ sep.intercalate parts →
    c ∈ sep ∨ ∃ part ∈ parts, c ∈ part
  | [], h => by cases h
  | [part], h => .inr ⟨part, by simp, by simpa using h⟩
  | part :: next :: parts, h => by
      rw [List.intercalate_cons_cons] at h
      rcases List.mem_append.mp h with h | h
      · rcases List.mem_append.mp h with h | h
        · exact .inr ⟨part, by simp, h⟩
        · exact .inl h
      · rcases mem_intercalate h with h | ⟨other, hother, h⟩
        · exact .inl h
        · exact .inr ⟨other, List.mem_cons_of_mem _ hother, h⟩

theorem slugify_visible (env : CsvRuntime F) (value : Str) :
    ∀ c ∈ slugify env value, isSpace c = false := by
  intro c hc
  unfold slugify at hc
  dsimp only at hc
  split_ifs at hc
  · exact (by decide : ∀ c ∈ Str.ofString "untitled", isSpace c = false) c hc
  · rcases mem_intercalate hc with hsep | ⟨part, hpart, hc⟩
    · rw [List.mem_singleton.mp hsep]
      decide
    · have hslug := splitOnP_parts (List.mem_filter.mp hpart).1 c hc
      simp [isSlugChar] at hslug
      simp [isSpace]
      omega

theorem leetcodeSlug_visible : ∀ {url slug : Str}, leetcodeSlug url = some slug →
    ∀ c ∈ slug, isSpace c = false
  | [], _, h => by cases h
  | x :: t, slug, h => by
      unfold leetcodeSlug at h
      split at h
      · rename_i rest _
        dsimp only at h
        split_ifs at h
        · exact leetcodeSlug_visible h
        · cases h
          intro c hc
          have hletter := List.mem_takeWhile_imp hc
          simp [isSlugLetter, isSlugChar] at hletter
          simp [isSpace]
          omega
      · exact leetcodeSlug_visible h

/-- A key made of a word and a text without white space. -/
def visibleKey (word text : Str) (hword : ∀ c ∈ word, isSpace c = false)
    (htext : ∀ c ∈ text, isSpace c = false) : CanonicalKey :=
  ⟨word ++ text, strip_visible (List.forall_mem_append.mpr ⟨hword, htext⟩)⟩

/-- The key of a title or a URL. -/
def titleKey (env : CsvRuntime F) (title : Str) (sourceUrl : Option Str) : CanonicalKey :=
  match h : (sourceUrl.filter (· ≠ [])).bind leetcodeSlug with
  | some slug => visibleKey "leetcode-slug:" (env.casefold slug) (by decide)
      (env.casefold_visible slug
        (leetcodeSlug_visible (Option.bind_eq_some_iff.mp h).choose_spec.2))
  | none => visibleKey "normalized-title:" (slugify env title) (by decide)
      (slugify_visible env title)

variable [FloatArith F]

def canonicalProblemKey (env : CsvRuntime F) (externalId : Option Str) (title : Str)
    (sourceUrl : Option Str) : Except CsvFailure CanonicalKey :=
  match externalId with
  | some id =>
      if id ≠ [] ∧ isDigitText (strip id) then
        match pyInt (Runtime.maxStrDigits F) id with
        | some n => .ok (visibleKey "leetcode:" (intText n) (by decide) (intText_visible n))
        | none => .error .intDigits
      else .ok (titleKey env title sourceUrl)
  | none => .ok (titleKey env title sourceUrl)

/-- `json.dumps(row, sort_keys=True)`, where a row with more cells than the
header has the key `None` too. -/
def dumpsRow (row : CsvRow F) : Except CsvFailure Str :=
  if row.extra = [] then .ok (dumps (Json.sortKeys (.obj row.members))) else .error .keyOrder

/-- The observation of a row with a title. -/
def observation (env : CsvRuntime F) (sourceName : Str) (path : List Str) (number : Nat)
    (row : CsvRow F) (title : Str) (key : CanonicalKey) (text : Str) : CompanyObservation F where
  key := key
  externalId := rowId env row
  title := normalizeTitle title
  problemUrl := rowUrl env row
  company := (companyAndWindow env path).1
  observationWindow := (companyAndWindow env path).2
  difficulty := normalizeDifficulty env (rowValue env row ["difficulty"])
  acceptanceRate := acceptance env row
  frequency := rowFrequency env row
  topics := rowTopics env row
  sourceName := sourceName
  sourcePath := posix path ++ [35] ++ natText number
  sourceHash := env.sha256 text

/-- The loop body: a row without a title is passed over. -/
def companyRow (env : CsvRuntime F) (sourceName : Str) (path : List Str) (row : CsvRow F × Nat) :
    Except CsvFailure (Option (CompanyObservation F)) :=
  match rowTitle env row.1 with
  | none => .ok none
  | some title => do
      let key ← canonicalProblemKey env (rowId env row.1) title (rowUrl env row.1)
      let text ← dumpsRow row.1
      .ok (some (observation env sourceName path row.2 row.1 title key text))

def companyRows (env : CsvRuntime F) (sourceName : Str) (path : List Str) :
    List (CsvRow F × Nat) → Except CsvFailure (List (CompanyObservation F))
  | [] => .ok []
  | row :: rows => do
      let o ← companyRow env sourceName path row
      let os ← companyRows env sourceName path rows
      .ok (o.toList ++ os)

/-- `csv.field_size_limit()`. -/
def fieldLimit : Nat := 131072

/-- The records of a file, and the error that ends them. -/
def CsvFile.records (file : CsvFile) : List (List Str) × Option Str :=
  match file.text with
  | .error e => ([], some e)
  | .ok text =>
      let (records, e) := csvRecords fieldLimit .start (csvLines text)
      (records, e.map CsvError.text)

def companyFile (env : CsvRuntime F) (sourceName : Str) (file : CsvFile) :
    Except CsvFailure (List (CompanyObservation F) × List Str) := do
  let os ← companyRows env sourceName file.path (dictRows file.records.1)
  .ok (os, file.records.2.toList.map fun e => posix file.path ++ ": " ++ e)

def companyFiles (env : CsvRuntime F) (sourceName : Str) :
    List CsvFile → Except CsvFailure (List (CompanyObservation F) × List Str)
  | [] => .ok ([], [])
  | file :: files => do
      let (os, warnings) ← companyFile env sourceName file
      let (os', warnings') ← companyFiles env sourceName files
      .ok (os ++ os', warnings ++ warnings')

/-- `sorted(root.rglob("*.csv"))`. -/
def sortedFiles (files : List CsvFile) : List CsvFile :=
  files.insertionSort fun a b => a.path ≤ b.path

/-- `parse_company_csvs` of the CSV files under the root. -/
def parseCompanyCsvs (env : CsvRuntime F) (sourceName : Str) (files : List CsvFile) :
    Except CsvFailure (List (CompanyObservation F) × List Str) :=
  companyFiles env sourceName (sortedFiles files)

/-! ## Titled rows -/

/-- The rows with a title, with their files, in the order of the parser. -/
def titledRows (env : CsvRuntime F) (files : List CsvFile) : List (CsvFile × CsvRow F × Nat) :=
  (sortedFiles files).flatMap fun file =>
    ((dictRows file.records.1).filter fun row => (rowTitle env row.1).isSome).map (file, ·)

/-- The row has no more cells than the header, and an id of digits is one that
`int` takes. -/
structure RowReads (env : CsvRuntime F) (row : CsvRow F) : Prop where
  cells : row.extra = []
  id : ∀ id, rowId env row = some id → isDigitText (strip id) = true →
    ∃ n, pyInt (Runtime.maxStrDigits F) id = some n

/-- The row reads, and its numbers are finite. -/
structure RowFits (env : CsvRuntime F) (row : CsvRow F) : Prop extends RowReads env row where
  acceptance : ∀ x, acceptance env row = some x → FloatArith.isFinite x = true
  frequency : ∀ x, rowFrequency env row = some x → FloatArith.isFinite x = true

/-- An observation of the row, with finite numbers or none. -/
structure Observes (env : CsvRuntime F) (sourceName : Str) (x : CsvFile × CsvRow F × Nat)
    (o : CompanyObservation F) : Prop where
  sourceName : o.sourceName = sourceName
  sourcePath : o.sourcePath = posix x.1.path ++ [35] ++ natText x.2.2
  title : (rowTitle env x.2.1).map normalizeTitle = some o.title
  acceptance : ∀ n, o.acceptanceRate = some n → FloatArith.isFinite n = true
  frequency : ∀ n, o.frequency = some n → FloatArith.isFinite n = true

/-- Nothing is raised, and the observations are those of the titled rows, one of
each, with finite numbers or none. -/
def AllObserved (env : CsvRuntime F) (sourceName : Str) (files : List CsvFile) : Prop :=
  ∃ observations warnings, parseCompanyCsvs env sourceName files = .ok (observations, warnings)
    ∧ List.Forall₂ (Observes env sourceName) (titledRows env files) observations

/-- The observation that the loop makes of a row that reads. -/
def Made (env : CsvRuntime F) (sourceName : Str) (path : List Str) (row : CsvRow F × Nat)
    (o : CompanyObservation F) : Prop :=
  RowReads env row.1 ∧ ∃ title key text, rowTitle env row.1 = some title
    ∧ o = observation env sourceName path row.2 row.1 title key text

section Reading

variable {env : CsvRuntime F} {sourceName : Str}

theorem canonicalProblemKey_ok {externalId sourceUrl : Option Str} {title : Str} :
    (∃ key, canonicalProblemKey env externalId title sourceUrl = .ok key)
      ↔ ∀ id, externalId = some id → id ≠ [] → isDigitText (strip id) = true →
        ∃ n, pyInt (Runtime.maxStrDigits F) id = some n := by
  unfold canonicalProblemKey
  cases externalId with
  | none => simp
  | some id =>
      simp only [Option.some.injEq, forall_eq']
      split_ifs with hdigits
      · cases hint : pyInt (Runtime.maxStrDigits F) id with
        | none => simp [hdigits]
        | some n => simp
      · refine iff_of_true ⟨_, rfl⟩ fun hne htext => absurd ⟨hne, htext⟩ hdigits

/-- A row without a title is passed over; one with a title is observed where it
reads, and escapes the loop where it does not. -/
theorem companyRow_cases (env : CsvRuntime F) (sourceName : Str) (path : List Str)
    (row : CsvRow F × Nat) :
    (rowTitle env row.1 = none ∧ companyRow env sourceName path row = .ok none)
      ∨ (∃ o, companyRow env sourceName path row = .ok (some o) ∧ Made env sourceName path row o)
      ∨ ((rowTitle env row.1).isSome = true ∧ ¬RowReads env row.1
        ∧ ∃ e, companyRow env sourceName path row = .error e) := by
  unfold companyRow
  cases htitle : rowTitle env row.1 with
  | none => exact .inl ⟨rfl, rfl⟩
  | some title =>
      refine .inr ?_
      cases hkey : canonicalProblemKey env (rowId env row.1) title (rowUrl env row.1) with
      | error e =>
          refine .inr ⟨rfl, fun hreads => ?_, e, by simp only [hkey]; rfl⟩
          obtain ⟨key, hok⟩ := canonicalProblemKey_ok.mpr fun id hid _ => hreads.id id hid
          rw [hkey] at hok
          cases hok
      | ok key =>
          have hid := canonicalProblemKey_ok.mp ⟨key, hkey⟩
          by_cases hextra : row.1.extra = []
          · have hdumps : dumpsRow row.1 = .ok (dumps (Json.sortKeys (.obj row.1.members))) :=
              if_pos hextra
            refine .inl ⟨_, by simp only [hkey, hdumps]; rfl, ⟨hextra, fun id hsome => ?_⟩,
              title, key, _, htitle, rfl⟩
            exact hid id hsome (rowValue_ne hsome)
          · have hdumps : dumpsRow row.1 = .error .keyOrder := if_neg hextra
            exact .inr ⟨rfl, fun hreads => hextra hreads.cells, .keyOrder, by
              simp only [hkey, hdumps]; rfl⟩

theorem companyRows_ok {path : List Str} : ∀ {rows : List (CsvRow F × Nat)}
    {os : List (CompanyObservation F)}, companyRows env sourceName path rows = .ok os →
      List.Forall₂ (Made env sourceName path)
        (rows.filter fun row => (rowTitle env row.1).isSome) os
  | [], os, h => by
      cases h
      exact .nil
  | row :: rows, os, h => by
      unfold companyRows at h
      rcases companyRow_cases env sourceName path row with
        ⟨htitle, hrow⟩ | ⟨o, hrow, hmade⟩ | ⟨-, -, e, hrow⟩
      all_goals rw [hrow] at h
      · cases hrest : companyRows env sourceName path rows with
        | error e =>
            rw [hrest] at h
            cases h
        | ok rest =>
            rw [hrest] at h
            cases h
            rw [List.filter_cons_of_neg (by simp [htitle])]
            exact companyRows_ok hrest
      · cases hrest : companyRows env sourceName path rows with
        | error e =>
            rw [hrest] at h
            cases h
        | ok rest =>
            rw [hrest] at h
            cases h
            obtain ⟨-, title, -, -, htitle, -⟩ := id hmade
            rw [List.filter_cons_of_pos (by simp [htitle])]
            exact .cons hmade (companyRows_ok hrest)
      · cases h

theorem companyRows_total {path : List Str} : ∀ {rows : List (CsvRow F × Nat)},
    (∀ row ∈ rows, (rowTitle env row.1).isSome = true → RowReads env row.1) →
      ∃ os, companyRows env sourceName path rows = .ok os
  | [], _ => ⟨[], rfl⟩
  | row :: rows, h => by
      obtain ⟨hfirst, hrest⟩ := List.forall_mem_cons.mp h
      obtain ⟨os, hos⟩ : ∃ os, companyRows env sourceName path rows = .ok os :=
        companyRows_total hrest
      unfold companyRows
      rcases companyRow_cases env sourceName path row with
        ⟨-, hrow⟩ | ⟨o, hrow, -⟩ | ⟨htitle, hnot, -⟩
      · exact ⟨os, by rw [hrow, hos]; rfl⟩
      · exact ⟨o :: os, by rw [hrow, hos]; rfl⟩
      · exact absurd (hfirst htitle) hnot

/-- The titled rows of a file. -/
def CsvFile.titled (env : CsvRuntime F) (file : CsvFile) : List (CsvFile × CsvRow F × Nat) :=
  ((dictRows file.records.1).filter fun row => (rowTitle env row.1).isSome).map (file, ·)

theorem companyFiles_ok : ∀ {files : List CsvFile} {os : List (CompanyObservation F)}
    {warnings : List Str}, companyFiles env sourceName files = .ok (os, warnings) →
      List.Forall₂ (fun x => Made env sourceName x.1.path x.2) (files.flatMap (·.titled env)) os
  | [], os, warnings, h => by
      cases h
      exact .nil
  | file :: files, os, warnings, h => by
      unfold companyFiles companyFile at h
      cases hrows : companyRows env sourceName file.path (dictRows file.records.1) with
      | error e =>
          rw [hrows] at h
          cases h
      | ok first =>
          cases hrest : companyFiles env sourceName files with
          | error e =>
              rw [hrows, hrest] at h
              cases h
          | ok rest =>
              rw [hrows, hrest] at h
              cases h
              have hfirst : List.Forall₂ (fun x => Made env sourceName x.1.path x.2)
                  (file.titled env) first :=
                List.forall₂_map_left_iff.mpr (companyRows_ok hrows)
              exact List.rel_append hfirst (companyFiles_ok hrest)

theorem companyFiles_total : ∀ {files : List CsvFile},
    (∀ x ∈ files.flatMap (·.titled env), RowReads env x.2.1) →
      ∃ os warnings, companyFiles env sourceName files = .ok (os, warnings)
  | [], _ => ⟨[], [], rfl⟩
  | file :: files, h => by
      rw [List.flatMap_cons] at h
      obtain ⟨hfile, hfiles⟩ := List.forall_mem_append.mp h
      have hrows : ∀ row ∈ dictRows file.records.1, (rowTitle env row.1).isSome = true →
          RowReads env row.1 := fun row hrow htitle =>
        hfile (file, row) (List.mem_map_of_mem (List.mem_filter.mpr ⟨hrow, htitle⟩))
      obtain ⟨os, hos⟩ : ∃ os, companyRows env sourceName file.path (dictRows file.records.1)
          = .ok os := companyRows_total hrows
      obtain ⟨rest, warnings, hrest⟩ : ∃ os warnings, companyFiles env sourceName files
          = .ok (os, warnings) := companyFiles_total hfiles
      exact ⟨_, _, by unfold companyFiles companyFile; rw [hos, hrest]; rfl⟩

/-- What two relations say of the same rows and observations. -/
theorem exists_both {α β : Type*} {R S : α → β → Prop} {xs : List α} {ys : List β}
    (hR : List.Forall₂ R xs ys) (hS : List.Forall₂ S xs ys) : ∀ x ∈ xs, ∃ y, R x y ∧ S x y := by
  induction hR with
  | nil => nofun
  | cons hxy _ ih =>
      cases hS with
      | cons hxy' hS => exact List.forall_mem_cons.mpr ⟨⟨_, hxy, hxy'⟩, ih hS⟩

/-- The titled rows are all observed exactly where each has no more cells than
its header, an id that `int` takes if it is one of digits, and numbers that are
finite. -/
theorem companies_observed_iff (env : CsvRuntime F) (sourceName : Str) (files : List CsvFile) :
    AllObserved env sourceName files ↔ ∀ x ∈ titledRows env files, RowFits env x.2.1 := by
  constructor
  · rintro ⟨os, warnings, hparse, hobserved⟩ x hx
    obtain ⟨o, ⟨hreads, title, key, text, -, rfl⟩, hobserves⟩ :=
      exists_both (companyFiles_ok hparse) hobserved x hx
    exact ⟨hreads, hobserves.acceptance, hobserves.frequency⟩
  · intro h
    obtain ⟨os, warnings, hparse⟩ : ∃ os warnings, companyFiles env sourceName (sortedFiles files)
        = .ok (os, warnings) := companyFiles_total fun x hx => (h x hx).toRowReads
    refine ⟨os, warnings, hparse, ?_⟩
    have hmade := companyFiles_ok hparse
    refine List.Forall₂.imp ?_ ((List.forall₂_and_left _ _).mpr ⟨h, hmade⟩)
    rintro x o ⟨hfits, -, title, key, text, htitle, rfl⟩
    exact ⟨rfl, rfl, by rw [htitle]; rfl, hfits.acceptance, hfits.frequency⟩

end Reading

end Rows

/-! ## A row with one cell too many -/

/-- An interpreter for texts of small ASCII letters. -/
def plainRuntime : CsvRuntime NanoFloat where
  casefold text := text
  capitalize text := text
  readFloat _ := none
  sha256 text := text
  casefold_visible _ h := h

def raggedFile : CsvFile := ⟨["companies.csv"], .ok "title
sum,more
"⟩

theorem raggedFile_raises : parseCompanyCsvs plainRuntime "source" [raggedFile] = .error .keyOrder
    ∧ ¬AllObserved plainRuntime "source" [raggedFile] := by
  have hparse : parseCompanyCsvs plainRuntime "source" [raggedFile] = .error .keyOrder := by
    rfl
  refine ⟨hparse, ?_⟩
  rintro ⟨os, warnings, hok, -⟩
  rw [hparse] at hok
  cases hok

end Rigor.Knowledge
