import Rigor.KnowledgeBank
import Rigor.Results
import Rigor.Runs

/-!
# Rights in the knowledge bank

The importer gives a new problem the status of its record's disposition, and
merges the text of any later record into it; a publication asks for one
hostable source. What candidates are served may be hosted as long as no upload
writes another text into a row that they see or takes the licence of
a solution that they see, and no publication shows one (`rights_safe`).
-/

namespace Rigor.Knowledge

open Py Runs

variable {F : Type}

/-! ## What is served -/

def Problem.texts (p : Problem) : List SourcedText := p.summary.toList ++ p.description.toList

def Solution.texts (s : Solution) : List SourcedText := s.sourceCode :: s.explanation.toList

/-- The sources that a solution comes from: of its file and of its texts. -/
def Solution.sources (s : Solution) : List Str :=
  s.file.sourceName :: s.texts.map SourcedText.sourceName

/-- What candidates are served may be hosted. -/
structure RightsSafe (c : Corpus F) (bank : KnowledgeBank) : Prop where
  problem : ∀ slug p, getProblem slug bank = .ok p →
    ∀ t ∈ p.texts, t.disposition = .hostableLicensed
  systemDesign : ∀ slug a, getSystemDesign slug bank = .ok a →
    a.body.disposition = .hostableLicensed
  solutions : ∀ slug language, ∀ s ∈ problemSolutions c slug language bank, ∀ name ∈ s.sources,
    bank.disposition name = some .hostableLicensed

/-- Candidates are served the text. -/
inductive Shows (c : Corpus F) (bank : KnowledgeBank) (t : SourcedText) : Prop where
  | problem (slug : Str) (p : Problem) (h : getProblem slug bank = .ok p) (ht : t ∈ p.texts)
  | systemDesign (slug : Str) (a : Article) (h : getSystemDesign slug bank = .ok a) (ht : t = a.body)
  | solution (slug : Str) (language : Option Str) (s : Solution)
      (h : s ∈ problemSolutions c slug language bank) (ht : t ∈ s.texts)

/-! ## Runs -/

inductive BankAction (F : Type) where
  | commit (payload : Members F)
  | rollBack (payload : Members F) (dryRun : Bool)
  | publish (canonicalKey : Str)

/-- An import that is committed or not, or a publication. -/
inductive BankStep [Runtime F] (c : Corpus F) :
    KnowledgeBank → BankAction F → KnowledgeBank → Prop where
  | commit {bank bank' : KnowledgeBank} {payload : Members F}
      (h : importKnowledgePayload c payload false bank = (bank', .ok .completed)) :
      BankStep c bank (.commit payload) bank'
  | rollBack {bank bank' : KnowledgeBank} {payload : Members F} {dryRun : Bool}
      {r : Except KnowledgeFailure ImportReport}
      (h : importKnowledgePayload c payload dryRun bank = (bank', r)) (hr : r ≠ .ok .completed) :
      BankStep c bank (.rollBack payload dryRun) bank'
  | publish {bank bank' : KnowledgeBank} {canonicalKey : Str}
      (h : publishProblem canonicalKey bank = .ok bank') :
      BankStep c bank (.publish canonicalKey) bank'

/-! ## When a step keeps rights -/

/-- The solutions that the entries upsert. -/
def pendingKeys (c : Corpus F) (default : SourceDisposition) (entries : Entries F) :
    List SolutionKey :=
  entries.filterMap fun entry =>
    match readRecord c default entry.1 entry.2 with
    | .ok (.solution r) => some r.key
    | _ => none

/-- No approved solution loses the licence of its source, unless it is
upserted again. -/
def EnsureSafe (sourceName : Str) (d : SourceDisposition) (pending : List SolutionKey)
    (i : Importer) : Prop :=
  sourceName ∉ i.sourceIds → d ≠ .hostableLicensed → ∀ s ∈ i.bank.solutions,
    s.reviewStatus = .approved → sourceName ∈ s.sources → s.key ∈ pending

/-- The description may be hosted, or it goes into no row that candidates see. -/
def DescribeSafe (r : ProblemRecord) (i : Importer) : Prop :=
  r.disposition ≠ .hostableLicensed → r.description ≠ none →
    (i.bank.problem r.canonicalKey = none → ¬(publicationState r.disposition).1.Visible)
      ∧ ∀ row ∈ i.bank.problems, row.canonicalKey = r.canonicalKey →
        row.publicationStatus.Visible →
          descriptionLength (r.description.map r.sourced) ≤ descriptionLength row.description

def ProblemSafe (r : ProblemRecord) (pending : List SolutionKey) (i : Importer) : Prop :=
  DescribeSafe r i ∧ EnsureSafe r.sourceName r.disposition pending i

def RecordSafe (c : Corpus F) (default : SourceDisposition) (pending : List SolutionKey)
    (i : Importer) : KnowledgeRecord → Prop
  | .file r => EnsureSafe r.sourceName default pending i
  | .problem r => ProblemSafe r pending i
  | .solution r => EnsureSafe r.sourceName r.disposition pending i
  | .company key stub file =>
      (key ∉ i.problemIds → ∀ r, stub = .ok r → ProblemSafe r pending i)
        ∧ ∀ i', i.companyProblem c key stub = .ok i' →
          EnsureSafe file.sourceName default pending i'
  | .systemDesign r => EnsureSafe r.sourceName r.disposition pending i
  | .resource r d => EnsureSafe r.sourceName d pending i

/-- Every record keeps rights in the state in which it is reached. -/
def EntriesSafe (c : Corpus F) (default : SourceDisposition) : Entries F → Importer → Prop
  | [], _ => True
  | entry :: rest, i => ∀ record, readRecord c default entry.1 entry.2 = .ok record →
      RecordSafe c default (pendingKeys c default (entry :: rest)) i record
        ∧ ∀ i', i.upsert c default record = .ok i' → EntriesSafe c default rest i'

/-- The importer behind its first sources. -/
def openImporter [Runtime F] (c : Corpus F) (default : SourceDisposition) (payload : Members F)
    (entries : Entries F) (bank : KnowledgeBank) : Importer :=
  (sourceNames c payload entries).foldl (fun i name => i.ensureSource name default)
    ((Importer.mk bank [] []).ensureSource (payloadSource c payload) default)

def PayloadSafe [Runtime F] (c : Corpus F) (payload : Members F) (bank : KnowledgeBank) : Prop :=
  ∀ default entries, readDisposition .rightsReviewRequired payload = .ok default →
    payloadEntries payload = .ok entries →
      (∀ name ∈ payloadSource c payload :: sourceNames c payload entries,
        EnsureSafe name default (pendingKeys c default entries) ⟨bank, [], []⟩)
      ∧ EntriesSafe c default entries (openImporter c default payload entries bank)

/-- All that the publication shows may be hosted. -/
def PublishSafe (canonicalKey : Str) (bank : KnowledgeBank) : Prop :=
  (∀ p ∈ bank.problems, p.canonicalKey = canonicalKey →
    ∀ t ∈ p.texts, t.disposition = .hostableLicensed)
  ∧ ∀ s ∈ bank.solutions, bank.Approves canonicalKey s → ∀ name ∈ s.sources,
    bank.disposition name = some .hostableLicensed

/-- The condition on a transition, on its action and the bank before it. -/
def RightsKept [Runtime F] (c : Corpus F) (x : Taken KnowledgeBank (BankAction F)) : Prop :=
  match x.label with
  | .commit payload => PayloadSafe c payload x.source
  | .rollBack _ _ => True
  | .publish canonicalKey => PublishSafe canonicalKey x.source

/-! ## The invariant -/

/-- The rows that candidates see may be hosted, but for the approved
solutions that are yet to be upserted. -/
structure BankSafe (pending : List SolutionKey) (bank : KnowledgeBank) : Prop where
  problems : ∀ p ∈ bank.problems, p.publicationStatus.Visible →
    ∀ t ∈ p.texts, t.disposition = .hostableLicensed
  articles : ∀ a ∈ bank.articles, a.publicationStatus ≠ .published
  solutions : ∀ s ∈ bank.solutions, s.reviewStatus = .approved →
    s.key ∈ pending ∨ ∀ name ∈ s.sources, bank.disposition name = some .hostableLicensed

/-- An import approves and publishes nothing. -/
structure Quiet (bank bank' : KnowledgeBank) : Prop where
  solutions : ∀ s ∈ bank'.solutions, s.reviewStatus = .approved → s ∈ bank.solutions
  problems : ∀ p ∈ bank'.problems, p.publicationStatus = .published →
    ∃ p₀ ∈ bank.problems, p₀.canonicalKey = p.canonicalKey ∧ p₀.slug = p.slug
      ∧ p₀.publicationStatus = .published

theorem Quiet.refl (bank : KnowledgeBank) : Quiet bank bank :=
  ⟨fun _ hs _ => hs, fun p hp hpublished => ⟨p, hp, rfl, rfl, hpublished⟩⟩

theorem Quiet.trans {bank₁ bank₂ bank₃ : KnowledgeBank} (h : Quiet bank₁ bank₂)
    (h' : Quiet bank₂ bank₃) : Quiet bank₁ bank₃ where
  solutions s hs happroved := h.solutions s (h'.solutions s hs happroved) happroved
  problems p hp hpublished := by
    obtain ⟨p₂, hp₂, hkey₂, hslug₂, hpublished₂⟩ := h'.problems p hp hpublished
    obtain ⟨p₁, hp₁, hkey₁, hslug₁, hpublished₁⟩ := h.problems p₂ hp₂ hpublished₂
    exact ⟨p₁, hp₁, hkey₁.trans hkey₂, hslug₁.trans hslug₂, hpublished₁⟩

/-- What an upsert makes of the importer. -/
structure Kept (pending : List SolutionKey) (i i' : Importer) : Prop where
  safe : BankSafe pending i'.bank
  quiet : Quiet i.bank i'.bank

theorem publicationState_quiet (d : SourceDisposition) :
    (publicationState d).1 ≠ .published ∧ (publicationState d).2 ≠ .approved := by
  cases d <;> exact ⟨nofun, nofun⟩

section

variable {c : Corpus F} {pending : List SolutionKey} {i i' : Importer} {bank : KnowledgeBank}
  {default d : SourceDisposition} {name : Str}

theorem ensureSource_disposition (name : Str) (d : SourceDisposition) (i : Importer) (other : Str) :
    (i.ensureSource name d).bank.disposition other
      = if name ∉ i.sourceIds ∧ other = name then some d else i.bank.disposition other := by
  unfold Importer.ensureSource
  by_cases hcached : name ∈ i.sourceIds
  · rw [if_pos hcached, if_neg fun h => h.1 hcached]
  rw [if_neg hcached]
  simp only [hcached, not_false_eq_true, true_and]
  unfold KnowledgeBank.disposition
  dsimp only
  by_cases hstored : name ∈ i.bank.sources.map KnowledgeSource.sourceName
  · have hkey (s : KnowledgeSource) :
        ({ s with disposition := d } : KnowledgeSource).sourceName = s.sourceName := rfl
    rw [if_pos hstored, Tables.find_update hkey, Option.map_map]
    by_cases hname : other = name
    · subst hname
      obtain ⟨s, hs, rfl⟩ := List.mem_map.mp hstored
      obtain ⟨found, hfound⟩ := Tables.find_isSome_of_mem KnowledgeSource.sourceName hs
      rw [hfound, if_pos rfl, Option.map_some, Function.comp, if_pos (Tables.key_of_find hfound)]
    · rw [if_neg hname]
      cases hfound : Tables.find KnowledgeSource.sourceName other i.bank.sources with
      | none => rfl
      | some found =>
          rw [Option.map_some, Function.comp, if_neg, Option.map_some]
          rw [Tables.key_of_find hfound]
          exact hname
  · rw [if_neg hstored]
    unfold Tables.find
    rw [List.find?_append, List.find?_singleton]
    by_cases hname : other = name
    · subst hname
      have hnone : i.bank.sources.find? (fun s => decide (s.sourceName = other)) = none := by
        refine List.find?_eq_none.mpr fun s hs heq => hstored ?_
        exact of_decide_eq_true heq ▸ List.mem_map_of_mem hs
      rw [hnone, if_pos rfl]
      simp
    · rw [if_neg hname, if_neg, Option.or_none]
      simpa using fun h => hname h.symm

theorem ensureSource_rows (name : Str) (d : SourceDisposition) (i : Importer) :
    (i.ensureSource name d).bank = { i.bank with sources := (i.ensureSource name d).bank.sources } := by
  unfold Importer.ensureSource
  split_ifs <;> rfl

/-- The other tables are left alone. -/
theorem ensureFile_rows (file : SourceFile) (d : SourceDisposition) (i : Importer) :
    ∃ sources files, (i.ensureFile file d).bank = { i.bank with sources := sources, files := files }
      ∧ (i.ensureFile file d).problemIds = i.problemIds
      ∧ ∀ other, (i.ensureFile file d).bank.disposition other
        = (i.ensureSource file.sourceName d).bank.disposition other := by
  refine ⟨(i.ensureSource file.sourceName d).bank.sources, (i.ensureFile file d).bank.files, ?_, ?_,
    fun _ => rfl⟩
  · unfold Importer.ensureFile
    dsimp only
    rw [ensureSource_rows]
  · unfold Importer.ensureFile Importer.ensureSource
    split_ifs <;> rfl

theorem BankSafe.ensured {bank' : KnowledgeBank} (h : BankSafe pending i.bank)
    (hensure : EnsureSafe name d pending i) (hproblems : bank'.problems = i.bank.problems)
    (harticles : bank'.articles = i.bank.articles)
    (hsolutions : bank'.solutions = i.bank.solutions)
    (hdisposition : ∀ other, bank'.disposition other
      = (i.ensureSource name d).bank.disposition other) : BankSafe pending bank' where
  problems := hproblems ▸ h.problems
  articles := harticles ▸ h.articles
  solutions s hs happroved := by
    rw [hsolutions] at hs
    rcases h.solutions s hs happroved with hpending | hlicensed
    · exact .inl hpending
    by_cases hnew : name ∉ i.sourceIds ∧ d ≠ .hostableLicensed ∧ name ∈ s.sources
    · exact .inl (hensure hnew.1 hnew.2.1 s hs happroved hnew.2.2)
    refine .inr fun other hother => ?_
    rw [hdisposition, ensureSource_disposition]
    split_ifs with hset
    · obtain ⟨hcached, rfl⟩ := hset
      by_contra hd
      exact hnew ⟨hcached, fun hd' => hd (congrArg some hd'), hother⟩
    · exact hlicensed other hother

theorem Quiet.of_rows {bank' : KnowledgeBank} (hproblems : bank'.problems = bank.problems)
    (hsolutions : bank'.solutions = bank.solutions) : Quiet bank bank' where
  solutions _ hs _ := hsolutions ▸ hs
  problems p hp hpublished := ⟨p, hproblems ▸ hp, rfl, rfl, hpublished⟩

theorem Kept.ensureSource (h : BankSafe pending i.bank) (hensure : EnsureSafe name d pending i) :
    Kept pending i (i.ensureSource name d) := by
  have hrows := ensureSource_rows name d i
  refine ⟨h.ensured hensure ?_ ?_ ?_ fun _ => rfl, Quiet.of_rows ?_ ?_⟩ <;> rw [hrows]

theorem Kept.ensureFile {file : SourceFile} (h : BankSafe pending i.bank)
    (hensure : EnsureSafe file.sourceName d pending i) : Kept pending i (i.ensureFile file d) := by
  obtain ⟨sources, files, hrows, -, hdisposition⟩ := ensureFile_rows file d i
  refine ⟨h.ensured hensure ?_ ?_ ?_ hdisposition, Quiet.of_rows ?_ ?_⟩ <;> rw [hrows]

/-! ## Problems -/

/-- What stands in the row after a merge stood there before, or may be hosted. -/
theorem ProblemRecord.merge_safe {r : ProblemRecord} {row : Problem}
    (hsafe : DescribeSafe r i) (hrow : row ∈ i.bank.problems) (hkey : row.canonicalKey = r.canonicalKey)
    (hvisible : row.publicationStatus.Visible)
    (htexts : ∀ t ∈ row.texts, t.disposition = .hostableLicensed) :
    ∀ t ∈ (r.merge row).texts, t.disposition = .hostableLicensed := by
  intro t ht
  have hstored (ht : t ∈ row.summary.toList ++ row.description.toList) :
      t.disposition = .hostableLicensed := htexts t ht
  rcases List.mem_append.mp ht with hsummary | hdescription
  · exact hstored (List.mem_append_left _ hsummary)
  · have ht : t ∈ (r.describe row.description).toList := hdescription
    unfold ProblemRecord.describe at ht
    split_ifs at ht with hlonger
    · obtain ⟨text, htext, rfl⟩ := Option.map_eq_some_iff.mp (Option.mem_toList.mp ht)
      by_contra hd
      have hshort := (hsafe hd (by rw [htext]; exact nofun)).2 row hrow hkey hvisible
      exact absurd hlonger (Nat.not_lt.mpr hshort)
    · exact hstored (List.mem_append_right _ ht)

theorem ProblemRecord.row_safe {r : ProblemRecord} (hsafe : DescribeSafe r i)
    (hnone : i.bank.problem r.canonicalKey = none) (hvisible : r.row.publicationStatus.Visible) :
    ∀ t ∈ r.row.texts, t.disposition = .hostableLicensed := by
  intro t ht
  by_contra hd
  cases hdescription : r.description with
  | none =>
      unfold Problem.texts ProblemRecord.row at ht
      rw [hdescription] at ht
      cases ht
  | some text =>
      have hmem : t.disposition = r.disposition := by
        unfold Problem.texts ProblemRecord.row at ht
        rw [hdescription] at ht
        rcases List.mem_append.mp ht with ht | ht <;>
          rw [List.mem_singleton.mp ht] <;> rfl
      rw [hmem] at hd
      exact (hsafe hd (by rw [hdescription]; exact nofun)).1 hnone hvisible

theorem writeProblem_kept {r : ProblemRecord} (h : BankSafe pending i.bank)
    (hsafe : DescribeSafe r i) (hwrite : i.bank.writeProblem r = .ok bank) :
    BankSafe pending bank ∧ Quiet i.bank bank ∧ bank.solutions = i.bank.solutions := by
  unfold KnowledgeBank.writeProblem at hwrite
  split at hwrite
  · cases hwrite
    refine ⟨⟨fun p hp hvisible => ?_, h.articles, h.solutions⟩, ⟨fun s hs _ => hs, ?_⟩, rfl⟩
    · rcases Tables.mem_update hp with ⟨hp, -⟩ | ⟨row, hrow, hkey, rfl⟩
      · exact h.problems p hp hvisible
      · exact r.merge_safe hsafe hrow hkey hvisible (h.problems row hrow hvisible)
    · intro p hp hpublished
      rcases Tables.mem_update hp with ⟨hp, -⟩ | ⟨row, hrow, -, rfl⟩
      · exact ⟨p, hp, rfl, rfl, hpublished⟩
      · exact ⟨row, hrow, rfl, rfl, hpublished⟩
  · rename_i hnone
    split_ifs at hwrite
    cases hwrite
    refine ⟨⟨fun p hp hvisible => ?_, h.articles, h.solutions⟩, ⟨fun s hs _ => hs, ?_⟩, rfl⟩
    · rcases List.mem_append.mp hp with hp | hp
      · exact h.problems p hp hvisible
      · rw [List.mem_singleton.mp hp] at hvisible ⊢
        exact r.row_safe hsafe hnone hvisible
    · intro p hp hpublished
      rcases List.mem_append.mp hp with hp | hp
      · exact ⟨p, hp, rfl, rfl, hpublished⟩
      · rw [List.mem_singleton.mp hp] at hpublished
        exact absurd hpublished (publicationState_quiet r.disposition).1

theorem upsertProblem_kept {r : ProblemRecord} (h : BankSafe pending i.bank)
    (hsafe : ProblemSafe r pending i) (hupsert : i.upsertProblem c r = .ok i') :
    Kept pending i i' := by
  unfold Importer.upsertProblem at hupsert
  split at hupsert
  · cases hupsert
  obtain ⟨bank, hwrite, hupsert⟩ := bind_eq_ok hupsert
  cases hupsert
  obtain ⟨hbank, hquiet, hsolutions⟩ := writeProblem_kept h hsafe.1 hwrite
  -- the file of the record is ensured behind its row
  have hensure : EnsureSafe r.file.sourceName r.disposition pending
      ⟨bank, i.sourceIds, r.canonicalKey :: i.problemIds⟩ := by
    intro hcached hd s hs
    exact hsafe.2 hcached hd s (hsolutions ▸ hs)
  obtain ⟨hkept, hkeptQuiet⟩ := @Kept.ensureFile pending
    ⟨bank, i.sourceIds, r.canonicalKey :: i.problemIds⟩ r.disposition r.file hbank hensure
  exact ⟨⟨hkept.problems, hkept.articles, hkept.solutions⟩,
    hquiet.trans ⟨hkeptQuiet.solutions, hkeptQuiet.problems⟩⟩

/-! ## Solutions and articles -/

/-- A row of the key is not approved behind the upsert. -/
theorem solutions_kept {r : SolutionRecord} {ensured : Importer} {rows : List Solution}
    (hsafe : BankSafe (r.key :: pending) ensured.bank) (hquiet : Quiet i.bank ensured.bank)
    (hrows : ∀ s ∈ rows, s.reviewStatus = .approved →
      s ∈ ensured.bank.solutions ∧ s.key ≠ r.key) :
    Kept pending i { ensured with
      bank := { ensured.bank with solutions := rows }.updateProblem r.canonicalKey
        (Problem.speak r.language) } := by
  refine ⟨⟨fun p hp hvisible => ?_, hsafe.articles, fun s hs happroved => ?_⟩, ⟨?_, ?_⟩⟩
  · rcases Tables.mem_update hp with ⟨hp, -⟩ | ⟨row, hrow, -, rfl⟩
    · exact hsafe.problems p hp hvisible
    · exact hsafe.problems row hrow hvisible
  · obtain ⟨hmem, hkey⟩ := hrows s hs happroved
    refine (hsafe.solutions s hmem happroved).imp_left fun hpending => ?_
    exact (List.mem_cons.mp hpending).resolve_left hkey
  · exact fun s hs happroved => hquiet.solutions s (hrows s hs happroved).1 happroved
  · intro p hp hpublished
    rcases Tables.mem_update hp with ⟨hp, -⟩ | ⟨row, hrow, -, rfl⟩
    · exact hquiet.problems p hp hpublished
    · exact hquiet.problems row hrow hpublished

theorem upsertSolution_kept {r : SolutionRecord} (h : BankSafe (r.key :: pending) i.bank)
    (hsafe : EnsureSafe r.sourceName r.disposition (r.key :: pending) i)
    (hupsert : i.upsertSolution c r = .ok i') : Kept pending i i' := by
  unfold Importer.upsertSolution at hupsert
  obtain ⟨known, hknown, hupsert⟩ := bind_eq_ok hupsert
  have hsame : known.bank = i.bank ∧ known.sourceIds = i.sourceIds := by
    unfold Importer.problemId at hknown
    split at hknown
    · cases hknown
      exact ⟨rfl, rfl⟩
    · split at hknown
      · cases hknown
      · cases hknown
        exact ⟨rfl, rfl⟩
  split_ifs at hupsert
  obtain ⟨hsafe', hquiet⟩ : Kept (r.key :: pending) known (known.ensureFile r.file r.disposition) := by
    refine Kept.ensureFile (hsame.1 ▸ h) fun hcached hd s hs => ?_
    rw [hsame.1] at hs
    exact hsafe (hsame.2 ▸ hcached) hd s hs
  rw [hsame.1] at hquiet
  cases hupsert
  generalize hensured : known.ensureFile r.file r.disposition = ensured at hsafe' hquiet
  have hreview := (publicationState_quiet r.disposition).2
  refine solutions_kept hsafe' hquiet fun s hs happroved => ?_
  split at hs
  · rcases Tables.mem_update hs with hs | ⟨row, -, -, rfl⟩
    · exact hs
    · exact absurd happroved hreview
  · rename_i hnone
    rcases List.mem_append.mp hs with hs | hs
    · refine ⟨hs, fun hkey => ?_⟩
      exact List.find?_eq_none.mp hnone s hs (decide_eq_true hkey)
    · rw [List.mem_singleton.mp hs] at happroved
      exact absurd happroved hreview

theorem upsertSystemDesign_kept {r : ArticleRecord} (h : BankSafe pending i.bank)
    (hsafe : EnsureSafe r.sourceName r.disposition pending i)
    (hupsert : i.upsertSystemDesign c r = .ok i') : Kept pending i i' := by
  unfold Importer.upsertSystemDesign at hupsert
  split_ifs at hupsert
  obtain ⟨hsafe', hquiet⟩ : Kept pending i (i.ensureFile r.file r.disposition) :=
    Kept.ensureFile h hsafe
  cases hupsert
  refine ⟨⟨hsafe'.problems, fun a ha => ?_, hsafe'.solutions⟩, ⟨hquiet.solutions, hquiet.problems⟩⟩
  dsimp only at ha
  split at ha
  · rcases Tables.mem_update ha with ⟨ha, -⟩ | ⟨row, hrow, -, rfl⟩
    · exact hsafe'.articles a ha
    · exact hsafe'.articles row hrow
  · rcases List.mem_append.mp ha with ha | ha
    · exact hsafe'.articles a ha
    · rw [List.mem_singleton.mp ha]
      exact (publicationState_quiet r.disposition).1

theorem upsertFile_kept {record : KnowledgeRecord} {file : FileRecord} (h : BankSafe pending i.bank)
    (hsafe : EnsureSafe file.sourceName d pending i)
    (hupsert : i.upsertFile c record file d = .ok i') : Kept pending i i' := by
  unfold Importer.upsertFile at hupsert
  split_ifs at hupsert
  cases hupsert
  exact Kept.ensureFile h hsafe

theorem companyProblem_kept {key : Str} {stub : Except KnowledgeFailure ProblemRecord}
    (h : BankSafe pending i.bank)
    (hsafe : key ∉ i.problemIds → ∀ r, stub = .ok r → ProblemSafe r pending i)
    (hupsert : i.companyProblem c key stub = .ok i') : Kept pending i i' := by
  unfold Importer.companyProblem at hupsert
  split_ifs at hupsert with hknown
  · cases hupsert
    exact ⟨h, Quiet.refl _⟩
  · obtain ⟨r, hstub, hupsert⟩ := bind_eq_ok hupsert
    exact upsertProblem_kept h (hsafe hknown r hstub) hupsert

/-! ## An import -/

theorem upsert_kept {entry : RecordLabel × Members F} {rest : Entries F} {record : KnowledgeRecord}
    (hread : readRecord c default entry.1 entry.2 = .ok record)
    (h : BankSafe (pendingKeys c default (entry :: rest)) i.bank)
    (hsafe : RecordSafe c default (pendingKeys c default (entry :: rest)) i record)
    (hupsert : i.upsert c default record = .ok i') : Kept (pendingKeys c default rest) i i' := by
  unfold pendingKeys at h hsafe
  rw [List.filterMap_cons, hread] at h hsafe
  cases record with
  | file r => exact upsertFile_kept h hsafe hupsert
  | problem r => exact upsertProblem_kept h hsafe hupsert
  | solution r => exact upsertSolution_kept h hsafe hupsert
  | company key stub file =>
      obtain ⟨hproblem, hfile⟩ := hsafe
      obtain ⟨known, hknown, hupsert⟩ := bind_eq_ok hupsert
      have hkept := companyProblem_kept h hproblem hknown
      have hkept' := upsertFile_kept hkept.safe (hfile known hknown) hupsert
      exact ⟨hkept'.safe, hkept.quiet.trans hkept'.quiet⟩
  | systemDesign r => exact upsertSystemDesign_kept h hsafe hupsert
  | resource r d => exact upsertFile_kept h hsafe hupsert

theorem importEntries_kept {entries : Entries F}
    (h : BankSafe (pendingKeys c default entries) i.bank) (hsafe : EntriesSafe c default entries i)
    (himport : importEntries c default entries i = .ok i') : Kept [] i i' := by
  induction entries generalizing i with
  | nil =>
      cases himport
      exact ⟨h, Quiet.refl _⟩
  | cons entry rest ih =>
      unfold importEntries at himport
      obtain ⟨record, hread, himport⟩ := bind_eq_ok himport
      obtain ⟨i₁, hupsert, himport⟩ := bind_eq_ok himport
      obtain ⟨hrecord, hrest⟩ := hsafe record hread
      have hkept := upsert_kept hread h hrecord hupsert
      have hkept' := ih hkept.safe (hrest i₁ hupsert) himport
      exact ⟨hkept'.safe, hkept.quiet.trans hkept'.quiet⟩

theorem foldl_ensureSource_kept {names : List Str} (h : BankSafe pending i.bank)
    (hsolutions : i.bank.solutions = bank.solutions)
    (hsafe : ∀ name ∈ names, EnsureSafe name default pending ⟨bank, [], []⟩) :
    Kept pending i (names.foldl (fun i name => i.ensureSource name default) i) := by
  induction names generalizing i with
  | nil => exact ⟨h, Quiet.refl _⟩
  | cons name names ih =>
      obtain ⟨hfirst, hrest⟩ := List.forall_mem_cons.mp hsafe
      have hkept : Kept pending i (i.ensureSource name default) :=
        Kept.ensureSource h fun _ hd s hs => hfirst List.not_mem_nil hd s (hsolutions ▸ hs)
      have hsame : (i.ensureSource name default).bank.solutions = bank.solutions := by
        rw [ensureSource_rows]
        exact hsolutions
      have hkept' := ih hkept.safe hsame hrest
      exact ⟨hkept'.safe, hkept.quiet.trans hkept'.quiet⟩

theorem BankSafe.weaken (h : BankSafe [] bank) : BankSafe pending bank where
  problems := h.problems
  articles := h.articles
  solutions s hs happroved :=
    .inr ((h.solutions s hs happroved).resolve_left List.not_mem_nil)

end

section

variable [Runtime F] {c : Corpus F} {payload : Members F} {bank bank' : KnowledgeBank}

/-- What a committed import has gone through. -/
theorem importKnowledgePayload_completed {dryRun : Bool}
    (h : importKnowledgePayload c payload dryRun bank = (bank', .ok .completed)) :
    ∃ default entries i, readDisposition .rightsReviewRequired payload = .ok default
      ∧ payloadEntries payload = .ok entries
      ∧ importEntries c default entries (openImporter c default payload entries bank) = .ok i
      ∧ bank' = { i.bank with
        completed := (payloadSource c payload, c.corpusHash payload) :: i.bank.completed } := by
  unfold importKnowledgePayload at h
  split at h
  · cases h
  rename_i default hdefault
  dsimp only at h
  split at h
  · cases h
  split at h
  · cases h
  rename_i i himport
  obtain ⟨entries, hentries, himport⟩ := bind_eq_ok himport
  split at h
  · cases h
  cases h
  exact ⟨default, entries, i, hdefault, hentries, himport, rfl⟩

/-- An import that is not completed leaves the bank as it was. -/
theorem importKnowledgePayload_rolledBack {dryRun : Bool}
    {r : Except KnowledgeFailure ImportReport}
    (h : importKnowledgePayload c payload dryRun bank = (bank', r)) (hr : r ≠ .ok .completed) :
    bank' = bank := by
  unfold importKnowledgePayload at h
  split at h
  · cases h
    rfl
  dsimp only at h
  split at h
  · cases h
    rfl
  split at h
  · cases h
    rfl
  split at h
  · cases h
    rfl
  · cases h
    exact absurd rfl hr

theorem commit_kept (h : BankSafe [] bank) (hsafe : PayloadSafe c payload bank)
    (himport : importKnowledgePayload c payload false bank = (bank', .ok .completed)) :
    BankSafe [] bank' ∧ Quiet bank bank' := by
  obtain ⟨default, entries, i, hdefault, hentries, hloop, rfl⟩ :=
    importKnowledgePayload_completed himport
  obtain ⟨hnames, hrecords⟩ := hsafe default entries hdefault hentries
  have hopened : Kept (pendingKeys c default entries) ⟨bank, [], []⟩
      (openImporter c default payload entries bank) :=
    @foldl_ensureSource_kept _ ⟨bank, [], []⟩ bank default _ h.weaken rfl hnames
  have hlast := importEntries_kept hopened.safe hrecords hloop
  refine ⟨⟨hlast.safe.problems, hlast.safe.articles, hlast.safe.solutions⟩, ?_⟩
  exact hopened.quiet.trans ⟨hlast.quiet.solutions, hlast.quiet.problems⟩

theorem publish_kept {canonicalKey : Str} (h : BankSafe [] bank)
    (hsafe : PublishSafe canonicalKey bank)
    (hpublish : publishProblem canonicalKey bank = .ok bank') : BankSafe [] bank' := by
  unfold publishProblem at hpublish
  split_ifs at hpublish
  split at hpublish
  · cases hpublish
  cases hpublish
  refine ⟨fun p hp hvisible => ?_, h.articles, fun s hs happroved => ?_⟩
  · rcases Tables.mem_update hp with ⟨hp, -⟩ | ⟨row, hrow, hkey, rfl⟩
    · exact h.problems p hp hvisible
    · exact hsafe.1 row hrow hkey
  · obtain ⟨row, hrow, rfl⟩ := List.mem_map.mp hs
    right
    dsimp only at happroved ⊢
    by_cases hmatch : bank.Approves canonicalKey row
    · rw [if_pos hmatch]
      exact hsafe.2 row hrow hmatch
    · rw [if_neg hmatch] at happroved ⊢
      exact (h.solutions row hrow happroved).resolve_left List.not_mem_nil

end

/-! ## What candidates see -/

section

variable {c : Corpus F} {bank bank' : KnowledgeBank}

theorem getProblem_ok {slug : Str} {p : Problem} (h : getProblem slug bank = .ok p) :
    p ∈ bank.problems ∧ p.publicationStatus.Visible := by
  unfold getProblem at h
  split at h
  · cases h
  · rename_i hfound
    cases h
    obtain ⟨hfind, hvisible⟩ := Option.filter_eq_some_iff.mp hfound
    exact ⟨Tables.mem_of_find hfind, (of_decide_eq_true hvisible).2⟩

theorem getSystemDesign_ok {slug : Str} {a : Article} (h : getSystemDesign slug bank = .ok a) :
    a ∈ bank.articles ∧ a.publicationStatus = .published := by
  unfold getSystemDesign at h
  split at h
  · cases h
  · rename_i hfound
    cases h
    obtain ⟨hfind, hpublished⟩ := Option.filter_eq_some_iff.mp hfound
    exact ⟨Tables.mem_of_find hfind, of_decide_eq_true hpublished⟩

theorem BankSafe.rightsSafe (h : BankSafe [] bank) : RightsSafe c bank where
  problem slug p hp := h.problems p (getProblem_ok hp).1 (getProblem_ok hp).2
  systemDesign slug a ha := absurd (getSystemDesign_ok ha).2 (h.articles a (getSystemDesign_ok ha).1)
  solutions slug language s hs := by
    obtain ⟨hmem, hserved⟩ := List.mem_filter.mp hs
    obtain ⟨-, happroved, -⟩ := of_decide_eq_true hserved
    exact (h.solutions s hmem happroved).resolve_left List.not_mem_nil

/-- A solution that is served behind an import was served before it. -/
theorem Quiet.problemSolutions (h : Quiet bank bank') {slug : Str} {language : Option Str}
    {s : Solution} (hs : s ∈ problemSolutions c slug language bank') :
    s ∈ problemSolutions c slug language bank := by
  obtain ⟨hmem, hserved⟩ := List.mem_filter.mp hs
  obtain ⟨⟨p, hp, hkey, hslug, hpublished⟩, happroved, hlanguage⟩ := of_decide_eq_true hserved
  obtain ⟨p₀, hp₀, hkey₀, hslug₀, hpublished₀⟩ := h.problems p hp hpublished
  refine List.mem_filter.mpr ⟨h.solutions s hmem happroved, decide_eq_true ?_⟩
  exact ⟨⟨p₀, hp₀, hkey₀.trans hkey, hslug₀.trans hslug, hpublished₀⟩, happroved, hlanguage⟩

/-- What an import shows may be hosted. -/
theorem Quiet.shows (h : Quiet bank bank') (hsafe : BankSafe [] bank') {t : SourcedText}
    (hshows : Shows c bank' t) (hnew : ¬Shows c bank t) : t.disposition = .hostableLicensed := by
  cases hshows with
  | problem slug p hp ht => exact (hsafe.rightsSafe (c := c)).problem slug p hp t ht
  | systemDesign slug a ha ht =>
      exact ht ▸ (hsafe.rightsSafe (c := c)).systemDesign slug a ha
  | solution slug language s hs ht =>
      exact absurd (.solution slug language s (h.problemSolutions hs) ht) hnew

end

/-! ## Runs -/

section

variable [Runtime F] {c : Corpus F} {bank : KnowledgeBank}
  {trace : List (Taken KnowledgeBank (BankAction F))}

theorem BankSafe.empty : BankSafe [] KnowledgeBank.empty :=
  ⟨fun _ h => (nomatch h), fun _ h => (nomatch h), fun _ h => (nomatch h)⟩

theorem BankStep.kept {x : Taken KnowledgeBank (BankAction F)} (h : BankSafe [] x.source)
    (hkept : RightsKept c x) (hstep : BankStep c x.source x.label x.target) :
    BankSafe [] x.target := by
  obtain ⟨source, label, target⟩ := x
  cases hstep with
  | commit himport => exact (commit_kept h hkept himport).1
  | rollBack himport hr => exact importKnowledgePayload_rolledBack himport hr ▸ h
  | publish hpublish => exact publish_kept h hkept hpublish

/-- **What candidates are served may be hosted**, in every bank that is
reached, and no import shows a text that may not. -/
theorem rights_safe (hrun : Run (BankStep c) KnowledgeBank.empty trace bank)
    (hkept : ∀ x ∈ trace, RightsKept c x) :
    RightsSafe c bank ∧ ∀ x ∈ trace, (∀ canonicalKey, x.label ≠ .publish canonicalKey) →
      ∀ t, Shows c x.target t → ¬Shows c x.source t → t.disposition = .hostableLicensed := by
  have hlast : BankSafe [] bank :=
    hrun.invariant_of (fun x h hkept hstep => hstep.kept h hkept) BankSafe.empty hkept
  refine ⟨hlast.rightsSafe, ?_⟩
  refine hrun.forall_taken_of (fun x h hkept hstep => hstep.kept h hkept) (fun x h hkept hstep => ?_)
    BankSafe.empty hkept
  intro himport t hshows hnew
  obtain ⟨source, label, target⟩ := x
  cases hstep with
  | commit himport =>
      obtain ⟨hsafe, hquiet⟩ := commit_kept h hkept himport
      exact hquiet.shows hsafe hshows hnew
  | rollBack himport hr =>
      cases importKnowledgePayload_rolledBack himport hr
      exact absurd hshows hnew
  | publish => exact absurd rfl (himport _)

end

/-! ## Two imports -/

def plainCorpus : Corpus FloatConst where
  str value := match value with
    | .str s => s
    | _ => []
  casefold text := text
  slugify text := text
  corpusHash _ := "c0"
  accepts _ := true

/-- A payload of one problem. -/
def problemPayload (d : SourceDisposition) : Members FloatConst :=
  [("disposition", .str d.value),
    ("problems", .arr [.obj [("canonical_key", .str "two-sum"), ("title", .str "Two Sum"),
      ("slug", .str "two-sum"), ("description", .str "Add two numbers."),
      ("source_name", .str "corpus.zip"), ("source_path", .str "two-sum.md"),
      ("source_hash", .str "a1")]])]

/-- A problem that may be hosted is imported and published. -/
theorem hosted_problem_served : ∃ trace bank,
    Run (BankStep plainCorpus) KnowledgeBank.empty trace bank
      ∧ (∃ p, getProblem "two-sum" bank = .ok p) ∧ RightsSafe plainCorpus bank := by
  obtain ⟨trace, bank, hrun, hserved, hkept⟩ : ∃ trace bank,
      Run (BankStep plainCorpus) KnowledgeBank.empty trace bank
        ∧ (∃ p, getProblem "two-sum" bank = .ok p) ∧ ∀ x ∈ trace, RightsKept plainCorpus x := by
    refine Run.exists_cons (.commit (problemPayload .hostableLicensed)) (.commit rfl) ?_
    refine Run.exists_cons (.publish "two-sum") (.publish rfl) ?_
    refine Run.exists_nil ⟨⟨_, rfl⟩, List.forall_mem_cons.mpr ⟨?_, List.forall_mem_cons.mpr
      ⟨⟨?_, fun _ h => (nomatch h)⟩, fun _ h => (nomatch h)⟩⟩⟩
    · intro default entries hdefault hentries
      cases hdefault
      cases hentries
      refine ⟨fun name _ _ hd => absurd rfl hd, fun record hread => ?_⟩
      cases hread
      exact ⟨⟨fun hd => absurd rfl hd, fun _ hd => absurd rfl hd⟩, fun _ _ => trivial⟩
    · intro p hp _
      cases List.mem_singleton.mp hp
      intro t ht
      rcases List.mem_append.mp ht with ht | ht <;> cases List.mem_singleton.mp ht <;> rfl
  exact ⟨trace, bank, hrun, hserved, (rights_safe hrun hkept).1⟩

/-- A problem that may only be referred to is served with its text as soon as it
is imported. -/
theorem reference_text_served : ∃ trace bank,
    Run (BankStep plainCorpus) KnowledgeBank.empty trace bank ∧ ¬RightsSafe plainCorpus bank := by
  refine Run.exists_cons (.commit (problemPayload .externalReferenceOnly)) (.commit rfl) ?_
  refine Run.exists_nil fun h => ?_
  have hserved := h.problem "two-sum" _ rfl
    ⟨"Add two numbers.", "corpus.zip", .externalReferenceOnly⟩ (List.mem_cons_self ..)
  cases hserved

end Rigor.Knowledge
