import Rigor.Comparators
import Rigor.GreedyFill
import Rigor.StudyRuns

/-!
# The daily plan

`buildDailyPlan` sorts the open tasks and fills the available minutes with them.
It keeps to the budget whatever the tasks are, but a task without a due date is
sorted as if it were due on 9999-12-31: it comes before a task that is due then
and takes longer. `dailyPlan_fair_iff` says when this shows. The minutes are
numbers computed exactly.
-/

namespace StudyWorkspace

open CodeTyping Comparators GreedyFill IsoDates

structure PlannedBlock where
  projectId : JsString
  projectTitle : JsString
  taskId : JsString
  taskTitle : JsString
  minutes : Rat
  dueOn : Option JsString
deriving DecidableEq

def compareText (left right : JsString) : Rat :=
  if left < right then -1 else if right < left then 1 else 0

abbrev Candidate := StudyProject × StudyTask

/-- The tasks that are not completed, each with its project. -/
def candidates (projects : List StudyProject) : List Candidate :=
  projects.flatMap fun project =>
    (project.tasks.filter fun task => !task.completed).map fun task => (project, task)

/-- `dueOn ?? "9999-12-31"` -/
def dueKey (candidate : Candidate) : JsString := candidate.2.dueOn.getD (text "9999-12-31")

def compareCandidates (left right : Candidate) : Rat :=
  orElse (compareText (dueKey left) (dueKey right)) <|
  orElse (left.2.estimatedMinutes - right.2.estimatedMinutes) <|
  orElse (compareText left.2.title right.2.title) <|
  orElse (compareText left.1.id right.1.id) <|
  compareText left.2.id right.2.id

def plannedBlock (candidate : Candidate) (minutes : Rat) : PlannedBlock where
  projectId := candidate.1.id
  projectTitle := candidate.1.title
  taskId := candidate.2.id
  taskTitle := candidate.2.title
  minutes
  dueOn := candidate.2.dueOn

/-- The minutes a task takes where the budget allows it. -/
def taskMinutes (candidate : Candidate) : Rat := max 1 candidate.2.estimatedMinutes

/-- The loop over the sorted candidates. -/
def planLoop : Rat → List Candidate → List PlannedBlock
  | _, [] => []
  | remaining, candidate :: rest =>
    if remaining ≤ 0 then []
    else
      let minutes := min (taskMinutes candidate) remaining
      plannedBlock candidate minutes :: planLoop (remaining - minutes) rest

def buildDailyPlan (projects : List StudyProject) (availableMinutes : Rat) : List PlannedBlock :=
  if availableMinutes ≤ 0 then []
  else planLoop ⌊availableMinutes⌋ (sort compareCandidates (candidates projects))

/-! ## What a fair plan is -/

/-- The order of due dates, in which none is last. -/
def DueBefore : Option JsString → Option JsString → Prop
  | _, none => True
  | none, some _ => False
  | some due, some due' => due ≤ due'

instance : ∀ due due' : Option JsString, Decidable (DueBefore due due')
  | _, none => .isTrue trivial
  | none, some _ => .isFalse id
  | some due, some due' => inferInstanceAs (Decidable (due ≤ due'))

/-- The same projects in another order, with their tasks in another order. -/
def Rearranged (projects projects' : List StudyProject) : Prop :=
  ∃ shuffled, List.Forall₂ (fun p q => q = { p with tasks := q.tasks } ∧ p.tasks.Perm q.tasks)
    projects shuffled ∧ shuffled.Perm projects'

/-- An open task of one of the projects. -/
def IsOpen (projects : List StudyProject) (candidate : Candidate) : Prop :=
  candidate.1 ∈ projects ∧ candidate.2 ∈ candidate.1.tasks ∧ candidate.2.completed = false

structure FairPlan (projects : List StudyProject) (availableMinutes : Rat) : Prop where
  /-- every entry is an open task, for at most the minutes it takes -/
  listed : ∀ block ∈ buildDailyPlan projects availableMinutes, ∃ candidate,
    IsOpen projects candidate ∧ block = plannedBlock candidate block.minutes
      ∧ block.minutes ≤ taskMinutes candidate
  once : ((buildDailyPlan projects availableMinutes).map PlannedBlock.taskId).Nodup
  ordered : (buildDailyPlan projects availableMinutes).Pairwise fun block block' =>
    DueBefore block.dueOn block'.dueOn
  total : ((buildDailyPlan projects availableMinutes).map PlannedBlock.minutes).sum
    = min (max 0 (⌊availableMinutes⌋ : Rat)) ((candidates projects).map taskMinutes).sum
  /-- only the last entry can be cut short -/
  whole : ∀ block ∈ (buildDailyPlan projects availableMinutes).dropLast, ∃ candidate,
    IsOpen projects candidate ∧ block = plannedBlock candidate (taskMinutes candidate)
  same : ∀ projects', Rearranged projects projects' →
    buildDailyPlan projects' availableMinutes = buildDailyPlan projects availableMinutes

/-- The minutes of the open tasks that are sorted before a task. -/
def minutesBefore (projects : List StudyProject) (candidate : Candidate) : Rat :=
  (((candidates projects).filter fun c => compareCandidates c candidate < 0).map taskMinutes).sum

/-- Where a task without a due date is sorted before one that has one, the
budget is spent before the latter. -/
def UndatedLast (projects : List StudyProject) (availableMinutes : Rat) : Prop :=
  ∀ undated ∈ candidates projects, ∀ dated ∈ candidates projects,
    undated.2.dueOn = none → dated.2.dueOn ≠ none → compareCandidates undated dated < 0 →
    (⌊availableMinutes⌋ : Rat) ≤ minutesBefore projects dated

instance (projects : List StudyProject) (availableMinutes : Rat) :
    Decidable (UndatedLast projects availableMinutes) :=
  inferInstanceAs (Decidable (∀ undated ∈ candidates projects, ∀ dated ∈ candidates projects, _))

/-! ## The comparator -/

theorem compareText_eq (left right : JsString) :
    compareText left right = compareKey left right := by
  unfold compareText compareKey
  congr

theorem isComparator_compareCandidates : IsComparator compareCandidates := by
  have htext (key : Candidate → JsString) :
      IsComparator fun a b => compareText (key a) (key b) := by
    simpa only [compareText_eq] using isComparator_compareKey key
  exact (htext dueKey).orElse <|
    (isComparator_sub fun c : Candidate => c.2.estimatedMinutes).orElse <|
    (htext fun c => c.2.title).orElse <| (htext fun c => c.1.id).orElse (htext fun c => c.2.id)

/-- Only candidates with one task id are tied. -/
theorem taskId_eq_of_tied {a b : Candidate} (h : compareCandidates a b = 0) : a.2.id = b.2.id := by
  simp only [compareCandidates, orElse_eq_zero, compareText_eq] at h
  exact compareKey_eq_zero.mp h.2.2.2.2

theorem dueKey_le {a b : Candidate} (h : compareCandidates a b < 0) : dueKey a ≤ dueKey b := by
  have hdue := orElse_neg.mp h
  rw [compareText_eq] at hdue
  rcases hdue with hlt | ⟨heq, -⟩
  · exact compareKey_nonpos.mp (le_of_lt hlt)
  · exact compareKey_nonpos.mp (le_of_eq heq)

/-- Due dates that the workspace stores are compared as days of the calendar. -/
theorem dueBefore_iff {due due' : JsString} (h : validDateOnly due = true)
    (h' : validDateOnly due' = true) :
    ∃ year month day year' month' day', due = dateOnlyText year month day
      ∧ due' = dateOnlyText year' month' day'
      ∧ (DueBefore (some due) (some due')
        ↔ year < year' ∨ year = year' ∧ (month < month' ∨ month = month' ∧ day ≤ day')) := by
  obtain ⟨year, month, day, hyear, hmonth, hday, rfl⟩ := validDateOnly_text h
  obtain ⟨year', month', day', hyear', hmonth', hday', rfl⟩ := validDateOnly_text h'
  refine ⟨year, month, day, year', month', day', rfl, rfl, ?_⟩
  have hafter := dateOnlyText_lt_iff hyear' hmonth' hday' hyear hmonth hday
  have hle : DueBefore (some (dateOnlyText year month day)) (some (dateOnlyText year' month' day'))
      ↔ ¬ dateOnlyText year' month' day' < dateOnlyText year month day := not_lt.symm
  rw [hle, hafter]
  omega

theorem mem_candidates {projects : List StudyProject} {candidate : Candidate} :
    candidate ∈ candidates projects ↔ IsOpen projects candidate := by
  obtain ⟨project, task⟩ := candidate
  simp only [candidates, IsOpen, List.mem_flatMap, List.mem_map, List.mem_filter,
    Bool.not_eq_true', Prod.mk.injEq]
  constructor
  · rintro ⟨p, hp, t, ⟨ht, hopen⟩, rfl, rfl⟩
    exact ⟨hp, ht, hopen⟩
  · rintro ⟨hp, ht, hopen⟩
    exact ⟨project, hp, task, ⟨ht, hopen⟩, rfl, rfl⟩

theorem candidates_ids_sublist : ∀ projects : List StudyProject,
    ((candidates projects).map fun c => c.2.id).Sublist (taskIds projects)
  | [] => List.Sublist.slnil
  | project :: projects => by
    simp only [candidates, taskIds, List.flatMap_cons, List.map_append, List.map_map]
    exact (List.filter_sublist.map StudyTask.id).append (candidates_ids_sublist projects)

section Plan

variable {projects : List StudyProject} {availableMinutes : Rat}

theorem candidates_nodup (h : (taskIds projects).Nodup) : (candidates projects).Nodup :=
  (h.sublist (candidates_ids_sublist projects)).of_map _

theorem eq_of_tied (h : (taskIds projects).Nodup) : ∀ a ∈ candidates projects,
    ∀ b ∈ candidates projects, compareCandidates a b = 0 → a = b := by
  intro a ha b hb htied
  exact List.inj_on_of_nodup_map (h.sublist (candidates_ids_sublist projects)) ha hb
    (taskId_eq_of_tied htied)

/-! ## The loop -/

/-- The order in which the tasks are offered. -/
def sortedCandidates (projects : List StudyProject) : List Candidate :=
  sort compareCandidates (candidates projects)

/-- The tasks of the plan with their minutes. -/
def filled (projects : List StudyProject) (availableMinutes : Rat) : List (Candidate × Rat) :=
  fill taskMinutes (max 0 (⌊availableMinutes⌋ : Rat)) (sortedCandidates projects)

theorem taskMinutes_nonneg (candidate : Candidate) : 0 ≤ taskMinutes candidate :=
  zero_le_one.trans (le_max_left _ _)

theorem planLoop_eq_fill : ∀ (items : List Candidate) (remaining : Rat),
    planLoop remaining items
      = (fill taskMinutes remaining items).map fun p => plannedBlock p.1 p.2
  | [], _ => rfl
  | candidate :: rest, remaining => by
    by_cases h : remaining ≤ 0
    · rw [fill_of_nonpos h, planLoop, if_pos h, List.map_nil]
    · rw [fill_cons (lt_of_not_ge h), planLoop, if_neg h, List.map_cons]
      exact congrArg _ (planLoop_eq_fill rest _)

theorem buildDailyPlan_eq (projects : List StudyProject) (availableMinutes : Rat) :
    buildDailyPlan projects availableMinutes
      = (filled projects availableMinutes).map fun p => plannedBlock p.1 p.2 := by
  unfold buildDailyPlan filled
  split
  · rename_i h
    have hfloor : (⌊availableMinutes⌋ : Rat) ≤ 0 := (Int.floor_le _).trans h
    rw [max_eq_left hfloor, fill_of_nonpos le_rfl, List.map_nil]
  · rename_i h
    have hfloor : (0 : Rat) ≤ (⌊availableMinutes⌋ : Rat) := by
      exact_mod_cast Int.floor_nonneg.mpr (le_of_lt (lt_of_not_ge h))
    rw [max_eq_right hfloor]
    exact planLoop_eq_fill _ _

theorem mem_sortedCandidates {candidate : Candidate} :
    candidate ∈ sortedCandidates projects ↔ candidate ∈ candidates projects :=
  (sort_perm compareCandidates (candidates projects)).mem_iff

theorem filled_begins (projects : List StudyProject) (availableMinutes : Rat) :
    (filled projects availableMinutes).map Prod.fst <+: sortedCandidates projects :=
  fill_begins _ _

theorem isOpen_of_filled {p : Candidate × Rat} (hp : p ∈ filled projects availableMinutes) :
    IsOpen projects p.1 :=
  mem_candidates.mp <| mem_sortedCandidates.mp <|
    (filled_begins projects availableMinutes).subset (List.mem_map_of_mem hp)

theorem sortedCandidates_strict (h : (taskIds projects).Nodup) :
    (sortedCandidates projects).Pairwise fun a b => compareCandidates a b < 0 :=
  sort_strict isComparator_compareCandidates (candidates_nodup h) (eq_of_tied h)

/-- The candidates before one that the sort has put in its place. -/
theorem filter_sorted (h : (taskIds projects).Nodup) {front back : List Candidate}
    {candidate : Candidate} (hsplit : sortedCandidates projects = front ++ candidate :: back) :
    (sortedCandidates projects).filter (fun c => compareCandidates c candidate < 0) = front := by
  have hstrict := sortedCandidates_strict h
  rw [hsplit] at hstrict ⊢
  exact filter_eq_front isComparator_compareCandidates hstrict

theorem minutesBefore_eq (h : (taskIds projects).Nodup) {front back : List Candidate}
    {candidate : Candidate} (hsplit : sortedCandidates projects = front ++ candidate :: back) :
    minutesBefore projects candidate = (front.map taskMinutes).sum := by
  have hperm := (sort_perm compareCandidates (candidates projects)).filter
    fun c => compareCandidates c candidate < 0
  rw [minutesBefore, ← (hperm.map taskMinutes).sum_eq]
  exact congrArg (fun l => (l.map taskMinutes).sum) (filter_sorted h hsplit)

/-- The plan reaches a task exactly if the tasks before it leave some minutes. -/
theorem reached_iff (h : (taskIds projects).Nodup) {front back : List Candidate}
    {candidate : Candidate} (hsplit : sortedCandidates projects = front ++ candidate :: back) :
    front ++ [candidate] <+: (filled projects availableMinutes).map Prod.fst
      ↔ minutesBefore projects candidate < (⌊availableMinutes⌋ : Rat) := by
  have hsum : 0 ≤ (front.map taskMinutes).sum :=
    List.sum_nonneg (List.forall_mem_map.mpr fun c _ => taskMinutes_nonneg c)
  unfold filled
  rw [hsplit, prefix_fill_iff front candidate back _ fun c _ => taskMinutes_nonneg c,
    minutesBefore_eq h hsplit, lt_max_iff]
  exact or_iff_right (not_lt_of_ge hsum)

theorem reached_of_mem (h : (taskIds projects).Nodup) {candidate : Candidate}
    (hmem : candidate ∈ (filled projects availableMinutes).map Prod.fst) :
    minutesBefore projects candidate < (⌊availableMinutes⌋ : Rat) := by
  obtain ⟨front, back, hplan⟩ := List.append_of_mem hmem
  obtain ⟨rest, hrest⟩ := filled_begins projects availableMinutes
  rw [hplan, List.append_assoc, List.cons_append] at hrest
  refine (reached_iff h hrest.symm).mp ⟨back, ?_⟩
  rw [hplan, List.append_assoc]
  rfl

/-! ## Order -/

theorem ordered_of_undatedLast (h : (taskIds projects).Nodup)
    (hlast : UndatedLast projects availableMinutes) :
    (buildDailyPlan projects availableMinutes).Pairwise fun block block' =>
      DueBefore block.dueOn block'.dueOn := by
  have hstrict := (sortedCandidates_strict h).sublist
    (filled_begins projects availableMinutes).sublist
  rw [buildDailyPlan_eq, List.pairwise_map]
  rw [List.pairwise_map] at hstrict
  refine hstrict.imp_of_mem fun {p q} hp hq hlt => ?_
  have hle := dueKey_le hlt
  change DueBefore p.1.2.dueOn q.1.2.dueOn
  cases hdated : q.1.2.dueOn with
  | none => cases p.1.2.dueOn <;> trivial
  | some due =>
    cases hdue : p.1.2.dueOn with
    | some due' =>
      rw [dueKey, dueKey, hdated, hdue] at hle
      exact hle
    | none =>
      have hspent := hlast p.1 (mem_candidates.mpr (isOpen_of_filled hp)) q.1
        (mem_candidates.mpr (isOpen_of_filled hq)) hdue (by rw [hdated]; nofun) hlt
      exact absurd (reached_of_mem h (List.mem_map_of_mem hq)) (not_lt_of_ge hspent)

theorem undatedLast_of_ordered (h : (taskIds projects).Nodup)
    (hordered : (buildDailyPlan projects availableMinutes).Pairwise fun block block' =>
      DueBefore block.dueOn block'.dueOn) : UndatedLast projects availableMinutes := by
  intro undated hundated dated hdated hnone hsome hlt
  by_contra hreached
  obtain ⟨front, back, hsplit⟩ := List.append_of_mem (mem_sortedCandidates.mpr hdated)
  have hbegins : front ++ [dated] <+: (filled projects availableMinutes).map Prod.fst :=
    (reached_iff h hsplit).mpr (lt_of_not_ge hreached)
  obtain ⟨rest, hrest⟩ := hbegins
  have hfront : undated ∈ front := by
    rw [← filter_sorted h hsplit]
    exact List.mem_filter.mpr ⟨mem_sortedCandidates.mpr hundated, decide_eq_true hlt⟩
  rw [buildDailyPlan_eq, List.pairwise_map] at hordered
  have hpairs : ((filled projects availableMinutes).map Prod.fst).Pairwise fun a b =>
      DueBefore a.2.dueOn b.2.dueOn := List.pairwise_map.mpr hordered
  rw [← hrest] at hpairs
  have hreach := (List.pairwise_append.mp hpairs).1
  have hboth := (List.pairwise_append.mp hreach).2.2 undated hfront dated
    (List.mem_singleton_self dated)
  rw [hnone] at hboth
  cases hdue : dated.2.dueOn with
  | none => exact hsome hdue
  | some due =>
    rw [hdue] at hboth
    exact hboth

/-! ## Rearranged projects -/

/-- A candidate without the tasks of its project. -/
def bare (candidate : Candidate) : Candidate := ({ candidate.1 with tasks := [] }, candidate.2)

theorem planLoop_bare : ∀ (items : List Candidate) (remaining : Rat),
    planLoop remaining (items.map bare) = planLoop remaining items
  | [], _ => rfl
  | candidate :: rest, remaining => by
    rw [List.map_cons, planLoop, planLoop]
    dsimp only
    rw [planLoop_bare rest]
    rfl

theorem bare_candidates_perm {projects projects' : List StudyProject}
    (h : Rearranged projects projects') :
    ((candidates projects).map bare).Perm ((candidates projects').map bare) := by
  obtain ⟨shuffled, hshuffled, hperm⟩ := h
  refine List.Perm.trans ?_ ((hperm.flatMap_right _).map bare)
  clear hperm
  induction hshuffled with
  | nil => exact List.Perm.nil
  | @cons p q ps qs hpq _ ih =>
    obtain ⟨hq, htasks⟩ := hpq
    simp only [List.flatMap_cons, List.map_append, candidates] at ih ⊢
    refine List.Perm.append ?_ ih
    have hbare : (fun task => bare (q, task)) = fun task => bare (p, task) := by
      rw [hq]
      rfl
    rw [List.map_map, List.map_map]
    change (List.map (fun task => bare (p, task)) _).Perm (List.map (fun task => bare (q, task)) _)
    rw [hbare]
    exact (htasks.filter _).map _

theorem sort_bare (items : List Candidate) :
    (sort compareCandidates items).map bare = sort compareCandidates (items.map bare) :=
  List.map_insertionSort _ _ bare items fun _ _ _ _ => Iff.rfl

theorem buildDailyPlan_rearranged (h : (taskIds projects).Nodup) {projects' : List StudyProject}
    (hsame : Rearranged projects projects') (availableMinutes : Rat) :
    buildDailyPlan projects' availableMinutes = buildDailyPlan projects availableMinutes := by
  have hties : ∀ a ∈ (candidates projects).map bare, ∀ b ∈ (candidates projects).map bare,
      compareCandidates a b = 0 → a = b := by
    intro a ha b hb htied
    obtain ⟨c, hc, rfl⟩ := List.mem_map.mp ha
    obtain ⟨d, hd, rfl⟩ := List.mem_map.mp hb
    rw [eq_of_tied h c hc d hd htied]
  have hsort := sort_eq_of_perm isComparator_compareCandidates hties (bare_candidates_perm hsame)
  unfold buildDailyPlan
  rw [← planLoop_bare, sort_bare, ← hsort, ← sort_bare, planLoop_bare]

/-- The plan is fair exactly if no task with a due date is reached after one
without. -/
theorem dailyPlan_fair_iff (h : (taskIds projects).Nodup) (availableMinutes : Rat) :
    FairPlan projects availableMinutes ↔ UndatedLast projects availableMinutes := by
  refine ⟨fun hfair => undatedLast_of_ordered h hfair.ordered, fun hlast => ?_⟩
  have hplan := buildDailyPlan_eq projects availableMinutes
  refine {
    listed := ?_
    once := ?_
    ordered := ordered_of_undatedLast h hlast
    total := ?_
    whole := ?_
    same := fun projects' hsame => buildDailyPlan_rearranged h hsame availableMinutes }
  · intro block hblock
    rw [hplan] at hblock
    obtain ⟨p, hp, rfl⟩ := List.mem_map.mp hblock
    exact ⟨p.1, isOpen_of_filled hp, rfl, fill_le _ _ p hp⟩
  · have hids : (buildDailyPlan projects availableMinutes).map PlannedBlock.taskId
        = ((filled projects availableMinutes).map Prod.fst).map fun c => c.2.id := by
      rw [hplan, List.map_map, List.map_map]
      rfl
    have hsorted : ((sortedCandidates projects).map fun c => c.2.id).Nodup :=
      ((sort_perm _ _).map _).nodup_iff.mpr (h.sublist (candidates_ids_sublist projects))
    rw [hids]
    exact hsorted.sublist ((filled_begins projects availableMinutes).sublist.map _)
  · have hminutes : (buildDailyPlan projects availableMinutes).map PlannedBlock.minutes
        = (filled projects availableMinutes).map Prod.snd := by
      rw [hplan, List.map_map]
      rfl
    rw [hminutes, filled, sum_fill _ _ (le_max_left _ _) fun c _ => taskMinutes_nonneg c,
      ((sort_perm compareCandidates (candidates projects)).map taskMinutes).sum_eq.symm]
    rfl
  · intro block hblock
    rw [hplan, ← List.map_dropLast] at hblock
    obtain ⟨p, hp, rfl⟩ := List.mem_map.mp hblock
    refine ⟨p.1, isOpen_of_filled (List.mem_of_mem_dropLast hp), ?_⟩
    rw [fill_whole _ _ p hp]

end Plan

/-! ## A task due on the last day -/

def dueTask (id : String) (dueOn : Option JsString) (estimatedMinutes : Rat) : StudyTask where
  id := text id
  title := text id
  dueOn
  estimatedMinutes
  completed := false

def withTasks (tasks : List StudyTask) : List StudyProject :=
  [{ id := text "p", title := text "Study", goal := [], targetDate := none, focusedMinutes := 0,
     tasks, notes := [] }]

/-- An hour due on Monday, three quarters of an hour due some day. -/
def twoTasks : List StudyProject :=
  withTasks [dueTask "later" none 45, dueTask "first" (some (text "2026-09-21")) 60]

theorem twoTasks_fair : FairPlan twoTasks 75 :=
  (dailyPlan_fair_iff (by decide +kernel) 75).mpr (by decide +kernel)

/-- Five minutes due some day, an hour due on the last day there is. -/
def lastDayTasks : List StudyProject :=
  withTasks [dueTask "someday" none 5, dueTask "lastday" (some (text "9999-12-31")) 60]

theorem lastDayTasks_unfair : (taskIds lastDayTasks).Nodup ∧ ¬ FairPlan lastDayTasks 90 :=
  ⟨by decide +kernel, fun hfair => absurd hfair.ordered (by decide +kernel)⟩

end StudyWorkspace
