import Mathlib.Data.Nat.Digits.Lemmas
import Rigor.StudyWorkspace

/-!
# What the study workspace keeps

The component writes its state after every change and reads it back on a
reload. It holds the minutes, the ease and the interval of a row to the bounds
of the validator, but not the texts, the lengths of the lists and the counters.
In a run that stays within those bounds every state is `Kept` (`step_kept`);
one title too long, and its project is gone with all its tasks, notes and
flashcards (`longTitle_dropped`).
-/

namespace StudyWorkspace

open CodeTyping IsoDates

/-! ## Generated ids -/

/-- The clock and the random text an id is made of. -/
structure Stamp where
  now : Nat
  random : JsString
  now_le : now ≤ 8640000000000000
  random_le : random.length ≤ 7

def decimal (n : Nat) : JsString :=
  if n = 0 then [48] else (Nat.digits 10 n).reverse.map (48 + ·)

/-- The id of a new row of the given kind. -/
def generatedId (kind : String) (stamp : Stamp) : JsString :=
  text kind ++ 45 :: decimal stamp.now ++ 45 :: stamp.random

theorem length_decimal_le {n : Nat} (h : n ≤ 8640000000000000) : (decimal n).length ≤ 16 := by
  unfold decimal
  split
  · decide
  · rw [List.length_map, List.length_reverse, Nat.digits_length_le_iff (by decide)]
    omega

theorem generatedId_fits {kind : String} (hkind : (text kind).length ≤ 20) (stamp : Stamp) :
    TextFits 100 (generatedId kind stamp) := by
  have hdecimal := length_decimal_le stamp.now_le
  have hrandom := stamp.random_le
  refine ⟨trim_ne_nil (c := 45) (by simp [generatedId]) (by decide), ?_⟩
  simp only [generatedId, List.length_append, List.length_cons]
  omega

/-! ## Reviewing a card -/

abbrev ReviewRating := { rating : Nat // 1 ≤ rating ∧ rating ≤ 5 }

/-- `Number(x.toFixed(2))` before it is rounded to a double. -/
def toFixed2 (x : Rat) : Rat := (⌊100 * x + 1 / 2⌋ : Int) / 100

section Doubles

variable (D : Doubles)

def easeAfter (ease : Rat) (quality : Nat) : Rat :=
  let lapse : Rat := 5 - quality
  let penalty := D.round (lapse * D.round (D.round (8 / 100) + D.round (lapse * D.round (2 / 100))))
  max D.minEase (min 4 (D.round (ease + D.round (D.round (1 / 10) - penalty))))

def intervalAfter (card : Flashcard) (ease repetitions : Rat) (miss : Bool) : Int :=
  if miss then 1
  else if repetitions = 1 then 1
  else if repetitions = 2 then 6
  else min 36500 (max 1 ⌊D.round (card.intervalDays * ease) + 1 / 2⌋)

def reviewFlashcard (card : Flashcard) (rating : ReviewRating) (reviewedAt : Int) : Flashcard :=
  let miss := decide (rating.val < 3)
  let repetitions := if miss then 0 else D.round (card.repetitions + 1)
  let ease := easeAfter D card.ease rating.val
  let intervalDays := intervalAfter D card ease repetitions miss
  { card with
    ease := D.round (toFixed2 ease)
    intervalDays := (intervalDays : Rat)
    repetitions
    lastReviewedAt := some (toISOString reviewedAt)
    nextReviewAt := toISOString (reviewedAt + intervalDays * msPerDay) }

/-- `isCardDue`: an unreadable time is due as well. -/
def isCardDue (card : Flashcard) (now : Int) : Bool :=
  match dateParse card.nextReviewAt with
  | none => true
  | some timestamp => timestamp ≤ now

variable {D}

theorem isSafeInteger_intCast {n : Int} (h : |n| ≤ 9007199254740991) : IsSafeInteger (n : Rat) :=
  ⟨Rat.den_intCast n, by exact_mod_cast h⟩

/-- Counting on is exact as long as the sum is safe. -/
theorem round_add {x : Rat} (h : IsSafeInteger x) (h0 : 0 ≤ x) (n : Nat)
    (hle : x + n ≤ 9007199254740991) :
    IsSafeInteger (D.round (x + n)) ∧ 0 ≤ D.round (x + n) := by
  have hx : ((x.num : Int) : Rat) = x := Rat.coe_int_num_of_den_eq_one h.1
  have hnum0 : 0 ≤ x.num := Rat.num_nonneg.mpr h0
  have hsum : x + n = ((x.num + n : Int) : Rat) := by push_cast; rw [hx]
  have hnum : x.num + n ≤ 9007199254740991 := by
    rw [hsum] at hle
    exact_mod_cast hle
  have habs : |x.num + (n : Int)| ≤ 9007199254740991 := by
    rw [abs_of_nonneg (by omega)]
    exact hnum
  rw [hsum, D.round_int _ (habs.trans (by decide))]
  exact ⟨isSafeInteger_intCast habs, by exact_mod_cast (by omega : 0 ≤ x.num + (n : Int))⟩

theorem round_four : D.round 4 = 4 := by
  have h := D.round_int 4 (by decide)
  exact_mod_cast h

theorem minEase_le_four : D.minEase ≤ 4 := by
  have h := D.round_mono (13 / 10) 4 (by norm_num)
  rwa [round_four] at h

theorem le_minEase : 259 / 200 ≤ D.minEase := by
  have h := abs_le.mp (D.round_near (13 / 10) (by norm_num) (by norm_num))
  have hlow := h.1
  simp only [Doubles.minEase]
  linarith

theorem minEase_le : D.minEase ≤ 5 / 2 := by
  have h := abs_le.mp (D.round_near (13 / 10) (by norm_num) (by norm_num))
  have hhigh := h.2
  simp only [Doubles.minEase]
  linarith

theorem easeAfter_range (ease : Rat) (quality : Nat) :
    D.minEase ≤ easeAfter D ease quality ∧ easeAfter D ease quality ≤ 4 :=
  ⟨le_max_left _ _, max_le minEase_le_four (min_le_left _ _)⟩

/-- Two decimals of an ease within its bounds stay within them. -/
theorem round_toFixed2 {ease : Rat} (h : D.minEase ≤ ease ∧ ease ≤ 4) :
    D.minEase ≤ D.round (toFixed2 ease) ∧ D.round (toFixed2 ease) ≤ 4 := by
  have hlow : (130 : Int) ≤ ⌊100 * ease + 1 / 2⌋ := by
    rw [Int.le_floor]
    have hmin : 259 / 200 ≤ D.minEase := le_minEase
    push_cast
    linarith [h.1]
  have hhigh : ⌊100 * ease + 1 / 2⌋ ≤ (400 : Int) := by
    rw [← Int.lt_add_one_iff, Int.floor_lt]
    push_cast
    linarith [h.2]
  have hlow' : (130 : Rat) ≤ (⌊100 * ease + 1 / 2⌋ : Int) := by exact_mod_cast hlow
  have hhigh' : ((⌊100 * ease + 1 / 2⌋ : Int) : Rat) ≤ 400 := by exact_mod_cast hhigh
  constructor
  · exact D.round_mono _ _ (by rw [toFixed2]; linarith)
  · have hround := D.round_mono (toFixed2 ease) 4 (by rw [toFixed2]; linarith)
    rwa [round_four] at hround

theorem intervalAfter_range (card : Flashcard) (ease repetitions : Rat) (miss : Bool) :
    1 ≤ intervalAfter D card ease repetitions miss
      ∧ intervalAfter D card ease repetitions miss ≤ 36500 := by
  unfold intervalAfter
  split
  · decide
  · split
    · decide
    · split
      · decide
      · exact ⟨le_min (by decide) (le_max_left _ _), min_le_left _ _⟩

/-- A time value all of whose next reviews are time values. -/
def ReviewTime (t : Int) : Prop := IsTimeValue t ∧ IsTimeValue (t + 36500 * msPerDay)

instance (t : Int) : Decidable (ReviewTime t) := inferInstanceAs (Decidable (_ ∧ _))

theorem reviewFlashcard_valid {projectIds : List JsString} {card : Flashcard}
    (h : card.Valid D projectIds) {rating : ReviewRating} {reviewedAt : Int}
    (htime : ReviewTime reviewedAt)
    (hcount : rating.val < 3 ∨ card.repetitions + 1 ≤ 9007199254740991) :
    (reviewFlashcard D card rating reviewedAt).Valid D projectIds := by
  have hinterval := intervalAfter_range (D := D) card (easeAfter D card.ease rating.val)
    (if decide (rating.val < 3) then 0 else D.round (card.repetitions + 1))
    (decide (rating.val < 3))
  have hrepetitions : IsSafeInteger
      (if decide (rating.val < 3) then 0 else D.round (card.repetitions + 1)) ∧
      0 ≤ (if decide (rating.val < 3) then 0 else D.round (card.repetitions + 1)) := by
    by_cases hmiss : rating.val < 3
    · rw [if_pos (by simpa using hmiss)]
      exact ⟨⟨rfl, by norm_num⟩, le_refl 0⟩
    · rw [if_neg (by simpa using hmiss)]
      have hadd := round_add (D := D) h.repetitionsSafe h.repetitions 1
        (by exact_mod_cast hcount.resolve_left hmiss)
      exact_mod_cast hadd
  set days := intervalAfter D card (easeAfter D card.ease rating.val)
    (if decide (rating.val < 3) then 0 else D.round (card.repetitions + 1))
    (decide (rating.val < 3)) with hdays
  have hnext : IsTimeValue (reviewedAt + days * msPerDay) := by
    obtain ⟨⟨hlow, -⟩, -, hhigh⟩ := htime
    simp only [msPerDay] at hhigh ⊢
    exact ⟨by omega, by omega⟩
  have hrange : (0 : Rat) ≤ (days : Rat) ∧ (days : Rat) ≤ 36500 := by
    have hpos : 0 ≤ days := by omega
    exact ⟨by exact_mod_cast hpos, by exact_mod_cast hinterval.2⟩
  exact { h with
    ease := round_toFixed2 (easeAfter_range card.ease rating.val)
    intervalSafe := isSafeInteger_intCast (abs_le.mpr ⟨by omega, by omega⟩)
    intervalDays := hrange
    repetitionsSafe := hrepetitions.1
    repetitions := hrepetitions.2
    nextReviewAt := validIsoDateTime_toISOString hnext
    lastReviewedAt := by
      rintro s ⟨⟩
      exact validIsoDateTime_toISOString htime.1 }

end Doubles

/-! ## The operations of the component -/

inductive Operation where
  | addProject (projectTitle projectGoal projectDate : JsString) (stamp : Stamp)
  | addTask (taskTitle taskDate taskMinutes : JsString) (stamp : Stamp)
  | toggleTask (taskId : JsString)
  | deleteTask (taskId : JsString)
  | deleteProject (projectId : JsString)
  | addNote (noteBody : JsString) (stamp : Stamp) (now : Int)
  | deleteNote (noteId : JsString)
  | addFlashcard (cardFront cardBack : JsString) (stamp : Stamp) (now : Int)
  | deleteFlashcard (cardId : JsString)
  | completeFocusBlock
  /-- The card rated is the first that was due at `dueAt`. -/
  | rateCard (rating : ReviewRating) (dueAt reviewedAt : Int)
  | selectProject (projectId : JsString)
  | resetWorkspace

/-- `Number.parseInt(text, 10)`; `none` is `NaN`. -/
def parseInt (s : JsString) : Option Int :=
  let unsigned (s : JsString) : Option Int :=
    let field := s.takeWhile isDigit
    if field = [] then none else some (digitsValue field)
  match s.dropWhile isSpace with
  | 45 :: rest => (unsigned rest).map fun n => -n
  | 43 :: rest => unsigned rest
  | s => unsigned s

def estimatedMinutes (taskMinutes : JsString) : Int :=
  let minutes := (parseInt taskMinutes).getD 0
  min 1440 (max 5 (if minutes = 0 then 30 else minutes))

/-- `date || null`. -/
def orNull (date : JsString) : Option JsString := if date = [] then none else some date

def activeProject (state : StudyWorkspaceState) : Option StudyProject :=
  (state.projects.find? fun project => decide (some project.id = state.activeProjectId)).or
    state.projects.head?

def nextCard (state : StudyWorkspaceState) (now : Int) : Option Flashcard :=
  state.flashcards.find? fun card => isCardDue card now

/-- One project changed, the others as they are. -/
def updateProject (id : JsString) (f : StudyProject → StudyProject) (project : StudyProject) :
    StudyProject :=
  if project.id = id then f project else project

/-- An update of the active project, if there is one. -/
def updateActive (state : StudyWorkspaceState) (f : StudyProject → StudyProject) :
    StudyWorkspaceState :=
  match activeProject state with
  | none => state
  | some active => { state with projects := state.projects.map (updateProject active.id f) }

def addProject (state : StudyWorkspaceState) (projectTitle projectGoal projectDate : JsString)
    (stamp : Stamp) : StudyWorkspaceState :=
  if trim projectTitle = [] then state
  else { state with
    activeProjectId := some (generatedId "project" stamp)
    projects := state.projects ++ [{
      id := generatedId "project" stamp
      title := trim projectTitle
      goal := trim projectGoal
      targetDate := orNull projectDate
      focusedMinutes := 0
      tasks := []
      notes := [] }] }

def newTask (taskTitle taskDate taskMinutes : JsString) (stamp : Stamp) : StudyTask where
  id := generatedId "task" stamp
  title := trim taskTitle
  dueOn := orNull taskDate
  estimatedMinutes := (estimatedMinutes taskMinutes : Int)
  completed := false

def addTask (state : StudyWorkspaceState) (taskTitle taskDate taskMinutes : JsString)
    (stamp : Stamp) : StudyWorkspaceState :=
  if trim taskTitle = [] then state
  else updateActive state fun project =>
    { project with tasks := project.tasks ++ [newTask taskTitle taskDate taskMinutes stamp] }

def toggleTask (state : StudyWorkspaceState) (taskId : JsString) : StudyWorkspaceState :=
  updateActive state fun project =>
    { project with
      tasks := project.tasks.map fun task =>
        if task.id = taskId then { task with completed := !task.completed } else task }

def deleteTask (state : StudyWorkspaceState) (taskId : JsString) : StudyWorkspaceState :=
  { state with
    projects := state.projects.map fun project =>
      { project with tasks := project.tasks.filter fun task => task.id ≠ taskId } }

def deleteProject (state : StudyWorkspaceState) (projectId : JsString) : StudyWorkspaceState :=
  let projects := state.projects.filter fun project => project.id ≠ projectId
  { activeProjectId :=
      if state.activeProjectId = some projectId then firstProjectId projects
      else state.activeProjectId
    projects
    flashcards := state.flashcards.filter fun card => card.projectId ≠ projectId }

def newNote (noteBody : JsString) (stamp : Stamp) (now : Int) : StudyNote where
  id := generatedId "note" stamp
  body := trim noteBody
  createdAt := toISOString now

def addNote (state : StudyWorkspaceState) (noteBody : JsString) (stamp : Stamp) (now : Int) :
    StudyWorkspaceState :=
  if trim noteBody = [] then state
  else updateActive state fun project =>
    { project with notes := newNote noteBody stamp now :: project.notes }

def deleteNote (state : StudyWorkspaceState) (noteId : JsString) : StudyWorkspaceState :=
  { state with
    projects := state.projects.map fun project =>
      { project with notes := project.notes.filter fun note => note.id ≠ noteId } }

def addFlashcard (state : StudyWorkspaceState) (cardFront cardBack : JsString) (stamp : Stamp)
    (now : Int) : StudyWorkspaceState :=
  match activeProject state with
  | none => state
  | some active =>
    if trim cardFront = [] ∨ trim cardBack = [] then state
    else { state with
      flashcards := state.flashcards ++ [{
        id := generatedId "card" stamp
        projectId := active.id
        front := trim cardFront
        back := trim cardBack
        ease := 5 / 2
        intervalDays := 0
        repetitions := 0
        nextReviewAt := toISOString now
        lastReviewedAt := none }] }

def deleteFlashcard (state : StudyWorkspaceState) (cardId : JsString) : StudyWorkspaceState :=
  { state with flashcards := state.flashcards.filter fun card => card.id ≠ cardId }

section Runs

variable (D : Doubles)

def completeFocusBlock (state : StudyWorkspaceState) : StudyWorkspaceState :=
  updateActive state fun project =>
    { project with focusedMinutes := D.round (project.focusedMinutes + 25) }

def rateCard (state : StudyWorkspaceState) (rating : ReviewRating) (dueAt reviewedAt : Int) :
    StudyWorkspaceState :=
  match nextCard state dueAt with
  | none => state
  | some next => { state with
      flashcards := state.flashcards.map fun card =>
        if card.id = next.id then reviewFlashcard D card rating reviewedAt else card }

def step (state : StudyWorkspaceState) : Operation → StudyWorkspaceState
  | .addProject title goal date stamp => addProject state title goal date stamp
  | .addTask title date minutes stamp => addTask state title date minutes stamp
  | .toggleTask taskId => toggleTask state taskId
  | .deleteTask taskId => deleteTask state taskId
  | .deleteProject projectId => deleteProject state projectId
  | .addNote body stamp now => addNote state body stamp now
  | .deleteNote noteId => deleteNote state noteId
  | .addFlashcard front back stamp now => addFlashcard state front back stamp now
  | .deleteFlashcard cardId => deleteFlashcard state cardId
  | .completeFocusBlock => completeFocusBlock D state
  | .rateCard rating dueAt reviewedAt => rateCard D state rating dueAt reviewedAt
  | .selectProject projectId => { state with activeProjectId := some projectId }
  | .resetWorkspace => EMPTY_STUDY_WORKSPACE

/-- Generated ids are new among the rows of their kind, and the clock shows time
values. -/
def Operation.Fresh (state : StudyWorkspaceState) : Operation → Prop
  | .addProject _ _ _ stamp => generatedId "project" stamp ∉ state.projects.map StudyProject.id
  | .addTask _ _ _ stamp => generatedId "task" stamp ∉ taskIds state.projects
  | .addNote _ stamp now => IsTimeValue now
    ∧ ∀ project ∈ state.projects, generatedId "note" stamp ∉ project.notes.map StudyNote.id
  | .addFlashcard _ _ stamp now => IsTimeValue now
    ∧ generatedId "card" stamp ∉ state.flashcards.map Flashcard.id
  | .rateCard _ _ reviewedAt => ReviewTime reviewedAt
  | _ => True

/-- What the validator asks of a new row or a new count. An operation that
changes nothing always fits. -/
def Operation.Fits (state : StudyWorkspaceState) : Operation → Prop
  | .addProject title goal date _ => trim title = []
    ∨ (trim title).length ≤ 160 ∧ (trim goal).length ≤ 2000 ∧ (date = [] ∨ validDateOnly date)
  | .addTask title date _ _ => ∀ active ∈ activeProject state, trim title = []
    ∨ (trim title).length ≤ 300 ∧ (date = [] ∨ validDateOnly date) ∧ active.tasks.length < 500
  | .addNote body _ _ => ∀ active ∈ activeProject state, trim body = []
    ∨ (trim body).length ≤ 10000 ∧ active.notes.length < 1000
  | .addFlashcard front back _ _ => ∀ _active ∈ activeProject state,
    trim front = [] ∨ trim back = []
    ∨ (trim front).length ≤ 1000 ∧ (trim back).length ≤ 5000
  | .completeFocusBlock => ∀ active ∈ activeProject state,
    active.focusedMinutes + 25 ≤ 9007199254740991
  | .rateCard rating dueAt _ => ∀ card ∈ nextCard state dueAt,
    rating.val < 3 ∨ card.repetitions + 1 ≤ 9007199254740991
  | _ => True

instance (state : StudyWorkspaceState) : ∀ operation : Operation,
    Decidable (operation.Fresh state)
  | .addProject .. | .addTask .. => inferInstanceAs (Decidable (_ ∉ _))
  | .addNote .. | .addFlashcard .. => inferInstanceAs (Decidable (_ ∧ _))
  | .rateCard _ _ reviewedAt => inferInstanceAs (Decidable (ReviewTime reviewedAt))
  | .toggleTask _ | .deleteTask _ | .deleteProject _ | .deleteNote _ | .deleteFlashcard _
  | .completeFocusBlock | .selectProject _ | .resetWorkspace => .isTrue trivial

instance (state : StudyWorkspaceState) : ∀ operation : Operation,
    Decidable (operation.Fits state)
  | .addProject .. => inferInstanceAs (Decidable (_ ∨ _))
  | .addTask .. | .addNote .. | .addFlashcard .. | .completeFocusBlock =>
    inferInstanceAs (Decidable (∀ active ∈ activeProject state, _))
  | .rateCard _ dueAt _ => inferInstanceAs (Decidable (∀ card ∈ nextCard state dueAt, _))
  | .toggleTask _ | .deleteTask _ | .deleteProject _ | .deleteNote _ | .deleteFlashcard _
  | .selectProject _ | .resetWorkspace => .isTrue trivial

/-- `p` holds of every step of a run. -/
def AlongRun (p : StudyWorkspaceState → Operation → Prop) :
    StudyWorkspaceState → List Operation → Prop
  | _, [] => True
  | state, operation :: operations =>
    p state operation ∧ AlongRun p (step D state operation) operations

instance {p : StudyWorkspaceState → Operation → Prop} [∀ s op, Decidable (p s op)] :
    ∀ state operations, Decidable (AlongRun D p state operations) :=
  decidableAlongRun
where
  decidableAlongRun : ∀ state operations, Decidable (AlongRun D p state operations)
    | _, [] => .isTrue trivial
    | state, operation :: operations =>
      have := decidableAlongRun (step D state operation) operations
      inferInstanceAs (Decidable (_ ∧ _))

def run (operations : List Operation) : StudyWorkspaceState :=
  operations.foldl (step D) EMPTY_STUDY_WORKSPACE

/-- A reload gives back the same rows. -/
def Survives (state : StudyWorkspaceState) : Prop :=
  (parseStudyWorkspace D state.toJson).map (fun read => (read.projects, read.flashcards))
    = some (state.projects, state.flashcards)

/-! ## One step -/

variable {D} {state : StudyWorkspaceState}

theorem StudyWorkspaceState.Kept.survives (h : state.Kept D) : Survives D state := by
  rw [Survives, parseStudyWorkspace_toJson h]
  rfl

theorem activeProject_mem {active : StudyProject} (h : activeProject state = some active) :
    active ∈ state.projects := by
  unfold activeProject at h
  rcases Option.or_eq_some_iff.mp h with h | ⟨-, h⟩
  · exact List.mem_of_find?_eq_some h
  · exact List.mem_of_head? h

theorem taskIds_map_sublist {g : StudyProject → StudyProject}
    (h : ∀ p, ((g p).tasks.map StudyTask.id).Sublist (p.tasks.map StudyTask.id)) :
    ∀ projects : List StudyProject, (taskIds (projects.map g)).Sublist (taskIds projects)
  | [] => List.Sublist.slnil
  | p :: projects => by
    simp only [taskIds, List.map_cons, List.flatMap_cons]
    exact (h p).append (taskIds_map_sublist h projects)

theorem taskIds_sublist {projects projects' : List StudyProject} (h : projects'.Sublist projects) :
    (taskIds projects').Sublist (taskIds projects) := by
  induction h with
  | slnil => exact List.Sublist.refl _
  | cons p _ ih => exact ih.trans (List.sublist_append_right _ _)
  | cons_cons p _ ih =>
    simp only [taskIds, List.flatMap_cons]
    exact (List.Sublist.refl _).append ih

/-- A change of projects that leaves their ids keeps the state. -/
theorem StudyWorkspaceState.Kept.map_projects (h : state.Kept D) {g : StudyProject → StudyProject}
    (hid : ∀ p, (g p).id = p.id) (hvalid : ∀ p ∈ state.projects, (g p).Valid)
    (htasks : (StudyWorkspace.taskIds (state.projects.map g)).Nodup) :
    StudyWorkspaceState.Kept D { state with projects := state.projects.map g } := by
  have hids : (state.projects.map g).map StudyProject.id = state.projects.map StudyProject.id := by
    rw [List.map_map]
    exact List.map_congr_left fun p _ => hid p
  refine { projects := ?_, projectIds := ?_, taskIds := htasks, flashcards := ?_,
           cardIds := h.cardIds }
  · intro p hp
    obtain ⟨q, hq, rfl⟩ := List.mem_map.mp hp
    exact hvalid q hq
  · rw [hids]
    exact h.projectIds
  · rw [hids]
    exact h.flashcards

theorem updateProject_valid (h : state.Kept D) {active : StudyProject}
    (hactive : active ∈ state.projects) {f : StudyProject → StudyProject} (hf : (f active).Valid) :
    ∀ p ∈ state.projects, (updateProject active.id f p).Valid := by
  intro p hp
  by_cases heq : p.id = active.id
  · have hp' : p = active := List.inj_on_of_nodup_map h.projectIds hp hactive heq
    rw [hp', updateProject, if_pos rfl]
    exact hf
  · rw [updateProject, if_neg heq]
    exact h.projects p hp

theorem updateProject_id {id : JsString} {f : StudyProject → StudyProject}
    (hf : ∀ p, (f p).id = p.id) (p : StudyProject) : (updateProject id f p).id = p.id := by
  by_cases h : p.id = id
  · rw [updateProject, if_pos h, hf]
  · rw [updateProject, if_neg h]

/-- An update of the active project that brings no new task. -/
theorem StudyWorkspaceState.Kept.updateActive (h : state.Kept D) {f : StudyProject → StudyProject}
    (hid : ∀ p, (f p).id = p.id)
    (htasks : ∀ p, ((f p).tasks.map StudyTask.id).Sublist (p.tasks.map StudyTask.id))
    (hf : ∀ active ∈ activeProject state, active.Valid → (f active).Valid) :
    (updateActive state f).Kept D := by
  unfold StudyWorkspace.updateActive
  cases hactive : activeProject state with
  | none => exact h
  | some active =>
    have hmem := activeProject_mem hactive
    refine h.map_projects (updateProject_id hid)
      (updateProject_valid h hmem (hf active hactive (h.projects active hmem))) ?_
    refine h.taskIds.sublist (taskIds_map_sublist (fun p => ?_) _)
    by_cases hp : p.id = active.id
    · rw [updateProject, if_pos hp]
      exact htasks p
    · rw [updateProject, if_neg hp]

theorem dateFits {date : JsString} (h : date = [] ∨ validDateOnly date) :
    ∀ s ∈ orNull date, validDateOnly s := by
  unfold orNull
  split
  · rintro s ⟨⟩
  · rintro s ⟨⟩
    exact h.resolve_left ‹_›

theorem textFits_trim {s : JsString} {n : Nat} (h : trim s ≠ []) (hn : (trim s).length ≤ n) :
    TextFits n (trim s) :=
  ⟨trim_trim_ne_nil h, hn⟩

theorem addProject_kept (h : state.Kept D) {title goal date : JsString} {stamp : Stamp}
    (hfresh : (Operation.addProject title goal date stamp).Fresh state)
    (hfits : (Operation.addProject title goal date stamp).Fits state) :
    (addProject state title goal date stamp).Kept D := by
  unfold addProject
  split
  · exact h
  · rename_i htitle
    obtain ⟨hlength, hgoal, hdate⟩ := hfits.resolve_left htitle
    refine { projects := ?_, projectIds := ?_, taskIds := ?_, flashcards := ?_,
             cardIds := h.cardIds }
    · intro p hp
      rcases List.mem_append.mp hp with hp | hp
      · exact h.projects p hp
      · rw [List.mem_singleton.mp hp]
        exact {
          id := generatedId_fits (by decide) stamp
          title := textFits_trim htitle hlength
          goal := .inr hgoal
          targetDate := dateFits hdate
          safe := ⟨rfl, by norm_num⟩
          focusedMinutes := le_refl 0
          taskCount := Nat.zero_le _
          noteCount := Nat.zero_le _
          tasks := by simp
          notes := by simp
          taskIds := List.nodup_nil
          noteIds := List.nodup_nil }
    · rw [List.map_append, List.map_singleton]
      refine h.projectIds.append (List.nodup_singleton _) ?_
      rw [List.disjoint_singleton]
      exact hfresh
    · simpa only [taskIds, List.flatMap_append, List.flatMap_singleton, List.map_nil,
        List.append_nil] using h.taskIds
    · intro card hcard
      have hvalid := h.flashcards card hcard
      exact { hvalid with
        listed := by
          rw [List.map_append]
          exact List.mem_append_left _ hvalid.listed }

theorem estimatedMinutes_range (taskMinutes : JsString) :
    5 ≤ estimatedMinutes taskMinutes ∧ estimatedMinutes taskMinutes ≤ 1440 :=
  ⟨le_min (by decide) (le_max_left _ _), min_le_left _ _⟩

theorem newTask_valid {title date : JsString} (minutes : JsString) (stamp : Stamp)
    (htitle : trim title ≠ []) (hlength : (trim title).length ≤ 300)
    (hdate : date = [] ∨ validDateOnly date) : (newTask title date minutes stamp).Valid := by
  obtain ⟨hlow, hhigh⟩ := estimatedMinutes_range minutes
  have hlow' : (1 : Int) ≤ estimatedMinutes minutes := by omega
  exact {
    id := generatedId_fits (by decide) stamp
    title := textFits_trim htitle hlength
    dueOn := dateFits hdate
    safe := isSafeInteger_intCast (abs_le.mpr ⟨by omega, by omega⟩)
    estimatedMinutes := ⟨by simp only [newTask]; exact_mod_cast hlow',
      by simp only [newTask]; exact_mod_cast hhigh⟩ }

/-- A new task in the project `id`. -/
def withTask (id : JsString) (task : StudyTask) : StudyProject → StudyProject :=
  updateProject id fun p => { p with tasks := p.tasks ++ [task] }

/-- One new task in one project is a new task of the workspace. -/
theorem taskIds_withTask (task : StudyTask) (id : JsString) : ∀ {projects : List StudyProject},
    (projects.map StudyProject.id).Nodup → (taskIds projects).Nodup → task.id ∉ taskIds projects →
    (taskIds (projects.map (withTask id task))).Nodup
      ∧ ∀ i ∈ taskIds (projects.map (withTask id task)), i = task.id ∨ i ∈ taskIds projects
  | [], _, _, _ => ⟨List.nodup_nil, by simp [taskIds]⟩
  | p :: projects, hids, htasks, hnew => by
    obtain ⟨hp, hrest⟩ := List.nodup_cons.mp hids
    simp only [taskIds, List.flatMap_cons, List.mem_append, not_or] at htasks hnew
    obtain ⟨hhead, htail, hdisjoint⟩ := List.nodup_append.mp htasks
    by_cases heq : p.id = id
    · -- the projects after it are other projects
      have hsame : projects.map (withTask id task) = projects := by
        refine (List.map_congr_left fun q hq => ?_).trans (List.map_id' _)
        refine if_neg fun hq' => hp ?_
        exact List.mem_map.mpr ⟨q, hq, hq'.trans heq.symm⟩
      have hself : withTask id task p = { p with tasks := p.tasks ++ [task] } := if_pos heq
      simp only [taskIds, List.map_cons, List.flatMap_cons, hsame, hself, List.map_append,
        List.map_nil, List.mem_append, List.mem_singleton]
      refine ⟨?_, by tauto⟩
      refine List.nodup_append.mpr ⟨List.nodup_append.mpr ⟨hhead, List.nodup_singleton _, ?_⟩,
        htail, ?_⟩
      · rintro i hi j hj rfl
        exact hnew.1 (List.mem_singleton.mp hj ▸ hi)
      · rintro i hi j hj rfl
        rcases List.mem_append.mp hi with hi | hi
        · exact hdisjoint i hi i hj rfl
        · exact hnew.2 (List.mem_singleton.mp hi ▸ hj)
    · obtain ⟨hnodup, hmem⟩ := taskIds_withTask task id hrest htail hnew.2
      have hself : withTask id task p = p := if_neg heq
      simp only [taskIds, List.map_cons, List.flatMap_cons, hself, List.mem_append]
        at hnodup hmem ⊢
      refine ⟨List.nodup_append.mpr ⟨hhead, hnodup, ?_⟩, ?_⟩
      · rintro i hi j hj rfl
        rcases hmem i hj with rfl | hj
        · exact hnew.1 hi
        · exact hdisjoint i hi i hj rfl
      · rintro i (hi | hi)
        · exact .inr (.inl hi)
        · rcases hmem i hi with rfl | hi
          · exact .inl rfl
          · exact .inr (.inr hi)

theorem addTask_kept (h : state.Kept D) {title date minutes : JsString} {stamp : Stamp}
    (hfresh : (Operation.addTask title date minutes stamp).Fresh state)
    (hfits : (Operation.addTask title date minutes stamp).Fits state) :
    (addTask state title date minutes stamp).Kept D := by
  unfold addTask
  split
  · exact h
  · rename_i htitle
    unfold updateActive
    cases hactive : activeProject state with
    | none => exact h
    | some active =>
      obtain ⟨hlength, hdate, hcount⟩ := (hfits active hactive).resolve_left htitle
      have hmem := activeProject_mem hactive
      have hvalid := h.projects active hmem
      have htask := newTask_valid minutes stamp htitle hlength hdate
      have hnew : (newTask title date minutes stamp).id ∉ taskIds state.projects := hfresh
      refine h.map_projects (updateProject_id fun _ => rfl)
        (updateProject_valid h hmem { hvalid with taskCount := ?_, tasks := ?_, taskIds := ?_ })
        (taskIds_withTask _ active.id h.projectIds h.taskIds hnew).1
      · rw [List.length_append, List.length_singleton]
        exact hcount
      · intro task hmemTask
        rcases List.mem_append.mp hmemTask with hold | hnew
        · exact hvalid.tasks task hold
        · rw [List.mem_singleton.mp hnew]
          exact htask
      · rw [List.map_append, List.map_singleton]
        refine hvalid.taskIds.append (List.nodup_singleton _) ?_
        rw [List.disjoint_singleton]
        exact fun hold => hfresh (List.mem_flatMap.mpr ⟨active, hmem, hold⟩)

/-- Some rows changed, and no id. -/
theorem map_update_ids {α : Type} {id : α → JsString} {p : α → Prop} [DecidablePred p] {f : α → α}
    (hf : ∀ row, id (f row) = id row) (rows : List α) :
    (rows.map fun row => if p row then f row else row).map id = rows.map id := by
  rw [List.map_map]
  refine List.map_congr_left fun row _ => ?_
  by_cases h : p row
  · rw [Function.comp_apply, if_pos h, hf]
  · rw [Function.comp_apply, if_neg h]

theorem toggleTask_kept (h : state.Kept D) (taskId : JsString) :
    (toggleTask state taskId).Kept D := by
  have hids (tasks : List StudyTask) : (tasks.map fun task =>
      if task.id = taskId then { task with completed := !task.completed } else task).map
        StudyTask.id = tasks.map StudyTask.id :=
    map_update_ids (f := fun task => { task with completed := !task.completed }) (fun _ => rfl)
      tasks
  refine h.updateActive (fun _ => rfl) (fun p => ?_) fun active _ hvalid => ?_
  · rw [hids]
  · refine { hvalid with taskCount := ?_, tasks := ?_, taskIds := ?_ }
    · rw [List.length_map]
      exact hvalid.taskCount
    · intro task htask
      obtain ⟨old, hold, rfl⟩ := List.mem_map.mp htask
      have hvalidOld := hvalid.tasks old hold
      split
      · exact { hvalidOld with }
      · exact hvalidOld
    · rw [hids]
      exact hvalid.taskIds

/-- A project with some of its rows left out. -/
theorem StudyProject.Valid.filter {project : StudyProject} (h : project.Valid)
    (keepTask : StudyTask → Bool) (keepNote : StudyNote → Bool) :
    StudyProject.Valid { project with
      tasks := project.tasks.filter keepTask
      notes := project.notes.filter keepNote } :=
  { h with
    taskCount := (List.length_filter_le _ _).trans h.taskCount
    noteCount := (List.length_filter_le _ _).trans h.noteCount
    tasks := fun task htask => h.tasks task (List.mem_filter.mp htask).1
    notes := fun note hnote => h.notes note (List.mem_filter.mp hnote).1
    taskIds := h.taskIds.sublist (List.filter_sublist.map _)
    noteIds := h.noteIds.sublist (List.filter_sublist.map _) }

theorem deleteTask_kept (h : state.Kept D) (taskId : JsString) :
    (deleteTask state taskId).Kept D := by
  refine h.map_projects (fun _ => rfl) (fun p hp => ?_) ?_
  · have hvalid := (h.projects p hp).filter (fun task => task.id ≠ taskId) fun _ => true
    rwa [List.filter_true] at hvalid
  · refine h.taskIds.sublist (taskIds_map_sublist (fun p => ?_) _)
    exact List.filter_sublist.map _

theorem deleteNote_kept (h : state.Kept D) (noteId : JsString) :
    (deleteNote state noteId).Kept D := by
  refine h.map_projects (fun _ => rfl) (fun p hp => ?_) ?_
  · have hvalid := (h.projects p hp).filter (fun _ => true) fun note => note.id ≠ noteId
    rwa [List.filter_true] at hvalid
  · refine h.taskIds.sublist (taskIds_map_sublist (fun p => ?_) _)
    exact List.Sublist.refl _

theorem deleteProject_kept (h : state.Kept D) (projectId : JsString) :
    (deleteProject state projectId).Kept D := by
  refine {
    projects := fun p hp => h.projects p (List.mem_filter.mp hp).1
    projectIds := h.projectIds.sublist (List.filter_sublist.map _)
    taskIds := h.taskIds.sublist (taskIds_sublist List.filter_sublist)
    flashcards := ?_
    cardIds := h.cardIds.sublist (List.filter_sublist.map _) }
  intro card hcard
  obtain ⟨hold, hother⟩ := List.mem_filter.mp hcard
  have hvalid := h.flashcards card hold
  obtain ⟨p, hp, hid⟩ := List.mem_map.mp hvalid.listed
  have hkept : p ∈ state.projects.filter fun project => project.id ≠ projectId := by
    refine List.mem_filter.mpr ⟨hp, ?_⟩
    rw [hid]
    exact hother
  exact { hvalid with listed := List.mem_map.mpr ⟨p, hkept, hid⟩ }

theorem addNote_kept (h : state.Kept D) {body : JsString} {stamp : Stamp} {now : Int}
    (hfresh : (Operation.addNote body stamp now).Fresh state)
    (hfits : (Operation.addNote body stamp now).Fits state) :
    (addNote state body stamp now).Kept D := by
  unfold addNote
  split
  · exact h
  · rename_i hbody
    refine h.updateActive (fun _ => rfl) (fun p => List.Sublist.refl _)
      fun active hactive hvalid => ?_
    obtain ⟨hlength, hcount⟩ := (hfits active hactive).resolve_left hbody
    have hnote : (newNote body stamp now).Valid := {
      id := generatedId_fits (by decide) stamp
      body := textFits_trim hbody hlength
      createdAt := validIsoDateTime_toISOString hfresh.1 }
    refine { hvalid with noteCount := ?_, notes := ?_, noteIds := ?_ }
    · rw [List.length_cons]
      exact hcount
    · intro note hmem
      rcases List.mem_cons.mp hmem with rfl | hmem
      · exact hnote
      · exact hvalid.notes note hmem
    · rw [List.map_cons]
      exact List.nodup_cons.mpr ⟨hfresh.2 active (activeProject_mem hactive), hvalid.noteIds⟩

theorem completeFocusBlock_kept (h : state.Kept D)
    (hfits : Operation.completeFocusBlock.Fits state) : (completeFocusBlock D state).Kept D := by
  refine h.updateActive (fun _ => rfl) (fun p => List.Sublist.refl _)
    fun active hactive hvalid => ?_
  have hadd := round_add (D := D) hvalid.safe hvalid.focusedMinutes 25
    (by exact_mod_cast hfits active hactive)
  exact { hvalid with
    safe := by exact_mod_cast hadd.1
    focusedMinutes := by exact_mod_cast hadd.2 }

theorem addFlashcard_kept (h : state.Kept D) {front back : JsString} {stamp : Stamp} {now : Int}
    (hfresh : (Operation.addFlashcard front back stamp now).Fresh state)
    (hfits : (Operation.addFlashcard front back stamp now).Fits state) :
    (addFlashcard state front back stamp now).Kept D := by
  unfold addFlashcard
  cases hactive : activeProject state with
  | none => exact h
  | some active =>
    have hmem := activeProject_mem hactive
    dsimp only
    split
    · exact h
    · rename_i hblank
      rw [not_or] at hblank
      obtain ⟨hfront, hback⟩ := ((hfits active hactive).resolve_left hblank.1).resolve_left hblank.2
      refine { h with flashcards := ?_, cardIds := ?_ }
      · intro card hcard
        rcases List.mem_append.mp hcard with hcard | hcard
        · exact h.flashcards card hcard
        · rw [List.mem_singleton.mp hcard]
          exact {
            id := generatedId_fits (by decide) stamp
            projectId := (h.projects active hmem).id
            front := textFits_trim hblank.1 hfront
            back := textFits_trim hblank.2 hback
            intervalSafe := ⟨rfl, by norm_num⟩
            repetitionsSafe := ⟨rfl, by norm_num⟩
            nextReviewAt := validIsoDateTime_toISOString hfresh.1
            lastReviewedAt := by rintro s ⟨⟩
            listed := List.mem_map.mpr ⟨active, hmem, rfl⟩
            ease := ⟨minEase_le, by norm_num⟩
            intervalDays := ⟨le_refl 0, by norm_num⟩
            repetitions := le_refl 0 }
      · rw [List.map_append, List.map_singleton]
        refine h.cardIds.append (List.nodup_singleton _) ?_
        rw [List.disjoint_singleton]
        exact hfresh.2

theorem deleteFlashcard_kept (h : state.Kept D) (cardId : JsString) :
    (deleteFlashcard state cardId).Kept D :=
  { h with
    flashcards := fun card hcard => h.flashcards card (List.mem_filter.mp hcard).1
    cardIds := h.cardIds.sublist (List.filter_sublist.map _) }

theorem rateCard_kept (h : state.Kept D) {rating : ReviewRating} {dueAt reviewedAt : Int}
    (hfresh : (Operation.rateCard rating dueAt reviewedAt).Fresh state)
    (hfits : (Operation.rateCard rating dueAt reviewedAt).Fits state) :
    (rateCard D state rating dueAt reviewedAt).Kept D := by
  unfold rateCard
  cases hnext : nextCard state dueAt with
  | none => exact h
  | some next =>
    have hmem : next ∈ state.flashcards := List.mem_of_find?_eq_some hnext
    dsimp only
    refine { h with flashcards := ?_, cardIds := ?_ }
    · intro card hcard
      obtain ⟨old, hold, rfl⟩ := List.mem_map.mp hcard
      have hvalid := h.flashcards old hold
      split
      · rename_i hid
        have hsame : old = next := List.inj_on_of_nodup_map h.cardIds hold hmem hid
        exact reviewFlashcard_valid hvalid hfresh (hsame ▸ hfits next hnext)
      · exact hvalid
    · have hids : (state.flashcards.map fun card =>
          if card.id = next.id then reviewFlashcard D card rating reviewedAt else card).map
            Flashcard.id = state.flashcards.map Flashcard.id :=
        map_update_ids (f := fun card => reviewFlashcard D card rating reviewedAt) (fun _ => rfl) _
      rw [hids]
      exact h.cardIds

theorem empty_kept : EMPTY_STUDY_WORKSPACE.Kept D where
  projects := by simp [EMPTY_STUDY_WORKSPACE]
  projectIds := List.nodup_nil
  taskIds := List.nodup_nil
  flashcards := by simp [EMPTY_STUDY_WORKSPACE]
  cardIds := List.nodup_nil

/-- One operation within the bounds keeps the state. -/
theorem step_kept (h : state.Kept D) {operation : Operation} (hfresh : operation.Fresh state)
    (hfits : operation.Fits state) : (step D state operation).Kept D := by
  cases operation with
  | addProject => exact addProject_kept h hfresh hfits
  | addTask => exact addTask_kept h hfresh hfits
  | toggleTask taskId => exact toggleTask_kept h taskId
  | deleteTask taskId => exact deleteTask_kept h taskId
  | deleteProject projectId => exact deleteProject_kept h projectId
  | addNote => exact addNote_kept h hfresh hfits
  | deleteNote noteId => exact deleteNote_kept h noteId
  | addFlashcard => exact addFlashcard_kept h hfresh hfits
  | deleteFlashcard cardId => exact deleteFlashcard_kept h cardId
  | completeFocusBlock => exact completeFocusBlock_kept h hfits
  | rateCard => exact rateCard_kept h hfresh hfits
  | selectProject => exact { h with }
  | resetWorkspace => exact empty_kept

/-! ## Runs -/

theorem run_kept : ∀ {operations : List Operation} {state : StudyWorkspaceState}, state.Kept D →
    AlongRun D (fun s op => op.Fresh s) state operations →
    AlongRun D (fun s op => op.Fits s) state operations →
    (operations.foldl (step D) state).Kept D
  | [], _, h, _, _ => h
  | _ :: _, _, h, ⟨hfresh, hfreshRest⟩, ⟨hfits, hfitsRest⟩ => by
    rw [List.foldl_cons]
    exact run_kept (step_kept h hfresh hfits) hfreshRest hfitsRest

/-- A workspace whose operations stay within the bounds of the validator
survives a reload, and whatever the validator returns it returns again. -/
theorem workspace_survives (D : Doubles) :
    (∀ operations, AlongRun D (fun s op => op.Fresh s) EMPTY_STUDY_WORKSPACE operations →
      AlongRun D (fun s op => op.Fits s) EMPTY_STUDY_WORKSPACE operations →
      Survives D (run D operations))
    ∧ ∀ value state, parseStudyWorkspace D value = some state →
      parseStudyWorkspace D state.toJson = some state
      ∧ (state.projects.map StudyProject.id).Nodup
      ∧ (taskIds state.projects).Nodup
      ∧ (state.flashcards.map Flashcard.id).Nodup
      ∧ ∀ card ∈ state.flashcards, card.projectId ∈ state.projects.map StudyProject.id := by
  refine ⟨fun operations hfresh hfits => (run_kept empty_kept hfresh hfits).survives, ?_⟩
  intro value state h
  have hvalid := parseStudyWorkspace_valid h
  exact ⟨parseStudyWorkspace_idempotent hvalid, hvalid.projectIds, hvalid.taskIds, hvalid.cardIds,
    fun card hcard => (hvalid.flashcards card hcard).listed⟩

end Runs

/-! ## A rated card, and a title too long -/

def exactDoubles : Doubles where
  round x := x
  round_mono _ _ h := h
  round_int _ _ := rfl
  round_near x h _ := by
    rw [sub_self, abs_zero]
    exact div_nonneg (by linarith) (by norm_num)

def firstStamp : Stamp where
  now := 1790000000000
  random := text "k3x9w2a"
  now_le := by decide
  random_le := by decide

/-- A project with half an hour of focus and a card, recalled perfectly. -/
def ratedCard : List Operation :=
  [.addProject (text "Go") [] [] firstStamp, .completeFocusBlock,
    .addFlashcard (text "ko") (text "a loop") firstStamp 1790000000000,
    .rateCard ⟨5, by decide⟩ 1790000000000 1790000060000]

theorem ratedCard_survives : Survives exactDoubles (run exactDoubles ratedCard)
    ∧ parseStudyWorkspace exactDoubles EMPTY_STUDY_WORKSPACE.toJson = some EMPTY_STUDY_WORKSPACE :=
  ⟨(workspace_survives exactDoubles).1 ratedCard (by decide +kernel) (by decide +kernel),
    ((workspace_survives exactDoubles).2 EMPTY_STUDY_WORKSPACE.toJson EMPTY_STUDY_WORKSPACE
      (by decide +kernel)).1⟩

/-- A project under a title of 161 letters. -/
def longTitle : List Operation := [.addProject (List.replicate 161 97) [] [] firstStamp]

theorem longTitle_dropped :
    AlongRun exactDoubles (fun s op => op.Fresh s) EMPTY_STUDY_WORKSPACE longTitle
      ∧ (run exactDoubles longTitle).projects.length = 1
      ∧ ¬ Survives exactDoubles (run exactDoubles longTitle) :=
  ⟨by decide +kernel, by decide +kernel, by unfold Survives; decide +kernel⟩

end StudyWorkspace
