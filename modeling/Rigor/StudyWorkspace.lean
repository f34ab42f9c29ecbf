import Mathlib.Algebra.Order.Floor.Semiring
import Mathlib.Data.List.DropRight
import Mathlib.Data.Nat.Digits.Defs
import Mathlib.Data.Rat.Floor
import Mathlib.Tactic.Linarith
import Mathlib.Tactic.NormNum
import Rigor.IsoDates
import Rigor.PyText

/-!
# The study workspace

The browser keeps a guest's projects, tasks, notes and flashcards as JSON text,
and what it reads back passes a validator of its own, which drops a row with one
field out of bounds. The rows of a state that is `Kept` come back unchanged
(`parseStudyWorkspace_toJson`), and what the validator returns is `Valid`
(`parseStudyWorkspace_valid`), so that it comes back as a whole.
-/

namespace StudyWorkspace

open CodeTyping IsoDates

structure StudyTask where
  id : JsString
  title : JsString
  dueOn : Option JsString
  estimatedMinutes : Rat
  completed : Bool
deriving DecidableEq

structure StudyNote where
  id : JsString
  body : JsString
  createdAt : JsString
deriving DecidableEq

structure StudyProject where
  id : JsString
  title : JsString
  goal : JsString
  targetDate : Option JsString
  focusedMinutes : Rat
  tasks : List StudyTask
  notes : List StudyNote
deriving DecidableEq

structure Flashcard where
  id : JsString
  projectId : JsString
  front : JsString
  back : JsString
  ease : Rat
  intervalDays : Rat
  repetitions : Rat
  nextReviewAt : JsString
  lastReviewedAt : Option JsString
deriving DecidableEq

structure StudyWorkspaceState where
  activeProjectId : Option JsString
  projects : List StudyProject
  flashcards : List Flashcard
deriving DecidableEq

def EMPTY_STUDY_WORKSPACE : StudyWorkspaceState where
  activeProjectId := none
  projects := []
  flashcards := []

/-- Doubles, by the double nearest to a rational. The integers to `2^53` are
doubles, and from 1 to `2^53` a double is near. -/
structure Doubles where
  round : Rat → Rat
  round_mono : ∀ x y, x ≤ y → round x ≤ round y
  round_int : ∀ n : Int, |n| ≤ 9007199254740992 → round n = n
  round_near : ∀ x, 1 ≤ x → x ≤ 9007199254740992 → |round x - x| ≤ x / 9007199254740992

/-! ## Text -/

/-- The code units `String.prototype.trim` takes off. -/
def isSpace (c : Nat) : Bool :=
  c ∈ [9, 10, 11, 12, 13, 32, 160, 5760, 8232, 8233, 8239, 8287, 12288, 65279]
    || 8192 ≤ c && c ≤ 8202

def trim (s : JsString) : JsString := (s.dropWhile isSpace).rdropWhile isSpace

theorem mem_trim {s : JsString} {c : Nat} (h : c ∈ s) (hc : isSpace c = false) : c ∈ trim s := by
  have hmem : c ∈ s.dropWhile isSpace := by
    rw [← List.takeWhile_append_dropWhile (p := isSpace) (l := s), List.mem_append] at h
    rcases h with h | h
    · exact absurd (List.mem_takeWhile_imp h) (by simp [hc])
    · exact h
  rw [← List.mem_reverse, ← List.takeWhile_append_dropWhile (p := isSpace)
    (l := (s.dropWhile isSpace).reverse), List.mem_append] at hmem
  rcases hmem with hmem | hmem
  · exact absurd (List.mem_takeWhile_imp hmem) (by simp [hc])
  · exact List.mem_reverse.mpr hmem

theorem trim_ne_nil {s : JsString} {c : Nat} (h : c ∈ s) (hc : isSpace c = false) : trim s ≠ [] :=
  List.ne_nil_of_mem (mem_trim h hc)

/-- A trimmed text that is not empty stays so. -/
theorem trim_trim_ne_nil {s : JsString} (h : trim s ≠ []) : trim (trim s) ≠ [] := by
  have hlast : ¬ isSpace ((trim s).getLast h) = true := List.rdropWhile_last_not isSpace _ h
  exact trim_ne_nil (List.getLast_mem h) (Bool.eq_false_iff.mpr hlast)

/-! ## Fields of a row -/

/-- A text that passes the check. -/
def checkedText (check : JsString → Bool) (value : Option JsValue) : Option JsString :=
  match value with
  | some (.string s) => if check s then some s else none
  | _ => none

/-- What `boundedText` keeps. -/
def TextFits (maxLength : Nat) (s : JsString) : Prop := trim s ≠ [] ∧ s.length ≤ maxLength

instance (maxLength : Nat) (s : JsString) : Decidable (TextFits maxLength s) :=
  inferInstanceAs (Decidable (_ ∧ _))

def boundedText (value : Option JsValue) (maxLength : Nat) : Option JsString :=
  checkedText (fun s => TextFits maxLength s) value

/-- The check of a goal, which may be empty. -/
def anyText (value : Option JsValue) (maxLength : Nat) : Option JsString :=
  checkedText (fun s => s = [] ∨ s.length ≤ maxLength) value

/-- `null`, or a text that passes the check. -/
def nullOr (check : JsString → Bool) (value : Option JsValue) : Option (Option JsString) :=
  match value with
  | some .null => some none
  | _ => (checkedText check value).map some

/-- `Number.isSafeInteger`. -/
def IsSafeInteger (x : Rat) : Prop := x.den = 1 ∧ |x| ≤ 9007199254740991

instance (x : Rat) : Decidable (IsSafeInteger x) := inferInstanceAs (Decidable (_ ∧ _))

/-- `Number(value)` of a safe integer. -/
def safeInteger (value : Option JsValue) : Option Rat :=
  match value with
  | some (.number (.finite x)) => if IsSafeInteger x then some x else none
  | _ => none

def finiteNumber (value : Option JsValue) : Option Rat :=
  match value with
  | some (.number (.finite x)) => some x
  | _ => none

def boolean (value : Option JsValue) : Option Bool :=
  match value with
  | some (.bool b) => some b
  | _ => none

def arrayOf (value : Option JsValue) : Option (List JsValue) :=
  match value with
  | some (.array items) => some items
  | _ => none

def nullable : Option JsString → JsValue
  | none => .null
  | some s => .string s

def number (x : Rat) : JsValue := .number (.finite x)

section Fields

variable {value : Option JsValue} {s : JsString} {n : Nat} {x : Rat} {check : JsString → Bool}

@[simp] theorem checkedText_string : checkedText check (some (.string s))
    = if check s then some s else none := rfl

@[simp] theorem boundedText_string : boundedText (some (.string s)) n
    = if TextFits n s then some s else none := by
  simp [boundedText]

@[simp] theorem anyText_string : anyText (some (.string s)) n
    = if s = [] ∨ s.length ≤ n then some s else none := by
  simp [anyText]

@[simp] theorem safeInteger_number : safeInteger (some (number x))
    = if IsSafeInteger x then some x else none := rfl

@[simp] theorem finiteNumber_number : finiteNumber (some (number x)) = some x := rfl

@[simp] theorem boolean_bool {b : Bool} : boolean (some (.bool b)) = some b := rfl

@[simp] theorem arrayOf_array {items : List JsValue} : arrayOf (some (.array items)) = some items :=
  rfl

theorem nullOr_nullable {d : Option JsString} (h : ∀ s ∈ d, check s) :
    nullOr check (some (nullable d)) = some d := by
  cases d with
  | none => rfl
  | some s => simp [nullable, nullOr, h s rfl]

theorem checkedText_checks (h : checkedText check value = some s) : check s := by
  unfold checkedText at h
  split at h
  · split at h
    · cases h
      assumption
    · cases h
  · cases h

theorem boundedText_fits (h : boundedText value n = some s) : TextFits n s :=
  of_decide_eq_true (checkedText_checks h)

theorem anyText_fits (h : anyText value n = some s) : s = [] ∨ s.length ≤ n :=
  of_decide_eq_true (checkedText_checks h)

theorem safeInteger_isSafe (h : safeInteger value = some x) : IsSafeInteger x := by
  unfold safeInteger at h
  split at h
  · split at h
    · cases h
      assumption
    · cases h
  · cases h

theorem nullOr_checks {d : Option JsString} (h : nullOr check value = some d) :
    ∀ s ∈ d, check s := by
  unfold nullOr at h
  split at h
  · cases h
    rintro s ⟨⟩
  · obtain ⟨t, ht, rfl⟩ := Option.map_eq_some_iff.mp h
    rintro s ⟨⟩
    exact checkedText_checks ht

end Fields

/-! ## Rows kept once -/

section Rows

variable {α : Type} (id : α → JsString)

/-- The rows whose id is neither seen before nor that of an earlier row. -/
def dropSeen : List JsString → List α → List α
  | _, [] => []
  | seen, row :: rows =>
    if id row ∈ seen then dropSeen seen rows else row :: dropSeen (id row :: seen) rows

def uniqueRows (rows : List α) : List α := dropSeen id [] rows

variable {id}

theorem dropSeen_sublist : ∀ (rows : List α) (seen : List JsString),
    (dropSeen id seen rows).Sublist rows
  | [], _ => List.Sublist.slnil
  | row :: rows, seen => by
    by_cases h : id row ∈ seen
    · rw [dropSeen, if_pos h]
      exact (dropSeen_sublist rows seen).cons row
    · rw [dropSeen, if_neg h]
      exact (dropSeen_sublist rows _).cons_cons row

theorem dropSeen_nodup : ∀ (rows : List α) (seen : List JsString),
    ((dropSeen id seen rows).map id).Nodup ∧ ∀ i ∈ (dropSeen id seen rows).map id, i ∉ seen
  | [], _ => ⟨List.nodup_nil, by simp [dropSeen]⟩
  | row :: rows, seen => by
    by_cases h : id row ∈ seen
    · rw [dropSeen, if_pos h]
      exact dropSeen_nodup rows seen
    · obtain ⟨hnodup, hnew⟩ := dropSeen_nodup rows (id row :: seen)
      rw [dropSeen, if_neg h, List.map_cons]
      refine ⟨List.nodup_cons.mpr ⟨fun hmem => hnew _ hmem List.mem_cons_self, hnodup⟩, ?_⟩
      intro i hi
      rcases List.mem_cons.mp hi with rfl | hi
      · exact h
      · exact fun hseen => hnew i hi (List.mem_cons_of_mem _ hseen)

theorem dropSeen_of_nodup : ∀ (rows : List α) (seen : List JsString), (rows.map id).Nodup →
    (∀ i ∈ rows.map id, i ∉ seen) → dropSeen id seen rows = rows
  | [], _, _, _ => rfl
  | row :: rows, seen, hnodup, hnew => by
    obtain ⟨hrow, hrest⟩ := List.nodup_cons.mp hnodup
    rw [dropSeen, if_neg (hnew _ List.mem_cons_self), dropSeen_of_nodup rows _ hrest]
    intro i hi
    rw [List.mem_cons, not_or]
    exact ⟨fun heq => hrow (heq ▸ hi), hnew i (List.mem_cons_of_mem _ hi)⟩

theorem uniqueRows_of_nodup {rows : List α} (h : (rows.map id).Nodup) : uniqueRows id rows = rows :=
  dropSeen_of_nodup rows [] h (by simp)

theorem mem_uniqueRows {rows : List α} {row : α} (h : row ∈ uniqueRows id rows) : row ∈ rows :=
  (dropSeen_sublist rows []).subset h

theorem uniqueRows_nodup (rows : List α) : ((uniqueRows id rows).map id).Nodup :=
  (dropSeen_nodup rows []).1

end Rows

/-! ## The rows of a workspace -/

def StudyTask.toJson (task : StudyTask) : JsValue :=
  .object [(text "id", .string task.id), (text "title", .string task.title),
    (text "dueOn", nullable task.dueOn), (text "estimatedMinutes", number task.estimatedMinutes),
    (text "completed", .bool task.completed)]

def parseTask (value : JsValue) : Option StudyTask := do
  let id ← boundedText (value.member "id") 100
  let title ← boundedText (value.member "title") 300
  let dueOn ← nullOr validDateOnly (value.member "dueOn")
  let estimatedMinutes ← safeInteger (value.member "estimatedMinutes")
  let completed ← boolean (value.member "completed")
  guard (1 ≤ estimatedMinutes ∧ estimatedMinutes ≤ 1440)
  return { id, title, dueOn, estimatedMinutes, completed }

structure StudyTask.Valid (task : StudyTask) : Prop where
  id : TextFits 100 task.id
  title : TextFits 300 task.title
  dueOn : ∀ s ∈ task.dueOn, validDateOnly s
  safe : IsSafeInteger task.estimatedMinutes
  estimatedMinutes : 1 ≤ task.estimatedMinutes ∧ task.estimatedMinutes ≤ 1440

theorem parseTask_valid {value : JsValue} {task : StudyTask} (h : parseTask value = some task) :
    task.Valid := by
  simp only [parseTask, Option.bind_eq_bind, Option.bind_eq_some_iff, Option.pure_def,
    Option.guard_eq_some', exists_const] at h
  obtain ⟨id, hid, title, htitle, dueOn, hdue, minutes, hminutes, completed, -, hrange, ⟨⟩⟩ := h
  exact ⟨boundedText_fits hid, boundedText_fits htitle, nullOr_checks hdue,
    safeInteger_isSafe hminutes, hrange⟩

theorem parseTask_toJson {task : StudyTask} (h : task.Valid) :
    parseTask task.toJson = some task := by
  have hmembers : task.toJson.member "id" = some (.string task.id)
      ∧ task.toJson.member "title" = some (.string task.title)
      ∧ task.toJson.member "dueOn" = some (nullable task.dueOn)
      ∧ task.toJson.member "estimatedMinutes" = some (number task.estimatedMinutes)
      ∧ task.toJson.member "completed" = some (.bool task.completed) := ⟨rfl, rfl, rfl, rfl, rfl⟩
  obtain ⟨hid, htitle, hdue, hminutes, hcompleted⟩ := hmembers
  simp [parseTask, hid, htitle, hdue, hminutes, hcompleted, h.id, h.title, nullOr_nullable h.dueOn,
    h.safe, h.estimatedMinutes, guard]

def StudyNote.toJson (note : StudyNote) : JsValue :=
  .object [(text "id", .string note.id), (text "body", .string note.body),
    (text "createdAt", .string note.createdAt)]

def parseNote (value : JsValue) : Option StudyNote := do
  let id ← boundedText (value.member "id") 100
  let body ← boundedText (value.member "body") 10000
  let createdAt ← checkedText validIsoDateTime (value.member "createdAt")
  return { id, body, createdAt }

structure StudyNote.Valid (note : StudyNote) : Prop where
  id : TextFits 100 note.id
  body : TextFits 10000 note.body
  createdAt : validIsoDateTime note.createdAt

theorem parseNote_valid {value : JsValue} {note : StudyNote} (h : parseNote value = some note) :
    note.Valid := by
  simp only [parseNote, Option.bind_eq_bind, Option.bind_eq_some_iff, Option.pure_def] at h
  obtain ⟨id, hid, body, hbody, createdAt, hcreated, ⟨⟩⟩ := h
  exact ⟨boundedText_fits hid, boundedText_fits hbody, checkedText_checks hcreated⟩

theorem parseNote_toJson {note : StudyNote} (h : note.Valid) :
    parseNote note.toJson = some note := by
  have hmembers : note.toJson.member "id" = some (.string note.id)
      ∧ note.toJson.member "body" = some (.string note.body)
      ∧ note.toJson.member "createdAt" = some (.string note.createdAt) := ⟨rfl, rfl, rfl⟩
  obtain ⟨hid, hbody, hcreated⟩ := hmembers
  simp [parseNote, hid, hbody, hcreated, h.id, h.body, h.createdAt]

def StudyProject.toJson (project : StudyProject) : JsValue :=
  .object [(text "id", .string project.id), (text "title", .string project.title),
    (text "goal", .string project.goal), (text "targetDate", nullable project.targetDate),
    (text "focusedMinutes", number project.focusedMinutes),
    (text "tasks", .array (project.tasks.map StudyTask.toJson)),
    (text "notes", .array (project.notes.map StudyNote.toJson))]

def parseProject (value : JsValue) : Option StudyProject := do
  let id ← boundedText (value.member "id") 100
  let title ← boundedText (value.member "title") 160
  let goal ← anyText (value.member "goal") 2000
  let targetDate ← nullOr validDateOnly (value.member "targetDate")
  let focusedMinutes ← safeInteger (value.member "focusedMinutes")
  let tasks ← arrayOf (value.member "tasks")
  let notes ← arrayOf (value.member "notes")
  guard (0 ≤ focusedMinutes ∧ tasks.length ≤ 500 ∧ notes.length ≤ 1000)
  return {
    id
    title
    goal
    targetDate
    focusedMinutes
    tasks := uniqueRows StudyTask.id (tasks.filterMap parseTask)
    notes := uniqueRows StudyNote.id (notes.filterMap parseNote) }

structure StudyProject.Valid (project : StudyProject) : Prop where
  id : TextFits 100 project.id
  title : TextFits 160 project.title
  goal : project.goal = [] ∨ project.goal.length ≤ 2000
  targetDate : ∀ s ∈ project.targetDate, validDateOnly s
  safe : IsSafeInteger project.focusedMinutes
  focusedMinutes : 0 ≤ project.focusedMinutes
  taskCount : project.tasks.length ≤ 500
  noteCount : project.notes.length ≤ 1000
  tasks : ∀ task ∈ project.tasks, task.Valid
  notes : ∀ note ∈ project.notes, note.Valid
  taskIds : (project.tasks.map StudyTask.id).Nodup
  noteIds : (project.notes.map StudyNote.id).Nodup

/-- Rows written one by one are read back one by one. -/
theorem filterMap_parse_toJson {α : Type} {parse : JsValue → Option α} {toJson : α → JsValue}
    {rows : List α} (h : ∀ row ∈ rows, parse (toJson row) = some row) :
    (rows.map toJson).filterMap parse = rows := by
  rw [List.filterMap_map]
  exact (List.filterMap_congr h).trans List.filterMap_some

theorem forall_uniqueRows_filterMap {α : Type} {id : α → JsString} {parse : JsValue → Option α}
    {p : α → Prop} (hparse : ∀ value row, parse value = some row → p row) (values : List JsValue) :
    ∀ row ∈ uniqueRows id (values.filterMap parse), p row := by
  intro row hrow
  obtain ⟨value, -, hvalue⟩ := List.mem_filterMap.mp (mem_uniqueRows hrow)
  exact hparse value row hvalue

theorem length_uniqueRows_filterMap {α : Type} {id : α → JsString} {parse : JsValue → Option α}
    (values : List JsValue) : (uniqueRows id (values.filterMap parse)).length ≤ values.length :=
  (dropSeen_sublist _ []).length_le.trans (List.length_filterMap_le _ _)

theorem parseProject_valid {value : JsValue} {project : StudyProject}
    (h : parseProject value = some project) : project.Valid := by
  simp only [parseProject, Option.bind_eq_bind, Option.bind_eq_some_iff, Option.pure_def,
    Option.guard_eq_some', exists_const] at h
  obtain ⟨id, hid, title, htitle, goal, hgoal, targetDate, htarget, minutes, hminutes, tasks, -,
    notes, -, ⟨hfocused, htasks, hnotes⟩, ⟨⟩⟩ := h
  exact ⟨boundedText_fits hid, boundedText_fits htitle, anyText_fits hgoal, nullOr_checks htarget,
    safeInteger_isSafe hminutes, hfocused, (length_uniqueRows_filterMap tasks).trans htasks,
    (length_uniqueRows_filterMap notes).trans hnotes,
    forall_uniqueRows_filterMap (fun _ _ => parseTask_valid) tasks,
    forall_uniqueRows_filterMap (fun _ _ => parseNote_valid) notes,
    uniqueRows_nodup _, uniqueRows_nodup _⟩

theorem parseProject_toJson {project : StudyProject} (h : project.Valid) :
    parseProject project.toJson = some project := by
  have hmembers : project.toJson.member "id" = some (.string project.id)
      ∧ project.toJson.member "title" = some (.string project.title)
      ∧ project.toJson.member "goal" = some (.string project.goal)
      ∧ project.toJson.member "targetDate" = some (nullable project.targetDate)
      ∧ project.toJson.member "focusedMinutes" = some (number project.focusedMinutes)
      ∧ project.toJson.member "tasks" = some (.array (project.tasks.map StudyTask.toJson))
      ∧ project.toJson.member "notes" = some (.array (project.notes.map StudyNote.toJson)) :=
    ⟨rfl, rfl, rfl, rfl, rfl, rfl, rfl⟩
  obtain ⟨hid, htitle, hgoal, htarget, hminutes, htasks, hnotes⟩ := hmembers
  have htaskRows : uniqueRows StudyTask.id
      ((project.tasks.map StudyTask.toJson).filterMap parseTask) = project.tasks := by
    rw [filterMap_parse_toJson fun task htask => parseTask_toJson (h.tasks task htask),
      uniqueRows_of_nodup h.taskIds]
  have hnoteRows : uniqueRows StudyNote.id
      ((project.notes.map StudyNote.toJson).filterMap parseNote) = project.notes := by
    rw [filterMap_parse_toJson fun note hnote => parseNote_toJson (h.notes note hnote),
      uniqueRows_of_nodup h.noteIds]
  simp [parseProject, hid, htitle, hgoal, htarget, hminutes, htasks, hnotes, h.id, h.title, h.goal,
    nullOr_nullable h.targetDate, h.safe, h.focusedMinutes, h.taskCount, h.noteCount, guard,
    htaskRows, hnoteRows, -List.filterMap_map]

def Flashcard.toJson (card : Flashcard) : JsValue :=
  .object [(text "id", .string card.id), (text "projectId", .string card.projectId),
    (text "front", .string card.front), (text "back", .string card.back),
    (text "ease", number card.ease), (text "intervalDays", number card.intervalDays),
    (text "repetitions", number card.repetitions),
    (text "nextReviewAt", .string card.nextReviewAt),
    (text "lastReviewedAt", nullable card.lastReviewedAt)]

section State

variable (D : Doubles)

/-- The literal `1.3`. -/
def Doubles.minEase : Rat := D.round (13 / 10)

def parseFlashcard (projectIds : List JsString) (value : JsValue) : Option Flashcard := do
  let id ← boundedText (value.member "id") 100
  let projectId ← boundedText (value.member "projectId") 100
  let front ← boundedText (value.member "front") 1000
  let back ← boundedText (value.member "back") 5000
  let ease ← finiteNumber (value.member "ease")
  let intervalDays ← safeInteger (value.member "intervalDays")
  let repetitions ← safeInteger (value.member "repetitions")
  let nextReviewAt ← checkedText validIsoDateTime (value.member "nextReviewAt")
  let lastReviewedAt ← nullOr validIsoDateTime (value.member "lastReviewedAt")
  guard (projectId ∈ projectIds ∧ D.minEase ≤ ease ∧ ease ≤ 4 ∧ 0 ≤ intervalDays
    ∧ intervalDays ≤ 36500 ∧ 0 ≤ repetitions)
  return {
    id
    projectId
    front
    back
    ease
    intervalDays
    repetitions
    nextReviewAt
    lastReviewedAt }

structure Flashcard.Valid (projectIds : List JsString) (card : Flashcard) : Prop where
  id : TextFits 100 card.id
  projectId : TextFits 100 card.projectId
  front : TextFits 1000 card.front
  back : TextFits 5000 card.back
  intervalSafe : IsSafeInteger card.intervalDays
  repetitionsSafe : IsSafeInteger card.repetitions
  nextReviewAt : validIsoDateTime card.nextReviewAt
  lastReviewedAt : ∀ s ∈ card.lastReviewedAt, validIsoDateTime s
  listed : card.projectId ∈ projectIds
  ease : D.minEase ≤ card.ease ∧ card.ease ≤ 4
  intervalDays : 0 ≤ card.intervalDays ∧ card.intervalDays ≤ 36500
  repetitions : 0 ≤ card.repetitions

variable {D}

theorem parseFlashcard_valid {projectIds : List JsString} {value : JsValue} {card : Flashcard}
    (h : parseFlashcard D projectIds value = some card) : card.Valid D projectIds := by
  simp only [parseFlashcard, Option.bind_eq_bind, Option.bind_eq_some_iff, Option.pure_def,
    Option.guard_eq_some', exists_const] at h
  obtain ⟨id, hid, projectId, hproject, front, hfront, back, hback, ease, -, interval, hinterval,
    repetitions, hrepetitions, next, hnext, last, hlast,
    ⟨hlisted, heaseMin, heaseMax, hinterval0, hintervalMax, hrepetitions0⟩, ⟨⟩⟩ := h
  exact ⟨boundedText_fits hid, boundedText_fits hproject, boundedText_fits hfront,
    boundedText_fits hback, safeInteger_isSafe hinterval, safeInteger_isSafe hrepetitions,
    checkedText_checks hnext, nullOr_checks hlast, hlisted, ⟨heaseMin, heaseMax⟩,
    ⟨hinterval0, hintervalMax⟩, hrepetitions0⟩

theorem parseFlashcard_toJson {projectIds : List JsString} {card : Flashcard}
    (h : card.Valid D projectIds) : parseFlashcard D projectIds card.toJson = some card := by
  have hmembers : card.toJson.member "id" = some (.string card.id)
      ∧ card.toJson.member "projectId" = some (.string card.projectId)
      ∧ card.toJson.member "front" = some (.string card.front)
      ∧ card.toJson.member "back" = some (.string card.back)
      ∧ card.toJson.member "ease" = some (number card.ease)
      ∧ card.toJson.member "intervalDays" = some (number card.intervalDays)
      ∧ card.toJson.member "repetitions" = some (number card.repetitions)
      ∧ card.toJson.member "nextReviewAt" = some (.string card.nextReviewAt)
      ∧ card.toJson.member "lastReviewedAt" = some (nullable card.lastReviewedAt) :=
    ⟨rfl, rfl, rfl, rfl, rfl, rfl, rfl, rfl, rfl⟩
  obtain ⟨hid, hproject, hfront, hback, hease, hinterval, hrepetitions, hnext, hlast⟩ := hmembers
  simp [parseFlashcard, hid, hproject, hfront, hback, hease, hinterval, hrepetitions, hnext, hlast,
    h.id, h.projectId, h.front, h.back, h.intervalSafe, h.repetitionsSafe, h.nextReviewAt,
    nullOr_nullable h.lastReviewedAt, h.listed, h.ease, h.intervalDays, h.repetitions, guard]

/-! ## The workspace -/

/-- Of the tasks of all projects, the first with each id. -/
def dropSeenTasks : List JsString → List StudyProject → List StudyProject
  | _, [] => []
  | seen, project :: projects =>
    let tasks := dropSeen StudyTask.id seen project.tasks
    { project with tasks } :: dropSeenTasks (tasks.map StudyTask.id ++ seen) projects

def taskIds (projects : List StudyProject) : List JsString :=
  projects.flatMap fun project => project.tasks.map StudyTask.id

def StudyWorkspaceState.toJson (state : StudyWorkspaceState) : JsValue :=
  .object [(text "version", number 1), (text "activeProjectId", nullable state.activeProjectId),
    (text "projects", .array (state.projects.map StudyProject.toJson)),
    (text "flashcards", .array (state.flashcards.map Flashcard.toJson))]

variable (D)

/-- The project shown, when the stored one is not listed. -/
def firstProjectId (projects : List StudyProject) : Option JsString :=
  projects.head?.map StudyProject.id

/-- The stored choice of a project, if it is listed. -/
def activeOf (projects : List StudyProject) (value : Option JsValue) : Option JsString :=
  match value with
  | some (.string id) =>
    if id ∈ projects.map StudyProject.id then some id else firstProjectId projects
  | _ => firstProjectId projects

def parseStudyWorkspace (value : JsValue) : Option StudyWorkspaceState := do
  let version ← finiteNumber (value.member "version")
  guard (version = 1)
  let projectRows ← arrayOf (value.member "projects")
  let cardRows ← arrayOf (value.member "flashcards")
  let parsedProjects := uniqueRows StudyProject.id (projectRows.filterMap parseProject)
  let projects := dropSeenTasks [] parsedProjects
  let projectIds := projects.map StudyProject.id
  let flashcards := uniqueRows Flashcard.id (cardRows.filterMap (parseFlashcard D projectIds))
  let activeProjectId := activeOf projects (value.member "activeProjectId")
  return { activeProjectId, projects, flashcards }

/-- The rows the validator keeps as they are. -/
structure StudyWorkspaceState.Kept (state : StudyWorkspaceState) : Prop where
  projects : ∀ project ∈ state.projects, project.Valid
  projectIds : (state.projects.map StudyProject.id).Nodup
  taskIds : (taskIds state.projects).Nodup
  flashcards : ∀ card ∈ state.flashcards, card.Valid D (state.projects.map StudyProject.id)
  cardIds : (state.flashcards.map Flashcard.id).Nodup

structure StudyWorkspaceState.Valid (state : StudyWorkspaceState) : Prop extends state.Kept D where
  active : ∀ id ∈ state.activeProjectId, id ∈ state.projects.map StudyProject.id
  inactive : state.activeProjectId = none → state.projects = []

variable {D}

theorem dropSeenTasks_ids : ∀ (projects : List StudyProject) (seen : List JsString),
    (dropSeenTasks seen projects).map StudyProject.id = projects.map StudyProject.id
  | [], _ => rfl
  | project :: projects, seen => by
    simp only [dropSeenTasks, List.map_cons, dropSeenTasks_ids projects]

theorem dropSeenTasks_valid : ∀ (projects : List StudyProject) (seen : List JsString),
    (∀ project ∈ projects, project.Valid) → ∀ project ∈ dropSeenTasks seen projects, project.Valid
  | [], _, _ => by simp [dropSeenTasks]
  | project :: projects, seen, h => by
    have hvalid := h project List.mem_cons_self
    have hsub : (dropSeen StudyTask.id seen project.tasks).Sublist project.tasks :=
      dropSeen_sublist project.tasks seen
    intro kept hkept
    rcases List.mem_cons.mp hkept with rfl | hkept
    · exact { hvalid with
        taskCount := hsub.length_le.trans hvalid.taskCount
        tasks := fun task htask => hvalid.tasks task (hsub.subset htask)
        taskIds := hvalid.taskIds.sublist (hsub.map StudyTask.id) }
    · exact dropSeenTasks_valid projects _ (fun p hp => h p (List.mem_cons_of_mem _ hp)) kept hkept

theorem dropSeenTasks_nodup : ∀ (projects : List StudyProject) (seen : List JsString),
    (taskIds (dropSeenTasks seen projects)).Nodup
      ∧ ∀ i ∈ taskIds (dropSeenTasks seen projects), i ∉ seen
  | [], _ => ⟨List.nodup_nil, by simp [dropSeenTasks, taskIds]⟩
  | project :: projects, seen => by
    obtain ⟨hhead, hheadNew⟩ :
        ((dropSeen StudyTask.id seen project.tasks).map StudyTask.id).Nodup
          ∧ ∀ i ∈ (dropSeen StudyTask.id seen project.tasks).map StudyTask.id, i ∉ seen :=
      dropSeen_nodup project.tasks seen
    obtain ⟨hrest, hrestNew⟩ := dropSeenTasks_nodup projects
      ((dropSeen StudyTask.id seen project.tasks).map StudyTask.id ++ seen)
    simp only [dropSeenTasks, taskIds, List.flatMap_cons]
    refine ⟨List.nodup_append.mpr ⟨hhead, hrest, ?_⟩, ?_⟩
    · rintro i hi j hj rfl
      exact hrestNew i hj (List.mem_append_left _ hi)
    · intro i hi
      rcases List.mem_append.mp hi with hi | hi
      · exact hheadNew i hi
      · exact fun hseen => hrestNew i hi (List.mem_append_right _ hseen)

theorem dropSeenTasks_of_nodup : ∀ (projects : List StudyProject) (seen : List JsString),
    (taskIds projects).Nodup → (∀ i ∈ taskIds projects, i ∉ seen) →
    dropSeenTasks seen projects = projects
  | [], _, _, _ => rfl
  | project :: projects, seen, hnodup, hnew => by
    simp only [taskIds, List.flatMap_cons] at hnodup hnew
    obtain ⟨hhead, hrest, hdisjoint⟩ := List.nodup_append.mp hnodup
    have htasks : dropSeen StudyTask.id seen project.tasks = project.tasks :=
      dropSeen_of_nodup project.tasks seen hhead fun i hi => hnew i (List.mem_append_left _ hi)
    rw [dropSeenTasks, htasks, dropSeenTasks_of_nodup projects _ hrest]
    intro i hi hmem
    rcases List.mem_append.mp hmem with hmem | hmem
    · exact hdisjoint i hmem i hi rfl
    · exact hnew i (List.mem_append_right _ hi) hmem

theorem firstProjectId_mem {projects : List StudyProject} :
    ∀ id ∈ firstProjectId projects, id ∈ projects.map StudyProject.id := by
  cases projects with
  | nil => rintro id ⟨⟩
  | cons project projects =>
    rintro id ⟨⟩
    exact List.mem_cons_self

theorem firstProjectId_eq_none {projects : List StudyProject} (h : firstProjectId projects = none) :
    projects = [] := by
  cases projects with
  | nil => rfl
  | cons => cases h

theorem activeOf_mem {projects : List StudyProject} {value : Option JsValue} :
    ∀ id ∈ activeOf projects value, id ∈ projects.map StudyProject.id := by
  intro id hid
  unfold activeOf at hid
  split at hid
  · split at hid
    · cases hid
      assumption
    · exact firstProjectId_mem id hid
  · exact firstProjectId_mem id hid

theorem activeOf_eq_none {projects : List StudyProject} {value : Option JsValue}
    (h : activeOf projects value = none) : projects = [] := by
  unfold activeOf at h
  split at h
  · split at h
    · cases h
    · exact firstProjectId_eq_none h
  · exact firstProjectId_eq_none h

theorem parseStudyWorkspace_valid {value : JsValue} {state : StudyWorkspaceState}
    (h : parseStudyWorkspace D value = some state) : state.Valid D := by
  simp only [parseStudyWorkspace, Option.bind_eq_bind, Option.bind_eq_some_iff, Option.pure_def]
    at h
  obtain ⟨version, -, -, -, projectRows, -, cardRows, -, ⟨⟩⟩ := h
  set parsed := uniqueRows StudyProject.id (projectRows.filterMap parseProject) with hparsed
  have hprojects : ∀ project ∈ dropSeenTasks [] parsed, project.Valid :=
    dropSeenTasks_valid parsed [] (forall_uniqueRows_filterMap (fun _ _ => parseProject_valid) _)
  have hids : ((dropSeenTasks [] parsed).map StudyProject.id).Nodup := by
    rw [dropSeenTasks_ids]
    exact uniqueRows_nodup _
  exact {
    projects := hprojects
    projectIds := hids
    taskIds := (dropSeenTasks_nodup parsed []).1
    flashcards := forall_uniqueRows_filterMap (fun _ _ => parseFlashcard_valid) cardRows
    cardIds := uniqueRows_nodup _
    active := activeOf_mem
    inactive := activeOf_eq_none }

/-- What is read back from a state whose rows are kept: at most the choice of
the project changes. -/
theorem parseStudyWorkspace_toJson {state : StudyWorkspaceState} (h : state.Kept D) :
    parseStudyWorkspace D state.toJson = some { state with
      activeProjectId := activeOf state.projects (some (nullable state.activeProjectId)) } := by
  have hmembers : state.toJson.member "version" = some (number 1)
      ∧ state.toJson.member "activeProjectId" = some (nullable state.activeProjectId)
      ∧ state.toJson.member "projects" = some (.array (state.projects.map StudyProject.toJson))
      ∧ state.toJson.member "flashcards" = some (.array (state.flashcards.map Flashcard.toJson)) :=
    ⟨rfl, rfl, rfl, rfl⟩
  obtain ⟨hversion, hactive, hprojects, hcards⟩ := hmembers
  have hprojectRows : dropSeenTasks [] (uniqueRows StudyProject.id
      ((state.projects.map StudyProject.toJson).filterMap parseProject)) = state.projects := by
    rw [filterMap_parse_toJson fun p hp => parseProject_toJson (h.projects p hp),
      uniqueRows_of_nodup h.projectIds, dropSeenTasks_of_nodup _ _ h.taskIds (by simp)]
  have hcardRows : uniqueRows Flashcard.id ((state.flashcards.map Flashcard.toJson).filterMap
      (parseFlashcard D (state.projects.map StudyProject.id))) = state.flashcards := by
    rw [filterMap_parse_toJson fun c hc => parseFlashcard_toJson (h.flashcards c hc),
      uniqueRows_of_nodup h.cardIds]
  simp only [parseStudyWorkspace, hversion, finiteNumber_number, Option.bind_eq_bind,
    Option.bind_some, guard, if_true, hprojects, hcards, arrayOf_array, hprojectRows, hcardRows,
    hactive, Option.pure_def]

/-- What was read is read back as a whole. -/
theorem parseStudyWorkspace_idempotent {state : StudyWorkspaceState} (h : state.Valid D) :
    parseStudyWorkspace D state.toJson = some state := by
  rw [parseStudyWorkspace_toJson h.toKept]
  have hactive : activeOf state.projects (some (nullable state.activeProjectId))
      = state.activeProjectId := by
    cases hid : state.activeProjectId with
    | none => rw [h.inactive hid]; rfl
    | some id => exact if_pos (h.active id hid)
  rw [hactive]

end State

end StudyWorkspace
