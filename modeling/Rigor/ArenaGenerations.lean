import Rigor.PracticeStore
import Rigor.RateWindow
import Rigor.Runs

/-!
# The generations of the arena

`generate_arena_candidate`: a transaction that answers from the table or
charges the quota, a call of the provider, and a transaction that stores the
code. In between the catalogue may change, other calls of the user may come
and go with the same key, and the process may die. The two transactions lock
the user's row, so each is one step.
-/

namespace Rigor.ArenaGenerations

open Py Runs RateWindow

variable {F : Type} [Runtime F]

/-! ## Rows -/

structure GenerationRequest where
  challengeSlug : Str
  prompt : Str
  slug_length : 1 ≤ challengeSlug.length ∧ challengeSlug.length ≤ 180
  prompt_length : 1 ≤ prompt.length ∧ prompt.length ≤ 4000

/-- What the provider, or the fallback, answers. -/
structure Generation where
  code : Str
  provider : Str
  model : Str

/-- A row of `ai_arena_generations`. -/
structure GenerationRow where
  id : Uuid
  userId : Uuid
  questionVersionId : Uuid
  prompt : Str
  generatedCode : Str
  provider : Str
  model : Str
  idempotencyKey : Str

structure GenerationView where
  id : Uuid
  challengeSlug : Str
  prompt : Str
  generatedCode : Str
  provider : Str
  model : Str
  deriving DecidableEq

/-- The call is behind its first transaction. -/
structure Call where
  userId : Uuid
  idempotencyKey : Str
  request : GenerationRequest
  questionVersionId : Uuid

structure State (F : Type) where
  catalogue : Db F
  rows : List GenerationRow
  counters : Uuid → Option Counter
  calls : List Call

/-! ## The catalogue -/

/-- `_challenge`, which only has to succeed here. -/
def isChallenge (structured : Json F) : Bool :=
  match questionRuntime structured with
  | .ok .python => (questionTests structured false).any fun test => !isPublic test
  | _ => false

/-- `_published_arena_question`. -/
def publishedArenaQuestion (slug : Str) (db : Db F) : Except Failure (PublishedQuestion F) :=
  match publishedQuestionPayload slug db with
  | .error .sessionNotFound => .error (.http 404 "AI Arena challenge not found")
  | .error failure => .error failure
  | .ok question =>
      if isChallenge question.structuredContent then .ok question
      else .error (.http 409 "Question is not AI Arena executable")

/-- The slug of the question whose version has the identifier. -/
def versionSlug (versionId : Uuid) (db : Db F) : Option Str :=
  ((db.version versionId).bind fun v => db.questionOf v).map Question.slug

/-- `_generation_view`. -/
def generationView (row : GenerationRow) (db : Db F) : Except Failure GenerationView :=
  match versionSlug row.questionVersionId db with
  | none => .error (.runtime "No row was found when one was required")
  | some slug =>
      .ok ⟨row.id, slug, row.prompt, row.generatedCode, row.provider, row.model⟩

/-! ## The two transactions -/

def existingGeneration (userId idempotencyKey : Str) (rows : List GenerationRow) :
    Option GenerationRow :=
  rows.find? fun row => decide (row.userId = userId ∧ row.idempotencyKey = idempotencyKey)

/-- The answer from a stored row, if it is one to this request. -/
def replay (r : GenerationRequest) (row : GenerationRow) (db : Db F) :
    Except Failure GenerationView := do
  let view ← generationView row db
  if view.challengeSlug ≠ r.challengeSlug ∨ view.prompt ≠ strip r.prompt then
    .error (.http 409 "Idempotency-Key was already used for a different Arena generation.")
  else .ok view

/-- `date_trunc('hour', now)`. -/
def truncateHour (now : Time) : Time := now / 3600000000 * 3600000000

/-- `_consume_generation_quota`. -/
def consumeGenerationQuota (limit : Nat) (now : Time) (counter : Option Counter) :
    Except Failure Counter :=
  match take limit (truncateHour now) counter with
  | none => .error (.http 429
      "AI Arena generation limit reached for the current hourly window.")
  | some counter => .ok counter

inductive Begun (F : Type) where
  | replayed (view : GenerationView)
  | granted (question : PublishedQuestion F) (counter : Counter)

/-- The first transaction. -/
def begin (limit : Nat) (now : Time) (userId idempotencyKey : Str) (r : GenerationRequest)
    (s : State F) : Except Failure (Begun F) :=
  match existingGeneration userId idempotencyKey s.rows with
  | some row => (replay r row s.catalogue).map .replayed
  | none => do
      let question ← publishedArenaQuestion r.challengeSlug s.catalogue
      let counter ← consumeGenerationQuota limit now (s.counters userId)
      .ok (.granted question counter)

/-- The row that is inserted. -/
def Call.row (call : Call) (generation : Generation) (versionId rowId : Uuid) : GenerationRow where
  id := rowId
  userId := call.userId
  questionVersionId := versionId
  prompt := strip call.request.prompt
  generatedCode := generation.code
  provider := generation.provider
  model := generation.model
  idempotencyKey := call.idempotencyKey

/-- `INSERT INTO ai_arena_generations`. -/
def insertGeneration (row : GenerationRow) (rows : List GenerationRow) :
    Except Failure (List GenerationRow) :=
  if row.prompt.length < 1 ∨ 4000 < row.prompt.length then
    .error (.integrity "ck_ai_arena_generations_prompt_length")
  else if row.generatedCode.length < 1 ∨ 100000 < row.generatedCode.length then
    .error (.integrity "ck_ai_arena_generations_code_length")
  else if rows.any fun other => decide (other.id = row.id) then
    .error (.integrity "ai_arena_generations_pkey")
  else if rows.any fun other =>
      decide (other.userId = row.userId ∧ other.idempotencyKey = row.idempotencyKey) then
    .error (.integrity "uq_ai_arena_generations_user_idempotency")
  else .ok (rows ++ [row])

/-- The second transaction. -/
def finish (call : Call) (generation : Generation) (rowId : Uuid) (s : State F) :
    Except Failure (GenerationView × List GenerationRow) :=
  match existingGeneration call.userId call.idempotencyKey s.rows with
  | some row => (replay call.request row s.catalogue).map (·, s.rows)
  | none => do
      let fresh ← publishedArenaQuestion call.request.challengeSlug s.catalogue
      if fresh.questionVersionId ≠ call.questionVersionId then
        .error (.http 409 "Challenge version changed during generation; generate again.")
      else
        let row := call.row generation fresh.questionVersionId rowId
        let rows ← insertGeneration row s.rows
        let view ← generationView row s.catalogue
        .ok (view, rows)

/-! ## The system -/

inductive Event where
  /-- the quota of the user is charged, and the provider is called -/
  | charged (userId : Uuid) (window : Int)
  | answered (userId idempotencyKey : Str) (r : GenerationRequest)
      (answer : Except Failure GenerationView)
  | lost (call : Call)
  /-- the catalogue changes -/
  | elsewhere

def State.charge (userId idempotencyKey : Str) (r : GenerationRequest)
    (question : PublishedQuestion F) (counter : Counter) (s : State F) : State F :=
  { s with
    counters := Function.update s.counters userId (some counter)
    calls := ⟨userId, idempotencyKey, r, question.questionVersionId⟩ :: s.calls }

inductive Step (limit : Nat) : State F → Event → State F → Prop where
  | granted {s : State F} {userId idempotencyKey : Str} {r : GenerationRequest} {now : Time}
      {question : PublishedQuestion F} {counter : Counter}
      (h : begin limit now userId idempotencyKey r s = .ok (.granted question counter)) :
      Step limit s (.charged userId counter.startedAt)
        (s.charge userId idempotencyKey r question counter)
  | replayed {s : State F} {userId idempotencyKey : Str} {r : GenerationRequest} {now : Time}
      {view : GenerationView}
      (h : begin limit now userId idempotencyKey r s = .ok (.replayed view)) :
      Step limit s (.answered userId idempotencyKey r (.ok view)) s
  | refused {s : State F} {userId idempotencyKey : Str} {r : GenerationRequest} {now : Time}
      {failure : Failure} (h : begin limit now userId idempotencyKey r s = .error failure) :
      Step limit s (.answered userId idempotencyKey r (.error failure)) s
  | finished {s : State F} {before after : List Call} {call : Call} {generation : Generation}
      {rowId : Uuid} {view : GenerationView} {rows : List GenerationRow}
      (hcall : s.calls = before ++ call :: after)
      (h : finish call generation rowId s = .ok (view, rows)) :
      Step limit s (.answered call.userId call.idempotencyKey call.request (.ok view))
        { s with rows := rows, calls := before ++ after }
  | failed {s : State F} {before after : List Call} {call : Call} {generation : Generation}
      {rowId : Uuid} {failure : Failure} (hcall : s.calls = before ++ call :: after)
      (h : finish call generation rowId s = .error failure) :
      Step limit s (.answered call.userId call.idempotencyKey call.request (.error failure))
        { s with calls := before ++ after }
  | lost {s : State F} {before after : List Call} {call : Call}
      (hcall : s.calls = before ++ call :: after) :
      Step limit s (.lost call) { s with calls := before ++ after }
  | elsewhere {s : State F} {catalogue : Db F} :
      Step limit s .elsewhere { s with catalogue := catalogue }

/-! ## What a step does -/

/-- The row is stored for the key, and the view shows it. -/
structure Shows (userId idempotencyKey : Str) (view : GenerationView) (row : GenerationRow) :
    Prop where
  userId : row.userId = userId
  key : row.idempotencyKey = idempotencyKey
  view : view.id = row.id ∧ view.prompt = row.prompt ∧ view.generatedCode = row.generatedCode
    ∧ view.provider = row.provider ∧ view.model = row.model

variable {limit : Nat} {s t : State F} {userId idempotencyKey : Str} {r : GenerationRequest}
  {view : GenerationView}

omit [Runtime F] in
theorem generationView_ok {row : GenerationRow} {db : Db F}
    (h : generationView row db = .ok view) :
    Shows row.userId row.idempotencyKey view row := by
  unfold generationView at h
  split at h
  · cases h
  · cases h
    exact ⟨rfl, rfl, rfl, rfl, rfl, rfl, rfl⟩

theorem existingGeneration_some {rows : List GenerationRow} {row : GenerationRow}
    (h : existingGeneration userId idempotencyKey rows = some row) :
    row ∈ rows ∧ row.userId = userId ∧ row.idempotencyKey = idempotencyKey := by
  unfold existingGeneration at h
  have hfound := List.find?_some h
  exact ⟨List.mem_of_find?_eq_some h, of_decide_eq_true hfound⟩

omit [Runtime F] in
theorem replay_ok {rows : List GenerationRow} {row : GenerationRow} {db : Db F}
    (hrow : existingGeneration userId idempotencyKey rows = some row)
    (h : replay r row db = .ok view) :
    view.prompt = strip r.prompt ∧ ∃ row ∈ rows, Shows userId idempotencyKey view row := by
  unfold replay at h
  obtain ⟨found, hview, h⟩ := bind_eq_ok h
  split_ifs at h with hdiffers
  cases h
  obtain ⟨hmem, huser, hkey⟩ := existingGeneration_some hrow
  have hshows := generationView_ok hview
  rw [huser, hkey] at hshows
  exact ⟨not_not.mp fun hne => hdiffers (.inr hne), row, hmem, hshows⟩

theorem begin_replayed {now : Time}
    (h : begin limit now userId idempotencyKey r s = .ok (.replayed view)) :
    view.prompt = strip r.prompt ∧ ∃ row ∈ s.rows, Shows userId idempotencyKey view row := by
  unfold begin at h
  split at h
  · rename_i row hrow
    cases hreplay : replay r row s.catalogue with
    | error failure => rw [hreplay] at h; cases h
    | ok found =>
        rw [hreplay] at h
        cases h
        exact replay_ok hrow hreplay
  · obtain ⟨question, -, h⟩ := bind_eq_ok h
    obtain ⟨counter, -, h⟩ := bind_eq_ok h
    cases h

theorem begin_granted {now : Time} {question : PublishedQuestion F} {counter : Counter}
    (h : begin limit now userId idempotencyKey r s = .ok (.granted question counter)) :
    take limit (truncateHour now) (s.counters userId) = some counter := by
  unfold begin at h
  split at h
  · rename_i row hrow
    cases hreplay : replay r row s.catalogue with
    | error failure => rw [hreplay] at h; cases h
    | ok found => rw [hreplay] at h; cases h
  · obtain ⟨found, -, h⟩ := bind_eq_ok h
    obtain ⟨taken, htake, h⟩ := bind_eq_ok h
    cases h
    unfold consumeGenerationQuota at htake
    split at htake
    · cases htake
    · rename_i taken' heq
      cases htake
      exact heq

theorem insertGeneration_ok {row : GenerationRow} {rows rows' : List GenerationRow}
    (h : insertGeneration row rows = .ok rows') :
    rows' = rows ++ [row] ∧ ∀ other ∈ rows,
      ¬(other.userId = row.userId ∧ other.idempotencyKey = row.idempotencyKey) := by
  unfold insertGeneration at h
  split_ifs at h with hprompt hcode hid hkey
  cases h
  refine ⟨rfl, fun other hmem hsame => hkey ?_⟩
  exact List.any_eq_true.mpr ⟨other, hmem, decide_eq_true hsame⟩

/-- The second transaction answers from the table, or stores the row. -/
theorem finish_ok {call : Call} {generation : Generation} {rowId : Uuid}
    {rows : List GenerationRow} (h : finish call generation rowId s = .ok (view, rows)) :
    view.prompt = strip call.request.prompt
      ∧ (∃ row ∈ rows, Shows call.userId call.idempotencyKey view row)
      ∧ (rows = s.rows ∨ ∃ row, rows = s.rows ++ [row] ∧ row.userId = call.userId
        ∧ ∀ other ∈ s.rows,
          ¬(other.userId = row.userId ∧ other.idempotencyKey = row.idempotencyKey)) := by
  unfold finish at h
  split at h
  · rename_i row hrow
    cases hreplay : replay call.request row s.catalogue with
    | error failure => rw [hreplay] at h; cases h
    | ok found =>
        rw [hreplay] at h
        cases h
        obtain ⟨hprompt, hshows⟩ := replay_ok hrow hreplay
        exact ⟨hprompt, hshows, .inl rfl⟩
  · obtain ⟨fresh, -, h⟩ := bind_eq_ok h
    split_ifs at h with hversion
    dsimp only at h
    obtain ⟨inserted, hinserted, h⟩ := bind_eq_ok h
    obtain ⟨shown, hshown, h⟩ := bind_eq_ok h
    cases h
    obtain ⟨rfl, hnew⟩ := insertGeneration_ok hinserted
    have hshows := generationView_ok hshown
    exact ⟨hshows.view.2.1, ⟨_, List.mem_append_right _ (List.mem_singleton_self _), hshows⟩,
      .inr ⟨_, rfl, rfl, hnew⟩⟩

/-! ## One generation for a key -/

/-- At most one row has the user and the key. -/
def OnePerKey (rows : List GenerationRow) : Prop :=
  rows.Pairwise fun row other =>
    ¬(row.userId = other.userId ∧ row.idempotencyKey = other.idempotencyKey)

theorem OnePerKey.eq {rows : List GenerationRow} (h : OnePerKey rows) {row other : GenerationRow}
    (hrow : row ∈ rows) (hother : other ∈ rows) (huser : row.userId = other.userId)
    (hkey : row.idempotencyKey = other.idempotencyKey) : row = other := by
  induction rows with
  | nil => cases hrow
  | cons first rest ih =>
      obtain ⟨hfirst, hrest⟩ := List.pairwise_cons.mp h
      rcases List.mem_cons.mp hrow with hrow | hrow
      · rcases List.mem_cons.mp hother with hother | hother
        · rw [hrow, hother]
        · rw [hrow] at huser hkey
          exact absurd ⟨huser, hkey⟩ (hfirst other hother)
      · rcases List.mem_cons.mp hother with hother | hother
        · rw [hother] at huser hkey
          exact absurd ⟨huser.symm, hkey.symm⟩ (hfirst row hrow)
        · exact ih hrest hrow hother

theorem OnePerKey.append {rows : List GenerationRow} {row : GenerationRow} (h : OnePerKey rows)
    (hnew : ∀ other ∈ rows,
      ¬(other.userId = row.userId ∧ other.idempotencyKey = row.idempotencyKey)) :
    OnePerKey (rows ++ [row]) := by
  refine List.pairwise_append.mpr ⟨h, List.pairwise_singleton _ _, ?_⟩
  intro other hother row' hrow'
  rw [List.mem_singleton.mp hrow']
  exact hnew other hother

/-- The rows are kept, and no step makes a second one for a key. -/
theorem Step.rows {e : Event} (h : Step limit s e t) (hone : OnePerKey s.rows) :
    OnePerKey t.rows ∧ ∀ row ∈ s.rows, row ∈ t.rows := by
  cases h with
  | finished hcall hfinish =>
      obtain ⟨-, -, rfl | ⟨row, rfl, -, hnew⟩⟩ := finish_ok hfinish
      · exact ⟨hone, fun row hrow => hrow⟩
      · exact ⟨hone.append hnew, fun row hrow => List.mem_append_left _ hrow⟩
  | _ => exact ⟨hone, fun row hrow => hrow⟩

/-- What the event answers is stored. -/
def Stored (e : Event) (s : State F) : Prop :=
  ∀ userId idempotencyKey r view, e = .answered userId idempotencyKey r (.ok view) →
    view.prompt = strip r.prompt ∧ ∃ row ∈ s.rows, Shows userId idempotencyKey view row

theorem Step.stored {e : Event} (h : Step limit s e t) : Stored e t := by
  intro userId idempotencyKey r view he
  cases h with
  | replayed hbegin =>
      cases he
      exact begin_replayed hbegin
  | finished hcall hfinish =>
      cases he
      obtain ⟨hprompt, hshows, -⟩ := finish_ok hfinish
      exact ⟨hprompt, hshows⟩
  | _ => cases he

theorem Step.stored_kept {e e' : Event} (h : Step limit s e' t) (hone : OnePerKey s.rows)
    (hstored : Stored e s) : Stored e t := by
  intro userId idempotencyKey r view he
  obtain ⟨hprompt, row, hrow, hshows⟩ := hstored userId idempotencyKey r view he
  exact ⟨hprompt, row, (h.rows hone).2 row hrow, hshows⟩

/-- However many calls a user makes with one key, one after another or at
once, across crashes and publications: all the answers that are not errors
show one generation, and all of them were asked for with its prompt. -/
theorem answers_agree {trace : List (Taken (State F) Event)} (hone : OnePerKey s.rows)
    (hrun : Run (Step limit) s trace t) {x y : Taken (State F) Event} (hx : x ∈ trace)
    (hy : y ∈ trace) {r r' : GenerationRequest} {view view' : GenerationView}
    (hxanswer : x.label = .answered userId idempotencyKey r (.ok view))
    (hyanswer : y.label = .answered userId idempotencyKey r' (.ok view')) :
    view = { view' with challengeSlug := view.challengeSlug }
      ∧ view.prompt = strip r.prompt ∧ strip r.prompt = strip r'.prompt := by
  have hkept : ∀ z ∈ trace, Stored z.label t := by
    intro z hz
    exact hrun.kept (I := fun s => OnePerKey s.rows) (Q := Stored)
      (fun z hz hstep => (Step.rows hstep hz).1)
      (fun _ z hz hstep hstored => Step.stored_kept hstep hz hstored) hone z hz
      (Step.stored (hrun.taken z hz))
  have hone' : OnePerKey t.rows :=
    hrun.invariant (I := fun s => OnePerKey s.rows) (fun z hz hstep => (Step.rows hstep hz).1) hone
  obtain ⟨hprompt, row, hrow, hshows⟩ := hkept x hx _ _ _ _ hxanswer
  obtain ⟨hprompt', row', hrow', hshows'⟩ := hkept y hy _ _ _ _ hyanswer
  have hsame : row = row' := hone'.eq hrow hrow' (hshows.userId.trans hshows'.userId.symm)
    (hshows.key.trans hshows'.key.symm)
  subst hsame
  obtain ⟨hid, htext, hcode, hprovider, hmodel⟩ := hshows.view
  obtain ⟨hid', htext', hcode', hprovider', hmodel'⟩ := hshows'.view
  refine ⟨?_, hprompt, ?_⟩
  · cases view
    cases view'
    dsimp only at *
    rw [hid, hid', htext, htext', hcode, hcode', hprovider, hprovider', hmodel, hmodel']
  · rw [← hprompt, ← hprompt', htext, htext']

/-! ## The quota -/

/-- The windows charged to the user. -/
def charges (userId : Uuid) (trace : List (Taken (State F) Event)) : List Int :=
  trace.filterMap fun x =>
    match x.label with
    | .charged other window => if other = userId then some window else none
    | _ => none

def rowsOf (userId : Uuid) (s : State F) : Nat := s.rows.countP fun row => row.userId = userId

def callsOf (userId : Uuid) (s : State F) : Nat := s.calls.countP fun call => call.userId = userId

/-- The counters account for the charges, and every stored or open generation
was charged. -/
structure Inv (limit : Nat) (stored : Uuid → Nat) (past : List (Taken (State F) Event))
    (s : State F) : Prop where
  counts : ∀ userId, Counts limit (s.counters userId) (charges userId past)
  covered : ∀ userId,
    rowsOf userId s + callsOf userId s ≤ stored userId + (charges userId past).length

variable {stored : Uuid → Nat} {past : List (Taken (State F) Event)}

omit [Runtime F] in
theorem charges_append (x : Taken (State F) Event) :
    charges userId (past ++ [x]) = charges userId past ++ charges userId [x] :=
  List.filterMap_append

omit [Runtime F] in
/-- A call that is over leaves the list. -/
theorem callsOf_split {before after : List Call} {call : Call}
    (hcall : s.calls = before ++ call :: after) (userId : Uuid) :
    callsOf userId s
      = (before ++ after).countP (fun c => decide (c.userId = userId))
        + if call.userId = userId then 1 else 0 := by
  unfold callsOf
  rw [hcall, List.countP_append, List.countP_append, List.countP_cons]
  by_cases h : call.userId = userId
  · rw [if_pos h, if_pos (decide_eq_true h)]
    omega
  · rw [if_neg h, if_neg (by simpa using h)]
    omega

omit [Runtime F] in
/-- A step that charges nobody and leaves the counters. -/
theorem Inv.uncharged {x : Taken (State F) Event} (h : Inv limit stored past x.source)
    (hlabel : ∀ userId, charges userId [x] = []) (hcounters : x.target.counters = x.source.counters)
    (hcovered : ∀ userId, rowsOf userId x.target + callsOf userId x.target
      ≤ rowsOf userId x.source + callsOf userId x.source) :
    Inv limit stored (past ++ [x]) x.target where
  counts userId := by
    rw [charges_append, hlabel, List.append_nil, hcounters]
    exact h.counts userId
  covered userId := by
    rw [charges_append, hlabel, List.append_nil]
    exact le_trans (hcovered userId) (h.covered userId)

omit [Runtime F] in
theorem charges_charged {x : Taken (State F) Event} {window : Int}
    (h : x.label = .charged userId window) (other : Uuid) :
    charges other [x] = if userId = other then [window] else [] := by
  unfold charges
  rw [List.filterMap_cons, h]
  dsimp only
  split_ifs
  · rfl
  · rfl

omit [Runtime F] in
theorem charges_other {x : Taken (State F) Event}
    (h : ∀ userId window, x.label ≠ .charged userId window) (other : Uuid) :
    charges other [x] = [] := by
  unfold charges
  rw [List.filterMap_cons]
  split
  · rfl
  · rename_i window hsome
    split at hsome
    · rename_i userId window' hlabel
      exact absurd hlabel (h userId window')
    · cases hsome

omit [Runtime F] in
theorem callsOf_charge {question : PublishedQuestion F} {counter : Counter} (other : Uuid) :
    callsOf other (s.charge userId idempotencyKey r question counter)
      = callsOf other s + if userId = other then 1 else 0 := by
  unfold callsOf State.charge
  dsimp only
  rw [List.countP_cons]
  by_cases hother : userId = other
  · rw [if_pos hother, if_pos (decide_eq_true hother)]
  · rw [if_neg hother, if_neg (by simpa using hother)]

omit [Runtime F] in
theorem counters_charge {question : PublishedQuestion F} {counter : Counter} (other : Uuid) :
    (s.charge userId idempotencyKey r question counter).counters other
      = if userId = other then some counter else s.counters other := by
  unfold State.charge
  dsimp only
  by_cases hother : userId = other
  · rw [if_pos hother, ← hother, Function.update_self]
  · rw [if_neg hother, Function.update_of_ne (Ne.symm hother)]

/-- A stored generation was an open call. -/
theorem rowsOf_finish {call : Call} {generation : Generation} {rowId : Uuid}
    {rows : List GenerationRow} (h : finish call generation rowId s = .ok (view, rows))
    (other : Uuid) :
    (rows.countP fun row => row.userId = other)
      ≤ rowsOf other s + if call.userId = other then 1 else 0 := by
  obtain ⟨-, -, rfl | ⟨row, rfl, huser, -⟩⟩ := finish_ok h
  · exact Nat.le_add_right _ _
  · rw [List.countP_append, List.countP_singleton, huser]
    unfold rowsOf
    by_cases hother : call.userId = other
    · rw [if_pos hother, if_pos (decide_eq_true hother)]
    · rw [if_neg hother, if_neg (by simpa using hother)]

theorem Step.inv (hlimit : 1 ≤ limit) {x : Taken (State F) Event}
    (h : Inv limit stored past x.source) (hstep : Step limit x.source x.label x.target) :
    Inv limit stored (past ++ [x]) x.target := by
  obtain ⟨s, e, t⟩ := x
  dsimp only at h hstep
  cases hstep with
  | @granted userId idempotencyKey r now question counter hbegin =>
      refine ⟨fun other => ?_, fun other => ?_⟩
      · rw [charges_append, charges_charged rfl]
        dsimp only
        rw [counters_charge]
        by_cases hother : userId = other
        · rw [if_pos hother, if_pos hother, ← hother]
          exact (h.counts userId).take hlimit (begin_granted hbegin)
        · rw [if_neg hother, if_neg hother, List.append_nil]
          exact h.counts other
      · have hcovered := h.covered other
        rw [charges_append, charges_charged rfl, List.length_append]
        dsimp only
        rw [callsOf_charge]
        show rowsOf other s + _ ≤ _
        by_cases hother : userId = other
        · rw [if_pos hother, if_pos hother, List.length_singleton]
          omega
        · rw [if_neg hother, if_neg hother]
          exact hcovered
  | @finished before after call generation rowId view rows hcall hfinish =>
      refine h.uncharged (charges_other fun _ _ hlabel => by cases hlabel) rfl fun other => ?_
      have hrows := rowsOf_finish hfinish other
      have hcalls := callsOf_split hcall other
      dsimp only
      rw [hcalls]
      show (rows.countP fun row => row.userId = other)
        + (before ++ after).countP (fun c => decide (c.userId = other)) ≤ _
      omega
  | failed hcall hfinish =>
      refine h.uncharged (charges_other fun _ _ hlabel => by cases hlabel) rfl fun other => ?_
      dsimp only
      rw [callsOf_split hcall other]
      exact Nat.add_le_add_left (Nat.le_add_right _ _) _
  | lost hcall =>
      refine h.uncharged (charges_other fun _ _ hlabel => by cases hlabel) rfl fun other => ?_
      dsimp only
      rw [callsOf_split hcall other]
      exact Nat.add_le_add_left (Nat.le_add_right _ _) _
  | _ =>
      exact h.uncharged (charges_other fun _ _ hlabel => by cases hlabel) rfl
        fun other => le_refl _

/-- However the calls of all users interleave, crash and come late: in no
hourly window is a user charged more often than the limit, the provider is
only called for a charge, and a user has no more new generations than
charges. -/
theorem provider_calls_bounded {trace : List (Taken (State F) Event)} (hlimit : 1 ≤ limit)
    (hcounters : ∀ userId c, s.counters userId = some c → c.used ≤ limit) (hcalls : s.calls = [])
    (hrun : Run (Step limit) s trace t) (userId : Uuid) :
    (∀ window, (charges userId trace).count window ≤ limit)
      ∧ rowsOf userId t ≤ rowsOf userId s + (charges userId trace).length := by
  have hstart : Inv limit (fun userId => rowsOf userId s) [] s := by
    refine ⟨fun other => Counts.start (hcounters other), fun other => ?_⟩
    unfold callsOf
    rw [hcalls]
    exact le_refl _
  have hinv := hrun.history_last (fun _ _ h hstep => Step.inv hlimit h hstep) hstart
  exact ⟨(hinv.counts userId).bounded,
    le_trans (Nat.le_add_right _ _) (hinv.covered userId)⟩

/-! ## A generation and a retry -/

def sampleContent : Json FloatConst :=
  .obj [("question_type", .str "python_coding"),
    ("mode_specification", .obj [("tests", .arr [.obj [("visibility", .str "hidden")]])])]

def sampleCatalogue : Db FloatConst where
  questions := [⟨"question-1", "two-sum", none, some "version-1"⟩]
  versions := [{
    id := "version-1"
    id_scalar := by decide
    questionId := "question-1"
    state := .published
    structuredContent := sampleContent }]
  sessions := []
  submissions := []
  executions := []
  outbox := []
  packages _ := []
  hints := []

def sampleRequest : GenerationRequest where
  challengeSlug := "two-sum"
  prompt := "Use a hash map. "
  slug_length := by decide
  prompt_length := by decide

def sampleStart : State FloatConst := ⟨sampleCatalogue, [], fun _ => none, []⟩

def sampleQuestion : PublishedQuestion FloatConst :=
  ⟨"question-1", "two-sum", "version-1", sampleContent⟩

def sampleCharged : State FloatConst :=
  sampleStart.charge "user-1" "key-0001" sampleRequest sampleQuestion ⟨0, 1⟩

def sampleCall : Call := ⟨"user-1", "key-0001", sampleRequest, "version-1"⟩

def sampleGeneration : Generation := ⟨"def solve(): pass", "skillforge-fallback", "starter-v1"⟩

def sampleStored : State FloatConst :=
  { sampleCharged with
    rows := [sampleCall.row sampleGeneration "version-1" "generation-1"]
    calls := [] }

def sampleView : GenerationView :=
  ⟨"generation-1", "two-sum", "Use a hash map.", "def solve(): pass", "skillforge-fallback",
    "starter-v1"⟩

def sampleTrace : List (Taken (State FloatConst) Event) :=
  [⟨sampleStart, .charged "user-1" 0, sampleCharged⟩,
    ⟨sampleCharged, .answered "user-1" "key-0001" sampleRequest (.ok sampleView), sampleStored⟩,
    ⟨sampleStored, .answered "user-1" "key-0001" sampleRequest (.ok sampleView), sampleStored⟩]

theorem sample_run : Run (Step (F := FloatConst) 1) sampleStart sampleTrace sampleStored := by
  have hgranted : begin 1 5 "user-1" "key-0001" sampleRequest sampleStart
      = .ok (.granted sampleQuestion ⟨0, 1⟩) := rfl
  have hfinished : finish sampleCall sampleGeneration "generation-1" sampleCharged
      = .ok (sampleView, sampleStored.rows) := rfl
  have hreplayed : begin 1 7 "user-1" "key-0001" sampleRequest sampleStored
      = .ok (.replayed sampleView) := rfl
  exact .cons (.granted hgranted) (.cons (.finished (List.nil_append [sampleCall]).symm hfinished)
    (.cons (.replayed hreplayed) (.nil _)))

theorem answers_agree_retry :
    sampleView = { sampleView with challengeSlug := sampleView.challengeSlug }
      ∧ sampleView.prompt = strip sampleRequest.prompt
      ∧ strip sampleRequest.prompt = strip sampleRequest.prompt := by
  have hone : OnePerKey sampleStart.rows := List.Pairwise.nil
  exact answers_agree hone sample_run (List.mem_cons_of_mem _ (List.mem_cons_self ..))
    (List.mem_cons_of_mem _ (List.mem_cons_of_mem _ (List.mem_cons_self ..))) rfl rfl

theorem provider_calls_bounded_retry :
    (∀ window, (charges "user-1" sampleTrace).count window ≤ 1)
      ∧ rowsOf "user-1" sampleStored
        ≤ rowsOf "user-1" sampleStart + (charges "user-1" sampleTrace).length := by
  have hcounters : ∀ userId c, sampleStart.counters userId = some c → c.used ≤ 1 := by
    intro userId c h
    cases h
  exact provider_calls_bounded (Nat.le_refl 1) hcounters rfl sample_run "user-1"

end Rigor.ArenaGenerations
