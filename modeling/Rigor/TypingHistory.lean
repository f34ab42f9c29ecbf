import Rigor.CodeTyping

/-!
# The history of typing sessions

The guest's browser keeps the last thirty finished sessions. What a session
records is read back through a check of its own, so a kept entry has to fall
into the ranges of that check, whatever the run of the session was
(`isHistoryEntry_toJson`). The storage holds what `JSON.parse` makes of its
text.
-/

namespace CodeTyping

/-- A JSON value of the browser. -/
inductive JsValue where
  | null
  | bool (value : Bool)
  | number (value : JsNumber)
  | string (value : JsString)
  | array (items : List JsValue)
  | object (members : List (JsString × JsValue))

def text (s : String) : JsString := s.toList.map Char.toNat

structure HistoryEntry where
  id : JsString
  snippetId : JsString
  snippetVersion : Nat
  language : TypingLanguage
  status : JsString
  durationSeconds : Rat
  elapsedMs : Rat
  correctChars : Nat
  insertedChars : Nat
  cpm : Rat
  grossCpm : Rat
  wpm : Rat
  accuracy : Rat
  recordedAtMs : Rat
deriving DecidableEq

def TypingLanguage.toJson : TypingLanguage → JsValue
  | .python => .string (text "python")
  | .sql => .string (text "sql")
  | .javascript => .string (text "javascript")

def historyEntry (session : TypingSession) (id : JsString) (recordedAtMs : Rat) :
    Except String HistoryEntry :=
  let score := sessionMetrics session
  let entry (status : String) : HistoryEntry := {
    id
    snippetId := session.snippet.id
    snippetVersion := session.snippet.version
    language := session.snippet.language
    status := text status
    durationSeconds := session.durationMs / 1000
    elapsedMs := session.elapsedMs
    correctChars := score.correctChars
    insertedChars := score.insertedChars
    cpm := score.cpm
    grossCpm := score.grossCpm
    wpm := score.wpm
    accuracy := score.accuracy
    recordedAtMs }
  match session.status with
  | .completed => .ok (entry "completed")
  | .timedOut => .ok (entry "timed-out")
  | _ => .error "Only completed or timed-out attempts can enter history."

/-- The object `historyEntry` returns. -/
def HistoryEntry.toJson (entry : HistoryEntry) : JsValue :=
  let number (value : Rat) : JsValue := .number (.finite value)
  .object [(text "schemaVersion", number 1), (text "id", .string entry.id),
    (text "snippetId", .string entry.snippetId), (text "snippetVersion", number entry.snippetVersion),
    (text "language", entry.language.toJson), (text "status", .string entry.status),
    (text "durationSeconds", number entry.durationSeconds),
    (text "elapsedMs", number entry.elapsedMs), (text "correctChars", number entry.correctChars),
    (text "insertedChars", number entry.insertedChars), (text "cpm", number entry.cpm),
    (text "grossCpm", number entry.grossCpm), (text "wpm", number entry.wpm),
    (text "accuracy", number entry.accuracy), (text "recordedAtMs", number entry.recordedAtMs)]

/-! ## Reading -/

/-- A member of an object; `none` is `undefined`. -/
def JsValue.member (value : JsValue) (key : String) : Option JsValue :=
  match value with
  | .object members => (members.find? fun pair => pair.1 = text key).map Prod.snd
  | _ => none

/-- A member that is a string. -/
def JsValue.stringMember (value : JsValue) (key : String) : Option JsString :=
  match value.member key with
  | some (.string s) => some s
  | _ => none

/-- A member that is a finite number. -/
def JsValue.finiteMember (value : JsValue) (key : String) : Option Rat :=
  match value.member key with
  | some (.number (.finite x)) => some x
  | _ => none

def numberKeys : List String :=
  ["elapsedMs", "correctChars", "insertedChars", "cpm", "grossCpm", "wpm", "accuracy",
    "recordedAtMs"]

def TypingLanguage.name : TypingLanguage → JsString
  | .python => text "python"
  | .sql => text "sql"
  | .javascript => text "javascript"

section Storage

/- The listed snippets. -/
variable (snippets : List TypingSnippet)

def isHistoryEntry (value : JsValue) : Bool :=
  let snippet := snippets.find? fun item =>
    value.stringMember "snippetId" = some item.id
      && value.finiteMember "snippetVersion" = some (item.version : Rat)
      && value.stringMember "language" = some item.language.name
  value.finiteMember "schemaVersion" = some 1
    && (value.stringMember "id").any (fun id => !id.isEmpty)
    && snippet.isSome
    && (value.stringMember "status" = some (text "completed")
      || value.stringMember "status" = some (text "timed-out"))
    && decide ((value.finiteMember "durationSeconds").getD (-1) ∈ durations)
    && numberKeys.all (fun key => (value.finiteMember key).any fun x => decide (0 ≤ x))
    && decide ((value.finiteMember "accuracy").getD 101 ≤ 100)
    && decide ((value.finiteMember "elapsedMs").getD (-1)
      ≤ (value.finiteMember "durationSeconds").getD 0 * 1000)

/-- What the storage holds under the key of the history. -/
inductive Stored where
  | absent
  | unparsable
  | value (payload : JsValue)

def readHistory (storage : Stored) : List JsValue :=
  match storage with
  | .value payload =>
      match payload.finiteMember "schemaVersion", payload.member "entries" with
      | some version, some (.array entries) =>
          if version ≠ 1 then [] else (entries.filter (isHistoryEntry snippets)).take 30
      | _, _ => []
  | _ => []

/-- `item.id === entry.id` for an entry with a string as its id. -/
def sameId (entry item : JsValue) : Bool :=
  (entry.stringMember "id").any fun id => item.stringMember "id" = some id

/-- The entries returned, and the storage afterwards. -/
def appendHistory (storage : Stored) (entry : JsValue) : List JsValue × Stored :=
  let existing := readHistory snippets storage
  let entries := if existing.any (sameId entry) then existing else (entry :: existing).take 30
  (entries, .value (.object [(text "schemaVersion", .number (.finite 1)),
    (text "entries", .array entries)]))

/-- Recording one entry after another. -/
def appendAll (storage : Stored) (entries : List JsValue) : Stored :=
  entries.foldl (fun storage entry => (appendHistory snippets storage entry).2) storage

/-! ## What is recorded is read back -/

/-- A session of a listed snippet that ended by itself, and what it is recorded under. -/
structure Attempt where
  session : TypingSession
  id : JsString
  recordedAtMs : Rat

def Attempt.Finished (a : Attempt) : Prop :=
  a.id ≠ [] ∧ 0 ≤ a.recordedAtMs
    ∧ (a.session.status = .completed ∨ a.session.status = .timedOut)
    ∧ ∃ snippet ∈ snippets, snippet.expectedText ≠ [] ∧ ∃ durationSeconds s₀ ops,
      newSession snippet durationSeconds = .ok s₀ ∧ a.session = s₀.applyAll ops

/-- The entry of a finished attempt. -/
def Attempt.entry (a : Attempt) : Except String HistoryEntry :=
  historyEntry a.session a.id a.recordedAtMs

variable {snippets}

theorem Attempt.Finished.honest {a : Attempt} (h : a.Finished snippets) :
    a.session.snippet ∈ snippets ∧ Honest a.session.snippet a.session := by
  obtain ⟨-, -, -, snippet, hlisted, hexpected, durationSeconds, s₀, ops, hnew, hrun⟩ := h
  have hhonest := applyAll_honest ops s₀ (newSession_honest hexpected hnew)
  rw [← hrun] at hhonest
  rw [hhonest.snippet_eq]
  exact ⟨hlisted, hhonest⟩

theorem toJson_stringMember (entry : HistoryEntry) :
    entry.toJson.stringMember "id" = some entry.id
      ∧ entry.toJson.stringMember "snippetId" = some entry.snippetId
      ∧ entry.toJson.stringMember "language" = some entry.language.name
      ∧ entry.toJson.stringMember "status" = some entry.status := by
  refine ⟨rfl, rfl, ?_, rfl⟩
  obtain ⟨id, snippetId, snippetVersion, language, status⟩ := entry
  cases language <;> rfl

theorem isHistoryEntry_toJson {a : Attempt} (h : a.Finished snippets) {entry : HistoryEntry}
    (hentry : a.entry = .ok entry) : isHistoryEntry snippets entry.toJson = true := by
  obtain ⟨hlisted, hhonest⟩ := h.honest
  have hkept : entry.id = a.id ∧ entry.snippetId = a.session.snippet.id
      ∧ entry.snippetVersion = a.session.snippet.version
      ∧ entry.language = a.session.snippet.language
      ∧ (entry.status = text "completed" ∨ entry.status = text "timed-out")
      ∧ entry.durationSeconds = a.session.durationMs / 1000
      ∧ entry.elapsedMs = a.session.elapsedMs
      ∧ entry.cpm = (sessionMetrics a.session).cpm
      ∧ entry.grossCpm = (sessionMetrics a.session).grossCpm
      ∧ entry.wpm = (sessionMetrics a.session).cpm / 5
      ∧ entry.accuracy = (sessionMetrics a.session).accuracy
      ∧ entry.recordedAtMs = a.recordedAtMs := by
    unfold Attempt.entry historyEntry at hentry
    dsimp only at hentry
    split at hentry
    · cases hentry
      exact ⟨rfl, rfl, rfl, rfl, .inl rfl, rfl, rfl, rfl, rfl, rfl, rfl, rfl⟩
    · cases hentry
      exact ⟨rfl, rfl, rfl, rfl, .inr rfl, rfl, rfl, rfl, rfl, rfl, rfl, rfl⟩
    · cases hentry
  obtain ⟨hid, hsnippet, hversion, hlanguage, hstatus, hduration, helapsed, hcpm, hgross, hwpm,
    haccuracy, hrecorded⟩ := hkept
  obtain ⟨hidText, hsnippetText, hlanguageText, hstatusText⟩ := toJson_stringMember entry
  have hfound : (snippets.find? fun item =>
      entry.toJson.stringMember "snippetId" = some item.id
        && entry.toJson.finiteMember "snippetVersion" = some (item.version : Rat)
        && entry.toJson.stringMember "language" = some item.language.name).isSome = true := by
    refine List.find?_isSome.mpr ⟨a.session.snippet, hlisted, ?_⟩
    have hversionNumber : entry.toJson.finiteMember "snippetVersion"
        = some (entry.snippetVersion : Rat) := rfl
    simp [hsnippetText, hlanguageText, hversionNumber, hsnippet, hversion, hlanguage]
  have hnumbers : numberKeys.all (fun key =>
      (entry.toJson.finiteMember key).any fun x => decide (0 ≤ x)) = true := by
    have hmetrics := cpm_nonneg (s := a.session)
    refine List.all_eq_true.mpr fun key hkey => ?_
    simp only [numberKeys, List.mem_cons, List.not_mem_nil, or_false] at hkey
    rcases hkey with rfl | rfl | rfl | rfl | rfl | rfl | rfl | rfl
    · exact decide_eq_true (helapsed ▸ hhonest.elapsed_nonneg)
    · exact decide_eq_true (Nat.cast_nonneg entry.correctChars)
    · exact decide_eq_true (Nat.cast_nonneg entry.insertedChars)
    · exact decide_eq_true (hcpm ▸ hmetrics)
    · exact decide_eq_true (hgross ▸ hmetrics.trans (cpm_le_grossCpm hhonest))
    · exact decide_eq_true (hwpm ▸ div_nonneg hmetrics (by norm_num))
    · exact decide_eq_true (haccuracy ▸ (accuracy_mem hhonest).1)
    · exact decide_eq_true (hrecorded ▸ h.2.1)
  have hmax : a.session.elapsedMs ≤ a.session.durationMs / 1000 * 1000 := by
    have := hhonest.elapsed_le
    linarith
  have hids : entry.id.isEmpty = false := by
    rw [hid, List.isEmpty_eq_false_iff]
    exact h.1
  simp only [isHistoryEntry, Bool.and_eq_true]
  refine ⟨⟨⟨⟨⟨⟨⟨rfl, ?_⟩, hfound⟩, ?_⟩, ?_⟩, hnumbers⟩, ?_⟩, ?_⟩
  · rw [hidText, Option.any_some, hids]
    rfl
  · rw [hstatusText]
    rcases hstatus with hstatus | hstatus
    · simp [hstatus]
    · simp [hstatus]
  · exact decide_eq_true (show entry.durationSeconds ∈ durations from hduration ▸ hhonest.duration)
  · exact decide_eq_true (show entry.accuracy ≤ 100 from haccuracy ▸ (accuracy_mem hhonest).2)
  · exact decide_eq_true (show entry.elapsedMs ≤ entry.durationSeconds * 1000 from
      helapsed ▸ hduration ▸ hmax)

/-- Entries that pass the check are kept as they are. -/
theorem readHistory_appendHistory {storage : Stored} {entry : JsValue}
    (hentry : isHistoryEntry snippets entry = true)
    (hnew : ∀ item ∈ readHistory snippets storage, sameId entry item = false) :
    readHistory snippets (appendHistory snippets storage entry).2
      = (entry :: readHistory snippets storage).take 30 := by
  have hread : ∀ item ∈ readHistory snippets storage, isHistoryEntry snippets item = true := by
    intro item hitem
    unfold readHistory at hitem
    split at hitem
    · split at hitem
      · split at hitem
        · cases hitem
        · exact (List.mem_filter.mp (List.mem_of_mem_take hitem)).2
      · cases hitem
    · cases hitem
  have hany : (readHistory snippets storage).any (sameId entry) = false := by
    rw [List.any_eq_false]
    exact fun item hitem => by simp [hnew item hitem]
  have hall : ∀ item ∈ (entry :: readHistory snippets storage).take 30,
      isHistoryEntry snippets item = true := by
    intro item hitem
    rcases List.mem_cons.mp (List.mem_of_mem_take hitem) with rfl | hold
    · exact hentry
    · exact hread item hold
  have hstored : (appendHistory snippets storage entry).2
      = .value (.object [(text "schemaVersion", .number (.finite 1)),
        (text "entries", .array ((entry :: readHistory snippets storage).take 30))]) := by
    simp only [appendHistory, hany, Bool.false_eq_true, if_false]
  rw [hstored]
  show ((((entry :: readHistory snippets storage).take 30).filter
    (isHistoryEntry snippets)).take 30) = _
  rw [List.filter_eq_self.mpr hall, List.take_take, Nat.min_self]

/-- Recording entries of ids that no other entry has, on top of those seen before. -/
theorem readHistory_appendAll : ∀ (entries seen : List JsValue) (storage : Stored),
    readHistory snippets storage = seen.take 30 →
    (∀ entry ∈ entries, isHistoryEntry snippets entry = true) →
    (∀ entry ∈ entries, ∀ item ∈ seen, sameId entry item = false) →
    (entries.Pairwise fun item entry => sameId entry item = false) →
    readHistory snippets (appendAll snippets storage entries)
      = (entries.reverse ++ seen).take 30 := by
  intro entries
  induction entries with
  | nil => exact fun seen storage hseen _ _ _ => hseen
  | cons entry rest ih =>
      intro seen storage hseen hvalid hfresh hapart
      obtain ⟨hentry, hrest⟩ := List.forall_mem_cons.mp hvalid
      obtain ⟨hlater, hpairs⟩ := List.pairwise_cons.mp hapart
      have hstep : readHistory snippets (appendHistory snippets storage entry).2
          = (entry :: seen).take 30 := by
        rw [readHistory_appendHistory hentry, hseen, List.take_succ_cons, List.take_succ_cons,
          List.take_take]
        · rfl
        · rw [hseen]
          exact fun item hitem =>
            hfresh entry (List.mem_cons_self ..) item (List.mem_of_mem_take hitem)
      have hall := ih (entry :: seen) _ hstep hrest (fun later hlaterMem item hitem => by
        rcases List.mem_cons.mp hitem with rfl | hold
        · exact hlater later hlaterMem
        · exact hfresh later (List.mem_cons_of_mem _ hlaterMem) item hold) hpairs
      rw [List.reverse_cons, List.append_assoc]
      exact hall

theorem Attempt.Finished.entry_ok {a : Attempt} (h : a.Finished snippets) :
    ∃ entry, a.entry = .ok entry ∧ entry.id = a.id := by
  unfold Attempt.entry historyEntry
  rcases h.2.2.1 with hstatus | hstatus
  · rw [hstatus]
    exact ⟨_, rfl, rfl⟩
  · rw [hstatus]
    exact ⟨_, rfl, rfl⟩

/-- What a session keeps to at every moment. -/
structure SessionLaws (snippet : TypingSnippet) (durationSeconds : Rat) (s : TypingSession) :
    Prop where
  absorbing : s.IsOver → ∀ op, s.apply op = s
  elapsed_mono : ∀ op, s.elapsedMs ≤ (s.apply op).elapsedMs
  elapsed_le : s.elapsedMs ≤ durationSeconds * 1000
  completed_iff : s.status = .completed ↔ s.input = snippet.expectedText
  text_le : (arrayFrom s.input).length ≤ s.insertedChars
  correct_le : s.correctInsertions ≤ s.insertedChars
  accuracy_mem : 0 ≤ (sessionMetrics s).accuracy ∧ (sessionMetrics s).accuracy ≤ 100
  cpm_le : (sessionMetrics s).cpm ≤ (sessionMetrics s).grossCpm

theorem apply_durationMs (s : TypingSession) (op : SessionOp) :
    (s.apply op).durationMs = s.durationMs := by
  have htick : ∀ atMs, (s.tick atMs).durationMs = s.durationMs := by
    intro atMs
    unfold TypingSession.tick
    split
    · dsimp only
      split <;> rfl
    · rfl
  cases op with
  | applyText rawText atMs =>
      show (s.applyText rawText atMs).durationMs = s.durationMs
      rcases applyText_cases (s := s) rawText atMs with heq | heq | ⟨next, startedAtMs, heq⟩
      · rw [heq]
      · rw [heq, htick]
      · rw [heq]
        exact htick atMs
  | tick atMs => exact htick atMs
  | cancelSession =>
      simp only [TypingSession.apply, TypingSession.cancelSession]
      split <;> rfl

theorem applyAll_durationMs (ops : List SessionOp) :
    ∀ s : TypingSession, (s.applyAll ops).durationMs = s.durationMs := by
  induction ops with
  | nil => exact fun s => rfl
  | cons op rest ih => exact fun s => (ih _).trans (apply_durationMs s op)

theorem sessionLaws {snippet : TypingSnippet} (hexpected : snippet.expectedText ≠ [])
    {durationSeconds : Rat} {s₀ : TypingSession}
    (hnew : newSession snippet durationSeconds = .ok s₀) (ops : List SessionOp) :
    SessionLaws snippet durationSeconds (s₀.applyAll ops) := by
  have h := applyAll_honest ops s₀ (newSession_honest hexpected hnew)
  have hduration : s₀.durationMs = durationSeconds * 1000 := by
    unfold newSession at hnew
    split at hnew
    · cases hnew
    · cases hnew
      rfl
  have hmax := h.elapsed_le
  rw [applyAll_durationMs, hduration] at hmax
  exact ⟨apply_of_over, apply_elapsed h, hmax, h.completed_iff, h.text_le, h.correct_le,
    accuracy_mem h, cpm_le_grossCpm h⟩

/-- The entries of finished attempts of different ids: the last thirty are read
back, newest first. -/
theorem history_kept {attempts : List Attempt} (hfinished : ∀ a ∈ attempts, a.Finished snippets)
    (hids : (attempts.map Attempt.id).Nodup) :
    ∃ entries : List HistoryEntry, attempts.map Attempt.entry = entries.map Except.ok
      ∧ readHistory snippets (appendAll snippets .absent (entries.map HistoryEntry.toJson))
        = (entries.reverse.take 30).map HistoryEntry.toJson := by
  have hentries : ∃ entries : List HistoryEntry, attempts.map Attempt.entry = entries.map Except.ok
      ∧ entries.map HistoryEntry.id = attempts.map Attempt.id
      ∧ ∀ entry ∈ entries, isHistoryEntry snippets entry.toJson = true := by
    clear hids
    induction attempts with
    | nil => exact ⟨[], rfl, rfl, List.forall_mem_nil _⟩
    | cons a rest ih =>
        obtain ⟨ha, hrest⟩ := List.forall_mem_cons.mp hfinished
        obtain ⟨entry, hentry, hid⟩ := ha.entry_ok
        obtain ⟨entries, hmap, hmapIds, hvalid⟩ := ih hrest
        refine ⟨entry :: entries, ?_, ?_, ?_⟩
        · rw [List.map_cons, List.map_cons, hentry, hmap]
        · rw [List.map_cons, List.map_cons, hid, hmapIds]
        · exact List.forall_mem_cons.mpr ⟨isHistoryEntry_toJson ha hentry, hvalid⟩
  obtain ⟨entries, hmap, hmapIds, hvalid⟩ := hentries
  refine ⟨entries, hmap, ?_⟩
  have hapart : (entries.map HistoryEntry.toJson).Pairwise
      fun item entry => sameId entry item = false := by
    rw [← hmapIds] at hids
    refine List.pairwise_map.mpr ((List.pairwise_map.mp hids).imp fun {item entry} hne => ?_)
    have hitem := (toJson_stringMember item).1
    have hentry := (toJson_stringMember entry).1
    rw [sameId, hentry, Option.any_some, hitem, decide_eq_false_iff_not, Option.some.injEq]
    exact hne
  have hread := readHistory_appendAll (entries.map HistoryEntry.toJson) [] .absent rfl
    (by
      intro value hvalue
      obtain ⟨entry, hmem, rfl⟩ := List.mem_map.mp hvalue
      exact hvalid entry hmem)
    (fun _ _ => nofun) hapart
  rw [hread, List.append_nil, ← List.map_reverse, List.map_take]

/-- Sessions keep honest statistics, and the last thirty finished ones are kept as they were. -/
theorem statistics_honest {snippet : TypingSnippet} (hexpected : snippet.expectedText ≠ [])
    {durationSeconds : Rat} {s₀ : TypingSession}
    (hnew : newSession snippet durationSeconds = .ok s₀) (ops : List SessionOp)
    {attempts : List Attempt} (hfinished : ∀ a ∈ attempts, a.Finished snippets)
    (hids : (attempts.map Attempt.id).Nodup) :
    SessionLaws snippet durationSeconds (s₀.applyAll ops)
      ∧ ∃ entries : List HistoryEntry, attempts.map Attempt.entry = entries.map Except.ok
        ∧ readHistory snippets (appendAll snippets .absent (entries.map HistoryEntry.toJson))
          = (entries.reverse.take 30).map HistoryEntry.toJson :=
  ⟨sessionLaws hexpected hnew ops, history_kept hfinished hids⟩

end Storage

/-! ## One typed letter -/

def letterSnippet : TypingSnippet where
  id := text "one-letter"
  version := 1
  language := .python
  expectedText := text "a"
  indentation := 4

def letterStart : TypingSession where
  status := .idle
  snippet := letterSnippet
  durationMs := 30 * 1000
  input := []
  startedAtMs := none
  elapsedMs := 0
  insertedChars := 0
  correctInsertions := 0

def letterTyped : List SessionOp := [.applyText (text "a") (.finite 7)]

def letterAttempt : Attempt where
  session := letterStart.applyAll letterTyped
  id := text "first"
  recordedAtMs := 8

theorem letterAttempt_finished : letterAttempt.Finished [letterSnippet] :=
  ⟨by simp [letterAttempt, text], by norm_num [letterAttempt], .inl (by decide +kernel),
    letterSnippet, List.mem_singleton_self _, by simp [letterSnippet, text], 30, letterStart,
    letterTyped, by decide +kernel, rfl⟩

theorem letter_honest :
    SessionLaws letterSnippet 30 (letterStart.applyAll letterTyped)
      ∧ ∃ entries : List HistoryEntry,
        [letterAttempt].map Attempt.entry = entries.map Except.ok
          ∧ readHistory [letterSnippet]
              (appendAll [letterSnippet] .absent (entries.map HistoryEntry.toJson))
            = (entries.reverse.take 30).map HistoryEntry.toJson :=
  statistics_honest (by simp [letterSnippet, text]) rfl letterTyped
    (List.forall_mem_singleton.mpr letterAttempt_finished) (List.nodup_singleton _)

end CodeTyping
