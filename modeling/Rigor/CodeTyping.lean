import Mathlib.Algebra.Order.Field.Rat
import Mathlib.Algebra.Order.Field.Basic
import Mathlib.Tactic.Positivity
import Mathlib.Tactic.Linarith

/-!
# Code typing sessions

A typing session sees the whole text after every edit. What was inserted is
inferred from the common front and back of two successive texts, so the
counters can only say how much was inserted at least; that is enough for them
never to fall behind the text (`Honest`).
-/

namespace CodeTyping

/-- A string of the browser: its UTF-16 code units. -/
abbrev JsString := List Nat

/-- A number of the browser, computed exactly. -/
inductive JsNumber where
  | finite (value : Rat)
  | notFinite
deriving DecidableEq

inductive TypingLanguage where
  | python
  | sql
  | javascript
deriving DecidableEq

/-- The fields a session and its history entry read. -/
structure TypingSnippet where
  id : JsString
  version : Nat
  language : TypingLanguage
  expectedText : JsString
  indentation : Nat
deriving DecidableEq

inductive SessionStatus where
  | idle
  | active
  | completed
  | timedOut
  | cancelled
deriving DecidableEq

structure TypingSession where
  status : SessionStatus
  snippet : TypingSnippet
  durationMs : Rat
  input : JsString
  startedAtMs : Option Rat
  elapsedMs : Rat
  insertedChars : Nat
  correctInsertions : Nat
deriving DecidableEq

structure TypingMetrics where
  correctChars : Nat
  insertedChars : Nat
  correctInsertions : Nat
  elapsedSeconds : Rat
  cpm : Rat
  grossCpm : Rat
  wpm : Rat
  accuracy : Rat
deriving DecidableEq

/-! ## Texts -/

def isHighSurrogate (unit : Nat) : Bool := 0xD800 ≤ unit && unit < 0xDC00

def isLowSurrogate (unit : Nat) : Bool := 0xDC00 ≤ unit && unit < 0xE000

/-- `Array.from`: the code points, a surrogate without its partner as it is. -/
def arrayFrom : JsString → List Nat
  | high :: low :: rest =>
      if isHighSurrogate high && isLowSurrogate low then
        (0x10000 + (high - 0xD800) * 0x400 + (low - 0xDC00)) :: arrayFrom rest
      else high :: arrayFrom (low :: rest)
  | [unit] => [unit]
  | [] => []

/-- `value.replace(/\r\n?/g, "\n")`. -/
def unifyNewlines : JsString → JsString
  | 13 :: 10 :: rest => 10 :: unifyNewlines rest
  | 13 :: rest => 10 :: unifyNewlines rest
  | unit :: rest => unit :: unifyNewlines rest
  | [] => []

def normalizeInput (value : JsString) (spaces : Nat) : JsString :=
  (unifyNewlines value).flatMap fun unit => if unit = 9 then List.replicate spaces 32 else [unit]

/-- How many elements two arrays share at their front. -/
def commonPrefix : List Nat → List Nat → Nat
  | a :: before, b :: after => if a = b then commonPrefix before after + 1 else 0
  | _, _ => 0

/-- How many of `characters` are those of `target` from `start` on. -/
def correctFrom (target : List Nat) (start : Nat) : List Nat → Nat
  | [] => 0
  | character :: rest =>
      (if target[start]? = some character then 1 else 0) + correctFrom target (start + 1) rest

/-! ## The session -/

def durations : List Rat := [30, 60, 120]

def newSession (snippet : TypingSnippet) (durationSeconds : Rat) : Except String TypingSession :=
  if durationSeconds ∉ durations then .error "Duration must be 30, 60 or 120 seconds."
  else .ok {
    status := .idle
    snippet
    durationMs := durationSeconds * 1000
    input := []
    startedAtMs := none
    elapsedMs := 0
    insertedChars := 0
    correctInsertions := 0 }

def TypingSession.tick (session : TypingSession) (atMs : JsNumber) : TypingSession :=
  match session.status, atMs, session.startedAtMs with
  | .active, .finite atMs, some startedAtMs =>
      let elapsedMs := min session.durationMs (max (max session.elapsedMs 0) (atMs - startedAtMs))
      if elapsedMs = session.elapsedMs ∧ elapsedMs < session.durationMs then session
      else
        { session with
          elapsedMs
          status := if session.durationMs ≤ elapsedMs then .timedOut else .active }
  | _, _, _ => session

/-- What an edit inserted: the part of `after` between the common front and
the common back, and where it begins. -/
def insertedPart (before after : List Nat) : Nat × List Nat :=
  let front := commonPrefix before after
  let back := commonPrefix (before.drop front).reverse (after.drop front).reverse
  (front, (after.drop front).take (after.length - back - front))

def TypingSession.applyText (session : TypingSession) (rawText : JsString) (atMs : JsNumber) :
    TypingSession :=
  match atMs with
  | .notFinite => session
  | .finite atMs =>
      if session.status ≠ .idle ∧ session.status ≠ .active then session
      else
        let current := session.tick (.finite atMs)
        if current.status = .timedOut then current
        else
          let next := normalizeInput rawText session.snippet.indentation
          let target := arrayFrom session.snippet.expectedText
          let after := arrayFrom next
          if next = current.input ∨ 0 ∈ next ∨ target.length + 32 < after.length then current
          else
            let (front, inserted) := insertedPart (arrayFrom current.input) after
            let startedAtMs := current.startedAtMs.or (if next ≠ [] then some atMs else none)
            { current with
              status :=
                if next = session.snippet.expectedText then .completed
                else if startedAtMs = none then .idle else .active
              input := next
              startedAtMs
              insertedChars := current.insertedChars + inserted.length
              correctInsertions := current.correctInsertions + correctFrom target front inserted }

def TypingSession.cancelSession (session : TypingSession) : TypingSession :=
  if session.status = .idle ∨ session.status = .active then { session with status := .cancelled }
  else session

def sessionMetrics (session : TypingSession) : TypingMetrics :=
  let target := arrayFrom session.snippet.expectedText
  let actual := arrayFrom session.input
  let correctChars := correctFrom target 0 actual
  let elapsedSeconds := session.elapsedMs / 1000
  let cpm := if 0 < elapsedSeconds then (correctChars * 60) / elapsedSeconds else 0
  let grossCpm := if 0 < elapsedSeconds then (session.insertedChars * 60) / elapsedSeconds else 0
  { correctChars
    insertedChars := session.insertedChars
    correctInsertions := session.correctInsertions
    elapsedSeconds
    cpm
    grossCpm
    wpm := cpm / 5
    accuracy :=
      if 0 < session.insertedChars then
        ((session.correctInsertions : Rat) / session.insertedChars) * 100
      else 100 }

inductive SessionOp where
  | applyText (rawText : JsString) (atMs : JsNumber)
  | tick (atMs : JsNumber)
  | cancelSession

def TypingSession.apply (session : TypingSession) : SessionOp → TypingSession
  | .applyText rawText atMs => session.applyText rawText atMs
  | .tick atMs => session.tick atMs
  | .cancelSession => session.cancelSession

def TypingSession.applyAll (session : TypingSession) (ops : List SessionOp) : TypingSession :=
  ops.foldl TypingSession.apply session

/-! ## Counting -/

theorem commonPrefix_le : ∀ before after : List Nat,
    commonPrefix before after ≤ before.length ∧ commonPrefix before after ≤ after.length
  | [], _ => ⟨Nat.zero_le _, Nat.zero_le _⟩
  | _ :: _, [] => ⟨Nat.zero_le _, Nat.zero_le _⟩
  | a :: before, b :: after => by
      have ih := commonPrefix_le before after
      rw [commonPrefix, List.length_cons, List.length_cons]
      split
      · omega
      · omega

theorem correctFrom_le (target : List Nat) : ∀ (start : Nat) (characters : List Nat),
    correctFrom target start characters ≤ characters.length
  | _, [] => Nat.le_refl _
  | start, character :: rest => by
      have ih := correctFrom_le target (start + 1) rest
      rw [correctFrom, List.length_cons]
      split
      · omega
      · omega

/-- A text is no longer than the text before it and what was inserted. -/
theorem length_le_inserted (before after : List Nat) :
    after.length ≤ before.length + (insertedPart before after).2.length := by
  have hfront := commonPrefix_le before after
  have hback := commonPrefix_le (before.drop (commonPrefix before after)).reverse
    (after.drop (commonPrefix before after)).reverse
  simp only [List.length_reverse, List.length_drop] at hback
  simp only [insertedPart, List.length_take, List.length_drop]
  omega

/-! ## The invariant -/

/-- The counters of a session are not behind its text, and its clock is within
its duration. -/
structure Honest (snippet : TypingSnippet) (s : TypingSession) : Prop where
  snippet_eq : s.snippet = snippet
  duration : s.durationMs / 1000 ∈ durations
  elapsed_nonneg : 0 ≤ s.elapsedMs
  elapsed_le : s.elapsedMs ≤ s.durationMs
  text_le : (arrayFrom s.input).length ≤ s.insertedChars
  correct_le : s.correctInsertions ≤ s.insertedChars
  completed_iff : s.status = .completed ↔ s.input = snippet.expectedText

/-- Completed, timed out or cancelled. -/
def TypingSession.IsOver (s : TypingSession) : Prop := s.status ≠ .idle ∧ s.status ≠ .active

section Steps

variable {snippet : TypingSnippet} {s : TypingSession}

theorem tick_of_over (h : s.IsOver) (atMs : JsNumber) : s.tick atMs = s := by
  unfold TypingSession.tick
  split
  · rename_i hactive _
    exact absurd hactive h.2
  · rfl

theorem apply_of_over (h : s.IsOver) (op : SessionOp) : s.apply op = s := by
  cases op with
  | applyText rawText atMs =>
      cases atMs with
      | notFinite => rfl
      | finite atMs => exact if_pos h
  | tick atMs => exact tick_of_over h atMs
  | cancelSession =>
      simp only [TypingSession.apply, TypingSession.cancelSession]
      rw [if_neg]
      rintro (hidle | hactive)
      · exact h.1 hidle
      · exact h.2 hactive

/-- A tick passes time, and ends the session where the time is up. -/
theorem tick_cases (h : Honest snippet s) (atMs : JsNumber) : s.tick atMs = s
    ∨ s.status = .active ∧ ∃ elapsedMs, s.elapsedMs ≤ elapsedMs ∧ elapsedMs ≤ s.durationMs
      ∧ s.tick atMs = { s with
          elapsedMs
          status := if s.durationMs ≤ elapsedMs then .timedOut else .active } := by
  unfold TypingSession.tick
  split
  · rename_i atMs startedAtMs hactive _
    dsimp only
    split
    · exact .inl rfl
    · refine .inr ⟨hactive, _, ?_, min_le_left _ _, rfl⟩
      exact le_min h.elapsed_le ((le_max_left _ _).trans (le_max_left _ _))
  · exact .inl rfl

theorem tick_honest (h : Honest snippet s) (atMs : JsNumber) : Honest snippet (s.tick atMs) := by
  rcases tick_cases h atMs with heq | ⟨hactive, elapsedMs, hle, hmax, heq⟩
  · rwa [heq]
  · rw [heq]
    refine ⟨h.snippet_eq, h.duration, h.elapsed_nonneg.trans hle, hmax, h.text_le, h.correct_le, ?_⟩
    have hopen : s.input ≠ snippet.expectedText := fun hdone => by
      rw [h.completed_iff.mpr hdone] at hactive
      cases hactive
    constructor
    · intro hdone
      dsimp only at hdone
      split at hdone <;> cases hdone
    · exact fun hdone => absurd hdone hopen

theorem tick_elapsed (h : Honest snippet s) (atMs : JsNumber) :
    s.elapsedMs ≤ (s.tick atMs).elapsedMs := by
  rcases tick_cases h atMs with heq | ⟨-, elapsedMs, hle, -, heq⟩
  · rw [heq]
  · rw [heq]
    exact hle

/-- An edit does nothing, or passes time, or passes time and takes the new text. -/
theorem applyText_cases (rawText : JsString) (atMs : JsNumber) : s.applyText rawText atMs = s
    ∨ s.applyText rawText atMs = s.tick atMs
    ∨ ∃ next startedAtMs, s.applyText rawText atMs = { s.tick atMs with
        status :=
          if next = s.snippet.expectedText then .completed
          else if startedAtMs = none then .idle else .active
        input := next
        startedAtMs
        insertedChars := (s.tick atMs).insertedChars
          + (insertedPart (arrayFrom (s.tick atMs).input) (arrayFrom next)).2.length
        correctInsertions := (s.tick atMs).correctInsertions
          + correctFrom (arrayFrom s.snippet.expectedText)
            (insertedPart (arrayFrom (s.tick atMs).input) (arrayFrom next)).1
            (insertedPart (arrayFrom (s.tick atMs).input) (arrayFrom next)).2 } := by
  cases atMs with
  | notFinite => exact .inl rfl
  | finite atMs =>
      unfold TypingSession.applyText
      dsimp only
      split
      · exact .inl rfl
      split
      · exact .inr (.inl rfl)
      split
      · exact .inr (.inl rfl)
      · exact .inr (.inr ⟨_, _, rfl⟩)

theorem applyText_honest (h : Honest snippet s) (rawText : JsString) (atMs : JsNumber) :
    Honest snippet (s.applyText rawText atMs) := by
  have htick := tick_honest h atMs
  rcases applyText_cases rawText atMs with heq | heq | ⟨next, startedAtMs, heq⟩
  · rwa [heq]
  · rwa [heq]
  · rw [heq]
    refine ⟨htick.snippet_eq, htick.duration, htick.elapsed_nonneg, htick.elapsed_le, ?_, ?_, ?_⟩
    · have := length_le_inserted (arrayFrom (s.tick atMs).input) (arrayFrom next)
      have := htick.text_le
      dsimp only
      omega
    · have := correctFrom_le (arrayFrom s.snippet.expectedText)
        (insertedPart (arrayFrom (s.tick atMs).input) (arrayFrom next)).1
        (insertedPart (arrayFrom (s.tick atMs).input) (arrayFrom next)).2
      have := htick.correct_le
      dsimp only
      omega
    · dsimp only
      rw [h.snippet_eq]
      split
      · rename_i hdone
        exact iff_of_true rfl hdone
      · rename_i hdone
        refine iff_of_false ?_ hdone
        split <;> nofun

theorem cancelSession_honest (h : Honest snippet s) : Honest snippet s.cancelSession := by
  unfold TypingSession.cancelSession
  split
  · rename_i hopen
    refine ⟨h.snippet_eq, h.duration, h.elapsed_nonneg, h.elapsed_le, h.text_le, h.correct_le,
      iff_of_false nofun fun hdone => ?_⟩
    rw [h.completed_iff.mpr hdone] at hopen
    rcases hopen with hopen | hopen <;> cases hopen
  · exact h

theorem apply_honest (h : Honest snippet s) (op : SessionOp) : Honest snippet (s.apply op) := by
  cases op with
  | applyText rawText atMs => exact applyText_honest h rawText atMs
  | tick atMs => exact tick_honest h atMs
  | cancelSession => exact cancelSession_honest h

theorem apply_elapsed (h : Honest snippet s) (op : SessionOp) :
    s.elapsedMs ≤ (s.apply op).elapsedMs := by
  cases op with
  | applyText rawText atMs =>
      show s.elapsedMs ≤ (s.applyText rawText atMs).elapsedMs
      rcases applyText_cases rawText atMs with heq | heq | ⟨next, startedAtMs, heq⟩
      · rw [heq]
      · rw [heq]
        exact tick_elapsed h atMs
      · rw [heq]
        exact tick_elapsed h atMs
  | tick atMs => exact tick_elapsed h atMs
  | cancelSession =>
      simp only [TypingSession.apply, TypingSession.cancelSession]
      split <;> exact le_rfl

theorem applyAll_honest (ops : List SessionOp) :
    ∀ s : TypingSession, Honest snippet s → Honest snippet (s.applyAll ops) := by
  induction ops with
  | nil => exact fun s h => h
  | cons op rest ih => exact fun s h => ih _ (apply_honest h op)

theorem newSession_honest (hexpected : snippet.expectedText ≠ []) {durationSeconds : Rat}
    (h : newSession snippet durationSeconds = .ok s) : Honest snippet s := by
  unfold newSession at h
  split at h
  · cases h
  · rename_i hlisted
    rw [not_not] at hlisted
    cases h
    have hpos : 0 ≤ durationSeconds := by
      simp only [durations, List.mem_cons, List.not_mem_nil, or_false] at hlisted
      rcases hlisted with rfl | rfl | rfl <;> norm_num
    refine ⟨rfl, ?_, le_rfl, by positivity, le_rfl, le_rfl, iff_of_false nofun hexpected.symm⟩
    rwa [mul_div_assoc, div_self (by norm_num), mul_one]

/-! ## The metrics -/

theorem correctChars_le (h : Honest snippet s) :
    (sessionMetrics s).correctChars ≤ (sessionMetrics s).insertedChars :=
  (correctFrom_le _ _ _).trans h.text_le

theorem accuracy_mem (h : Honest snippet s) :
    0 ≤ (sessionMetrics s).accuracy ∧ (sessionMetrics s).accuracy ≤ 100 := by
  simp only [sessionMetrics]
  split
  · rename_i hpos
    have hpos' : (0 : Rat) < s.insertedChars := by exact_mod_cast hpos
    have hle : (s.correctInsertions : Rat) ≤ s.insertedChars := by exact_mod_cast h.correct_le
    have hratio : (s.correctInsertions : Rat) / s.insertedChars ≤ 1 := (div_le_one hpos').mpr hle
    exact ⟨by positivity, by linarith⟩
  · norm_num

theorem cpm_nonneg : 0 ≤ (sessionMetrics s).cpm := by
  simp only [sessionMetrics]
  split
  · rename_i hpos
    positivity
  · exact le_rfl

theorem cpm_le_grossCpm (h : Honest snippet s) :
    (sessionMetrics s).cpm ≤ (sessionMetrics s).grossCpm := by
  have hle : ((sessionMetrics s).correctChars : Rat) ≤ (sessionMetrics s).insertedChars := by
    exact_mod_cast correctChars_le h
  simp only [sessionMetrics] at hle ⊢
  split
  · rename_i hpos
    exact div_le_div_of_nonneg_right (by linarith) hpos.le
  · exact le_rfl

end Steps

end CodeTyping
