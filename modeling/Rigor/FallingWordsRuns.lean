import Rigor.FallingWords

/-!
# Whole games of falling words

What holds after every sequence of operations: the geometry of the board, the
counters of the run against its journal, the lives, and the recorded results
(`Sound`). The invariant speaks of the lives only up to zero, since the end of
a lost run is recorded after the lives are gone; that they are positive while
a run goes on is carried beside it (`Alive`).
-/

namespace FallingWords

open Py

/-! ## What a journal says -/

def GameEngine.eventsOf (s : GameEngine) (runId : Nat) : List RunEvent :=
  (s.journal.filter fun entry => entry.1 = runId).map Prod.snd

def spawnedWords (events : List RunEvent) : List FallingWord :=
  events.filterMap fun
    | .spawned word => some word
    | _ => none

def matchedWords (events : List RunEvent) : List FallingWord :=
  events.filterMap fun
    | .matched word => some word
    | _ => none

def missedWords (events : List RunEvent) : List FallingWord :=
  events.filterMap fun
    | .missed word => some word
    | _ => none

/-- The lives a run started with. -/
def livesAtStart (events : List RunEvent) : Nat :=
  (events.findSome? fun
    | .started lives => some lives
    | _ => none).getD 0

def totalLength (words : List FallingWord) : Nat := (words.map fun word => word.text.length).sum

section Append

variable (events more : List RunEvent)

@[simp] theorem spawnedWords_append :
    spawnedWords (events ++ more) = spawnedWords events ++ spawnedWords more :=
  List.filterMap_append

@[simp] theorem matchedWords_append :
    matchedWords (events ++ more) = matchedWords events ++ matchedWords more :=
  List.filterMap_append

@[simp] theorem missedWords_append :
    missedWords (events ++ more) = missedWords events ++ missedWords more :=
  List.filterMap_append

theorem livesAtStart_append {lives : Nat} (h : RunEvent.started lives ∈ events) :
    livesAtStart (events ++ more) = livesAtStart events := by
  rw [livesAtStart, livesAtStart, List.findSome?_append]
  induction events with
  | nil => cases h
  | cons event rest ih =>
      cases event with
      | started lives => rfl
      | spawned word => exact ih (by simpa using h)
      | matched word => exact ih (by simpa using h)
      | missed word => exact ih (by simpa using h)

@[simp] theorem totalLength_append (words others : List FallingWord) :
    totalLength (words ++ others) = totalLength words + totalLength others := by
  simp [totalLength]

end Append

section Missed

variable (words : List FallingWord)

@[simp] theorem spawnedWords_missed : spawnedWords (words.map .missed) = [] := by
  induction words with
  | nil => rfl
  | cons word rest ih => exact ih

@[simp] theorem matchedWords_missed : matchedWords (words.map .missed) = [] := by
  induction words with
  | nil => rfl
  | cons word rest ih => exact ih

@[simp] theorem missedWords_missed : missedWords (words.map .missed) = words := by
  induction words with
  | nil => rfl
  | cons word rest ih => exact congrArg (word :: ·) ih

end Missed

/-! ## The invariant -/

/-- Two words that share no cell. -/
def Apart (left right : FallingWord) : Prop :=
  left.y ≠ right.y ∨ left.x + left.text.length ≤ right.x ∨ right.x + right.text.length ≤ left.x

structure BoardOk (game : Game) (board : List FallingWord) (nextWordId : Nat) : Prop where
  inside : ∀ word ∈ board, word.x + word.text.length ≤ game.width ∧ word.y < game.height
  apart : board.Pairwise Apart
  ids : board.Pairwise fun left right => left.id < right.id
  used : ∀ word ∈ board, word.id < nextWordId

/-- The counters of a run against what happened in it. -/
structure CountsOk (events : List RunEvent) (onBoard matched missed score : Nat) : Prop where
  matched_eq : matched = (matchedWords events).length
  missed_eq : missed = (missedWords events).length
  score_eq : score = pointsPerCharacter * totalLength (matchedWords events)
  spawned_eq : matched + missed + onBoard = (spawnedWords events).length

/-- A result is what the journal of its run says. -/
structure ResultOk (events : List RunEvent) (result : RunResult) : Prop where
  score : result.score = pointsPerCharacter * totalLength (matchedWords events)
  matched : result.matchedWords = (matchedWords events).length
  missed : result.missedWords = (missedWords events).length
  lives : result.lives = livesAtStart events - (missedWords events).length
  times : result.startedAtMs ≤ result.finishedAtMs

/-- The runs so far: a result for each, apart from the one that goes on. -/
structure RunsOk (s : GameEngine) : Prop where
  next_pos : 0 < s.nextRunId
  journal : ∀ entry ∈ s.journal, 0 < entry.1 ∧ entry.1 < s.nextRunId
  active : s.isActive = true → s.activeRunId = some (s.nextRunId - 1) ∧ 1 < s.nextRunId
    ∧ s.completed.map (·.runId) = List.range' 1 (s.nextRunId - 2)
    ∧ RunEvent.started s.startingLives ∈ s.eventsOf (s.nextRunId - 1)
    ∧ livesAtStart (s.eventsOf (s.nextRunId - 1)) = s.startingLives
    ∧ ∃ last, s.lastClock = some last ∧ s.startedAt ≤ last
  idle : s.isActive = false → s.completed.map (·.runId) = List.range' 1 (s.nextRunId - 1)
  results : ∀ result ∈ s.completed, ResultOk (s.eventsOf result.runId) result

structure GameEngine.Inv (game : Game) (s : GameEngine) : Prop where
  board : BoardOk game s.onBoard s.nextWordId
  counts : CountsOk (s.eventsOf (s.activeRunId.getD 0)) s.onBoard.length s.matchedValue
    s.missedValue s.scoreValue
  starting_pos : 0 < s.startingLives
  lives : s.isActive = true → s.livesValue = s.startingLives - s.missedValue
  /-- Nothing has happened before the start. -/
  fresh : s.phase = .menu ∨ s.phase = .ready → s.livesValue = s.startingLives ∧ s.onBoard = []
    ∧ s.matchedValue = 0 ∧ s.missedValue = 0 ∧ s.scoreValue = 0 ∧ s.nextWordId = 1
  runs : RunsOk s

/-- A run that goes on has lives left. -/
def GameEngine.Alive (s : GameEngine) : Prop := s.isActive = true → 0 < s.livesValue

/-! ## Ending a run -/

section Steps

variable {g : Game} {d : GameDependencies} {s : GameEngine}

theorem finish_isActive (reason : FinishReason) : (s.finish g d reason).isActive = false := by
  unfold GameEngine.finish
  split
  · rename_i h
    simpa using h
  · cases reason <;> rfl

theorem finish_alive (reason : FinishReason) : (s.finish g d reason).Alive :=
  fun h => absurd ((finish_isActive reason).symm.trans h) Bool.false_ne_true

theorem finish_of_idle (h : s.isActive = false) (reason : FinishReason) :
    s.finish g d reason = s := by
  rw [GameEngine.finish, h]
  rfl

theorem finish_inv (h : s.Inv g) (reason : FinishReason) :
    (s.finish g d reason).Inv g := by
  cases hactive : s.isActive with
  | false => rwa [finish_of_idle hactive]
  | true =>
      obtain ⟨hid, hnext, hdone, hmem, hstart, last, hlast, hle⟩ := h.runs.active hactive
      have hidle := finish_isActive (g := g) (d := d) (s := s) reason
      unfold GameEngine.finish at hidle ⊢
      rw [hactive] at hidle ⊢
      have hcounts := h.counts
      rw [hid, Option.getD_some] at hcounts
      refine ⟨h.board, h.counts, h.starting_pos, fun hon => ?_, fun hphase => ?_,
        h.runs.next_pos, h.runs.journal, fun hon => ?_, fun _ => ?_, fun result hresult => ?_⟩
      · exact absurd (hidle.symm.trans hon) Bool.false_ne_true
      · cases reason <;> rcases hphase with hphase | hphase <;> cases hphase
      · exact absurd (hidle.symm.trans hon) Bool.false_ne_true
      · show (s.completed ++ [_]).map RunResult.runId = List.range' 1 (s.nextRunId - 1)
        have hcount : s.nextRunId - 1 = (s.nextRunId - 2) + 1 := by omega
        rw [List.map_append, hdone, hid, List.map_singleton, Option.getD_some, hcount,
          List.range'_concat]
        congr 2
        show s.nextRunId - 2 + 1 = 1 + 1 * (s.nextRunId - 2)
        omega
      · rcases List.mem_append.mp hresult with hold | hnew
        · exact h.runs.results result hold
        · obtain rfl := List.mem_singleton.mp hnew
          have hlives := h.lives hactive
          rw [hcounts.missed_eq, ← hstart] at hlives
          refine ⟨?_, ?_, ?_, ?_, ?_⟩
          · exact hid ▸ hcounts.score_eq
          · exact hid ▸ hcounts.matched_eq
          · exact hid ▸ hcounts.missed_eq
          · exact hid ▸ hlives
          · show s.startedAt ≤ max (s.lastClock.getD _) _
            rw [hlast]
            exact hle.trans (le_max_left _ _)

/-! ## What happens within a run -/

theorem record_eventsOf (events : List RunEvent) (id : Nat) : (s.record events).eventsOf id
    = s.eventsOf id ++ if id = s.activeRunId.getD 0 then events else [] := by
  simp only [GameEngine.record, GameEngine.eventsOf, List.filter_append, List.map_append]
  refine congrArg _ ?_
  split
  · rename_i hid
    simp [hid, List.filter_map, Function.comp_def]
  · rename_i hid
    simp [Ne.symm hid]

theorem record_eventsOf_active (events : List RunEvent) :
    (s.record events).eventsOf (s.activeRunId.getD 0)
      = s.eventsOf (s.activeRunId.getD 0) ++ events := by
  rw [record_eventsOf, if_pos rfl]

/-- The results stay those of their runs while another run goes on. -/
theorem RunsOk.record (h : RunsOk s) (hactive : s.isActive = true) (events : List RunEvent) :
    RunsOk (s.record events) := by
  obtain ⟨hid, hnext, hdone, hmem, hstart, hclock⟩ := h.active hactive
  have hgetD : s.activeRunId.getD 0 = s.nextRunId - 1 := by rw [hid, Option.getD_some]
  have hevents : (s.record events).eventsOf (s.nextRunId - 1)
      = s.eventsOf (s.nextRunId - 1) ++ events := by
    rw [record_eventsOf, if_pos hgetD.symm]
  refine ⟨h.next_pos, fun entry hentry => ?_, fun _ => ⟨hid, hnext, hdone, ?_, ?_, hclock⟩,
    fun hidle => absurd (hidle.symm.trans hactive) Bool.false_ne_true, fun result hresult => ?_⟩
  · rcases List.mem_append.mp hentry with hold | hnew
    · exact h.journal entry hold
    · obtain ⟨event, -, rfl⟩ := List.mem_map.mp hnew
      simp only [hgetD]
      show 0 < s.nextRunId - 1 ∧ s.nextRunId - 1 < s.nextRunId
      omega
  · rw [show (s.record events).nextRunId = s.nextRunId from rfl, hevents]
    exact List.mem_append_left _ hmem
  · rw [show (s.record events).nextRunId = s.nextRunId from rfl, hevents,
      livesAtStart_append _ _ hmem, hstart]
    rfl
  · -- a result belongs to an earlier run
    have hrange : result.runId ∈ List.range' 1 (s.nextRunId - 2) :=
      hdone ▸ List.mem_map_of_mem hresult
    have hne : result.runId ≠ s.activeRunId.getD 0 := by
      have := List.mem_range'_1.mp hrange
      omega
    rw [record_eventsOf, if_neg hne, List.append_nil]
    exact h.results result hresult

/-! ## Spawning -/

theorem pick_mem {α : Type} {array : List α} (harray : array ≠ []) {draw : Rat} (hdraw : 0 ≤ draw)
    (hlt : draw < 1) (fallback : α) : pick array draw fallback ∈ array := by
  have hpos : (0 : Rat) < array.length := by
    exact_mod_cast List.length_pos_iff.mpr harray
  have hfloor : ⌊draw * array.length⌋ < array.length := by
    rw [Int.floor_lt]
    have := mul_lt_mul_of_pos_right hlt hpos
    rw [one_mul] at this
    exact_mod_cast this
  have hnonneg : 0 ≤ ⌊draw * array.length⌋ := Int.floor_nonneg.mpr (mul_nonneg hdraw hpos.le)
  have hindex : ⌊draw * array.length⌋.toNat < array.length := by omega
  rw [pick, List.getD_eq_getElem?_getD, List.getElem?_eq_getElem hindex, Option.getD_some]
  exact List.getElem_mem hindex

theorem apart_of_available {text : Str} {x : Nat} (h : x ∈ s.available g text) :
    (x + text.length ≤ g.width ∨ g.width < text.length)
      ∧ ∀ word ∈ s.onBoard, Apart word ⟨s.nextWordId, text, x, 0⟩ := by
  obtain ⟨hrange, hfree⟩ := List.mem_filter.mp h
  rw [List.mem_range] at hrange
  refine ⟨by omega, fun word hword => ?_⟩
  rw [Bool.not_eq_true', List.any_eq_false] at hfree
  have := hfree word hword
  simp only [Bool.and_eq_true, decide_eq_true_eq] at this
  simp only [Apart]
  omega

/-- A spawn is postponed, or adds one word at the top. -/
theorem spawn_cases : s.spawn g d = { s with drawn := s.drawn + 1 }
    ∨ ∃ word : FallingWord, word.id = s.nextWordId ∧ word.y = 0
      ∧ word.x + word.text.length ≤ g.width ∧ (∀ other ∈ s.onBoard, Apart other word)
      ∧ s.spawn g d = GameEngine.record
          { s with drawn := s.drawn + 2, nextWordId := s.nextWordId + 1,
                   onBoard := s.onBoard ++ [word] } [.spawned word] := by
  unfold GameEngine.spawn
  dsimp only
  split
  · exact .inl rfl
  · rename_i hsome
    have htext := pick_mem g.pool_ne (d.random_nonneg s.drawn) (d.random_lt_one s.drawn) []
    have hx := pick_mem hsome (d.random_nonneg (s.drawn + 1)) (d.random_lt_one (s.drawn + 1)) 0
    obtain ⟨hfits, hapart⟩ := apart_of_available hx
    have hwidth := (g.pool_fits _ htext).2
    refine .inr ⟨_, rfl, rfl, ?_, hapart, rfl⟩
    rcases hfits with hfits | hwide
    · exact hfits
    · exact absurd hwidth (Nat.not_le.mpr hwide)

theorem isActive_of_playing (h : s.phase = .playing) : s.isActive = true := by
  simp [GameEngine.isActive, h]

theorem spawn_inv (h : s.Inv g) (hplaying : s.phase = .playing) :
    (s.spawn g d).Inv g := by
  have hactive := isActive_of_playing hplaying
  rcases spawn_cases (s := s) (g := g) (d := d) with heq | ⟨word, hid, hy, hx, hapart, heq⟩
  · rw [heq]
    exact ⟨h.board, h.counts, h.starting_pos, h.lives, h.fresh, h.runs.next_pos, h.runs.journal,
      h.runs.active, h.runs.idle, h.runs.results⟩
  · rw [heq]
    have hruns := h.runs.record hactive [.spawned word]
    refine ⟨⟨?_, ?_, ?_, ?_⟩, ?_, h.starting_pos, h.lives, fun hphase => ?_, hruns.next_pos,
      hruns.journal, hruns.active, hruns.idle, hruns.results⟩
    · intro other hother
      rcases List.mem_append.mp hother with hold | hnew
      · exact h.board.inside other hold
      · obtain rfl := List.mem_singleton.mp hnew
        exact ⟨hx, hy ▸ g.height_pos⟩
    · exact List.pairwise_append.mpr ⟨h.board.apart, List.pairwise_singleton _ _,
        fun other hother w hw => List.mem_singleton.mp hw ▸ hapart other hother⟩
    · refine List.pairwise_append.mpr ⟨h.board.ids, List.pairwise_singleton _ _,
        fun other hother w hw => ?_⟩
      rw [List.mem_singleton.mp hw, hid]
      exact h.board.used other hother
    · intro other hother
      rcases List.mem_append.mp hother with hold | hnew
      · exact (h.board.used other hold).trans (Nat.lt_succ_self _)
      · rw [List.mem_singleton.mp hnew, hid]
        exact Nat.lt_succ_self _
    · show CountsOk ((s.record [.spawned word]).eventsOf (s.activeRunId.getD 0))
        (s.onBoard ++ [word]).length s.matchedValue s.missedValue s.scoreValue
      rw [record_eventsOf_active]
      have := h.counts.spawned_eq
      refine ⟨?_, ?_, ?_, ?_⟩
      · simpa [matchedWords] using h.counts.matched_eq
      · simpa [missedWords] using h.counts.missed_eq
      · simpa [matchedWords] using h.counts.score_eq
      · have hone : spawnedWords [.spawned word] = [word] := rfl
        rw [spawnedWords_append, List.length_append, List.length_append, ← this, hone,
          List.length_singleton]
        omega
    · rcases hphase with hphase | hphase <;> exact absurd (hplaying.symm.trans hphase) nofun

/-! ## Moving -/

def GameEngine.fallen (g : Game) (s : GameEngine) : List FallingWord :=
  s.onBoard.filter fun word => g.height ≤ word.y + 1

def GameEngine.remaining (g : Game) (s : GameEngine) : List FallingWord :=
  (s.onBoard.filter fun word => word.y + 1 < g.height).map fun word =>
    { word with y := word.y + 1 }

/-- The state after a movement, before a lost run is ended. -/
def GameEngine.afterFall (g : Game) (s : GameEngine) : GameEngine :=
  GameEngine.record
    { s with
      onBoard := s.remaining g
      missedValue := s.missedValue + (s.fallen g).length
      livesValue := s.livesValue - (s.fallen g).length }
    ((s.fallen g).map .missed)

theorem advance_cases (halive : s.Alive) (hplaying : s.phase = .playing) :
    s.advance g d = s.afterFall g ∧ 0 < (s.afterFall g).livesValue
      ∨ s.advance g d = (s.afterFall g).finish g d .lost := by
  have hlives := halive (isActive_of_playing hplaying)
  have hadvance : s.advance g d = if s.fallen g = [] then
      GameEngine.record { s with onBoard := s.remaining g } ((s.fallen g).map .missed)
    else if (s.afterFall g).livesValue = 0 then (s.afterFall g).finish g d .lost
    else s.afterFall g := rfl
  rw [hadvance]
  by_cases hnone : s.fallen g = []
  · refine .inl ⟨?_, ?_⟩
    · rw [if_pos hnone, GameEngine.afterFall, hnone]
      rfl
    · show 0 < s.livesValue - (s.fallen g).length
      rwa [hnone]
  · rw [if_neg hnone]
    split
    · exact .inr rfl
    · rename_i hleft
      exact .inl ⟨rfl, Nat.pos_of_ne_zero hleft⟩

theorem fallen_remaining_length :
    (s.fallen g).length + (s.remaining g).length = s.onBoard.length := by
  rw [GameEngine.remaining, List.length_map, GameEngine.fallen]
  induction s.onBoard with
  | nil => rfl
  | cons word rest ih =>
      simp only [List.filter_cons, List.length_cons]
      by_cases h : g.height ≤ word.y + 1
      · simp only [h, Nat.not_lt.mpr h, decide_true, decide_false, if_true, List.length_cons]
        simp only [Bool.false_eq_true, if_false]
        omega
      · simp only [h, Nat.not_le.mp h, decide_true, decide_false, if_true, List.length_cons]
        simp only [Bool.false_eq_true, if_false]
        omega

theorem remaining_board (h : BoardOk g s.onBoard s.nextWordId) :
    BoardOk g (s.remaining g) s.nextWordId := by
  have hsub : (s.onBoard.filter fun word => word.y + 1 < g.height).Sublist s.onBoard :=
    List.filter_sublist
  refine ⟨?_, ?_, ?_, ?_⟩
  · intro word hword
    obtain ⟨above, habove, rfl⟩ := List.mem_map.mp hword
    obtain ⟨hmem, hlt⟩ := List.mem_filter.mp habove
    exact ⟨(h.inside above hmem).1, of_decide_eq_true hlt⟩
  · refine List.pairwise_map.mpr ((h.apart.sublist hsub).imp fun {left right} hapart => ?_)
    simp only [Apart] at hapart ⊢
    omega
  · exact List.pairwise_map.mpr (h.ids.sublist hsub)
  · intro word hword
    obtain ⟨above, habove, rfl⟩ := List.mem_map.mp hword
    exact h.used above (List.mem_filter.mp habove).1

theorem afterFall_inv (h : s.Inv g) (hplaying : s.phase = .playing) :
    (s.afterFall g).Inv g := by
  have hactive := isActive_of_playing hplaying
  have hruns := h.runs.record hactive ((s.fallen g).map .missed)
  refine ⟨remaining_board h.board, ?_, h.starting_pos, fun _ => ?_, fun hphase => ?_,
    hruns.next_pos, hruns.journal, hruns.active, hruns.idle, hruns.results⟩
  · show CountsOk ((s.record ((s.fallen g).map .missed)).eventsOf (s.activeRunId.getD 0))
      (s.remaining g).length s.matchedValue (s.missedValue + (s.fallen g).length) s.scoreValue
    rw [record_eventsOf_active]
    have hlength := fallen_remaining_length (s := s) (g := g)
    have hcounts := h.counts
    refine ⟨?_, ?_, ?_, ?_⟩
    · simpa using hcounts.matched_eq
    · simpa using hcounts.missed_eq
    · simpa using hcounts.score_eq
    · rw [spawnedWords_append, spawnedWords_missed, List.append_nil, ← hcounts.spawned_eq]
      omega
  · show s.livesValue - (s.fallen g).length
      = s.startingLives - (s.missedValue + (s.fallen g).length)
    rw [h.lives hactive, Nat.sub_sub]
  · rcases hphase with hphase | hphase <;> exact absurd (hplaying.symm.trans hphase) nofun

theorem advance_inv (h : s.Inv g) (halive : s.Alive) (hplaying : s.phase = .playing) :
    (s.advance g d).Inv g ∧ (s.advance g d).Alive := by
  rcases advance_cases (g := g) (d := d) halive hplaying with ⟨heq, hpos⟩ | heq
  · rw [heq]
    exact ⟨afterFall_inv h hplaying, fun _ => hpos⟩
  · rw [heq]
    exact ⟨finish_inv (afterFall_inv h hplaying) .lost, finish_alive .lost⟩

theorem move_inv (h : s.Inv g) (halive : s.Alive) (hplaying : s.phase = .playing) :
    (s.move g d).Inv g ∧ (s.move g d).Alive := by
  rw [GameEngine.move]
  split
  · obtain ⟨hinv, hlives⟩ := advance_inv (d := d) h halive hplaying
    exact ⟨⟨hinv.board, hinv.counts, hinv.starting_pos, hinv.lives, hinv.fresh,
      hinv.runs.next_pos, hinv.runs.journal, hinv.runs.active, hinv.runs.idle, hinv.runs.results⟩,
      hlives⟩
  · exact ⟨h, halive⟩

theorem spawn_alive (halive : s.Alive) : (s.spawn g d).Alive := by
  rcases spawn_cases (s := s) (g := g) (d := d) with heq | ⟨word, -, -, -, -, heq⟩
  · rw [heq]
    exact halive
  · rw [heq]
    exact halive

theorem enter_inv (h : s.Inv g) (halive : s.Alive) :
    (s.enter g d).Inv g ∧ (s.enter g d).Alive := by
  rw [GameEngine.enter]
  split
  · rename_i hdue
    have hinv := spawn_inv (d := d) h hdue.1
    exact ⟨⟨hinv.board, hinv.counts, hinv.starting_pos, hinv.lives, hinv.fresh,
      hinv.runs.next_pos, hinv.runs.journal, hinv.runs.active, hinv.runs.idle, hinv.runs.results⟩,
      spawn_alive halive⟩
  · exact ⟨h, halive⟩

theorem pass_inv (h : s.Inv g) (ms : Rat) : (s.pass ms).Inv g :=
  ⟨h.board, h.counts, h.starting_pos, h.lives, h.fresh, h.runs.next_pos, h.runs.journal,
    h.runs.active, h.runs.idle, h.runs.results⟩

theorem run_inv (ms : Rat) (s : GameEngine) (h : s.Inv g) (halive : s.Alive) :
    (s.run g d ms).Inv g ∧ (s.run g d ms).Alive := by
  fun_induction GameEngine.run g d ms s with
  | case1 ms s hon hevent => exact ⟨pass_inv h ms, halive⟩
  | case2 ms s hon hevent ih =>
      obtain ⟨hmoved, hmovedAlive⟩ := move_inv (d := d) (pass_inv h s.untilEvent) halive hon.2
      exact ih (enter_inv hmoved hmovedAlive).1 (enter_inv hmoved hmovedAlive).2
  | case3 ms s hon => exact ⟨h, halive⟩

/-! ## Submitting -/

theorem ids_injective (h : BoardOk g s.onBoard s.nextWordId) :
    (s.onBoard.map (·.id)).Nodup :=
  (List.pairwise_map.mpr h.ids).imp fun hlt => Nat.ne_of_lt hlt

/-- One word leaves the board. -/
theorem length_filter_id (h : BoardOk g s.onBoard s.nextWordId) {target : FallingWord}
    (htarget : target ∈ s.onBoard) :
    (s.onBoard.filter fun word => word.id ≠ target.id).length + 1 = s.onBoard.length := by
  have hids := ids_injective h
  have hsame : (s.onBoard.filter fun word => word.id ≠ target.id) = s.onBoard.erase target := by
    rw [(List.Nodup.of_map _ hids).erase_eq_filter]
    refine List.filter_congr fun word hword => ?_
    by_cases heq : word = target
    · simp [heq]
    · have hne : word.id ≠ target.id := fun hid => heq (List.inj_on_of_nodup_map hids hword htarget hid)
      simp [heq, hne]
  have hpos := List.length_pos_of_mem htarget
  rw [hsame, List.length_erase_of_mem htarget]
  omega

/-- The state after a match, before a won run is ended. -/
def GameEngine.afterMatch (target : FallingWord) (s : GameEngine) : GameEngine :=
  GameEngine.record
    { s with
      onBoard := s.onBoard.filter fun word => word.id ≠ target.id
      matchedValue := s.matchedValue + 1
      scoreValue := s.scoreValue + target.text.length * pointsPerCharacter }
    [.matched target]

theorem submit_cases (text : Str) : (s.submit g d text).2 = s
    ∨ ∃ target ∈ s.onBoard, s.phase = .playing
      ∧ ((s.submit g d text).2 = s.afterMatch target
        ∨ (s.submit g d text).2 = (s.afterMatch target).finish g d .won) := by
  unfold GameEngine.submit
  split
  · exact .inl rfl
  · rename_i hon
    dsimp only
    split
    · exact .inl rfl
    · rename_i target htarget
      have hmem := (List.mem_insertionSort _).mp (List.mem_of_head? htarget)
      refine .inr ⟨target, (List.mem_filter.mp hmem).1, ?_, ?_⟩
      · by_contra hne
        exact hon (.inl hne)
      · dsimp only
        split
        · exact .inr rfl
        · exact .inl rfl

theorem afterMatch_inv (h : s.Inv g) (hplaying : s.phase = .playing) {target : FallingWord}
    (htarget : target ∈ s.onBoard) : (s.afterMatch target).Inv g := by
  have hactive := isActive_of_playing hplaying
  have hruns := h.runs.record hactive [.matched target]
  have hsub : (s.onBoard.filter fun word => word.id ≠ target.id).Sublist s.onBoard :=
    List.filter_sublist
  refine ⟨⟨fun word hword => h.board.inside word (hsub.subset hword), h.board.apart.sublist hsub,
    h.board.ids.sublist hsub, fun word hword => h.board.used word (hsub.subset hword)⟩, ?_,
    h.starting_pos, h.lives, fun hphase => ?_, hruns.next_pos, hruns.journal, hruns.active,
    hruns.idle, hruns.results⟩
  · show CountsOk ((s.record [.matched target]).eventsOf (s.activeRunId.getD 0))
      (s.onBoard.filter fun word => word.id ≠ target.id).length (s.matchedValue + 1)
      s.missedValue (s.scoreValue + target.text.length * pointsPerCharacter)
    rw [record_eventsOf_active]
    have hone : matchedWords [.matched target] = [target] := rfl
    have hlength := length_filter_id h.board htarget
    have hcounts := h.counts
    refine ⟨?_, ?_, ?_, ?_⟩
    · rw [matchedWords_append, List.length_append, ← hcounts.matched_eq]
      rfl
    · simpa [missedWords] using hcounts.missed_eq
    · rw [matchedWords_append, totalLength_append, hcounts.score_eq, hone, Nat.mul_add,
        Nat.mul_comm target.text.length]
      simp [totalLength]
    · have hnone : spawnedWords [.matched target] = [] := rfl
      rw [spawnedWords_append, hnone, List.append_nil, ← hcounts.spawned_eq]
      omega
  · rcases hphase with hphase | hphase <;> exact absurd (hplaying.symm.trans hphase) nofun

theorem submit_inv (h : s.Inv g) (halive : s.Alive) (text : Str) :
    (s.submit g d text).2.Inv g ∧ (s.submit g d text).2.Alive := by
  rcases submit_cases (s := s) (g := g) (d := d) text with
    heq | ⟨target, htarget, hplaying, heq | heq⟩
  · rw [heq]
    exact ⟨h, halive⟩
  · rw [heq]
    exact ⟨afterMatch_inv h hplaying htarget, halive⟩
  · rw [heq]
    exact ⟨finish_inv (afterMatch_inv h hplaying htarget) .won, finish_alive .won⟩

/-! ## The other operations -/

theorem eventsOf_zero (h : RunsOk s) : s.eventsOf 0 = [] := by
  rw [GameEngine.eventsOf, List.filter_eq_nil_iff.mpr, List.map_nil]
  intro entry hentry heq
  have := (h.journal entry hentry).1
  rw [of_decide_eq_true heq] at this
  exact absurd this (Nat.lt_irrefl 0)

theorem eventsOf_next (h : RunsOk s) : s.eventsOf s.nextRunId = [] := by
  rw [GameEngine.eventsOf, List.filter_eq_nil_iff.mpr, List.map_nil]
  intro entry hentry heq
  have := (h.journal entry hentry).2
  rw [of_decide_eq_true heq] at this
  exact absurd this (Nat.lt_irrefl _)

theorem restart_inv (h : s.Inv g) :
    (s.restart g d).Inv g ∧ (s.restart g d).Alive := by
  have hended := finish_inv (d := d) h .exited
  have hidle := finish_isActive (g := g) (d := d) (s := s) .exited
  unfold GameEngine.restart
  generalize s.finish g d .exited = t at hended hidle
  refine ⟨⟨⟨nofun, .nil, .nil, nofun⟩, ?_, hended.starting_pos, nofun,
    fun _ => ⟨rfl, rfl, rfl, rfl, rfl, rfl⟩, hended.runs.next_pos, hended.runs.journal, nofun,
    fun _ => hended.runs.idle hidle, hended.runs.results⟩, nofun⟩
  show CountsOk (t.eventsOf 0) 0 0 0 0
  rw [eventsOf_zero hended.runs]
  exact ⟨rfl, rfl, rfl, rfl⟩

theorem exit_inv (h : s.Inv g) : (s.exit g d).Inv g ∧ (s.exit g d).Alive := by
  have hended := finish_inv (d := d) h .exited
  have hidle := finish_isActive (g := g) (d := d) (s := s) .exited
  unfold GameEngine.exit
  exact ⟨⟨hended.board, hended.counts, hended.starting_pos, nofun, nofun, hended.runs.next_pos,
    hended.runs.journal, nofun, fun _ => hended.runs.idle hidle, hended.runs.results⟩, nofun⟩

theorem start_inv (h : s.Inv g) (halive : s.Alive) :
    (s.start d).2.Inv g ∧ (s.start d).2.Alive := by
  unfold GameEngine.start
  split
  · exact ⟨h, halive⟩
  rename_i hready
  rw [not_not] at hready
  obtain ⟨hlives, hboard, hmatched, hmissed, hscore, hword⟩ := h.fresh (.inr hready)
  have hidle : s.isActive = false := by simp [GameEngine.isActive, hready]
  have hevents : ∀ id, (GameEngine.eventsOf
      { s with journal := s.journal ++ [(s.nextRunId, .started s.livesValue)] } id)
        = s.eventsOf id ++ if id = s.nextRunId then [.started s.livesValue] else [] := by
    intro id
    rw [GameEngine.eventsOf, List.filter_append, List.map_append]
    refine congrArg _ ?_
    split
    · rename_i hid
      simp [hid]
    · rename_i hid
      simp [Ne.symm hid]
  have hown := hevents s.nextRunId
  rw [eventsOf_next h.runs, if_pos rfl, List.nil_append] at hown
  refine ⟨⟨h.board, ?_, h.starting_pos, fun _ => ?_, nofun, Nat.succ_pos _, fun entry hentry => ?_,
    fun _ => ⟨rfl, ?_, h.runs.idle hidle, ?_, ?_, _, rfl, le_rfl⟩, nofun, fun result hresult => ?_⟩,
    fun _ => hlives ▸ h.starting_pos⟩
  · show CountsOk (GameEngine.eventsOf { s with journal := _ } s.nextRunId) s.onBoard.length
      s.matchedValue s.missedValue s.scoreValue
    rw [hboard, hmatched, hmissed, hscore]
    exact hown ▸ ⟨rfl, rfl, rfl, rfl⟩
  · show s.livesValue = s.startingLives - s.missedValue
    rw [hlives, hmissed, Nat.sub_zero]
  · rcases List.mem_append.mp hentry with hold | hnew
    · exact ⟨(h.runs.journal entry hold).1, (h.runs.journal entry hold).2.trans (Nat.lt_succ_self _)⟩
    · obtain rfl := List.mem_singleton.mp hnew
      exact ⟨h.runs.next_pos, Nat.lt_succ_self _⟩
  · exact Nat.succ_lt_succ h.runs.next_pos
  · show RunEvent.started s.startingLives ∈ GameEngine.eventsOf { s with journal := _ } s.nextRunId
    exact hown ▸ hlives ▸ List.mem_singleton_self _
  · show livesAtStart (GameEngine.eventsOf { s with journal := _ } s.nextRunId) = s.startingLives
    exact hown ▸ hlives
  · have hrange : result.runId ∈ List.range' 1 (s.nextRunId - 1) :=
      h.runs.idle hidle ▸ List.mem_map_of_mem hresult
    have hne : result.runId ≠ s.nextRunId := by
      have := List.mem_range'_1.mp hrange
      omega
    show ResultOk (GameEngine.eventsOf { s with journal := _ } result.runId) result
    have hsame := hevents result.runId
    rw [if_neg hne, List.append_nil] at hsame
    exact hsame ▸ h.runs.results result hresult

theorem setStartingLives_inv (h : s.Inv g) (halive : s.Alive) {value : Rat}
    {answer : Bool × GameEngine} (hset : s.setStartingLives value = .ok answer) :
    answer.2.Inv g ∧ answer.2.Alive := by
  unfold GameEngine.setStartingLives at hset
  cases hlives : integerInRange value "startingLives" 1 99 with
  | error message =>
      rw [hlives] at hset
      cases hset
  | ok lives =>
      rw [hlives] at hset
      cases hactive : s.isActive with
      | true =>
          simp only [hactive, if_true] at hset
          cases hset
          exact ⟨h, halive⟩
      | false =>
          simp only [hactive] at hset
          cases hset
          have hoff : ∀ {P : Prop}, s.isActive = true → P := fun hon =>
            absurd (hactive.symm.trans hon) Bool.false_ne_true
          exact ⟨⟨h.board, h.counts, lives.2.1, hoff, fun hphase => ⟨rfl, (h.fresh hphase).2⟩,
            h.runs.next_pos, h.runs.journal, hoff, h.runs.idle, h.runs.results⟩, hoff⟩

theorem prepare_inv (h : s.Inv g) (halive : s.Alive) :
    s.prepare.2.Inv g ∧ s.prepare.2.Alive := by
  unfold GameEngine.prepare
  split
  · exact ⟨h, halive⟩
  · rename_i hmenu
    rw [not_not] at hmenu
    have hidle : s.isActive = false := by simp [GameEngine.isActive, hmenu]
    exact ⟨⟨h.board, h.counts, h.starting_pos, nofun, fun _ => h.fresh (.inl hmenu),
      h.runs.next_pos, h.runs.journal, nofun, fun _ => h.runs.idle hidle, h.runs.results⟩, nofun⟩

/-- Between playing and paused nothing else changes. -/
theorem phase_inv (h : s.Inv g) (halive : s.Alive) (hactive : s.isActive = true)
    {phase : RunState} (hphase : phase = .playing ∨ phase = .paused) :
    GameEngine.Inv g { s with phase := phase } ∧ GameEngine.Alive { s with phase := phase } := by
  have hnot : ¬(phase = .menu ∨ phase = .ready) := by
    rcases hphase with rfl | rfl <;> nofun
  have hon : ({ s with phase := phase } : GameEngine).isActive = true := by
    rcases hphase with rfl | rfl <;> rfl
  exact ⟨⟨h.board, h.counts, h.starting_pos, fun _ => h.lives hactive,
    fun hbefore => absurd hbefore hnot, h.runs.next_pos, h.runs.journal,
    fun _ => h.runs.active hactive,
    fun hoff => absurd (hon.symm.trans hoff) (Bool.false_ne_true ∘ Eq.symm), h.runs.results⟩,
    fun _ => halive hactive⟩

theorem pause_inv (h : s.Inv g) (halive : s.Alive) : s.pause.2.Inv g ∧ s.pause.2.Alive := by
  unfold GameEngine.pause
  split
  · exact ⟨h, halive⟩
  · rename_i hplaying
    exact phase_inv h halive (isActive_of_playing (not_not.mp hplaying)) (.inr rfl)

theorem resume_inv (h : s.Inv g) (halive : s.Alive) :
    s.resume.2.Inv g ∧ s.resume.2.Alive := by
  unfold GameEngine.resume
  split
  · exact ⟨h, halive⟩
  · rename_i hpaused
    have hactive : s.isActive = true := by simp [GameEngine.isActive, not_not.mp hpaused]
    exact phase_inv h halive hactive (.inl rfl)

theorem tick_inv (h : s.Inv g) (halive : s.Alive) {deltaMs : Rat} {s' : GameEngine}
    (htick : s.tick g d deltaMs = .ok s') : s'.Inv g ∧ s'.Alive := by
  unfold GameEngine.tick at htick
  split at htick
  · cases htick
  · split at htick
    · cases htick
      exact ⟨h, halive⟩
    · cases htick
      exact run_inv deltaMs s h halive

end Steps

/-! ## Every sequence of operations -/

inductive GameOp where
  | prepare
  | setStartingLives (value : Rat)
  | start
  | submit (text : Str)
  | tick (deltaMs : Rat)
  | pause
  | resume
  | restart
  | exit

section Runs

variable (g : Game) (d : GameDependencies)

/-- An operation that raises changes nothing. -/
def GameEngine.apply (s : GameEngine) : GameOp → GameEngine
  | .prepare => s.prepare.2
  | .setStartingLives value => (s.setStartingLives value).toOption.elim s Prod.snd
  | .start => (s.start d).2
  | .submit text => (s.submit g d text).2
  | .tick deltaMs => (s.tick g d deltaMs).toOption.elim s id
  | .pause => s.pause.2
  | .resume => s.resume.2
  | .restart => s.restart g d
  | .exit => s.exit g d

def GameEngine.applyAll (s : GameEngine) (ops : List GameOp) : GameEngine :=
  ops.foldl (fun s op => s.apply g d op) s

variable {g : Game} {d : GameDependencies} {s : GameEngine}

theorem apply_inv (h : s.Inv g) (halive : s.Alive) (op : GameOp) :
    (s.apply g d op).Inv g ∧ (s.apply g d op).Alive := by
  cases op with
  | prepare => exact prepare_inv h halive
  | setStartingLives value =>
      cases hset : s.setStartingLives value with
      | error message =>
          simp only [GameEngine.apply, hset, Except.toOption, Option.elim]
          exact ⟨h, halive⟩
      | ok answer =>
          simp only [GameEngine.apply, hset, Except.toOption, Option.elim]
          exact setStartingLives_inv h halive hset
  | start => exact start_inv h halive
  | submit text => exact submit_inv h halive text
  | tick deltaMs =>
      cases htick : s.tick g d deltaMs with
      | error message =>
          simp only [GameEngine.apply, htick, Except.toOption, Option.elim]
          exact ⟨h, halive⟩
      | ok s' =>
          simp only [GameEngine.apply, htick, Except.toOption, Option.elim]
          exact tick_inv h halive htick
  | pause => exact pause_inv h halive
  | resume => exact resume_inv h halive
  | restart => exact restart_inv h
  | exit => exact exit_inv h

theorem applyAll_inv (ops : List GameOp) : ∀ s : GameEngine, s.Inv g → s.Alive →
    (s.applyAll g d ops).Inv g ∧ (s.applyAll g d ops).Alive := by
  induction ops with
  | nil => exact fun s h halive => ⟨h, halive⟩
  | cons op rest ih =>
      intro s h halive
      obtain ⟨hinv, hlives⟩ := apply_inv (d := d) h halive op
      exact ih _ hinv hlives

theorem newEngine_inv {lives : Nat} (hlives : 0 < lives) :
    (newEngine lives).Inv g ∧ (newEngine lives).Alive :=
  ⟨⟨⟨nofun, .nil, .nil, nofun⟩, ⟨rfl, rfl, rfl, rfl⟩, hlives, nofun,
    fun _ => ⟨rfl, rfl, rfl, rfl, rfl, rfl⟩, Nat.one_pos, nofun, nofun, fun _ => rfl, nofun⟩, nofun⟩

/-! ## Recorded results stay -/

theorem finish_completed {t : GameEngine} (h : t.completed = s.completed) (reason : FinishReason) :
    s.completed <+: (t.finish g d reason).completed := by
  rw [← h]
  unfold GameEngine.finish
  split
  · exact List.prefix_refl _
  · exact List.prefix_append _ _

theorem advance_completed : s.completed <+: (s.advance g d).completed := by
  unfold GameEngine.advance
  dsimp only
  split
  · exact List.prefix_refl _
  · split
    · refine finish_completed ?_ .lost
      rfl
    · exact List.prefix_refl _

theorem event_completed : s.completed <+: (s.event g d).completed := by
  have hmove : ∀ t : GameEngine, t.completed <+: (t.move g d).completed := by
    intro t
    rw [GameEngine.move]
    split
    · exact advance_completed
    · exact List.prefix_refl _
  have henter : ∀ t : GameEngine, (t.enter g d).completed = t.completed := by
    intro t
    rw [GameEngine.enter]
    split
    · rcases spawn_cases (s := t) (g := g) (d := d) with heq | ⟨_, -, -, -, -, heq⟩
      · rw [heq]
      · rw [heq]
        rfl
    · rfl
  rw [GameEngine.event, henter]
  exact hmove (s.pass s.untilEvent)

theorem run_completed (ms : Rat) (s : GameEngine) :
    s.completed <+: (s.run g d ms).completed := by
  fun_induction GameEngine.run g d ms s with
  | case1 ms s hon hevent => exact List.prefix_refl _
  | case2 ms s hon hevent ih => exact event_completed.trans ih
  | case3 ms s hon => exact List.prefix_refl _

theorem apply_completed (op : GameOp) : s.completed <+: (s.apply g d op).completed := by
  cases op with
  | prepare =>
      simp only [GameEngine.apply, GameEngine.prepare]
      split <;> exact List.prefix_refl _
  | setStartingLives value =>
      simp only [GameEngine.apply, GameEngine.setStartingLives]
      cases integerInRange value "startingLives" 1 99 with
      | error message => exact List.prefix_refl _
      | ok lives =>
          cases hactive : s.isActive with
          | true => exact List.prefix_refl _
          | false => exact List.prefix_refl _
  | start =>
      simp only [GameEngine.apply, GameEngine.start]
      split <;> exact List.prefix_refl _
  | submit text =>
      show s.completed <+: (s.submit g d text).2.completed
      rcases submit_cases (s := s) (g := g) (d := d) text with
        heq | ⟨target, -, -, heq | heq⟩
      · exact ⟨[], (List.append_nil _).trans (congrArg GameEngine.completed heq.symm)⟩
      · have hsame : (s.submit g d text).2.completed = s.completed :=
          (congrArg GameEngine.completed heq).trans rfl
        exact ⟨[], (List.append_nil _).trans hsame.symm⟩
      · rw [heq]
        refine finish_completed ?_ .won
        rfl
  | tick deltaMs =>
      simp only [GameEngine.apply, GameEngine.tick]
      split
      · exact List.prefix_refl _
      · split
        · exact List.prefix_refl _
        · exact run_completed deltaMs s
  | pause =>
      simp only [GameEngine.apply, GameEngine.pause]
      split <;> exact List.prefix_refl _
  | resume =>
      simp only [GameEngine.apply, GameEngine.resume]
      split <;> exact List.prefix_refl _
  | restart => exact finish_completed rfl .exited
  | exit => exact finish_completed rfl .exited

theorem applyAll_completed (ops : List GameOp) :
    ∀ s : GameEngine, s.completed <+: (s.applyAll g d ops).completed := by
  induction ops with
  | nil => exact fun s => List.prefix_refl _
  | cons op rest ih => exact fun s => (apply_completed op).trans (ih _)

/-! ## What holds after every sequence of operations -/

/-- The board, the counters of the current run, and the results of the runs
before it. -/
structure Sound (g : Game) (s : GameEngine) : Prop where
  inside : ∀ word ∈ s.onBoard, word.x + word.text.length ≤ g.width ∧ word.y < g.height
  apart : s.onBoard.Pairwise Apart
  ids : s.onBoard.Pairwise fun left right => left.id < right.id
  conserved : ∀ runId, s.activeRunId = some runId →
    s.matchedValue = (matchedWords (s.eventsOf runId)).length
      ∧ s.missedValue = (missedWords (s.eventsOf runId)).length
      ∧ s.matchedValue + s.missedValue + s.onBoard.length
        = (spawnedWords (s.eventsOf runId)).length
      ∧ s.scoreValue = 10 * totalLength (matchedWords (s.eventsOf runId))
  lives : s.isActive = true → 0 < s.livesValue
    ∧ ∃ runId, s.activeRunId = some runId
      ∧ s.livesValue + s.missedValue = livesAtStart (s.eventsOf runId)
  /-- A run that was started and does not go on has one result. -/
  recorded : ∀ runId lives, (runId, .started lives) ∈ s.journal →
    ¬(s.isActive = true ∧ s.activeRunId = some runId) →
      (s.completed.map RunResult.runId).count runId = 1
  increasing : (s.completed.map RunResult.runId).Pairwise (· < ·)
  /-- A result is what the whole of its run came to. -/
  results : ∀ result ∈ s.completed, result.startedAtMs ≤ result.finishedAtMs
    ∧ result.score = 10 * totalLength (matchedWords (s.eventsOf result.runId))
    ∧ result.matchedWords = (matchedWords (s.eventsOf result.runId)).length
    ∧ result.missedWords = (missedWords (s.eventsOf result.runId)).length
    ∧ result.lives = livesAtStart (s.eventsOf result.runId)
      - (missedWords (s.eventsOf result.runId)).length

theorem runIds (h : RunsOk s) :
    s.completed.map RunResult.runId
      = List.range' 1 (s.nextRunId - 1 - if s.isActive then 1 else 0) := by
  cases hactive : s.isActive with
  | true => exact (h.active hactive).2.2.1
  | false => exact h.idle hactive

theorem GameEngine.Inv.sound (h : s.Inv g) (halive : s.Alive) : Sound g s := by
  have hids := runIds h.runs
  refine ⟨h.board.inside, h.board.apart, h.board.ids, fun runId hrun => ?_, fun hactive => ?_,
    fun runId lives hmem hoff => ?_, hids ▸ List.pairwise_lt_range', fun result hresult => ?_⟩
  · have hcounts := h.counts
    rw [hrun, Option.getD_some] at hcounts
    exact ⟨hcounts.matched_eq, hcounts.missed_eq, hcounts.spawned_eq, hcounts.score_eq⟩
  · obtain ⟨hrun, -, -, -, hstart, -⟩ := h.runs.active hactive
    have hlives := h.lives hactive
    have hpos := halive hactive
    refine ⟨hpos, _, hrun, ?_⟩
    rw [hstart]
    omega
  · have hrange := h.runs.journal _ hmem
    rw [hids]
    refine List.count_eq_one_of_mem List.nodup_range' (List.mem_range'_1.mpr ?_)
    simp only at hrange
    cases hactive : s.isActive with
    | false =>
        simp only [Bool.false_eq_true, if_false]
        omega
    | true =>
        have hrun := (h.runs.active hactive).1
        have hne : runId ≠ s.nextRunId - 1 := fun heq => hoff ⟨hactive, heq ▸ hrun⟩
        simp only [if_true]
        omega
  · have hok := h.runs.results result hresult
    exact ⟨hok.times, hok.score, hok.matched, hok.missed, hok.lives⟩

theorem construct_eq_ok {config : GameConfig} {lives : GameEngine}
    (h : construct config = .ok (g, lives)) : ∃ n, 0 < n ∧ lives = newEngine n := by
  unfold construct at h
  simp only [bind, Except.bind] at h
  split at h
  · cases h
  split at h
  · cases h
  split at h
  · cases h
  rename_i startingLives _
  split at h
  · cases h
  split at h
  · cases h
  split at h
  · cases h
  split at h
  · split at h
    · cases h
    · cases h
      exact ⟨_, startingLives.2.1, rfl⟩
  · cases h

/-- Three rows of four columns, and one word. -/
def smallConfig : GameConfig where
  width := 4
  height := 3
  words := [Str.ofString "word"]
  startingLives := none
  pointsPerLevel := none
  winningLevel := none

theorem construct_smallGame : construct smallConfig = .ok (smallGame, newEngine 3) :=
  rfl

end Runs

end FallingWords
